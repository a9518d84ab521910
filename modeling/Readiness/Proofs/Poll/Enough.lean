import Readiness.Proofs.Network.Outcome
import Readiness.Proofs.Poll.Delay

/-! # Enough rounds

An attempt that asks the target nothing uses up peers of the network and time, or it leaves everything
as it was. In as many rounds as `Poll.enough` counts there is then one after which the world only
repeats itself (`Poll.Steady.exists_repeat`), and a poll that has made all of them has no end
(`Poll.Steady.course_unending`). -/

namespace Readiness

/-! ## Worlds -/

namespace World

/-- The worlds differ at most in what has happened so far. -/
structure Repeats (w v : World) : Prop where
  now_eq : v.now = w.now
  target_eq : v.target = w.target
  network_eq : v.network = w.network

/-- Of all replies and peers only peers have been used up. -/
structure Spends (w v : World) : Prop where
  target_eq : v.target = w.target
  network : v.network = w.network ∨ v.network.unread < w.network.unread

variable {u v w : World}

theorem repeats_parallel : Parallel Repeats where
  target h := h.target_eq
  network h := h.network_eq
  say _ h := ⟨h.now_eq, h.target_eq, h.network_eq⟩
  pause _ h := ⟨by rw [h.now_eq], h.target_eq, h.network_eq⟩
  record _ h := ⟨h.now_eq, h.target_eq, h.network_eq⟩
  retarget _ h := ⟨h.now_eq, rfl, h.network_eq⟩
  reconnect _ h := ⟨h.now_eq, h.target_eq, rfl⟩

theorem Spends.of_eq (ht : v.target = w.target) (hn : v.network = w.network) : w.Spends v :=
  ⟨ht, .inl hn⟩

theorem Spends.trans (h : u.Spends v) (h' : v.Spends w) : u.Spends w := by
  refine ⟨h'.target_eq.trans h.target_eq, ?_⟩
  rcases h.network with hn | hn
  · rw [← hn]
    exact h'.network
  · rcases h'.network with hn' | hn'
    · rw [hn']
      exact .inr hn
    · exact .inr (hn'.trans hn)

theorem Spends.unread_le (h : w.Spends v) : v.network.unread ≤ w.network.unread := by
  rcases h.network with hn | hn
  · rw [hn]
  · exact Nat.le_of_lt hn

theorem spends_connect {ε : Type} (host : Url.Host) (port : UInt16) (w : World) :
    w.Spends ((Timed.connect host port : Timed ε Connection).after w) := by
  obtain ⟨u, hc, -, ht, hn, -⟩ := Timed.connect_apply (ε := ε) host port w
  rw [Timed.after_of_ok hc]
  refine ⟨ht, ?_⟩
  rw [hn]
  exact Network.afterTrial_eq_or_lt host w.network port

end World

namespace Poll

open Timed

/-- An attempt that depends on nothing but the clock, the target and the network, and that uses up
nothing but peers and time. -/
structure Steady (attempt : Wait (Attempt Unit)) : Prop where
  agree : Agree World.Repeats attempt attempt
  spends : ∀ w : World, w.Spends (attempt.after w)
  forward : attempt.Forward

namespace Steady

variable {attempt : Wait (Attempt Unit)} (h : Steady attempt) {p : Poll} {w v v' u : World}
  {k N M : Nat}
include h

/-- The clock stays within the timeout, and as rounds are made it moves on or peers are used up, or a
round changes nothing. -/
theorem course_spends (hc : p.course (fun _ => attempt) () w k = some ((), v)) :
    w.now ≤ v.now ∧ v.now ≤ w.now + p.pace.timeout.ceilMillis ∧
      (w.now + k + v.network.unread ≤ v.now + w.network.unread ∨
        ∃ j u u', j < k ∧ p.course (fun _ => attempt) () w j = some ((), u) ∧
          p.course (fun _ => attempt) () w (j + 1) = some ((), u') ∧ u.Repeats u') := by
  induction k generalizing v with
  | zero =>
    cases hc
    exact ⟨Nat.le_refl _, Nat.le_add_right .., .inl (Nat.le_refl _)⟩
  | succ k ih =>
    obtain ⟨_, v₁, detail, u, hc₁, ha, hr⟩ := course_succ.mp hc
    obtain ⟨hlo, hhi, hk⟩ := ih hc₁
    obtain ⟨hl, log, rfl⟩ := p.retry_eq_ok hr
    have hF := (h.forward v₁).now_le
    have hs := h.spends v₁
    rw [after_of_ok ha] at hF hs
    dsimp only
    refine ⟨by omega, by omega, ?_⟩
    rcases hk with hk | ⟨j, u₁, u₂, hj, h₁, h₂, hrep⟩
    · by_cases hnow : v₁.now < u.now + min p.pace.interval.ceilMillis
          (p.pace.timeout.ceilMillis - (u.now - w.now))
      · have := hs.unread_le
        omega
      · rcases hs.network with hn | hn
        · refine .inr ⟨k, v₁, _, Nat.lt_succ_self k, hc₁, hc, ?_, hs.target_eq, hn⟩
          dsimp only
          omega
        · omega
    · exact .inr ⟨j, u₁, u₂, by omega, h₁, h₂, hrep⟩

theorem exists_repeat (hN : p.pace.timeout.ceilMillis + w.network.unread + 1 ≤ N)
    (hc : p.course (fun _ => attempt) () w N = some ((), v)) :
    ∃ j u u', j < N ∧ p.course (fun _ => attempt) () w j = some ((), u) ∧
      p.course (fun _ => attempt) () w (j + 1) = some ((), u') ∧ u.Repeats u' := by
  obtain ⟨-, hhi, hk | hk⟩ := h.course_spends hc
  · omega
  · exact hk

/-- A round that has changed nothing is followed by another. -/
theorem course_repeat (hc : p.course (fun _ => attempt) () w k = some ((), v))
    (hc' : p.course (fun _ => attempt) () w (k + 1) = some ((), v')) (hv : v.Repeats v') :
    ∃ v'', p.course (fun _ => attempt) () w (k + 2) = some ((), v'') ∧ v'.Repeats v'' := by
  obtain ⟨_, v₁, detail, u, hc₁, ha, hr⟩ := course_succ.mp hc'
  rw [hc] at hc₁
  cases hc₁
  obtain ⟨hl, log, rfl⟩ := p.retry_eq_ok hr
  obtain ⟨u', ha', hu⟩ := h.agree.of_ok hv ha
  have hlt : ¬ p.pace.timeout ≤ .ofMillis (u'.now - w.now) := by
    rw [Duration.le_ofMillis_iff, hu.now_eq]
    omega
  obtain ⟨log', hr'⟩ := p.retry_early (k + 1 + 1) detail hlt
  refine ⟨_, course_succ.mpr ⟨(), _, detail, u', hc', ha', hr'⟩, ?_, hu.target_eq, hu.network_eq⟩
  dsimp only
  rw [pauseAfter_ceilMillis, hu.now_eq]

theorem course_unending (hN : p.pace.timeout.ceilMillis + w.network.unread + 1 ≤ N)
    (hc : p.course (fun _ => attempt) () w N = some ((), v)) (k : Nat) :
    ∃ u, p.course (fun _ => attempt) () w k = some ((), u) := by
  obtain ⟨j, u, u', -, hu, hu', hrep⟩ := h.exists_repeat hN hc
  have hj : ∀ i, ∃ v v', p.course (fun _ => attempt) () w (j + i) = some ((), v) ∧
      p.course (fun _ => attempt) () w (j + i + 1) = some ((), v') ∧ v.Repeats v' := by
    intro i
    induction i with
    | zero => exact ⟨u, u', hu, hu', hrep⟩
    | succ i ih =>
      obtain ⟨v, v', hv, hv', hrep⟩ := ih
      obtain ⟨v'', hv'', hrep'⟩ := h.course_repeat hv hv' hrep
      exact ⟨v', v'', hv', hv'', hrep'⟩
  by_contra hk
  have hn : p.course (fun _ => attempt) () w k = none := by
    cases hck : p.course (fun _ => attempt) () w k with
    | none => rfl
    | some state => exact absurd ⟨state.2, hck⟩ hk
  obtain ⟨v, -, hv, -, -⟩ := hj k
  rw [course_le hn (Nat.le_add_left k j)] at hv
  cases hv

/-- If all of so many rounds are made, then all of any more rounds are. -/
theorem rounds_endless (hN : p.pace.timeout.ceilMillis + w.network.unread + 1 ≤ N)
    (hc : p.course (fun _ => attempt) () w N = some ((), v)) (hM : N ≤ M) :
    ∃ u, v.Later u ∧ p.rounds w.now (fun _ => attempt) M 0 () w = .error .endless u := by
  obtain ⟨u, hu⟩ := h.course_unending hN hc M
  refine ⟨u, ?_, rounds_of_course hu⟩
  obtain ⟨i, rfl⟩ := Nat.exists_eq_add_of_le hM
  have hr := rounds_of_course hu
  rw [rounds_eq hc] at hr
  have hF := Timed.forward.rounds p (fun _ : Unit => h.forward) w.now i N () v
  rwa [after_of_error hr] at hF

end Steady

end Poll

end Readiness
