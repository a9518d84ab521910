import Mathlib.Data.List.Forall2
import Readiness.Proofs.Poll.Course

/-! # The same, later

`World.Shifted δ R`: the clocks of worlds that are related by `R` are `δ` milliseconds apart, and the
same can happen in both. A poll then has the same end in both worlds (`Poll.run_shifted`).

`World.Delayed δ w v`: what has happened in `w` has happened in `v` too, nothing of it earlier, and
the clock of `v` is `δ` milliseconds ahead. A poll with a longer timeout succeeds wherever one with a
shorter timeout does (`Poll.run_follows`). -/

namespace Readiness

/-- The same call, but not earlier. -/
def Entry.Delayed (e e' : Entry) : Prop := e'.call = e.call ∧ e.time ≤ e'.time

namespace World

/-- The clock of the second world is `δ` milliseconds ahead of that of the first, and the same can
happen in both. -/
structure Shifted (δ : Nat) (R : World → World → Prop) : Prop extends Parallel R where
  now : ∀ {w v : World}, R w v → v.now = w.now + δ

/-- The clock of the second world is `δ` milliseconds ahead of that of the first, and stays so while
the same is said and both pause. -/
structure Ticking (δ : Nat) (R : World → World → Prop) : Prop where
  now : ∀ {w v : World}, R w v → v.now = w.now + δ
  say : ∀ {w v : World} (line : Level × String), R w v →
    R { w with log := w.log.push line } { v with log := v.log.push line }
  pause : ∀ {w v : World} (n : Nat), R w v →
    R { w with now := w.now + n } { v with now := v.now + n }

theorem Shifted.ticking {δ : Nat} {R : World → World → Prop} (hR : Shifted δ R) : Ticking δ R where
  now := hR.now
  say := hR.say
  pause := hR.pause

theorem Shifted.unread {δ : Nat} {R : World → World → Prop} {w v : World} (hR : Shifted δ R)
    (h : R w v) : v.unread = w.unread := by
  simp only [World.unread, hR.target h, hR.network h]

/-- The same has happened in both worlds, but later in the second. -/
structure Delayed (δ : Nat) (w v : World) : Prop where
  now_eq : v.now = w.now + δ
  target_eq : v.target = w.target
  network_eq : v.network = w.network
  journal : List.Forall₂ Entry.Delayed w.journal.toList v.journal.toList

variable {δ m n : Nat} {w v : World}

theorem Delayed.of_alike (h : w.Alike v) : w.Delayed 0 v := by
  rw [show v = _ from h]
  refine ⟨rfl, rfl, rfl, List.forall₂_same.mpr ?_⟩
  exact fun e _ => ⟨rfl, Nat.le_refl _⟩

/-- After a longer pause the second world is further ahead. -/
theorem Delayed.pause (h : w.Delayed δ v) (hmn : m ≤ n) (log log' : Array (Level × String)) :
    Delayed (δ + (n - m)) { w with now := w.now + m, log } { v with now := v.now + n, log := log' }
    where
  now_eq := by
    have := h.now_eq
    dsimp only
    omega
  target_eq := h.target_eq
  network_eq := h.network_eq
  journal := h.journal

theorem delayed_lockstep (δ : Nat) : Lockstep (Delayed δ) where
  target h := h.target_eq
  network h := h.network_eq
  log _ _ h := ⟨h.now_eq, h.target_eq, h.network_eq, h.journal⟩
  pause n h := by
    have hp := h.pause (Nat.le_refl n)
    rw [Nat.sub_self] at hp
    exact hp _ _
  record {w v} call h := by
    refine ⟨h.now_eq, h.target_eq, h.network_eq, ?_⟩
    have hnew : Entry.Delayed ⟨w.now, call⟩ ⟨v.now, call⟩ := ⟨rfl, by
      have := h.now_eq
      dsimp only
      omega⟩
    rw [Array.toList_push, Array.toList_push]
    exact List.rel_append h.journal (.cons hnew .nil)
  retarget _ h := ⟨h.now_eq, rfl, h.network_eq, h.journal⟩
  reconnect _ h := ⟨h.now_eq, h.target_eq, rfl, h.journal⟩

theorem delayed_shifted (δ : Nat) : Shifted δ (Delayed δ) where
  toParallel := (delayed_lockstep δ).parallel
  now h := h.now_eq

end World

namespace Timed

variable {ε α β : Type} {x y : Timed ε α} {f g : α → Timed ε β}

theorem delayed (δ : Nat) : Law fun x => Agree (World.Delayed δ) x x :=
  lockstep (World.delayed_lockstep δ)

section

variable {δ : Nat} {R : World → World → Prop} (hR : World.Ticking δ R)
include hR

theorem agree_note (level : Level) (text : String) :
    Agree R (note level text : Timed ε Unit) (note level text) :=
  fun _ _ h => ⟨rfl, hR.say (level, text) h⟩

theorem agree_pause (d : Duration) : Agree R (pause d : Timed ε Unit) (pause d) :=
  fun _ _ h => ⟨rfl, hR.pause d.ceilMillis h⟩

end

/-- `y` succeeds wherever `x` does, with the same result, and is at most later. -/
def Follows (x y : Timed ε α) : Prop := ∀ δ (w v : World) a w', w.Delayed δ v → x w = .ok a w' →
  ∃ δ' v', y v = .ok a v' ∧ w'.Delayed δ' v'

theorem Agree.follows (h : ∀ δ, Agree (World.Delayed δ) x y) : x.Follows y := by
  intro δ w v a w' hd hx
  obtain ⟨v', hv, hd'⟩ := (h δ).of_ok hd hx
  exact ⟨δ, v', hv, hd'⟩

theorem Follows.bind (hx : x.Follows y) (hf : ∀ a, (f a).Follows (g a)) :
    (x >>= f).Follows (y >>= g) := by
  intro δ w v b w' hd h
  obtain ⟨a, w₁, hw, h⟩ := bind_eq_ok.mp h
  obtain ⟨δ₁, v₁, hv, hd₁⟩ := hx δ w v a w₁ hd hw
  obtain ⟨δ', v', hv', hd'⟩ := hf a δ₁ w₁ v₁ b w' hd₁ h
  exact ⟨δ', v', bind_eq_ok.mpr ⟨a, v₁, hv, hv'⟩, hd'⟩

theorem follows_pure (a : α) : (pure a : Timed ε α).Follows (pure a) :=
  Agree.follows fun _ => agree_pure a

theorem follows_say (level : Level) (text text' : String) :
    (Wait.say level text).Follows (Wait.say level text') :=
  Agree.follows fun δ => agree_say (World.delayed_lockstep δ) level text text'

/-- What is done may depend on the time at which it begins. -/
theorem follows_now {f g : Nat → Timed ε α} (h : ∀ t t', (f t).Follows (g t')) :
    (now >>= f).Follows (now >>= g) := by
  intro δ w v a w' hd hw
  rw [bind_of_ok (x := now) (w := w) rfl] at hw
  rw [bind_of_ok (x := now) (w := v) rfl]
  exact h w.now v.now δ w v a w' hd hw

end Timed

namespace Poll

open Timed

variable {σ : Type} {p p' : Poll} {attempt attempt' : σ → Wait (Attempt σ)}
  {δ δ₀ started n n' : Nat} {w v u : World}

/-! ## The same poll -/

section

variable {R : World → World → Prop}

section

variable (hR : World.Ticking δ R)
include hR

theorem retry_ticking (p : Poll) (started misses : Nat) (detail : String) :
    Agree R (p.retry started misses detail) (p.retry (started + δ) misses detail) := by
  intro w v h
  unfold retry
  rw [bind_of_ok (x := now) (w := w) rfl, bind_of_ok (x := now) (w := v) rfl, hR.now h,
    Nat.add_sub_add_right]
  dsimp only
  split
  · exact (agree_note hR _ _).bind (fun _ => agree_throw _) w v h
  · exact (agree_note hR _ _).bind (fun _ => (agree_note hR _ _).bind fun _ => agree_pause hR _) w v h

/-- Attempts that have the same end in related worlds make as many rounds that have. -/
theorem rounds_ticking (ha : ∀ m, Agree R (attempt m) (attempt' m)) (p : Poll)
    (started n misses : Nat) (memory : σ) :
    Agree R (p.rounds started attempt n misses memory)
      (p.rounds (started + δ) attempt' n misses memory) := by
  induction n generalizing misses memory with
  | zero => exact agree_throw _
  | succ n ih =>
    refine (ha memory).bind fun r => ?_
    cases r with
    | ready => exact agree_pure _
    | missed memory detail => exact (retry_ticking hR p started _ detail).bind fun _ => ih _ _

end

/-- Attempts that have the same end in related worlds make polls that have. -/
theorem run_shifted (hR : World.Shifted δ R) (ha : ∀ m, Agree R (attempt m) (attempt' m))
    (p : Poll) (memory : σ) : Agree R (p.run attempt memory) (p.run attempt' memory) := by
  refine agree_get fun w v h => ?_
  have hn : p.enough v = p.enough w := by rw [enough, enough, hR.unread h]
  rw [hR.now h, hn]
  exact rounds_ticking hR.ticking ha p w.now _ 0 memory w v h

end

/-! ## A longer timeout -/

section

variable (hi : p'.pace.interval = p.pace.interval) (ht : p.pace.timeout ≤ p'.pace.timeout)
  (ha : ∀ δ m, Agree (World.Delayed δ) (attempt m) (attempt m)) (hF : ∀ m, (attempt m).Forward)
include hi ht ha hF

/-- The pauses are the same until the shorter timeout cuts one off; the attempt after this pause is
the last one that can succeed. -/
theorem rounds_follows {k : Nat} {memory : σ}
    (h : p.rounds started attempt n k memory w = .ok () u) (hd : w.Delayed δ v)
    (hs : started ≤ w.now) (hn : n ≤ n')
    (hδ : δ = δ₀ ∨ p.pace.timeout.ceilMillis ≤ w.now - started) :
    ∃ δ' u', p'.rounds (started + δ₀) attempt n' k memory v = .ok () u' ∧ u.Delayed δ' u' := by
  induction n generalizing n' k memory w v δ with
  | zero => cases h
  | succ n ih =>
    obtain ⟨n', rfl⟩ : ∃ m, n' = m + 1 := ⟨n' - 1, by omega⟩
    obtain ⟨r, w₁, hw, h⟩ := bind_eq_ok.mp h
    obtain ⟨v₁, hv, hd₁⟩ := (ha δ memory).of_ok hd hw
    rw [rounds, bind_of_ok hv]
    cases r with
    | ready =>
      cases h
      exact ⟨δ, v₁, rfl, hd₁⟩
    | missed memory₁ detail =>
      obtain ⟨_, w₂, hr, h⟩ := bind_eq_ok.mp h
      obtain ⟨hl, log, rfl⟩ := p.retry_eq_ok hr
      have hw₁ : w.now ≤ w₁.now := by
        have hF := (hF memory w).now_le
        rwa [after_of_ok hw] at hF
      have hT : p.pace.timeout.ceilMillis ≤ p'.pace.timeout.ceilMillis :=
        Duration.ceilMillis_le ht
      rcases hδ with rfl | hlate
      · have he : v₁.now - (started + δ) = w₁.now - started := by
          rw [hd₁.now_eq, Nat.add_sub_add_right]
        have hl' : ¬ p'.pace.timeout ≤ .ofMillis (v₁.now - (started + δ)) := by
          rw [he, Duration.le_ofMillis_iff]
          omega
        obtain ⟨log', hr'⟩ := p'.retry_early (k + 1) detail hl'
        rw [pauseAfter_ceilMillis, he, hi] at hr'
        dsimp only
        rw [bind_of_ok hr']
        let m := min p.pace.interval.ceilMillis
          (p.pace.timeout.ceilMillis - (w₁.now - started))
        let m' := min p.pace.interval.ceilMillis
          (p'.pace.timeout.ceilMillis - (w₁.now - started))
        have hm : m ≤ m' := by omega
        refine ih h (hd₁.pause hm log log') ?_ (by omega) ?_
        · dsimp only
          omega
        · dsimp only
          omega
      · omega

theorem run_follows (memory : σ) : (p.run attempt memory).Follows (p'.run attempt memory) := by
  intro δ w v a u hd h
  rw [run, bind_of_ok (x := get) (w := w) rfl] at h
  rw [run, bind_of_ok (x := get) (w := v) rfl, hd.now_eq]
  have hn : p.enough w ≤ p'.enough v := by
    have hT := Duration.ceilMillis_le ht
    rw [enough, enough, (World.delayed_shifted δ).unread hd]
    omega
  exact rounds_follows hi ht ha hF h hd (Nat.le_refl _) hn (.inl rfl)

end

end Poll

end Readiness
