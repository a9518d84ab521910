import Readiness.Proofs.Action.Ends
import Readiness.Proofs.Poll.Delay
import Readiness.Proofs.Poll.Enough

/-! # The same, later, with other exposed ports

Asking for the exposed ports takes time and uses up a reply. Nothing else depends on how many of these
replies are left, so that an action that does not ask for them does the same afterwards, by the same
time later (`Timed.ahead`). The replies that are left count for the number of rounds that a poll
makes, but not for whether it has an end (`Poll.run_ahead`). -/

namespace Readiness

open Timed

/-- The same call, `δ` milliseconds later. -/
def Entry.later (δ : Nat) (e : Entry) : Entry := { e with time := e.time + δ }

namespace World

/-- Whatever happened in the first world since its journal was `past` has happened in the second
since its journal was `past'`, `δ` milliseconds later. The targets may differ in what they say of
their exposed ports; the second one has no more replies to that question than the first. -/
structure Ahead (δ : Nat) (past past' : List Entry) (w v : World) : Prop where
  now_eq : v.now = w.now + δ
  target_eq : v.target = { w.target with exposed := v.target.exposed }
  unread_le : v.target.exposed.unread ≤ w.target.exposed.unread
  network_eq : v.network = w.network
  journal : ∃ calls, w.journal.toList = past ++ calls ∧
    v.journal.toList = past' ++ calls.map (Entry.later δ)

variable {δ : Nat} {past past' : List Entry} {w v : World}

theorem Ahead.record (h : Ahead δ past past' w v) (call : Call) :
    Ahead δ past past' { w with journal := w.journal.push ⟨w.now, call⟩ }
      { v with journal := v.journal.push ⟨v.now, call⟩ } where
  now_eq := h.now_eq
  target_eq := h.target_eq
  unread_le := h.unread_le
  network_eq := h.network_eq
  journal := by
    obtain ⟨calls, hw, hv⟩ := h.journal
    refine ⟨calls ++ [⟨w.now, call⟩], ?_, ?_⟩
    · simp [hw]
    · simp [hv, h.now_eq, Entry.later]

theorem Ahead.le_unread (h : Ahead δ past past' w v) : v.unread ≤ w.unread := by
  have hv : v.target.unread ≤ w.target.unread := by
    have hu := h.unread_le
    rw [h.target_eq]
    unfold Target.unread
    dsimp only
    omega
  rw [World.unread, World.unread, h.network_eq]
  omega

theorem ahead_ticking : Ticking δ (Ahead δ past past') where
  now h := h.now_eq
  say _ h := ⟨h.now_eq, h.target_eq, h.unread_le, h.network_eq, h.journal⟩
  pause n h := by
    refine ⟨?_, h.target_eq, h.unread_le, h.network_eq, h.journal⟩
    rw [h.now_eq, Nat.add_right_comm]

end World

namespace Timed

variable {δ : Nat} {past past' : List Entry} {α : Type}

/-- A question that has nothing to do with exposed ports. -/
theorem ahead_ask {call : Call} {next : Target → Reply α × Target}
    (hn : ∀ t exposed, next { t with exposed } = ((next t).1, { (next t).2 with exposed })) :
    Agree (World.Ahead δ past past') (Query.ask call next) (Query.ask call next) := by
  intro w v h
  have hr := h.record call
  have hv : next v.target =
      ((next w.target).1, { (next w.target).2 with exposed := v.target.exposed }) :=
    (congrArg next h.target_eq).trans (hn _ _)
  unfold Query.ask
  rw [hv]
  dsimp only
  have hnow : v.now + (next w.target).1.delay.ceilMillis =
      w.now + (next w.target).1.delay.ceilMillis + δ := by
    rw [h.now_eq, Nat.add_right_comm]
  have hle : v.target.exposed.unread ≤ (next w.target).2.exposed.unread := by
    have hw : next w.target = _ := hn w.target w.target.exposed
    rw [hw]
    exact h.unread_le
  cases (next w.target).1.answer <;> exact ⟨rfl, hnow, rfl, hle, h.network_eq, hr.journal⟩

/-- The question itself leaves a world ahead. -/
theorem ahead_exposedPorts {ports : Ascending} {w w₁ : World}
    (hq : Query.exposedPorts w = .ok ports w₁) :
    World.Ahead (w₁.now - w.now) w.journal.toList (w.journal.toList ++ [⟨w.now, .exposedPorts⟩])
      w w₁ := by
  have ha : Query.exposedPorts.after w = w₁ := after_of_ok hq
  unfold Query.exposedPorts at ha
  rw [after_ask] at ha
  subst ha
  refine ⟨?_, rfl, ?_, rfl, [], ?_, ?_⟩
  · dsimp only
    omega
  · have hu := w.target.exposed.unread_nextOr (.ok w.target.containerPorts)
    change (w.target.exposed.nextOr _).2.unread ≤ _
    omega
  · rw [List.append_nil]
  · rw [Array.toList_push, List.map_nil, List.append_nil]

/-- What does not ask for exposed ports has the same end, later. -/
theorem ahead (δ : Nat) (past past' : List Entry) :
    PartialLaw fun x => Agree (World.Ahead δ past past') x x where
  pure := agree_pure
  throw := agree_throw
  bind := Agree.bind
  outcome := Agree.outcome
  mapError f hx := hx.mapError f
  pause := agree_pause World.ahead_ticking
  record call _ _ h := ⟨rfl, h.record call⟩
  note := agree_note World.ahead_ticking
  ask _ _ := ahead_ask
  attempted port _ _ h := by
    refine ⟨rfl, h.now_eq, h.target_eq, h.unread_le, ?_, h.journal⟩
    exact congrArg (·.afterAttempt port) h.network_eq
  reading {_ _ f} hf hr := by
    refine agree_get fun w v h => ?_
    have hv : v = { w with
        now := v.now
        target := { w.target with exposed := v.target.exposed }
        journal := v.journal
        log := v.log } := by
      cases v
      rw [← h.target_eq, ← h.network_eq]
    have hfv : f v = f w := by
      rw [hv]
      exact hr w v.now v.target.exposed v.journal v.log
    rw [hfv]
    exact hf w w v h

/-- The same end, later. Of two waits without an end the second one may make fewer rounds. -/
def AheadEnd (δ : Nat) (past past' : List Entry) (r r' : EStateM.Result Halt World Unit) : Prop :=
  SameEnd (World.Ahead δ past past') r r' ∨
    ∃ u₀ u v, r = .error .endless u₀ ∧ r' = .error .endless v ∧ World.Ahead δ past past' u v ∧
      u.Later u₀

/-- Up to an end that is the same the same has been called, later. -/
theorem AheadEnd.ends {x y : Wait Unit} {w v : World} (h : AheadEnd δ past past' (x w) (y v)) :
    y.result v = x.result w ∧
      (∃ calls calls', (x.after w).journal.toList = past ++ calls ∧
        (y.after v).journal.toList = past' ++ calls' ∧ calls' <+: calls.map (Entry.later δ) ∧
        (x.Returns w → calls' = calls.map (Entry.later δ))) ∧
      (x.Returns w → (y.after v).now = (x.after w).now + δ) := by
  rcases h with h | ⟨u₀, u, v', hx, hy, h, hl⟩
  · obtain ⟨calls, hw, hv⟩ := h.after.journal
    exact ⟨h.result_eq.symm, ⟨calls, _, hw, hv, List.prefix_rfl, fun _ => rfl⟩,
      fun _ => h.after.now_eq⟩
  · have hne : ¬ x.Returns w := by
      intro hr
      obtain ⟨cause, hcause⟩ := hr.of_error hx
      cases hcause
    refine ⟨by rw [result, result, hx, hy], ?_, fun hr => absurd hr hne⟩
    obtain ⟨calls, hu, hv⟩ := h.journal
    obtain ⟨more, hm⟩ := hl.journal
    rw [after_of_error hx, after_of_error hy]
    refine ⟨calls ++ more, calls.map (Entry.later δ), ?_, hv, ?_, fun hr => absurd hr hne⟩
    · rw [← hm, hu, List.append_assoc]
    · rw [List.map_append]
      exact List.prefix_append ..

/-- What has the same end, and is followed by what has. -/
theorem Agree.aheadEnd {x : Wait α} {f : α → Wait Unit} {w v : World}
    (hx : Agree (World.Ahead δ past past') x x)
    (hf : ∀ a w₀ v₀, World.Ahead δ past past' w₀ v₀ → AheadEnd δ past past' (f a w₀) (f a v₀))
    (h : World.Ahead δ past past' w v) : AheadEnd δ past past' ((x >>= f) w) ((x >>= f) v) := by
  have hs := hx w v h
  rw [bind_apply, bind_apply]
  cases hw : x w with
  | error e w₀ =>
    cases hv : x v with
    | error e' v₀ =>
      rw [hw, hv] at hs
      exact .inl hs
    | ok a v₀ =>
      rw [hw, hv] at hs
      exact hs.elim
  | ok a w₀ =>
    cases hv : x v with
    | error e' v₀ =>
      rw [hw, hv] at hs
      exact hs.elim
    | ok a' v₀ =>
      rw [hw, hv] at hs
      obtain ⟨rfl, h₀⟩ := hs
      exact hf a w₀ v₀ h₀

end Timed

namespace Poll

variable {δ : Nat} {past past' : List Entry} {attempt : Wait (Attempt Unit)} {w v u : World}
  {N M : Nat}

/-- More rounds change nothing unless all of them are made: then none of them has an end. -/
theorem Steady.rounds_more (h : Steady attempt) (p : Poll)
    (hN : p.pace.timeout.ceilMillis + w.network.unread + 1 ≤ N) (hM : N ≤ M) :
    p.rounds w.now (fun _ => attempt) M 0 () w = p.rounds w.now (fun _ => attempt) N 0 () w ∨
      ∃ u u₀, p.rounds w.now (fun _ => attempt) N 0 () w = .error .endless u ∧
        p.rounds w.now (fun _ => attempt) M 0 () w = .error .endless u₀ ∧ u.Later u₀ := by
  obtain ⟨i, rfl⟩ := Nat.exists_eq_add_of_le hM
  have h₀ : p.course (fun _ => attempt) () w 0 = some ((), w) := rfl
  rcases rounds_ends (n := N) h₀ with ⟨j, m, v, hj, hc, hs⟩ | ⟨m, v, hc, hr⟩
  · left
    cases ha : attempt v with
    | error e u =>
      -- the attempt that fails is made by both, though it may fail without an end
      obtain ⟨n, rfl⟩ := Nat.exists_eq_add_of_lt (Nat.zero_add N ▸ hj)
      have hall : ∀ n, p.rounds w.now (fun _ => attempt) (j + (n + 1)) 0 () w = .error e u := by
        intro n
        rw [rounds_eq hc, rounds, bind_of_error ha]
      rw [Nat.add_assoc j n 1, hall, Nat.add_assoc j (n + 1) i, Nat.add_right_comm n 1 i, hall]
    | ok r u =>
      refine rounds_add (fun u' hu => ?_) i
      rw [hu] at hs
      cases hs with
      | failed he =>
        rw [ha] at he
        cases he
  · rw [Nat.zero_add] at hc
    obtain ⟨u₀, hl, hu₀⟩ := h.rounds_endless hN hc hM
    exact .inr ⟨v, u₀, hr, hu₀, hl⟩

/-- A poll has the same end, later, if its attempts have. -/
theorem run_ahead (hs : Steady attempt) (ha : Agree (World.Ahead δ past past') attempt attempt)
    (p : Poll) (h : World.Ahead δ past past' w v) :
    AheadEnd δ past past' (p.run (fun _ => attempt) () w) (p.run (fun _ => attempt) () v) := by
  have hfew : p.enough v ≤ p.enough w := by
    have hu := h.le_unread
    unfold Poll.enough
    omega
  have hN : p.pace.timeout.ceilMillis + w.network.unread + 1 ≤ p.enough v := by
    unfold Poll.enough World.unread
    rw [h.network_eq]
    omega
  have hr := rounds_ticking World.ahead_ticking (fun _ : Unit => ha) p w.now (p.enough v) 0 () w v h
  rw [← h.now_eq] at hr
  change SameEnd _ _ (p.run (fun _ => attempt) () v) at hr
  rcases hs.rounds_more p hN hfew with he | ⟨u, u₀, hu, hu₀, hl⟩
  · rw [← he] at hr
    exact .inl hr
  · rw [hu] at hr
    cases hv : p.run (fun _ => attempt) () v with
    | ok _ v' =>
      rw [hv] at hr
      exact hr.elim
    | error e v' =>
      rw [hv] at hr
      obtain ⟨rfl, hav⟩ := hr
      exact .inr ⟨u₀, u, v', hu₀, rfl, hav, hl⟩

end Poll

end Readiness
