import Readiness.Proofs.Action.Law

/-! # Traces

Laws of actions. `Timed.forward`: the clock never goes back, and calls that have been entered stay
entered. `Timed.logBlind`: the log is written and never read, so that an action does the same in two
worlds that differ in nothing but their logs (`World.Alike`). This is a case of a law for any two
worlds in which the same can happen (`World.Parallel`, `Timed.parallel`). -/

namespace Readiness

/-! ## Worlds -/

namespace World

/-- `v` may be what has become of `w`. -/
structure Later (w v : World) : Prop where
  now_le : w.now ≤ v.now
  journal : w.journal.toList <+: v.journal.toList

/-- The worlds differ at most in their logs. -/
def Alike (w v : World) : Prop := v = { w with log := v.log }

variable {u v w : World}

theorem Later.refl (w : World) : w.Later w := ⟨Nat.le_refl _, List.prefix_rfl⟩

theorem Later.trans (h1 : u.Later v) (h2 : v.Later w) : u.Later w :=
  ⟨Nat.le_trans h1.now_le h2.now_le, h1.journal.trans h2.journal⟩

theorem alike_log (w : World) (log : Array (Level × String)) : w.Alike { w with log } := rfl

theorem Alike.refl (w : World) : w.Alike w := rfl

theorem Alike.symm (h : w.Alike v) : v.Alike w := by
  rw [show v = _ from h]
  exact alike_log _ _

theorem Alike.trans (h1 : u.Alike v) (h2 : v.Alike w) : u.Alike w := by
  rw [show w = _ from h2, show v = _ from h1]
  exact alike_log _ _

theorem Alike.now_eq (h : w.Alike v) : w.now = v.now := by
  rw [show v = _ from h]

theorem Alike.target_eq (h : w.Alike v) : w.target = v.target := by
  rw [show v = _ from h]

theorem Alike.journal_eq (h : w.Alike v) : w.journal = v.journal := by
  rw [show v = _ from h]

/-- Related worlds have the same target and the same network, and stay related while the same happens
and is said in both. -/
structure Parallel (R : World → World → Prop) : Prop where
  target : ∀ {w v : World}, R w v → v.target = w.target
  network : ∀ {w v : World}, R w v → v.network = w.network
  say : ∀ {w v : World} (line : Level × String), R w v →
    R { w with log := w.log.push line } { v with log := v.log.push line }
  pause : ∀ {w v : World} (n : Nat), R w v →
    R { w with now := w.now + n } { v with now := v.now + n }
  record : ∀ {w v : World} (call : Call), R w v →
    R { w with journal := w.journal.push ⟨w.now, call⟩ }
      { v with journal := v.journal.push ⟨v.now, call⟩ }
  retarget : ∀ {w v : World} (target : Target), R w v → R { w with target } { v with target }
  reconnect : ∀ {w v : World} (network : Network), R w v → R { w with network } { v with network }

/-- Related worlds have the same target and the same network, and stay related while the same happens
in both. The lines of their logs may differ. -/
structure Lockstep (R : World → World → Prop) : Prop where
  target : ∀ {w v : World}, R w v → v.target = w.target
  network : ∀ {w v : World}, R w v → v.network = w.network
  log : ∀ {w v : World} (log log' : Array (Level × String)), R w v →
    R { w with log } { v with log := log' }
  pause : ∀ {w v : World} (n : Nat), R w v →
    R { w with now := w.now + n } { v with now := v.now + n }
  record : ∀ {w v : World} (call : Call), R w v →
    R { w with journal := w.journal.push ⟨w.now, call⟩ }
      { v with journal := v.journal.push ⟨v.now, call⟩ }
  retarget : ∀ {w v : World} (target : Target), R w v → R { w with target } { v with target }
  reconnect : ∀ {w v : World} (network : Network), R w v → R { w with network } { v with network }

theorem Lockstep.parallel {R : World → World → Prop} (h : Lockstep R) : Parallel R where
  target := h.target
  network := h.network
  say _ hr := h.log _ _ hr
  pause := h.pause
  record := h.record
  retarget := h.retarget
  reconnect := h.reconnect

theorem alike_lockstep : Lockstep Alike where
  target h := h.target_eq.symm
  network h := by rw [show _ = _ from h]
  log _ _ h := by rw [show _ = _ from h]; rfl
  pause _ h := by rw [show _ = _ from h]; rfl
  record _ h := by rw [show _ = _ from h]; rfl
  retarget _ h := by rw [show _ = _ from h]; rfl
  reconnect _ h := by rw [show _ = _ from h]; rfl

end World

namespace Timed

variable {ε α : Type} {x : Timed ε α} {w v : World}

/-! ## The clock and the journal -/

/-- The clock never goes back, and the journal only grows. -/
def Forward (x : Timed ε α) : Prop := ∀ w : World, w.Later (x.after w)

theorem after_outcome {δ : Type} (x : Timed ε α) (w : World) :
    (x.outcome : Timed δ _).after w = x.after w := by
  unfold after outcome
  cases x w <;> rfl

theorem after_mapError {δ : Type} (f : ε → δ) (x : Timed ε α) (w : World) :
    (x.mapError f).after w = x.after w := by
  unfold after mapError
  cases x w <;> rfl

theorem after_pause (d : Duration) (w : World) :
    (pause d : Timed ε Unit).after w = { w with now := w.now + d.ceilMillis } := rfl

/-- A question takes the time that its answer is late. -/
theorem after_ask (call : Call) (next : Target → Reply α × Target) (w : World) :
    (Query.ask call next).after w = { w with
      now := w.now + (next w.target).1.delay.ceilMillis
      target := (next w.target).2
      journal := w.journal.push ⟨w.now, call⟩ } := by
  unfold after Query.ask
  dsimp only
  cases (next w.target).1.answer <;> rfl

/-- The result of a question as a value is the answer. -/
theorem outcome_ask {δ : Type} (call : Call) (next : Target → Reply α × Target) (w : World) :
    ((Query.ask call next).outcome : Timed δ _) w =
      .ok (next w.target).1.answer ((Query.ask call next).after w) := by
  unfold after outcome Query.ask
  dsimp only
  cases (next w.target).1.answer <;> rfl

theorem later_push (w : World) (e : Entry) : w.Later { w with journal := w.journal.push e } :=
  ⟨Nat.le_refl _, by simp⟩

theorem forward_get {f : World → Timed ε α} (hf : ∀ w, (f w).Forward) :
    (get >>= f : Timed ε α).Forward := by
  intro w
  rw [after_bind_of_ok (x := get) (w := w) rfl]
  exact hf w w

theorem forward_ask (call : Call) (next : Target → Reply α × Target) :
    (Query.ask call next).Forward := by
  intro w
  rw [after_ask]
  exact ⟨Nat.le_add_right .., (later_push w ⟨w.now, call⟩).journal⟩

theorem forward : Law.Clocked Forward where
  pure _ w := .refl w
  throw _ w := .refl w
  bind hx hf := after_bind World.Later.trans hx hf
  outcome {_ _ _ x} hx w := by rw [after_outcome]; exact hx w
  mapError {_ _ _ x} f hx w := by rw [after_mapError]; exact hx w
  pause d w := by rw [after_pause]; exact ⟨Nat.le_add_right .., List.prefix_rfl⟩
  record _ w := later_push w _
  note _ _ _ := ⟨Nat.le_refl _, List.prefix_rfl⟩
  ask call next _ := forward_ask call next
  exposedPorts := forward_ask _ _
  attempted _ _ := ⟨Nat.le_refl _, List.prefix_rfl⟩
  reading hf _ := forward_get hf
  clock hf _ := forward_get hf

/-- The calls of an action are what it adds to the journal. -/
theorem Forward.journal_eq (h : x.Forward) (w : World) :
    (x.after w).journal.toList = w.journal.toList ++ x.calls w := by
  obtain ⟨calls, hc⟩ := (h w).journal
  rw [Timed.calls, ← hc, List.drop_left]

theorem calls_of_journal {calls : List Entry}
    (h : (x.after w).journal.toList = w.journal.toList ++ calls) : x.calls w = calls := by
  rw [Timed.calls, h, List.drop_left]

theorem Forward.now_eq (h : x.Forward) (w : World) : (x.after w).now = w.now + x.took w :=
  (Nat.add_sub_cancel' (h w).now_le).symm

/-! ## Two worlds -/

section

variable {δ β : Type} {R : World → World → Prop} {y : Timed ε α}

/-- The same end, in worlds that are related. -/
def SameEnd (R : World → World → Prop) :
    EStateM.Result ε World α → EStateM.Result ε World α → Prop
  | .ok a w, .ok b v => a = b ∧ R w v
  | .error e w, .error f v => e = f ∧ R w v
  | _, _ => False

/-- The two actions have the same end in worlds that are related. -/
def Agree (R : World → World → Prop) (x y : Timed ε α) : Prop :=
  ∀ w v, R w v → SameEnd R (x w) (y v)

theorem SameEnd.result_eq (h : SameEnd R (x w) (y v)) : x.result w = y.result v := by
  unfold result
  cases hw : x w <;> cases hv : y v <;> rw [hw, hv] at h
  · exact congrArg _ h.1
  · exact h.elim
  · exact h.elim
  · exact congrArg _ h.1

theorem SameEnd.after (h : SameEnd R (x w) (y v)) : R (x.after w) (y.after v) := by
  unfold Timed.after
  cases hw : x w <;> cases hv : y v <;> rw [hw, hv] at h
  · exact h.2
  · exact h.elim
  · exact h.elim
  · exact h.2

theorem agree_pure (a : α) : Agree R (pure a : Timed ε α) (pure a) := fun _ _ h => ⟨rfl, h⟩

theorem agree_throw (e : ε) : Agree R (throw e : Timed ε α) (throw e) := fun _ _ h => ⟨rfl, h⟩

theorem agree_get {f g : World → Timed ε α} (h : ∀ w v, R w v → SameEnd R (f w w) (g v v)) :
    Agree R (get >>= f) (get >>= g) := by
  intro w v hr
  rw [bind_of_ok (x := get) (w := w) rfl, bind_of_ok (x := get) (w := v) rfl]
  exact h w v hr

theorem Agree.bind {f g : α → Timed ε β} (hx : Agree R x y) (hf : ∀ a, Agree R (f a) (g a)) :
    Agree R (x >>= f) (y >>= g) := by
  intro w v h
  have hr := hx w v h
  rw [bind_apply, bind_apply]
  cases hw : x w <;> cases hv : y v <;> rw [hw, hv] at hr
  · obtain ⟨rfl, hr⟩ := hr
    exact hf _ _ _ hr
  · exact hr.elim
  · exact hr.elim
  · exact hr

theorem Agree.outcome (hx : Agree R x y) :
    Agree R (x.outcome : Timed δ _) (y.outcome : Timed δ _) := by
  intro w v h
  have hr := hx w v h
  unfold Timed.outcome
  cases hw : x w <;> cases hv : y v <;> rw [hw, hv] at hr
  · exact ⟨congrArg _ hr.1, hr.2⟩
  · exact hr.elim
  · exact hr.elim
  · exact ⟨congrArg _ hr.1, hr.2⟩

theorem Agree.mapError (hx : Agree R x y) (f : ε → δ) :
    Agree R (x.mapError f) (y.mapError f) := by
  intro w v h
  have hr := hx w v h
  unfold Timed.mapError
  cases hw : x w <;> cases hv : y v <;> rw [hw, hv] at hr
  · exact hr
  · exact hr.elim
  · exact hr.elim
  · exact ⟨congrArg _ hr.1, hr.2⟩

theorem Agree.of_ok (hx : Agree R x y) (h : R w v) {a : α} {w' : World} (hw : x w = .ok a w') :
    ∃ v', y v = .ok a v' ∧ R w' v' := by
  have hr := hx w v h
  rw [hw] at hr
  cases hv : y v with
  | ok b v' =>
    rw [hv] at hr
    obtain ⟨rfl, hr⟩ := hr
    exact ⟨v', rfl, hr⟩
  | error e v' =>
    rw [hv] at hr
    exact hr.elim

theorem Agree.eq (hx : Agree Eq x y) : x = y := by
  funext w
  have hr := hx w w rfl
  cases hw : x w <;> cases hv : y w <;> rw [hw, hv] at hr
  · rw [hr.1, hr.2]
  · exact hr.elim
  · exact hr.elim
  · rw [hr.1, hr.2]

theorem agree_ask (hR : World.Parallel R) (call : Call) (next : Target → Reply α × Target) :
    Agree R (Query.ask call next) (Query.ask call next) := by
  intro w v h
  have ha := hR.pause (next w.target).1.delay.ceilMillis
    (hR.retarget (next w.target).2 (hR.record call h))
  unfold Query.ask
  rw [hR.target h]
  dsimp only
  cases (next w.target).1.answer <;> exact ⟨rfl, ha⟩

/-- An action has the same end in worlds in which the same can happen. -/
theorem parallel (hR : World.Parallel R) : Law fun x => Agree R x x where
  pure := agree_pure
  throw := agree_throw
  bind := Agree.bind
  outcome := Agree.outcome
  mapError f hx := hx.mapError f
  pause d _ _ h := ⟨rfl, hR.pause d.ceilMillis h⟩
  record call _ _ h := ⟨rfl, hR.record call h⟩
  note level text _ _ h := ⟨rfl, hR.say (level, text) h⟩
  ask call next _ := agree_ask hR call next
  exposedPorts := agree_ask hR _ _
  attempted port w v h := by
    refine ⟨rfl, ?_⟩
    dsimp only
    rw [hR.network h]
    exact hR.reconnect _ h
  reading {_ _ f} hf hr := by
    refine agree_get fun w v h => ?_
    have hv : v = { w with now := v.now, journal := v.journal, log := v.log } := by
      cases v
      rw [← hR.target h, ← hR.network h]
    have hfv : f v = f w := by
      rw [hv]
      exact hr w v.now w.target.exposed v.journal v.log
    rw [hfv]
    exact hf w w v h

theorem lockstep (hR : World.Lockstep R) : Law fun x => Agree R x x := parallel hR.parallel

/-- What is said may differ. -/
theorem agree_say (hR : World.Lockstep R) (level : Level) (text text' : String) :
    Agree R (Wait.say level text) (Wait.say level text') :=
  fun _ _ h => ⟨rfl, hR.log _ _ h⟩

end

/-! ## The log -/

/-- The log makes no difference. -/
def LogBlind (x : Timed ε α) : Prop := Agree World.Alike x x

theorem logBlind : Law.Clocked LogBlind :=
  { lockstep World.alike_lockstep with
    clock := by
      intro ε α f hf hlog
      refine agree_get fun w v h => ?_
      have hfv : f v = f w := by rw [show v = _ from h, hlog]
      rw [hfv]
      exact hf w w v h }

theorem LogBlind.after_alike (hx : x.LogBlind) (h : w.Alike v) : (x.after w).Alike (x.after v) :=
  (hx w v h).after

theorem LogBlind.ok_alike (hx : x.LogBlind) (h : w.Alike v) {a : α} {w' : World}
    (hw : x w = .ok a w') : ∃ v', x v = .ok a v' ∧ w'.Alike v' :=
  hx.of_ok h hw

theorem LogBlind.succeeds_iff (hx : x.LogBlind) (h : w.Alike v) :
    x.Succeeds w ↔ x.Succeeds v := by
  constructor
  · rintro ⟨a, w', hw⟩
    obtain ⟨v', hv, -⟩ := hx.ok_alike h hw
    exact ⟨a, v', hv⟩
  · rintro ⟨a, v', hv⟩
    obtain ⟨w', hw, -⟩ := hx.ok_alike h.symm hv
    exact ⟨a, w', hw⟩

end Timed

end Readiness
