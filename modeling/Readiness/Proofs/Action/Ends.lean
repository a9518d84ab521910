import Readiness.Poll
import Readiness.Proofs.Action.Basic

/-! # How an action ends

`x.Ends w Q E` says of the end of `x` in the world `w`: an ordinary end satisfies `Q` and an early
end satisfies `E`. Actions one after the other are taken apart by `Timed.Ends.bind`. `Wait.Returns`
says that a wait does not go on for ever. -/

namespace Readiness

namespace Timed

variable {ε δ α β : Type} {x : Timed ε α} {f : α → Timed ε β} {w : World}
  {Q Q' : α → World → Prop} {R : β → World → Prop} {E E' : ε → World → Prop}

/-- The world and the result satisfy `Q` if the action ends in the ordinary way, and `E` if it ends
early. -/
def Ends (x : Timed ε α) (w : World) (Q : α → World → Prop) (E : ε → World → Prop) : Prop :=
  match x w with
  | .ok a v => Q a v
  | .error e v => E e v

theorem Ends.of_ok {a : α} {v : World} (h : x.Ends w Q E) (hx : x w = .ok a v) : Q a v := by
  rw [Ends, hx] at h
  exact h

theorem Ends.of_error {e : ε} {v : World} (h : x.Ends w Q E) (hx : x w = .error e v) : E e v := by
  rw [Ends, hx] at h
  exact h

theorem Ends.mono (h : x.Ends w Q E) (hQ : ∀ a v, Q a v → Q' a v) (hE : ∀ e v, E e v → E' e v) :
    x.Ends w Q' E' := by
  unfold Ends at h ⊢
  cases hx : x w with
  | ok a v =>
    rw [hx] at h
    exact hQ a v h
  | error e v =>
    rw [hx] at h
    exact hE e v h

theorem Ends.bind (h : x.Ends w Q E') (hf : ∀ a v, Q a v → (f a).Ends v R E)
    (hE : ∀ e v, E' e v → E e v) : (x >>= f).Ends w R E := by
  rw [Ends, bind_apply]
  cases hx : x w with
  | ok a v => exact hf a v (h.of_ok hx)
  | error e v => exact hE e v (h.of_error hx)

/-- A condition on the world that an action leaves. -/
theorem Ends.after {S : World → Prop} (h : x.Ends w (fun _ => S) fun _ => S) : S (x.after w) := by
  unfold Ends at h
  unfold Timed.after
  cases hx : x w with
  | ok a v =>
    rw [hx] at h
    exact h
  | error e v =>
    rw [hx] at h
    exact h

theorem ends_outcome {Q : Except ε α → World → Prop} {E : δ → World → Prop} :
    x.outcome.Ends w Q E ↔ x.Ends w (fun a => Q (.ok a)) fun e => Q (.error e) := by
  unfold Ends outcome
  cases x w <;> exact Iff.rfl

theorem Ends.outcome {S : World → Prop} (h : x.Ends w (fun _ => S) fun _ => S) :
    (x.outcome : Timed δ (Except ε α)).Ends w (fun _ => S) fun _ _ => False :=
  ends_outcome.mpr h

theorem ends_mapError {g : ε → δ} {E : δ → World → Prop} :
    (x.mapError g).Ends w Q E ↔ x.Ends w Q fun e => E (g e) := by
  unfold Ends mapError
  cases x w <;> exact Iff.rfl

theorem ends_pure {a : α} : (pure a : Timed ε α).Ends w Q E ↔ Q a w := Iff.rfl

theorem ends_throw {e : ε} : (throw e : Timed ε α).Ends w Q E ↔ E e w := Iff.rfl

/-- Nothing follows an error. -/
theorem ends_fail_bind {e : WaitError} {g : α → Wait β} {E : Halt → World → Prop}
    (h : E (.failed e) w) : (Wait.fail e >>= g).Ends w R E :=
  h

theorem ends_of_true (h : ∀ a v, Q a v) (hE : ∀ e v, E e v) : x.Ends w Q E := by
  unfold Ends
  cases x w with
  | ok a v => exact h a v
  | error e v => exact hE e v

/-! ## Small actions -/

theorem ends_pause {Q : Unit → World → Prop} {d : Duration} :
    (pause d : Timed ε Unit).Ends w Q E ↔ Q () { w with now := w.now + d.ceilMillis } := Iff.rfl

/-- An action that takes no time, and what follows it. -/
theorem Ends.instant_bind {E : ε → World → Prop}
    (h : x.Ends w (fun _ u => u.now = w.now) fun _ _ => False)
    (hf : ∀ a, ∀ u : World, u.now = w.now → (f a).Ends u R E) : (x >>= f).Ends w R E :=
  h.bind hf nofun

theorem ends_record (call : Call) (w : World) :
    (record call : Timed ε Unit).Ends w (fun _ u => u.now = w.now) fun _ _ => False :=
  rfl

theorem ends_note (level : Level) (text : String) (w : World) :
    (note level text : Timed ε Unit).Ends w (fun _ u => u.now = w.now) fun _ _ => False :=
  rfl

theorem ends_reader (w : World) :
    (reader : Timed ε Http.Reader).Ends w (fun _ u => u.now = w.now) fun _ _ => False :=
  rfl

theorem ends_say (level : Level) (text : String) (w : World) :
    (Wait.say level text).Ends w (fun _ u => u.now = w.now) fun _ _ => False :=
  rfl

/-- An attempt to connect takes no time and does not end early. -/
theorem ends_connect (host : Url.Host) (port : UInt16) (w : World) :
    (connect host port : Timed ε Connection).Ends w (fun _ v => v.now = w.now)
      fun _ _ => False := by
  unfold Ends connect
  rw [bind_of_ok (x := get) (w := w) rfl]
  by_cases hk : w.network.knows host
  · rw [if_pos hk]
    rfl
  · rw [if_neg hk]
    rfl

/-- A question ends, in either way, when its answer arrives. -/
theorem ends_ask (call : Call) (next : Target → Reply α × Target) (w : World) :
    (Query.ask call next).Ends w (fun _ v => v.now = w.now + (next w.target).1.delay.ceilMillis)
      fun _ v => v.now = w.now + (next w.target).1.delay.ceilMillis := by
  unfold Ends Query.ask
  dsimp only
  cases (next w.target).1.answer <;> rfl

end Timed

namespace Wait

variable {α : Type} {x : Wait α} {w : World}

/-- The wait succeeds or fails: it does not go on for ever. -/
def Returns (x : Wait α) (w : World) : Prop :=
  x.Ends w (fun _ _ => True) fun e _ => ∃ cause, e = .failed cause

theorem Returns.cases (h : x.Returns w) :
    (∃ a v, x w = .ok a v) ∨ ∃ e v, x w = .error (.failed e) v := by
  cases hx : x w with
  | ok a v => exact .inl ⟨a, v, rfl⟩
  | error e v =>
    obtain ⟨cause, rfl⟩ := h.of_error hx
    exact .inr ⟨cause, v, rfl⟩

theorem returns_pure (a : α) (w : World) : (pure a : Wait α).Returns w := trivial

theorem returns_fail (e : WaitError) (w : World) : (fail e : Wait α).Returns w := ⟨e, rfl⟩

theorem returns_say (level : Level) (text : String) (w : World) : (say level text).Returns w :=
  trivial

theorem returns_require (q : Query α) (w : World) : (require q).Returns w :=
  Timed.ends_mapError.mpr (Timed.ends_of_true (fun _ _ => trivial) fun t _ => ⟨.ofTarget t, rfl⟩)

theorem Returns.bind {β : Type} {f : α → Wait β} (h : x.Returns w)
    (hf : ∀ a v, (f a).Returns v) : Returns (x >>= f) w :=
  Timed.Ends.bind h (fun a v _ => hf a v) fun _ _ h => h

end Wait

end Readiness
