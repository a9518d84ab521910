import Readiness.World

/-! # What an action leaves behind

The world left by an action (`Timed.after`), the time that it took (`Timed.took`) and the calls that
it entered (`Timed.calls`), and how these are found for two actions one after the other. -/

namespace Readiness.Timed

variable {ε δ α β : Type} {x : Timed ε α} {f : α → Timed ε β} {w v : World} {a : α} {e : ε}

/-- The world that an action leaves. -/
def after (x : Timed ε α) (w : World) : World :=
  match x w with
  | .ok _ v => v
  | .error _ v => v

/-- The milliseconds that an action takes. -/
def took (x : Timed ε α) (w : World) : Nat := (x.after w).now - w.now

/-- The calls that an action adds to the journal. -/
def calls (x : Timed ε α) (w : World) : List Entry :=
  (x.after w).journal.toList.drop w.journal.toList.length

/-- What an action ends with, whatever world it leaves. -/
def result (x : Timed ε α) (w : World) : Except ε α :=
  match x w with
  | .ok a _ => .ok a
  | .error e _ => .error e

/-- The action ends in the ordinary way. -/
def Succeeds (x : Timed ε α) (w : World) : Prop := ∃ a v, x w = .ok a v

theorem after_of_ok (h : x w = .ok a v) : x.after w = v := by
  rw [after, h]

theorem after_of_error (h : x w = .error e v) : x.after w = v := by
  rw [after, h]

/-- An action can be run to see whether it succeeds. -/
theorem succeeds_of_run' (h : (EStateM.run' x w).isSome) : x.Succeeds w := by
  delta EStateM.run' EStateM.run at h
  cases hx : x w with
  | ok a v => exact ⟨a, v, hx⟩
  | error e v =>
    rw [hx] at h
    cases h

theorem bind_apply (x : Timed ε α) (f : α → Timed ε β) (w : World) :
    (x >>= f) w = match x w with | .ok a v => f a v | .error e v => .error e v := by
  simp only [bind, EStateM.bind]
  cases x w <;> rfl

theorem bind_of_ok (h : x w = .ok a v) : (x >>= f) w = f a v := by
  rw [bind_apply, h]

theorem bind_of_error (h : x w = .error e v) : (x >>= f) w = .error e v := by
  rw [bind_apply, h]

theorem bind_eq_ok {b : β} :
    (x >>= f) w = .ok b v ↔ ∃ a u, x w = .ok a u ∧ f a u = .ok b v := by
  rw [bind_apply]
  cases x w with
  | ok a u => exact ⟨fun h => ⟨a, u, rfl, h⟩, fun ⟨_, _, hx, h⟩ => by cases hx; exact h⟩
  | error e u => simp

theorem mapError_bind (g : ε → δ) (x : Timed ε α) (f : α → Timed ε β) :
    (x >>= f).mapError g = x.mapError g >>= fun a => (f a).mapError g := by
  funext w
  rw [mapError, bind_apply, bind_apply, mapError]
  cases x w <;> rfl

/-- Two actions that end in the same way up to `g`. -/
theorem cases_of_map_eq {γ : Type} {g : α → γ} {y : Timed ε α} (h : g <$> x = g <$> y) (w : World) :
    (∃ a b v, x w = .ok a v ∧ y w = .ok b v ∧ g a = g b) ∨
      ∃ e v, x w = .error e v ∧ y w = .error e v := by
  have hw := congrFun h w
  rw [map_eq_pure_bind, map_eq_pure_bind, bind_apply, bind_apply] at hw
  cases hx : x w <;> cases hy : y w <;> rw [hx, hy] at hw
  case ok.ok a v b u =>
    injection hw with hg hv
    subst hv
    exact .inl ⟨a, b, _, rfl, rfl, hg⟩
  case error.error e v e' u =>
    cases hw
    exact .inr ⟨e, v, rfl, rfl⟩
  case ok.error => cases hw
  case error.ok => cases hw

theorem outcome_of_ok (h : x w = .ok a v) : (x.outcome : Timed δ _) w = .ok (.ok a) v := by
  rw [outcome, h]

theorem outcome_of_error (h : x w = .error e v) : (x.outcome : Timed δ _) w = .ok (.error e) v := by
  rw [outcome, h]

theorem after_bind_of_ok (h : x w = .ok a v) : (x >>= f).after w = (f a).after v := by
  rw [after, bind_of_ok h, after]

theorem after_bind_of_error (h : x w = .error e v) : (x >>= f).after w = v :=
  after_of_error (bind_of_error h)

/-- What two actions do to every world, they do to it one after the other. -/
theorem after_bind {R : World → World → Prop} (hR : ∀ {u v w : World}, R u v → R v w → R u w)
    (hx : ∀ w, R w (x.after w)) (hf : ∀ a w, R w ((f a).after w)) (w : World) :
    R w ((x >>= f).after w) := by
  have h := hx w
  cases hr : x w with
  | ok a v =>
    rw [after_of_ok hr] at h
    rw [after_bind_of_ok hr]
    exact hR h (hf a v)
  | error e v =>
    rw [after_of_error hr] at h
    rwa [after_bind_of_error hr]

end Readiness.Timed
