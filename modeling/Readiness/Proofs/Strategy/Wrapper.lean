import Readiness.Proofs.Session.Disguise

/-! # Wrappers

Wrappers around any nodes of a strategy make no difference but to its description, neither while the
strategy is put together nor afterwards (`Strategy.wrappers_transparent`). -/

namespace Readiness

open Timed

/-- What can be seen of an answer without reading descriptions. -/
def Answer.undescribed : Answer → Answer
  | .description _ => .description ""
  | answer => answer

namespace Strategy

/-- The second strategy is the first one with some more wrappers around nodes of it. -/
def Wraps : Strategy → Strategy → Prop := Replaced fun s s' => ∃ wrapper, s' = .wrapped wrapper s

/-- The second change adds the same child, perhaps with some more wrappers, or is the same. -/
inductive Change.Wraps : Change → Change → Prop
  | refl (c : Change) : Wraps c c
  | add {child child' : Strategy} : child.Wraps child' → Wraps (.add child) (.add child')

/-- Whatever is done with the two strategies, in whatever world, the same comes of it, descriptions
apart. -/
def LooksLike (s s' : Strategy) : Prop := ∀ (w : World) (steps : List Step),
  (Session.run ⟨s, w⟩ steps).map (Prod.map Answer.undescribed id) =
    (Session.run ⟨s', w⟩ steps).map (Prod.map Answer.undescribed id)

/-! ## Without wrappers -/

mutual

/-- The strategy without its wrappers. -/
def unwrapped : Strategy → Strategy
  | .wrapped _ inner => unwrapped inner
  | .all mode timeout refused children => .all mode timeout refused (unwrappedEach children)
  | s => s

def unwrappedEach : List Strategy → List Strategy
  | [] => []
  | child :: rest => unwrapped child :: unwrappedEach rest

end

variable {s s' child : Strategy} {mode : Mode} {timeout d : Duration}
  {refused : Option ConfigurationError} {children : List Strategy} {w : World} {ε : Type}

theorem unwrappedEach_eq_map (children : List Strategy) :
    unwrappedEach children = children.map unwrapped := by
  induction children with
  | nil => rfl
  | cons child rest ih => rw [unwrappedEach, ih, List.map_cons]

@[simp] theorem unwrapped_wrapped (wrapper : Wrapper) (inner : Strategy) :
    (wrapped wrapper inner).unwrapped = inner.unwrapped := by
  rw [unwrapped]

@[simp] theorem unwrapped_all (mode : Mode) (timeout : Duration)
    (refused : Option ConfigurationError) (children : List Strategy) :
    (all mode timeout refused children).unwrapped =
      all mode timeout refused (children.map unwrapped) := by
  rw [unwrapped, unwrappedEach_eq_map]

@[simp] theorem unwrapped_polled (c : Polled) : c.strategy.unwrapped = c.strategy := by
  cases c <;> rfl

theorem unwrapped_faithful : Faithful unwrapped where
  kind c := by rw [unwrapped_polled]
  startupTimeout c := by rw [unwrapped_polled]
  setTimeout d c := by cases c <;> simp [Polled.strategy, setTimeout, unwrapped]
  nothing := rfl
  duration _ := rfl
  custom _ := rfl
  wrapped := .inr unwrapped_wrapped
  all := unwrapped_all

theorem Wraps.unwrapped_eq (h : Wraps s s') : s.unwrapped = s'.unwrapped := by
  refine unwrapped_faithful.eq_of_replaced ?_ h
  rintro s _ ⟨wrapper, rfl⟩
  rw [unwrapped_wrapped]

/-- Every world is related to itself alone. -/
theorem eq_shifted : World.Shifted 0 Eq where
  target := by rintro w _ rfl; rfl
  network := by rintro w _ rfl; rfl
  say := by rintro w _ _ rfl; rfl
  pause := by rintro w _ _ rfl; rfl
  record := by rintro w _ _ rfl; rfl
  retarget := by rintro w _ _ rfl; rfl
  reconnect := by rintro w _ _ rfl; rfl
  now := by rintro w _ rfl; rfl

theorem unwrapped_disguise :
    Disguise Eq (Prod.map Answer.undescribed id : Answer × Traces → _) unwrapped where
  shifted := eq_shifted
  clean := by rintro w _ rfl; rfl
  traces := by rintro w _ rfl _ _; rfl
  describe _ _ := rfl
  faithful := unwrapped_faithful
  polled c := by
    rw [unwrapped_polled]
    exact wait_shifted eq_shifted _

theorem looksLike_of_unwrapped (h : s.unwrapped = s'.unwrapped) : s.LooksLike s' := by
  intro w steps
  exact unwrapped_disguise.run_eq rfl h steps

/-! ## Putting strategies together -/

/-- The change without wrappers around the child that is added. -/
def Change.unwrapped : Change → Change
  | .add child => .add child.unwrapped
  | c => c

theorem Change.Wraps.unwrapped_eq {c c' : Change} (h : c.Wraps c') :
    c.unwrapped = c'.unwrapped := by
  cases h with
  | refl => rfl
  | add h => rw [Change.unwrapped, Change.unwrapped, h.unwrapped_eq]

theorem apply_unwrapped (c : Change) (mode : Mode) (timeout : Duration)
    (refused : Option ConfigurationError) (children : List Strategy) :
    c.unwrapped.apply (all mode timeout refused children).unwrapped =
      unwrapped <$> c.apply (all mode timeout refused children) := by
  cases c with
  | add child =>
    exact unwrapped_faithful.add_all child mode timeout refused children
  | withTimeout d =>
    simp only [Change.unwrapped, Change.apply, unwrapped_faithful.setTimeout_eq, bind_map_left,
      map_bind]
    congr 1
    funext ⟨s, refusal⟩
    cases refusal with
    | none => simp
    | some cause => rfl
  | setTimeout d =>
    simp only [Change.unwrapped, Change.apply, unwrapped_faithful.setTimeout_eq, bind_map_left,
      map_bind]
    rfl
  | wait =>
    have hw := (unwrapped_faithful.wait eq_shifted unwrapped_disguise.polled
      (all mode timeout refused children)).eq
    simp only [Change.unwrapped, Change.apply, ← hw, map_bind, map_pure]

/-- A composite stays one. -/
theorem result_all (c : Change) (mode : Mode) (timeout : Duration)
    (refused : Option ConfigurationError) (children : List Strategy) :
    ∃ timeout' refused' children', c.result (all mode timeout refused children) =
      all mode timeout' refused' children' := by
  cases c with
  | add child => cases mode <;> exact ⟨_, _, _, rfl⟩
  | withTimeout d | setTimeout d =>
    cases mode with
    | outer => exact ⟨_, _, _, retimed_outer d timeout refused children⟩
    | individual | maximum => exact ⟨_, _, _, rfl⟩
  | wait => exact ⟨_, _, _, rfl⟩

theorem foldlM_unwrapped (changes : List Change) (mode : Mode) (timeout : Duration)
    (refused : Option ConfigurationError) (children : List Strategy) :
    (changes.map Change.unwrapped).foldlM Change.apply
        (all mode timeout refused children).unwrapped =
      unwrapped <$> changes.foldlM Change.apply (all mode timeout refused children) := by
  induction changes generalizing timeout refused children with
  | nil => simp
  | cons c changes ih =>
    rw [List.map_cons, List.foldlM_cons, List.foldlM_cons, apply_unwrapped, bind_map_left, map_bind]
    funext w
    rw [bind_apply, bind_apply]
    cases ha : c.apply (all mode timeout refused children) w with
    | error e v => rfl
    | ok s v =>
      obtain ⟨timeout', refused', children', hs⟩ := result_all c mode timeout refused children
      rw [← result_of_apply ha] at hs
      subst hs
      exact congrFun (ih timeout' refused' children') v

/-- Wrappers around any nodes of a strategy, at whatever depth, make no difference but to its
description; neither do wrappers around children that are added to a composite. -/
theorem wrappers_transparent :
    (∀ s s' : Strategy, s.Wraps s' → s.LooksLike s') ∧
    ∀ (mode : Mode) (changes changes' : List Change), List.Forall₂ Change.Wraps changes changes' →
      ∀ w : World,
        (∃ s s' v, changes.foldlM Change.apply (composite mode) w = .ok s v ∧
          changes'.foldlM Change.apply (composite mode) w = .ok s' v ∧ s.LooksLike s') ∨
        ∃ cause v, changes.foldlM Change.apply (composite mode) w = .error cause v ∧
          changes'.foldlM Change.apply (composite mode) w = .error cause v := by
  refine ⟨fun s s' h => looksLike_of_unwrapped h.unwrapped_eq, fun mode changes changes' h w => ?_⟩
  have hu : changes.map Change.unwrapped = changes'.map Change.unwrapped := by
    induction h with
    | nil => rfl
    | cons h _ ih => rw [List.map_cons, List.map_cons, h.unwrapped_eq, ih]
  have hf : unwrapped <$> changes.foldlM Change.apply (composite mode) =
      unwrapped <$> changes'.foldlM Change.apply (composite mode) := by
    rw [composite, ← foldlM_unwrapped, ← foldlM_unwrapped, hu]
  rcases cases_of_map_eq hf w with ⟨s, s', v, hs, hs', he⟩ | ⟨e, v, hs, hs'⟩
  · exact .inl ⟨s, s', v, hs, hs', looksLike_of_unwrapped he⟩
  · exact .inr ⟨e, v, hs, hs'⟩

/-- A wrapper around a child and another one around the whole. -/
theorem wrappers_transparent_twice :
    let child : Strategy := .healthcheck ⟨⟨.ofMillis 3, .ofMillis 2⟩⟩
    let s : Strategy := .all .outer (.ofMillis 5) none [child]
    let s' : Strategy :=
      .wrapped .box (.all .outer (.ofMillis 5) none [.wrapped (.condition .healthcheck) child])
    s.Wraps s' ∧ s.LooksLike s' := by
  intro child s s'
  have hc : Wraps (.all .outer (.ofMillis 5) none ([] ++ child :: []))
      (.all .outer (.ofMillis 5) none ([] ++ .wrapped (.condition .healthcheck) child :: [])) :=
    .child (.node ⟨.condition .healthcheck, rfl⟩)
  have h : s.Wraps s' := hc.trans (.node ⟨.box, rfl⟩)
  exact ⟨h, wrappers_transparent.1 s s' h⟩

end Strategy

end Readiness
