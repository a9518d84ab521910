import Readiness.Proofs.Strategy.Shift
import Readiness.Proofs.Strategy.Timeout
import Readiness.Session

/-! # Strategies in disguise

A map of strategies that is `Strategy.Faithful` goes through composites and wrappers and leaves kinds
and timeouts alone, so that it does not matter whether a strategy is mapped before or after it is
worked on. It is a `Disguise` if it cannot be told from what is seen of a session whether the
strategy has been mapped (`Disguise.run`). What is seen of an answer and of the traces that go with
it, and which worlds may take each other's place, is left open. -/

namespace Readiness

open Timed

/-! ## Changes of the timeout -/

namespace Timed.Law

variable {P : ∀ {ε α : Type}, Timed ε α → Prop} (L : Law P) {ε : Type} {d : Duration}
include L

theorem pushTimeouts {children : List Strategy}
    (hc : ∀ child ∈ children, P (child.setTimeout d : Timed ε _))
    (refused : Option ConfigurationError) :
    P (Strategy.pushTimeouts d refused children : Timed ε _) := by
  induction children generalizing refused with
  | nil => exact L.pure _
  | cons child rest ih =>
    have hr := ih fun c h => hc c (List.mem_cons_of_mem _ h)
    refine L.bind (hc child List.mem_cons_self) fun ⟨child', refusal⟩ => ?_
    cases refusal with
    | none => exact L.bind (hr _) fun _ => L.pure _
    | some cause => exact L.bind (L.note ..) fun _ => L.bind (hr _) fun _ => L.pure _

theorem setTimeout (d : Duration) (s : Strategy) : P (s.setTimeout d : Timed ε _) := by
  induction s using Strategy.tree with
  | polled c => cases c <;> exact L.pure _
  | nothing | duration _ => exact L.pure _
  | custom c =>
    refine L.bind (L.record _) fun _ => ?_
    split <;> exact L.pure _
  | wrapped wrapper inner ih =>
    rw [Strategy.setTimeout_wrapped]
    exact L.bind ih fun _ => L.pure _
  | all mode timeout refused children ih =>
    cases mode with
    | individual | maximum => exact L.pure _
    | outer => exact L.bind (L.pushTimeouts ih refused) fun _ => L.pure _

end Timed.Law

namespace Strategy

/-! ## Nodes that are replaced -/

/-- The second strategy is the first one with some nodes, at any depth, replaced as `r` says. -/
inductive Replaced (r : Strategy → Strategy → Prop) : Strategy → Strategy → Prop
  | refl (s : Strategy) : Replaced r s s
  | node {s s' : Strategy} : r s s' → Replaced r s s'
  | inner {s s' : Strategy} {wrapper : Wrapper} : Replaced r s s' →
    Replaced r (.wrapped wrapper s) (.wrapped wrapper s')
  | child {s s' : Strategy} {mode : Mode} {timeout : Duration} {refused : Option ConfigurationError}
    {before after : List Strategy} : Replaced r s s' →
    Replaced r (.all mode timeout refused (before ++ s :: after))
      (.all mode timeout refused (before ++ s' :: after))
  | trans {s s' s'' : Strategy} : Replaced r s s' → Replaced r s' s'' → Replaced r s s''

/-- The map may change conditions and take wrappers away, but changes neither the kind of a
condition nor what its timeout is and becomes. -/
structure Faithful (f : Strategy → Strategy) : Prop where
  kind : ∀ c : Polled, (f c.strategy).kind = c.strategy.kind
  startupTimeout : ∀ c : Polled, (f c.strategy).startupTimeout = c.strategy.startupTimeout
  setTimeout : ∀ {ε : Type} (d : Duration) (c : Polled),
    ((f c.strategy).setTimeout d : Timed ε _) = Prod.map f id <$> c.strategy.setTimeout d
  nothing : f .nothing = .nothing
  duration : ∀ length, f (.duration length) = .duration length
  custom : ∀ c, f (.custom c) = .custom c
  wrapped : (∀ wrapper s, f (.wrapped wrapper s) = .wrapped wrapper (f s)) ∨
    ∀ wrapper s, f (.wrapped wrapper s) = f s
  all : ∀ mode timeout refused children,
    f (.all mode timeout refused children) = .all mode timeout refused (children.map f)

namespace Faithful

variable {ε : Type} {δ : Nat} {R : World → World → Prop} {r : Strategy → Strategy → Prop}
  {f : Strategy → Strategy} {s s' : Strategy} {d : Duration} {children : List Strategy}

/-- The map does not tell replaced nodes apart if it does not at any node. -/
theorem eq_of_replaced (h : Faithful f) (hr : ∀ {s s'}, r s s' → f s = f s')
    (hs : Replaced r s s') : f s = f s' := by
  induction hs with
  | refl s => rfl
  | node hn => exact hr hn
  | inner _ ih => rcases h.wrapped with hw | hw <;> rw [hw, hw, ih]
  | child _ ih =>
    rw [h.all, h.all, List.map_append, List.map_append, List.map_cons, List.map_cons, ih]
  | trans _ _ ih ih' => exact ih.trans ih'

theorem kind_eq (h : Faithful f) (s : Strategy) : (f s).kind = s.kind := by
  induction s using tree with
  | polled c => exact h.kind c
  | nothing => rw [h.nothing]
  | duration length => rw [h.duration]
  | custom c => rw [h.custom]
  | wrapped wrapper inner ih => rcases h.wrapped with hw | hw <;> simpa [hw] using ih
  | all mode timeout refused children _ => rw [h.all, Strategy.kind, Strategy.kind]

theorem startupTimeout_eq (h : Faithful f) (s : Strategy) :
    (f s).startupTimeout = s.startupTimeout := by
  induction s using tree with
  | polled c => exact h.startupTimeout c
  | nothing => rw [h.nothing]
  | duration length => rw [h.duration]
  | custom c => rw [h.custom]
  | wrapped wrapper inner ih => rcases h.wrapped with hw | hw <;> simpa [hw] using ih
  | all mode timeout refused children _ =>
    rw [h.all, Strategy.startupTimeout, Strategy.startupTimeout]

/-! A timeout can be changed before the strategy is mapped. -/

theorem pushTimeouts_map (h : Faithful f)
    (hc : ∀ child ∈ children,
      ((f child).setTimeout d : Timed ε _) = Prod.map f id <$> child.setTimeout d)
    (refused : Option ConfigurationError) :
    (pushTimeouts d refused (children.map f) : Timed ε _) =
      Prod.map (List.map f) id <$> pushTimeouts d refused children := by
  induction children generalizing refused with
  | nil => simp [pushTimeouts]
  | cons child rest ih =>
    have hr := ih fun c hm => hc c (List.mem_cons_of_mem _ hm)
    simp only [List.map_cons, pushTimeouts, hc child List.mem_cons_self, bind_map_left, map_bind]
    congr 1
    funext changed
    obtain ⟨child', refusal⟩ := changed
    cases refusal with
    | none => simp [hr]
    | some cause => simp [hr, warnRefused, h.kind_eq]

theorem setTimeout_eq (h : Faithful f) (d : Duration) (s : Strategy) :
    ((f s).setTimeout d : Timed ε _) = Prod.map f id <$> s.setTimeout d := by
  induction s using tree with
  | polled c => exact h.setTimeout d c
  | nothing => simp [h.nothing, Strategy.setTimeout]
  | duration length => simp [h.duration, Strategy.setTimeout]
  | custom c =>
    simp only [h.custom, Strategy.setTimeout, map_bind]
    congr 1
    funext _
    cases c.refuses d <;> simp [h.custom]
  | wrapped wrapper inner ih =>
    rcases h.wrapped with hw | hw
    · simp [hw, setTimeout_wrapped, ih]
    · simp only [hw, setTimeout_wrapped, ih, map_bind, map_pure, Prod.map_apply, id_eq]
      rw [map_eq_pure_bind]
      rfl
  | all mode timeout refused children ih =>
    rw [h.all]
    cases mode with
    | individual | maximum => simp [Strategy.setTimeout, h.all]
    | outer => simp [Strategy.setTimeout, h.pushTimeouts_map ih, h.all]

/-- A child can be added before the composite is mapped. -/
theorem add_all (h : Faithful f) (child : Strategy) (mode : Mode) (timeout : Duration)
    (refused : Option ConfigurationError) (children : List Strategy) :
    (add (f child) (f (.all mode timeout refused children)) : Timed ε _) =
      f <$> add child (.all mode timeout refused children) := by
  rw [h.all]
  cases mode with
  | individual | maximum => simp [add, h.all]
  | outer =>
    have hp : (pushTimeouts timeout refused ([child].map f) : Timed ε _) =
        Prod.map (List.map f) id <$> pushTimeouts timeout refused [child] :=
      h.pushTimeouts_map (fun c _ => h.setTimeout_eq timeout c) refused
    rw [List.map_singleton] at hp
    simp [add, hp, h.all]

/-- A wait is the same after the map if those of the conditions are. -/
theorem wait (h : Faithful f) (hR : World.Shifted δ R)
    (hp : ∀ c : Polled, Agree R c.strategy.wait (f c.strategy).wait) (s : Strategy) :
    Agree R s.wait (f s).wait := by
  have same := wait_shifted hR
  induction s using tree with
  | polled c => exact hp c
  | nothing =>
    rw [h.nothing]
    exact same _
  | duration length =>
    rw [h.duration]
    exact same _
  | custom c =>
    rw [h.custom]
    exact same _
  | wrapped wrapper inner ih =>
    rcases h.wrapped with hw | hw <;> simpa only [hw, wait_wrapped] using ih
  | all mode timeout refused children ih =>
    rw [h.all]
    exact wait_all_shifted hR (fun c _ => h.kind_eq c) ih refused

end Faithful

end Strategy

/-! ## Sessions -/

/-- Nobody can see whether `f` has been applied to the strategy of a session. -/
structure Disguise {β : Type} (R : World → World → Prop) (seen : Answer × Traces → β)
    (f : Strategy → Strategy) : Prop where
  shifted : World.Shifted 0 R
  clean : ∀ {w v}, R w v → R (Session.clean w) (Session.clean v)
  traces : ∀ {w v}, R w v → ∀ answer started,
    seen (answer, .since started v) = seen (answer, .since started w)
  describe : ∀ s t, seen (.description (f s).describe, t) = seen (.description s.describe, t)
  faithful : Strategy.Faithful f
  polled : ∀ c : Polled, Agree R c.strategy.wait (f c.strategy).wait

namespace Disguise

variable {β : Type} {R : World → World → Prop} {seen : Answer × Traces → β}
  {f : Strategy → Strategy} {s s' : Strategy} {w v : World}

theorem act (h : Disguise R seen f) (hr : R w v) (step : Step) :
    ∃ answer u, Session.act ⟨f s, v⟩ step =
        (answer, ⟨f (Session.act ⟨s, w⟩ step).2.strategy, u⟩) ∧
      R (Session.act ⟨s, w⟩ step).2.world u ∧
      ∀ t, seen (answer, t) = seen ((Session.act ⟨s, w⟩ step).1, t) := by
  cases step with
  | kind => exact ⟨_, v, rfl, hr, fun _ => by rw [h.faithful.kind_eq]; rfl⟩
  | startupTimeout => exact ⟨_, v, rfl, hr, fun _ => by rw [h.faithful.startupTimeout_eq]; rfl⟩
  | describe => exact ⟨_, v, rfl, hr, h.describe s⟩
  | target t => exact ⟨_, _, rfl, h.shifted.retarget t hr, fun _ => rfl⟩
  | setStartupTimeout d =>
    obtain ⟨u, hu⟩ := Strategy.setTimeout_eq (ε := Empty) d s w
    obtain ⟨u', hu', hr'⟩ :=
      ((parallel h.shifted.toParallel).setTimeout d s).of_ok (y := s.setTimeout d) hr hu
    have hf : ((f s).setTimeout d : Timed Empty _) v = .ok (f (s.retimed d), s.refusal d) u' := by
      rw [h.faithful.setTimeout_eq, map_eq_pure_bind, bind_of_ok hu']
      rfl
    cases hc : s.refusal d with
    | none =>
      rw [hc] at hu hf
      simp only [Session.act, hu, hf]
      exact ⟨_, u', rfl, hr', fun _ => rfl⟩
    | some cause =>
      rw [hc] at hu hf
      simp only [Session.act, hu, hf]
      exact ⟨_, u', rfl, hr', fun _ => rfl⟩
  | wait =>
    have hs := h.faithful.wait h.shifted h.polled s w v hr
    have hn : v.now = w.now := h.shifted.now hr
    unfold Session.act
    dsimp only
    cases hw : s.wait w with
    | ok a w' =>
      cases hv : (f s).wait v with
      | ok b v' =>
        rw [hw, hv] at hs
        have hn' : v'.now = w'.now := h.shifted.now hs.2
        exact ⟨_, v', rfl, hs.2, fun _ => by rw [hn, hn']⟩
      | error e v' =>
        rw [hw, hv] at hs
        exact hs.elim
    | error e w' =>
      cases hv : (f s).wait v with
      | ok b v' =>
        rw [hw, hv] at hs
        exact hs.elim
      | error e' v' =>
        rw [hw, hv] at hs
        obtain ⟨rfl, hs⟩ := hs
        have hn' : v'.now = w'.now := h.shifted.now hs
        cases e with
        | failed error => exact ⟨_, v', rfl, hs, fun _ => by rw [hn, hn']⟩
        | endless => exact ⟨_, v', rfl, hs, fun _ => rfl⟩

/-- The same is seen of sessions with a strategy and with its disguise. -/
theorem run (h : Disguise R seen f) (hr : R w v) (steps : List Step) :
    (Session.run ⟨f s, v⟩ steps).map seen = (Session.run ⟨s, w⟩ steps).map seen := by
  induction steps generalizing s w v with
  | nil => rfl
  | cons step rest ih =>
    obtain ⟨answer, u, ha, hu, hs⟩ := h.act (s := s) (h.clean hr) step
    have hn : v.now = w.now := h.shifted.now hr
    unfold Session.run Session.step
    dsimp only
    rw [ha, List.map_cons, List.map_cons, ih hu, hs, hn, h.traces hu]

/-- The same is seen of sessions with strategies that are the same in disguise. -/
theorem run_eq (h : Disguise R seen f) (hr : R w w) (hs : f s = f s') (steps : List Step) :
    (Session.run ⟨s, w⟩ steps).map seen = (Session.run ⟨s', w⟩ steps).map seen := by
  rw [← h.run (s := s) hr, ← h.run (s := s') hr, hs]

end Disguise

end Readiness
