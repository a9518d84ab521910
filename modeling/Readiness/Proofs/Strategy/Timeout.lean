import Readiness.Proofs.Strategy.Tree
import Readiness.Strategy.Blueprint

/-! # Timeouts of composites

`Strategy.retimed` is what becomes of a strategy whose timeout is changed. However children are
added to a composite, its timeout is changed and it is waited on, what it has become depends on its
children and on the last timeout alone (`Strategy.composite_timeouts`). Only strategies from elsewhere
may remember more, if they are not `Strategy.Steady`. -/

namespace Readiness

namespace Polled

/-- The condition with another timeout. -/
def retimed (d : Duration) : Polled → Polled
  | .logMessage c => .logMessage { c with pace := { c.pace with timeout := d } }
  | .hostPort c => .hostPort { c with pace := { c.pace with timeout := d } }
  | .http c => .http { c with pace := { c.pace with timeout := d } }
  | .shell c => .shell { c with pace := { c.pace with timeout := d } }
  | .healthcheck c => .healthcheck { c with pace := { c.pace with timeout := d } }

end Polled

namespace Strategy

/-! ## One strategy -/

/-- Why a change of the timeout to `d` is refused, if it is. -/
def refusal (d : Duration) : Strategy → Option ConfigurationError
  | .custom c => c.refuses d
  | .wrapped _ inner => refusal d inner
  | .all .individual _ _ _ => some (.timeoutNotSupported .individual)
  | _ => none

/-- Why the first of the strategies that refuses the timeout `d` does so. -/
def firstRefusal (d : Duration) (children : List Strategy) : Option ConfigurationError :=
  children.findSome? (refusal d)

mutual

/-- The strategy after a change of its timeout. -/
def retimed (d : Duration) : Strategy → Strategy
  | .logMessage c => ((Polled.logMessage c).retimed d).strategy
  | .hostPort c => ((Polled.hostPort c).retimed d).strategy
  | .http c => ((Polled.http c).retimed d).strategy
  | .shell c => ((Polled.shell c).retimed d).strategy
  | .healthcheck c => ((Polled.healthcheck c).retimed d).strategy
  | .nothing => .nothing
  | .duration length => .duration length
  | .custom c => .custom ((c.refuses d).elim { c with timeout := d } fun _ => c)
  | .wrapped wrapper inner => .wrapped wrapper (retimed d inner)
  | .all .individual timeout refused children => .all .individual timeout refused children
  | .all .maximum _ refused children => .all .maximum d refused children
  | .all .outer _ refused children =>
    .all .outer d (refused <|> firstRefusal d children) (retimedEach d children)

/-- The strategies after a change of their timeouts. -/
def retimedEach (d : Duration) : List Strategy → List Strategy
  | [] => []
  | child :: rest => retimed d child :: retimedEach d rest

end

variable {ε : Type} {d e : Duration} {children : List Strategy} {w : World}

theorem retimedEach_eq_map (d : Duration) (children : List Strategy) :
    retimedEach d children = children.map (retimed d) := by
  induction children with
  | nil => rfl
  | cons child rest ih => rw [retimedEach, ih, List.map_cons]

theorem retimed_outer (d t : Duration) (refused : Option ConfigurationError)
    (children : List Strategy) : (all .outer t refused children).retimed d =
      .all .outer d (refused <|> firstRefusal d children) (children.map (retimed d)) := by
  rw [retimed, retimedEach_eq_map]

theorem refusal_retimed (d e : Duration) (s : Strategy) :
    (s.retimed d).refusal e = s.refusal e := by
  induction s using tree with
  | polled c => cases c <;> rfl
  | nothing => rfl
  | duration length => rfl
  | custom c => cases h : c.refuses d <;> simp [retimed, refusal, h]
  | wrapped wrapper inner ih => exact ih
  | all mode timeout refused children ih => cases mode <;> rfl

theorem firstRefusal_eq_none :
    firstRefusal d children = none ↔ ∀ s ∈ children, s.refusal d = none :=
  List.findSome?_eq_none_iff

/-- Only the answers of the strategies matter. -/
theorem firstRefusal_eq_map (d : Duration) (children : List Strategy) :
    firstRefusal d children = (children.map (refusal d)).findSome? id := by
  rw [firstRefusal, List.findSome?_map]
  rfl

theorem firstRefusal_congr (h : ∀ child ∈ children, child.refusal d = child.refusal e) :
    firstRefusal d children = firstRefusal e children := by
  rw [firstRefusal_eq_map, firstRefusal_eq_map, List.map_congr_left h]

theorem firstRefusal_retimed (d e : Duration) (children : List Strategy) :
    firstRefusal e (children.map (retimed d)) = firstRefusal e children := by
  have hr : (children.map (retimed d)).map (refusal e) = children.map (refusal e) := by
    rw [List.map_map]
    exact List.map_congr_left fun s _ => refusal_retimed d e s
  rw [firstRefusal_eq_map, hr, firstRefusal_eq_map]

theorem firstRefusal_singleton (d : Duration) (child : Strategy) :
    firstRefusal d [child] = child.refusal d := by
  unfold firstRefusal
  cases h : child.refusal d <;> simp [h]

theorem firstRefusal_append (d : Duration) (children rest : List Strategy) :
    firstRefusal d (children ++ rest) = (firstRefusal d children <|> firstRefusal d rest) := by
  unfold firstRefusal
  rw [List.findSome?_append]
  cases children.findSome? (refusal d) <;> rfl

/-! ### Strategies from elsewhere -/

/-- Every strategy from elsewhere that is a part of it refuses all timeouts alike or accepts all of
them. -/
def Steady (s : Strategy) : Prop :=
  ∀ c, .custom c ∈ s.nodes → ∀ d e, c.refuses d = c.refuses e

theorem steady_of_forall_notMem {s : Strategy} (h : ∀ c, .custom c ∉ s.nodes) : s.Steady :=
  fun c hc => absurd hc (h c)

theorem steady_wrapped {wrapper : Wrapper} {inner : Strategy} :
    (wrapped wrapper inner).Steady ↔ inner.Steady := by
  simp [Steady, nodes]

theorem Steady.child {mode : Mode} {timeout : Duration} {refused : Option ConfigurationError}
    {child : Strategy} (hs : (all mode timeout refused children).Steady) (hc : child ∈ children) :
    child.Steady :=
  fun c hn => hs c (mem_nodes_all hc hn)

theorem steady_all {mode : Mode} {timeout : Duration} {refused : Option ConfigurationError}
    (hs : ∀ child ∈ children, child.Steady) : (all mode timeout refused children).Steady := by
  intro c hc
  rw [nodes] at hc
  rcases List.mem_cons.mp hc with hc | hc
  · cases hc
  · obtain ⟨child, hm, hc⟩ := mem_nodesEach.mp hc
    exact hs child hm c hc

theorem Steady.retimed {s : Strategy} (hs : s.Steady) (d : Duration) : (s.retimed d).Steady := by
  induction s using tree with
  | polled c => cases c <;> exact fun _ hc => nomatch List.mem_singleton.mp hc
  | nothing | duration _ => exact hs
  | custom c =>
    -- the new timeout is the only thing that may be different
    intro c' hc'
    have hr : c'.refuses = c.refuses := by
      cases h : c.refuses d <;> rw [Strategy.retimed, h] at hc' <;>
        cases List.mem_singleton.mp hc' <;> rfl
    rw [hr]
    exact hs c (mem_nodes_self _)
  | wrapped wrapper inner ih => exact steady_wrapped.mpr (ih (steady_wrapped.mp hs))
  | all mode timeout refused children ih =>
    cases mode with
    | individual => exact hs
    | maximum => exact steady_all fun child hc => hs.child hc
    | outer =>
      rw [retimed_outer]
      refine steady_all fun child hc => ?_
      obtain ⟨child, hm, rfl⟩ := List.mem_map.mp hc
      exact ih child hm (hs.child hm)

theorem Steady.refusal_eq {s : Strategy} (hs : s.Steady) (d e : Duration) :
    s.refusal d = s.refusal e := by
  induction s using tree with
  | polled c => cases c <;> rfl
  | nothing | duration _ => rfl
  | custom c => exact hs c (mem_nodes_self _) d e
  | wrapped wrapper inner ih => exact ih (steady_wrapped.mp hs)
  | all mode timeout refused children ih => cases mode <;> rfl

/-- Only the last change counts. -/
theorem retimed_retimed {s : Strategy} (hs : s.Steady) (d e : Duration) :
    (s.retimed e).retimed d = s.retimed d := by
  induction s using tree with
  | polled c => cases c <;> rfl
  | nothing => rfl
  | duration length => rfl
  | custom c =>
    have hr : c.refuses e = c.refuses d := hs c (mem_nodes_self _) e d
    cases h : c.refuses d <;> simp [retimed, hr, h]
  | wrapped wrapper inner ih => rw [retimed, retimed, ih (steady_wrapped.mp hs), retimed]
  | all mode timeout refused children ih =>
    cases mode with
    | individual => rfl
    | maximum => rfl
    | outer =>
      -- the second change finds the same refusals, of which the first one stays
      have hr : firstRefusal e children = firstRefusal d children :=
        firstRefusal_congr fun child hc => (hs.child hc).refusal_eq e d
      rw [retimed_outer, retimed_outer, retimed_outer, firstRefusal_retimed, List.map_map, hr]
      congr 1
      · cases refused with
        | some cause => rfl
        | none => cases firstRefusal d children <;> rfl
      · exact List.map_congr_left fun child hc => ih child hc (hs.child hc)

/-- A strategy from elsewhere that refuses short timeouts stays with the last one that was long. -/
example :
    let c : Custom := {
      name := "slow"
      refuses := fun d => if d < .ofSecs 2 then some (.readTimeoutTooShort d) else none }
    (((custom c).retimed (.ofSecs 3)).retimed (.ofSecs 1)).startupTimeout = .ofSecs 3 ∧
      ((custom c).retimed (.ofSecs 1)).startupTimeout = .ofSecs 60 := by
  decide +kernel

theorem orElse_firstRefusal_cons (d : Duration) (refused : Option ConfigurationError)
    (child : Strategy) (rest : List Strategy) :
    ((refused <|> child.refusal d) <|> firstRefusal d rest) =
      (refused <|> firstRefusal d (child :: rest)) := by
  unfold firstRefusal
  rw [List.findSome?_cons]
  cases refused with
  | some cause => rfl
  | none => cases child.refusal d <;> rfl

theorem pushTimeouts_eq (hc : ∀ child ∈ children, ∀ w,
      ∃ v, (child.setTimeout d : Timed ε _) w = .ok (child.retimed d, child.refusal d) v)
    (refused : Option ConfigurationError) (w : World) :
    ∃ v, (pushTimeouts d refused children : Timed ε _) w =
      .ok (children.map (retimed d), refused <|> firstRefusal d children) v := by
  induction children generalizing refused w with
  | nil =>
    refine ⟨w, ?_⟩
    cases refused <;> rfl
  | cons child rest ih =>
    have hr := ih (fun c h => hc c (List.mem_cons_of_mem _ h)) (refused <|> child.refusal d)
    rw [orElse_firstRefusal_cons] at hr
    obtain ⟨v, hv⟩ := hc child List.mem_cons_self w
    rw [pushTimeouts, Timed.bind_of_ok hv, List.map_cons]
    dsimp only
    cases h : child.refusal d with
    | none =>
      rw [h] at hr
      obtain ⟨u, hu⟩ := hr v
      exact ⟨u, Timed.bind_of_ok hu⟩
    | some cause =>
      rw [h] at hr
      obtain ⟨v', hv'⟩ : ∃ v', (warnRefused (child.retimed d) cause : Timed ε Unit) v = .ok () v' :=
        ⟨_, rfl⟩
      obtain ⟨u, hu⟩ := hr v'
      dsimp only
      rw [Timed.bind_of_ok hv']
      exact ⟨u, Timed.bind_of_ok hu⟩

/-- A change of the timeout comes to an end, with a strategy that depends on no world. -/
theorem setTimeout_eq (d : Duration) (s : Strategy) (w : World) :
    ∃ v, (s.setTimeout d : Timed ε _) w = .ok (s.retimed d, s.refusal d) v := by
  induction s using tree generalizing w with
  | polled c => cases c <;> exact ⟨w, rfl⟩
  | nothing => exact ⟨w, rfl⟩
  | duration length => exact ⟨w, rfl⟩
  | custom c =>
    rw [setTimeout, Timed.bind_of_ok (x := Timed.record _) rfl, retimed, refusal]
    cases c.refuses d <;> exact ⟨_, rfl⟩
  | wrapped wrapper inner ih =>
    obtain ⟨v, hv⟩ := ih w
    rw [setTimeout_wrapped, Timed.bind_of_ok hv]
    exact ⟨v, rfl⟩
  | all mode timeout refused children ih =>
    cases mode with
    | individual => exact ⟨w, rfl⟩
    | maximum => exact ⟨w, rfl⟩
    | outer =>
      obtain ⟨v, hv⟩ := pushTimeouts_eq ih refused w
      rw [setTimeout, Timed.bind_of_ok hv, retimed_outer]
      exact ⟨v, rfl⟩

/-! ## Composites -/

/-- Something that is done with a composite. -/
inductive Change
  | add (child : Strategy)
  /-- The composite is given up if it refuses. -/
  | withTimeout (d : Duration)
  | setTimeout (d : Duration)
  | wait

namespace Change

/-- The strategy after a change. -/
def apply (s : Strategy) : Change → Timed ConfigurationError Strategy
  | .add child => Strategy.add child s
  | .withTimeout d => do
    match ← s.setTimeout d with
    | (s, none) => return s
    | (_, some cause) => throw cause
  | .setTimeout d => return (← s.setTimeout d).1
  | .wait => do
    let _ ← s.wait.outcome
    return s

/-- The child that is added, if one is. -/
def child? : Change → Option Strategy
  | .add child => some child
  | _ => none

/-- The timeout that is asked for, if one is. -/
def timeout? : Change → Option Duration
  | .withTimeout d => some d
  | .setTimeout d => some d
  | _ => none

end Change

/-- The strategy with one more child, if it is a composite. -/
def added (s child : Strategy) : Strategy :=
  match s with
  | .all .outer d refused children =>
    .all .outer d (refused <|> child.refusal d) (children ++ [child.retimed d])
  | .all mode d refused children => .all mode d refused (children ++ [child])
  | s => s

theorem add_eq (child s : Strategy) (w : World) :
    ∃ v, (add child s : Timed ε _) w = .ok (s.added child) v := by
  cases s with
  | all mode d refused children =>
    cases mode with
    | individual | maximum => exact ⟨w, rfl⟩
    | outer =>
      have hc : ∀ c ∈ [child], ∀ w,
          ∃ v, (c.setTimeout d : Timed ε _) w = .ok (c.retimed d, c.refusal d) v :=
        fun c _ w => setTimeout_eq d c w
      obtain ⟨v, hv⟩ := pushTimeouts_eq hc refused w
      rw [firstRefusal_singleton] at hv
      exact ⟨v, Timed.bind_of_ok hv⟩
  | _ => exact ⟨w, rfl⟩

/-- The strategy that a change leaves, unless it is given up. -/
def Change.result (s : Strategy) : Change → Strategy
  | .add child => s.added child
  | .withTimeout d | .setTimeout d => s.retimed d
  | .wait => s

theorem apply_eq (c : Change) (s : Strategy) (w : World) :
    (∃ v, c.apply s w = .ok (c.result s) v) ∨
    ∃ d cause v, c = .withTimeout d ∧ s.refusal d = some cause ∧ c.apply s w = .error cause v := by
  cases c with
  | add child => exact .inl (add_eq child s w)
  | withTimeout d =>
    obtain ⟨v, hv⟩ := setTimeout_eq (ε := ConfigurationError) d s w
    cases hr : s.refusal d with
    | none =>
      rw [hr] at hv
      exact .inl ⟨v, Timed.bind_of_ok hv⟩
    | some cause =>
      rw [hr] at hv
      exact .inr ⟨d, cause, v, rfl, hr, Timed.bind_of_ok hv⟩
  | setTimeout d =>
    obtain ⟨v, hv⟩ := setTimeout_eq (ε := ConfigurationError) d s w
    exact .inl ⟨v, Timed.bind_of_ok hv⟩
  | wait =>
    cases hw : s.wait w with
    | ok a v => exact .inl ⟨v, Timed.bind_of_ok (Timed.outcome_of_ok hw)⟩
    | error e v => exact .inl ⟨v, Timed.bind_of_ok (Timed.outcome_of_error hw)⟩

theorem result_of_apply {c : Change} {s s' : Strategy} {v : World} (h : c.apply s w = .ok s' v) :
    s' = c.result s := by
  rcases apply_eq c s w with ⟨u, hu⟩ | ⟨_, _, u, -, -, hu⟩
  · rw [hu] at h
    cases h
    rfl
  · rw [hu] at h
    cases h

/-! A blueprint changes a strategy in these ways. -/

theorem build_add (env : Environment) (parent child : Blueprint) :
    (Blueprint.add parent child).build env = (do
      let s ← parent.build env
      let child ← child.build env
      (Change.add child).apply s) := rfl

theorem build_timeout (env : Environment) (parent : Blueprint) (d : Duration) :
    (Blueprint.timeout parent d).build env =
      parent.build env >>= fun s => (Change.withTimeout d).apply s := rfl

/-- The children that are added, in their order. -/
def addedBy (changes : List Change) : List Strategy := changes.filterMap Change.child?

/-- The timeout of a composite of the given mode that began with `d`: the last one that it has
accepted. -/
def timeoutAfter (mode : Mode) (d : Duration) (changes : List Change) : Duration :=
  if mode = .individual then d else ((changes.filterMap Change.timeout?).getLast?).getD d

/-- The composite that has the given children and has last accepted the timeout `d`. -/
def settled (mode : Mode) (children : List Strategy) (d : Duration) : Strategy :=
  match mode with
  | .outer => .all .outer d (firstRefusal d children) (children.map (retimed d))
  | .maximum => .all .maximum d none children
  | .individual => .all .individual d none children

variable {mode : Mode}

theorem timeoutAfter_cons (d : Duration) (c : Change) (changes : List Change) :
    timeoutAfter mode d (c :: changes) = timeoutAfter mode (timeoutAfter mode d [c]) changes := by
  unfold timeoutAfter
  by_cases hm : mode = .individual
  · rw [if_pos hm, if_pos hm, if_pos hm]
  · rw [if_neg hm, if_neg hm, if_neg hm, List.filterMap_cons, List.filterMap_cons]
    cases c.timeout? with
    | none => rfl
    | some t => rw [List.getLast?_cons]; rfl

theorem addedBy_cons (c : Change) (changes : List Change) :
    addedBy (c :: changes) = addedBy [c] ++ addedBy changes := by
  unfold addedBy
  rw [← List.filterMap_append, List.singleton_append]

theorem retimed_settled (hm : mode ≠ .individual)
    (hs : mode = .outer → ∀ child ∈ children, child.Steady) (d e : Duration) :
    (settled mode children e).retimed d = settled mode children d := by
  cases mode with
  | individual => exact absurd rfl hm
  | maximum => rfl
  | outer =>
    have hr : firstRefusal e children = firstRefusal d children :=
      firstRefusal_congr fun child hc => (hs rfl child hc).refusal_eq e d
    have ho : ((firstRefusal d children <|> firstRefusal d children) : Option _) =
        firstRefusal d children := by
      cases firstRefusal d children <;> rfl
    have hd : (children.map (retimed e)).map (retimed d) = children.map (retimed d) := by
      rw [List.map_map]
      exact List.map_congr_left fun child hc => retimed_retimed (hs rfl child hc) d e
    rw [settled, retimed_outer, firstRefusal_retimed, hr, ho, hd, settled]

theorem retimed_settled_after (hs : mode = .outer → ∀ child ∈ children, child.Steady)
    (d t : Duration) : (settled mode children d).retimed t =
      settled mode children (timeoutAfter mode d [.setTimeout t]) := by
  by_cases hm : mode = .individual
  · subst hm
    rfl
  · rw [retimed_settled hm hs, timeoutAfter, if_neg hm]
    rfl

theorem added_settled (mode : Mode) (children : List Strategy) (child : Strategy) (d : Duration) :
    (settled mode children d).added child = settled mode (children ++ [child]) d := by
  cases mode with
  | individual | maximum => rfl
  | outer =>
    rw [settled, settled, firstRefusal_append, firstRefusal_singleton, List.map_append]
    rfl

theorem setTimeout_settled (hs : mode = .outer → ∀ child ∈ children, child.Steady)
    (d t : Duration) (w : World) :
    ∃ v, ((settled mode children d).setTimeout t : Timed ε _) w =
      .ok (settled mode children (timeoutAfter mode d [.setTimeout t]),
        if mode = .individual then some (.timeoutNotSupported .individual) else none) v := by
  obtain ⟨v, hv⟩ := setTimeout_eq (ε := ε) t (settled mode children d) w
  rw [retimed_settled_after hs] at hv
  refine ⟨v, hv.trans ?_⟩
  cases mode <;> rfl

theorem result_settled (hs : mode = .outer → ∀ child ∈ children, child.Steady) (d : Duration)
    (c : Change) :
    c.result (settled mode children d) =
      settled mode (children ++ addedBy [c]) (timeoutAfter mode d [c]) := by
  have same : c.timeout? = none → timeoutAfter mode d [c] = d := by
    intro h
    unfold timeoutAfter
    split
    · rfl
    · simp [h]
  cases c with
  | add child =>
    rw [same rfl]
    exact added_settled mode children child d
  | withTimeout t | setTimeout t =>
    rw [show addedBy _ = [] from rfl, List.append_nil]
    exact retimed_settled_after hs d t
  | wait =>
    rw [same rfl, show addedBy _ = [] from rfl, List.append_nil]
    rfl

/-- What one change does to a composite. -/
theorem apply_settled (hs : mode = .outer → ∀ child ∈ children, child.Steady) (d : Duration)
    (c : Change) (w : World) :
    (∃ v, c.apply (settled mode children d) w =
      .ok (settled mode (children ++ addedBy [c]) (timeoutAfter mode d [c])) v) ∨
    (mode = .individual ∧ (∃ t, c = .withTimeout t) ∧
      ∃ v, c.apply (settled mode children d) w = .error (.timeoutNotSupported .individual) v) := by
  rcases apply_eq c (settled mode children d) w with hr | ⟨t, cause, v, hc, hr, hv⟩
  · rw [result_settled hs] at hr
    exact .inl hr
  · cases mode with
    | individual =>
      cases hr
      exact .inr ⟨rfl, ⟨t, hc⟩, v, hv⟩
    | maximum | outer => cases hr

theorem settled_nil (mode : Mode) : settled mode [] defaultOuterTimeout = composite mode := by
  cases mode <;> rfl

theorem foldlM_settled (changes : List Change)
    (hs : mode = .outer → ∀ child ∈ children ++ addedBy changes, child.Steady) (d : Duration)
    (w : World) :
    (∃ v, changes.foldlM Change.apply (settled mode children d) w =
      .ok (settled mode (children ++ addedBy changes) (timeoutAfter mode d changes)) v) ∨
    (mode = .individual ∧ (∃ t, Change.withTimeout t ∈ changes) ∧
      ∃ v, changes.foldlM Change.apply (settled mode children d) w =
        .error (.timeoutNotSupported .individual) v) := by
  induction changes generalizing children d w with
  | nil =>
    have ht : timeoutAfter mode d [] = d := by
      unfold timeoutAfter
      split <;> rfl
    rw [ht, show addedBy [] = [] from rfl, List.append_nil]
    exact .inl ⟨w, rfl⟩
  | cons c changes ih =>
    rw [addedBy_cons, ← List.append_assoc] at hs
    rw [List.foldlM_cons, addedBy_cons, timeoutAfter_cons, ← List.append_assoc]
    have hc : mode = .outer → ∀ child ∈ children, child.Steady := fun hm child hc =>
      hs hm child (List.mem_append_left _ (List.mem_append_left _ hc))
    rcases apply_settled hc d c w with ⟨v, hv⟩ | ⟨hm, ⟨t, rfl⟩, v, hv⟩
    · rw [Timed.bind_of_ok hv]
      rcases ih hs (timeoutAfter mode d [c]) v with hr | ⟨hm, ⟨t, ht⟩, hr⟩
      · exact .inl hr
      · exact .inr ⟨hm, ⟨t, List.mem_cons_of_mem _ ht⟩, hr⟩
    · exact .inr ⟨hm, ⟨t, List.mem_cons_self⟩, v, Timed.bind_of_error hv⟩

/-- What several changes do to a new composite. -/
theorem foldlM_composite (changes : List Change)
    (hs : mode = .outer → ∀ child ∈ addedBy changes, child.Steady) (w : World) :
    (∃ v, changes.foldlM Change.apply (composite mode) w = .ok (settled mode (addedBy changes)
      (timeoutAfter mode defaultOuterTimeout changes)) v) ∨
    (mode = .individual ∧ (∃ t, Change.withTimeout t ∈ changes) ∧
      ∃ v, changes.foldlM Change.apply (composite mode) w =
        .error (.timeoutNotSupported .individual) v) := by
  have hc : mode = .outer → ∀ child ∈ [] ++ addedBy changes, child.Steady := hs
  have h := foldlM_settled changes hc defaultOuterTimeout w
  rwa [List.nil_append, settled_nil] at h

/-! ## Reach -/

/-- The nodes of a strategy that a change of its timeout gets to: through wrappers and composites in
mode `Mode.outer`. -/
inductive Reaches : Strategy → Strategy → Prop
  | self (s : Strategy) : Reaches s s
  | wrapped {wrapper : Wrapper} {inner n : Strategy} :
    Reaches inner n → Reaches (.wrapped wrapper inner) n
  | outer {timeout : Duration} {refused : Option ConfigurationError} {children : List Strategy}
    {child n : Strategy} : child ∈ children → Reaches child n →
      Reaches (.all .outer timeout refused children) n

theorem Reaches.retimed {s n : Strategy} (h : s.Reaches n) (d : Duration) :
    (s.retimed d).Reaches (n.retimed d) := by
  induction h with
  | self s => exact .self _
  | wrapped _ ih => exact .wrapped ih
  | outer hc _ ih =>
    rw [retimed_outer]
    exact .outer (List.mem_map_of_mem hc) ih

theorem reaches_retimed {s n : Strategy} {d : Duration} (h : (s.retimed d).Reaches n) :
    ∃ m, s.Reaches m ∧ n = m.retimed d := by
  induction s using tree with
  | polled c =>
    refine ⟨_, .self _, ?_⟩
    cases c <;> cases h <;> rfl
  | nothing | duration _ | custom _ =>
    cases h
    exact ⟨_, .self _, rfl⟩
  | wrapped wrapper inner ih =>
    cases h with
    | self => exact ⟨_, .self _, rfl⟩
    | wrapped h =>
      obtain ⟨m, hm, hn⟩ := ih h
      exact ⟨m, .wrapped hm, hn⟩
  | all mode timeout refused children ih =>
    cases mode with
    | individual | maximum =>
      cases h
      exact ⟨_, .self _, rfl⟩
    | outer =>
      rw [retimed_outer] at h
      cases h with
      | self => exact ⟨_, .self _, (retimed_outer ..).symm⟩
      | outer hr h =>
        obtain ⟨child, hc, rfl⟩ := List.mem_map.mp hr
        obtain ⟨m, hm, hn⟩ := ih child hc h
        exact ⟨m, .outer hc hm, hn⟩

theorem reaches_retimed_polled {s : Strategy} {d : Duration} {c : Polled}
    (h : (s.retimed d).Reaches c.strategy) : c.poll.pace.timeout = d := by
  obtain ⟨m, -, hm⟩ := reaches_retimed h
  cases m with
  | all mode t refused children => cases mode <;> cases c <;> cases hm
  | nothing | duration _ | custom _ | wrapped _ _ => cases c <;> cases hm
  | logMessage _ | hostPort _ | http _ | shell _ | healthcheck _ =>
    cases c <;> cases hm
    rfl

theorem reaches_retimed_all {s : Strategy} {d t : Duration} {refused : Option ConfigurationError}
    (h : (s.retimed d).Reaches (.all mode t refused children)) (hm : mode ≠ .individual) :
    t = d := by
  obtain ⟨m, -, hn⟩ := reaches_retimed h
  cases m with
  | all mode' t' refused' children' =>
    cases mode' with
    | individual =>
      cases hn
      exact absurd rfl hm
    | maximum | outer =>
      cases hn
      rfl
  | nothing | duration _ | custom _ | wrapped _ _ => cases hn
  | logMessage _ | hostPort _ | http _ | shell _ | healthcheck _ => cases hn

/-- Strategies that a change of the timeout leaves as they are. -/
def Keeps : Strategy → Prop
  | .nothing => True
  | .duration _ => True
  | .all .individual _ _ _ => True
  | _ => False

theorem retimed_of_keeps {s : Strategy} (h : s.Keeps) (d : Duration) : s.retimed d = s := by
  cases s with
  | nothing => rfl
  | duration length => rfl
  | all mode t refused children =>
    cases mode with
    | individual => rfl
    | maximum | outer => exact h.elim
  | logMessage _ | hostPort _ | http _ | shell _ | healthcheck _ | custom _ | wrapped _ _ =>
    exact h.elim

/-- Whatever is done with a composite, it is settled by its mode, its children and the last timeout
that it has accepted. Strategies from elsewhere among its children have to be steady in mode
`Mode.outer`: what they refuse at one time and accept at another would be seen afterwards. -/
theorem composite_timeouts (mode : Mode) (changes : List Change)
    (hs : mode = .outer → ∀ child ∈ addedBy changes, child.Steady) (w : World) :
    let d := timeoutAfter mode defaultOuterTimeout changes
    let s := settled mode (addedBy changes) d
    ((∃ v, changes.foldlM Change.apply (composite mode) w = .ok s v) ∨
      (mode = .individual ∧ (∃ t, Change.withTimeout t ∈ changes) ∧
        ∃ v, changes.foldlM Change.apply (composite mode) w =
          .error (.timeoutNotSupported .individual) v)) ∧
    (mode ≠ .individual → ∀ t v, ∃ u, (s.setTimeout t : Timed ConfigurationError _) v =
      .ok (settled mode (addedBy changes) t, none) u) ∧
    (mode = .maximum → s = .all .maximum d none (addedBy changes)) ∧
    (mode = .outer →
      s = .all .outer d (firstRefusal d (addedBy changes)) ((addedBy changes).map (retimed d)) ∧
      (∀ c : Polled, s.Reaches c.strategy → c.poll.pace.timeout = d) ∧
      (∀ m t refused children, s.Reaches (.all m t refused children) → m ≠ .individual → t = d) ∧
      ∀ child ∈ addedBy changes,
        (∀ n, child.Reaches n → n.Keeps → s.Reaches n) ∧
        ∀ t refused children, child.Reaches (.all .maximum t refused children) →
          s.Reaches (.all .maximum d refused children)) ∧
    (mode = .individual → s = .all .individual defaultOuterTimeout none (addedBy changes) ∧
      ∀ t v, (s.setTimeout t : Timed ConfigurationError _) v =
        .ok (s, some (.timeoutNotSupported .individual)) v) := by
  intro d s
  have hr : mode ≠ .individual → s = s.retimed d := fun hm => (retimed_settled hm hs d d).symm
  refine ⟨foldlM_composite changes hs w, fun hm t v => ?_, fun hm => ?_, fun hm => ?_,
    fun hm => ?_⟩
  · obtain ⟨u, hu⟩ := setTimeout_settled hs d t v
    rw [if_neg hm, timeoutAfter, if_neg hm] at hu
    exact ⟨u, hu⟩
  · subst hm
    rfl
  · subst hm
    have hr := hr nofun
    have hc : ∀ child ∈ addedBy changes, ∀ n, child.Reaches n → s.Reaches (n.retimed d) :=
      fun child hc n h => .outer (List.mem_map_of_mem hc) (h.retimed d)
    refine ⟨rfl, fun c h => ?_, fun m t refused children h hi => ?_, fun child hm => ⟨?_, ?_⟩⟩
    · rw [hr] at h
      exact reaches_retimed_polled h
    · rw [hr] at h
      exact reaches_retimed_all h hi
    · intro n h hk
      have hn := hc child hm n h
      rwa [retimed_of_keeps hk] at hn
    · intro t refused children h
      exact hc child hm _ h
  · subst hm
    exact ⟨rfl, fun _ _ => rfl⟩

/-- A child that is polled, and a boxed composite with a time of its own, which is added later. -/
theorem composite_timeouts_boxed :
    let changes : List Change := [.add (.healthcheck ⟨⟨.ofMillis 3, .ofMillis 2⟩⟩),
      .setTimeout (.ofSecs 5),
      .add (.wrapped .box (.all .maximum (.ofMillis 9) none [.duration (.ofMillis 1)]))]
    let s : Strategy := .all .outer (.ofSecs 5) none [.healthcheck ⟨⟨.ofSecs 5, .ofMillis 2⟩⟩,
      .wrapped .box (.all .maximum (.ofSecs 5) none [.duration (.ofMillis 1)])]
    (∀ child ∈ addedBy changes, child.Steady) ∧
      ∀ w, ∃ v, changes.foldlM Change.apply (composite .outer) w = .ok s v := by
  intro changes s
  have hs : ∀ child ∈ addedBy changes, child.Steady := by
    intro child hc
    refine steady_of_forall_notMem fun c hn => ?_
    simp only [changes, addedBy, Change.child?, List.filterMap_cons, List.filterMap_nil,
      List.mem_cons, List.not_mem_nil, or_false] at hc
    rcases hc with rfl | rfl <;> simp [nodes, nodesEach] at hn
  refine ⟨hs, fun w => ?_⟩
  rcases (composite_timeouts .outer changes (fun _ => hs) w).1 with h | ⟨h, -⟩
  · exact h
  · cases h

end Strategy

end Readiness
