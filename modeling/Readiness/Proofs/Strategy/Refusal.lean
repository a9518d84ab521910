import Readiness.Proofs.Strategy.Chain
import Readiness.Proofs.Strategy.Timeout

/-! # Refused timeouts

A composite in mode `Mode.outer` remembers the first refusal of a child and reports it whenever it is
waited on, whatever is done with it (`Strategy.foldlM_outer`), and with the tree that it has become a
part of (`Strategy.Grows.remembers`), afterwards. In the strategies that can be put together
(`Strategy.Made`) nothing else is remembered. `Strategy.refused_timeouts` collects what follows. -/

namespace Readiness

namespace Strategy

variable {ε : Type} {mode : Mode} {d : Duration} {refused : Option ConfigurationError}
  {children rest : List Strategy} {s s' t n child : Strategy} {w v u : World} {c : Change}
  {cause : ConfigurationError} {i : Nat} {path path' : List Nat}

/-! ## The first refusal -/

/-- The refusals of the children of a composite, in their order, when a change passes a timeout on to
them. -/
def Change.refusals (timeout : Duration) (children : List Strategy) :
    Change → List ConfigurationError
  | .add child => (child.refusal timeout).toList
  | .withTimeout d | .setTimeout d => children.filterMap (refusal d)
  | .wait => []

/-- The refusals of children in the course of several changes of a composite, which begins with the
given timeout and takes over every other. -/
def refusals (timeout : Duration) (children : List Strategy) : List Change → List ConfigurationError
  | [] => []
  | c :: changes => c.refusals timeout children ++
    refusals (c.timeout?.getD timeout) (children ++ c.child?.toList) changes

theorem timeoutAfter_outer_cons (timeout : Duration) (c : Change) (changes : List Change) :
    timeoutAfter .outer timeout (c :: changes) =
      timeoutAfter .outer (c.timeout?.getD timeout) changes := by
  rw [timeoutAfter_cons]
  cases c <;> rfl

theorem refusals_append (timeout : Duration) (children : List Strategy)
    (before after : List Change) :
    refusals timeout children (before ++ after) = refusals timeout children before ++
      refusals (timeoutAfter .outer timeout before) (children ++ addedBy before) after := by
  induction before generalizing timeout children with
  | nil => simp [refusals, addedBy, timeoutAfter]
  | cons c before ih =>
    have hc : addedBy (c :: before) = c.child?.toList ++ addedBy before := by
      rw [addedBy_cons]
      unfold addedBy
      cases h : c.child? <;> simp [h]
    rw [List.cons_append, refusals, refusals, ih, hc, timeoutAfter_outer_cons, List.append_assoc,
      List.append_assoc]

theorem orElse_head?_append (a b : List ConfigurationError) :
    (refused <|> (a ++ b).head?) = ((refused <|> a.head?) <|> b.head?) := by
  cases refused with
  | some cause => rfl
  | none => cases a <;> rfl

/-- The children refuse what the given ones refuse: they may have other timeouts. -/
def SameRefusals (children now : List Strategy) : Prop :=
  ∀ d, now.map (refusal d) = children.map (refusal d)

theorem SameRefusals.firstRefusal_eq (h : SameRefusals children rest) (d : Duration) :
    firstRefusal d rest = (children.filterMap (refusal d)).head? := by
  rw [List.head?_filterMap, ← firstRefusal, firstRefusal_eq_map, firstRefusal_eq_map, h]

theorem SameRefusals.retimed (h : SameRefusals children rest) (d : Duration) :
    SameRefusals children (rest.map (Strategy.retimed d)) := by
  intro e
  rw [← h, List.map_map]
  exact List.map_congr_left fun s _ => refusal_retimed d e s

theorem SameRefusals.append (h : SameRefusals children rest) (child : Strategy) (d : Duration) :
    SameRefusals (children ++ [child]) (rest ++ [child.retimed d]) := by
  intro e
  rw [List.map_append, List.map_append, h, List.map_singleton, List.map_singleton, refusal_retimed]

/-- A change of a composite in mode `Mode.outer` adds to what is remembered only if nothing has been
remembered before. -/
theorem result_outer (c : Change) (d : Duration) (refused : Option ConfigurationError)
    (h : SameRefusals children rest) :
    ∃ rest', c.result (.all .outer d refused rest) = .all .outer (c.timeout?.getD d)
        (refused <|> (c.refusals d children).head?) rest' ∧
      SameRefusals (children ++ c.child?.toList) rest' := by
  have push : ∀ t : Duration, (all .outer d refused rest).retimed t =
      .all .outer t (refused <|> (children.filterMap (refusal t)).head?)
        (rest.map (retimed t)) := by
    intro t
    rw [retimed_outer, h.firstRefusal_eq]
  cases c with
  | add child =>
    refine ⟨rest ++ [child.retimed d], ?_, h.append child d⟩
    rw [Change.result, added, Change.refusals, Option.head?_toList]
    rfl
  | withTimeout t | setTimeout t =>
    refine ⟨rest.map (retimed t), push t, ?_⟩
    simpa [Change.child?] using h.retimed t
  | wait =>
    refine ⟨rest, ?_, ?_⟩
    · cases refused <;> rfl
    · simpa [Change.child?] using h

theorem foldlM_outer (changes : List Change) (d : Duration)
    (refused : Option ConfigurationError) (h : SameRefusals children rest) (w : World) :
    ∃ d' rest' v, changes.foldlM Change.apply (.all .outer d refused rest) w =
      .ok (.all .outer d' (refused <|> (refusals d children changes).head?) rest') v := by
  induction changes generalizing d refused children rest w with
  | nil =>
    refine ⟨d, rest, w, ?_⟩
    cases refused <;> rfl
  | cons c changes ih =>
    obtain ⟨rest₁, hr, h₁⟩ := result_outer c d refused h
    rcases apply_eq c (.all .outer d refused rest) w with ⟨v₁, hv₁⟩ | ⟨_, _, _, -, hc, -⟩
    · obtain ⟨d', rest', v, hv⟩ := ih (c.timeout?.getD d) _ h₁ v₁
      rw [hr] at hv₁
      rw [List.foldlM_cons, Timed.bind_of_ok hv₁, refusals, orElse_head?_append]
      exact ⟨d', rest', v, hv⟩
    · cases hc

/-! ## Places in a tree -/

/-- A composite in mode `Mode.outer` that remembers this refusal. -/
def Remembers (cause : ConfigurationError) (s : Strategy) : Prop :=
  ∃ d children, s = .all .outer d (some cause) children

/-- It is reported, and nothing else is done. -/
theorem Remembers.wait_eq (h : s.Remembers cause) (w : World) :
    s.wait w = .error (.failed (.configuration cause)) w := by
  obtain ⟨d, children, rfl⟩ := h
  rfl

example (w : World) : ((composite .outer).added (composite .individual)).wait w =
    .error (.failed (.configuration (.timeoutNotSupported .individual))) w := rfl

theorem Remembers.retimed (h : s.Remembers cause) (d : Duration) :
    (s.retimed d).Remembers cause := by
  obtain ⟨t, children, rfl⟩ := h
  rw [retimed_outer]
  exact ⟨_, _, rfl⟩

theorem Remembers.result (h : s.Remembers cause) (c : Change) : (c.result s).Remembers cause := by
  cases c with
  | add child =>
    obtain ⟨t, children, rfl⟩ := h
    exact ⟨_, _, rfl⟩
  | withTimeout d | setTimeout d => exact h.retimed d
  | wait => exact h

/-- What is directly in a strategy, by its number. -/
def inner? : Strategy → Nat → Option Strategy
  | .wrapped _ inner, 0 => some inner
  | .all _ _ _ children, i => children[i]?
  | _, _ => none

/-- The node that a path leads to. -/
def at? : Strategy → List Nat → Option Strategy
  | s, [] => some s
  | s, i :: path => (s.inner? i).bind (at? · path)

theorem at?_cons : s.at? (i :: path) = some n ↔
    ∃ child, s.inner? i = some child ∧ child.at? path = some n := by
  rw [at?, Option.bind_eq_some_iff]

theorem inner?_retimed (h : s.inner? i = some n) (d : Duration) :
    (s.retimed d).inner? i = some n ∨ (s.retimed d).inner? i = some (n.retimed d) := by
  cases s with
  | wrapped wrapper inner =>
    cases i with
    | zero =>
      cases h
      exact .inr rfl
    | succ i => cases h
  | all mode t refused children =>
    cases mode with
    | individual | maximum => exact .inl h
    | outer =>
      rw [inner?] at h
      rw [retimed_outer, inner?, List.getElem?_map, h]
      exact .inr rfl
  | _ => cases h

theorem inner?_added (h : s.inner? i = some n) (child : Strategy) :
    (s.added child).inner? i = some n := by
  cases s with
  | all mode t refused children =>
    rw [inner?] at h
    have hi := (List.getElem?_eq_some_iff.mp h).1
    cases mode with
    | individual | maximum | outer => exact (List.getElem?_append_left hi).trans h
  | wrapped wrapper inner => exact h
  | _ => cases h

theorem remembers_at?_retimed (h : s.at? path = some n) (hn : n.Remembers cause) (d : Duration) :
    ∃ n', (s.retimed d).at? path = some n' ∧ n'.Remembers cause := by
  induction path generalizing s with
  | nil =>
    cases h
    exact ⟨_, rfl, hn.retimed d⟩
  | cons i path ih =>
    obtain ⟨child, hi, h⟩ := at?_cons.mp h
    rcases inner?_retimed hi d with hi | hi
    · exact ⟨n, at?_cons.mpr ⟨child, hi, h⟩, hn⟩
    · obtain ⟨n', h', hn'⟩ := ih h
      exact ⟨n', at?_cons.mpr ⟨_, hi, h'⟩, hn'⟩

theorem remembers_at?_result (h : s.at? path = some n) (hn : n.Remembers cause) (c : Change) :
    ∃ n', (c.result s).at? path = some n' ∧ n'.Remembers cause := by
  cases c with
  | add child =>
    cases path with
    | nil =>
      cases h
      exact ⟨_, rfl, hn.result (.add child)⟩
    | cons i path =>
      obtain ⟨inner, hi, h⟩ := at?_cons.mp h
      exact ⟨n, at?_cons.mpr ⟨inner, inner?_added hi child, h⟩, hn⟩
  | withTimeout d | setTimeout d => exact remembers_at?_retimed h hn d
  | wait => exact ⟨n, h, hn⟩

/-- What a strategy, with a place in it, can become: it is changed, wrapped, and added to a
composite. -/
inductive Grows (s : Strategy) (path : List Nat) : Strategy → List Nat → Prop
  | refl : Grows s path s path
  | changed {t t' : Strategy} {p : List Nat} {c : Change} {w v : World} :
    Grows s path t p → c.apply t w = .ok t' v → Grows s path t' p
  | wrapped {t : Strategy} {p : List Nat} (wrapper : Wrapper) :
    Grows s path t p → Grows s path (.wrapped wrapper t) (0 :: p)
  | added {t parent : Strategy} {p : List Nat} {mode : Mode} {d : Duration}
    {refused : Option ConfigurationError} {children : List Strategy} {w v : World} :
    Grows s path t p →
    (Change.add t).apply (.all mode d refused children) w = .ok parent v →
    Grows s path parent (children.length :: p)

theorem inner?_added_self (mode : Mode) (d : Duration) (refused : Option ConfigurationError)
    (children : List Strategy) (child : Strategy) :
    ((all mode d refused children).added child).inner? children.length = some child ∨
      ((all mode d refused children).added child).inner? children.length =
        some (child.retimed d) := by
  cases mode with
  | individual | maximum => exact .inl List.getElem?_concat_length
  | outer => exact .inr List.getElem?_concat_length

theorem Grows.remembers (h : Grows s path t path') (hs : s.at? path = some n)
    (hn : n.Remembers cause) : ∃ n', t.at? path' = some n' ∧ n'.Remembers cause := by
  induction h with
  | refl => exact ⟨n, hs, hn⟩
  | changed _ hc ih =>
    obtain ⟨n', h', hn'⟩ := ih
    rw [result_of_apply hc]
    exact remembers_at?_result h' hn' _
  | wrapped wrapper _ ih =>
    obtain ⟨n', h', hn'⟩ := ih
    exact ⟨n', at?_cons.mpr ⟨_, rfl, h'⟩, hn'⟩
  | @added t parent p mode d refused children w v _ hc ih =>
    obtain ⟨n', h', hn'⟩ := ih
    rw [result_of_apply hc]
    rcases inner?_added_self mode d refused children t with hi | hi
    · exact ⟨n', at?_cons.mpr ⟨_, hi, h'⟩, hn'⟩
    · obtain ⟨n₁, h₁, hn₁⟩ := remembers_at?_retimed h' hn' d
      exact ⟨n₁, at?_cons.mpr ⟨_, hi, h₁⟩, hn₁⟩

/-! ## Strategies that can be put together -/

/-- Strategies that are put together from new ones by changes. -/
inductive Made : Strategy → Prop
  | polled (c : Polled) : Made c.strategy
  | nothing : Made .nothing
  | duration (length : Duration) : Made (.duration length)
  | custom (c : Custom) : Made (.custom c)
  | wrapped {s : Strategy} (wrapper : Wrapper) : Made s → Made (.wrapped wrapper s)
  | composite (mode : Mode) : Made (composite mode)
  | changed {s s' : Strategy} {c : Change} {w v : World} : Made s →
    (∀ child, c.child? = some child → Made child) → c.apply s w = .ok s' v → Made s'

theorem Made.retimed (h : s.Made) (d : Duration) : (s.retimed d).Made := by
  obtain ⟨v, hv⟩ := setTimeout_eq (ε := ConfigurationError) d s {}
  exact .changed (c := .setTimeout d) h nofun (Timed.bind_of_ok hv)

/-- Every blueprint puts such a strategy together. -/
theorem Made.build (env : Environment) (b : Blueprint) (h : b.build env w = .ok s v) : s.Made := by
  induction b generalizing w s v with
  | logMessage settings =>
    obtain ⟨pace, u, -, h⟩ := Timed.bind_eq_ok.mp h
    cases h
    exact .polled (.logMessage _)
  | hostPort settings =>
    obtain ⟨pace, u, -, h⟩ := Timed.bind_eq_ok.mp h
    cases h
    exact .polled (.hostPort _)
  | http path settings =>
    obtain ⟨pace, u, -, h⟩ := Timed.bind_eq_ok.mp h
    cases h
    exact .polled (.http _)
  | shell settings =>
    obtain ⟨pace, u, -, h⟩ := Timed.bind_eq_ok.mp h
    cases h
    exact .polled (.shell _)
  | healthcheck settings =>
    obtain ⟨pace, u, -, h⟩ := Timed.bind_eq_ok.mp h
    cases h
    exact .polled (.healthcheck _)
  | nothing =>
    cases h
    exact .nothing
  | duration length =>
    cases h
    exact .duration length
  | millisVariable name =>
    unfold Blueprint.build at h
    cases hm : env.millis? name with
    | none =>
      rw [hm] at h
      cases h
      exact .nothing
    | some length =>
      rw [hm] at h
      cases h
      exact .duration length
  | custom c =>
    cases h
    exact .custom c
  | condition inner ih =>
    obtain ⟨s', u, hs, h⟩ := Timed.bind_eq_ok.mp h
    cases h
    rcases toCondition_cases s' with hc | ⟨variant, hc⟩
    · rw [hc]
      exact ih hs
    · rw [hc]
      exact .wrapped (.condition variant) (ih hs)
  | composite mode =>
    cases h
    exact .composite mode
  | add parent child ihp ihc =>
    rw [build_add] at h
    obtain ⟨s', u, hs, h⟩ := Timed.bind_eq_ok.mp h
    obtain ⟨child', u', hc, h⟩ := Timed.bind_eq_ok.mp h
    refine .changed (ihp hs) ?_ h
    rintro c ⟨⟩
    exact ihc hc
  | timeout parent d ih =>
    rw [build_timeout] at h
    obtain ⟨s', u, hs, h⟩ := Timed.bind_eq_ok.mp h
    exact .changed (c := .withTimeout d) (ih hs) nofun h

/-- What a composite remembers goes back to its children. -/
structure Coherence (mode : Mode) (timeout : Duration) (refused : Option ConfigurationError)
    (children : List Strategy) : Prop where
  /-- In the other modes nothing is remembered. -/
  other : mode ≠ .outer → refused = none
  /-- While nothing is remembered, no child refuses the timeout of the composite. -/
  accepted : mode = .outer → refused = none → firstRefusal timeout children = none
  /-- What is remembered has been the answer of a child to some timeout. -/
  answered : ∀ cause, refused = some cause → ∃ child ∈ children, ∃ d, child.refusal d = some cause
  /-- If the children answer the same to every timeout, it is their first refusal. -/
  first : mode = .outer → (∀ child ∈ children, ∀ d e, child.refusal d = child.refusal e) →
    refused = firstRefusal timeout children

/-- In the other modes neither the timeout nor the children matter. -/
theorem Coherence.of_ne (h : Coherence mode d refused children) (hm : mode ≠ .outer)
    (e : Duration) (rest : List Strategy) : Coherence mode e refused rest where
  other := h.other
  accepted ho := absurd ho hm
  answered cause hr := by
    rw [h.other hm] at hr
    cases hr
  first ho := absurd ho hm

/-- A composite goes on from one timeout to another. -/
theorem Coherence.retimed (h : Coherence .outer d refused children) (e : Duration) :
    Coherence .outer e (refused <|> firstRefusal e children) (children.map (retimed e)) where
  other hm := absurd rfl hm
  accepted _ hr := by
    rw [firstRefusal_retimed]
    cases refused with
    | none => exact hr
    | some cause => cases hr
  answered cause hr := by
    have hc : ∃ child ∈ children, ∃ t, child.refusal t = some cause := by
      cases refused with
      | some cause' => exact h.answered cause hr
      | none =>
        obtain ⟨child, hc, hr⟩ := List.exists_of_findSome?_eq_some hr
        exact ⟨child, hc, e, hr⟩
    obtain ⟨child, hc, t, ht⟩ := hc
    exact ⟨_, List.mem_map_of_mem hc, t, (refusal_retimed e t child).trans ht⟩
  first _ hs := by
    have hs : ∀ child ∈ children, ∀ t u, child.refusal t = child.refusal u := by
      intro child hc t u
      have hc := hs _ (List.mem_map_of_mem hc) t u
      rwa [refusal_retimed, refusal_retimed] at hc
    have hf : firstRefusal d children = firstRefusal e children :=
      firstRefusal_congr fun child hc => hs child hc d e
    rw [firstRefusal_retimed, h.first rfl hs, hf]
    cases firstRefusal e children <;> rfl

/-- A composite goes on with one more child. -/
theorem Coherence.added (h : Coherence .outer d refused children) (child : Strategy) :
    Coherence .outer d (refused <|> child.refusal d) (children ++ [child.retimed d]) where
  other hm := absurd rfl hm
  accepted _ hr := by
    rw [firstRefusal_append, firstRefusal_singleton, refusal_retimed]
    cases refused with
    | none =>
      rw [h.accepted rfl rfl]
      exact hr
    | some cause => cases hr
  answered cause hr := by
    cases refused with
    | some cause' =>
      obtain ⟨c, hc, ha⟩ := h.answered cause hr
      exact ⟨c, List.mem_append_left _ hc, ha⟩
    | none =>
      exact ⟨_, List.mem_append_right _ List.mem_cons_self, d, (refusal_retimed ..).trans hr⟩
  first _ hs := by
    rw [firstRefusal_append, firstRefusal_singleton, refusal_retimed,
      h.first rfl fun c hc => hs c (List.mem_append_left _ hc)]

/-- All composites of a strategy are coherent. -/
def Coherent (s : Strategy) : Prop := ∀ mode d refused children,
  .all mode d refused children ∈ s.nodes → Coherence mode d refused children

theorem coherent_of_isLeaf (h : s.IsLeaf) : s.Coherent := by
  intro m t r cs hn
  cases s with
  | wrapped wrapper inner | all m' t' r' cs' => exact h.elim
  | _ => cases List.mem_singleton.mp hn

theorem coherent_wrapped {wrapper : Wrapper} {inner : Strategy} :
    (wrapped wrapper inner).Coherent ↔ inner.Coherent := by
  unfold Coherent
  simp [nodes]

theorem coherent_all : (all mode d refused children).Coherent ↔
    Coherence mode d refused children ∧ ∀ child ∈ children, child.Coherent := by
  constructor
  · intro h
    refine ⟨h _ _ _ _ (mem_nodes_self _), fun child hc m t r cs hn => ?_⟩
    exact h m t r cs (mem_nodes_all hc hn)
  · rintro ⟨hr, hc⟩ m t r cs hn
    rw [nodes] at hn
    rcases List.mem_cons.mp hn with hn | hn
    · cases hn
      exact hr
    · obtain ⟨child, hm, hn⟩ := mem_nodesEach.mp hn
      exact hc child hm m t r cs hn

theorem Coherent.retimed (h : s.Coherent) (d : Duration) : (s.retimed d).Coherent := by
  induction s using tree with
  | polled c => cases c <;> exact coherent_of_isLeaf trivial
  | nothing | duration _ | custom c => exact coherent_of_isLeaf trivial
  | wrapped wrapper inner ih => exact coherent_wrapped.mpr (ih (coherent_wrapped.mp h))
  | all mode t refused children ih =>
    obtain ⟨hr, hc⟩ := coherent_all.mp h
    cases mode with
    | individual => exact h
    | maximum => exact coherent_all.mpr ⟨hr.of_ne nofun d children, hc⟩
    | outer =>
      rw [retimed_outer, coherent_all]
      refine ⟨hr.retimed d, fun child hm => ?_⟩
      obtain ⟨child', hm', rfl⟩ := List.mem_map.mp hm
      exact ih child' hm' (hc child' hm')

theorem Coherent.added (h : s.Coherent) (hc : child.Coherent) : (s.added child).Coherent := by
  cases s with
  | all mode t refused children =>
    obtain ⟨hr, hs⟩ := coherent_all.mp h
    have each : ∀ c : Strategy, c.Coherent → ∀ c' ∈ children ++ [c], c'.Coherent := by
      intro c hc c' hm
      rcases List.mem_append.mp hm with hm | hm
      · exact hs c' hm
      · rwa [List.mem_singleton.mp hm]
    cases mode with
    | individual | maximum => exact coherent_all.mpr ⟨hr.of_ne nofun t _, each child hc⟩
    | outer => exact coherent_all.mpr ⟨hr.added child, each _ (hc.retimed t)⟩
  | _ => exact h

theorem Made.coherent (h : s.Made) : s.Coherent := by
  induction h with
  | polled c => cases c <;> exact coherent_of_isLeaf trivial
  | nothing | duration _ | custom _ => exact coherent_of_isLeaf trivial
  | wrapped wrapper _ ih => exact coherent_wrapped.mpr ih
  | composite mode =>
    exact coherent_all.mpr ⟨⟨fun _ => rfl, fun _ _ => rfl, nofun, fun _ _ => rfl⟩, nofun⟩
  | @changed s s' c w v _ _ hc ih ihc =>
    rw [result_of_apply hc]
    cases c with
    | add child => exact ih.added (ihc child rfl)
    | withTimeout d | setTimeout d => exact ih.retimed d
    | wait => exact ih

/-! ## Which strategies refuse -/

/-- What is inside of all wrappers. -/
def bare : Strategy → Strategy
  | .wrapped _ inner => bare inner
  | s => s

theorem bare_mem_nodes (s : Strategy) : s.bare ∈ s.nodes := by
  induction s using tree with
  | wrapped wrapper inner ih => exact mem_nodes_wrapped ih
  | polled c => cases c <;> exact mem_nodes_self _
  | _ => exact mem_nodes_self _

/-- Refusals come from strategies from elsewhere and from composites in mode `Mode.individual`. -/
theorem refusal_eq_some_iff : s.refusal d = some cause ↔
    (∃ c, s.bare = .custom c ∧ c.refuses d = some cause) ∨
      ∃ t r cs, s.bare = .all .individual t r cs ∧ cause = .timeoutNotSupported .individual := by
  induction s using tree with
  | wrapped wrapper inner ih => exact ih
  | polled c => cases c <;> simp [refusal, bare, Polled.strategy]
  | nothing | duration length | custom c => simp [refusal, bare]
  | all mode t refused children _ => cases mode <;> simp [refusal, bare, eq_comm]

/-! ## Waits -/

theorem succeeds_of_forM (h : (forM children wait : Wait Unit).Succeeds w) (hc : child ∈ children) :
    ∃ u, child.wait.Succeeds u := by
  induction children generalizing w with
  | nil => cases hc
  | cons first rest ih =>
    obtain ⟨a, v, h⟩ := h
    rw [List.forM_cons] at h
    obtain ⟨b, u, hu, h⟩ := Timed.bind_eq_ok.mp h
    rcases List.mem_cons.mp hc with rfl | hc
    · exact ⟨w, b, u, hu⟩
    · exact ih ⟨a, v, h⟩ hc

/-- A refusal is passed on up to the next composite, which does not refuse but cannot succeed. -/
theorem refuses_or_fails (hs : s.Coherent) (h : s.Reaches n) (hn : ∀ d, n.refusal d ≠ none) :
    (∀ d, s.refusal d ≠ none) ∨ ∀ w, ¬ s.wait.Succeeds w := by
  induction h with
  | self => exact .inl hn
  | wrapped _ ih =>
    rw [wait_wrapped]
    exact ih (coherent_wrapped.mp hs) hn
  | @outer t refused children child n hc _ ih =>
    obtain ⟨hr, hcs⟩ := coherent_all.mp hs
    refine .inr fun w hw => ?_
    cases refused with
    | some cause =>
      obtain ⟨a, v, hw⟩ := hw
      cases hw
    | none =>
      rcases ih (hcs child hc) hn with hf | hf
      · exact hf t (firstRefusal_eq_none.mp (hr.accepted rfl rfl) child hc)
      · rw [succeeds_all_iff] at hw
        obtain ⟨u, hu⟩ := succeeds_of_forM hw.1 hc
        exact hf u hu

theorem wait_ne_timeoutNotSupported (hs : s.Coherent) (hc : ∀ c, Strategy.custom c ∉ s.nodes)
    (hp : ∀ d r cs, .all .outer d r cs ∈ s.nodes → ∀ child ∈ cs, ∀ t r' cs',
      child.bare ≠ .all .individual t r' cs') (m : Mode) (w v : World) :
    s.wait w ≠ .error (.failed (.configuration (.timeoutNotSupported m))) v := by
  intro h
  induction s using tree generalizing w with
  | polled c =>
    have hk := (Polled.wait_misconfigured h).1
    cases c <;> cases hk
  | nothing | duration length => cases h
  | custom c => exact hc c (mem_nodes_self _)
  | wrapped wrapper inner ih =>
    rw [wait_wrapped] at h
    exact ih (coherent_wrapped.mp hs) (fun c hm => hc c (mem_nodes_wrapped hm))
      (fun d r cs hm => hp d r cs (mem_nodes_wrapped hm)) w h
  | all mode t refused children ih =>
    obtain ⟨hr, hcs⟩ := coherent_all.mp hs
    have hn : refused = none := by
      refine Option.eq_none_iff_forall_ne_some.mpr fun cause hr' => ?_
      have hm : mode = .outer := by
        by_contra hm
        rw [hr.other hm] at hr'
        cases hr'
      obtain ⟨child, hm', d, hf⟩ := hr.answered cause hr'
      rcases refusal_eq_some_iff.mp hf with ⟨c, hb, -⟩ | ⟨t', r, cs, hb, -⟩
      · have hb' := bare_mem_nodes child
        rw [hb] at hb'
        exact hc c (mem_nodes_all hm' hb')
      · subst hm
        exact hp _ _ _ (mem_nodes_self _) child hm' t' r cs hb
    subst hn
    obtain ⟨i, t', ht, hw⟩ := wait_all_failed_iff.mp h
    have hm := List.mem_of_getElem? (turns_child ht)
    rcases waitChild_failed_iff.mp hw with ⟨e₁, h₁, he⟩ | ⟨-, -, -, he⟩
    · unfold wrapTimeout at he
      split at he
      · cases he
      · subst he
        exact ih t'.child hm (hcs _ hm) (fun c hn => hc c (mem_nodes_all hm hn))
          (fun d r cs hn => hp d r cs (mem_nodes_all hm hn)) _ h₁
    · cases he

/-- How a strategy answers to a change of its timeout. -/
structure AnswersChanges (s : Strategy) : Prop where
  /-- The change comes to an end, with a strategy and an answer that depend on no world. -/
  setTimeout : ∀ d w, ∃ v,
    (s.setTimeout d : Timed ConfigurationError _) w = .ok (s.retimed d, s.refusal d) v
  /-- It is refused by strategies from elsewhere and by composites in mode `Mode.individual`, whatever
  they are wrapped in, and by nothing else. -/
  refusal_iff : ∀ d cause, s.refusal d = some cause ↔
    (∃ c : Custom, s.bare = .custom c ∧ c.refuses d = some cause) ∨
      ∃ timeout refused children, s.bare = .all .individual timeout refused children ∧
        cause = .timeoutNotSupported .individual

/-- The first refusal of a child stays with a composite in mode `Mode.outer`. -/
structure KeepsRefusals (s : Strategy) : Prop where
  /-- Whatever is done with the composite: the first refusal is remembered at the end. -/
  changed : ∀ timeout refused children before after cause w,
    s = .all .outer timeout refused children →
    (refused.toList ++ refusals timeout children before).head? = some cause →
    ∃ s' v, (before ++ after).foldlM Change.apply s w = .ok s' v ∧ s'.Remembers cause
  /-- Whatever is done with the tree in which the composite is. -/
  grown : ∀ path tree path' node cause, Grows s path tree path' → s.at? path = some node →
    node.Remembers cause → ∃ node', tree.at? path' = some node' ∧ node'.Remembers cause
  /-- What is remembered is what every wait fails with, before anything else is done. -/
  wait_eq : ∀ cause, s.Remembers cause → ∀ w,
    s.wait w = .error (.failed (.configuration cause)) w

/-- What the composites in a strategy make of refusals. -/
structure ReportsRefusals (s : Strategy) : Prop where
  /-- A composite remembers a refusal if one of its children refuses its timeout. -/
  remembers : ∀ timeout refused children, .all .outer timeout refused children ∈ s.nodes →
    firstRefusal timeout children ≠ none →
    ∃ cause, (all .outer timeout refused children).Remembers cause
  /-- It is their first refusal, if the children answer the same to every timeout. -/
  remembers_first : ∀ timeout refused children cause,
    .all .outer timeout refused children ∈ s.nodes →
    (∀ child ∈ children, ∀ d e, child.refusal d = child.refusal e) →
    firstRefusal timeout children = some cause →
    (all .outer timeout refused children).Remembers cause
  /-- What is remembered has been the answer of a child. -/
  answered : ∀ timeout children cause, .all .outer timeout (some cause) children ∈ s.nodes →
    ∃ child ∈ children, ∃ d, child.refusal d = some cause
  /-- A composite does not succeed above one in mode `Mode.individual` to which it passes its timeout
  on. -/
  fails : ∀ timeout refused children, .all .outer timeout refused children ∈ s.nodes →
    ∀ timeout' refused' children', (all .outer timeout refused children).Reaches
      (.all .individual timeout' refused' children') →
    ∀ w, ¬ (all .outer timeout refused children).wait.Succeeds w
  /-- Without strategies from elsewhere, the mode of a composite is reported only if one in mode
  `Mode.outer` is right above it. -/
  supported : (∀ c, .custom c ∉ s.nodes) →
    (∀ timeout refused children, .all .outer timeout refused children ∈ s.nodes →
      ∀ child ∈ children, ∀ timeout' refused' children',
        child.bare ≠ .all .individual timeout' refused' children') →
    ∀ mode w v, s.wait w ≠ .error (.failed (.configuration (.timeoutNotSupported mode))) v

/-- A composite in mode `Mode.outer` reports the first refusal of its children for ever. In the
strategies that can be put together it cannot succeed above a composite in mode `Mode.individual`, and
the mode of a composite is reported only if one in mode `Mode.outer` is right above it. -/
theorem refused_timeouts (s : Strategy) :
    s.AnswersChanges ∧ s.KeepsRefusals ∧ (s.Made → s.ReportsRefusals) := by
  refine ⟨⟨fun d w => setTimeout_eq d s w, fun _ _ => refusal_eq_some_iff⟩,
    ⟨?_, fun _ _ _ _ _ hg hs hn => hg.remembers hs hn, fun _ h w => h.wait_eq w⟩, fun hs => ?_⟩
  · rintro d refused children before after cause w rfl h
    have hf : (refused <|> (refusals d children before).head?) = some cause := by
      cases refused <;> exact h
    obtain ⟨d', rest', v, hv⟩ :=
      foldlM_outer (before ++ after) d refused (fun _ => rfl : SameRefusals children children) w
    rw [refusals_append, orElse_head?_append, hf] at hv
    exact ⟨_, v, hv, d', rest', rfl⟩
  · have hcs : ∀ {d refused children}, .all .outer d refused children ∈ s.nodes →
        (all .outer d refused children).Coherent :=
      fun hn _ _ _ _ hm => hs.coherent _ _ _ _ (mem_nodes_trans hm hn)
    refine
      { remembers := fun d refused children hn hc => ?_
        remembers_first := fun d refused children cause hn hsame hc => ?_
        answered := fun d children cause hn => (hs.coherent _ _ _ _ hn).answered cause rfl
        fails := fun d refused children hn t r cs hr w => ?_
        supported := fun hc hp m w v => wait_ne_timeoutNotSupported hs.coherent hc hp m w v }
    · cases refused with
      | some cause => exact ⟨cause, d, children, rfl⟩
      | none => exact absurd ((hs.coherent _ _ _ _ hn).accepted rfl rfl) hc
    · have hr := (hs.coherent _ _ _ _ hn).first rfl hsame
      exact ⟨d, children, by rw [hr, hc]⟩
    · rcases refuses_or_fails (hcs hn) hr (fun _ => nofun) with hf | hf
      · exact absurd rfl (hf d)
      · exact hf w

end Strategy

end Readiness
