import Readiness.Proofs.Condition.Law

/-! # Trees of strategies

The nodes of a strategy (`Strategy.nodes`), induction on its tree (`Strategy.tree`), what a wrapper
does (`Strategy.wait_wrapped`), and the laws of actions for whole strategies
(`Timed.Law.Clocked.wait`). -/

namespace Readiness

/-! ## Wrappers -/

namespace Variant

variable {α : Type}

theorem held?_eq (variant : Variant) (a : α) : variant.held? a = some a := by
  cases variant <;> rfl

theorem heldMut?_eq (variant : Variant) (a : α) : variant.heldMut? a = some a := by
  cases variant <;> rfl

end Variant

namespace Strategy

/-! Every condition that holds a strategy leaves everything to it, and so does a box. -/

@[simp] theorem kind_wrapped (wrapper : Wrapper) (inner : Strategy) :
    (wrapped wrapper inner).kind = inner.kind := by
  cases wrapper with
  | box => rfl
  | condition variant => rw [kind, variant.held?_eq, Option.getD_some]

@[simp] theorem startupTimeout_wrapped (wrapper : Wrapper) (inner : Strategy) :
    (wrapped wrapper inner).startupTimeout = inner.startupTimeout := by
  cases wrapper with
  | box => rfl
  | condition variant => rw [startupTimeout, variant.held?_eq, Option.getD_some]

theorem setTimeout_wrapped {ε : Type} (d : Duration) (wrapper : Wrapper) (inner : Strategy) :
    ((wrapped wrapper inner).setTimeout d : Timed ε _) =
      inner.setTimeout d >>= fun (s, refused) => pure (wrapped wrapper s, refused) := by
  cases wrapper with
  | box => rfl
  | condition variant => rw [setTimeout, variant.heldMut?_eq]

theorem wait_wrapped (wrapper : Wrapper) (inner : Strategy) :
    (wrapped wrapper inner).wait = inner.wait := by
  cases wrapper with
  | box => rfl
  | condition variant => rw [wait, variant.heldMut?_eq]

/-- A strategy comes to be a condition by being wrapped, if at all. -/
theorem toCondition_cases (s : Strategy) :
    s.toCondition = s ∨ ∃ variant, s.toCondition = .wrapped (.condition variant) s := by
  cases s with
  | logMessage _ | hostPort _ | http _ | shell _ | healthcheck _ | all _ _ _ _ =>
    exact .inr ⟨_, rfl⟩
  | nothing | duration _ | custom _ | wrapped _ _ => exact .inl rfl

/-! ## Nodes -/

mutual

/-- The strategy itself and all that it is made of. -/
def nodes : Strategy → List Strategy
  | .wrapped wrapper inner => .wrapped wrapper inner :: nodes inner
  | .all mode timeout refused children => .all mode timeout refused children :: nodesEach children
  | s => [s]

/-- The nodes of several strategies. -/
def nodesEach : List Strategy → List Strategy
  | [] => []
  | child :: rest => nodes child ++ nodesEach rest

end

/-- Induction on the tree of a strategy. The polled conditions make one case. -/
@[elab_as_elim]
theorem tree {motive : Strategy → Prop} (polled : ∀ c : Polled, motive c.strategy)
    (nothing : motive .nothing) (duration : ∀ length, motive (.duration length))
    (custom : ∀ c, motive (.custom c))
    (wrapped : ∀ wrapper inner, motive inner → motive (.wrapped wrapper inner))
    (all : ∀ mode timeout refused children, (∀ child ∈ children, motive child) →
      motive (.all mode timeout refused children)) (s : Strategy) : motive s := by
  refine Strategy.rec (motive_2 := fun children => ∀ child ∈ children, motive child)
    (fun c => polled (.logMessage c)) (fun c => polled (.hostPort c)) (fun c => polled (.http c))
    (fun c => polled (.shell c)) (fun c => polled (.healthcheck c)) nothing duration custom wrapped
    all nofun ?_ s
  intro child rest hc hr child' h
  rcases List.mem_cons.mp h with rfl | h
  · exact hc
  · exact hr child' h

theorem mem_nodesEach {n : Strategy} {children : List Strategy} :
    n ∈ nodesEach children ↔ ∃ child ∈ children, n ∈ child.nodes := by
  induction children with
  | nil => simp [nodesEach]
  | cons child rest ih => simp [nodesEach, ih]

theorem mem_nodes_self (s : Strategy) : s ∈ s.nodes := by
  cases s <;> simp [nodes]

theorem mem_nodes_wrapped {n inner : Strategy} {wrapper : Wrapper} (h : n ∈ inner.nodes) :
    n ∈ (wrapped wrapper inner).nodes := by
  rw [nodes]
  exact List.mem_cons_of_mem _ h

theorem mem_nodes_all {n child : Strategy} {mode : Mode} {timeout : Duration}
    {refused : Option ConfigurationError} {children : List Strategy} (hc : child ∈ children)
    (h : n ∈ child.nodes) : n ∈ (all mode timeout refused children).nodes := by
  rw [nodes]
  exact List.mem_cons_of_mem _ (mem_nodesEach.mpr ⟨child, hc, h⟩)

theorem nodes_polled (c : Polled) : c.strategy.nodes = [c.strategy] := by
  cases c <;> rfl

theorem mem_nodes_trans {m n s : Strategy} (hm : m ∈ n.nodes) (hn : n ∈ s.nodes) :
    m ∈ s.nodes := by
  induction s using tree with
  | polled c =>
    rw [nodes_polled, List.mem_singleton] at hn
    rwa [hn] at hm
  | nothing | duration _ | custom _ =>
    rw [nodes, List.mem_singleton] at hn
    · rwa [hn] at hm
    all_goals nofun
  | wrapped wrapper inner ih =>
    rw [nodes] at hn
    rcases List.mem_cons.mp hn with rfl | hn
    · exact hm
    · exact mem_nodes_wrapped (ih hn)
  | all mode timeout refused children ih =>
    rw [nodes] at hn
    rcases List.mem_cons.mp hn with rfl | hn
    · exact hm
    · obtain ⟨child, hc, hn⟩ := mem_nodesEach.mp hn
      exact mem_nodes_all hc (ih child hc hn)

/-! ## Waiting -/

variable {mode : Mode} {ceiling : Duration} {started : Nat} {place : String}

/-- What a composite makes of the end of a child. -/
def judge (mode : Mode) (ceiling : Duration) (started : Nat) (place : String) (w : World) :
    Except Halt Unit → Wait Unit
  | .error (.failed error) =>
    Wait.fail (wrapTimeout mode (.ofMillis (w.now - started)) place error)
  | .error .endless => throw .endless
  | .ok () =>
    if reachesCeiling mode ceiling (.ofMillis (w.now - started)) then
      Wait.fail (.timeout .waitAll (.ofMillis (w.now - started))
        ("reached the " ++ ceiling.text ++ " limit after " ++ place) none)
    else pure ()

theorem waitChild_eq (child : Wait Unit) : waitChild mode ceiling started place child =
    child.outcome >>= fun r => get >>= fun w => judge mode ceiling started place w r := by
  funext w
  unfold waitChild
  rw [Timed.bind_apply, Timed.outcome]
  cases child w with
  | ok a v =>
    dsimp only
    rw [Timed.bind_of_ok (x := get) (w := v) rfl, judge]
    split <;> rfl
  | error e v =>
    dsimp only
    rw [Timed.bind_of_ok (x := get) (w := v) rfl]
    cases e <;> rfl

end Strategy

namespace Timed.Law

variable {P : ∀ {ε α : Type}, Timed ε α → Prop} (L : Law P)
include L

theorem judge (mode : Mode) (ceiling : Duration) (started : Nat) (place : String) (w : World)
    (r : Except Halt Unit) : P (Strategy.judge mode ceiling started place w r) := by
  unfold Strategy.judge
  split
  · exact L.fail _
  · exact L.throw _
  · split
    · exact L.fail _
    · exact L.pure _

theorem waitDuration (length : Duration) : P (Strategy.duration length).wait :=
  L.bind L.targetId fun _ => L.bind (L.note ..) fun _ => L.pause _

theorem waitCustom (c : Custom) : P (Strategy.waitCustom c) := by
  refine L.bind (L.record _) fun _ => L.bind (L.pause _) fun _ => ?_
  split
  · exact L.fail _
  · exact L.pure _

end Timed.Law

namespace Timed.Law.Clocked

variable {P : ∀ {ε α : Type}, Timed ε α → Prop} (L : Clocked P)
include L

theorem waitChild {mode : Mode} {ceiling : Duration} {started : Nat} {place : String}
    {child : Wait Unit} (hc : P child) : P (Strategy.waitChild mode ceiling started place child) := by
  rw [Strategy.waitChild_eq]
  refine L.bind (L.outcome hc) fun r => L.clock (fun w => L.judge ..) fun w log => ?_
  cases r with
  | ok _ => rfl
  | error e => cases e <;> rfl

theorem waitEach {mode : Mode} {ceiling : Duration} {started count : Nat}
    {children : List Strategy} (hc : ∀ child ∈ children, P child.wait) (index : Nat) :
    P (Strategy.waitEach mode ceiling started count index children) := by
  induction children generalizing index with
  | nil => exact L.pure _
  | cons child rest ih =>
    refine L.bind (L.say ..) fun _ => L.bind (L.waitChild (hc child List.mem_cons_self)) fun _ => ?_
    exact ih (fun child' h => hc child' (List.mem_cons_of_mem _ h)) _

/-- A law of actions holds of the wait of every strategy. -/
theorem wait (s : Strategy) : P s.wait := by
  induction s using Strategy.tree with
  | polled c => exact L.polled c
  | nothing => exact L.pure _
  | duration length => exact L.waitDuration length
  | custom c => exact L.waitCustom c
  | wrapped wrapper inner ih => rwa [Strategy.wait_wrapped]
  | all mode timeout refused children ih =>
    cases refused with
    | some cause => exact L.fail _
    | none =>
      refine L.bind (L.say ..) fun _ => L.bind L.now fun _ => ?_
      exact L.bind (L.waitEach ih _) fun _ => L.say ..

theorem forM (children : List Strategy) : P (forM children Strategy.wait : Wait Unit) := by
  induction children with
  | nil => exact L.pure _
  | cons child rest ih => exact L.bind (L.wait child) fun _ => ih

end Timed.Law.Clocked

end Readiness
