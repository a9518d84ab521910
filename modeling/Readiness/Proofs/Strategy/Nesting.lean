import Readiness.Proofs.Strategy.Sequence
import Readiness.Proofs.Strategy.Timeout

/-! # Composites inside of composites

A composite inside of another one of the same mode may as well be replaced by its children, in the
modes `Mode.outer` and `Mode.individual` (`Strategy.nesting`). In both of them a composite does what
its children do one after another, once the errors are looked at in a way in which a wrapped timeout
cannot be told from the timeout itself (`Strategy.Unwraps`, `Strategy.wait_all_agree`). In mode
`Mode.maximum` this fails: the inner composite has a ceiling of its own. -/

namespace Readiness

open Timed

/-- The error at the end of the sources. -/
def WaitError.innermost : WaitError → WaitError
  | .timeout _ _ _ (some source) => source.innermost
  | e => e

/-- How a wait ends early, as far as its error is seen. -/
def Halt.map (seen : WaitError → WaitError) : Halt → Halt
  | .failed e => .failed (seen e)
  | .endless => .endless

namespace Wait

variable {α : Type}

/-- The error with which a wait fails, if it does. -/
def failure (x : Wait α) (w : World) : Option WaitError :=
  match x w with
  | .error (.failed e) _ => some e
  | _ => none

/-- The two waits make the same calls and attempts to connect at the same times, take the same time
and succeed in the same cases, and what is seen of their errors is the same. -/
structure Same (seen : WaitError → WaitError) (x y : Wait α) (w : World) : Prop where
  calls : x.calls w = y.calls w
  took : x.took w = y.took w
  target : (x.after w).target = (y.after w).target
  network : (x.after w).network = (y.after w).network
  succeeds_iff : x.Succeeds w ↔ y.Succeeds w
  failure : (x.failure w).map seen = (y.failure w).map seen

end Wait

/-! ## Actions -/

namespace Timed

variable {ε δ α β : Type} {R : World → World → Prop} {x y z : Timed ε α} {w : World}

theorem Agree.symm (hs : ∀ {w v}, R w v → R v w) (h : Agree R x y) : Agree R y x := by
  intro w v hr
  have h := h v w (hs hr)
  cases hx : x v <;> cases hy : y w <;> rw [hx, hy] at h
  · exact ⟨h.1.symm, hs h.2⟩
  · exact h.elim
  · exact h.elim
  · exact ⟨h.1.symm, hs h.2⟩

theorem Agree.trans (hr : ∀ w, R w w) (ht : ∀ {u v w}, R u v → R v w → R u w)
    (hxy : Agree R x y) (hyz : Agree R y z) : Agree R x z := by
  intro w v h
  have h₁ := hxy w w (hr w)
  have h₂ := hyz w v h
  cases hx : x w <;> cases hy : y w <;> cases hz : z v <;> rw [hx, hy] at h₁ <;> rw [hy, hz] at h₂
  case ok.ok.ok => exact ⟨h₁.1.trans h₂.1, ht h₁.2 h₂.2⟩
  case error.error.error => exact ⟨h₁.1.trans h₂.1, ht h₁.2 h₂.2⟩
  all_goals first | exact h₁.elim | exact h₂.elim

/-- The two actions do the same to every world, but for the log, and end in the same way. -/
theorem sameWait_of_agree {x y : Wait α} {seen : WaitError → WaitError}
    (h : Agree World.Alike (x.mapError (Halt.map seen)) (y.mapError (Halt.map seen))) (w : World) :
    Wait.Same seen x y w := by
  have hr := h w w (.refl w)
  have hw : (x.after w).Alike (y.after w) ∧ (x.Succeeds w ↔ y.Succeeds w) ∧
      (x.failure w).map seen = (y.failure w).map seen := by
    unfold mapError at hr
    unfold after Succeeds Wait.failure
    cases hx : x w <;> cases hy : y w <;> rw [hx, hy] at hr
    case ok.ok => exact ⟨hr.2, by simp, rfl⟩
    case ok.error => exact hr.elim
    case error.ok => exact hr.elim
    case error.error e v e' u =>
      obtain ⟨he, hr⟩ := hr
      refine ⟨hr, by simp, ?_⟩
      cases e <;> cases e'
      case failed.failed e e' => exact congrArg some (Halt.failed.inj he)
      case failed.endless => cases he
      case endless.failed => cases he
      case endless.endless => rfl
  obtain ⟨ha, hs, hf⟩ := hw
  refine ⟨?_, ?_, ha.target_eq, ?_, hs, hf⟩
  · rw [calls, calls, ha.journal_eq]
  · rw [took, took, ha.now_eq]
  · rw [show y.after w = _ from ha]

/-! What is said is not looked at. -/

theorem agree_say_bind {g : Halt → δ} {x : Wait α} {z : Timed δ α} (level : Level) (text : String)
    (h : Agree World.Alike (x.mapError g) z) :
    Agree World.Alike ((Wait.say level text >>= fun _ => x).mapError g) z := by
  intro w v hw
  rw [mapError, bind_of_ok (x := Wait.say level text) (w := w) rfl]
  exact h _ v ((World.alike_log w _).symm.trans hw)

theorem agree_bind_say {g : Halt → δ} {x : Wait Unit} {z : Timed δ Unit} (level : Level)
    (text : String) (h : Agree World.Alike (x.mapError g) z) :
    Agree World.Alike ((x >>= fun _ => Wait.say level text).mapError g) z := by
  intro w v hw
  have hr := h w v hw
  rw [mapError] at hr ⊢
  rw [bind_apply]
  cases hx : x w with
  | ok a u =>
    rw [hx] at hr
    cases hz : z v with
    | ok b u' =>
      rw [hz] at hr
      exact ⟨rfl, (World.alike_log u _).symm.trans hr.2⟩
    | error e u' =>
      rw [hz] at hr
      exact hr.elim
  | error e u =>
    rw [hx] at hr
    exact hr

theorem agree_now_bind {g : ε → δ} {f : Nat → Timed ε α} {z : Timed δ α}
    (h : ∀ t, Agree World.Alike ((f t).mapError g) z) :
    Agree World.Alike ((now >>= f).mapError g) z :=
  fun w v hw => h w.now w v hw

end Timed

namespace Strategy

variable {mode : Mode} {ceiling d t : Duration} {started count index : Nat} {place : String}
  {a b c children : List Strategy} {inner : Strategy} {seen : WaitError → WaitError} {w : World}

/-! ## Composites and their children -/

/-- A wrapped timeout looks like the timeout itself. -/
def Unwraps (mode : Mode) (seen : WaitError → WaitError) : Prop := ∀ elapsed place e,
  seen (wrapTimeout mode elapsed place e) = seen e

theorem unwraps_individual : Unwraps .individual id := by
  intro elapsed place e
  simp [wrapTimeout]

theorem unwraps_innermost (mode : Mode) : Unwraps mode WaitError.innermost := by
  intro elapsed place e
  unfold wrapTimeout
  split <;> rfl

variable (hm : mode ≠ .maximum) (hg : Unwraps mode seen)
include hm hg

theorem waitChild_mapError (x : Wait Unit) :
    (waitChild mode ceiling started place x).mapError (Halt.map seen) =
      x.mapError (Halt.map seen) := by
  funext w
  have hc : ∀ elapsed, reachesCeiling mode ceiling elapsed = false := by
    intro elapsed
    simp [reachesCeiling, hm]
  unfold mapError waitChild
  cases x w with
  | ok a v => simp [hc]
  | error e v =>
    cases e with
    | failed e => simp [Halt.map, hg _ _ e]
    | endless => rfl

theorem waitEach_agree (children : List Strategy) (index : Nat) :
    Agree World.Alike
      ((waitEach mode ceiling started count index children).mapError (Halt.map seen))
      ((forM children wait : Wait Unit).mapError (Halt.map seen)) := by
  induction children generalizing index with
  | nil => exact agree_pure _
  | cons child rest ih =>
    rw [waitEach, List.forM_cons]
    refine agree_say_bind _ _ ?_
    rw [mapError_bind, mapError_bind, waitChild_mapError hm hg]
    exact ((logBlind.wait child).mapError (Halt.map seen)).bind fun _ => ih _

/-- A composite does what its children do one after another. -/
theorem wait_all_agree (ceiling : Duration) (children : List Strategy) :
    Agree World.Alike ((all mode ceiling none children).wait.mapError (Halt.map seen))
      ((forM children wait : Wait Unit).mapError (Halt.map seen)) := by
  rw [wait]
  refine agree_say_bind _ _ (agree_now_bind fun started => agree_bind_say _ _ ?_)
  exact waitEach_agree hm hg children 1

/-- Among other strategies too, a composite does what its children do. -/
theorem forM_nested (ceiling : Duration) (a b c : List Strategy) :
    Agree World.Alike
      ((forM (a ++ [all mode ceiling none b] ++ c) wait : Wait Unit).mapError (Halt.map seen))
      ((forM (a ++ b ++ c) wait : Wait Unit).mapError (Halt.map seen)) := by
  have hL : ∀ children, Agree World.Alike
      ((forM children wait : Wait Unit).mapError (Halt.map seen))
      ((forM children wait : Wait Unit).mapError (Halt.map seen)) :=
    fun children => (logBlind.forM children).mapError (Halt.map seen)
  simp only [List.forM_append, mapError_bind]
  refine Agree.bind ((hL a).bind fun _ => ?_) fun _ => hL c
  rw [List.forM_cons, List.forM_nil, bind_pure]
  exact wait_all_agree hm hg ceiling b

theorem wait_nested (ceiling ceiling' : Duration) (a b c : List Strategy) (w : World) :
    Wait.Same seen (all mode ceiling none (a ++ [all mode ceiling' none b] ++ c)).wait
      (all mode ceiling none (a ++ b ++ c)).wait w := by
  have trans : ∀ {x y z : Timed Halt Unit}, Agree World.Alike x y → Agree World.Alike y z →
      Agree World.Alike x z := Agree.trans World.Alike.refl World.Alike.trans
  refine sameWait_of_agree (trans (wait_all_agree hm hg _ _) ?_) w
  refine trans (forM_nested hm hg _ _ _ _) ?_
  exact (wait_all_agree hm hg _ _).symm World.Alike.symm

omit hm hg

/-! ## Composites that have been put together -/

/-- A composite of the given mode that has been given these children, in this order, and has last
accepted the timeout `d`, whatever else has been done with it. -/
def Built (mode : Mode) (children : List Strategy) (d : Duration) (s : Strategy) : Prop :=
  ∃ changes w v, changes.foldlM Change.apply (composite mode) w = .ok s v ∧
    addedBy changes = children ∧ timeoutAfter mode defaultOuterTimeout changes = d

theorem Built.eq_settled {s : Strategy} (h : Built mode children d s)
    (hs : mode = .outer → ∀ child ∈ children, child.Steady) : s = settled mode children d := by
  obtain ⟨changes, w, v, hb, rfl, rfl⟩ := h
  rcases foldlM_composite changes hs w with ⟨u, hu⟩ | ⟨-, -, u, hu⟩
  · rw [hb] at hu
    cases hu
    rfl
  · rw [hb] at hu
    cases hu

/-- Every composite can be put together, with any timeout that its mode accepts. -/
theorem exists_built (hs : mode = .outer → ∀ child ∈ children, child.Steady)
    (h : mode = .individual → d = defaultOuterTimeout) : ∃ s, Built mode children d s := by
  let changes : List Change := .setTimeout d :: children.map .add
  have ha : addedBy changes = children := by
    rw [addedBy_cons, show addedBy [.setTimeout d] = [] from rfl, List.nil_append, addedBy,
      List.filterMap_map, show Change.child? ∘ Change.add = some from rfl, List.filterMap_some]
  have ht : timeoutAfter mode defaultOuterTimeout changes = d := by
    unfold timeoutAfter
    split
    · next hm => exact (h hm).symm
    · have hn : (children.map Change.add).filterMap Change.timeout? = [] := by
        simp [Change.timeout?]
      rw [List.filterMap_cons, hn]
      rfl
  rw [← ha] at hs
  rcases foldlM_composite changes hs {} with ⟨v, hv⟩ | ⟨-, ⟨t, hc⟩, -⟩
  · exact ⟨_, changes, {}, v, hv, ha, ht⟩
  · simp [changes] at hc

/-- The strategy accepts every timeout, and no part of it tells one from another. -/
structure Accepting (s : Strategy) : Prop where
  refusal : ∀ d, s.refusal d = none
  steady : s.Steady

/-- It does if it contains nothing that refuses a timeout. -/
theorem accepting_of_nodes {s : Strategy} (h : ∀ n ∈ s.nodes, ∀ d, n.refusal d = none) :
    s.Accepting where
  refusal := h s (mem_nodes_self s)
  steady _ hc d e := (h _ hc d).trans (h _ hc e).symm

/-- A composite whose children accept every timeout. -/
theorem settled_outer (h : ∀ s ∈ children, s.Accepting) (d : Duration) :
    settled .outer children d = all .outer d none (children.map (retimed d)) := by
  rw [settled, firstRefusal_eq_none.mpr fun s hs => (h s hs).refusal d]

theorem accepting_settled (h : ∀ s ∈ children, s.Accepting) (d : Duration) :
    (settled .outer children d).Accepting where
  refusal _ := rfl
  steady := steady_all fun child hc => by
    obtain ⟨child, hm, rfl⟩ := List.mem_map.mp hc
    exact (h child hm).steady.retimed d

theorem Built.accepting {s : Strategy} (h : Built .outer children d s)
    (hs : ∀ s ∈ children, s.Accepting) : s.Accepting := by
  rw [h.eq_settled fun _ s hm => (hs s hm).steady]
  exact accepting_settled hs d

/-- A composite in mode `Mode.outer` or `Mode.individual` that is put inside of another one of the
same mode might as well be replaced by its children. Only the chain of errors tells the difference,
and in mode `Mode.individual` nothing does. -/
theorem nesting (a b c : List Strategy) (d t : Duration) (inner nested flat : Strategy)
    (w : World) :
    ((∀ s ∈ a ++ b ++ c, s.Accepting) → Built .outer b t inner →
      Built .outer (a ++ [inner] ++ c) d nested → Built .outer (a ++ b ++ c) d flat →
      Wait.Same WaitError.innermost nested.wait flat.wait w) ∧
    (Built .individual b t inner → Built .individual (a ++ [inner] ++ c) d nested →
      Built .individual (a ++ b ++ c) d flat → Wait.Same id nested.wait flat.wait w) := by
  refine ⟨fun hr hi hn hf => ?_, fun hi hn hf => ?_⟩
  · have hb : ∀ s ∈ b, s.Accepting := fun s hs => hr s (by simp [hs])
    have hc : ∀ s ∈ a ++ [inner] ++ c, s.Accepting := by
      intro s hs
      simp only [List.mem_append, List.mem_singleton] at hs
      rcases hs with (hs | rfl) | hs
      · exact hr s (by simp [hs])
      · exact hi.accepting hb
      · exact hr s (by simp [hs])
    -- the timeout of the root gets to the children of the inner composite
    have hd : inner.retimed d = all .outer d none (b.map (retimed d)) := by
      have hm : Mode.outer ≠ .individual := nofun
      rw [hi.eq_settled fun _ s hs => (hb s hs).steady,
        retimed_settled hm fun _ s hs => (hb s hs).steady, settled_outer hb]
    rw [hn.eq_settled fun _ s hs => (hc s hs).steady,
      hf.eq_settled fun _ s hs => (hr s hs).steady, settled_outer hc, settled_outer hr]
    simp only [List.map_append, List.map_singleton, hd]
    have hm : Mode.outer ≠ .maximum := nofun
    exact wait_nested hm (unwraps_innermost .outer) d d _ _ _ w
  · rw [hi.eq_settled nofun] at hn
    rw [hn.eq_settled nofun, hf.eq_settled nofun]
    have hm : Mode.individual ≠ .maximum := nofun
    exact wait_nested hm unwraps_individual d t a b c w

/-- A composite of one child, with a timeout of its own, inside of another one. -/
theorem nesting_retimed :
    let quick : Strategy := .duration (.ofMillis 2)
    let slow : Strategy := .healthcheck ⟨⟨.ofMillis 3, .ofMillis 2⟩⟩
    ∃ inner nested flat, Built .outer [slow] (.ofSecs 1) inner ∧
      Built .outer ([quick] ++ [inner] ++ []) (.ofSecs 2) nested ∧
      Built .outer ([quick] ++ [slow] ++ []) (.ofSecs 2) flat ∧
      ∀ w, Wait.Same WaitError.innermost nested.wait flat.wait w := by
  intro quick slow
  have hr : ∀ s ∈ [quick] ++ [slow] ++ [], s.Accepting := by
    simp only [List.cons_append, List.nil_append, List.mem_cons, List.not_mem_nil, or_false]
    rintro s (rfl | rfl) <;>
      exact accepting_of_nodes fun n hn d => by cases List.mem_singleton.mp hn; rfl
  have built : ∀ {children : List Strategy} (d : Duration), (∀ s ∈ children, s.Accepting) →
      ∃ s, Built .outer children d s :=
    fun d h => exists_built (fun _ s hs => (h s hs).steady) nofun
  have hs : ∀ s ∈ [slow], s.Accepting := fun s hs => hr s (by simp_all)
  obtain ⟨inner, hi⟩ := built (.ofSecs 1) hs
  have hc : ∀ s ∈ [quick] ++ [inner] ++ [], s.Accepting := by
    simp only [List.cons_append, List.nil_append, List.mem_cons, List.not_mem_nil, or_false]
    rintro s (rfl | rfl)
    · exact hr _ List.mem_cons_self
    · exact hi.accepting hs
  obtain ⟨nested, hn⟩ := built (.ofSecs 2) hc
  obtain ⟨flat, hf⟩ := built (.ofSecs 2) hr
  exact ⟨inner, nested, flat, hi, hn, hf, fun w => (nesting _ _ _ _ _ _ _ _ w).1 hr hi hn hf⟩

/-- The ceiling of an inner composite makes a difference. -/
example :
    let child : Strategy := .duration (.ofMillis 2)
    let wait (children : List Strategy) := (all .maximum (.ofMillis 9) none children).wait
    (wait [child]).failure {} = none ∧
      (wait [all .maximum (.ofMillis 1) none [child]]).failure {} ≠ none := by
  decide +kernel

end Strategy

end Readiness
