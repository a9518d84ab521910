import Readiness.Proofs.Poll.Delay
import Readiness.Proofs.Strategy.Tree

/-! # Waits in two worlds

In worlds that are related, and whose clocks are a fixed time apart (`World.Shifted`), a wait has
the same end (`Strategy.wait_shifted`). A composite whose children are replaced by others of the same
kinds has the same end if the children have (`Strategy.wait_all_shifted`). -/

namespace Readiness

open Timed

variable {δ : Nat} {R : World → World → Prop}

theorem Polled.wait_shifted (hR : World.Shifted δ R) (c : Polled) :
    Agree R c.strategy.wait c.strategy.wait := by
  have L := parallel hR.toParallel
  rw [c.wait_eq]
  refine (L.setUp c).bind fun plan => ?_
  cases plan with
  | none => exact agree_pure _
  | some plan => exact Poll.run_shifted hR (L.attempt c plan) _ _

namespace Strategy

variable {mode : Mode} {ceiling : Duration} {started count index : Nat} {place : String}
  {children : List Strategy} {f : Strategy → Strategy}

section

variable (hR : World.Shifted δ R)
include hR

theorem waitChild_shifted {x y : Wait Unit} (h : Agree R x y) :
    Agree R (waitChild mode ceiling started place x)
      (waitChild mode ceiling (started + δ) place y) := by
  rw [waitChild_eq, waitChild_eq]
  refine h.outcome.bind fun r => agree_get fun w v hr => ?_
  have hj : judge mode ceiling (started + δ) place v r = judge mode ceiling started place w r := by
    unfold judge
    rw [hR.now hr, Nat.add_sub_add_right]
  rw [hj]
  exact (parallel hR.toParallel).judge mode ceiling started place w r w v hr

variable (hk : ∀ child ∈ children, (f child).kind = child.kind)
  (hc : ∀ child ∈ children, Agree R child.wait (f child).wait)
include hk hc

theorem waitEach_shifted :
    Agree R (waitEach mode ceiling started count index children)
      (waitEach mode ceiling (started + δ) count index (children.map f)) := by
  induction children generalizing index with
  | nil => exact agree_pure _
  | cons child rest ih =>
    rw [List.map_cons, waitEach, waitEach, hk child List.mem_cons_self]
    refine Agree.bind ((parallel hR.toParallel).say _ _) fun _ => ?_
    refine (waitChild_shifted hR (hc child List.mem_cons_self)).bind fun _ => ?_
    exact ih (fun c hm => hk c (List.mem_cons_of_mem _ hm))
      fun c hm => hc c (List.mem_cons_of_mem _ hm)

theorem wait_all_shifted (refused : Option ConfigurationError) :
    Agree R (all mode ceiling refused children).wait
      (all mode ceiling refused (children.map f)).wait := by
  have L := parallel hR.toParallel
  cases refused with
  | some cause => exact L.fail _
  | none =>
    rw [wait, wait, List.length_map]
    refine (L.say _ _).bind fun _ => agree_get fun w v h => ?_
    rw [hR.now h]
    exact (waitEach_shifted hR hk hc).bind (fun _ => L.say _ _) w v h

end

/-- A wait has the same end in related worlds. -/
theorem wait_shifted (hR : World.Shifted δ R) (s : Strategy) : Agree R s.wait s.wait := by
  have L := parallel hR.toParallel
  induction s using tree with
  | polled c => exact c.wait_shifted hR
  | nothing => exact agree_pure _
  | duration length => exact L.waitDuration length
  | custom c => exact L.waitCustom c
  | wrapped wrapper inner ih => rwa [wait_wrapped]
  | all mode timeout refused children ih =>
    have h : Agree R (all mode timeout refused children).wait
        (all mode timeout refused (children.map id)).wait :=
      wait_all_shifted hR (fun _ _ => rfl) ih refused
    rwa [List.map_id] at h

end Strategy

end Readiness
