import Readiness.Proofs.Condition.Attempt
import Readiness.Proofs.Condition.Law
import Readiness.Proofs.Poll.Schedule

/-! # The schedule of polled conditions

After its set-up a polled condition is attempted on the schedule of its poll. `Polled.wait_schedule`
says when its attempts are made and what its wait comes to. -/

namespace Readiness.Polled

/-! ## The course of a condition -/

/-- The memory and the world with which the `k`-th attempt after a set-up begins, counted from 0, if
it is made. -/
def course (c : Polled) (plan : c.Plan) (w : World) : Nat → Option (c.Memory × World) :=
  c.poll.course (c.attempt plan) c.blank w

/-- The `k`-th attempt after a set-up is made and comes to `r`, which leaves the world `u`. -/
def Comes (c : Polled) (plan : c.Plan) (w : World) : Nat → Attempt c.Memory → World → Prop :=
  c.poll.Comes (c.attempt plan) c.blank w

/-- The `k`-th attempt after a set-up is made and misses. -/
def Misses (c : Polled) (plan : c.Plan) (w : World) (k : Nat) : Prop :=
  ∃ memory detail u, c.Comes plan w k (.missed memory detail) u

theorem attempt_forward (c : Polled) (plan : c.Plan) (memory : c.Memory) :
    (c.attempt plan memory).Forward :=
  Timed.forward.attempt c plan memory

variable {c : Polled} {plan : c.Plan} {w w₀ : World}

/-- After a set-up that finds something to attempt, the wait is the poll. -/
theorem wait_of_setUp (hs : c.setUp w = .ok (some plan) w₀) : c.strategy.wait w = c.run plan w₀ := by
  rw [c.wait_eq, Timed.bind_of_ok hs, Option.elim_some]

/-- The errors of attempts are not timeouts. -/
theorem attempt_not_timeout {memory : c.Memory} {e : WaitError} {v u : World}
    (h : c.attempt plan memory v = .error (.failed e) u) : e.isTimeout = false := by
  obtain ⟨-, ⟨t, ht⟩ | ⟨ht, -⟩⟩ := (c.attempt_ends plan memory v).of_error h
  · cases ht
    cases t <;> rfl
  · cases ht

/-- A wait that is polled with pauses returns, unless its client may wait for ever. -/
theorem wait_returns (hp : .zero < c.poll.pace.interval)
    (hc : ∀ h, c = .http h → h.clientOf.timeout ≠ none) (w : World) :
    c.strategy.wait.Returns w := by
  rw [c.wait_eq]
  refine (c.setUp_returns w).bind fun plan w₀ => ?_
  cases plan with
  | none => exact Wait.returns_pure _ w₀
  | some plan =>
    rw [Option.elim_some]
    unfold Wait.Returns Timed.Ends
    cases hr : c.run plan w₀ with
    | ok a v => trivial
    | error e v =>
      dsimp only
      rcases Poll.run_cases hp (c.attempt_forward plan) c.blank w₀ with ⟨k, u, h⟩ |
        ⟨k, memory, v', e', u, h, he⟩ | ⟨k, memory, detail, u, h, hl⟩
      · rw [run, Poll.run_of_ready hp (c.attempt_forward plan) h] at hr
        cases hr
      · rw [run, Poll.run_of_error hp (c.attempt_forward plan) h he] at hr
        cases hr
        -- an attempt that goes on for ever has a client without a limit
        obtain ⟨-, ⟨t, ht⟩ | ⟨-, h, hh, ht⟩⟩ := (c.attempt_ends plan memory v').of_error he
        · exact ⟨_, ht⟩
        · exact absurd ht (hc h hh)
      · obtain ⟨log, he⟩ := Poll.run_of_late hp (c.attempt_forward plan) h hl
        rw [run, he] at hr
        cases hr
        exact ⟨_, rfl⟩

/-! ## The schedule -/

/-- What a wait does after a set-up, whatever time its attempts take. -/
structure Verdict (c : Polled) (plan : c.Plan) (w w₀ : World) : Prop where
  /-- The loop of the wait comes to every state of the course. -/
  loop : ∀ k memory v, c.course plan w₀ k = some (memory, v) →
    ∃ n, c.strategy.wait w = c.poll.rounds w₀.now (c.attempt plan) (n + 1) k memory v
  /-- Another attempt is made exactly after a miss that ends before the timeout. -/
  next_iff : ∀ k, (c.course plan w₀ (k + 1)).isSome ↔
    ∃ memory detail u, c.Comes plan w₀ k (.missed memory detail) u ∧
      .ofMillis (u.now - w₀.now) < c.poll.pace.timeout
  /-- The wait succeeds exactly with an attempt that does, and ends with it. -/
  ready_iff : ∀ u, c.strategy.wait w = .ok () u ↔ ∃ k, c.Comes plan w₀ k .ready u
  /-- No attempt is made after one that succeeds. -/
  ready_last : ∀ k u, c.Comes plan w₀ k .ready u → ∀ j, k < j → c.course plan w₀ j = none
  /-- The wait times out exactly if a miss ends at or after the timeout. -/
  times_out_iff : (∃ e u, c.strategy.wait w = .error (.failed e) u ∧ e.isTimeout) ↔
    ∃ k memory detail u, c.Comes plan w₀ k (.missed memory detail) u ∧
      c.poll.pace.timeout ≤ .ofMillis (u.now - w₀.now)
  /-- It then ends with this miss, and reports the time up to its end. -/
  late : ∀ k memory detail u, c.Comes plan w₀ k (.missed memory detail) u →
    c.poll.pace.timeout ≤ .ofMillis (u.now - w₀.now) →
    ∃ log, c.strategy.wait w =
      .error (.failed (.timeout c.poll.kind (.ofMillis (u.now - w₀.now)) detail none)) { u with log }

section

variable (hs : c.setUp w = .ok (some plan) w₀) (hp : .zero < c.poll.pace.interval)
include hs hp

theorem verdict : c.Verdict plan w w₀ where
  loop k memory v h := by
    rw [wait_of_setUp hs]
    exact Poll.run_eq hp (c.attempt_forward plan) h
  next_iff _ := Poll.course_succ_isSome_iff
  ready_iff u := by
    rw [wait_of_setUp hs]
    exact Poll.run_eq_ok_iff hp (c.attempt_forward plan)
  ready_last k u h j hj := by
    obtain ⟨memory, v, hc, hr⟩ := h
    exact Poll.course_eq_none (fun _ _ _ h' => by rw [hr] at h'; cases h') hc hj
  times_out_iff := by
    rw [wait_of_setUp hs]
    exact Poll.run_times_out_iff hp (c.attempt_forward plan) fun _ _ _ _ h => attempt_not_timeout h
  late k memory detail u h hl := by
    rw [wait_of_setUp hs]
    exact Poll.run_of_late hp (c.attempt_forward plan) h hl

end

end Readiness.Polled
