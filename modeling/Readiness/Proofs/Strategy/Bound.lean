import Readiness.Proofs.Condition.Schedule
import Readiness.Proofs.Strategy.Sequence

/-! # How long waits take

Every wait on a strategy of this library comes to an end, if no condition is polled without a pause
(`Strategy.Regular`), and takes no longer than `Strategy.bound`, as `Strategy.wait_bounded` says. -/

namespace Readiness

/-! ## Polled conditions -/

namespace Polled

/-- The number of the last attempt after a set-up. -/
def last (c : Polled) (plan : c.Plan) (w : World) : Nat :=
  c.poll.last (c.attempt plan) c.blank w

/-- The milliseconds that the last attempt after a set-up takes at most. -/
def lastSlack (c : Polled) (plan : c.Plan) (w : World) : Nat :=
  match c.course plan w (c.last plan w) with
  | some (_, v) => c.slack plan v
  | none => 0

/-- The set-up, the timeout and the last attempt. -/
def bound (c : Polled) (w : World) : Nat :=
  match c.setUp w with
  | .ok (some plan) w₀ => c.setUp.took w + c.poll.pace.timeout.ceilMillis + c.lastSlack plan w₀
  | _ => c.setUp.took w

/-- What the attempts after a set-up are bound to. -/
structure Bounded (c : Polled) (plan : c.Plan) (w w₀ : World) : Prop where
  /-- The loop of the wait comes to every attempt of the course. -/
  loop : ∀ k memory v, c.course plan w₀ k = some (memory, v) →
    ∃ n, c.strategy.wait w = c.poll.rounds w₀.now (c.attempt plan) (n + 1) k memory v
  /-- There is at most one attempt more than there are intervals. -/
  attempts : ∀ k memory v, c.course plan w₀ k = some (memory, v) → k ≤ c.poll.pace.intervals
  /-- No attempt begins after the deadline. -/
  start : ∀ k memory v, c.course plan w₀ k = some (memory, v) →
    v.now ≤ w₀.now + c.poll.pace.timeout.ceilMillis
  slack : ∀ k memory v, c.course plan w₀ k = some (memory, v) →
    (c.attempt plan memory).took v ≤ c.slack plan v
  /-- The wait ends with its last attempt. -/
  took : ∃ memory v, c.course plan w₀ (c.last plan w₀) = some (memory, v) ∧
    (∀ k, c.last plan w₀ < k → c.course plan w₀ k = none) ∧
    c.strategy.wait.took w ≤ c.setUp.took w + c.poll.pace.timeout.ceilMillis +
      (c.attempt plan memory).took v

variable {c : Polled} {plan : c.Plan} {w v w₀ : World}

theorem setUp_forward (c : Polled) : c.setUp.Forward := Timed.forward.setUp c

theorem bounded (hp : .zero < c.poll.pace.interval) (hs : c.setUp w = .ok (some plan) w₀) :
    c.Bounded plan w w₀ where
  loop := (verdict hs hp).loop
  attempts k memory v h := (Poll.course_bounds hp (c.attempt_forward plan) h).1
  start k memory v h := (Poll.course_bounds hp (c.attempt_forward plan) h).2.2
  slack k memory v _ := c.took_le_slack plan memory v
  took := by
    obtain ⟨memory, v, hc, hn⟩ := Poll.course_last hp (c.attempt_forward plan) c.blank w₀
    refine ⟨memory, v, hc, hn, ?_⟩
    have hv := (Poll.course_bounds hp (c.attempt_forward plan) hc).2.2
    have hr := Poll.after_run_now hp (c.attempt_forward plan) hc
    have ha := (c.attempt_forward plan memory).now_eq v
    have hw₀ := c.setUp_forward.now_eq w
    rw [Timed.after_of_ok hs] at hw₀
    have hw : (c.strategy.wait.after w).now = ((c.run plan).after w₀).now := by
      rw [Timed.after, wait_of_setUp hs, ← Timed.after]
    rw [run, hr] at hw
    rw [Timed.took, hw]
    omega

theorem lastSlack_of_course {memory : c.Memory}
    (h : c.course plan w (c.last plan w) = some (memory, v)) :
    c.lastSlack plan w = c.slack plan v := by
  simp only [lastSlack, h]

theorem bound_of_setUp (h : c.setUp w = .ok (some plan) w₀) :
    c.bound w = c.setUp.took w + c.poll.pace.timeout.ceilMillis + c.lastSlack plan w₀ := by
  simp only [bound, h]

theorem took_le_bound (hp : .zero < c.poll.pace.interval) (w : World) :
    c.strategy.wait.took w ≤ c.bound w := by
  cases hs : c.setUp w with
  | error e v =>
    have hb : c.bound w = c.setUp.took w := by simp only [bound, hs]
    rw [hb, Timed.took, c.wait_eq, Timed.after_bind_of_error hs, Timed.took,
      Timed.after_of_error hs]
  | ok plan w₀ =>
    cases plan with
    | none =>
      have hb : c.bound w = c.setUp.took w := by simp only [bound, hs]
      have hw : c.strategy.wait w = .ok () w₀ := by
        rw [c.wait_eq, Timed.bind_of_ok hs]
        rfl
      rw [hb, Timed.took, Timed.after_of_ok hw, Timed.took, Timed.after_of_ok hs]
    | some plan =>
      obtain ⟨memory, v, hc, -, ht⟩ := (bounded hp hs).took
      have hl := (bounded hp hs).slack _ _ _ hc
      rw [bound_of_setUp hs, lastSlack_of_course hc]
      omega

theorem slack_alike (plan : c.Plan) (h : w.Alike v) : c.slack plan w = c.slack plan v := by
  cases c <;> simp only [slack, h.target_eq]

theorem lastSlack_alike (plan : c.Plan) (h : w.Alike v) :
    c.lastSlack plan w = c.lastSlack plan v := by
  have hl : c.last plan w = c.last plan v :=
    Poll.last_alike (Timed.logBlind.attempt c plan) h c.blank
  obtain ⟨memory, u, hc⟩ := Poll.exists_last c.poll (c.attempt plan) c.blank w
  obtain ⟨u', hc', hu⟩ := Poll.course_alike (Timed.logBlind.attempt c plan) h hc
  have hc' : c.course plan v (c.last plan v) = some (memory, u') := by
    rw [← hl]
    exact hc'
  rw [lastSlack_of_course hc, lastSlack_of_course hc', slack_alike plan hu]

/-- The log has no influence on the bound. -/
theorem bound_alike (c : Polled) (h : w.Alike v) : c.bound w = c.bound v := by
  have ht : c.setUp.took w = c.setUp.took v := by
    rw [Timed.took, Timed.took, ((Timed.logBlind.setUp c).after_alike h).now_eq, h.now_eq]
  have hs := Timed.logBlind.setUp c w v h
  cases hw : c.setUp w <;> cases hv : c.setUp v <;> rw [hw, hv] at hs
  case ok.ok plan u plan' u' =>
    obtain ⟨rfl, hu⟩ := hs
    cases plan with
    | none => simp only [bound, hw, hv, ht]
    | some plan => rw [bound_of_setUp hw, bound_of_setUp hv, ht, lastSlack_alike plan hu]
  case error.error => simp only [bound, hw, hv, ht]
  all_goals exact hs.elim

end Polled

/-! ## Strategies -/

namespace Strategy

mutual

/-- The milliseconds that a strategy takes at most, if the wait on it begins in the given world. -/
def bound : Strategy → World → Nat
  | .logMessage c, w => (Polled.logMessage c).bound w
  | .hostPort c, w => (Polled.hostPort c).bound w
  | .http c, w => (Polled.http c).bound w
  | .shell c, w => (Polled.shell c).bound w
  | .healthcheck c, w => (Polled.healthcheck c).bound w
  | .nothing, _ => 0
  | .duration length, _ => length.ceilMillis
  | .custom c, _ => c.takes.ceilMillis
  | .wrapped _ inner, w => bound inner w
  | .all _ _ (some _) _, _ => 0
  | .all _ _ none children, w => boundEach children w

/-- The sum of the bounds of several strategies, one after another. -/
def boundEach : List Strategy → World → Nat
  | [], _ => 0
  | child :: rest, w => bound child w + boundEach rest (child.wait.after w)

end

/-- All conditions are from this library and send their requests in its way, and none is polled
without a pause. -/
structure Regular (s : Strategy) : Prop where
  custom : ∀ c, Strategy.custom c ∉ s.nodes
  client : ∀ c, Strategy.http c ∈ s.nodes → c.client = none
  interval : ∀ c : Polled, c.strategy ∈ s.nodes → .zero < c.poll.pace.interval

theorem Regular.of_mem {s n : Strategy} (h : s.Regular) (hn : n ∈ s.nodes) : n.Regular where
  custom c hc := h.custom c (mem_nodes_trans hc hn)
  client c hc := h.client c (mem_nodes_trans hc hn)
  interval c hc := h.interval c (mem_nodes_trans hc hn)

variable {s : Strategy} {w v : World}

theorem bound_polled (c : Polled) (w : World) : c.strategy.bound w = c.bound w := by
  cases c <;> rfl

theorem boundEach_alike {children : List Strategy}
    (hc : ∀ child ∈ children, ∀ w v : World, w.Alike v → child.bound w = child.bound v)
    (h : w.Alike v) : boundEach children w = boundEach children v := by
  induction children generalizing w v with
  | nil => rfl
  | cons child rest ih =>
    rw [boundEach, boundEach, hc child List.mem_cons_self w v h]
    congr 1
    exact ih (fun c h => hc c (List.mem_cons_of_mem _ h))
      ((Timed.logBlind.wait child).after_alike h)

theorem bound_alike (s : Strategy) (h : w.Alike v) : s.bound w = s.bound v := by
  induction s using tree generalizing w v with
  | polled c => rw [bound_polled, bound_polled, c.bound_alike h]
  | nothing => rfl
  | duration length => rfl
  | custom c => rfl
  | wrapped wrapper inner ih => exact ih h
  | all mode timeout refused children ih =>
    cases refused with
    | some cause => rfl
    | none => exact boundEach_alike (fun c hc _ _ h => ih c hc h) h

/-! ## Time -/

/-- Children take together at most the sum of their bounds. -/
theorem waitEach_now_le (mode : Mode) (ceiling : Duration) (started count index : Nat)
    {children : List Strategy} (hc : ∀ child ∈ children, ∀ w, child.wait.took w ≤ child.bound w)
    (w : World) :
    ((waitEach mode ceiling started count index children).after w).now ≤
      w.now + boundEach children w := by
  induction children generalizing index w with
  | nil => exact Nat.le_refl _
  | cons child rest ih =>
    obtain ⟨t, rfl, hb, -, hn⟩ := turnsFrom_cons mode ceiling started count index child rest w
    have ht : t.after.now ≤ w.now + t.child.bound w := by
      have ht := hc t.child List.mem_cons_self t.before
      rw [t.now_after, hb.now_eq, bound_alike t.child hb]
      exact Nat.add_le_add_left ht _
    rw [boundEach]
    rcases hn with ⟨-, -, hn⟩ | ⟨-, -, e, hn⟩
    · rw [Timed.after, hn, ← Timed.after]
      have hr := ih (index + 1) (fun c h => hc c (List.mem_cons_of_mem _ h)) t.after
      have ha : boundEach rest (t.child.wait.after w) = boundEach rest t.after :=
        boundEach_alike (fun c _ _ _ h => bound_alike c h)
          ((Timed.logBlind.wait t.child).after_alike hb)
      omega
    · rw [Timed.after_of_error hn]
      omega

theorem took_nothing (w : World) : nothing.wait.took w = 0 := Nat.sub_self _

theorem took_duration (length : Duration) (w : World) :
    (duration length).wait.took w = length.ceilMillis := by
  change w.now + length.ceilMillis - w.now = length.ceilMillis
  exact Nat.add_sub_cancel_left ..

/-- A wait takes no longer than its bound. -/
theorem took_le_bound (hs : s.Regular) (w : World) : s.wait.took w ≤ s.bound w := by
  induction s using tree generalizing w with
  | polled c =>
    rw [bound_polled]
    exact c.took_le_bound (hs.interval c (mem_nodes_self _)) w
  | nothing => exact Nat.le_of_eq (took_nothing w)
  | duration length => exact Nat.le_of_eq (took_duration length w)
  | custom c => exact absurd (mem_nodes_self _) (hs.custom c)
  | wrapped wrapper inner ih =>
    rw [wait_wrapped]
    exact ih (hs.of_mem (mem_nodes_wrapped (mem_nodes_self _))) w
  | all mode timeout refused children ih =>
    cases refused with
    | some cause => exact Nat.le_of_eq (Nat.sub_self _)
    | none =>
      have hc : ∀ child ∈ children, ∀ w, child.wait.took w ≤ child.bound w :=
        fun c hc w => ih c hc (hs.of_mem (mem_nodes_all hc (mem_nodes_self _))) w
      obtain ⟨line, w₁, hw, -, ha⟩ := wait_all_apply mode timeout children w
      have hn := waitEach_now_le mode timeout w.now children.length 1 hc w₁
      rw [Timed.took, ← (after_wait_all ha).now_eq, bound, Nat.sub_le_iff_le_add']
      rwa [← hw.now_eq, ← boundEach_alike (fun c _ _ _ h => bound_alike c h) hw] at hn

/-! ## Ends -/

theorem waitChild_returns {mode : Mode} {ceiling : Duration} {started : Nat} {place : String}
    {x : Wait Unit} (h : x.Returns w) : (waitChild mode ceiling started place x).Returns w := by
  unfold Wait.Returns Timed.Ends waitChild
  cases hx : x w with
  | ok a v =>
    dsimp only
    cases reachesCeiling mode ceiling (.ofMillis (v.now - started)) with
    | true => exact ⟨_, rfl⟩
    | false => trivial
  | error e v =>
    obtain ⟨cause, rfl⟩ := h.of_error hx
    exact ⟨_, rfl⟩

theorem waitEach_returns (mode : Mode) (ceiling : Duration) (started count index : Nat)
    {children : List Strategy} (hc : ∀ child ∈ children, ∀ w, child.wait.Returns w) (w : World) :
    (waitEach mode ceiling started count index children).Returns w := by
  induction children generalizing index w with
  | nil => exact Wait.returns_pure _ w
  | cons child rest ih =>
    refine (Wait.returns_say _ _ w).bind fun _ u => ?_
    refine (waitChild_returns (hc child List.mem_cons_self u)).bind fun _ v => ?_
    exact ih _ (fun c h => hc c (List.mem_cons_of_mem _ h)) v

theorem wait_returns (hs : s.Regular) (w : World) : s.wait.Returns w := by
  induction s using tree generalizing w with
  | polled c =>
    refine c.wait_returns (hs.interval c (mem_nodes_self _)) (fun h hc => ?_) w
    subst hc
    have hn := hs.client h (mem_nodes_self _)
    rw [HttpProbe.clientOf, hn]
    nofun
  | nothing => exact Wait.returns_pure _ w
  | duration length => trivial
  | custom c => exact absurd (mem_nodes_self _) (hs.custom c)
  | wrapped wrapper inner ih =>
    rw [wait_wrapped]
    exact ih (hs.of_mem (mem_nodes_wrapped (mem_nodes_self _))) w
  | all mode timeout refused children ih =>
    cases refused with
    | some cause => exact Wait.returns_fail _ w
    | none =>
      have hc := fun c hc => ih c hc (hs.of_mem (mem_nodes_all hc (mem_nodes_self _)))
      obtain ⟨line, w₁, -, -, ha⟩ := wait_all_apply mode timeout children w
      have hr := (waitEach_returns mode timeout w.now children.length 1 hc w₁).bind
        fun _ v => Wait.returns_say .info line v
      rw [Wait.Returns, Timed.Ends, ha]
      exact hr

/-- Every wait on a strategy of this library comes to an end, within the bounds of its parts. -/
theorem wait_bounded (s : Strategy) (hs : s.Regular) :
    (∀ w, (∃ v, s.wait w = .ok () v) ∨ ∃ e v, s.wait w = .error (.failed e) v) ∧
    (∀ n ∈ s.nodes, ∀ w, n.wait.took w ≤ n.bound w) ∧
    (∀ c : Polled, c.strategy ∈ s.nodes → ∀ w plan w₀, c.setUp w = .ok (some plan) w₀ →
      c.Bounded plan w w₀) ∧
    (∀ length w, (duration length).wait.took w = length.ceilMillis) ∧
    ∀ w, nothing.wait.took w = 0 := by
  refine ⟨fun w => ?_, fun n hn w => took_le_bound (hs.of_mem hn) w, fun c hc w plan w₀ h => ?_,
    took_duration, took_nothing⟩
  · rcases (wait_returns hs w).cases with ⟨_, v, hw⟩ | ⟨e, v, hw⟩
    · exact .inl ⟨v, hw⟩
    · exact .inr ⟨e, v, hw⟩
  · exact Polled.bounded (hs.interval c hc) h

theorem wait_bounded_nested :
    let s : Strategy := .all .outer (.ofMillis 3) none
      [.healthcheck ⟨⟨.ofMillis 3, .ofMillis 2⟩⟩,
        .wrapped (.condition .all) (.all .maximum (.ofMillis 3) none [.duration (.ofMillis 1)])]
    s.Regular ∧ ∀ w, s.wait.took w ≤ s.bound w := by
  intro s
  have hs : s.Regular :=
    { custom := by simp [s, nodes, nodesEach]
      client := by simp [s, nodes, nodesEach]
      interval := by
        intro c hc
        cases c with
        | healthcheck c =>
          simp only [s, nodes, nodesEach, Polled.strategy, List.mem_cons, List.mem_append] at hc
          obtain rfl : c = ⟨⟨.ofMillis 3, .ofMillis 2⟩⟩ := by simpa using hc
          decide
        | logMessage _ | hostPort _ | http _ | shell _ =>
          simp [s, nodes, nodesEach, Polled.strategy] at hc }
  exact ⟨hs, fun w => (wait_bounded s hs).2.1 s (mem_nodes_self s) w⟩

end Strategy

end Readiness
