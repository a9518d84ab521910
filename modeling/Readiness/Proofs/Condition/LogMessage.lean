import Readiness.Proofs.Condition.Accounting
import Readiness.Proofs.Condition.Polled
import Readiness.Proofs.Poll.Course

/-! # Waiting for log output

A wait for log output reads it again and again (`LogMessage.course_reads`), and ends at the first
read after which enough matches have been found (`LogMessage.log_accounting`). -/

namespace Readiness

open Timed MatchCount

/-! ## Answers -/

namespace Target

/-- The target after `n` questions for the output. -/
def afterLogs : Nat → Target → Target
  | 0, t => t
  | n + 1, t => (afterLogs n t).nextLogs.2

/-- The answer to the question for the output after `n` others. -/
def logsReply (n : Nat) (t : Target) : Except TargetError String :=
  (afterLogs n t).nextLogs.1.answer

/-- The answers to the first `n` questions for the output. -/
def logsReplies (n : Nat) (t : Target) : List (Except TargetError String) :=
  (List.range n).map fun i => t.logsReply i

variable {t : Target} {n : Nat}

theorem logsReplies_succ (n : Nat) (t : Target) :
    t.logsReplies (n + 1) = t.logsReplies n ++ [t.logsReply n] := by
  rw [logsReplies, List.range_succ, List.map_append, List.map_singleton, ← logsReplies]

theorem unread_nextLogs (t : Target) : t.nextLogs.2.logs.unread = t.logs.unread - 1 :=
  t.logs.unread_nextOr _

theorem nextLogs_of_unread (h : t.logs.unread = 0) : t.nextLogs.2 = t := by
  obtain ⟨id, mappings, host, running, health, exposed, ⟨replies⟩, exec⟩ := t
  match replies with
  | [] | [_] => rfl
  | _ :: _ :: _ => cases h

theorem unread_afterLogs (n : Nat) (t : Target) :
    (t.afterLogs n).logs.unread = t.logs.unread - n := by
  induction n with
  | zero => rfl
  | succ n ih =>
    rw [afterLogs, unread_nextLogs, ih]
    omega

/-- Once the script only repeats itself, so do the answers. -/
theorem logsReply_succ (h : t.logs.unread ≤ n) : t.logsReply (n + 1) = t.logsReply n := by
  have hu : (t.afterLogs n).logs.unread = 0 := by
    rw [unread_afterLogs]
    omega
  rw [logsReply, logsReply, afterLogs, nextLogs_of_unread hu]

end Target

namespace LogMessage

variable {c : LogMessage} {text : String} {pattern : Pattern} {m : MatchCount} {w v u : World}
  {t : Target} {k : Nat}

/-- What a miss says is missing. -/
def missing (c : LogMessage) (text : String) (total : Nat) : String :=
  "found " ++ toString total ++ "/" ++ toString c.times ++ " matches of '" ++ text ++ "'"

/-- The output can be read after `k` others, and with it there are enough matches. -/
def Enough (c : LogMessage) (pattern : Pattern) (t : Target) (k : Nat) : Prop :=
  (∃ output, t.logsReply k = .ok output) ∧
    c.times ≤ (account pattern (t.logsReplies (k + 1))).total

/-- What comes later is enough only if there is something new in it. -/
theorem Enough.pred (h : c.Enough pattern t (k + 1)) (hk : t.logs.unread ≤ k) :
    c.Enough pattern t k := by
  obtain ⟨⟨output, ho⟩, ht⟩ := h
  have hr := Target.logsReply_succ hk
  rw [ho] at hr
  refine ⟨⟨output, hr.symm⟩, ?_⟩
  rw [Target.logsReplies_succ, account_append, ho, read_eq_self] at ht
  · exact ht
  · rintro output ⟨⟩
    rw [Target.logsReplies_succ, account_append, ← hr]
    exact le_scanned_scan pattern _ output

theorem not_enough (h : ∀ j ≤ t.logs.unread, ¬ c.Enough pattern t j) (k : Nat) :
    ¬ c.Enough pattern t k := by
  induction k with
  | zero => exact h 0 (Nat.zero_le _)
  | succ k ih =>
    by_cases hk : t.logs.unread ≤ k
    · exact fun he => ih (he.pred hk)
    · exact h (k + 1) (by omega)

/-! ## Attempts -/

theorem logs_apply (v : World) : Query.logs v =
    match v.target.logsReply 0 with
    | .ok output => .ok output (Query.logs.after v)
    | .error e => .error e (Query.logs.after v) := by
  unfold Query.logs
  rw [after_ask]
  unfold Query.ask Target.logsReply Target.afterLogs
  dsimp only
  cases v.target.nextLogs.1.answer <;> rfl

/-- The output has been read `k` times since `w`, and nothing else has been asked. -/
structure Reads (k : Nat) (w v : World) : Prop where
  target : v.target = w.target.afterLogs k
  calls : v.journal.toList.map Entry.call =
    w.journal.toList.map Entry.call ++ List.replicate k .logs

theorem Reads.succ (h : Reads k w v) (log : Array (Level × String)) :
    Reads (k + 1) w { Query.logs.after v with log } := by
  unfold Query.logs
  rw [after_ask]
  refine ⟨?_, ?_⟩
  · dsimp only
    rw [h.target, Target.afterLogs]
  · simp [h.calls, List.replicate_succ']

/-- Whether an attempt is ready depends on the answers alone. -/
theorem attempt_reads (c : LogMessage) (text : String) (pattern : Pattern) (h : Reads k w v) :
    ∃ u, Reads (k + 1) w u ∧
      let m := account pattern (w.target.logsReplies k)
      let m' := account pattern (w.target.logsReplies (k + 1))
      ((c.Enough pattern w.target k ∧ c.attempt text pattern m v = .ok .ready u) ∨
        (¬ c.Enough pattern w.target k ∧
          c.attempt text pattern m v = .ok (.missed m' (c.missing text m'.total)) u) ∨
        (¬ c.Enough pattern w.target k ∧ ∃ id operation,
          c.attempt text pattern m v = .error (.failed (.unsupported id operation)) u)) := by
  have hq := logs_apply v
  have ht : v.target.logsReply 0 = w.target.logsReply k := by
    rw [Target.logsReply, Target.afterLogs, h.target, Target.logsReply]
  rw [ht] at hq
  rw [Enough, Target.logsReplies_succ, account_append]
  generalize account pattern (w.target.logsReplies k) = m
  cases hr : w.target.logsReply k with
  | ok output =>
    rw [hr] at hq
    have ha : c.attempt text pattern m v = _ := bind_of_ok (outcome_of_ok hq)
    by_cases ht : c.times ≤ (m.scan pattern output).total
    · obtain ⟨log, hl⟩ : ∃ log, c.attempt text pattern m v =
          .ok .ready { Query.logs.after v with log } :=
        ⟨_, ha.trans (by dsimp only; rw [if_pos ht]; rfl)⟩
      exact ⟨_, h.succ log, .inl ⟨⟨⟨output, rfl⟩, ht⟩, hl⟩⟩
    · refine ⟨_, h.succ (Query.logs.after v).log, .inr (.inl ⟨fun h => ht h.2, ha.trans ?_⟩)⟩
      dsimp only
      rw [if_neg ht]
      rfl
  | error e =>
    rw [hr] at hq
    have ha : c.attempt text pattern m v = _ := bind_of_ok (outcome_of_error hq)
    have hn : ¬ ((∃ output, (.error e : Except TargetError String) = .ok output) ∧
        c.times ≤ (m.read pattern (.error e)).total) := by
      rintro ⟨⟨_, h⟩, -⟩
      cases h
    cases e with
    | notSupported id operation =>
      exact ⟨_, h.succ (Query.logs.after v).log, .inr (.inr ⟨hn, id, operation, ha⟩)⟩
    | portNotMapped | io | other => exact ⟨_, h.succ _, .inr (.inl ⟨hn, ha⟩)⟩

/-- Each attempt of a poll reads the output once, and those before the last one are not ready. -/
theorem course_reads {p : Poll} (h : p.course (c.attempt text pattern) {} w k = some (m, v)) :
    m = account pattern (w.target.logsReplies k) ∧ Reads k w v ∧
      ∀ j < k, ¬ c.Enough pattern w.target j := by
  induction k generalizing m v with
  | zero =>
    cases h
    exact ⟨rfl, ⟨rfl, (List.append_nil _).symm⟩, nofun⟩
  | succ k ih =>
    obtain ⟨m₁, v₁, detail, u, hc, ha, hr⟩ := Poll.course_succ.mp h
    obtain ⟨rfl, hv, hn⟩ := ih hc
    obtain ⟨-, log, rfl⟩ := p.retry_eq_ok hr
    obtain ⟨u', hu, ⟨-, ha'⟩ | ⟨he, ha'⟩ | ⟨-, _, _, ha'⟩⟩ := attempt_reads c text pattern hv
    · rw [ha'] at ha
      cases ha
    · rw [ha'] at ha
      cases ha
      refine ⟨rfl, ⟨hu.target, hu.calls⟩, fun j hj => ?_⟩
      rcases Nat.lt_succ_iff_lt_or_eq.mp hj with hj | rfl
      · exact hn j hj
      · exact he
    · rw [ha'] at ha
      cases ha

/-! ## Waits -/

/-- The end of a wait that has read the output `k + 1` times. -/
inductive Verdict (c : LogMessage) (text : String) (pattern : Pattern) (t : Target) (k : Nat) :
    EStateM.Result Halt World Unit → Prop
  | ready {v : World} : c.Enough pattern t k → Verdict c text pattern t k (.ok () v)
  | late {elapsed : Duration} {v : World} : ¬ c.Enough pattern t k →
    Verdict c text pattern t k (.error (.failed (.timeout .logMessage elapsed
      (c.missing text (account pattern (t.logsReplies (k + 1))).total) none)) v)
  | unsupported {id operation : String} {v : World} : ¬ c.Enough pattern t k →
    Verdict c text pattern t k (.error (.failed (.unsupported id operation)) v)
  | endless {v : World} : (∀ j, ¬ c.Enough pattern t j) →
    Verdict c text pattern t k (.error .endless v)

theorem run_verdict {p : Poll} (hp : p.kind = .logMessage) (c : LogMessage) (text : String)
    (pattern : Pattern) (w : World) :
    ∃ k, Reads (k + 1) w ((p.run (c.attempt text pattern) {}).after w) ∧
      (∀ j < k, ¬ c.Enough pattern w.target j) ∧
      c.Verdict text pattern w.target k (p.run (c.attempt text pattern) {} w) := by
  rcases p.run_ends (c.attempt text pattern) {} w with ⟨k, m, v, hk, hc, hs⟩ | ⟨m, v, hc, he⟩
  · obtain ⟨rfl, hv, hn⟩ := course_reads hc
    obtain ⟨u, hu, hr⟩ := attempt_reads c text pattern hv
    refine ⟨k, ?_⟩
    unfold after
    generalize p.run (c.attempt text pattern) {} w = x at hs ⊢
    rcases hr with ⟨he, ha⟩ | ⟨he, ha⟩ | ⟨he, id, operation, ha⟩
    · obtain rfl := hs.of_ready ha
      exact ⟨hu, hn, .ready he⟩
    · obtain ⟨-, log, rfl⟩ := hs.of_missed ha
      refine ⟨⟨hu.target, hu.calls⟩, hn, ?_⟩
      rw [hp]
      exact .late he
    · obtain rfl := hs.of_error ha
      exact ⟨hu, hn, .unsupported he⟩
  · obtain ⟨k, hk⟩ : ∃ k, p.enough w = k + 1 := ⟨_, rfl⟩
    rw [hk] at hc
    obtain ⟨rfl, hv, hn⟩ := course_reads hc
    refine ⟨k, ?_, fun j hj => hn j (by omega), ?_⟩
    · rwa [after_of_error he]
    · rw [he]
      refine .endless (not_enough fun j hj => hn j ?_)
      have hu : w.target.logs.unread ≤ k := by
        have hu : w.target.logs.unread ≤ w.unread := by
          unfold World.unread Target.unread
          omega
        unfold Poll.enough at hk
        omega
      omega

theorem setUp_compiled (h : c.compile = .ok (text, pattern)) (w : World) :
    ∃ w₀, c.setUp w = .ok (some (text, pattern)) w₀ ∧ w.Alike w₀ := by
  unfold setUp
  rw [h]
  exact ⟨_, rfl, w.alike_log _⟩

/-- A wait reads the output until there are enough matches or the time is up. -/
theorem wait_verdict (h : c.compile = .ok (text, pattern)) (w : World) :
    ∃ k, (c.wait.calls w).map Entry.call = List.replicate (k + 1) .logs ∧
      (∀ j < k, ¬ c.Enough pattern w.target j) ∧
      c.Verdict text pattern w.target k (c.wait w) := by
  obtain ⟨w₀, hs, hw⟩ := setUp_compiled h w
  let p : Poll := ⟨.logMessage, c.pace⟩
  have hr : c.wait w = p.run (c.attempt text pattern) {} w₀ := by
    rw [c.wait_eq, bind_of_ok hs]
    rfl
  obtain ⟨k, hk, hn, hv⟩ := run_verdict (p := p) rfl c text pattern w₀
  refine ⟨k, ?_, ?_, ?_⟩
  · have ha : c.wait.after w = (p.run (c.attempt text pattern) {}).after w₀ := by
      rw [after, hr, after]
    rw [calls, ha, List.map_drop, hk.calls, hw.journal_eq, ← List.length_map, List.drop_left]
  · rwa [hw.target_eq]
  · rwa [hr, hw.target_eq]

/-- A counter knows the longest output that it has been given and the matches in what was new at
each read, and a wait for log output ends at the first read after which these are enough. -/
theorem log_accounting :
    (∀ pattern replies, Accounted pattern replies) ∧
    ∀ (c : LogMessage) (text : String) (pattern : Pattern), c.compile = .ok (text, pattern) →
      ∀ w : World, ∃ k, (c.wait.calls w).map Entry.call = List.replicate (k + 1) .logs ∧
        (∀ j < k, ¬ c.Enough pattern w.target j) ∧
        c.Verdict text pattern w.target k (c.wait w) :=
  ⟨accounted, fun _ _ _ h w => wait_verdict h w⟩

/-- Output that has been written anew in between. -/
theorem log_accounting_rewritten :
    let c : LogMessage := { pattern := some "b", times := 2, pace := ⟨.ofSecs 1, .ofMillis 1⟩ }
    let outputs := ["ab", "", "aéb"]
    let w : World := { target := { logs := ⟨outputs.map fun output => { answer := .ok output }⟩ } }
    ∃ text pattern, c.compile = .ok (text, pattern) ∧ Accounted pattern (outputs.map .ok) ∧
      ∃ k, (c.wait.calls w).map Entry.call = List.replicate (k + 1) .logs ∧
        (∀ j < k, ¬ c.Enough pattern w.target j) ∧
        c.Verdict text pattern w.target k (c.wait w) := by
  intro c outputs w
  have hc : c.compile.isOk := by decide +kernel
  cases h : c.compile with
  | error cause =>
    rw [h] at hc
    cases hc
  | ok plan => exact ⟨_, _, rfl, log_accounting.1 _ _, log_accounting.2 c _ _ h w⟩

/-- An empty output that is read first is not searched, although no output before it is as long: a
pattern that matches the empty text is not found in it. -/
theorem empty_output_unsearched :
    ¬ ∀ (text : String) (pattern : Pattern), Pattern.compile text = .ok pattern →
      ∀ outputs : List String, (account pattern (outputs.map .ok)).total =
        (((List.range outputs.length).filter fun i => ∀ t ∈ outputs.take i,
          t.utf8ByteSize < (Outputs.output outputs i).utf8ByteSize).map fun i =>
            pattern.count (Outputs.fresh outputs i)).sum := by
  intro h
  have hc : (Pattern.compile "a*").toOption.map (fun pattern =>
      ((account pattern [.ok ""]).total, pattern.count (Outputs.fresh [""] 0))) = some (0, 1) := by
    decide +kernel
  cases hp : Pattern.compile "a*" with
  | error fault =>
    rw [hp] at hc
    cases hc
  | ok pattern =>
    rw [hp] at hc
    injection hc with hc
    obtain ⟨h₀, h₁⟩ := Prod.mk.inj hc
    have hf : ((List.range [""].length).filter fun i => ∀ t ∈ [""].take i,
        t.utf8ByteSize < (Outputs.output [""] i).utf8ByteSize) = [0] := by decide +kernel
    have ht := h "a*" pattern hp [""]
    rw [hf] at ht
    simp [h₀, h₁] at ht

end LogMessage

end Readiness
