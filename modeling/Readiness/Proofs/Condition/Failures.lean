import Readiness.Proofs.Action.Trace
import Readiness.Proofs.Condition.Polled
import Readiness.Proofs.Poll.Course

/-! # What a failing command is reported with

A wait for a command runs it again and again (`ShellCommand.course_runs`). If it gives up, it says
what the last exit code was and what the last error, as far as there were any since it began,
whichever of them came last (`ShellCommand.failure_report`). -/

namespace Readiness

open Timed

/-! ## Answers -/

/-- An answer to a command. -/
abbrev ExecAnswer := Except TargetError ExecResult

namespace Target

/-- The target after `n` commands. -/
def afterExec : Nat → Target → Target
  | 0, t => t
  | n + 1, t => (afterExec n t).exec.elim t fun script => ((afterExec n t).nextExec script).2

/-- The answer to a command after `n` others. -/
def execAnswer (n : Nat) (t : Target) : ExecAnswer :=
  (afterExec n t).exec.elim (.error (.notSupported t.id "exec")) fun script =>
    ((afterExec n t).nextExec script).1.answer

/-- The answers to the first `n` commands. -/
def execAnswers (n : Nat) (t : Target) : List ExecAnswer :=
  (List.range n).map fun i => t.execAnswer i

variable {t : Target} {n : Nat} {script : Script ExecResult}

theorem execAnswers_succ (n : Nat) (t : Target) :
    t.execAnswers (n + 1) = t.execAnswers n ++ [t.execAnswer n] := by
  rw [execAnswers, List.range_succ, List.map_append, List.map_singleton, ← execAnswers]

/-- Without a way to run commands nothing comes of them. -/
theorem afterExec_of_none (h : t.exec = none) (n : Nat) : t.afterExec n = t := by
  induction n with
  | zero => rfl
  | succ n ih => rw [afterExec, ih, h, Option.elim_none]

theorem exists_afterExec (h : t.exec = some script) (n : Nat) :
    ∃ rest, (t.afterExec n).exec = some rest := by
  induction n with
  | zero => exact ⟨script, h⟩
  | succ n ih =>
    obtain ⟨rest, hr⟩ := ih
    rw [afterExec, hr, Option.elim_some]
    exact ⟨_, rfl⟩

end Target

namespace ExecAnswer

/-- The answer does not end a wait. -/
def Misses : ExecAnswer → Prop
  | .ok result => result.exitCode ≠ 0
  | .error e => e.isNotSupported = false

def exitCode? : ExecAnswer → Option Int
  | .ok result => some result.exitCode
  | .error _ => none

def error? : ExecAnswer → Option String
  | .ok _ => none
  | .error e => some e.message

/-- The exit code in the last answer that has one. -/
def lastExitCode (answers : List ExecAnswer) : Option Int := (answers.filterMap exitCode?).getLast?

/-- The text of the last answer that is an error. -/
def lastError (answers : List ExecAnswer) : Option String := (answers.filterMap error?).getLast?

end ExecAnswer

open ExecAnswer

namespace Failures

/-- What is remembered after one more answer. -/
def note (f : Failures) : ExecAnswer → Failures
  | .ok result => { f with exitCode := some result.exitCode }
  | .error e => { f with error := some e.message }

/-- What is remembered of these answers. -/
def account (answers : List ExecAnswer) : Failures := answers.foldl note {}

theorem account_append (answers : List ExecAnswer) (answer : ExecAnswer) :
    account (answers ++ [answer]) = (account answers).note answer := by
  rw [account, List.foldl_append, List.foldl_cons, List.foldl_nil, ← account]

theorem account_eq (answers : List ExecAnswer) :
    account answers = ⟨lastExitCode answers, lastError answers⟩ := by
  induction answers using List.reverseRecOn with
  | nil => rfl
  | append_singleton answers answer ih =>
    rw [account_append, ih]
    unfold lastExitCode lastError
    rw [List.filterMap_append, List.filterMap_append]
    cases answer <;> simp [note, exitCode?, error?]

end Failures

namespace ExecAnswer

variable {answers : List ExecAnswer} {answer : ExecAnswer} {code : Int}

theorem exitCode_ne_zero (h : ∀ a ∈ answers, a.Misses) (hc : lastExitCode answers = some code) :
    code ≠ 0 := by
  obtain ⟨answer, hm, ha⟩ := List.mem_filterMap.mp (List.mem_of_getLast? hc)
  cases answer with
  | error e => cases ha
  | ok result =>
    cases ha
    exact h _ hm

/-- An answer is an exit code or an error. -/
theorem exists_last (h : answers ≠ []) :
    ¬ (lastExitCode answers = none ∧ lastError answers = none) := by
  rintro ⟨hc, he⟩
  obtain ⟨answer, ha⟩ := List.exists_mem_of_ne_nil _ h
  have hc := List.filterMap_eq_nil_iff.mp (List.getLast?_eq_none_iff.mp hc) answer ha
  have he := List.filterMap_eq_nil_iff.mp (List.getLast?_eq_none_iff.mp he) answer ha
  cases answer with
  | ok result => cases hc
  | error e => cases he

end ExecAnswer

namespace ShellCommand

variable {c : ShellCommand} {command : String} {w v u : World} {k : Nat} {f : Failures}

/-! ## Reports -/

/-- What is said of a command that was given these answers. -/
inductive Reports (command : String) (answers : List ExecAnswer) : String → Prop
  | both {code : Int} {error : String} : lastExitCode answers = some code → code ≠ 0 →
    lastError answers = some error → Reports command answers
      ("'" ++ command ++ "'" ++ " last exited with code " ++ toString code ++ ", last exec error: "
        ++ error)
  | exited {code : Int} : lastExitCode answers = some code → code ≠ 0 → lastError answers = none →
    Reports command answers ("'" ++ command ++ "'" ++ " last exited with code " ++ toString code)
  | unexecuted {error : String} : lastExitCode answers = none → lastError answers = some error →
    Reports command answers ("'" ++ command ++ "'" ++ " could not be executed: " ++ error)

theorem reports_detail {answers : List ExecAnswer} (hn : answers ≠ [])
    (hm : ∀ a ∈ answers, a.Misses) :
    Reports command answers ((Failures.account answers).detail command) := by
  rw [Failures.account_eq]
  have hl := exists_last hn
  cases hc : lastExitCode answers with
  | some code =>
    have h0 := exitCode_ne_zero hm hc
    cases he : lastError answers with
    | some error => exact .both hc h0 he
    | none => exact .exited hc h0 he
  | none =>
    cases he : lastError answers with
    | some error => exact .unexecuted hc he
    | none => exact absurd ⟨hc, he⟩ hl

/-! ## Attempts -/

/-- The command has been run `k` times since `w`, and nothing else has been asked. -/
structure Runs (command : String) (k : Nat) (w v : World) : Prop where
  target : v.target = w.target.afterExec k
  calls : v.journal.toList.map Entry.call = w.journal.toList.map Entry.call ++
    if w.target.exec.isSome then List.replicate k (.exec (words command)) else []

theorem Runs.log (h : Runs command k w v) (log : Array (Level × String)) :
    Runs command k w { v with log } := ⟨h.target, h.calls⟩

theorem exec_of_none (command : String) (h : v.target.exec = none) : ∃ log, Query.exec (words command) v =
    .error (.notSupported v.target.id "exec") { v with log } := by
  unfold Query.exec
  rw [bind_of_ok (x := get) (w := v) rfl, h]
  exact ⟨_, rfl⟩

theorem exec_of_some (command : String) {script : Script ExecResult}
    (h : v.target.exec = some script) :
    Query.exec (words command) v =
      Query.ask (.exec (words command)) (Target.nextExec script) v := by
  unfold Query.exec
  rw [bind_of_ok (x := get) (w := v) rfl, h]

/-- What comes of running the command is the next answer. -/
theorem exec_runs (h : Runs command k w v) : ∃ u, Runs command (k + 1) w u ∧
    ((Query.exec (words command)).outcome : Wait ExecAnswer) v =
      .ok (w.target.execAnswer k) u := by
  cases hw : w.target.exec with
  | none =>
    have ht : v.target = w.target := h.target.trans (Target.afterExec_of_none hw k)
    obtain ⟨log, hx⟩ := exec_of_none command (ht ▸ hw)
    refine ⟨{ v with log }, ⟨?_, ?_⟩, ?_⟩
    · rw [ht, Target.afterExec_of_none hw]
    · simpa [hw] using h.calls
    · rw [outcome_of_error hx, ht, Target.execAnswer, Target.afterExec_of_none hw, hw,
        Option.elim_none]
  | some script =>
    obtain ⟨rest, hr⟩ := Target.exists_afterExec hw k
    have hx := exec_of_some command (h.target ▸ hr)
    refine ⟨(Query.exec (words command)).after v, ⟨?_, ?_⟩, ?_⟩
    · rw [after, hx, ← after, after_ask, Target.afterExec, hr, Option.elim_some, ← h.target]
    · rw [after, hx, ← after, after_ask]
      simp [h.calls, hw, List.replicate_succ']
    · rw [outcome, after, hx, ← outcome, ← after, outcome_ask, Target.execAnswer, hr,
        Option.elim_some, h.target]

/-- An attempt succeeds with exit code 0, and any other answer is remembered. -/
theorem attempt_runs (f : Failures) (h : Runs command k w v) : ∃ u, Runs command (k + 1) w u ∧
    let answer := w.target.execAnswer k
    ((∃ result, answer = .ok result ∧ result.exitCode = 0 ∧ attempt command f v = .ok .ready u) ∨
      (answer.Misses ∧
        attempt command f v = .ok (.missed (f.note answer) ((f.note answer).detail command)) u) ∨
      (∃ id operation, answer = .error (.notSupported id operation) ∧
        attempt command f v = .error (.failed (.unsupported id operation)) u)) := by
  obtain ⟨u, hu, hx⟩ := exec_runs h
  have ha : attempt command f v = _ := bind_of_ok hx
  cases hr : w.target.execAnswer k with
  | ok result =>
    rw [hr] at ha
    by_cases h0 : result.exitCode = 0
    · have hs : result.success = true := decide_eq_true h0
      dsimp only at ha
      rw [if_pos hs] at ha
      exact ⟨_, hu.log _, .inl ⟨result, rfl, h0, ha⟩⟩
    · have hs : ¬ result.success = true := fun hs => h0 (of_decide_eq_true hs)
      dsimp only at ha
      rw [if_neg hs] at ha
      exact ⟨_, hu.log _, .inr (.inl ⟨h0, ha⟩)⟩
  | error e =>
    rw [hr] at ha
    cases e with
    | notSupported id operation => exact ⟨_, hu, .inr (.inr ⟨id, operation, rfl, ha⟩)⟩
    | portNotMapped | io | other => exact ⟨_, hu, .inr (.inl ⟨rfl, ha⟩)⟩

/-- Each attempt of a poll runs the command once, and what is remembered is what came of it. -/
theorem course_runs {p : Poll} (h : p.course (attempt command) {} w k = some (f, v)) :
    f = .account (w.target.execAnswers k) ∧ Runs command k w v ∧
      ∀ a ∈ w.target.execAnswers k, a.Misses := by
  induction k generalizing f v with
  | zero =>
    cases h
    exact ⟨rfl, ⟨rfl, by simp⟩, nofun⟩
  | succ k ih =>
    obtain ⟨f₁, v₁, detail, u, hc, ha, hr⟩ := Poll.course_succ.mp h
    obtain ⟨rfl, hv, hm⟩ := ih hc
    obtain ⟨-, log, rfl⟩ := p.retry_eq_ok hr
    obtain ⟨u', hu, ⟨_, -, -, ha'⟩ | ⟨hn, ha'⟩ | ⟨_, _, -, ha'⟩⟩ :=
      attempt_runs (.account (w.target.execAnswers k)) hv
    · rw [ha'] at ha
      cases ha
    · rw [ha'] at ha
      cases ha
      rw [Target.execAnswers_succ]
      refine ⟨(Failures.account_append _ _).symm, ⟨hu.target, hu.calls⟩, fun a hm' => ?_⟩
      rcases List.mem_append.mp hm' with hm' | hm'
      · exact hm a hm'
      · exact List.mem_singleton.mp hm' ▸ hn
    · rw [ha'] at ha
      cases ha

/-! ## Waits -/

/-- The end of a wait in which a command was given these answers. -/
inductive Verdict (command : String) (answers : List ExecAnswer) :
    EStateM.Result Halt World Unit → Prop
  | ready {before : List ExecAnswer} {result : ExecResult} {v : World} :
    answers = before ++ [.ok result] → result.exitCode = 0 → (∀ a ∈ before, a.Misses) →
    Verdict command answers (.ok () v)
  | late {elapsed : Duration} {detail : String} {v : World} :
    (∀ a ∈ answers, a.Misses) → Reports command answers detail →
    Verdict command answers (.error (.failed (.timeout .shell elapsed detail none)) v)
  | unsupported {before : List ExecAnswer} {id operation : String} {v : World} :
    answers = before ++ [.error (.notSupported id operation)] → (∀ a ∈ before, a.Misses) →
    Verdict command answers (.error (.failed (.unsupported id operation)) v)
  | endless {v : World} : (∀ a ∈ answers, a.Misses) → Verdict command answers (.error .endless v)

theorem run_verdict {p : Poll} (hp : p.kind = .shell) (command : String) (w : World) :
    ∃ n, Runs command n w ((p.run (attempt command) {}).after w) ∧
      Verdict command (w.target.execAnswers n) (p.run (attempt command) {} w) := by
  rcases p.run_ends (attempt command) {} w with ⟨k, f, v, -, hc, hs⟩ | ⟨f, v, hc, he⟩
  · obtain ⟨rfl, hv, hm⟩ := course_runs hc
    obtain ⟨u, hu, hr⟩ := attempt_runs (.account (w.target.execAnswers k)) hv
    refine ⟨k + 1, ?_⟩
    unfold after
    generalize p.run (attempt command) {} w = x at hs ⊢
    rw [Target.execAnswers_succ]
    rcases hr with ⟨result, ha, h0, hr⟩ | ⟨hn, hr⟩ | ⟨id, operation, ha, hr⟩
    · obtain rfl := hs.of_ready hr
      exact ⟨hu, .ready (by rw [ha]) h0 hm⟩
    · obtain ⟨-, log, rfl⟩ := hs.of_missed hr
      have hm' : ∀ a ∈ w.target.execAnswers k ++ [w.target.execAnswer k], a.Misses := by
        intro a h
        rcases List.mem_append.mp h with h | h
        · exact hm a h
        · exact List.mem_singleton.mp h ▸ hn
      refine ⟨hu.log log, ?_⟩
      rw [hp, ← Failures.account_append]
      exact .late hm' (reports_detail (List.concat_ne_nil _ _) hm')
    · obtain rfl := hs.of_error hr
      exact ⟨hu, .unsupported (by rw [ha]) hm⟩
  · obtain ⟨-, hv, hm⟩ := course_runs hc
    refine ⟨p.enough w, ?_, ?_⟩
    · rwa [after_of_error he]
    · rw [he]
      exact .endless hm

/-- A wait runs its command until it exits with code 0 or the time is up. What it reports then is the
last exit code, which is not 0, and the last error, of the answers that it has been given. -/
theorem failure_report (h : c.command = some command) (w : World) :
    ∃ n, (c.wait.calls w).map Entry.call =
        (if w.target.exec.isSome then List.replicate n (.exec (words command)) else []) ∧
      Verdict command (w.target.execAnswers n) (c.wait w) := by
  let p : Poll := ⟨.shell, c.pace⟩
  obtain ⟨w₀, hs, hw⟩ : ∃ w₀, c.setUp w = .ok (some command) w₀ ∧ w.Alike w₀ := by
    unfold setUp
    rw [h]
    exact ⟨_, rfl, w.alike_log _⟩
  have hr : c.wait w = p.run (attempt command) {} w₀ := by
    rw [c.wait_eq, bind_of_ok hs]
    rfl
  obtain ⟨n, hn, hv⟩ := run_verdict (p := p) rfl command w₀
  refine ⟨n, ?_, ?_⟩
  · have ha : c.wait.after w = (p.run (attempt command) {}).after w₀ := by
      rw [after, hr, after]
    rw [calls, ha, List.map_drop, hn.calls, hw.journal_eq, ← List.length_map, List.drop_left,
      hw.target_eq]
  · rwa [hr, hw.target_eq]

/-- An error that comes after an exit code does not hide it. -/
theorem failure_report_both :
    let c : ShellCommand := { command := some "check", pace := ⟨.ofSecs 1, .ofMillis 500⟩ }
    let answers : List ExecAnswer := [.error (.other "lost"), .ok { exitCode := -2 },
      .error (.other "reset")]
    let w : World := { target := { exec := some ⟨answers.map fun answer => { answer }⟩ } }
    c.command = some "check" ∧ w.target.execAnswers 3 = answers ∧
      ∃ n, (c.wait.calls w).map Entry.call =
          (if w.target.exec.isSome then List.replicate n (.exec (words "check")) else []) ∧
        Verdict "check" (w.target.execAnswers n) (c.wait w) := by
  intro c answers w
  exact ⟨rfl, rfl, failure_report rfl w⟩

end ShellCommand

end Readiness
