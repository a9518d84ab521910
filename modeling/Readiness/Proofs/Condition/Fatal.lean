import Readiness.Proofs.Condition.Schedule

/-! # Errors that end a wait

The conditions that ask the target something at every attempt (`Polled.Asks`) are ended by their own
timeout, by a fault in their configuration and by the reply that the question is not supported; the
conditions that connect to the container are ended by their own timeout and by what goes wrong before
the first connection is attempted. `Polled.fatal_errors` says so for every wait. -/

namespace Readiness

/-- The kind of the strategies that a fault in the configuration can be found in. -/
def ConfigurationError.reporter : ConfigurationError → Kind
  | .missingPattern | .invalidPattern _ => .logMessage
  | .missingCommand => .shell
  | .timeoutNotSupported _ => .waitAll
  | .readTimeoutTooShort _ | .invalidUrl _ | .httpClient _ => .http

/-! ## Actions without connections -/

/-- Whether something is connected to, or sent over a connection. -/
def Call.isConnection : Call → Bool
  | .connect _ | .request .. => true
  | _ => false

/-- `v` comes after `w`, and no connection has been attempted between the two. -/
structure World.Unconnected (w v : World) : Prop where
  network : v.network = w.network
  journal : ∃ calls, v.journal.toList = w.journal.toList ++ calls ∧
    ∀ entry ∈ calls, entry.call.isConnection = false

theorem World.Unconnected.refl (w : World) : w.Unconnected w where
  network := rfl
  journal := ⟨[], by simp, by simp⟩

theorem World.Unconnected.trans {u v w : World} (h₁ : u.Unconnected v) (h₂ : v.Unconnected w) :
    u.Unconnected w := by
  obtain ⟨calls₁, hj₁, hc₁⟩ := h₁.journal
  obtain ⟨calls₂, hj₂, hc₂⟩ := h₂.journal
  refine ⟨h₂.network.trans h₁.network, calls₁ ++ calls₂, ?_, ?_⟩
  · rw [hj₂, hj₁, List.append_assoc]
  · intro entry he
    rcases List.mem_append.mp he with he | he
    · exact hc₁ entry he
    · exact hc₂ entry he

namespace Timed

variable {ε δ α β : Type}

/-- The action attempts no connection. -/
def Offline (x : Timed ε α) : Prop := ∀ w : World, w.Unconnected (x.after w)

theorem offline_pure (a : α) : (pure a : Timed ε α).Offline := World.Unconnected.refl

theorem offline_throw (e : ε) : (throw e : Timed ε α).Offline := World.Unconnected.refl

theorem offline_say (level : Level) (text : String) : (Wait.say level text).Offline :=
  fun _ => ⟨rfl, [], (List.append_nil _).symm, by simp⟩

theorem offline_ask (call : Call) (next : Target → Reply α × Target)
    (h : call.isConnection = false) : (Query.ask call next).Offline := by
  intro w
  rw [after_ask]
  refine ⟨rfl, [⟨w.now, call⟩], by simp, ?_⟩
  intro entry he
  rw [List.mem_singleton.mp he]
  exact h

theorem Offline.bind {x : Timed ε α} {f : α → Timed ε β} (hx : x.Offline)
    (hf : ∀ a, (f a).Offline) : (x >>= f).Offline :=
  after_bind World.Unconnected.trans hx hf

theorem offline_require {q : Query α} (hq : q.Offline) : (Wait.require q).Offline := by
  intro w
  rw [Wait.require, after_mapError]
  exact hq w

theorem offline_mappedPorts (ports : List UInt16) (found : Ascending) :
    (Query.mappedPorts ports found).Offline := by
  induction ports generalizing found with
  | nil => exact offline_pure _
  | cons port rest ih => exact (offline_ask _ _ rfl).bind fun _ => ih _

theorem offline_livenessCheckPorts : Query.livenessCheckPorts.Offline :=
  (offline_ask _ _ rfl).bind fun _ => offline_mappedPorts _ _

end Timed

namespace Polled

open Timed

/-- No connection is attempted before the first attempt. -/
theorem setUp_offline (c : Polled) : c.setUp.Offline := by
  cases c with
  | logMessage c =>
    change c.setUp.Offline
    unfold LogMessage.setUp
    split
    · exact offline_throw _
    · exact (offline_say _ _).bind fun _ => offline_pure _
  | hostPort c =>
    have hp : c.hostPorts.Offline := by
      rw [c.hostPorts_eq]
      refine offline_require ?_
      unfold HostPort.query
      split
      · exact offline_mappedPorts _ _
      · exact offline_livenessCheckPorts
    refine hp.bind fun ports => ?_
    split
    · exact (offline_say _ _).bind fun _ => offline_pure _
    · refine (offline_require (offline_ask _ _ rfl)).bind fun host => ?_
      exact (offline_say _ _).bind fun _ => offline_pure _
  | http c =>
    have hp : c.hostPort?.Offline := by
      unfold HttpProbe.hostPort?
      split
      · exact (offline_ask _ _ rfl).bind fun _ => offline_pure _
      · exact offline_livenessCheckPorts.bind fun _ => offline_pure _
    change c.setUp.Offline
    unfold HttpProbe.setUp
    split
    · exact offline_throw _
    · refine (offline_require hp).bind fun port => ?_
      split
      · exact (offline_say _ _).bind fun _ => offline_pure _
      · refine (offline_require (offline_ask _ _ rfl)).bind fun host => ?_
        split
        · exact offline_throw _
        · exact (offline_say _ _).bind fun _ => offline_pure _
  | shell c =>
    change c.setUp.Offline
    unfold ShellCommand.setUp
    split
    · exact offline_throw _
    · exact (offline_say _ _).bind fun _ => offline_pure _
  | healthcheck c => exact (offline_say _ _).bind fun _ => offline_pure _

/-! ## Questions -/

/-- Every attempt asks the target one question, and nothing else. -/
def Asks : Polled → Prop
  | .logMessage _ | .shell _ | .healthcheck _ => True
  | .hostPort _ | .http _ => False

/-- What the target answers to an attempt. -/
def Answer : Polled → Type
  | .logMessage _ => String
  | .shell _ => ExecResult
  | .healthcheck _ => Bool
  | .hostPort _ | .http _ => Unit

/-- The question of an attempt; conditions that connect ask none. -/
def question : (c : Polled) → c.Plan → Query c.Answer
  | .logMessage _, _ => Query.logs
  | .shell _, command => Query.exec (ShellCommand.words command)
  | .healthcheck _, _ => Query.isHealthy
  | .hostPort _, _ => (pure () : Query Unit)
  | .http _, _ => (pure () : Query Unit)

variable {c : Polled} {plan : c.Plan} {memory : c.Memory} {e : WaitError} {t : TargetError}
  {w v u w₀ : World} {k : Nat}

/-- The reply that a question is not supported ends the wait with the reply. -/
theorem attempt_of_unsupported {id operation : String}
    (h : c.question plan w = .error (.notSupported id operation) u) :
    c.attempt plan memory w = .error (.failed (.unsupported id operation)) u := by
  cases c with
  | logMessage c => exact bind_of_ok (outcome_of_error h)
  | shell c => exact bind_of_ok (outcome_of_error h)
  | healthcheck c => exact bind_of_ok (outcome_of_error h)
  | hostPort c | http c => cases h

/-- Every other failing reply is a miss. -/
theorem attempt_of_failing (memory : c.Memory) (h : c.question plan w = .error t u)
    (ht : t.isNotSupported = false) :
    ∃ memory' detail log, c.attempt plan memory w = .ok (.missed memory' detail) { u with log } := by
  cases t with
  | notSupported id operation => cases ht
  | portNotMapped | io | other =>
    cases c with
    | logMessage c => exact ⟨_, _, _, bind_of_ok (outcome_of_error h)⟩
    | shell c => exact ⟨_, _, _, bind_of_ok (outcome_of_error h)⟩
    | healthcheck c => exact ⟨_, _, _, bind_of_ok (outcome_of_error h)⟩
    | hostPort c | http c => cases h

theorem attempt_of_answer (memory : c.Memory) {a : c.Answer} (hc : c.Asks)
    (h : c.question plan w = .ok a u) :
    ∃ r log, c.attempt plan memory w = .ok r { u with log } := by
  cases c with
  | logMessage c =>
    have ha : c.attempt plan.1 plan.2 memory w = _ := bind_of_ok (outcome_of_ok h)
    by_cases ht : c.times ≤ (memory.scan plan.2 a).total
    · exact ⟨.ready, _, ha.trans (by dsimp only; rw [if_pos ht]; rfl)⟩
    · exact ⟨_, u.log, ha.trans (by dsimp only; rw [if_neg ht]; rfl)⟩
  | shell c =>
    have ha : ShellCommand.attempt plan memory w = _ := bind_of_ok (outcome_of_ok h)
    by_cases hs : ExecResult.success a
    · exact ⟨.ready, _, ha.trans (by dsimp only; rw [if_pos hs]; rfl)⟩
    · exact ⟨_, _, ha.trans (by dsimp only; rw [if_neg hs]; rfl)⟩
  | healthcheck c =>
    have ha : Healthcheck.attempt w = _ := bind_of_ok (outcome_of_ok h)
    cases a with
    | true => exact ⟨.ready, _, ha⟩
    | false => exact ⟨_, u.log, ha⟩
  | hostPort c | http c => exact hc.elim

/-- An attempt fails only with the reply that its question is not supported. -/
theorem attempt_failed (h : c.attempt plan memory w = .error (.failed e) u) :
    ∃ id operation, c.question plan w = .error (.notSupported id operation) u ∧
      e = .unsupported id operation := by
  by_cases hc : c.Asks
  · cases hq : c.question plan w with
    | ok a v =>
      obtain ⟨r, log, ha⟩ := attempt_of_answer memory hc hq
      rw [ha] at h
      cases h
    | error t v =>
      cases ht : t.isNotSupported with
      | true =>
        cases t with
        | notSupported id operation =>
          rw [attempt_of_unsupported hq] at h
          cases h
          exact ⟨id, operation, rfl, rfl⟩
        | portNotMapped | io | other => cases ht
      | false =>
        obtain ⟨m, detail, log, ha⟩ := attempt_of_failing memory hq ht
        rw [ha] at h
        cases h
  · cases c with
    | logMessage c | shell c | healthcheck c => exact absurd trivial hc
    | hostPort c => exact ((c.attempt_ends plan.1 plan.2 w).of_error h).elim
    | http c =>
      obtain ⟨-, he, -⟩ := (c.attempt_ends plan w).of_error h
      cases he

/-! ## Set-ups -/

theorem compile_reporter {c : LogMessage} {cause : ConfigurationError}
    (h : c.compile = .error cause) : cause.reporter = .logMessage := by
  unfold LogMessage.compile at h
  split at h
  · cases h
    rfl
  · split at h
    · cases h
      rfl
    · cases h

/-- What a set-up may fail with: a fault in the configuration, which is found at once by conditions
that ask, or an error of the target, which conditions that ask have nothing to do with. -/
def Faults (c : Polled) (w : World) (halt : Halt) (v : World) : Prop :=
  (∃ cause, halt = .failed (.configuration cause) ∧ cause.reporter = c.poll.kind ∧
    (c.Asks → v = w)) ∨
  ¬ c.Asks ∧ ∃ t, halt = .failed (.ofTarget t)

theorem setUp_ends (c : Polled) (w : World) : c.setUp.Ends w (fun _ _ => True) (c.Faults w) := by
  have lookedUp : ∀ {α β : Type} {q : Query α} {f : α → Wait β} {u : World}, ¬ c.Asks →
      (∀ a v, (f a).Ends v (fun _ _ => True) (c.Faults w)) →
      (Wait.require q >>= f).Ends u (fun _ _ => True) (c.Faults w) := by
    intro α β q f u hc hf
    have hq : (Wait.require q).Ends u (fun _ _ => True) (c.Faults w) :=
      ends_mapError.mpr (ends_of_true (fun _ _ => trivial) fun t _ => .inr ⟨hc, t, rfl⟩)
    exact hq.bind (fun a v _ => hf a v) fun _ _ h => h
  cases c with
  | logMessage c =>
    change c.setUp.Ends w _ _
    unfold LogMessage.setUp
    split
    · next cause h => exact .inl ⟨cause, rfl, compile_reporter h, fun _ => rfl⟩
    · trivial
  | hostPort c =>
    change c.setUp.Ends w _ _
    unfold HostPort.setUp
    rw [c.hostPorts_eq]
    refine lookedUp id fun ports v => ?_
    split
    · trivial
    · exact lookedUp id fun host u => trivial
  | http c =>
    change c.setUp.Ends w _ _
    unfold HttpProbe.setUp
    split
    · exact .inl ⟨_, rfl, rfl, fun _ => rfl⟩
    · refine lookedUp id fun port v => ?_
      split
      · trivial
      · refine lookedUp id fun host u => ?_
        split
        · exact .inl ⟨_, rfl, rfl, nofun⟩
        · trivial
  | shell c =>
    change c.setUp.Ends w _ _
    unfold ShellCommand.setUp
    split
    · exact .inl ⟨_, rfl, rfl, fun _ => rfl⟩
    · trivial
  | healthcheck c => trivial

/-! ## Waits -/

/-- The loop of the wait comes to its `k`-th attempt after a set-up, counted from 0. -/
def ComesTo (c : Polled) (plan : c.Plan) (w w₀ : World) (k : Nat) (memory : c.Memory) (v : World) :
    Prop :=
  c.course plan w₀ k = some (memory, v) ∧
    ∃ n, c.strategy.wait w = c.poll.rounds w₀.now (c.attempt plan) (n + 1) k memory v

/-- A wait fails with its set-up, with an attempt, or with a miss that comes too late. -/
theorem wait_failed (h : c.strategy.wait w = .error (.failed e) u) :
    c.setUp w = .error (.failed e) u ∨
    ∃ plan w₀ k memory v, c.setUp w = .ok (some plan) w₀ ∧ c.ComesTo plan w w₀ k memory v ∧
      (c.attempt plan memory v = .error (.failed e) u ∨
        ∃ memory' detail u₁ log, c.attempt plan memory v = .ok (.missed memory' detail) u₁ ∧
          e = .timeout c.poll.kind (.ofMillis (u₁.now - w₀.now)) detail none ∧
          u = { u₁ with log }) := by
  cases hs : c.setUp w with
  | error halt v =>
    rw [c.wait_eq, bind_of_error hs] at h
    cases h
    exact .inl rfl
  | ok plan w₀ =>
    cases plan with
    | none =>
      rw [c.wait_eq, bind_of_ok hs] at h
      cases h
    | some plan =>
      have hw := wait_of_setUp hs
      rw [hw] at h
      obtain ⟨k, memory, v, hk, hc, he⟩ := Poll.run_error h
      obtain ⟨n, hn⟩ := Poll.run_eq_rounds hc hk
      exact .inr ⟨plan, w₀, k, memory, v, rfl, ⟨hc, n, hw.trans hn⟩, he⟩

/-- A fault in the configuration is found by the set-up. -/
theorem wait_misconfigured {cause : ConfigurationError}
    (h : c.strategy.wait w = .error (.failed (.configuration cause)) u) :
    cause.reporter = c.poll.kind ∧ (c.Asks → u = w) := by
  rcases wait_failed h with hs | ⟨plan, w₀, k, memory, v, -, -, ha | ⟨_, _, _, -, -, he, -⟩⟩
  · rcases (c.setUp_ends w).of_error hs with ⟨cause', he, hk, hu⟩ | ⟨-, t, he⟩
    · cases he
      exact ⟨hk, hu⟩
    · cases t <;> cases he
  · obtain ⟨id, operation, -, he⟩ := attempt_failed ha
    cases he
  · cases he

/-- What a wait comes to if every attempt asks the target. -/
structure Asked (c : Polled) (w : World) : Prop where
  errors : ∀ e u, c.strategy.wait w = .error (.failed e) u →
    (∃ elapsed detail, e = .timeout c.poll.kind elapsed detail none) ∨
    (∃ cause, e = .configuration cause) ∨ ∃ id operation, e = .unsupported id operation
  /-- A fault in the configuration is reported before anything happens. -/
  configuration : ∀ cause u, c.strategy.wait w = .error (.failed (.configuration cause)) u →
    cause.reporter = c.poll.kind ∧ u = w
  /-- The wait ends with the reply that a question is not supported, and with no other reply of
  which this is reported. -/
  unsupported_iff : ∀ id operation u,
    c.strategy.wait w = .error (.failed (.unsupported id operation)) u ↔
      ∃ plan w₀ k memory v, c.setUp w = .ok (some plan) w₀ ∧ c.ComesTo plan w w₀ k memory v ∧
        c.question plan v = .error (.notSupported id operation) u
  /-- After every other failing reply the loop goes on with the next attempt, unless the reply comes
  too late. -/
  again : ∀ plan w₀ k memory v t u, c.setUp w = .ok (some plan) w₀ →
    c.ComesTo plan w w₀ k memory v → c.question plan v = .error t u → t.isNotSupported = false →
    (∃ n memory' v', c.course plan w₀ (k + 1) = some (memory', v') ∧
      c.strategy.wait w = c.poll.rounds w₀.now (c.attempt plan) n (k + 1) memory' v' ∧
      (.zero < c.poll.pace.interval → 0 < n)) ∨
    ∃ detail log, c.strategy.wait w =
      .error (.failed (.timeout c.poll.kind (.ofMillis (u.now - w₀.now)) detail none)) { u with log }

/-- What a wait comes to if the attempts connect to the container. -/
structure Connected (c : Polled) (w : World) : Prop where
  /-- After the set-up there is no other error than a timeout. -/
  errors : ∀ e u, c.strategy.wait w = .error (.failed e) u →
    (∃ elapsed detail, e = .timeout c.poll.kind elapsed detail none) ∨
    c.setUp w = .error (.failed e) u
  /-- A set-up fails with a fault in the configuration or with an error of the target, and has not
  attempted a connection then. -/
  early : ∀ e u, c.setUp w = .error (.failed e) u →
    c.strategy.wait w = .error (.failed e) u ∧ w.Unconnected u ∧
      ((∃ cause, e = .configuration cause ∧ cause.reporter = c.poll.kind) ∨ ∃ t, e = .ofTarget t)
  /-- A wait with a connection in its journal has no other error than a timeout. -/
  connected : ∀ e u, c.strategy.wait w = .error (.failed e) u →
    (∃ entry ∈ c.strategy.wait.calls w, entry.call.isConnection) →
    ∃ elapsed detail, e = .timeout c.poll.kind elapsed detail none

theorem asked (hc : c.Asks) (w : World) : c.Asked w where
  errors e u h := by
    rcases wait_failed h with hs | ⟨plan, w₀, k, memory, v, -, -, ha | ⟨_, detail, u₁, -, -, he, -⟩⟩
    · rcases (c.setUp_ends w).of_error hs with ⟨cause, he, -⟩ | ⟨hn, -⟩
      · cases he
        exact .inr (.inl ⟨cause, rfl⟩)
      · exact absurd hc hn
    · obtain ⟨id, operation, -, he⟩ := attempt_failed ha
      exact .inr (.inr ⟨id, operation, he⟩)
    · exact .inl ⟨_, detail, he⟩
  configuration cause u h := by
    obtain ⟨hk, hu⟩ := wait_misconfigured h
    exact ⟨hk, hu hc⟩
  unsupported_iff id operation u := by
    constructor
    · intro h
      rcases wait_failed h with hs | ⟨plan, w₀, k, memory, v, hs, hk, ha | ⟨_, _, _, -, -, he, -⟩⟩
      · rcases (c.setUp_ends w).of_error hs with ⟨cause, he, -⟩ | ⟨hn, -⟩
        · cases he
        · exact absurd hc hn
      · obtain ⟨id', operation', hq, he⟩ := attempt_failed ha
        cases he
        exact ⟨plan, w₀, k, memory, v, hs, hk, hq⟩
      · cases he
    · rintro ⟨plan, w₀, k, memory, v, -, ⟨-, n, hn⟩, hq⟩
      rw [hn, Poll.rounds]
      exact bind_of_error (attempt_of_unsupported hq)
  again plan w₀ k memory v t u hs hk hq ht := by
    obtain ⟨hk, n, hn⟩ := hk
    obtain ⟨memory', detail, log, ha⟩ := attempt_of_failing memory hq ht
    by_cases hl : c.poll.pace.timeout ≤ .ofMillis (u.now - w₀.now)
    · obtain ⟨log', hr⟩ := c.poll.retry_late (w := { u with log }) (k + 1) detail hl
      refine .inr ⟨detail, log', ?_⟩
      rw [hn, Poll.rounds, bind_of_ok ha]
      exact bind_of_error hr
    · obtain ⟨log', hr⟩ := c.poll.retry_early (w := { u with log }) (k + 1) detail hl
      have hk' := Poll.course_succ.mpr ⟨memory, v, detail, _, hk, ha, hr⟩
      by_cases hp : .zero < c.poll.pace.interval
      · obtain ⟨n', hn'⟩ := Poll.run_eq hp (c.attempt_forward plan) hk'
        exact .inl ⟨n' + 1, memory', _, hk', (wait_of_setUp hs).trans hn', fun _ => Nat.succ_pos n'⟩
      · refine .inl ⟨n, memory', _, hk', ?_, fun h => absurd h hp⟩
        rw [hn, Poll.rounds, bind_of_ok ha]
        exact bind_of_ok hr

theorem connected (hc : ¬ c.Asks) (w : World) : c.Connected w := by
  have herr : ∀ e u, c.strategy.wait w = .error (.failed e) u →
      (∃ elapsed detail, e = .timeout c.poll.kind elapsed detail none) ∨
        c.setUp w = .error (.failed e) u := by
    intro e u h
    rcases wait_failed h with hs | ⟨plan, w₀, k, memory, v, -, -, ha | ⟨_, detail, _, -, -, he, -⟩⟩
    · exact .inr hs
    · obtain ⟨id, operation, hq, -⟩ := attempt_failed ha
      cases c with
      | logMessage c | shell c | healthcheck c => exact absurd trivial hc
      | hostPort c | http c => cases hq
    · exact .inl ⟨_, detail, he⟩
  have hoff : ∀ e u, c.setUp w = .error (.failed e) u → w.Unconnected u := by
    intro e u hs
    have h := c.setUp_offline w
    rwa [after_of_error hs] at h
  refine ⟨herr, fun e u hs => ⟨?_, hoff e u hs, ?_⟩, fun e u h ⟨entry, hm, hcon⟩ => ?_⟩
  · rw [c.wait_eq]
    exact bind_of_error hs
  · rcases (c.setUp_ends w).of_error hs with ⟨cause, he, hk, -⟩ | ⟨-, t, he⟩
    · cases he
      exact .inl ⟨cause, rfl, hk⟩
    · cases he
      exact .inr ⟨t, rfl⟩
  · rcases herr e u h with ht | hs
    · exact ht
    · obtain ⟨calls, hj, hcalls⟩ := (hoff e u hs).journal
      rw [Timed.calls, after_of_error h, hj, List.drop_left] at hm
      rw [hcalls entry hm] at hcon
      cases hcon

/-- Only the errors that no repetition can mend end the wait on a condition before its time is up;
if it is polled with pauses, and its requests have a limit, the wait does come to an end. -/
theorem fatal_errors (c : Polled) (w : World) :
    (c.Asks → c.Asked w) ∧ (¬ c.Asks → c.Connected w) ∧
      (.zero < c.poll.pace.interval → (∀ h, c = .http h → h.clientOf.timeout ≠ none) →
        c.strategy.wait.Returns w) :=
  ⟨fun hc => asked hc w, fun hc => connected hc w, fun hp hh => wait_returns hp hh w⟩

end Polled

end Readiness
