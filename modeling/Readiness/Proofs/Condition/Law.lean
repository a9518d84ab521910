import Readiness.Proofs.Action.Law
import Readiness.Proofs.Condition.Polled

/-! # Laws of conditions

Every law of actions holds of the set-up and of the attempts of every condition
(`Timed.Law.setUp`, `Timed.PartialLaw.attempt`), and therefore of its wait. -/

namespace Readiness.Timed

namespace Law

variable {P : ∀ {ε α : Type}, Timed ε α → Prop} (L : Law P)
include L

/-! ## Set-ups -/

theorem hostPorts (c : HostPort) : P c.hostPorts := by
  rw [c.hostPorts_eq]
  refine L.require ?_
  unfold HostPort.query
  split
  · exact L.mappedPorts ..
  · exact L.livenessCheckPorts

theorem hostPort? (c : HttpProbe) : P c.hostPort? := by
  unfold HttpProbe.hostPort?
  split
  · exact L.bind (L.mappedPort _) fun _ => L.pure _
  · exact L.bind L.livenessCheckPorts fun _ => L.pure _

theorem lookUp (c : HttpProbe) : P c.lookUp := by
  refine L.bind (L.require (L.hostPort? c)) fun port => ?_
  split
  · exact L.bind (L.say ..) fun _ => L.pure _
  · refine L.bind (L.require L.host) fun host => ?_
    split
    · exact L.fail _
    · exact L.bind (L.say ..) fun _ => L.pure _

theorem setUp (c : Polled) : P c.setUp := by
  cases c with
  | logMessage c =>
    change P c.setUp
    unfold LogMessage.setUp
    split
    · exact L.fail _
    · exact L.bind (L.say ..) fun _ => L.pure _
  | hostPort c =>
    refine L.bind (L.hostPorts c) fun ports => ?_
    split
    · exact L.bind (L.say ..) fun _ => L.pure _
    · exact L.bind (L.require L.host) fun _ => L.bind (L.say ..) fun _ => L.pure _
  | http c =>
    change P c.setUp
    unfold HttpProbe.setUp
    split
    · exact L.fail _
    · exact L.lookUp c
  | shell c =>
    change P c.setUp
    unfold ShellCommand.setUp
    split
    · exact L.fail _
    · exact L.bind (L.say ..) fun _ => L.pure _
  | healthcheck c => exact L.bind (L.say ..) fun _ => L.pure _

end Law

namespace PartialLaw

variable {P : ∀ {ε α : Type}, Timed ε α → Prop} (L : PartialLaw P)
include L

/-! ## Requests -/

theorem giveUp (c : Http.Client) : P c.giveUp := by
  unfold Http.Client.giveUp
  split
  · exact L.pause _
  · exact L.throw _

theorem exchange (c : Http.Client) (o : Http.Outgoing) : P (c.exchange o) := by
  refine L.bind (L.connect ..) fun r => ?_
  cases r with
  | failed _ => exact L.pure _
  | pending => exact L.bind (L.giveUp c) fun _ => L.pure _
  | made server =>
    dsimp only
    split
    · refine L.bind (L.record _) fun _ => ?_
      cases server.reaction.final with
      | closes => exact L.pure _
      | silent => exact L.bind (L.giveUp c) fun _ => L.pure _
      | raw _ | answers _ _ _ => exact L.bind L.reader fun _ => L.pure _
    · exact L.pure _

theorem follow (c : Http.Client) (first : String) (redirects : Nat) (o : Http.Outgoing) :
    P (c.follow first redirects o) := by
  induction redirects generalizing o with
  | zero =>
    rw [Http.Client.follow]
    refine L.bind (L.exchange ..) fun r => ?_
    split
    · exact L.pure _
    · split
      · exact L.pure _
      · split <;> exact L.pure _
  | succ n ih =>
    rw [Http.Client.follow]
    refine L.bind (L.exchange ..) fun r => ?_
    split
    · exact L.pure _
    · split
      · exact L.pure _
      · dsimp only
        split
        · split
          · exact ih _
          · exact L.pure _
        · exact L.pure _

theorem fetch (c : Http.Client) (o : Option Http.Outgoing) : P (c.fetch o) := by
  cases o with
  | none => exact L.pure _
  | some o =>
    unfold Http.Client.fetch
    dsimp only
    split
    · exact L.follow ..
    · exact L.pure _

theorem readText (c : Http.Client) (r : Http.Received) : P (c.readText r) := by
  unfold Http.Client.readText
  split
  · exact L.pure _
  · exact L.pure _
  · exact L.bind (L.giveUp c) fun _ => L.pure _

theorem acceptsStatus (c : HttpProbe) (status : UInt16) : P (c.acceptsStatus status) := by
  unfold HttpProbe.acceptsStatus
  split
  · exact L.pure _
  · split
    · exact L.pure _
    · exact L.bind (L.record _) fun _ => L.pure _

theorem check (c : HttpProbe) (url : Url) : P (c.check url) := by
  refine L.bind (L.fetch ..) fun r => ?_
  split
  · exact L.pure _
  · refine L.bind (L.acceptsStatus ..) fun accepted => ?_
    split
    · split
      · exact L.pure _
      · refine L.bind (L.readText ..) fun text => ?_
        split
        · exact L.pure _
        · exact L.bind (L.record _) fun _ => L.pure _
    · exact L.pure _

/-! ## Connections -/

theorem isListening (c : HostPort) (host : Url.Host) (port : UInt16) :
    P (c.isListening host port) := by
  refine L.bind (L.connect ..) fun r => ?_
  cases r with
  | made _ => exact L.pure _
  | failed _ => exact L.bind (L.note ..) fun _ => L.pure _
  | pending => exact L.bind (L.pause _) fun _ => L.bind (L.note ..) fun _ => L.pure _

theorem unreachable (c : HostPort) (host : Url.Host) (ports : List UInt16) :
    P (c.unreachable host ports) := by
  induction ports with
  | nil => exact L.pure _
  | cons port rest ih =>
    exact L.bind (L.isListening ..) fun _ => L.bind ih fun _ => L.pure _

/-! ## Attempts -/

theorem attempt (c : Polled) (plan : c.Plan) (memory : c.Memory) : P (c.attempt plan memory) := by
  cases c with
  | logMessage c =>
    refine L.bind (L.outcome L.logs) fun r => ?_
    cases r with
    | ok output =>
      dsimp only
      split
      · exact L.bind (L.say ..) fun _ => L.pure _
      · exact L.pure _
    | error e =>
      dsimp only
      split
      · exact L.bind (L.fail _) fun _ => L.bind (L.say ..) fun _ => L.pure _
      · exact L.bind (L.say ..) fun _ => L.pure _
  | hostPort c =>
    refine L.bind (L.unreachable ..) fun _ => ?_
    split
    · exact L.bind (L.say ..) fun _ => L.pure _
    · exact L.pure _
  | http c =>
    refine L.bind (L.check ..) fun r => ?_
    split
    · exact L.bind (L.say ..) fun _ => L.pure _
    · exact L.pure _
  | shell c =>
    refine L.bind (L.outcome (L.exec _)) fun r => ?_
    cases r with
    | ok result =>
      dsimp only
      split <;> exact L.bind (L.say ..) fun _ => L.pure _
    | error e =>
      dsimp only
      split
      · exact L.bind (L.fail _) fun _ => L.pure _
      · exact L.pure _
  | healthcheck c =>
    refine L.bind (L.outcome L.isHealthy) fun r => ?_
    split
    · exact L.bind (L.say ..) fun _ => L.pure _
    · exact L.pure _
    · dsimp only
      split
      · exact L.bind (L.fail _) fun _ => L.pure _
      · exact L.pure _

end PartialLaw

/-! ## Waits -/

theorem Law.Clocked.polled {P : ∀ {ε α : Type}, Timed ε α → Prop} (L : Clocked P) (c : Polled) :
    P c.strategy.wait := by
  rw [c.wait_eq]
  refine L.bind (L.setUp c) fun plan => ?_
  cases plan with
  | none => exact L.pure _
  | some plan => exact L.run _ (L.attempt c plan) _

end Readiness.Timed
