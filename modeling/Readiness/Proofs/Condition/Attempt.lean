import Readiness.Proofs.Action.Ends
import Readiness.Proofs.Condition.Polled

/-! # How attempts end

An attempt takes no longer than `Polled.slack` and ends early in two ways only: it cannot be made at
all, or it goes on for ever because its client has no limit (`Polled.attempt_ends`). A
set-up comes to an end (`Polled.setUp_returns`). -/

namespace Readiness

open Timed

/-- The milliseconds that the next reply to a command takes. -/
def Target.execDelay (t : Target) : Nat :=
  match t.exec with
  | none => 0
  | some script => (t.nextExec script).1.delay.ceilMillis

/-! ## Requests -/

namespace Http.Client

/-- The milliseconds after which the client gives up, if it does. -/
def limit (c : Client) : Nat := c.timeout.elim 0 Duration.ceilMillis

/-- The client waits for ever, after having lost no time. -/
def Hangs (c : Client) (w : World) (e : Halt) (v : World) : Prop :=
  v.now = w.now ∧ e = .endless ∧ c.timeout = none

variable {c : Client}

theorem giveUp_ends (c : Client) (w : World) :
    c.giveUp.Ends w (fun _ v => v.now = w.now + c.limit) (c.Hangs w) := by
  unfold giveUp limit
  cases h : c.timeout with
  | none => exact ends_throw.mpr ⟨rfl, rfl, h⟩
  | some d =>
    rw [Option.elim_some]
    exact ends_pause.mpr rfl

theorem Hangs.congr {w w' v : World} {e : Halt} (h : c.Hangs w' e v) (hn : w'.now = w.now) :
    c.Hangs w e v := ⟨h.1.trans hn, h.2⟩

/-- The client gives up on a request, or the response takes no time. -/
theorem exchange_ends (c : Client) (o : Outgoing) (w : World) :
    (c.exchange o).Ends w
      (fun r v => v.now ≤ w.now + c.limit ∧ (r.isSome → v.now = w.now)) (c.Hangs w) := by
  -- time passes only where there is no response
  have lost : ∀ u : World, u.now = w.now →
      (c.giveUp >>= fun _ => pure none : Wait (Option Received)).Ends u
        (fun r v => v.now ≤ w.now + c.limit ∧ (r.isSome → v.now = w.now)) (c.Hangs w) := by
    intro u hu
    refine (c.giveUp_ends u).bind (fun _ v hv => ?_) fun e v h => h.congr hu
    exact ends_pure.mpr ⟨by omega, nofun⟩
  have kept : ∀ (u : World) (r : Option Received), u.now = w.now →
      (pure r : Wait (Option Received)).Ends u
        (fun r v => v.now ≤ w.now + c.limit ∧ (r.isSome → v.now = w.now)) (c.Hangs w) := by
    intro u r hu
    exact ends_pure.mpr ⟨by omega, fun _ => hu⟩
  refine (ends_connect _ _ w).instant_bind fun r v hv => ?_
  cases r with
  | failed _ => exact kept v none hv
  | pending => exact lost v hv
  | made server =>
    dsimp only
    split
    · refine (ends_record _ v).instant_bind fun _ u hu => ?_
      replace hu := hu.trans hv
      cases server.reaction.final with
      | closes => exact kept u none hu
      | silent => exact lost u hu
      | raw _ | answers _ _ _ =>
        exact (ends_reader u).instant_bind fun _ x hx => kept x _ (hx.trans hu)
    · exact kept v none hv

/-- Of all the requests that a chain of redirects consists of, only the last one may be given up. -/
theorem follow_ends (c : Client) (first : String) (redirects : Nat) (o : Outgoing) (w : World) :
    (c.follow first redirects o).Ends w
      (fun r v => v.now ≤ w.now + c.limit ∧ (r.isOk → v.now = w.now)) (c.Hangs w) := by
  induction redirects generalizing o w with
  | zero =>
    rw [Client.follow]
    refine (c.exchange_ends o w).bind (fun r v hv => ?_) fun _ _ h => h
    cases r with
    | none => exact ends_pure.mpr ⟨hv.1, nofun⟩
    | some r =>
      dsimp only
      split
      · exact ends_pure.mpr ⟨hv.1, fun _ => hv.2 rfl⟩
      · split
        · exact ends_pure.mpr ⟨hv.1, nofun⟩
        · exact ends_pure.mpr ⟨hv.1, fun _ => hv.2 rfl⟩
  | succ n ih =>
    rw [Client.follow]
    refine (c.exchange_ends o w).bind (fun r v hv => ?_) fun _ _ h => h
    cases r with
    | none => exact ends_pure.mpr ⟨hv.1, nofun⟩
    | some r =>
      have hn : v.now = w.now := hv.2 rfl
      dsimp only
      split
      · exact ends_pure.mpr ⟨hv.1, fun _ => hn⟩
      · split
        · split
          · refine (ih _ v).mono (fun r u hu => ?_) fun e u h => h.congr hn
            rw [hn] at hu
            exact hu
          · exact ends_pure.mpr ⟨hv.1, nofun⟩
        · exact ends_pure.mpr ⟨hv.1, fun _ => hn⟩

theorem fetch_ends (c : Client) (o : Option Outgoing) (w : World) :
    (c.fetch o).Ends w
      (fun r v => v.now ≤ w.now + c.limit ∧ (r.isOk → v.now = w.now)) (c.Hangs w) := by
  cases o with
  | none => exact ends_pure.mpr ⟨Nat.le_add_right .., nofun⟩
  | some o =>
    unfold fetch
    dsimp only
    split
    · exact c.follow_ends _ _ o w
    · exact ends_pure.mpr ⟨Nat.le_add_right .., nofun⟩

theorem readText_ends (c : Client) (r : Received) (w : World) :
    (c.readText r).Ends w (fun _ v => v.now ≤ w.now + c.limit) (c.Hangs w) := by
  unfold readText
  split
  · exact ends_pure.mpr (Nat.le_add_right ..)
  · exact ends_pure.mpr (Nat.le_add_right ..)
  · refine (c.giveUp_ends w).bind (fun _ v hv => ?_) fun _ _ h => h
    exact ends_pure.mpr (Nat.le_of_eq hv)

end Http.Client

namespace HttpProbe

/-- The milliseconds after which a request is given up. -/
def limit (c : HttpProbe) : Nat :=
  match c.client with
  | none => c.readTimeout.ceilMillis
  | some client => client.limit

theorem clientOf_limit (c : HttpProbe) : c.clientOf.limit = c.limit := by
  unfold clientOf limit
  cases c.client with
  | none => rw [Option.getD_none, Http.Client.limit, Option.elim_some]
  | some client => rw [Option.getD_some]

theorem acceptsStatus_ends (c : HttpProbe) (status : UInt16) (w : World) :
    (c.acceptsStatus status).Ends w (fun _ v => v.now = w.now) fun _ _ => False := by
  unfold acceptsStatus
  split
  · exact ends_pure.mpr rfl
  · split
    · exact ends_pure.mpr rfl
    · exact (ends_record _ w).instant_bind fun _ u hu => ends_pure.mpr hu

/-- A request with all that it leads to is given up at most once. -/
theorem check_ends (c : HttpProbe) (url : Url) (w : World) :
    (c.check url).Ends w (fun _ v => v.now ≤ w.now + c.clientOf.limit) (c.clientOf.Hangs w) := by
  refine (c.clientOf.fetch_ends (c.request url) w).bind (fun r v hv => ?_) fun _ _ h => h
  cases r with
  | error e => exact ends_pure.mpr hv.1
  | ok response =>
    have hn : v.now = w.now := hv.2 rfl
    refine (c.acceptsStatus_ends _ v).instant_bind fun accepted u hu => ?_
    rw [hn] at hu
    split
    · split
      · exact ends_pure.mpr (by omega)
      · refine (c.clientOf.readText_ends response u).bind (fun text u' hu' => ?_)
          fun e u' h => h.congr hu
        rw [hu] at hu'
        cases text with
        | error e => exact ends_pure.mpr hu'
        | ok text =>
          exact (ends_record _ u').instant_bind fun _ _ h => ends_pure.mpr (by omega)
    · exact ends_pure.mpr (by omega)

theorem attempt_ends (c : HttpProbe) (url : Url) (w : World) :
    (c.attempt url).Ends w (fun _ v => v.now ≤ w.now + c.clientOf.limit) (c.clientOf.Hangs w) := by
  refine (c.check_ends url w).bind (fun r v hv => ?_) fun _ _ h => h
  cases r with
  | ok _ => exact (ends_say _ _ v).instant_bind fun _ _ h => ends_pure.mpr (by omega)
  | error miss => exact ends_pure.mpr hv

end HttpProbe

/-! ## Connections -/

namespace HostPort

theorem isListening_ends (c : HostPort) (host : Url.Host) (port : UInt16) (w : World) :
    (c.isListening host port).Ends w (fun _ v => v.now ≤ w.now + c.connectTimeout.ceilMillis)
      fun _ _ => False := by
  refine (ends_connect host port w).instant_bind fun r v hv => ?_
  cases r with
  | made _ => exact ends_pure.mpr (by omega)
  | failed _ => exact (ends_note _ _ v).instant_bind fun _ _ h => ends_pure.mpr (by omega)
  | pending =>
    have hp : (pause c.connectTimeout : Wait Unit).Ends v
        (fun _ u => u.now = v.now + c.connectTimeout.ceilMillis) fun _ _ => False :=
      ends_pause.mpr rfl
    refine hp.bind (fun _ u hu => ?_) nofun
    exact (ends_note _ _ u).instant_bind fun _ _ h => ends_pure.mpr (by omega)

/-- One pass takes no longer than giving up on every port. -/
theorem unreachable_ends (c : HostPort) (host : Url.Host) (ports : List UInt16) (w : World) :
    (c.unreachable host ports).Ends w
      (fun _ v => v.now ≤ w.now + ports.length * c.connectTimeout.ceilMillis)
      fun _ _ => False := by
  induction ports generalizing w with
  | nil => exact ends_pure.mpr (Nat.le_add_right ..)
  | cons port rest ih =>
    refine (c.isListening_ends host port w).bind (fun _ v hv => ?_) nofun
    refine (ih v).bind (fun _ u hu => ?_) nofun
    refine ends_pure.mpr ?_
    rw [List.length_cons, Nat.succ_mul]
    omega

theorem attempt_ends (c : HostPort) (host : Url.Host) (ports : Ascending) (w : World) :
    (c.attempt host ports).Ends w
      (fun _ v => v.now ≤ w.now + ports.toList.length * c.connectTimeout.ceilMillis)
      fun _ _ => False := by
  refine (c.unreachable_ends host ports.toList w).bind (fun _ v hv => ?_) nofun
  split
  · exact (ends_say _ _ v).instant_bind fun _ _ h => ends_pure.mpr (by omega)
  · exact ends_pure.mpr hv

end HostPort

/-! ## The five conditions -/

theorem exec_ends (command : List String) (w : World) :
    (Query.exec command).Ends w (fun _ v => v.now = w.now + w.target.execDelay)
      fun _ v => v.now = w.now + w.target.execDelay := by
  unfold Query.exec Target.execDelay
  rw [Ends, bind_of_ok (x := get) (w := w) rfl]
  cases w.target.exec with
  | none => rfl
  | some script => exact ends_ask _ _ w

namespace Polled

/-- The milliseconds that an attempt takes at most, if it begins in the given world. -/
def slack : (c : Polled) → c.Plan → World → Nat
  | .logMessage _, _, w => w.target.nextLogs.1.delay.ceilMillis
  | .hostPort c, plan, _ => plan.2.toList.length * c.connectTimeout.ceilMillis
  | .http c, _, _ => c.limit
  | .shell _, _, w => w.target.execDelay
  | .healthcheck _, _, w => w.target.nextHealth.1.delay.ceilMillis

/-- How an attempt may end the wait: it cannot be made, or it goes on for ever. -/
def Breaks (c : Polled) (e : Halt) : Prop :=
  (∃ t, e = .failed (.ofTarget t)) ∨ e = .endless ∧ ∃ h, c = .http h ∧ h.clientOf.timeout = none

theorem attempt_ends (c : Polled) (plan : c.Plan) (memory : c.Memory) (w : World) :
    (c.attempt plan memory).Ends w (fun _ v => v.now ≤ w.now + c.slack plan w)
      fun e v => v.now ≤ w.now + c.slack plan w ∧ c.Breaks e := by
  cases c with
  | logMessage c =>
    have hq : Query.logs.Ends w _ _ := ends_ask .logs Target.nextLogs w
    refine hq.outcome.bind (fun r v hv => ?_) fun _ _ h => h.elim
    have hv : v.now ≤ w.now + slack (.logMessage c) plan w := Nat.le_of_eq hv
    cases r with
    | ok output =>
      dsimp only
      split
      · exact (ends_say _ _ v).instant_bind fun _ _ h => ends_pure.mpr (by omega)
      · exact ends_pure.mpr hv
    | error e =>
      dsimp only
      split
      · exact ends_fail_bind ⟨hv, .inl ⟨e, rfl⟩⟩
      · exact (ends_say _ _ v).instant_bind fun _ _ h => ends_pure.mpr (by omega)
  | hostPort c =>
    exact (c.attempt_ends plan.1 plan.2 w).mono (fun _ _ h => h) fun _ _ h => h.elim
  | http c =>
    refine (c.attempt_ends plan w).mono (fun _ v hv => ?_) fun e v h => ?_
    · rw [c.clientOf_limit] at hv
      exact hv
    · obtain ⟨hn, he, ht⟩ := h
      exact ⟨by omega, .inr ⟨he, c, rfl, ht⟩⟩
  | shell c =>
    refine (exec_ends (ShellCommand.words plan) w).outcome.bind (fun r v hv => ?_)
      fun _ _ h => h.elim
    have hv : v.now ≤ w.now + slack (.shell c) plan w := Nat.le_of_eq hv
    cases r with
    | ok result =>
      dsimp only
      split
      · exact (ends_say _ _ v).instant_bind fun _ _ h => ends_pure.mpr (by omega)
      · exact (ends_say _ _ v).instant_bind fun _ _ h => ends_pure.mpr (by omega)
    | error e =>
      dsimp only
      split
      · exact ends_fail_bind ⟨hv, .inl ⟨e, rfl⟩⟩
      · exact ends_pure.mpr hv
  | healthcheck c =>
    have hq : Query.isHealthy.Ends w _ _ := ends_ask .isHealthy Target.nextHealth w
    refine hq.outcome.bind (fun r v hv => ?_) fun _ _ h => h.elim
    have hv : v.now ≤ w.now + slack (.healthcheck c) plan w := Nat.le_of_eq hv
    split
    · exact (ends_say _ _ v).instant_bind fun _ _ h => ends_pure.mpr (by omega)
    · exact ends_pure.mpr hv
    · next e =>
      dsimp only
      split
      · exact ends_fail_bind ⟨hv, .inl ⟨e, rfl⟩⟩
      · exact ends_pure.mpr hv

theorem took_le_slack (c : Polled) (plan : c.Plan) (memory : c.Memory) (w : World) :
    (c.attempt plan memory).took w ≤ c.slack plan w := by
  have h := ((c.attempt_ends plan memory w).mono (fun _ _ h => h) fun _ _ h => h.1).after
  exact Nat.sub_le_iff_le_add'.mpr h

/-- A set-up may fail, but it does not go on for ever. -/
theorem setUp_returns (c : Polled) (w : World) : c.setUp.Returns w := by
  cases c with
  | logMessage c =>
    change c.setUp.Returns w
    unfold LogMessage.setUp
    split
    · exact Wait.returns_fail _ w
    · exact (Wait.returns_say _ _ w).bind fun _ v => Wait.returns_pure _ v
  | hostPort c =>
    have hp : c.hostPorts.Returns w := c.hostPorts_eq ▸ Wait.returns_require c.query w
    refine hp.bind fun ports v => ?_
    split
    · exact (Wait.returns_say _ _ v).bind fun _ u => Wait.returns_pure _ u
    · refine (Wait.returns_require Query.host v).bind fun host u => ?_
      exact (Wait.returns_say _ _ u).bind fun _ u => Wait.returns_pure _ u
  | http c =>
    change c.setUp.Returns w
    unfold HttpProbe.setUp
    split
    · exact Wait.returns_fail _ w
    · refine (Wait.returns_require c.hostPort? w).bind fun port v => ?_
      split
      · exact (Wait.returns_say _ _ v).bind fun _ u => Wait.returns_pure _ u
      · refine (Wait.returns_require Query.host v).bind fun host u => ?_
        split
        · exact Wait.returns_fail _ u
        · exact (Wait.returns_say _ _ u).bind fun _ u => Wait.returns_pure _ u
  | shell c =>
    change c.setUp.Returns w
    unfold ShellCommand.setUp
    split
    · exact Wait.returns_fail _ w
    · exact (Wait.returns_say _ _ w).bind fun _ v => Wait.returns_pure _ v
  | healthcheck c => exact (Wait.returns_say _ _ w).bind fun _ v => Wait.returns_pure _ v

end Polled

end Readiness
