import Readiness.Condition.Http
import Readiness.Proofs.Action.Ends
import Readiness.Proofs.Condition.Law
import Readiness.Proofs.Condition.Passes

/-! # The request that is sent first

Redirects make an attempt send more than one request. The first one is the request of the probe, sent
as soon as there is a connection to a server that the client agrees with
(`HttpProbe.firstRequest?_attempt`). Otherwise none is sent at all. -/

namespace Readiness

open Timed

def Call.request? : Call → Option Http.Request
  | .request _ r => some r
  | _ => none

/-- The request that an action sends first, if it sends any. -/
def Timed.firstRequest? {ε α : Type} (x : Timed ε α) (w : World) : Option Http.Request :=
  ((x.calls w).map Entry.call).findSome? Call.request?

namespace World

/-- What has been sent first since `u`, if anything has. -/
def Requested (r : Option Http.Request) (u v : World) : Prop :=
  ∃ calls, u.Called calls v ∧ calls.findSome? Call.request? = r

variable {u v w : World} {r r' : Option Http.Request} {sent : Http.Request} {call : Call}

theorem Requested.of_called (calls : List Call) (h : u.Called calls v)
    (hn : calls.findSome? Call.request? = r) : Requested r u v := ⟨calls, h, hn⟩

theorem Requested.of_journal (h : v.journal = u.journal) : Requested none u v :=
  .of_called [] (by rw [Called, h, List.append_nil]) rfl

theorem Requested.trans (h : Requested r u v) (h' : Requested r' v w) :
    Requested (r.or r') u w := by
  obtain ⟨calls, hc, rfl⟩ := h
  obtain ⟨calls', hc', rfl⟩ := h'
  exact .of_called _ (hc.trans hc') List.findSome?_append

theorem Requested.idle (h : Requested r u v) (h' : Requested none v w) : Requested r u w := by
  simpa using h.trans h'

theorem requested_record (call : Call) (w : World) :
    Requested call.request? w { w with journal := w.journal.push ⟨w.now, call⟩ } :=
  .of_called [call] (by simp [Called]) (by cases call <;> rfl)

/-- Whatever comes after a request, it is not the first one. -/
theorem Requested.later (h : Requested (some sent) u v) (h' : v.Later w) :
    Requested (some sent) u w := by
  obtain ⟨rest, hj⟩ := h'.journal
  have hr : Requested ((rest.map Entry.call).findSome? Call.request?) v w := by
    refine .of_called _ ?_ rfl
    rw [Called, ← hj, List.map_append]
  exact h.trans hr

theorem Requested.firstRequest?_eq {ε α : Type} {x : Timed ε α}
    (h : Requested r w (x.after w)) : x.firstRequest? w = r := by
  obtain ⟨calls, hc, rfl⟩ := h
  rw [firstRequest?, hc.calls_eq]

end World

/-- An action that only goes forward does so however it ends. -/
theorem Timed.Forward.ends {ε α : Type} {x : Timed ε α} (h : x.Forward) (w : World) :
    x.Ends w (fun _ => w.Later) fun _ => w.Later := by
  have hw := h w
  unfold Timed.after at hw
  unfold Ends
  cases hx : x w <;> rwa [hx] at hw

namespace Http.Client

variable {c : Client} {o : Outgoing} {w : World}

/-- Whether an attempt to connect leads to a server that the client agrees with. -/
def suits (c : Client) (o : Outgoing) : Connection → Bool
  | .made server => c.agrees o.url server
  | .failed _ | .pending => false

/-- What becomes of the attempt to connect for a request. -/
def outcomeOf (o : Outgoing) (w : World) : Connection :=
  w.network.outcome (o.url.host.getD Url.Host.loopback) (o.url.effectivePort.getD 0) 0

/-- Whether a request is sent. -/
def sends (c : Client) (o : Outgoing) (w : World) : Bool :=
  Outgoing.isSendableUrl o.url && c.suits o (outcomeOf o w)

/-- The request, if it is sent. -/
def sent? (c : Client) (o : Outgoing) (w : World) : Option Request :=
  if c.sends o w then some o.request else none

/-- The request, if there is a connection that suits. -/
def exchanged? (c : Client) (o : Outgoing) (w : World) : Option Request :=
  if c.suits o (outcomeOf o w) then some o.request else none

theorem requested_giveUp (c : Client) (w : World) :
    c.giveUp.Ends w (fun _ => World.Requested none w) fun _ => World.Requested none w := by
  unfold giveUp
  cases c.timeout <;> exact .of_journal rfl

/-- What is exchanged is sent first; without it there is no response. -/
theorem requested_exchange (c : Client) (o : Outgoing) (w : World) :
    (c.exchange o).Ends w
      (fun r v => w.Requested (c.exchanged? o w) v ∧ (c.exchanged? o w = none → r = none))
      fun _ => w.Requested (c.exchanged? o w) := by
  obtain ⟨u, hc, -, -, -, hj⟩ := connect_apply (ε := Halt) (o.url.host.getD Url.Host.loopback)
    (o.url.effectivePort.getD 0) w
  have hu : w.Requested none u := .of_called _ hj (by split <;> rfl)
  have lost : ∀ (r : Option Request) (v : World), w.Requested r v →
      (c.giveUp >>= fun _ => pure none : Wait (Option Received)).Ends v
        (fun a x => w.Requested r x ∧ (r = none → a = none)) fun _ => w.Requested r := by
    intro r v hv
    refine (c.requested_giveUp v).bind (fun _ x hx => ?_) fun _ x hx => hv.idle hx
    exact ⟨hv.idle hx, fun _ => rfl⟩
  have hconnect : (connect (o.url.host.getD Url.Host.loopback) (o.url.effectivePort.getD 0)).Ends w
      (fun r v => r = outcomeOf o w ∧ v = u) fun (_ : Halt) _ => False := by
    rw [Ends, hc]
    exact ⟨rfl, rfl⟩
  refine hconnect.bind (fun r v => ?_) fun _ _ h => h.elim
  rintro ⟨hr, rfl⟩
  rw [exchanged?, ← hr]
  cases r with
  | failed _ => exact ⟨hu, fun _ => rfl⟩
  | pending => exact lost none v hu
  | made server =>
    rw [suits]
    dsimp only
    split
    · have hrecord : (record (.request (o.url.effectivePort.getD 0) o.request)).Ends v
          (fun _ => v.Requested (some o.request)) fun (_ : Halt) _ => False :=
        World.requested_record ..
      refine hrecord.bind (fun _ x hx => ?_) fun _ _ h => h.elim
      have hs := hu.trans hx
      cases server.reaction.final with
      | silent => exact lost _ x hs
      | closes | raw _ | answers _ _ _ => exact ⟨hs, fun h => absurd h (Option.some_ne_none _)⟩
    · exact ⟨hu, fun _ => rfl⟩

/-- Redirects are followed only after the first request. -/
theorem requested_follow (c : Client) (first : String) (redirects : Nat) (o : Outgoing)
    (w : World) :
    (c.follow first redirects o).Ends w
      (fun d v => w.Requested (c.exchanged? o w) v ∧
        (c.exchanged? o w = none → ∃ e, d = .error e))
      fun _ => w.Requested (c.exchanged? o w) := by
  rw [follow.eq_def]
  refine (c.requested_exchange o w).bind (fun r v => ?_) fun _ _ h => h
  rintro ⟨hv, hn⟩
  cases r with
  | none => exact ⟨hv, fun _ => ⟨_, rfl⟩⟩
  | some r =>
    obtain ⟨sent, hs⟩ := Option.ne_none_iff_exists'.mp fun h => Option.some_ne_none r (hn h)
    have hne : ¬ some sent = none := Option.some_ne_none sent
    rw [hs] at hv ⊢
    dsimp only
    split
    · exact ⟨hv, fun h => absurd h hne⟩
    · split
      · split
        · exact ⟨hv, fun h => absurd h hne⟩
        · split
          · exact ((forward.follow c first _ _).ends v).mono
              (fun _ _ h => ⟨hv.later h, fun h => absurd h hne⟩) fun _ _ h => hv.later h
          · exact ⟨hv, fun h => absurd h hne⟩
      · exact ⟨hv, fun h => absurd h hne⟩

theorem requested_fetch (c : Client) (o : Outgoing) (w : World) :
    (c.fetch (some o)).Ends w
      (fun d v => w.Requested (c.sent? o w) v ∧ (c.sent? o w = none → ∃ e, d = .error e))
      fun _ => w.Requested (c.sent? o w) := by
  rw [fetch, sent?, sends]
  by_cases hu : Outgoing.isSendableUrl o.url
  · rw [if_pos hu, hu, Bool.true_and]
    exact c.requested_follow _ _ o w
  · rw [if_neg hu, if_neg fun h => hu (Bool.and_eq_true_iff.mp h).1]
    exact ⟨.of_journal rfl, fun _ => ⟨_, rfl⟩⟩

end Http.Client

namespace HttpProbe

variable {c : HttpProbe} {url : Url} {o : Http.Outgoing}

theorem requested_check (ho : c.request url = some o) (w : World) :
    (c.check url).Ends w (fun _ => w.Requested (c.clientOf.sent? o w))
      fun _ => w.Requested (c.clientOf.sent? o w) := by
  rw [check, ho]
  refine (c.clientOf.requested_fetch o w).bind (fun d v => ?_) fun _ _ h => h
  rintro ⟨hv, hn⟩
  cases d with
  | error e => exact hv
  | ok r =>
    obtain ⟨sent, hs⟩ : ∃ sent, c.clientOf.sent? o w = some sent := by
      refine Option.ne_none_iff_exists'.mp fun h => ?_
      obtain ⟨e, he⟩ := hn h
      cases he
    rw [hs] at hv ⊢
    -- what follows may be anything, now that a request has been sent
    refine (Forward.ends (forward.bind (forward.acceptsStatus c r.status) fun accepted => ?_) v).mono
      (fun _ _ => hv.later) fun _ _ => hv.later
    split
    · split
      · exact forward.pure _
      · refine forward.bind (forward.readText c.clientOf r) fun text => ?_
        split
        · exact forward.pure _
        · exact forward.bind (forward.record _) fun _ => forward.pure _
    · exact forward.pure _

theorem requested_attempt (ho : c.request url = some o) (w : World) :
    (c.attempt url).Ends w (fun _ => w.Requested (c.clientOf.sent? o w))
      fun _ => w.Requested (c.clientOf.sent? o w) := by
  refine (c.requested_check ho w).bind (fun r v hv => ?_) fun _ _ h => h
  split
  · exact hv.idle (.of_journal rfl)
  · exact hv

/-- The request that an attempt sends first is that of the probe. -/
theorem firstRequest?_attempt (ho : c.request url = some o) (w : World) :
    (c.attempt url).firstRequest? w = c.clientOf.sent? o w :=
  (c.requested_attempt ho w).after.firstRequest?_eq

end HttpProbe

end Readiness
