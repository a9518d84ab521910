import Readiness.Proofs.Condition.Schedule
import Readiness.Proofs.Poll.Enough

/-! # Waiting for a response

What the client delivers to an attempt is a response or an error. `HttpProbe.Counts` says which
deliveries end a wait for a response, and `HttpProbe.asks` which functions of the condition are asked
about a delivery, with what. A wait ends with the first delivery that counts
(`HttpProbe.http_readiness`). -/

namespace Readiness

open Timed

/-! ## Functions of a condition -/

/-- Whether a function that belongs to a condition is called. -/
def Call.isCallback : Call → Bool
  | .matcher _ | .predicate _ => true
  | _ => false

namespace World

/-- The calls of functions of a condition. -/
def callbacks (w : World) : List Call :=
  (w.journal.toList.map Entry.call).filter Call.isCallback

/-- Requests may have been sent, and no function of a condition has been called. -/
structure Sent (w v : World) : Prop extends w.Spends v where
  callbacks : v.callbacks = w.callbacks

variable {u v w : World}

theorem Sent.of_eq (ht : v.target = w.target) (hn : v.network = w.network)
    (hj : v.journal = w.journal) : w.Sent v :=
  ⟨.of_eq ht hn, by rw [World.callbacks, hj, ← World.callbacks]⟩

theorem Sent.refl (w : World) : w.Sent w := .of_eq rfl rfl rfl

theorem Sent.trans (h : u.Sent v) (h' : v.Sent w) : u.Sent w :=
  ⟨h.toSpends.trans h'.toSpends, h'.callbacks.trans h.callbacks⟩

theorem callbacks_push (w : World) (e : Entry) :
    { w with journal := w.journal.push e }.callbacks =
      w.callbacks ++ [e.call].filter Call.isCallback := by
  unfold callbacks
  rw [Array.toList_push, List.map_append, List.filter_append, List.map_singleton]

end World

/-! ## Requests -/

namespace Http.Client

variable {ε : Type}

theorem sent_record {call : Call} (h : call.isCallback = false) (w : World) :
    w.Sent ((record call : Timed ε Unit).after w) := by
  refine ⟨.of_eq rfl rfl, ?_⟩
  change { w with journal := w.journal.push ⟨w.now, call⟩ }.callbacks = _
  rw [World.callbacks_push]
  simp [h]

theorem sent_connect (host : Url.Host) (port : UInt16) (w : World) :
    w.Sent ((connect host port : Timed ε Connection).after w) := by
  refine ⟨World.spends_connect host port w, ?_⟩
  obtain ⟨u, hc, -, -, -, hj⟩ := connect_apply (ε := ε) host port w
  rw [after_of_ok hc, World.callbacks, hj, List.filter_append, World.callbacks]
  split <;> exact List.append_nil _

theorem sent_giveUp (c : Client) (w : World) : w.Sent (c.giveUp.after w) := by
  unfold giveUp
  cases c.timeout with
  | none => exact .refl w
  | some d => exact .of_eq rfl rfl rfl

theorem sent_exchange (c : Client) (o : Outgoing) (w : World) :
    w.Sent ((c.exchange o).after w) := by
  have lost : ∀ v : World,
      v.Sent ((c.giveUp >>= fun _ => pure none : Wait (Option Received)).after v) :=
    after_bind (R := World.Sent) World.Sent.trans c.sent_giveUp fun _ => World.Sent.refl
  refine after_bind (R := World.Sent) World.Sent.trans (sent_connect _ _) (fun r v => ?_) w
  cases r with
  | failed error => exact .refl v
  | pending => exact lost v
  | made server =>
    dsimp only
    split
    · refine after_bind (R := World.Sent) World.Sent.trans (sent_record rfl) (fun _ u => ?_) v
      cases server.reaction.final with
      | closes | raw _ | answers _ _ _ => exact .refl u
      | silent => exact lost u
    · exact .refl v

theorem sent_follow (c : Client) (first : String) (redirects : Nat) (o : Outgoing) (w : World) :
    w.Sent ((c.follow first redirects o).after w) := by
  induction redirects generalizing o w with
  | zero =>
    rw [Client.follow]
    refine after_bind (R := World.Sent) World.Sent.trans (c.sent_exchange o) (fun r v => ?_) w
    cases r with
    | none => exact .refl v
    | some r =>
      dsimp only
      split
      · exact .refl v
      · split <;> exact .refl v
  | succ n ih =>
    rw [Client.follow]
    refine after_bind (R := World.Sent) World.Sent.trans (c.sent_exchange o) (fun r v => ?_) w
    cases r with
    | none => exact .refl v
    | some r =>
      dsimp only
      split
      · exact .refl v
      · split
        · split
          · exact ih _ v
          · exact .refl v
        · exact .refl v

theorem sent_fetch (c : Client) (o : Option Outgoing) (w : World) :
    w.Sent ((c.fetch o).after w) := by
  cases o with
  | none => exact .refl w
  | some o =>
    unfold fetch
    dsimp only
    split
    · exact c.sent_follow _ _ o w
    · exact .refl w

end Http.Client

/-- The text of a response whose body can be read. -/
def Http.Received.text? (r : Http.Received) : Option String :=
  match r.body with
  | .whole text => some text
  | .broken | .stalled => none

/-- A body that cannot be read is found out in the end, or waited for without end. -/
theorem Http.Client.readText_apply (c : Http.Client) (r : Http.Received) (w : World) :
    match r.text? with
    | some text => c.readText r w = .ok (.ok text) w
    | none => ∃ u, w.Sent u ∧ (c.readText r w = .ok (.error .decode) u ∨
        c.timeout = none ∧ c.readText r w = .error .endless u) := by
  unfold readText Http.Received.text?
  cases r.body with
  | whole text => rfl
  | broken => exact ⟨w, .refl w, .inl rfl⟩
  | stalled =>
    refine ⟨_, c.sent_giveUp w, ?_⟩
    unfold giveUp
    cases hc : c.timeout with
    | none => exact .inr ⟨rfl, rfl⟩
    | some d => exact .inl rfl

namespace HttpProbe

/-! ## Deliveries -/

/-- What the client delivers to an attempt. -/
abbrev Delivery := Except Http.FetchError Http.Received

/-- The statuses that are accepted. Without any codes and without a matcher it is 200. -/
def Accepts (c : HttpProbe) (status : UInt16) : Prop :=
  (c.statusCodes = ∅ ∧ c.statusMatcher = none ∧ status = 200) ∨ status ∈ c.statusCodes ∨
    c.statusMatcher.any (· status) = true

instance (c : HttpProbe) (status : UInt16) : Decidable (c.Accepts status) :=
  inferInstanceAs (Decidable (_ ∨ _ ∨ _))

/-- A response with an accepted status, and with a body that satisfies the predicate if there is
one. -/
def Counts (c : HttpProbe) : Delivery → Prop
  | .error _ => False
  | .ok r => c.Accepts r.status ∧ ∀ accepts, c.responsePredicate = some accepts →
      ∃ text, r.text? = some text ∧ accepts text

/-- What there is to say of a delivery that does not count. -/
def missOf (c : HttpProbe) : Delivery → Miss
  | .error e => .request e
  | .ok r =>
    if c.Accepts r.status then
      if r.text?.isSome then .body r.status else .request .decode
    else .status r.status

/-- What is missing after a delivery that does not count. -/
def missing (c : HttpProbe) (url : Url) (d : Delivery) : String :=
  url.text ++ " should return HTTP " ++ c.expectation ++ ", " ++ (c.missOf d).message

/-- What the matcher is asked about a response: the status, unless it is one of the codes. -/
def asksMatcher (c : HttpProbe) (status : UInt16) : List Call :=
  if c.statusMatcher.isSome ∧ status ∉ c.statusCodes then [.matcher status] else []

/-- What the predicate is asked about a response: the text of the body, if there is one and the
status is accepted. -/
def asksPredicate (c : HttpProbe) (r : Http.Received) : List Call :=
  if c.responsePredicate.isSome ∧ c.Accepts r.status then r.text?.toList.map .predicate else []

/-- What the functions of a condition are asked about a delivery. -/
def asks (c : HttpProbe) : Delivery → List Call
  | .error _ => []
  | .ok r => c.asksMatcher r.status ++ c.asksPredicate r

variable {c : HttpProbe} {url : Url} {d : Delivery} {v v' w : World}

/-! ## Attempts -/

theorem acceptsStatus_apply (c : HttpProbe) (status : UInt16) (w : World) :
    ∃ accepted u, c.acceptsStatus status w = .ok accepted u ∧ (accepted ↔ c.Accepts status) ∧
      u.callbacks = w.callbacks ++ c.asksMatcher status ∧ w.Spends u ∧ u.now = w.now := by
  unfold acceptsStatus Accepts asksMatcher
  cases c.statusMatcher with
  | none =>
    refine ⟨_, w, rfl, ?_, (List.append_nil _).symm, .of_eq rfl rfl, rfl⟩
    simp only [Ascending.isEmpty_iff]
    by_cases hs : c.statusCodes = ∅ <;> simp [hs]
  | some accepts =>
    by_cases hs : status ∈ c.statusCodes
    · refine ⟨true, w, ?_, ?_, ?_, .of_eq rfl rfl, rfl⟩
      · dsimp only
        rw [if_pos hs]
        rfl
      · simp [hs]
      · simp [hs]
    · refine ⟨accepts status, { w with journal := w.journal.push ⟨w.now, .matcher status⟩ },
        ?_, ?_, ?_, .of_eq rfl rfl, rfl⟩
      · dsimp only
        rw [if_neg hs]
        rfl
      · simp [hs]
      · rw [World.callbacks_push]
        simp [hs, Call.isCallback]

/-- Asks a predicate about the body of a response. -/
def askPredicate (c : HttpProbe) (accepts : String → Bool) (r : Http.Received) :
    Wait (Except Miss Unit) := do
  match ← c.clientOf.readText r with
  | .error e => return .error (.request e)
  | .ok text =>
    Timed.record (.predicate text)
    return if accepts text then .ok () else .error (.body r.status)

theorem check_eq (c : HttpProbe) (url : Url) :
    c.check url = c.clientOf.fetch (c.request url) >>= fun
      | .error e => pure (.error (.request e))
      | .ok r => c.acceptsStatus r.status >>= fun accepted =>
        if accepted then c.responsePredicate.elim (pure (.ok ())) fun accepts => c.askPredicate accepts r
        else pure (.error (.status r.status)) := by
  unfold check
  congr 1
  funext d
  cases d with
  | error e => rfl
  | ok r =>
    dsimp only
    congr 1
    funext accepted
    cases c.responsePredicate <;> rfl

theorem askPredicate_apply (c : HttpProbe) (accepts : String → Bool) (r : Http.Received)
    (w : World) :
    ∃ u, w.Spends u ∧ u.callbacks = w.callbacks ++ r.text?.toList.map .predicate ∧
      (((∃ text, r.text? = some text ∧ accepts text) ∧
          c.askPredicate accepts r w = .ok (.ok ()) u) ∨
        ((¬ ∃ text, r.text? = some text ∧ accepts text) ∧ c.askPredicate accepts r w =
          .ok (.error (if r.text?.isSome then .body r.status else .request .decode)) u) ∨
        (r.text? = none ∧ c.clientOf.timeout = none ∧
          c.askPredicate accepts r w = .error .endless u)) := by
  have hb := c.clientOf.readText_apply r w
  cases ht : r.text? with
  | some text =>
    rw [ht] at hb
    have ha : c.askPredicate accepts r w = _ := bind_of_ok hb
    refine ⟨{ w with journal := w.journal.push ⟨w.now, .predicate text⟩ }, .of_eq rfl rfl, ?_, ?_⟩
    · rw [World.callbacks_push]
      rfl
    · by_cases hok : accepts text
      · exact .inl ⟨⟨text, rfl, hok⟩, ha.trans (by dsimp only; rw [if_pos hok]; rfl)⟩
      · refine .inr (.inl ⟨?_, ha.trans (by dsimp only; rw [if_neg hok]; rfl)⟩)
        rintro ⟨_, ⟨⟩, h⟩
        exact hok h
  | none =>
    rw [ht] at hb
    obtain ⟨u, hu, hb | ⟨hc, hb⟩⟩ := hb
    · refine ⟨u, hu.toSpends, ?_, .inr (.inl ⟨nofun, bind_of_ok hb⟩)⟩
      rw [hu.callbacks]
      exact (List.append_nil _).symm
    · refine ⟨u, hu.toSpends, ?_, .inr (.inr ⟨rfl, hc, bind_of_error hb⟩)⟩
      rw [hu.callbacks]
      exact (List.append_nil _).symm

/-- What a check leaves behind. -/
structure Checked (c : HttpProbe) (d : Delivery) (w u : World) : Prop extends w.Spends u where
  callbacks : u.callbacks = w.callbacks ++ c.asks d

/-- A delivery is checked for whether it counts; a body may be waited for without end. -/
theorem check_of_delivery (h : c.clientOf.fetch (c.request url) v = .ok d v') :
    ∃ u, c.Checked d v u ∧
      ((c.Counts d ∧ c.check url v = .ok (.ok ()) u) ∨
        (¬ c.Counts d ∧ c.check url v = .ok (.error (c.missOf d)) u) ∨
        (¬ c.Counts d ∧ c.clientOf.timeout = none ∧ c.check url v = .error .endless u)) := by
  have hv := c.clientOf.sent_fetch (c.request url) v
  rw [after_of_ok h] at hv
  have hc : c.check url v = _ := (congrFun (c.check_eq url) v).trans (bind_of_ok h)
  cases d with
  | error e =>
    refine ⟨v', ⟨hv.toSpends, ?_⟩, .inr (.inl ⟨id, hc⟩)⟩
    rw [hv.callbacks, asks, List.append_nil]
  | ok r =>
    obtain ⟨accepted, u, hr, hacc, hcall, hs, -⟩ := acceptsStatus_apply c r.status v'
    rw [hv.callbacks] at hcall
    replace hs := hv.toSpends.trans hs
    dsimp only at hc
    rw [bind_of_ok hr] at hc
    cases accepted with
    | false =>
      have ha : ¬ c.Accepts r.status := by simp [← hacc]
      refine ⟨u, ⟨hs, ?_⟩, .inr (.inl ⟨fun h => ha h.1, ?_⟩)⟩
      · rw [hcall, asks, asksPredicate, if_neg fun h => ha h.2, List.append_nil]
      · rw [missOf, if_neg ha]
        exact hc
    | true =>
      have ha : c.Accepts r.status := hacc.mp rfl
      rw [if_pos rfl] at hc
      cases hp : c.responsePredicate with
      | none =>
        rw [hp] at hc
        refine ⟨u, ⟨hs, ?_⟩, .inl ⟨⟨ha, fun _ h => nomatch hp.symm.trans h⟩, hc⟩⟩
        rw [hcall, asks, asksPredicate, hp, if_neg (fun h => nomatch h.1), List.append_nil]
      | some accepts =>
        rw [hp] at hc
        rw [Option.elim_some] at hc
        obtain ⟨u', hu, hcall', hr'⟩ := c.askPredicate_apply accepts r u
        have hcount : c.Counts (.ok r) ↔ ∃ text, r.text? = some text ∧ accepts text := by
          unfold Counts
          rw [hp]
          exact ⟨fun h => h.2 accepts rfl, fun h => ⟨ha, fun _ he => Option.some.inj he ▸ h⟩⟩
        refine ⟨u', ⟨hs.trans hu, ?_⟩, ?_⟩
        · rw [hcall', hcall, List.append_assoc, asks, asksPredicate, hp, if_pos ⟨rfl, ha⟩]
        · rw [hcount, hc, missOf, if_pos ha]
          rcases hr' with hr' | hr' | ⟨ht, hl, hr'⟩
          · exact .inl hr'
          · exact .inr (.inl hr')
          · refine .inr (.inr ⟨?_, hl, hr'⟩)
            rw [ht]
            nofun

/-- Judges a delivery by its status. -/
def checkStatus (c : HttpProbe) : Delivery → Wait (Except Miss Unit)
  | .error e => return .error (.request e)
  | .ok r => return if ← c.acceptsStatus r.status then .ok () else .error (.status r.status)

/-- Without a predicate all that is looked at is the status. -/
theorem check_of_none (h : c.responsePredicate = none) (url : Url) :
    c.check url = c.clientOf.fetch (c.request url) >>= c.checkStatus := by
  rw [c.check_eq, h]
  congr 1
  funext d
  cases d with
  | error e => rfl
  | ok r =>
    rw [checkStatus]
    dsimp only
    congr 1
    funext accepted
    cases accepted <;> rfl

theorem attempt_of_delivery (h : c.clientOf.fetch (c.request url) v = .ok d v') :
    ∃ u, c.Checked d v u ∧
      ((c.Counts d ∧ c.attempt url v = .ok .ready u) ∨
        (¬ c.Counts d ∧ c.attempt url v = .ok (.missed () (c.missing url d)) u) ∨
        (¬ c.Counts d ∧ c.clientOf.timeout = none ∧ c.attempt url v = .error .endless u)) := by
  obtain ⟨u, hu, ⟨hd, hc⟩ | ⟨hd, hc⟩ | ⟨hd, hl, hc⟩⟩ := check_of_delivery h
  · exact ⟨{ u with log := u.log.push (.info, _) }, ⟨⟨hu.target_eq, hu.network⟩, hu.callbacks⟩,
      .inl ⟨hd, bind_of_ok hc⟩⟩
  · exact ⟨u, hu, .inr (.inl ⟨hd, bind_of_ok hc⟩)⟩
  · exact ⟨u, hu, .inr (.inr ⟨hd, hl, bind_of_error hc⟩)⟩

/-- There is no delivery only if the client waits for one without end. -/
theorem attempt_cases (c : HttpProbe) (url : Url) (v : World) :
    (∃ d v', c.clientOf.fetch (c.request url) v = .ok d v') ∨
      ∃ u, v.Sent u ∧ c.clientOf.timeout = none ∧ c.attempt url v = .error .endless u := by
  have hv := c.clientOf.sent_fetch (c.request url) v
  cases hf : c.clientOf.fetch (c.request url) v with
  | ok d v' => exact .inl ⟨d, v', rfl⟩
  | error e u =>
    obtain ⟨-, rfl, hl⟩ := (c.clientOf.fetch_ends (c.request url) v).of_error hf
    rw [after_of_error hf] at hv
    exact .inr ⟨u, hv, hl, bind_of_error (bind_of_error hf)⟩

theorem steady (c : HttpProbe) (url : Url) : Poll.Steady (c.attempt url) where
  agree := (parallel World.repeats_parallel).attempt (.http c) url ()
  spends v := by
    rcases c.attempt_cases url v with ⟨d, v', hf⟩ | ⟨u, hu, -, ha⟩
    · obtain ⟨u, hu, ⟨-, ha⟩ | ⟨-, ha⟩ | ⟨-, -, ha⟩⟩ := attempt_of_delivery hf
      · exact after_of_ok ha ▸ hu.toSpends
      · exact after_of_ok ha ▸ hu.toSpends
      · exact after_of_error ha ▸ hu.toSpends
    · exact after_of_error ha ▸ hu.toSpends
  forward := Polled.attempt_forward (.http c) url ()

/-! ## Waits -/

/-- `d` is what the client delivers to the attempt after `k` others of a poll that begins in `w`. -/
def Delivers (c : HttpProbe) (url : Url) (w : World) (k : Nat) (d : Delivery) : Prop :=
  ∃ v v', (Polled.http c).course url w k = some ((), v) ∧
    c.clientOf.fetch (c.request url) v = .ok d v'

/-- These are the deliveries to the first attempts of a poll. -/
def Deliveries (c : HttpProbe) (url : Url) (w : World) (ds : List Delivery) : Prop :=
  ∀ k d, ds[k]? = some d → c.Delivers url w k d

theorem Deliveries.append {ds : List Delivery} (h : c.Deliveries url w ds)
    (hd : c.Delivers url w ds.length d) : c.Deliveries url w (ds ++ [d]) := by
  intro k d' hk
  rcases Nat.lt_trichotomy k ds.length with hlt | rfl | hgt
  · rw [List.getElem?_append_left hlt] at hk
    exact h k d' hk
  · rw [List.getElem?_concat_length] at hk
    cases hk
    exact hd
  · rw [List.getElem?_eq_none (by rw [List.length_append]; exact hgt)] at hk
    cases hk

/-- The attempts before the last one are delivered something that does not count. -/
theorem course_deliveries {k : Nat} (h : (Polled.http c).course url w k = some ((), v)) :
    ∃ ds : List Delivery, ds.length = k ∧ c.Deliveries url w ds ∧ (∀ d ∈ ds, ¬ c.Counts d) ∧
      v.callbacks = w.callbacks ++ ds.flatMap c.asks := by
  induction k generalizing v with
  | zero =>
    cases h
    exact ⟨[], rfl, nofun, nofun, (List.append_nil _).symm⟩
  | succ k ih =>
    obtain ⟨m, v₁, detail, u, hc, ha, hr⟩ := Poll.course_succ.mp h
    obtain ⟨ds, hlen, hds, hn, hcall⟩ := ih hc
    obtain ⟨-, log, rfl⟩ := (Polled.http c).poll.retry_eq_ok hr
    change c.attempt url v₁ = _ at ha
    rcases c.attempt_cases url v₁ with ⟨d, v', hf⟩ | ⟨u', -, -, ha'⟩
    · obtain ⟨u', hu, ⟨-, ha'⟩ | ⟨hd, ha'⟩ | ⟨-, -, ha'⟩⟩ := attempt_of_delivery hf
      · rw [ha'] at ha
        cases ha
      · rw [ha'] at ha
        cases ha
        refine ⟨ds ++ [d], by simp [hlen], hds.append ⟨v₁, v', hlen ▸ hc, hf⟩, ?_, ?_⟩
        · intro d' hm
          rcases List.mem_append.mp hm with hm | hm
          · exact hn d' hm
          · exact List.mem_singleton.mp hm ▸ hd
        · refine hu.callbacks.trans ?_
          rw [hcall, List.flatMap_append, List.flatMap_singleton, List.append_assoc]
      · rw [ha'] at ha
        cases ha
    · rw [ha'] at ha
      cases ha

/-- What a poll that begins in `w` comes to with its deliveries. -/
inductive Verdict (c : HttpProbe) (url : Url) (w : World) (ds : List Delivery) :
    EStateM.Result Halt World Unit → Prop
  | ready {before : List Delivery} {d : Delivery} {v : World} : ds = before ++ [d] →
    (∀ d' ∈ before, ¬ c.Counts d') → c.Counts d → Verdict c url w ds (.ok () v)
  | late {before : List Delivery} {d : Delivery} {v : World} : ds = before ++ [d] →
    (∀ d' ∈ ds, ¬ c.Counts d') → c.pace.timeout ≤ .ofMillis (v.now - w.now) →
    Verdict c url w ds (.error (.failed (.timeout .http (.ofMillis (v.now - w.now))
      (c.missing url d) none)) v)
  /-- The client waits for a response or for a body, and nothing tells it for how long. -/
  | hangs {v : World} : (∀ d' ∈ ds, ¬ c.Counts d') → c.clientOf.timeout = none →
    Verdict c url w ds (.error .endless v)
  /-- However many attempts are made, there is another one. -/
  | endless {v : World} : (∀ k, ∃ d, c.Delivers url w k d ∧ ¬ c.Counts d) →
    (∀ d' ∈ ds, ¬ c.Counts d') → Verdict c url w ds (.error .endless v)

/-- The delivery to the last attempt, if there is one, decides. -/
theorem run_verdict (c : HttpProbe) (url : Url) (w : World) :
    ∃ ds, c.Deliveries url w ds ∧
      (((Polled.http c).run url).after w).callbacks = w.callbacks ++ ds.flatMap c.asks ∧
      c.Verdict url w ds ((Polled.http c).run url w) := by
  unfold after
  rcases Poll.run_ends ⟨.http, c.pace⟩ (fun _ => c.attempt url) () w with
    ⟨k, m, v, hk, hc, hs⟩ | ⟨m, v, hc, he⟩
  · obtain ⟨ds, hlen, hds, hn, hcall⟩ := course_deliveries hc
    change Poll.Stops _ _ _ _ _ ((Polled.http c).run url w) at hs
    generalize (Polled.http c).run url w = x at hs ⊢
    rcases c.attempt_cases url v with ⟨d, v', hf⟩ | ⟨u, hu, hl, ha⟩
    · have hdel := hds.append ⟨v, v', hlen ▸ hc, hf⟩
      have hcall' : w.callbacks ++ ds.flatMap c.asks ++ c.asks d =
          w.callbacks ++ (ds ++ [d]).flatMap c.asks := by
        rw [List.flatMap_append, List.flatMap_singleton, List.append_assoc]
      obtain ⟨u, hu, hr⟩ := attempt_of_delivery hf
      have hcb := hu.callbacks
      rw [hcall, hcall'] at hcb
      refine ⟨ds ++ [d], hdel, ?_⟩
      have hn' : ¬ c.Counts d → ∀ d' ∈ ds ++ [d], ¬ c.Counts d' := by
        intro hd d' hm
        rcases List.mem_append.mp hm with hm | hm
        · exact hn d' hm
        · exact List.mem_singleton.mp hm ▸ hd
      rcases hr with ⟨hd, ha⟩ | ⟨hd, ha⟩ | ⟨hd, hl, ha⟩
      · obtain rfl := hs.of_ready ha
        exact ⟨hcb, .ready rfl hn hd⟩
      · obtain ⟨hl, log, rfl⟩ := hs.of_missed ha
        exact ⟨hcb, .late (v := { u with log }) rfl (hn' hd) hl⟩
      · obtain rfl := hs.of_error ha
        exact ⟨hcb, .hangs (hn' hd) hl⟩
    · obtain rfl := hs.of_error ha
      exact ⟨ds, hds, hu.callbacks.trans hcall, .hangs hn hl⟩
  · obtain ⟨ds, hlen, hds, hn, hcall⟩ := course_deliveries hc
    change (Polled.http c).run url w = _ at he
    rw [he]
    refine ⟨ds, hds, hcall, .endless (fun j => ?_) hn⟩
    have hN : c.pace.timeout.ceilMillis + w.network.unread + 1 ≤
        Poll.enough ⟨.http, c.pace⟩ w := by
      change _ ≤ c.pace.timeout.ceilMillis + (w.target.unread + w.network.unread) + 1
      omega
    obtain ⟨v', hv'⟩ := (c.steady url).course_unending hN hc (j + 1)
    obtain ⟨dj, hlenj, hdj, hnj, -⟩ := course_deliveries hv'
    have hj : dj[j]? = some dj[j] := List.getElem?_eq_getElem (by omega)
    exact ⟨dj[j], hdj j _ hj, hnj _ (List.getElem_mem _)⟩

/-! The set-up calls no function of the condition. -/

theorem callbacks_ask {α : Type} {call : Call} (h : call.isCallback = false)
    (next : Target → Reply α × Target) (w : World) :
    ((Query.ask call next).after w).callbacks = w.callbacks := by
  rw [after_ask]
  have hp := World.callbacks_push w ⟨w.now, call⟩
  rw [List.filter_singleton, h] at hp
  exact hp.trans (List.append_nil _)

theorem callbacks_bind {ε α β : Type} {x : Timed ε α} {f : α → Timed ε β}
    (hx : ∀ w, (x.after w).callbacks = w.callbacks)
    (hf : ∀ a w, ((f a).after w).callbacks = w.callbacks) (w : World) :
    ((x >>= f).after w).callbacks = w.callbacks :=
  after_bind (R := fun w v => v.callbacks = w.callbacks) (fun h h' => h'.trans h) hx hf w

theorem callbacks_require {α : Type} {q : Query α} (hq : ∀ w, (q.after w).callbacks = w.callbacks)
    (w : World) : ((Wait.require q).after w).callbacks = w.callbacks := by
  rw [Wait.require, after_mapError]
  exact hq w

theorem callbacks_mappedPorts (ports : List UInt16) (found : Ascending) (w : World) :
    ((Query.mappedPorts ports found).after w).callbacks = w.callbacks := by
  induction ports generalizing found w with
  | nil => rfl
  | cons port rest ih => exact callbacks_bind (callbacks_ask rfl _) (fun _ v => ih _ v) w

theorem callbacks_setUp (c : HttpProbe) (w : World) : (c.setUp.after w).callbacks = w.callbacks := by
  unfold setUp
  split
  · rfl
  · refine callbacks_bind (callbacks_require fun v => ?_) (fun port v => ?_) w
    · unfold hostPort?
      split
      · exact callbacks_bind (callbacks_ask rfl _) (fun _ _ => rfl) v
      · refine callbacks_bind (fun u => ?_) (fun _ _ => rfl) v
        exact callbacks_bind (callbacks_ask rfl _) (fun _ => callbacks_mappedPorts _ _) u
    · cases port with
      | none => rfl
      | some port =>
        refine callbacks_bind (callbacks_require (callbacks_ask rfl _)) (fun host u => ?_) v
        split <;> rfl

/-- What a wait comes to once it has a URL. -/
structure Waited (c : HttpProbe) (url : Url) (w w₀ : World) : Prop where
  /-- The wait ends with the first delivery that counts. Until then, or until it gives up, its
  functions are asked about each delivery in turn. -/
  deliveries : ∃ ds, c.Deliveries url w₀ ds ∧
    ((c.wait.calls w).map Entry.call).filter Call.isCallback = ds.flatMap c.asks ∧
    c.Verdict url w₀ ds (c.wait w)
  /-- The body is not read without a predicate. -/
  check_eq : c.responsePredicate = none →
    c.check url = c.clientOf.fetch (c.request url) >>= c.checkStatus
  returns : .zero < c.pace.interval → c.clientOf.timeout ≠ none → c.wait.Returns w

theorem http_readiness {w₀ : World} (hs : c.setUp w = .ok (some url) w₀) : c.Waited url w w₀ where
  deliveries := by
    obtain ⟨ds, hds, hcall, hv⟩ := c.run_verdict url w₀
    have hw : c.wait w = (Polled.http c).run url w₀ := Polled.wait_of_setUp (c := .http c) hs
    refine ⟨ds, hds, ?_, hw ▸ hv⟩
    have hF : c.wait.Forward := Timed.forward.polled (.http c)
    have ha : (c.wait.after w).callbacks = w.callbacks ++ ds.flatMap c.asks := by
      have h₀ := c.callbacks_setUp w
      rw [after_of_ok hs] at h₀
      rw [after, hw, ← h₀]
      exact hcall
    rw [World.callbacks, hF.journal_eq, List.map_append, List.filter_append] at ha
    exact List.append_cancel_left ha
  check_eq h := check_of_none h url
  returns hp hc := by
    have h : ∀ c', Polled.http c = .http c' → c'.clientOf.timeout ≠ none := by
      rintro c' ⟨⟩
      exact hc
    exact Polled.wait_returns (c := .http c) hp h w

/-- A server that is not ready at first, and then answers with an accepted status and with the text
that is asked for. -/
theorem http_readiness_matched :
    let c : HttpProbe := {
      port := some 80
      statusMatcher := some fun status => status < 300
      responsePredicate := some fun text => text = "up"
      pace := ⟨.ofSecs 1, .ofMillis 100⟩ }
    let answers (status : UInt16) (body : List UInt8) (missing : Nat) : Peer :=
      .listens { reaction := .answers { status, body } missing false }
    let w : World := {
      target := { mappings := [(80, some { answer := .ok 8080 })] }
      network := { ports := [(8080, [.refuses, answers 503 [] 0, answers 200 [117, 112] 1,
        answers 201 [117, 112] 0])] } }
    ∃ url w₀, c.setUp w = .ok (some url) w₀ ∧ c.Waited url w w₀ := by
  intro c answers w
  have hs : (match c.setUp w with | .ok plan _ => plan.isSome | .error _ _ => false) = true := by
    decide +kernel
  cases h : c.setUp w with
  | error e v =>
    rw [h] at hs
    cases hs
  | ok plan w₀ =>
    rw [h] at hs
    obtain ⟨url, rfl⟩ := Option.isSome_iff_exists.mp hs
    exact ⟨url, w₀, rfl, http_readiness h⟩

/-- Whether a wait on a container whose port 8080 is served by the peers succeeds, and how many requests
it sends. -/
def requestsTo (c : HttpProbe) (peers : List Peer) : Bool × Nat :=
  let w : World := {
    target := { mappings := [(8080, some { answer := .ok 9000 })] }
    network := { ports := [(9000, peers)] } }
  (match c.wait w with | .ok .. => true | .error .. => false,
    (c.wait.calls w).countP fun e => match e.call with | .request .. => true | _ => false)

/-- A service that starts up answers 503 before it answers 200. Where a matcher accepts both, it is
the body that decides. -/
example :
    let starting : Peer :=
      .listens { reaction := .answers { status := 503, body := "starting".toUTF8.toList } 0 false }
    let up : Peer :=
      .listens { reaction := .answers { status := 200, body := "UP".toUTF8.toList } 0 false }
    let c : HttpProbe := { path := "/health", pace := ⟨.ofSecs 5, .ofMillis 50⟩ }
    c.requestsTo [starting, starting, up] = (true, 3) ∧
      { c with
        statusMatcher := some (· < 600)
        responsePredicate := some (· = "UP") }.requestsTo [starting, up] = (true, 2) := by
  decide +kernel

end HttpProbe

end Readiness
