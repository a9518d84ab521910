import Readiness.Condition.Http
import Readiness.Proofs.Condition.Law
import Readiness.Proofs.Poll.Delay

/-! # Requests without credentials

Credentials are `redacted` if they say who the request is from and whether they can be sent at all,
but not what the secret is. What a probe does differs with the secret in nothing but the
authorization that servers receive (`HttpProbe.redacted_agree`). -/

namespace Readiness

open Timed

/-! ## The bytes of a text -/

namespace Text

theorem toList_loop (bytes : ByteArray) (i : Nat) (r : List UInt8) :
    ByteArray.toList.loop bytes i r = r.reverse ++ bytes.data.toList.drop i := by
  induction i, r using ByteArray.toList.loop.induct bytes with
  | case1 i r h ih =>
    have hi : i < bytes.data.toList.length := h
    have hg : bytes.get! i = bytes.data.toList[i] := getElem!_pos bytes.data i h
    rw [ByteArray.toList.loop, if_pos h, ih, List.drop_eq_getElem_cons hi, hg, List.reverse_cons,
      List.append_assoc, List.singleton_append]
  | case2 i r h =>
    have hi : bytes.data.toList.length ≤ i := Nat.le_of_not_lt h
    rw [ByteArray.toList.loop, if_neg h, List.drop_eq_nil_of_le hi, List.append_nil]

theorem toUTF8_toList (s : String) : s.toUTF8.toList = s.toList.flatMap String.utf8EncodeChar := by
  have hs : s.toUTF8 = s.toList.utf8Encode := by
    rw [← String.toByteArray_ofList, String.ofList_toList]
    rfl
  rw [hs, ByteArray.toList, toList_loop]
  simp [List.utf8Encode]

end Text

namespace Http

/-! ## Credentials -/

/-- Whether a character may be in the value of a field. -/
def isLegalChar (c : Char) : Bool := (String.utf8EncodeChar c).all HeaderValue.isLegalByte

theorem isSome_secret? (s : String) :
    (HeaderValue.secret? s).isSome = s.toList.all isLegalChar := by
  unfold HeaderValue.secret?
  simp only [Text.toUTF8_toList, List.all_flatMap]
  change _ = s.toList.all fun c => (String.utf8EncodeChar c).all HeaderValue.isLegalByte
  split
  · next h => rw [h]; rfl
  · next h => rw [Bool.eq_false_iff.mpr h]; rfl

theorem isLegalChar_base64Letter (n : Nat) : isLegalChar (Text.base64Letter n) := by
  have hn : ∀ n < 63, isLegalChar (Text.base64Letter n) := by decide +kernel
  by_cases h : n < 63
  · exact hn n h
  · have hl : Text.base64Letter n = '/' := by
      unfold Text.base64Letter
      rw [if_neg (by omega), if_neg (by omega), if_neg (by omega), if_neg (by omega)]
    rw [hl]
    decide +kernel

theorem isLegalChar_base64 (bytes : List UInt8) : (Text.base64 bytes).all isLegalChar = true := by
  have he : isLegalChar '=' := by decide +kernel
  induction bytes using Text.base64.induct with
  | case1 a b c rest ih =>
    rw [List.all_eq_true] at ih ⊢
    simpa [Text.base64, isLegalChar_base64Letter] using ih
  | case2 a b => simp [Text.base64, isLegalChar_base64Letter, he]
  | case3 a => simp [Text.base64, isLegalChar_base64Letter, he]
  | case4 => rfl

namespace Auth

/-- The credentials without their secret; a token that cannot be sent is replaced by another one
that cannot. -/
def redacted : Auth → Auth
  | .basic username _ => .basic username ""
  | .bearer token => .bearer (if (HeaderValue.secret? token).isSome then "" else "\n")

/-- The credentials differ at most in their secrets, and either both of them can be sent or
neither. -/
inductive Resembles : Auth → Auth → Prop
  | basic (username password password' : String) :
    Resembles (.basic username password) (.basic username password')
  | bearer {token token' : String} :
    (HeaderValue.secret? token).isSome = (HeaderValue.secret? token').isSome →
    Resembles (.bearer token) (.bearer token')

theorem Resembles.redacted_eq {a a' : Auth} (h : a.Resembles a') : a.redacted = a'.redacted := by
  cases h with
  | basic => rfl
  | bearer h => rw [redacted, redacted, h]

theorem isSome_headerValue?_basic (username password : String) :
    ((basic username password).headerValue?).isSome := by
  simp only [headerValue?, headerText, isSome_secret?, String.toList_append, String.toList_ofList,
    List.all_append, isLegalChar_base64, Bool.and_true]
  decide +kernel

theorem isSome_headerValue?_bearer (token : String) :
    ((bearer token).headerValue?).isSome = (HeaderValue.secret? token).isSome := by
  have hb : "Bearer ".toList.all isLegalChar := by decide +kernel
  rw [headerValue?, headerText, isSome_secret?, isSome_secret?, String.toList_append,
    List.all_append, hb, Bool.true_and]

/-- The secret does not decide whether the credentials can be sent. -/
theorem isSome_headerValue?_redacted (a : Auth) :
    a.redacted.headerValue?.isSome = a.headerValue?.isSome := by
  cases a with
  | basic username password => rw [redacted, isSome_headerValue?_basic, isSome_headerValue?_basic]
  | bearer token =>
    rw [redacted, isSome_headerValue?_bearer, isSome_headerValue?_bearer]
    cases (HeaderValue.secret? token).isSome <;> decide +kernel

theorem describe_redacted (a : Auth) : a.redacted.describe = a.describe := by
  cases a <;> rfl

end Auth

/-! ## Headers -/

namespace Headers

/-- The value of a field without what is secret, if its name is that of the authorization. -/
def redactedEntry (e : String × List HeaderValue) : String × List HeaderValue :=
  if e.1 = "authorization" then (e.1, e.2.map fun _ => { bytes := [] }) else e

/-- The headers without the values of the authorization. -/
def redacted (h : Headers) : Headers := ⟨h.entries.map redactedEntry⟩

variable {h : Headers} {name : String} {v : HeaderValue}

theorem redactedEntry_fst (e : String × List HeaderValue) : (redactedEntry e).1 = e.1 := by
  unfold redactedEntry
  split <;> rfl

theorem map_update {key : String} {change change' : List HeaderValue → List HeaderValue}
    (hc : ∀ vs, redactedEntry (key, change vs) = (key, change' (redactedEntry (key, vs)).2))
    (entries : List (String × List HeaderValue)) :
    (update key change entries).map redactedEntry =
      update key change' (entries.map redactedEntry) := by
  have he : redactedEntry (key, []) = (key, []) := by
    unfold redactedEntry
    split <;> rfl
  induction entries with
  | nil => simp [update, hc, he]
  | cons e rest ih =>
    obtain ⟨n, vs⟩ := e
    have hn : redactedEntry (n, vs) = (n, (redactedEntry (n, vs)).2) :=
      Prod.ext (redactedEntry_fst (n, vs)) rfl
    rw [update, List.map_cons, hn, update]
    split
    · next hk =>
      subst hk
      rw [List.map_cons, hc]
    · rw [List.map_cons, ih, ← hn]

/-- Whatever is added to the authorization, it is not seen. -/
theorem redacted_append_authorization (h : Headers) (v : HeaderValue) :
    (h.append "authorization" v).redacted = h.redacted.append "authorization" { bytes := [] } := by
  have hn : headerName "authorization" = "authorization" := by decide +kernel
  unfold append redacted
  rw [hn]
  refine congrArg Headers.mk (map_update (fun vs => ?_) h.entries)
  simp [redactedEntry]

theorem redacted_insert (hn : headerName name ≠ "authorization") :
    (h.insert name v).redacted = h.redacted.insert name v := by
  unfold insert redacted
  rw [map_update]
  intro vs
  simp [redactedEntry, hn]

theorem redacted_erase (h : Headers) (name : String) :
    (h.erase name).redacted = h.redacted.erase name := by
  unfold erase redacted
  rw [List.filter_map]
  simp only [Function.comp_def, redactedEntry_fst]

theorem redacted_foldl_erase (names : List String) (h : Headers) :
    (names.foldl erase h).redacted = names.foldl erase h.redacted := by
  induction names generalizing h with
  | nil => rfl
  | cons name names ih => rw [List.foldl_cons, ih, redacted_erase, List.foldl_cons]

theorem contains_redacted (h : Headers) (name : String) :
    h.redacted.contains name = h.contains name := by
  unfold contains redacted
  simp [List.any_map, Function.comp_def, redactedEntry_fst]

theorem redacted_orInsert (hn : headerName name ≠ "authorization") :
    (h.orInsert name v).redacted = h.redacted.orInsert name v := by
  unfold orInsert
  rw [contains_redacted]
  split
  · rfl
  · exact redacted_insert hn

end Headers

/-! ## Requests -/

/-- A field as a server receives it, without what is secret. -/
def redactedField (f : String × List UInt8) : String × List UInt8 :=
  if f.1 = "authorization" then (f.1, []) else f

/-- The request without the values of the authorization. -/
def Request.redacted (r : Request) : Request := { r with headers := r.headers.map redactedField }

namespace Outgoing

/-- The request without the values of the authorization. -/
def redacted (o : Outgoing) : Outgoing := { o with headers := o.headers.redacted }

theorem pairs_redacted (h : Headers) :
    h.redacted.pairs.map (fun p => (p.1, p.2.bytes)) =
      (h.pairs.map fun p => (p.1, p.2.bytes)).map redactedField := by
  simp only [Headers.pairs, Headers.redacted, List.flatMap_map, List.map_flatMap, List.map_map]
  congr 1
  funext e
  unfold Headers.redactedEntry
  split
  · next he => simp [Function.comp_def, redactedField, he]
  · next he => simp [Function.comp_def, redactedField, he]

theorem fields_redacted (o : Outgoing) : o.redacted.fields = o.fields.map redactedField := by
  have ha : headerName "accept" ≠ "authorization" := by decide +kernel
  have hh : headerName "host" ≠ "authorization" := by decide +kernel
  have hl : headerName "content-length" ≠ "authorization" := by decide +kernel
  have hs : ∀ (headers : Headers) (accept host : HeaderValue) (length : Option String),
      (length.elim ((headers.orInsert "accept" accept).orInsert "host" host) fun n =>
          ((headers.orInsert "accept" accept).orInsert "host" host).orInsert "content-length"
            (.ofText n)).redacted =
        length.elim ((headers.redacted.orInsert "accept" accept).orInsert "host" host) fun n =>
          ((headers.redacted.orInsert "accept" accept).orInsert "host" host).orInsert
            "content-length" (.ofText n) := by
    intro headers accept host length
    cases length <;> simp [Headers.redacted_orInsert, ha, hh, hl]
  have hf : ∀ f : String × List UInt8, (redactedField f).1 = f.1 := by
    intro f
    unfold redactedField
    split <;> rfl
  unfold fields
  rw [List.map_mergeSort (s := fun a b => a.1 ≤ b.1) (fun a _ b _ => by rw [hf, hf]),
    ← pairs_redacted, hs]
  rfl

theorem request_redacted (o : Outgoing) : o.redacted.request = o.request.redacted := by
  rw [request, Request.redacted, fields_redacted]
  rfl

theorem assemble_redacted (url : Url) (headers : Headers) (auth : Option Auth) :
    (assemble url headers (auth.map Auth.redacted)).map Headers.redacted =
      (assemble url headers auth).map Headers.redacted := by
  cases auth with
  | none => rfl
  | some a =>
    have ha := a.isSome_headerValue?_redacted
    simp only [assemble, Option.map_some, Option.map_map, Function.comp_def,
      Headers.redacted_append_authorization]
    cases hv : a.headerValue? <;> cases hv' : a.redacted.headerValue? <;> simp_all

theorem prepare_redacted (method : String) (url : Url) (headers : Headers)
    (body : Option (List UInt8)) (auth : Option Auth) :
    (prepare method url headers body (auth.map Auth.redacted)).map redacted =
      (prepare method url headers body auth).map redacted := by
  have hp : ∀ x : Option Headers, (x.map fun headers => (⟨method, url.withoutUserinfo, headers,
        body⟩ : Outgoing)).map redacted =
      (x.map Headers.redacted).map fun headers => ⟨method, url.withoutUserinfo, headers, body⟩ := by
    intro x
    cases x <;> rfl
  rw [prepare, prepare, hp, hp, assemble_redacted]

end Outgoing

theorem Client.redirected_redacted (o : Outgoing) (status : UInt16) (url : Url) :
    redirected o.redacted status url = (redirected o status url).redacted := by
  have hr : headerName "referer" ≠ "authorization" := by decide +kernel
  unfold redirected Outgoing.redacted
  simp only [apply_ite Headers.redacted, Headers.redacted_foldl_erase, Headers.redacted_insert hr]

end Http

/-! ## Worlds -/

/-- What is done without the authorization that a server receives. -/
def Call.redacted : Call → Call
  | .request port r => .request port r.redacted
  | call => call

def Entry.redacted (e : Entry) : Entry := { e with call := e.call.redacted }

/-- The same has happened in both worlds, but for the authorization that servers have received. -/
structure World.Resembles (w v : World) : Prop where
  now_eq : v.now = w.now
  target_eq : v.target = w.target
  network_eq : v.network = w.network
  journal_eq : v.journal.map Entry.redacted = w.journal.map Entry.redacted
  log_eq : v.log = w.log

theorem World.Resembles.refl (w : World) : w.Resembles w := ⟨rfl, rfl, rfl, rfl, rfl⟩

theorem World.Resembles.record {w v : World} (h : w.Resembles v) {call call' : Call}
    (hc : call'.redacted = call.redacted) :
    Resembles { w with journal := w.journal.push ⟨w.now, call⟩ }
      { v with journal := v.journal.push ⟨v.now, call'⟩ } := by
  refine ⟨h.now_eq, h.target_eq, h.network_eq, ?_, h.log_eq⟩
  simp only [Array.map_push, h.journal_eq, h.now_eq, Entry.redacted, hc]

theorem World.resembles_shifted : World.Shifted 0 World.Resembles where
  now h := h.now_eq
  target h := h.target_eq
  network h := h.network_eq
  say line h := ⟨h.now_eq, h.target_eq, h.network_eq, h.journal_eq, by rw [h.log_eq]⟩
  pause n h := ⟨by rw [h.now_eq], h.target_eq, h.network_eq, h.journal_eq, h.log_eq⟩
  record call h := h.record rfl
  retarget _ h := ⟨h.now_eq, rfl, h.network_eq, h.journal_eq, h.log_eq⟩
  reconnect _ h := ⟨h.now_eq, h.target_eq, rfl, h.journal_eq, h.log_eq⟩

theorem Timed.resembling : Law fun x => Agree World.Resembles x x :=
  parallel World.resembles_shifted.toParallel

/-! ## Probes -/

namespace Http.Client

variable {o o' : Outgoing}

theorem exchange_agree (c : Client) (h : o'.redacted = o.redacted) :
    Agree World.Resembles (c.exchange o) (c.exchange o') := by
  have L := resembling
  have hq : o'.request.redacted = o.request.redacted := by
    rw [← Outgoing.request_redacted, h, Outgoing.request_redacted]
  obtain ⟨method, url, headers, body⟩ := o
  obtain ⟨method', url', headers', body'⟩ := o'
  obtain ⟨rfl, rfl, -, rfl⟩ := Outgoing.mk.inj h
  refine Agree.bind (L.connect _ _) fun r => ?_
  cases r with
  | failed _ => exact agree_pure _
  | pending => exact Agree.bind (L.giveUp c) fun _ => agree_pure _
  | made server =>
    dsimp only
    split
    · refine Agree.bind (fun w v hr => ⟨rfl, hr.record ?_⟩) fun _ => ?_
      · rw [Call.redacted, Call.redacted, hq]
      cases server.reaction.final with
      | closes => exact agree_pure _
      | silent => exact Agree.bind (L.giveUp c) fun _ => agree_pure _
      | raw _ | answers _ _ _ => exact Agree.bind L.reader fun _ => agree_pure _
    · exact agree_pure _

theorem follow_agree (c : Client) (first : String) (redirects : Nat)
    (h : o'.redacted = o.redacted) :
    Agree World.Resembles (c.follow first redirects o) (c.follow first redirects o') := by
  induction redirects generalizing o o' with
  | zero =>
    have hu : o'.url = o.url := (Outgoing.mk.inj h).2.1
    rw [follow, follow]
    refine (c.exchange_agree h).bind fun r => ?_
    cases r with
    | none => exact agree_pure _
    | some r =>
      have hl : location? o' r = location? o r := by rw [location?, location?, hu]
      dsimp only
      rw [hl, hu]
      cases location? o r with
      | none => exact agree_pure _
      | some url =>
        dsimp only
        split <;> exact agree_pure _
  | succ n ih =>
    have hu : o'.url = o.url := (Outgoing.mk.inj h).2.1
    rw [follow, follow]
    refine (c.exchange_agree h).bind fun r => ?_
    cases r with
    | none => exact agree_pure _
    | some r =>
      have hl : location? o' r = location? o r := by rw [location?, location?, hu]
      dsimp only
      rw [hl]
      cases location? o r with
      | none => exact agree_pure _
      | some url =>
        dsimp only
        split
        · split
          · refine ih ?_
            rw [← redirected_redacted, h, redirected_redacted]
          · exact agree_pure _
        · exact agree_pure _

theorem fetch_agree (c : Client) {o o' : Option Outgoing}
    (h : o'.map Outgoing.redacted = o.map Outgoing.redacted) :
    Agree World.Resembles (c.fetch o) (c.fetch o') := by
  cases o <;> cases o'
  case none.none => exact agree_pure _
  case none.some => cases h
  case some.none => cases h
  case some.some o o' =>
    have h : o'.redacted = o.redacted := Option.some.inj h
    have hu : o'.url = o.url := (Outgoing.mk.inj h).2.1
    rw [fetch, fetch, hu]
    split
    · exact c.follow_agree _ _ h
    · exact agree_pure _

end Http.Client

namespace HttpProbe

/-- The probe without its secret. -/
def redacted (c : HttpProbe) : HttpProbe := { c with auth := c.auth.map Http.Auth.redacted }

theorem check_redacted (c : HttpProbe) (url : Url) :
    Agree World.Resembles (c.check url) (c.redacted.check url) := by
  have L := resembling
  have ho : (c.redacted.request url).map Http.Outgoing.redacted =
      (c.request url).map Http.Outgoing.redacted :=
    Http.Outgoing.prepare_redacted c.method url c.headers c.body c.auth
  refine (c.clientOf.fetch_agree ho).bind fun r => ?_
  cases r with
  | error e => exact agree_pure _
  | ok response =>
    refine Agree.bind (L.acceptsStatus c _) fun accepted => ?_
    rw [show c.redacted.responsePredicate = c.responsePredicate from rfl]
    split
    · split
      · exact agree_pure _
      · refine Agree.bind (L.readText c.clientOf response) fun text => ?_
        split
        · exact agree_pure _
        · exact Agree.bind (L.record _) fun _ => agree_pure _
    · exact agree_pure _

theorem attempt_redacted (c : HttpProbe) (url : Url) :
    Agree World.Resembles (c.attempt url) (c.redacted.attempt url) := by
  refine (c.check_redacted url).bind fun r => ?_
  cases r with
  | ok _ => exact Agree.bind (resembling.say _ _) fun _ => agree_pure _
  | error miss => exact agree_pure _

/-- The secret of a probe is seen by nobody but the servers. -/
theorem wait_redacted (c : HttpProbe) : Agree World.Resembles c.wait c.redacted.wait := by
  rw [c.wait_eq, c.redacted.wait_eq]
  refine Agree.bind (resembling.setUp (.http c)) fun plan => ?_
  cases plan with
  | none => exact agree_pure _
  | some url =>
    exact Poll.run_shifted World.resembles_shifted (fun _ => c.attempt_redacted url) _ ()

end HttpProbe

end Readiness
