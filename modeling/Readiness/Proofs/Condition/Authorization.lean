import Readiness.Proofs.Condition.FirstRequest
import Readiness.Proofs.Http.Fields

/-! # The authorization that a probe sends

The settings of a probe are read one after another, and of two that say something about the same
field the later one counts (`HttpProbe.given?_foldl`). Credentials are kept apart from the fields and
only added when a request is built. So they do not replace an authorization that has been given as a
field, but are sent after it (`HttpProbe.authorization_sent`). -/

namespace Readiness.HttpProbe

open Timed Http

/-- What a setting gives a field, if it mentions it. -/
def Setting.given? (name : String) : Setting → Option (List HeaderValue)
  | .header key value => if headerName key = headerName name then some [value] else none
  | .headers fields => fields.given? name
  | _ => none

/-- The credentials that a setting gives. -/
def Setting.auth? : Setting → Option Auth
  | .auth a => some a
  | _ => none

/-- Every field is listed once among those that are given together. -/
def Setting.Distinct : Setting → Prop
  | .headers fields => fields.Distinct
  | _ => True

instance (s : Setting) : Decidable s.Distinct := by
  unfold Setting.Distinct
  split <;> infer_instance

/-- What is given to a field last. -/
def lastGiven? (settings : List Setting) (name : String) : Option (List HeaderValue) :=
  (settings.filterMap (Setting.given? name)).getLast?

/-- The credentials that are given last. -/
def lastAuth? (settings : List Setting) : Option Auth := (settings.filterMap Setting.auth?).getLast?

variable {settings : List Setting} {c : HttpProbe}

/-! ## Settings -/

/-- If every step of a loop overwrites what it has something for, what was written last is read. -/
theorem read_foldl {α β γ : Type} (read : β → Option γ) (write : α → Option γ) {step : β → α → β}
    {l : List α} (h : ∀ b, ∀ a ∈ l, read (step b a) = (write a).or (read b)) (b : β) :
    read (l.foldl step b) = (l.filterMap write).getLast?.or (read b) := by
  induction l generalizing b with
  | nil => rfl
  | cons a l ih =>
    have ih := ih fun b a' ha => h b a' (.tail _ ha)
    rw [List.foldl_cons, ih, h b a (.head _)]
    cases hw : write a with
    | none => rw [List.filterMap_cons_none hw, Option.none_or]
    | some g =>
      rw [List.filterMap_cons_some hw, List.getLast?_cons]
      cases (l.filterMap write).getLast? <;> rfl

theorem distinct_apply (h : c.headers.Distinct) (s : Setting) : (c.apply s).headers.Distinct := by
  cases s with
  | header name value => exact h.insert name value
  | headers fields => exact h.extend fields
  | _ => exact h

theorem distinct_foldl (h : c.headers.Distinct) (settings : List Setting) :
    (settings.foldl apply c).headers.Distinct :=
  List.foldlRecOn (motive := fun c : HttpProbe => c.headers.Distinct) settings _ h
    fun _ h s _ => distinct_apply h s

theorem given?_apply (c : HttpProbe) (name : String) {s : Setting} (hs : s.Distinct) :
    (c.apply s).headers.given? name = (s.given? name).or (c.headers.given? name) := by
  cases s with
  | header key value =>
    refine (Headers.given?_insert ..).trans ?_
    rw [Setting.given?]
    split <;> rfl
  | headers fields => exact Headers.given?_extend hs ..
  | _ => rfl

theorem given?_foldl (hs : ∀ s ∈ settings, s.Distinct) (c : HttpProbe) (name : String) :
    (settings.foldl apply c).headers.given? name =
      (lastGiven? settings name).or (c.headers.given? name) :=
  read_foldl (fun c : HttpProbe => c.headers.given? name) (Setting.given? name)
    (fun c s h => given?_apply c name (hs s h)) c

theorem auth_foldl (settings : List Setting) (c : HttpProbe) :
    (settings.foldl apply c).auth = (lastAuth? settings).or c.auth :=
  read_foldl HttpProbe.auth Setting.auth? (fun c s _ => by cases s <;> rfl) c

/-- A probe that has just been set up has the fields that it was given last. -/
theorem given?_new (path : String) (pace : Pace) (hs : ∀ s ∈ settings, s.Distinct) (name : String) :
    (settings.foldl apply { path, pace }).headers.given? name = lastGiven? settings name :=
  (given?_foldl hs _ _).trans (Option.or_none ..)

theorem auth_new (path : String) (pace : Pace) (settings : List Setting) :
    (settings.foldl apply { path, pace }).auth = lastAuth? settings :=
  (auth_foldl ..).trans (Option.or_none ..)

/-! ## Requests -/

/-- A request has the values that the authorization was given last as a field, or else those of the
credentials in the URL, and then the credentials that were given last. -/
theorem request_authorization {a : Auth} {v : HeaderValue} (path : String) (pace : Pace)
    (hs : ∀ s ∈ settings, s.Distinct) (ha : lastAuth? settings = some a)
    (hv : a.headerValue? = some v) (url : Url) :
    ∃ o, (settings.foldl apply { path, pace }).request url = some o ∧
      o.url = url.withoutUserinfo ∧ o.request.values "authorization" =
        ((lastGiven? settings "authorization").getD (Outgoing.urlValue? url).toList ++ [v]).map
          HeaderValue.bytes := by
  let c : HttpProbe := settings.foldl apply { path, pace }
  have hd : c.headers.Distinct := distinct_foldl Headers.distinct_empty settings
  have hg : c.headers.given? "authorization" = _ := given?_new path pace hs _
  have hauth : c.auth = some a := (auth_new path pace settings).trans ha
  obtain ⟨assembled, hasm, hda, hval⟩ := Outgoing.values_assemble url hd hv
  refine ⟨⟨c.method, url.withoutUserinfo, assembled, c.body⟩, ?_, rfl, ?_⟩
  · rw [HttpProbe.request, Outgoing.prepare, hauth, hasm]
    rfl
  · rw [Outgoing.values_request hda (by decide +kernel), hval, hg]

/-- The request with which an attempt of a probe begins carries the credentials that the probe was
given last, and before them whatever else the authorization was given: as a field, or else in the
URL. -/
theorem authorization_sent {a : Auth} {v : HeaderValue} (path : String) (pace : Pace)
    (hs : ∀ s ∈ settings, s.Distinct) (ha : lastAuth? settings = some a)
    (hv : a.headerValue? = some v) (url : Url) :
    ∃ o, (settings.foldl apply { path, pace }).request url = some o ∧
      o.request.values "authorization" =
        ((lastGiven? settings "authorization").getD (Outgoing.urlValue? url).toList ++ [v]).map
          HeaderValue.bytes ∧
      ∀ w, ((settings.foldl apply { path, pace }).attempt url).firstRequest? w =
        (settings.foldl apply { path, pace }).clientOf.sent? o w := by
  obtain ⟨o, ho, -, hval⟩ := request_authorization path pace hs ha hv url
  exact ⟨o, ho, hval, firstRequest?_attempt ho⟩

/-- Both values of a field are sent, and the last of three credentials after them. -/
theorem authorization_sent_after_fields :
    let settings : List Setting := [.auth (.basic "ann" "secret"),
      .header "authorization" (.ofText "none"),
      .headers (.ofPairs [("authorization", .ofText "a"), ("authorization", .ofText "b")]),
      .auth (.bearer "s"), .auth (.bearer "t")]
    let c : HttpProbe := settings.foldl apply { path := "/", pace := ⟨.ofSecs 1, .ofMillis 500⟩ }
    let url : Url := { scheme := "http", host := some .loopback, port := some 8080, path := "/" }
    let w : World := { network := { ports := [(8080, [.listens {}])] } }
    (∀ s ∈ settings, s.Distinct) ∧ lastAuth? settings = some (.bearer "t") ∧
      ∃ r : Request, (c.attempt url).firstRequest? w = some r ∧
        r.values "authorization" = ["a", "b", "Bearer t"].map fun s => s.toUTF8.toList := by
  intro settings c url w
  have hs : ∀ s ∈ settings, s.Distinct := by decide +kernel
  have ha : lastAuth? settings = some (.bearer "t") := by decide +kernel
  have hv : (Auth.bearer "t").headerValue? = some ⟨"Bearer t".toUTF8.toList, true⟩ := by
    decide +kernel
  obtain ⟨o, ho, hval, hsent⟩ := authorization_sent "/" ⟨.ofSecs 1, .ofMillis 500⟩ hs ha hv url
  have hw : (c.request url).any fun o => c.clientOf.sends o w := by decide +kernel
  rw [ho, Option.any_some] at hw
  have hg : lastGiven? settings "authorization" = some [.ofText "a", .ofText "b"] := by
    decide +kernel
  refine ⟨hs, ha, o.request, ?_, ?_⟩
  · rw [hsent, Client.sent?, if_pos hw]
  · rw [hval, hg]
    rfl

/-- Credentials do not overwrite an authorization that has been given before. -/
theorem authorization_not_overwritten :
    ¬ ∀ (settings : List Setting) (a : Auth) (v : HeaderValue), (∀ s ∈ settings, s.Distinct) →
      lastAuth? settings = some a → a.headerValue? = some v →
      ∀ (pace : Pace) (url : Url) (w : World) (r : Request),
        ((settings.foldl apply { path := "/", pace }).attempt url).firstRequest? w = some r →
          r.values "authorization" = [v.bytes] := by
  intro h
  let settings : List Setting := [.header "authorization" (.ofText "Token x"), .auth (.bearer "t")]
  let pace : Pace := ⟨.zero, .ofMillis 500⟩
  let c : HttpProbe := settings.foldl apply { path := "/", pace }
  let url : Url := { scheme := "http", host := some .loopback, port := some 8080, path := "/" }
  let w : World := { network := { ports := [(8080, [.listens {}])] } }
  have hs : ∀ s ∈ settings, s.Distinct := by decide +kernel
  have ha : lastAuth? settings = some (.bearer "t") := by decide +kernel
  have hv : (Auth.bearer "t").headerValue? = some ⟨"Bearer t".toUTF8.toList, true⟩ := by
    decide +kernel
  obtain ⟨o, ho, -, hval⟩ := request_authorization "/" pace hs ha hv url
  have hw : (c.request url).any fun o => c.clientOf.sends o w := by decide +kernel
  rw [ho, Option.any_some] at hw
  have hone := h settings _ _ hs ha hv pace url w o.request <| by
    rw [firstRequest?_attempt ho, Client.sent?, if_pos hw]
  have hg : lastGiven? settings "authorization" = some [.ofText "Token x"] := by decide +kernel
  rw [hval, hg] at hone
  exact absurd (congrArg List.length hone) nofun

end Readiness.HttpProbe
