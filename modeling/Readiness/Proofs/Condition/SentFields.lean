import Readiness.Proofs.Condition.Authorization

/-! # The fields that a probe sends

A field may be given again and again, by itself or together with others. Whatever is given last
replaces all that the field had (`HttpProbe.given?_foldl`), and a request carries nothing else under
its name (`HttpProbe.fields_sent`). Left out are the names that are also used for credentials or by
the client, see `HttpProbe.reserved`. -/

namespace Readiness

open Http

namespace Http.Headers

/-- The values that pairs have for a name, in their order. -/
def valuesOf (pairs : List (String × HeaderValue)) (name : String) : List HeaderValue :=
  (pairs.filter fun p => headerName p.1 = headerName name).map Prod.snd

/-- Headers that are filled value by value keep all values of a name. -/
theorem given?_ofPairs (pairs : List (String × HeaderValue)) (name : String) :
    (ofPairs pairs).given? name =
      if valuesOf pairs name = [] then none else some (valuesOf pairs name) := by
  induction pairs using List.reverseRecOn with
  | nil => rfl
  | append_singleton pairs p ih =>
    have hp : ofPairs (pairs ++ [p]) = (ofPairs pairs).append p.1 p.2 := by
      rw [ofPairs, List.foldl_append, ← ofPairs]
      rfl
    rw [hp, given?_append]
    by_cases hn : headerName p.1 = headerName name
    · have hv : valuesOf (pairs ++ [p]) name = valuesOf pairs name ++ [p.2] := by
        simp [valuesOf, hn]
      have hk : (ofPairs pairs).values p.1 = valuesOf pairs name := by
        rw [values_eq, given?, hn, ← given?, ih]
        split
        · next h => rw [h]; rfl
        · rfl
      rw [if_pos hn, hv, hk, if_neg (by simp)]
    · have hv : valuesOf (pairs ++ [p]) name = valuesOf pairs name := by
        simp [valuesOf, hn]
      rw [if_neg hn, hv, ih]

end Http.Headers

namespace Http.Outgoing

variable {headers assembled : Headers} {auth : Option Auth} {url : Url} {name : String}

theorem headerName_authorization : headerName "authorization" = "authorization" := by
  decide +kernel

/-- A URL has no other field than that of its credentials. -/
theorem values_fromUrl_of_ne (url : Url) (hn : headerName name ≠ "authorization") :
    (fromUrl url).values name = [] := by
  unfold fromUrl
  cases urlValue? url with
  | none => rfl
  | some v =>
    exact (Headers.values_insert ..).trans
      (if_neg fun h => hn (h.symm.trans headerName_authorization))

/-- Headers are assembled unless the credentials cannot be a value. -/
theorem isSome_assemble (url : Url) (headers : Headers) (auth : Option Auth) :
    (assemble url headers auth).isSome ↔ ∀ a, auth = some a → a.headerValue?.isSome := by
  cases auth with
  | none => exact iff_of_true rfl nofun
  | some a =>
    change (a.headerValue?.map _).isSome ↔ _
    rw [Option.isSome_map]
    exact ⟨fun h b hb => Option.some.inj hb ▸ h, fun h => h a rfl⟩

/-- Under any name but one, credentials make no difference. -/
theorem values_assemble_of_ne (hd : headers.Distinct)
    (h : assemble url headers auth = some assembled) (hn : headerName name ≠ "authorization") :
    assembled.Distinct ∧ assembled.values name = headers.values name := by
  have hm : ((fromUrl url).extend headers).values name = headers.values name := by
    rw [Headers.values_eq, Headers.given?_extend hd, Headers.values_eq]
    cases headers.given? name with
    | some values => rfl
    | none => exact (Headers.values_eq ..).symm.trans (values_fromUrl_of_ne url hn)
  have hm' := (distinct_fromUrl url).extend headers
  cases auth with
  | none =>
    cases h
    exact ⟨hm', hm⟩
  | some a =>
    obtain ⟨v, -, rfl⟩ := Option.map_eq_some_iff.mp h
    refine ⟨hm'.append "authorization" v, ?_⟩
    rw [Headers.values_append, if_neg fun h => hn (h.symm.trans headerName_authorization)]
    exact hm

end Http.Outgoing

namespace HttpProbe

variable {settings : List Setting} {c : HttpProbe} {url : Url} {name : String}

/-- Names under which a request has more than what the settings say: the first one is that of
credentials, and the client looks after the others. -/
def reserved : List String :=
  ["authorization", "accept", "host", "content-length", "transfer-encoding", "connection"]

/-- Without a request nothing is sent. -/
theorem firstRequest?_attempt_of_none (ho : c.request url = none) (w : World) :
    (c.attempt url).firstRequest? w = none := by
  have ha : (c.attempt url).after w = w := by
    rw [Timed.after, attempt, check, ho]
    rfl
  have hr : w.Requested none ((c.attempt url).after w) := .of_journal (by rw [ha])
  exact hr.firstRequest?_eq

/-- What is sent first is the request of the probe, if there is one and if there is a connection to a
server that suits. -/
theorem firstRequest?_attempt_eq (c : HttpProbe) (url : Url) (w : World) :
    (c.attempt url).firstRequest? w = (c.request url).bind (c.clientOf.sent? · w) := by
  cases ho : c.request url with
  | none => exact firstRequest?_attempt_of_none ho w
  | some o => exact firstRequest?_attempt ho w

/-- A request has the headers of the probe, of every name that is not reserved. -/
theorem values_request {o : Outgoing} (hd : c.headers.Distinct) (ho : c.request url = some o)
    (hn : headerName name ∉ reserved) :
    o.request.values name = (c.headers.values name).map HeaderValue.bytes := by
  have hm : Outgoing.managed ⊆ reserved := by decide
  have ha : headerName name ≠ "authorization" := fun h => hn (h ▸ List.mem_cons_self)
  obtain ⟨assembled, hasm, rfl⟩ := Option.map_eq_some_iff.mp ho
  obtain ⟨hda, hv⟩ := Outgoing.values_assemble_of_ne hd hasm ha
  rw [Outgoing.values_request hda fun h => hn (hm h), hv]

/-- The request with which an attempt begins is sent if it can be built and there is a connection
that suits. Under each name it has the values that the name was given last, which are all of its
values where several fields were given together, and none if the name has not been mentioned. -/
theorem fields_sent (path : String) (pace : Pace) (hs : ∀ s ∈ settings, s.Distinct)
    (hn : headerName name ∉ reserved) (url : Url) :
    let c : HttpProbe := settings.foldl apply { path, pace }
    (∀ pairs, (Setting.headers (.ofPairs pairs)).Distinct ∧
        (Setting.headers (.ofPairs pairs)).given? name =
          if Headers.valuesOf pairs name = [] then none else some (Headers.valuesOf pairs name)) ∧
      ((c.request url).isSome ↔ ∀ a, lastAuth? settings = some a → a.headerValue?.isSome) ∧
      (∀ w, (c.attempt url).firstRequest? w = (c.request url).bind (c.clientOf.sent? · w)) ∧
      ∀ o, c.request url = some o →
        o.request.values name = ((lastGiven? settings name).getD []).map HeaderValue.bytes := by
  intro c
  have hd : c.headers.Distinct := distinct_foldl Headers.distinct_empty settings
  have hg : c.headers.given? name = lastGiven? settings name := given?_new path pace hs name
  have ha : c.auth = lastAuth? settings := auth_new path pace settings
  refine ⟨fun pairs => ?_, ?_, firstRequest?_attempt_eq c url, fun o ho => ?_⟩
  · exact ⟨Headers.distinct_ofPairs pairs, Headers.given?_ofPairs pairs name⟩
  · rw [HttpProbe.request, Outgoing.prepare, Option.isSome_map, Outgoing.isSome_assemble, ha]
  · rw [values_request hd ho hn, Headers.values_eq, hg]

/-- The second of three settings is the last one that mentions the field, and gives it two values. -/
theorem fields_sent_together :
    let settings : List Setting := [.header "X-Tenant" (.ofText "a"),
      .headers (.ofPairs [("x-tenant", .ofText "b"), ("x-source", .ofText "c"),
        ("X-Tenant", .ofText "d")]),
      .header "x-source" (.ofText "e")]
    let c : HttpProbe := settings.foldl apply { path := "/", pace := ⟨.ofSecs 1, .ofMillis 500⟩ }
    let url : Url := { scheme := "http", host := some .loopback, port := some 8080, path := "/" }
    let w : World := { network := { ports := [(8080, [.listens {}])] } }
    (∀ s ∈ settings, s.Distinct) ∧ headerName "x-tenant" ∉ reserved ∧
      ∃ r : Request, (c.attempt url).firstRequest? w = some r ∧
        r.values "x-tenant" = ["b", "d"].map fun s => s.toUTF8.toList := by
  intro settings c url w
  have hs : ∀ s ∈ settings, s.Distinct :=
    List.forall_mem_cons.mpr ⟨trivial,
      List.forall_mem_cons.mpr ⟨Headers.distinct_ofPairs _,
        List.forall_mem_cons.mpr ⟨trivial, nofun⟩⟩⟩
  have hn : headerName "x-tenant" ∉ reserved := by decide +kernel
  have hg : lastGiven? settings "x-tenant" = some [.ofText "b", .ofText "d"] := by
    have hx : headerName "x-source" = "x-source" := by decide +kernel
    have ht : headerName "x-tenant" = "x-tenant" := by decide +kernel
    have hT : headerName "X-Tenant" = "x-tenant" := by decide +kernel
    simp [lastGiven?, settings, Setting.given?, Headers.given?_ofPairs, Headers.valuesOf, hx, ht, hT]
  obtain ⟨-, -, hsent, hval⟩ := fields_sent "/" ⟨.ofSecs 1, .ofMillis 500⟩ hs hn url
  have hw : (c.request url).any (c.clientOf.sends · w) := by decide +kernel
  obtain ⟨o, ho, hw⟩ := (Option.any_eq_true ..).mp hw
  refine ⟨hs, hn, o.request, ?_, ?_⟩
  · rw [hsent, ho, Option.bind_some, Client.sent?, if_pos hw]
  · rw [hval o ho, hg]
    rfl

/-- What a service sees that asks for credentials and for two fields of its own. -/
example :
    let settings : List Setting := [.auth (.basic "admin" "s3cr3t"),
      .header "x-request-source" (.ofText "waiting"), .headers (.ofPairs [("x-tenant", .ofText "acme")])]
    let c : HttpProbe := settings.foldl apply { path := "/secured", pace := ⟨.ofSecs 5, .ofMillis 50⟩ }
    let url : Url := { scheme := "http", host := some .loopback, port := some 9000, path := "/secured" }
    ((c.request url).map fun o => o.headers.pairs.map fun p => (p.1, p.2.bytes)) =
      some ([("x-request-source", "waiting"), ("x-tenant", "acme"),
        ("authorization", "Basic YWRtaW46czNjcjN0")].map fun p => (p.1, p.2.toUTF8.toList)) := by
  decide +kernel

end HttpProbe

end Readiness
