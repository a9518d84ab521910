import Mathlib.Data.List.TakeWhile
import Readiness.Condition.Http
import Readiness.Proofs.Url.Written

/-! # Where a probe goes

The URL of a probe is put together from a host, a port and a path and then read as a URL. The path
begins with a slash, and reading never looks back, so that nothing in it can change what comes before
it: the URL has the host and the port that it was made of (`HttpProbe.livenessUrl_onTarget`). -/

namespace Readiness

namespace Url

/-! ## Reading the parts -/

/-- Up to a slash nothing is dropped that is neither a blank at the start nor a line space. -/
theorem tidy_append {s : List Char} (hb : s.head?.any isBlank = false)
    (h : ∀ c ∈ s, isLineSpace c = false) (path : List Char) :
    ∃ rest, tidy (s ++ '/' :: path) = s ++ '/' :: rest := by
  have hslash : isBlank '/' = false := by decide
  have hd : (s ++ '/' :: path).dropWhile isBlank = s ++ '/' :: path := by
    cases s with
    | nil => rw [List.nil_append, List.dropWhile_cons_of_neg (by simp [hslash])]
    | cons c s =>
      rw [List.cons_append, List.dropWhile_cons_of_neg (by simpa using hb)]
  obtain ⟨r, hr⟩ : ∃ r, (path.reverse ++ '/' :: s.reverse).dropWhile isBlank =
      r ++ '/' :: s.reverse := by
    rw [List.dropWhile_append, List.dropWhile_cons_of_neg (by simp [hslash])]
    split
    · exact ⟨[], rfl⟩
    · exact ⟨_, rfl⟩
  have hrev : (s ++ '/' :: path).reverse = path.reverse ++ '/' :: s.reverse := by simp
  have hrev' : (r ++ '/' :: s.reverse).reverse = s ++ '/' :: r.reverse := by simp
  have hs : s.filter (fun c => !isLineSpace c) = s :=
    List.filter_eq_self.mpr fun c hc => by rw [h c hc, Bool.not_false]
  refine ⟨r.reverse.filter fun c => !isLineSpace c, ?_⟩
  rw [tidy, hd, hrev, hr, hrev', List.filter_append, hs]
  rfl

/-- There is no user in an authority without the sign that ends it. -/
theorem splitUserinfo_eq_none {authority : List Char} (h : ∀ c ∈ authority, c ≠ '@') :
    splitUserinfo authority = none := by
  have ht : authority.reverse.takeWhile (· ≠ '@') = authority.reverse :=
    List.takeWhile_eq_self_iff.mpr fun c hc => decide_eq_true (h c (List.mem_reverse.mp hc))
  rw [splitUserinfo, ht, List.reverse_reverse, if_neg (Nat.lt_irrefl _)]

/-- What may stand behind a host: nothing, or a colon and digits. -/
def portText : Option UInt16 → List Char
  | none => []
  | some port => ':' :: (toString port.toNat).toList

theorem isInner_of_mem_portText {port : Option UInt16} {c : Char} (h : c ∈ portText port) :
    IsInner c := by
  cases port with
  | none => cases h
  | some port =>
    rcases List.mem_cons.mp h with rfl | h
    · unfold IsInner
      decide
    · rw [toList_toString] at h
      exact (isPlain_of_mem_toDigits (by decide) (by decide) h).1

theorem parsePort_portText (port : Option UInt16) :
    parsePort ((portText port).drop 1) = .ok port := by
  cases port with
  | none => rfl
  | some port => exact parsePort_toString port

theorem parseAuthority_written {scheme : String} {s : List Char} {host : Host}
    (hs : isSpecial scheme = true) (h : Separable s) (hp : Host.parse s = .ok host)
    (port : Option UInt16) : parseAuthority scheme (s ++ portText port) = .ok {
      scheme
      host := some host
      port := if port = defaultPort scheme then none else port } := by
  have hu : splitUserinfo (s ++ portText port) = none := by
    refine splitUserinfo_eq_none fun c hc => ?_
    rcases List.mem_append.mp hc with hc | hc
    · exact (h.inner c hc).2.1
    · exact (isInner_of_mem_portText hc).2.1
  have hh : splitHost false (s ++ portText port) = (s, portText port) := by
    refine h.splitHost_append _ ?_
    cases port with
    | none => exact .inl rfl
    | some port => exact .inr rfl
  have he : s.isEmpty = false := by
    cases s with
    | nil => exact absurd rfl h.ne_nil
    | cons c s => rfl
  unfold parseAuthority
  dsimp only
  rw [hu, Option.getD_none, hh]
  dsimp only
  rw [he, if_neg (by simp), hs, if_pos rfl, hp, parsePort_portText]
  rfl

/-! ## Reading what follows -/

theorem withQueryAndFragment_eq (u : Url) (rest : List Char) :
    ∃ query fragment, withQueryAndFragment u rest = { u with query, fragment } := by
  unfold withQueryAndFragment
  dsimp only
  split
  · split <;> exact ⟨_, _, rfl⟩
  · exact ⟨_, _, rfl⟩
  · exact ⟨_, _, rfl⟩

theorem splitSegments_ne_nil (special : Bool) (s : List Char) : splitSegments special s ≠ [] := by
  cases s with
  | nil => exact List.cons_ne_nil _ _
  | cons c rest =>
    rw [splitSegments]
    split
    · exact List.cons_ne_nil _ _
    · split <;> exact List.cons_ne_nil _ _

/-- The last segment stays, or an empty one is put in its place. -/
theorem resolveSegments_ne_nil (kept : List (List Char)) {segments : List (List Char)}
    (h : segments ≠ []) : resolveSegments kept segments ≠ [] := by
  induction segments generalizing kept with
  | nil => exact absurd rfl h
  | cons segment rest ih =>
    rw [resolveSegments]
    by_cases hr : rest = []
    · subst hr
      split
      · simp [resolveSegments]
      · split <;> simp [resolveSegments]
    · split
      · exact ih _ hr
      · split <;> exact ih _ hr

theorem head?_parseSegments (special : Bool) (s : List Char) :
    (parseSegments special s).toList.head? = some '/' := by
  rw [parseSegments, joinSegments, String.toList_ofList]
  cases h : resolveSegments [] (splitSegments special s) with
  | nil => exact absurd h (resolveSegments_ne_nil [] (splitSegments_ne_nil special s))
  | cons segment rest => rfl

/-- A path that begins with a slash is read as one, and nothing but the path is changed by it, apart
from the query and the fragment. -/
theorem parseRest_slash (u : Url) (s : List Char) : ∃ path query fragment,
    parseRest u ('/' :: s) = { u with path, query, fragment } ∧ path.toList.head? = some '/' := by
  have ht : ('/' :: s).takeWhile (fun c => !endsPath c) =
      '/' :: s.takeWhile fun c => !endsPath c := List.takeWhile_cons_of_pos (by decide)
  unfold parseRest
  dsimp only
  rw [ht]
  dsimp only
  rw [if_pos (by simp)]
  obtain ⟨query, fragment, hq⟩ := withQueryAndFragment_eq
    { u with path := parseSegments (isSpecial u.scheme) (s.takeWhile fun c => !endsPath c) }
    (('/' :: s).dropWhile fun c => !endsPath c)
  exact ⟨_, query, fragment, hq, head?_parseSegments _ _⟩

theorem splitScheme_http {scheme : String} (h : scheme = "http" ∨ scheme = "https")
    (rest : List Char) : splitScheme (scheme.toList ++ ':' :: rest) = some (scheme, rest) := by
  rcases h with rfl | rfl <;> rfl

/-- An authority that is followed by a slash is read by itself. -/
theorem parseHierarchical_written {scheme : String} {host : Host} (hs : isSpecial scheme = true)
    (h : host.ReadsBack) (port : Option UInt16) (rest : List Char) : ∃ path query fragment,
    parseHierarchical scheme (host.text.toList ++ portText port ++ '/' :: rest) = .ok {
      scheme
      host := some host
      port := if port = defaultPort scheme then none else port
      path, query, fragment } ∧ path.toList.head? = some '/' := by
  have hi : ∀ c ∈ host.text.toList ++ portText port, (!endsAuthority true c) = true := by
    intro c hc
    rcases List.mem_append.mp hc with hc | hc
    · rw [(h.separable.inner c hc).1, Bool.not_false]
    · rw [(isInner_of_mem_portText hc).1, Bool.not_false]
  have ht : (host.text.toList ++ portText port ++ '/' :: rest).takeWhile
      (fun c => !endsAuthority true c) = host.text.toList ++ portText port := by
    rw [List.takeWhile_append_of_pos hi]
    exact List.append_nil _
  have hd : (host.text.toList ++ portText port ++ '/' :: rest).dropWhile
      (fun c => !endsAuthority true c) = '/' :: rest := by
    rw [List.dropWhile_append_of_pos hi]
    rfl
  unfold parseHierarchical
  dsimp only
  rw [hs, ht, hd, parseAuthority_written hs h.separable h]
  obtain ⟨path, query, fragment, hr, hp⟩ := parseRest_slash {
    scheme
    host := some host
    port := if port = defaultPort scheme then none else port } rest
  exact ⟨path, query, fragment, congrArg Except.ok hr, hp⟩

/-- A scheme, a host and a port are read as they are, whatever path follows them. -/
theorem parse_written {scheme text : String} {host : Host}
    (hs : scheme = "http" ∨ scheme = "https") (h : host.ReadsBack) (port : Option UInt16)
    (pathText : List Char)
    (ht : text.toList = scheme.toList ++
      (':' :: '/' :: '/' :: (host.text.toList ++ portText port)) ++ '/' :: pathText) :
    ∃ path query fragment, parse text = .ok {
      scheme
      host := some host
      port := if port = defaultPort scheme then none else port
      path, query, fragment } ∧ path.toList.head? = some '/' := by
  have hscheme : isSpecial scheme = true ∧ scheme.toList.head? = some 'h' ∧
      (scheme.toList.all fun c => !isLineSpace c) = true := by
    rcases hs with rfl | rfl <;> decide +kernel
  obtain ⟨hsp, hhead, hline⟩ := hscheme
  have hb : (scheme.toList ++ (':' :: '/' :: '/' :: (host.text.toList ++ portText port))).head?.any
      isBlank = false := by
    rw [List.head?_append, hhead]
    rfl
  have hl : ∀ c ∈ scheme.toList ++ (':' :: '/' :: '/' :: (host.text.toList ++ portText port)),
      isLineSpace c = false := by
    simp only [List.mem_append, List.mem_cons]
    rintro c (hc | rfl | rfl | rfl | hc | hc)
    · simpa using List.all_eq_true.mp hline c hc
    · decide
    · decide
    · decide
    · exact (h.separable.inner c hc).2.2
    · exact (isInner_of_mem_portText hc).2.2
  obtain ⟨rest, hr⟩ := tidy_append hb hl pathText
  obtain ⟨c, t, hc⟩ := List.exists_cons_of_ne_nil h.separable.ne_nil
  have hne : ¬ (c = '/' ∨ c = '\\') := by
    have he := (h.separable.inner c (hc ▸ List.mem_cons_self)).1
    rintro (rfl | rfl) <;> cases he
  have hd : ('/' :: '/' :: (host.text.toList ++ portText port ++ '/' :: rest)).dropWhile
      (fun c => c = '/' || c = '\\') = host.text.toList ++ portText port ++ '/' :: rest := by
    rw [hc]
    simp [hne]
  rw [parse, ht, hr, List.append_assoc, List.cons_append, splitScheme_http hs]
  dsimp only
  rw [if_pos hsp, List.cons_append, List.cons_append, hd]
  exact parseHierarchical_written hsp h port rest

end Url

namespace HttpProbe

def scheme (useTls : Bool) : String := if useTls then "https" else "http"

/-- The port that is written in the URL: none if it is the default of the scheme. -/
def writtenPort (useTls : Bool) (port : UInt16) : Option UInt16 :=
  if Url.defaultPort (scheme useTls) = some port then none else some port

/-- The URL leads to the host port that is to be probed. -/
structure OnTarget (host : Url.Host) (port : UInt16) (useTls : Bool) (url : Url) : Prop where
  scheme_eq : url.scheme = scheme useTls
  host_eq : url.host = some host
  username_eq : url.username = ""
  password_eq : url.password = none
  port_eq : url.port = writtenPort useTls port
  effectivePort_eq : url.effectivePort = some port
  path_head : url.path.toList.head? = some '/'

theorem livenessText_toList (host : Url.Host) (port : UInt16) (useTls : Bool) (path : String) :
    ∃ pathText, (livenessText host port useTls path).toList = (scheme useTls).toList ++
      (':' :: '/' :: '/' :: (host.text.toList ++ Url.portText (writtenPort useTls port))) ++
        '/' :: pathText := by
  obtain ⟨pathText, hp⟩ : ∃ pathText,
      (if path.toList.head? = some '/' then path else "/" ++ path).toList = '/' :: pathText := by
    split
    · next h =>
      obtain ⟨rest, hr⟩ := List.head?_eq_some_iff.mp h
      exact ⟨rest, hr⟩
    · exact ⟨path.toList, by simp⟩
  have hport : (if port = (if useTls then 443 else 80) then "" else
      ":" ++ toString port.toNat).toList = Url.portText (writtenPort useTls port) := by
    have hd : Url.defaultPort (scheme useTls) = some (if useTls then 443 else 80) := by
      cases useTls <;> rfl
    rw [writtenPort, hd]
    by_cases he : port = if useTls then 443 else 80
    · rw [if_pos he, if_pos (congrArg some he.symm), Url.portText]
      rfl
    · rw [if_neg he, if_neg fun h => he (Option.some.inj h).symm, Url.portText, String.toList_append]
      rfl
  refine ⟨pathText, ?_⟩
  have ht : livenessText host port useTls path = scheme useTls ++ "://" ++ host.text ++
      (if port = (if useTls then 443 else 80) then "" else ":" ++ toString port.toNat) ++
      (if path.toList.head? = some '/' then path else "/" ++ path) := by
    cases useTls <;> rfl
  rw [ht, String.toList_append, hp, String.toList_append, hport]
  simp

/-- Whatever the path is, the probe goes to the given host and port. -/
theorem livenessUrl_onTarget (host : Url.Host) (port : UInt16) (useTls : Bool) (path : String)
    (h : host.ReadsBack) :
    ∃ url, livenessUrl host port useTls path = .ok url ∧ OnTarget host port useTls url := by
  obtain ⟨pathText, ht⟩ := livenessText_toList host port useTls path
  have hs : scheme useTls = "http" ∨ scheme useTls = "https" := by
    cases useTls
    · exact .inl rfl
    · exact .inr rfl
  have hne : writtenPort useTls port ≠ Url.defaultPort (scheme useTls) := by
    unfold writtenPort
    split
    · next hd => rw [hd]; nofun
    · next hd => exact fun h => hd h.symm
  obtain ⟨written, query, fragment, hu, hp⟩ := Url.parse_written hs h _ pathText ht
  rw [if_neg hne] at hu
  refine ⟨_, hu, rfl, rfl, rfl, rfl, rfl, ?_, hp⟩
  unfold Url.effectivePort writtenPort
  split
  · next hd => exact hd
  · rfl

/-- A path in which everything that ends an authority, or starts one, comes before a blank. -/
theorem livenessUrl_onTarget_crafted :
    let host : Url.Host := .domain "db.example"
    host.ReadsBack ∧ ∃ url, livenessUrl host 8080 false "\\@evil:1//../?#[x]\t " = .ok url ∧
      OnTarget host 8080 false url := by
  intro host
  have h : host.ReadsBack := by
    unfold Url.Host.ReadsBack
    decide +kernel
  exact ⟨h, livenessUrl_onTarget host 8080 false _ h⟩

end HttpProbe

end Readiness
