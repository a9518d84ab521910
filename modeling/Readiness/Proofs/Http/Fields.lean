import Mathlib.Data.List.Nodup
import Readiness.Http.Client

/-! # The fields of a request

`Headers.given?` tells a name that is not mentioned from one without values. A name that headers
mention has in the end what it was given last (`Headers.given?_insert`, `Headers.given?_extend`), and
a server receives its values in their order (`Outgoing.values_request`). Only the names that the
client looks after itself are left out, see `Outgoing.managed`. -/

namespace Readiness.Http

namespace Headers

/-- Every name is listed once. -/
def Distinct (h : Headers) : Prop := (h.entries.map Prod.fst).Nodup

instance (h : Headers) : Decidable h.Distinct := inferInstanceAs (Decidable (List.Nodup _))

/-- The values of a name, if it is mentioned. -/
def given? (h : Headers) (name : String) : Option (List HeaderValue) :=
  h.entries.lookup (headerName name)

variable {h other : Headers} {key name : String} {v : HeaderValue}
  {entries added : List (String × List HeaderValue)} {change : List HeaderValue → List HeaderValue}

theorem lookup?_cons (e : String × List HeaderValue) (rest : List (String × List HeaderValue))
    (key : String) :
    (e :: rest).lookup key = if e.1 = key then some e.2 else rest.lookup key := by
  rw [List.lookup_cons]
  grind

theorem lookup?_of_notMem (h : key ∉ entries.map Prod.fst) : entries.lookup key = none := by
  refine List.lookup_eq_none_iff.mpr fun p hp => ?_
  simpa using fun hk : key = p.1 => h (hk ▸ List.mem_map_of_mem hp)

theorem lookup_eq (key : String) (entries : List (String × List HeaderValue)) :
    lookup key entries = (entries.lookup key).getD [] := by
  induction entries with
  | nil => rfl
  | cons e rest ih =>
    rw [lookup, lookup?_cons, ih]
    split <;> rfl

theorem values_eq (h : Headers) (name : String) : h.values name = (h.given? name).getD [] :=
  lookup_eq ..

/-! ## Names -/

theorem mem_names_update (key name : String) (change : List HeaderValue → List HeaderValue)
    (entries : List (String × List HeaderValue)) :
    name ∈ (update key change entries).map Prod.fst ↔
      name = key ∨ name ∈ entries.map Prod.fst := by
  induction entries with
  | nil => simp [update]
  | cons e rest ih =>
    rw [update]
    split
    · next he => simp [he]
    · rw [List.map_cons, List.map_cons, List.mem_cons, List.mem_cons, ih, or_left_comm]

theorem nodup_update (key : String) (change : List HeaderValue → List HeaderValue)
    (hd : (entries.map Prod.fst).Nodup) : ((update key change entries).map Prod.fst).Nodup := by
  induction entries with
  | nil => simp [update]
  | cons e rest ih =>
    have hd := List.nodup_cons.mp hd
    rw [update]
    split
    · exact List.nodup_cons.mpr hd
    · next he =>
      refine List.nodup_cons.mpr ⟨fun hm => ?_, ih hd.2⟩
      rcases (mem_names_update ..).mp hm with hk | hm
      · exact he hk
      · exact hd.1 hm

theorem distinct_empty : empty.Distinct := List.nodup_nil

theorem Distinct.insert (hd : h.Distinct) (name : String) (v : HeaderValue) :
    (h.insert name v).Distinct := nodup_update _ _ hd

theorem Distinct.append (hd : h.Distinct) (name : String) (v : HeaderValue) :
    (h.append name v).Distinct := nodup_update _ _ hd

theorem Distinct.orInsert (hd : h.Distinct) (name : String) (v : HeaderValue) :
    (h.orInsert name v).Distinct := by
  unfold Headers.orInsert
  split
  · exact hd
  · exact hd.insert name v

theorem Distinct.extend (hd : h.Distinct) (other : Headers) : (h.extend other).Distinct := by
  refine List.foldlRecOn (motive := fun entries : List (String × List HeaderValue) =>
    (entries.map Prod.fst).Nodup) other.entries _ hd ?_
  exact fun _ hd e _ => nodup_update e.1 _ hd

theorem distinct_ofPairs (pairs : List (String × HeaderValue)) : (ofPairs pairs).Distinct :=
  List.foldlRecOn (motive := Distinct) pairs _ distinct_empty fun _ hd p _ => hd.append p.1 p.2

/-! ## What a name is given -/

theorem lookup?_update (key name : String) (change : List HeaderValue → List HeaderValue)
    (entries : List (String × List HeaderValue)) :
    (update key change entries).lookup name =
      if key = name then some (change ((entries.lookup key).getD [])) else entries.lookup name := by
  induction entries with
  | nil => rw [update, lookup?_cons]; rfl
  | cons e rest ih =>
    rw [update]
    split <;> simp only [lookup?_cons] <;> grind

/-- A name that is given a value has that value alone. -/
theorem given?_insert (h : Headers) (key name : String) (v : HeaderValue) :
    (h.insert key v).given? name =
      if headerName key = headerName name then some [v] else h.given? name :=
  lookup?_update ..

/-- An added value comes after those that a name has. -/
theorem given?_append (h : Headers) (key name : String) (v : HeaderValue) :
    (h.append key v).given? name =
      if headerName key = headerName name then some (h.values key ++ [v]) else h.given? name := by
  rw [values_eq]
  exact lookup?_update ..

theorem values_insert (h : Headers) (key name : String) (v : HeaderValue) :
    (h.insert key v).values name =
      if headerName key = headerName name then [v] else h.values name := by
  rw [values_eq, given?_insert, apply_ite (Option.getD · []), ← values_eq]
  rfl

theorem values_append (h : Headers) (key name : String) (v : HeaderValue) :
    (h.append key v).values name =
      if headerName key = headerName name then h.values key ++ [v] else h.values name := by
  rw [values_eq, given?_append, apply_ite (Option.getD · []), ← values_eq]
  rfl

/-- A name has what the other headers give it, if they mention it. -/
theorem given?_extend (hd : other.Distinct) (h : Headers) (name : String) :
    (h.extend other).given? name = (other.given? name).or (h.given? name) := by
  obtain ⟨added⟩ := other
  obtain ⟨entries⟩ := h
  change (added.foldl _ entries).lookup _ = (added.lookup _).or (entries.lookup _)
  induction added generalizing entries with
  | nil => rfl
  | cons e rest ih =>
    have hd := List.nodup_cons.mp hd
    rw [List.foldl_cons, ih hd.2, lookup?_update, lookup?_cons]
    split
    · next he =>
      rw [← he, lookup?_of_notMem hd.1]
      rfl
    · rfl

theorem values_orInsert_of_ne (hn : headerName key ≠ headerName name) :
    (h.orInsert key v).values name = h.values name := by
  unfold orInsert
  split
  · rfl
  · rw [values_insert, if_neg hn]

/-! ## One name among all -/

theorem filter_pairs (hd : h.Distinct) (key : String) :
    h.pairs.filter (fun p => p.1 = key) = (lookup key h.entries).map fun v => (key, v) := by
  obtain ⟨entries⟩ := h
  have hc : ∀ e : String × List HeaderValue, (e.2.map fun v => (e.1, v)).filter (fun p => p.1 = key) =
      if e.1 = key then e.2.map fun v => (key, v) else [] := by
    intro e
    split
    · next he => simp [he, List.filter_map, Function.comp_def]
    · next he => simp [he, List.filter_map, Function.comp_def]
  induction entries with
  | nil => rfl
  | cons e rest ih =>
    have hd := List.nodup_cons.mp hd
    have ih := ih hd.2
    change (rest.flatMap _).filter _ = _ at ih
    change ((e :: rest).flatMap _).filter _ = _
    rw [List.flatMap_cons, List.filter_append, hc, ih, lookup]
    split
    · next he =>
      rw [← he, lookup_eq e.1 rest, lookup?_of_notMem hd.1, Option.getD_none, List.map_nil,
        List.append_nil]
    · rfl

end Headers

/-- The values of a name, in the order in which a server receives them. -/
def Request.values (r : Request) (name : String) : List (List UInt8) :=
  (r.headers.filter fun f => f.1 = headerName name).map Prod.snd

namespace Outgoing

/-- Names that the client looks after itself. -/
def managed : List String := ["accept", "host", "content-length"]

/-- The headers with those that the client adds. -/
def completed (o : Outgoing) : Headers :=
  let headers := (o.headers.orInsert "accept" (.ofText "*/*")).orInsert "host"
    (.ofText o.url.authorityText)
  let length := match o.body with
    | some (_ :: rest) => some (toString (rest.length + 1))
    | _ => if ["POST", "PUT", "PATCH"].contains o.method then some "0" else none
  length.elim headers fun n => headers.orInsert "content-length" (.ofText n)

variable {o : Outgoing} {name : String}

theorem fields_eq (o : Outgoing) :
    o.fields = (o.completed.pairs.map fun p => (p.1, p.2.bytes)).mergeSort fun a b => a.1 ≤ b.1 :=
  rfl

theorem distinct_completed (hd : o.headers.Distinct) : o.completed.Distinct := by
  have hh := (hd.orInsert "accept" (.ofText "*/*")).orInsert "host" (.ofText o.url.authorityText)
  unfold completed
  dsimp only
  split
  · exact hh.orInsert ..
  · split
    · exact hh.orInsert ..
    · exact hh

theorem values_completed (o : Outgoing) (hn : headerName name ∉ managed) :
    o.completed.values name = o.headers.values name := by
  have hm : ∀ key ∈ managed, headerName key = key := by decide +kernel
  have hk : ∀ key ∈ managed, headerName key ≠ headerName name :=
    fun key h he => hn (by rw [← he, hm key h]; exact h)
  simp only [managed, List.forall_mem_cons] at hk
  have hh : ((o.headers.orInsert "accept" (.ofText "*/*")).orInsert "host"
      (.ofText o.url.authorityText)).values name = o.headers.values name := by
    rw [Headers.values_orInsert_of_ne hk.2.1, Headers.values_orInsert_of_ne hk.1]
  unfold completed
  dsimp only
  split
  · exact (Headers.values_orInsert_of_ne hk.2.2.1).trans hh
  · split
    · exact (Headers.values_orInsert_of_ne hk.2.2.1).trans hh
    · exact hh

/-- Sorting leaves the elements in their order that are all alike to it. -/
theorem filter_mergeSort {α : Type} {le : α → α → Bool} {p : α → Bool}
    (trans : ∀ a b c, le a b → le b c → le a c) (total : ∀ a b, le a b || le b a)
    (hp : ∀ a b, p a → p b → le a b) (l : List α) :
    (l.mergeSort le).filter p = l.filter p := by
  have hl : (l.filter p).Pairwise fun a b => le a b := by
    refine List.pairwise_of_forall_mem_list fun a ha b hb => hp a b ?_ ?_
    · exact (List.mem_filter.mp ha).2
    · exact (List.mem_filter.mp hb).2
  have hs := (List.sublist_mergeSort trans total hl List.filter_sublist).filter p
  rw [List.filter_filter] at hs
  simp only [Bool.and_self] at hs
  exact (hs.eq_of_length ((List.mergeSort_perm l le).filter p).length_eq.symm).symm

/-- A server receives what the headers say, of every name that the client does not look after. -/
theorem values_request (hd : o.headers.Distinct) (hn : headerName name ∉ managed) :
    o.request.values name = (o.headers.values name).map HeaderValue.bytes := by
  have hf : o.fields.filter (fun f => f.1 = headerName name) =
      (o.completed.pairs.map fun p => (p.1, p.2.bytes)).filter fun f => f.1 = headerName name := by
    rw [fields_eq]
    refine filter_mergeSort ?_ ?_ ?_ _
    · simpa using fun _ _ _ => String.le_trans
    · simpa using fun _ _ => String.le_total _ _
    · simp only [decide_eq_true_eq]
      intro a b ha hb
      exact (ha.trans hb.symm) ▸ String.le_refl a.1
  change (o.fields.filter _).map Prod.snd = _
  rw [hf, List.filter_map, ← values_completed o hn]
  change ((o.completed.pairs.filter fun p => p.1 = headerName name).map _).map _ = _
  rw [Headers.filter_pairs (distinct_completed hd), List.map_map, List.map_map]
  rfl

/-! ## Assembling -/

/-- What the credentials that a URL carries are sent as. -/
def urlValue? (url : Url) : Option HeaderValue := (urlAuth? url).bind Auth.headerValue?

/-- The headers that the credentials of a URL need. -/
def fromUrl (url : Url) : Headers :=
  (urlValue? url).elim .empty fun v => Headers.empty.insert "authorization" v

theorem distinct_fromUrl (url : Url) : (fromUrl url).Distinct := by
  unfold fromUrl
  cases urlValue? url with
  | none => exact Headers.distinct_empty
  | some v => exact Headers.distinct_empty.insert ..

theorem values_fromUrl (url : Url) :
    (fromUrl url).values "authorization" = (urlValue? url).toList := by
  unfold fromUrl
  cases urlValue? url with
  | none => rfl
  | some v => exact (Headers.values_insert ..).trans (if_pos rfl)

/-- Credentials are sent after whatever else the authorization has been given. -/
theorem values_assemble {headers : Headers} {a : Auth} {v : HeaderValue} (url : Url)
    (hd : headers.Distinct) (hv : a.headerValue? = some v) :
    ∃ assembled, assemble url headers (some a) = some assembled ∧ assembled.Distinct ∧
      assembled.values "authorization" =
        (headers.given? "authorization").getD (urlValue? url).toList ++ [v] := by
  refine ⟨((fromUrl url).extend headers).append "authorization" v, ?_, ?_, ?_⟩
  · change a.headerValue?.map _ = _
    rw [hv]
    rfl
  · exact ((distinct_fromUrl url).extend headers).append ..
  · rw [Headers.values_append, if_pos rfl, Headers.values_eq, Headers.given?_extend hd,
      ← values_fromUrl, Headers.values_eq]
    cases headers.given? "authorization" <;> rfl

end Outgoing

end Readiness.Http
