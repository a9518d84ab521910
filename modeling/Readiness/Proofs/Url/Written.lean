import Readiness.Url.Basic

/-! # How hosts and ports are written

The text of a number is read as that number (`number?_toDigits`), and the text of a host has no
character that would end it (`Host.ReadsBack.written`), so that a host with a port behind it is taken
apart at the colon between them (`parseAuthority_written`). -/

namespace Readiness.Url

/-! ## Numbers -/

theorem digit_of_mem_toDigits {b n : Nat} {c : Char} (hb : 1 < b) (h : c ∈ Nat.toDigits b n) :
    ∃ d < b, c = Nat.digitChar d := by
  induction n using Nat.strongRecOn with
  | ind n ih =>
    rw [Nat.toDigits_eq_if hb] at h
    split at h
    · next hn => exact ⟨n, hn, List.mem_singleton.mp h⟩
    · next hn =>
      rcases List.mem_append.mp h with h | h
      · exact ih (n / b) (Nat.div_lt_self (by omega) hb) h
      · exact ⟨n % b, Nat.mod_lt _ (by omega), List.mem_singleton.mp h⟩

theorem digitValue_digitChar : ∀ d < 10, digitValue (Nat.digitChar d) = some d := by decide

/-- A number is read from its digits. -/
theorem number?_toDigits (n : Nat) : number? 10 (Nat.toDigits 10 n) = some n := by
  induction n using Nat.strongRecOn with
  | ind n ih =>
    rw [Nat.toDigits_eq_if (by decide)]
    split
    · next hn => simp [number?, digitValue_digitChar n hn, hn]
    · next hn =>
      have hd : n % 10 < 10 := Nat.mod_lt _ (by decide)
      have hi := ih (n / 10) (by omega)
      unfold number? at hi ⊢
      rw [List.foldlM_append, hi]
      simp [digitValue_digitChar _ hd, hd]
      omega

theorem toList_toString (n : Nat) : (toString n).toList = Nat.toDigits 10 n := by simp

theorem parsePort_toString (port : UInt16) :
    parsePort (toString port.toNat).toList = .ok (some port) := by
  rw [toList_toString]
  have hd : (Nat.toDigits 10 port.toNat).all Char.isDigit = true :=
    List.all_eq_true.mpr fun c hc => Nat.isDigit_of_mem_toDigits (by decide) (by decide) hc
  have hn : port.toNat < 65536 := port.toNat_lt
  unfold parsePort
  split
  · next h => exact absurd h Nat.toDigits_ne_nil
  · rw [if_pos hd, number?_toDigits]
    dsimp only
    rw [if_pos hn]
    simp

/-! ## Characters -/

theorem mem_intercalate {sep : List Char} {parts : List (List Char)} {c : Char}
    (h : c ∈ sep.intercalate parts) : c ∈ sep ∨ ∃ part ∈ parts, c ∈ part := by
  induction parts with
  | nil => simp at h
  | cons part rest ih =>
    by_cases hr : rest = []
    · subst hr
      rw [List.intercalate_singleton] at h
      exact .inr ⟨part, List.mem_singleton_self _, h⟩
    · rw [List.intercalate_cons_of_ne_nil hr] at h
      rcases List.mem_append.mp h with h | h
      · rcases List.mem_append.mp h with h | h
        · exact .inr ⟨part, List.mem_cons_self, h⟩
        · exact .inl h
      · rcases ih h with h | ⟨part', hp, h⟩
        · exact .inl h
        · exact .inr ⟨part', List.mem_cons_of_mem _ hp, h⟩

/-- A character that is kept in an authority, and ends neither it nor the user in it. -/
def IsInner (c : Char) : Prop := endsAuthority true c = false ∧ c ≠ '@' ∧ isLineSpace c = false

/-- A character that does not matter to where the host ends either. -/
def IsPlain (c : Char) : Prop := IsInner c ∧ c ≠ ':' ∧ c ≠ '[' ∧ c ≠ ']'

theorem isPlain_digitChar : ∀ d < 16, IsPlain (Nat.digitChar d) := by
  unfold IsPlain IsInner
  decide

theorem isPlain_dot : IsPlain '.' := by
  unfold IsPlain IsInner
  decide

theorem isPlain_of_mem_toDigits {b n : Nat} {c : Char} (hb : 1 < b) (hb' : b ≤ 16)
    (h : c ∈ Nat.toDigits b n) : IsPlain c := by
  obtain ⟨d, hd, rfl⟩ := digit_of_mem_toDigits hb h
  exact isPlain_digitChar d (Nat.lt_of_lt_of_le hd hb')

/-- What cannot be in a domain is what has a meaning in an authority, and more. -/
theorem isPlain_of_not_isForbidden {c : Char} (h : Domain.isForbidden c = false) : IsPlain c := by
  have hne : ∀ d, Domain.isForbidden d = true → c ≠ d := by
    rintro d hd rfl
    rw [h] at hd
    cases hd
  unfold IsPlain IsInner endsAuthority isLineSpace
  simp [hne _ (show Domain.isForbidden '/' = true by decide),
    hne _ (show Domain.isForbidden '?' = true by decide),
    hne _ (show Domain.isForbidden '#' = true by decide),
    hne _ (show Domain.isForbidden '\\' = true by decide),
    hne _ (show Domain.isForbidden '@' = true by decide),
    hne _ (show Domain.isForbidden '\t' = true by decide),
    hne _ (show Domain.isForbidden '\n' = true by decide),
    hne _ (show Domain.isForbidden '\r' = true by decide),
    hne _ (show Domain.isForbidden ':' = true by decide),
    hne _ (show Domain.isForbidden '[' = true by decide),
    hne _ (show Domain.isForbidden ']' = true by decide)]

/-! ## Hosts -/

theorem splitHost_plain {s rest : List Char} (h : ∀ c ∈ s, IsPlain c)
    (hr : rest.head? = none ∨ rest.head? = some ':') : splitHost false (s ++ rest) = (s, rest) := by
  induction s with
  | nil =>
    cases rest with
    | nil => rfl
    | cons c rest =>
      obtain rfl : c = ':' := by simpa using hr
      rfl
  | cons c s ih =>
    obtain ⟨-, hc, ho, hs⟩ := h c List.mem_cons_self
    have ih := ih fun c hm => h c (List.mem_cons_of_mem _ hm)
    simp [splitHost, hc, ho, hs, ih]

/-- A colon in brackets does not end the host. -/
theorem splitHost_bracketed {s rest : List Char} (h : ∀ c ∈ s, c = ':' ∨ IsPlain c)
    (hr : rest.head? = none ∨ rest.head? = some ':') :
    splitHost false ('[' :: (s ++ ']' :: rest)) = ('[' :: (s ++ [']']), rest) := by
  have hin : splitHost true (s ++ ']' :: rest) = (s ++ [']'], rest) := by
    induction s with
    | nil =>
      have he := splitHost_plain (s := []) nofun hr
      simp_all [splitHost]
    | cons c s ih =>
      have ih := ih fun c hm => h c (List.mem_cons_of_mem _ hm)
      have hc : c ≠ '[' ∧ c ≠ ']' := by
        rcases h c List.mem_cons_self with rfl | ⟨-, -, hc⟩
        · decide
        · exact hc
      simp [splitHost, hc.1, hc.2, ih]
  simp [splitHost, hin]

/-- A text that can be told from what may follow a host. -/
structure Separable (s : List Char) : Prop where
  ne_nil : s ≠ []
  inner : ∀ c ∈ s, IsInner c
  splitHost_append : ∀ rest : List Char, rest.head? = none ∨ rest.head? = some ':' →
    splitHost false (s ++ rest) = (s, rest)

theorem separable_of_plain {s : List Char} (h0 : s ≠ []) (h : ∀ c ∈ s, IsPlain c) : Separable s :=
  ⟨h0, fun c hc => (h c hc).1, fun _ => splitHost_plain h⟩

namespace Host

/-- The written form of a host is read as this host. -/
def ReadsBack (host : Host) : Prop := parse host.text.toList = .ok host

theorem parse_nil : (parse []).toOption = none := by decide +kernel

theorem text_ne_nil {host : Host} (h : host.ReadsBack) : host.text.toList ≠ [] := by
  intro he
  have hn := parse_nil
  rw [← he, h] at hn
  cases hn

theorem parseBracketed_ne_domain (rest : List Char) (name : String) :
    parseBracketed rest ≠ .ok (.domain name) := by
  unfold parseBracketed
  split
  · split <;> nofun
  · nofun

theorem not_isForbidden_of_toAscii {bytes : List UInt8} {name : List Char}
    (h : Domain.toAscii bytes = .ok name) : ∀ c ∈ name, Domain.isForbidden c = false := by
  unfold Domain.toAscii at h
  split at h
  · cases h
  · next ascii ha =>
    cases h
    obtain ⟨text, -, ha⟩ := Option.bind_eq_some_iff.mp ha
    obtain ⟨prepared, -, ha⟩ := Option.bind_eq_some_iff.mp ha
    obtain ⟨forms, -, ha⟩ := Option.bind_eq_some_iff.mp ha
    dsimp only at ha
    split at ha
    · next hf =>
      cases ha
      simp only [Bool.and_eq_true, Bool.not_eq_true', List.any_eq_false] at hf
      exact fun c hc => Bool.eq_false_iff.mpr (hf.2 c hc)
    · cases ha

theorem separable_domain {name : String} (h : (domain name).ReadsBack) :
    Separable name.toList := by
  refine separable_of_plain (text_ne_nil h) fun c hc => isPlain_of_not_isForbidden ?_
  unfold ReadsBack parse at h
  split at h
  · exact absurd h (parseBracketed_ne_domain _ _)
  · change (Domain.toAscii _ >>= _) = _ at h
    cases ha : Domain.toAscii (Percent.decode (String.ofList (domain name).text.toList)) with
    | error fault =>
      rw [ha] at h
      cases h
    | ok ascii =>
      rw [ha] at h
      have hn : ascii = name.toList := by
        simp only [bind, Except.bind] at h
        split at h
        · cases h
        · split at h
          · split at h <;> cases h
          · cases h
            exact String.toList_ofList.symm
      exact not_isForbidden_of_toAscii ha c (hn ▸ hc)

/-- The bytes of an address are written in digits with points between. -/
theorem separable_ipv4 (a : Ipv4) : Separable a.text.toList := by
  have ht : a.text.toList = ['.'].intercalate (a.bytes.map (Nat.toDigits 10)) := by
    rw [Ipv4.text, String.toList_intercalate, List.map_map]
    congr 2
    funext n
    exact toList_toString n
  rw [ht]
  refine separable_of_plain ?_ fun c hc => ?_
  · simp [Ipv4.bytes, List.intercalate]
  · rcases mem_intercalate hc with hc | ⟨part, hp, hc⟩
    · exact List.mem_singleton.mp hc ▸ isPlain_dot
    · obtain ⟨n, -, rfl⟩ := List.mem_map.mp hp
      exact isPlain_of_mem_toDigits (by decide) (by decide) hc

theorem groupsText_spec (groups : List UInt16) :
    ∀ c ∈ (Ipv6.groupsText groups).toList, c = ':' ∨ IsPlain c := by
  intro c hc
  rw [Ipv6.groupsText, String.toList_intercalate, List.map_map] at hc
  rcases mem_intercalate hc with hc | ⟨part, hp, hc⟩
  · exact .inl (List.mem_singleton.mp hc)
  · obtain ⟨g, -, rfl⟩ := List.mem_map.mp hp
    refine .inr (isPlain_of_mem_toDigits (n := g.toNat) (b := 16) (by decide) (by decide) ?_)
    simpa [Text.hex] using hc

/-- An address with colons is written in brackets. -/
theorem separable_ipv6 (a : Ipv6) : Separable (ipv6 a).text.toList := by
  have hs : ∀ c ∈ a.text.toList, c = ':' ∨ IsPlain c := by
    unfold Ipv6.text
    dsimp only
    split
    · exact groupsText_spec _
    · next start length _ =>
      intro c hc
      rw [String.toList_append, String.toList_append] at hc
      rcases List.mem_append.mp hc with hc | hc
      · rcases List.mem_append.mp hc with hc | hc
        · exact groupsText_spec _ c hc
        · exact .inl (by simpa using hc)
      · exact groupsText_spec _ c hc
  have ht : (ipv6 a).text.toList = '[' :: (a.text.toList ++ [']']) := by
    simp [text]
  rw [ht]
  refine ⟨List.cons_ne_nil _ _, fun c hc => ?_, fun rest hr => ?_⟩
  · have hb : IsInner '[' ∧ IsInner ']' ∧ IsInner ':' := by
      unfold IsInner
      decide
    rcases List.mem_cons.mp hc with rfl | hc
    · exact hb.1
    · rcases List.mem_append.mp hc with hc | hc
      · rcases hs c hc with rfl | hc
        · exact hb.2.2
        · exact hc.1
      · exact List.mem_singleton.mp hc ▸ hb.2.1
  · rw [List.cons_append, List.append_assoc, List.singleton_append, splitHost_bracketed hs hr]

/-- A host that is read from its written form can be told from what follows it. -/
theorem ReadsBack.separable {host : Host} (h : host.ReadsBack) : Separable host.text.toList := by
  cases host with
  | domain name => exact separable_domain h
  | ipv4 a => exact separable_ipv4 a
  | ipv6 a => exact separable_ipv6 a

end Host

end Readiness.Url
