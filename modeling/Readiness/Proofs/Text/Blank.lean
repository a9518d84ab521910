import Mathlib.Data.List.DropRight
import Readiness.Unicode.Blank

/-! # White space around a text

A set of code points finds its members by halving (`CodeSet.contains_iff`), so that the characters of
white space are exactly those of a list (`isBlank_iff`). `Trimmed` says of two texts that one is what
is left of the other without the white space at both ends; there is always such a text
(`trimmed_trim`), and only one (`Trimmed.trim_eq`). -/

namespace Readiness.Unicode

namespace CodeSet

/-- The ranges are ascending and do not overlap. -/
structure Apart (ranges : List (Nat × Nat)) : Prop where
  le : ∀ r ∈ ranges, r.1 ≤ r.2
  lt : ranges.Pairwise fun a b => a.2 < b.1

variable {ranges : Array (Nat × Nat)} {code lo hi i j : Nat} {r q : Nat × Nat} {s : CodeSet}

theorem Apart.lt_of_lt (h : Apart ranges.toList) (hr : ranges[i]? = some r)
    (hq : ranges[j]? = some q) (hij : i < j) : r.2 < q.1 := by
  obtain ⟨hi, rfl⟩ := Array.getElem?_eq_some_iff.mp hr
  obtain ⟨hj, rfl⟩ := Array.getElem?_eq_some_iff.mp hq
  exact List.pairwise_iff_getElem.mp h.lt i j hi hj hij

theorem Apart.le_of_getElem? (h : Apart ranges.toList) (hi : ranges[i]? = some r) : r.1 ≤ r.2 :=
  h.le r (Array.mem_toList_iff.mpr (Array.mem_of_getElem? hi))

/-- Halving loses no range that holds the code point. -/
theorem search_iff (hr : Apart ranges.toList) (hs : hi ≤ ranges.size) :
    search ranges code lo hi ↔
      ∃ i r, ranges[i]? = some r ∧ lo ≤ i ∧ i < hi ∧ r.1 ≤ code ∧ code ≤ r.2 := by
  fun_induction search ranges code lo hi with
  | case1 lo hi h mid hm =>
    have := Array.getElem?_eq_none_iff.mp hm
    omega
  | case2 lo hi h mid first last hm hc ih =>
    -- a range at or behind the middle begins behind the code point
    rw [ih (by omega)]
    refine exists₂_congr fun i r => and_congr_right fun hi => ?_
    have hle := hr.le_of_getElem? hm
    have hlt : mid ≤ i → code < r.1 := fun h => by
      rcases Nat.lt_or_eq_of_le h with h | rfl
      · have := hr.lt_of_lt hm hi h
        omega
      · cases hm.symm.trans hi
        exact hc
    omega
  | case3 lo hi h mid first last hm hc hc' ih =>
    -- a range at or before the middle ends before the code point
    rw [ih hs]
    refine exists₂_congr fun i r => and_congr_right fun hi => ?_
    have hle := hr.le_of_getElem? hi
    have hlt : i ≤ mid → r.2 < code := fun h => by
      rcases Nat.lt_or_eq_of_le h with h | rfl
      · have := hr.lt_of_lt hi hm h
        have := hr.le_of_getElem? hm
        omega
      · cases hm.symm.trans hi
        exact hc'
    omega
  | case4 lo hi h mid first last hm hc hc' =>
    exact iff_of_true rfl ⟨mid, _, hm, by omega, by omega, by omega, by omega⟩
  | case5 lo hi h =>
    refine iff_of_false nofun ?_
    rintro ⟨i, r, -, hl, hh, -⟩
    omega

/-- The members of a set are the code points in its ranges. -/
theorem contains_iff (h : Apart s.ranges.toList) :
    s.contains code ↔ ∃ r ∈ s.ranges.toList, r.1 ≤ code ∧ code ≤ r.2 := by
  rw [contains, search_iff h (Nat.le_refl _)]
  constructor
  · rintro ⟨i, r, hi, -, -, hc⟩
    exact ⟨r, Array.mem_toList_iff.mpr (Array.mem_of_getElem? hi), hc⟩
  · rintro ⟨r, hr, hc⟩
    obtain ⟨i, hi, rfl⟩ := Array.mem_iff_getElem.mp (Array.mem_toList_iff.mp hr)
    exact ⟨i, _, Array.getElem?_eq_getElem hi, Nat.zero_le _, hi, hc⟩

end CodeSet

/-! ## Characters -/

/-- The code points of white space. -/
def whiteSpace : List Nat :=
  [0x9, 0xA, 0xB, 0xC, 0xD, 0x20, 0x85, 0xA0, 0x1680, 0x2000, 0x2001, 0x2002, 0x2003, 0x2004, 0x2005,
    0x2006, 0x2007, 0x2008, 0x2009, 0x200A, 0x2028, 0x2029, 0x202F, 0x205F, 0x3000]

theorem isBlank_iff (c : Char) : isBlank c ↔ c.toNat ∈ whiteSpace := by
  have hr : blanks.ranges.toList = [(0x9, 0xD), (0x20, 0x20), (0x85, 0x85), (0xA0, 0xA0),
      (0x1680, 0x1680), (0x2000, 0x200A), (0x2028, 0x2029), (0x202F, 0x202F), (0x205F, 0x205F),
      (0x3000, 0x3000)] := by decide +kernel
  rw [isBlank, CodeSet.hasChar, CodeSet.contains_iff (by rw [hr]; exact ⟨by decide, by decide⟩), hr]
  simp only [whiteSpace, List.mem_cons, List.not_mem_nil, or_false, exists_eq_or_imp,
    exists_eq_left]
  omega

/-! ## Texts -/

/-- `core` is what is left of `s` without the white space at both ends. -/
def Trimmed (s core : List Char) : Prop :=
  ∃ before after, s = before ++ core ++ after ∧
    (∀ c ∈ before ++ after, c.toNat ∈ whiteSpace) ∧
    (∀ h : core ≠ [], (core.head h).toNat ∉ whiteSpace) ∧
    ∀ h : core ≠ [], (core.getLast h).toNat ∉ whiteSpace

variable {s core : List Char}

theorem trim_eq_rdropWhile (s : List Char) :
    trim s = (s.dropWhile isBlank).rdropWhile isBlank := rfl

theorem trimmed_trim (s : List Char) : Trimmed s (trim s) := by
  rw [trim_eq_rdropWhile]
  refine ⟨s.takeWhile isBlank, (s.dropWhile isBlank).rtakeWhile isBlank, ?_, fun c hc => ?_,
    fun h => ?_, fun h => ?_⟩
  · rw [List.append_assoc, List.rdropWhile_append_rtakeWhile, List.takeWhile_append_dropWhile]
  · rw [← isBlank_iff]
    rcases List.mem_append.mp hc with hc | hc
    · exact List.mem_takeWhile_imp hc
    · exact List.mem_rtakeWhile_imp hc
  · have hp := List.rdropWhile_prefix isBlank (s.dropWhile isBlank)
    rw [← isBlank_iff, hp.head h, List.head_dropWhile_not isBlank (hp.ne_nil h)]
    exact Bool.false_ne_true
  · rw [← isBlank_iff]
    exact List.rdropWhile_last_not isBlank _ h

theorem Trimmed.trim_eq (h : Trimmed s core) : trim s = core := by
  obtain ⟨before, after, rfl, hb, hh, hl⟩ := h
  simp only [← isBlank_iff, List.mem_append] at hb hh hl
  rw [trim_eq_rdropWhile, List.append_assoc,
    List.dropWhile_append_of_pos fun c hc => hb c (.inl hc)]
  cases core with
  | nil =>
    rw [List.nil_append, List.dropWhile_eq_nil_iff.mpr fun c hc => hb c (.inr hc),
      List.rdropWhile_nil]
  | cons c rest =>
    have hc := hh (List.cons_ne_nil c rest)
    rw [List.head_cons] at hc
    rw [List.cons_append, List.dropWhile_cons_of_neg hc, ← List.cons_append, List.rdropWhile,
      List.reverse_append, List.dropWhile_append_of_pos, ← List.rdropWhile]
    · exact List.rdropWhile_eq_self_iff.mpr hl
    · exact fun c hc => hb c (.inr (List.mem_reverse.mp hc))

end Readiness.Unicode
