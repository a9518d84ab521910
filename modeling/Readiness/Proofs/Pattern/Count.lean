import Mathlib.Data.Nat.Find
import Readiness.Proofs.Pattern.Literal
import Readiness.Proofs.Text.Packing

/-! # Counting a literal pattern

The search for a literal pattern has read some characters and waits with the beginnings of the
pattern that these end with (`Program.Pending`). It ends at the first place where they end with the
pattern (`Program.Spells.firstEnd_eq_some`), so counting finds as many matches as there can be
without overlap (`IsLiteral.most_count`). -/

namespace Readiness.Pattern

open Readiness.Unicode Readiness.Text

theorem hasChar_single {a c : Char} : (CodeSet.single a.toNat).hasChar c ↔ a = c := by
  have hs : (CodeSet.single a.toNat).hasChar c = CodeSet.search #[(a.toNat, a.toNat)] c.toNat 0 1 :=
    rfl
  have hn (lo : Nat) : CodeSet.search #[(a.toNat, a.toNat)] c.toNat lo lo = false := by
    rw [CodeSet.search, dif_neg (Nat.lt_irrefl lo)]
  rw [hs, CodeSet.search, dif_pos Nat.zero_lt_one]
  change (if c.toNat < a.toNat then CodeSet.search _ _ 0 0 else
    if a.toNat < c.toNat then CodeSet.search _ _ 1 1 else true) = true ↔ _
  rw [hn, hn, ← Char.toNat_inj]
  split_ifs <;> simp <;> omega

namespace Program

variable {p : Program} {pat s u : List Char} {pending : List Nat} {before after : Option Char}
  {c : Char}

namespace Spells

/-! ## Steps that wait -/

theorem step?_length (h : p.Spells pat) : p.step? pat.length = some .accept := by
  rw [h.step?, if_pos rfl]

theorem step?_of_lt (h : p.Spells pat) {i : Nat} (hi : i < pat.length) :
    p.step? i = some (.one (CodeSet.single pat[i].toNat) (i + 1)) := by
  rw [h.step?, if_neg (Nat.ne_of_lt hi), List.getElem?_eq_getElem hi, Option.map_some]

/-- Every step waits, so nothing is reached but what is pending. -/
theorem waiting_follow (h : p.Spells pat) {fuel : Nat} {r : Reached}
    (hf : pending.length ≤ fuel) (hd : pending.Nodup) (hl : ∀ i ∈ pending, i ≤ pat.length)
    (hr : ∀ i ∈ pending, r.seen[i]? = some false) :
    (p.follow before after fuel pending r).waiting = pending.reverse ++ r.waiting := by
  induction pending generalizing fuel r with
  | nil => cases fuel <;> rfl
  | cons i pending ih =>
    obtain ⟨fuel, rfl⟩ : ∃ n, fuel = n + 1 := ⟨fuel - 1, by rw [List.length_cons] at hf; omega⟩
    obtain ⟨hi, hd⟩ := List.nodup_cons.mp hd
    have hnext := ih (r := ⟨r.seen.setIfInBounds i true, i :: r.waiting⟩)
      (Nat.le_of_succ_le_succ hf) hd (fun j hj => hl j (List.mem_cons_of_mem _ hj)) fun j hj => by
        have hij : i ≠ j := fun he => hi (he ▸ hj)
        rw [Array.getElem?_setIfInBounds_ne hij]
        exact hr j (List.mem_cons_of_mem _ hj)
    rw [List.reverse_cons, List.append_assoc, List.singleton_append, ← hnext, follow,
      hr i List.mem_cons_self]
    rcases Nat.lt_or_eq_of_le (hl i List.mem_cons_self) with hlt | rfl
    · rw [h.step?_of_lt hlt]
      rfl
    · rw [h.step?_length]
      rfl

theorem waiting_eq (h : p.Spells pat) (hs : pending.Pairwise (· > ·))
    (hl : ∀ i ∈ pending, i ≤ pat.length) : p.waiting before after pending = pending := by
  rw [waiting, h.waiting_follow (Nat.le_add_right ..) (hs.imp Nat.ne_of_gt) hl, List.append_nil,
    List.reverse_reverse]
  intro i hi
  have := hl i hi
  rw [Array.getElem?_replicate, if_pos (by rw [h.size]; omega)]

theorem cutAtAccept_of_lt (h : p.Spells pat) (hl : ∀ i ∈ pending, i < pat.length) :
    p.cutAtAccept pending = (pending, false) := by
  induction pending with
  | nil => rfl
  | cons i pending ih =>
    rw [cutAtAccept, h.step?_of_lt (hl i List.mem_cons_self),
      ih fun j hj => hl j (List.mem_cons_of_mem _ hj)]

theorem advance_eq (h : p.Spells pat) (hl : ∀ i ∈ pending, i < pat.length) :
    p.advance c pending = (pending.filter fun i => pat[i]? = some c).map (· + 1) := by
  induction pending with
  | nil => rfl
  | cons i pending ih =>
    have hi := hl i List.mem_cons_self
    have ih := ih fun j hj => hl j (List.mem_cons_of_mem _ hj)
    rw [advance, List.filterMap_cons, h.step?_of_lt hi, ← advance, ih, List.filter_cons,
      List.getElem?_eq_getElem hi]
    dsimp only
    by_cases hc : pat[i] = c
    · rw [if_pos (hasChar_single.mpr hc), if_pos (by rw [hc]; exact decide_eq_true rfl),
        List.map_cons]
    · rw [if_neg fun hs => hc (hasChar_single.mp hs), if_neg (by simpa using hc)]

end Spells

/-! ## Beginnings of the pattern -/

/-- After `u` has been read, those beginnings of the pattern are pending with which `u` ends, the
longest first. -/
structure Pending (pat u : List Char) (pending : List Nat) : Prop where
  sorted : pending.Pairwise (· > ·)
  mem_iff : ∀ i, i ∈ pending ↔ i ≤ pat.length ∧ pat.take i <:+ u

namespace Pending

theorem nil (hpat : pat ≠ []) : Pending pat [] [0] := by
  refine ⟨List.pairwise_singleton .., fun i => ?_⟩
  rw [List.mem_singleton, List.suffix_nil, List.take_eq_nil_iff]
  constructor
  · rintro rfl
    exact ⟨Nat.zero_le _, .inl rfl⟩
  · rintro ⟨-, hi | hi⟩
    · exact hi
    · exact absurd hi hpat

theorem le_length (h : Pending pat u pending) : ∀ i ∈ pending, i ≤ pat.length :=
  fun i hi => ((h.mem_iff i).mp hi).1

theorem mem_length (h : Pending pat u pending) : pat.length ∈ pending ↔ pat <:+ u := by
  rw [h.mem_iff, List.take_length, and_iff_right (Nat.le_refl _)]

theorem lt_length (h : Pending pat u pending) (hu : ¬ pat <:+ u) :
    ∀ i ∈ pending, i < pat.length := by
  intro i hi
  refine Nat.lt_of_le_of_ne (h.le_length i hi) fun he => hu (h.mem_length.mp ?_)
  rwa [← he]

/-- The whole pattern is preferred to its beginnings. -/
theorem eq_cons (h : Pending pat u pending) (hu : pat <:+ u) :
    ∃ rest, pending = pat.length :: rest := by
  have hm := h.mem_length.mpr hu
  cases pending with
  | nil => cases hm
  | cons i pending =>
    rcases List.mem_cons.mp hm with rfl | hm
    · exact ⟨pending, rfl⟩
    · have := (List.pairwise_cons.mp h.sorted).1 _ hm
      have := h.le_length i List.mem_cons_self
      omega

/-- A beginning ends what has been read if it is empty, or if it goes on with the last character
where one did before. -/
theorem take_suffix_concat {i : Nat} : (i ≤ pat.length ∧ pat.take i <:+ u ++ [c]) ↔
    i = 0 ∨ ∃ j, (j ≤ pat.length ∧ pat.take j <:+ u) ∧ pat[j]? = some c ∧ j + 1 = i := by
  cases i with
  | zero => simp
  | succ i =>
    have he : (i + 1 ≤ pat.length ∧ pat.take (i + 1) <:+ u ++ [c]) ↔
        (i ≤ pat.length ∧ pat.take i <:+ u) ∧ pat[i]? = some c := by
      by_cases hi : i < pat.length
      · have hl : [pat[i]].length = [c].length := rfl
        rw [List.take_succ_eq_append_getElem hi, List.suffix_append_inj_of_length_eq hl,
          List.getElem?_eq_getElem hi]
        simp [Nat.le_of_lt hi, Nat.succ_le_of_lt hi]
      · rw [List.getElem?_eq_none (Nat.le_of_not_lt hi)]
        exact iff_of_false (fun h => hi h.1) nofun
    rw [he]
    simp

theorem advance (h : Pending pat u pending) (hp : p.Spells pat) (hu : ¬ pat <:+ u) (c : Char) :
    Pending pat (u ++ [c]) (p.advance c pending ++ [0]) := by
  rw [hp.advance_eq (h.lt_length hu)]
  constructor
  · refine List.pairwise_append.mpr ⟨?_, List.pairwise_singleton .., fun i hi j hj => ?_⟩
    · exact List.pairwise_map.mpr ((h.sorted.filter _).imp Nat.succ_lt_succ)
    · obtain ⟨i, -, rfl⟩ := List.mem_map.mp hi
      cases List.mem_singleton.mp hj
      exact Nat.succ_pos i
  · intro i
    rw [take_suffix_concat, List.mem_append, List.mem_singleton, or_comm]
    refine or_congr_right ?_
    simp only [List.mem_map, List.mem_filter, decide_eq_true_eq, h.mem_iff, and_assoc]

end Pending

/-! ## The search -/

/-- Where what has been read ends with the pattern, the search ends too. -/
theorem Spells.scan_of_suffix (h : p.Spells pat) (hp : Pending pat u pending) (hu : pat <:+ u)
    {n : Nat} : p.scan before pending u.length none s = some n ↔
      IsLeast {m | u.length ≤ m ∧ pat <:+ (u ++ s).take m} n := by
  have hs : p.scan before pending u.length none s = some u.length := by
    obtain ⟨rest, rfl⟩ := hp.eq_cons hu
    cases s with
    | nil | cons =>
      rw [scan, h.waiting_eq hp.sorted hp.le_length, cutAtAccept, h.step?_length]
      rfl
  have hl : IsLeast {m | u.length ≤ m ∧ pat <:+ (u ++ s).take m} u.length :=
    ⟨⟨Nat.le_refl _, by rwa [List.take_left]⟩, fun _ hm => hm.1⟩
  rw [hs, Option.some_inj]
  exact ⟨fun he => he ▸ hl, fun hn => hl.unique hn⟩

theorem Spells.scan_nil (h : p.Spells pat) (hp : Pending pat u pending) (hu : ¬ pat <:+ u)
    (n : Nat) : p.scan before pending n none [] = none := by
  rw [scan, h.waiting_eq hp.sorted hp.le_length, h.cutAtAccept_of_lt (hp.lt_length hu)]
  rfl

theorem Spells.scan_cons (h : p.Spells pat) (hp : Pending pat u pending) (hu : ¬ pat <:+ u)
    (n : Nat) : p.scan before pending n none (c :: s) =
      p.scan (some c) (p.advance c pending ++ [0]) (n + 1) none s := by
  rw [scan, h.waiting_eq hp.sorted hp.le_length, h.cutAtAccept_of_lt (hp.lt_length hu)]
  exact if_neg (by simp)

/-- The search ends at the first place where what has been read ends with the pattern. -/
theorem Spells.scan_eq_some (h : p.Spells pat) (hp : Pending pat u pending) {n : Nat} :
    p.scan before pending u.length none s = some n ↔
      IsLeast {m | u.length ≤ m ∧ pat <:+ (u ++ s).take m} n := by
  induction s generalizing u pending before with
  | nil =>
    by_cases hu : pat <:+ u
    · exact h.scan_of_suffix hp hu
    · rw [h.scan_nil hp hu]
      refine iff_of_false nofun fun hn => hu ?_
      obtain ⟨hl, hn⟩ := hn.1
      rwa [List.append_nil, List.take_of_length_le hl] at hn
  | cons c s ih =>
    by_cases hu : pat <:+ u
    · exact h.scan_of_suffix hp hu
    · have hs : p.scan (some c) _ _ none s = some n ↔ _ := ih (hp.advance h hu c)
      rw [List.length_append, List.length_singleton, List.append_assoc, List.singleton_append] at hs
      have he : {m | u.length + 1 ≤ m ∧ pat <:+ (u ++ c :: s).take m} =
          {m | u.length ≤ m ∧ pat <:+ (u ++ c :: s).take m} := by
        ext m
        refine and_congr_left fun hm => ⟨Nat.le_of_succ_le, fun hl => ?_⟩
        refine Nat.lt_of_le_of_ne hl fun he => hu ?_
        rwa [← he, List.take_left] at hm
      rw [h.scan_cons hp hu, hs, he]

/-- The first match is the occurrence that ends first. -/
theorem Spells.firstEnd_eq_some (h : p.Spells pat) (hpat : pat ≠ []) {n : Nat} :
    p.firstEnd before s = some n ↔ IsLeast {m | pat <:+ s.take m} n := by
  have hs : p.firstEnd before s = some n ↔ _ := h.scan_eq_some (.nil hpat)
  simpa using hs

end Program

/-! ## Counting -/

variable {p : Program} {pat s : List Char} {before : Option Char} {fresh : Bool}

theorem suffix_take_of_occurs {q : Nat} (h : pat <+: s.drop q) :
    pat <:+ s.take (q + pat.length) := by
  rw [List.take_add, ← List.prefix_iff_eq_take.mp h]
  exact List.suffix_append ..

theorem countFrom_none (h : p.firstEnd before s = none) : countFrom p before fresh s = 0 := by
  rw [countFrom]
  split
  · rfl
  · next he => rw [h] at he; cases he

theorem countFrom_some {n : Nat} (h : p.firstEnd before s = some n) (hn : n ≠ 0) :
    countFrom p before fresh s = countFrom p s[n - 1]? false (s.drop n) + 1 := by
  rw [countFrom]
  split
  · next he => rw [h] at he; cases he
  · next he =>
    rw [h] at he
    cases he
    rw [dif_neg hn, Nat.add_comm]

/-- Counting finds as many occurrences as can be had without overlap. -/
theorem most_countFrom (h : p.Spells pat) (hpat : pat ≠ []) :
    Most pat s [] (countFrom p before fresh s) := by
  induction hl : s.length using Nat.strongRecOn generalizing s before fresh with
  | ind l ih =>
    cases he : p.firstEnd before s with
    | none =>
      rw [countFrom_none he]
      refine .zero fun q hq => ?_
      have hex : ∃ m, pat <:+ s.take m := ⟨_, suffix_take_of_occurs hq⟩
      have hn : p.firstEnd before s = some _ := (h.firstEnd_eq_some hpat).mpr
        ⟨Nat.find_spec hex, fun m hm => Nat.find_min' hex hm⟩
      rw [he] at hn
      cases hn
    | some n =>
      obtain ⟨⟨u, hu⟩, hmin⟩ := (h.firstEnd_eq_some hpat).mp he
      have hs : s = u ++ pat ++ s.drop n := by rw [hu, List.take_append_drop]
      have hn : n ≠ 0 := by
        rintro rfl
        exact hpat (List.append_eq_nil_iff.mp hu).2
      have hlen : (s.drop n).length < l := by
        have := List.length_pos_iff.mpr hpat
        have := congrArg List.length hs
        rw [List.length_append, List.length_append] at this
        omega
      have hf : ∀ q, pat <+: (u ++ pat ++ s.drop n).drop q → u.length ≤ q := by
        intro q hq
        rw [← hs] at hq
        have hle := hmin (suffix_take_of_occurs hq)
        have htake := congrArg List.length hu
        rw [List.length_append, List.length_take] at htake
        omega
      have hrest : Most pat (s.drop n) [] (countFrom p s[n - 1]? false (s.drop n)) := ih _ hlen rfl
      have hnext := hrest.next hpat hf
      rw [← hs] at hnext
      rw [countFrom_some he hn]
      exact hnext

/-- A literal pattern is counted as often as it occurs without overlap. -/
theorem IsLiteral.most_count {text : String} {pattern : Pattern} (h : IsLiteral text)
    (hc : compile text = .ok pattern) (s : List Char) :
    Most text.toList s [] (pattern.count s) :=
  most_countFrom (h.spells hc) h.toList_ne_nil

end Readiness.Pattern
