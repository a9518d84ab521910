import Mathlib.Data.List.Induction
import Mathlib.Data.Nat.Digits.Defs
import Readiness.Environment

/-! # Counts as texts

`Denotes` is the grammar of counts: one or more digits, which one plus sign may precede, for a number
that a word of 64 bits can hold. What is read as a count is exactly what this grammar admits
(`parseCount_eq_ok`), and `Faulty` tells apart the reasons why a text is refused
(`parseCount_eq_error`). -/

namespace Readiness

/-- The decimal digits. -/
def IsDigit (c : Char) : Prop := '0' ≤ c ∧ c ≤ '9'

instance (c : Char) : Decidable (IsDigit c) := inferInstanceAs (Decidable (_ ∧ _))

/-- The number that decimal digits stand for. -/
def decimal (digits : List Char) : Nat :=
  Nat.ofDigits 10 (digits.reverse.map fun c => c.toNat - '0'.toNat)

/-- The text `s` begins with some digits, which a plus sign may precede, and goes on with `rest`. -/
structure Begins (s digits rest : List Char) : Prop where
  eq : s = digits ++ rest ∨ s = '+' :: (digits ++ rest)
  ne_nil : digits ≠ []
  digits : ∀ c ∈ digits, IsDigit c

/-- The text `s` denotes the count `n`. -/
def Denotes (s : List Char) (n : Nat) : Prop :=
  ∃ digits, Begins s digits [] ∧ decimal digits = n ∧ n < 2 ^ 64

/-- The text `s` begins with digits for a number that is too large. -/
def Overflows (s : List Char) : Prop := ∃ digits rest, Begins s digits rest ∧ 2 ^ 64 ≤ decimal digits

/-- Why `s` denotes no count. -/
inductive Faulty (s : List Char) : CountFault → Prop
  | empty : s = [] → Faulty s .empty
  | tooLarge : Overflows s → Faulty s .tooLarge
  | digit : s ≠ [] → ¬ Overflows s → (∀ n, ¬ Denotes s n) → Faulty s .digit

variable {s digits rest : List Char} {c : Char} {n m : Nat} {fault : CountFault}

theorem isDigit_iff : c.isDigit ↔ IsDigit c := by
  rw [Char.isDigit, Bool.and_eq_true, decide_eq_true_iff, decide_eq_true_iff]
  exact Iff.rfl

theorem decimal_concat (digits : List Char) (c : Char) :
    decimal (digits ++ [c]) = decimal digits * 10 + (c.toNat - '0'.toNat) := by
  rw [decimal, List.reverse_append, List.reverse_singleton, List.singleton_append, List.map_cons,
    Nat.ofDigits_cons, ← decimal, Nat.add_comm, Nat.mul_comm]

/-- A number does not become smaller by further digits. -/
theorem decimal_le_append (digits rest : List Char) : decimal digits ≤ decimal (digits ++ rest) := by
  induction rest using List.reverseRecOn with
  | nil => rw [List.append_nil]
  | append_singleton rest c ih =>
    rw [← List.append_assoc, decimal_concat]
    omega

/-! ## Digits -/

theorem countDigits_cons (h : IsDigit c) (digits s : List Char) :
    countDigits (decimal digits) (c :: s) =
      if decimal (digits ++ [c]) < 2 ^ 64 then countDigits (decimal (digits ++ [c])) s
      else .error .tooLarge := by
  rw [countDigits, if_pos (isDigit_iff.mpr h), decimal_concat]
  rfl

theorem countDigits_cons_of_not (h : ¬ IsDigit c) (n : Nat) (s : List Char) :
    countDigits n (c :: s) = .error .digit := by
  rw [countDigits, if_neg (mt isDigit_iff.mp h)]

/-- Digits are read as the number that they stand for together with those before them. -/
theorem countDigits_eq_ok (hd : decimal digits < 2 ^ 64) :
    countDigits (decimal digits) s = .ok n ↔
      (∀ c ∈ s, IsDigit c) ∧ decimal (digits ++ s) = n ∧ n < 2 ^ 64 := by
  induction s generalizing digits with
  | nil =>
    rw [countDigits, List.append_nil, Except.ok.injEq]
    exact ⟨fun h => ⟨nofun, h, h ▸ hd⟩, fun h => h.2.1⟩
  | cons c s ih =>
    rw [List.forall_mem_cons, ← List.singleton_append, ← List.append_assoc]
    by_cases hc : IsDigit c
    · rw [List.singleton_append, countDigits_cons hc]
      have hle := decimal_le_append (digits ++ [c]) s
      split
      · next h => rw [ih h, and_iff_right hc]
      · exact iff_of_false nofun fun h => by omega
    · rw [List.singleton_append, countDigits_cons_of_not hc]
      exact iff_of_false nofun fun h => hc h.1.1

/-- If the digits before are not too large by themselves, some of those that follow belong to a
number that is. -/
theorem exists_cons_of_overflow {more : List Char} (hd : decimal digits < 2 ^ 64)
    (hl : 2 ^ 64 ≤ decimal (digits ++ more)) (hs : c :: s = more ++ rest) :
    ∃ more', more = c :: more' ∧ s = more' ++ rest := by
  refine (List.cons_eq_append_iff.mp hs).resolve_left ?_
  rintro ⟨rfl, -⟩
  rw [List.append_nil] at hl
  omega

/-- Reading stops where the number becomes too large. -/
theorem countDigits_eq_tooLarge (hd : decimal digits < 2 ^ 64) :
    countDigits (decimal digits) s = .error .tooLarge ↔
      ∃ more rest, s = more ++ rest ∧ (∀ c ∈ more, IsDigit c) ∧
        2 ^ 64 ≤ decimal (digits ++ more) := by
  induction s generalizing digits with
  | nil =>
    refine iff_of_false nofun ?_
    rintro ⟨more, rest, hs, -, hl⟩
    rw [(List.append_eq_nil_iff.mp hs.symm).1, List.append_nil] at hl
    omega
  | cons c s ih =>
    by_cases hc : IsDigit c
    · rw [countDigits_cons hc]
      split
      · next h =>
        rw [ih h]
        constructor
        · rintro ⟨more, rest, rfl, hm, hl⟩
          rw [List.append_assoc, List.singleton_append] at hl
          exact ⟨c :: more, rest, rfl, List.forall_mem_cons.mpr ⟨hc, hm⟩, hl⟩
        · rintro ⟨more, rest, hs, hm, hl⟩
          obtain ⟨more', rfl, ht⟩ := exists_cons_of_overflow hd hl hs
          rw [← List.singleton_append, ← List.append_assoc] at hl
          exact ⟨more', rest, ht, (List.forall_mem_cons.mp hm).2, hl⟩
      · next h =>
        exact iff_of_true rfl ⟨[c], s, rfl, List.forall_mem_singleton.mpr hc, Nat.le_of_not_lt h⟩
    · rw [countDigits_cons_of_not hc]
      refine iff_of_false nofun ?_
      rintro ⟨more, rest, hs, hm, hl⟩
      obtain ⟨more', rfl, -⟩ := exists_cons_of_overflow hd hl hs
      exact hc (hm c List.mem_cons_self)

theorem countDigits_ne_empty (n : Nat) (s : List Char) : countDigits n s ≠ .error .empty := by
  fun_induction countDigits n s with
  | case1 => nofun
  | case2 n c rest hc m hm ih => exact ih
  | case3 => nofun
  | case4 => nofun

/-! ## Counts -/

/-- A text without the plus sign with which it may begin. -/
def unsigned : List Char → List Char
  | '+' :: s => s
  | s => s

theorem begins_iff : Begins s digits rest ↔
    unsigned s = digits ++ rest ∧ digits ≠ [] ∧ ∀ c ∈ digits, IsDigit c := by
  have hplus : ¬ IsDigit '+' := by decide
  constructor
  · rintro ⟨rfl | rfl, hne, hd⟩
    · cases digits with
      | nil => exact absurd rfl hne
      | cons c digits =>
        refine ⟨?_, hne, hd⟩
        unfold unsigned
        split
        · next h =>
          cases h
          exact absurd (hd _ List.mem_cons_self) hplus
        · rfl
    · exact ⟨rfl, hne, hd⟩
  · rintro ⟨hs, hne, hd⟩
    refine ⟨?_, hne, hd⟩
    unfold unsigned at hs
    split at hs
    · exact .inr (congrArg _ hs)
    · exact .inl hs

theorem eq_of_unsigned_eq_nil (h : unsigned s = []) : s = [] ∨ s = ['+'] := by
  unfold unsigned at h
  split at h
  · exact .inr (congrArg _ h)
  · exact .inl h

theorem parseCount_of_unsigned (h : unsigned s ≠ []) :
    parseCount s = countDigits 0 (unsigned s) := by
  fun_cases parseCount s with
  | case1 => exact absurd rfl h
  | case2 => exact absurd rfl h
  | case3 => rfl
  | case4 s _ _ hp =>
    unfold unsigned
    split
    · exact (hp _ rfl).elim
    · rfl

theorem overflows_iff : Overflows s ↔ ∃ digits rest, unsigned s = digits ++ rest ∧
    (∀ c ∈ digits, IsDigit c) ∧ 2 ^ 64 ≤ decimal digits := by
  refine exists₂_congr fun digits rest => ?_
  rw [begins_iff, and_assoc, and_assoc]
  refine and_congr_right fun _ => and_iff_right_of_imp fun h => ?_
  rintro rfl
  exact absurd h.2 (by decide)

/-- A text is read as the count that it denotes. -/
theorem parseCount_eq_ok : parseCount s = .ok n ↔ Denotes s n := by
  have hd : Denotes s n ↔ unsigned s ≠ [] ∧ (∀ c ∈ unsigned s, IsDigit c) ∧
      decimal (unsigned s) = n ∧ n < 2 ^ 64 := by
    simp only [Denotes, begins_iff, List.append_nil]
    constructor
    · rintro ⟨digits, ⟨hs, hne, hd⟩, hn⟩
      exact hs ▸ ⟨hne, hd, hn⟩
    · rintro ⟨hne, hd, hn⟩
      exact ⟨_, ⟨rfl, hne, hd⟩, hn⟩
  rw [hd]
  by_cases hs : unsigned s = []
  · refine iff_of_false (fun h => ?_) fun h => h.1 hs
    obtain rfl | rfl := eq_of_unsigned_eq_nil hs
    · cases h
    · cases h
  · have hnil : decimal [] < 2 ^ 64 := by decide
    rw [parseCount_of_unsigned hs, and_iff_right hs]
    exact countDigits_eq_ok hnil

theorem toOption_parseCount : (parseCount s).toOption = some n ↔ Denotes s n := by
  rw [← parseCount_eq_ok]
  cases parseCount s with
  | ok m => rw [Except.toOption, Option.some.injEq, Except.ok.injEq]
  | error fault => exact iff_of_false nofun nofun

theorem parseCount_eq_tooLarge : parseCount s = .error .tooLarge ↔ Overflows s := by
  rw [overflows_iff]
  by_cases hs : unsigned s = []
  · refine iff_of_false (fun h => ?_) ?_
    · obtain rfl | rfl := eq_of_unsigned_eq_nil hs
      · cases h
      · cases h
    · rintro ⟨digits, rest, hd, -, hl⟩
      rw [hs] at hd
      rw [(List.append_eq_nil_iff.mp hd.symm).1] at hl
      exact absurd hl (by decide)
  · have hnil : decimal [] < 2 ^ 64 := by decide
    rw [parseCount_of_unsigned hs]
    exact countDigits_eq_tooLarge hnil

theorem parseCount_eq_empty : parseCount s = .error .empty ↔ s = [] := by
  refine ⟨fun h => ?_, fun h => h ▸ rfl⟩
  by_cases hs : unsigned s = []
  · refine (eq_of_unsigned_eq_nil hs).resolve_right ?_
    rintro rfl
    cases h
  · rw [parseCount_of_unsigned hs] at h
    exact absurd h (countDigits_ne_empty _ _)

/-- A text that denotes no count is refused, and for the right reason. -/
theorem parseCount_eq_error : parseCount s = .error fault ↔ Faulty s fault := by
  cases fault with
  | empty => exact parseCount_eq_empty.trans ⟨.empty, fun | .empty h => h⟩
  | tooLarge => exact parseCount_eq_tooLarge.trans ⟨.tooLarge, fun | .tooLarge h => h⟩
  | digit =>
    constructor
    · intro h
      refine .digit (fun hs => ?_) (fun ho => ?_) fun n hn => ?_
      · cases h.symm.trans (parseCount_eq_empty.mpr hs)
      · cases h.symm.trans (parseCount_eq_tooLarge.mpr ho)
      · cases h.symm.trans (parseCount_eq_ok.mpr hn)
    · intro h
      cases h with
      | digit hs ho hn =>
        cases hp : parseCount s with
        | ok n => exact absurd (parseCount_eq_ok.mp hp) (hn n)
        | error fault =>
          cases fault with
          | empty => exact absurd (parseCount_eq_empty.mp hp) hs
          | tooLarge => exact absurd (parseCount_eq_tooLarge.mp hp) ho
          | digit => rfl

end Readiness
