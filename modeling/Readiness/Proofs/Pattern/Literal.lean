import Mathlib.Algebra.GroupWithZero.Nat
import Mathlib.Data.List.Basic
import Readiness.Pattern.Basic

/-! # Literal patterns

A pattern none of whose characters has a meaning of its own stands for itself. It is read as a
sequence of literals (`read?_plain`), which takes one step a character (`ofNode_plain`), and it can
always be compiled unless it is too long (`compile_plain`). -/

namespace Readiness.Pattern

open Readiness.Unicode

/-! ## Reading -/

/-- Whether a character stands for itself outside of brackets. -/
def isPlain (c : Char) : Bool := !"\\.+*?()|[\x7b^$".toList.contains c

/-- The part of a pattern that stands for a character. -/
def plain (c : Char) : Expression := .literal ⟨c, false⟩

/-- A text without characters of meaning, which stands for itself. -/
structure IsLiteral (text : String) : Prop where
  nonempty : text ≠ ""
  plain : ∀ c ∈ text.toList, isPlain c

theorem isLiteral_iff {text : String} :
    IsLiteral text ↔ text ≠ "" ∧ text.toList.all isPlain :=
  ⟨fun h => ⟨h.nonempty, List.all_eq_true.mpr h.plain⟩,
    fun h => ⟨h.1, List.all_eq_true.mp h.2⟩⟩

instance (text : String) : Decidable (IsLiteral text) := decidable_of_iff _ isLiteral_iff.symm

example : IsLiteral "ready to serve" ∧ ¬ IsLiteral "a+b" ∧ ¬ IsLiteral "" := by decide

theorem IsLiteral.toList_ne_nil {text : String} (h : IsLiteral text) : text.toList ≠ [] := by
  simpa using h.nonempty

variable {c : Char} {s text : List Char} {nested : Reader Expression} {n : Nat} {d : Draft}
  {names : List (List Char)}

theorem ne_of_isPlain (hc : isPlain c) {c' : Char} (h : isPlain c' = false) : c ≠ c' := by
  rintro rfl
  rw [hc] at h
  cases h

theorem Reader.bind_of_some {α β : Type} {x : Reader α} {f : α → Reader β} {a : α} {i j : Input}
    (h : x i = some (a, j)) : (x >>= f) i = f a j := by
  change (x i).bind _ = _
  rw [h]
  rfl

theorem primitive_plain (hc : isPlain c) :
    primitive ⟨c :: s, false, names⟩ = some (plain c, ⟨s, false, names⟩) := by
  have ht : Reader.take ⟨c :: s, false, names⟩ = some (c, ⟨s, false, names⟩) := rfl
  unfold primitive
  rw [Reader.bind_of_some ht]
  -- Each character that is asked for has a meaning, which `c` has not.
  refine congrFun (g := (return plain c : Reader Expression)) ?_ _
  split
  all_goals first | rfl | exact absurd rfl (ne_of_isPlain hc (by decide))

theorem parts_plain (hc : isPlain c) :
    parts nested (n + 1) d ⟨c :: s, false, names⟩ =
      parts nested n (d.add (plain c)) ⟨s, false, names⟩ := by
  have hs : Reader.skip ⟨c :: s, false, names⟩ = some ((), ⟨c :: s, false, names⟩) := rfl
  have hr : Reader.rest ⟨c :: s, false, names⟩ = some (c :: s, ⟨c :: s, false, names⟩) := rfl
  rw [parts, Reader.bind_of_some hs, Reader.bind_of_some hr]
  refine (congrFun (g := (primitive >>= fun x => parts nested n (d.add x))) ?_ _).trans
    (Reader.bind_of_some (primitive_plain hc))
  split
  · next h => cases h
  all_goals first
    | rfl
    | next h => exact absurd (List.cons.inj h).1 (ne_of_isPlain hc rfl)

theorem parts_plains (ht : ∀ c ∈ text, isPlain c) (hn : text.length < n) :
    parts nested n d ⟨text, false, names⟩ =
      some ({ d with parts := (text.map plain).reverse ++ d.parts }.finish,
        ⟨[], false, names⟩) := by
  induction text generalizing n d with
  | nil =>
    obtain ⟨n, rfl⟩ : ∃ m, n = m + 1 := ⟨n - 1, (Nat.sub_add_cancel hn).symm⟩
    rfl
  | cons c s ih =>
    obtain ⟨n, rfl⟩ : ∃ m, n = m + 1 := ⟨n - 1, by omega⟩
    obtain ⟨hc, hs⟩ := List.forall_mem_cons.mp ht
    rw [parts_plain hc, ih hs (Nat.lt_of_succ_lt_succ hn), Draft.add]
    simp

theorem ofSequence_plain (c c' : Char) (s : List Char) :
    Expression.ofSequence ((c :: c' :: s).map plain) =
      .sequence (plain c) (.ofSequence ((c' :: s).map plain)) := rfl

@[simp] theorem depth_plain_self (c : Char) (joint : Option Expression.Joint) :
    (plain c).depth joint = 0 := rfl

theorem depth_plain (s : List Char) :
    (Expression.ofSequence (s.map plain)).depth (some .sequence) = 0 := by
  induction s with
  | nil => rfl
  | cons c s ih =>
    cases s with
    | nil => rfl
    | cons c' s =>
      rw [ofSequence_plain, Expression.depth, ih]
      rfl

theorem depth_le_nestLimit (s : List Char) :
    (Expression.ofSequence (s.map plain)).depth none ≤ nestLimit := by
  match s with
  | [] => exact Nat.zero_le _
  | [c] => exact Nat.zero_le _
  | c :: c' :: s =>
    rw [ofSequence_plain, Expression.depth, depth_plain, depth_plain_self]
    decide

/-- A plain text is read character by character. -/
theorem read?_plain (ht : ∀ c ∈ text, isPlain c) :
    Expression.read? text = some (.ofSequence (text.map plain)) := by
  have hp : parts (groupReader nestLimit) (text.length + 1) {} ⟨text, false, []⟩ = _ :=
    parts_plains ht (Nat.lt_succ_self text.length)
  have hf : ({ parts := (text.map plain).reverse ++ [] } : Draft).finish =
      .ofSequence (text.map plain) := by
    rw [List.append_nil]
    unfold Draft.finish Draft.bar
    rw [List.reverse_reverse]
    rfl
  unfold Expression.read?
  change (parts (groupReader nestLimit) (text.length + 1) {} ⟨text, false, []⟩).bind _ = _
  rw [hp, hf, Option.bind_some]
  dsimp only
  rw [if_pos]
  simp [depth_le_nestLimit]

/-! ## Meaning -/

/-- What a plain text looks for. -/
def plainNode : List Char → Node
  | [] => .empty
  | [c] => .one (CodeSet.single c.toNat)
  | c :: rest => .sequence (.one (CodeSet.single c.toNat)) (plainNode rest)

theorem plainNode_cons (c c' : Char) (s : List Char) : plainNode (c :: c' :: s) =
    .sequence (.one (CodeSet.single c.toNat)) (plainNode (c' :: s)) := rfl

theorem meaning_plain (s : List Char) :
    (Expression.ofSequence (s.map plain)).meaning usualFlags = .ok (plainNode s, usualFlags) := by
  induction s with
  | nil => rfl
  | cons c s ih =>
    cases s with
    | nil => rfl
    | cons c' s =>
      rw [ofSequence_plain, Expression.meaning]
      change ((Expression.ofSequence ((c' :: s).map plain)).meaning usualFlags >>= fun meant =>
        pure (Node.sequence (.one (CodeSet.single c.toNat)) meant.1, meant.2)) = _
      rw [ih]
      rfl

theorem length_utf8Bytes (c : Char) : (utf8Bytes c.toNat).length = c.utf8Size := by
  have h : ∀ a b : UInt32, a ≤ b ↔ a.toNat < b.toNat + 1 := fun a b => by
    rw [UInt32.le_iff_toNat_le, Nat.lt_succ_iff]
  unfold utf8Bytes Char.utf8Size
  simp only [h]
  change (if c.val.toNat < 0x80 then _ else if c.val.toNat < 0x800 then _ else
    if c.val.toNat < 0x10000 then _ else _ : List Nat).length =
      if c.val.toNat < 0x80 then _ else if c.val.toNat < 0x800 then _ else
        if c.val.toNat < 0x10000 then _ else _
  split_ifs <;> rfl

/-- A plain text takes the same room for each of its bytes. -/
theorem cost_plain (h : s ≠ []) : (plainNode s).cost = 32 * (s.map Char.utf8Size).sum := by
  induction s with
  | nil => exact absurd rfl h
  | cons c s ih =>
    have hone : (Node.one (CodeSet.single c.toNat)).cost = 32 * c.utf8Size := by
      rw [← length_utf8Bytes, Node.cost]
      exact if_pos rfl
    cases s with
    | nil => rw [plainNode, hone, List.map_singleton, List.sum_singleton]
    | cons c' s =>
      rw [plainNode_cons, Node.cost, hone, ih (List.cons_ne_nil _ _), ← Nat.mul_add,
        ← List.sum_cons, ← List.map_cons]

/-- A plain text is a pattern unless it is too long. -/
theorem compile_plain (h : text ≠ []) (ht : ∀ c ∈ text, isPlain c) :
    compile (String.ofList text) = if 32 * (text.map Char.utf8Size).sum ≤ Node.costLimit then
      .ok ⟨.ofNode (plainNode text)⟩ else .error .tooLarge := by
  unfold compile
  rw [String.toList_ofList, read?_plain ht]
  dsimp only
  rw [meaning_plain, ← cost_plain h]
  rfl

/-! ## Steps -/

/-- The steps that take the characters of a text, from place `n` on. -/
def spell (n : Nat) : List Char → List Step
  | [] => []
  | c :: s => .one (CodeSet.single c.toNat) (n + 1) :: spell (n + 1) s

theorem length_spell (n : Nat) (s : List Char) : (spell n s).length = s.length := by
  induction s generalizing n with
  | nil => rfl
  | cons c s ih => rw [spell, List.length_cons, ih, List.length_cons]

theorem getElem?_spell (n : Nat) (s : List Char) (i : Nat) : (spell n s)[i]? =
    s[i]?.map fun c => .one (CodeSet.single c.toNat) (n + i + 1) := by
  induction s generalizing n i with
  | nil => rfl
  | cons c s ih =>
    cases i with
    | zero => rfl
    | succ i =>
      rw [spell, List.getElem?_cons_succ, ih, List.getElem?_cons_succ, Nat.add_right_comm n 1 i,
        Nat.add_assoc n i 1]

theorem size_plain (h : s ≠ []) : (plainNode s).size = s.length := by
  induction s with
  | nil => exact absurd rfl h
  | cons c s ih =>
    cases s with
    | nil => rfl
    | cons c' s =>
      rw [plainNode_cons, Node.size, ih (List.cons_ne_nil _ _), Node.size, Nat.add_comm]
      rfl

theorem emit_plain (h : s ≠ []) (steps : Array Step) :
    ((plainNode s).emit (steps.size + s.length) steps).toList =
      steps.toList ++ spell steps.size s := by
  induction s generalizing steps with
  | nil => exact absurd rfl h
  | cons c s ih =>
    cases s with
    | nil => simp [plainNode, Node.emit, spell]
    | cons c' s =>
      have hn : steps.size + (c :: c' :: s).length =
          (steps.push (.one (CodeSet.single c.toNat) (steps.size + 1))).size +
            (c' :: s).length := by
        rw [Array.size_push, Nat.add_assoc, Nat.add_comm 1]
        rfl
      rw [plainNode_cons, Node.emit, Node.emit, Node.size, hn, ih (List.cons_ne_nil _ _),
        Array.toList_push, List.append_assoc, Array.size_push, spell]
      rfl

/-- The program takes the characters of a text one after the other. -/
structure Program.Spells (p : Program) (pat : List Char) : Prop where
  size : p.steps.size = pat.length + 1
  step? : ∀ i, p.step? i = if i = pat.length then some .accept else
    pat[i]?.map fun c => .one (CodeSet.single c.toNat) (i + 1)

theorem ofNode_plain (h : s ≠ []) : (Program.ofNode (plainNode s)).Spells s := by
  have hs : (Program.ofNode (plainNode s)).steps.toList = spell 0 s ++ [.accept] := by
    have he := emit_plain h #[]
    rw [Array.size_empty, Nat.zero_add, Array.toList_empty, List.nil_append] at he
    rw [Program.ofNode, Array.toList_push, size_plain h, he]
  have hl := length_spell 0 s
  refine ⟨?_, fun i => ?_⟩
  · rw [← Array.length_toList, hs, List.length_append, hl, List.length_singleton]
  · have hg := getElem?_spell 0 s i
    rw [Nat.zero_add] at hg
    rw [Program.step?, ← Array.getElem?_toList, hs]
    rcases Nat.lt_trichotomy i s.length with hi | rfl | hi
    · rw [if_neg (Nat.ne_of_lt hi), ← hg, List.getElem?_append_left (hl.symm ▸ hi)]
    · rw [if_pos rfl, ← hl, List.getElem?_concat_length]
    · have hn : (spell 0 s ++ [Step.accept]).length ≤ i := by
        rw [List.length_append, hl, List.length_singleton]
        exact hi
      rw [if_neg (Nat.ne_of_gt hi), List.getElem?_eq_none hn,
        List.getElem?_eq_none (Nat.le_of_lt hi), Option.map_none]

/-- The program of a literal pattern takes its characters one after the other. -/
theorem IsLiteral.spells {text : String} {pattern : Pattern} (h : IsLiteral text)
    (hc : compile text = .ok pattern) : pattern.program.Spells text.toList := by
  rw [← String.ofList_toList (s := text), compile_plain h.toList_ne_nil h.plain] at hc
  split at hc
  · cases hc
    exact ofNode_plain h.toList_ne_nil
  · cases hc

end Readiness.Pattern
