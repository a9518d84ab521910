import Mathlib.Algebra.GroupWithZero.Nat
import Mathlib.Data.List.Induction
import Mathlib.Order.Bounds.Defs
import Readiness.Condition.LogMessage

/-! # Matches in output

The output is read again and again, and may have grown, shrunk or been written anew in between.
`MatchCount.account` is what a counter has made of the answers so far, and `MatchCount.accounted`
says what that is: the length of the longest output, and the matches in those parts of the outputs,
called fresh, that lie behind the longest output before them. -/

namespace Readiness

namespace Text

/-! ## Bytes of characters -/

/-- The bytes of some characters. -/
def bytes (s : List Char) : Nat := (String.ofList s).utf8ByteSize

@[simp] theorem bytes_nil : bytes [] = 0 := rfl

@[simp] theorem bytes_append (s t : List Char) : bytes (s ++ t) = bytes s + bytes t := by
  rw [bytes, String.ofList_append, String.utf8ByteSize_append, bytes, bytes]

@[simp] theorem bytes_cons (c : Char) (s : List Char) : bytes (c :: s) = c.utf8Size + bytes s := by
  have hc : bytes [c] = c.utf8Size := String.utf8ByteSize_singleton
  rw [← List.singleton_append, bytes_append, hc]

theorem bytes_toList (s : String) : bytes s.toList = s.utf8ByteSize := by
  rw [bytes, String.ofList_toList]

theorem bytes_eq_zero {s : List Char} : bytes s = 0 ↔ s = [] := by
  cases s with
  | nil => simp
  | cons c s =>
    have := c.utf8Size_pos
    simp
    omega

end Text

open Text

namespace MatchCount

variable {pattern : Pattern} {s t : List Char} {n : Nat}

/-! ## Where a search begins -/

theorem dropBytes_append (s t : List Char) : dropBytes (bytes s) (s ++ t) = t := by
  induction s with
  | nil => rw [bytes_nil, List.nil_append, dropBytes]
  | cons c s ih =>
    obtain ⟨m, hm⟩ := Nat.exists_eq_add_of_lt c.utf8Size_pos
    have hn : bytes (c :: s) = (c.utf8Size - 1 + bytes s) + 1 := by
      rw [bytes_cons]
      omega
    rw [hn, List.cons_append, dropBytes]
    have he : c.utf8Size - 1 + bytes s + 1 - c.utf8Size = bytes s := by omega
    rw [he, ih]

/-- What is dropped has at least `n` bytes, and no beginning of the text that has is shorter. -/
theorem dropBytes_spec (h : n ≤ bytes s) : ∃ p, s = p ++ dropBytes n s ∧ n ≤ bytes p ∧
    ∀ p' q, s = p' ++ q → n ≤ bytes p' → bytes p ≤ bytes p' := by
  induction s generalizing n with
  | nil =>
    obtain rfl : n = 0 := by simpa using h
    exact ⟨[], rfl, Nat.le_refl _, fun _ _ _ _ => Nat.zero_le _⟩
  | cons c s ih =>
    cases n with
    | zero => exact ⟨[], rfl, Nat.le_refl _, fun _ _ _ _ => Nat.zero_le _⟩
    | succ n =>
      rw [bytes_cons] at h
      obtain ⟨p, hs, hp, hl⟩ := ih (n := n + 1 - c.utf8Size) (by omega)
      refine ⟨c :: p, ?_, ?_, ?_⟩
      · rw [dropBytes, List.cons_append, ← hs]
      · rw [bytes_cons]
        omega
      · intro p' q he hn
        cases p' with
        | nil => simp at hn
        | cons c' p' =>
          obtain ⟨rfl, hq⟩ := List.cons.inj he
          rw [bytes_cons] at hn
          have := hl p' q hq (by omega)
          rw [bytes_cons, bytes_cons]
          omega

/-- The search begins at the first boundary of characters at or after the mark. -/
theorem isLeast_boundary {output : String} (h : n ≤ output.utf8ByteSize) :
    let fresh := dropBytes n output.toList
    let start := output.utf8ByteSize - bytes fresh
    IsLeast {b | n ≤ b ∧ String.Pos.Raw.IsValid output ⟨b⟩} start ∧
      start ≤ output.utf8ByteSize ∧
      ∃ before : String, output = before ++ String.ofList fresh ∧ before.utf8ByteSize = start := by
  intro fresh start
  rw [← bytes_toList] at h
  obtain ⟨p, hs, hp, hl⟩ := dropBytes_spec h
  have ho : output = String.ofList p ++ String.ofList fresh := by
    rw [← String.ofList_append, ← hs, String.ofList_toList]
  have hb : output.utf8ByteSize = bytes p + bytes fresh := by
    rw [← bytes_toList, hs, bytes_append]
  have hst : start = bytes p := by omega
  refine ⟨⟨⟨?_, ?_⟩, ?_⟩, Nat.sub_le .., String.ofList p, ho, hst.symm⟩
  · rwa [hst]
  · rw [String.Pos.Raw.isValid_iff_exists_append]
    exact ⟨String.ofList p, String.ofList fresh, ho, by rw [hst]; rfl⟩
  · rintro b ⟨hn, hv⟩
    obtain ⟨s₁, s₂, he, hb⟩ := String.Pos.Raw.isValid_iff_exists_append.mp hv
    have hb : b = bytes s₁.toList := by
      rw [bytes_toList]
      exact congrArg String.Pos.Raw.byteIdx hb
    rw [hst, hb]
    refine hl _ s₂.toList ?_ (by rwa [← hb])
    rw [he, String.toList_append]

end MatchCount

/-! ## Outputs that have been read -/

namespace Outputs

/-- The length in bytes of the longest output. -/
def longest (outputs : List String) : Nat := (outputs.map String.utf8ByteSize).foldl max 0

/-- The output that is read after `i` others. -/
def output (outputs : List String) (i : Nat) : String := outputs.getD i ""

/-- The length of the longest output that is read before the `i`-th. -/
def mark (outputs : List String) (i : Nat) : Nat := longest (outputs.take i)

/-- The numbers of the outputs that are longer than all before them. -/
def grown (outputs : List String) : List Nat :=
  (List.range outputs.length).filter fun i => mark outputs i < (output outputs i).utf8ByteSize

/-- What is searched of the `i`-th output if it is longer than all before it. -/
def fresh (outputs : List String) (i : Nat) : List Char :=
  MatchCount.dropBytes (mark outputs i) (output outputs i).toList

/-- Where the search of the `i`-th output begins. -/
def start (outputs : List String) (i : Nat) : Nat :=
  (output outputs i).utf8ByteSize - bytes (fresh outputs i)

variable {outputs : List String} {s : String} {i n : Nat}

theorem longest_append (outputs : List String) (s : String) :
    longest (outputs ++ [s]) = max (longest outputs) s.utf8ByteSize := by
  simp [longest]

theorem longest_lt_iff :
    longest outputs < n ↔ 0 < n ∧ ∀ t ∈ outputs, t.utf8ByteSize < n := by
  induction outputs using List.reverseRecOn with
  | nil => simp [longest]
  | append_singleton outputs s ih =>
    rw [longest_append, Nat.max_lt, ih]
    simp only [List.mem_append, List.mem_singleton]
    grind

theorem output_append_of_lt (h : i < outputs.length) (s : String) :
    output (outputs ++ [s]) i = output outputs i := by
  simp [output, List.getElem?_append_left h]

theorem mark_append_of_lt (h : i < outputs.length) (s : String) :
    mark (outputs ++ [s]) i = mark outputs i := by
  rw [mark, mark, List.take_append_of_le_length (Nat.le_of_lt h)]

theorem fresh_append_of_lt (h : i < outputs.length) (s : String) :
    fresh (outputs ++ [s]) i = fresh outputs i := by
  rw [fresh, fresh, mark_append_of_lt h, output_append_of_lt h]

theorem output_append_self (outputs : List String) (s : String) :
    output (outputs ++ [s]) outputs.length = s := by
  simp [output]

theorem mark_append_self (outputs : List String) (s : String) :
    mark (outputs ++ [s]) outputs.length = longest outputs := by
  rw [mark, List.take_left]

theorem grown_append (outputs : List String) (s : String) : grown (outputs ++ [s]) =
    grown outputs ++ if longest outputs < s.utf8ByteSize then [outputs.length] else [] := by
  have hf : (List.range outputs.length).filter (fun i =>
      mark (outputs ++ [s]) i < (output (outputs ++ [s]) i).utf8ByteSize) = grown outputs := by
    refine List.filter_congr fun i hi => ?_
    have hi := List.mem_range.mp hi
    rw [mark_append_of_lt hi, output_append_of_lt hi]
  rw [grown, List.length_append, List.length_singleton, List.range_succ, List.filter_append, hf]
  simp [List.filter_cons, mark_append_self, output_append_self]

/-- The parts of the outputs that are searched. -/
def pieces (outputs : List String) : List (List Char) := (grown outputs).map (fresh outputs)

theorem mem_grown : i ∈ grown outputs ↔
    ∃ s, outputs[i]? = some s ∧ s ≠ "" ∧ ∀ t ∈ outputs.take i, t.utf8ByteSize < s.utf8ByteSize := by
  unfold grown
  rw [List.mem_filter, List.mem_range, decide_eq_true_iff, mark, longest_lt_iff]
  have hz : ∀ s : String, 0 < s.utf8ByteSize ↔ s ≠ "" := by
    intro s
    rw [Nat.pos_iff_ne_zero, ne_eq, String.utf8ByteSize_eq_zero_iff]
  constructor
  · rintro ⟨hi, h0, h⟩
    refine ⟨output outputs i, ?_, (hz _).mp h0, h⟩
    simp [output, hi]
  · rintro ⟨s, hs, h0, h⟩
    obtain ⟨hi, rfl⟩ := List.getElem?_eq_some_iff.mp hs
    have ho : output outputs i = outputs[i] := by simp [output, hi]
    rw [ho]
    exact ⟨hi, (hz _).mpr h0, h⟩

theorem lt_length_of_mem_grown (h : i ∈ grown outputs) : i < outputs.length :=
  List.mem_range.mp (List.mem_filter.mp h).1

theorem mark_lt_of_mem_grown (h : i ∈ grown outputs) :
    mark outputs i < (output outputs i).utf8ByteSize :=
  of_decide_eq_true (List.mem_filter.mp h).2

theorem pieces_append (outputs : List String) (s : String) : pieces (outputs ++ [s]) =
    pieces outputs ++ if longest outputs < s.utf8ByteSize then
      [MatchCount.dropBytes (longest outputs) s.toList] else [] := by
  have hf : (grown outputs).map (fresh (outputs ++ [s])) = pieces outputs :=
    List.map_congr_left fun i hi => fresh_append_of_lt (lt_length_of_mem_grown hi) s
  rw [pieces, grown_append, List.map_append, hf]
  split
  · rw [List.map_singleton, fresh, mark_append_self, output_append_self]
  · rfl

/-- The counter knows the longest output and the matches in all pieces. -/
theorem foldl_scan (pattern : Pattern) (outputs : List String) :
    outputs.foldl (MatchCount.scan pattern) {} =
      ⟨longest outputs, ((pieces outputs).map pattern.count).sum⟩ := by
  induction outputs using List.reverseRecOn with
  | nil => rfl
  | append_singleton outputs s ih =>
    rw [List.foldl_append, ih, List.foldl_cons, List.foldl_nil, MatchCount.scan, pieces_append,
      longest_append]
    dsimp only
    split
    · next h =>
      rw [if_neg (Nat.not_lt.mpr h), List.append_nil, Nat.max_eq_left h]
    · next h =>
      have h := Nat.lt_of_not_le h
      simp [if_pos h, Nat.max_eq_right (Nat.le_of_lt h)]

/-! ## Places in the outputs -/

theorem start_spec (h : i ∈ grown outputs) :
    IsLeast {b | mark outputs i ≤ b ∧ String.Pos.Raw.IsValid (output outputs i) ⟨b⟩}
        (start outputs i) ∧
      start outputs i ≤ (output outputs i).utf8ByteSize ∧
      ∃ before : String, output outputs i = before ++ String.ofList (fresh outputs i) ∧
        before.utf8ByteSize = start outputs i :=
  MatchCount.isLeast_boundary (Nat.le_of_lt (mark_lt_of_mem_grown h))

theorem le_mark {j : Nat} (hij : i < j) (hj : j ≤ outputs.length) :
    (output outputs i).utf8ByteSize ≤ mark outputs j := by
  have hi : i < (outputs.take j).length := by
    rw [List.length_take]
    omega
  have hm : output outputs i ∈ outputs.take j := by
    have ho : output outputs i = (outputs.take j)[i] := by
      have hl : i < outputs.length := by omega
      simp [output, hl]
    rw [ho]
    exact List.getElem_mem hi
  have h : mark outputs j < mark outputs j + 1 := Nat.lt_succ_self _
  exact Nat.le_of_lt_succ ((longest_lt_iff.mp h).2 _ hm)

/-- What is searched at a read lies behind all that has been searched before. -/
theorem pairwise_grown (outputs : List String) : (grown outputs).Pairwise fun i j =>
    (output outputs i).utf8ByteSize ≤ start outputs j := by
  have hr : (grown outputs).Pairwise (· < ·) := List.pairwise_lt_range.filter _
  refine hr.imp_of_mem fun {i j} hi hj hij => ?_
  exact Nat.le_trans (le_mark hij (Nat.le_of_lt (lt_length_of_mem_grown hj))) (start_spec hj).1.1.1

/-! ## Output that is only added to -/

/-- Every output begins with those before it. -/
def Growing (outputs : List String) : Prop := outputs.Pairwise fun s t => s.toList <+: t.toList

/-- The last output, which is empty if none has been read. -/
def last (outputs : List String) : String := outputs.getLast?.getD ""

theorem last_append (outputs : List String) (s : String) : last (outputs ++ [s]) = s := by
  simp [last]

/-- The last output before another one, and the rest of it. -/
theorem growing_append (h : Growing (outputs ++ [s])) :
    Growing outputs ∧ ∃ rest, s.toList = (last outputs).toList ++ rest := by
  obtain ⟨h, -, hs⟩ := List.pairwise_append.mp h
  refine ⟨h, ?_⟩
  unfold last
  cases hl : outputs.getLast? with
  | none => exact ⟨s.toList, rfl⟩
  | some t =>
    obtain ⟨rest, hr⟩ := hs t (List.mem_of_getLast? hl) s List.mem_cons_self
    exact ⟨rest, hr.symm⟩

theorem longest_of_growing (h : Growing outputs) :
    longest outputs = bytes (last outputs).toList := by
  induction outputs using List.reverseRecOn with
  | nil => rfl
  | append_singleton outputs s ih =>
    obtain ⟨h, rest, hs⟩ := growing_append h
    rw [longest_append, last_append, ih h, ← bytes_toList, hs, bytes_append]
    omega

/-- Nothing is skipped of output that is only added to. -/
theorem flatten_pieces (h : Growing outputs) :
    (pieces outputs).flatten = (last outputs).toList := by
  induction outputs using List.reverseRecOn with
  | nil => rfl
  | append_singleton outputs s ih =>
    obtain ⟨h, rest, hs⟩ := growing_append h
    have hb : s.utf8ByteSize = longest outputs + bytes rest := by
      rw [longest_of_growing h, ← bytes_append, ← hs, bytes_toList]
    rw [pieces_append, List.flatten_append, ih h, last_append, hs]
    split
    · rw [longest_of_growing h, MatchCount.dropBytes_append, List.flatten_singleton]
    · have hr : bytes rest = 0 := by omega
      rw [bytes_eq_zero.mp hr, List.flatten_nil]

theorem start_of_growing (h : Growing outputs) (hi : i ∈ grown outputs) :
    start outputs i = mark outputs i := by
  have hl := lt_length_of_mem_grown hi
  have ht : outputs.take (i + 1) = outputs.take i ++ [output outputs i] := by
    rw [← List.take_append_getElem hl]
    simp [output, hl]
  have hg : Growing (outputs.take i ++ [output outputs i]) := by
    rw [← ht]
    exact h.sublist (List.take_sublist ..)
  obtain ⟨hg, rest, hr⟩ := growing_append hg
  have hm : mark outputs i = bytes (last (outputs.take i)).toList := longest_of_growing hg
  rw [start, fresh, ← bytes_toList, hr, hm, MatchCount.dropBytes_append, bytes_append]
  omega

end Outputs

namespace MatchCount

/-- One more read. Output that could not be read changes nothing. -/
def read (pattern : Pattern) (m : MatchCount) : Except TargetError String → MatchCount
  | .ok output => m.scan pattern output
  | .error _ => m

/-- What has been found after these answers to the question for the output. -/
def account (pattern : Pattern) (replies : List (Except TargetError String)) : MatchCount :=
  replies.foldl (read pattern) {}

/-- The outputs among the answers. -/
def outputs (replies : List (Except TargetError String)) : List String :=
  replies.filterMap Except.toOption

open Outputs

variable {pattern : Pattern} {replies : List (Except TargetError String)}

theorem account_eq (pattern : Pattern) (replies : List (Except TargetError String)) :
    account pattern replies = (outputs replies).foldl (scan pattern) {} := by
  unfold account outputs
  generalize ({} : MatchCount) = m
  induction replies generalizing m with
  | nil => rfl
  | cons reply rest ih =>
    rw [List.foldl_cons, ih]
    cases reply <;> rfl

theorem account_append (pattern : Pattern) (replies : List (Except TargetError String))
    (reply : Except TargetError String) :
    account pattern (replies ++ [reply]) = (account pattern replies).read pattern reply := by
  rw [account, List.foldl_append, List.foldl_cons, List.foldl_nil, ← account]

theorem total_le_read (pattern : Pattern) (m : MatchCount) (reply : Except TargetError String) :
    m.total ≤ (m.read pattern reply).total := by
  cases reply with
  | error e => exact Nat.le_refl _
  | ok output =>
    rw [read, scan]
    split
    · exact Nat.le_refl _
    · exact Nat.le_add_right ..

/-- What has been read is not longer than the longest output read. -/
theorem le_scanned_scan (pattern : Pattern) (m : MatchCount) (output : String) :
    output.utf8ByteSize ≤ (m.scan pattern output).scanned := by
  rw [scan]
  split
  · assumption
  · exact Nat.le_refl _

theorem read_eq_self (pattern : Pattern) (m : MatchCount) {reply : Except TargetError String}
    (h : ∀ output, reply = .ok output → output.utf8ByteSize ≤ m.scanned) :
    m.read pattern reply = m := by
  cases reply with
  | error e => rfl
  | ok output => rw [read, scan, if_pos (h output rfl)]

/-- What a counter has made of the answers to the question for the output. -/
structure Accounted (pattern : Pattern) (replies : List (Except TargetError String)) : Prop where
  scanned : (account pattern replies).scanned = longest (outputs replies)
  /-- The matches are those in the outputs that are longer than all before them, from the mark
  on. -/
  total : (account pattern replies).total =
    ((grown (outputs replies)).map fun i => pattern.count (fresh (outputs replies) i)).sum
  grown_iff : ∀ i, i ∈ grown (outputs replies) ↔ ∃ s, (outputs replies)[i]? = some s ∧ s ≠ "" ∧
    ∀ t ∈ (outputs replies).take i, t.utf8ByteSize < s.utf8ByteSize
  /-- A search begins at the first boundary of characters at or after the mark. -/
  boundary : ∀ i ∈ grown (outputs replies),
    IsLeast {b | mark (outputs replies) i ≤ b ∧
        String.Pos.Raw.IsValid (output (outputs replies) i) ⟨b⟩} (start (outputs replies) i) ∧
      start (outputs replies) i ≤ (output (outputs replies) i).utf8ByteSize ∧
      ∃ before : String, before.utf8ByteSize = start (outputs replies) i ∧
        output (outputs replies) i = before ++ String.ofList (fresh (outputs replies) i)
  /-- Each search begins where all before it have ended, or behind. -/
  disjoint : (grown (outputs replies)).Pairwise fun i j =>
    (output (outputs replies) i).utf8ByteSize ≤ start (outputs replies) j
  /-- Output that is only added to is searched as a whole. -/
  joined : Growing (outputs replies) →
    (∀ i ∈ grown (outputs replies), start (outputs replies) i = mark (outputs replies) i) ∧
      ((grown (outputs replies)).map (fresh (outputs replies))).flatten =
        (last (outputs replies)).toList
  /-- Output that cannot be read or is not longer changes nothing. -/
  unchanged : ∀ reply, (∀ output, reply = .ok output →
      output.utf8ByteSize ≤ (account pattern replies).scanned) →
    account pattern (replies ++ [reply]) = account pattern replies
  total_le : ∀ reply,
    (account pattern replies).total ≤ (account pattern (replies ++ [reply])).total

theorem accounted (pattern : Pattern) (replies : List (Except TargetError String)) :
    Accounted pattern replies := by
  have ha : account pattern replies = _ :=
    (account_eq pattern replies).trans (foldl_scan pattern (outputs replies))
  refine ⟨?_, ?_, fun _ => mem_grown, fun i hi => ?_, pairwise_grown _, fun hg => ?_, ?_, ?_⟩
  · rw [ha]
  · rw [ha, pieces, List.map_map]
    rfl
  · obtain ⟨hb, hl, before, ho, hs⟩ := start_spec hi
    exact ⟨hb, hl, before, hs, ho⟩
  · exact ⟨fun i hi => start_of_growing hg hi, flatten_pieces hg⟩
  · intro reply h
    rw [account_append, read_eq_self pattern _ h]
  · intro reply
    rw [account_append]
    exact total_le_read pattern _ reply

/-- The mark of the last output is inside of a character. -/
example : let outputs := ["ab", "", "aéb"]
    grown outputs = [0, 2] ∧ mark outputs 2 = 2 ∧ start outputs 2 = 3 ∧
      fresh outputs 2 = ['b'] := by
  decide +kernel

end MatchCount

end Readiness
