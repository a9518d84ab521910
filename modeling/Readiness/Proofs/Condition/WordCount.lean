import Readiness.Proofs.Condition.Cuts

/-! # Matches in a machine word

A text has at most one match more than it has bytes (`Pattern.count_le`). Since a search is only made
where the output has become longer, a counter never has more than twice as many matches as bytes that
it has scanned (`MatchCount.total_le_scan`). So a word of 64 bits holds the matches in outputs whose
lengths take 63 bits: a counter that is kept in such words, where sums wrap, does not differ from one
whose numbers have no limit (`MatchCount.never_wraps`). -/

namespace Readiness

open Text

theorem Text.length_le_bytes (s : List Char) : s.length ≤ bytes s := by
  induction s with
  | nil => exact Nat.le_refl 0
  | cons c s ih =>
    have hc := c.utf8Size_pos
    rw [List.length_cons, bytes_cons]
    omega

namespace Pattern

/-- Each match but one at the start, where no match has ended, goes with a character. -/
theorem countFrom_le (p : Program) (before : Option Char) (fresh : Bool) (s : List Char) :
    countFrom p before fresh s ≤ s.length + fresh.toNat := by
  fun_induction countFrom p before fresh s with
  | case1 before fresh s h => exact Nat.zero_le _
  | case2 before s h ih =>
    rw [Bool.toNat_false] at ih
    rw [Bool.toNat_true]
    omega
  | case3 before fresh => exact Nat.zero_le _
  | case4 before fresh hf c rest h ih =>
    rw [Bool.toNat_true] at ih
    exact Nat.le_trans ih (Nat.le_add_right ..)
  | case5 before fresh s n h hn hle ih =>
    rw [Bool.toNat_false, List.length_drop] at ih
    omega

theorem count_le (pattern : Pattern) (s : List Char) : pattern.count s ≤ bytes s + 1 :=
  Nat.le_trans (countFrom_le ..) (Nat.succ_le_succ (length_le_bytes s))

end Pattern

namespace MatchCount

variable {pattern : Pattern} {m : MatchCount} {s : List Char} {n : Nat} {outputs : List String}
  {output : String}

theorem bytes_dropBytes_le (h : n ≤ bytes s) : bytes (dropBytes n s) + n ≤ bytes s := by
  obtain ⟨p, hs, hp, -⟩ := dropBytes_spec h
  have hb := congrArg bytes hs
  rw [bytes_append] at hb
  omega

/-- One search adds at most two matches for each byte by which the output is longer. -/
theorem total_le_scan (h : m.total ≤ 2 * m.scanned) (output : String) :
    (m.scan pattern output).total ≤ 2 * (m.scan pattern output).scanned := by
  rw [scan]
  split
  · exact h
  · next hl =>
    have hb := bytes_toList output
    have hd : bytes (dropBytes m.scanned output.toList) + m.scanned ≤ bytes output.toList :=
      bytes_dropBytes_le (by omega)
    have hc := pattern.count_le (dropBytes m.scanned output.toList)
    dsimp only
    omega

theorem total_le_foldl (pattern : Pattern) (outputs : List String) :
    (outputs.foldl (scan pattern) {}).total ≤ 2 * (outputs.foldl (scan pattern) {}).scanned :=
  List.foldlRecOn (motive := fun m : MatchCount => m.total ≤ 2 * m.scanned) outputs _
    (Nat.le_refl 0) fun _ h output _ => total_le_scan h output

theorem total_lt_foldl (pattern : Pattern) (h : ∀ output ∈ outputs, output.utf8ByteSize < 2 ^ 63) :
    (outputs.foldl (scan pattern) {}).total < 2 ^ 64 := by
  have ht := total_le_foldl pattern outputs
  have hs : (outputs.foldl (scan pattern) {}).scanned < 2 ^ 63 := by
    rw [Outputs.foldl_scan]
    exact Outputs.longest_lt_iff.mpr ⟨by decide, h⟩
  omega

end MatchCount

/-- A counter that is kept in words of 64 bits. -/
structure WordCount where
  scanned : UInt64 := 0
  total : UInt64 := 0
deriving DecidableEq, Repr, Inhabited

namespace WordCount

/-- `MatchCount.scan` in words: a sum that is too large wraps. -/
def scan (pattern : Pattern) (m : WordCount) (output : String) : WordCount :=
  let length := UInt64.ofNat output.utf8ByteSize
  if length ≤ m.scanned then m
  else
    let found := pattern.count (MatchCount.dropBytes m.scanned.toNat output.toList)
    ⟨length, m.total + .ofNat found⟩

/-- The counter with numbers in place of words. -/
def toMatchCount (m : WordCount) : MatchCount := ⟨m.scanned.toNat, m.total.toNat⟩

variable {pattern : Pattern} {outputs : List String} {output : String}

theorem toMatchCount_scan (m : WordCount) (h : output.utf8ByteSize < 2 ^ 64)
    (ht : (m.toMatchCount.scan pattern output).total < 2 ^ 64) :
    (m.scan pattern output).toMatchCount = m.toMatchCount.scan pattern output := by
  have hl : (UInt64.ofNat output.utf8ByteSize).toNat = output.utf8ByteSize :=
    UInt64.toNat_ofNat_of_lt' h
  have hle : UInt64.ofNat output.utf8ByteSize ≤ m.scanned ↔
      output.utf8ByteSize ≤ m.toMatchCount.scanned := by
    rw [UInt64.le_iff_toNat_le, hl, toMatchCount]
  rw [MatchCount.scan] at ht ⊢
  rw [scan]
  by_cases hn : output.utf8ByteSize ≤ m.toMatchCount.scanned
  · rw [if_pos (hle.mpr hn), if_pos hn]
  · rw [if_neg hn] at ht
    have hf : (UInt64.ofNat (pattern.count
        (MatchCount.dropBytes m.scanned.toNat output.toList))).toNat = _ :=
      UInt64.toNat_ofNat_of_lt' (Nat.lt_of_le_of_lt (Nat.le_add_left ..) ht)
    rw [if_neg (mt hle.mp hn), if_neg hn, toMatchCount, hl, UInt64.toNat_add, hf]
    exact congrArg _ (Nat.mod_eq_of_lt ht)

theorem toMatchCount_foldl (pattern : Pattern)
    (h : ∀ output ∈ outputs, output.utf8ByteSize < 2 ^ 63) :
    (outputs.foldl (scan pattern) {}).toMatchCount =
      outputs.foldl (MatchCount.scan pattern) {} := by
  induction outputs using List.reverseRecOn with
  | nil => rfl
  | append_singleton outputs output ih =>
    have ht := MatchCount.total_lt_foldl pattern h
    have ih := ih fun t ht => h t (List.mem_append_left _ ht)
    have ho := h output (List.mem_append_right _ List.mem_cons_self)
    rw [List.foldl_append, List.foldl_cons, List.foldl_nil] at ht ⊢
    rw [List.foldl_append, List.foldl_cons, List.foldl_nil, ← ih]
    rw [← ih] at ht
    exact toMatchCount_scan _ (Nat.lt_trans ho (by decide)) ht

end WordCount

namespace MatchCount

open LogMessage

/-- However often the output is read, there are at most two matches for each byte scanned. So the
total of outputs whose lengths take 63 bits takes no more than 64, and is the same if it is kept in a
word. -/
theorem never_wraps (pattern : Pattern) :
    (∀ outputs : List String,
      let m := outputs.foldl (scan pattern) {}
      m.total ≤ 2 * m.scanned ∧
        ((∀ output ∈ outputs, output.utf8ByteSize < 2 ^ 63) →
          m.total < 2 ^ 64 ∧ (outputs.foldl (WordCount.scan pattern) {}).toMatchCount = m)) ∧
    ∀ (c : LogMessage) (text : String) (p : Poll) (w v : World) (k : Nat) (m : MatchCount),
      p.course (c.attempt text pattern) {} w k = some (m, v) →
        m = (outputs (w.target.logsReplies k)).foldl (scan pattern) {} := by
  refine ⟨fun outputs => ⟨total_le_foldl pattern outputs, fun h => ?_⟩, fun c text p w v k m h => ?_⟩
  · exact ⟨total_lt_foldl pattern h, WordCount.toMatchCount_foldl pattern h⟩
  · rw [(course_reads h).1, account_eq]

/-- Empty matches reach the bound. -/
theorem never_wraps_empty_matches :
    let outputs := ["a", "ab", "abc"]
    ∃ pattern, Pattern.compile "" = .ok pattern ∧
      let m := outputs.foldl (scan pattern) {}
      m.scanned = 3 ∧ m.total = 6 ∧ m.total < 2 ^ 64 ∧
        (outputs.foldl (WordCount.scan pattern) {}).toMatchCount = m := by
  intro outputs
  obtain ⟨pattern, hp, hc⟩ : ∃ pattern, Pattern.compile "" = .ok pattern ∧
      outputs.foldl (scan pattern) {} = ⟨3, 6⟩ := exists_pattern (by decide +kernel)
  obtain ⟨-, hw⟩ := (never_wraps pattern).1 outputs
  have hl : ∀ output ∈ outputs, output.utf8ByteSize < 2 ^ 63 := by decide +kernel
  have hs := congrArg MatchCount.scanned hc
  have ht := congrArg MatchCount.total hc
  exact ⟨pattern, hp, hs, ht, hw hl⟩

end MatchCount

end Readiness
