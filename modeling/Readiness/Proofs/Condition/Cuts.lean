import Readiness.Proofs.Condition.LogMessage
import Readiness.Proofs.Pattern.Count

/-! # Output that is cut by its reads

Each read of output that is only added to is searched from where the one before it ended. A match
that a read cuts is not found, so the matches found depend on when the reads happen: there are as
many as can be had at once without overlap and without a match that is cut
(`LogMessage.literal_counting`). -/

namespace Readiness

open Text Timed MatchCount Outputs

namespace Outputs

/-- Where the outputs end, counted in characters. -/
def cuts (outputs : List String) : List Nat := outputs.map fun output => output.toList.length

variable {outputs : List String} {s : String}

theorem cuts_append (outputs : List String) (s : String) :
    cuts (outputs ++ [s]) = cuts outputs ++ [s.toList.length] := List.map_append ..

theorem cuts_le (h : Growing outputs) :
    ∀ cut ∈ cuts outputs, cut ≤ (last outputs).toList.length := by
  induction outputs using List.reverseRecOn with
  | nil => nofun
  | append_singleton outputs s ih =>
    obtain ⟨h, rest, hs⟩ := growing_append h
    rw [cuts_append, last_append]
    intro cut hc
    rcases List.mem_append.mp hc with hc | hc
    · rw [hs, List.length_append]
      exact Nat.le_add_right_of_le (ih h cut hc)
    · exact Nat.le_of_eq (List.mem_singleton.mp hc)

theorem last_mem_cuts (outputs : List String) :
    (last outputs).toList = [] ∨ (last outputs).toList.length ∈ cuts outputs := by
  induction outputs using List.reverseRecOn with
  | nil => exact .inl rfl
  | append_singleton outputs s _ =>
    rw [last_append, cuts_append]
    exact .inr (List.mem_append_right _ List.mem_cons_self)

/-- One more read searches what has been added. -/
theorem sum_pieces_append {count : List Char → Nat} (h0 : count [] = 0) {rest : List Char}
    (h : Growing outputs) (hs : s.toList = (last outputs).toList ++ rest) :
    ((pieces (outputs ++ [s])).map count).sum = ((pieces outputs).map count).sum + count rest := by
  have hb : s.utf8ByteSize = longest outputs + bytes rest := by
    rw [longest_of_growing h, ← bytes_append, ← hs, bytes_toList]
  rw [pieces_append, List.map_append, List.sum_append, longest_of_growing h, hs, dropBytes_append,
    ← longest_of_growing h]
  split
  · rw [List.map_singleton, List.sum_singleton]
  · have hr : bytes rest = 0 := by omega
    rw [bytes_eq_zero.mp hr, h0]
    rfl

end Outputs

namespace MatchCount

variable {text : String} {pattern : Pattern}

/-- The matches found lie apart, none of them is cut, and there are no more of these. -/
theorem most_account (hl : Pattern.IsLiteral text) (hc : Pattern.compile text = .ok pattern)
    {replies : List (Except TargetError String)} (hg : Growing (outputs replies)) :
    Most text.toList (last (outputs replies)).toList (cuts (outputs replies))
      (account pattern replies).total := by
  rw [account_eq, foldl_scan]
  generalize outputs replies = outputs at hg
  have hcount := hl.most_count hc
  have hne := hl.toList_ne_nil
  induction outputs using List.reverseRecOn with
  | nil => exact .empty hne _
  | append_singleton outputs s ih =>
    obtain ⟨h, rest, hs⟩ := growing_append hg
    have h0 : pattern.count [] = 0 := (hcount []).unique (.empty hne _)
    dsimp only
    rw [sum_pieces_append h0 h hs, last_append, cuts_append, hs]
    exact ((ih h).append hne (cuts_le h) (last_mem_cuts outputs) (hcount rest)).cut_end hne

/-- What a counter finds of a literal pattern in output that is only added to. -/
structure Counted (text : String) (pattern : Pattern) (replies : List (Except TargetError String)) :
    Prop where
  /-- The matches in the whole output. -/
  whole : Most text.toList (last (outputs replies)).toList []
    (pattern.count (last (outputs replies)).toList)
  /-- Of these the counter finds as many as no read cuts. -/
  total : Most text.toList (last (outputs replies)).toList (cuts (outputs replies))
    (account pattern replies).total
  total_le : (account pattern replies).total ≤ pattern.count (last (outputs replies)).toList
  /-- All are found where no read has to cut one. -/
  total_eq_iff : (account pattern replies).total = pattern.count (last (outputs replies)).toList ↔
    ∃ places, Packing text.toList (last (outputs replies)).toList (cuts (outputs replies)) places ∧
      places.length = pattern.count (last (outputs replies)).toList

theorem counted (hl : Pattern.IsLiteral text) (hc : Pattern.compile text = .ok pattern)
    {replies : List (Except TargetError String)} (hg : Growing (outputs replies)) :
    Counted text pattern replies := by
  have hw := hl.most_count hc (last (outputs replies)).toList
  have ht := most_account hl hc hg
  have hle := ht.le_uncut hw
  refine ⟨hw, ht, hle, fun he => ?_, fun ⟨places, hp, he⟩ => ?_⟩
  · rw [← he]
    exact ht.exists_packing
  · exact Nat.le_antisymm hle (he ▸ ht.length_le hp)

end MatchCount

namespace LogMessage

variable {c : LogMessage} {text : String} {pattern : Pattern}

theorem compile_eq_ok : c.compile = .ok (text, pattern) ↔
    c.pattern = some text ∧ Pattern.compile text = .ok pattern := by
  unfold compile
  cases c.pattern with
  | none => exact iff_of_false nofun nofun
  | some text' =>
    dsimp only
    cases h : Pattern.compile text' with
    | error fault =>
      refine iff_of_false nofun ?_
      rintro ⟨⟨⟩, h'⟩
      rw [h] at h'
      cases h'
    | ok pattern' =>
      constructor
      · rintro ⟨⟩
        exact ⟨rfl, h⟩
      · rintro ⟨⟨⟩, h'⟩
        rw [h] at h'
        cases h'
        rfl

/-- A pattern can be compiled to see what becomes of it. -/
theorem exists_pattern {α : Type} {f : Pattern → α} {a : α}
    (h : (Pattern.compile text).toOption.map f = some a) :
    ∃ pattern, Pattern.compile text = .ok pattern ∧ f pattern = a := by
  cases hp : Pattern.compile text with
  | error fault =>
    rw [hp] at h
    cases h
  | ok pattern =>
    rw [hp] at h
    exact ⟨pattern, rfl, Option.some.inj h⟩

theorem total_mono (pattern : Pattern) (t : Target) :
    Monotone fun n => (account pattern (t.logsReplies n)).total := by
  refine monotone_nat_of_le_succ fun n => ?_
  rw [Target.logsReplies_succ, account_append]
  exact total_le_read ..

/-- There are enough matches that lie apart and that no read has cut. -/
def EnoughUncut (c : LogMessage) (text : String) (outputs : List String) : Prop :=
  ∃ places, Packing text.toList (last outputs).toList (cuts outputs) places ∧
    c.times ≤ places.length

theorem enoughUncut_iff (hl : Pattern.IsLiteral text) (hc : Pattern.compile text = .ok pattern)
    {replies : List (Except TargetError String)} (hg : Growing (outputs replies)) :
    c.EnoughUncut text (outputs replies) ↔ c.times ≤ (account pattern replies).total := by
  have ht := most_account hl hc hg
  constructor
  · rintro ⟨places, hp, hn⟩
    exact Nat.le_trans hn (ht.length_le hp)
  · intro hn
    obtain ⟨places, hp, he⟩ := ht.exists_packing
    exact ⟨places, hp, he ▸ hn⟩

/-- A counter finds those matches of a literal pattern that no read of the output cuts, and the wait
is ready when there are enough of these. -/
theorem literal_counting (hl : Pattern.IsLiteral text) (h : c.compile = .ok (text, pattern)) :
    (∀ replies, Growing (outputs replies) → Counted text pattern replies) ∧
    ∀ (w : World) (n : Nat), (w.target.logsReply n).isOk →
      Growing (outputs (w.target.logsReplies (n + 1))) →
      (c.EnoughUncut text (outputs (w.target.logsReplies (n + 1))) →
        ∃ k ≤ n, (c.wait.calls w).map Entry.call = List.replicate (k + 1) .logs ∧
          c.Verdict text pattern w.target k (c.wait w) ∧ (k = n → c.wait.Succeeds w)) ∧
      (¬ c.EnoughUncut text (outputs (w.target.logsReplies (n + 1))) →
        (c.wait.calls w).length ≤ n + 1 → ¬ c.wait.Succeeds w) := by
  have hc := (compile_eq_ok.mp h).2
  refine ⟨fun replies hg => counted hl hc hg, fun w n ho hg => ?_⟩
  rw [enoughUncut_iff hl hc hg]
  obtain ⟨k, hk, hn, hv⟩ := wait_verdict h w
  constructor
  · intro ht
    have hen : c.Enough pattern w.target n := by
      refine ⟨?_, ht⟩
      cases hr : w.target.logsReply n with
      | ok output => exact ⟨output, rfl⟩
      | error e =>
        rw [hr] at ho
        cases ho
    refine ⟨k, Nat.le_of_not_lt fun hlt => hn n hlt hen, hk, hv, ?_⟩
    rintro rfl
    unfold Succeeds
    generalize c.wait w = x at hv ⊢
    cases hv with
    | ready => exact ⟨_, _, rfl⟩
    | late he | unsupported he => exact absurd hen he
    | endless he => exact absurd hen (he k)
  · rintro ht hlen ⟨_, v, hs⟩
    rw [← List.length_map Entry.call, hk, List.length_replicate] at hlen
    rw [hs] at hv
    cases hv with
    | ready he => exact ht (Nat.le_trans he.2 (total_mono pattern w.target hlen))

/-- Of the first match a read has only seen the beginning. -/
theorem literal_counting_cut :
    let c : LogMessage := { pattern := some "ready", pace := ⟨.ofSecs 1, .ofMillis 1⟩ }
    let replies := ["rea", "ready", "ready ready"].map .ok
    let w : World := { target := { logs := ⟨replies.map fun answer => { answer }⟩ } }
    ∃ pattern, c.compile = .ok ("ready", pattern) ∧ Counted "ready" pattern replies ∧
      ((c.wait.calls w).length ≤ 2 → ¬ c.wait.Succeeds w) ∧
      ∃ k ≤ 2, (c.wait.calls w).map Entry.call = List.replicate (k + 1) .logs ∧
        c.Verdict "ready" pattern w.target k (c.wait w) ∧ (k = 2 → c.wait.Succeeds w) := by
  intro c replies w
  have hl : Pattern.IsLiteral "ready" := by decide
  obtain ⟨pattern, hp, ht⟩ : ∃ pattern, Pattern.compile "ready" = .ok pattern ∧
      (account pattern (replies.take 2)).total = 0 := exists_pattern (by decide +kernel)
  have hc : c.compile = .ok ("ready", pattern) := compile_eq_ok.mpr ⟨rfl, hp⟩
  have hg : ∀ n, n ≤ 3 → Growing (outputs (replies.take n)) := by
    unfold Growing
    decide
  obtain ⟨hcount, hwait⟩ := literal_counting hl hc
  refine ⟨pattern, hc, hcount _ (hg 3 (Nat.le_refl _)), ?_, ?_⟩
  · have hless : ¬ c.times ≤ (account pattern (replies.take 2)).total := by
      rw [ht]
      exact Nat.not_succ_le_zero 0
    exact (hwait w 1 rfl (hg 2 (by decide))).2
      fun he => hless ((enoughUncut_iff hl hp (hg 2 (by decide))).mp he)
  · exact (hwait w 2 rfl (hg 3 (Nat.le_refl _))).1
      ⟨[6], ⟨by decide, by decide, by decide⟩, Nat.le_refl _⟩

/-- A match is not found if a read ends inside of it. -/
theorem cut_match_uncounted :
    ¬ ∀ (text : String) (pattern : Pattern), Pattern.IsLiteral text →
      Pattern.compile text = .ok pattern → ∀ outputs : List String, Growing outputs →
        (account pattern (outputs.map .ok)).total = pattern.count (last outputs).toList := by
  intro h
  obtain ⟨pattern, hp, hc⟩ : ∃ pattern, Pattern.compile "ready" = .ok pattern ∧
      ((account pattern [.ok "rea", .ok "ready"]).total, pattern.count "ready".toList) = (0, 1) :=
    exists_pattern (by decide +kernel)
  obtain ⟨h₀, h₁⟩ := Prod.mk.inj hc
  have hg : Growing ["rea", "ready"] := by
    unfold Growing
    decide
  have ht := h "ready" pattern (by decide) hp ["rea", "ready"] hg
  cases h₀.symm.trans (ht.trans h₁)

end LogMessage

end Readiness
