import Mathlib.Algebra.GroupWithZero.Nat
import Readiness.Proofs.Action.Trace
import Readiness.Proofs.Strategy.Tree

/-! # Composites wait in sequence

A composite waits on its children one after another (`Strategy.turns`). `Strategy.wait_all_sequence`
says which of them have their turn, in which worlds, and what the composite makes of it. -/

namespace Readiness.Strategy

/-! ## Turns -/

/-- A child of a composite and the world in which the wait on it begins. -/
structure Turn where
  child : Strategy
  before : World

namespace Turn

/-- The world that the child leaves. -/
def after (t : Turn) : World := t.child.wait.after t.before

/-- The child succeeds. -/
def Succeeds (t : Turn) : Prop := t.child.wait.Succeeds t.before

def calls (t : Turn) : List Entry := t.child.wait.calls t.before

def took (t : Turn) : Nat := t.child.wait.took t.before

theorem journal_after (t : Turn) :
    t.after.journal.toList = t.before.journal.toList ++ t.calls :=
  (Timed.forward.wait t.child).journal_eq t.before

theorem now_after (t : Turn) : t.after.now = t.before.now + t.took :=
  (Timed.forward.wait t.child).now_eq t.before

end Turn

/-- The turns in `waitEach`. -/
def turnsFrom (mode : Mode) (ceiling : Duration) (started count : Nat) :
    Nat → List Strategy → World → List Turn
  | _, [], _ => []
  | index, child :: rest, w =>
    let place := place index count child.kind
    let v := (Wait.say .debug ("Waiting for " ++ place)).after w
    ⟨child, v⟩ ::
      match waitChild mode ceiling started place child.wait v with
      | .ok () u => turnsFrom mode ceiling started count (index + 1) rest u
      | .error _ _ => []

variable {mode : Mode} {ceiling : Duration} {started count index : Nat} {place : String}
  {child : Strategy} {children rest : List Strategy} {w v u : World}

/-! ## One child -/

theorem after_waitChild (x : Wait Unit) (w : World) :
    (waitChild mode ceiling started place x).after w = x.after w := by
  unfold Timed.after waitChild
  cases x w with
  | ok a v =>
    dsimp only
    cases reachesCeiling mode ceiling (.ofMillis (v.now - started)) <;> rfl
  | error e v => cases e <;> rfl

/-- The composite goes on if the child succeeds before the ceiling is reached. -/
theorem waitChild_eq_ok {x : Wait Unit} :
    waitChild mode ceiling started place x w = .ok () u ↔
      x w = .ok () u ∧ (mode = .maximum → .ofMillis (u.now - started) < ceiling) := by
  unfold waitChild
  cases x w with
  | ok a v =>
    dsimp only
    have hr : reachesCeiling mode ceiling (.ofMillis (v.now - started)) = true ↔
        ¬ (mode = .maximum → .ofMillis (v.now - started) < ceiling) := by
      unfold reachesCeiling
      rw [decide_eq_true_iff, Classical.not_imp, Duration.lt_def, Duration.le_def, Nat.not_lt]
    split
    · next h =>
      rw [hr] at h
      constructor
      · intro h'
        cases h'
      · rintro ⟨h', hl⟩
        cases h'
        exact absurd hl h
    · next h =>
      rw [hr, Classical.not_not] at h
      constructor
      · intro h'
        cases h'
        exact ⟨rfl, h⟩
      · rintro ⟨h', -⟩
        exact h'
  | error e v =>
    constructor
    · intro h
      cases e <;> cases h
    · rintro ⟨h, -⟩
      cases h

/-- The composite goes on after the turn: the child succeeds, and the ceiling is not reached. -/
def Turn.GoesOn (mode : Mode) (ceiling : Duration) (started : Nat) (t : Turn) : Prop :=
  t.Succeeds ∧ (mode = .maximum → .ofMillis (t.after.now - started) < ceiling)

theorem waitChild_cases (t : Turn) (place : String) :
    (t.GoesOn mode ceiling started ∧
      waitChild mode ceiling started place t.child.wait t.before = .ok () t.after) ∨
    (¬ t.GoesOn mode ceiling started ∧
      ∃ e, waitChild mode ceiling started place t.child.wait t.before = .error e t.after) := by
  have ha : (waitChild mode ceiling started place t.child.wait).after t.before = t.after :=
    after_waitChild _ _
  cases hc : waitChild mode ceiling started place t.child.wait t.before with
  | ok a u =>
    rw [Timed.after_of_ok hc] at ha
    subst ha
    obtain ⟨hx, hl⟩ := waitChild_eq_ok.mp hc
    exact .inl ⟨⟨⟨_, _, hx⟩, hl⟩, rfl⟩
  | error e u =>
    rw [Timed.after_of_error hc] at ha
    subst ha
    refine .inr ⟨?_, e, rfl⟩
    rintro ⟨⟨a, u', hx⟩, hl⟩
    have hu : t.after = u' := Timed.after_of_ok hx
    rw [← hu] at hx
    rw [waitChild_eq_ok.mpr ⟨hx, hl⟩] at hc
    cases hc

/-! ## Several children -/

/-- One turn, and what follows it. -/
theorem turnsFrom_cons (mode : Mode) (ceiling : Duration) (started count index : Nat)
    (child : Strategy) (rest : List Strategy) (w : World) : ∃ t : Turn,
    t.child = child ∧ w.Alike t.before ∧
    waitEach mode ceiling started count index (child :: rest) w =
      (waitChild mode ceiling started (Strategy.place index count t.child.kind) t.child.wait >>=
        fun _ => waitEach mode ceiling started count (index + 1) rest) t.before ∧
    ((t.GoesOn mode ceiling started ∧
        turnsFrom mode ceiling started count index (child :: rest) w =
          t :: turnsFrom mode ceiling started count (index + 1) rest t.after ∧
        waitEach mode ceiling started count index (child :: rest) w =
          waitEach mode ceiling started count (index + 1) rest t.after) ∨
      (¬ t.GoesOn mode ceiling started ∧
        turnsFrom mode ceiling started count index (child :: rest) w = [t] ∧
        ∃ e, waitEach mode ceiling started count index (child :: rest) w = .error e t.after)) := by
  let place := Strategy.place index count child.kind
  let t : Turn := ⟨child, (Wait.say .debug ("Waiting for " ++ place)).after w⟩
  have hw : waitEach mode ceiling started count index (child :: rest) w =
      (waitChild mode ceiling started place child.wait >>= fun _ =>
        waitEach mode ceiling started count (index + 1) rest) t.before := rfl
  have ht : turnsFrom mode ceiling started count index (child :: rest) w =
      t :: match waitChild mode ceiling started place child.wait t.before with
        | .ok () u => turnsFrom mode ceiling started count (index + 1) rest u
        | .error _ _ => [] := rfl
  refine ⟨t, rfl, rfl, hw, ?_⟩
  rw [hw, ht]
  rcases waitChild_cases t place with ⟨hg, hc⟩ | ⟨hg, e, hc⟩
  · refine .inl ⟨hg, ?_, Timed.bind_of_ok hc⟩
    rw [show waitChild mode ceiling started place child.wait t.before = _ from hc]
  · refine .inr ⟨hg, ?_, e, Timed.bind_of_error hc⟩
    rw [show waitChild mode ceiling started place child.wait t.before = _ from hc]

theorem turnsFrom_order :
    (turnsFrom mode ceiling started count index children w).map Turn.child <+: children := by
  induction children generalizing index w with
  | nil => exact List.prefix_rfl
  | cons child rest ih =>
    obtain ⟨t, rfl, -, -, ⟨-, ht, -⟩ | ⟨-, ht, -⟩⟩ :=
      turnsFrom_cons mode ceiling started count index child rest w
    · rw [ht, List.map_cons]
      exact List.prefix_cons_inj _ |>.mpr ih
    · rw [ht]
      exact ⟨rest, rfl⟩

theorem waitEach_journal :
    ((waitEach mode ceiling started count index children).after w).journal.toList =
      w.journal.toList ++
        (turnsFrom mode ceiling started count index children w).flatMap Turn.calls := by
  induction children generalizing index w with
  | nil => exact (List.append_nil _).symm
  | cons child rest ih =>
    obtain ⟨t, rfl, hb, -, ⟨-, ht, hw⟩ | ⟨-, ht, e, hw⟩⟩ :=
      turnsFrom_cons mode ceiling started count index child rest w
    · rw [Timed.after, hw, ← Timed.after, ih, ht, t.journal_after, hb.journal_eq,
        List.flatMap_cons, List.append_assoc]
    · rw [Timed.after_of_error hw, ht, t.journal_after, hb.journal_eq, List.flatMap_cons,
        List.flatMap_nil, List.append_nil]

theorem waitEach_now :
    ((waitEach mode ceiling started count index children).after w).now =
      w.now + ((turnsFrom mode ceiling started count index children w).map Turn.took).sum := by
  induction children generalizing index w with
  | nil => rfl
  | cons child rest ih =>
    obtain ⟨t, rfl, hb, -, ⟨-, ht, hw⟩ | ⟨-, ht, e, hw⟩⟩ :=
      turnsFrom_cons mode ceiling started count index child rest w
    · rw [Timed.after, hw, ← Timed.after, ih, ht, t.now_after, hb.now_eq, List.map_cons,
        List.sum_cons, Nat.add_assoc]
    · rw [Timed.after_of_error hw, ht, t.now_after, hb.now_eq, List.map_cons, List.map_nil,
        List.sum_cons, List.sum_nil, Nat.add_zero]

theorem turnsFrom_eq_nil_iff :
    turnsFrom mode ceiling started count index children w = [] ↔ children = [] := by
  cases children with
  | nil => exact ⟨fun _ => rfl, fun _ => rfl⟩
  | cons child rest => exact ⟨nofun, nofun⟩

theorem turnsFrom_first {t : Turn}
    (ht : (turnsFrom mode ceiling started count index children w)[0]? = some t) :
    w.Alike t.before := by
  cases children with
  | nil => cases ht
  | cons child rest =>
    obtain ⟨t₀, rfl, hb, -, ⟨-, hs, -⟩ | ⟨-, hs, -⟩⟩ :=
      turnsFrom_cons mode ceiling started count index child rest w
    · rw [hs] at ht
      cases ht
      exact hb
    · rw [hs] at ht
      cases ht
      exact hb

/-- A turn begins in the world that the turn before it leaves. -/
theorem turnsFrom_next {i : Nat} {t t' : Turn}
    (ht : (turnsFrom mode ceiling started count index children w)[i]? = some t)
    (ht' : (turnsFrom mode ceiling started count index children w)[i + 1]? = some t') :
    t.after.Alike t'.before := by
  induction children generalizing index w i with
  | nil => cases ht
  | cons child rest ih =>
    obtain ⟨t₀, rfl, -, -, ⟨-, hs, -⟩ | ⟨-, hs, -⟩⟩ :=
      turnsFrom_cons mode ceiling started count index child rest w
    · rw [hs] at ht ht'
      cases i with
      | zero =>
        cases ht
        exact turnsFrom_first ht'
      | succ i => exact ih ht ht'
    · rw [hs] at ht'
      cases ht'

/-- There is another turn exactly if there is another child and the composite goes on. -/
theorem turnsFrom_goesOn_iff {i : Nat} {t : Turn}
    (ht : (turnsFrom mode ceiling started count index children w)[i]? = some t) :
    i + 1 < (turnsFrom mode ceiling started count index children w).length ↔
      i + 1 < children.length ∧ t.GoesOn mode ceiling started := by
  induction children generalizing index w i with
  | nil => cases ht
  | cons child rest ih =>
    obtain ⟨t₀, rfl, -, -, ⟨hg, hs, -⟩ | ⟨hg, hs, -⟩⟩ :=
      turnsFrom_cons mode ceiling started count index child rest w
    · rw [hs] at ht ⊢
      cases i with
      | zero =>
        cases ht
        rw [List.length_cons, List.length_cons, Nat.add_lt_add_iff_right, Nat.add_lt_add_iff_right,
          List.length_pos_iff, List.length_pos_iff, ne_eq, ne_eq, turnsFrom_eq_nil_iff,
          and_iff_left hg]
      | succ i =>
        rw [List.length_cons, List.length_cons, Nat.add_lt_add_iff_right, Nat.add_lt_add_iff_right]
        exact ih ht
    · rw [hs] at ht ⊢
      cases i with
      | zero =>
        cases ht
        exact ⟨fun h => absurd h (Nat.lt_irrefl _), fun h => absurd h.2 hg⟩
      | succ i => cases ht

/-- The loop comes to every turn. -/
theorem turnsFrom_loop {i : Nat} {t : Turn}
    (ht : (turnsFrom mode ceiling started count index children w)[i]? = some t) :
    waitEach mode ceiling started count index children w =
      (waitChild mode ceiling started (Strategy.place (index + i) count t.child.kind)
          t.child.wait >>= fun _ =>
        waitEach mode ceiling started count (index + i + 1) (children.drop (i + 1))) t.before := by
  induction children generalizing index w i with
  | nil => cases ht
  | cons child rest ih =>
    obtain ⟨t₀, rfl, -, hw, ⟨-, hs, hn⟩ | ⟨-, hs, -⟩⟩ :=
      turnsFrom_cons mode ceiling started count index child rest w
    · rw [hs] at ht
      cases i with
      | zero =>
        cases ht
        exact hw
      | succ i =>
        rw [hn, ih ht, Nat.add_right_comm index 1 i, Nat.add_assoc index i 1, List.drop_succ_cons]
    · rw [hs] at ht
      cases i with
      | zero =>
        cases ht
        exact hw
      | succ i => cases ht

/-- The world that the last turn leaves is the world that all leave together. -/
theorem turnsFrom_last {t : Turn}
    (ht : (turnsFrom mode ceiling started count index children w).getLast? = some t) :
    (waitEach mode ceiling started count index children).after w = t.after := by
  induction children generalizing index w with
  | nil => cases ht
  | cons child rest ih =>
    obtain ⟨t₀, rfl, -, -, ⟨-, hs, hn⟩ | ⟨-, hs, e, hn⟩⟩ :=
      turnsFrom_cons mode ceiling started count index child rest w
    · rw [Timed.after, hn, ← Timed.after]
      rw [hs] at ht
      cases rest with
      | nil =>
        cases ht
        rfl
      | cons child' rest =>
        rw [List.getLast?_cons_of_ne_nil] at ht
        · exact ih ht
        · exact mt turnsFrom_eq_nil_iff.mp (List.cons_ne_nil _ _)
    · rw [hs] at ht
      cases ht
      exact Timed.after_of_error hn

/-! ## Success -/

/-- As time does not go back, the ceiling has to be looked at after the last child only. -/
theorem waitEach_succeeds_iff :
    (waitEach mode ceiling started count index children).Succeeds w ↔
      (forM children wait : Wait Unit).Succeeds w ∧ (mode = .maximum → children ≠ [] →
        .ofMillis (((forM children wait : Wait Unit).after w).now - started) < ceiling) := by
  induction children generalizing index w with
  | nil => exact ⟨fun h => ⟨h, fun _ h => absurd rfl h⟩, fun h => h.1⟩
  | cons child rest ih =>
    obtain ⟨t, rfl, hb, -, ⟨hg, -, hn⟩ | ⟨hg, -, e, hn⟩⟩ :=
      turnsFrom_cons mode ceiling started count index child rest w
    · obtain ⟨⟨_, _, hx⟩, hl⟩ := hg
      have hta : t.after = _ := Timed.after_of_ok hx
      rw [← hta] at hx
      obtain ⟨u, hu, hau⟩ := (Timed.logBlind.wait t.child).ok_alike hb.symm hx
      have hr := Timed.logBlind.forM rest
      have hf : (forM (t.child :: rest) wait : Wait Unit).Succeeds w ↔
          (forM rest wait : Wait Unit).Succeeds u := by
        unfold Timed.Succeeds
        rw [List.forM_cons, Timed.bind_of_ok hu]
      have ha : (forM (t.child :: rest) wait : Wait Unit).after w =
          (forM rest wait : Wait Unit).after u := by
        rw [List.forM_cons, Timed.after_bind_of_ok hu]
      rw [Timed.Succeeds, hn, ← Timed.Succeeds, ih, hr.succeeds_iff hau,
        (hr.after_alike hau).now_eq, hf, ha]
      refine and_congr_right fun _ => forall_congr' fun hm => ?_
      -- without further children the ceiling has been looked at for the last time
      cases rest with
      | nil =>
        refine ⟨fun _ _ => ?_, fun _ h => absurd rfl h⟩
        change Duration.ofMillis (u.now - started) < ceiling
        rw [← hau.now_eq]
        exact hl hm
      | cons child' rest => exact ⟨fun h _ => h nofun, fun h _ => h nofun⟩
    · constructor
      · rintro ⟨_, _, h⟩
        rw [hn] at h
        cases h
      · rintro ⟨⟨a, v, hv⟩, hl⟩
        -- what is below the ceiling at the end has been below it after this child
        refine absurd ?_ hg
        rw [Timed.after_of_ok hv] at hl
        rw [List.forM_cons] at hv
        obtain ⟨_, u, hu, hv⟩ := Timed.bind_eq_ok.mp hv
        obtain ⟨u', hu', hau⟩ := (Timed.logBlind.wait t.child).ok_alike hb hu
        refine ⟨⟨_, u', hu'⟩, fun hm => ?_⟩
        have hta : t.after = u' := Timed.after_of_ok hu'
        have hle := (Timed.forward.forM rest u).now_le
        rw [Timed.after_of_ok hv, hau.now_eq, ← hta] at hle
        refine Nat.lt_of_le_of_lt ?_ (hl hm nofun)
        exact Nat.mul_le_mul_right _ (Nat.sub_le_sub_right hle _)

/-! ## Composites -/

/-- The turns of a composite that begins in the given world. -/
def turns (mode : Mode) (ceiling : Duration) (children : List Strategy) (w : World) : List Turn :=
  turnsFrom mode ceiling w.now children.length 1 children
    ((Wait.say .info ("Waiting for " ++ toString children.length ++ " strategies (" ++ mode.name
      ++ ")")).after w)

/-- What a composite does after its first line. -/
theorem wait_all_apply (mode : Mode) (ceiling : Duration) (children : List Strategy) (w : World) :
    ∃ (line : String) (w₁ : World), w.Alike w₁ ∧
      turns mode ceiling children w =
        turnsFrom mode ceiling w.now children.length 1 children w₁ ∧
      (all mode ceiling none children).wait w =
        (waitEach mode ceiling w.now children.length 1 children >>= fun _ =>
          Wait.say .info line) w₁ := by
  refine ⟨_, _, ?_, rfl, rfl⟩
  exact w.alike_log _

/-- How a composite waits on its children. -/
structure Sequence (mode : Mode) (ceiling : Duration) (children : List Strategy) (w : World) :
    Prop where
  /-- The wait comes to every turn. -/
  loop : ∀ i t, (turns mode ceiling children w)[i]? = some t →
    ∃ rest, (all mode ceiling none children).wait w =
      (waitChild mode ceiling w.now (Strategy.place (i + 1) children.length t.child.kind)
        t.child.wait >>= rest) t.before
  /-- The children that have a turn are the first ones, in their order. -/
  order : (turns mode ceiling children w).map Turn.child <+: children
  starts_iff : turns mode ceiling children w = [] ↔ children = []
  /-- The first turn begins at once. -/
  first : ∀ t, (turns mode ceiling children w)[0]? = some t → w.Alike t.before
  /-- Every other turn begins in the world that the turn before it leaves. -/
  next : ∀ i t t', (turns mode ceiling children w)[i]? = some t →
    (turns mode ceiling children w)[i + 1]? = some t' → t.after.Alike t'.before
  /-- There is another turn exactly after a success below the ceiling. -/
  goes_on_iff : ∀ i t, (turns mode ceiling children w)[i]? = some t →
    (i + 1 < (turns mode ceiling children w).length ↔ i + 1 < children.length ∧
      t.Succeeds ∧ (mode = .maximum → .ofMillis (t.after.now - w.now) < ceiling))
  calls : (all mode ceiling none children).wait.calls w =
    (turns mode ceiling children w).flatMap Turn.calls
  took : (all mode ceiling none children).wait.took w =
    ((turns mode ceiling children w).map Turn.took).sum
  /-- The world that the last turn leaves is the world that the composite leaves. -/
  last : ∀ t, (turns mode ceiling children w).getLast? = some t →
    t.after.Alike ((all mode ceiling none children).wait.after w)

theorem after_wait_all {line : String} {w₁ : World} {n : Nat}
    (h : (all mode ceiling none children).wait w =
      (waitEach mode ceiling w.now n 1 children >>= fun _ => Wait.say .info line) w₁) :
    ((waitEach mode ceiling w.now n 1 children).after w₁).Alike
      ((all mode ceiling none children).wait.after w) := by
  rw [Timed.after, Timed.after, h, Timed.bind_apply]
  cases waitEach mode ceiling w.now n 1 children w₁ <;> exact rfl

theorem sequence (mode : Mode) (ceiling : Duration) (children : List Strategy) (w : World) :
    Sequence mode ceiling children w := by
  obtain ⟨line, w₁, hw, ht, ha⟩ := wait_all_apply mode ceiling children w
  have hv := after_wait_all ha
  constructor
  case loop =>
    rw [ht, ha]
    intro i t hi
    rw [Timed.bind_apply, turnsFrom_loop hi, ← Timed.bind_apply, bind_assoc, Nat.add_comm 1 i]
    exact ⟨_, rfl⟩
  case order =>
    rw [ht]
    exact turnsFrom_order
  case starts_iff =>
    rw [ht]
    exact turnsFrom_eq_nil_iff
  case first =>
    rw [ht]
    exact fun t h => hw.trans (turnsFrom_first h)
  case next =>
    rw [ht]
    exact fun _ _ _ h h' => turnsFrom_next h h'
  case goes_on_iff =>
    rw [ht]
    exact fun _ _ h => turnsFrom_goesOn_iff h
  case calls =>
    rw [Timed.calls, ← hv.journal_eq, waitEach_journal, hw.journal_eq, List.drop_left, ht]
  case took =>
    rw [Timed.took, ← hv.now_eq, waitEach_now, ← hw.now_eq, Nat.add_sub_cancel_left, ht]
  case last =>
    rw [ht]
    intro t h
    rw [← turnsFrom_last h]
    exact hv

theorem succeeds_all_iff (mode : Mode) (ceiling : Duration) (children : List Strategy) (w : World) :
    (all mode ceiling none children).wait.Succeeds w ↔
      (forM children wait : Wait Unit).Succeeds w ∧ (mode = .maximum → children ≠ [] →
        .ofMillis ((forM children wait : Wait Unit).took w) < ceiling) := by
  obtain ⟨line, w₁, hw, -, ha⟩ := wait_all_apply mode ceiling children w
  have hs : (all mode ceiling none children).wait.Succeeds w ↔
      (waitEach mode ceiling w.now children.length 1 children).Succeeds w₁ := by
    unfold Timed.Succeeds
    rw [ha]
    constructor
    · rintro ⟨_, _, h⟩
      obtain ⟨_, u, hu, -⟩ := Timed.bind_eq_ok.mp h
      exact ⟨_, u, hu⟩
    · rintro ⟨_, u, hu⟩
      rw [Timed.bind_of_ok hu]
      exact ⟨_, _, rfl⟩
  have hf := Timed.logBlind.forM children
  rw [hs, waitEach_succeeds_iff, ← hf.succeeds_iff hw, ← (hf.after_alike hw).now_eq]
  exact Iff.rfl

/-- A composite waits on its children one after another, and succeeds exactly if all of them do, in
mode `Mode.maximum` in less time than the ceiling. -/
theorem wait_all_sequence (mode : Mode) (ceiling : Duration) (children : List Strategy)
    (w : World) :
    Sequence mode ceiling children w ∧
      ((all mode ceiling none children).wait.Succeeds w ↔
        (forM children wait : Wait Unit).Succeeds w ∧ (mode = .maximum → children ≠ [] →
          .ofMillis ((forM children wait : Wait Unit).took w) < ceiling)) :=
  ⟨sequence mode ceiling children w, succeeds_all_iff mode ceiling children w⟩

end Readiness.Strategy
