/-! Sets of 16-bit numbers, listed in ascending order.

`Ascending` serves for sets of ports and for sets of status codes. The order is part of the type, so
two sets with the same members are equal (`Ascending.ext_mem`), whatever order and repetitions they
were built from. -/

namespace Readiness

/-- A set of 16-bit numbers as its ascending list. -/
structure Ascending where
  toList : List UInt16
  sorted : toList.Pairwise (· < ·)
deriving Repr, DecidableEq

namespace Ascending

instance : Membership UInt16 Ascending := ⟨fun s n => n ∈ s.toList⟩

instance (n : UInt16) (s : Ascending) : Decidable (n ∈ s) :=
  inferInstanceAs (Decidable (n ∈ s.toList))

/-- The set without members. -/
def empty : Ascending := ⟨[], .nil⟩

instance : EmptyCollection Ascending := ⟨empty⟩
instance : Inhabited Ascending := ⟨empty⟩

def isEmpty (s : Ascending) : Bool := s.toList.isEmpty

@[simp] theorem not_mem_empty {n : UInt16} : n ∉ (∅ : Ascending) := List.not_mem_nil

theorem isEmpty_iff {s : Ascending} : s.isEmpty ↔ s = ∅ := by
  obtain ⟨l, h⟩ := s
  rw [isEmpty, List.isEmpty_iff]
  constructor
  · rintro rfl
    rfl
  · exact congrArg toList

/-- The least member. -/
def least? (s : Ascending) : Option UInt16 := s.toList.head?

/-- Puts `n` in its place unless it is there. -/
def place (n : UInt16) : List UInt16 → List UInt16
  | [] => [n]
  | m :: rest => if n < m then n :: m :: rest else if n = m then m :: rest else m :: place n rest

/-- Placing a number adds it and nothing else. -/
theorem mem_place {n a : UInt16} {l : List UInt16} : a ∈ place n l ↔ a = n ∨ a ∈ l := by
  induction l with
  | nil => simp [place]
  | cons m rest ih => simp only [place]; grind

/-- Placing a number keeps the order. -/
theorem pairwise_place {n : UInt16} {l : List UInt16} (h : l.Pairwise (· < ·)) :
    (place n l).Pairwise (· < ·) := by
  induction l with
  | nil => simp [place]
  | cons m rest ih =>
    obtain ⟨hm, hrest⟩ := List.pairwise_cons.1 h
    simp only [place]
    split
    · rename_i hlt
      refine List.pairwise_cons.2 ⟨fun a ha => ?_, h⟩
      rcases List.mem_cons.1 ha with rfl | ha
      · exact hlt
      · exact UInt16.lt_trans hlt (hm a ha)
    · split
      · exact h
      · rename_i hlt hne
        refine List.pairwise_cons.2 ⟨fun a ha => ?_, ih hrest⟩
        rcases mem_place.1 ha with rfl | ha
        · rcases UInt16.lt_or_lt_of_ne hne with h1 | h1
          · exact absurd h1 hlt
          · exact h1
        · exact hm a ha

/-- The set with one more member. -/
def insert (s : Ascending) (n : UInt16) : Ascending := ⟨place n s.toList, pairwise_place s.sorted⟩

def ofList (l : List UInt16) : Ascending := l.foldl insert empty

@[simp] theorem mem_insert {s : Ascending} {n a : UInt16} : a ∈ s.insert n ↔ a = n ∨ a ∈ s :=
  mem_place

/-- Inserting a list adds its members and nothing else. -/
theorem mem_foldl_insert {l : List UInt16} {s : Ascending} {a : UInt16} :
    a ∈ l.foldl insert s ↔ a ∈ l ∨ a ∈ s := by
  induction l generalizing s with
  | nil => simp
  | cons n l ih => rw [List.foldl_cons, ih, mem_insert, List.mem_cons]; grind

@[simp] theorem mem_ofList {l : List UInt16} {a : UInt16} : a ∈ ofList l ↔ a ∈ l := by
  rw [ofList, mem_foldl_insert]
  exact or_iff_left List.not_mem_nil

/-- An ascending list is determined by its members. -/
theorem eq_of_pairwise_lt {l m : List UInt16} (hl : l.Pairwise (· < ·)) (hm : m.Pairwise (· < ·))
    (h : ∀ a, a ∈ l ↔ a ∈ m) : l = m := by
  induction l generalizing m with
  | nil => cases m with
    | nil => rfl
    | cons b m => exact absurd ((h b).2 (List.mem_cons_self ..)) List.not_mem_nil
  | cons a l ih => cases m with
    | nil => exact absurd ((h a).1 (List.mem_cons_self ..)) List.not_mem_nil
    | cons b m =>
      obtain ⟨hal, hl'⟩ := List.pairwise_cons.1 hl
      obtain ⟨hbm, hm'⟩ := List.pairwise_cons.1 hm
      have hab : a = b := by
        rcases List.mem_cons.1 ((h a).1 (List.mem_cons_self ..)) with hab | hab
        · exact hab
        rcases List.mem_cons.1 ((h b).2 (List.mem_cons_self ..)) with hba | hba
        · exact hba.symm
        · exact absurd (UInt16.lt_trans (hbm a hab) (hal b hba)) (UInt16.lt_irrefl _)
      subst hab
      refine congrArg (a :: ·) (ih hl' hm' fun c => ⟨fun hc => ?_, fun hc => ?_⟩)
      · rcases List.mem_cons.1 ((h c).1 (List.mem_cons_of_mem _ hc)) with rfl | hc'
        · exact absurd (hal c hc) (UInt16.lt_irrefl _)
        · exact hc'
      · rcases List.mem_cons.1 ((h c).2 (List.mem_cons_of_mem _ hc)) with rfl | hc'
        · exact absurd (hbm c hc) (UInt16.lt_irrefl _)
        · exact hc'

/-- Sets with the same members are equal. -/
theorem ext_mem {s t : Ascending} (h : ∀ a, a ∈ s ↔ a ∈ t) : s = t := by
  obtain ⟨l, hl⟩ := s
  obtain ⟨m, hm⟩ := t
  exact Ascending.mk.injEq .. ▸ eq_of_pairwise_lt hl hm h

/-- The members with `separator` between them. -/
def text (separator : String) (s : Ascending) : String :=
  separator.intercalate (s.toList.map fun n => toString n.toNat)

end Ascending

end Readiness
