import Mathlib.Data.List.Infix
import Mathlib.Order.Bounds.Basic

/-! # Occurrences that share nothing

The occurrences of a pattern in a text may overlap, and a text may be cut inside of one. A `Packing`
keeps clear of both, and `Most` is the size of the largest. To take the first occurrence and go on
behind it gives a largest packing (`Most.next`), and where a text is cut, those of its parts are one
together (`Most.append`). -/

namespace Readiness.Text

variable {α : Type} {pat s t : List α} {cuts places : List Nat} {m n p : Nat}

/-- Places at which a pattern occurs in a text, from front to back. -/
structure Packing (pat s : List α) (cuts places : List Nat) : Prop where
  occurs : ∀ p ∈ places, pat <+: s.drop p
  /-- No two occurrences share an element. -/
  apart : places.Pairwise fun p q => p + pat.length ≤ q
  /-- No cut falls inside of an occurrence. -/
  uncut : ∀ p ∈ places, ∀ cut ∈ cuts, cut ≤ p ∨ p + pat.length ≤ cut

/-- The largest packings have `n` places. -/
def Most (pat s : List α) (cuts : List Nat) (n : Nat) : Prop :=
  IsGreatest {n | ∃ places, Packing pat s cuts places ∧ places.length = n} n

/-- An occurrence lies within the text. -/
theorem le_length_of_occurs (hpat : pat ≠ []) (h : pat <+: s.drop p) :
    p + pat.length ≤ s.length := by
  have hl := h.length_le
  rw [List.length_drop] at hl
  have := List.length_pos_iff.mpr hpat
  omega

theorem occurs_append_of_le (h : p + pat.length ≤ s.length) :
    pat <+: (s ++ t).drop p ↔ pat <+: s.drop p := by
  rw [List.drop_append_of_le_length (by omega)]
  refine List.isPrefix_append_of_length ?_
  rw [List.length_drop]
  omega

namespace Packing

theorem nil (pat s : List α) (cuts : List Nat) : Packing pat s cuts [] := ⟨nofun, .nil, nofun⟩

theorem subset_cuts {cuts' : List Nat} (h : Packing pat s cuts places)
    (hc : ∀ cut ∈ cuts', cut ∈ cuts) : Packing pat s cuts' places :=
  ⟨h.occurs, h.apart, fun p hp cut hcut => h.uncut p hp cut (hc cut hcut)⟩

theorem filter (h : Packing pat s cuts places) (f : Nat → Bool) :
    Packing pat s cuts (places.filter f) where
  occurs p hp := h.occurs p (List.mem_of_mem_filter hp)
  apart := h.apart.filter f
  uncut p hp := h.uncut p (List.mem_of_mem_filter hp)

/-- The end of the text is not inside of an occurrence. -/
theorem cut_end (hpat : pat ≠ []) (h : Packing pat s cuts places) :
    Packing pat s (cuts ++ [s.length]) places := by
  refine ⟨h.occurs, h.apart, fun p hp cut hcut => ?_⟩
  rcases List.mem_append.mp hcut with hcut | hcut
  · exact h.uncut p hp cut hcut
  · cases List.mem_singleton.mp hcut
    exact .inr (le_length_of_occurs hpat (h.occurs p hp))

/-- Packings of two texts make one of both together. -/
theorem append {places' : List Nat} (hpat : pat ≠ []) (hc : ∀ cut ∈ cuts, cut ≤ s.length)
    (h : Packing pat s cuts places) (h' : Packing pat t [] places') :
    Packing pat (s ++ t) cuts (places ++ places'.map (s.length + ·)) where
  occurs p hp := by
    rcases List.mem_append.mp hp with hp | hp
    · exact (occurs_append_of_le (le_length_of_occurs hpat (h.occurs p hp))).mpr (h.occurs p hp)
    · obtain ⟨q, hq, rfl⟩ := List.mem_map.mp hp
      rw [List.drop_length_add_append]
      exact h'.occurs q hq
  apart := by
    refine List.pairwise_append.mpr ⟨h.apart, ?_, fun p hp q hq => ?_⟩
    · exact List.pairwise_map.mpr (h'.apart.imp fun hpq => by omega)
    · obtain ⟨q, -, rfl⟩ := List.mem_map.mp hq
      exact Nat.le_add_right_of_le (le_length_of_occurs hpat (h.occurs p hp))
  uncut p hp cut hcut := by
    rcases List.mem_append.mp hp with hp | hp
    · exact h.uncut p hp cut hcut
    · obtain ⟨q, -, rfl⟩ := List.mem_map.mp hp
      exact .inl (Nat.le_add_right_of_le (hc cut hcut))

theorem left (h : Packing pat (s ++ t) cuts places)
    (hp : ∀ p ∈ places, p + pat.length ≤ s.length) : Packing pat s cuts places :=
  ⟨fun p hm => (occurs_append_of_le (hp p hm)).mp (h.occurs p hm), h.apart, h.uncut⟩

theorem right (h : Packing pat (s ++ t) cuts places) (hp : ∀ p ∈ places, s.length ≤ p) :
    Packing pat t [] (places.map (· - s.length)) where
  occurs q hq := by
    obtain ⟨p, hm, rfl⟩ := List.mem_map.mp hq
    have ho := h.occurs p hm
    rwa [← Nat.add_sub_of_le (hp p hm), List.drop_length_add_append] at ho
  apart := by
    refine List.pairwise_map.mpr (h.apart.imp_of_mem fun {p q} hm hm' hpq => ?_)
    have := hp p hm
    omega
  uncut _ _ := nofun

/-- A cut parts a packing. -/
theorem parted (hpat : pat ≠ []) (hcut : s = [] ∨ s.length ∈ cuts)
    (h : Packing pat (s ++ t) cuts places) : ∃ left right, Packing pat s cuts left ∧
      Packing pat t [] right ∧ places.length = left.length + right.length := by
  have hlen := List.length_pos_iff.mpr hpat
  have hside : ∀ p ∈ places, s.length ≤ p ∨ p + pat.length ≤ s.length := by
    intro p hp
    rcases hcut with rfl | hcut
    · exact .inl (Nat.zero_le p)
    · exact h.uncut p hp _ hcut
  let before (p : Nat) : Bool := p < s.length
  refine ⟨places.filter before, (places.filter (! before ·)).map (· - s.length),
    (h.filter _).left fun p hp => ?_, (h.filter _).right fun p hp => ?_, ?_⟩
  · obtain ⟨hp, hb⟩ := List.mem_filter.mp hp
    have := of_decide_eq_true hb
    have := hside p hp
    omega
  · obtain ⟨hp, hb⟩ := List.mem_filter.mp hp
    simpa [before] using hb
  · rw [List.length_map]
    exact List.length_eq_length_filter_add before

end Packing

namespace Most

theorem exists_packing (h : Most pat s cuts n) : ∃ places, Packing pat s cuts places ∧
    places.length = n := h.1

theorem length_le (h : Most pat s cuts n) (hp : Packing pat s cuts places) : places.length ≤ n :=
  h.2 ⟨places, hp, rfl⟩

theorem zero (h : ∀ p, ¬ pat <+: s.drop p) : Most pat s cuts 0 := by
  refine ⟨⟨[], .nil .., rfl⟩, ?_⟩
  rintro _ ⟨places, hp, rfl⟩
  cases places with
  | nil => exact Nat.le_refl _
  | cons p places => exact absurd (hp.occurs p List.mem_cons_self) (h p)

theorem empty (hpat : pat ≠ []) (cuts : List Nat) : Most pat [] cuts 0 :=
  .zero fun p hp => hpat (by simpa using hp)

theorem unique (h : Most pat s cuts m) (h' : Most pat s cuts n) : m = n := IsGreatest.unique h h'

/-- Nothing is lost by taking the first occurrence: in any packing the places behind its first one
are behind this occurrence too. -/
theorem next (hpat : pat ≠ []) (hf : ∀ p, pat <+: (s ++ pat ++ t).drop p → s.length ≤ p)
    (h : Most pat t [] n) : Most pat (s ++ pat ++ t) [] (n + 1) := by
  constructor
  · obtain ⟨places, hp, rfl⟩ := h.exists_packing
    have hs : Packing pat (s ++ pat) [] [s.length] :=
      ⟨fun p hm => by simp [List.mem_singleton.mp hm], List.pairwise_singleton .., nofun⟩
    exact ⟨_, hs.append hpat nofun hp, by simp [Nat.add_comm]⟩
  · rintro _ ⟨places, hp, rfl⟩
    cases places with
    | nil => exact Nat.zero_le _
    | cons p places =>
      have hrest : Packing pat (s ++ pat ++ t) [] places :=
        ⟨fun q hq => hp.occurs q (List.mem_cons_of_mem _ hq), hp.apart.of_cons, nofun⟩
      have hfirst := hf p (hp.occurs p List.mem_cons_self)
      have hlt : ∀ q ∈ places, p + pat.length ≤ q := (List.pairwise_cons.mp hp.apart).1
      have hr := h.length_le (hrest.right fun q hq => by
        rw [List.length_append]
        exact Nat.le_trans (Nat.add_le_add_right hfirst _) (hlt q hq))
      rw [List.length_map] at hr
      exact Nat.succ_le_succ hr

/-- The largest packings of the parts are one of the whole if the text is cut between them. -/
theorem append (hpat : pat ≠ []) (hc : ∀ cut ∈ cuts, cut ≤ s.length)
    (hcut : s = [] ∨ s.length ∈ cuts) (h : Most pat s cuts m) (h' : Most pat t [] n) :
    Most pat (s ++ t) cuts (m + n) := by
  constructor
  · obtain ⟨places, hp, rfl⟩ := h.exists_packing
    obtain ⟨places', hp', rfl⟩ := h'.exists_packing
    exact ⟨_, hp.append hpat hc hp', by simp⟩
  · rintro _ ⟨places, hp, rfl⟩
    obtain ⟨left, right, hl, hr, he⟩ := hp.parted hpat hcut
    have := h.length_le hl
    have := h'.length_le hr
    omega

theorem cut_end (hpat : pat ≠ []) (h : Most pat s cuts n) :
    Most pat s (cuts ++ [s.length]) n := by
  obtain ⟨places, hp, rfl⟩ := h.exists_packing
  refine ⟨⟨places, hp.cut_end hpat, rfl⟩, ?_⟩
  rintro _ ⟨places', hp', rfl⟩
  exact h.length_le (hp'.subset_cuts fun cut hcut => List.mem_append_left _ hcut)

/-- Cuts only take occurrences away. -/
theorem le_uncut (h : Most pat s cuts m) (h' : Most pat s [] n) : m ≤ n := by
  obtain ⟨places, hp, rfl⟩ := h.exists_packing
  exact h'.length_le (hp.subset_cuts nofun)

end Most

end Readiness.Text
