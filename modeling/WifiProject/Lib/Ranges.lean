import Mathlib.Data.List.Sort

/-!
Ranges of numbers that lie side by side, and what that says about two sets of
them: what the one leaves out is what the other holds.
-/

namespace WifiProject.Lib

/-- The numbers from `first`, `length` of them. -/
structure Range where
  first : Nat
  length : Nat
  deriving DecidableEq, Repr

namespace Range

def Contains (range : Range) (x : Nat) : Prop :=
  range.first ≤ x ∧ x < range.first + range.length

instance (range : Range) (x : Nat) : Decidable (range.Contains x) :=
  inferInstanceAs (Decidable (_ ∧ _))

/-- Every number of the one is in the other. -/
def Within (range other : Range) : Prop :=
  other.first ≤ range.first ∧ range.first + range.length ≤ other.first + other.length

instance (range other : Range) : Decidable (range.Within other) :=
  inferInstanceAs (Decidable (_ ∧ _))

theorem Within.contains {range other : Range} (h : range.Within other) {x : Nat}
    (hx : range.Contains x) : other.Contains x :=
  ⟨h.1.trans hx.1, hx.2.trans_le h.2⟩

/-- The ranges follow each other without a gap from `lo` up to `hi`. -/
inductive Tiles : Nat → List Range → Nat → Prop
  | nil (lo : Nat) : Tiles lo [] lo
  | cons {range : Range} {ranges : List Range} {hi : Nat} :
      Tiles (range.first + range.length) ranges hi → Tiles range.first (range :: ranges) hi

theorem tiles_nil_iff {lo hi : Nat} : Tiles lo [] hi ↔ lo = hi := by
  constructor
  · rintro ⟨⟩
    rfl
  · rintro rfl
    exact .nil lo

theorem tiles_cons_iff {lo hi : Nat} {range : Range} {ranges : List Range} :
    Tiles lo (range :: ranges) hi ↔
      range.first = lo ∧ Tiles (range.first + range.length) ranges hi := by
  constructor
  · rintro (_ | hrest)
    exact ⟨rfl, hrest⟩
  · rintro ⟨rfl, hrest⟩
    exact .cons hrest

instance decidableTiles : (lo : Nat) → (ranges : List Range) → (hi : Nat) →
    Decidable (Tiles lo ranges hi)
  | _, [], _ => decidable_of_iff _ tiles_nil_iff.symm
  | _, range :: ranges, hi =>
      have := decidableTiles (range.first + range.length) ranges hi
      decidable_of_iff _ tiles_cons_iff.symm

/-- Nothing in between is left out. -/
theorem Tiles.exists_contains {lo hi : Nat} {ranges : List Range} (h : Tiles lo ranges hi) {x : Nat}
    (hlo : lo ≤ x) (hhi : x < hi) : ∃ range ∈ ranges, range.Contains x := by
  induction h with
  | nil lo => omega
  | @cons range ranges hi hrest ih =>
      by_cases hx : x < range.first + range.length
      · exact ⟨range, List.mem_cons_self .., hlo, hx⟩
      · obtain ⟨other, hmem, hother⟩ := ih (by omega) hhi
        exact ⟨other, List.mem_cons_of_mem _ hmem, hother⟩

theorem Tiles.le_first {lo hi : Nat} {ranges : List Range} (h : Tiles lo ranges hi) :
    ∀ range ∈ ranges, lo ≤ range.first := by
  induction h with
  | nil lo => simp
  | @cons range ranges hi hrest ih =>
      rw [List.forall_mem_cons]
      exact ⟨le_refl _, fun other hmem => (Nat.le_add_right _ _).trans (ih other hmem)⟩

def Disjoint (range other : Range) : Prop := ∀ x, range.Contains x → ¬ other.Contains x

theorem Disjoint.symm {range other : Range} (h : range.Disjoint other) : other.Disjoint range :=
  fun x hother hrange => h x hrange hother

/-- Nothing is in two of them. -/
theorem Tiles.pairwise {lo hi : Nat} {ranges : List Range} (h : Tiles lo ranges hi) :
    ranges.Pairwise Disjoint := by
  induction h with
  | nil lo => exact .nil
  | @cons range ranges hi hrest ih =>
      refine List.pairwise_cons.mpr ⟨?_, ih⟩
      intro other hmem x hx hother
      exact absurd (hx.2.trans_le (hrest.le_first other hmem)) (Nat.not_lt.mpr hother.1)

/-- In the order of their first numbers. -/
def sorted (ranges : List Range) : List Range := ranges.insertionSort (·.first ≤ ·.first)

theorem pairwise_of_tiles {hi : Nat} {ranges : List Range} (h : Tiles 0 (sorted ranges) hi) :
    ranges.Pairwise Disjoint := by
  have hperm : (sorted ranges).Perm ranges := List.perm_insertionSort _ _
  exact (hperm.pairwise_iff Disjoint.symm).mp h.pairwise

/-- Two sets of ranges that lie side by side when they are put in order. -/
theorem contains_iff_of_tiles {hi : Nat} {ranges others : List Range}
    (h : Tiles 0 (sorted (ranges ++ others)) hi) {x : Nat} (hhi : x < hi) :
    (∃ range ∈ ranges, range.Contains x) ↔ ∀ other ∈ others, ¬ other.Contains x := by
  constructor
  · rintro ⟨range, hrange, hx⟩ other hother hx'
    have hdisjoint := (List.pairwise_append.mp (pairwise_of_tiles h)).2.2
    exact hdisjoint range hrange other hother x hx hx'
  · intro hnone
    have hperm : (sorted (ranges ++ others)).Perm (ranges ++ others) := List.perm_insertionSort _ _
    obtain ⟨range, hmem, hx⟩ := h.exists_contains (Nat.zero_le x) hhi
    rcases List.mem_append.mp (hperm.mem_iff.mp hmem) with hrange | hother
    · exact ⟨range, hrange, hx⟩
    · exact absurd hx (hnone range hother)

end Range

end WifiProject.Lib
