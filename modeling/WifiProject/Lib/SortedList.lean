import Mathlib.Data.List.Induction

/-!
Sorted lists of a user interface library. A list is given by the adds since it
was cleared; which position an add takes is left to the library. An item that
the callback calls the same as an added one is replaced by it.
-/

namespace WifiProject.Lib

structure Sorter (α : Type) (same : α → α → Prop) where
  /-- The items after these adds, in the order of iteration. -/
  items : List α → List α
  items_nil : items [] = []
  mem_items_concat : ∀ adds x y,
    y ∈ items (adds ++ [x]) ↔ y = x ∨ (y ∈ items adds ∧ ¬ same x y)

namespace Sorter

variable {α : Type} {same : α → α → Prop} (sorter : Sorter α same)

/-- Adding items none of which replaces another keeps them all. -/
theorem mem_items_of_distinct {adds : List α}
    (h : ∀ x ∈ adds, ∀ y ∈ adds, same x y → x = y) (y : α) :
    y ∈ sorter.items adds ↔ y ∈ adds := by
  induction adds using List.reverseRecOn with
  | nil => simp [sorter.items_nil]
  | append_singleton adds x ih =>
      have hadds : ∀ x ∈ adds, ∀ y ∈ adds, same x y → x = y := fun x hx y hy =>
        h x (List.mem_append_left _ hx) y (List.mem_append_left _ hy)
      rw [sorter.mem_items_concat, ih hadds, List.mem_append, List.mem_singleton]
      constructor
      · rintro (rfl | ⟨hy, -⟩)
        · exact Or.inr rfl
        · exact Or.inl hy
      · rintro (hy | rfl)
        · by_cases hsame : same x y
          · exact Or.inl (h x (by simp) y (by simp [hy]) hsame).symm
          · exact Or.inr ⟨hy, hsame⟩
        · exact Or.inl rfl

theorem mem_of_mem_items {adds : List α} {y : α} (h : y ∈ sorter.items adds) : y ∈ adds := by
  induction adds using List.reverseRecOn with
  | nil => simp [sorter.items_nil] at h
  | append_singleton adds x ih =>
      rcases (sorter.mem_items_concat adds x y).mp h with rfl | ⟨hy, -⟩
      · simp
      · exact List.mem_append_left _ (ih hy)

/-- Of the adds that are taken for one, an item remains. -/
theorem exists_same_of_mem (hsame : Equivalence same) {adds : List α} {x : α} (h : x ∈ adds) :
    ∃ y ∈ sorter.items adds, same x y := by
  induction adds using List.reverseRecOn with
  | nil => cases h
  | append_singleton adds last ih =>
      rcases List.mem_append.mp h with hx | hx
      · obtain ⟨y, hy, hxy⟩ := ih hx
        by_cases hlast : same last y
        · refine ⟨last, ?_, hsame.trans hxy (hsame.symm hlast)⟩
          exact (sorter.mem_items_concat adds last last).mpr (Or.inl rfl)
        · exact ⟨y, (sorter.mem_items_concat adds last y).mpr (Or.inr ⟨hy, hlast⟩), hxy⟩
      · rw [List.mem_singleton] at hx
        subst hx
        exact ⟨x, (sorter.mem_items_concat adds x x).mpr (Or.inl rfl), hsame.refl x⟩

/-- One copy of equal items is kept. -/
theorem distinct_items (hsymm : ∀ x y, same x y → same y x) (adds : List α) :
    ∀ x ∈ sorter.items adds, ∀ y ∈ sorter.items adds, same x y → x = y := by
  induction adds using List.reverseRecOn with
  | nil => simp [sorter.items_nil]
  | append_singleton adds last ih =>
      intro x hx y hy hsame
      rw [sorter.mem_items_concat] at hx hy
      rcases hx with rfl | ⟨hx, hlast⟩
      · rcases hy with rfl | ⟨hy, hlast⟩
        · rfl
        · exact absurd hsame hlast
      · rcases hy with rfl | ⟨hy, -⟩
        · exact absurd (hsymm x y hsame) hlast
        · exact ih x hx y hy hsame

/-- Adding the items of a list to an empty one gives the same items. -/
theorem mem_items_items (hsymm : ∀ x y, same x y → same y x) (adds : List α) (y : α) :
    y ∈ sorter.items (sorter.items adds) ↔ y ∈ sorter.items adds :=
  sorter.mem_items_of_distinct (sorter.distinct_items hsymm adds) y

theorem mem_items (sorter : Sorter α Eq) (adds : List α) (y : α) :
    y ∈ sorter.items adds ↔ y ∈ adds :=
  sorter.mem_items_of_distinct (fun _ _ _ _ h => h) y

/-- The order of the last adds. -/
def byLastAdd [DecidableEq α] : Sorter α Eq where
  items adds := adds.foldl (fun items x => items.filter (· ≠ x) ++ [x]) []
  items_nil := rfl
  mem_items_concat := by
    intro adds x y
    rw [List.foldl_append, List.foldl_cons, List.foldl_nil]
    simp only [List.mem_append, List.mem_filter, List.mem_singleton, decide_eq_true_eq]
    rw [or_comm]
    simp [eq_comm]

end Sorter

end WifiProject.Lib
