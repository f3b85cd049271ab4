import WifiProject.Lib.Comparator

/-!
A sorted list that adds an item where binary search finds its place, and puts it
in the place of one that is the same.
-/

namespace WifiProject.Lib

section Search

variable {α : Type}

/-- An index between `left` and `right` for the item: that of an item that
compares as equal, or the first whose item is greater. -/
def insertionIndex (compare : α → α → Int) (items : List α) (item : α) (left right : Nat) : Nat :=
  if left < right then
    let middle := (left + right) / 2
    match items[middle]? with
    | none => left
    | some found =>
        if compare found item < 0 then insertionIndex compare items item (middle + 1) right
        else if compare found item = 0 then middle
        else insertionIndex compare items item left middle
  else left
termination_by right - left

/-- `add`: an item that is the same is replaced. -/
def addSorted (compare : α → α → Int) (same : α → α → Bool) (items : List α) (item : α) : List α :=
  let index := insertionIndex compare items item 0 items.length
  match items[index]? with
  | none => items.insertIdx index item
  | some existing => if same existing item then items.set index item else items.insertIdx index item

/-- Smaller items before an index, greater ones after it. -/
structure Divides (compare : α → α → Int) (items : List α) (item : α) (index : Nat) : Prop where
  bound : index ≤ items.length
  smaller : ∀ i < index, ∀ y, items[i]? = some y → compare y item < 0
  greater : ∀ i, index < i → ∀ y, items[i]? = some y → 0 < compare y item
  found : ∀ y, items[index]? = some y → 0 ≤ compare y item

variable {comparator : Comparator α} {items : List α} {item : α}

theorem Comparator.Increasing.lt (h : comparator.Increasing items) {i j : Nat} (hij : i < j)
    {x y : α} (hx : items[i]? = some x) (hy : items[j]? = some y) : comparator.compare x y < 0 := by
  obtain ⟨hi, rfl⟩ := List.getElem?_eq_some_iff.mp hx
  obtain ⟨hj, rfl⟩ := List.getElem?_eq_some_iff.mp hy
  exact List.pairwise_iff_getElem.mp h i j hi hj hij

theorem divides_insertionIndex (h : comparator.Increasing items) (left right : Nat)
    (hleft : left ≤ right) (hright : right ≤ items.length)
    (hsmaller : ∀ i < left, ∀ y, items[i]? = some y → comparator.compare y item < 0)
    (hgreater : ∀ i, right ≤ i → ∀ y, items[i]? = some y → 0 < comparator.compare y item) :
    Divides comparator.compare items item
      (insertionIndex comparator.compare items item left right) := by
  fun_induction insertionIndex comparator.compare items item left right with
  | case1 left right hlt middle hnone =>
      rw [List.getElem?_eq_none_iff] at hnone
      omega
  | case2 left right hlt middle found hfound hneg ih =>
      refine ih (by omega) hright ?_ hgreater
      intro i hi y hy
      rcases Nat.lt_or_eq_of_le (Nat.le_of_lt_succ hi) with hbelow | rfl
      · exact comparator.lt_trans (h.lt hbelow hy hfound) hneg
      · rw [hfound, Option.some.injEq] at hy
        exact hy ▸ hneg
  | case3 left right hlt middle found hfound hneg hzero =>
      have heq := (comparator.zero_iff found item).mp hzero
      subst heq
      refine ⟨by omega, ?_, ?_, ?_⟩
      · intro i hi y hy
        exact h.lt hi hy hfound
      · intro i hi y hy
        exact comparator.pos_iff.mpr (h.lt hi hfound hy)
      · intro y hy
        rw [hfound, Option.some.injEq] at hy
        rw [← hy, hzero]
  | case4 left right hlt middle found hfound hneg hzero ih =>
      have hpos : 0 < comparator.compare found item := by omega
      refine ih (by omega) (by omega) hsmaller ?_
      intro i hi y hy
      rcases Nat.lt_or_eq_of_le hi with habove | rfl
      · exact comparator.pos_iff.mpr
          (comparator.lt_trans (comparator.pos_iff.mp hpos) (h.lt habove hfound hy))
      · rw [hfound, Option.some.injEq] at hy
        exact hy ▸ hpos
  | case5 left right hge =>
      have heq : left = right := by omega
      subst heq
      exact ⟨hright, hsmaller, fun i hi => hgreater i (Nat.le_of_lt hi),
        fun y hy => le_of_lt (hgreater left (Nat.le_refl _) y hy)⟩

theorem insertIdx_eq {index : Nat} (h : index ≤ items.length) :
    items.insertIdx index item = items.take index ++ item :: items.drop index := by
  obtain ⟨before, after, rfl, rfl, hinsert⟩ := List.exists_of_modifyTailIdx (List.cons item) h
  rw [List.insertIdx, hinsert]
  simp

theorem Divides.before {index : Nat} (h : Divides comparator.compare items item index) :
    ∀ y ∈ items.take index, comparator.compare y item < 0 := by
  intro y hy
  obtain ⟨i, hi⟩ := List.mem_iff_getElem?.mp hy
  rw [List.getElem?_take, Option.ite_none_right_eq_some] at hi
  exact h.smaller i hi.1 y hi.2

theorem Divides.after {index : Nat} (h : Divides comparator.compare items item index) :
    ∀ y ∈ items.drop (index + 1), comparator.compare item y < 0 := by
  intro y hy
  obtain ⟨i, hi⟩ := List.mem_iff_getElem?.mp hy
  rw [List.getElem?_drop] at hi
  exact comparator.pos_iff.mp (h.greater _ (by omega) y hi)

variable {same : α → α → Bool}

/-- An add puts the item between the smaller items and the greater ones; an equal
one is gone. -/
theorem addSorted_spec (hsame : ∀ x y, same x y = true ↔ x = y) (h : comparator.Increasing items)
    (item : α) :
    ∃ before after, addSorted comparator.compare same items item = before ++ item :: after ∧
      (items = before ++ after ∨ items = before ++ item :: after) ∧
      (∀ y ∈ before, comparator.compare y item < 0) ∧
      ∀ y ∈ after, comparator.compare item y < 0 := by
  let index := insertionIndex comparator.compare items item 0 items.length
  have hdivides : Divides comparator.compare items item index :=
    divides_insertionIndex h 0 items.length (Nat.zero_le _) (Nat.le_refl _)
      (fun i hi => absurd hi (Nat.not_lt_zero i)) fun i hi y hy => by
        rw [List.getElem?_eq_none hi] at hy
        cases hy
  have hbefore := hdivides.before
  have hafter := hdivides.after
  have hinsert : items.insertIdx index item = items.take index ++ item :: items.drop index :=
    insertIdx_eq hdivides.bound
  cases hfound : items[index]? with
  | none =>
      have hdrop : items.drop index = [] :=
        List.drop_eq_nil_of_le (List.getElem?_eq_none_iff.mp hfound)
      refine ⟨items.take index, [], ?_, Or.inl ?_, hbefore, by simp⟩
      · simp only [addSorted, index] at hfound ⊢
        rw [hfound]
        exact hinsert.trans (by rw [hdrop])
      · rw [← hdrop, List.take_append_drop]
  | some existing =>
      obtain ⟨hlt, hget⟩ := List.getElem?_eq_some_iff.mp hfound
      have hdrop : items.drop index = existing :: items.drop (index + 1) := by
        rw [List.drop_eq_getElem_cons hlt, hget]
      have hitems : items = items.take index ++ existing :: items.drop (index + 1) := by
        rw [← hdrop, List.take_append_drop]
      by_cases heq : existing = item
      · refine ⟨items.take index, items.drop (index + 1), ?_, Or.inr (heq ▸ hitems), hbefore, hafter⟩
        simp only [addSorted, index] at hfound ⊢
        rw [hfound]
        dsimp only
        rw [if_pos ((hsame _ _).mpr heq), List.set_eq_take_append_cons_drop, if_pos hlt]
      · have hpos : 0 < comparator.compare existing item := by
          have hne : comparator.compare existing item ≠ 0 := fun hzero =>
            heq ((comparator.zero_iff _ _).mp hzero)
          have hle := hdivides.found existing hfound
          omega
        refine ⟨items.take index, items.drop index, ?_, Or.inl (List.take_append_drop ..).symm,
          hbefore, ?_⟩
        · simp only [addSorted, index] at hfound ⊢
          rw [hfound]
          dsimp only
          rw [if_neg (mt (hsame _ _).mp heq)]
          exact hinsert
        · rw [hdrop, List.forall_mem_cons]
          exact ⟨comparator.pos_iff.mp hpos, hafter⟩

theorem increasing_addSorted (hsame : ∀ x y, same x y = true ↔ x = y)
    (h : comparator.Increasing items) (item : α) :
    comparator.Increasing (addSorted comparator.compare same items item) := by
  obtain ⟨before, after, hadd, hitems, hbefore, hafter⟩ := addSorted_spec hsame h item
  have hparts : comparator.Increasing (before ++ after) := by
    rcases hitems with hitems | hitems
    · rw [← hitems]
      exact h
    · rw [hitems] at h
      exact List.Pairwise.sublist (by simp) h
  obtain ⟨hpre, hpost, hcross⟩ := List.pairwise_append.mp hparts
  rw [hadd, Comparator.Increasing, List.pairwise_append, List.pairwise_cons]
  refine ⟨hpre, ⟨hafter, hpost⟩, ?_⟩
  intro x hx y hy
  rcases List.mem_cons.mp hy with rfl | hy
  · exact hbefore x hx
  · exact hcross x hx y hy

theorem mem_addSorted_iff (hsame : ∀ x y, same x y = true ↔ x = y)
    (h : comparator.Increasing items) (item y : α) :
    y ∈ addSorted comparator.compare same items item ↔ y = item ∨ y ∈ items := by
  obtain ⟨before, after, hadd, hitems, -, -⟩ := addSorted_spec hsame h item
  rw [hadd]
  rcases hitems with hitems | hitems
  · rw [hitems]
    simp only [List.mem_append, List.mem_cons]
    tauto
  · rw [hitems]
    simp only [List.mem_append, List.mem_cons]
    tauto

end Search

section SortedLists

variable {α : Type} (comparator : Comparator α) (same : α → α → Bool)

/-- The items of a list after some adds. -/
def sortedItems (adds : List α) : List α := adds.foldl (addSorted comparator.compare same) []

theorem sortedItems_concat (adds : List α) (item : α) :
    sortedItems comparator same (adds ++ [item]) =
      addSorted comparator.compare same (sortedItems comparator same adds) item := by
  rw [sortedItems, List.foldl_append]
  rfl

variable {same} (hsame : ∀ x y, same x y = true ↔ x = y)
include hsame

theorem increasing_sortedItems (adds : List α) :
    comparator.Increasing (sortedItems comparator same adds) := by
  induction adds using List.reverseRecOn with
  | nil => exact List.Pairwise.nil
  | append_singleton adds item ih =>
      rw [sortedItems_concat]
      exact increasing_addSorted hsame ih item

theorem mem_sortedItems_concat (adds : List α) (item y : α) :
    y ∈ sortedItems comparator same (adds ++ [item]) ↔
      y = item ∨ (y ∈ sortedItems comparator same adds ∧ ¬ item = y) := by
  rw [sortedItems_concat, mem_addSorted_iff hsame (increasing_sortedItems comparator hsame adds)]
  by_cases heq : item = y
  · simp [heq]
  · simp [heq]

omit hsame in
/-- A list that adds by binary search, as one whose positions are left open. -/
def Sorter.byBinarySearch (hsame : ∀ x y, same x y = true ↔ x = y) : Sorter α Eq where
  items := sortedItems comparator same
  items_nil := rfl
  mem_items_concat := mem_sortedItems_concat comparator hsame

/-- Every item is listed once. -/
theorem count_sortedItems [BEq α] [LawfulBEq α] (adds : List α) (item : α) :
    (sortedItems comparator same adds).count item = if item ∈ adds then 1 else 0 := by
  have hmem : item ∈ sortedItems comparator same adds ↔ item ∈ adds :=
    (Sorter.byBinarySearch comparator hsame).mem_items adds item
  rw [(increasing_sortedItems comparator hsame adds).nodup.count]
  simp only [hmem]

end SortedLists

end WifiProject.Lib
