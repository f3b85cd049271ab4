import Mathlib.Data.List.Nodup
import WifiProject.Lib.BinarySearch

/-!
A sorted list whose comparison may take different items for equal ones. Where
binary search meets an item that compares as equal, the neighbours that do so
too are searched for one that is the same. An item that is the same as the one
at the index that is found takes its place.
-/

namespace WifiProject.Lib

/-- What a sorted list asks about its items. The comparison goes by a key; of the
items with one key, those that are the same as a third are the same. -/
structure SortedListCallback (α β : Type) [LinearOrder β] where
  compare : α → α → Int
  areItemsTheSame : α → α → Bool
  key : α → β
  agrees : ∀ x y, Agrees (compare x y) (key x) (key y)
  same_self : ∀ x, areItemsTheSame x x = true
  same_of_same : ∀ x y z, key x = key z → key y = key z →
    areItemsTheSame x z = true → areItemsTheSame y z = true → areItemsTheSame x y = true

namespace SortedListCallback

variable {α β : Type} [LinearOrder β] (callback : SortedListCallback α β)

/-- The items before `next`, the nearest first, none before `left`. -/
def searchBefore (items : List α) (item : α) (left : Nat) : Nat → Option Nat
  | 0 => none
  | next + 1 =>
      if next < left then none
      else
        match items[next]? with
        | none => none
        | some nextItem =>
            if callback.compare nextItem item ≠ 0 then none
            else if callback.areItemsTheSame nextItem item then some next
            else searchBefore items item left next

/-- The items from `next` on, none from `right` on. -/
def searchAfter (items : List α) (item : α) (next right : Nat) : Option Nat :=
  if next < right then
    match items[next]? with
    | none => none
    | some nextItem =>
        if callback.compare nextItem item ≠ 0 then none
        else if callback.areItemsTheSame nextItem item then some next
        else searchAfter items item (next + 1) right
  else none
termination_by right - next

def linearEqualitySearch (items : List α) (item : α) (middle left right : Nat) : Option Nat :=
  (callback.searchBefore items item left middle).or
    (callback.searchAfter items item (middle + 1) right)

/-- The index an item is added at. -/
def findIndexOf (items : List α) (item : α) (left right : Nat) : Nat :=
  if left < right then
    let middle := (left + right) / 2
    match items[middle]? with
    | none => left
    | some myItem =>
        let cmp := callback.compare myItem item
        if cmp < 0 then findIndexOf items item (middle + 1) right
        else if cmp = 0 then
          if callback.areItemsTheSame myItem item then middle
          else (callback.linearEqualitySearch items item middle left right).getD middle
        else findIndexOf items item left middle
  else left
termination_by right - left

/-- `add`: an item that is the same takes the place of the one that is found. -/
def add (items : List α) (item : α) : List α :=
  let index := callback.findIndexOf items item 0 items.length
  match items[index]? with
  | none => items.insertIdx index item
  | some existing =>
      if callback.areItemsTheSame existing item then items.set index item
      else items.insertIdx index item

/-- The item whose place an added one takes. -/
def replaced (items : List α) (item : α) : Option α :=
  items[callback.findIndexOf items item 0 items.length]?.filter
    fun existing => callback.areItemsTheSame existing item

/-- The items of a list after some adds. -/
def added (adds : List α) : List α := adds.foldl callback.add []

/-- The items are in order, and those with one key are not the same. -/
structure Kept (items : List α) : Prop where
  sorted : items.Pairwise fun x y => callback.key x ≤ callback.key y
  apart : items.Pairwise fun x y =>
    callback.key x = callback.key y → callback.areItemsTheSame x y = false

variable {callback} {items : List α} {item : α}

theorem findIndexOf_of_middle {left right : Nat} {myItem : α} (hlt : left < right)
    (hmiddle : items[(left + right) / 2]? = some myItem) :
    callback.findIndexOf items item left right =
      if callback.compare myItem item < 0 then
        callback.findIndexOf items item ((left + right) / 2 + 1) right
      else if callback.compare myItem item = 0 then
        if callback.areItemsTheSame myItem item then (left + right) / 2
        else (callback.linearEqualitySearch items item ((left + right) / 2) left right).getD
          ((left + right) / 2)
      else callback.findIndexOf items item left ((left + right) / 2) := by
  rw [findIndexOf, if_pos hlt]
  dsimp only
  rw [hmiddle]

/-- Where items that compare as equal are the same, no neighbour is looked at. -/
theorem findIndexOf_eq_insertionIndex
    (hsame : ∀ x y, callback.compare x y = 0 → callback.areItemsTheSame x y = true)
    (left right : Nat) :
    callback.findIndexOf items item left right =
      insertionIndex callback.compare items item left right := by
  fun_induction insertionIndex callback.compare items item left right with
  | case1 left right hlt middle hnone =>
      rw [findIndexOf, if_pos hlt]
      dsimp only
      rw [hnone]
  | case2 left right hlt middle found hfound hneg ih =>
      rw [findIndexOf_of_middle hlt hfound, if_pos hneg]
      exact ih
  | case3 left right hlt middle found hfound hneg hzero =>
      rw [findIndexOf_of_middle hlt hfound, if_neg hneg, if_pos hzero, if_pos (hsame _ _ hzero)]
  | case4 left right hlt middle found hfound hneg hzero ih =>
      rw [findIndexOf_of_middle hlt hfound, if_neg hneg, if_neg hzero]
      exact ih
  | case5 left right hge => rw [findIndexOf, if_neg hge]

theorem add_eq_addSorted
    (hsame : ∀ x y, callback.compare x y = 0 → callback.areItemsTheSame x y = true)
    (items : List α) (item : α) :
    callback.add items item =
      addSorted callback.compare callback.areItemsTheSame items item := by
  have hindex : callback.findIndexOf items item 0 items.length =
      insertionIndex callback.compare items item 0 items.length :=
    findIndexOf_eq_insertionIndex hsame 0 items.length
  unfold add
  generalize callback.findIndexOf items item 0 items.length = index at hindex ⊢
  subst hindex
  rfl

theorem same_symm {x y : α} (hkey : callback.key x = callback.key y)
    (h : callback.areItemsTheSame x y = true) : callback.areItemsTheSame y x = true :=
  callback.same_of_same y x y rfl hkey (callback.same_self y) h

theorem Kept.le (h : callback.Kept items) {i j : Nat} (hij : i ≤ j) {x y : α}
    (hx : items[i]? = some x) (hy : items[j]? = some y) : callback.key x ≤ callback.key y := by
  rcases Nat.lt_or_eq_of_le hij with hlt | rfl
  · obtain ⟨hi, rfl⟩ := List.getElem?_eq_some_iff.mp hx
    obtain ⟨hj, rfl⟩ := List.getElem?_eq_some_iff.mp hy
    exact List.pairwise_iff_getElem.mp h.sorted i j hi hj hlt
  · rw [hx, Option.some.injEq] at hy
    rw [hy]

theorem Kept.nodup (h : callback.Kept items) : items.Nodup := by
  apply List.Pairwise.imp _ h.apart
  rintro x y hapart rfl
  rw [callback.same_self] at hapart
  cases hapart rfl

/-- What the search for an item looks for. -/
def Found (callback : SortedListCallback α β) (items : List α) (item : α) (index : Nat) : Prop :=
  ∃ y, items[index]? = some y ∧ callback.key y = callback.key item ∧
    callback.areItemsTheSame y item = true

section Neighbours

theorem found_of_searchBefore {left next i : Nat}
    (h : callback.searchBefore items item left next = some i) :
    left ≤ i ∧ i < next ∧ callback.Found items item i := by
  induction next with
  | zero => cases h
  | succ next ih =>
      rw [searchBefore] at h
      split at h
      · cases h
      · split at h
        · cases h
        · rename_i hleft _ nextItem hnext
          split_ifs at h with hcmp hsame
          · cases h
            exact ⟨by omega, by omega, nextItem, hnext, (callback.agrees _ _).zero.mp
              (not_not.mp hcmp), hsame⟩
          · obtain ⟨hi, hlt, hfound⟩ := ih h
            exact ⟨hi, by omega, hfound⟩

theorem found_of_searchAfter {next right i : Nat}
    (h : callback.searchAfter items item next right = some i) :
    next ≤ i ∧ i < right ∧ callback.Found items item i := by
  fun_induction searchAfter callback items item next right with
  | case1 next hlt hnone => cases h
  | case2 next hlt nextItem hnext hcmp => cases h
  | case3 next hlt nextItem hnext hcmp hsame =>
      cases h
      exact ⟨Nat.le_refl _, hlt, nextItem, hnext, (callback.agrees _ _).zero.mp
        (not_not.mp hcmp), hsame⟩
  | case4 next hlt nextItem hnext hcmp hsame ih =>
      obtain ⟨hi, hlt, hfound⟩ := ih h
      exact ⟨by omega, hlt, hfound⟩
  | case5 next hge => cases h

/-- Nothing between one that is the same and the start of the search ends it. -/
theorem searchBefore_ne_none {left next i : Nat} (hleft : left ≤ i) (hlt : i < next)
    (hnext : next ≤ items.length)
    (hkeys : ∀ j, i ≤ j → j < next → ∀ y, items[j]? = some y →
      callback.key y = callback.key item)
    (h : callback.Found items item i) : callback.searchBefore items item left next ≠ none := by
  induction next with
  | zero => omega
  | succ next ih =>
      have hget : items[next]? = some items[next] := List.getElem?_eq_getElem (by omega)
      have hkey := hkeys next (by omega) (Nat.lt_succ_self _) _ hget
      rw [searchBefore, if_neg (by omega), hget]
      dsimp only
      rw [if_neg (not_not.mpr ((callback.agrees _ _).zero.mpr hkey))]
      split
      · simp
      · rename_i hsame
        have hne : i ≠ next := by
          rintro rfl
          obtain ⟨y, hy, -, hysame⟩ := h
          rw [hget, Option.some.injEq] at hy
          exact hsame (hy ▸ hysame)
        exact ih (by omega) (by omega) fun j hij hj => hkeys j hij (by omega)

theorem searchAfter_ne_none {next right i : Nat} (hnext : next ≤ i) (hlt : i < right)
    (hright : right ≤ items.length)
    (hkeys : ∀ j, next ≤ j → j ≤ i → ∀ y, items[j]? = some y →
      callback.key y = callback.key item)
    (h : callback.Found items item i) : callback.searchAfter items item next right ≠ none := by
  fun_induction searchAfter callback items item next right with
  | case1 next hnextlt hnone =>
      rw [List.getElem?_eq_none_iff] at hnone
      omega
  | case2 next hnextlt nextItem hget hcmp =>
      exact absurd ((callback.agrees _ _).zero.mpr (hkeys next (Nat.le_refl _) hnext _ hget)) hcmp
  | case3 next hnextlt nextItem hget hcmp hsame => simp
  | case4 next hnextlt nextItem hget hcmp hsame ih =>
      have hne : i ≠ next := by
        rintro rfl
        obtain ⟨y, hy, -, hysame⟩ := h
        rw [hget, Option.some.injEq] at hy
        exact hsame (hy ▸ hysame)
      exact ih (by omega) fun j hij hj => hkeys j (by omega) hj
  | case5 next hge => omega

theorem found_of_linearEqualitySearch {middle left right i : Nat} (hleft : left ≤ middle)
    (hright : middle < right)
    (h : callback.linearEqualitySearch items item middle left right = some i) :
    left ≤ i ∧ i < right ∧ callback.Found items item i := by
  rw [linearEqualitySearch, Option.or_eq_some_iff] at h
  rcases h with hbefore | ⟨-, hafter⟩
  · obtain ⟨hi, hlt, hfound⟩ := found_of_searchBefore hbefore
    exact ⟨hi, by omega, hfound⟩
  · obtain ⟨hi, hlt, hfound⟩ := found_of_searchAfter hafter
    exact ⟨by omega, hlt, hfound⟩

/-- Items with one key are neighbours, so the search does not miss one. -/
theorem not_found_of_linearEqualitySearch (h : callback.Kept items) {middle left right : Nat}
    {myItem : α} (hright : right ≤ items.length) (hmiddle : items[middle]? = some myItem)
    (hkey : callback.key myItem = callback.key item)
    (hsame : ¬ callback.areItemsTheSame myItem item = true)
    (hnone : callback.linearEqualitySearch items item middle left right = none) {i : Nat}
    (hi : left ≤ i) (hlt : i < right) : ¬ callback.Found items item i := by
  rw [linearEqualitySearch, Option.or_eq_none_iff] at hnone
  have hlength := (List.getElem?_eq_some_iff.mp hmiddle).1
  intro hfound
  have ⟨y, hy, hykey, hysame⟩ := hfound
  rcases Nat.lt_trichotomy i middle with hbefore | rfl | hafter
  · refine searchBefore_ne_none hi hbefore (by omega) ?_ hfound hnone.1
    intro j hij hj z hz
    apply le_antisymm
    · rw [← hkey]
      exact h.le (by omega) hz hmiddle
    · rw [← hykey]
      exact h.le hij hy hz
  · rw [hmiddle, Option.some.injEq] at hy
    exact hsame (hy ▸ hysame)
  · refine searchAfter_ne_none hafter hlt hright ?_ hfound hnone.2
    intro j hj hji z hz
    apply le_antisymm
    · rw [← hykey]
      exact h.le hji hz hy
    · rw [← hkey]
      exact h.le (by omega) hmiddle hz

end Neighbours

section Adding

/-- The item belongs at the index, and one that is the same is found there. -/
structure Placed (callback : SortedListCallback α β) (items : List α) (item : α) (index : Nat) :
    Prop where
  bound : index ≤ items.length
  before : ∀ i < index, ∀ y, items[i]? = some y → callback.key y ≤ callback.key item
  after : ∀ i, index ≤ i → ∀ y, items[i]? = some y → callback.key item ≤ callback.key y
  found : ∀ i, callback.Found items item i → callback.Found items item index

theorem placed_of_key (h : callback.Kept items) {index : Nat} {y : α} (hy : items[index]? = some y)
    (hkey : callback.key y = callback.key item)
    (hfound : ∀ i, callback.Found items item i → callback.Found items item index) :
    callback.Placed items item index where
  bound := Nat.le_of_lt (List.getElem?_eq_some_iff.mp hy).1
  before _ hi _ hz := hkey ▸ h.le (Nat.le_of_lt hi) hz hy
  after _ hi _ hz := hkey ▸ h.le hi hy hz
  found := hfound

theorem placed_findIndexOf (h : callback.Kept items) {left right : Nat} (hleft : left ≤ right)
    (hright : right ≤ items.length)
    (hsmaller : ∀ i < left, ∀ y, items[i]? = some y → callback.key y < callback.key item)
    (hgreater : ∀ i, right ≤ i → ∀ y, items[i]? = some y → callback.key item < callback.key y) :
    callback.Placed items item (callback.findIndexOf items item left right) := by
  -- An item that is the same has the key, and is between the bounds.
  have hinside {left right : Nat}
      (hsmaller : ∀ i < left, ∀ y, items[i]? = some y → callback.key y < callback.key item)
      (hgreater : ∀ i, right ≤ i → ∀ y, items[i]? = some y → callback.key item < callback.key y)
      {i : Nat} (hfound : callback.Found items item i) : left ≤ i ∧ i < right := by
    obtain ⟨y, hy, hkey, -⟩ := hfound
    constructor
    · by_contra hlt
      exact absurd hkey (ne_of_lt (hsmaller i (by omega) y hy))
    · by_contra hge
      exact absurd hkey (ne_of_gt (hgreater i (by omega) y hy))
  fun_induction findIndexOf callback items item left right with
  | case1 left right hlt middle hnone =>
      rw [List.getElem?_eq_none_iff] at hnone
      omega
  | case2 left right hlt middle myItem hmiddle cmp hneg ih =>
      refine ih (by omega) hright ?_ hgreater
      intro i hi y hy
      exact lt_of_le_of_lt (h.le (by omega) hy hmiddle) ((callback.agrees _ _).neg.mp hneg)
  | case3 left right hlt middle myItem hmiddle cmp hneg hzero hsame =>
      have hkey := (callback.agrees _ _).zero.mp hzero
      exact placed_of_key h hmiddle hkey fun _ _ => ⟨myItem, hmiddle, hkey, hsame⟩
  | case4 left right hlt middle myItem hmiddle cmp hneg hzero hsame =>
      have hkey := (callback.agrees _ _).zero.mp hzero
      cases hsearch : callback.linearEqualitySearch items item middle left right with
      | none =>
          apply placed_of_key h hmiddle hkey
          intro i hfound
          obtain ⟨hi, hilt⟩ := hinside hsmaller hgreater hfound
          exact absurd hfound
            (not_found_of_linearEqualitySearch h hright hmiddle hkey hsame hsearch hi hilt)
      | some index =>
          obtain ⟨-, -, hfound⟩ := found_of_linearEqualitySearch (by omega) (by omega) hsearch
          have ⟨y, hy, hykey, _⟩ := hfound
          exact placed_of_key h hy hykey fun _ _ => hfound
  | case5 left right hlt middle myItem hmiddle cmp hneg hzero ih =>
      have hpos : 0 < callback.compare myItem item := by omega
      refine ih (by omega) (by omega) hsmaller ?_
      intro i hi y hy
      exact lt_of_lt_of_le ((callback.agrees _ _).pos.mp hpos) (h.le hi hmiddle hy)
  | case6 left right hge =>
      obtain rfl : left = right := by omega
      refine ⟨hright, fun i hi y hy => le_of_lt (hsmaller i hi y hy),
        fun i hi y hy => le_of_lt (hgreater i hi y hy), ?_⟩
      intro i hfound
      obtain ⟨hi, hilt⟩ := hinside hsmaller hgreater hfound
      omega

theorem Kept.placed (h : callback.Kept items) (item : α) :
    callback.Placed items item (callback.findIndexOf items item 0 items.length) := by
  apply placed_findIndexOf h (Nat.zero_le _) (Nat.le_refl _)
  · intro i hi
    exact absurd hi (Nat.not_lt_zero i)
  · intro i hi y hy
    rw [List.getElem?_eq_none hi] at hy
    cases hy

theorem Kept.of_replaced (h : callback.Kept items) {y : α}
    (hy : callback.replaced items item = some y) :
    y ∈ items ∧ callback.key item ≤ callback.key y ∧ callback.areItemsTheSame y item = true := by
  obtain ⟨hget, hsame⟩ := Option.filter_eq_some_iff.mp hy
  exact ⟨List.mem_of_getElem? hget, (h.placed item).after _ (Nat.le_refl _) y hget, hsame⟩

/-- An item with the key of an added one that is the same makes place for it. -/
theorem Kept.replaced_of_same (h : callback.Kept items) {y : α} (hy : y ∈ items)
    (hkey : callback.key y = callback.key item) (hsame : callback.areItemsTheSame y item = true) :
    ∃ z, callback.replaced items item = some z ∧ callback.key z = callback.key item := by
  obtain ⟨i, hi⟩ := List.mem_iff_getElem?.mp hy
  obtain ⟨z, hz, hzkey, hzsame⟩ := (h.placed item).found i ⟨y, hi, hkey, hsame⟩
  exact ⟨z, Option.filter_eq_some_iff.mpr ⟨hz, hzsame⟩, hzkey⟩

/-- An add puts the item between smaller ones and greater ones and takes out at
most the one whose place it takes. -/
theorem Kept.add_spec (h : callback.Kept items) (item : α) :
    ∃ before after, callback.add items item = before ++ item :: after ∧
      (callback.replaced items item = none ∧ items = before ++ after ∨
        ∃ y, callback.replaced items item = some y ∧ items = before ++ y :: after) ∧
      (∀ y ∈ before, callback.key y ≤ callback.key item) ∧
      ∀ y ∈ after, callback.key item ≤ callback.key y := by
  let index := callback.findIndexOf items item 0 items.length
  have hplaced : callback.Placed items item index := h.placed item
  have hbefore : ∀ y ∈ items.take index, callback.key y ≤ callback.key item := by
    intro y hy
    obtain ⟨i, hi⟩ := List.mem_iff_getElem?.mp hy
    rw [List.getElem?_take, Option.ite_none_right_eq_some] at hi
    exact hplaced.before i hi.1 y hi.2
  have hafter : ∀ y ∈ items.drop index, callback.key item ≤ callback.key y := by
    intro y hy
    obtain ⟨i, hi⟩ := List.mem_iff_getElem?.mp hy
    rw [List.getElem?_drop] at hi
    exact hplaced.after _ (Nat.le_add_right ..) y hi
  have hinsert : items.insertIdx index item = items.take index ++ item :: items.drop index :=
    insertIdx_eq hplaced.bound
  cases hfound : items[index]? with
  | none =>
      refine ⟨items.take index, items.drop index, ?_, Or.inl ⟨?_, (List.take_append_drop ..).symm⟩,
        hbefore, hafter⟩
      · simp only [add, index] at hfound ⊢
        rw [hfound]
        exact hinsert
      · rw [replaced, hfound, Option.filter_none]
  | some existing =>
      obtain ⟨hlt, hget⟩ := List.getElem?_eq_some_iff.mp hfound
      have hdrop : items.drop index = existing :: items.drop (index + 1) := by
        rw [List.drop_eq_getElem_cons hlt, hget]
      by_cases hsame : callback.areItemsTheSame existing item = true
      · refine ⟨items.take index, items.drop (index + 1), ?_, Or.inr ⟨existing, ?_, ?_⟩, hbefore,
          fun y hy => hafter y (hdrop ▸ List.mem_cons_of_mem _ hy)⟩
        · simp only [add, index] at hfound ⊢
          rw [hfound]
          dsimp only
          rw [if_pos hsame, List.set_eq_take_append_cons_drop, if_pos hlt]
        · exact Option.filter_eq_some_iff.mpr ⟨hfound, hsame⟩
        · rw [← hdrop, List.take_append_drop]
      · refine ⟨items.take index, items.drop index, ?_,
          Or.inl ⟨?_, (List.take_append_drop ..).symm⟩, hbefore, hafter⟩
        · simp only [add, index] at hfound ⊢
          rw [hfound]
          dsimp only
          rw [if_neg hsame]
          exact hinsert
        · rw [replaced, hfound, Option.filter_some, if_neg hsame]

theorem Kept.mem_add_iff (h : callback.Kept items) (item y : α) :
    y ∈ callback.add items item ↔
      y = item ∨ (y ∈ items ∧ callback.replaced items item ≠ some y) := by
  obtain ⟨before, after, hadd, hitems, -, -⟩ := h.add_spec item
  rw [hadd]
  rcases hitems with ⟨hnone, rfl⟩ | ⟨existing, hsome, rfl⟩
  · simp only [hnone, List.mem_append, List.mem_cons, ne_eq, reduceCtorEq, not_false_eq_true,
      and_true]
    tauto
  · have hnodup := List.nodup_middle.mp h.nodup
    have hnotMem : existing ∉ before ++ after := (List.nodup_cons.mp hnodup).1
    rw [List.mem_append] at hnotMem
    simp only [hsome, List.mem_append, List.mem_cons, ne_eq, Option.some.injEq]
    constructor
    · rintro (hy | rfl | hy)
      · exact Or.inr ⟨Or.inl hy, fun heq => hnotMem (Or.inl (heq ▸ hy))⟩
      · exact Or.inl rfl
      · exact Or.inr ⟨Or.inr (Or.inr hy), fun heq => hnotMem (Or.inr (heq ▸ hy))⟩
    · rintro (rfl | ⟨hy | rfl | hy, hne⟩)
      · exact Or.inr (Or.inl rfl)
      · exact Or.inl hy
      · exact absurd rfl hne
      · exact Or.inr (Or.inr hy)

/-- None of the items that stay is the same as the added one and has its key. -/
theorem Kept.not_same_of_stays (h : callback.Kept items) {before after : List α}
    (hitems : callback.replaced items item = none ∧ items = before ++ after ∨
      ∃ y, callback.replaced items item = some y ∧ items = before ++ y :: after) {y : α}
    (hy : y ∈ before ∨ y ∈ after) (hkey : callback.key y = callback.key item) :
    callback.areItemsTheSame y item = false := by
  rw [← Bool.not_eq_true]
  intro hsame
  have hmem : y ∈ items := by
    rcases hitems with ⟨-, rfl⟩ | ⟨z, -, rfl⟩
    · exact List.mem_append.mpr hy
    · exact List.mem_append.mpr (hy.imp_right (List.mem_cons_of_mem z))
  obtain ⟨z, hz, hzkey⟩ := h.replaced_of_same hmem hkey hsame
  have hzsame := (h.of_replaced hz).2.2
  rcases hitems with ⟨hnone, -⟩ | ⟨z', hz', rfl⟩
  · rw [hnone] at hz
    cases hz
  · obtain rfl : z' = z := Option.some.inj (hz'.symm.trans hz)
    obtain ⟨-, hzafter, hcross⟩ := List.pairwise_append.mp h.apart
    rcases hy with hy | hy
    · have hapart := hcross y hy z' (List.mem_cons_self ..) (hkey.trans hzkey.symm)
      rw [callback.same_of_same y z' item hkey hzkey hsame hzsame] at hapart
      cases hapart
    · have hapart := (List.pairwise_cons.mp hzafter).1 y hy (hzkey.trans hkey.symm)
      rw [callback.same_of_same z' y item hzkey hkey hzsame hsame] at hapart
      cases hapart

theorem Kept.eq_of_same (h : callback.Kept items) {x y : α} (hx : x ∈ items) (hy : y ∈ items)
    (hkey : callback.key x = callback.key y) (hsame : callback.areItemsTheSame x y = true) :
    x = y := by
  have hleft : items.Pairwise fun x y =>
      callback.key x = callback.key y → callback.areItemsTheSame x y = true → x = y := by
    apply List.Pairwise.imp _ h.apart
    intro x y hapart hkey hsame
    rw [hapart hkey] at hsame
    cases hsame
  have hright : items.Pairwise fun x y =>
      callback.key y = callback.key x → callback.areItemsTheSame y x = true → y = x :=
    hleft.imp fun heq hkey hsame => (heq hkey.symm (same_symm hkey hsame)).symm
  exact List.Pairwise.forall_of_forall_of_flip (fun _ _ _ _ => rfl) hleft hright hx hy hkey hsame

theorem Kept.add (h : callback.Kept items) (item : α) :
    callback.Kept (callback.add items item) := by
  obtain ⟨before, after, hadd, hitems, hbefore, hafter⟩ := h.add_spec item
  have hstays {y : α} := h.not_same_of_stays hitems (y := y)
  have hsub : (before ++ after).Sublist items := by
    rcases hitems with ⟨-, rfl⟩ | ⟨y, -, rfl⟩
    · exact List.Sublist.refl _
    · simp
  obtain ⟨hsorted, hsorted', hcross⟩ := List.pairwise_append.mp (h.sorted.sublist hsub)
  obtain ⟨hapart, hapart', hcross'⟩ := List.pairwise_append.mp (h.apart.sublist hsub)
  rw [hadd]
  constructor
  · rw [List.pairwise_append, List.pairwise_cons]
    refine ⟨hsorted, ⟨hafter, hsorted'⟩, ?_⟩
    intro x hx y hy
    rcases List.mem_cons.mp hy with rfl | hy
    · exact hbefore x hx
    · exact hcross x hx y hy
  · rw [List.pairwise_append, List.pairwise_cons]
    refine ⟨hapart, ⟨?_, hapart'⟩, ?_⟩
    · intro y hy hkey
      rw [← Bool.not_eq_true]
      intro hsame
      exact absurd (same_symm hkey hsame) (Bool.eq_false_iff.mp (hstays (Or.inr hy) hkey.symm))
    · intro x hx y hy
      rcases List.mem_cons.mp hy with rfl | hy
      · exact hstays (Or.inl hx)
      · exact hcross' x hx y hy

end Adding

section Runs

variable (callback)

theorem added_concat (adds : List α) (item : α) :
    callback.added (adds ++ [item]) = callback.add (callback.added adds) item := by
  rw [added, List.foldl_append]
  rfl

theorem kept_added (adds : List α) : callback.Kept (callback.added adds) := by
  induction adds using List.reverseRecOn with
  | nil => exact ⟨List.Pairwise.nil, List.Pairwise.nil⟩
  | append_singleton adds item ih =>
      rw [added_concat]
      exact ih.add item

theorem mem_added_concat (adds : List α) (item y : α) :
    y ∈ callback.added (adds ++ [item]) ↔
      y = item ∨
        (y ∈ callback.added adds ∧ callback.replaced (callback.added adds) item ≠ some y) := by
  rw [added_concat]
  exact (callback.kept_added adds).mem_add_iff item y

/-- An item that makes place is added again, then or later. -/
def AddedAgain (adds : List α) (y : α) : Prop :=
  ∀ before item after, adds = before ++ item :: after →
    callback.replaced (callback.added before) item = some y → y ∈ item :: after

variable {callback}

/-- An add of a longer list is the last one or an add of the shorter one. -/
theorem concat_eq_append_cons {adds before after : List α} {item x : α}
    (h : adds ++ [item] = before ++ x :: after) :
    (after = [] ∧ x = item ∧ adds = before) ∨
      ∃ rest, after = rest ++ [item] ∧ adds = before ++ x :: rest := by
  rcases List.eq_nil_or_concat after with rfl | ⟨rest, last, rfl⟩
  · obtain ⟨hbefore, hx⟩ := List.append_inj' h rfl
    exact Or.inl ⟨rfl, (List.singleton_inj.mp hx).symm, hbefore⟩
  · have hconcat : adds ++ [item] = (before ++ x :: rest) ++ [last] := by
      rw [h]
      simp
    obtain ⟨hadds, hlast⟩ := List.append_inj' hconcat rfl
    refine Or.inr ⟨rest, ?_, hadds⟩
    rw [List.concat_eq_append, List.singleton_inj.mp hlast]

theorem addedAgain_concat {adds : List α} {item y : α} (hne : y ≠ item) :
    callback.AddedAgain (adds ++ [item]) y ↔
      callback.AddedAgain adds y ∧ callback.replaced (callback.added adds) item ≠ some y := by
  constructor
  · intro h
    constructor
    · intro before x after hadds hreplaced
      have hmem := h before x (after ++ [item]) (by rw [hadds]; simp) hreplaced
      simpa [hne] using hmem
    · intro hreplaced
      have hmem := h adds item [] rfl hreplaced
      simp [hne] at hmem
  · rintro ⟨h, hlast⟩ before x after hadds hreplaced
    rcases concat_eq_append_cons hadds with ⟨-, rfl, rfl⟩ | ⟨rest, rfl, rfl⟩
    · exact absurd hreplaced hlast
    · rcases List.mem_cons.mp (h before x rest rfl hreplaced) with rfl | hmem
      · exact List.mem_cons_self ..
      · exact List.mem_cons_of_mem _ (List.mem_append_left _ hmem)

/-- The items of a list are those that were added and, if they made place for
another one, added again. -/
theorem mem_added_iff (adds : List α) (y : α) :
    y ∈ callback.added adds ↔ y ∈ adds ∧ callback.AddedAgain adds y := by
  induction adds using List.reverseRecOn with
  | nil => simp [added]
  | append_singleton adds item ih =>
      rw [mem_added_concat]
      by_cases heq : y = item
      · subst heq
        simp only [true_or, List.mem_append, List.mem_singleton, or_true, true_and, true_iff]
        intro before x after hadds _
        rcases concat_eq_append_cons hadds with ⟨-, rfl, -⟩ | ⟨rest, rfl, -⟩
        · exact List.mem_cons_self ..
        · simp
      · rw [addedAgain_concat heq, ih]
        simp only [heq, false_or, List.mem_append, List.mem_singleton, or_false]
        tauto

/-- In their order the items are added without making place for each other. -/
theorem Kept.addedAgain (h : callback.Kept items) (y : α) : callback.AddedAgain items y := by
  rintro before item after rfl hreplaced
  obtain ⟨hmem, hle, hsame⟩ := (callback.kept_added before).of_replaced hreplaced
  have hbefore := ((mem_added_iff before y).mp hmem).1
  obtain ⟨-, -, hsorted⟩ := List.pairwise_append.mp h.sorted
  obtain ⟨-, -, hapart⟩ := List.pairwise_append.mp h.apart
  have hkey := le_antisymm (hsorted y hbefore item (List.mem_cons_self ..)) hle
  rw [hapart y hbefore item (List.mem_cons_self ..) hkey] at hsame
  cases hsame

/-- Adding the items of a list to an empty one gives the same items. -/
theorem mem_added_added (adds : List α) (y : α) :
    y ∈ callback.added (callback.added adds) ↔ y ∈ callback.added adds := by
  rw [mem_added_iff (callback.added adds)]
  exact and_iff_left ((callback.kept_added adds).addedAgain y)

end Runs

end SortedListCallback

end WifiProject.Lib
