import Mathlib.Data.List.Lex
import Mathlib.Data.Prod.Lex
import WifiProject.Lib.SortedList

/-!
Comparisons that answer with the sign of a number, the orders they stand for,
and lists that are kept sorted by one: an item goes where binary search finds
its place.
-/

namespace WifiProject.Lib

section Keys

variable {β γ : Type} [LinearOrder β] [LinearOrder γ]

/-- The sign of the result is how the keys are ordered. -/
structure Agrees (result : Int) (a b : β) : Prop where
  neg : result < 0 ↔ a < b
  zero : result = 0 ↔ a = b

variable {result next : Int} {a b : β} {c d : γ}

theorem Agrees.pos (h : Agrees result a b) : 0 < result ↔ b < a := by
  have hneg := h.neg
  have hzero := h.zero
  constructor
  · intro hpos
    apply lt_of_le_of_ne
    · rw [← not_lt, ← hneg]
      omega
    · intro heq
      rw [hzero.mpr heq.symm] at hpos
      exact absurd hpos (lt_irrefl 0)
  · intro hlt
    have hnot : ¬ result < 0 := fun h => lt_asymm hlt (hneg.mp h)
    have hne : result ≠ 0 := fun h => ne_of_gt hlt (hzero.mp h)
    omega

/-- `x.compareTo(y)` on numbers. -/
def compareNumbers (x y : β) : Int := if x < y then -1 else if x = y then 0 else 1

theorem agrees_compareNumbers (x y : β) : Agrees (compareNumbers x y) x y := by
  unfold compareNumbers
  constructor
  · split
    · simp_all
    · split <;> simp_all
  · split
    · rename_i hlt
      simp [ne_of_lt hlt]
    · split <;> simp_all

/-- The first comparison that tells two things apart decides. -/
theorem Agrees.andThen (h : Agrees result a b) (hnext : a = b → Agrees next c d) :
    Agrees (if result ≠ 0 then result else next) (toLex (a, c)) (toLex (b, d)) := by
  by_cases hzero : result = 0
  · have heq := h.zero.mp hzero
    have hagrees := hnext heq
    subst heq
    rw [if_neg (not_not.mpr hzero)]
    constructor
    · rw [Prod.Lex.toLex_lt_toLex, hagrees.neg]
      simp
    · rw [hagrees.zero]
      simp
  · have hne : a ≠ b := fun heq => hzero (h.zero.mpr heq)
    rw [if_pos hzero]
    constructor
    · rw [Prod.Lex.toLex_lt_toLex, h.neg]
      simp [hne]
    · simp [hzero, hne]

end Keys

section Laws

variable {α β : Type} [LinearOrder β] {compare : α → α → Int} {key : α → β}

theorem sign_swap_of_agrees (h : ∀ x y, Agrees (compare x y) (key x) (key y)) (x y : α) :
    (compare y x).sign = -(compare x y).sign := by
  rcases lt_trichotomy (key x) (key y) with hlt | heq | hgt
  · rw [Int.sign_eq_neg_one_of_neg ((h x y).neg.mpr hlt),
      Int.sign_eq_one_of_pos ((h y x).pos.mpr hlt)]
    rfl
  · rw [(h x y).zero.mpr heq, (h y x).zero.mpr heq.symm]
    rfl
  · rw [Int.sign_eq_one_of_pos ((h x y).pos.mpr hgt),
      Int.sign_eq_neg_one_of_neg ((h y x).neg.mpr hgt)]

theorem trans_of_agrees (h : ∀ x y, Agrees (compare x y) (key x) (key y)) (x y z : α)
    (hxy : compare x y ≤ 0) (hyz : compare y z ≤ 0) : compare x z ≤ 0 := by
  rw [← not_lt, (h _ _).pos, not_lt] at hxy hyz ⊢
  exact le_trans hxy hyz

end Laws

/-- A comparison that is a total order and takes only equal things for equal. -/
structure Comparator (α : Type) where
  compare : α → α → Int
  sign_swap : ∀ x y, (compare y x).sign = -(compare x y).sign
  trans : ∀ x y z, compare x y ≤ 0 → compare y z ≤ 0 → compare x z ≤ 0
  zero_iff : ∀ x y, compare x y = 0 ↔ x = y

namespace Comparator

variable {α β : Type}

/-- Comparing by a key that nothing else has. -/
def ofKey [LinearOrder β] (compare : α → α → Int) (key : α → β) (hkey : Function.Injective key)
    (h : ∀ x y, Agrees (compare x y) (key x) (key y)) : Comparator α where
  compare := compare
  sign_swap := sign_swap_of_agrees h
  trans := trans_of_agrees h
  zero_iff := fun x y => (h x y).zero.trans hkey.eq_iff

variable (comparator : Comparator α) {x y z : α}

theorem compare_self (x : α) : comparator.compare x x = 0 := (comparator.zero_iff x x).mpr rfl

theorem pos_iff : 0 < comparator.compare x y ↔ comparator.compare y x < 0 := by
  rw [← Int.sign_eq_one_iff_pos, ← Int.sign_eq_neg_one_iff_neg, comparator.sign_swap x y]
  omega

theorem lt_trans (hxy : comparator.compare x y < 0) (hyz : comparator.compare y z < 0) :
    comparator.compare x z < 0 := by
  apply lt_of_le_of_ne (comparator.trans x y z (le_of_lt hxy) (le_of_lt hyz))
  intro hzero
  -- Then `z` is `x`, and `y` would be on both sides of it.
  have heq := (comparator.zero_iff x z).mp hzero
  subst heq
  have hpos := comparator.pos_iff.mpr hyz
  omega

/-- Each item comes before the next. -/
def Increasing (items : List α) : Prop := items.Pairwise fun x y => comparator.compare x y < 0

variable {comparator}

theorem Increasing.nodup {items : List α} (h : comparator.Increasing items) : items.Nodup := by
  apply List.Pairwise.imp _ h
  rintro x y hlt rfl
  rw [comparator.compare_self] at hlt
  exact absurd hlt (lt_irrefl 0)

end Comparator

end WifiProject.Lib
