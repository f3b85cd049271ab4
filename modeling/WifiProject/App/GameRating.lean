import Mathlib.Data.BitVec
import Mathlib.Data.Int.Basic

/-!
The rating of a network by `NetworkTestActivity`, from the average of three
pings. A host that does not answer counts with the largest `Int`, so the sum of
the pings may overflow.
-/

namespace WifiProject.App

/-- A Kotlin `Int`. -/
abbrev Word := BitVec 32

inductive GameRating where
  | excellent
  | fluent
  | normal
  deriving DecidableEq, Repr

def GameRating.rank : GameRating → Nat
  | .excellent => 0
  | .fluent => 1
  | .normal => 2

def GameRating.Better (x y : GameRating) : Prop := x.rank < y.rank

instance (x y : GameRating) : Decidable (x.Better y) :=
  inferInstanceAs (Decidable (x.rank < y.rank))

/-- What `delayTest` returned for the three hosts; no value is negative. -/
structure Pings where
  pingInt1 : Word
  pingInt2 : Word
  pingInt3 : Word
  nonneg : 0 ≤ pingInt1.toInt ∧ 0 ≤ pingInt2.toInt ∧ 0 ≤ pingInt3.toInt

namespace Pings

def average (pings : Pings) : Word := (pings.pingInt1 + pings.pingInt2 + pings.pingInt3).sdiv 3

/-- The text of `gameType` in `initView`. -/
def gameType (pings : Pings) : GameRating :=
  if pings.average.slt 50 then .excellent
  else if pings.average.slt 100 then .fluent
  else .normal

/-- The exact sum. -/
def total (pings : Pings) : Int :=
  pings.pingInt1.toInt + pings.pingInt2.toInt + pings.pingInt3.toInt

def Exact (pings : Pings) : Prop := pings.average.toInt = pings.total / 3

/-- No ping is below the other's. -/
def NotBelow (second first : Pings) : Prop :=
  first.pingInt1.toInt ≤ second.pingInt1.toInt ∧ first.pingInt2.toInt ≤ second.pingInt2.toInt ∧
    first.pingInt3.toInt ≤ second.pingInt3.toInt

end Pings

/-- The second sum does not overflow, or neither that nor the wrapped value of it
can be seen: the first rating is the best one, the first sum overflows too, or the
second comes round to a rating that is no better. -/
def KeepsOrder (first second : Int) : Prop :=
  second < 2 ^ 31 ∨ first < 150 ∨ 2 ^ 31 ≤ first ∨ 2 ^ 32 + 300 ≤ second ∨
    (first < 300 ∧ 2 ^ 32 + 150 ≤ second)

theorem tdiv_lt_iff {a b bound : Int} (hb : 0 < b) (hbound : 0 < bound) :
    a.tdiv b < bound ↔ a < bound * b := by
  constructor
  · exact Int.lt_mul_of_tdiv_lt hb
  · intro h
    by_cases ha : 0 ≤ a
    · rw [Int.tdiv_eq_ediv_of_nonneg ha]
      exact Int.ediv_lt_of_lt_mul hb h
    · have hquotient : (-a).tdiv b = -(a.tdiv b) := Int.neg_tdiv a b
      have hnonneg : 0 ≤ (-a).tdiv b := Int.tdiv_nonneg (by omega) (by omega)
      omega

section Sums

variable (pings : Pings)

theorem total_range : 0 ≤ pings.total ∧ pings.total < 3 * 2 ^ 31 := by
  obtain ⟨hfirst, hsecond, hthird⟩ := pings.nonneg
  have h1 := BitVec.toInt_lt (x := pings.pingInt1)
  have h2 := BitVec.toInt_lt (x := pings.pingInt2)
  have h3 := BitVec.toInt_lt (x := pings.pingInt3)
  unfold Pings.total
  omega

/-- The sum of three words wraps at most once. -/
theorem average_toInt : pings.average.toInt =
    (if pings.total < 2 ^ 31 then pings.total else pings.total - 2 ^ 32).tdiv 3 := by
  obtain ⟨hlow, hhigh⟩ := total_range pings
  have hthree : (3 : Word).toInt = 3 := by decide
  have hsum : (pings.pingInt1 + pings.pingInt2 + pings.pingInt3).toInt =
      pings.total.bmod (2 ^ 32) := by
    rw [BitVec.toInt_add, BitVec.toInt_add, Int.bmod_add_bmod]
    rfl
  rw [Pings.average, BitVec.toInt_sdiv_of_ne_or_ne _ _ (Or.inr (by decide)), hthree, hsum]
  congr 1
  split
  · exact Int.bmod_eq_of_le (by omega) (by omega)
  · rw [← Int.sub_bmod_right]
    exact Int.bmod_eq_of_le (by omega) (by omega)

theorem exact_iff : pings.Exact ↔ pings.total < 2 ^ 31 := by
  obtain ⟨hlow, hhigh⟩ := total_range pings
  rw [Pings.Exact, average_toInt]
  split
  · rename_i hfits
    rw [Int.tdiv_eq_ediv_of_nonneg hlow]
    exact ⟨fun _ => hfits, fun _ => rfl⟩
  · rename_i hwraps
    have hless : (pings.total - 2 ^ 32).tdiv 3 < pings.total / 3 :=
      (tdiv_lt_iff (by decide) (by omega)).mpr (by omega)
    omega

/-- The rating by the exact sum. -/
theorem gameType_eq : pings.gameType =
    if pings.total < 150 ∨ (2 ^ 31 ≤ pings.total ∧ pings.total < 2 ^ 32 + 150) then .excellent
    else if pings.total < 300 ∨ (2 ^ 31 ≤ pings.total ∧ pings.total < 2 ^ 32 + 300) then .fluent
    else .normal := by
  obtain ⟨hlow, hhigh⟩ := total_range pings
  have hbelow (bound : Int) (hpositive : 0 < bound) (hsmall : bound < 200) :
      pings.average.toInt < bound ↔ pings.total < bound * 3 ∨
        (2 ^ 31 ≤ pings.total ∧ pings.total < 2 ^ 32 + bound * 3) := by
    rw [average_toInt, tdiv_lt_iff (by decide) hpositive]
    split
    · omega
    · omega
  have hfifty : (50 : Word).toInt = 50 := by decide
  have hhundred : (100 : Word).toInt = 100 := by decide
  simp only [Pings.gameType, BitVec.slt_iff_toInt_lt, hfifty, hhundred,
    hbelow 50 (by decide) (by decide), hbelow 100 (by decide) (by decide)]
  rfl

end Sums

/-- With pings that are nowhere lower, the second rating is no better and both
averages are exact, exactly when the second sum fits into an `Int`; and the
rating alone is no better exactly when the order of the sums can still be seen. -/
theorem gameType_not_better_iff {first second : Pings} (h : second.NotBelow first) :
    ((¬ second.gameType.Better first.gameType ∧ first.Exact ∧ second.Exact) ↔
      second.total < 2 ^ 31) ∧
    (¬ second.gameType.Better first.gameType ↔ KeepsOrder first.total second.total) := by
  obtain ⟨hlow, -⟩ := total_range first
  obtain ⟨-, hhigh⟩ := total_range second
  have horder : first.total ≤ second.total := by
    unfold Pings.total
    obtain ⟨h1, h2, h3⟩ := h
    omega
  have hkeeps : ¬ second.gameType.Better first.gameType ↔
      KeepsOrder first.total second.total := by
    unfold GameRating.Better KeepsOrder
    rw [gameType_eq, gameType_eq]
    split_ifs
    all_goals
      simp only [GameRating.rank]
      omega
  constructor
  · rw [hkeeps, exact_iff, exact_iff]
    unfold KeepsOrder
    omega
  · exact hkeeps

theorem fast_nonneg : 0 ≤ (20 : Word).toInt ∧ 0 ≤ (30 : Word).toInt ∧ 0 ≤ (40 : Word).toInt := by
  decide

theorem slow_nonneg :
    0 ≤ (300 : Word).toInt ∧ 0 ≤ (300 : Word).toInt ∧ 0 ≤ (300 : Word).toInt := by
  decide

theorem unreachable_nonneg :
    0 ≤ (2147483647 : Word).toInt ∧ 0 ≤ (300 : Word).toInt ∧ 0 ≤ (300 : Word).toInt := by
  decide

def fast : Pings := ⟨20, 30, 40, fast_nonneg⟩
def slow : Pings := ⟨300, 300, 300, slow_nonneg⟩
def unreachable : Pings := ⟨2147483647, 300, 300, unreachable_nonneg⟩

theorem slow_not_better : ¬ slow.gameType.Better fast.gameType ∧ fast.Exact ∧ slow.Exact := by
  have hnotBelow : slow.NotBelow fast := ⟨by decide, by decide, by decide⟩
  exact (gameType_not_better_iff hnotBelow).1.mpr (by decide)

/-- A host that does not answer makes a slow network an excellent one. -/
theorem unreachable_better :
    unreachable.NotBelow slow ∧ unreachable.gameType.Better slow.gameType := by
  refine ⟨⟨by decide, by decide, by decide⟩, ?_⟩
  decide

end WifiProject.App
