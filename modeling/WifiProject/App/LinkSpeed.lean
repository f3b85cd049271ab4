import Mathlib.Algebra.Order.Field.Rat
import Mathlib.Data.Rat.Floor

/-!
Link speeds in percent, by `WifiUtil`. Both functions go through the same
standards, each of which may overwrite what the ones before it assigned; the
speed is set against a maximum, and for 802.11n that is 300 in a range that ends
at 600.
-/

namespace WifiProject.App

/-- `(int)` of a quotient that was taken exactly. -/
def truncate (quotient : ℚ) : ℤ := if 0 ≤ quotient then ⌊quotient⌋ else ⌈quotient⌉

/-- The standards up to 802.11ac; `share` is the percentage against a maximum. -/
def scaleValue (share : ℤ → ℤ) (initial frequency linkSpeed : ℤ) : ℤ :=
  let value := initial
  -- 802.11
  let value := if 2400 ≤ frequency ∧ frequency < 2600 ∧ linkSpeed ≤ 2 then share 2 else value
  -- 802.11a
  let value := if 5000 ≤ frequency ∧ frequency < 6000 ∧ linkSpeed ≤ 54 then share 54 else value
  -- 802.11b
  let value := if 2400 ≤ frequency ∧ frequency < 2600 ∧ linkSpeed ≤ 11 then share 11 else value
  -- 802.11g
  let value :=
    if 2400 ≤ frequency ∧ frequency < 2600 ∧ linkSpeed ≤ 54 ∧ 11 < linkSpeed then share 54 else value
  -- 802.11n
  let value := if frequency < 6000 ∧ linkSpeed ≤ 600 ∧ 54 < linkSpeed then share 300 else value
  -- 802.11ac
  if frequency < 6000 ∧ linkSpeed ≤ 7000 ∧ 600 < linkSpeed then
    let value := if linkSpeed ≤ 867 then share 867 else value
    let value := if linkSpeed ≤ 1740 then share 1740 else value
    let value := if linkSpeed ≤ 3480 then share 3480 else value
    if linkSpeed ≤ 6940 then share 6940 else value
  else value

def getlinkSpeedDifferLevelValue (frequency linkSpeed : ℤ) : ℤ :=
  let share (maximum : ℤ) : ℤ := truncate (((maximum - linkSpeed : ℤ) : ℚ) / maximum * 100)
  let differScaleValue := scaleValue share 10 frequency linkSpeed
  -- 802.11ad
  if 6000 < frequency ∧ 7000 < linkSpeed then 10 else differScaleValue

def getlinkSpeedLevelValue (frequency linkSpeed : ℤ) : ℤ :=
  let share (maximum : ℤ) : ℤ := truncate ((linkSpeed : ℚ) / maximum * 100)
  let speedScaleValue := scaleValue share 0 frequency linkSpeed
  -- 802.11ad
  let speedScaleValue := if 6000 < frequency ∧ 7000 < linkSpeed then 100 else speedScaleValue
  -- 802.11ax
  if frequency < 6000 ∧ 9000 < linkSpeed then 100 else speedScaleValue

def IsPercentage (value : ℤ) : Prop := 0 ≤ value ∧ value ≤ 100

instance (value : ℤ) : Decidable (IsPercentage value) :=
  inferInstanceAs (Decidable (0 ≤ value ∧ value ≤ 100))

/-- The documentation of both functions. -/
def GivesPercentages (frequency linkSpeed : ℤ) : Prop :=
  IsPercentage (getlinkSpeedLevelValue frequency linkSpeed) ∧
    IsPercentage (getlinkSpeedDifferLevelValue frequency linkSpeed)

/-- 802.11n beyond its nominal maximum, by more than truncation hides. -/
def FasterThanNominal (frequency linkSpeed : ℤ) : Prop :=
  frequency < 6000 ∧ 303 ≤ linkSpeed ∧ linkSpeed ≤ 600

section Truncation

theorem isPercentage_truncate_iff (quotient : ℚ) :
    IsPercentage (truncate quotient) ↔ -1 < quotient ∧ quotient < 101 := by
  unfold IsPercentage truncate
  split
  · rename_i hnonneg
    have hupper : ⌊quotient⌋ ≤ 100 ↔ quotient < 101 := by
      rw [← Int.lt_add_one_iff, Int.floor_lt]
      norm_num
    rw [hupper]
    constructor
    · exact fun h => ⟨by linarith, h.2⟩
    · exact fun h => ⟨Int.floor_nonneg.mpr hnonneg, h.2⟩
  · rename_i hneg
    have hlower : 0 ≤ ⌈quotient⌉ ↔ -1 < quotient := by
      rw [← Int.sub_one_lt_iff, Int.lt_ceil]
      norm_num
    rw [hlower]
    constructor
    · exact fun h => ⟨h.1, by linarith⟩
    · refine fun h => ⟨h.1, ?_⟩
      exact Int.ceil_le.mpr (by push_cast; linarith)

variable {linkSpeed maximum : ℤ}

theorem percent_lt_iff (hmaximum : 0 < maximum) :
    (linkSpeed : ℚ) / maximum * 100 < 101 ↔ 100 * linkSpeed < 101 * maximum := by
  have hpositive : (0 : ℚ) < maximum := by exact_mod_cast hmaximum
  rw [div_mul_eq_mul_div, div_lt_iff₀ hpositive, mul_comm (linkSpeed : ℚ)]
  norm_cast

theorem percent_nonneg (hmaximum : 0 < maximum) (hspeed : 0 ≤ linkSpeed) :
    (0 : ℚ) ≤ (linkSpeed : ℚ) / maximum * 100 := by
  have hpositive : (0 : ℚ) < maximum := by exact_mod_cast hmaximum
  have hnonneg : (0 : ℚ) ≤ linkSpeed := by exact_mod_cast hspeed
  positivity

/-- Truncation hides less than a hundredth of the maximum. -/
theorem isPercentage_share_iff (hmaximum : 0 < maximum) (hspeed : 0 ≤ linkSpeed) :
    IsPercentage (truncate ((linkSpeed : ℚ) / maximum * 100)) ↔
      100 * linkSpeed < 101 * maximum := by
  have hnonneg := percent_nonneg hmaximum hspeed
  rw [isPercentage_truncate_iff, percent_lt_iff hmaximum]
  constructor
  · exact fun h => h.2
  · exact fun h => ⟨by linarith, h⟩

theorem isPercentage_difference_iff (hmaximum : 0 < maximum) (hspeed : 0 ≤ linkSpeed) :
    IsPercentage (truncate (((maximum - linkSpeed : ℤ) : ℚ) / maximum * 100)) ↔
      100 * linkSpeed < 101 * maximum := by
  have hne : (maximum : ℚ) ≠ 0 := by exact_mod_cast ne_of_gt hmaximum
  have hnonneg := percent_nonneg hmaximum hspeed
  have hsplit : ((maximum - linkSpeed : ℤ) : ℚ) / maximum * 100 =
      100 - (linkSpeed : ℚ) / maximum * 100 := by
    push_cast
    field_simp
  rw [isPercentage_truncate_iff, hsplit, ← percent_lt_iff hmaximum]
  constructor
  · exact fun h => by linarith [h.1]
  · exact fun h => ⟨by linarith, by linarith⟩

end Truncation

section Standards

variable {frequency linkSpeed : ℤ}

/-- What is assigned under a condition keeps the range. -/
theorem isPercentage_ite {condition : Prop} [Decidable condition] {value old : ℤ}
    (hvalue : condition → IsPercentage value) (hold : IsPercentage old) :
    IsPercentage (if condition then value else old) := by
  split
  · rename_i h
    exact hvalue h
  · exact hold

/-- Only the maximum of 802.11n can be exceeded. -/
theorem isPercentage_scaleValue_iff {share : ℤ → ℤ} {initial : ℤ}
    (hinitial : IsPercentage initial)
    (hshare : ∀ maximum, 0 < maximum → (IsPercentage (share maximum) ↔
      100 * linkSpeed < 101 * maximum)) (hspeed : 0 ≤ linkSpeed) :
    IsPercentage (scaleValue share initial frequency linkSpeed) ↔
      ¬ FasterThanNominal frequency linkSpeed := by
  have hwithin (maximum : ℤ) (hmaximum : 0 < maximum) (hle : linkSpeed ≤ maximum) :
      IsPercentage (share maximum) := (hshare maximum hmaximum).mpr (by omega)
  unfold FasterThanNominal
  by_cases hnominal : frequency < 6000 ∧ linkSpeed ≤ 600 ∧ 54 < linkSpeed
  · have hvalue : scaleValue share initial frequency linkSpeed = share 300 := by
      unfold scaleValue
      rw [if_neg (by omega), if_pos hnominal]
    rw [hvalue, hshare 300 (by norm_num)]
    omega
  · have hslow : ¬ (frequency < 6000 ∧ 303 ≤ linkSpeed ∧ linkSpeed ≤ 600) := by omega
    refine iff_of_true ?_ hslow
    unfold scaleValue
    dsimp only
    rw [if_neg hnominal]
    -- Before 802.11n no standard is assigned to a speed above its maximum.
    have hbefore := isPercentage_ite
      (fun h : 2400 ≤ frequency ∧ frequency < 2600 ∧ linkSpeed ≤ 2 => hwithin 2 (by norm_num) h.2.2)
      hinitial
    have hbefore := isPercentage_ite
      (fun h : 5000 ≤ frequency ∧ frequency < 6000 ∧ linkSpeed ≤ 54 =>
        hwithin 54 (by norm_num) h.2.2) hbefore
    have hbefore := isPercentage_ite
      (fun h : 2400 ≤ frequency ∧ frequency < 2600 ∧ linkSpeed ≤ 11 =>
        hwithin 11 (by norm_num) h.2.2) hbefore
    have hbefore := isPercentage_ite
      (fun h : 2400 ≤ frequency ∧ frequency < 2600 ∧ linkSpeed ≤ 54 ∧ 11 < linkSpeed =>
        hwithin 54 (by norm_num) h.2.2.1) hbefore
    refine isPercentage_ite (fun _ => ?_) hbefore
    have hac := isPercentage_ite (hwithin 867 (by norm_num)) hbefore
    have hac := isPercentage_ite (hwithin 1740 (by norm_num)) hac
    have hac := isPercentage_ite (hwithin 3480 (by norm_num)) hac
    exact isPercentage_ite (hwithin 6940 (by norm_num)) hac

theorem isPercentage_level_iff (hspeed : 0 ≤ linkSpeed) :
    IsPercentage (getlinkSpeedLevelValue frequency linkSpeed) ↔
      ¬ FasterThanNominal frequency linkSpeed := by
  have hscale : IsPercentage (scaleValue _ 0 frequency linkSpeed) ↔ _ :=
    isPercentage_scaleValue_iff (by decide)
      (fun maximum hmaximum => isPercentage_share_iff hmaximum hspeed) hspeed
  unfold getlinkSpeedLevelValue
  dsimp only
  by_cases hfast : 7000 < linkSpeed
  · have hnot : ¬ FasterThanNominal frequency linkSpeed := by
      unfold FasterThanNominal
      omega
    refine iff_of_true ?_ hnot
    have hvalue := isPercentage_ite
      (fun _ : 6000 < frequency ∧ 7000 < linkSpeed => (by decide : IsPercentage 100))
      (hscale.mpr hnot)
    exact isPercentage_ite (fun _ => by decide) hvalue
  · rw [if_neg (by omega), if_neg (by omega)]
    exact hscale

theorem isPercentage_differ_iff (hspeed : 0 ≤ linkSpeed) :
    IsPercentage (getlinkSpeedDifferLevelValue frequency linkSpeed) ↔
      ¬ FasterThanNominal frequency linkSpeed := by
  have hscale : IsPercentage (scaleValue _ 10 frequency linkSpeed) ↔ _ :=
    isPercentage_scaleValue_iff (by decide)
      (fun maximum hmaximum => isPercentage_difference_iff hmaximum hspeed) hspeed
  unfold getlinkSpeedDifferLevelValue
  dsimp only
  by_cases hfast : 7000 < linkSpeed
  · have hnot : ¬ FasterThanNominal frequency linkSpeed := by
      unfold FasterThanNominal
      omega
    exact iff_of_true (isPercentage_ite (fun _ => by decide) (hscale.mpr hnot)) hnot
  · rw [if_neg (by omega)]
    exact hscale

/-- Both are percentages exactly if 802.11n is not faster than its nominal
maximum. -/
theorem givesPercentages_iff (frequency linkSpeed : ℤ) (hspeed : 0 ≤ linkSpeed) :
    GivesPercentages frequency linkSpeed ↔ ¬ FasterThanNominal frequency linkSpeed := by
  unfold GivesPercentages
  rw [isPercentage_level_iff hspeed, isPercentage_differ_iff hspeed, and_self]

theorem givesPercentages_nominal :
    0 ≤ (300 : ℤ) ∧ (GivesPercentages 2437 300 ↔ ¬ FasterThanNominal 2437 300) :=
  ⟨by decide, givesPercentages_iff 2437 300 (by decide)⟩

/-- At 450 Mbps one is above a hundred, the other below zero. -/
theorem not_givesPercentages_450 :
    getlinkSpeedLevelValue 2437 450 = 150 ∧ getlinkSpeedDifferLevelValue 2437 450 = -50 ∧
      ¬ GivesPercentages 2437 450 := by
  have hlevel : getlinkSpeedLevelValue 2437 450 = 150 := by decide +kernel
  have hdiffer : getlinkSpeedDifferLevelValue 2437 450 = -50 := by decide +kernel
  refine ⟨hlevel, hdiffer, fun h => ?_⟩
  have hrange := h.1
  rw [hlevel] at hrange
  exact absurd hrange (by decide)

end Standards

end WifiProject.App
