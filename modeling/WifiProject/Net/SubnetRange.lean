import WifiProject.Lib.Ranges
import WifiProject.Net.SubnetMatching

/-!
The addresses that a subnet matches, as a range of numbers.
-/

namespace WifiProject.Net

open Lib

namespace Subnet

/-- `toImmutable().matches(b)`. -/
def Matches (subnet : Subnet) (b : List UInt8) : Prop :=
  (subnet.toImmutable.bind fun immutable => immutable.matches b) = some true

/-- The bits after the prefix. -/
def hostBits (subnet : Subnet) : Nat := 8 * subnet.address.address.length - subnet.prefixSize

/-- From the address with these bits cleared to the one with all of them set. -/
def range (subnet : Subnet) : Range where
  first := bytesToNat subnet.address.address / 2 ^ subnet.hostBits * 2 ^ subnet.hostBits
  length := 2 ^ subnet.hostBits

/-- Nothing is set after the prefix. -/
def Aligned (subnet : Subnet) : Prop :=
  bytesToNat subnet.address.address % 2 ^ subnet.hostBits = 0

instance (subnet : Subnet) : Decidable subnet.Aligned := inferInstanceAs (Decidable (_ = _))

theorem mem_quotient_iff {x y size : Nat} (hsize : 0 < size) :
    x / size = y / size ↔ y / size * size ≤ x ∧ x < y / size * size + size := by
  rw [Nat.div_eq_iff hsize]
  constructor
  · rintro ⟨hle, hlt⟩
    exact ⟨hle, by omega⟩
  · rintro ⟨hle, hlt⟩
    exact ⟨hle, by omega⟩

theorem matches_iff_bits (subnet : Subnet) (b : List UInt8) :
    subnet.Matches b ↔ b.length = subnet.address.address.length ∧
      (bits b).take subnet.prefixSize = (bits subnet.address.address).take subnet.prefixSize := by
  rw [Matches, matches_eq_prefix, Option.some.injEq, decide_eq_true_iff]

theorem matches_iff_range (subnet : Subnet) (b : List UInt8) :
    subnet.Matches b ↔
      b.length = subnet.address.address.length ∧ subnet.range.Contains (bytesToNat b) := by
  rw [matches_iff_bits]
  refine and_congr_right fun hlength => ?_
  have hbits : (bits b).length = (bits subnet.address.address).length := by
    rw [length_bits, length_bits, hlength]
  rw [take_eq_take_iff hbits, binary_bits, binary_bits, length_bits, hlength]
  exact mem_quotient_iff (Nat.two_pow_pos _)

end Subnet

end WifiProject.Net
