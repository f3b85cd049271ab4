import WifiProject.Lib.NeighbourSearch
import WifiProject.Net.Subnet

/-!
The order of `Subnet`s and the sorted lists that `Acl` keeps them in: IPv4 first,
then the bytes of the address as unsigned numbers, then the prefix.
-/

namespace WifiProject.Net

open Lib

/-- `BaseSorter.compare`. -/
def BaseSorter.compare {T : Type} (compareNonNull : T → T → Int) : Option T → Option T → Int
  | none, none => 0
  | none, some _ => 1
  | some _, none => -1
  | some o1, some o2 => compareNonNull o1 o2

/-- `Byte.unsigned()`: `toInt() and 0xFF`. -/
def unsigned (byte : UInt8) : Int := ((byte.toBitVec.signExtend 32) &&& 0xFF#32).toInt

namespace Subnet

/-- The loop of `compareTo`. -/
def compareBytes : List UInt8 → List UInt8 → Int
  | x :: addrThis, y :: addrThat =>
      let result := compareNumbers (unsigned x) (unsigned y)
      if result ≠ 0 then result else compareBytes addrThis addrThat
  | _, _ => 0

def compareTo (this other : Subnet) : Int :=
  let addrThis := this.address.address
  let addrThat := other.address.address
  let result := compareNumbers addrThis.length addrThat.length
  if result ≠ 0 then result
  else
    let result := compareBytes addrThis addrThat
    if result ≠ 0 then result else compareNumbers this.prefixSize other.prefixSize

def equals (this : Subnet) : Option Subnet → Bool
  | none => false
  | some that => this.address == that.address && this.prefixSize == that.prefixSize

end Subnet

namespace SubnetSorter

def compare (o1 o2 : Option Subnet) : Int := BaseSorter.compare Subnet.compareTo o1 o2

def areItemsTheSame (item1 item2 : Option Subnet) : Bool :=
  match item1 with
  | none => item2.isNone
  | some item1 => item1.equals item2

/-- `SortedList(Subnet::class.java, SubnetSorter)` after some adds. -/
def items (adds : List Subnet) : List Subnet :=
  adds.foldl (addSorted (fun x y => compare (some x) (some y))
    fun x y => areItemsTheSame (some x) (some y)) []

end SubnetSorter

section Order

theorem unsigned_eq (byte : UInt8) : unsigned byte = byte.toNat := by
  have hmask : ∀ i < 32, (0xFF#32).getLsbD i = decide (i < 8) := by decide
  have hbits : (byte.toBitVec.signExtend 32) &&& 0xFF#32 = byte.toBitVec.setWidth 32 := by
    apply BitVec.eq_of_getLsbD_eq
    intro i hi
    rw [BitVec.getLsbD_and, hmask i hi, BitVec.getLsbD_signExtend, BitVec.getLsbD_setWidth]
    by_cases hlow : i < 8
    · simp [hi, hlow]
    · simp [hlow, BitVec.getLsbD_of_ge _ i (by omega : 8 ≤ i)]
  have hlt := byte.toBitVec.isLt
  rw [unsigned, hbits, BitVec.toInt_eq_toNat_of_lt]
  · rw [BitVec.toNat_setWidth, Nat.mod_eq_of_lt (by omega)]
    rfl
  · rw [BitVec.toNat_setWidth, Nat.mod_eq_of_lt (by omega)]
    omega

theorem unsigned_injective : Function.Injective unsigned := by
  intro x y h
  rw [unsigned_eq, unsigned_eq] at h
  exact UInt8.toNat_inj.mp (Int.ofNat_inj.mp h)

/-- Addresses of one length are compared as lists of unsigned bytes. -/
theorem agrees_compareBytes {addrThis addrThat : List UInt8}
    (hlength : addrThis.length = addrThat.length) :
    Agrees (Subnet.compareBytes addrThis addrThat) (addrThis.map unsigned)
      (addrThat.map unsigned) := by
  induction addrThis generalizing addrThat with
  | nil =>
      obtain rfl := List.length_eq_zero_iff.mp hlength.symm
      exact ⟨by simp [Subnet.compareBytes], by simp [Subnet.compareBytes]⟩
  | cons x addrThis ih =>
      cases addrThat with
      | nil => cases hlength
      | cons y addrThat =>
          have hfirst := agrees_compareNumbers (unsigned x) (unsigned y)
          have hrest := ih (Nat.succ.inj hlength)
          have hboth := hfirst.andThen fun _ => hrest
          rw [Subnet.compareBytes, List.map_cons, List.map_cons]
          constructor
          · rw [hboth.neg, Prod.Lex.toLex_lt_toLex, List.cons_lt_cons_iff]
          · rw [hboth.zero, List.cons.injEq, EmbeddingLike.apply_eq_iff_eq, Prod.mk.injEq]

namespace Subnet

/-- What subnets are ordered by. -/
def key (subnet : Subnet) : ℕ ×ₗ (List ℤ ×ₗ ℕ) :=
  toLex (subnet.address.address.length,
    toLex (subnet.address.address.map unsigned, subnet.prefixSize))

theorem key_injective : Function.Injective key := by
  intro x y h
  simp only [key, EmbeddingLike.apply_eq_iff_eq, Prod.mk.injEq] at h
  obtain ⟨-, hbytes, hprefix⟩ := h
  have haddress := List.map_injective_iff.mpr unsigned_injective hbytes
  obtain ⟨⟨_, _⟩, _, _⟩ := x
  obtain ⟨⟨_, _⟩, _, _⟩ := y
  dsimp only at haddress hprefix
  subst haddress hprefix
  rfl

theorem agrees_compareTo (x y : Subnet) : Agrees (x.compareTo y) x.key y.key := by
  apply (agrees_compareNumbers x.address.address.length y.address.address.length).andThen
  intro hlength
  exact (agrees_compareBytes hlength).andThen fun _ => agrees_compareNumbers _ _

theorem equals_iff (x y : Subnet) : x.equals (some y) = true ↔ x = y := by
  obtain ⟨_, _, _⟩ := x
  obtain ⟨_, _, _⟩ := y
  simp [equals]

def comparator : Comparator Subnet := .ofKey compareTo key key_injective agrees_compareTo

end Subnet

end Order

/-- `SubnetSorter` on subnets that are there. -/
def SubnetSorter.callback : SortedListCallback Subnet (ℕ ×ₗ (List ℤ ×ₗ ℕ)) where
  compare x y := compare (some x) (some y)
  areItemsTheSame x y := areItemsTheSame (some x) (some y)
  key := Subnet.key
  agrees := Subnet.agrees_compareTo
  same_self x := (Subnet.equals_iff x x).mpr rfl
  same_of_same := by
    intro x y z hx hy _ _
    exact (Subnet.equals_iff x y).mpr (Subnet.key_injective (hx.trans hy.symm))

/-- Equal subnets are the same, so a list of them adds by binary search alone. -/
theorem SubnetSorter.items_eq_added (adds : List Subnet) : items adds = callback.added adds := by
  have hsame : ∀ x y, callback.compare x y = 0 → callback.areItemsTheSame x y = true :=
    fun x y hzero =>
      (Subnet.equals_iff x y).mpr (Subnet.key_injective ((callback.agrees x y).zero.mp hzero))
  have hadd : callback.add = addSorted callback.compare callback.areItemsTheSame := by
    funext items item
    exact SortedListCallback.add_eq_addSorted hsame items item
  rw [SortedListCallback.added, hadd]
  rfl

/-- A `SortedList` of subnets, as the lists of an `Acl` are given. -/
def SubnetSorter.sorter : Sorter Subnet Eq := .byBinarySearch Subnet.comparator Subnet.equals_iff

/-- `compareTo` is a total order that agrees with `equals`, and so a list of
subnets is strictly increasing and holds each of them once. -/
theorem compareTo_totalOrder :
    (∀ x y : Subnet, (y.compareTo x).sign = -(x.compareTo y).sign) ∧
    (∀ x y z : Subnet, x.compareTo y ≤ 0 → y.compareTo z ≤ 0 → x.compareTo z ≤ 0) ∧
    (∀ x y : Subnet, x.compareTo y = 0 ↔ x.equals (some y) = true) ∧
    ∀ adds : List Subnet, (SubnetSorter.items adds).Pairwise (fun x y => x.compareTo y < 0) ∧
      ∀ subnet, (SubnetSorter.items adds).count subnet = if subnet ∈ adds then 1 else 0 := by
  refine ⟨Subnet.comparator.sign_swap, Subnet.comparator.trans, ?_, ?_⟩
  · intro x y
    rw [Subnet.equals_iff]
    exact Subnet.comparator.zero_iff x y
  · intro adds
    exact ⟨increasing_sortedItems Subnet.comparator Subnet.equals_iff adds,
      count_sortedItems Subnet.comparator Subnet.equals_iff adds⟩

end WifiProject.Net
