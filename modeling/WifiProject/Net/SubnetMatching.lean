import WifiProject.Lib.Bits
import WifiProject.Net.Subnet

/-!
`Subnet.Immutable`: the bytes of a subnet with everything after the prefix
cleared, and matching against them. Reading past the end of an array is `none`.
-/

namespace WifiProject.Net

open Lib

namespace Subnet

structure Immutable where
  a : List UInt8
  prefixSize : Nat
  deriving DecidableEq, Repr

/-- `while (i < it.size) it[i++] = 0`. -/
def zeroFrom (i : Nat) (it : List UInt8) : List UInt8 :=
  if i < it.length then zeroFrom (i + 1) (it.set i 0) else it
termination_by it.length - i
decreasing_by
  rw [List.length_set]
  omega

def toImmutable (subnet : Subnet) : Option Immutable :=
  let it := subnet.address.address
  let i := subnet.prefixSize / 8
  if subnet.prefixSize % 8 > 0 then
    it[i]?.map fun byte =>
      ⟨zeroFrom (i + 1) (it.set i (clearLow (i * 8 + 8 - subnet.prefixSize) byte)), subnet.prefixSize⟩
  else some ⟨zeroFrom i it, subnet.prefixSize⟩

/-- The loop of `matches` and what follows it. -/
def matchesFrom (a b : List UInt8) (prefixSize i : Nat) : Option Bool :=
  if i * 8 < prefixSize ∧ i * 8 + 8 ≤ prefixSize then
    a[i]?.bind fun x => b[i]?.bind fun y =>
      if x ≠ y then some false else matchesFrom a b prefixSize (i + 1)
  else if i * 8 = prefixSize then some true
  else a[i]?.bind fun x => b[i]?.map fun y => x == clearLow (i * 8 + 8 - prefixSize) y
termination_by prefixSize - i * 8

def Immutable.matches (immutable : Immutable) (b : List UInt8) : Option Bool :=
  if immutable.a.length ≠ b.length then some false
  else matchesFrom immutable.a b immutable.prefixSize 0

/-! What is left of an address. -/

theorem zeroFrom_spec (i : Nat) (it : List UInt8) :
    (zeroFrom i it).length = it.length ∧ ∀ j < i, (zeroFrom i it)[j]? = it[j]? := by
  fun_induction zeroFrom i it with
  | case1 i it hlt ih =>
      obtain ⟨hlength, hsame⟩ := ih
      refine ⟨hlength.trans (List.length_set ..), ?_⟩
      intro j hj
      rw [hsame j (by omega), List.getElem?_set_ne (by omega)]
  | case2 i it hlt => exact ⟨rfl, fun _ _ => rfl⟩

/-- The bytes of the prefix, and the last one as far as it belongs to it. -/
structure Truncates (prefixSize : Nat) (bytes a : List UInt8) : Prop where
  length : a.length = bytes.length
  whole : ∀ j, j * 8 + 8 ≤ prefixSize → a[j]? = bytes[j]?
  part : ∀ j, j * 8 < prefixSize → prefixSize < j * 8 + 8 →
    a[j]? = bytes[j]?.map (clearLow (j * 8 + 8 - prefixSize))

theorem toImmutable_spec (subnet : Subnet) : ∃ a, subnet.toImmutable = some ⟨a, subnet.prefixSize⟩ ∧
    Truncates subnet.prefixSize subnet.address.address a := by
  obtain ⟨address, size, hrange⟩ := subnet
  unfold toImmutable
  dsimp only at hrange ⊢
  split
  · rename_i hpart
    have hlt : size / 8 < address.address.length := by omega
    obtain ⟨hlength, hsame⟩ := zeroFrom_spec (size / 8 + 1) (address.address.set (size / 8)
      (clearLow (size / 8 * 8 + 8 - size) (address.address[size / 8])))
    rw [List.getElem?_eq_getElem hlt, Option.map_some]
    refine ⟨_, rfl, hlength.trans (List.length_set ..), ?_, ?_⟩
    · intro j hj
      rw [hsame j (by omega), List.getElem?_set_ne (by omega)]
    · intro j hj hj'
      have heq : j = size / 8 := by omega
      subst heq
      rw [hsame _ (by omega), List.getElem?_set_self hlt, List.getElem?_eq_getElem hlt, Option.map_some]
  · obtain ⟨hlength, hsame⟩ := zeroFrom_spec (size / 8) address.address
    refine ⟨_, rfl, hlength, ?_, ?_⟩
    · intro j hj
      exact hsame j (by omega)
    · intro j hj hj'
      omega

/-! Matching. -/

theorem drop_eq_cons {bytes : List UInt8} {i : Nat} {x : UInt8} (h : bytes[i]? = some x) :
    bytes.drop i = x :: bytes.drop (i + 1) := by
  obtain ⟨hlt, rfl⟩ := List.getElem?_eq_some_iff.mp h
  exact List.drop_eq_getElem_cons hlt

/-- The loop compares what is left of the prefix. -/
theorem matchesFrom_eq {prefixSize : Nat} {bytes a b : List UInt8} (h : Truncates prefixSize bytes a)
    (hb : b.length = bytes.length) (hrange : prefixSize ≤ 8 * bytes.length) (i : Nat)
    (hi : i * 8 ≤ prefixSize) :
    matchesFrom a b prefixSize i = some (decide ((bits (b.drop i)).take (prefixSize - i * 8) =
      (bits (bytes.drop i)).take (prefixSize - i * 8))) := by
  fun_induction matchesFrom a b prefixSize i with
  | case1 i hloop ih =>
      obtain ⟨x, hx⟩ : ∃ x, bytes[i]? = some x := ⟨_, List.getElem?_eq_getElem (by omega)⟩
      obtain ⟨y, hy⟩ : ∃ y, b[i]? = some y := ⟨_, List.getElem?_eq_getElem (by omega)⟩
      have ha : a[i]? = some x := (h.whole i hloop.2).trans hx
      have hrest : prefixSize - i * 8 - 8 = prefixSize - (i + 1) * 8 := by omega
      rw [ha, hy, Option.bind_some, Option.bind_some, drop_eq_cons hx, drop_eq_cons hy]
      simp only [take_bits_cons_iff (show 8 ≤ prefixSize - i * 8 by omega), hrest]
      by_cases heq : x = y
      · rw [if_neg (by simpa using heq), ih (by omega)]
        simp [heq]
      · rw [if_pos heq]
        simp [Ne.symm heq]
  | case2 i hloop hend =>
      simp [hend]
  | case3 i hloop hend =>
      obtain ⟨x, hx⟩ : ∃ x, bytes[i]? = some x := ⟨_, List.getElem?_eq_getElem (by omega)⟩
      obtain ⟨y, hy⟩ : ∃ y, b[i]? = some y := ⟨_, List.getElem?_eq_getElem (by omega)⟩
      have ha : a[i]? = some (clearLow (i * 8 + 8 - prefixSize) x) := by
        rw [h.part i (by omega) (by omega), hx, Option.map_some]
      have hpart : prefixSize - i * 8 = 8 - (i * 8 + 8 - prefixSize) := by omega
      rw [ha, hy, Option.bind_some, Option.map_some, drop_eq_cons hx, drop_eq_cons hy,
        take_bits_cons_of_lt (by omega), take_bits_cons_of_lt (by omega), hpart]
      have hmask := clearLow_eq_iff (show i * 8 + 8 - prefixSize < 8 by omega) y x
      simp only [Option.some.injEq, ← hmask]
      rw [beq_eq_decide, decide_eq_decide]
      exact eq_comm

/-- Matching is equality of the first bits. -/
theorem matches_eq_prefix (subnet : Subnet) (b : List UInt8) :
    (subnet.toImmutable.bind fun immutable => immutable.matches b) =
      some (decide (b.length = subnet.address.address.length ∧
        (bits b).take subnet.prefixSize = (bits subnet.address.address).take subnet.prefixSize)) := by
  obtain ⟨a, himmutable, htruncates⟩ := toImmutable_spec subnet
  rw [himmutable, Option.bind_some, Immutable.matches]
  dsimp only
  rw [htruncates.length]
  by_cases hlength : b.length = subnet.address.address.length
  · have hloop := matchesFrom_eq htruncates hlength subnet.inRange 0 (by omega)
    rw [if_neg (by simpa using hlength.symm), hloop]
    simp [hlength]
  · rw [if_pos (Ne.symm hlength)]
    simp [hlength]

end Subnet

end WifiProject.Net
