import Mathlib.Algebra.Ring.Nat
import Mathlib.Data.BitVec
import Mathlib.Data.List.Basic

/-!
The bits of a byte string, most significant bit of each byte first, masks that
keep the first bits of a byte, and numbers as byte strings.
-/

namespace WifiProject.Lib

def byteBits (byte : UInt8) : List Bool := (List.range 8).map byte.toBitVec.getMsbD

def bits (bytes : List UInt8) : List Bool := bytes.flatMap byteBits

@[simp] theorem length_byteBits (byte : UInt8) : (byteBits byte).length = 8 := by
  simp [byteBits]

theorem byteBits_inj {x y : UInt8} : byteBits x = byteBits y ↔ x = y := by
  constructor
  · intro h
    apply UInt8.toBitVec_inj.mp
    apply BitVec.eq_of_getMsbD_eq
    intro i hi
    have hbit := congrArg (·[i]?) h
    simpa [byteBits, List.getElem?_range hi] using hbit
  · rintro rfl
    rfl

theorem bits_inj {xs ys : List UInt8} (hlength : xs.length = ys.length) (h : bits xs = bits ys) :
    xs = ys := by
  induction xs generalizing ys with
  | nil => exact (List.length_eq_zero_iff.mp hlength.symm).symm
  | cons x xs ih =>
      obtain ⟨y, ys, rfl⟩ := List.exists_cons_of_length_eq_add_one hlength.symm
      rw [bits, bits, List.flatMap_cons, List.flatMap_cons] at h
      obtain ⟨hbyte, hrest⟩ := List.append_inj h (by simp)
      rw [byteBits_inj.mp hbyte, ih (by simpa using hlength) hrest]

/-- Bit strings that have a byte in common to start with. -/
theorem take_bits_cons_iff {x y : UInt8} {xs ys : List UInt8} {n : Nat} (h : 8 ≤ n) :
    (bits (x :: xs)).take n = (bits (y :: ys)).take n ↔
      x = y ∧ (bits xs).take (n - 8) = (bits ys).take (n - 8) := by
  have htake (z : UInt8) (zs : List UInt8) :
      (bits (z :: zs)).take n = byteBits z ++ (bits zs).take (n - 8) := by
    rw [bits, List.flatMap_cons, List.take_append, length_byteBits,
      List.take_of_length_le (by simpa using h)]
    rfl
  rw [htake, htake]
  constructor
  · intro heq
    obtain ⟨hbyte, hrest⟩ := List.append_inj heq (by simp)
    exact ⟨byteBits_inj.mp hbyte, hrest⟩
  · rintro ⟨rfl, hrest⟩
    rw [hrest]

theorem take_bits_cons_of_lt {x : UInt8} {xs : List UInt8} {n : Nat} (h : n < 8) :
    (bits (x :: xs)).take n = (byteBits x).take n := by
  rw [bits, List.flatMap_cons, List.take_append_of_le_length]
  simp
  omega

/-- `(byte.toInt() and -(1 shl count)).toByte()` in 32-bit arithmetic. -/
def clearLow (count : Nat) (byte : UInt8) : UInt8 :=
  ⟨((byte.toBitVec.signExtend 32) &&& -(1#32 <<< count)).setWidth 8⟩

theorem getLsbD_neg_shift {count i : Nat} (hcount : count < 8) (hi : i < 8) :
    (-(1#32 <<< count)).getLsbD i = decide (count ≤ i) := by
  have hall : ∀ count < 8, ∀ i < 8, (-(1#32 <<< count)).getLsbD i = decide (count ≤ i) := by decide
  exact hall count hcount i hi

theorem getMsbD_clearLow {count i : Nat} (hcount : count < 8) (hi : i < 8) (byte : UInt8) :
    (clearLow count byte).toBitVec.getMsbD i =
      (byte.toBitVec.getMsbD i && decide (i < 8 - count)) := by
  have hneg := getLsbD_neg_shift hcount (show 8 - 1 - i < 8 by omega)
  have hwide : 8 - 1 - i < 32 := by omega
  have hnarrow : 8 - 1 - i < 8 := by omega
  have hlow : count ≤ 8 - 1 - i ↔ i < 8 - count := by omega
  simp only [clearLow, BitVec.getMsbD, hi, decide_true, Bool.true_and, BitVec.getLsbD_setWidth,
    BitVec.getLsbD_and, BitVec.getLsbD_signExtend, hneg, hwide, hnarrow, if_true, hlow]

/-- Two bytes agree after the low bits are cleared if they agree before. -/
theorem clearLow_eq_iff {count : Nat} (hcount : count < 8) (x y : UInt8) :
    clearLow count x = clearLow count y ↔
      (byteBits x).take (8 - count) = (byteBits y).take (8 - count) := by
  constructor
  · intro h
    apply List.ext_getElem?
    intro i
    by_cases hi : i < 8 - count
    · have hbit := congrArg (·.toBitVec.getMsbD i) h
      simp only [getMsbD_clearLow hcount (show i < 8 by omega), hi, decide_true, Bool.and_true] at hbit
      simp [byteBits, List.getElem?_take_of_lt hi, List.getElem?_range (show i < 8 by omega), hbit]
    · rw [List.getElem?_take_eq_none (by omega), List.getElem?_take_eq_none (by omega)]
  · intro h
    apply UInt8.toBitVec_inj.mp
    apply BitVec.eq_of_getMsbD_eq
    intro i hi
    rw [getMsbD_clearLow hcount hi, getMsbD_clearLow hcount hi]
    by_cases hlow : i < 8 - count
    · have hbit := congrArg (·[i]?) h
      simp only [List.getElem?_take_of_lt hlow, byteBits, List.getElem?_map,
        List.getElem?_range hi, Option.map_some, Option.some.injEq] at hbit
      rw [hbit]
    · simp [hlow]

/-- The number that bits stand for. -/
def binary (bits : List Bool) : Nat := bits.foldl (fun number bit => 2 * number + bit.toNat) 0

theorem foldl_binary (bits : List Bool) (number : Nat) :
    bits.foldl (fun number bit => 2 * number + bit.toNat) number =
      number * 2 ^ bits.length + binary bits := by
  induction bits generalizing number with
  | nil => simp [binary]
  | cons bit bits ih =>
      have hcons : binary (bit :: bits) = bit.toNat * 2 ^ bits.length + binary bits := by
        rw [binary, List.foldl_cons, ih, Nat.mul_zero, Nat.zero_add]
      rw [List.foldl_cons, ih, hcons, List.length_cons, pow_succ', Nat.add_mul, Nat.add_assoc,
        Nat.mul_comm 2 number, Nat.mul_assoc]

theorem binary_append (front back : List Bool) :
    binary (front ++ back) = binary front * 2 ^ back.length + binary back := by
  rw [binary, List.foldl_append, foldl_binary]
  rfl

theorem binary_cons (bit : Bool) (bits : List Bool) :
    binary (bit :: bits) = bit.toNat * 2 ^ bits.length + binary bits := by
  rw [← List.singleton_append, binary_append]
  simp [binary]

theorem binary_lt (bits : List Bool) : binary bits < 2 ^ bits.length := by
  induction bits with
  | nil => simp [binary]
  | cons bit bits ih =>
      rw [binary_cons, List.length_cons, pow_succ]
      cases bit <;> simp <;> omega

theorem binary_inj {bits bits' : List Bool} (hlength : bits.length = bits'.length)
    (h : binary bits = binary bits') : bits = bits' := by
  induction bits generalizing bits' with
  | nil => exact (List.length_eq_zero_iff.mp hlength.symm).symm
  | cons bit bits ih =>
      obtain ⟨bit', bits', rfl⟩ := List.exists_cons_of_length_eq_add_one hlength.symm
      have hlength' : bits.length = bits'.length := by simpa using hlength
      have hlt := binary_lt bits
      have hlt' := binary_lt bits'
      rw [binary_cons, binary_cons, hlength'] at h
      rw [hlength'] at hlt
      cases bit <;> cases bit' <;> simp at h
      · rw [ih hlength' h]
      · omega
      · omega
      · rw [ih hlength' h]

/-- Equal first bits are an equal quotient. -/
theorem take_eq_take_iff {bits bits' : List Bool} (hlength : bits.length = bits'.length) (n : Nat) :
    bits.take n = bits'.take n ↔
      binary bits / 2 ^ (bits.length - n) = binary bits' / 2 ^ (bits.length - n) := by
  have hquotient (l : List Bool) (hl : l.length = bits.length) :
      binary l / 2 ^ (bits.length - n) = binary (l.take n) := by
    have hdrop : (l.drop n).length = bits.length - n := by rw [List.length_drop, hl]
    have hlt := binary_lt (l.drop n)
    conv_lhs => rw [← List.take_append_drop n l, binary_append, hdrop]
    rw [hdrop] at hlt
    rw [Nat.mul_comm, Nat.mul_add_div (Nat.two_pow_pos _), Nat.div_eq_of_lt hlt, Nat.add_zero]
  rw [hquotient bits rfl, hquotient bits' hlength.symm]
  constructor
  · rintro h
    rw [h]
  · intro h
    refine binary_inj ?_ h
    rw [List.length_take, List.length_take, hlength]

theorem binary_byteBits (byte : UInt8) : binary (byteBits byte) = byte.toNat := by
  have hall : ∀ byte : Fin 256, binary (byteBits (UInt8.ofFin byte)) = byte.val := by
    decide +kernel
  exact hall byte.toFin

/-- The number that bytes stand for, the most significant one first. -/
def bytesToNat (bytes : List UInt8) : Nat :=
  bytes.foldl (fun number byte => number * 256 + byte.toNat) 0

theorem bytesToNat_concat (bytes : List UInt8) (byte : UInt8) :
    bytesToNat (bytes ++ [byte]) = bytesToNat bytes * 256 + byte.toNat := by
  simp [bytesToNat]

theorem binary_bits (bytes : List UInt8) : binary (bits bytes) = bytesToNat bytes := by
  induction bytes using List.reverseRecOn with
  | nil => rfl
  | append_singleton bytes byte ih =>
      rw [bytesToNat_concat, ← ih, bits, List.flatMap_append, List.flatMap_singleton, binary_append,
        binary_byteBits, length_byteBits]
      rfl

theorem length_bits (bytes : List UInt8) : (bits bytes).length = 8 * bytes.length := by
  induction bytes with
  | nil => rfl
  | cons byte bytes ih =>
      rw [bits, List.flatMap_cons, List.length_append, length_byteBits, List.length_cons]
      change 8 + (bits bytes).length = _
      omega

/-- The last bytes of a number, the most significant one first. -/
def bigEndian : Nat → Nat → List UInt8
  | 0, _ => []
  | count + 1, number => bigEndian count (number / 256) ++ [UInt8.ofNat number]

theorem length_bigEndian (count number : Nat) : (bigEndian count number).length = count := by
  induction count generalizing number with
  | zero => rfl
  | succ count ih => rw [bigEndian, List.length_append, ih, List.length_singleton]

theorem foldl_bigEndian (count number : Nat) :
    (bigEndian count number).foldl (fun number byte => number * 256 + byte.toNat) 0 =
      number % 256 ^ count := by
  induction count generalizing number with
  | zero => rw [pow_zero, Nat.mod_one]; rfl
  | succ count ih =>
      have hbyte : (UInt8.ofNat number).toNat = number % 256 := UInt8.toNat_ofNat'
      rw [bigEndian, List.foldl_append, ih, List.foldl_cons, List.foldl_nil, hbyte, pow_succ',
        Nat.mod_mul]
      omega

end WifiProject.Lib
