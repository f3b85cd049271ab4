import Mathlib.Data.List.GetD

/-!
Base64 with the URL-safe alphabet and without padding or line breaks: three
bytes are four symbols of six bits, and one or two bytes at the end are two or
three symbols.
-/

namespace WifiProject.Lib.Base64

def alphabet : List Char :=
  "ABCDEFGHIJKLMNOPQRSTUVWXYZabcdefghijklmnopqrstuvwxyz0123456789-_".toList

/-- The values of the symbols. -/
def sextets : List UInt8 → List Nat
  | [] => []
  | [a] => [a.toNat / 4, a.toNat % 4 * 16]
  | [a, b] => [a.toNat / 4, a.toNat % 4 * 16 + b.toNat / 16, b.toNat % 16 * 4]
  | a :: b :: c :: bytes =>
      (a.toNat / 4) :: (a.toNat % 4 * 16 + b.toNat / 16) :: (b.toNat % 16 * 4 + c.toNat / 64) ::
        (c.toNat % 64) :: sextets bytes

/-- The bytes of the symbols. Bits that no byte needs are dropped. -/
def octets : List Nat → Option (List UInt8)
  | [] => some []
  | [_] => none
  | [w, x] => some [UInt8.ofNat (w * 4 + x / 16)]
  | [w, x, y] => some [UInt8.ofNat (w * 4 + x / 16), UInt8.ofNat (x % 16 * 16 + y / 4)]
  | w :: x :: y :: z :: values =>
      (octets values).map fun bytes =>
        UInt8.ofNat (w * 4 + x / 16) :: UInt8.ofNat (x % 16 * 16 + y / 4) ::
          UInt8.ofNat (y % 4 * 64 + z) :: bytes

def symbol (value : Nat) : Char := alphabet.getD value 'A'

def encode (bytes : List UInt8) : List Char := (sextets bytes).map symbol

def decode (text : List Char) : Option (List UInt8) :=
  if text.all (· ∈ alphabet) then octets (text.map alphabet.idxOf) else none

theorem sextets_lt (bytes : List UInt8) : ∀ value ∈ sextets bytes, value < 64 := by
  fun_induction sextets bytes with
  | case1 => simp
  | case2 a =>
      have ha := a.toNat_lt
      simp only [List.forall_mem_cons, List.not_mem_nil, false_implies, implies_true, and_true]
      omega
  | case3 a b =>
      have ha := a.toNat_lt
      have hb := b.toNat_lt
      simp only [List.forall_mem_cons, List.not_mem_nil, false_implies, implies_true, and_true]
      omega
  | case4 a b c bytes ih =>
      have ha := a.toNat_lt
      have hb := b.toNat_lt
      have hc := c.toNat_lt
      simp only [List.forall_mem_cons]
      refine ⟨by omega, by omega, by omega, by omega, ih⟩

/-- A byte is put together from its parts. -/
theorem ofNat_eq (byte : UInt8) {value : Nat} (h : value = byte.toNat) :
    UInt8.ofNat value = byte := by
  rw [h]
  exact UInt8.ofNat_toNat

theorem octets_sextets (bytes : List UInt8) : octets (sextets bytes) = some bytes := by
  fun_induction sextets bytes with
  | case1 => rfl
  | case2 a =>
      have ha := a.toNat_lt
      rw [octets, ofNat_eq a (by omega)]
  | case3 a b =>
      have ha := a.toNat_lt
      have hb := b.toNat_lt
      rw [octets, ofNat_eq a (by omega), ofNat_eq b (by omega)]
  | case4 a b c bytes ih =>
      have ha := a.toNat_lt
      have hb := b.toNat_lt
      have hc := c.toNat_lt
      rw [octets, ih, Option.map_some, ofNat_eq a (by omega),
        ofNat_eq b (by omega), ofNat_eq c (by omega)]

theorem idxOf_symbol {value : Nat} (h : value < 64) : alphabet.idxOf (symbol value) = value := by
  have hall : ∀ value < 64, alphabet.idxOf (symbol value) = value := by decide +kernel
  exact hall value h

theorem symbol_mem {value : Nat} (h : value < 64) : symbol value ∈ alphabet := by
  have hall : ∀ value < 64, symbol value ∈ alphabet := by decide +kernel
  exact hall value h

theorem mem_encode {bytes : List UInt8} {c : Char} (h : c ∈ encode bytes) : c ∈ alphabet := by
  obtain ⟨value, hvalue, rfl⟩ := List.mem_map.mp h
  exact symbol_mem (sextets_lt bytes value hvalue)

theorem decode_encode (bytes : List UInt8) : decode (encode bytes) = some bytes := by
  have hall : (encode bytes).all (· ∈ alphabet) = true := by
    rw [List.all_eq_true]
    intro c hc
    simpa using mem_encode hc
  have hvalues : (encode bytes).map alphabet.idxOf = sextets bytes := by
    have hmap : ∀ value ∈ sextets bytes, (alphabet.idxOf ∘ symbol) value = value :=
      fun value hvalue => idxOf_symbol (sextets_lt bytes value hvalue)
    rw [encode, List.map_map, List.map_congr_left hmap, List.map_id']
  rw [decode, if_pos hall, hvalues, octets_sextets]

end WifiProject.Lib.Base64
