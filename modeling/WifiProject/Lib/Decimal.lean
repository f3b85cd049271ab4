import Mathlib.Algebra.Ring.Nat
import Mathlib.Data.List.Basic

/-!
Decimal numbers in text, as a 32-bit `parseInt` reads them: an optional sign and
at least one decimal digit of any script. A 64-bit `parseLong` reads other bases too.
-/

namespace WifiProject.Lib.Decimal

/-- The zeros of the decimal digits that `Character.digit` knows. -/
def digitZeros : List Nat :=
  [0x0030, 0x0660, 0x06F0, 0x07C0, 0x0966, 0x09E6, 0x0A66, 0x0AE6, 0x0B66, 0x0BE6, 0x0C66, 0x0CE6,
    0x0D66, 0x0DE6, 0x0E50, 0x0ED0, 0x0F20, 0x1040, 0x1090, 0x17E0, 0x1810, 0x1946, 0x19D0, 0x1A80,
    0x1A90, 0x1B50, 0x1BB0, 0x1C40, 0x1C50, 0xA620, 0xA8D0, 0xA900, 0xA9D0, 0xA9F0, 0xAA50, 0xABF0,
    0xFF10]

def digit (c : Char) : Option Nat :=
  (digitZeros.find? fun base => base ≤ c.toNat ∧ c.toNat < base + 10).map (c.toNat - ·)

def parseDigits (digits : List Char) : Option Nat :=
  if digits.isEmpty then none
  else digits.foldlM (fun value c => (digit c).map (value * 10 + ·)) 0

/-- `Integer.parseInt`; `none` is a `NumberFormatException`. -/
def parseInt (text : String) : Option Int :=
  match text.toList with
  | '-' :: digits =>
      (parseDigits digits).bind fun value => if value ≤ 2 ^ 31 then some (-(value : Int)) else none
  | '+' :: digits =>
      (parseDigits digits).bind fun value => if value < 2 ^ 31 then some (value : Int) else none
  | digits =>
      (parseDigits digits).bind fun value => if value < 2 ^ 31 then some (value : Int) else none

theorem digit_of_isDigit {c : Char} (h : c.isDigit = true) : digit c = some (c.toNat - 48) := by
  have hrange : 48 ≤ c.toNat ∧ c.toNat ≤ 57 := by
    simpa [Char.isDigit, UInt32.le_iff_toNat_le] using h
  have hascii : 48 ≤ c.toNat ∧ c.toNat < 48 + 10 := by omega
  simp [digit, digitZeros, hascii]

theorem foldlM_of_isDigit (digits : List Char) (value : Nat)
    (h : ∀ c ∈ digits, c.isDigit = true) :
    digits.foldlM (fun value c => (digit c).map (value * 10 + ·)) value =
      some (Nat.ofDigitChars 10 digits value) := by
  induction digits generalizing value with
  | nil => rfl
  | cons c digits ih =>
      rw [List.forall_mem_cons] at h
      rw [List.foldlM_cons, digit_of_isDigit h.1, Nat.ofDigitChars_cons, Nat.mul_comm 10]
      exact ih _ h.2

theorem toDigits_isDigit (n : Nat) : ∀ c ∈ Nat.toDigits 10 n, c.isDigit = true :=
  fun _ hc => Nat.isDigit_of_mem_toDigits (by omega) (by omega) hc

/-- Printing and reading digits agree. -/
theorem parseDigits_toDigits (n : Nat) : parseDigits (Nat.toDigits 10 n) = some n := by
  have hne : (Nat.toDigits 10 n).isEmpty = false := by simp
  rw [parseDigits, hne, foldlM_of_isDigit _ _ (toDigits_isDigit n), Nat.ofDigitChars_ten_toDigits]
  rfl

theorem toDigits_inj {m n : Nat} : Nat.toDigits 10 m = Nat.toDigits 10 n ↔ m = n := by
  constructor
  · intro h
    have hvalue := parseDigits_toDigits m
    rw [h, parseDigits_toDigits] at hvalue
    exact (Option.some.inj hvalue).symm
  · rintro rfl
    rfl

theorem minus_not_mem_toDigits (n : Nat) : '-' ∉ Nat.toDigits 10 n := by
  intro hmem
  exact absurd (toDigits_isDigit n '-' hmem) (by decide)

section Signed

theorem toList_toString_ofNat (n : Nat) :
    (toString (Int.ofNat n)).toList = Nat.toDigits 10 n := by
  change (Nat.repr n).toList = _
  rw [Nat.repr, String.toList_ofList]

theorem toList_toString_negSucc (n : Nat) :
    (toString (Int.negSucc n)).toList = '-' :: Nat.toDigits 10 (n + 1) := by
  change ("-" ++ Nat.repr (n + 1)).toList = _
  simp [Nat.repr]

/-- The text of a number is a sign and digits. -/
theorem minus_or_digit_of_mem {number : Int} {c : Char} (h : c ∈ (toString number).toList) :
    c = '-' ∨ c.isDigit = true := by
  cases number with
  | ofNat n =>
      rw [toList_toString_ofNat] at h
      exact Or.inr (toDigits_isDigit n c h)
  | negSucc n =>
      rw [toList_toString_negSucc] at h
      rcases List.mem_cons.mp h with rfl | h
      · exact Or.inl rfl
      · exact Or.inr (toDigits_isDigit _ c h)

/-- Different numbers have different texts. -/
theorem toString_inj {m n : Int} (h : (toString m).toList = (toString n).toList) : m = n := by
  cases m with
  | ofNat m =>
      cases n with
      | ofNat n =>
          rw [toList_toString_ofNat, toList_toString_ofNat, toDigits_inj] at h
          rw [h]
      | negSucc n =>
          rw [toList_toString_ofNat, toList_toString_negSucc] at h
          exact absurd (h ▸ List.mem_cons_self ..) (minus_not_mem_toDigits m)
  | negSucc m =>
      cases n with
      | ofNat n =>
          rw [toList_toString_ofNat, toList_toString_negSucc] at h
          exact absurd (h ▸ List.mem_cons_self ..) (minus_not_mem_toDigits n)
      | negSucc n =>
          rw [toList_toString_negSucc, toList_toString_negSucc, List.cons.injEq, toDigits_inj] at h
          rw [Nat.succ.inj h.2]

end Signed

theorem parseInt_toDigits {n : Nat} (h : n < 2 ^ 31) :
    parseInt (String.ofList (Nat.toDigits 10 n)) = some (n : Int) := by
  have hdigits := toDigits_isDigit n
  have hvalue := parseDigits_toDigits n
  unfold parseInt
  rw [String.toList_ofList]
  split
  · rename_i text heq
    exact absurd (heq ▸ List.mem_cons_self ..) (minus_not_mem_toDigits n)
  · rename_i text heq
    rw [heq] at hdigits
    exact absurd (hdigits '+' (List.mem_cons_self ..)) (by decide)
  · rw [hvalue, Option.bind_some, if_pos h]

/-- Printing and reading 32-bit numbers agree, and no other number is read back. -/
theorem parseInt_toString (number : Int) :
    parseInt (toString number) =
      if -2147483648 ≤ number ∧ number < 2147483648 then some number else none := by
  cases number with
  | ofNat n =>
      have hdigits := toDigits_isDigit n
      unfold parseInt
      rw [toList_toString_ofNat]
      split
      · rename_i text heq
        exact absurd (heq ▸ List.mem_cons_self ..) (minus_not_mem_toDigits n)
      · rename_i text heq
        rw [heq] at hdigits
        exact absurd (hdigits '+' (List.mem_cons_self ..)) (by decide)
      · rw [parseDigits_toDigits, Option.bind_some]
        have hiff : n < 2 ^ 31 ↔ -2147483648 ≤ Int.ofNat n ∧ Int.ofNat n < 2147483648 := by
          simp only [Int.ofNat_eq_natCast]
          omega
        simp only [hiff, Int.ofNat_eq_natCast]
  | negSucc n =>
      unfold parseInt
      rw [toList_toString_negSucc]
      simp only [parseDigits_toDigits, Option.bind_some]
      have hiff : n + 1 ≤ 2 ^ 31 ↔ -2147483648 ≤ Int.negSucc n ∧ Int.negSucc n < 2147483648 := by omega
      have hvalue : -((n + 1 : Nat) : Int) = Int.negSucc n := by omega
      rw [hvalue]
      simp only [hiff]

section Radix

/-- Digits of a base up to ten. -/
def parseRadix (radix : Nat) (digits : List Char) : Option Nat :=
  if digits.isEmpty then none
  else digits.foldlM (fun value c => (digit c).bind fun digit =>
    if digit < radix then some (value * radix + digit) else none) 0

/-- `Long.parseLong(text, radix)`; `none` is a `NumberFormatException`. -/
def parseLong (radix : Nat) (text : List Char) : Option Int :=
  match text with
  | '-' :: digits =>
      (parseRadix radix digits).bind fun value =>
        if value ≤ 2 ^ 63 then some (-(value : Int)) else none
  | '+' :: digits =>
      (parseRadix radix digits).bind fun value => if value < 2 ^ 63 then some (value : Int) else none
  | digits =>
      (parseRadix radix digits).bind fun value => if value < 2 ^ 63 then some (value : Int) else none

variable {radix : Nat} {digits : List Char}

/-- An ASCII digit of the base. -/
def IsDigitOf (radix : Nat) (c : Char) : Prop := c.isDigit = true ∧ c.toNat - 48 < radix

theorem foldlM_of_isDigitOf (value : Nat) (h : ∀ c ∈ digits, IsDigitOf radix c) :
    digits.foldlM (fun value c => (digit c).bind fun digit =>
      if digit < radix then some (value * radix + digit) else none) value =
        some (Nat.ofDigitChars radix digits value) := by
  induction digits generalizing value with
  | nil => rfl
  | cons c digits ih =>
      rw [List.forall_mem_cons] at h
      obtain ⟨⟨hdigit, hlt⟩, hrest⟩ := h
      rw [List.foldlM_cons, digit_of_isDigit hdigit, Option.bind_some, if_pos hlt,
        Nat.ofDigitChars_cons, Nat.mul_comm radix]
      exact ih _ hrest

theorem parseLong_of_isDigitOf (hne : digits ≠ []) (h : ∀ c ∈ digits, IsDigitOf radix c)
    (hlt : Nat.ofDigitChars radix digits 0 < 2 ^ 63) :
    parseLong radix digits = some (Nat.ofDigitChars radix digits 0 : Int) := by
  have hvalue : parseRadix radix digits = some (Nat.ofDigitChars radix digits 0) := by
    rw [parseRadix, if_neg (by simpa using hne), foldlM_of_isDigitOf 0 h]
  have hsign (c : Char) (hc : c.isDigit = false) : c ∉ digits := by
    intro hmem
    rw [(h c hmem).1] at hc
    cases hc
  unfold parseLong
  split
  · exact absurd (List.mem_cons_self ..) (hsign '-' (by decide))
  · exact absurd (List.mem_cons_self ..) (hsign '+' (by decide))
  · rw [hvalue, Option.bind_some, if_pos hlt]

theorem isDigitOf_ten {c : Char} (h : c.isDigit = true) : IsDigitOf 10 c := by
  have hrange : 48 ≤ c.toNat ∧ c.toNat ≤ 57 := by
    simpa [Char.isDigit, UInt32.le_iff_toNat_le] using h
  exact ⟨h, by omega⟩

theorem parseLong_toDigits {n : Nat} (h : n < 2 ^ 63) :
    parseLong 10 (Nat.toDigits 10 n) = some (n : Int) := by
  have hvalue := Nat.ofDigitChars_ten_toDigits (n := n)
  have hlt : Nat.ofDigitChars 10 (Nat.toDigits 10 n) 0 < 2 ^ 63 := hvalue.symm ▸ h
  rw [parseLong_of_isDigitOf Nat.toDigits_ne_nil
    (fun c hc => isDigitOf_ten (toDigits_isDigit n c hc)) hlt, hvalue]

theorem zero_or_one_of_mem_toDigits {n : Nat} {c : Char} (hc : c ∈ Nat.toDigits 2 n) :
    c = '0' ∨ c = '1' := by
  have hall : ∀ b < 2, Nat.digitChar b = '0' ∨ Nat.digitChar b = '1' := by decide
  induction n using Nat.base_induction 2 (by decide) with
  | single b hb =>
      rw [Nat.toDigits_of_lt_base hb, List.mem_singleton] at hc
      rw [hc]
      exact hall b hb
  | digit n b hb hn ih =>
      rw [← Nat.toDigits_append_toDigits (by decide) hn hb, Nat.toDigits_of_lt_base hb] at hc
      rcases List.mem_append.mp hc with hc | hc
      · exact ih hc
      · rw [List.mem_singleton.mp hc]
        exact hall b hb

/-- The other binary digit. -/
def flipDigit (c : Char) : Char := if c = '0' then '1' else '0'

theorem flipDigit_digitChar {b : Nat} (h : b < 2) :
    flipDigit (Nat.digitChar b) = Nat.digitChar (1 - b) := by
  have hall : ∀ b < 2, flipDigit (Nat.digitChar b) = Nat.digitChar (1 - b) := by decide
  exact hall b h

theorem isDigitOf_flipDigit (c : Char) : IsDigitOf 2 (flipDigit c) := by
  unfold flipDigit
  split
  · exact ⟨by decide, by decide⟩
  · exact ⟨by decide, by decide⟩

/-- Flipped digits are those of what is missing to the largest number of the length. -/
theorem ofDigitChars_flipDigit (n : Nat) :
    Nat.ofDigitChars 2 ((Nat.toDigits 2 n).map flipDigit) 0 + n + 1 =
      2 ^ (Nat.toDigits 2 n).length := by
  induction n using Nat.base_induction 2 (by decide) with
  | single b hb =>
      rw [Nat.toDigits_of_lt_base hb, List.map_singleton, flipDigit_digitChar hb,
        Nat.ofDigitChars_cons_digitChar_of_lt_ten (by omega), Nat.ofDigitChars_nil]
      simp only [List.length_singleton, pow_one]
      omega
  | digit n b hb hn ih =>
      rw [← Nat.toDigits_append_toDigits (by decide) hn hb, Nat.toDigits_of_lt_base hb,
        List.map_append, List.map_singleton, flipDigit_digitChar hb, Nat.ofDigitChars_append,
        Nat.ofDigitChars_cons_digitChar_of_lt_ten (by omega), Nat.ofDigitChars_nil,
        List.length_append, List.length_singleton, pow_succ]
      omega

end Radix

end WifiProject.Lib.Decimal
