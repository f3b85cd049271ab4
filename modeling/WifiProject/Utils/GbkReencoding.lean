import Mathlib.Data.List.Basic

/-!
`StringTextUtils.getUTF8StringFromGBKString`: a text that was decoded from GBK is
encoded by hand, with one byte for a character up to 127 and three for every other,
and the bytes are decoded again.
-/

namespace WifiProject.Utils

/-- What decoding GBK can give: a `char` that is no surrogate. -/
abbrev BmpChar := { c : Char // c.toNat < 0x10000 }

/-- The array that is filled, and how far. -/
structure Utf8Buffer where
  utfBytes : List UInt8
  k : Nat
  deriving DecidableEq, Repr

/-- `utfBytes[k++] = byte`; `none` is an `ArrayIndexOutOfBoundsException`. -/
def Utf8Buffer.put (buffer : Utf8Buffer) (byte : UInt8) : Option Utf8Buffer :=
  if buffer.k < buffer.utfBytes.length then
    some ⟨buffer.utfBytes.set buffer.k byte, buffer.k + 1⟩
  else none

/-- The body of the loop. -/
def Utf8Buffer.putChar (buffer : Utf8Buffer) (c : BmpChar) : Option Utf8Buffer :=
  let m := c.val.toNat
  if m < 128 then buffer.put (UInt8.ofNat m)
  else do
    let buffer ← buffer.put (UInt8.ofNat (0xe0 ||| (m >>> 12)))
    let buffer ← buffer.put (UInt8.ofNat (0x80 ||| ((m >>> 6) &&& 0x3f)))
    buffer.put (UInt8.ofNat (0x80 ||| (m &&& 0x3f)))

def getUTF8BytesFromGBKString (gbkStr : List BmpChar) : Option (List UInt8) := do
  let n := gbkStr.length
  let buffer ← gbkStr.foldlM Utf8Buffer.putChar ⟨List.replicate (3 * n) 0, 0⟩
  if buffer.k < buffer.utfBytes.length then return buffer.utfBytes.take buffer.k
  else return buffer.utfBytes

/-- The standard encoding. -/
def utf8 (text : List Char) : List UInt8 := text.flatMap String.utf8EncodeChar

/-- `new String(bytes, "UTF-8")`; what it makes of other bytes is not specified. -/
structure Utf8Decoder where
  decode : List UInt8 → List Char
  decode_utf8 : ∀ text, decode (utf8 text) = text

theorem replacing_decode_utf8 (text : List Char) :
    ((utf8 text).toByteArray.utf8Decode?.map Array.toList).getD ['\uFFFD'] = text := by
  have hbytes : (utf8 text).toByteArray = text.utf8Encode := rfl
  rw [hbytes, List.utf8Decode?_utf8Encode]
  rfl

/-- One that gives a replacement character for bytes that are no text. -/
def Utf8Decoder.replacing : Utf8Decoder where
  decode bytes := (bytes.toByteArray.utf8Decode?.map Array.toList).getD ['\uFFFD']
  decode_utf8 text := replacing_decode_utf8 text

def getUTF8StringFromGBKString (decoder : Utf8Decoder) (gbkStr : List BmpChar) :
    Option (List Char) :=
  (getUTF8BytesFromGBKString gbkStr).map decoder.decode

/-- The bytes are those of the text, and so the text comes back. -/
def Reencodes (decoder : Utf8Decoder) (gbkStr : List BmpChar) : Prop :=
  getUTF8BytesFromGBKString gbkStr = some (utf8 (gbkStr.map Subtype.val)) ∧
    getUTF8StringFromGBKString decoder gbkStr = some (gbkStr.map Subtype.val)

/-- The class that the code does not know. -/
def TwoBytes (c : BmpChar) : Prop := 0x80 ≤ c.val.toNat ∧ c.val.toNat < 0x800

section Buffer

/-- An array with these bytes so far. -/
def Utf8Buffer.filled (done : List UInt8) (rest : Nat) : Utf8Buffer :=
  ⟨done ++ List.replicate rest 0, done.length⟩

/-- What the loop writes for a character. -/
def charBytes (c : BmpChar) : List UInt8 :=
  let m := c.val.toNat
  if m < 128 then [UInt8.ofNat m]
  else [UInt8.ofNat (0xe0 ||| (m >>> 12)), UInt8.ofNat (0x80 ||| ((m >>> 6) &&& 0x3f)),
    UInt8.ofNat (0x80 ||| (m &&& 0x3f))]

theorem length_charBytes (c : BmpChar) :
    (charBytes c).length = if c.val.toNat < 128 then 1 else 3 := by
  unfold charBytes
  dsimp only
  split <;> rfl

theorem put_filled (done : List UInt8) (rest : Nat) (byte : UInt8) :
    (Utf8Buffer.filled done (rest + 1)).put byte =
      some (Utf8Buffer.filled (done ++ [byte]) rest) := by
  have hlt : done.length < (done ++ List.replicate (rest + 1) (0 : UInt8)).length := by simp
  unfold Utf8Buffer.put Utf8Buffer.filled
  rw [if_pos hlt]
  simp [List.replicate_succ]

theorem putChar_filled (done : List UInt8) (rest : Nat) (c : BmpChar) :
    (Utf8Buffer.filled done (rest + 3)).putChar c =
      some (Utf8Buffer.filled (done ++ charBytes c) (rest + 3 - (charBytes c).length)) := by
  unfold Utf8Buffer.putChar charBytes
  dsimp only
  split
  · rw [put_filled]
    rfl
  · rw [put_filled, Option.bind_eq_bind, Option.bind_some, put_filled, Option.bind_some, put_filled]
    simp

/-- The loop writes the bytes of all characters. -/
theorem foldlM_filled (gbkStr : List BmpChar) (done : List UInt8) (rest : Nat)
    (hrest : 3 * gbkStr.length ≤ rest) :
    gbkStr.foldlM Utf8Buffer.putChar (Utf8Buffer.filled done rest) =
      some (Utf8Buffer.filled (done ++ gbkStr.flatMap charBytes)
        (rest - (gbkStr.flatMap charBytes).length)) := by
  induction gbkStr generalizing done rest with
  | nil =>
      rw [List.flatMap_nil, List.append_nil]
      rfl
  | cons c gbkStr ih =>
      rw [List.length_cons] at hrest
      obtain ⟨room, rfl⟩ : ∃ room, rest = room + 3 := ⟨rest - 3, by omega⟩
      have hle : (charBytes c).length ≤ 3 := by
        rw [length_charBytes]
        split <;> omega
      rw [List.foldlM_cons, putChar_filled, Option.bind_eq_bind, Option.bind_some,
        ih _ _ (by omega), List.flatMap_cons, List.append_assoc, List.length_append, Nat.sub_sub]

theorem getUTF8BytesFromGBKString_eq (gbkStr : List BmpChar) :
    getUTF8BytesFromGBKString gbkStr = some (gbkStr.flatMap charBytes) := by
  have hrun := foldlM_filled gbkStr [] (3 * gbkStr.length) (Nat.le_refl _)
  have hstart : Utf8Buffer.filled [] (3 * gbkStr.length) =
      ⟨List.replicate (3 * gbkStr.length) 0, 0⟩ := rfl
  rw [hstart, List.nil_append] at hrun
  unfold getUTF8BytesFromGBKString
  dsimp only
  rw [hrun, Option.bind_eq_bind, Option.bind_some]
  unfold Utf8Buffer.filled
  dsimp only
  split
  · rw [List.take_left' rfl]
    rfl
  · rename_i hfull
    have hempty : 3 * gbkStr.length - (gbkStr.flatMap charBytes).length = 0 := by
      rw [List.length_append, List.length_replicate] at hfull
      omega
    rw [hempty, List.replicate_zero, List.append_nil]
    rfl

end Buffer

section Encoding

variable {c : BmpChar}

/-- One and three bytes are what the standard writes for these characters. -/
theorem charBytes_eq_utf8EncodeChar (h : ¬ TwoBytes c) :
    charBytes c = String.utf8EncodeChar c.val := by
  obtain ⟨c, hc⟩ := c
  have hval : c.val.toNat = c.toNat := rfl
  unfold charBytes String.utf8EncodeChar
  unfold TwoBytes at h
  dsimp only at h ⊢
  rw [hval]
  generalize c.toNat = m at *
  by_cases hascii : m < 128
  · rw [if_pos hascii, if_pos (by omega)]
  · have hfirst : 0xe0 ||| (m >>> 12) = m / 4096 % 16 + 0xe0 := by
      have hlt : m / 4096 < 2 ^ 4 := by omega
      rw [Nat.shiftRight_eq_div_pow, Nat.mod_eq_of_lt (by omega), Nat.add_comm]
      exact (Nat.two_pow_add_eq_or_of_lt hlt 14).symm
    have hlow (n : Nat) : 0x80 ||| (n &&& 0x3f) = n % 64 + 0x80 := by
      have hlt : n % 64 < 2 ^ 7 := by omega
      rw [Nat.and_two_pow_sub_one_eq_mod n 6, Nat.add_comm]
      exact (Nat.two_pow_add_eq_or_of_lt hlt 1).symm
    rw [if_neg hascii, if_neg (by omega), if_neg (by omega), if_pos (by omega), hfirst, hlow, hlow,
      Nat.shiftRight_eq_div_pow]

theorem length_utf8EncodeChar_le (c : BmpChar) :
    (String.utf8EncodeChar c.val).length ≤ (charBytes c).length ∧
      ((String.utf8EncodeChar c.val).length = (charBytes c).length → ¬ TwoBytes c) := by
  by_cases htwo : TwoBytes c
  · have hlength : (String.utf8EncodeChar c.val).length = 2 := by
      obtain ⟨hlow, hhigh⟩ := htwo
      have hval : c.val.val.toNat = c.val.toNat := rfl
      unfold String.utf8EncodeChar
      dsimp only
      rw [if_neg (by omega), if_pos (by omega)]
      rfl
    rw [hlength, length_charBytes, if_neg (by unfold TwoBytes at htwo; omega)]
    exact ⟨by omega, by omega⟩
  · rw [charBytes_eq_utf8EncodeChar htwo]
    exact ⟨Nat.le_refl _, fun _ => htwo⟩

/-- The standard encoding is shorter as soon as two bytes would do. -/
theorem length_utf8_le (gbkStr : List BmpChar) :
    (utf8 (gbkStr.map Subtype.val)).length ≤ (gbkStr.flatMap charBytes).length ∧
      ((utf8 (gbkStr.map Subtype.val)).length = (gbkStr.flatMap charBytes).length →
        ∀ c ∈ gbkStr, ¬ TwoBytes c) := by
  induction gbkStr with
  | nil => simp [utf8]
  | cons c gbkStr ih =>
      obtain ⟨hle, heq⟩ := length_utf8EncodeChar_le c
      obtain ⟨hrest, hall⟩ := ih
      simp only [utf8, List.map_cons, List.flatMap_cons, List.length_append] at hrest hall ⊢
      refine ⟨by omega, fun h => ?_⟩
      rw [List.forall_mem_cons]
      exact ⟨heq (by omega), hall (by omega)⟩

theorem flatMap_charBytes_eq_utf8_iff (gbkStr : List BmpChar) :
    gbkStr.flatMap charBytes = utf8 (gbkStr.map Subtype.val) ↔ ∀ c ∈ gbkStr, ¬ TwoBytes c := by
  constructor
  · intro h
    exact (length_utf8_le gbkStr).2 (congrArg List.length h).symm
  · intro h
    rw [utf8, List.flatMap_map]
    apply List.flatMap_congr
    intro c hc
    exact charBytes_eq_utf8EncodeChar (h c hc)

end Encoding

/-- A text is encoded right exactly if it has no character for which the standard
writes two bytes. -/
theorem reencodes_iff (decoder : Utf8Decoder) (gbkStr : List BmpChar) :
    Reencodes decoder gbkStr ↔ ∀ c ∈ gbkStr, ¬ TwoBytes c := by
  unfold Reencodes getUTF8StringFromGBKString
  rw [getUTF8BytesFromGBKString_eq, Option.some.injEq, ← flatMap_charBytes_eq_utf8_iff]
  constructor
  · exact fun h => h.1
  · intro h
    rw [h, Option.map_some, decoder.decode_utf8]
    exact ⟨rfl, rfl⟩

/-- A Greek letter. -/
def alpha : BmpChar := ⟨'α', by decide⟩

/-- It is written `e0 8e b1` instead of `ce b1`. -/
theorem not_reencodes_alpha :
    getUTF8BytesFromGBKString [alpha] = some [0xe0, 0x8e, 0xb1] ∧ utf8 ['α'] = [0xce, 0xb1] ∧
      ¬ Reencodes Utf8Decoder.replacing [alpha] := by
  refine ⟨by decide, by decide, ?_⟩
  intro h
  exact absurd h.1 (by decide)

end WifiProject.Utils
