import Mathlib.Data.List.GetD
import WifiProject.Lib.Rfc2396

/-!
Percent-encoding over UTF-8: unreserved characters stand for themselves, every
other one for the escape pairs of its bytes.
-/

namespace WifiProject.Lib.Rfc2396

def hexDigits : List Char := "0123456789ABCDEF".toList

def hexDigit (n : Nat) : Char := hexDigits.getD n '0'

def escapeByte (byte : UInt8) : List Char :=
  ['%', hexDigit (byte.toNat / 16), hexDigit (byte.toNat % 16)]

def encodeChar (c : Char) : List Char :=
  if isUnreserved c then [c] else (String.utf8EncodeChar c).flatMap escapeByte

def encode (text : List Char) : List Char := text.flatMap encodeChar

theorem hexDigit_mem (n : Nat) : hexDigit n ∈ hexDigits := by
  unfold hexDigit
  by_cases h : n < hexDigits.length
  · rw [List.getD_eq_getElem _ _ h]
    exact List.getElem_mem h
  · rw [List.getD_eq_default _ _ (by omega)]
    decide

theorem isHex_hexDigit (n : Nat) : isHex (hexDigit n) = true := by
  have hall : ∀ c ∈ hexDigits, isHex c = true := by decide
  exact hall _ (hexDigit_mem n)

/-- The last character of an encoded character is the character itself, if it
is unreserved, and otherwise a hexadecimal digit. -/
theorem encodeChar_eq_concat (c : Char) :
    (isUnreserved c = true ∧ encodeChar c = [c]) ∨
      ∃ before n, encodeChar c = before ++ [hexDigit n] := by
  unfold encodeChar
  split
  · rename_i h
    exact Or.inl ⟨h, rfl⟩
  · have hne : String.utf8EncodeChar c ≠ [] := by
      intro hnil
      have hlength := congrArg List.length hnil
      rw [String.length_utf8EncodeChar] at hlength
      exact absurd hlength (Nat.pos_iff_ne_zero.mp c.utf8Size_pos)
    obtain ⟨bytes, last, hbytes⟩ := (List.eq_nil_or_concat' (String.utf8EncodeChar c)).resolve_left hne
    refine Or.inr ⟨bytes.flatMap escapeByte ++ ['%', hexDigit (last.toNat / 16)],
      last.toNat % 16, ?_⟩
    rw [hbytes, List.flatMap_append]
    simp [escapeByte]

/-- Encoded text has unreserved characters and percent signs. -/
theorem mem_encode {text : List Char} {c : Char} (h : c ∈ encode text) :
    isUnreserved c = true ∨ c = '%' := by
  obtain ⟨source, -, hc⟩ := List.mem_flatMap.mp h
  unfold encodeChar at hc
  split at hc
  · rename_i hsource
    rw [List.mem_singleton.mp hc]
    exact Or.inl hsource
  · obtain ⟨byte, -, hc⟩ := List.mem_flatMap.mp hc
    have hdigit (n : Nat) : isUnreserved (hexDigit n) = true := by
      simp [isUnreserved, isAlphanum_of_isHex (isHex_hexDigit n)]
    simp only [escapeByte, List.mem_cons, List.not_mem_nil, or_false] at hc
    rcases hc with rfl | rfl | rfl
    · exact Or.inr rfl
    · exact Or.inl (hdigit _)
    · exact Or.inl (hdigit _)

theorem encode_of_unreserved {text : List Char} (h : ∀ c ∈ text, isUnreserved c = true) :
    encode text = text := by
  induction text with
  | nil => rfl
  | cons c text ih =>
      rw [List.forall_mem_cons] at h
      have hrest := ih h.2
      unfold encode at hrest ⊢
      rw [List.flatMap_cons, hrest, encodeChar, if_pos h.1, List.singleton_append]

theorem legal_cons {allowed : Char → Bool} {c : Char} (h : c ≠ '%') (text : List Char) :
    legal allowed (c :: text) = (allowed c && legal allowed text) := by
  rw [legal]
  rintro high low rest rfl -
  exact h rfl

theorem legal_escapes (allowed : Char → Bool) (bytes : List UInt8) (rest : List Char) :
    legal allowed (bytes.flatMap escapeByte ++ rest) = legal allowed rest := by
  induction bytes with
  | nil => rfl
  | cons byte bytes ih =>
      rw [List.flatMap_cons, List.append_assoc, escapeByte]
      simp only [List.cons_append, List.nil_append]
      rw [legal, isHex_hexDigit, isHex_hexDigit, Bool.true_and, Bool.true_and, ih]

/-- Encoded text is legal wherever unreserved characters are. -/
theorem legal_encode {allowed : Char → Bool} (h : ∀ c, isUnreserved c = true → allowed c = true)
    (text rest : List Char) : legal allowed (encode text ++ rest) = legal allowed rest := by
  induction text with
  | nil => rfl
  | cons c text ih =>
      unfold encode at ih ⊢
      rw [List.flatMap_cons, List.append_assoc, encodeChar]
      split
      · rename_i hc
        have hne : c ≠ '%' := by
          rintro rfl
          exact absurd hc (by decide)
        rw [List.singleton_append, legal_cons hne, h c hc, Bool.true_and, ih]
      · rw [legal_escapes, ih]

/-- Dropping characters from the end of an encoded text drops those of the text
that stand for themselves. -/
theorem rdropWhile_encode {p : Char → Bool} (hhex : ∀ n, p (hexDigit n) = false)
    (text : List Char) :
    (encode text).rdropWhile p = encode (text.rdropWhile fun c => isUnreserved c && p c) := by
  induction text using List.reverseRecOn with
  | nil => rfl
  | append_singleton text c ih =>
      have happend : encode (text ++ [c]) = encode text ++ encodeChar c := by
        simp [encode]
      rw [happend, List.rdropWhile_concat]
      split
      · rename_i hc
        rw [Bool.and_eq_true] at hc
        rw [← ih, encodeChar, if_pos hc.1, List.rdropWhile_concat_pos p _ c hc.2]
      · rename_i hc
        rw [happend]
        rcases encodeChar_eq_concat c with ⟨hself, hencode⟩ | ⟨before, n, hescaped⟩
        · rw [hself, Bool.true_and] at hc
          rw [hencode, List.rdropWhile_concat_neg p _ c hc]
        · have hlast : ¬ p (hexDigit n) = true := by simp [hhex n]
          rw [hescaped, ← List.append_assoc, List.rdropWhile_concat_neg p _ _ hlast]

/-! Decoding. -/

def hexValue (c : Char) : Nat := hexDigits.idxOf c

/-- The bytes of an encoded text; a plus sign may stand for a space. -/
def decodeBytes (convertPlus : Bool) : List Char → List UInt8
  | [] => []
  | '%' :: high :: low :: text =>
      UInt8.ofNat (hexValue high * 16 + hexValue low) :: decodeBytes convertPlus text
  | c :: text =>
      String.utf8EncodeChar (if convertPlus && c = '+' then ' ' else c) ++
        decodeBytes convertPlus text

/-- The text with these bytes in UTF-8, if there is one. -/
def ofBytes (bytes : List UInt8) : Option String := String.fromUTF8? bytes.toByteArray

def bytesOf (text : String) : List UInt8 := text.toList.flatMap String.utf8EncodeChar

theorem ofBytes_bytesOf (text : String) : ofBytes (bytesOf text) = some text := by
  have hbytes : (bytesOf text).toByteArray = text.toByteArray := String.utf8Encode_toList
  rw [ofBytes, hbytes, String.fromUTF8?, dif_pos text.isValidUTF8]
  rfl

def decode (convertPlus : Bool) (text : List Char) : String :=
  (ofBytes (decodeBytes convertPlus text)).getD ""

theorem hexValue_hexDigit {n : Nat} (h : n < 16) : hexValue (hexDigit n) = n := by
  have hall : ∀ n < 16, hexValue (hexDigit n) = n := by decide
  exact hall n h

theorem decodeBytes_escapes (convertPlus : Bool) (bytes : List UInt8) (rest : List Char) :
    decodeBytes convertPlus (bytes.flatMap escapeByte ++ rest) =
      bytes ++ decodeBytes convertPlus rest := by
  induction bytes with
  | nil => rfl
  | cons byte bytes ih =>
      have hbyte : byte.toNat < 256 := byte.toNat_lt
      have hvalue : UInt8.ofNat (hexValue (hexDigit (byte.toNat / 16)) * 16 +
          hexValue (hexDigit (byte.toNat % 16))) = byte := by
        rw [hexValue_hexDigit (by omega), hexValue_hexDigit (by omega), Nat.div_add_mod']
        exact UInt8.ofNat_toNat
      rw [List.flatMap_cons, List.append_assoc, escapeByte]
      simp only [List.cons_append, List.nil_append]
      rw [decodeBytes, ih, hvalue]

theorem decodeBytes_encode (convertPlus : Bool) (text : List Char) :
    decodeBytes convertPlus (encode text) = text.flatMap String.utf8EncodeChar := by
  induction text with
  | nil => rfl
  | cons c text ih =>
      unfold encode at ih ⊢
      rw [List.flatMap_cons, encodeChar]
      split
      · rename_i hc
        have hpercent : c ≠ '%' := by
          rintro rfl
          exact absurd hc (by decide)
        have hplus : c ≠ '+' := by
          rintro rfl
          exact absurd hc (by decide)
        rw [List.singleton_append, decodeBytes, ih]
        · simp [hplus]
        · rintro high low rest rfl -
          exact hpercent rfl
      · rw [decodeBytes_escapes, ih]
        simp

theorem decode_encode (convertPlus : Bool) (text : String) :
    decode convertPlus (encode text.toList) = text := by
  have hbytes : decodeBytes convertPlus (encode text.toList) = bytesOf text :=
    decodeBytes_encode convertPlus text.toList
  rw [decode, hbytes, ofBytes_bytesOf, Option.getD_some]

end WifiProject.Lib.Rfc2396
