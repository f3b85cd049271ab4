import WifiProject.Lib.PercentEncoding
import WifiProject.Preference.DataStore

/-!
String sets in the key-value store. Each string is written as its length and its
bytes, but the length counts UTF-16 units and the bytes are UTF-8: the two agree
on ASCII only, and after a string on which they do not the reader is lost.
-/

namespace WifiProject.Preference

open Lib
open Rfc2396 (bytesOf ofBytes ofBytes_bytesOf)

/-- `String.length`: characters outside of the basic plane are surrogate pairs. -/
def utf16Length (text : String) : Nat :=
  (text.toList.map fun c => if c.toNat < 0x10000 then 1 else 2).sum

/-- `putInt`. -/
def intBytes (number : Nat) : List UInt8 :=
  [UInt8.ofNat (number / 2 ^ 24), UInt8.ofNat (number / 2 ^ 16), UInt8.ofNat (number / 2 ^ 8),
    UInt8.ofNat number]

namespace KeyValuePair

def typeStringSet : Int := 6

/-- What is written of one string. -/
def stringEntry (text : String) : List UInt8 := intBytes (utf16Length text) ++ bytesOf text

/-- `put(value: Set<String>)`, by the order in which the set is iterated. -/
def putStringSet (strings : List String) : KeyValuePair where
  valueType := typeStringSet
  value := strings.flatMap stringEntry

/-- The loop of the getter `stringSet`, while the buffer has bytes remaining. -/
def readStrings (decode : List UInt8 → String) (buffer : List UInt8) :
    Except StoreFailure (List String) :=
  if _hremaining : buffer = [] then .ok []
  else
    match getBytes 4 buffer with
    | .error failure => .error failure
    | .ok number =>
        if (BitVec.ofNat 32 number).toInt < 0 then .error .negativeArraySize
        else
          let count := (BitVec.ofNat 32 number).toInt.toNat
          if (buffer.drop 4).length < count then .error .bufferUnderflow
          else
            (readStrings decode ((buffer.drop 4).drop count)).map
              (decode ((buffer.drop 4).take count) :: ·)
termination_by buffer.length
decreasing_by
  have hpositive := List.length_pos_iff.mpr _hremaining
  simp only [List.length_drop]
  omega

def stringSet (decode : List UInt8 → String) (pair : KeyValuePair) :
    Except StoreFailure (Option (List String)) :=
  if pair.valueType = typeStringSet then (readStrings decode pair.value).map some else .ok none

end KeyValuePair

open KeyValuePair

/-- A set of strings in the order of its iterator. What is written of it has to
fit into one array. -/
structure StringSet where
  strings : List String
  nodup : strings.Nodup
  fits : (strings.flatMap stringEntry).length < 2 ^ 31

def isAscii (text : String) : Bool := text.toList.all fun c => c.toNat < 128

namespace StringSet

/-- Writing the set and reading it back gives the same set. -/
def Survives (decode : List UInt8 → String) (set : StringSet) : Prop :=
  ∃ read, (putStringSet set.strings).stringSet decode = .ok (some read) ∧
    ∀ text, text ∈ read ↔ text ∈ set.strings

def Ascii (set : StringSet) : Prop := ∀ text ∈ set.strings, isAscii text = true

/-- Nothing that is read in the wrong place can pass for a length: other
characters than ASCII do not come with a null character, and the store holds
less than 16 MiB. -/
structure Lengthless (set : StringSet) : Prop where
  noNull : ∀ text ∈ set.strings, isAscii text = false → '\x00' ∉ text.toList
  small : (set.strings.flatMap stringEntry).length < 2 ^ 24

end StringSet

/-! Units and bytes of a string. -/

section Units

theorem utf8Size_cases (c : Char) :
    (c.utf8Size = 1 ∧ c.toNat < 128) ∨ (c.utf8Size = 2 ∧ 128 ≤ c.toNat ∧ c.toNat < 0x10000) ∨
      (c.utf8Size = 3 ∧ 128 ≤ c.toNat ∧ c.toNat < 0x10000) ∨
        (c.utf8Size = 4 ∧ 0x10000 ≤ c.toNat) := by
  have hval : c.toNat = c.val.toNat := rfl
  rw [hval]
  rcases c.utf8Size_eq with hsize | hsize | hsize | hsize
  · have h := Char.utf8Size_eq_one_iff.mp hsize
    rw [UInt32.le_iff_toNat_le] at h
    exact Or.inl ⟨hsize, Nat.lt_succ_of_le h⟩
  · have h := Char.utf8Size_eq_two_iff.mp hsize
    rw [UInt32.lt_iff_toNat_lt, UInt32.le_iff_toNat_le] at h
    refine Or.inr (Or.inl ⟨hsize, h.1, Nat.lt_of_le_of_lt h.2 (by decide)⟩)
  · have h := Char.utf8Size_eq_three_iff.mp hsize
    rw [UInt32.lt_iff_toNat_lt, UInt32.le_iff_toNat_le] at h
    have hlow : (0x7ff : UInt32).toNat = 0x7ff := rfl
    rw [hlow] at h
    exact Or.inr (Or.inr (Or.inl ⟨hsize, by omega, Nat.lt_succ_of_le h.2⟩))
  · have h := Char.utf8Size_eq_four_iff.mp hsize
    rw [UInt32.lt_iff_toNat_lt] at h
    exact Or.inr (Or.inr (Or.inr ⟨hsize, h⟩))

/-- There are never more units than bytes, and as many on ASCII only. -/
theorem units_le_bytes (chars : List Char) :
    (chars.map fun c => if c.toNat < 0x10000 then 1 else 2).sum ≤
        (chars.flatMap String.utf8EncodeChar).length ∧
      ((chars.map fun c => if c.toNat < 0x10000 then 1 else 2).sum =
        (chars.flatMap String.utf8EncodeChar).length ↔ ∀ c ∈ chars, c.toNat < 128) := by
  induction chars with
  | nil => simp
  | cons c chars ih =>
      rw [List.map_cons, List.sum_cons, List.flatMap_cons, List.length_append,
        String.length_utf8EncodeChar, List.forall_mem_cons]
      obtain ⟨hle, hiff⟩ := ih
      rcases utf8Size_cases c with ⟨hsize, hc⟩ | ⟨hsize, hc⟩ | ⟨hsize, hc⟩ | ⟨hsize, hc⟩
      · rw [hsize, if_pos (by omega), ← hiff]
        omega
      · rw [hsize, if_pos hc.2]
        omega
      · rw [hsize, if_pos hc.2]
        omega
      · rw [hsize, if_neg (by omega)]
        omega

theorem utf16Length_le (text : String) : utf16Length text ≤ (bytesOf text).length :=
  (units_le_bytes text.toList).1

theorem utf16Length_eq_iff (text : String) :
    utf16Length text = (bytesOf text).length ↔ isAscii text = true := by
  rw [isAscii, List.all_eq_true]
  simp only [decide_eq_true_eq]
  exact (units_le_bytes text.toList).2

/-- Only the null character has a null byte. -/
theorem ne_zero_of_mem_utf8EncodeChar {c : Char} (hc : c ≠ '\x00') {byte : UInt8}
    (h : byte ∈ String.utf8EncodeChar c) : byte ≠ 0 := by
  have hpos : 0 < c.val.toNat := by
    rw [Nat.pos_iff_ne_zero]
    intro hzero
    apply hc
    exact Char.ext (UInt32.toNat_inj.mp hzero)
  have hnot {n : Nat} (hn : 0 < n) (hlt : n < 256) : UInt8.ofNat n ≠ 0 := by
    intro hzero
    have hnat := congrArg UInt8.toNat hzero
    rw [UInt8.toNat_ofNat_of_lt' hlt] at hnat
    exact absurd hnat (Nat.pos_iff_ne_zero.mp hn)
  unfold String.utf8EncodeChar at h
  dsimp only at h
  split_ifs at h with h1 h2 h3
  · rw [List.mem_singleton] at h
    rw [h]
    exact hnot hpos (by omega)
  · simp only [List.mem_cons, List.not_mem_nil, or_false] at h
    rcases h with rfl | rfl
    · exact hnot (by omega) (by omega)
    · exact hnot (by omega) (by omega)
  · simp only [List.mem_cons, List.not_mem_nil, or_false] at h
    rcases h with rfl | rfl | rfl
    · exact hnot (by omega) (by omega)
    · exact hnot (by omega) (by omega)
    · exact hnot (by omega) (by omega)
  · simp only [List.mem_cons, List.not_mem_nil, or_false] at h
    rcases h with rfl | rfl | rfl | rfl
    · exact hnot (by omega) (by omega)
    · exact hnot (by omega) (by omega)
    · exact hnot (by omega) (by omega)
    · exact hnot (by omega) (by omega)

theorem ne_zero_of_mem_bytesOf {text : String} (h : '\x00' ∉ text.toList) {byte : UInt8}
    (hbyte : byte ∈ bytesOf text) : byte ≠ 0 := by
  obtain ⟨c, hc, hmem⟩ := List.mem_flatMap.mp hbyte
  apply ne_zero_of_mem_utf8EncodeChar _ hmem
  rintro rfl
  exact h hc

end Units

/-! What the reader makes of one entry. -/

section Reading

variable {decode : List UInt8 → String}

theorem getBytes_intBytes {number : Nat} (h : number < 2 ^ 32) (rest : List UInt8) :
    getBytes 4 (intBytes number ++ rest) = .ok number := by
  unfold getBytes intBytes
  simp only [List.cons_append, List.nil_append, List.length_cons, List.take_succ_cons,
    List.take_zero, List.foldl_cons, List.foldl_nil, UInt8.toNat_ofNat']
  rw [if_neg (by omega)]
  congr 1
  omega

theorem readStrings_nil : readStrings decode [] = .ok [] := by
  rw [readStrings]
  rfl

/-- As many bytes are taken as the string has units; the reader goes on with the
bytes that are left over. -/
theorem readStrings_entry {text : String} (h : utf16Length text < 2 ^ 31) (rest : List UInt8) :
    readStrings decode (stringEntry text ++ rest) =
      (readStrings decode ((bytesOf text).drop (utf16Length text) ++ rest)).map
        (decode ((bytesOf text).take (utf16Length text)) :: ·) := by
  have hle := utf16Length_le text
  have hcount : (BitVec.ofNat 32 (utf16Length text)).toInt = (utf16Length text : Int) := by
    rw [BitVec.toInt_eq_toNat_cond, BitVec.toNat_ofNat, Nat.mod_eq_of_lt (by omega), if_pos]
    omega
  have hdrop : (stringEntry text ++ rest).drop 4 = bytesOf text ++ rest := rfl
  rw [readStrings, dif_neg (by simp [stringEntry, intBytes])]
  have hbytes : getBytes 4 (stringEntry text ++ rest) = .ok (utf16Length text) := by
    rw [stringEntry, List.append_assoc]
    exact getBytes_intBytes (by omega) _
  simp only [hbytes, hcount, hdrop, Int.toNat_natCast]
  rw [if_neg (by omega), if_neg (by rw [List.length_append]; omega),
    List.drop_append_of_le_length hle, List.take_append_of_le_length hle]

/-- A length with a first byte that is not null is too much for a small store. -/
theorem readStrings_lost {byte : UInt8} (hbyte : byte ≠ 0) {rest : List UInt8}
    (hsmall : (byte :: rest).length < 2 ^ 24) :
    ∃ failure, readStrings decode (byte :: rest) = .error failure := by
  rw [readStrings, dif_neg (by simp)]
  by_cases hshort : (byte :: rest).length < 4
  · have hbytes : getBytes 4 (byte :: rest) = .error .bufferUnderflow := by
      rw [getBytes, if_pos hshort]
    simp only [hbytes]
    exact ⟨_, rfl⟩
  · obtain ⟨second, third, fourth, rest, rfl⟩ :
        ∃ second third fourth tail, rest = second :: third :: fourth :: tail := by
      rcases rest with _ | ⟨second, _ | ⟨third, _ | ⟨fourth, tail⟩⟩⟩
      · exact absurd (by simp) hshort
      · exact absurd (by simp) hshort
      · exact absurd (by simp) hshort
      · exact ⟨second, third, fourth, tail, rfl⟩
    have hpositive : 0 < byte.toNat := by
      rw [Nat.pos_iff_ne_zero]
      intro hzero
      exact hbyte (UInt8.toNat_inj.mp hzero)
    have hlt := byte.toNat_lt
    have hsecond := second.toNat_lt
    have hthird := third.toNat_lt
    have hfourth := fourth.toNat_lt
    simp only [List.length_cons] at hsmall
    have hbytes : getBytes 4 (byte :: second :: third :: fourth :: rest) =
        .ok (((byte.toNat * 256 + second.toNat) * 256 + third.toNat) * 256 + fourth.toNat) := by
      unfold getBytes
      rw [if_neg hshort]
      simp
    simp only [hbytes]
    split_ifs with hnegative hunderflow
    · exact ⟨_, rfl⟩
    · exact ⟨_, rfl⟩
    · exfalso
      rw [BitVec.toInt_eq_toNat_cond, BitVec.toNat_ofNat, Nat.mod_eq_of_lt (by omega)]
        at hnegative hunderflow
      simp only [List.drop_succ_cons, List.drop_zero] at hunderflow
      split_ifs at hnegative hunderflow
      · omega
      · omega

/-- Strings of ASCII are read back one by one. -/
theorem readStrings_of_ascii (hdecode : ∀ text, decode (bytesOf text) = text)
    {strings : List String} (hascii : ∀ text ∈ strings, isAscii text = true)
    (hfits : (strings.flatMap stringEntry).length < 2 ^ 31) :
    readStrings decode (strings.flatMap stringEntry) = .ok strings := by
  induction strings with
  | nil => exact readStrings_nil
  | cons text strings ih =>
      rw [List.forall_mem_cons] at hascii
      rw [List.flatMap_cons, List.length_append] at hfits
      have hlength := (utf16Length_eq_iff text).mpr hascii.1
      have hentry : (stringEntry text).length = 4 + (bytesOf text).length := by
        rw [stringEntry, List.length_append]
        rfl
      rw [List.flatMap_cons, readStrings_entry (by omega), hlength, List.drop_length,
        List.take_length, List.nil_append, ih hascii.2 (by omega), hdecode]
      rfl

/-- The first string with another character leaves bytes over. -/
theorem readStrings_of_not_ascii (decode : List UInt8 → String) {strings : List String}
    (hnot : ∃ text ∈ strings, isAscii text = false)
    (hnull : ∀ text ∈ strings, isAscii text = false → '\x00' ∉ text.toList)
    (hsmall : (strings.flatMap stringEntry).length < 2 ^ 24) :
    ∃ failure, readStrings decode (strings.flatMap stringEntry) = .error failure := by
  induction strings with
  | nil => simp at hnot
  | cons text strings ih =>
      rw [List.forall_mem_cons] at hnull
      rw [List.flatMap_cons, List.length_append] at hsmall
      have hentry : (stringEntry text).length = 4 + (bytesOf text).length := by
        rw [stringEntry, List.length_append]
        rfl
      have hle := utf16Length_le text
      rw [List.flatMap_cons, readStrings_entry (by omega)]
      cases hascii : isAscii text with
      | true =>
          have hlength := (utf16Length_eq_iff text).mpr hascii
          rw [hlength, List.drop_length, List.nil_append]
          have hrest : ∃ other ∈ strings, isAscii other = false := by
            obtain ⟨other, hother, hothers⟩ := hnot
            rcases List.mem_cons.mp hother with rfl | hmem
            · rw [hascii] at hothers
              cases hothers
            · exact ⟨other, hmem, hothers⟩
          obtain ⟨failure, hfailure⟩ := ih hrest hnull.2 (by omega)
          exact ⟨failure, by rw [hfailure]; rfl⟩
      | false =>
          have hne : utf16Length text ≠ (bytesOf text).length := by
            intro heq
            rw [(utf16Length_eq_iff text).mp heq] at hascii
            cases hascii
          obtain ⟨byte, left, hleft⟩ :
              ∃ byte left, (bytesOf text).drop (utf16Length text) = byte :: left := by
            apply List.exists_cons_of_ne_nil
            rw [ne_eq, List.drop_eq_nil_iff]
            omega
          have hbyte : byte ≠ 0 := by
            apply ne_zero_of_mem_bytesOf (hnull.1 hascii)
            exact List.mem_of_mem_drop (hleft ▸ List.mem_cons_self)
          have hlength := congrArg List.length hleft
          rw [List.length_drop, List.length_cons] at hlength
          obtain ⟨failure, hfailure⟩ : ∃ failure, readStrings decode
              (byte :: (left ++ strings.flatMap stringEntry)) = .error failure := by
            apply readStrings_lost hbyte
            rw [List.length_cons, List.length_append]
            omega
          rw [hleft, List.cons_append, hfailure]
          exact ⟨failure, rfl⟩

theorem stringSet_put (decode : List UInt8 → String) (strings : List String) :
    (putStringSet strings).stringSet decode =
      (readStrings decode (strings.flatMap stringEntry)).map some := by
  rw [stringSet]
  exact if_pos rfl

end Reading

namespace StringSet

/-- A set survives if it is ASCII. Where nothing in the store can pass for a
length, it does not survive otherwise: the getter throws. -/
theorem survives_iff_ascii (decode : List UInt8 → String)
    (hdecode : ∀ text, decode (bytesOf text) = text) (set : StringSet) :
    (set.Ascii → set.Survives decode) ∧
      (set.Lengthless → (set.Survives decode ↔ set.Ascii)) := by
  have hascii : set.Ascii → set.Survives decode := by
    intro h
    refine ⟨set.strings, ?_, fun _ => Iff.rfl⟩
    rw [stringSet_put, readStrings_of_ascii hdecode h set.fits]
    rfl
  refine ⟨hascii, fun hlengthless => ⟨?_, hascii⟩⟩
  rintro ⟨read, hread, -⟩ text htext
  rw [← Bool.not_eq_false]
  intro hnot
  obtain ⟨failure, hfailure⟩ := readStrings_of_not_ascii decode
    ⟨text, htext, hnot⟩ hlengthless.noNull hlengthless.small
  rw [stringSet_put, hfailure] at hread
  cases hread

/-- The set that the test of the store writes. -/
def threeDigits : StringSet where
  strings := ["0", "1", "2"]
  nodup := by decide
  fits := by decide +kernel

theorem survives_threeDigits :
    threeDigits.Survives (fun bytes => (ofBytes bytes).getD "\uFFFD") := by
  have hdecode : ∀ text, (ofBytes (bytesOf text)).getD "\uFFFD" = text := by
    intro text
    rw [ofBytes_bytesOf]
    rfl
  have hascii : ∀ text ∈ threeDigits.strings, isAscii text = true := by decide +kernel
  exact (survives_iff_ascii _ hdecode threeDigits).1 hascii

/-- One string of one accented letter. -/
def accented : StringSet where
  strings := ["é"]
  nodup := by decide
  fits := by decide +kernel

/-- Its two bytes are taken for one, and the other for a part of a length. -/
theorem not_survives_accented :
    ¬ accented.Survives (fun bytes => (ofBytes bytes).getD "\uFFFD") := by
  have hnot : ∃ text ∈ accented.strings, isAscii text = false := by decide +kernel
  have hnull : ∀ text ∈ accented.strings, isAscii text = false → '\x00' ∉ text.toList := by
    decide +kernel
  obtain ⟨failure, hfailure⟩ := readStrings_of_not_ascii _ hnot hnull (by decide +kernel)
  rintro ⟨read, hread, -⟩
  rw [stringSet_put, hfailure] at hread
  cases hread

end StringSet

end WifiProject.Preference
