import Mathlib.Data.List.DropRight
import WifiProject.Net.Subnet

/-!
`WifiUtil.getConnBoxIpAddress`: the broadcast address of the network, by way of dotted
texts and 64-bit numbers. `WifiManager` gives an address with its first byte lowest.
-/

namespace WifiProject.Utils

open Lib Net

/-- `"" + paramInt`. -/
def decimalText {w : Nat} (number : BitVec w) : String := toString number.toInt

def intToIpWM (paramInt : BitVec 32) : String :=
  decimalText (paramInt &&& 0xFF) ++ "." ++ decimalText (0xFF &&& paramInt.sshiftRight 8) ++ "." ++
    decimalText (0xFF &&& paramInt.sshiftRight 16) ++ "." ++
    decimalText (0xFF &&& paramInt.sshiftRight 24)

def longToIp (paramInt : BitVec 64) : String :=
  decimalText (0xFF &&& paramInt.sshiftRight 24) ++ "." ++
    decimalText (0xFF &&& paramInt.sshiftRight 16) ++ "." ++
    decimalText (0xFF &&& paramInt.sshiftRight 8) ++ "." ++ decimalText (0xFF &&& paramInt)

/-- `text.split(sep)`: empty parts at the end go, except when nothing is split. -/
def split (sep : Char) (text : String) : List (List Char) :=
  if sep ∈ text.toList then (text.toList.splitOn sep).rdropWhile List.isEmpty else [text.toList]

/-- `Long.parseLong(ip[i])`; `none` is an exception. -/
def parsePart (ip : List (List Char)) (i : Nat) : Option (BitVec 64) := do
  let part ← ip[i]?
  let value ← Decimal.parseLong 10 part
  return BitVec.ofInt 64 value

def ipToLong (strIp : String) : Option (BitVec 64) := do
  let ip := split '.' strIp
  let first ← parsePart ip 0
  let second ← parsePart ip 1
  let third ← parsePart ip 2
  let fourth ← parsePart ip 3
  return (first <<< 24) + (second <<< 16) + (third <<< 8) + fourth

def getNetCode (ip subnetMask : String) : Option (BitVec 64) := do
  let ip ← ipToLong ip
  let subnetMask ← ipToLong subnetMask
  return ip &&& subnetMask

/-- What the loop appends for a character of `Long.toBinaryString`. -/
def flipItem (item : Char) : List Char :=
  if item = '0' then ['1'] else if item = '1' then ['0'] else []

def getOnesComplementCode (trueCode : BitVec 64) : Option (BitVec 64) :=
  let trueBinaryStr := Nat.toDigits 2 trueCode.toNat
  if trueBinaryStr.isEmpty then some 0
  else
    let resultStr := trueBinaryStr.flatMap flipItem
    if resultStr.isEmpty then some 0
    else (Decimal.parseLong 2 resultStr).map (BitVec.ofInt 64)

/-- An empty text stands for `null` too. -/
def getBCAddress (ip subnetMask : String) : Option (BitVec 64) :=
  if subnetMask = "" ∨ subnetMask = "0.0.0.0" ∨ ip = "" ∨ ip = "0.0.0.0" then
    ipToLong "255.255.255.255"
  else do
    let trueCode ← ipToLong subnetMask
    let qufan ← getOnesComplementCode trueCode
    let netCode ← getNetCode ip subnetMask
    return netCode ||| qufan

/-- The broadcast address: the host bits are ones. -/
def broadcast {w : Nat} (ip mask : BitVec w) : BitVec w := (ip &&& mask) ||| ~~~mask

/-- An IPv4 address. -/
def quad (a b c d : BitVec 8) : InetAddress := ⟨[a, b, c, d].map UInt8.ofBitVec, Or.inl rfl⟩

/-- The address with its first byte lowest. -/
def addressWM (ip : BitVec 32) : InetAddress :=
  quad (ip.extractLsb' 0 8) (ip.extractLsb' 8 8) (ip.extractLsb' 16 8) (ip.extractLsb' 24 8)

/-- The two conversions undo each other. -/
def TextsAgree : Prop :=
  (∀ number : BitVec 64, number.toNat < 2 ^ 32 → ipToLong (longToIp number) = some number) ∧
    ∀ a b c d, (ipToLong (dotted (quad a b c d))).map longToIp = some (dotted (quad a b c d))

section Texts

variable {w : Nat}

theorem getLsbD_byteMask {i : Nat} (hw : 8 ≤ w) : (0xFF#w).getLsbD i = decide (i < 8) := by
  have hmask : (255 : Nat) = 2 ^ 8 - 1 := rfl
  rw [BitVec.getLsbD_ofNat, hmask, Nat.testBit_two_pow_sub_one]
  by_cases hi : i < 8
  · simp [hi]
    omega
  · simp [hi]

/-- A masked shift is a byte. -/
theorem and_sshiftRight (number : BitVec w) {k : Nat} (hk : k + 8 ≤ w) :
    0xFF#w &&& number.sshiftRight k = (number.extractLsb' k 8).setWidth w := by
  apply BitVec.eq_of_getLsbD_eq
  intro i hi
  rw [BitVec.getLsbD_and, getLsbD_byteMask (by omega), BitVec.getLsbD_setWidth,
    BitVec.getLsbD_extractLsb', BitVec.getLsbD_sshiftRight]
  by_cases hlow : i < 8
  · have hbits : ¬ w ≤ i ∧ k + i < w := by omega
    simp [hlow, hbits, hi]
  · simp [hlow]

theorem toList_decimalText_byte (byte : BitVec 8) (hw : 8 < w) :
    (decimalText (byte.setWidth w)).toList = Nat.toDigits 10 byte.toNat := by
  have hle : 2 ^ 9 ≤ 2 ^ w := Nat.pow_le_pow_right (by omega) hw
  have hlt := byte.isLt
  have hnat : (byte.setWidth w).toNat = byte.toNat := by
    rw [BitVec.toNat_setWidth, Nat.mod_eq_of_lt (by omega)]
  have hint : (byte.setWidth w).toInt = Int.ofNat byte.toNat := by
    rw [BitVec.toInt_eq_toNat_of_lt (by omega), hnat]
    rfl
  rw [decimalText, hint, Decimal.toList_toString_ofNat]

theorem toList_dotted_quad (a b c d : BitVec 8) :
    (dotted (quad a b c d)).toList = Nat.toDigits 10 a.toNat ++ '.' :: Nat.toDigits 10 b.toNat ++
      '.' :: Nat.toDigits 10 c.toNat ++ '.' :: Nat.toDigits 10 d.toNat := by
  rw [dotted, String.toList_ofList]
  simp [quad, List.intercalate_cons_cons]

/-- Four bytes with dots are the address. -/
theorem join_bytes (a b c d : BitVec 8) (hw : 8 < w) :
    decimalText (a.setWidth w) ++ "." ++ decimalText (b.setWidth w) ++ "." ++
      decimalText (c.setWidth w) ++ "." ++ decimalText (d.setWidth w) = dotted (quad a b c d) := by
  apply String.toList_inj.mp
  rw [toList_dotted_quad]
  simp [String.toList_append, toList_decimalText_byte, hw]

theorem intToIpWM_eq (paramInt : BitVec 32) : intToIpWM paramInt = dotted (addressWM paramInt) := by
  have hfirst : paramInt &&& 0xFF = (paramInt.extractLsb' 0 8).setWidth 32 := by
    rw [← and_sshiftRight paramInt (by omega), BitVec.sshiftRight_zero, BitVec.and_comm]
    rfl
  have hshift (k : Nat) (hk : k + 8 ≤ 32) :
      0xFF &&& paramInt.sshiftRight k = (paramInt.extractLsb' k 8).setWidth 32 :=
    and_sshiftRight paramInt hk
  rw [intToIpWM, hfirst, hshift 8 (by omega), hshift 16 (by omega), hshift 24 (by omega),
    join_bytes _ _ _ _ (by omega), addressWM]

theorem longToIp_eq (paramInt : BitVec 64) :
    longToIp paramInt = dotted (quad (paramInt.extractLsb' 24 8) (paramInt.extractLsb' 16 8)
      (paramInt.extractLsb' 8 8) (paramInt.extractLsb' 0 8)) := by
  have hshift (k : Nat) (hk : k + 8 ≤ 64) :
      0xFF &&& paramInt.sshiftRight k = (paramInt.extractLsb' k 8).setWidth 64 :=
    and_sshiftRight paramInt hk
  have hlast := hshift 0 (by omega)
  rw [BitVec.sshiftRight_zero] at hlast
  rw [longToIp, hshift 24 (by omega), hshift 16 (by omega), hshift 8 (by omega), hlast,
    join_bytes _ _ _ _ (by omega)]

theorem split_dotted (a b c d : BitVec 8) :
    split '.' (dotted (quad a b c d)) =
      [a, b, c, d].map fun byte => Nat.toDigits 10 byte.toNat := by
  have hsplit : (dotted (quad a b c d)).toList.splitOn '.' =
      [a, b, c, d].map fun byte => Nat.toDigits 10 byte.toNat := splitOn_dotted _
  have hmem : '.' ∈ (dotted (quad a b c d)).toList := by
    simp [toList_dotted_quad]
  rw [split, if_pos hmem, hsplit, List.rdropWhile_eq_self_iff]
  intro _
  simp

theorem parsePart_dotted (byte : BitVec 8) {parts : List (List Char)} {i : Nat}
    (h : parts[i]? = some (Nat.toDigits 10 byte.toNat)) :
    parsePart parts i = some (byte.setWidth 64) := by
  have hlt := byte.isLt
  rw [parsePart, h, Option.bind_eq_bind, Option.bind_some,
    Decimal.parseLong_toDigits (by omega), Option.bind_eq_bind, Option.bind_some,
    BitVec.ofInt_natCast, BitVec.ofNat_toNat]
  rfl

/-- The four bytes side by side. -/
def joined (a b c d : BitVec 8) : BitVec 32 := a ++ b ++ c ++ d

theorem toNat_joined (a b c d : BitVec 8) :
    (joined a b c d).toNat =
      ((a.toNat * 2 ^ 8 + b.toNat) * 2 ^ 8 + c.toNat) * 2 ^ 8 + d.toNat := by
  have happend {w : Nat} (x : BitVec w) (y : BitVec 8) :
      (x ++ y).toNat = x.toNat * 2 ^ 8 + y.toNat := by
    rw [BitVec.toNat_append, ← Nat.shiftLeft_add_eq_or_of_lt y.isLt, Nat.shiftLeft_eq]
  rw [joined, happend, happend, happend]

theorem shifted_sum (a b c d : BitVec 8) :
    (a.setWidth 64 <<< 24) + (b.setWidth 64 <<< 16) + (c.setWidth 64 <<< 8) + d.setWidth 64 =
      (joined a b c d).setWidth 64 := by
  have ha := a.isLt
  have hb := b.isLt
  have hc := c.isLt
  have hd := d.isLt
  apply BitVec.eq_of_toNat_eq
  simp only [BitVec.toNat_add, BitVec.toNat_shiftLeft, BitVec.toNat_setWidth, Nat.shiftLeft_eq,
    toNat_joined]
  omega

theorem ipToLong_dotted (a b c d : BitVec 8) :
    ipToLong (dotted (quad a b c d)) = some ((joined a b c d).setWidth 64) := by
  unfold ipToLong
  dsimp only
  rw [split_dotted, parsePart_dotted a rfl, parsePart_dotted b rfl, parsePart_dotted c rfl,
    parsePart_dotted d rfl]
  exact congrArg some (shifted_sum a b c d)

theorem longToIp_joined (a b c d : BitVec 8) :
    longToIp ((joined a b c d).setWidth 64) = dotted (quad a b c d) := by
  have hbyte (k : Nat) (hk : k + 8 ≤ 64) : ((joined a b c d).setWidth 64).extractLsb' k 8 =
      (joined a b c d).extractLsb' k 8 := BitVec.extractLsb'_setWidth_of_le hk
  have hd : (joined a b c d).extractLsb' 0 8 = d := BitVec.extractLsb'_append_eq_right
  have ha : (joined a b c d).extractLsb' 24 8 = a := by
    rw [joined, BitVec.extractLsb'_append_eq_of_le (by omega),
      BitVec.extractLsb'_append_eq_of_le (by omega)]
    exact BitVec.extractLsb'_append_eq_left
  have hb : (joined a b c d).extractLsb' 16 8 = b := by
    rw [joined, BitVec.extractLsb'_append_eq_of_le (by omega),
      BitVec.extractLsb'_append_eq_of_le (by omega)]
    exact BitVec.extractLsb'_append_eq_right
  have hc : (joined a b c d).extractLsb' 8 8 = c := by
    rw [joined, BitVec.extractLsb'_append_eq_of_le (by omega)]
    exact BitVec.extractLsb'_append_eq_right
  rw [longToIp_eq, hbyte 24 (by omega), hbyte 16 (by omega), hbyte 8 (by omega),
    hbyte 0 (by omega), ha, hb, hc, hd]

theorem joined_extract (number : BitVec 32) :
    joined (number.extractLsb' 24 8) (number.extractLsb' 16 8) (number.extractLsb' 8 8)
      (number.extractLsb' 0 8) = number := by
  have hlt := number.isLt
  apply BitVec.eq_of_toNat_eq
  simp only [toNat_joined, BitVec.extractLsb'_toNat, Nat.shiftRight_eq_div_pow]
  omega

theorem textsAgree : TextsAgree := by
  constructor
  · intro number hnumber
    have hwide : (number.setWidth 32).setWidth 64 = number := by
      apply BitVec.eq_of_toNat_eq
      have hlt := number.isLt
      rw [BitVec.toNat_setWidth, BitVec.toNat_setWidth]
      omega
    rw [← hwide, ← joined_extract (number.setWidth 32), longToIp_joined, ipToLong_dotted]
  · intro a b c d
    rw [ipToLong_dotted, Option.map_some, longToIp_joined]

end Texts

section Complement

theorem flatMap_flipItem (n : Nat) :
    (Nat.toDigits 2 n).flatMap flipItem = (Nat.toDigits 2 n).map Decimal.flipDigit := by
  rw [← List.flatMap_singleton' ((Nat.toDigits 2 n).map Decimal.flipDigit), List.flatMap_map]
  apply List.flatMap_congr
  intro c hc
  rcases Decimal.zero_or_one_of_mem_toDigits hc with rfl | rfl
  · rfl
  · rfl

/-- With the highest bit set no digit is missing. -/
theorem getOnesComplementCode_eq {number : BitVec 32} (h : number.msb = true) :
    getOnesComplementCode (number.setWidth 64) = some ((~~~number).setWidth 64) := by
  have hge : 2 ^ 31 ≤ number.toNat := by
    rw [BitVec.msb_eq_decide, decide_eq_true_iff] at h
    exact h
  have hlt := number.isLt
  have hnat : (number.setWidth 64).toNat = number.toNat := by
    rw [BitVec.toNat_setWidth]
    omega
  have hlength : (Nat.toDigits 2 number.toNat).length = 32 := by
    have hle := (Nat.length_toDigits_le_iff (n := number.toNat) (by decide : 1 < 2)
      (by decide : 0 < 32)).mpr hlt
    have hgt : ¬ (Nat.toDigits 2 number.toNat).length ≤ 31 := by
      rw [Nat.length_toDigits_le_iff (by decide) (by decide)]
      omega
    omega
  have hvalue := Decimal.ofDigitChars_flipDigit number.toNat
  rw [hlength] at hvalue
  have hdigits : ∀ c ∈ (Nat.toDigits 2 number.toNat).map Decimal.flipDigit,
      Decimal.IsDigitOf 2 c := by
    intro c hc
    obtain ⟨digit, -, rfl⟩ := List.mem_map.mp hc
    exact Decimal.isDigitOf_flipDigit digit
  have hne : (Nat.toDigits 2 number.toNat).map Decimal.flipDigit ≠ [] := by simp
  have hnot : ((~~~number).setWidth 64).toNat =
      Nat.ofDigitChars 2 ((Nat.toDigits 2 number.toNat).map Decimal.flipDigit) 0 := by
    rw [BitVec.toNat_setWidth, BitVec.toNat_not]
    omega
  unfold getOnesComplementCode
  dsimp only
  rw [hnat, flatMap_flipItem, if_neg (by simp), if_neg (by simp),
    Decimal.parseLong_of_isDigitOf hne hdigits (by omega), Option.map_some, ← hnot,
    BitVec.ofInt_natCast, BitVec.ofNat_toNat, BitVec.setWidth_eq]

end Complement

section Broadcast

/-- The bytes the other way round: what `ipToLong` makes of the text of an address. -/
def reversed (ip : BitVec 32) : BitVec 32 :=
  joined (ip.extractLsb' 0 8) (ip.extractLsb' 8 8) (ip.extractLsb' 16 8) (ip.extractLsb' 24 8)

theorem ipToLong_intToIpWM (ip : BitVec 32) :
    ipToLong (intToIpWM ip) = some ((reversed ip).setWidth 64) := by
  rw [intToIpWM_eq, addressWM, ipToLong_dotted, reversed]

theorem msb_reversed (ip : BitVec 32) : (reversed ip).msb = ip.getLsbD 7 := by
  unfold reversed joined
  rw [BitVec.msb_append, if_neg (by decide), BitVec.msb_append, if_neg (by decide),
    BitVec.msb_append, if_neg (by decide), BitVec.msb_eq_getLsbD_last, BitVec.getLsbD_extractLsb']
  rfl

/-- Every byte is masked by itself. -/
theorem broadcast_reversed (ip mask : BitVec 32) :
    broadcast (reversed ip) (reversed mask) = reversed (broadcast ip mask) := by
  have hbyte (k : Nat) (hk : k + 8 ≤ 32) :
      (broadcast ip mask).extractLsb' k 8 =
        (ip.extractLsb' k 8 &&& mask.extractLsb' k 8) ||| ~~~mask.extractLsb' k 8 := by
    apply BitVec.eq_of_getLsbD_eq
    intro i hi
    have hbit : k + i < 32 := by omega
    simp [broadcast, hi, hbit]
  have hjoined (a b c d a' b' c' d' : BitVec 8) :
      broadcast (joined a b c d) (joined a' b' c' d') = joined ((a &&& a') ||| ~~~a')
        ((b &&& b') ||| ~~~b') ((c &&& c') ||| ~~~c') ((d &&& d') ||| ~~~d') := by
    change broadcast (w := 8 + 8 + 8 + 8) (a ++ b ++ c ++ d) (a' ++ b' ++ c' ++ d') = _
    simp only [broadcast, BitVec.and_append, BitVec.or_append, BitVec.not_append, joined]
  unfold reversed
  rw [hbyte 0 (by omega), hbyte 8 (by omega), hbyte 16 (by omega), hbyte 24 (by omega), hjoined]

/-- Only the address with no bit is written with zeros alone. -/
theorem intToIpWM_ne_zeros {ip : BitVec 32} (h : ip ≠ 0) : intToIpWM ip ≠ "0.0.0.0" := by
  intro hzeros
  have hparse : parseDotted "0.0.0.0" = some (quad 0 0 0 0) := by decide
  rw [← hzeros, intToIpWM_eq, parseDotted_dotted rfl, Option.some.injEq, addressWM] at hparse
  have hbytes : [ip.extractLsb' 0 8, ip.extractLsb' 8 8, ip.extractLsb' 16 8,
      ip.extractLsb' 24 8] = [0, 0, 0, 0] :=
    congrArg (fun address => address.address.map UInt8.toBitVec) hparse
  simp only [List.cons.injEq, and_true] at hbytes
  obtain ⟨h0, h8, h16, h24⟩ := hbytes
  rw [← joined_extract ip, h0, h8, h16, h24] at h
  exact h rfl

end Broadcast

/-- The host bits of the broadcast address are ones, and no conversion on the way to it
loses anything. -/
theorem getBCAddress_eq_broadcast (ip mask : BitVec 32) (hip : ip ≠ 0)
    (hmask : mask.getLsbD 7 = true) :
    (getBCAddress (intToIpWM ip) (intToIpWM mask)).map longToIp =
      some (dotted (addressWM (broadcast ip mask))) ∧ TextsAgree := by
  have hmask' : mask ≠ 0 := by
    rintro rfl
    cases hmask
  have hempty (ip : BitVec 32) : intToIpWM ip ≠ "" := by
    rw [intToIpWM_eq]
    exact dotted_ne_empty rfl
  have hcode : getOnesComplementCode ((reversed mask).setWidth 64) =
      some ((~~~reversed mask).setWidth 64) :=
    getOnesComplementCode_eq ((msb_reversed mask).trans hmask)
  have hwide : (reversed ip).setWidth 64 &&& (reversed mask).setWidth 64 |||
      (~~~reversed mask).setWidth 64 = (reversed (broadcast ip mask)).setWidth 64 := by
    rw [← BitVec.setWidth_and, ← BitVec.setWidth_or, ← broadcast_reversed, broadcast]
  refine ⟨?_, textsAgree⟩
  rw [getBCAddress, if_neg (by simp [hempty, intToIpWM_ne_zeros hip, intToIpWM_ne_zeros hmask'])]
  rw [getNetCode, ipToLong_intToIpWM, ipToLong_intToIpWM]
  simp only [Option.bind_eq_bind, Option.bind_some, hcode, Option.map_some, Option.pure_def]
  rw [hwide, reversed, longToIp_joined, addressWM]

theorem getBCAddress_home :
    (getBCAddress (intToIpWM 0x0101A8C0) (intToIpWM 0x00FFFFFF)).map longToIp =
      some (dotted (addressWM (broadcast 0x0101A8C0 0x00FFFFFF))) ∧ TextsAgree :=
  getBCAddress_eq_broadcast 0x0101A8C0 0x00FFFFFF (by decide) (by decide)

end WifiProject.Utils
