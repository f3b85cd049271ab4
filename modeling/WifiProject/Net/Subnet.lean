import WifiProject.Lib.Decimal
import WifiProject.Lib.Text

/-!
`Subnet`: an address and the size of its prefix. Reading and writing the
address itself is the work of the platform.
-/

namespace WifiProject.Net

open Lib

/-- The bytes of an IPv4 or an IPv6 address. -/
structure InetAddress where
  address : List UInt8
  size : address.length = 4 ∨ address.length = 16
  deriving DecidableEq

/-- Dotted quads: what every platform reads and writes for IPv4. -/
def parseDotted (text : String) : Option InetAddress :=
  match (text.toList.splitOn '.').map Decimal.parseDigits with
  | [some a, some b, some c, some d] =>
      if a < 256 ∧ b < 256 ∧ c < 256 ∧ d < 256 then
        some ⟨[a, b, c, d].map UInt8.ofNat, Or.inl rfl⟩
      else none
  | _ => none

def dotted (address : InetAddress) : String :=
  String.ofList (['.'].intercalate (address.address.map fun byte => Nat.toDigits 10 byte.toNat))

theorem length_of_parseDotted {text : String} {address : InetAddress}
    (h : parseDotted text = some address) : address.address.length = 4 := by
  unfold parseDotted at h
  split at h
  · split_ifs at h
    cases h
    rfl
  · cases h

/-- The numbers between the dots. -/
theorem splitOn_dotted (address : InetAddress) : (dotted address).toList.splitOn '.' =
    address.address.map fun byte => Nat.toDigits 10 byte.toNat := by
  have hne : address.address ≠ [] := by
    intro hnil
    have hsize := address.size
    rw [hnil] at hsize
    exact absurd hsize (by decide)
  have hdot : ∀ part ∈ address.address.map (fun byte => Nat.toDigits 10 byte.toNat),
      '.' ∉ part := by
    intro part hpart hmem
    obtain ⟨byte, -, rfl⟩ := List.mem_map.mp hpart
    exact absurd (Decimal.toDigits_isDigit _ _ hmem) (by decide)
  rw [dotted, String.toList_ofList]
  exact List.splitOn_intercalate '.' hdot (by simpa using hne)

theorem parseDotted_dotted {address : InetAddress} (h : address.address.length = 4) :
    parseDotted (dotted address) = some address := by
  have hsplit := splitOn_dotted address
  obtain ⟨bytes, hsize⟩ := address
  obtain ⟨a, b, c, d, rfl⟩ := List.length_eq_four.mp h
  have hlt : ∀ byte : UInt8, byte.toNat < 256 := fun byte => byte.toNat_lt
  rw [parseDotted, hsplit]
  simp [Decimal.parseDigits_toDigits, hlt]

theorem dotted_ne_empty {address : InetAddress} (h : address.address.length = 4) :
    dotted address ≠ "" := by
  intro hempty
  have hnone : parseDotted "" = none := by decide
  rw [← hempty, parseDotted_dotted h] at hnone
  cases hnone

theorem dotted_chars {address : InetAddress} {c : Char} (hc : c ∈ (dotted address).toList) :
    c = '.' ∨ c.isDigit = true := by
  rw [dotted, String.toList_ofList] at hc
  generalize address.address = bytes at hc
  induction bytes with
  | nil => simp at hc
  | cons byte rest ih =>
      cases rest with
      | nil =>
          simp only [List.map_cons, List.map_nil, List.intercalate_singleton] at hc
          exact Or.inr (Decimal.toDigits_isDigit _ _ hc)
      | cons next rest =>
          rw [List.map_cons, List.map_cons, List.intercalate_cons_cons, List.mem_append,
            List.mem_append, List.mem_singleton, or_assoc] at hc
          rcases hc with hc | rfl | hc
          · exact Or.inr (Decimal.toDigits_isDigit _ _ hc)
          · exact Or.inl rfl
          · exact ih hc

structure Subnet where
  address : InetAddress
  prefixSize : Nat
  inRange : prefixSize ≤ 8 * address.address.length
  deriving DecidableEq

namespace Subnet

def addressLength (address : InetAddress) : Nat := 8 * address.address.length

def fromString (parseNumericAddress : String → Option InetAddress) (value : List Char) :
    Option Subnet :=
  match parseNumericAddress (String.ofList (Text.cut '/' value).1) with
  | none => none
  | some addr =>
      match (Text.cut '/' value).2 with
      | none => some ⟨addr, addressLength addr, le_refl _⟩
      | some size =>
          match Decimal.parseInt (String.ofList size) with
          | none => none
          | some size =>
              if h : 0 ≤ size ∧ size ≤ addressLength addr then
                some ⟨addr, size.toNat, by
                  have := h.2
                  unfold addressLength at this
                  omega⟩
              else none

def toString (hostAddress : InetAddress → String) (subnet : Subnet) : List Char :=
  if subnet.prefixSize = addressLength subnet.address then (hostAddress subnet.address).toList
  else (hostAddress subnet.address).toList ++ '/' :: Nat.toDigits 10 subnet.prefixSize

/-- What is read has the address that was read. -/
theorem address_of_fromString {parseNumericAddress : String → Option InetAddress}
    {value : List Char} {subnet : Subnet} (h : fromString parseNumericAddress value = some subnet) :
    ∃ text, parseNumericAddress text = some subnet.address := by
  unfold fromString at h
  split at h
  · cases h
  · rename_i addr haddr
    split at h
    · cases h
      exact ⟨_, haddr⟩
    · split at h
      · cases h
      · split at h
        · cases h
          exact ⟨_, haddr⟩
        · cases h

/-- A subnet is read back from its string. -/
theorem fromString_toString {parseNumericAddress : String → Option InetAddress}
    {hostAddress : InetAddress → String} (subnet : Subnet)
    (hparse : parseNumericAddress (hostAddress subnet.address) = some subnet.address)
    (hslash : '/' ∉ (hostAddress subnet.address).toList) :
    fromString parseNumericAddress (subnet.toString hostAddress) = some subnet := by
  obtain ⟨address, size, hrange⟩ := subnet
  have hsmall : size < 2 ^ 31 := by
    have := address.size
    omega
  unfold toString
  split
  · rename_i hfull
    dsimp only at hfull hparse hslash
    subst hfull
    simp [fromString, Text.cut_of_not_mem hslash, hparse]
  · have hsize : (0 : Int) ≤ size ∧ (size : Int) ≤ addressLength address := by
      unfold addressLength
      omega
    simp [fromString, Text.cut_append hslash, hparse, Decimal.parseInt_toDigits hsmall, hsize]

end Subnet

end WifiProject.Net
