import Mathlib.Data.BitVec
import WifiProject.Lib.Bits
import WifiProject.Lib.Decimal
import WifiProject.Lib.LinkedMap
import WifiProject.Lib.PercentEncoding

/-!
The private preference store: rows of `KeyValuePair` with a type tag and raw
bytes, the getters and setters of `RoomPreferenceDataStore`, and `parsePort`. A
getter that runs out of bytes throws. How `String(bytes)` decodes bytes is a
parameter. No listener is registered with this store.
-/

namespace WifiProject.Preference

open Lib

inductive StoreFailure where
  | illegalState (message : String)
  | bufferUnderflow
  | negativeArraySize
  deriving DecidableEq, Repr

structure KeyValuePair where
  valueType : Int
  value : List UInt8
  deriving DecidableEq, Repr

namespace KeyValuePair

def typeBoolean : Int := 1
def typeInt : Int := 3
def typeLong : Int := 4
def typeString : Int := 5

/-- A big-endian number of this many bytes from the start of a buffer. -/
def getBytes (count : Nat) (value : List UInt8) : Except StoreFailure Nat :=
  if value.length < count then .error .bufferUnderflow
  else .ok ((value.take count).foldl (fun number byte => number * 256 + byte.toNat) 0)

def boolean (pair : KeyValuePair) : Except StoreFailure (Option Bool) :=
  if pair.valueType = typeBoolean then
    (getBytes 1 pair.value).map fun byte => some (byte != 0)
  else .ok none

def long (pair : KeyValuePair) : Except StoreFailure (Option Int) :=
  if pair.valueType = typeInt then
    (getBytes 4 pair.value).map fun number => some (BitVec.ofNat 32 number).toInt
  else if pair.valueType = typeLong then
    (getBytes 8 pair.value).map fun number => some (BitVec.ofNat 64 number).toInt
  else .ok none

def string (decode : List UInt8 → String) (pair : KeyValuePair) : Option String :=
  if pair.valueType = typeString then some (decode pair.value) else none

def putBoolean (value : Bool) : KeyValuePair where
  valueType := typeBoolean
  value := [if value then 1 else 0]

def putLong (value : Int) : KeyValuePair where
  valueType := typeLong
  value := bigEndian 8 (BitVec.ofInt 64 value).toNat

def putString (value : String) : KeyValuePair where
  valueType := typeString
  value := Rfc2396.bytesOf value

theorem getBytes_bigEndian (count number : Nat) :
    getBytes count (bigEndian count number) = .ok (number % 256 ^ count) := by
  have hlength := length_bigEndian count number
  rw [getBytes, if_neg (by omega), List.take_of_length_le (by omega), foldl_bigEndian]

theorem boolean_putBoolean (value : Bool) : (putBoolean value).boolean = .ok (some value) := by
  cases value with
  | false => rfl
  | true => rfl

theorem long_putLong {value : Int} (h : -2 ^ 63 ≤ value ∧ value < 2 ^ 63) :
    (putLong value).long = .ok (some value) := by
  have hpattern : (BitVec.ofInt 64 value).toNat % 256 ^ 8 = (BitVec.ofInt 64 value).toNat :=
    Nat.mod_eq_of_lt (BitVec.ofInt 64 value).isLt
  have hvalue : (BitVec.ofInt 64 value).toInt = value := by
    rw [BitVec.toInt_ofInt]
    exact Int.bmod_eq_of_le (by omega) (by omega)
  have htype : ¬ typeLong = typeInt := by decide
  simp only [long, putLong, if_neg htype, if_true, getBytes_bigEndian, hpattern]
  rw [Except.map, BitVec.ofNat_toNat, BitVec.setWidth_eq, hvalue]

theorem string_putString {decode : List UInt8 → String} {text : String}
    (h : decode (Rfc2396.bytesOf text) = text) :
    (putString text).string decode = some text := by
  rw [string, putString, if_pos rfl, h]

end KeyValuePair

abbrev PreferenceStore := LinkedMap String KeyValuePair

namespace PreferenceStore

def getBoolean (store : PreferenceStore) (key : String) : Except StoreFailure (Option Bool) :=
  (store.get? key).elim (.ok none) KeyValuePair.boolean

def getLong (store : PreferenceStore) (key : String) : Except StoreFailure (Option Int) :=
  (store.get? key).elim (.ok none) KeyValuePair.long

def getString (decode : List UInt8 → String) (store : PreferenceStore) (key : String) :
    Option String :=
  (store.get? key).bind (KeyValuePair.string decode)

/-- A setter deletes the row when the value is null. -/
def putNullable (store : PreferenceStore) (key : String) (pair : Option KeyValuePair) :
    PreferenceStore :=
  pair.elim (store.remove key) (store.put key)

def putBoolean (store : PreferenceStore) (key : String) (value : Option Bool) : PreferenceStore :=
  store.putNullable key (value.map KeyValuePair.putBoolean)

def putLong (store : PreferenceStore) (key : String) (value : Option Int) : PreferenceStore :=
  store.putNullable key (value.map KeyValuePair.putLong)

def putString (store : PreferenceStore) (key : String) (value : Option String) : PreferenceStore :=
  store.putNullable key (value.map KeyValuePair.putString)

theorem get?_putNullable (store : PreferenceStore) (key k : String) (pair : Option KeyValuePair) :
    (store.putNullable key pair).get? k = if k = key then pair else store.get? k := by
  cases pair with
  | none => exact LinkedMap.get?_remove store key k
  | some pair => exact LinkedMap.get?_put store key k pair

end PreferenceStore

namespace Key

def id : String := "profileId"
def name : String := "profileName"
def individual : String := "Proxyed"
def route : String := "route"
def proxyApps : String := "isProxyApps"
def bypass : String := "isBypassApps"
def udpdns : String := "isUdpDns"
def ipv6 : String := "isIpv6"
def metered : String := "metered"
def host : String := "proxy"
def password : String := "sitekey"
def method : String := "encMethod"
def remotePort : String := "remotePortNum"
def remoteDns : String := "remoteDns"
def plugin : String := "plugin"
def udpFallback : String := "udpFallback"
def dirty : String := "profileDirty"

end Key

/-- A number that is missing, malformed or out of range is the default. -/
def parsePort (str : Option String) (default min : Int) : Int :=
  let value := (str.bind Decimal.parseInt).getD default
  if value < min ∨ value > 65535 then default else value

theorem parsePort_mem {default min : Int} (h : min ≤ default ∧ default ≤ 65535)
    (str : Option String) : min ≤ parsePort str default min ∧ parsePort str default min ≤ 65535 := by
  simp only [parsePort]
  split
  · exact h
  · omega

/-- A port that is printed is read back. -/
theorem parsePort_toString {port default min : Int} (h : 0 ≤ port ∧ min ≤ port ∧ port ≤ 65535) :
    parsePort (some (toString port)) default min = port := by
  obtain ⟨n, rfl⟩ := Int.eq_ofNat_of_zero_le h.1
  have hprinted : toString (n : Int) = String.ofList (Nat.toDigits 10 n) := rfl
  have hread : Decimal.parseInt (toString (n : Int)) = some (n : Int) := by
    rw [hprinted]
    exact Decimal.parseInt_toDigits (by omega)
  simp only [parsePort, Option.bind_some, hread, Option.getD_some]
  rw [if_neg (by omega)]

end WifiProject.Preference
