import Mathlib.Data.BitVec

/-!
The `Profile` entity. A Kotlin `Long` counter is a 64-bit word with wrapping
addition; row ids are assigned by the database from 1 on, so they are natural
numbers and 0 is the id of a profile that is not stored.
-/

namespace WifiProject.Database

abbrev Long := BitVec 64

inductive SubscriptionStatus where
  | userConfigured
  | active
  | obsolete
  deriving DecidableEq, Repr

structure Profile where
  id : Nat := 0
  name : Option String := some "Fast Smart Server"
  host : String := "example.shadowsocks.org"
  remotePort : Int := 8388
  password : String := "u1rRWTssNv0p"
  method : String := "aes-256-cfb"
  route : String := "all"
  remoteDns : String := "dns.google"
  proxyApps : Bool := false
  bypass : Bool := false
  udpdns : Bool := false
  ipv6 : Bool := false
  metered : Bool := false
  individual : String := ""
  plugin : Option String := none
  udpFallback : Option Nat := none
  subscription : SubscriptionStatus := .userConfigured
  tx : Long := 0
  rx : Long := 0
  userOrder : Int := 0
  dirty : Bool := false
  deriving DecidableEq, Repr

/-- `String?.isNullOrEmpty()`. -/
def isNullOrEmpty : Option String → Bool
  | none => true
  | some s => s.isEmpty

namespace Profile

def formattedAddress (profile : Profile) : String :=
  if ':' ∈ profile.host.toList then
    "[" ++ profile.host ++ "]:" ++ toString profile.remotePort
  else profile.host ++ ":" ++ toString profile.remotePort

def formattedName (profile : Profile) : String :=
  match profile.name with
  | none => profile.formattedAddress
  | some name => if name.isEmpty then profile.formattedAddress else name

/-- `feature.copyFeatureSettingsTo(profile)`. -/
def copyFeatureSettingsTo (feature profile : Profile) : Profile :=
  { profile with
    route := feature.route
    ipv6 := feature.ipv6
    metered := feature.metered
    proxyApps := feature.proxyApps
    bypass := feature.bypass
    individual := feature.individual
    udpdns := feature.udpdns }

/-- The key under which a subscription finds a profile again. -/
abbrev Key := Option String × String

def key (profile : Profile) : Key := (profile.name, profile.formattedAddress)

end Profile

/-- A profile with the profile its `udpFallback` points to. -/
structure ExpandedProfile where
  main : Profile
  udpFallback : Option Profile
  deriving DecidableEq, Repr

def ExpandedProfile.toList (expanded : ExpandedProfile) : List Profile :=
  expanded.main :: expanded.udpFallback.toList

end WifiProject.Database
