import WifiProject.Database.Profile
import WifiProject.Lib.Text
import WifiProject.Preference.DataStore

/-!
`Profile.serialize` and `Profile.deserialize`: a profile goes to the profile
editor and comes back through the private preference store.
-/

namespace WifiProject.Database

open Lib Preference

/-- The store after a profile was written to it. -/
def Profile.serialize (store : PreferenceStore) (profile : Profile) : PreferenceStore :=
  let store := store.putLong Key.id (some (profile.id : Int))
  let store := store.putString Key.name profile.name
  let store := store.putString Key.host (some profile.host)
  let store := store.putString Key.remotePort (some (toString profile.remotePort))
  let store := store.putString Key.password (some profile.password)
  let store := store.putString Key.route (some profile.route)
  let store := store.putString Key.remoteDns (some profile.remoteDns)
  let store := store.putString Key.method (some profile.method)
  let store := store.putBoolean Key.proxyApps (some profile.proxyApps)
  let store := store.putBoolean Key.bypass (some profile.bypass)
  let store := store.putBoolean Key.udpdns (some profile.udpdns)
  let store := store.putBoolean Key.ipv6 (some profile.ipv6)
  let store := store.putBoolean Key.metered (some profile.metered)
  let store := store.putString Key.individual (some profile.individual)
  let store := store.putString Key.plugin (some (profile.plugin.getD ""))
  let store := store.putLong Key.udpFallback (profile.udpFallback.map Int.ofNat)
  store.remove Key.dirty

/-- `check(id == 0L || DataStore.editingId == id)`. -/
def Profile.checkEditing (store : PreferenceStore) (profile : Profile) : Except StoreFailure Unit :=
  if profile.id = 0 then .ok ()
  else
    (store.getLong Key.id).bind fun editingId =>
      if editingId = some (profile.id : Int) then .ok ()
      else .error (.illegalState "Check failed.")

section Deserialize

variable (decode : List UInt8 → String)

/-- The profile and the store after it. The `udpFallback` in the store is a row
id. -/
def Profile.deserialize (store : PreferenceStore) (profile : Profile) :
    Except StoreFailure (Profile × PreferenceStore) := do
  profile.checkEditing store
  let store : PreferenceStore := store.remove Key.id
  let getString (key : String) : String := (store.getString decode key).getD ""
  let proxyApps ← store.getBoolean Key.proxyApps
  let bypass ← store.getBoolean Key.bypass
  let udpdns ← store.getBoolean Key.udpdns
  let ipv6 ← store.getBoolean Key.ipv6
  let metered ← store.getBoolean Key.metered
  let udpFallback ← store.getLong Key.udpFallback
  return ({ profile with
    name := some (getString Key.name)
    host := String.ofList (Text.trim (getString Key.host).toList)
    remotePort := parsePort (store.getString decode Key.remotePort) 8388 1
    password := getString Key.password
    method := getString Key.method
    route := getString Key.route
    remoteDns := getString Key.remoteDns
    proxyApps := proxyApps.getD false
    bypass := bypass.getD false
    udpdns := udpdns.getD false
    ipv6 := ipv6.getD false
    metered := metered.getD false
    individual := getString Key.individual
    plugin := some (getString Key.plugin)
    udpFallback := udpFallback.map Int.toNat }, store)

theorem exists_of_bind_eq_ok {ε α β : Type} {x : Except ε α} {f : α → Except ε β} {b : β}
    (h : (x >>= f) = .ok b) : ∃ a, x = .ok a ∧ f a = .ok b := by
  cases x with
  | error e => cases h
  | ok a => exact ⟨a, rfl, h⟩

/-- What is edited has a port that a server can have. -/
theorem deserialize_remotePort {store : PreferenceStore} {profile : Profile}
    {edited : Profile × PreferenceStore} (h : profile.deserialize decode store = .ok edited) :
    1 ≤ edited.1.remotePort ∧ edited.1.remotePort ≤ 65535 := by
  unfold Profile.deserialize at h
  obtain ⟨_, -, h⟩ := exists_of_bind_eq_ok h
  obtain ⟨proxyApps, -, h⟩ := exists_of_bind_eq_ok h
  obtain ⟨bypass, -, h⟩ := exists_of_bind_eq_ok h
  obtain ⟨udpdns, -, h⟩ := exists_of_bind_eq_ok h
  obtain ⟨ipv6, -, h⟩ := exists_of_bind_eq_ok h
  obtain ⟨metered, -, h⟩ := exists_of_bind_eq_ok h
  obtain ⟨udpFallback, -, h⟩ := exists_of_bind_eq_ok h
  cases h
  exact parsePort_mem (by decide) _

end Deserialize

end WifiProject.Database
