import WifiProject.Database.Editing

/-!
Editing a profile without changing anything: what `serialize` writes over any
earlier content of the store, `deserialize` reads back.
-/

namespace WifiProject.Database

open Lib Preference

section Rows

variable (profile : Profile) (store : PreferenceStore)

/-- The rows of a written profile. What was there before stays under other keys
only. -/
theorem get?_serialize (key : String) :
    (profile.serialize store).get? key =
      if key = Key.dirty then none
      else if key = Key.udpFallback then
        (profile.udpFallback.map Int.ofNat).map KeyValuePair.putLong
      else if key = Key.plugin then some (KeyValuePair.putString (profile.plugin.getD ""))
      else if key = Key.individual then some (KeyValuePair.putString profile.individual)
      else if key = Key.metered then some (KeyValuePair.putBoolean profile.metered)
      else if key = Key.ipv6 then some (KeyValuePair.putBoolean profile.ipv6)
      else if key = Key.udpdns then some (KeyValuePair.putBoolean profile.udpdns)
      else if key = Key.bypass then some (KeyValuePair.putBoolean profile.bypass)
      else if key = Key.proxyApps then some (KeyValuePair.putBoolean profile.proxyApps)
      else if key = Key.method then some (KeyValuePair.putString profile.method)
      else if key = Key.remoteDns then some (KeyValuePair.putString profile.remoteDns)
      else if key = Key.route then some (KeyValuePair.putString profile.route)
      else if key = Key.password then some (KeyValuePair.putString profile.password)
      else if key = Key.remotePort then
        some (KeyValuePair.putString (toString profile.remotePort))
      else if key = Key.host then some (KeyValuePair.putString profile.host)
      else if key = Key.name then profile.name.map KeyValuePair.putString
      else if key = Key.id then some (KeyValuePair.putLong (profile.id : Int))
      else store.get? key := by
  simp only [Profile.serialize, LinkedMap.get?_remove, PreferenceStore.putLong,
    PreferenceStore.putString, PreferenceStore.putBoolean, PreferenceStore.get?_putNullable,
    Option.map_some]

/-- The rows that the fields of a profile are read from. -/
structure Holds (store : PreferenceStore) (profile : Profile) : Prop where
  name : store.get? Key.name = profile.name.map KeyValuePair.putString
  host : store.get? Key.host = some (KeyValuePair.putString profile.host)
  remotePort : store.get? Key.remotePort =
    some (KeyValuePair.putString (toString profile.remotePort))
  password : store.get? Key.password = some (KeyValuePair.putString profile.password)
  method : store.get? Key.method = some (KeyValuePair.putString profile.method)
  route : store.get? Key.route = some (KeyValuePair.putString profile.route)
  remoteDns : store.get? Key.remoteDns = some (KeyValuePair.putString profile.remoteDns)
  proxyApps : store.get? Key.proxyApps = some (KeyValuePair.putBoolean profile.proxyApps)
  bypass : store.get? Key.bypass = some (KeyValuePair.putBoolean profile.bypass)
  udpdns : store.get? Key.udpdns = some (KeyValuePair.putBoolean profile.udpdns)
  ipv6 : store.get? Key.ipv6 = some (KeyValuePair.putBoolean profile.ipv6)
  metered : store.get? Key.metered = some (KeyValuePair.putBoolean profile.metered)
  individual : store.get? Key.individual = some (KeyValuePair.putString profile.individual)
  plugin : store.get? Key.plugin = some (KeyValuePair.putString (profile.plugin.getD ""))
  udpFallback : store.get? Key.udpFallback =
    (profile.udpFallback.map Int.ofNat).map KeyValuePair.putLong

/-- Every field has a key of its own, and none of them is the key of the id. -/
theorem serialize_holds : Holds ((profile.serialize store).remove Key.id) profile := by
  have hrow {key : String} (hkey : key ≠ Key.id) :
      ((profile.serialize store).remove Key.id).get? key = (profile.serialize store).get? key := by
    rw [LinkedMap.get?_remove, if_neg hkey]
  constructor
  all_goals
    rw [hrow (by decide), get?_serialize]
    rfl

end Rows

section Values

variable {store : PreferenceStore} {key : String}

theorem getBoolean_of_row {value : Bool}
    (h : store.get? key = some (KeyValuePair.putBoolean value)) :
    store.getBoolean key = .ok (some value) := by
  rw [PreferenceStore.getBoolean, h]
  exact KeyValuePair.boolean_putBoolean value

theorem getLong_of_row {value : Option Nat} (hvalue : ∀ id, value = some id → id < 2 ^ 63)
    (h : store.get? key = (value.map Int.ofNat).map KeyValuePair.putLong) :
    store.getLong key = .ok (value.map Int.ofNat) := by
  rw [PreferenceStore.getLong, h]
  cases value with
  | none => rfl
  | some id =>
      have hid : -2 ^ 63 ≤ (id : Int) ∧ (id : Int) < 2 ^ 63 := by
        have := hvalue id rfl
        omega
      exact KeyValuePair.long_putLong hid

theorem getString_of_row {decode : List UInt8 → String}
    (hdecode : ∀ text, decode (Rfc2396.bytesOf text) = text) {text : String}
    (h : store.get? key = some (KeyValuePair.putString text)) :
    store.getString decode key = some text := by
  rw [PreferenceStore.getString, h]
  exact KeyValuePair.string_putString (hdecode text)

theorem getString_of_nullable_row {decode : List UInt8 → String}
    (hdecode : ∀ text, decode (Rfc2396.bytesOf text) = text) {value : Option String}
    (h : store.get? key = value.map KeyValuePair.putString) :
    store.getString decode key = value := by
  cases value with
  | none => rw [PreferenceStore.getString, h]; rfl
  | some text => exact getString_of_row hdecode h

end Values

/-- Row ids are `Long`s. -/
structure Profile.LongIds (profile : Profile) : Prop where
  id : profile.id < 2 ^ 63
  udpFallback : ∀ id, profile.udpFallback = some id → id < 2 ^ 63

/-- The fields of a profile that was edited, in another one. -/
def Profile.withFieldsOf (profile edited : Profile) : Profile :=
  { profile with
    name := some (edited.name.getD "")
    host := String.ofList (Text.trim edited.host.toList)
    remotePort := edited.remotePort
    password := edited.password
    method := edited.method
    route := edited.route
    remoteDns := edited.remoteDns
    proxyApps := edited.proxyApps
    bypass := edited.bypass
    udpdns := edited.udpdns
    ipv6 := edited.ipv6
    metered := edited.metered
    individual := edited.individual
    plugin := some (edited.plugin.getD "")
    udpFallback := edited.udpFallback }

section RoundTrip

variable {decode : List UInt8 → String} {store : PreferenceStore} {p q : Profile}

theorem checkEditing_serialize (hid : p.id < 2 ^ 63) (h : q.id = p.id ∨ q.id = 0) :
    q.checkEditing (p.serialize store) = .ok () := by
  have hrow : (p.serialize store).get? Key.id = some (KeyValuePair.putLong (p.id : Int)) := by
    rw [get?_serialize]
    rfl
  have hediting : (p.serialize store).getLong Key.id = .ok (some (p.id : Int)) := by
    rw [PreferenceStore.getLong, hrow]
    exact KeyValuePair.long_putLong (by omega)
  rw [Profile.checkEditing, hediting]
  split
  · rfl
  · rename_i hnew
    rw [h.resolve_right hnew]
    exact if_pos rfl

/-- Reading the rows of a profile gives its fields. -/
theorem Holds.deserialize (h : Holds (store.remove Key.id) p)
    (hdecode : ∀ text, decode (Rfc2396.bytesOf text) = text)
    (hcheck : q.checkEditing store = .ok ())
    (hport : 1 ≤ p.remotePort ∧ p.remotePort ≤ 65535)
    (hfallback : ∀ id, p.udpFallback = some id → id < 2 ^ 63) :
    q.deserialize decode store = .ok (q.withFieldsOf p, store.remove Key.id) := by
  have hread : parsePort (some (toString p.remotePort)) 8388 1 = p.remotePort :=
    parsePort_toString (by omega)
  have hid : (p.udpFallback.map Int.ofNat).map Int.toNat = p.udpFallback := by
    cases p.udpFallback with
    | none => rfl
    | some id => rfl
  simp only [Profile.deserialize, hcheck, bind, Except.bind, pure, Except.pure,
    getBoolean_of_row h.proxyApps, getBoolean_of_row h.bypass, getBoolean_of_row h.udpdns,
    getBoolean_of_row h.ipv6, getBoolean_of_row h.metered, getLong_of_row hfallback h.udpFallback,
    getString_of_nullable_row hdecode h.name, getString_of_row hdecode h.host,
    getString_of_row hdecode h.remotePort, getString_of_row hdecode h.password,
    getString_of_row hdecode h.method, getString_of_row hdecode h.route,
    getString_of_row hdecode h.remoteDns, getString_of_row hdecode h.individual,
    getString_of_row hdecode h.plugin, Option.getD_some, hread, hid]
  rfl

/-- No field is lost, whatever the store held before. -/
theorem deserialize_serialize (hdecode : ∀ text, decode (Rfc2396.bytesOf text) = text)
    (hport : 1 ≤ p.remotePort ∧ p.remotePort ≤ 65535) (hids : p.LongIds)
    (hq : q.id = p.id ∨ q.id = 0) :
    ∃ after, q.deserialize decode (p.serialize store) = .ok (q.withFieldsOf p, after) := by
  have hcheck : q.checkEditing (p.serialize store) = .ok () := checkEditing_serialize hids.id hq
  have hread := (serialize_holds p store).deserialize hdecode hcheck hport hids.udpFallback
  exact ⟨_, hread⟩

/-- The leftovers of another profile do not show. -/
theorem deserialize_serialize_unnamed :
    ∃ after, ({} : Profile).deserialize (fun bytes => (Rfc2396.ofBytes bytes).getD "")
        (Profile.serialize (Profile.serialize LinkedMap.empty { id := 7, name := some "work" })
          { id := 8, name := none, host := " example.org ", udpFallback := some 7 }) =
      .ok (({} : Profile).withFieldsOf
        { id := 8, name := none, host := " example.org ", udpFallback := some 7 }, after) := by
  apply deserialize_serialize
  · intro text
    rw [Rfc2396.ofBytes_bytesOf, Option.getD_some]
  · decide
  · exact ⟨by decide, by decide⟩
  · exact Or.inr rfl

end RoundTrip

end WifiProject.Database
