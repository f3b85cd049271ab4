import WifiProject.Database.JsonParser
import WifiProject.Database.SelectedPlugin

/-!
`Profile.toJson` and `ProfileManager.serializeToJson`, and what `tryParse` makes
of an exported object. The encoder writes the selected plugin only, and the
settings of proxied apps only where apps are proxied.
-/

namespace WifiProject.Database

open Lib Plugin

/-- `toJson()`, for which there are no other profiles. -/
def Profile.endpointJson (profile : Profile) : List (String × JsonElement) :=
  [("server", .string profile.host),
    ("server_port", .number (toString profile.remotePort)),
    ("password", .string profile.password),
    ("method", .string profile.method)]

def pluginJson (order : HashOrder) (plugin : PluginOptions) : List (String × JsonElement) :=
  if plugin.id.isEmpty then []
  else [("plugin", .string plugin.id), ("plugin_opts", .string (plugin.toString order true))]

/-- `put` with a null removes the key. -/
def Profile.remarksJson (profile : Profile) : List (String × JsonElement) :=
  profile.name.elim [] fun name => [("remarks", .string name)]

def Profile.appsJson (profile : Profile) : List (String × JsonElement) :=
  ("enabled", .boolean profile.proxyApps) ::
    if profile.proxyApps then
      [("bypass", .boolean profile.bypass),
        ("android_list", .array ((profile.individual.toList.splitOn '\n').map fun app =>
          .string (String.ofList app)))]
    else []

def Profile.settingsJson (profile : Profile) : List (String × JsonElement) :=
  [("route", .string profile.route),
    ("remote_dns", .string profile.remoteDns),
    ("ipv6", .boolean profile.ipv6),
    ("metered", .boolean profile.metered),
    ("proxy_apps", .object profile.appsJson),
    ("udpdns", .boolean profile.udpdns)]

/-- `profiles.get(id)`: of several profiles with an id the last one was put. -/
def lookup (profiles : List Profile) (id : Nat) : Option Profile :=
  profiles.reverse.find? (·.id = id)

/-- The fallback that is exported with a profile. -/
def Profile.fallbackIn (profiles : List Profile) (profile : Profile) : Option Profile :=
  (profile.udpFallback.bind (lookup profiles)).filter fun fallback =>
    isNullOrEmpty fallback.plugin

def fallbackJson (fallback : Option Profile) : List (String × JsonElement) :=
  fallback.elim [] fun fallback => [("udp_fallback", .object fallback.endpointJson)]

section ToJson

variable (order : HashOrder) (defaultConfig : String → Option String)

/-- The members of an exported object. -/
def Profile.members (plugin : PluginOptions) (fallback : Option Profile) (profile : Profile) :
    List (String × JsonElement) :=
  profile.endpointJson ++ (pluginJson order plugin ++
    (profile.remarksJson ++ (profile.settingsJson ++ fallbackJson fallback)))

/-- `toJson(profiles)`; an error is the message of the check in `PluginOptions`. -/
def Profile.toJson (profiles : List Profile) (profile : Profile) :
    Except String (List (String × JsonElement)) :=
  (profile.selectedOptions defaultConfig).map fun plugin =>
    profile.members order plugin (profile.fallbackIn profiles)

def serializeToJson (profiles : List Profile) : Except String JsonElement :=
  (profiles.mapM (Profile.toJson order defaultConfig profiles)).map fun objects =>
    .array (objects.map .object)

end ToJson

/-! Reading members. -/

namespace JsonElement

theorem get?_cons (name key : String) (value : JsonElement) (members : List (String × JsonElement)) :
    get? ((name, value) :: members) key = if name = key then some value else get? members key := by
  unfold get?
  by_cases h : name = key <;> simp [h]

@[simp] theorem get?_nil (key : String) : get? [] key = none := rfl

theorem get?_append (members others : List (String × JsonElement)) (key : String) :
    get? (members ++ others) key = (get? members key).or (get? others key) := by
  unfold get?
  rw [List.find?_append, Option.map_or]

end JsonElement

open JsonElement

/-- A port is printed and read back. -/
theorem intValue_repr {port : Int} (hlow : 0 ≤ port) (hhigh : port < 2 ^ 31) :
    intValue port.repr = port := by
  obtain ⟨n, rfl⟩ := Int.eq_ofNat_of_zero_le hlow
  have hdigits := Decimal.toDigits_isDigit n
  have htext : (Int.repr n).toList = Nat.toDigits 10 n := by
    change (Nat.repr n).toList = _
    simp [Nat.repr]
  have hspan : (Nat.toDigits 10 n).span Char.isDigit = (Nat.toDigits 10 n, []) := by
    rw [List.span_eq_takeWhile_dropWhile, List.takeWhile_eq_self_iff.mpr hdigits,
      List.dropWhile_eq_nil_iff.mpr hdigits]
  have hsplit : splitLiteral (Nat.toDigits 10 n) = (Nat.toDigits 10 n, [], 0) := by
    rw [splitLiteral, hspan]
  have hvalue : truncateLiteral (Nat.toDigits 10 n) = n := by
    simp [truncateLiteral, hsplit, Decimal.parseDigits_toDigits]
  have hbmod : Int.bmod (n : Int) (2 ^ 32) = n := by
    apply Int.bmod_eq_of_le <;> omega
  unfold intValue
  rw [htext]
  split
  · rename_i rest heq
    rw [heq] at hdigits
    exact absurd (hdigits '-' (List.mem_cons_self ..)) (by decide)
  · rw [hvalue, hbmod]

/-- The apps come back from their list. -/
theorem intercalate_split (individual : String) :
    String.intercalate "\n" ((individual.toList.splitOn '\n').map String.ofList) = individual := by
  have hnewline : "\n".toList = ['\n'] := rfl
  rw [← String.toList_inj, String.toList_intercalate, hnewline, List.map_map]
  have hpieces : String.toList ∘ String.ofList = id := by
    funext text
    simp
  rw [hpieces, List.map_id, List.intercalate_splitOn]

/-- What `ProxyInstance` accepts. -/
structure Profile.Accepted (profile : Profile) : Prop where
  host : profile.host ≠ ""
  password : profile.method = "none" ∨ profile.password ≠ ""
  method : profile.method ≠ ""
  remotePort : 1 ≤ profile.remotePort ∧ profile.remotePort ≤ 65535

/-- What an exported profile is parsed to. -/
def Profile.imported (plugin : Option String) (profile : Profile) : Profile where
  host := profile.host
  remotePort := profile.remotePort
  password := profile.password
  method := profile.method
  plugin := plugin
  name := profile.name
  route := profile.route
  remoteDns := profile.remoteDns
  ipv6 := profile.ipv6
  metered := profile.metered
  proxyApps := profile.proxyApps
  bypass := profile.proxyApps && profile.bypass
  individual := if profile.proxyApps then profile.individual else ""
  udpdns := profile.udpdns

/-- What an exported fallback is parsed to. -/
def Profile.importedFallback (fallback : Profile) : Profile where
  host := fallback.host
  remotePort := fallback.remotePort
  password := fallback.password
  method := fallback.method
  name := none

section Parse

variable (order order' : HashOrder) (plugin : PluginOptions) (profile : Profile)
  (fallback : Option Profile)

theorem get?_pluginJson (key : String) :
    get? (pluginJson order plugin) key =
      if plugin.id.isEmpty then none
      else if key = "plugin" then some (.string plugin.id)
      else if key = "plugin_opts" then some (.string (plugin.toString order true)) else none := by
  by_cases hid : plugin.id.isEmpty
  · simp [pluginJson, hid]
  · simp [pluginJson, hid, get?_cons, eq_comm]

theorem get?_remarksJson (key : String) :
    get? profile.remarksJson key = if key = "remarks" then profile.name.map .string else none := by
  cases hname : profile.name <;> simp [Profile.remarksJson, hname, get?_cons, eq_comm]

theorem get?_fallbackJson (key : String) :
    get? (fallbackJson fallback) key =
      if key = "udp_fallback" then fallback.map fun fallback => .object fallback.endpointJson
      else none := by
  cases fallback <;> simp [fallbackJson, get?_cons, eq_comm]

/-- A lookup in an exported object, part by part. -/
theorem get?_members (key : String) :
    get? (profile.members order plugin fallback) key =
      (get? profile.endpointJson key).or ((get? (pluginJson order plugin) key).or
        ((get? profile.remarksJson key).or ((get? profile.settingsJson key).or
          (get? (fallbackJson fallback) key)))) := by
  simp only [Profile.members, get?_append]

theorem parsePlugin_members :
    parsePlugin order' (profile.members order plugin fallback) =
      if plugin.id.isEmpty then .ok none
      else (PluginOptions.ofId plugin.id (some (plugin.toString order true))).map fun read =>
        some (read.toString order' false) := by
  have hname : get? (profile.members order plugin fallback) "plugin" =
      if plugin.id.isEmpty then none else some (.string plugin.id) := by
    simp [get?_members, get?_pluginJson, get?_remarksJson, get?_fallbackJson, get?_cons,
      Profile.endpointJson, Profile.settingsJson]
  have hopts : get? (profile.members order plugin fallback) "plugin_opts" =
      if plugin.id.isEmpty then none else some (.string (plugin.toString order true)) := by
    simp [get?_members, get?_pluginJson, get?_remarksJson, get?_fallbackJson, get?_cons,
      Profile.endpointJson, Profile.settingsJson]
  rw [parsePlugin, hname, hopts]
  by_cases hid : plugin.id.isEmpty <;> simp [hid, optString]

/-- An object that starts like an exported one, given what its plugin is. -/
theorem parseServer_endpointJson {rest : List (String × JsonElement)} {text : Option String}
    (haccepted : profile.Accepted) (hpassword : profile.password ≠ "")
    (hplugin : parsePlugin order' (profile.endpointJson ++ rest) = .ok text) :
    parseServer order' none (profile.endpointJson ++ rest) =
      .ok (some
        { host := profile.host
          remotePort := profile.remotePort
          password := profile.password
          method := profile.method
          plugin := text
          name := optString (get? rest "remarks")
          route := (optString (get? rest "route")).getD "all" }) := by
  have hport := haccepted.remotePort
  have hread := intValue_repr (by omega : 0 ≤ profile.remotePort) (by omega)
  have hpositive : ¬ profile.remotePort ≤ 0 := by omega
  rw [parseServer, hplugin]
  simp [Profile.endpointJson, get?_cons, optString, optInt, hread, haccepted.host, hpassword,
    haccepted.method, hpositive, Except.map]

theorem parseFallback_members
    (h : ∀ found ∈ fallback, found.Accepted ∧ found.password ≠ "") :
    parseFallback order' none (profile.members order plugin fallback) =
      .ok (fallback.map Profile.importedFallback) := by
  have hget : get? (profile.members order plugin fallback) "udp_fallback" =
      fallback.map fun fallback => .object fallback.endpointJson := by
    simp [get?_members, get?_pluginJson, get?_remarksJson, get?_fallbackJson, get?_cons,
      Profile.endpointJson, Profile.settingsJson]
  rw [parseFallback, hget]
  cases fallback with
  | none => rfl
  | some found =>
      obtain ⟨haccepted, hpassword⟩ := h found rfl
      have hplugin : parsePlugin order' (found.endpointJson ++ []) = .ok none := by
        simp [parsePlugin, Profile.endpointJson, get?_cons, optString]
      have hserver := parseServer_endpointJson order' found haccepted hpassword hplugin
      rw [List.append_nil] at hserver
      exact hserver

/-- The settings of an exported object. -/
theorem parseSettings_members (text : Option String) :
    parseSettings (profile.members order plugin fallback)
      { host := profile.host
        remotePort := profile.remotePort
        password := profile.password
        method := profile.method
        plugin := text
        name := profile.name
        route := profile.route } = profile.imported text := by
  have happs : optObject (get? (profile.members order plugin fallback) "proxy_apps") =
      some profile.appsJson := by
    simp [get?_members, get?_pluginJson, get?_remarksJson, get?_cons, Profile.endpointJson,
      Profile.settingsJson, optObject]
  rw [parseSettings, happs]
  cases hproxy : profile.proxyApps <;>
    simp [get?_members, get?_pluginJson, get?_remarksJson, get?_cons, Profile.endpointJson,
      Profile.settingsJson, Profile.appsJson, hproxy, optString, optBoolean, optArray, intercalate_split, Profile.imported]

/-- An exported object whose plugin can be parsed. -/
theorem tryParse_members {text : Option String} (haccepted : profile.Accepted)
    (hpassword : profile.password ≠ "")
    (hfallback : ∀ found ∈ fallback, found.Accepted ∧ found.password ≠ "")
    (hplugin : parsePlugin order' (profile.members order plugin fallback) = .ok text) :
    tryParse order' none (profile.members order plugin fallback) =
      .ok (some ⟨profile.imported text, fallback.map Profile.importedFallback⟩) := by
  have hserver := parseServer_endpointJson order' profile haccepted hpassword hplugin
  have hremarks : optString (get? (pluginJson order plugin ++ (profile.remarksJson ++
      (profile.settingsJson ++ fallbackJson fallback))) "remarks") = profile.name := by
    cases hname : profile.name <;>
      simp [get?_append, get?_pluginJson, get?_remarksJson, hname, get?_cons, get?_fallbackJson,
        Profile.settingsJson, optString]
  have hroute : optString (get? (pluginJson order plugin ++ (profile.remarksJson ++
      (profile.settingsJson ++ fallbackJson fallback))) "route") = some profile.route := by
    simp [get?_append, get?_pluginJson, get?_remarksJson, get?_cons, Profile.settingsJson,
      optString]
  rw [hremarks, hroute] at hserver
  have hmembers : profile.members order plugin fallback = profile.endpointJson ++
      (pluginJson order plugin ++ (profile.remarksJson ++
        (profile.settingsJson ++ fallbackJson fallback))) := rfl
  rw [← hmembers, Option.getD_some] at hserver
  rw [tryParse, hserver]
  dsimp only
  rw [parseFallback_members order order' plugin profile fallback hfallback,
    parseSettings_members]
  rfl

/-- An exported object whose plugin cannot be parsed. -/
theorem tryParse_members_error {message : String} (haccepted : profile.Accepted)
    (hpassword : profile.password ≠ "")
    (hplugin : parsePlugin order' (profile.members order plugin fallback) = .error message) :
    tryParse order' none (profile.members order plugin fallback) = .error message := by
  have hport := haccepted.remotePort
  have hread := intValue_repr (by omega : 0 ≤ profile.remotePort) (by omega)
  have hpositive : ¬ profile.remotePort ≤ 0 := by omega
  rw [tryParse, parseServer, hplugin]
  simp [get?_members, Profile.endpointJson, get?_cons, optString, optInt, hread, haccepted.host,
    hpassword, haccepted.method, hpositive, Except.map]

end Parse

end WifiProject.Database
