import WifiProject.Database.Json
import WifiProject.Database.ProfileManager
import WifiProject.Lib.LinkedMap
import WifiProject.Plugin.PluginOptions

/-!
`Profile.JsonParser` and `Profile.parseJson`. What is parsed are values; once
a profile has been created it is an object that has a row, and it is known by
its row id.
-/

namespace WifiProject.Database

open Lib Plugin

/-- A server object: its profile and the fallback declared in it. -/
structure Server where
  profile : Profile
  fallback : Option Profile
  deriving DecidableEq, Repr

section Parse

variable (order : HashOrder) (feature : Option Profile)

/-- The plugin of a server object; an error is the message of the check in
`PluginOptions`. -/
def parsePlugin (json : List (String × JsonElement)) : Except String (Option String) :=
  match optString (JsonElement.get? json "plugin") with
  | none => .ok none
  | some id =>
      if id.isEmpty then .ok none
      else
        (PluginOptions.ofId id (optString (JsonElement.get? json "plugin_opts"))).map fun plugin =>
          some (plugin.toString order false)

/-- `tryParse(json, true)`, and what `tryParse(json, false)` does first. -/
def parseServer (json : List (String × JsonElement)) : Except String (Option Profile) :=
  match optString (JsonElement.get? json "server"), optInt (JsonElement.get? json "server_port"),
    optString (JsonElement.get? json "password"), optString (JsonElement.get? json "method") with
  | some host, some remotePort, some password, some method =>
      if host.isEmpty || decide (remotePort ≤ 0) || password.isEmpty || method.isEmpty then .ok none
      else
        (parsePlugin order json).map fun plugin =>
          let profile : Profile := { host, remotePort, password, method }
          let profile := feature.elim profile (·.copyFeatureSettingsTo profile)
          some { profile with
            plugin := plugin
            name := optString (JsonElement.get? json "remarks")
            route := (optString (JsonElement.get? json "route")).getD profile.route }
  | _, _, _, _ => .ok none

/-- The settings that only a main profile takes from its object. -/
def parseSettings (json : List (String × JsonElement)) (profile : Profile) : Profile :=
  let apps := optObject (JsonElement.get? json "proxy_apps")
  { profile with
    remoteDns := (optString (JsonElement.get? json "remote_dns")).getD profile.remoteDns
    ipv6 := (optBoolean (JsonElement.get? json "ipv6")).getD profile.ipv6
    metered := (optBoolean (JsonElement.get? json "metered")).getD profile.metered
    proxyApps := (apps.bind fun apps => optBoolean (JsonElement.get? apps "enabled")).getD
      profile.proxyApps
    bypass := (apps.bind fun apps => optBoolean (JsonElement.get? apps "bypass")).getD profile.bypass
    individual := (apps.bind fun apps =>
      (optArray (JsonElement.get? apps "android_list")).map fun elements =>
        String.intercalate "\n" (elements.filterMap fun element => optString (some element))).getD
          profile.individual
    udpdns := (optBoolean (JsonElement.get? json "udpdns")).getD profile.udpdns }

/-- The fallback object in a server object, if it can be parsed. -/
def parseFallback (json : List (String × JsonElement)) : Except String (Option Profile) :=
  match optObject (JsonElement.get? json "udp_fallback") with
  | none => .ok none
  | some fallback => parseServer order feature fallback

/-- `tryParse(json)`. -/
def tryParse (json : List (String × JsonElement)) : Except String (Option Server) :=
  match parseServer order feature json with
  | .error message => .error message
  | .ok none => .ok none
  | .ok (some profile) =>
      (parseFallback order feature json).map fun fallback =>
        some ⟨parseSettings json profile, fallback⟩

mutual

/-- `process`: the server objects in document order. An object that is no
server is searched for servers itself. -/
def process : JsonElement → Except String (List Server)
  | .object members =>
      match tryParse order feature members with
      | .error message => .error message
      | .ok (some server) => .ok [server]
      | .ok none => processMembers members
  | .array elements => processElements elements
  | .null => .ok []
  | .string _ => .ok []
  | .number _ => .ok []
  | .boolean _ => .ok []

def processElements : List JsonElement → Except String (List Server)
  | [] => .ok []
  | element :: elements =>
      (process element).bind fun servers =>
        (processElements elements).map fun rest => servers ++ rest

def processMembers : List (String × JsonElement) → Except String (List Server)
  | [] => .ok []
  | (_, value) :: members =>
      (process value).bind fun servers =>
        (processMembers members).map fun rest => servers ++ rest

end

end Parse

/-- `fallbackMap` after parsing. It is keyed by the parsed profile as a value,
so equal profiles share an entry and the last declaration wins. -/
def fallbackMap (servers : List Server) : LinkedMap Profile Profile :=
  servers.foldl (fun map server =>
    server.fallback.elim map fun fallback => map.put server.profile fallback) LinkedMap.empty

/-- The memory of an import: the profile objects that have a row, and what its
`create` callback remembers. -/
structure Memory (σ : Type) where
  objects : List Profile
  env : σ
  deriving DecidableEq, Repr

namespace Memory

variable {σ : Type}

def object? (memory : Memory σ) (id : Nat) : Option Profile := memory.objects.find? (·.id = id)

def updateObject (id : Nat) (f : Profile → Profile) (memory : Memory σ) : Memory σ :=
  { memory with objects := memory.objects.map fun object => if object.id = id then f object else object }

end Memory

section Memory

variable {σ : Type} {m : Memory σ} {id : Nat} {object : Profile}

theorem object?_eq_some (h : m.object? id = some object) :
    object ∈ m.objects ∧ object.id = id :=
  ⟨List.mem_of_find?_eq_some h, by simpa using List.find?_some h⟩

theorem object?_updateObject (m : Memory σ) (id other : Nat) (f : Profile → Profile)
    (hid : ∀ object, (f object).id = object.id) :
    (m.updateObject id f).object? other =
      (m.object? other).map fun object => if object.id = id then f object else object := by
  have hcomp : ((fun object => decide (object.id = other)) ∘
      fun object : Profile => if object.id = id then f object else object) =
        fun object => decide (object.id = other) := by
    funext object
    simp only [Function.comp_apply]
    split <;> simp [hid]
  simp only [Memory.object?, Memory.updateObject, List.find?_map, hcomp]

end Memory

section ParseJson

variable {σ : Type}

/-- `ProfileManager.createProfile` from a callback: the object now has a row. -/
def createObject (profile : Profile) : Code (Memory σ) Nat := do
  let object ← ProfileManager.createProfile profile
  Routine.modify fun memory => { memory with objects := memory.objects ++ [object] }
  pure object.id

/-- The loop of `parseJson`: every profile in the list is created, and its
pending fallback is filed under what `create` returned. -/
def createAll (create : Profile → Code (Memory σ) Nat) : List Profile → LinkedMap Profile Profile →
    LinkedMap Nat Profile → Code (Memory σ) (List Nat × LinkedMap Nat Profile)
  | [], _, wired => pure ([], wired)
  | profile :: profiles, pending, wired => do
      let id ← create profile
      let rest ← createAll create profiles (pending.remove profile)
        ((pending.get? profile).elim wired fun fallback => wired.put id fallback)
      pure (id :: rest.1, rest.2)

/-- A row that will do as this fallback. -/
def Profile.serves (fallback row : Profile) : Bool :=
  fallback.host == row.host && fallback.remotePort == row.remotePort &&
    fallback.password == row.password && fallback.method == row.method && isNullOrEmpty row.plugin

/-- The profile a fallback resolves to. -/
def resolve (create : Profile → Code (Memory σ) Nat) (profiles : List Profile) (fallback : Profile) :
    Code (Memory σ) Nat :=
  match profiles.find? fallback.serves with
  | some row => pure row.id
  | none => create fallback

/-- `profile.udpFallback = target` and `updateProfile(profile)`. -/
def setUdpFallback (id target : Nat) : Code (Memory σ) Unit := do
  Routine.modify (Memory.updateObject id fun object => { object with udpFallback := some target })
  let memory ← Routine.read
  match memory.object? id with
  | none => pure ()
  | some object => ProfileManager.updateProfile object

/-- One entry of `fallbackMap` in `finalize`. -/
def wire (create : Profile → Code (Memory σ) Nat) (profiles : List Profile)
    (entry : Nat × Profile) : Code (Memory σ) Unit := do
  let target ← resolve create profiles entry.2
  setUdpFallback entry.1 target

def finalize (create : Profile → Code (Memory σ) Nat) (wired : LinkedMap Nat Profile) :
    Code (Memory σ) Unit := do
  let profiles ← ProfileManager.getAllProfiles
  Routine.forEach wired.entries (wire create profiles)

/-- `JsonParser.process` from the body of `parseJson`. -/
def processed (order : HashOrder) (feature : Option Profile) (json : JsonElement) :
    Code (Memory σ) (List Server) :=
  match process order feature json with
  | .error message => throw (.illegalState message)
  | .ok servers => pure servers

/-- `Profile.parseJson`. The result tells which profile each server object has
become. -/
def parseJson (order : HashOrder) (json : JsonElement) (feature : Option Profile)
    (create : Profile → Code (Memory σ) Nat) : Code (Memory σ) (List Nat) := do
  let servers ← processed order feature json
  let created ← createAll create (servers.map Server.profile) (fallbackMap servers) LinkedMap.empty
  finalize create created.2
  pure created.1

/-- What the stream parser finds in a document: elements, and then perhaps
something it cannot parse. -/
structure Document where
  elements : List JsonElement
  malformed : Option String

/-- `JsonStreamParser(...).asSequence().single()`. -/
def Document.single (document : Document) : Code (Memory σ) JsonElement :=
  match document.elements, document.malformed with
  | [], none => throw (.noSuchElement "Sequence is empty.")
  | [], some message => throw (.jsonParse message)
  | [element], none => pure element
  | [_], some message => throw (.jsonParse message)
  | _ :: _ :: _, _ => throw (.illegalArgument "Sequence has more than one element.")

/-! What an import keeps, given what its callback keeps. -/

section Keeps

variable {G : Type} {c : Prog.Contract StorageCall StorageCall.Result G}

/-- After `create`, the profile it returned is among those that may be wired. -/
def Created (inv : List Nat → Memory σ → G → Prop) (ids : List Nat) :
    Except Failure Nat → Memory σ → G → Prop
  | .ok id, m, g => inv (id :: ids) m g
  | .error _, m, g => inv ids m g

/-- An invariant of an import that knows which profiles the import has created
so far. -/
structure ImportInvariant (c : Prog.Contract StorageCall StorageCall.Result G)
    (create : Profile → Code (Memory σ) Nat) (inv : List Nat → Memory σ → G → Prop) : Prop where
  weaken : ∀ {ids ids' m g}, (∀ id ∈ ids', id ∈ ids) → inv ids m g → inv ids' m g
  create : ∀ ids profile m g, inv ids m g → Routine.Keeps c (create profile) (Created inv ids) m g
  getAllProfiles : ∀ ids m g, inv ids m g →
    Routine.Keeps c ProfileManager.getAllProfiles (fun _ => inv ids) m g
  setUdpFallback : ∀ ids id target m g, inv ids m g → id ∈ ids →
    Routine.Keeps c (setUdpFallback id target) (fun _ => inv ids) m g

variable {create : Profile → Code (Memory σ) Nat} {inv : List Nat → Memory σ → G → Prop}

/-- The loop of `parseJson` leaves in the map only what it has created. -/
def Wirable (inv : List Nat → Memory σ → G → Prop) :
    Except Failure (List Nat × LinkedMap Nat Profile) → Memory σ → G → Prop
  | .ok created, m, g => ∃ ids, (∀ id ∈ created.2.keys, id ∈ ids) ∧ inv ids m g
  | .error _, m, g => inv [] m g

theorem keeps_createAll (hinv : ImportInvariant c create inv) (profiles : List Profile)
    (pending : LinkedMap Profile Profile) (wired : LinkedMap Nat Profile) (ids : List Nat)
    (m : Memory σ) (g : G) (hwired : ∀ id ∈ wired.keys, id ∈ ids) (h : inv ids m g) :
    Routine.Keeps c (createAll create profiles pending wired) (Wirable inv) m g := by
  induction profiles generalizing pending wired ids m g with
  | nil => exact ⟨ids, hwired, h⟩
  | cons profile profiles ih =>
      simp only [createAll, Routine.keeps_bind]
      refine (hinv.create ids profile m g h).mono ?_
      intro out m g hout
      cases out with
      | error failure => exact hinv.weaken (by simp) hout
      | ok id =>
          simp only [Routine.AndThen, Routine.keeps_bind]
          refine (ih _ _ (id :: ids) m g ?_ hout).mono ?_
          · intro other hother
            cases hpending : pending.get? profile with
            | none =>
                simp only [hpending, Option.elim_none] at hother
                exact List.mem_cons_of_mem _ (hwired other hother)
            | some fallback =>
                simp only [hpending, Option.elim_some, LinkedMap.mem_keys_put_iff] at hother
                rcases hother with rfl | hother
                · exact List.mem_cons_self
                · exact List.mem_cons_of_mem _ (hwired other hother)
          · intro out m g hout
            cases out with
            | error failure => exact hout
            | ok rest => exact hout

theorem keeps_wire (hinv : ImportInvariant c create inv) (rows : List Profile)
    (entry : Nat × Profile) (ids : List Nat) (m : Memory σ) (g : G) (hentry : entry.1 ∈ ids)
    (h : inv ids m g) : Routine.Keeps c (wire create rows entry) (fun _ => inv ids) m g := by
  simp only [wire, Routine.keeps_bind]
  have hresolve : Routine.Keeps c (resolve create rows entry.2) (fun _ => inv ids) m g := by
    unfold resolve
    split
    · exact h
    · refine (hinv.create ids entry.2 m g h).mono ?_
      intro out m g hout
      cases out with
      | error failure => exact hout
      | ok id => exact hinv.weaken (fun _ => List.mem_cons_of_mem _) hout
  refine hresolve.mono ?_
  intro out m g hout
  cases out with
  | error failure => exact hout
  | ok target => exact hinv.setUdpFallback ids entry.1 target m g hout hentry

theorem keeps_finalize (hinv : ImportInvariant c create inv) (wired : LinkedMap Nat Profile)
    (ids : List Nat) (m : Memory σ) (g : G) (hwired : ∀ id ∈ wired.keys, id ∈ ids)
    (h : inv ids m g) : Routine.Keeps c (finalize create wired) (fun _ => inv ids) m g := by
  simp only [finalize, Routine.keeps_bind]
  refine (hinv.getAllProfiles ids m g h).mono ?_
  intro out m g hout
  cases out with
  | error failure => exact hout
  | ok rows =>
      simp only [Routine.AndThen]
      have hloop := Routine.keeps_forEach
        (fun rest m g => (∀ entry ∈ rest, entry.1 ∈ ids) ∧ inv ids m g) (fun _ => inv ids)
        (wire create rows) (c := c) ?_ wired.entries m g ⟨?_, hout⟩
      · refine hloop.mono ?_
        intro out m g hout
        cases out with
        | error failure => exact hout
        | ok _ => exact hout.2
      · intro entry rest m g hrest
        refine (keeps_wire hinv rows entry ids m g (hrest.1 entry (by simp)) hrest.2).mono ?_
        intro out m g hout
        cases out with
        | error failure => exact hout
        | ok _ => exact ⟨fun entry hmem => hrest.1 entry (List.mem_cons_of_mem _ hmem), hout⟩
      · intro entry hmem
        exact hwired entry.1 (List.mem_map_of_mem hmem)

/-- What an import invariant gives for a whole document. -/
theorem keeps_parseJson (hinv : ImportInvariant c create inv) (order : HashOrder)
    (json : JsonElement) (feature : Option Profile) (m : Memory σ) (g : G) (h : inv [] m g) :
    Routine.Keeps c (parseJson order json feature create) (fun _ => inv []) m g := by
  simp only [parseJson, Routine.keeps_bind]
  have hprocessed : Routine.Keeps c (processed order feature json) (fun _ => inv []) m g := by
    unfold processed
    split <;> exact h
  refine hprocessed.mono ?_
  intro out m g hout
  cases out with
  | error failure => exact hout
  | ok servers =>
      simp only [Routine.AndThen, Routine.keeps_bind]
      refine (keeps_createAll hinv _ _ _ [] m g (by simp) hout).mono ?_
      intro out m g hout
      cases out with
      | error failure => exact hout
      | ok created =>
          obtain ⟨ids, hwired, h⟩ := hout
          simp only [Routine.AndThen, Routine.keeps_bind]
          refine (keeps_finalize hinv created.2 ids m g hwired h).mono ?_
          intro out m g hout
          have hnil : inv [] m g := hinv.weaken (by simp) hout
          cases out with
          | error failure => exact hnil
          | ok _ => exact hnil

end Keeps

end ParseJson

end WifiProject.Database
