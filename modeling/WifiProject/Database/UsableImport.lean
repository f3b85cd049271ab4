import WifiProject.Database.FallbackWiring
import WifiProject.Lib.Pointwise

/-!
What a JSON import hands to its callback. An import that only hands on usable
addresses runs the same with a callback that refuses all others, whatever the
callback does and whatever is stored.
-/

namespace WifiProject.Database

open Lib Plugin

/-- A server address that can be connected to. -/
def Profile.Usable (profile : Profile) : Prop :=
  profile.host ≠ "" ∧ 1 ≤ profile.remotePort ∧ profile.remotePort ≤ 65535

instance (profile : Profile) : Decidable profile.Usable :=
  inferInstanceAs (Decidable (_ ∧ _ ∧ _))

/-- The callback, but not for an address that cannot be used. -/
def checked {σ : Type} (create : Profile → Code (Memory σ) Nat) (profile : Profile) :
    Code (Memory σ) Nat :=
  if profile.Usable then create profile else throw (.illegalArgument "Unusable address.")

/-- An import never hands on an address that cannot be used. -/
def HandsOnUsable (order : HashOrder) (feature : Option Profile) (json : JsonElement) : Prop :=
  ∀ (σ : Type) (create : Profile → Code (Memory σ) Nat) (m : Memory σ) (s : Storage),
    Routine.exec Storage.handle (parseJson order json feature (checked create)) m s =
      Routine.exec Storage.handle (parseJson order json feature create) m s

/-! Two callbacks that agree on what is handed on. -/

section Agree

variable {σ : Type} {create create' : Profile → Code (Memory σ) Nat}

theorem createAll_congr {profiles : List Profile}
    (h : ∀ profile ∈ profiles, create profile = create' profile)
    (pending : LinkedMap Profile Profile) (wired : LinkedMap Nat Profile) :
    createAll create profiles pending wired = createAll create' profiles pending wired := by
  induction profiles generalizing pending wired with
  | nil => rfl
  | cons profile profiles ih =>
      rw [List.forall_mem_cons] at h
      simp only [createAll, h.1, ih h.2]

theorem forEach_wire_congr {entries : List (Nat × Profile)}
    (h : ∀ entry ∈ entries, create entry.2 = create' entry.2) (rows : List Profile) :
    Routine.forEach entries (wire create rows) = Routine.forEach entries (wire create' rows) := by
  induction entries with
  | nil => rfl
  | cons entry entries ih =>
      rw [List.forall_mem_cons] at h
      have hwire : wire create rows entry = wire create' rows entry := by
        simp only [wire, resolve, h.1]
      simp only [Routine.forEach, hwire, ih h.2]

theorem finalize_congr {wired : LinkedMap Nat Profile}
    (h : ∀ entry ∈ wired.entries, create entry.2 = create' entry.2) :
    finalize create wired = finalize create' wired := by
  simp only [finalize, forEach_wire_congr h]

variable {order : HashOrder} {feature : Option Profile} {json : JsonElement} {servers : List Server}

/-- An import is known by what its callback does with the profiles of the
document and with the fallbacks that have been filed for them. -/
theorem exec_parseJson_congr (hservers : process order feature json = .ok servers)
    (hprofiles : ∀ server ∈ servers, create server.profile = create' server.profile)
    (hfallbacks : ∀ profile fallback, (fallbackMap servers).get? profile = some fallback →
      create fallback = create' fallback) (m : Memory σ) (s : Storage) :
    Routine.exec Storage.handle (parseJson order json feature create) m s =
      Routine.exec Storage.handle (parseJson order json feature create') m s := by
  have hprofiles' : ∀ profile ∈ servers.map Server.profile, create profile = create' profile := by
    intro profile hprofile
    obtain ⟨server, hserver, rfl⟩ := List.mem_map.mp hprofile
    exact hprofiles server hserver
  simp only [parseJson, processed, hservers, Routine.exec_bind, Routine.exec_pure,
    createAll_congr hprofiles']
  cases hexec : Routine.exec Storage.handle (createAll create' (servers.map Server.profile)
      (fallbackMap servers) LinkedMap.empty) m s with
  | mk result rest =>
      cases result with
      | error failure => rfl
      | ok created =>
          obtain ⟨-, hwiring⟩ := exec_createAll_wiring hexec
          have hentries : ∀ entry ∈ created.2.entries, create entry.2 = create' entry.2 := by
            intro entry hentry
            rw [hwiring] at hentry
            rcases pending_of_mem_wiring hentry with hempty | ⟨profile, hpending⟩
            · simp [LinkedMap.empty] at hempty
            · exact hfallbacks profile entry.2 hpending
          simp only [finalize_congr hentries]

end Agree

/-! A callback that hands out numbers shows everything that is handed on. -/

section Numbered

def numbered (_ : Profile) : Code (Memory Nat) Nat := do
  let memory ← Routine.read
  Routine.modify fun memory => { memory with env := memory.env + 1 }
  pure memory.env

theorem exec_numbered (profile : Profile) (m : Memory Nat) (s : Storage) :
    Routine.exec Storage.handle (numbered profile) m s =
      (.ok m.env, { m with env := m.env + 1 }, s) := rfl

theorem exec_createAll_numbered (profiles : List Profile) (pending : LinkedMap Profile Profile)
    (wired : LinkedMap Nat Profile) (objects : List Profile) (n : Nat) (s : Storage) :
    Routine.exec Storage.handle (createAll numbered profiles pending wired) ⟨objects, n⟩ s =
      (.ok (List.range' n profiles.length,
        wiring ((List.range' n profiles.length).zip profiles) pending wired),
        ⟨objects, n + profiles.length⟩, s) := by
  induction profiles generalizing pending wired n with
  | nil => rfl
  | cons profile profiles ih =>
      simp only [createAll, Routine.exec_bind, exec_numbered, ih, Routine.exec_pure]
      simp only [List.length_cons, List.range'_succ, List.zip_cons_cons, wiring]
      rw [Nat.add_assoc n 1, Nat.add_comm 1]

/-- Without profile objects there is nothing to update. -/
theorem exec_wire_numbered (entry : Nat × Profile) (n : Nat) (s : Storage) :
    ∃ n', Routine.exec Storage.handle (wire numbered [] entry) ⟨[], n⟩ s = (.ok (), ⟨[], n'⟩, s) :=
  ⟨n + 1, rfl⟩

theorem exec_forEach_numbered (entries : List (Nat × Profile)) (n : Nat) (s : Storage) :
    ∃ n', Routine.exec Storage.handle (Routine.forEach entries (wire numbered [])) ⟨[], n⟩ s =
      (.ok (), ⟨[], n'⟩, s) := by
  induction entries generalizing n with
  | nil => exact ⟨n, rfl⟩
  | cons entry entries ih =>
      obtain ⟨n', hwire⟩ := exec_wire_numbered entry n s
      obtain ⟨n'', hrest⟩ := ih n'
      refine ⟨n'', ?_⟩
      rw [Routine.exec_forEach_cons, hwire]
      exact hrest

end Numbered

/-! What an import with a checked callback has handed on, if it succeeds. -/

section Checked

variable {σ : Type} {create : Profile → Code (Memory σ) Nat}

theorem usable_of_exec_checked {profile : Profile} {m m' : Memory σ} {s s' : Storage} {id : Nat}
    (h : Routine.exec Storage.handle (checked create profile) m s = (.ok id, m', s')) :
    profile.Usable := by
  unfold checked at h
  split at h
  · assumption
  · cases h

theorem usable_of_exec_createAll {profiles : List Profile} {pending : LinkedMap Profile Profile}
    {wired : LinkedMap Nat Profile} {m m' : Memory σ} {s s' : Storage}
    {created : List Nat × LinkedMap Nat Profile}
    (h : Routine.exec Storage.handle (createAll (checked create) profiles pending wired) m s =
      (.ok created, m', s')) : ∀ profile ∈ profiles, profile.Usable := by
  induction profiles generalizing pending wired m s m' s' created with
  | nil => simp
  | cons profile profiles ih =>
      simp only [createAll, Routine.exec_bind] at h
      rcases hcreate : Routine.exec Storage.handle (checked create profile) m s with ⟨result, m₁, s₁⟩
      rw [hcreate] at h
      cases result with
      | error failure => cases h
      | ok id =>
          dsimp only at h
          rcases hrest : Routine.exec Storage.handle (createAll (checked create) profiles
            (pending.remove profile) ((pending.get? profile).elim wired
              fun fallback => wired.put id fallback)) m₁ s₁ with ⟨result, m₂, s₂⟩
          rw [hrest] at h
          cases result with
          | error failure => cases h
          | ok rest =>
              rw [List.forall_mem_cons]
              exact ⟨usable_of_exec_checked hcreate, ih hrest⟩

/-- Where nothing is stored, every fallback is handed on. -/
theorem usable_of_exec_forEach {entries : List (Nat × Profile)} {m m' : Memory σ} {s s' : Storage}
    (h : Routine.exec Storage.handle (Routine.forEach entries (wire (checked create) [])) m s =
      (.ok (), m', s')) : ∀ entry ∈ entries, entry.2.Usable := by
  induction entries generalizing m s with
  | nil => simp
  | cons entry entries ih =>
      have hresolve : resolve (checked create) [] entry.2 = checked create entry.2 := rfl
      simp only [Routine.exec_forEach_cons, wire, hresolve, Routine.exec_bind] at h
      rcases hcreate : Routine.exec Storage.handle (checked create entry.2) m s with ⟨result, m₁, s₁⟩
      rw [hcreate] at h
      cases result with
      | error failure => cases h
      | ok id =>
          dsimp only at h
          rcases hset : Routine.exec Storage.handle
            (setUdpFallback entry.1 id : Code (Memory σ) Unit) m₁ s₁ with ⟨result, m₂, s₂⟩
          rw [hset] at h
          cases result with
          | error failure => cases h
          | ok _ =>
              rw [List.forall_mem_cons]
              exact ⟨usable_of_exec_checked hcreate, ih h⟩

end Checked

/-- A database without profiles. -/
def noProfiles : Storage where
  isOpen := true
  table := .empty
  profileId := 0
  directBootAware := false
  deviceFile := .absent

section HandsOn

variable {order : HashOrder} {feature : Option Profile} {json : JsonElement} {servers : List Server}

theorem checked_of_usable {σ : Type} (create : Profile → Code (Memory σ) Nat) {profile : Profile}
    (h : profile.Usable) : checked create profile = create profile :=
  if_pos h

/-- A filed fallback is one of a server of the document. -/
theorem server_of_fallbackMap {profile fallback : Profile}
    (h : (fallbackMap servers).get? profile = some fallback) :
    ∃ server ∈ servers, server.profile = profile := by
  rw [fallbackMap_get?] at h
  obtain ⟨server, hserver, hdeclared⟩ := List.mem_filterMap.mp (List.mem_of_getLast? h)
  split at hdeclared
  · rename_i hprofile
    exact ⟨server, hserver, hprofile⟩
  · cases hdeclared

/-- Every filed fallback is wired under a number. -/
theorem mem_wiring_numbers {profiles : List Profile} {pending : LinkedMap Profile Profile}
    {profile fallback : Profile} (hprofile : profile ∈ profiles)
    (hpending : pending.get? profile = some fallback) :
    ∃ slot, (slot, fallback) ∈ (wiring ((List.range' 0 profiles.length).zip profiles) pending
      LinkedMap.empty).entries := by
  obtain ⟨before, after, rfl, hfirst⟩ := List.eq_append_cons_of_mem hprofile
  have hrange : List.range' 0 (before ++ profile :: after).length =
      List.range' 0 before.length ++ before.length :: List.range' (before.length + 1) after.length := by
    have happend := List.range'_append_1 (s := 0) (m := before.length) (n := after.length + 1)
    rw [List.length_append, List.length_cons, ← happend, Nat.zero_add, List.range'_succ]
  have hzip : (List.range' 0 (before ++ profile :: after).length).zip (before ++ profile :: after) =
      (List.range' 0 before.length).zip before ++
        (before.length, profile) :: (List.range' (before.length + 1) after.length).zip after := by
    rw [hrange, List.zip_append (by simp), List.zip_cons_cons]
  have hnodup : (((List.range' 0 (before ++ profile :: after).length).zip
      (before ++ profile :: after)).map Prod.fst).Nodup := by
    rw [List.map_fst_zip (by simp)]
    exact List.nodup_range'
  refine ⟨before.length, (mem_wiring_iff _ _ _ hnodup (by simp) _ _).mpr (Or.inr
    ⟨_, profile, _, hzip, ?_, hpending⟩)⟩
  rwa [List.map_snd_zip (by simp)]

/-- The import with numbers for rows succeeds. -/
theorem exec_parseJson_numbered (hservers : process order feature json = .ok servers) :
    ∃ ids m s, Routine.exec Storage.handle (parseJson order json feature numbered) ⟨[], 0⟩ noProfiles =
      (.ok ids, m, s) := by
  obtain ⟨n, hwires⟩ := exec_forEach_numbered (wiring ((List.range' 0
    (servers.map Server.profile).length).zip (servers.map Server.profile)) (fallbackMap servers)
      LinkedMap.empty).entries (0 + (servers.map Server.profile).length) noProfiles
  have hrows : noProfiles.isOpen = true ∧ noProfiles.table.rows = [] := ⟨rfl, rfl⟩
  simp only [parseJson, processed, hservers, Routine.exec_bind, Routine.exec_pure,
    exec_createAll_numbered, finalize, exec_getAllProfiles, hrows, if_true, hwires]
  exact ⟨_, _, _, rfl⟩

theorem usable_of_exec_parseJson (hservers : process order feature json = .ok servers)
    {ids : List Nat} {m : Memory Nat} {s : Storage}
    (h : Routine.exec Storage.handle (parseJson order json feature (checked numbered)) ⟨[], 0⟩
      noProfiles = (.ok ids, m, s)) :
    (∀ server ∈ servers, server.profile.Usable) ∧
      ∀ server ∈ servers, ∀ fallback, (fallbackMap servers).get? server.profile = some fallback →
        fallback.Usable := by
  simp only [parseJson, processed, hservers, Routine.exec_bind, Routine.exec_pure] at h
  rcases hcreate : Routine.exec Storage.handle (createAll (checked numbered)
    (servers.map Server.profile) (fallbackMap servers) LinkedMap.empty) ⟨[], 0⟩ noProfiles
    with ⟨result, m₁, s₁⟩
  rw [hcreate] at h
  cases result with
  | error failure => cases h
  | ok created =>
      have hprofiles := usable_of_exec_createAll hcreate
      -- the check has not refused anything so far
      rw [createAll_congr fun profile hprofile => checked_of_usable numbered (hprofiles profile hprofile),
        exec_createAll_numbered] at hcreate
      cases hcreate
      have hrows : noProfiles.isOpen = true ∧ noProfiles.table.rows = [] := ⟨rfl, rfl⟩
      simp only [finalize, Routine.exec_bind, exec_getAllProfiles, hrows, if_true] at h
      rcases hwires : Routine.exec Storage.handle (Routine.forEach (wiring ((List.range' 0
        (servers.map Server.profile).length).zip (servers.map Server.profile)) (fallbackMap servers)
          LinkedMap.empty).entries (wire (checked numbered) []))
            ⟨[], 0 + (servers.map Server.profile).length⟩ noProfiles with ⟨result, m₂, s₂⟩
      rw [hwires] at h
      cases result with
      | error failure => cases h
      | ok _ =>
          refine ⟨fun server hserver => hprofiles _ (List.mem_map_of_mem hserver), ?_⟩
          intro server hserver fallback hfiled
          obtain ⟨slot, hentry⟩ := mem_wiring_numbers (List.mem_map_of_mem hserver) hfiled
          exact usable_of_exec_forEach hwires _ hentry

/-- What an import hands on are the profiles of the document and the fallbacks
that have been filed for them. -/
theorem handsOnUsable_iff (hservers : process order feature json = .ok servers) :
    HandsOnUsable order feature json ↔ (∀ server ∈ servers, server.profile.Usable) ∧
      ∀ server ∈ servers, ∀ fallback, (fallbackMap servers).get? server.profile = some fallback →
        fallback.Usable := by
  constructor
  · intro h
    obtain ⟨ids, m, s, hrun⟩ := exec_parseJson_numbered hservers
    rw [← h Nat numbered ⟨[], 0⟩ noProfiles] at hrun
    exact usable_of_exec_parseJson hservers hrun
  · rintro ⟨hprofiles, hfallbacks⟩ σ create m s
    apply exec_parseJson_congr hservers
    · intro server hserver
      exact checked_of_usable create (hprofiles server hserver)
    · intro profile fallback hfiled
      obtain ⟨server, hserver, rfl⟩ := server_of_fallbackMap hfiled
      exact checked_of_usable create (hfallbacks server hserver fallback hfiled)

/-- A document that is refused hands on nothing. -/
theorem handsOnUsable_of_error {message : String} (h : process order feature json = .error message) :
    HandsOnUsable order feature json := by
  intro σ create m s
  simp only [parseJson, processed, h, Routine.exec_bind, Routine.exec_throw]

end HandsOn

/-! The objects of a document that are taken for servers. -/

abbrev Members := List (String × JsonElement)

/-- The port of an object that `tryParse` takes for a server. -/
def serverPort (json : Members) : Option Int :=
  match optString (JsonElement.get? json "server"), optInt (JsonElement.get? json "server_port"),
    optString (JsonElement.get? json "password"), optString (JsonElement.get? json "method") with
  | some host, some remotePort, some password, some method =>
      if host.isEmpty || decide (remotePort ≤ 0) || password.isEmpty || method.isEmpty then none
      else some remotePort
  | _, _, _, _ => none

/-- The port of the fallback in an object. -/
def fallbackPort (json : Members) : Option Int :=
  (optObject (JsonElement.get? json "udp_fallback")).bind serverPort

mutual

/-- The server objects in document order. -/
def serverObjects : JsonElement → List Members
  | .object members => if (serverPort members).isSome then [members] else memberObjects members
  | .array elements => elementObjects elements
  | .null => []
  | .string _ => []
  | .number _ => []
  | .boolean _ => []

def elementObjects : List JsonElement → List Members
  | [] => []
  | element :: elements => serverObjects element ++ elementObjects elements

def memberObjects : List (String × JsonElement) → List Members
  | [] => []
  | (_, value) :: members => serverObjects value ++ memberObjects members

end

section Objects

variable (order : HashOrder) (feature : Option Profile)

/-- What `parseServer` makes of an object, by its port. -/
theorem parseServer_cases (json : Members) :
    (serverPort json = none ∧ parseServer order feature json = .ok none) ∨
      (serverPort json).isSome = true ∧ ((∃ message, parseServer order feature json = .error message) ∨
        ∃ profile, parseServer order feature json = .ok (some profile) ∧ profile.host ≠ "" ∧
          serverPort json = some profile.remotePort ∧ 1 ≤ profile.remotePort) := by
  unfold serverPort parseServer
  generalize optString (JsonElement.get? json "server") = server
  generalize optInt (JsonElement.get? json "server_port") = port
  generalize optString (JsonElement.get? json "password") = secret
  generalize optString (JsonElement.get? json "method") = cipher
  match server, port, secret, cipher with
  | none, _, _, _ => exact Or.inl ⟨rfl, rfl⟩
  | some _, none, _, _ => exact Or.inl ⟨rfl, rfl⟩
  | some _, some _, none, _ => exact Or.inl ⟨rfl, rfl⟩
  | some _, some _, some _, none => exact Or.inl ⟨rfl, rfl⟩
  | some host, some remotePort, some password, some method =>
      dsimp only
      split
      · exact Or.inl ⟨rfl, rfl⟩
      · rename_i hvalid
        simp only [Bool.or_eq_true, decide_eq_true_eq, not_or, String.isEmpty_iff] at hvalid
        refine Or.inr ⟨rfl, ?_⟩
        cases parsePlugin order json with
        | error message => exact Or.inl ⟨message, rfl⟩
        | ok plugin =>
            refine Or.inr ⟨_, rfl, ?_⟩
            cases feature with
            | none => exact ⟨hvalid.1.1.1, rfl, Int.not_le.mp hvalid.1.1.2⟩
            | some feature => exact ⟨hvalid.1.1.1, rfl, Int.not_le.mp hvalid.1.1.2⟩

/-- A server and the object it has been read from. -/
structure ReadFrom (json : Members) (server : Server) : Prop where
  parsed : tryParse order feature json = .ok (some server)
  host : server.profile.host ≠ ""
  remotePort : serverPort json = some server.profile.remotePort
  positive : 1 ≤ server.profile.remotePort
  fallbackHost : ∀ fallback ∈ server.fallback, fallback.host ≠ "" ∧ 1 ≤ fallback.remotePort
  fallbackPort : fallbackPort json = server.fallback.map Profile.remotePort

theorem parseFallback_cases (json : Members) :
    (∃ message, parseFallback order feature json = .error message) ∨
      ∃ fallback, parseFallback order feature json = .ok fallback ∧
        (∀ profile ∈ fallback, profile.host ≠ "" ∧ 1 ≤ profile.remotePort) ∧
        fallbackPort json = fallback.map Profile.remotePort := by
  unfold parseFallback fallbackPort
  cases optObject (JsonElement.get? json "udp_fallback") with
  | none => exact Or.inr ⟨none, rfl, by simp, rfl⟩
  | some members =>
      rcases parseServer_cases order feature members with
        ⟨hport, hnone⟩ | ⟨-, ⟨message, herror⟩ | ⟨profile, hprofile, hhost, hport, hpositive⟩⟩
      · exact Or.inr ⟨none, hnone, by simp, hport⟩
      · exact Or.inl ⟨message, herror⟩
      · refine Or.inr ⟨some profile, hprofile, ?_, hport⟩
        rintro _ ⟨⟩
        exact ⟨hhost, hpositive⟩

theorem tryParse_cases (json : Members) :
    (serverPort json = none ∧ tryParse order feature json = .ok none) ∨
      (serverPort json).isSome = true ∧ ((∃ message, tryParse order feature json = .error message) ∨
        ∃ server, ReadFrom order feature json server) := by
  rcases parseServer_cases order feature json with
    ⟨hport, hnone⟩ | ⟨hsome, ⟨message, herror⟩ | ⟨profile, hprofile, hhost, hport, hpositive⟩⟩
  · exact Or.inl ⟨hport, by rw [tryParse, hnone]⟩
  · exact Or.inr ⟨hsome, Or.inl ⟨message, by rw [tryParse, herror]⟩⟩
  · refine Or.inr ⟨hsome, ?_⟩
    rcases parseFallback_cases order feature json with
      ⟨message, herror⟩ | ⟨fallback, hfallback, hgood, hfallbackPort⟩
    · exact Or.inl ⟨message, by rw [tryParse, hprofile, herror]; rfl⟩
    · exact Or.inr ⟨⟨parseSettings json profile, fallback⟩, by rw [tryParse, hprofile, hfallback]; rfl,
        hhost, hport, hpositive, hgood, hfallbackPort⟩

/-- Either an object is refused, or every object has become a server. -/
def Searched (objects : List Members) (result : Except String (List Server)) : Prop :=
  (∃ message, result = .error message ∧
      ∃ object ∈ objects, ∃ reason, tryParse order feature object = .error reason) ∨
    ∃ servers, result = .ok servers ∧ List.Forall₂ (ReadFrom order feature) objects servers

variable {order feature}

/-- What is searched next comes after what has been found. -/
theorem Searched.append {objects objects' : List Members} {result result' : Except String (List Server)}
    (h : Searched order feature objects result) (h' : Searched order feature objects' result') :
    Searched order feature (objects ++ objects')
      (result.bind fun servers => result'.map fun rest => servers ++ rest) := by
  rcases h with ⟨message, rfl, object, hobject, hreason⟩ | ⟨servers, rfl, hservers⟩
  · exact Or.inl ⟨message, rfl, object, List.mem_append_left _ hobject, hreason⟩
  · rcases h' with ⟨message, rfl, object, hobject, hreason⟩ | ⟨servers', rfl, hservers'⟩
    · exact Or.inl ⟨message, rfl, object, List.mem_append_right _ hobject, hreason⟩
    · exact Or.inr ⟨servers ++ servers', rfl, List.rel_append hservers hservers'⟩

theorem Searched.nil : Searched order feature [] (.ok []) :=
  Or.inr ⟨[], rfl, List.Forall₂.nil⟩

variable (order feature)

mutual

theorem searched_process :
    ∀ json, Searched order feature (serverObjects json) (process order feature json)
  | .object members => by
      rcases tryParse_cases order feature members with
        ⟨hport, hnone⟩ | ⟨hsome, ⟨message, herror⟩ | ⟨server, hserver⟩⟩
      · simp only [process, serverObjects, hport, hnone, Option.isSome_none, Bool.false_eq_true,
          if_false]
        exact searched_processMembers members
      · simp only [process, serverObjects, hsome, herror, if_true]
        exact Or.inl ⟨message, rfl, members, by simp, message, herror⟩
      · simp only [process, serverObjects, hsome, hserver.parsed, if_true]
        exact Or.inr ⟨[server], rfl, List.Forall₂.cons hserver List.Forall₂.nil⟩
  | .array elements => by
      simp only [process, serverObjects]
      exact searched_processElements elements
  | .null => by
      simp only [process, serverObjects]
      exact Searched.nil
  | .string _ => by
      simp only [process, serverObjects]
      exact Searched.nil
  | .number _ => by
      simp only [process, serverObjects]
      exact Searched.nil
  | .boolean _ => by
      simp only [process, serverObjects]
      exact Searched.nil

theorem searched_processElements :
    ∀ elements, Searched order feature (elementObjects elements) (processElements order feature elements)
  | [] => by
      simp only [processElements, elementObjects]
      exact Searched.nil
  | element :: elements => by
      simp only [processElements, elementObjects]
      exact (searched_process element).append (searched_processElements elements)

theorem searched_processMembers :
    ∀ members, Searched order feature (memberObjects members) (processMembers order feature members)
  | [] => by
      simp only [processMembers, memberObjects]
      exact Searched.nil
  | (_, value) :: members => by
      simp only [processMembers, memberObjects]
      exact (searched_process value).append (searched_processMembers members)

end

end Objects

/-! Which documents only have ports that fit. -/

section Fits

variable (order : HashOrder) (feature : Option Profile)

/-- A later object with the same profile, and with a fallback that is filed in
the place of the earlier one. -/
def Redeclares (object other : Members) : Prop :=
  (∃ server server', tryParse order feature object = .ok (some server) ∧
    tryParse order feature other = .ok (some server') ∧ server'.profile = server.profile) ∧
    (fallbackPort other).isSome = true

/-- If no object is refused, then the ports of all of them fit, and so do the
ports of the fallbacks in them, unless a later one takes its place. -/
def PortsFit (json : JsonElement) : Prop :=
  (∀ object ∈ serverObjects json, ∃ server, tryParse order feature object = .ok (some server)) →
    ∀ before object after, serverObjects json = before ++ object :: after →
      (∀ port ∈ serverPort object, port ≤ 65535) ∧
        ∀ port ∈ fallbackPort object, port ≤ 65535 ∨ ∃ other ∈ after, Redeclares order feature object other

variable {order feature} {servers : List Server}

/-- The fallback that is filed for a profile is the last one that is declared. -/
theorem filed_iff (profile fallback : Profile) :
    (fallbackMap servers).get? profile = some fallback ↔ ∃ before server after,
      servers = before ++ server :: after ∧ server.profile = profile ∧
        server.fallback = some fallback ∧
          ∀ other ∈ after, other.profile = profile → other.fallback = none := by
  rw [fallbackMap_get?]
  induction servers using List.reverseRecOn with
  | nil => simp [declared]
  | append_singleton servers last ih =>
      by_cases hlast : last.profile = profile ∧ last.fallback.isSome = true
      · obtain ⟨found, hfound⟩ := Option.isSome_iff_exists.mp hlast.2
        have hdeclared : declared (servers ++ [last]) profile = declared servers profile ++ [found] := by
          simp [declared, hlast.1, hfound]
        rw [hdeclared, List.getLast?_concat, Option.some.injEq]
        constructor
        · rintro rfl
          exact ⟨servers, last, [], rfl, hlast.1, hfound, by simp⟩
        · rintro ⟨before, server, after, happend, hprofile, hfallback, hafter⟩
          rcases List.eq_nil_or_concat' after with rfl | ⟨after, other, rfl⟩
          · obtain ⟨-, rfl⟩ := List.append_singleton_inj.mp happend
            exact Option.some.inj (hfound.symm.trans hfallback)
          · rw [← List.cons_append, ← List.append_assoc] at happend
            obtain ⟨-, rfl⟩ := List.append_singleton_inj.mp happend
            have hnone := hafter last (by simp) hlast.1
            rw [hfound] at hnone
            cases hnone
      · have hquiet : last.profile = profile → last.fallback = none := by
          simpa using hlast
        have hdeclared : declared (servers ++ [last]) profile = declared servers profile := by
          by_cases hprofile : last.profile = profile
          · simp [declared, hprofile, hquiet hprofile]
          · simp [declared, hprofile]
        rw [hdeclared, ih]
        constructor
        · rintro ⟨before, server, after, rfl, hprofile, hfallback, hafter⟩
          refine ⟨before, server, after ++ [last], by simp, hprofile, hfallback, ?_⟩
          intro other hother
          rcases List.mem_append.mp hother with hother | hother
          · exact hafter other hother
          · rw [List.mem_singleton.mp hother]
            exact hquiet
        · rintro ⟨before, server, after, happend, hprofile, hfallback, hafter⟩
          rcases List.eq_nil_or_concat' after with rfl | ⟨after, other, rfl⟩
          · obtain ⟨-, rfl⟩ := List.append_singleton_inj.mp happend
            rw [hquiet hprofile] at hfallback
            cases hfallback
          · rw [← List.cons_append, ← List.append_assoc] at happend
            obtain ⟨rfl, rfl⟩ := List.append_singleton_inj.mp happend
            exact ⟨before, server, after, rfl, hprofile, hfallback,
              fun other hother => hafter other (List.mem_append_left _ hother)⟩

theorem ReadFrom.usable_iff {object : Members} {server : Server}
    (h : ReadFrom order feature object server) :
    server.profile.Usable ↔ ∀ port ∈ serverPort object, port ≤ 65535 := by
  have hhost := h.host
  have hpositive := h.positive
  simp [h.remotePort, Profile.Usable, hhost, hpositive]

/-- A document hands on usable addresses if and only if its ports fit. -/
theorem handsOnUsable_iff_portsFit (order : HashOrder) (feature : Option Profile)
    (json : JsonElement) : HandsOnUsable order feature json ↔ PortsFit order feature json := by
  rcases searched_process order feature json with
    ⟨message, herror, object, hobject, reason, hreason⟩ | ⟨servers, hok, hread⟩
  · refine ⟨fun _ haccepted => ?_, fun _ => handsOnUsable_of_error herror⟩
    obtain ⟨server, hserver⟩ := haccepted object hobject
    rw [hreason] at hserver
    cases hserver
  · have haccepted : ∀ object ∈ serverObjects json,
        ∃ server, tryParse order feature object = .ok (some server) := by
      intro object hobject
      obtain ⟨server, -, hserver⟩ := exists_of_forall₂ hread hobject
      exact ⟨server, hserver.parsed⟩
    rw [handsOnUsable_iff hok]
    constructor
    · rintro ⟨hprofiles, hfallbacks⟩ - before object after hobjects
      obtain ⟨before', server, after', rfl, hserver, hafter⟩ := forall₂_split hread hobjects
      refine ⟨hserver.usable_iff.mp (hprofiles server (by simp)), ?_⟩
      intro port hport
      rw [hserver.fallbackPort, Option.mem_map] at hport
      obtain ⟨fallback, hfallback, rfl⟩ := hport
      by_cases hlater : ∃ other ∈ after', other.profile = server.profile ∧ other.fallback.isSome = true
      · obtain ⟨other, hother, hprofile, hsome⟩ := hlater
        obtain ⟨object', hobject', hread'⟩ := exists_of_forall₂ hafter.flip hother
        refine Or.inr ⟨object', hobject', ⟨server, other, hserver.parsed, hread'.parsed, hprofile⟩, ?_⟩
        rw [hread'.fallbackPort, Option.isSome_map]
        exact hsome
      · have hfiled : (fallbackMap (before' ++ server :: after')).get? server.profile = some fallback := by
          refine (filed_iff _ _).mpr ⟨before', server, after', rfl, rfl, hfallback, ?_⟩
          intro other hother hprofile
          by_contra hne
          exact hlater ⟨other, hother, hprofile, Option.ne_none_iff_isSome.mp hne⟩
        exact Or.inl (hfallbacks server (by simp) fallback hfiled).2.2
    · intro hfit
      have hfit := hfit haccepted
      constructor
      · intro server hserver
        obtain ⟨before, after, rfl⟩ := List.append_of_mem hserver
        obtain ⟨before', object, after', hobjects, hread', -⟩ := forall₂_split hread.flip rfl
        exact hread'.usable_iff.mpr (hfit before' object after' hobjects).1
      · intro server _ fallback hfiled
        obtain ⟨before, found, after, rfl, hprofile, hfallback, hlast⟩ := (filed_iff _ _).mp hfiled
        obtain ⟨before', object, after', hobjects, hread', hafter⟩ := forall₂_split hread.flip rfl
        have hport : fallback.remotePort ∈ fallbackPort object := by
          rw [hread'.fallbackPort, hfallback]
          rfl
        have hgood := hread'.fallbackHost fallback hfallback
        refine ⟨hgood.1, hgood.2, ?_⟩
        rcases (hfit before' object after' hobjects).2 _ hport with hle | ⟨other, hother, hredeclares⟩
        · exact hle
        · obtain ⟨⟨first, second, hfirst, hsecond, hsame⟩, hsome⟩ := hredeclares
          obtain ⟨later, hlater, hread''⟩ := exists_of_forall₂ hafter.flip hother
          have hparsed := hread'.parsed
          rw [hfirst, Except.ok.injEq, Option.some.injEq] at hparsed
          have hparsed' := hread''.parsed
          rw [hsecond, Except.ok.injEq, Option.some.injEq] at hparsed'
          subst hparsed hparsed'
          -- the fallback of the later object has been filed last
          have hnone := hlast second hlater (hsame.trans hprofile)
          rw [hread''.fallbackPort, hnone] at hsome
          cases hsome

end Fits

end WifiProject.Database
