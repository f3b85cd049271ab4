import WifiProject.Database.JsonExport
import WifiProject.Database.JsonImport

/-!
Exported profiles come back when they are imported. An import stores what was
parsed and then only wires fallbacks, so the settings of a row are those of its
server object.
-/

namespace WifiProject.Database

open Lib Plugin

/-- What neither storing nor wiring a profile changes. -/
def Profile.settings (profile : Profile) : Profile :=
  { profile with
    id := 0
    udpFallback := none
    tx := 0
    rx := 0
    userOrder := 0
    dirty := false }

/-- The profile objects by id, with their settings. -/
def Memory.tagged {σ : Type} (m : Memory σ) : List (Nat × Profile) :=
  m.objects.map fun object => (object.id, object.settings)

section Memory

open Prog (Contract)

variable (previous : Option (List Profile)) (profile : Profile) (m : JsonMemory)

/-- What a callback does to the memory. -/
def Appends (profile : Profile) (m : JsonMemory) : Except Failure Nat → JsonMemory → Unit → Prop
  | .ok id, m', _ => m'.tagged = m.tagged ++ [(id, profile.settings)]
  | .error _, m', _ => m'.tagged = m.tagged

theorem keeps_updateProfile_tagged :
    Routine.Keeps Contract.any (ProfileManager.updateProfile profile : Code JsonMemory Unit)
      (fun _ m' _ => m'.tagged = m.tagged) m () := by
  simp only [ProfileManager.updateProfile, Routine.keeps_bind]
  refine ⟨trivial, ?_⟩
  intro reply _
  cases reply with
  | none => rfl
  | some count =>
      have hcheck : Routine.Keeps Contract.any
          (check (count == 1) "Check failed." : Code JsonMemory Unit)
          (fun _ m' _ => m'.tagged = m.tagged) m () := by
        cases hcount : count == 1 <;> rfl
      exact hcheck

theorem keeps_lazyClear_tagged :
    Routine.Keeps Contract.any lazyClear (fun _ m' _ => m'.tagged = m.tagged) m () := by
  simp only [lazyClear, Routine.keeps_bind, Routine.keeps_read, Routine.AndThen]
  split
  · rfl
  · simp only [Routine.keeps_bind, ProfileManager.clear]
    refine ⟨trivial, ?_⟩
    intro reply _
    cases reply with
    | none => rfl
    | some count => exact ⟨trivial, fun _ _ => rfl⟩

theorem copyStats_settings : (copyStats previous profile).settings = profile.settings := by
  unfold copyStats
  split <;> rfl

theorem keeps_createObject_tagged :
    Routine.Keeps Contract.any (createObject profile : Code JsonMemory Nat)
      (Appends profile m) m () := by
  simp only [createObject, ProfileManager.createProfile, Routine.keeps_bind]
  refine ⟨trivial, ?_⟩
  intro order _
  cases order with
  | none => rfl
  | some order =>
      simp only [Routine.AndThen, Routine.keeps_bind]
      refine ⟨trivial, ?_⟩
      intro id _
      cases id with
      | none => rfl
      | some id =>
          change Memory.tagged _ = _
          simp [Memory.tagged, Profile.settings]

theorem keeps_createFromJson_tagged :
    Routine.Keeps Contract.any (createFromJson previous profile) (Appends profile m) m () := by
  have hcreate (m' : JsonMemory) (h : m'.tagged = m.tagged) :
      Routine.Keeps Contract.any (createObject (copyStats previous profile) : Code JsonMemory Nat)
        (Appends profile m) m' () := by
    refine (keeps_createObject_tagged (copyStats previous profile) m').mono ?_
    intro out m2 _ hcreated
    cases out with
    | error failure => exact hcreated.trans h
    | ok id =>
        change m2.tagged = _ at hcreated
        rw [copyStats_settings, h] at hcreated
        exact hcreated
  simp only [createFromJson]
  split
  · rw [Routine.keeps_bind]
    refine (keeps_lazyClear_tagged m).mono ?_
    intro out m1 _ hout
    cases out with
    | error failure => exact hout
    | ok _ => exact hcreate m1 hout
  · exact hcreate m rfl

/-- The loop of `parseJson` appends what it creates, in order. -/
def AppendsAll (profiles : List Profile) (m : JsonMemory) :
    Except Failure (List Nat × LinkedMap Nat Profile) → JsonMemory → Unit → Prop
  | .ok created, m', _ => m'.tagged = m.tagged ++ created.1.zip (profiles.map Profile.settings)
  | .error _, _, _ => True

theorem keeps_createAll_tagged (profiles : List Profile) (pending : LinkedMap Profile Profile)
    (wired : LinkedMap Nat Profile) :
    Routine.Keeps Contract.any (createAll (createFromJson previous) profiles pending wired)
      (AppendsAll profiles m) m () := by
  induction profiles generalizing pending wired m with
  | nil =>
      change m.tagged = m.tagged ++ _
      simp
  | cons profile profiles ih =>
      simp only [createAll, Routine.keeps_bind]
      refine (keeps_createFromJson_tagged previous profile m).mono ?_
      intro out m1 _ hout
      cases out with
      | error failure => trivial
      | ok id =>
          change m1.tagged = _ at hout
          simp only [Routine.AndThen, Routine.keeps_bind]
          refine (ih m1 _ _).mono ?_
          intro out m2 _ hrest
          cases out with
          | error failure => trivial
          | ok rest =>
              change m2.tagged = _ at hrest
              change m2.tagged = m.tagged ++ _
              rw [hrest, hout]
              simp

/-- `finalize` creates more and changes pointers only. -/
theorem tagged_invariant (base : List (Nat × Profile)) :
    ImportInvariant Contract.any (createFromJson previous)
      (fun _ m _ => base <+: m.tagged) where
  weaken := fun _ h => h
  create := by
    intro ids profile m g h
    refine (keeps_createFromJson_tagged previous profile m).mono ?_
    intro out m1 _ hout
    cases out with
    | error failure =>
        change m1.tagged = m.tagged at hout
        change base <+: m1.tagged
        rw [hout]
        exact h
    | ok id =>
        change m1.tagged = _ at hout
        change base <+: m1.tagged
        rw [hout]
        exact h.trans (List.prefix_append _ _)
  getAllProfiles := by
    intro ids m g h
    simp only [ProfileManager.getAllProfiles, Routine.keeps_bind]
    refine ⟨trivial, ?_⟩
    intro reply _
    cases reply with
    | none => exact h
    | some rows => exact h
  setUdpFallback := by
    intro ids id target m g h _
    have htagged : (m.updateObject id fun object =>
        { object with udpFallback := some target }).tagged = m.tagged := by
      simp only [Memory.tagged, Memory.updateObject, List.map_map]
      apply List.map_congr_left
      intro object hobject
      simp only [Function.comp_apply]
      split <;> rfl
    simp only [setUdpFallback, Routine.keeps_bind, Routine.keeps_modify, Routine.keeps_read,
      Routine.AndThen]
    split
    · change base <+: Memory.tagged _
      rw [htagged]
      exact h
    · rename_i object hobject
      refine (keeps_updateProfile_tagged object _).mono ?_
      intro out m1 _ hout
      rw [hout, htagged]
      exact h

/-- What `parseJson` leaves in the memory for the servers of a document. -/
def Tags (servers : List Server) : Except Failure (List Nat) → JsonMemory → Unit → Prop
  | .ok ids, m', _ =>
      ids.zip (servers.map fun server => server.profile.settings) <+: m'.tagged
  | .error _, _, _ => True

theorem keeps_parseJson_tagged {order : HashOrder} {feature : Option Profile} {json : JsonElement}
    {servers : List Server} (env : JsonState)
    (hservers : process order feature json = .ok servers) :
    Routine.Keeps Contract.any (parseJson order json feature (createFromJson previous))
      (Tags servers) ⟨[], env⟩ () := by
  have hprocessed : (processed order feature json : Code JsonMemory (List Server)) =
      pure servers := by
    simp [processed, hservers]
  simp only [parseJson, hprocessed, Routine.keeps_bind, Routine.keeps_pure, Routine.AndThen]
  refine (keeps_createAll_tagged previous ⟨[], env⟩ _ _ _).mono ?_
  intro out m1 _ hcreated
  cases out with
  | error failure => trivial
  | ok created =>
      change m1.tagged = [] ++ _ at hcreated
      rw [List.nil_append, List.map_map] at hcreated
      simp only [Routine.AndThen, Routine.keeps_bind]
      refine (keeps_finalize (tagged_invariant previous m1.tagged) created.2 created.2.keys m1 ()
        (fun _ h => h) (List.prefix_refl _)).mono ?_
      intro out m2 _ hfinal
      cases out with
      | error failure => trivial
      | ok _ =>
          change _ <+: m2.tagged
          change m1.tagged <+: m2.tagged at hfinal
          rw [hcreated] at hfinal
          exact hfinal

end Memory

/-! What is exported, and what it is parsed to. -/

/-- The fallback of a profile is in the list and has no plugin. -/
def Profile.Declares (profiles : List Profile) (profile fallback : Profile) : Prop :=
  fallback ∈ profiles ∧ profile.udpFallback = some fallback.id ∧
    isNullOrEmpty fallback.plugin = true

theorem lookup_eq_some_iff {profiles : List Profile} (hids : (profiles.map Profile.id).Nodup)
    (id : Nat) (profile : Profile) :
    lookup profiles id = some profile ↔ profile ∈ profiles ∧ profile.id = id := by
  constructor
  · intro h
    refine ⟨?_, by simpa using List.find?_some h⟩
    exact List.mem_reverse.mp (List.mem_of_find?_eq_some h)
  · rintro ⟨hmem, rfl⟩
    have hsome : (lookup profiles profile.id).isSome := by
      rw [lookup, List.find?_isSome]
      exact ⟨profile, List.mem_reverse.mpr hmem, by simp⟩
    obtain ⟨found, hfound⟩ := Option.isSome_iff_exists.mp hsome
    have hid : found.id = profile.id := by simpa using List.find?_some hfound
    have hfoundMem : found ∈ profiles := List.mem_reverse.mp (List.mem_of_find?_eq_some hfound)
    rw [hfound, List.inj_on_of_nodup_map hids hfoundMem hmem hid]

theorem fallbackIn_eq_some_iff {profiles : List Profile} (hids : (profiles.map Profile.id).Nodup)
    (profile fallback : Profile) :
    profile.fallbackIn profiles = some fallback ↔ profile.Declares profiles fallback := by
  unfold Profile.fallbackIn Profile.Declares
  rw [Option.filter_eq_some_iff, Option.bind_eq_some_iff]
  constructor
  · rintro ⟨⟨id, hid, hfound⟩, hplugin⟩
    obtain ⟨hmem, rfl⟩ := (lookup_eq_some_iff hids _ _).mp hfound
    exact ⟨hmem, hid, hplugin⟩
  · rintro ⟨hmem, hid, hplugin⟩
    exact ⟨⟨fallback.id, hid, (lookup_eq_some_iff hids _ _).mpr ⟨hmem, rfl⟩⟩, hplugin⟩

section Exported

open PluginOptions PluginConfiguration

variable (order order' : HashOrder) (defaultConfig : String → Option String)

/-- What a profile of the list becomes between export and import. -/
def ServerOf (profiles : List Profile) (profile : Profile) (server : Server) : Prop :=
  ∃ plugin, profile.selectedOptions defaultConfig = .ok plugin ∧
    (plugin.id ≠ "" → Within (fun c => isISOControl c = false) plugin) ∧
    server = ⟨profile.imported (pluginText order order' plugin),
      (profile.fallbackIn profiles).map Profile.importedFallback⟩

/-- The options of a selected plugin are accepted by the constructor if they
have no control characters. -/
theorem ofId_toString_iff {plugin : PluginOptions} (h : Selected plugin) :
    (∃ read, ofId plugin.id (some (plugin.toString order true)) = .ok read) ↔
      Within (fun c => isISOControl c = false) plugin := by
  constructor
  · rintro ⟨read, hread⟩
    have hnew : ∃ read, PluginOptions.new (some (plugin.toString order true)) false = .ok read := by
      unfold ofId at hread
      cases hnew : PluginOptions.new (some (plugin.toString order true)) false with
      | error message => simp [hnew, Except.map] at hread
      | ok read => exact ⟨read, rfl⟩
    obtain ⟨read, hnew⟩ := hnew
    have hplain := plain_of_new hnew
    have hentries : ∀ entry ∈ plugin.options.entries, (∀ c ∈ entry.1.toList, isISOControl c = false) ∧
        ∀ value, entry.2 = some value → ∀ c ∈ value.toList, isISOControl c = false := by
      by_cases hnil : order.iterate plugin.options.entries = []
      · intro entry hentry
        have hmem := (order.perm _).mem_iff.mpr hentry
        rw [hnil] at hmem
        simp at hmem
      · have hnamed : ("", none) ∉ order.iterate plugin.options.entries :=
          fun hmem => h.named ((order.perm _).mem_iff.mp hmem)
        apply (forall_entries order (by decide) (by decide) (by decide)).mp
        rw [← foldl_appendEntry_nil _ hnamed hnil, List.forall_mem_append]
        refine ⟨?_, by decide⟩
        simpa [PluginOptions.toString] using hplain
    exact ⟨h.plain, fun entry hentry => (hentries entry hentry).1,
      fun entry hentry => (hentries entry hentry).2⟩
  · intro hplain
    exact ⟨_, ofId_toString order ⟨hplain, h.named⟩⟩

/-- The plugin of an exported object can be parsed exactly if its options have
no control characters. -/
theorem parsePlugin_members_eq_ok_iff (profile : Profile) (fallback : Option Profile)
    {plugin : PluginOptions} (h : plugin = {} ∨ Selected plugin) (text : Option String) :
    parsePlugin order' (profile.members order plugin fallback) = .ok text ↔
      (plugin.id ≠ "" → Within (fun c => isISOControl c = false) plugin) ∧
        text = pluginText order order' plugin := by
  rw [parsePlugin_members]
  rcases h with rfl | h
  · change (.ok none : Except String (Option String)) = .ok text ↔ _
    have htext : pluginText order order' {} = none := rfl
    rw [htext, Except.ok.injEq, eq_comm]
    simp
  · have hempty : plugin.id.isEmpty = false := by simpa using h.id
    rw [hempty]
    simp only [Bool.false_eq_true, if_false, h.pluginText_eq order order', ne_eq, h.id,
      not_false_eq_true, forall_const]
    constructor
    · intro hmap
      cases hread : ofId plugin.id (some (plugin.toString order true)) with
      | error message => simp [hread, Except.map] at hmap
      | ok read =>
          have hplain := (ofId_toString_iff order h).mp ⟨read, hread⟩
          rw [ofId_toString order ⟨hplain, h.named⟩] at hmap
          exact ⟨hplain, (Except.ok.inj hmap).symm⟩
    · rintro ⟨hplain, rfl⟩
      rw [ofId_toString order ⟨hplain, h.named⟩]
      rfl

/-- A list of objects, each of which is a server or an error. -/
theorem processElements_eq_ok_iff {objects : List (List (String × JsonElement))}
    {feature : Option Profile} (servers : List Server)
    (h : ∀ members ∈ objects, tryParse order' feature members ≠ .ok none) :
    processElements order' feature (objects.map .object) = .ok servers ↔
      List.Forall₂ (fun members server => tryParse order' feature members = .ok (some server))
        objects servers := by
  induction objects generalizing servers with
  | nil =>
      simp only [List.map_nil, processElements, Except.ok.injEq, List.forall₂_nil_left_iff]
      exact eq_comm
  | cons members objects ih =>
      rw [List.forall_mem_cons] at h
      rw [List.map_cons, processElements, List.forall₂_cons_left_iff, process]
      cases htry : tryParse order' feature members with
      | error message => simp [Except.bind]
      | ok found =>
          cases found with
          | none => exact absurd htry h.1
          | some server =>
              simp only [Except.bind, Except.ok.injEq, Option.some.injEq]
              cases hrest : processElements order' feature (objects.map .object) with
              | error message =>
                  simp only [Except.map, reduceCtorEq, false_iff]
                  rintro ⟨first, rest, -, hall, -⟩
                  rw [(ih rest h.2).mpr hall] at hrest
                  cases hrest
              | ok rest =>
                  simp only [Except.map, Except.ok.injEq, List.singleton_append]
                  constructor
                  · rintro rfl
                    exact ⟨server, rest, rfl, (ih rest h.2).mp hrest, rfl⟩
                  · rintro ⟨first, rest', rfl, hall, rfl⟩
                    rw [(ih rest' h.2).mpr hall, Except.ok.injEq] at hrest
                    rw [hrest]

theorem serializeToJson_eq_ok_iff (profiles : List Profile) (json : JsonElement) :
    serializeToJson order defaultConfig profiles = .ok json ↔ ∃ objects,
      List.Forall₂ (fun profile members =>
        Profile.toJson order defaultConfig profiles profile = .ok members) profiles objects ∧
      json = .array (objects.map .object) := by
  simp only [← mapM_eq_ok_iff]
  unfold serializeToJson
  cases profiles.mapM (Profile.toJson order defaultConfig profiles) with
  | error message => simp [Except.map]
  | ok objects => simp [Except.map, eq_comm]

theorem toJson_eq_ok_iff (profiles : List Profile) (profile : Profile)
    (members : List (String × JsonElement)) :
    profile.toJson order defaultConfig profiles = .ok members ↔ ∃ plugin,
      profile.selectedOptions defaultConfig = .ok plugin ∧
      members = profile.members order plugin (profile.fallbackIn profiles) := by
  unfold Profile.toJson
  cases profile.selectedOptions defaultConfig with
  | error message => simp [Except.map]
  | ok plugin => simp [Except.map, eq_comm]

section Process

variable {profiles : List Profile} (hids : (profiles.map Profile.id).Nodup)
  (haccepted : ∀ profile ∈ profiles, profile.Accepted)
  (hpassword : ∀ profile ∈ profiles, profile.password ≠ "")

include hids haccepted hpassword

/-- An exported object is a server or an error, but never searched. -/
theorem tryParse_exported {profile : Profile} (hmem : profile ∈ profiles) {plugin : PluginOptions}
    (hplugin : profile.selectedOptions defaultConfig = .ok plugin) (found : Option Server) :
    tryParse order' none (profile.members order plugin (profile.fallbackIn profiles)) = .ok found ↔
      ∃ server, found = some server ∧
        ServerOf order order' defaultConfig profiles profile server := by
  have hselected := selected_of_selectedOptions hplugin
  have hfallback : ∀ fallback ∈ profile.fallbackIn profiles,
      fallback.Accepted ∧ fallback.password ≠ "" := by
    intro fallback hfound
    have hdeclares := (fallbackIn_eq_some_iff hids _ _).mp hfound
    exact ⟨haccepted fallback hdeclares.1, hpassword fallback hdeclares.1⟩
  have hiff := parsePlugin_members_eq_ok_iff order order' profile (profile.fallbackIn profiles)
    hselected
  cases hparse : parsePlugin order' (profile.members order plugin (profile.fallbackIn profiles)) with
  | error message =>
      rw [tryParse_members_error order order' plugin profile _ (haccepted profile hmem)
        (hpassword profile hmem) hparse]
      simp only [reduceCtorEq, false_iff]
      rintro ⟨server, -, other, hother, hplain, -⟩
      rw [hplugin, Except.ok.injEq] at hother
      subst hother
      rw [(hiff _).mpr ⟨hplain, rfl⟩] at hparse
      cases hparse
  | ok text =>
      obtain ⟨hplain, rfl⟩ := (hiff text).mp hparse
      rw [tryParse_members order order' plugin profile _ (haccepted profile hmem)
        (hpassword profile hmem) hfallback hparse, Except.ok.injEq]
      constructor
      · rintro rfl
        exact ⟨_, rfl, plugin, hplugin, hplain, rfl⟩
      · rintro ⟨server, rfl, other, hother, -, rfl⟩
        rw [hplugin, Except.ok.injEq] at hother
        rw [hother]

/-- The servers that the importer finds in an export. -/
theorem process_serialized_iff (servers : List Server) :
    (∃ json, serializeToJson order defaultConfig profiles = .ok json ∧
      process order' none json = .ok servers) ↔
      List.Forall₂ (ServerOf order order' defaultConfig profiles) profiles servers := by
  have htry : ∀ profile ∈ profiles, ∀ server,
      (∃ members, profile.toJson order defaultConfig profiles = .ok members ∧
        tryParse order' none members = .ok (some server)) ↔
      ServerOf order order' defaultConfig profiles profile server := by
    intro profile hmem server
    simp only [toJson_eq_ok_iff]
    constructor
    · rintro ⟨members, ⟨plugin, hplugin, rfl⟩, hserver⟩
      obtain ⟨found, hfound, hof⟩ := (tryParse_exported order order' defaultConfig hids haccepted
        hpassword hmem hplugin _).mp hserver
      cases hfound
      exact hof
    · intro hof
      obtain ⟨plugin, hplugin⟩ : ∃ plugin, profile.selectedOptions defaultConfig = .ok plugin :=
        ⟨hof.choose, hof.choose_spec.1⟩
      exact ⟨_, ⟨plugin, hplugin, rfl⟩, (tryParse_exported order order' defaultConfig hids
        haccepted hpassword hmem hplugin _).mpr ⟨server, rfl, hof⟩⟩
  rw [← forall₂_congr_of_mem htry, ← forall₂_comp_iff]
  have helements {objects : List (List (String × JsonElement))}
      (hobjects : List.Forall₂ (fun profile members =>
        Profile.toJson order defaultConfig profiles profile = .ok members) profiles objects) :
      processElements order' none (objects.map .object) = .ok servers ↔
        List.Forall₂ (fun members server => tryParse order' none members = .ok (some server))
          objects servers := by
    apply processElements_eq_ok_iff
    intro members hmembers hnone
    obtain ⟨profile, hmem, htoJson⟩ := exists_of_forall₂ hobjects.flip hmembers
    obtain ⟨plugin, hplugin, rfl⟩ := (toJson_eq_ok_iff _ _ _ _ _).mp htoJson
    obtain ⟨server, hserver, -⟩ := (tryParse_exported order order' defaultConfig hids haccepted
      hpassword hmem hplugin _).mp hnone
    cases hserver
  simp only [serializeToJson_eq_ok_iff]
  constructor
  · rintro ⟨json, ⟨objects, hobjects, rfl⟩, hprocess⟩
    rw [process] at hprocess
    exact ⟨objects, hobjects, (helements hobjects).mp hprocess⟩
  · rintro ⟨objects, hobjects, hservers⟩
    refine ⟨_, ⟨objects, hobjects, rfl⟩, ?_⟩
    rw [process]
    exact (helements hobjects).mpr hservers

end Process

end Exported

/-! What the rows are like. -/

section Rows

variable {order : HashOrder} {feature : Option Profile} {json : JsonElement}
  {s : Storage} {servers : List Server}

/-- The rows of a document have the settings of its server objects. -/
theorem exec_parseJson_rows (previous : Option (List Profile)) (env : JsonState) (hopen : s.isOpen = true)
    (hservers : process order feature json = .ok servers) (hsome : servers ≠ []) :
    ∃ objects queried m' s', JsonImported previous env s servers objects queried m' s' ∧
      Routine.exec Storage.handle (parseJson order json feature (createFromJson previous))
        ⟨[], env⟩ s = (.ok (createdIds s servers), m', s') ∧
      ∀ (i : Nat) (server : Server), servers[i]? = some server → ∃ row,
        s'.table.find? (s.table.sequence + 1 + i) = some row ∧
          row.settings = server.profile.settings := by
  obtain ⟨objects, queried, m', s', himported, hexec⟩ :=
    exec_parseJson_json previous env hopen hservers hsome
  refine ⟨objects, queried, m', s', himported, hexec, ?_⟩
  intro i server hserver
  have htags := (keeps_parseJson_tagged previous env hservers).exec_any Storage.handle s
  rw [hexec] at htags
  change (createdIds s servers).zip _ <+: m'.tagged at htags
  have hpair : (s.table.sequence + 1 + i, server.profile.settings) ∈ m'.tagged := by
    apply htags.subset
    apply List.mem_of_getElem? (i := i)
    rw [List.getElem?_zip_eq_some]
    exact ⟨JsonImported.createdIds_getElem? hserver, by simp [hserver]⟩
  obtain ⟨object, hobject, htag⟩ := List.mem_map.mp hpair
  rw [Prod.mk.injEq] at htag
  have hstored := himported.wiring.stored object hobject
  rw [htag.1] at hstored
  exact ⟨object.toRow, hstored, htag.2⟩

/-- A resolved fallback has the endpoint that was asked for. -/
theorem Resolved.endpoint {queried table : ProfileTable} {fallback : Profile} {target : Nat}
    (h : Resolved queried fallback target table) (hsettled : Settled queried table) :
    ∃ row, table.find? target = some row ∧ row.host = fallback.host ∧
      row.remotePort = fallback.remotePort ∧ row.password = fallback.password ∧
        row.method = fallback.method := by
  unfold Resolved at h
  split at h
  · rename_i found hfound
    have hrow : queried.find? target = some found := by
      apply (queried.find?_eq_some_iff _ _).mpr
      exact ⟨List.mem_of_find?_eq_some hfound, h.symm⟩
    obtain ⟨row, hrow', hendpoint⟩ := hsettled target found hrow
    have hserves := List.find?_some hfound
    rw [← fallback.serves_congr hendpoint] at hserves
    simp only [Profile.serves, Bool.and_eq_true, beq_iff_eq] at hserves
    obtain ⟨⟨⟨⟨hhost, hport⟩, hpassword⟩, hmethod⟩, -⟩ := hserves
    exact ⟨row, hrow', hhost.symm, hport.symm, hpassword.symm, hmethod.symm⟩
  · obtain ⟨-, row, hrow, hendpoint⟩ := h
    simp only [Profile.endpoint, Prod.mk.injEq] at hendpoint
    exact ⟨row, hrow, hendpoint.1, hendpoint.2.1, hendpoint.2.2.1, hendpoint.2.2.2.1⟩

end Rows

/-- A row has what its profile had when it was exported. -/
structure Profile.CameBack (defaultConfig : String → Option String) (profile row : Profile) :
    Prop where
  host : row.host = profile.host
  remotePort : row.remotePort = profile.remotePort
  password : row.password = profile.password
  method : row.method = profile.method
  plugin : ∃ plugin read, profile.selectedOptions defaultConfig = .ok plugin ∧
    row.selectedOptions defaultConfig = .ok read ∧ read.equals plugin = true
  name : row.name = profile.name
  route : row.route = profile.route
  remoteDns : row.remoteDns = profile.remoteDns
  ipv6 : row.ipv6 = profile.ipv6
  metered : row.metered = profile.metered
  udpdns : row.udpdns = profile.udpdns
  proxyApps : row.proxyApps = profile.proxyApps
  apps : profile.proxyApps = true → row.bypass = profile.bypass ∧ row.individual = profile.individual

/-- Export and import of a list are inverse, on a storage with whatever rows:
the profiles are created in the order of the list, and each is what it was. -/
def ComesBack (order order' : HashOrder) (defaultConfig : String → Option String)
    (previous : Option (List Profile)) (env : JsonState) (s : Storage) (profiles : List Profile) :
    Prop :=
  ∃ json m' s', serializeToJson order defaultConfig profiles = .ok json ∧
    Routine.exec Storage.handle (parseJson order' json none (createFromJson previous)) ⟨[], env⟩ s =
      (.ok (List.range' (s.table.sequence + 1) profiles.length), m', s') ∧
    ∀ (i : Nat) (profile : Profile), profiles[i]? = some profile → ∃ row,
      s'.table.find? (s.table.sequence + 1 + i) = some row ∧ profile.CameBack defaultConfig row ∧
      ∀ fallback, profile.Declares profiles fallback → ∃ target found,
        row.udpFallback = some target ∧ s'.table.find? target = some found ∧
        found.host = fallback.host ∧ found.remotePort = fallback.remotePort ∧
          found.password = fallback.password ∧ found.method = fallback.method

/-- Profiles that cannot be told apart by what is exported of them. -/
structure Profile.Twin (order order' : HashOrder) (defaultConfig : String → Option String)
    (profile other : Profile) : Prop where
  host : profile.host = other.host
  remotePort : profile.remotePort = other.remotePort
  password : profile.password = other.password
  method : profile.method = other.method
  plugin : (profile.selectedOptions defaultConfig).map (pluginText order order') =
    (other.selectedOptions defaultConfig).map (pluginText order order')
  name : profile.name = other.name
  route : profile.route = other.route
  remoteDns : profile.remoteDns = other.remoteDns
  ipv6 : profile.ipv6 = other.ipv6
  metered : profile.metered = other.metered
  udpdns : profile.udpdns = other.udpdns
  proxyApps : profile.proxyApps = other.proxyApps
  apps : profile.proxyApps = true →
    profile.bypass = other.bypass ∧ profile.individual = other.individual

/-- When a list survives: every profile has a password, whatever its method;
every plugin string is accepted and its selected plugin is one that the importer
takes for what it is; and no profile with a fallback has a twin before it. -/
structure Exportable (order order' : HashOrder) (defaultConfig : String → Option String)
    (profiles : List Profile) : Prop where
  password : ∀ profile ∈ profiles, profile.password ≠ ""
  plugin : ∀ profile ∈ profiles, ∃ plugin, profile.selectedOptions defaultConfig = .ok plugin ∧
    (plugin.id ≠ "" → PluginConfiguration.isKcptun plugin.id = false ∧
      plugin.Within fun c => isISOControl c = false)
  fallback : ∀ (i j : Nat) (profile other : Profile), i < j → profiles[i]? = some profile →
    profiles[j]? = some other → profile.Twin order order' defaultConfig other →
      ∀ fallback, ¬ other.Declares profiles fallback

section RoundTrip

open PluginOptions PluginConfiguration

variable {order order' : HashOrder} {defaultConfig : String → Option String}
  {profiles : List Profile} {profile other row : Profile} {server server' : Server}

/-- What the settings of a row say about its profile. -/
theorem cameBack_iff (hof : ServerOf order order' defaultConfig profiles profile server)
    (hrow : row.settings = server.profile.settings) :
    profile.CameBack defaultConfig row ↔ ∀ plugin,
      profile.selectedOptions defaultConfig = .ok plugin → plugin.id ≠ "" →
        isKcptun plugin.id = false := by
  obtain ⟨plugin, hplugin, hplain, rfl⟩ := hof
  simp only [Profile.settings, Profile.imported, Profile.mk.injEq] at hrow
  obtain ⟨-, hname, hhost, hport, hpassword, hmethod, hroute, hdns, hproxy, hbypass, hudpdns, hipv6,
    hmetered, hindividual, htext, -⟩ := hrow
  constructor
  · intro hback other hother hid
    rw [hplugin, Except.ok.injEq] at hother
    subst hother
    obtain ⟨found, read, hfound, hread, hequals⟩ := hback.plugin
    rw [hplugin, Except.ok.injEq] at hfound
    subst hfound
    rcases selected_of_selectedOptions hplugin with rfl | hselected
    · exact absurd rfl hid
    · exact hselected.word_of_comes_back order order' htext hread hequals
  · intro hword
    have hread : ∃ read, row.selectedOptions defaultConfig = .ok read ∧
        read.equals plugin = true := by
      rcases selected_of_selectedOptions hplugin with rfl | hselected
      · exact ⟨{}, selectedOptions_of_none htext, rfl⟩
      · exact hselected.comes_back order order' (hword plugin hplugin hselected.id)
          (hplain hselected.id) htext
    obtain ⟨read, hread, hequals⟩ := hread
    refine ⟨hhost, hport, hpassword, hmethod, ⟨plugin, read, hplugin, hread, hequals⟩, hname, hroute,
      hdns, hipv6, hmetered, hudpdns, hproxy, ?_⟩
    intro happs
    rw [happs] at hbypass hindividual
    exact ⟨by simpa using hbypass, by simpa using hindividual⟩

theorem twin_iff (hof : ServerOf order order' defaultConfig profiles profile server)
    (hof' : ServerOf order order' defaultConfig profiles other server') :
    server'.profile = server.profile ↔ profile.Twin order order' defaultConfig other := by
  obtain ⟨plugin, hplugin, -, rfl⟩ := hof
  obtain ⟨plugin', hplugin', -, rfl⟩ := hof'
  have htext : (profile.selectedOptions defaultConfig).map (pluginText order order') =
      (other.selectedOptions defaultConfig).map (pluginText order order') ↔
        pluginText order order' plugin = pluginText order order' plugin' := by
    rw [hplugin, hplugin']
    simp [Except.map]
  constructor
  · intro heq
    simp only [Profile.imported, Profile.mk.injEq] at heq
    obtain ⟨-, hname, hhost, hport, hpassword, hmethod, hroute, hdns, hproxy, hbypass, hudpdns, hipv6,
      hmetered, hindividual, hsame, -⟩ := heq
    refine ⟨hhost.symm, hport.symm, hpassword.symm, hmethod.symm, htext.mpr hsame.symm, hname.symm,
      hroute.symm, hdns.symm, hipv6.symm, hmetered.symm, hudpdns.symm, hproxy.symm, ?_⟩
    intro happs
    rw [hproxy, happs] at hbypass hindividual
    exact ⟨by simpa using hbypass.symm, by simpa using hindividual.symm⟩
  · intro htwin
    have hsame := htext.mp htwin.plugin
    have hbypass : (other.proxyApps && other.bypass) = (profile.proxyApps && profile.bypass) := by
      rw [← htwin.proxyApps]
      cases happs : profile.proxyApps with
      | false => rfl
      | true => simp [(htwin.apps happs).1]
    have hindividual : (if other.proxyApps then other.individual else "") =
        if profile.proxyApps then profile.individual else "" := by
      rw [← htwin.proxyApps]
      cases happs : profile.proxyApps with
      | false => rfl
      | true => simp [(htwin.apps happs).2]
    simp only [Profile.imported, hbypass, hindividual]
    simp [htwin.host, htwin.remotePort, htwin.password, htwin.method, hsame, htwin.name, htwin.route,
      htwin.remoteDns, htwin.ipv6, htwin.metered, htwin.udpdns, htwin.proxyApps]

/-- A server always has a password. -/
theorem password_of_process {feature : Option Profile} {json : JsonElement} {servers : List Server}
    (h : process order feature json = .ok servers) :
    ∀ server ∈ servers, server.profile.password ≠ "" := by
  refine process_forall order feature ?_ json servers h
  intro members server htry
  unfold tryParse at htry
  split at htry
  · cases htry
  · cases htry
  · rename_i profile hprofile
    have hpassword : profile.password ≠ "" := by
      unfold parseServer at hprofile
      split at hprofile
      · split at hprofile
        · cases hprofile
        · rename_i hfields
          cases hplugin : parsePlugin order members with
          | error message => simp [hplugin, Except.map] at hprofile
          | ok plugin =>
              simp only [hplugin, Except.map, Except.ok.injEq, Option.some.injEq] at hprofile
              subst hprofile
              simp only [Bool.or_eq_true, String.isEmpty_iff, decide_eq_true_eq, not_or] at hfields
              cases feature <;> exact hfields.1.2
      · cases hprofile
    cases hfallback : parseFallback order feature members with
    | error message => simp [hfallback, Except.map] at htry
    | ok fallback =>
        simp only [hfallback, Except.map, Except.ok.injEq, Option.some.injEq] at htry
        subst htry
        exact hpassword

variable {previous : Option (List Profile)} {env : JsonState} {s s' : Storage}
  {servers : List Server} {objects : List Profile} {queried : ProfileTable} {m' : JsonMemory}

/-- The fallbacks of an export come back exactly if no profile that declares one
has a twin before it. -/
theorem fallbacks_come_back_iff (hids : (profiles.map Profile.id).Nodup)
    (h : JsonImported previous env s servers objects queried m' s')
    (hof : List.Forall₂ (ServerOf order order' defaultConfig profiles) profiles servers) :
    (∀ (i : Nat) (profile fallback : Profile), profiles[i]? = some profile →
      profile.Declares profiles fallback → ∃ row target found,
        s'.table.find? (s.table.sequence + 1 + i) = some row ∧ row.udpFallback = some target ∧
        s'.table.find? target = some found ∧ found.host = fallback.host ∧
        found.remotePort = fallback.remotePort ∧ found.password = fallback.password ∧
          found.method = fallback.method) ↔
    ∀ (i j : Nat) (profile other : Profile), i < j → profiles[i]? = some profile →
      profiles[j]? = some other → profile.Twin order order' defaultConfig other →
        ∀ fallback, ¬ other.Declares profiles fallback := by
  have hfallback {profile : Profile} {server : Server}
      (hserver : ServerOf order order' defaultConfig profiles profile server) :
      server.fallback = (profile.fallbackIn profiles).map Profile.importedFallback := by
    obtain ⟨plugin, -, -, rfl⟩ := hserver
    rfl
  constructor
  · intro hback i j profile other hij hprofile hother htwin fallback hdeclares
    have hfresh : ∀ server ∈ servers, server.profile.udpFallback = none := by
      intro server hserver
      obtain ⟨source, -, plugin, -, -, rfl⟩ := exists_of_forall₂ hof.flip hserver
      rfl
    have hrepeated := h.repeated_of_pointers hfresh (by
      intro k server fallback hserver hsome
      obtain ⟨source, hsource, hserverOf⟩ := forall₂_getElem? hof.flip hserver
      rw [hfallback hserverOf, Option.map_eq_some_iff] at hsome
      obtain ⟨declared, hdeclared, -⟩ := hsome
      obtain ⟨row, target, -, hrow, htarget, -⟩ := hback k source declared hsource
        ((fallbackIn_eq_some_iff hids _ _).mp hdeclared)
      exact ⟨row, target, hrow, htarget⟩)
    obtain ⟨server, hserver, hserverOf⟩ := forall₂_getElem? hof hprofile
    obtain ⟨server', hserver', hserverOf'⟩ := forall₂_getElem? hof hother
    have hnone := hrepeated i j server server' hij hserver hserver'
      ((twin_iff hserverOf hserverOf').mpr htwin)
    rw [hfallback hserverOf', (fallbackIn_eq_some_iff hids _ _).mpr hdeclares] at hnone
    cases hnone
  · intro hfirst i profile fallback hprofile hdeclares
    have hrepeated : ∀ (i j : Nat) (server other : Server), i < j → servers[i]? = some server →
        servers[j]? = some other → other.profile = server.profile → other.fallback = none := by
      intro i j server other hij hserver hother hsame
      obtain ⟨source, hsource, hserverOf⟩ := forall₂_getElem? hof.flip hserver
      obtain ⟨source', hsource', hserverOf'⟩ := forall₂_getElem? hof.flip hother
      have hnone := hfirst i j source source' hij hsource hsource'
        ((twin_iff hserverOf hserverOf').mp hsame)
      rw [hfallback hserverOf', Option.map_eq_none_iff, Option.eq_none_iff_forall_ne_some]
      intro found hfound
      exact hnone found ((fallbackIn_eq_some_iff hids _ _).mp hfound)
    obtain ⟨server, hserver, hserverOf⟩ := forall₂_getElem? hof hprofile
    have hsome : server.fallback = some fallback.importedFallback := by
      rw [hfallback hserverOf, (fallbackIn_eq_some_iff hids _ _).mpr hdeclares]
      rfl
    obtain ⟨row, target, hrow, htarget, hresolved⟩ :=
      h.wiring.wired _ (JsonImported.mem_entries_of_fallback hrepeated hserver hsome)
    obtain ⟨found, hfound, hendpoint⟩ := hresolved.endpoint h.wiring.settled
    exact ⟨row, target, found, hrow, htarget, hfound, hendpoint⟩

/-- An import that does not fail has found servers. -/
theorem process_of_exec {order : HashOrder} {json : JsonElement} {feature : Option Profile}
    {create : Profile → Code JsonMemory Nat} {m m' : JsonMemory} {ids : List Nat}
    (h : Routine.exec Storage.handle (parseJson order json feature create) m s =
      (.ok ids, m', s')) : ∃ servers, process order feature json = .ok servers := by
  cases hprocess : process order feature json with
  | error message => simp [parseJson, Routine.exec_bind, processed, hprocess] at h
  | ok servers => exact ⟨servers, rfl⟩

/-- A row has the password of its server, so a profile that comes back had one. -/
theorem password_of_rows {order : HashOrder} {json : JsonElement} {feature : Option Profile}
    (hservers : process order feature json = .ok servers)
    (hlength : profiles.length = servers.length)
    (hrow : ∀ (i : Nat) (profile : Profile), profiles[i]? = some profile → ∀ server,
      servers[i]? = some server →
        ∃ row, row.settings = server.profile.settings ∧ profile.CameBack defaultConfig row) :
    ∀ profile ∈ profiles, profile.password ≠ "" := by
  intro profile hmem
  obtain ⟨i, hprofile⟩ := List.mem_iff_getElem?.mp hmem
  have hlt := (List.getElem?_eq_some_iff.mp hprofile).1
  rw [hlength] at hlt
  have hserver : servers[i]? = some servers[i] := List.getElem?_eq_getElem hlt
  obtain ⟨row, hsame, hback⟩ := hrow i profile hprofile _ hserver
  have hpassword : row.password = servers[i].profile.password :=
    congrArg (fun profile => profile.password) hsame
  rw [← hback.password, hpassword]
  exact password_of_process hservers _ (List.mem_of_getElem? hserver)

/-- Every profile of an exportable list is written for a server. -/
theorem Exportable.exists_servers (h : Exportable order order' defaultConfig profiles) :
    ∃ servers, List.Forall₂ (ServerOf order order' defaultConfig profiles) profiles servers := by
  apply exists_forall₂
  intro profile hmem
  obtain ⟨plugin, hplugin, hgood⟩ := h.plugin profile hmem
  exact ⟨_, plugin, hplugin, fun hid => (hgood hid).2, rfl⟩

/-- A list of profiles that the program can run comes back from its export
exactly if it is exportable. -/
theorem comesBack_iff_exportable (order order' : HashOrder) (defaultConfig : String → Option String)
    (previous : Option (List Profile)) (env : JsonState) (s : Storage) (profiles : List Profile)
    (hopen : s.isOpen = true) (hids : (profiles.map Profile.id).Nodup)
    (haccepted : ∀ profile ∈ profiles, profile.Accepted) :
    ComesBack order order' defaultConfig previous env s profiles ↔
      Exportable order order' defaultConfig profiles := by
  constructor
  · rintro ⟨json, m', s', hjson, hexec, hrows⟩
    obtain ⟨servers, hservers⟩ := process_of_exec hexec
    have hrun := (wiredRight_createFromJson_iff previous env hopen hservers).1
    rw [hexec, Except.ok.injEq] at hrun
    have hlength : profiles.length = servers.length := by
      simpa [createdIds] using congrArg List.length hrun
    by_cases hsome : servers = []
    · rw [hsome, List.length_nil] at hlength
      rw [List.eq_nil_of_length_eq_zero hlength]
      exact ⟨by simp, by simp, by simp⟩
    · obtain ⟨objects, queried, m1, s1, himported, hexec1, hsettings⟩ :=
        exec_parseJson_rows previous env hopen hservers hsome
      rw [hexec, Prod.mk.injEq, Prod.mk.injEq] at hexec1
      obtain ⟨-, rfl, rfl⟩ := hexec1
      -- The row of a profile is the row of the server at the same position.
      have hrow {i : Nat} {profile : Profile} (hprofile : profiles[i]? = some profile)
          {server : Server} (hserver : servers[i]? = some server) :
          ∃ row, row.settings = server.profile.settings ∧ profile.CameBack defaultConfig row := by
        obtain ⟨row, hfound, hback, -⟩ := hrows i profile hprofile
        obtain ⟨row', hfound', hsame⟩ := hsettings i server hserver
        rw [hfound, Option.some.injEq] at hfound'
        exact ⟨row, hfound' ▸ hsame, hback⟩
      have hpassword := password_of_rows hservers hlength fun _ _ hprofile _ hserver =>
        hrow hprofile hserver
      have hof := (process_serialized_iff order order' defaultConfig hids haccepted hpassword
        servers).mp ⟨json, hjson, hservers⟩
      refine ⟨hpassword, ?_, ?_⟩
      · intro profile hmem
        obtain ⟨i, hprofile⟩ := List.mem_iff_getElem?.mp hmem
        obtain ⟨server, hserver, hserverOf⟩ := forall₂_getElem? hof hprofile
        obtain ⟨row, hsame, hback⟩ := hrow hprofile hserver
        have hword := (cameBack_iff hserverOf hsame).mp hback
        obtain ⟨plugin, hplugin, hplain, -⟩ := hserverOf
        exact ⟨plugin, hplugin, fun hid => ⟨hword plugin hplugin hid, hplain hid⟩⟩
      · apply (fallbacks_come_back_iff hids himported hof).mp
        intro i profile fallback hprofile hdeclares
        obtain ⟨row, hfound, -, hfallback⟩ := hrows i profile hprofile
        obtain ⟨target, found, htarget, hendpoint⟩ := hfallback fallback hdeclares
        exact ⟨row, target, found, hfound, htarget, hendpoint⟩
  · intro h
    obtain ⟨servers, hof⟩ := h.exists_servers
    obtain ⟨json, hjson, hservers⟩ := (process_serialized_iff order order' defaultConfig hids
      haccepted h.password servers).mpr hof
    by_cases hsome : servers = []
    · subst hsome
      obtain rfl := List.forall₂_nil_right_iff.mp hof
      have hrun := (wiredRight_createFromJson_iff previous env hopen hservers).1
      exact ⟨json, _, _, hjson, Prod.ext hrun rfl, by simp⟩
    · obtain ⟨objects, queried, m', s', himported, hexec, hsettings⟩ :=
        exec_parseJson_rows previous env hopen hservers hsome
      have hback := (fallbacks_come_back_iff hids himported hof).mpr h.fallback
      rw [createdIds, ← hof.length_eq] at hexec
      refine ⟨json, m', s', hjson, hexec, ?_⟩
      intro i profile hprofile
      obtain ⟨server, hserver, hserverOf⟩ := forall₂_getElem? hof hprofile
      obtain ⟨row, hrow, hsame⟩ := hsettings i server hserver
      refine ⟨row, hrow, (cameBack_iff hserverOf hsame).mpr ?_, ?_⟩
      · intro plugin hplugin hid
        obtain ⟨other, hother, hgood⟩ := h.plugin profile (List.mem_of_getElem? hprofile)
        rw [hplugin, Except.ok.injEq] at hother
        subst hother
        exact (hgood hid).1
      · intro fallback hdeclares
        obtain ⟨row', target, found, hrow', htarget, hendpoint⟩ :=
          hback i profile fallback hprofile hdeclares
        rw [hrow, Option.some.injEq] at hrow'
        exact ⟨target, found, hrow' ▸ htarget, hendpoint⟩

/-- A storage in which nothing has been stored yet. -/
def freshStorage : Storage where
  isOpen := true
  table := .empty
  profileId := 0
  directBootAware := false
  deviceFile := .absent

/-- A profile with two plugins and some proxied apps, and its fallback. -/
def exportedPair : List Profile :=
  [{ id := 4, host := "a", plugin := some "v2ray;host=c\nkcptun", proxyApps := true,
     individual := "x\ny", udpFallback := some 7 },
   { id := 7, host := "b", method := "none", name := none }]

theorem comesBack_iff_exportable_pair :
    freshStorage.isOpen = true ∧ (exportedPair.map Profile.id).Nodup ∧
      (∀ profile ∈ exportedPair, profile.Accepted) ∧
      (ComesBack .insertion .insertion (fun _ => none) none {} freshStorage exportedPair ↔
        Exportable .insertion .insertion (fun _ => none) exportedPair) := by
  have hids : (exportedPair.map Profile.id).Nodup := by decide
  have haccepted : ∀ profile ∈ exportedPair, profile.Accepted := by
    intro profile hmem
    simp only [exportedPair, List.mem_cons, List.not_mem_nil, or_false] at hmem
    rcases hmem with rfl | rfl
    · exact ⟨by decide, by decide, by decide, by decide⟩
    · exact ⟨by decide, by decide, by decide, by decide⟩
  exact ⟨rfl, hids, haccepted, comesBack_iff_exportable .insertion .insertion (fun _ => none) none {}
    freshStorage exportedPair rfl hids haccepted⟩

/-- A profile that needs no password. -/
def openProfile : Profile := { id := 1, host := "a", password := "", method := "none" }

/-- The importer wants a password even where the program does not. -/
theorem comesBack_fails_without_password :
    freshStorage.isOpen = true ∧ ([openProfile].map Profile.id).Nodup ∧
      (∀ profile ∈ [openProfile], profile.Accepted) ∧
      ¬ ComesBack .insertion .insertion (fun _ => none) none {} freshStorage [openProfile] := by
  refine ⟨rfl, by decide, ?_, ?_⟩
  · intro profile hmem
    rw [List.mem_singleton.mp hmem]
    exact ⟨by decide, by decide, by decide, by decide⟩
  · rintro ⟨json, m', s', hjson, hexec, -⟩
    have hlost : ∃ exported, serializeToJson .insertion (fun _ => none) [openProfile] = .ok exported ∧
        process .insertion none exported = .ok [] := by
      refine ⟨_, rfl, ?_⟩
      decide +kernel
    obtain ⟨exported, hexported, hservers⟩ := hlost
    rw [hexported, Except.ok.injEq] at hjson
    subst hjson
    have hopen : freshStorage.isOpen = true := rfl
    have hrun := (wiredRight_createFromJson_iff none {} hopen hservers).1
    rw [hexec] at hrun
    cases hrun

end RoundTrip

end WifiProject.Database
