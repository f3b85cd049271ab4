import WifiProject.Database.JsonImport
import WifiProject.Subscription.Resync

/-!
Importing JSON streams in place of the profiles that are there. The table is
cleared by the first profile that any stream yields, once, and every profile and
fallback created after that is in the table at the end.
-/

namespace WifiProject.Database

open Lib Plugin
open Subscription (parsedServers)
open Storage (handle)

/-- The profile whose settings are copied, `singleOrNull { it.id == profileId }`
among those that `associateBy` keeps. -/
def replacedFeature (s : Storage) : Option Profile :=
  (associated s.table.rows).find? (·.id = s.profileId)

/-- The profiles of a document, and fallbacks of some of them. -/
def DocumentCreates (order : HashOrder) (feature : Option Profile) (document : Document)
    (created : List Profile) : Prop :=
  ∃ fallbacks, created = (parsedServers order feature document).map Server.profile ++ fallbacks ∧
    ∀ fallback ∈ fallbacks, ∃ server ∈ parsedServers order feature document,
      server.fallback = some fallback

/-- A table that was replaced by what the documents yield. Ids are handed out in
sequence, so `created` is all that was created. -/
structure Replaced (order : HashOrder) (feature : Option Profile) (documents : List Document)
    (before after : ProfileTable) : Prop where
  gone : ∀ old ∈ before.rows, ∀ row ∈ after.rows, row.id ≠ old.id
  present : ∃ created : List (List Profile),
    List.Forall₂ (DocumentCreates order feature) documents created ∧
    after.sequence = before.sequence + created.flatten.length ∧
    ∀ (i : Nat) (profile : Profile), created.flatten[i]? = some profile →
      ∃ row, after.find? (before.sequence + 1 + i) = some row ∧
        (copyStats (some before.rows) profile).CreatedAs row
  stats : ∀ row ∈ after.rows, ∀ old, lastAt before.rows row.formattedAddress = some old →
    row.tx = old.tx ∧ row.rx = old.rx

section Stats

theorem copyStats_formattedAddress (previous : Option (List Profile)) (profile : Profile) :
    (copyStats previous profile).formattedAddress = profile.formattedAddress := by
  unfold copyStats
  split <;> rfl

/-- A row created from a profile has the stats that were copied to it. -/
theorem Profile.CreatedAs.stats {previous : List Profile} {profile row old : Profile}
    (h : (copyStats (some previous) profile).CreatedAs row)
    (hold : lastAt previous row.formattedAddress = some old) : row.tx = old.tx ∧ row.rx = old.rx := by
  obtain ⟨userOrder, udpFallback, hrow⟩ := h
  have haddress : row.formattedAddress = profile.formattedAddress := by
    rw [← copyStats_formattedAddress (some previous) profile, hrow]
    rfl
  rw [haddress] at hold
  rw [hrow]
  simp only [copyStats, Option.bind_some, hold, Profile.toRow, and_self]

end Stats

/-- What holds before each document: nothing has changed, or the table has been
cleared and holds what was created since. -/
structure Replacing (order : HashOrder) (s : Storage) (done : List Document)
    (m : JsonMemory) (s' : Storage) : Prop where
  isOpen : s'.isOpen = true
  untouched : m.env.cleared = false → s'.table = s.table ∧
    ∀ document ∈ done, parsedServers order (replacedFeature s) document = []
  replaced : m.env.cleared = true →
    (∃ document ∈ done, parsedServers order (replacedFeature s) document ≠ []) ∧
    ∃ created : List (List Profile),
      List.Forall₂ (DocumentCreates order (replacedFeature s)) done created ∧
      Grown (some s.table.rows) s.table.deleteAll created.flatten s'.table

section Run

variable {order : HashOrder} {s : Storage} {done : List Document} {document : Document}
  {m : JsonMemory} {s' : Storage}

/-- A document that yields nothing creates nothing. -/
theorem Replacing.skip (h : Replacing order s done m s')
    (hnone : parsedServers order (replacedFeature s) document = []) (objects : List Profile) :
    Replacing order s (done ++ [document]) { m with objects := objects } s' where
  isOpen := h.isOpen
  untouched hcleared := by
    obtain ⟨htable, hdone⟩ := h.untouched hcleared
    refine ⟨htable, ?_⟩
    rw [List.forall_mem_append, List.forall_mem_singleton]
    exact ⟨hdone, hnone⟩
  replaced hcleared := by
    obtain ⟨⟨found, hfound, hsome⟩, created, hcreated, hgrown⟩ := h.replaced hcleared
    refine ⟨⟨found, List.mem_append_left _ hfound, hsome⟩, created ++ [[]], ?_, ?_⟩
    · exact List.rel_append hcreated (.cons ⟨[], by simp [hnone], by simp⟩ .nil)
    · simpa using hgrown

/-- The table a document starts from. -/
theorem Replacing.grown_cleared (h : Replacing order s done m s') :
    ∃ created : List (List Profile),
      List.Forall₂ (DocumentCreates order (replacedFeature s)) done created ∧
      Grown (some s.table.rows) s.table.deleteAll created.flatten
        (cleared (some s.table.rows) ⟨[], m.env⟩ s').2.table := by
  cases hcleared : m.env.cleared with
  | true =>
      obtain ⟨-, created, hcreated, hgrown⟩ := h.replaced hcleared
      refine ⟨created, hcreated, ?_⟩
      simpa [cleared, hcleared] using hgrown
  | false =>
      obtain ⟨htable, hdone⟩ := h.untouched hcleared
      refine ⟨done.map fun _ => [], ?_, ?_⟩
      · rw [List.forall₂_map_right_iff, List.forall₂_same]
        intro document hdocument
        exact ⟨[], by simp [hdone document hdocument], by simp⟩
      · have htable' : (cleared (some s.table.rows) ⟨[], m.env⟩ s').2.table =
            s.table.deleteAll := by
          simp only [cleared, Option.isSome_some, hcleared, Bool.not_false, Bool.and_self, if_true]
          exact congrArg ProfileTable.deleteAll htable
        rw [htable']
        have hnil : (done.map fun _ => ([] : List Profile)).flatten = [] := by simp
        rw [hnil]
        exact Grown.refl _

/-- A document that yields servers. -/
theorem Replacing.imported (h : Replacing order s done m s') {json : JsonElement}
    {servers : List Server} (hparsed : parsedServers order (replacedFeature s) document = servers)
    (hservers : process order (replacedFeature s) json = .ok servers) (hsome : servers ≠ []) :
    ∃ ids m1 s1, Routine.exec handle (parseJson order json (replacedFeature s)
        (createFromJson (some s.table.rows))) ⟨[], m.env⟩ s' = (.ok ids, m1, s1) ∧
      Replacing order s (done ++ [document]) m1 s1 := by
  obtain ⟨created, hcreated, hgrown⟩ := h.grown_cleared
  obtain ⟨objects, queried, m1, s1, fallbacks, himported, hgrown', hfallbacks, hexec⟩ :=
    exec_parseJson_grown (some s.table.rows) m.env h.isOpen hservers hsome
  have hcleared : m1.env.cleared = true := by simpa using himported.wiring.cleared
  refine ⟨_, m1, s1, hexec, himported.wiring.isOpen, by simp [hcleared], fun _ => ⟨?_, ?_⟩⟩
  · exact ⟨document, by simp, by rwa [hparsed]⟩
  · refine ⟨created ++ [servers.map Server.profile ++ fallbacks], ?_, ?_⟩
    · refine List.rel_append hcreated (.cons ⟨fallbacks, ?_, ?_⟩ .nil)
      · rw [hparsed]
      · rwa [hparsed]
    · rw [List.flatten_append, List.flatten_singleton]
      exact hgrown.trans hgrown'

theorem exec_single (document : Document) (m : JsonMemory) (s : Storage) :
    (∃ json, document.elements = [json] ∧ document.malformed = none ∧
      Routine.exec handle (document.single : Code JsonMemory JsonElement) m s =
        (.ok json, m, s)) ∨
    (∃ failure, Routine.exec handle (document.single : Code JsonMemory JsonElement) m s =
        (.error failure, m, s)) ∧ ∀ order feature, parsedServers order feature document = [] := by
  obtain ⟨elements, malformed⟩ := document
  unfold Document.single parsedServers
  rcases elements with _ | ⟨json, _ | ⟨other, rest⟩⟩ <;> cases malformed <;> simp

/-- One document, whatever comes of it. -/
theorem Replacing.step (h : Replacing order s done m s') (document : Document) :
    let run := Routine.exec handle
      (importDocument order (some s.table.rows) (replacedFeature s) document) m s'
    Replacing order s (done ++ [document]) run.2.1 run.2.2 := by
  simp only [importDocument, Routine.exec_bind, Routine.exec_modify]
  rcases exec_single document ⟨[], m.env⟩ s' with
    ⟨json, helements, hmalformed, hexec⟩ | ⟨⟨failure, hexec⟩, hnone⟩
  · rw [hexec]
    dsimp only
    have hparsed : parsedServers order (replacedFeature s) document =
        (process order (replacedFeature s) json).toOption.getD [] := by
      unfold parsedServers
      rw [helements, hmalformed]
    cases hprocess : process order (replacedFeature s) json with
    | error message =>
        rw [hprocess] at hparsed
        simpa [parseJson, Routine.exec_bind, processed, hprocess] using h.skip hparsed []
    | ok servers =>
        rw [hprocess] at hparsed
        change _ = servers at hparsed
        cases servers with
        | nil =>
            simpa [parseJson, Routine.exec_bind, processed, hprocess, createAll, finalize,
              h.isOpen, LinkedMap.empty] using h.skip hparsed []
        | cons server servers =>
            obtain ⟨ids, m1, s1, hparse, hreplacing⟩ := h.imported hparsed hprocess (by simp)
            rw [hparse]
            exact hreplacing
  · rw [hexec]
    exact h.skip (hnone _ _) []

/-- Every document is imported, failures of others notwithstanding. -/
theorem Replacing.forEachTry (documents : List Document) (h : Replacing order s done m s')
    (result : Option Failure) :
    let run := Routine.exec handle (Database.forEachTry documents
      (importDocument order (some s.table.rows) (replacedFeature s)) result) m s'
    Replacing order s (done ++ documents) run.2.1 run.2.2 := by
  induction documents generalizing done m s' result with
  | nil => cases result <;> simpa [Database.forEachTry] using h
  | cons document documents ih =>
      have hdocument := h.step document
      simp only [Database.forEachTry, Routine.exec_bind, Routine.exec_tryCatch]
      rw [List.append_cons]
      cases hrun : Routine.exec handle
          (importDocument order (some s.table.rows) (replacedFeature s) document) m s' with
      | mk out rest =>
          rw [hrun] at hdocument
          cases out with
          | ok value => exact ih hdocument _
          | error failure => exact ih hdocument _

/-- The rows at the end are those created since the table was cleared. -/
theorem replaced_of_grown {before after : ProfileTable} {documents : List Document}
    {feature : Option Profile} {created : List (List Profile)}
    (hcreated : List.Forall₂ (DocumentCreates order feature) documents created)
    (hgrown : Grown (some before.rows) before.deleteAll created.flatten after) :
    Replaced order feature documents before after := by
  have hnew : ∀ row ∈ after.rows, before.sequence < row.id := by
    intro row hrow
    by_contra hid
    have hsome := hgrown.old row hrow (Nat.le_of_not_lt hid)
    simp [ProfileTable.find?, ProfileTable.deleteAll] at hsome
  refine ⟨?_, ⟨created, hcreated, hgrown.sequence, hgrown.created⟩, ?_⟩
  · intro old hold row hrow
    have hbound := (before.ids old hold).2
    have hrowId := hnew row hrow
    omega
  · intro row hrow old hold
    have hrowId := hnew row hrow
    have hbound : row.id ≤ before.sequence + created.flatten.length := by
      rw [← show after.sequence = before.sequence + _ from hgrown.sequence]
      exact (after.ids row hrow).2
    have hposition : row.id - (before.sequence + 1) < created.flatten.length := by omega
    have hprofile := List.getElem?_eq_getElem hposition
    obtain ⟨found, hfound, hfoundAs⟩ := hgrown.created _ _ hprofile
    have hid : before.deleteAll.sequence + 1 + (row.id - (before.sequence + 1)) = row.id := by
      change before.sequence + 1 + _ = _
      omega
    rw [hid, (after.find?_eq_some_iff row.id row).mpr ⟨hrow, rfl⟩] at hfound
    cases hfound
    exact hfoundAs.stats hold

/-- A replacing import leaves the table alone if no stream yields a profile, and
replaces it otherwise. -/
theorem createProfilesFromJson_replaces (order : HashOrder) (documents : List Document)
    (s : Storage) (hopen : s.isOpen = true) :
    let run := Routine.exec handle (createProfilesFromJson order documents true) ⟨[], {}⟩ s
    ((∀ document ∈ documents, parsedServers order (replacedFeature s) document = []) →
      run.2.2.table = s.table) ∧
    ((∃ document ∈ documents, parsedServers order (replacedFeature s) document ≠ []) →
      Replaced order (replacedFeature s) documents s.table run.2.2.table) := by
  have hstart : Replacing order s [] ⟨[], {}⟩ s :=
    ⟨hopen, fun _ => ⟨rfl, by simp⟩, fun hcleared => by cases hcleared⟩
  have hrun : Routine.exec handle (createProfilesFromJson order documents true) ⟨[], {}⟩ s =
      Routine.exec handle (forEachTry documents
        (importDocument order (some s.table.rows) (replacedFeature s))) ⟨[], {}⟩ s := by
    simp only [createProfilesFromJson, if_true, Routine.exec_bind, exec_getAllProfiles, hopen,
      exec_profileId]
    rfl
  intro run
  have hend : Replacing order s documents run.2.1 run.2.2 := by
    simp only [run, hrun]
    exact hstart.forEachTry documents none
  cases hcleared : run.2.1.env.cleared with
  | false =>
      obtain ⟨htable, hnone⟩ := hend.untouched hcleared
      refine ⟨fun _ => htable, ?_⟩
      rintro ⟨document, hdocument, hsome⟩
      exact absurd (hnone document hdocument) hsome
  | true =>
      obtain ⟨⟨document, hdocument, hsome⟩, created, hcreated, hgrown⟩ := hend.replaced hcleared
      refine ⟨fun hnone => absurd (hnone document hdocument) hsome, fun _ => ?_⟩
      exact replaced_of_grown hcreated hgrown

/-- A table with a row at `h:1`. -/
def replacedStorage : Storage where
  isOpen := true
  table := ⟨[{ id := 1, host := "h", remotePort := 1, tx := 5, rx := 7 }], 1, by simp, by simp, by simp⟩
  profileId := 1
  directBootAware := false
  deviceFile := .absent

/-- A stream that breaks off, and one with a server at the same address. -/
def replacingDocuments : List Document :=
  [⟨[], some "End of input"⟩,
    ⟨[.array [.object [("server", .string "h"), ("server_port", .number "1"),
      ("password", .string "p"), ("method", .string "m")]]], none⟩]

theorem createProfilesFromJson_replaces_row :
    let run := Routine.exec handle (createProfilesFromJson .insertion replacingDocuments true)
      ⟨[], {}⟩ replacedStorage
    Replaced .insertion (replacedFeature replacedStorage) replacingDocuments
      replacedStorage.table run.2.2.table := by
  have hboth := createProfilesFromJson_replaces .insertion replacingDocuments replacedStorage rfl
  apply hboth.2
  have hservers : parsedServers .insertion (replacedFeature replacedStorage)
      replacingDocuments[1] ≠ [] := by decide +kernel
  exact ⟨replacingDocuments[1], by simp [replacingDocuments], hservers⟩

end Run

end WifiProject.Database
