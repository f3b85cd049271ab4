import WifiProject.Database.FallbackWiring

/-!
`ProfileManager.createProfilesFromJson`, and what becomes of the fallbacks when
its callback creates every profile anew.
-/

namespace WifiProject.Database

open Lib Plugin

/-- Whether `lazyClear` has run. -/
structure JsonState where
  cleared : Bool := false
  deriving DecidableEq, Repr

abbrev JsonMemory := Memory JsonState

/-- `profiles?.get(address)`: `associateBy` keeps the last row with an address. -/
def lastAt (profiles : List Profile) (address : String) : Option Profile :=
  profiles.reverse.find? (·.formattedAddress = address)

/-- The rows that `associateBy` keeps. -/
def associated (profiles : List Profile) : List Profile :=
  profiles.filter fun profile => lastAt profiles profile.formattedAddress = some profile

/-- The stats of the profile with the same address, if profiles are replaced. -/
def copyStats (previous : Option (List Profile)) (profile : Profile) : Profile :=
  match previous.bind fun profiles => lastAt profiles profile.formattedAddress with
  | none => profile
  | some old => { profile with tx := old.tx, rx := old.rx }

/-- `lazyClear.value`. -/
def lazyClear : Code JsonMemory Unit := do
  let memory ← Routine.read
  if memory.env.cleared then pure ()
  else do
    ProfileManager.clear
    Routine.modify fun memory => { memory with env := { cleared := true } }

/-- The callback; `previous` holds the rows that are being replaced. -/
def createFromJson (previous : Option (List Profile)) (profile : Profile) : Code JsonMemory Nat := do
  if previous.isSome then lazyClear else pure ()
  createObject (copyStats previous profile)

/-- `forEachTry`: the first exception is thrown after the last element. -/
def forEachTry {σ α : Type} (elements : List α) (action : α → Code σ Unit)
    (result : Option Failure := none) : Code σ Unit :=
  match elements with
  | [] => result.elim (pure ()) throw
  | element :: elements => do
      let failure ← tryCatchThe Failure (do action element; pure none) fun failure =>
        pure (some failure)
      forEachTry elements action (result.or failure)

/-- One document. The parser and its list of profiles are new for each. -/
def importDocument (order : HashOrder) (previous : Option (List Profile)) (feature : Option Profile)
    (document : Document) : Code JsonMemory Unit := do
  Routine.modify fun memory => { memory with objects := [] }
  let json ← document.single
  let _ ← parseJson order json feature (createFromJson previous)
  pure ()

def createProfilesFromJson (order : HashOrder) (documents : List Document) (replace : Bool) :
    Code JsonMemory Unit :=
  if replace then do
    let profiles ← ProfileManager.getAllProfiles
    let currentId ← DataStore.profileId
    let feature := (associated profiles).find? (·.id = currentId)
    forEachTry documents (importDocument order (some profiles) feature)
  else do
    let current ← currentProfile
    forEachTry documents (importDocument order none (current.map ExpandedProfile.main))

/-! What one call of the callback does. -/

section Create

open Storage (handle)

variable (previous : Option (List Profile)) (profile : Profile) (m : JsonMemory) (s : Storage)

theorem copyStats_endpoint : (copyStats previous profile).endpoint = profile.endpoint := by
  unfold copyStats
  split <;> rfl

theorem copyStats_udpFallback : (copyStats previous profile).udpFallback = profile.udpFallback := by
  unfold copyStats
  split <;> rfl

/-- The state in which a callback creates its profile. -/
def cleared : JsonMemory × Storage :=
  if previous.isSome && !m.env.cleared then
    ({ m with env := { cleared := true } },
      (s.setTable s.table.deleteAll).setDeviceFile .absent)
  else (m, s)

theorem cleared_cleared :
    cleared previous (cleared previous m s).1 (cleared previous m s).2 = cleared previous m s := by
  unfold cleared
  split <;> simp_all

/-- The state after a profile has been created in it. -/
def JsonMemory.createIn (profile : Profile) (state : JsonMemory × Storage) : JsonMemory × Storage :=
  ({ state.1 with objects := state.1.objects ++ [createdObject state.2.table profile] },
    state.2.setTable (state.2.table.insert (createdObject state.2.table profile)))

theorem exec_createObject {σ : Type} (m : Memory σ) (hopen : s.isOpen = true) :
    Routine.exec handle (createObject profile : Code (Memory σ) Nat) m s =
      (.ok (s.table.sequence + 1),
        { m with objects := m.objects ++ [createdObject s.table profile] },
        s.setTable (s.table.insert (createdObject s.table profile))) := by
  simp only [createObject, Routine.exec_bind, exec_createProfile _ _ _ hopen, Routine.exec_modify,
    Routine.exec_pure]
  rfl

theorem exec_createFromJson (hopen : s.isOpen = true) :
    Routine.exec handle (createFromJson previous profile) m s =
      (.ok (s.table.sequence + 1),
        JsonMemory.createIn (copyStats previous profile) (cleared previous m s)) := by
  cases previous with
  | none =>
      simp only [createFromJson, Option.isSome_none, Bool.false_eq_true, if_false]
      exact exec_createObject _ _ _ hopen
  | some profiles =>
      cases hcleared : m.env.cleared with
      | true =>
          simp [createFromJson, lazyClear, Routine.exec_bind, hcleared,
            exec_createObject _ _ _ hopen, cleared, JsonMemory.createIn]
      | false =>
          have hopen' : ((s.setTable s.table.deleteAll).setDeviceFile .absent).isOpen = true := hopen
          simp only [createFromJson, lazyClear, Routine.exec_bind, Option.isSome_some, if_true,
            Routine.exec_read, hcleared, Bool.false_eq_true, if_false, exec_clear _ _ hopen, Routine.exec_modify,
            exec_createObject _ _ _ hopen']
          simp [cleared, hcleared, JsonMemory.createIn]
          rfl

theorem cleared_sequence : (cleared previous m s).2.table.sequence = s.table.sequence := by
  unfold cleared
  split <;> rfl

theorem cleared_isOpen : (cleared previous m s).2.isOpen = s.isOpen := by
  unfold cleared
  split <;> rfl

/-- The first callback clears, so one may as well clear before the loop. -/
theorem exec_createAll_cleared (profiles : List Profile) (pending : LinkedMap Profile Profile)
    (wired : LinkedMap Nat Profile) (hopen : s.isOpen = true) (hsome : profiles ≠ []) :
    Routine.exec handle (createAll (createFromJson previous) profiles pending wired) m s =
      Routine.exec handle (createAll (createFromJson previous) profiles pending wired)
        (cleared previous m s).1 (cleared previous m s).2 := by
  cases profiles with
  | nil => exact absurd rfl hsome
  | cons profile profiles =>
      have hopen' : (cleared previous m s).2.isOpen = true := by
        rw [cleared_isOpen]
        exact hopen
      simp only [createAll, Routine.exec_bind, exec_createFromJson _ _ _ _ hopen,
        exec_createFromJson _ _ _ _ hopen', cleared_cleared, cleared_sequence]

end Create

/-! How a table grows while a document is imported. -/

/-- A row that was created from the profile; its fallback may have been set
since. -/
def Profile.CreatedAs (profile row : Profile) : Prop :=
  ∃ userOrder udpFallback, row = { profile.toRow with id := row.id, userOrder, udpFallback }

theorem Profile.CreatedAs.trans {profile row row' : Profile} (h : profile.CreatedAs row)
    (h' : row.CreatedAs row') : profile.CreatedAs row' := by
  obtain ⟨_, _, hrow⟩ := h
  obtain ⟨userOrder, udpFallback, hrow'⟩ := h'
  refine ⟨userOrder, udpFallback, ?_⟩
  rw [hrow', hrow]
  rfl

theorem ProfileTable.createdAs_self {table : ProfileTable} {id : Nat} {row : Profile}
    (h : table.find? id = some row) : row.CreatedAs row := by
  have hstored := table.stored row ((table.find?_eq_some_iff id row).mp h).1
  refine ⟨row.userOrder, row.udpFallback, ?_⟩
  cases row
  cases hstored
  rfl

/-- The rows of `base` and one for every profile of `created`, in this order. -/
structure Grown (previous : Option (List Profile)) (base : ProfileTable) (created : List Profile)
    (table : ProfileTable) : Prop where
  sequence : table.sequence = base.sequence + created.length
  kept : ∀ id row, base.find? id = some row →
    ∃ row', table.find? id = some row' ∧ row.CreatedAs row'
  created : ∀ (i : Nat) (profile : Profile), created[i]? = some profile →
    ∃ row, table.find? (base.sequence + 1 + i) = some row ∧
      (copyStats previous profile).CreatedAs row
  old : ∀ row ∈ table.rows, row.id ≤ base.sequence → (base.find? row.id).isSome

namespace Grown

variable {previous : Option (List Profile)} {base table later : ProfileTable}
  {created more : List Profile}

theorem of_kept (hsequence : table.sequence = base.sequence)
    (hkept : ∀ id row, base.find? id = some row →
      ∃ row', table.find? id = some row' ∧ row.CreatedAs row')
    (hold : ∀ row ∈ table.rows, (base.find? row.id).isSome) : Grown previous base [] table :=
  ⟨by simpa using hsequence, hkept, by simp, fun row hrow _ => hold row hrow⟩

theorem refl (table : ProfileTable) : Grown previous table [] table := by
  apply of_kept rfl
  · intro id row hrow
    exact ⟨row, hrow, ProfileTable.createdAs_self hrow⟩
  · intro row hrow
    rw [(table.find?_eq_some_iff row.id row).mpr ⟨hrow, rfl⟩]
    rfl

theorem trans (h : Grown previous base created table) (h' : Grown previous table more later) :
    Grown previous base (created ++ more) later where
  sequence := by
    rw [h'.sequence, h.sequence, List.length_append]
    omega
  kept := by
    intro id row hrow
    obtain ⟨row', hrow', hcreated⟩ := h.kept id row hrow
    obtain ⟨row'', hrow'', hcreated'⟩ := h'.kept id row' hrow'
    exact ⟨row'', hrow'', hcreated.trans hcreated'⟩
  created := by
    intro i profile hprofile
    by_cases hi : i < created.length
    · rw [List.getElem?_append_left hi] at hprofile
      obtain ⟨row, hrow, hcreated⟩ := h.created i profile hprofile
      obtain ⟨row', hrow', hcreated'⟩ := h'.kept _ row hrow
      exact ⟨row', hrow', hcreated.trans hcreated'⟩
    · rw [List.getElem?_append_right (by omega)] at hprofile
      obtain ⟨row, hrow, hcreated⟩ := h'.created _ profile hprofile
      have hid : base.sequence + 1 + i = table.sequence + 1 + (i - created.length) := by
        rw [h.sequence]
        omega
      rw [hid]
      exact ⟨row, hrow, hcreated⟩
  old := by
    intro row hrow hid
    have hsome := h'.old row hrow (by rw [h.sequence]; omega)
    obtain ⟨row', hrow'⟩ := Option.isSome_iff_exists.mp hsome
    obtain ⟨hmem, hsame⟩ := (table.find?_eq_some_iff row.id row').mp hrow'
    rw [← hsame]
    exact h.old row' hmem (by omega)

theorem create (table : ProfileTable) (profile : Profile) :
    Grown previous table [profile]
      (table.insert (createdObject table (copyStats previous profile))) where
  sequence := rfl
  kept := by
    intro id row hrow
    have hbound := (table.ids row ((table.find?_eq_some_iff id row).mp hrow).1).2
    have hid := ((table.find?_eq_some_iff id row).mp hrow).2
    rw [table.find?_insert_of_ne _ (by omega)]
    exact ⟨row, hrow, ProfileTable.createdAs_self hrow⟩
  created := by
    intro i first hfirst
    cases i with
    | zero =>
        cases hfirst
        exact ⟨_, table.find?_inserted _, table.nextOrder.getD 0,
          (copyStats previous profile).udpFallback, rfl⟩
    | succ i => simp at hfirst
  old := by
    intro row hrow hid
    rcases (table.mem_insert_iff _ row).mp hrow with hmem | rfl
    · rw [(table.find?_eq_some_iff row.id row).mpr ⟨hmem, rfl⟩]
      rfl
    · have hnew : table.sequence + 1 ≤ table.sequence := hid
      omega

theorem wire {object : Profile} (hrow : table.find? object.id = some object.toRow)
    (target : Nat) : Grown previous table [] (table.update (object.wireTo target)) := by
  have hwired : table.find? (object.wireTo target).id = some object.toRow := hrow
  have hupdate := table.find?_update_stored hwired
  refine of_kept rfl ?_ ?_
  · intro id row hfind
    rw [hupdate]
    split
    · rename_i hid
      rw [hid] at hfind
      cases hrow.symm.trans hfind
      exact ⟨_, rfl, object.userOrder, some target, rfl⟩
    · exact ⟨row, hfind, ProfileTable.createdAs_self hfind⟩
  · intro row hmem
    obtain ⟨old, hold, rfl⟩ := List.mem_map.mp hmem
    rw [ProfileTable.replace_id, (table.find?_eq_some_iff old.id old).mpr ⟨hold, rfl⟩]
    rfl

end Grown

/-- What the loop of `parseJson` has created from `profiles`. -/
structure JsonCreated (m : JsonMemory) (s : Storage) (profiles : List Profile) (objects : List Profile)
    (m' : JsonMemory) (s' : Storage) : Prop where
  isOpen : s'.isOpen = true
  env : m'.env = m.env
  memory : m'.objects = m.objects ++ objects
  rows : s'.table.rows = s.table.rows ++ objects.map Profile.toRow
  sequence : s'.table.sequence = s.table.sequence + profiles.length
  ids : objects.map Profile.id = List.range' (s.table.sequence + 1) profiles.length
  endpoints : objects.map Profile.endpoint = profiles.map Profile.endpoint
  udpFallbacks : objects.map Profile.udpFallback = profiles.map Profile.udpFallback

theorem exec_createAll_json (previous : Option (List Profile)) (profiles : List Profile)
    (pending : LinkedMap Profile Profile) (wired : LinkedMap Nat Profile) (m : JsonMemory)
    (s : Storage) (hopen : s.isOpen = true) (hcleared : cleared previous m s = (m, s)) :
    ∃ objects wired' m' s', JsonCreated m s profiles objects m' s' ∧
      Grown previous s.table profiles s'.table ∧
      Routine.exec Storage.handle (createAll (createFromJson previous) profiles pending wired) m s =
        (.ok (List.range' (s.table.sequence + 1) profiles.length, wired'), m', s') := by
  induction profiles generalizing pending wired m s with
  | nil =>
      exact ⟨[], wired, m, s, ⟨hopen, rfl, by simp, by simp, rfl, rfl, rfl, rfl⟩, Grown.refl _, rfl⟩
  | cons profile profiles ih =>
      let object := createdObject s.table (copyStats previous profile)
      let m1 : JsonMemory := { m with objects := m.objects ++ [object] }
      let s1 : Storage := s.setTable (s.table.insert object)
      have hcreate : Routine.exec Storage.handle (createFromJson previous profile) m s =
          (.ok (s.table.sequence + 1), m1, s1) := by
        rw [exec_createFromJson _ _ _ _ hopen, hcleared]
        rfl
      have hcleared1 : cleared previous m1 s1 = (m1, s1) := by
        unfold cleared at hcleared ⊢
        split at hcleared
        · rename_i hpending
          have henv : ({ cleared := true } : JsonState) = m.env :=
            congrArg (fun state => state.1.env) hcleared
          simp [← henv] at hpending
        · rename_i hdone
          rw [if_neg hdone]
      obtain ⟨objects, wired', m', s', hcreated, hgrown, hexec⟩ := ih (pending.remove profile)
        ((pending.get? profile).elim wired fun fallback => wired.put (s.table.sequence + 1) fallback)
        m1 s1 hopen hcleared1
      refine ⟨object :: objects, wired', m', s', ?_, (Grown.create s.table profile).trans hgrown, ?_⟩
      · have hlength : s'.table.sequence = s.table.sequence + 1 + profiles.length := hcreated.sequence
        refine {
          isOpen := hcreated.isOpen, env := hcreated.env, memory := ?memory, rows := ?rows
          sequence := ?sequence, ids := ?ids, endpoints := ?endpoints, udpFallbacks := ?udpFallbacks }
        case memory =>
          rw [hcreated.memory]
          simp [m1]
        case rows =>
          have hinserted : s1.table.rows = s.table.rows ++ [object.toRow] := rfl
          rw [hcreated.rows, hinserted]
          simp
        case sequence =>
          rw [hlength, List.length_cons]
          omega
        case ids =>
          have hids : objects.map Profile.id = List.range' (s.table.sequence + 1 + 1) profiles.length :=
            hcreated.ids
          rw [List.map_cons, hids, List.length_cons, List.range'_succ]
          rfl
        case endpoints =>
          rw [List.map_cons, List.map_cons, hcreated.endpoints]
          exact congrArg (· :: _) (copyStats_endpoint previous profile)
        case udpFallbacks =>
          rw [List.map_cons, List.map_cons, hcreated.udpFallbacks]
          exact congrArg (· :: _) (copyStats_udpFallback previous profile)
      · simp only [createAll, Routine.exec_bind, hcreate, hexec, Routine.exec_pure, List.length_cons,
          List.range'_succ]
        rfl

/-- Every row is still there, at the same endpoint. -/
def Settled (table later : ProfileTable) : Prop :=
  ∀ id row, table.find? id = some row →
    ∃ row', later.find? id = some row' ∧ row'.endpoint = row.endpoint

theorem Settled.refl (table : ProfileTable) : Settled table table := fun _ row h => ⟨row, h, rfl⟩

theorem Settled.trans {table later latest : ProfileTable} (h : Settled table later)
    (h' : Settled later latest) : Settled table latest := by
  intro id row hrow
  obtain ⟨row', hrow', hendpoint⟩ := h id row hrow
  obtain ⟨row'', hrow'', hendpoint'⟩ := h' id row' hrow'
  exact ⟨row'', hrow'', hendpoint'.trans hendpoint⟩

theorem Settled.insert (table : ProfileTable) (profile : Profile) :
    Settled table (table.insert profile) := by
  intro id row hrow
  have hbound := (table.ids row ((table.find?_eq_some_iff id row).mp hrow).1).2
  have hid := ((table.find?_eq_some_iff id row).mp hrow).2
  refine ⟨row, ?_, rfl⟩
  rw [table.find?_insert_of_ne profile (by omega)]
  exact hrow

theorem Settled.update {table : ProfileTable} {profile row : Profile}
    (hrow : table.find? profile.id = some row) (hendpoint : profile.endpoint = row.endpoint) :
    Settled table (table.update profile) := by
  intro id old hold
  rw [table.find?_update_stored hrow]
  split
  · rename_i heq
    rw [heq, hrow] at hold
    cases hold
    exact ⟨profile.toRow, rfl, hendpoint⟩
  · exact ⟨old, hold, rfl⟩

/-- What `finalize` makes of a fallback, given the table it has queried. -/
def Resolved (queried : ProfileTable) (fallback : Profile) (target : Nat) (table : ProfileTable) :
    Prop :=
  match queried.rows.find? fallback.serves with
  | some found => target = found.id
  | none => queried.sequence < target ∧
      ∃ row, table.find? target = some row ∧ row.endpoint = fallback.endpoint

theorem Resolved.mono {queried table later : ProfileTable} {fallback : Profile} {target : Nat}
    (h : Resolved queried fallback target table) (hsettled : Settled table later) :
    Resolved queried fallback target later := by
  unfold Resolved at h ⊢
  split at h
  · exact h
  · obtain ⟨hfresh, row, hrow, hendpoint⟩ := h
    obtain ⟨row', hrow', hendpoint'⟩ := hsettled target row hrow
    exact ⟨hfresh, row', hrow', hendpoint'.trans hendpoint⟩

/-- The state of `finalize` after the entries in `done`. -/
structure JsonWiring (previous : Option (List Profile)) (queried : ProfileTable) (ids : List Nat)
    (done : List (Nat × Profile)) (m : JsonMemory) (s : Storage) : Prop where
  isOpen : s.isOpen = true
  cleared : (previous.isSome && !m.env.cleared) = false
  sequence : queried.sequence ≤ s.table.sequence
  stored : ∀ object ∈ m.objects, s.table.find? object.id = some object.toRow
  known : ∀ id ∈ ids, (m.object? id).isSome
  settled : Settled queried s.table
  untouched : ∀ id ≤ queried.sequence, id ∉ done.map Prod.fst →
    s.table.find? id = queried.find? id
  wired : ∀ entry ∈ done, ∃ row target, s.table.find? entry.1 = some row ∧
    row.udpFallback = some target ∧ Resolved queried entry.2 target s.table

namespace JsonWiring

variable {previous : Option (List Profile)} {queried : ProfileTable} {ids : List Nat}
  {done : List (Nat × Profile)} {m : JsonMemory} {s : Storage}

/-- A fallback that nothing serves gets a row of its own. -/
theorem create (h : JsonWiring previous queried ids done m s) (profile : Profile) :
    JsonWiring previous queried ids done
      { m with objects := m.objects ++ [createdObject s.table profile] }
      (s.setTable (s.table.insert (createdObject s.table profile))) := by
  have hsettled := Settled.insert s.table (createdObject s.table profile)
  have hsequence := h.sequence
  refine { h with
    sequence := ?sequence, stored := ?stored, known := ?known, settled := h.settled.trans hsettled
    untouched := ?untouched, wired := ?wired }
  case sequence =>
    change queried.sequence ≤ s.table.sequence + 1
    omega
  case stored =>
    intro object hobject
    rcases List.mem_append.mp hobject with hmem | hmem
    · have hrow := h.stored object hmem
      have hold := (s.table.find?_eq_some_iff object.id object.toRow).mp hrow
      have hbound := (s.table.ids _ hold.1).2
      change object.id ≤ s.table.sequence at hbound
      change (s.table.insert _).find? object.id = _
      rw [s.table.find?_insert_of_ne _ (by omega)]
      exact hrow
    · rw [List.mem_singleton.mp hmem]
      exact s.table.find?_inserted _
  case known =>
    intro id hid
    have hsome := h.known id hid
    rw [Memory.object?, List.find?_append, Option.isSome_or]
    rw [Memory.object?] at hsome
    simp [hsome]
  case untouched =>
    intro id hbound hnot
    change (s.table.insert _).find? id = _
    rw [s.table.find?_insert_of_ne _ (by omega)]
    exact h.untouched id hbound hnot
  case wired =>
    intro entry hentry
    obtain ⟨row, target, hrow, htarget, hresolved⟩ := h.wired entry hentry
    have hold := (s.table.find?_eq_some_iff entry.1 row).mp hrow
    have hbound := (s.table.ids row hold.1).2
    refine ⟨row, target, ?_, htarget, hresolved.mono hsettled⟩
    change (s.table.insert _).find? entry.1 = _
    rw [s.table.find?_insert_of_ne _ (by omega)]
    exact hrow

/-- One more entry is wired. -/
theorem set (h : JsonWiring previous queried ids done m s) {id target : Nat} {fallback object : Profile}
    (hobject : m.object? id = some object) (hnew : id ∉ done.map Prod.fst)
    (hresolved : Resolved queried fallback target s.table) :
    JsonWiring previous queried ids (done ++ [(id, fallback)])
      (m.updateObject id (Profile.wireTo target))
      (s.setTable (s.table.update (object.wireTo target))) := by
  obtain ⟨hmem, hid⟩ := object?_eq_some hobject
  have hrow : s.table.find? (object.wireTo target).id = some object.toRow := h.stored object hmem
  have hsettled := Settled.update hrow rfl
  have hself : (s.table.update (object.wireTo target)).find? id =
      some (object.wireTo target).toRow := by
    rw [s.table.find?_update_stored hrow]
    exact if_pos hid.symm
  have hother {other : Nat} (hne : other ≠ id) :
      (s.table.update (object.wireTo target)).find? other = s.table.find? other := by
    rw [s.table.find?_update_stored hrow]
    exact if_neg fun heq => hne (heq.trans hid)
  refine ⟨h.isOpen, h.cleared, h.sequence, ?_, ?_, h.settled.trans hsettled, ?_, ?_⟩
  · intro changed hchanged
    obtain ⟨old, hold, rfl⟩ := List.mem_map.mp hchanged
    change (s.table.update (object.wireTo target)).find? _ = _
    have hstored := h.stored old hold
    split
    · rename_i heq
      have hsame : old.toRow = object.toRow := by
        rw [heq, ← hid, show object.id = (object.wireTo target).id from rfl, hrow] at hstored
        exact (Option.some.inj hstored).symm
      rw [show (old.wireTo target).id = old.id from rfl, heq, hself]
      exact congrArg (fun row => some (Profile.wireTo target row)) hsame.symm
    · rename_i hne
      rw [hother hne]
      exact hstored
  · intro other hknown
    rw [object?_updateObject m id other (Profile.wireTo target) (fun _ => rfl), Option.isSome_map]
    exact h.known other hknown
  · intro other hbound hnot
    simp only [List.map_append, List.map_cons, List.map_nil, List.mem_append, List.mem_singleton,
      not_or] at hnot
    change (s.table.update (object.wireTo target)).find? other = _
    rw [hother hnot.2]
    exact h.untouched other hbound hnot.1
  · intro entry hentry
    rcases List.mem_append.mp hentry with hdone | hlast
    · obtain ⟨row, found, hfound, htarget, hresolved'⟩ := h.wired entry hdone
      have hne : entry.1 ≠ id := by
        intro heq
        exact hnew (heq ▸ List.mem_map_of_mem hdone)
      refine ⟨row, found, ?_, htarget, hresolved'.mono hsettled⟩
      change (s.table.update (object.wireTo target)).find? entry.1 = _
      rw [hother hne]
      exact hfound
    · rw [List.mem_singleton.mp hlast]
      exact ⟨_, target, hself, rfl, hresolved.mono hsettled⟩

/-- One entry of `finalize`. -/
theorem wire (h : JsonWiring previous queried ids done m s) {id : Nat} {fallback : Profile}
    (hid : id ∈ ids) (hnew : id ∉ done.map Prod.fst) :
    ∃ m' s' created, JsonWiring previous queried ids (done ++ [(id, fallback)]) m' s' ∧
      Grown previous s.table created s'.table ∧ created ⊆ [fallback] ∧
      Routine.exec Storage.handle
        (Database.wire (createFromJson previous) queried.rows (id, fallback)) m s =
          (.ok (), m', s') := by
  have hset {m : JsonMemory} {s : Storage} (h : JsonWiring previous queried ids done m s)
      (target : Nat) (hresolved : Resolved queried fallback target s.table) :
      ∃ m' s', JsonWiring previous queried ids (done ++ [(id, fallback)]) m' s' ∧
        Grown previous s.table [] s'.table ∧
        Routine.exec Storage.handle (setUdpFallback id target : Code JsonMemory Unit) m s =
          (.ok (), m', s') := by
    obtain ⟨object, hobject⟩ := Option.isSome_iff_exists.mp (h.known id hid)
    have hstored := h.stored object (object?_eq_some hobject).1
    have hrow : (s.table.find? id).isSome := by
      rw [← (object?_eq_some hobject).2, hstored]
      rfl
    exact ⟨_, _, h.set hobject hnew hresolved, Grown.wire hstored target,
      exec_setUdpFallback target h.isOpen hobject hrow⟩
  simp only [Database.wire, resolve, Routine.exec_bind]
  cases hfound : queried.rows.find? fallback.serves with
  | some found =>
      obtain ⟨m', s', hwiring, hgrown, hexec⟩ := hset h found.id (by simp [Resolved, hfound])
      exact ⟨m', s', [], hwiring, hgrown, by simp, by simp [hexec]⟩
  | none =>
      have hcleared : Database.cleared previous m s = (m, s) := by
        simp [Database.cleared, h.cleared]
      let object := createdObject s.table (copyStats previous fallback)
      have hresolved : Resolved queried fallback (s.table.sequence + 1) (s.table.insert object) := by
        have hsequence := h.sequence
        simp only [Resolved, hfound]
        refine ⟨by omega, object.toRow, s.table.find?_inserted object, ?_⟩
        exact copyStats_endpoint previous fallback
      obtain ⟨m', s', hwiring, hgrown, hexec⟩ :=
        hset (h.create (copyStats previous fallback)) _ hresolved
      refine ⟨m', s', [fallback], hwiring, (Grown.create s.table fallback).trans hgrown,
        List.Subset.refl _, ?_⟩
      simp only [exec_createFromJson _ _ _ _ h.isOpen, hcleared, JsonMemory.createIn]
      exact hexec

/-- The loop of `finalize`. -/
theorem wireAll (h : JsonWiring previous queried ids done m s) (rest : List (Nat × Profile))
    (hids : ∀ entry ∈ rest, entry.1 ∈ ids) (hnodup : ((done ++ rest).map Prod.fst).Nodup) :
    ∃ m' s' created, JsonWiring previous queried ids (done ++ rest) m' s' ∧
      Grown previous s.table created s'.table ∧ created ⊆ rest.map Prod.snd ∧
      Routine.exec Storage.handle
        (Routine.forEach rest (Database.wire (createFromJson previous) queried.rows)) m s =
          (.ok (), m', s') := by
  induction rest generalizing done m s with
  | nil => exact ⟨m, s, [], by simpa using h, Grown.refl _, by simp, rfl⟩
  | cons entry rest ih =>
      have hnew : entry.1 ∉ done.map Prod.fst := by
        intro hmem
        rw [List.map_append, List.nodup_append] at hnodup
        exact hnodup.2.2 entry.1 hmem entry.1 (by simp) rfl
      obtain ⟨m1, s1, first, hwired, hgrown, hfirst, hexec⟩ := h.wire (hids entry (by simp)) hnew
      have happend : done ++ entry :: rest = done ++ [entry] ++ rest := by simp
      rw [happend] at hnodup ⊢
      obtain ⟨m', s', created, hall, hgrownAll, hcreated, hexecAll⟩ := ih hwired
        (fun other hother => hids other (List.mem_cons_of_mem _ hother)) hnodup
      refine ⟨m', s', first ++ created, hall, hgrown.trans hgrownAll, ?_, ?_⟩
      · intro profile hprofile
        rcases List.mem_append.mp hprofile with hmem | hmem
        · exact List.mem_cons.mpr (Or.inl (List.mem_singleton.mp (hfirst hmem)))
        · exact List.mem_cons_of_mem _ (hcreated hmem)
      rw [Routine.exec_forEach_cons, hexec]
      exact hexecAll

end JsonWiring

/-- The rows that are there when the first profile of a document is created. -/
def baseRows (previous : Option (List Profile)) (env : JsonState) (s : Storage) : List Profile :=
  if previous.isSome && !env.cleared then [] else s.table.rows

/-- The ids of the profiles of a document. -/
def createdIds (s : Storage) (servers : List Server) : List Nat :=
  List.range' (s.table.sequence + 1) servers.length

/-- What a document has become: its objects, the table that `finalize` queried
and the entries that `finalize` wired. -/
structure JsonImported (previous : Option (List Profile)) (env : JsonState) (s : Storage)
    (servers : List Server) (objects : List Profile) (queried : ProfileTable) (m' : JsonMemory)
    (s' : Storage) : Prop where
  wiring : JsonWiring previous queried (createdIds s servers)
    (wiring ((createdIds s servers).zip (servers.map Server.profile)) (fallbackMap servers)
      LinkedMap.empty).entries m' s'
  rows : queried.rows = baseRows previous env s ++ objects.map Profile.toRow
  sequence : queried.sequence = s.table.sequence + servers.length
  ids : objects.map Profile.id = createdIds s servers
  endpoints : objects.map Profile.endpoint = (servers.map Server.profile).map Profile.endpoint
  udpFallbacks : objects.map Profile.udpFallback =
    (servers.map Server.profile).map Profile.udpFallback

/-- A document creates its profiles and perhaps some of their fallbacks. -/
theorem exec_parseJson_grown {order : HashOrder} {json : JsonElement} {feature : Option Profile}
    (previous : Option (List Profile)) (env : JsonState) {s : Storage} {servers : List Server}
    (hopen : s.isOpen = true) (hservers : process order feature json = .ok servers)
    (hsome : servers ≠ []) :
    ∃ objects queried m' s' fallbacks,
      JsonImported previous env s servers objects queried m' s' ∧
      Grown previous (cleared previous ⟨[], env⟩ s).2.table
        (servers.map Server.profile ++ fallbacks) s'.table ∧
      (∀ fallback ∈ fallbacks, ∃ server ∈ servers, server.fallback = some fallback) ∧
      Routine.exec Storage.handle (parseJson order json feature (createFromJson previous))
        ⟨[], env⟩ s = (.ok (createdIds s servers), m', s') := by
  let ids := createdIds s servers
  let m0 : JsonMemory := (cleared previous ⟨[], env⟩ s).1
  let s0 : Storage := (cleared previous ⟨[], env⟩ s).2
  have hopen0 : s0.isOpen = true := (cleared_isOpen previous ⟨[], env⟩ s).trans hopen
  have hsequence0 : s0.table.sequence = s.table.sequence := cleared_sequence previous ⟨[], env⟩ s
  have hrows0 : s0.table.rows = baseRows previous env s ∧ m0.objects = [] ∧
      (previous.isSome && !m0.env.cleared) = false := by
    simp only [m0, s0, cleared, baseRows]
    split
    · exact ⟨rfl, rfl, by simp⟩
    · rename_i hdone
      exact ⟨rfl, rfl, by simpa using hdone⟩
  have hprofiles : servers.map Server.profile ≠ [] := by simpa using hsome
  obtain ⟨objects, wired, m1, s1, hcreated, hgrown, hexec⟩ := exec_createAll_json previous
    (servers.map Server.profile) (fallbackMap servers) LinkedMap.empty m0 s0 hopen0
    (cleared_cleared previous ⟨[], env⟩ s)
  obtain ⟨-, hwiring⟩ := exec_createAll_wiring hexec
  rw [List.length_map, hsequence0] at hexec hwiring
  change wired = wiring (ids.zip (servers.map Server.profile)) _ _ at hwiring
  have hobjectIds : objects.map Profile.id = ids := by
    have hids := hcreated.ids
    rw [List.length_map, hsequence0] at hids
    exact hids
  have hmemory : m1.objects = objects := by
    rw [hcreated.memory, hrows0.2.1, List.nil_append]
  have hfind {object : Profile} (hobject : object ∈ objects) :
      s1.table.find? object.id = some object.toRow := by
    apply (s1.table.find?_eq_some_iff object.id object.toRow).mpr
    refine ⟨?_, rfl⟩
    rw [hcreated.rows]
    exact List.mem_append_right _ (List.mem_map_of_mem hobject)
  have hstart : JsonWiring previous s1.table ids [] m1 s1 := by
    refine ⟨hcreated.isOpen, ?_, Nat.le_refl _, ?_, ?_, Settled.refl _, fun _ _ _ => rfl, by simp⟩
    · rw [hcreated.env]
      exact hrows0.2.2
    · intro object hobject
      rw [hmemory] at hobject
      exact hfind hobject
    · intro id hid
      rw [← hobjectIds] at hid
      obtain ⟨object, hobject, rfl⟩ := List.mem_map.mp hid
      rw [Memory.object?, hmemory, List.find?_isSome]
      exact ⟨object, hobject, by simp⟩
  have hentries : ∀ entry ∈ wired.entries, entry.1 ∈ ids := by
    intro entry hentry
    have hkey : entry.1 ∈ wired.keys := List.mem_map_of_mem hentry
    rw [hwiring] at hkey
    rcases mem_keys_wiring hkey with hempty | hslot
    · simp at hempty
    · rw [List.map_fst_zip (by simp [ids, createdIds])] at hslot
      exact hslot
  obtain ⟨m', s', fallbacks, hwired, hgrownAll, hfallbacks, hexecAll⟩ :=
    hstart.wireAll wired.entries hentries wired.nodupKeys
  rw [hwiring] at hwired hexecAll hexec hfallbacks
  refine ⟨objects, s1.table, m', s', fallbacks, ⟨hwired, ?_, ?_, hobjectIds, hcreated.endpoints,
    hcreated.udpFallbacks⟩, hgrown.trans hgrownAll, ?_, ?_⟩
  · rw [hcreated.rows, hrows0.1]
  · rw [hcreated.sequence, hsequence0, List.length_map]
  · intro fallback hfallback
    obtain ⟨entry, hentry, rfl⟩ := List.mem_map.mp (hfallbacks hfallback)
    exact exists_server_of_wiring hentry
  · have hprocessed : Routine.exec Storage.handle
        (processed order feature json : Code JsonMemory (List Server)) ⟨[], env⟩ s =
          (.ok servers, ⟨[], env⟩, s) := by
      simp [processed, hservers]
    simp only [parseJson, Routine.exec_bind, hprocessed,
      exec_createAll_cleared _ _ _ _ _ _ hopen hprofiles, m0, s0] at hexec ⊢
    simp only [hexec, finalize, Routine.exec_bind, exec_getAllProfiles, hcreated.isOpen, if_true,
      hexecAll, Routine.exec_pure]
    rfl

theorem exec_parseJson_json {order : HashOrder} {json : JsonElement} {feature : Option Profile}
    (previous : Option (List Profile)) (env : JsonState) {s : Storage} {servers : List Server}
    (hopen : s.isOpen = true) (hservers : process order feature json = .ok servers)
    (hsome : servers ≠ []) :
    ∃ objects queried m' s', JsonImported previous env s servers objects queried m' s' ∧
      Routine.exec Storage.handle (parseJson order json feature (createFromJson previous))
        ⟨[], env⟩ s = (.ok (createdIds s servers), m', s') := by
  obtain ⟨objects, queried, m', s', -, himported, -, -, hexec⟩ :=
    exec_parseJson_grown previous env hopen hservers hsome
  exact ⟨objects, queried, m', s', himported, hexec⟩

/-- When the fallbacks of a document come out right, by its servers and the rows
that are there before: a server that equals an earlier one declares none, and
what will do as a fallback first is not the profile itself; if nothing will do,
the fallback has no plugin. -/
structure JsonWires (base : List Profile) (servers : List Server) : Prop where
  repeated : ∀ (i j : Nat) (server other : Server), i < j → servers[i]? = some server →
    servers[j]? = some other → other.profile = server.profile → other.fallback = none
  resolved : ∀ (i : Nat) (server : Server) (fallback : Profile), servers[i]? = some server →
    server.fallback = some fallback →
      match (base ++ servers.map Server.profile).findIdx? fallback.serves with
      | some position => position ≠ base.length + i
      | none => isNullOrEmpty fallback.plugin = true

namespace JsonImported

variable {previous : Option (List Profile)} {env : JsonState} {s s' : Storage}
  {servers : List Server} {objects : List Profile} {queried : ProfileTable} {m' : JsonMemory}
  {i : Nat} {server : Server}

theorem createdIds_getElem? (hserver : servers[i]? = some server) :
    (createdIds s servers)[i]? = some (s.table.sequence + 1 + i) := by
  have hlt := (List.getElem?_eq_some_iff.mp hserver).1
  rw [createdIds, List.getElem?_range' hlt]
  simp

/-- The object and the row of a server. -/
theorem object_at (h : JsonImported previous env s servers objects queried m' s')
    (hserver : servers[i]? = some server) :
    ∃ object : Profile, object.id = s.table.sequence + 1 + i ∧
      object.endpoint = server.profile.endpoint ∧
      object.udpFallback = server.profile.udpFallback ∧
      queried.rows[(baseRows previous env s).length + i]? = some object.toRow ∧
      queried.find? (s.table.sequence + 1 + i) = some object.toRow := by
  have hids := congrArg (·[i]?) h.ids
  simp only [createdIds_getElem? hserver, List.getElem?_map, Option.map_eq_some_iff] at hids
  obtain ⟨object, hobject, hid⟩ := hids
  have hendpoint := congrArg (·[i]?) h.endpoints
  have hfallback := congrArg (·[i]?) h.udpFallbacks
  simp only [List.getElem?_map, hobject, hserver, Option.map_some, Option.some.injEq] at hendpoint hfallback
  have hrow : queried.rows[(baseRows previous env s).length + i]? = some object.toRow := by
    rw [h.rows, List.getElem?_append_right (Nat.le_add_right _ _), Nat.add_sub_cancel_left,
      List.getElem?_map, hobject, Option.map_some]
  refine ⟨object, hid, hendpoint, hfallback, hrow, ?_⟩
  apply (queried.find?_eq_some_iff _ _).mpr
  exact ⟨List.mem_of_getElem? hrow, hid⟩

/-- A server is wired to the last fallback declared for its profile, if it is
the first with this profile. -/
theorem mem_entries_iff (hserver : servers[i]? = some server) (fallback : Profile) :
    (s.table.sequence + 1 + i, fallback) ∈ (Database.wiring
        ((createdIds s servers).zip (servers.map Server.profile)) (fallbackMap servers)
          LinkedMap.empty).entries ↔
      (∀ (k : Nat) (other : Server), k < i → servers[k]? = some other →
        other.profile ≠ server.profile) ∧
        (declared servers server.profile).getLast? = some fallback := by
  have hlength : (createdIds s servers).length = (servers.map Server.profile).length := by
    simp [createdIds]
  have hnodup : (((createdIds s servers).zip (servers.map Server.profile)).map Prod.fst).Nodup := by
    rw [List.map_fst_zip (Nat.le_of_eq hlength)]
    exact List.nodup_range'
  have hzip {k : Nat} {other : Server} (hother : servers[k]? = some other) :
      ((createdIds s servers).zip (servers.map Server.profile))[k]? =
        some (s.table.sequence + 1 + k, other.profile) := by
    apply List.getElem?_zip_eq_some.mpr
    exact ⟨createdIds_getElem? hother, by simp [hother]⟩
  rw [mem_wiring_iff _ _ _ hnodup (by simp)]
  simp only [LinkedMap.empty, List.not_mem_nil, false_or, fallbackMap_get?]
  constructor
  · rintro ⟨before, profile, after, hsplit, hfirst, hdeclared⟩
    have hat : ((createdIds s servers).zip (servers.map Server.profile))[before.length]? =
        some (s.table.sequence + 1 + i, profile) := by
      simp [hsplit]
    have hlt : before.length < servers.length := by
      have hbound := (List.getElem?_eq_some_iff.mp hat).1
      rw [List.length_zip] at hbound
      simp only [List.length_map] at hbound
      omega
    have hposition : before.length = i := by
      have hthere := hzip (List.getElem?_eq_getElem hlt)
      rw [hat, Option.some.injEq, Prod.mk.injEq] at hthere
      omega
    rw [hposition, hzip hserver, Option.some.injEq, Prod.mk.injEq] at hat
    rw [← hat.2] at hfirst hdeclared
    refine ⟨?_, hdeclared⟩
    intro k other hk hother heq
    have hbefore : before[k]? = some (s.table.sequence + 1 + k, other.profile) := by
      rw [← hzip hother, hsplit, List.getElem?_append_left (by omega)]
    apply hfirst
    rw [← heq]
    exact List.mem_map_of_mem (f := Prod.snd) (List.mem_of_getElem? hbefore)
  · rintro ⟨hfirst, hdeclared⟩
    obtain ⟨hlt, hget⟩ := List.getElem?_eq_some_iff.mp (hzip hserver)
    refine ⟨((createdIds s servers).zip (servers.map Server.profile)).take i, server.profile,
      ((createdIds s servers).zip (servers.map Server.profile)).drop (i + 1), ?_, ?_, hdeclared⟩
    · rw [← hget, List.getElem_cons_drop, List.take_append_drop]
    · intro hmem
      obtain ⟨pair, hpair, hprofile⟩ := List.mem_map.mp hmem
      obtain ⟨k, hk, hkget⟩ := List.mem_iff_getElem.mp hpair
      rw [List.length_take] at hk
      have hkservers : k < servers.length := by
        have hbound := (List.getElem?_eq_some_iff.mp hserver).1
        omega
      have hkzip := hzip (List.getElem?_eq_getElem hkservers)
      rw [List.getElem_take] at hkget
      rw [List.getElem?_eq_getElem (by omega), hkget, Option.some.injEq] at hkzip
      apply hfirst k servers[k] (by omega) (List.getElem?_eq_getElem hkservers)
      rw [← hprofile, hkzip]

/-- The search of `finalize`, by position. -/
theorem find?_queried (h : JsonImported previous env s servers objects queried m' s')
    (fallback : Profile) :
    queried.rows.find? fallback.serves =
      ((baseRows previous env s ++ servers.map Server.profile).findIdx? fallback.serves).bind
        (queried.rows[·]?) := by
  have hendpoints : queried.rows.map Profile.endpoint =
      (baseRows previous env s ++ servers.map Server.profile).map Profile.endpoint := by
    rw [h.rows, List.map_append, List.map_append, ← h.endpoints, List.map_map]
    rfl
  rw [List.find?_eq_bind_findIdx?_getElem?, findIdx?_serves_congr fallback hendpoints]

/-- What the target of a fallback is like, by position. -/
theorem target_iff (h : JsonImported previous env s servers objects queried m' s')
    (hserver : servers[i]? = some server) {fallback : Profile} {target : Nat}
    (hresolved : Resolved queried fallback target s'.table) :
    (target ≠ s.table.sequence + 1 + i ∧ ∃ row, s'.table.find? target = some row ∧
      fallback.serves row = true) ↔
      match (baseRows previous env s ++ servers.map Server.profile).findIdx? fallback.serves with
      | some position => position ≠ (baseRows previous env s).length + i
      | none => isNullOrEmpty fallback.plugin = true := by
  have hfind := h.find?_queried fallback
  unfold Resolved at hresolved
  cases hposition : (baseRows previous env s ++ servers.map Server.profile).findIdx?
      fallback.serves with
  | none =>
      rw [hposition, Option.bind_none] at hfind
      rw [hfind] at hresolved
      obtain ⟨hfresh, row, hrow, hendpoint⟩ := hresolved
      have hlt := (List.getElem?_eq_some_iff.mp hserver).1
      have hsequence := h.sequence
      simp only [hrow, Option.some.injEq, exists_eq_left', fallback.serves_self hendpoint]
      constructor
      · exact fun hright => hright.2
      · exact fun hplugin => ⟨by omega, hplugin⟩
  | some position =>
      have hlt : position < queried.rows.length := by
        have hbound := (List.findIdx?_eq_some_iff_getElem.mp hposition).1
        have hlength := congrArg List.length h.endpoints
        rw [h.rows]
        simp only [List.length_append, List.length_map] at hbound hlength ⊢
        omega
      obtain ⟨found, hat⟩ : ∃ found, queried.rows[position]? = some found :=
        ⟨_, List.getElem?_eq_getElem hlt⟩
      rw [hposition, Option.bind_some, hat] at hfind
      rw [hfind] at hresolved
      have hmem : found ∈ queried.rows := List.mem_of_getElem? hat
      have hrow : queried.find? target = some found := by
        apply (queried.find?_eq_some_iff _ _).mpr
        exact ⟨hmem, hresolved.symm⟩
      obtain ⟨row, hrow', hendpoint⟩ := h.wiring.settled target _ hrow
      have hserves : fallback.serves row = true := by
        rw [fallback.serves_congr hendpoint]
        exact List.find?_some hfind
      obtain ⟨object, hid, -, -, hown, -⟩ := h.object_at hserver
      have hsame : target = s.table.sequence + 1 + i ↔
          position = (baseRows previous env s).length + i := by
        constructor
        · intro heq
          have hrows : object.toRow = found := by
            apply queried.eq_of_id_eq (List.mem_of_getElem? hown) hmem
            rw [← hresolved, heq]
            exact hid
          apply (List.getElem?_inj hlt (queried.nodup_ids.of_map)).mp
          rw [hat, hown, hrows]
        · intro heq
          rw [heq, hown, Option.some.injEq] at hat
          rw [hresolved, ← hat]
          exact hid
      simp only [hrow', Option.some.injEq, exists_eq_left', hserves, and_true, ne_eq, hsame]

/-- Without an entry the row of a server points nowhere. -/
theorem bare (h : JsonImported previous env s servers objects queried m' s')
    (hserver : servers[i]? = some server) (hfresh : server.profile.udpFallback = none)
    (hnone : ∀ fallback, (s.table.sequence + 1 + i, fallback) ∉ (Database.wiring
      ((createdIds s servers).zip (servers.map Server.profile)) (fallbackMap servers)
        LinkedMap.empty).entries) :
    ∃ row, s'.table.find? (s.table.sequence + 1 + i) = some row ∧ row.udpFallback = none := by
  obtain ⟨object, hid, -, hudpFallback, -, hrow⟩ := h.object_at hserver
  have hlt := (List.getElem?_eq_some_iff.mp hserver).1
  have hsequence := h.sequence
  refine ⟨object.toRow, ?_, hudpFallback.trans hfresh⟩
  rw [h.wiring.untouched _ (by omega) ?_]
  · exact hrow
  · intro hmem
    obtain ⟨entry, hentry, hkey⟩ := List.mem_map.mp hmem
    exact hnone entry.2 (by rw [← hkey]; exact hentry)

/-- If every server with a fallback points somewhere, none of them equals an
earlier one. -/
theorem repeated_of_pointers (h : JsonImported previous env s servers objects queried m' s')
    (hfresh : ∀ server ∈ servers, server.profile.udpFallback = none)
    (hpoints : ∀ (j : Nat) (other : Server) (fallback : Profile), servers[j]? = some other →
      other.fallback = some fallback → ∃ row target,
        s'.table.find? (s.table.sequence + 1 + j) = some row ∧ row.udpFallback = some target) :
    ∀ (i j : Nat) (server other : Server), i < j → servers[i]? = some server →
      servers[j]? = some other → other.profile = server.profile → other.fallback = none := by
  intro i j server other hij hserver hother hsame
  cases hfallback : other.fallback with
  | none => rfl
  | some fallback =>
      obtain ⟨row, target, hrow, htarget⟩ := hpoints j other fallback hother hfallback
      obtain ⟨row', hrow', hnone⟩ := h.bare hother (hfresh other (List.mem_of_getElem? hother)) (by
        intro fallback hentry
        exact ((mem_entries_iff hother fallback).mp hentry).1 i server hij hserver hsame.symm)
      rw [hrow, Option.some.injEq] at hrow'
      rw [hrow', hnone] at htarget
      cases htarget

section Repeated

variable (hrepeated : ∀ (i j : Nat) (server other : Server), i < j → servers[i]? = some server →
  servers[j]? = some other → other.profile = server.profile → other.fallback = none)

include hrepeated

theorem first_of_fallback (hserver : servers[i]? = some server) {fallback : Profile}
    (hfallback : server.fallback = some fallback) : ∀ (k : Nat) (other : Server), k < i →
      servers[k]? = some other → other.profile ≠ server.profile := by
  intro k other hk hother hsame
  have hnone := hrepeated k i other server hk hother hserver hsame.symm
  rw [hfallback] at hnone
  cases hnone

/-- A fallback that is declared once is filed for its server. -/
theorem mem_entries_of_fallback (hserver : servers[i]? = some server) {fallback : Profile}
    (hfallback : server.fallback = some fallback) :
    (s.table.sequence + 1 + i, fallback) ∈ (Database.wiring
      ((createdIds s servers).zip (servers.map Server.profile)) (fallbackMap servers)
        LinkedMap.empty).entries := by
  have hfirst := first_of_fallback hrepeated hserver hfallback
  apply (mem_entries_iff hserver fallback).mpr
  refine ⟨hfirst, ?_⟩
  rw [declared_of_once hserver hfirst
    (fun k other hk hother => hrepeated i k server other hk hserver hother), hfallback]
  rfl

end Repeated

theorem wiredRight_iff (h : JsonImported previous env s servers objects queried m' s')
    (hfresh : ∀ server ∈ servers, server.profile.udpFallback = none) :
    WiredRight servers (createdIds s servers) s'.table.find? s'.table ↔
      JsonWires (baseRows previous env s) servers := by
  constructor
  · intro hright
    have hrepeated := h.repeated_of_pointers hfresh (by
      intro j other fallback hother hfallback
      obtain ⟨row, hrow, hpoints⟩ := hright j other _ hother (createdIds_getElem? hother)
      simp only [hfallback] at hpoints
      obtain ⟨target, -, htarget, -⟩ := hpoints
      exact ⟨row, target, hrow, htarget⟩)
    refine ⟨hrepeated, ?_⟩
    intro i server fallback hserver hfallback
    obtain ⟨row, target, hrow, htarget, hresolved⟩ :=
      h.wiring.wired _ (mem_entries_of_fallback hrepeated hserver hfallback)
    apply (h.target_iff hserver hresolved).mp
    obtain ⟨row', hrow', hpoints⟩ := hright i server _ hserver (createdIds_getElem? hserver)
    rw [hrow] at hrow'
    cases hrow'
    simp only [hfallback, htarget, Option.some.injEq] at hpoints
    obtain ⟨target', found, rfl, hne, -, hfound, hserves⟩ := hpoints
    exact ⟨hne, found, hfound, hserves⟩
  · intro hwires i server id hserver hid
    rw [createdIds_getElem? hserver] at hid
    cases hid
    cases hfallback : server.fallback with
    | none =>
        obtain ⟨row, hrow, hnone⟩ := h.bare hserver (hfresh server (List.mem_of_getElem? hserver)) (by
          intro fallback hentry
          obtain ⟨hfirst, hdeclared⟩ := (mem_entries_iff hserver fallback).mp hentry
          rw [declared_of_once hserver hfirst (fun k other hk hother =>
            hwires.repeated i k server other hk hserver hother), hfallback] at hdeclared
          cases hdeclared)
        exact ⟨row, hrow, hnone⟩
    | some fallback =>
        obtain ⟨row, target, hrow, htarget, hresolved⟩ :=
          h.wiring.wired _ (mem_entries_of_fallback hwires.repeated hserver hfallback)
        obtain ⟨hne, found, hfound, hserves⟩ :=
          (h.target_iff hserver hresolved).mpr (hwires.resolved i server fallback hserver hfallback)
        exact ⟨row, hrow, target, found, htarget, hne, by simp [hfound], hfound, hserves⟩

end JsonImported

/-- A document imported by `createProfilesFromJson`. -/
theorem wiredRight_createFromJson_iff {order : HashOrder} {json : JsonElement}
    {feature : Option Profile} (previous : Option (List Profile)) (env : JsonState) {s : Storage}
    {servers : List Server} (hopen : s.isOpen = true)
    (hservers : process order feature json = .ok servers) :
    let run := Routine.exec Storage.handle
      (parseJson order json feature (createFromJson previous)) ⟨[], env⟩ s
    run.1 = .ok (createdIds s servers) ∧
      (WiredRight servers (createdIds s servers) run.2.2.table.find? run.2.2.table ↔
        JsonWires (baseRows previous env s) servers) := by
  intro run
  cases servers with
  | nil =>
      have hrun : run = (.ok [], ⟨[], env⟩, s) := by
        simp [run, parseJson, Routine.exec_bind, processed, hservers, createAll, finalize, hopen,
          LinkedMap.empty]
      rw [hrun]
      refine ⟨rfl, ?_⟩
      constructor
      · exact fun _ => ⟨by simp, by simp⟩
      · intro _ i server id hserver
        simp at hserver
  | cons server rest =>
      obtain ⟨objects, queried, m', s', himported, hexec⟩ :=
        exec_parseJson_json previous env hopen hservers (by simp)
      have hrun : run = (.ok (createdIds s (server :: rest)), m', s') := hexec
      rw [hrun]
      refine ⟨rfl, himported.wiredRight_iff ?_⟩
      intro other hother
      exact (process_fresh order feature hservers other hother).1.udpFallback

end WifiProject.Database
