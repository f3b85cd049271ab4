import WifiProject.Database.ProfileManager
import WifiProject.Lib.Runs

/-!
`Core.currentProfile` over runs of the calls that change profiles, on an unlocked
device. With direct boot it is read from the device file, a copy that the change
listener of `DataStore.profileId` makes of the current row and of its fallback.
-/

namespace WifiProject.Database

open Lib

section Code

variable {σ : Type}

/-- `Core.switchProfile`. -/
def switchProfile (id : Nat) : Code σ Profile := do
  let found ← ProfileManager.getProfile id
  let result ← found.elim (ProfileManager.createProfile {}) pure
  setProfileId result.id
  pure result

end Code

def DeviceFile.ofCopy : Option ExpandedProfile → DeviceFile
  | none => .absent
  | some expanded => .holds expanded

inductive ProfileCall where
  | switchProfile (id : Nat)
  | setProfileId (id : Nat)
  | createProfile (profile : Profile)
  | updateProfile (profile : Profile)
  | delProfile (id : Nat)
  | clear
  deriving DecidableEq, Repr

/-- The call chooses a profile, or leaves none. -/
def ProfileCall.Chooses : ProfileCall → Prop
  | .switchProfile _ | .setProfileId _ | .clear => True
  | _ => False

def ProfileCall.code : ProfileCall → Code Unit Unit
  | .switchProfile id => do
      let _ ← Database.switchProfile id
      pure ()
  | .setProfileId id => Database.setProfileId id
  | .createProfile profile => do
      let _ ← ProfileManager.createProfile profile
      pure ()
  | .updateProfile profile => ProfileManager.updateProfile profile
  | .delProfile id => ProfileManager.delProfile id
  | .clear => ProfileManager.clear

namespace Storage

/-- What a call leaves behind, whether it returns or throws. -/
def after (s : Storage) (call : ProfileCall) : Storage := (Routine.exec handle call.code () s).2.2

def run (s : Storage) (calls : List ProfileCall) : Storage := calls.foldl after s

/-- What `Core.currentProfile` answers. -/
def current (s : Storage) : Except Failure (Option ExpandedProfile) :=
  (Routine.exec handle (currentProfile : Code Unit _) () s).1

def expandRow (s : Storage) (row : Profile) : ExpandedProfile :=
  ⟨row, row.udpFallback.bind s.table.find?⟩

/-- The row of the current profile, with that of its fallback. -/
def chosen (s : Storage) : Option ExpandedProfile := (s.table.find? s.profileId).map s.expandRow

/-- The copy that is read instead. -/
def copied (s : Storage) : Option ExpandedProfile :=
  if s.directBootAware then s.deviceFile.read else none

/-- The ids of the current profile and of its fallback. -/
def activeIds (s : Storage) : List Nat :=
  s.profileId :: ((s.table.find? s.profileId).bind Profile.udpFallback).toList

/-- The call changes a row that has been copied, and does not see to the copy.
A new row may get the id of a fallback that was never there. -/
def Overtakes (s : Storage) : ProfileCall → Prop
  | .updateProfile profile => profile.id ∈ s.activeIds
  | .delProfile id => id = s.profileId
  | .createProfile _ => s.table.sequence + 1 ∈ s.activeIds
  | _ => False

instance (s : Storage) (call : ProfileCall) : Decidable (s.Overtakes call) :=
  match call with
  | .updateProfile profile => inferInstanceAs (Decidable (profile.id ∈ s.activeIds))
  | .delProfile id => inferInstanceAs (Decidable (id = s.profileId))
  | .createProfile _ => inferInstanceAs (Decidable (s.table.sequence + 1 ∈ s.activeIds))
  | .switchProfile _ | .setProfileId _ | .clear => inferInstanceAs (Decidable False)

/-- The copy, if there is one, says what the rows say. -/
def Synced (s : Storage) : Prop := ∀ expanded ∈ s.copied, s.chosen = some expanded

variable (s : Storage)

theorem exec_updateCurrent_chosen {σ : Type} (m : σ) (hopen : s.isOpen = true) :
    Routine.exec handle (DirectBoot.updateCurrent : Code σ Unit) m s =
      (.ok (), m, s.setDeviceFile (DeviceFile.ofCopy s.chosen)) := by
  cases hcurrent : s.table.find? s.profileId with
  | none =>
      simp [DirectBoot.updateCurrent, Routine.exec_bind, hopen, hcurrent, DirectBoot.update,
        chosen, DeviceFile.ofCopy]
  | some current =>
      cases hfallback : current.udpFallback <;>
        simp [DirectBoot.updateCurrent, Routine.exec_bind, hopen, hcurrent, DirectBoot.update,
          ProfileManager.expand, hfallback, chosen, expandRow, DeviceFile.ofCopy]

theorem current_eq (hopen : s.isOpen = true) :
    s.current = .ok (s.copied.elim s.chosen some) := by
  unfold current copied chosen expandRow
  cases haware : s.directBootAware <;> cases hfile : s.deviceFile.read <;>
    cases hrow : s.table.find? s.profileId <;>
      simp [currentProfile, Routine.exec_bind, hopen, haware, hfile, hrow]
  all_goals
    rename_i row
    cases hfallback : row.udpFallback <;>
      simp [ProfileManager.expand, hfallback, Routine.exec_bind, hopen]

/-! ## What each call leaves -/

/-- `setProfileId` and its change listener. -/
def chooses (id : Nat) : Storage :=
  if s.directBootAware then
    (s.setProfileId id).setDeviceFile (DeviceFile.ofCopy (s.setProfileId id).chosen)
  else s.setProfileId id

theorem exec_setProfileId_chosen {σ : Type} (m : σ) (id : Nat) (hopen : s.isOpen = true) :
    Routine.exec handle (Database.setProfileId id : Code σ Unit) m s =
      (.ok (), m, s.chooses id) := by
  have hcopy := (s.setProfileId id).exec_updateCurrent_chosen m hopen
  cases haware : s.directBootAware <;>
    simp [Database.setProfileId, Routine.exec_bind, haware, hcopy, chooses]

theorem after_setProfileId (id : Nat) (hopen : s.isOpen = true) :
    s.after (.setProfileId id) = s.chooses id := by
  simp [after, ProfileCall.code, s.exec_setProfileId_chosen () id hopen]

theorem after_createProfile (profile : Profile) (hopen : s.isOpen = true) :
    s.after (.createProfile profile) =
      s.setTable (s.table.insert (createdObject s.table profile)) := by
  simp [after, ProfileCall.code, Routine.exec_bind, exec_createProfile () s profile hopen]

theorem after_updateProfile (profile : Profile) (hopen : s.isOpen = true) :
    s.after (.updateProfile profile) = s.setTable (s.table.update profile) := by
  simp [after, ProfileCall.code, ProfileManager.updateProfile, Routine.exec_bind, onTable, hopen]

theorem after_clear (hopen : s.isOpen = true) :
    s.after .clear = (s.setTable s.table.deleteAll).setDeviceFile .absent := by
  simp [after, ProfileCall.code, exec_clear () s hopen]

/-- What is looked for is the current profile that is left. -/
theorem after_delProfile (id : Nat) (hopen : s.isOpen = true) :
    s.after (.delProfile id) =
      let rest := s.setTable (s.table.delete id)
      if (s.table.find? id).isSome ∧ rest.chosen.isSome ∧ id ∈ rest.activeIds ∧
        s.directBootAware = true then rest.setDeviceFile .absent
      else rest := by
  cases hrow : s.table.find? id <;>
    cases hrest : (s.table.delete id).find? s.profileId <;>
      simp [after, ProfileCall.code, ProfileManager.delProfile, Routine.exec_bind, onTable, hopen,
        ProfileTable.count, hrow, Database.activeProfileIds, hrest, chosen, activeIds]
  rename_i row
  have hid : row.id = s.profileId := (((s.table.delete id).find?_eq_some_iff _ row).mp hrest).2
  rw [hid]
  split_ifs <;> simp

theorem after_switchProfile (id : Nat) (hopen : s.isOpen = true) :
    s.after (.switchProfile id) = s.chooses id ∨
    s.after (.switchProfile id) = (s.after (.createProfile {})).chooses (s.table.sequence + 1) := by
  cases hrow : s.table.find? id with
  | some row =>
      have hid : row.id = id := ((s.table.find?_eq_some_iff id row).mp hrow).2
      refine .inl ?_
      simp [after, ProfileCall.code, Database.switchProfile, Routine.exec_bind, hopen, hrow, hid,
        s.exec_setProfileId_chosen () id hopen]
  | none =>
      have hcreated := (s.setTable (s.table.insert (createdObject s.table {}))).exec_setProfileId_chosen
        () (s.table.sequence + 1) hopen
      refine .inr ?_
      rw [s.after_createProfile _ hopen]
      simp [after, ProfileCall.code, Database.switchProfile, Routine.exec_bind, hopen, hrow,
        exec_createProfile, createdObject] at hcreated ⊢
      rw [hcreated]

/-! ## The copy and the rows -/

variable {s}

theorem find?_delete_of_ne (table : ProfileTable) {id other : Nat} (h : other ≠ id) :
    (table.delete id).find? other = table.find? other := by
  apply Option.ext
  intro row
  rw [ProfileTable.find?_eq_some_iff, ProfileTable.find?_eq_some_iff, ProfileTable.mem_delete_iff]
  constructor
  · rintro ⟨⟨hmem, -⟩, hid⟩
    exact ⟨hmem, hid⟩
  · rintro ⟨hmem, hid⟩
    exact ⟨⟨hmem, hid ▸ h⟩, hid⟩

theorem find?_delete_self (table : ProfileTable) (id : Nat) : (table.delete id).find? id = none := by
  rw [Option.eq_none_iff_forall_not_mem]
  intro row hrow
  obtain ⟨hmem, hid⟩ := ((table.delete id).find?_eq_some_iff id row).mp hrow
  exact ((table.mem_delete_iff id row).mp hmem).2 hid

theorem find?_delete_of_none {table : ProfileTable} {id : Nat} (h : table.find? id = none)
    (other : Nat) : (table.delete id).find? other = table.find? other := by
  by_cases hother : other = id
  · rw [hother, find?_delete_self, h]
  · exact find?_delete_of_ne table hother

/-- What is chosen depends on the active rows only. -/
theorem chosen_setTable {table : ProfileTable}
    (h : ∀ id ∈ s.activeIds, table.find? id = s.table.find? id) :
    (s.setTable table).chosen = s.chosen := by
  have hmain := h s.profileId (List.mem_cons_self ..)
  unfold chosen
  rw [setTable_table, setTable_profileId, hmain]
  cases hrow : s.table.find? s.profileId with
  | none => rfl
  | some row =>
      cases hfallback : row.udpFallback with
      | none => simp [expandRow, hfallback]
      | some id =>
          have hrest := h id (by simp [activeIds, hrow, hfallback])
          simp [expandRow, hfallback, hrest]

theorem activeIds_delete {id : Nat} (h : s.profileId ≠ id) :
    (s.setTable (s.table.delete id)).activeIds = s.activeIds := by
  simp [activeIds, find?_delete_of_ne s.table h]

theorem chosen_delete {id : Nat} (h : s.profileId ≠ id) :
    (s.setTable (s.table.delete id)).chosen.isSome = s.chosen.isSome := by
  simp [chosen, find?_delete_of_ne s.table h]

/-- Only a row that is there has a fallback. -/
theorem isSome_chosen_of_mem {id : Nat} (h : id ∈ s.activeIds) (hmain : id ≠ s.profileId) :
    s.chosen.isSome = true := by
  cases hrow : s.table.find? s.profileId with
  | none => simp [activeIds, hrow, hmain] at h
  | some row => simp [chosen, hrow]

theorem Synced.setTable {table : ProfileTable} (h : s.Synced)
    (hsame : ∀ id ∈ s.activeIds, table.find? id = s.table.find? id) :
    (s.setTable table).Synced := by
  intro expanded hcopied
  rw [chosen_setTable hsame]
  exact h expanded hcopied

theorem synced_unaware (haware : s.directBootAware = false) : s.Synced := by
  intro expanded hcopied
  simp [copied, haware] at hcopied

theorem synced_absent : (s.setDeviceFile .absent).Synced := by
  intro expanded hcopied
  unfold copied at hcopied
  split at hcopied <;> cases hcopied

theorem synced_chooses (id : Nat) : (s.chooses id).Synced := by
  unfold chooses
  split
  · intro expanded hcopied
    rename_i haware
    have hchosen : (s.setProfileId id).chosen = some expanded := by
      cases hchosen : (s.setProfileId id).chosen <;>
        simp [copied, haware, hchosen, DeviceFile.ofCopy, DeviceFile.read] at hcopied ⊢
      exact hcopied
    exact hchosen
  · rename_i haware
    exact synced_unaware (Bool.eq_false_iff.mpr haware)

/-- A choice puts the copy right, whatever it was before. -/
theorem synced_of_chooses {call : ProfileCall} (h : call.Chooses) (hopen : s.isOpen = true) :
    (s.after call).Synced := by
  cases call with
  | switchProfile id =>
      rcases s.after_switchProfile id hopen with heq | heq <;> rw [heq] <;> exact synced_chooses _
  | setProfileId id =>
      rw [s.after_setProfileId id hopen]
      exact synced_chooses id
  | clear =>
      rw [s.after_clear hopen]
      exact synced_absent
  | createProfile | updateProfile | delProfile => exact h.elim

/-- The other calls keep it right, unless they overtake it. -/
theorem Synced.after (h : s.Synced) (hopen : s.isOpen = true) {call : ProfileCall}
    (hbehind : ¬ s.Overtakes call) : (s.after call).Synced := by
  cases call with
  | switchProfile | setProfileId | clear => exact synced_of_chooses trivial hopen
  | createProfile profile =>
      rw [s.after_createProfile profile hopen]
      refine h.setTable fun id hid => s.table.find?_insert_of_ne _ ?_
      rintro rfl
      exact hbehind hid
  | updateProfile profile =>
      rw [s.after_updateProfile profile hopen]
      refine h.setTable fun id hid => s.table.find?_update_of_ne profile ?_
      rintro rfl
      exact hbehind hid
  | delProfile id =>
      have hmain : s.profileId ≠ id := fun heq => hbehind heq.symm
      rw [s.after_delProfile id hopen]
      dsimp only
      split_ifs with hclean
      · exact synced_absent
      · rw [activeIds_delete hmain, chosen_delete hmain] at hclean
        by_cases hactive : id ∈ s.activeIds
        · cases hrow : s.table.find? id with
          | none => exact h.setTable fun other _ => find?_delete_of_none hrow other
          | some row =>
              refine synced_unaware ?_
              have hchosen := isSome_chosen_of_mem hactive hmain.symm
              simpa [hrow, hactive, hchosen] using hclean
        · refine h.setTable fun other hother => find?_delete_of_ne s.table ?_
          rintro rfl
          exact hactive hother

theorem isOpen_chooses (id : Nat) : (s.chooses id).isOpen = s.isOpen := by
  unfold chooses
  split <;> rfl

theorem isOpen_after (call : ProfileCall) (hopen : s.isOpen = true) :
    (s.after call).isOpen = true := by
  cases call with
  | switchProfile id =>
      rcases s.after_switchProfile id hopen with heq | heq <;> rw [heq, isOpen_chooses]
      · exact hopen
      · rw [s.after_createProfile _ hopen]
        exact hopen
  | setProfileId id =>
      rw [s.after_setProfileId id hopen, isOpen_chooses]
      exact hopen
  | createProfile profile =>
      rw [s.after_createProfile profile hopen]
      exact hopen
  | updateProfile profile =>
      rw [s.after_updateProfile profile hopen]
      exact hopen
  | delProfile id =>
      rw [s.after_delProfile id hopen]
      dsimp only
      split <;> exact hopen
  | clear =>
      rw [s.after_clear hopen]
      exact hopen

theorem isOpen_run (calls : List ProfileCall) (hopen : s.isOpen = true) :
    (s.run calls).isOpen = true := by
  induction calls generalizing s with
  | nil => exact hopen
  | cons call calls ih => exact ih (isOpen_after call hopen)

theorem Synced.current (h : s.Synced) (hopen : s.isOpen = true) : s.current = .ok s.chosen := by
  rw [s.current_eq hopen]
  cases hcopied : s.copied with
  | none => rfl
  | some expanded =>
      rw [h expanded hcopied]
      rfl

/-- `delProfile` looks for the current row when it is gone, and cleans nothing. -/
theorem deleted_stays (hopen : s.isOpen = true) {expanded : ExpandedProfile}
    (hcopied : expanded ∈ s.copied) :
    (s.after (.delProfile s.profileId)).current = .ok (some expanded) ∧
      (s.after (.delProfile s.profileId)).chosen = none := by
  have hgone : (s.setTable (s.table.delete s.profileId)).chosen = none := by
    simp [chosen, find?_delete_self]
  have hafter : s.after (.delProfile s.profileId) = s.setTable (s.table.delete s.profileId) := by
    rw [s.after_delProfile _ hopen]
    simp [hgone]
  rw [hafter]
  refine ⟨?_, hgone⟩
  rw [current_eq (s.setTable (s.table.delete s.profileId)) hopen]
  have hsame : (s.setTable (s.table.delete s.profileId)).copied = some expanded := hcopied
  rw [hsame]
  rfl

def bootAware : Storage where
  isOpen := true
  table := .empty
  profileId := 0
  directBootAware := true
  deviceFile := .absent

/-- From the last choice on, and as long as no call overtakes the copy, the
current profile is the row that is chosen, with its fallback, direct boot or
not. The deletion of that row overtakes the copy, if there is one: what was
deleted then stays the current profile. -/
theorem current_follows (s : Storage) (hopen : s.isOpen = true) (before rest : List ProfileCall)
    (choice : ProfileCall) (hchoice : choice.Chooses)
    (hrest : Along after (fun s call => ¬ s.Overtakes call) (s.run (before ++ [choice])) rest) :
    (s.run (before ++ choice :: rest)).current = .ok (s.run (before ++ choice :: rest)).chosen ∧
    ∀ expanded ∈ (s.run (before ++ choice :: rest)).copied,
      ((s.run (before ++ choice :: rest)).after
          (.delProfile (s.run (before ++ choice :: rest)).profileId)).current = .ok (some expanded) ∧
        ((s.run (before ++ choice :: rest)).after
          (.delProfile (s.run (before ++ choice :: rest)).profileId)).chosen = none := by
  have hsplit : s.run (before ++ choice :: rest) = (s.run (before ++ [choice])).run rest := by
    simp [run]
  have hfirst : (s.run (before ++ [choice])).isOpen = true ∧ (s.run (before ++ [choice])).Synced := by
    have hbefore := isOpen_run before hopen
    simp only [run, List.foldl_append, List.foldl_cons, List.foldl_nil]
    exact ⟨isOpen_after choice hbefore, synced_of_chooses hchoice hbefore⟩
  have hlast : (s.run (before ++ choice :: rest)).isOpen = true ∧
      (s.run (before ++ choice :: rest)).Synced := by
    rw [hsplit]
    refine hrest.induction (fun s => s.isOpen = true ∧ s.Synced) hfirst ?_
    rintro s call ⟨hopen, hsynced⟩ hbehind
    exact ⟨isOpen_after call hopen, hsynced.after hopen hbehind⟩
  exact ⟨hlast.2.current hlast.1, fun expanded => deleted_stays hlast.1⟩

/-- The second profile is created and deleted while the first one is current. -/
theorem current_follows_second_profile :
    ((bootAware.run [.createProfile {}, .switchProfile 1, .createProfile {}, .delProfile 2]).current =
      .ok (bootAware.run [.createProfile {}, .switchProfile 1, .createProfile {},
        .delProfile 2]).chosen) :=
  (current_follows bootAware rfl [.createProfile {}] [.createProfile {}, .delProfile 2]
    (.switchProfile 1) trivial (by decide)).1

end Storage

end WifiProject.Database
