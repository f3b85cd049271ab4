import WifiProject.Database.Storage

/-!
`ProfileManager` and `DirectBoot` over the shared storage. The UI listener of
`ProfileManager` and the configuration files that `DirectBoot.clean` also
deletes have no part in the tables and are left out.
-/

namespace WifiProject.Database

open Lib

/-- The exceptions that leave the modelled functions. `SQLiteCantOpenDatabase`
is the unchecked exception of a DAO call, `io` the checked one it is wrapped
into where the caller is meant to cope. -/
inductive Failure where
  | io
  | cantOpenDatabase
  | illegalState (message : String)
  | illegalArgument (message : String)
  | jsonParse (message : String)
  | noSuchElement (message : String)
  | nullPointer
  deriving DecidableEq, Repr

/-- Code with private memory `σ` over the shared storage. -/
abbrev Code (σ α : Type) := Routine StorageCall StorageCall.Result σ Failure α

section Code

variable {σ : Type}

/-! The storage calls at the types of their replies. -/

namespace Dao

def get (id : Nat) : Code σ (Option (Option Profile)) := Routine.perform (StorageCall.get id)

def listAll : Code σ (Option (List Profile)) := Routine.perform StorageCall.listAll

def nextOrder : Code σ (Option (Option Int)) := Routine.perform StorageCall.nextOrder

def create (profile : Profile) : Code σ (Option Nat) :=
  Routine.perform (StorageCall.create profile)

def update (profile : Profile) : Code σ (Option Nat) :=
  Routine.perform (StorageCall.update profile)

def delete (id : Nat) : Code σ (Option Nat) := Routine.perform (StorageCall.delete id)

def deleteAll : Code σ (Option Nat) := Routine.perform StorageCall.deleteAll

end Dao

namespace DataStore

def profileId : Code σ Nat := Routine.perform StorageCall.profileId

def directBootAware : Code σ Bool := Routine.perform StorageCall.directBootAware

def putProfileId (id : Nat) : Code σ Unit := Routine.perform (StorageCall.setProfileId id)

end DataStore

/-- `check(value) { message }`. -/
def check (value : Bool) (message : String) : Code σ Unit :=
  if value then pure () else throw (.illegalState message)

/-- The reply of a DAO call, or the exception of a database that is shut. -/
def opened {α : Type} (failure : Failure) : Option α → Code σ α
  | none => throw failure
  | some reply => pure reply

namespace ProfileManager

def getProfile (id : Nat) : Code σ (Option Profile) := do
  let reply ← Dao.get id
  opened .io reply

def getAllProfiles : Code σ (List Profile) := do
  let reply ← Dao.listAll
  opened .io reply

def updateProfile (profile : Profile) : Code σ Unit := do
  let reply ← Dao.update profile
  let count ← opened .cantOpenDatabase reply
  check (count == 1) "Check failed."

/-- Stores a new row and returns the profile as the object then is. -/
def createProfile (profile : Profile) : Code σ Profile := do
  let reply ← Dao.nextOrder
  let order ← opened .cantOpenDatabase reply
  let profile := { profile with id := 0, userOrder := order.getD 0 }
  let reply ← Dao.create profile
  let id ← opened .cantOpenDatabase reply
  pure { profile with id := id }

def expand (profile : Profile) : Code σ ExpandedProfile :=
  match profile.udpFallback with
  | none => pure ⟨profile, none⟩
  | some id => do
      let fallback ← getProfile id
      pure ⟨profile, fallback⟩

end ProfileManager

namespace DirectBoot

open ProfileManager

def getDeviceProfile : Code σ (Option ExpandedProfile) :=
  Routine.perform StorageCall.readDeviceFile

def clean : Code σ Unit :=
  Routine.perform StorageCall.deleteDeviceFile

/-- Opening the output stream, which empties the file, and writing the object. -/
def truncate : Code σ Unit :=
  Routine.perform StorageCall.truncateDeviceFile

def writeObject (expanded : ExpandedProfile) : Code σ Unit :=
  Routine.perform (StorageCall.writeDeviceFile expanded)

/-- `update(profile)`. The output stream truncates the file before `expand`
has looked up the fallback. -/
def update : Option Profile → Code σ Unit
  | none => clean
  | some profile => do
      truncate
      let expanded ← expand profile
      writeObject expanded

/-- `update()`, for the current profile. -/
def updateCurrent : Code σ Unit := do
  let id ← DataStore.profileId
  let profile ← getProfile id
  update profile

/-- One of the two profiles of the device file on its way into the database. -/
def flush (profile : Profile) : Code σ Unit :=
  if profile.dirty then updateProfile profile else pure ()

def flushTrafficStats : Code σ Unit := do
  let device ← getDeviceProfile
  Routine.forEach (device.elim [] ExpandedProfile.toList) flush
  updateCurrent

end DirectBoot

/-- `DataStore.profileId = id`, with the change listener that keeps the device
file on the current profile. -/
def setProfileId (id : Nat) : Code σ Unit := do
  DataStore.putProfileId id
  let aware ← DataStore.directBootAware
  if aware then DirectBoot.updateCurrent else pure ()

/-- `Core.activeProfileIds`. -/
def activeProfileIds : Code σ (List Nat) := do
  let id ← DataStore.profileId
  match ← ProfileManager.getProfile id with
  | none => pure []
  | some profile => pure (profile.id :: profile.udpFallback.toList)

/-- `Core.currentProfile`. -/
def currentProfile : Code σ (Option ExpandedProfile) := do
  let aware ← DataStore.directBootAware
  let device ← if aware then DirectBoot.getDeviceProfile else pure none
  match device with
  | some expanded => pure (some expanded)
  | none => do
      let id ← DataStore.profileId
      match ← ProfileManager.getProfile id with
      | none => pure none
      | some profile => do
          let expanded ← ProfileManager.expand profile
          pure (some expanded)

namespace ProfileManager

/-- The device file goes with the current profile or its fallback. -/
def delProfile (id : Nat) : Code σ Unit := do
  let reply ← Dao.delete id
  let count ← opened .cantOpenDatabase reply
  check (count == 1) "Check failed."
  let active ← activeProfileIds
  let aware ← DataStore.directBootAware
  if id ∈ active ∧ aware = true then DirectBoot.clean else pure ()

def clear : Code σ Unit := do
  let reply ← Dao.deleteAll
  let _ ← opened .cantOpenDatabase reply
  DirectBoot.clean

end ProfileManager

/-! What the building blocks do when they run alone. -/

open Storage (handle)

variable (m : σ) (s : Storage)

@[simp] theorem exec_check (value : Bool) (message : String) :
    Routine.exec handle (check value message : Code σ Unit) m s =
      (if value then .ok () else .error (.illegalState message), m, s) := by
  cases value <;> rfl

@[simp] theorem exec_opened {α : Type} (failure : Failure) (reply : Option α) :
    Routine.exec handle (opened failure reply : Code σ α) m s =
      (reply.elim (.error failure) .ok, m, s) := by
  cases reply <;> rfl

section Calls

@[simp] theorem exec_daoGet (id : Nat) : Routine.exec handle (Dao.get id : Code σ _) m s =
    (.ok (if s.isOpen then some (s.table.find? id) else none), m, s) := by
  change (Except.ok (s.onTable (s.table.find? id) s.table).1, m, (s.onTable (s.table.find? id) s.table).2) = _
  rw [Storage.onTable_table]

@[simp] theorem exec_daoListAll : Routine.exec handle (Dao.listAll : Code σ _) m s =
    (.ok (if s.isOpen then some s.table.rows else none), m, s) := by
  change (Except.ok (s.onTable s.table.rows s.table).1, m, (s.onTable s.table.rows s.table).2) = _
  rw [Storage.onTable_table]

@[simp] theorem exec_daoNextOrder : Routine.exec handle (Dao.nextOrder : Code σ _) m s =
    (.ok (if s.isOpen then some s.table.nextOrder else none), m, s) := by
  change (Except.ok (s.onTable s.table.nextOrder s.table).1, m, (s.onTable s.table.nextOrder s.table).2) = _
  rw [Storage.onTable_table]

@[simp] theorem exec_daoCreate (profile : Profile) :
    Routine.exec handle (Dao.create profile : Code σ _) m s =
      (.ok (s.onTable (s.table.sequence + 1) (s.table.insert profile)).1, m,
        (s.onTable (s.table.sequence + 1) (s.table.insert profile)).2) := rfl

@[simp] theorem exec_daoUpdate (profile : Profile) :
    Routine.exec handle (Dao.update profile : Code σ _) m s =
      (.ok (s.onTable (s.table.count profile.id) (s.table.update profile)).1, m,
        (s.onTable (s.table.count profile.id) (s.table.update profile)).2) := rfl

@[simp] theorem exec_daoDelete (id : Nat) :
    Routine.exec handle (Dao.delete id : Code σ _) m s =
      (.ok (s.onTable (s.table.count id) (s.table.delete id)).1, m,
        (s.onTable (s.table.count id) (s.table.delete id)).2) := rfl

@[simp] theorem exec_daoDeleteAll : Routine.exec handle (Dao.deleteAll : Code σ _) m s =
    (.ok (s.onTable s.table.rows.length s.table.deleteAll).1, m,
      (s.onTable s.table.rows.length s.table.deleteAll).2) := rfl

@[simp] theorem exec_profileId :
    Routine.exec handle (DataStore.profileId : Code σ _) m s = (.ok s.profileId, m, s) := rfl

@[simp] theorem exec_directBootAware :
    Routine.exec handle (DataStore.directBootAware : Code σ _) m s =
      (.ok s.directBootAware, m, s) := rfl

@[simp] theorem exec_putProfileId (id : Nat) :
    Routine.exec handle (DataStore.putProfileId id : Code σ _) m s =
      (.ok (), m, s.setProfileId id) := rfl

@[simp] theorem exec_getDeviceProfile :
    Routine.exec handle (DirectBoot.getDeviceProfile : Code σ _) m s =
      (.ok s.deviceFile.read, m, s) := rfl

@[simp] theorem exec_clean : Routine.exec handle (DirectBoot.clean : Code σ _) m s =
    (.ok (), m, s.setDeviceFile .absent) := rfl

@[simp] theorem exec_truncate : Routine.exec handle (DirectBoot.truncate : Code σ _) m s =
    (.ok (), m, s.setDeviceFile .truncated) := rfl

@[simp] theorem exec_writeObject (expanded : ExpandedProfile) :
    Routine.exec handle (DirectBoot.writeObject expanded : Code σ _) m s =
      (.ok (), m, s.setDeviceFile (.holds expanded)) := rfl

end Calls

@[simp] theorem exec_getProfile (id : Nat) :
    Routine.exec handle (ProfileManager.getProfile id : Code σ _) m s =
      (if s.isOpen then .ok (s.table.find? id) else .error .io, m, s) := by
  cases hopen : s.isOpen <;> simp [ProfileManager.getProfile, Routine.exec_bind, hopen]

@[simp] theorem exec_getAllProfiles :
    Routine.exec handle (ProfileManager.getAllProfiles : Code σ _) m s =
      (if s.isOpen then .ok s.table.rows else .error .io, m, s) := by
  cases hopen : s.isOpen <;> simp [ProfileManager.getAllProfiles, Routine.exec_bind, hopen]

/-- Updating an existing row of an open database. -/
theorem exec_updateProfile (profile : Profile) (hopen : s.isOpen = true)
    (hrow : (s.table.find? profile.id).isSome) :
    Routine.exec handle (ProfileManager.updateProfile profile : Code σ _) m s =
      (.ok (), m, s.setTable (s.table.update profile)) := by
  simp [ProfileManager.updateProfile, Routine.exec_bind, Storage.onTable, hopen,
    ProfileTable.count, hrow]

theorem exec_clear (hopen : s.isOpen = true) :
    Routine.exec handle (ProfileManager.clear : Code σ Unit) m s =
      (.ok (), m, (s.setTable s.table.deleteAll).setDeviceFile .absent) := by
  simp [ProfileManager.clear, Routine.exec_bind, Storage.onTable, hopen]

/-- The object of a profile that has just been created. -/
def createdObject (table : ProfileTable) (profile : Profile) : Profile :=
  { profile with id := table.sequence + 1, userOrder := table.nextOrder.getD 0 }

theorem exec_createProfile (profile : Profile) (hopen : s.isOpen = true) :
    Routine.exec handle (ProfileManager.createProfile profile : Code σ _) m s =
      (.ok (createdObject s.table profile), m,
        s.setTable (s.table.insert (createdObject s.table profile))) := by
  simp [ProfileManager.createProfile, Routine.exec_bind, Storage.onTable, hopen]
  exact ⟨rfl, rfl⟩

theorem exec_updateCurrent (hopen : s.isOpen = true) :
    ∃ file, Routine.exec handle (DirectBoot.updateCurrent : Code σ Unit) m s =
      (.ok (), m, s.setDeviceFile file) := by
  cases hcurrent : s.table.find? s.profileId with
  | none =>
      refine ⟨.absent, ?_⟩
      simp [DirectBoot.updateCurrent, Routine.exec_bind, hopen, hcurrent, DirectBoot.update]
  | some current =>
      cases hfallback : current.udpFallback with
      | none =>
          refine ⟨.holds ⟨current, none⟩, ?_⟩
          simp [DirectBoot.updateCurrent, Routine.exec_bind, hopen, hcurrent, DirectBoot.update,
            ProfileManager.expand, hfallback]
      | some id =>
          refine ⟨.holds ⟨current, s.table.find? id⟩, ?_⟩
          simp [DirectBoot.updateCurrent, Routine.exec_bind, hopen, hcurrent, DirectBoot.update,
            ProfileManager.expand, hfallback]

/-- Switching the current profile of an open database. -/
theorem exec_setProfileId (id : Nat) (hopen : s.isOpen = true) :
    ∃ file, Routine.exec handle (setProfileId id : Code σ Unit) m s =
      (.ok (), m, (s.setProfileId id).setDeviceFile file) := by
  obtain ⟨file, hfile⟩ := exec_updateCurrent m (s.setProfileId id) hopen
  cases haware : s.directBootAware with
  | true => exact ⟨file, by simp [setProfileId, Routine.exec_bind, haware, hfile]⟩
  | false =>
      refine ⟨s.deviceFile, ?_⟩
      simp [setProfileId, Routine.exec_bind, haware]
      rfl

section Keeps

variable {G : Type} {c : Prog.Contract StorageCall StorageCall.Result G} (g : G)

@[simp] theorem keeps_check_true (message : String) (post : Except Failure Unit → σ → G → Prop) :
    Routine.Keeps c (check true message) post m g ↔ post (.ok ()) m g := Iff.rfl

@[simp] theorem keeps_opened_some {α : Type} (failure : Failure) (reply : α)
    (post : Except Failure α → σ → G → Prop) :
    Routine.Keeps c (opened failure (some reply)) post m g ↔ post (.ok reply) m g := Iff.rfl

end Keeps

end Code

end WifiProject.Database
