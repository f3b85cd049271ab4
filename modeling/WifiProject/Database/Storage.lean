import Mathlib.Data.List.Nodup
import WifiProject.Database.Profile
import WifiProject.Lib.Routine

/-!
What the processes of the app share: the `Profile` table of the private
database, the current profile id and the direct-boot switch of the public
store, and the device file of `DirectBoot`. Every access is one atomic call.

The private database lives in credential-encrypted storage; before the first
unlock it cannot be opened, and every DAO call then answers `none`.
-/

namespace WifiProject.Database

open Lib

/-- The `Profile` table. Rows come back in row id order, ids are never reused
(`AUTOINCREMENT`), and the ignored column `dirty` is not stored. -/
structure ProfileTable where
  rows : List Profile
  sequence : Nat
  sorted : rows.Pairwise fun p q => p.id < q.id
  ids : ∀ p ∈ rows, 0 < p.id ∧ p.id ≤ sequence
  stored : ∀ p ∈ rows, p.dirty = false
  deriving DecidableEq, Repr

/-- What is written of a profile object. -/
def Profile.toRow (profile : Profile) : Profile := { profile with dirty := false }

namespace ProfileTable

def find? (table : ProfileTable) (id : Nat) : Option Profile :=
  table.rows.find? (·.id = id)

/-- `MAX(userOrder) + 1`, null on an empty table. -/
def nextOrder (table : ProfileTable) : Option Int :=
  (table.rows.map Profile.userOrder).max?.map (· + 1)

def empty : ProfileTable where
  rows := []
  sequence := 0
  sorted := .nil
  ids := by simp
  stored := by simp

theorem sorted_append_row (table : ProfileTable) (profile : Profile) :
    (table.rows ++ [{ profile.toRow with id := table.sequence + 1 }]).Pairwise
      fun (p q : Profile) => p.id < q.id := by
  rw [List.pairwise_append]
  apply And.intro table.sorted
  apply And.intro (List.pairwise_singleton _ _)
  intro p hp q hq
  rw [List.mem_singleton] at hq
  subst hq
  exact Nat.lt_succ_of_le (table.ids p hp).2

theorem ids_append_row (table : ProfileTable) (profile : Profile) :
    ∀ p ∈ table.rows ++ [{ profile.toRow with id := table.sequence + 1 }],
      0 < p.id ∧ p.id ≤ table.sequence + 1 := by
  intro p hp
  rcases List.mem_append.mp hp with hp | hp
  · have hid := table.ids p hp
    omega
  · rw [List.mem_singleton] at hp
    subst hp
    exact ⟨Nat.succ_pos _, Nat.le_refl _⟩

theorem stored_append_row (table : ProfileTable) (profile : Profile) :
    ∀ p ∈ table.rows ++ [{ profile.toRow with id := table.sequence + 1 }], p.dirty = false := by
  intro p hp
  rcases List.mem_append.mp hp with hp | hp
  · exact table.stored p hp
  · rw [List.mem_singleton] at hp
    subst hp
    rfl

def insert (table : ProfileTable) (profile : Profile) : ProfileTable where
  rows := table.rows ++ [{ profile.toRow with id := table.sequence + 1 }]
  sequence := table.sequence + 1
  sorted := table.sorted_append_row profile
  ids := table.ids_append_row profile
  stored := table.stored_append_row profile

/-- Replaces the row with the profile's id by the whole profile. -/
def replace (profile row : Profile) : Profile :=
  if row.id = profile.id then profile.toRow else row

theorem replace_id (profile row : Profile) : (replace profile row).id = row.id := by
  unfold replace
  split
  · rename_i h
    exact h.symm
  · rfl

def update (table : ProfileTable) (profile : Profile) : ProfileTable where
  rows := table.rows.map (replace profile)
  sequence := table.sequence
  sorted := by
    rw [List.pairwise_map]
    simpa only [replace_id] using table.sorted
  ids := by
    intro p hp
    obtain ⟨row, hrow, rfl⟩ := List.mem_map.mp hp
    simpa only [replace_id] using table.ids row hrow
  stored := by
    intro p hp
    obtain ⟨row, hrow, rfl⟩ := List.mem_map.mp hp
    unfold replace
    split
    · rfl
    · exact table.stored row hrow

def delete (table : ProfileTable) (id : Nat) : ProfileTable where
  rows := table.rows.filter (·.id ≠ id)
  sequence := table.sequence
  sorted := table.sorted.filter _
  ids := fun p hp => table.ids p (List.mem_filter.mp hp).1
  stored := fun p hp => table.stored p (List.mem_filter.mp hp).1

def deleteAll (table : ProfileTable) : ProfileTable where
  rows := []
  sequence := table.sequence
  sorted := List.Pairwise.nil
  ids := by simp
  stored := by simp

/-- The number of rows with this id. -/
def count (table : ProfileTable) (id : Nat) : Nat :=
  if (table.find? id).isSome then 1 else 0

section Rows

variable (table : ProfileTable)

theorem nodup_ids : (table.rows.map Profile.id).Nodup := by
  have hlt : (table.rows.map Profile.id).Pairwise (· < ·) := List.pairwise_map.mpr table.sorted
  exact hlt.imp Nat.ne_of_lt

theorem eq_of_id_eq {p q : Profile} (hp : p ∈ table.rows) (hq : q ∈ table.rows)
    (hid : p.id = q.id) : p = q :=
  List.inj_on_of_nodup_map table.nodup_ids hp hq hid

/-- Row ids are distinct, so looking a row up and finding it among the rows are
the same thing. -/
theorem find?_eq_some_iff (id : Nat) (row : Profile) :
    table.find? id = some row ↔ row ∈ table.rows ∧ row.id = id := by
  constructor
  · intro h
    exact ⟨List.mem_of_find?_eq_some h, by simpa using List.find?_some h⟩
  · rintro ⟨hmem, hid⟩
    cases hfind : table.find? id with
    | none =>
        have hne := List.find?_eq_none.mp hfind row hmem
        simp [hid] at hne
    | some other =>
        have hother : other ∈ table.rows ∧ other.id = id :=
          ⟨List.mem_of_find?_eq_some hfind, by simpa using List.find?_some hfind⟩
        rw [table.eq_of_id_eq hother.1 hmem (hother.2.trans hid.symm)]

/-- Rows are ordered by id, so a table is known by what it holds. -/
theorem ext_mem {other : ProfileTable} (hsequence : table.sequence = other.sequence)
    (h : ∀ row, row ∈ table.rows ↔ row ∈ other.rows) : table = other := by
  have hperm : table.rows.Perm other.rows :=
    (List.perm_ext_iff_of_nodup table.nodup_ids.of_map other.nodup_ids.of_map).mpr h
  have hrows : table.rows = other.rows := by
    apply hperm.eq_of_pairwise ?_ table.sorted other.sorted
    intro p q _ _ hlt hgt
    omega
  cases table
  cases other
  simp only at hsequence hrows
  subst hsequence hrows
  rfl

theorem find?_update (profile : Profile) (id : Nat) :
    (table.update profile).find? id = (table.find? id).map (replace profile) := by
  simp only [find?, update, List.find?_map]
  congr 2
  funext row
  simp [replace_id]

theorem find?_update_self (profile : Profile) :
    (table.update profile).find? profile.id = (table.find? profile.id).map fun _ => profile.toRow := by
  rw [find?_update]
  apply Option.map_congr
  intro row hrow
  simp [replace, ((table.find?_eq_some_iff _ _).mp hrow).2]

theorem find?_update_of_ne (profile : Profile) {id : Nat} (h : id ≠ profile.id) :
    (table.update profile).find? id = table.find? id := by
  rw [find?_update]
  cases hrow : table.find? id with
  | none => rfl
  | some row =>
      have hid : row.id = id := ((table.find?_eq_some_iff id row).mp hrow).2
      simp [replace, hid, h]

/-- The rows after an update of one that is stored. -/
theorem find?_update_stored {profile row : Profile} (h : table.find? profile.id = some row)
    (id : Nat) : (table.update profile).find? id =
      if id = profile.id then some profile.toRow else table.find? id := by
  split
  · rename_i heq
    rw [heq, find?_update_self, h]
    rfl
  · rename_i hne
    exact table.find?_update_of_ne profile hne

theorem mem_delete_iff (id : Nat) (row : Profile) :
    row ∈ (table.delete id).rows ↔ row ∈ table.rows ∧ row.id ≠ id := by
  simp [delete]

/-- The row that an insertion adds. -/
def inserted (profile : Profile) : Profile := { profile.toRow with id := table.sequence + 1 }

theorem mem_insert_iff (profile row : Profile) :
    row ∈ (table.insert profile).rows ↔ row ∈ table.rows ∨ row = table.inserted profile := by
  simp [insert, inserted]

theorem find?_insert_of_ne (profile : Profile) {id : Nat} (h : id ≠ table.sequence + 1) :
    (table.insert profile).find? id = table.find? id := by
  apply Option.ext
  intro row
  rw [find?_eq_some_iff, find?_eq_some_iff, mem_insert_iff]
  constructor
  · rintro ⟨hmem | rfl, hid⟩
    · exact ⟨hmem, hid⟩
    · exact absurd hid.symm h
  · rintro ⟨hmem, hid⟩
    exact ⟨Or.inl hmem, hid⟩

theorem find?_inserted (profile : Profile) :
    (table.insert profile).find? (table.sequence + 1) = some (table.inserted profile) := by
  rw [find?_eq_some_iff, mem_insert_iff]
  exact ⟨Or.inr rfl, rfl⟩

theorem find?_insert (profile : Profile) (id : Nat) :
    (table.insert profile).find? id =
      if id = table.sequence + 1 then some (table.inserted profile) else table.find? id := by
  split
  · rename_i heq
    rw [heq, find?_inserted]
  · rename_i hne
    exact table.find?_insert_of_ne profile hne

theorem mem_update_iff (profile row : Profile) :
    row ∈ (table.update profile).rows ↔
      (row.id ≠ profile.id ∧ row ∈ table.rows) ∨
        (row = profile.toRow ∧ (table.find? profile.id).isSome) := by
  have hmem : row ∈ (table.update profile).rows ↔
      (table.update profile).find? row.id = some row := by
    rw [find?_eq_some_iff]
    simp
  rw [hmem]
  by_cases hid : row.id = profile.id
  · rw [hid, find?_update_self]
    cases table.find? profile.id <;> simp [eq_comm]
  · have hne : row ≠ profile.toRow := by
      rintro rfl
      exact hid rfl
    rw [table.find?_update_of_ne profile hid, find?_eq_some_iff]
    simp [hid, hne]

end Rows

end ProfileTable

/-- The serialized `ExpandedProfile` of `DirectBoot`. A file that was opened
for writing and not written holds only the stream header. -/
inductive DeviceFile where
  | absent
  | truncated
  | holds (expanded : ExpandedProfile)
  deriving DecidableEq, Repr

def DeviceFile.read : DeviceFile → Option ExpandedProfile
  | .holds expanded => some expanded
  | _ => none

structure Storage where
  isOpen : Bool
  table : ProfileTable
  profileId : Nat
  directBootAware : Bool
  deviceFile : DeviceFile
  deriving DecidableEq, Repr

inductive StorageCall where
  | get (id : Nat)
  | listAll
  | nextOrder
  | create (profile : Profile)
  | update (profile : Profile)
  | delete (id : Nat)
  | deleteAll
  | profileId
  | setProfileId (id : Nat)
  | directBootAware
  | readDeviceFile
  | truncateDeviceFile
  | writeDeviceFile (expanded : ExpandedProfile)
  | deleteDeviceFile
  deriving DecidableEq, Repr

/-- The reply to a call; for the DAO calls `none` means that the database
cannot be opened. -/
def StorageCall.Result : StorageCall → Type
  | .get _ => Option (Option Profile)
  | .listAll => Option (List Profile)
  | .nextOrder => Option (Option Int)
  | .create _ => Option Nat
  | .update _ => Option Nat
  | .delete _ => Option Nat
  | .deleteAll => Option Nat
  | .profileId => Nat
  | .setProfileId _ => Unit
  | .directBootAware => Bool
  | .readDeviceFile => Option ExpandedProfile
  | .truncateDeviceFile => Unit
  | .writeDeviceFile _ => Unit
  | .deleteDeviceFile => Unit

namespace Storage

def setTable (s : Storage) (table : ProfileTable) : Storage := { s with table := table }

def setDeviceFile (s : Storage) (file : DeviceFile) : Storage := { s with deviceFile := file }

def setProfileId (s : Storage) (id : Nat) : Storage := { s with profileId := id }

section Fields

variable (s : Storage) (table : ProfileTable) (file : DeviceFile) (id : Nat)

@[simp] theorem setTable_isOpen : (s.setTable table).isOpen = s.isOpen := rfl
@[simp] theorem setTable_table : (s.setTable table).table = table := rfl
@[simp] theorem setTable_profileId : (s.setTable table).profileId = s.profileId := rfl
@[simp] theorem setTable_directBootAware :
    (s.setTable table).directBootAware = s.directBootAware := rfl
@[simp] theorem setTable_deviceFile : (s.setTable table).deviceFile = s.deviceFile := rfl
@[simp] theorem setTable_self : s.setTable s.table = s := rfl

@[simp] theorem setDeviceFile_isOpen : (s.setDeviceFile file).isOpen = s.isOpen := rfl
@[simp] theorem setDeviceFile_table : (s.setDeviceFile file).table = s.table := rfl
@[simp] theorem setDeviceFile_profileId : (s.setDeviceFile file).profileId = s.profileId := rfl
@[simp] theorem setDeviceFile_directBootAware :
    (s.setDeviceFile file).directBootAware = s.directBootAware := rfl
@[simp] theorem setDeviceFile_deviceFile : (s.setDeviceFile file).deviceFile = file := rfl

@[simp] theorem setDeviceFile_setDeviceFile (file' : DeviceFile) :
    (s.setDeviceFile file).setDeviceFile file' = s.setDeviceFile file' := rfl

@[simp] theorem setProfileId_isOpen : (s.setProfileId id).isOpen = s.isOpen := rfl
@[simp] theorem setProfileId_table : (s.setProfileId id).table = s.table := rfl
@[simp] theorem setProfileId_profileId : (s.setProfileId id).profileId = id := rfl
@[simp] theorem setProfileId_directBootAware :
    (s.setProfileId id).directBootAware = s.directBootAware := rfl

end Fields

/-- Runs a query and a change of the table, if the database can be opened. -/
def onTable {α : Type} (storage : Storage) (reply : α) (table : ProfileTable) :
    Option α × Storage :=
  if storage.isOpen then (some reply, storage.setTable table) else (none, storage)

@[simp] theorem onTable_table {α : Type} (s : Storage) (reply : α) :
    s.onTable reply s.table = (if s.isOpen then some reply else none, s) := by
  unfold onTable
  split <;> rfl

theorem onTable_open {α : Type} (s : Storage) (reply : α) (table : ProfileTable)
    (hopen : s.isOpen = true) : s.onTable reply table = (some reply, s.setTable table) := by
  simp [onTable, hopen]

def handle : Handler StorageCall StorageCall.Result Storage
  | .get id, s => s.onTable (s.table.find? id) s.table
  | .listAll, s => s.onTable s.table.rows s.table
  | .nextOrder, s => s.onTable s.table.nextOrder s.table
  | .create profile, s => s.onTable (s.table.sequence + 1) (s.table.insert profile)
  | .update profile, s => s.onTable (s.table.count profile.id) (s.table.update profile)
  | .delete id, s => s.onTable (s.table.count id) (s.table.delete id)
  | .deleteAll, s => s.onTable s.table.rows.length s.table.deleteAll
  | .profileId, s => (s.profileId, s)
  | .setProfileId id, s => ((), s.setProfileId id)
  | .directBootAware, s => (s.directBootAware, s)
  | .readDeviceFile, s => (s.deviceFile.read, s)
  | .truncateDeviceFile, s => ((), s.setDeviceFile .truncated)
  | .writeDeviceFile expanded, s => ((), s.setDeviceFile (.holds expanded))
  | .deleteDeviceFile, s => ((), s.setDeviceFile .absent)

end Storage

end WifiProject.Database
