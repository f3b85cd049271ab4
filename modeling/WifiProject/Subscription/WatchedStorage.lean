import WifiProject.Subscription.SubscriptionService
import WifiProject.Bg.TrafficMonitor

/-!
The storage as a sync sees it while the counters of one row may change behind
its back. The ghost is the storage that the sync alone would have made; a
query may answer with other counters in the watched row, and every update of
that row must carry the counters of the first query.
-/

namespace WifiProject.Subscription

open Lib Database Bg

/-- The row with other counters. -/
def retraffic (id : Nat) (totals : Traffic) (row : Profile) : Profile :=
  if row.id = id then { row with tx := totals.1, rx := totals.2 } else row

section Retraffic

variable (id : Nat) (totals : Traffic) (row : Profile)

@[simp] theorem retraffic_id : (retraffic id totals row).id = row.id := by
  unfold retraffic
  split <;> rfl

@[simp] theorem retraffic_subscription :
    (retraffic id totals row).subscription = row.subscription := by
  unfold retraffic
  split <;> rfl

@[simp] theorem retraffic_password : (retraffic id totals row).password = row.password := by
  unfold retraffic
  split <;> rfl

@[simp] theorem retraffic_method : (retraffic id totals row).method = row.method := by
  unfold retraffic
  split <;> rfl

@[simp] theorem retraffic_plugin : (retraffic id totals row).plugin = row.plugin := by
  unfold retraffic
  split <;> rfl

@[simp] theorem retraffic_key : (retraffic id totals row).key = row.key := by
  unfold retraffic
  split <;> rfl

theorem traffic_retraffic {id : Nat} {row : Profile} (totals : Traffic) (h : row.id = id) :
    traffic (retraffic id totals row) = totals := by
  rw [retraffic, if_pos h]
  rfl

end Retraffic

/-- The ghost: the storage, and the counters of the watched row in the first
query. -/
structure Watched where
  storage : Storage
  snapshot : Option Traffic := none

def Watched.setTable (g : Watched) (table : ProfileTable) : Watched :=
  { g with storage := g.storage.setTable table }

section Setters

variable (g : Watched) (table : ProfileTable)

@[simp] theorem Watched.setTable_storage :
    (g.setTable table).storage = g.storage.setTable table := rfl

@[simp] theorem Watched.setTable_snapshot : (g.setTable table).snapshot = g.snapshot := rfl

end Setters

/-- What may be answered: the truth up to the counters of the watched row. -/
def Answers (id : Nat) : (op : StorageCall) → op.Result → op.Result → Prop
  | .listAll, reply, truth =>
      ∃ totals, reply = (truth : Option (List Profile)).map (List.map (retraffic id totals))
  | .get _, reply, truth =>
      ∃ totals, reply =
        (truth : Option (Option Profile)).map (Option.map (retraffic id totals))
  | _, reply, truth => reply = truth

/-- The counters of the watched row in an answer. -/
def noticed (id : Nat) : (op : StorageCall) → op.Result → Option Traffic
  | .listAll, reply =>
      (reply : Option (List Profile)).bind fun rows => (rows.find? (·.id = id)).map traffic
  | _, _ => none

/-- What a sync may issue. -/
def Admitted (id : Nat) (g : Watched) : StorageCall → Prop
  | .update profile => profile.id = id → g.snapshot = some (traffic profile)
  | .deleteAll => False
  | .readDeviceFile => False
  | _ => True

/-- The contract of a sync. -/
def watched (id : Nat) : Prog.Contract StorageCall StorageCall.Result Watched where
  admits := fun op g => Admitted id g op
  replies := fun op reply g => Answers id op reply (Storage.handle op g.storage).1
  next := fun op reply g =>
    ⟨(Storage.handle op g.storage).2, g.snapshot.or (noticed id op reply)⟩

/-! The routines of `ProfileManager` under this contract, on an open database. -/

section Routines

variable {σ : Type} {id : Nat} {m : σ} {g : Watched}

/-- A call that is answered truthfully. -/
theorem keeps_truthful (op : StorageCall) {post : Except Failure op.Result → σ → Watched → Prop}
    (htruth : ∀ reply truth, Answers id op reply truth → reply = truth)
    (hnoticed : ∀ reply, noticed id op reply = none) (hadmitted : Admitted id g op)
    (hpost : post (.ok (Storage.handle op g.storage).1) m
      { g with storage := (Storage.handle op g.storage).2 }) :
    Routine.Keeps (watched id) (Routine.perform op) post m g := by
  refine ⟨hadmitted, fun reply hreply => ?_⟩
  have hreply := htruth _ _ hreply
  subst hreply
  have hnext : (watched id).next op (Storage.handle op g.storage).1 g =
      { g with storage := (Storage.handle op g.storage).2 } := by
    simp [watched, hnoticed]
  rw [hnext]
  exact hpost

/-- The ghost after a query that answered with these counters. -/
def Watched.notice (g : Watched) (id : Nat) (totals : Traffic) : Watched :=
  ⟨g.storage, g.snapshot.or
    (((g.storage.table.rows.map (retraffic id totals)).find? (·.id = id)).map traffic)⟩

theorem keeps_getAllProfiles {post : Except Failure (List Profile) → σ → Watched → Prop}
    (hopen : g.storage.isOpen = true)
    (hpost : ∀ totals, post (.ok (g.storage.table.rows.map (retraffic id totals))) m
      (g.notice id totals)) :
    Routine.Keeps (watched id) ProfileManager.getAllProfiles post m g := by
  simp only [ProfileManager.getAllProfiles, Routine.keeps_bind]
  refine ⟨trivial, ?_⟩
  rintro reply ⟨totals, rfl⟩
  have hhandle : Storage.handle .listAll g.storage =
      ((some g.storage.table.rows : Option (List Profile)), g.storage) := by
    change g.storage.onTable g.storage.table.rows g.storage.table = _
    simp [hopen]
  have hpost := hpost totals
  simp only [watched, hhandle]
  exact hpost

theorem keeps_profileId {post : Except Failure Nat → σ → Watched → Prop}
    (hpost : post (.ok g.storage.profileId) m g) :
    Routine.Keeps (watched id) (DataStore.profileId : Code σ Nat) post m g :=
  keeps_truthful .profileId (fun _ _ h => h) (fun _ => rfl) trivial hpost

theorem keeps_updateProfile {post : Except Failure Unit → σ → Watched → Prop} {profile : Profile}
    (hopen : g.storage.isOpen = true) (hrow : (g.storage.table.find? profile.id).isSome)
    (hadmitted : profile.id = id → g.snapshot = some (traffic profile))
    (hpost : post (.ok ()) m (g.setTable (g.storage.table.update profile))) :
    Routine.Keeps (watched id) (ProfileManager.updateProfile profile) post m g := by
  have hhandle : Storage.handle (.update profile) g.storage =
      ((some 1 : Option Nat), g.storage.setTable (g.storage.table.update profile)) := by
    change g.storage.onTable _ _ = _
    simp [Storage.onTable, hopen, ProfileTable.count, hrow]
  simp only [ProfileManager.updateProfile, Routine.keeps_bind]
  refine keeps_truthful (.update profile) (fun _ _ h => h) (fun _ => rfl) hadmitted ?_
  rw [hhandle]
  exact hpost

theorem keeps_createProfile {post : Except Failure Profile → σ → Watched → Prop} {profile : Profile}
    (hopen : g.storage.isOpen = true)
    (hpost : post (.ok (createdObject g.storage.table profile)) m
      (g.setTable (g.storage.table.insert (createdObject g.storage.table profile)))) :
    Routine.Keeps (watched id) (ProfileManager.createProfile profile) post m g := by
  have horder : Storage.handle .nextOrder g.storage =
      ((some g.storage.table.nextOrder : Option (Option Int)), g.storage) := by
    change g.storage.onTable g.storage.table.nextOrder g.storage.table = _
    simp [hopen]
  have hcreate (profile : Profile) : Storage.handle (.create profile) g.storage =
      ((some (g.storage.table.sequence + 1) : Option Nat),
        g.storage.setTable (g.storage.table.insert profile)) := by
    change g.storage.onTable _ _ = _
    simp [Storage.onTable, hopen]
  simp only [ProfileManager.createProfile, Routine.keeps_bind]
  refine keeps_truthful .nextOrder (fun _ _ h => h) (fun _ => rfl) trivial ?_
  rw [horder]
  simp only [Routine.AndThen, Routine.keeps_bind, keeps_opened_some]
  refine keeps_truthful (.create _) (fun _ _ h => h) (fun _ => rfl) trivial ?_
  rw [hcreate]
  exact hpost

/-- The lookup of the current profile tells nothing that is used. -/
theorem keeps_getProfile {post : Except Failure (Option Profile) → σ → Watched → Prop}
    {profileId : Nat} (hopen : g.storage.isOpen = true) (hpost : ∀ row, post (.ok row) m g) :
    Routine.Keeps (watched id) (ProfileManager.getProfile profileId) post m g := by
  have hhandle : Storage.handle (.get profileId) g.storage =
      ((some (g.storage.table.find? profileId) : Option (Option Profile)), g.storage) := by
    change g.storage.onTable (g.storage.table.find? profileId) g.storage.table = _
    simp [hopen]
  simp only [ProfileManager.getProfile, Routine.keeps_bind]
  refine ⟨trivial, ?_⟩
  rintro reply ⟨totals, rfl⟩
  have hnext (reply : Option (Option Profile)) : (watched id).next (.get profileId) reply g = g := by
    simp [watched, noticed, hhandle]
  rw [hnext, hhandle]
  exact hpost _

theorem keeps_directBootAware {post : Except Failure Bool → σ → Watched → Prop}
    (hpost : post (.ok g.storage.directBootAware) m g) :
    Routine.Keeps (watched id) (DataStore.directBootAware : Code σ Bool) post m g :=
  keeps_truthful .directBootAware (fun _ _ h => h) (fun _ => rfl) trivial hpost

/-- The ghost with another device file. -/
def Watched.setDeviceFile (g : Watched) (file : DeviceFile) : Watched :=
  { g with storage := g.storage.setDeviceFile file }

theorem keeps_clean {post : Except Failure Unit → σ → Watched → Prop}
    (hpost : post (.ok ()) m (g.setDeviceFile .absent)) :
    Routine.Keeps (watched id) (DirectBoot.clean : Code σ Unit) post m g :=
  keeps_truthful .deleteDeviceFile (fun _ _ h => h) (fun _ => rfl) trivial hpost

theorem keeps_update {post : Except Failure Unit → σ → Watched → Prop} (profile : Option Profile)
    (hopen : g.storage.isOpen = true) (hpost : ∀ file, post (.ok ()) m (g.setDeviceFile file)) :
    Routine.Keeps (watched id) (DirectBoot.update profile) post m g := by
  cases profile with
  | none => exact keeps_clean (hpost .absent)
  | some profile =>
      have hwrite (expanded : ExpandedProfile) : Routine.Keeps (watched id)
          (DirectBoot.writeObject expanded : Code σ Unit) post m (g.setDeviceFile .truncated) :=
        keeps_truthful (.writeDeviceFile expanded) (fun _ _ h => h) (fun _ => rfl) trivial
          (hpost (.holds expanded))
      simp only [DirectBoot.update, Routine.keeps_bind]
      refine keeps_truthful .truncateDeviceFile (fun _ _ h => h) (fun _ => rfl) trivial ?_
      simp only [Routine.AndThen, Routine.keeps_bind]
      unfold ProfileManager.expand
      split
      · exact hwrite _
      · simp only [Routine.keeps_bind]
        refine keeps_getProfile hopen ?_
        intro row
        exact hwrite _

theorem keeps_updateCurrent {post : Except Failure Unit → σ → Watched → Prop}
    (hopen : g.storage.isOpen = true) (hpost : ∀ file, post (.ok ()) m (g.setDeviceFile file)) :
    Routine.Keeps (watched id) (DirectBoot.updateCurrent : Code σ Unit) post m g := by
  simp only [DirectBoot.updateCurrent, Routine.keeps_bind]
  refine keeps_profileId ?_
  simp only [Routine.AndThen, Routine.keeps_bind]
  refine keeps_getProfile hopen ?_
  intro row
  exact keeps_update row hopen hpost

/-- `DataStore.profileId = id` changes the current profile and at most the
device file. -/
theorem keeps_setProfileId {post : Except Failure Unit → σ → Watched → Prop} {profileId : Nat}
    (hopen : g.storage.isOpen = true)
    (hpost : ∀ file, post (.ok ()) m
      { g with storage := (g.storage.setProfileId profileId).setDeviceFile file }) :
    Routine.Keeps (watched id) (setProfileId profileId : Code σ Unit) post m g := by
  simp only [setProfileId, Routine.keeps_bind]
  refine keeps_truthful (.setProfileId profileId) (fun _ _ h => h) (fun _ => rfl) trivial ?_
  simp only [Routine.AndThen, Routine.keeps_bind]
  refine keeps_directBootAware ?_
  simp only [Routine.AndThen]
  split
  · exact keeps_updateCurrent hopen hpost
  · exact hpost g.storage.deviceFile

/-- Deleting a row that exists; the device file may go with it. -/
theorem keeps_delProfile {post : Except Failure Unit → σ → Watched → Prop} {profileId : Nat}
    (hopen : g.storage.isOpen = true) (hrow : (g.storage.table.find? profileId).isSome)
    (hpost : ∀ file, post (.ok ()) m
      ((g.setTable (g.storage.table.delete profileId)).setDeviceFile file)) :
    Routine.Keeps (watched id) (ProfileManager.delProfile profileId : Code σ Unit) post m g := by
  have hhandle : Storage.handle (.delete profileId) g.storage =
      ((some 1 : Option Nat), g.storage.setTable (g.storage.table.delete profileId)) := by
    change g.storage.onTable _ _ = _
    simp [Storage.onTable, hopen, ProfileTable.count, hrow]
  have hlast (ids : List Nat) : Routine.Keeps (watched id)
      (do
        let aware ← DataStore.directBootAware
        if profileId ∈ ids ∧ aware = true then DirectBoot.clean else pure () : Code σ Unit) post m
      (g.setTable (g.storage.table.delete profileId)) := by
    simp only [Routine.keeps_bind]
    refine keeps_directBootAware ?_
    simp only [Routine.AndThen]
    split
    · exact keeps_clean (hpost .absent)
    · exact hpost g.storage.deviceFile
  simp only [ProfileManager.delProfile, Routine.keeps_bind]
  refine keeps_truthful (.delete profileId) (fun _ _ h => h) (fun _ => rfl) trivial ?_
  rw [hhandle]
  simp only [Routine.AndThen, Routine.keeps_bind, keeps_opened_some, beq_self_eq_true,
    keeps_check_true, activeProfileIds]
  refine keeps_profileId ?_
  simp only [Routine.AndThen, Routine.keeps_bind]
  refine keeps_getProfile hopen ?_
  intro row
  cases row with
  | none => exact (Routine.keeps_bind _ _ _ _ _).mp (hlast [])
  | some row => exact (Routine.keeps_bind _ _ _ _ _).mp (hlast _)

end Routines

end WifiProject.Subscription
