import WifiProject.Database.FallbackWiring
import WifiProject.Subscription.WatchedStorage

/-!
What a sync keeps from its first query to its last write. `rows` is the answer
to the first query, in which the counters of the watched row may already
differ from the ghost storage.
-/

namespace WifiProject.Subscription

open Lib Database Bg Plugin

/-- The first subscription row with this key. -/
def firstSubscribed (rows : List Profile) (key : Profile.Key) : Option Profile :=
  rows.find? fun row => row.subscription ≠ .userConfigured ∧ row.key = key

/-- The rows that preprocessing leaves in place. -/
def Kept (rows : List Profile) (row : Profile) : Prop :=
  row.subscription = .userConfigured ∨ firstSubscribed rows row.key = some row

/-- What a sync assigns to a row. -/
structure Assigned (object row : Profile) : Prop where
  subscription : row.subscription = object.subscription
  password : row.password = object.password
  method : row.method = object.method
  plugin : row.plugin = object.plugin

theorem Assigned.refl (object : Profile) : Assigned object object := ⟨rfl, rfl, rfl, rfl⟩

/-- This profile is in the map of subscriptions. -/
def Known (m : SyncMemory) (id : Nat) : Prop := ∃ key, m.env.subscriptions.get? key = some id

/-- The state of a sync between the preprocessing and the end. -/
structure Syncing (s0 : Storage) (rows : List Profile) (id : Nat) (m : SyncMemory) (g : Watched) :
    Prop where
  answer : ∃ totals, rows = s0.table.rows.map (retraffic id totals)
  watched : id ≤ s0.table.sequence
  isOpen : g.storage.isOpen = true
  profileId : g.storage.profileId = 0 ∧ (∃ row ∈ rows, row.id = s0.profileId ∧ ¬ Kept rows row) ∨
    g.storage.profileId = s0.profileId ∧ ∀ row ∈ rows, row.id = s0.profileId → Kept rows row
  sequence : s0.table.sequence ≤ g.storage.table.sequence
  user : ∀ row ∈ s0.table.rows, row.subscription = .userConfigured → row ∈ g.storage.table.rows
  kept : ∀ row ∈ rows, Kept rows row → (g.storage.table.find? row.id).isSome
  deleted : ∀ row ∈ rows, ¬ Kept rows row → g.storage.table.find? row.id = none
  owned : ∀ row ∈ g.storage.table.rows, row.subscription ≠ .userConfigured →
    m.env.subscriptions.get? row.key = some row.id
  entry : ∀ key known, m.env.subscriptions.get? key = some known → ∃ object row,
    m.object? known = some object ∧ object.key = key ∧ object.subscription ≠ .userConfigured ∧
      g.storage.table.find? known = some row ∧ row.subscription ≠ .userConfigured
  objects : ∀ row ∈ rows, (m.object? row.id).isSome
  userObject : ∀ row ∈ g.storage.table.rows, row.subscription = .userConfigured →
    ∃ object, m.object? row.id = some object ∧ object.endpoint = row.endpoint
  objectIds : ∀ object ∈ m.objects, object.id ≤ g.storage.table.sequence
  toUpdate : ∀ known ∈ m.env.toUpdate, Known m known
  traffic : ∀ object, m.object? id = some object → g.snapshot = some (traffic object)
  assigned : ∀ row ∈ rows, row.id ∉ m.env.toUpdate → ∀ object stored,
    m.object? row.id = some object → g.storage.table.find? row.id = some stored →
      Assigned object stored

namespace Syncing

variable {s0 : Storage} {rows : List Profile} {id : Nat} {m : SyncMemory} {g : Watched}

/-- A later query changes nothing. -/
theorem notice (h : Syncing s0 rows id m g) (totals : Traffic) :
    Syncing s0 rows id m (g.notice id totals) := by
  refine { h with traffic := ?_ }
  intro object hobject
  simp [Watched.notice, h.traffic object hobject]

/-- A known profile has one key, that of its object and of its row. -/
theorem known_row (h : Syncing s0 rows id m g) {known : Nat} (hknown : Known m known) :
    ∃ object row, m.object? known = some object ∧ object.subscription ≠ .userConfigured ∧
      m.env.subscriptions.get? object.key = some known ∧
      g.storage.table.find? known = some row ∧ row.subscription ≠ .userConfigured ∧
      row.key = object.key := by
  obtain ⟨key, hkey⟩ := hknown
  obtain ⟨object, row, hobject, rfl, hactive, hrow, hsubscribed⟩ := h.entry key known hkey
  obtain ⟨hmem, hid⟩ := (g.storage.table.find?_eq_some_iff known row).mp hrow
  have howned := h.owned row hmem hsubscribed
  obtain ⟨other, row', hother, hkey', -, -, -⟩ := h.entry row.key row.id howned
  rw [hid, hobject] at hother
  cases hother
  exact ⟨object, row, hobject, hactive, hkey, hrow, hsubscribed, hkey'.symm⟩

/-- A row of the user is not that of a known profile. -/
theorem user_ne_known (h : Syncing s0 rows id m g) {known : Nat} (hknown : Known m known)
    {row : Profile} (hrow : row ∈ g.storage.table.rows) (huser : row.subscription = .userConfigured) :
    row.id ≠ known := by
  intro hid
  obtain ⟨-, other, -, -, -, hother, hsubscribed, -⟩ := h.known_row hknown
  have hsame := (g.storage.table.find?_eq_some_iff known row).mpr ⟨hrow, hid⟩
  rw [hother] at hsame
  cases hsame
  exact hsubscribed huser

/-- Writing the object of a known profile to its row. -/
theorem store (h : Syncing s0 rows id m g) {known : Nat} (hknown : Known m known) {object : Profile}
    (hobject : m.object? known = some object) :
    Syncing s0 rows id m (g.setTable (g.storage.table.update object)) := by
  obtain ⟨object', row, hobject', hactive, hsubscribed, hrow, hrowActive, hkey⟩ := h.known_row hknown
  rw [hobject] at hobject'
  cases hobject'
  have hid : object.id = known := (object?_eq_some hobject).2
  have hfind (other : Nat) : (g.storage.table.update object).find? other =
      if other = known then some object.toRow else g.storage.table.find? other := by
    rw [g.storage.table.find?_update_stored (hid ▸ hrow), hid]
  refine { h with
    user := ?user, kept := ?kept, deleted := ?deleted, owned := ?owned, entry := ?entry,
    userObject := ?userObject, assigned := ?assigned }
  case user =>
    intro user huser hconfigured
    have hmem := h.user user huser hconfigured
    refine ((g.storage.table.mem_update_iff object user).mpr (Or.inl ⟨?_, hmem⟩))
    rw [hid]
    exact h.user_ne_known hknown hmem hconfigured
  case kept =>
    intro kept hkept hk
    change ((g.storage.table.update object).find? kept.id).isSome
    rw [hfind]
    split
    · rfl
    · exact h.kept kept hkept hk
  case deleted =>
    intro deleted hdeleted hk
    change (g.storage.table.update object).find? deleted.id = none
    have hnone := h.deleted deleted hdeleted hk
    rw [hfind, if_neg ?_]
    · exact hnone
    · intro heq
      rw [heq, hrow] at hnone
      cases hnone
  case owned =>
    intro stored hstored hactive'
    rcases (g.storage.table.mem_update_iff object stored).mp hstored with ⟨-, hmem⟩ | ⟨rfl, -⟩
    · exact h.owned stored hmem hactive'
    · rw [show object.toRow.key = object.key from rfl, show object.toRow.id = object.id from rfl, hid]
      exact hsubscribed
  case entry =>
    intro key other hother
    obtain ⟨found, stored, hfound, hfoundKey, hfoundActive, hstored, hstoredActive⟩ :=
      h.entry key other hother
    by_cases heq : other = known
    · subst heq
      refine ⟨found, object.toRow, hfound, hfoundKey, hfoundActive, ?_, hactive⟩
      change (g.storage.table.update object).find? other = _
      rw [hfind, if_pos rfl]
    · refine ⟨found, stored, hfound, hfoundKey, hfoundActive, ?_, hstoredActive⟩
      change (g.storage.table.update object).find? other = _
      rw [hfind, if_neg heq]
      exact hstored
  case userObject =>
    intro user huser hconfigured
    rcases (g.storage.table.mem_update_iff object user).mp huser with ⟨-, hmem⟩ | ⟨rfl, -⟩
    · exact h.userObject user hmem hconfigured
    · exact absurd hconfigured hactive
  case assigned =>
    intro row' hrow' hnot found stored hfound hstored
    change (g.storage.table.update object).find? row'.id = some stored at hstored
    rw [hfind] at hstored
    split at hstored
    · rename_i heq
      rw [heq, hobject] at hfound
      cases hfound
      cases hstored
      exact ⟨rfl, rfl, rfl, rfl⟩
    · exact h.assigned row' hrow' hnot found stored hfound hstored

/-- A change of an object that keeps its key and its counters. What the sync
assigns may change only if the profile is going to be written back. -/
theorem change (h : Syncing s0 rows id m g) {known : Nat} (hknown : Known m known)
    {f : Profile → Profile}
    (hid : ∀ object, (f object).id = object.id) (hkey : ∀ object, (f object).key = object.key)
    (htraffic : ∀ object, Bg.traffic (f object) = Bg.traffic object)
    (hactive : ∀ object, object.subscription ≠ .userConfigured →
      (f object).subscription ≠ .userConfigured)
    (hassigned : known ∈ m.env.toUpdate ∨
      ∀ object row, Assigned object row → Assigned (f object) row) :
    Syncing s0 rows id (m.updateObject known f) g := by
  have hobject (other : Nat) := object?_updateObject m known other f hid
  refine { h with
    entry := ?entry, objects := ?objects, userObject := ?userObject, objectIds := ?objectIds,
    traffic := ?traffic, assigned := ?assigned }
  case entry =>
    intro key other hother
    obtain ⟨object, row, hfound, rfl, hsubscribed, hrow, hrowActive⟩ := h.entry key other hother
    simp only [hobject, hfound, Option.map_some, Option.some.injEq]
    refine ⟨_, row, rfl, ?_, ?_, hrow, hrowActive⟩
    · split
      · exact hkey object
      · rfl
    · split
      · exact hactive object hsubscribed
      · exact hsubscribed
  case objects =>
    intro row hrow
    rw [hobject, Option.isSome_map]
    exact h.objects row hrow
  case userObject =>
    intro row hrow huser
    obtain ⟨object, hfound, hendpoint⟩ := h.userObject row hrow huser
    have hne : object.id ≠ known := by
      rw [(object?_eq_some hfound).2]
      exact h.user_ne_known hknown hrow huser
    refine ⟨object, ?_, hendpoint⟩
    rw [hobject, hfound, Option.map_some, if_neg hne]
  case objectIds =>
    intro object hmem
    obtain ⟨old, hold, rfl⟩ := List.mem_map.mp hmem
    have hbound := h.objectIds old hold
    split
    · rw [hid]
      exact hbound
    · exact hbound
  case traffic =>
    intro object hfound
    rw [hobject, Option.map_eq_some_iff] at hfound
    obtain ⟨old, hold, rfl⟩ := hfound
    rw [h.traffic old hold]
    split
    · rw [htraffic]
    · rfl
  case assigned =>
    intro row hrow hnot object stored hfound hstored
    rw [hobject, Option.map_eq_some_iff] at hfound
    obtain ⟨old, hold, rfl⟩ := hfound
    have hold' := h.assigned row hrow hnot old stored hold hstored
    split
    · rename_i heq
      rcases hassigned with hmem | hkeeps
      · exact absurd (by rwa [← heq, (object?_eq_some hold).2] at hmem) hnot
      · exact hkeeps old stored hold'
    · exact hold'

/-- A known profile is put on the list of those to write back. -/
theorem mark (h : Syncing s0 rows id m g) {known : Nat} (hknown : Known m known) :
    Syncing s0 rows id (m.addToUpdate known) g := by
  refine { h with toUpdate := ?_, assigned := ?_ }
  · intro other hother
    rcases List.mem_insert_iff.mp hother with rfl | hmem
    · exact hknown
    · exact h.toUpdate other hmem
  · intro row hrow hnot
    exact h.assigned row hrow fun hmem => hnot (List.mem_insert_of_mem hmem)

theorem row_id_le (h : Syncing s0 rows id m g) {row : Profile} (hrow : row ∈ rows) :
    row.id ≤ s0.table.sequence := by
  obtain ⟨totals, hrows⟩ := h.answer
  rw [hrows] at hrow
  obtain ⟨old, hold, rfl⟩ := List.mem_map.mp hrow
  rw [retraffic_id]
  exact (s0.table.ids old hold).2

end Syncing

/-- The memory after `createSubscribed`. -/
def subscribe (m : SyncMemory) (object : Profile) : SyncMemory :=
  SyncMemory.putSubscription object.key object.id { m with objects := m.objects ++ [object] }

theorem object?_subscribe (m : SyncMemory) (object : Profile) (known : Nat) :
    (subscribe m object).object? known =
      (m.object? known).or (if object.id = known then some object else none) := by
  simp only [subscribe, SyncMemory.putSubscription, Memory.object?, List.find?_append]
  congr 1
  by_cases heq : object.id = known <;> simp [heq]

theorem Known.subscribe {m : SyncMemory} {object : Profile} {known : Nat}
    (habsent : m.env.subscriptions.get? object.key = none) (h : Known m known) :
    Known (subscribe m object) known := by
  obtain ⟨key, hkey⟩ := h
  refine ⟨key, ?_⟩
  change (m.env.subscriptions.put object.key object.id).get? key = _
  rw [LinkedMap.get?_put, if_neg]
  · exact hkey
  · rintro rfl
    rw [habsent] at hkey
    cases hkey

section Subscribe

variable {s0 : Storage} {rows : List Profile} {id : Nat} {m : SyncMemory} {g : Watched}

/-- The next row has no object yet. -/
theorem Syncing.object?_next (h : Syncing s0 rows id m g) :
    m.object? (g.storage.table.sequence + 1) = none := by
  apply List.find?_eq_none.mpr
  intro old hold
  have hbound := h.objectIds old hold
  simp only [decide_eq_true_eq]
  omega

theorem Syncing.object?_subscribe_next (h : Syncing s0 rows id m g) {object : Profile}
    (hid : object.id = g.storage.table.sequence + 1) (known : Nat) :
    (subscribe m object).object? known =
      if known = g.storage.table.sequence + 1 then some object else m.object? known := by
  rw [object?_subscribe, hid]
  split
  · rename_i heq
    rw [← heq, h.object?_next, if_pos rfl, Option.none_or]
  · rename_i hne
    rw [if_neg (Ne.symm hne), Option.or_none]

/-- A new subscription row, its object and its entry in the map. -/
theorem Syncing.insert (h : Syncing s0 rows id m g) {profile : Profile}
    (hactive : profile.subscription = .active)
    (habsent : m.env.subscriptions.get? profile.key = none) :
    Syncing s0 rows id (subscribe m (createdObject g.storage.table profile))
      (g.setTable (g.storage.table.insert (createdObject g.storage.table profile))) := by
  let object := createdObject g.storage.table profile
  let stored := g.storage.table.inserted object
  have hkey : object.key = profile.key := rfl
  have hsequence := h.sequence
  have hwatched := h.watched
  have hnew := h.object?_next
  have hobject (known : Nat) : (subscribe m object).object? known =
      if known = g.storage.table.sequence + 1 then some object else m.object? known :=
    h.object?_subscribe_next rfl known
  have hfind := g.storage.table.find?_insert object
  have hget (key : Profile.Key) : (subscribe m object).env.subscriptions.get? key =
      if key = profile.key then some (g.storage.table.sequence + 1)
      else m.env.subscriptions.get? key :=
    LinkedMap.get?_put _ _ _ _
  have hold {row : Profile} (hrow : row ∈ rows) : row.id ≠ g.storage.table.sequence + 1 := by
    have hbound := h.row_id_le hrow
    omega
  refine { h with
    sequence := ?sequence, user := ?user, kept := ?kept, deleted := ?deleted, owned := ?owned,
    entry := ?entry, objects := ?objects, userObject := ?userObject, objectIds := ?objectIds,
    toUpdate := ?toUpdate, traffic := ?traffic, assigned := ?assigned }
  case sequence =>
    change s0.table.sequence ≤ g.storage.table.sequence + 1
    omega
  case user =>
    intro row hrow hconfigured
    exact (g.storage.table.mem_insert_iff _ row).mpr (Or.inl (h.user row hrow hconfigured))
  case kept =>
    intro row hrow hk
    change ((g.storage.table.insert object).find? row.id).isSome
    rw [hfind, if_neg (hold hrow)]
    exact h.kept row hrow hk
  case deleted =>
    intro row hrow hk
    change (g.storage.table.insert object).find? row.id = none
    rw [hfind, if_neg (hold hrow)]
    exact h.deleted row hrow hk
  case owned =>
    intro row hrow hsubscribed
    change (subscribe m object).env.subscriptions.get? row.key = some row.id
    rcases (g.storage.table.mem_insert_iff _ row).mp hrow with hmem | rfl
    · have howned := h.owned row hmem hsubscribed
      rw [hget, if_neg]
      · exact howned
      · intro heq
        rw [heq, habsent] at howned
        cases howned
    · exact (hget profile.key).trans (if_pos rfl)
  case entry =>
    intro key known hknown
    change (subscribe m object).env.subscriptions.get? key = some known at hknown
    rw [hget] at hknown
    split at hknown
    · rename_i heq
      cases hknown
      have hstored : stored.subscription ≠ .userConfigured := by
        change profile.subscription ≠ _
        simp [hactive]
      refine ⟨object, stored, ?_, heq.symm, hstored, ?_, hstored⟩
      · rw [hobject, if_pos rfl]
      · exact (hfind _).trans (if_pos rfl)
    · obtain ⟨old, row, hfound, hkey', hold', hrow, hrowActive⟩ := h.entry key known hknown
      have hne : known ≠ g.storage.table.sequence + 1 := by
        rintro rfl
        rw [hnew] at hfound
        cases hfound
      refine ⟨old, row, ?_, hkey', hold', ?_, hrowActive⟩
      · rw [hobject, if_neg hne]
        exact hfound
      · exact (hfind known).trans ((if_neg hne).trans hrow)
  case objects =>
    intro row hrow
    rw [hobject, if_neg (hold hrow)]
    exact h.objects row hrow
  case userObject =>
    intro row hrow huser
    rcases (g.storage.table.mem_insert_iff _ row).mp hrow with hmem | rfl
    · obtain ⟨other, hother, hendpoint⟩ := h.userObject row hmem huser
      have hbound := (g.storage.table.ids row hmem).2
      refine ⟨other, ?_, hendpoint⟩
      rw [hobject, if_neg (by omega)]
      exact hother
    · change profile.subscription = _ at huser
      rw [hactive] at huser
      cases huser
  case objectIds =>
    intro other hmem
    change other ∈ m.objects ++ [object] at hmem
    change other.id ≤ g.storage.table.sequence + 1
    rcases List.mem_append.mp hmem with hmem | hmem
    · have hbound := h.objectIds other hmem
      omega
    · rw [List.mem_singleton.mp hmem]
      exact Nat.le_refl _
  case toUpdate =>
    intro known hknown
    exact (h.toUpdate known hknown).subscribe habsent
  case traffic =>
    intro other hfound
    rw [hobject, if_neg (by omega)] at hfound
    exact h.traffic other hfound
  case assigned =>
    intro row hrow hnot other found hother hfound
    change (g.storage.table.insert object).find? row.id = some found at hfound
    rw [hobject, if_neg (hold hrow)] at hother
    rw [hfind, if_neg (hold hrow)] at hfound
    exact h.assigned row hrow hnot other found hother hfound

/-- What an import of a sync keeps: the state of the sync, and that whatever
it has created so far is in the map. -/
def SyncImport (s0 : Storage) (rows : List Profile) (id : Nat) (ids : List Nat) (m : SyncMemory)
    (g : Watched) : Prop :=
  Syncing s0 rows id m g ∧ ∀ known ∈ ids, Known m known

theorem keeps_createSubscribed {ids : List Nat} (h : SyncImport s0 rows id ids m g)
    (profile : Profile) (habsent : m.env.subscriptions.get? profile.key = none) :
    Routine.Keeps (watched id) (createSubscribed profile)
      (Created (SyncImport s0 rows id) ids) m g := by
  simp only [createSubscribed, createObject, Routine.keeps_bind]
  refine keeps_createProfile h.1.isOpen ?_
  simp only [Routine.AndThen, Routine.keeps_bind, Routine.keeps_modify, Routine.keeps_pure]
  refine ⟨h.1.insert rfl habsent, ?_⟩
  intro known hknown
  rcases List.mem_cons.mp hknown with rfl | hmem
  · exact ⟨profile.key, LinkedMap.get?_put_self _ _ _⟩
  · exact (h.2 known hmem).subscribe habsent

/-- The callback of a sync: a key that is known is taken over, all others get
a row of their own. -/
theorem keeps_create {ids : List Nat} (h : SyncImport s0 rows id ids m g) (profile : Profile) :
    Routine.Keeps (watched id) (create profile) (Created (SyncImport s0 rows id) ids) m g := by
  simp only [create, Routine.keeps_bind, Routine.keeps_read, Routine.AndThen]
  cases hknown : m.env.subscriptions.get? profile.key with
  | none =>
      have hnone : SyncMemory.subscribed? m profile.key = none := by
        simp [SyncMemory.subscribed?, hknown]
      rw [hnone]
      exact keeps_createSubscribed h profile hknown
  | some known =>
      obtain ⟨old, row, hold, -, hactive, -, -⟩ := h.1.entry profile.key known hknown
      have hsome : SyncMemory.subscribed? m profile.key = some old := by
        simp [SyncMemory.subscribed?, hknown, hold]
      have hid : old.id = known := (object?_eq_some hold).2
      have hmember : Known m old.id := ⟨profile.key, by rw [hknown, hid]⟩
      have hids (other : Nat) (hother : other ∈ old.id :: ids) : Known m other := by
        rcases List.mem_cons.mp hother with rfl | hmem
        · exact hmember
        · exact h.2 other hmem
      rw [hsome]
      cases hstatus : old.subscription with
      | userConfigured => exact absurd hstatus hactive
      | active =>
          simp only [hstatus, Routine.keeps_pure]
          exact ⟨h.1, hids⟩
      | obsolete =>
          simp only [hstatus, Routine.keeps_bind, Routine.keeps_modify, Routine.AndThen,
            Routine.keeps_pure]
          refine ⟨?_, hids⟩
          refine (h.1.mark hmember).change hmember (fun _ => rfl) (fun _ => rfl) (fun _ => rfl) ?_
            (Or.inl List.mem_insert_self)
          intro object _ hcontra
          cases hcontra

theorem keeps_setUdpFallback {ids : List Nat} (h : SyncImport s0 rows id ids m g) {known : Nat}
    (hknown : known ∈ ids) (target : Nat) :
    Routine.Keeps (watched id) (setUdpFallback known target)
      (fun _ => SyncImport s0 rows id ids) m g := by
  have hchanged := h.1.change (h.2 known hknown)
    (f := fun object => { object with udpFallback := some target })
    (fun _ => rfl) (fun _ => rfl) (fun _ => rfl) (fun _ hactive => hactive)
    (Or.inr fun _ _ hassigned => ⟨hassigned.1, hassigned.2, hassigned.3, hassigned.4⟩)
  have hmember : Known (m.updateObject known fun object =>
    { object with udpFallback := some target }) known := h.2 known hknown
  obtain ⟨object, row, hobject, -, -, hrow, -, -⟩ := hchanged.known_row hmember
  have hid : object.id = known := (object?_eq_some hobject).2
  simp only [setUdpFallback, Routine.keeps_bind, Routine.keeps_modify, Routine.AndThen,
    Routine.keeps_read, hobject]
  refine keeps_updateProfile hchanged.isOpen (by simp [hid, hrow]) ?_ ?_
  · intro heq
    exact hchanged.traffic object (by rw [← heq, hid]; exact hobject)
  · exact ⟨hchanged.store hmember hobject, h.2⟩

theorem syncImport_invariant (s0 : Storage) (rows : List Profile) (id : Nat) :
    ImportInvariant (watched id) create (SyncImport s0 rows id) where
  weaken := fun hsub h => ⟨h.1, fun known hknown => h.2 known (hsub known hknown)⟩
  create := fun _ profile _ _ h => keeps_create h profile
  getAllProfiles := fun _ _ _ h => keeps_getAllProfiles h.1.isOpen fun totals =>
    ⟨h.1.notice totals, h.2⟩
  setUdpFallback := fun _ _ target _ _ h hknown => keeps_setUdpFallback h hknown target

/-- A document never fails the sync. -/
theorem keeps_syncDocument (h : Syncing s0 rows id m g) (order : HashOrder)
    (feature : Option Profile) (document : Document) :
    Routine.Keeps (watched id) (syncDocument order feature document)
      (fun out m g => out = .ok () ∧ Syncing s0 rows id m g) m g := by
  have hsingle : Routine.Keeps (watched id) (document.single : SyncCode JsonElement)
      (fun _ => SyncImport s0 rows id []) m g := by
    unfold Document.single
    split <;> exact ⟨h, by simp⟩
  simp only [syncDocument, Routine.keeps_tryCatch, Routine.keeps_bind]
  refine hsingle.mono ?_
  intro out m g hout
  cases out with
  | error failure => exact ⟨rfl, hout.1⟩
  | ok json =>
      simp only [Routine.AndThen, Routine.keeps_bind]
      refine (keeps_parseJson (syncImport_invariant s0 rows id) order json feature m g hout).mono ?_
      intro out m g hout
      cases out with
      | error failure => exact ⟨rfl, hout.1⟩
      | ok ids => exact ⟨rfl, hout.1⟩

end Subscribe

end WifiProject.Subscription
