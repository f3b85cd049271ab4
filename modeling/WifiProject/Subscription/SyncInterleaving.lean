import WifiProject.Lib.Interleaving
import WifiProject.Subscription.SyncRun

/-!
A sync in the main process and a `persistStats` call in the `:bg` process over
one storage. Both read a whole row, change their part of it and write the whole
row back.
-/

namespace WifiProject.Subscription

open Lib Database Bg Plugin

/-- One sync, to the left, against one `persistStats` call, to the right. -/
def race (order : HashOrder) (documents : List Document) (id : Nat) (monitor : TrafficMonitor)
    (schedule : List Side) (storage : Storage) :
    Interleaved StorageCall (Except Failure Unit × SyncMemory)
      (Except Failure Unit × TrafficMonitor) Storage :=
  Prog.interleave Storage.handle schedule (createProfilesFromSubscription order documents ⟨[], {}⟩)
    (TrafficMonitor.persistStats id monitor) storage

/-- Unless it was deleted, the row has what both sides put there. -/
def NoLostUpdate (id : Nat) (start totals : Traffic)
    (run : Interleaved StorageCall (Except Failure Unit × SyncMemory)
      (Except Failure Unit × TrafficMonitor) Storage) : Prop :=
  ∀ row, run.store.table.find? id = some row → traffic row = start + totals ∧
    ∃ object, run.left.2.object? id = some object ∧ Assigned object row

/-- How far the two sides have come: whether the sync has made its first query,
whether `persistStats` has read the row, and whether it had written the row by
the time of that query. -/
structure Turn where
  queried : Bool := false
  read : Bool := false
  first : Bool := false
  deriving DecidableEq, Repr

/-- The sync writes the row only before `persistStats` reads it, or when
`persistStats` had written it before the first query of the sync. -/
def oneAtATime (id : Nat) : Discipline StorageCall Turn where
  allows := fun turn call =>
    match call with
    | (.left, .update profile) => profile.id != id || !turn.read || turn.first
    | _ => true
  next := fun turn call =>
    match call with
    | (.left, .listAll) => { turn with queried := true }
    | (.right, .get _) => { turn with read := true }
    | (.right, .update _) => { turn with first := !turn.queried }
    | _ => turn

/-! What `persistStats` does on an open database. -/

inductive Persisting where
  | idle
  | read (row : Option Profile)
  | written

/-- The contract of `persistStats`: one read of the row, and one write of what
was read with the totals added. -/
def persistence (id : Nat) (totals : Traffic) :
    Prog.Contract StorageCall StorageCall.Result Persisting where
  admits := fun op stage =>
    match stage, op with
    | .idle, .get other => other = id
    | .read (some row), .update profile => profile = addTraffic row totals
    | _, _ => False
  replies := fun op reply _ =>
    match op, reply with
    | .get _, reply => (reply : Option (Option Profile)).isSome
    | .update _, reply => (reply : Option Nat).isSome
    | _, _ => True
  next := fun op reply stage =>
    match op, reply with
    | .get _, reply => .read (reply : Option (Option Profile)).join
    | .update _, _ => .written
    | _, _ => stage

section Persistence

variable {id : Nat} {totals : Traffic} {m : TrafficMonitor}

theorem persistence_getProfile {post : Except Failure (Option Profile) → TrafficMonitor →
    Persisting → Prop} (hpost : ∀ row, post (.ok row) m (.read row)) :
    Routine.Keeps (persistence id totals) (ProfileManager.getProfile id) post m .idle := by
  simp only [ProfileManager.getProfile, Routine.keeps_bind]
  refine ⟨rfl, ?_⟩
  intro reply hreply
  obtain ⟨row, rfl⟩ := Option.isSome_iff_exists.mp hreply
  exact hpost row

/-- The check of `updateProfile` may fail, if the row has gone. -/
theorem persistence_updateProfile {row : Profile} {post : Except Failure Unit → TrafficMonitor →
    Persisting → Prop} (hok : post (.ok ()) m .written)
    (hfailed : post (.error (.illegalState "Check failed.")) m .written) :
    Routine.Keeps (persistence id totals) (ProfileManager.updateProfile (addTraffic row totals)) post
      m (.read (some row)) := by
  simp only [ProfileManager.updateProfile, Routine.keeps_bind]
  refine ⟨rfl, ?_⟩
  intro reply hreply
  obtain ⟨count, rfl⟩ := Option.isSome_iff_exists.mp hreply
  change Routine.Keeps _ (opened .cantOpenDatabase (some count) >>= fun count =>
    check (count == 1) "Check failed.") post m .written
  simp only [Routine.keeps_bind, keeps_opened_some, Routine.AndThen]
  cases count == 1 with
  | true => exact hok
  | false => exact hfailed

/-- A call that ends without having written has found no row. -/
theorem keeps_persistStats (hunchanged : m.unchanged = true) :
    Routine.Keeps (persistence id m.current.traffic) (TrafficMonitor.persistStats id)
      (fun _ _ stage => stage = .written ∨ stage = .read none) m .idle := by
  simp only [TrafficMonitor.persistStats, Routine.keeps_bind, Routine.keeps_read, Routine.AndThen,
    hunchanged, keeps_check_true, Routine.keeps_modify, Routine.keeps_tryCatch,
    TrafficMonitor.persistRow]
  refine persistence_getProfile ?_
  intro row
  cases row with
  | none => exact Or.inr rfl
  | some row => exact persistence_updateProfile (Or.inl rfl) (Or.inl rfl)

end Persistence

/-- The counters of the row as they are stored. -/
def counters (start totals : Traffic) : Persisting → Traffic
  | .written => start + totals
  | _ => start

/-- What each stage of `persistStats` says about the turn and the row. -/
def Persisting.Fits (id : Nat) (turn : Turn) (table : ProfileTable) : Persisting → Prop
  | .idle => turn.read = false ∧ turn.first = false
  | .read row => turn.read = true ∧ turn.first = false ∧ (∀ old ∈ row, old.id = id) ∧
      ∀ stored, table.find? id = some stored → row = some stored
  | .written => turn.read = true

/-- The storage against the storage that the sync has made by itself: they
differ in the counters of the row and in the device file. -/
structure Racing (id : Nat) (start totals : Traffic) (turn : Turn) (s : Storage) (g : Watched)
    (stage : Persisting) : Prop where
  isOpen : s.isOpen = true
  ghostOpen : g.storage.isOpen = true
  profileId : s.profileId = g.storage.profileId
  directBootAware : s.directBootAware = g.storage.directBootAware
  sequence : s.table.sequence = g.storage.table.sequence
  watched : id ≤ g.storage.table.sequence
  rows : s.table.rows = g.storage.table.rows.map (retraffic id (counters start totals stage))
  snapshot : turn.read = false ∨ turn.first = true →
    g.snapshot = none ∨ g.snapshot = some (counters start totals stage)
  unqueried : turn.queried = false → g.snapshot = none
  fits : stage.Fits id turn s.table

namespace Racing

variable {id : Nat} {start totals : Traffic} {turn : Turn} {s : Storage} {g : Watched}
  {stage : Persisting}

theorem find? (h : Racing id start totals turn s g stage) (other : Nat) :
    s.table.find? other =
      (g.storage.table.find? other).map (retraffic id (counters start totals stage)) := by
  rw [ProfileTable.find?, h.rows, List.find?_map]
  congr 2
  funext row
  simp

/-- A change of both tables that keeps them alike. While `persistStats` is
between its read and its write, the row must not change. -/
theorem setTable (h : Racing id start totals turn s g stage) {table ghost : ProfileTable}
    (hsequence : table.sequence = ghost.sequence)
    (hgrows : g.storage.table.sequence ≤ ghost.sequence)
    (hrows : table.rows = ghost.rows.map (retraffic id (counters start totals stage)))
    (hrow : turn.read = false ∨ turn.first = true ∨
      ∀ stored, table.find? id = some stored → s.table.find? id = some stored) :
    Racing id start totals turn (s.setTable table) (g.setTable ghost) stage := by
  refine { h with
    sequence := hsequence
    watched := Nat.le_trans h.watched hgrows
    rows := hrows
    fits := ?_ }
  have hfits := h.fits
  cases stage with
  | idle => exact hfits
  | written => exact hfits
  | read row =>
      obtain ⟨hread, hfirst, hid, hsame⟩ := hfits
      refine ⟨hread, hfirst, hid, ?_⟩
      rcases hrow with hcontra | hcontra | hkeeps
      · simp [hread] at hcontra
      · simp [hfirst] at hcontra
      · intro stored hstored
        exact hsame stored (hkeeps stored hstored)

/-- A call of the sync: the reply is as expected, and the storage and the ghost
stay alike. -/
def StepsLeft (id : Nat) (start totals : Traffic) (turn : Turn) (s : Storage) (g : Watched)
    (stage : Persisting) (op : StorageCall) : Prop :=
  (Subscription.watched id).replies op (Storage.handle op s).1 g ∧
    Racing id start totals ((oneAtATime id).next turn (.left, op)) (Storage.handle op s).2
      ((Subscription.watched id).next op (Storage.handle op s).1 g) stage

/-- A call that changes at most the table and is answered truthfully. -/
theorem stepsLeft_table (h : Racing id start totals turn s g stage) {op : StorageCall}
    {table ghost : ProfileTable} (hturn : (oneAtATime id).next turn (.left, op) = turn)
    (hreply : Answers id op (Storage.handle op s).1 (Storage.handle op g.storage).1)
    (hnoticed : ∀ reply, noticed id op reply = none)
    (hstorage : (Storage.handle op s).2 = s.setTable table)
    (hghost : (Storage.handle op g.storage).2 = g.storage.setTable ghost)
    (hsequence : table.sequence = ghost.sequence)
    (hgrows : g.storage.table.sequence ≤ ghost.sequence)
    (hrows : table.rows = ghost.rows.map (retraffic id (counters start totals stage)))
    (hrow : turn.read = false ∨ turn.first = true ∨
      ∀ stored, table.find? id = some stored → s.table.find? id = some stored) :
    StepsLeft id start totals turn s g stage op := by
  have hnext : (Subscription.watched id).next op (Storage.handle op s).1 g = g.setTable ghost := by
    simp [Subscription.watched, hnoticed, hghost, Watched.setTable]
  refine ⟨hreply, ?_⟩
  rw [hturn, hnext, hstorage]
  exact h.setTable hsequence hgrows hrows hrow

theorem stepsLeft_get (h : Racing id start totals turn s g stage) (other : Nat) :
    StepsLeft id start totals turn s g stage (.get other) := by
  have hstorage : Storage.handle (.get other) s = _ :=
    s.onTable_open (s.table.find? other) s.table h.isOpen
  have hghost : Storage.handle (.get other) g.storage = _ :=
    g.storage.onTable_open (g.storage.table.find? other) g.storage.table h.ghostOpen
  refine h.stepsLeft_table rfl ?_ (fun _ => rfl) (congrArg Prod.snd hstorage)
    (congrArg Prod.snd hghost) h.sequence (Nat.le_refl _) h.rows (Or.inr (Or.inr fun _ hfind => hfind))
  refine ⟨counters start totals stage, ?_⟩
  rw [hstorage, hghost, h.find?]
  rfl

theorem stepsLeft_nextOrder (h : Racing id start totals turn s g stage) :
    StepsLeft id start totals turn s g stage .nextOrder := by
  have hstorage : Storage.handle .nextOrder s = _ :=
    s.onTable_open s.table.nextOrder s.table h.isOpen
  have hghost : Storage.handle .nextOrder g.storage = _ :=
    g.storage.onTable_open g.storage.table.nextOrder g.storage.table h.ghostOpen
  have horder : s.table.nextOrder = g.storage.table.nextOrder := by
    have hmap : s.table.rows.map Profile.userOrder =
        g.storage.table.rows.map Profile.userOrder := by
      rw [h.rows, List.map_map]
      congr 1
      funext row
      simp only [Function.comp_apply, retraffic]
      split <;> rfl
    rw [ProfileTable.nextOrder, ProfileTable.nextOrder, hmap]
  refine h.stepsLeft_table rfl ?_ (fun _ => rfl) (congrArg Prod.snd hstorage)
    (congrArg Prod.snd hghost) h.sequence (Nat.le_refl _) h.rows (Or.inr (Or.inr fun _ hfind => hfind))
  rw [hstorage, hghost, horder]
  rfl

theorem stepsLeft_create (h : Racing id start totals turn s g stage) (profile : Profile) :
    StepsLeft id start totals turn s g stage (.create profile) := by
  have hwatched := h.watched
  have hstorage : Storage.handle (.create profile) s = _ :=
    s.onTable_open (s.table.sequence + 1) (s.table.insert profile) h.isOpen
  have hghost : Storage.handle (.create profile) g.storage = _ :=
    g.storage.onTable_open (g.storage.table.sequence + 1) (g.storage.table.insert profile) h.ghostOpen
  have hinserted : retraffic id (counters start totals stage) (g.storage.table.inserted profile) =
      s.table.inserted profile := by
    have hid : (g.storage.table.inserted profile).id = g.storage.table.sequence + 1 := rfl
    rw [retraffic, if_neg (by omega), ProfileTable.inserted, ProfileTable.inserted, h.sequence]
  refine h.stepsLeft_table rfl ?_ (fun _ => rfl) (congrArg Prod.snd hstorage)
    (congrArg Prod.snd hghost) ?_ ?_ ?_ ?_
  · rw [hstorage, hghost, h.sequence]
    rfl
  · change s.table.sequence + 1 = g.storage.table.sequence + 1
    rw [h.sequence]
  · exact Nat.le_succ _
  · change s.table.rows ++ [s.table.inserted profile] =
      (g.storage.table.rows ++ [g.storage.table.inserted profile]).map _
    rw [List.map_append, ← h.rows, List.map_singleton, hinserted]
  · refine Or.inr (Or.inr ?_)
    intro stored hstored
    have hsequence := h.sequence
    rw [s.table.find?_insert_of_ne profile (by omega)] at hstored
    exact hstored

theorem stepsLeft_delete (h : Racing id start totals turn s g stage) (other : Nat) :
    StepsLeft id start totals turn s g stage (.delete other) := by
  have hstorage : Storage.handle (.delete other) s = _ :=
    s.onTable_open (s.table.count other) (s.table.delete other) h.isOpen
  have hghost : Storage.handle (.delete other) g.storage = _ :=
    g.storage.onTable_open (g.storage.table.count other) (g.storage.table.delete other) h.ghostOpen
  refine h.stepsLeft_table rfl ?_ (fun _ => rfl) (congrArg Prod.snd hstorage)
    (congrArg Prod.snd hghost) h.sequence (Nat.le_refl _) ?_ ?_
  · rw [hstorage, hghost, ProfileTable.count, h.find?, Option.isSome_map]
    rfl
  · change s.table.rows.filter _ = (g.storage.table.rows.filter _).map _
    rw [h.rows, List.filter_map]
    congr 2
    funext row
    simp
  · refine Or.inr (Or.inr ?_)
    intro stored hstored
    obtain ⟨hmem, hid⟩ := ((s.table.delete other).find?_eq_some_iff id stored).mp hstored
    exact (s.table.find?_eq_some_iff id stored).mpr ⟨((s.table.mem_delete_iff other stored).mp hmem).1, hid⟩

/-- A write of the row by the sync: the discipline and the contract let it
through only with the counters that are stored. -/
theorem stepsLeft_update (h : Racing id start totals turn s g stage) {profile : Profile}
    (hadmitted : Admitted id g (.update profile))
    (hallowed : (oneAtATime id).allows turn (.left, .update profile) = true) :
    StepsLeft id start totals turn s g stage (.update profile) := by
  have hstorage : Storage.handle (.update profile) s = _ :=
    s.onTable_open (s.table.count profile.id) (s.table.update profile) h.isOpen
  have hghost : Storage.handle (.update profile) g.storage = _ :=
    g.storage.onTable_open (g.storage.table.count profile.id) (g.storage.table.update profile)
      h.ghostOpen
  have hmine (heq : profile.id = id) : turn.read = false ∨ turn.first = true := by
    simpa [oneAtATime, heq] using hallowed
  have hcounters (heq : profile.id = id) :
      Bg.traffic profile = counters start totals stage := by
    rcases h.snapshot (hmine heq) with hnone | hsome
    · rw [hadmitted heq] at hnone
      cases hnone
    · rw [hadmitted heq] at hsome
      exact Option.some.inj hsome
  refine h.stepsLeft_table rfl ?_ (fun _ => rfl) (congrArg Prod.snd hstorage)
    (congrArg Prod.snd hghost) h.sequence (Nat.le_refl _) ?_ ?_
  · rw [hstorage, hghost, ProfileTable.count, h.find?, Option.isSome_map]
    rfl
  · change s.table.rows.map _ = (g.storage.table.rows.map _).map _
    rw [h.rows, List.map_map, List.map_map]
    congr 1
    funext row
    simp only [Function.comp_apply, ProfileTable.replace, retraffic_id]
    split
    · by_cases heq : profile.id = id
      · rw [← hcounters heq]
        simp [retraffic, Bg.traffic, Profile.toRow, heq]
      · simp [retraffic, Profile.toRow, heq]
    · rfl
  · by_cases heq : profile.id = id
    · rcases hmine heq with hread | hfirst
      · exact Or.inl hread
      · exact Or.inr (Or.inl hfirst)
    · refine Or.inr (Or.inr ?_)
      intro stored hstored
      rw [s.table.find?_update_of_ne profile (Ne.symm heq)] at hstored
      exact hstored

/-- The first query of the sync takes the counters as they are stored. -/
theorem stepsLeft_listAll (h : Racing id start totals turn s g stage) :
    StepsLeft id start totals turn s g stage .listAll := by
  have hstorage : Storage.handle .listAll s = _ := s.onTable_open s.table.rows s.table h.isOpen
  have hghost : Storage.handle .listAll g.storage = _ :=
    g.storage.onTable_open g.storage.table.rows g.storage.table h.ghostOpen
  have hnext : (Subscription.watched id).next .listAll (Storage.handle .listAll s).1 g =
      ⟨g.storage, g.snapshot.or ((s.table.find? id).map Bg.traffic)⟩ := by
    rw [hstorage]
    simp only [Subscription.watched, hghost]
    rfl
  refine ⟨⟨counters start totals stage, ?_⟩, ?_⟩
  · rw [hstorage, hghost, h.rows]
    rfl
  · rw [hnext, hstorage]
    refine { h with snapshot := ?_, unqueried := ?_, fits := ?_ }
    · intro hmine
      rcases h.snapshot hmine with hnone | hsome
      · rw [hnone, Option.none_or, h.find?, Option.map_map]
        cases hfind : g.storage.table.find? id with
        | none => exact Or.inl rfl
        | some row =>
            have hid := ((g.storage.table.find?_eq_some_iff id row).mp hfind).2
            exact Or.inr (by simp [retraffic, hid, Bg.traffic])
      · exact Or.inr (by rw [hsome, Option.some_or])
    · intro hqueried
      cases hqueried
    · have hfits := h.fits
      cases stage <;> exact hfits

/-- A change that the tables have no part in. -/
theorem stepsLeft_other (h : Racing id start totals turn s g stage) {op : StorageCall}
    (hturn : (oneAtATime id).next turn (.left, op) = turn)
    (hreply : Answers id op (Storage.handle op s).1 (Storage.handle op g.storage).1)
    (hnoticed : ∀ reply, noticed id op reply = none) (profileId : Nat) (file file' : DeviceFile)
    (hstorage : (Storage.handle op s).2 = (s.setProfileId profileId).setDeviceFile file)
    (hghost : (Storage.handle op g.storage).2 =
      (g.storage.setProfileId profileId).setDeviceFile file') :
    StepsLeft id start totals turn s g stage op := by
  have hnext : (Subscription.watched id).next op (Storage.handle op s).1 g =
      { g with storage := (g.storage.setProfileId profileId).setDeviceFile file' } := by
    simp [Subscription.watched, hnoticed, hghost]
  refine ⟨hreply, ?_⟩
  rw [hturn, hnext, hstorage]
  exact { h with profileId := rfl }

theorem stepsLeft (h : Racing id start totals turn s g stage) (op : StorageCall)
    (hadmitted : Admitted id g op)
    (hallowed : (oneAtATime id).allows turn (.left, op) = true) :
    StepsLeft id start totals turn s g stage op := by
  cases op with
  | get other => exact h.stepsLeft_get other
  | listAll => exact h.stepsLeft_listAll
  | nextOrder => exact h.stepsLeft_nextOrder
  | create profile => exact h.stepsLeft_create profile
  | update profile => exact h.stepsLeft_update hadmitted hallowed
  | delete other => exact h.stepsLeft_delete other
  | deleteAll => exact hadmitted.elim
  | readDeviceFile => exact hadmitted.elim
  | profileId =>
      refine h.stepsLeft_other rfl h.profileId (fun _ => rfl) s.profileId s.deviceFile
        g.storage.deviceFile rfl ?_
      rw [h.profileId]
      rfl
  | setProfileId other =>
      exact h.stepsLeft_other rfl rfl (fun _ => rfl) other s.deviceFile g.storage.deviceFile rfl rfl
  | directBootAware =>
      refine h.stepsLeft_other rfl h.directBootAware (fun _ => rfl) s.profileId s.deviceFile
        g.storage.deviceFile rfl ?_
      rw [h.profileId]
      rfl
  | truncateDeviceFile =>
      refine h.stepsLeft_other rfl rfl (fun _ => rfl) s.profileId .truncated .truncated rfl ?_
      rw [h.profileId]
      rfl
  | writeDeviceFile expanded =>
      refine h.stepsLeft_other rfl rfl (fun _ => rfl) s.profileId (.holds expanded)
        (.holds expanded) rfl ?_
      rw [h.profileId]
      rfl
  | deleteDeviceFile =>
      refine h.stepsLeft_other rfl rfl (fun _ => rfl) s.profileId .absent .absent rfl ?_
      rw [h.profileId]
      rfl

/-- `persistStats` reads the row. -/
theorem readRow (h : Racing id start totals turn s g .idle) :
    Racing id start totals { turn with read := true } s g (.read (s.table.find? id)) := by
  obtain ⟨-, hfirst⟩ := h.fits
  refine { h with snapshot := ?_, fits := ⟨rfl, hfirst, ?_, fun _ hfind => hfind⟩ }
  · rintro (hread | hfirst')
    · cases hread
    · rw [hfirst] at hfirst'
      cases hfirst'
  · intro old hold
    exact ((s.table.find?_eq_some_iff id old).mp hold).2

/-- `persistStats` writes back what it has read. -/
theorem writeRow {row : Profile} (h : Racing id start totals turn s g (.read (some row))) :
    Racing id start totals { turn with first := !turn.queried }
      (s.setTable (s.table.update (addTraffic row totals))) g .written := by
  obtain ⟨hread, -, hid, hsame⟩ := h.fits
  have hrowId : (addTraffic row totals).id = id := hid row rfl
  refine { h with rows := ?_, snapshot := ?_, fits := hread }
  · change s.table.rows.map (ProfileTable.replace (addTraffic row totals)) = _
    rw [h.rows, List.map_map]
    apply List.map_congr_left
    intro old hold
    simp only [Function.comp_apply, ProfileTable.replace, retraffic_id, hrowId]
    by_cases heq : old.id = id
    · have hfound : s.table.find? id = some (retraffic id start old) := by
        rw [h.find?, (g.storage.table.find?_eq_some_iff id old).mpr ⟨hold, heq⟩]
        rfl
      have hdirty := g.storage.table.stored old hold
      rw [if_pos heq, Option.some.inj (hsame _ hfound)]
      cases old
      simp_all [retraffic, addTraffic, Profile.toRow, counters]
    · simp [retraffic, heq]
  · rintro (hcontra | hfirst)
    · simp [hread] at hcontra
    · exact Or.inl (h.unqueried (by simpa using hfirst))

theorem stepsRight (h : Racing id start totals turn s g stage) (op : StorageCall)
    (hadmitted : (persistence id totals).admits op stage) :
    (persistence id totals).replies op (Storage.handle op s).1 stage ∧
      Racing id start totals ((oneAtATime id).next turn (.right, op)) (Storage.handle op s).2 g
        ((persistence id totals).next op (Storage.handle op s).1 stage) := by
  unfold persistence at hadmitted
  simp only at hadmitted
  split at hadmitted
  · rename_i other
    subst hadmitted
    have hstorage : Storage.handle (.get other) s = _ :=
      s.onTable_open (s.table.find? other) s.table h.isOpen
    rw [hstorage]
    exact ⟨rfl, h.readRow⟩
  · rename_i row profile
    subst hadmitted
    have hstorage : Storage.handle (.update (addTraffic row totals)) s = _ :=
      s.onTable_open (s.table.count (addTraffic row totals).id)
        (s.table.update (addTraffic row totals)) h.isOpen
    rw [hstorage]
    exact ⟨rfl, h.writeRow⟩
  · exact hadmitted.elim

theorem cooperation (id : Nat) (start totals : Traffic) :
    Prog.Cooperation Storage.handle (Subscription.watched id) (persistence id totals)
      (oneAtATime id) (Racing id start totals) where
  left := fun op _ _ _ _ h hadmitted hallowed => h.stepsLeft op hadmitted hallowed
  right := fun op _ _ _ _ h hadmitted _ => h.stepsRight op hadmitted

theorem start_of_row {row : Profile} (hopen : s.isOpen = true) (hrow : s.table.find? id = some row) :
    Racing id (Bg.traffic row) totals {} s ⟨s, none⟩ .idle where
  isOpen := hopen
  ghostOpen := hopen
  profileId := rfl
  directBootAware := rfl
  sequence := rfl
  watched := by
    obtain ⟨hmem, hid⟩ := (s.table.find?_eq_some_iff id row).mp hrow
    rw [← hid]
    exact (s.table.ids row hmem).2
  rows := by
    have hsame : ∀ other ∈ s.table.rows, retraffic id (Bg.traffic row) other = other := by
      intro other hother
      unfold retraffic
      split
      · rename_i hid
        have hfind := (s.table.find?_eq_some_iff id other).mpr ⟨hother, hid⟩
        rw [hrow] at hfind
        cases hfind
        rfl
      · rfl
    exact ((List.map_congr_left hsame).trans (List.map_id _)).symm
  snapshot := fun _ => Or.inl rfl
  unqueried := fun _ => rfl
  fits := ⟨rfl, rfl⟩

/-- What the end of both sides says about the row. -/
theorem noLostUpdate {run : Interleaved StorageCall (Except Failure Unit × SyncMemory)
      (Except Failure Unit × TrafficMonitor) Storage} {storage : Storage} {rows : List Profile}
    {row : Profile} (h : Racing id start totals turn run.store g stage)
    (hstage : stage = .written ∨ stage = .read none)
    (hsynced : Synced storage rows id run.left.1 run.left.2 g) (hmem : row ∈ storage.table.rows)
    (hid : row.id = id) : NoLostUpdate id start totals run := by
  intro stored hstored
  have hfind := h.find? id
  rw [hstored] at hfind
  obtain ⟨ghost, hghost, hretraffic⟩ := Option.map_eq_some_iff.mp hfind.symm
  have hghostId := ((g.storage.table.find?_eq_some_iff id ghost).mp hghost).2
  rcases hstage with rfl | rfl
  · obtain ⟨seen, hrows⟩ := hsynced.syncing.answer
    have hanswer : retraffic id seen row ∈ rows := by
      rw [hrows]
      exact List.mem_map_of_mem hmem
    have hanswerId : (retraffic id seen row).id = id := by rw [retraffic_id, hid]
    have hsome := hsynced.syncing.objects _ hanswer
    rw [hanswerId] at hsome
    obtain ⟨object, hobject⟩ := Option.isSome_iff_exists.mp hsome
    have hassigned := hsynced.written _ hanswer object ghost
      (by rw [hanswerId]; exact hobject) (by rw [hanswerId]; exact hghost)
    rw [← hretraffic]
    refine ⟨?_, object, hobject, ?_⟩
    · exact traffic_retraffic _ hghostId
    · exact ⟨by simp [hassigned.1], by simp [hassigned.2], by simp [hassigned.3],
        by simp [hassigned.4]⟩
  · obtain ⟨-, -, -, hnone⟩ := h.fits
    cases hnone stored hstored

end Racing

/-- No update is lost in an interleaving in which the two sides take turns on
the row. -/
theorem noLostUpdate_of_oneAtATime (order : HashOrder) (documents : List Document) (id : Nat)
    (monitor : TrafficMonitor) (schedule : List Side) (storage : Storage) (row : Profile)
    (hopen : storage.isOpen = true) (hrow : storage.table.find? id = some row)
    (hunchanged : monitor.unchanged = true)
    (hturns : (oneAtATime id).accepts {}
      (race order documents id monitor schedule storage).log = true) :
    NoLostUpdate id (traffic row) monitor.current.traffic
      (race order documents id monitor schedule storage) := by
  obtain ⟨hmem, hid⟩ := (storage.table.find?_eq_some_iff id row).mp hrow
  have hwatched : id ≤ storage.table.sequence := by
    rw [← hid]
    exact (storage.table.ids row hmem).2
  obtain ⟨turn, g, stage, hracing, ⟨rows, hsynced⟩, hstage⟩ :=
    (Racing.cooperation id (traffic row) monitor.current.traffic).interleave schedule
      (Racing.start_of_row hopen hrow) (keeps_sync hopen hwatched order documents)
      (keeps_persistStats hunchanged) hturns
  exact hracing.noLostUpdate hstage hsynced hmem hid

/-- One active subscription row that is the current profile. -/
def subscribedStorage : Storage where
  isOpen := true
  table := ⟨[{ id := 1, subscription := .active }], 1, by simp, by simp, by simp⟩
  profileId := 1
  directBootAware := false
  deviceFile := .absent

/-- A session of 5 bytes sent and 7 received. -/
def smallSession : TrafficMonitor := { current := { txTotal := 5, rxTotal := 7 } }

/-- The session is accounted for and then the subscription drops the profile. -/
theorem noLostUpdate_persisted_first :
    (oneAtATime 1).accepts {} (race .insertion [] 1 smallSession [.right, .right]
        subscribedStorage).log = true ∧
      NoLostUpdate 1 0 (5, 7)
        (race .insertion [] 1 smallSession [.right, .right] subscribedStorage) := by
  have hturns : (oneAtATime 1).accepts {} (race .insertion [] 1 smallSession [.right, .right]
      subscribedStorage).log = true := by decide +kernel
  refine ⟨hturns, ?_⟩
  exact noLostUpdate_of_oneAtATime .insertion [] 1 smallSession [.right, .right] subscribedStorage
    { id := 1, subscription := .active } rfl (by decide) (by decide) hturns

/-- `persistStats` between the first query and the write-back: the write-back
puts the old counters over the new ones. -/
theorem noLostUpdate_fails_in_between :
    ¬ NoLostUpdate 1 0 (5, 7)
      (race .insertion [] 1 smallSession [.left, .left, .right, .right] subscribedStorage) := by
  intro hkeeps
  have hlost := (hkeeps { id := 1, subscription := .obsolete } (by decide +kernel)).1
  revert hlost
  decide

end WifiProject.Subscription
