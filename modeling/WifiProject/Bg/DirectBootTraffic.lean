import WifiProject.Bg.TrafficSession

/-!
Traffic accounting before the first unlock. The main profile and its fallback
each have a monitor of their own; both account in the device file, and the
unlock broadcast moves what is in the file into the database.
-/

namespace WifiProject.Bg

open Lib Database

/-- The monitors of the running profiles, by profile id, over one storage. -/
structure DirectBootSession where
  monitors : Nat → TrafficMonitor := fun _ => {}
  storage : Storage

namespace DirectBootSession

def start (storage : Storage) : DirectBootSession := { storage }

/-- The session of one of the profiles. -/
def of (session : DirectBootSession) (id : Nat) : Session := ⟨session.monitors id, session.storage⟩

def step (session : DirectBootSession) (event : Nat × SessionEvent) : DirectBootSession where
  monitors := Function.update session.monitors event.1
    ((session.of event.1).step event.1 event.2).monitor
  storage := ((session.of event.1).step event.1 event.2).storage

def run (session : DirectBootSession) (events : List (Nat × SessionEvent)) : DirectBootSession :=
  events.foldl step session

end DirectBootSession

def eventsOf (id : Nat) (events : List (Nat × SessionEvent)) : List SessionEvent :=
  (events.filter (·.1 = id)).map Prod.snd

/-- The totals last reported, those at the last `persistStats` call, and the sum
of those at the calls before it. -/
structure Calls where
  reported : Traffic := 0
  last : Traffic := 0
  earlier : Traffic := 0

def Calls.record (calls : Calls) (event : SessionEvent) : Calls where
  reported := report calls.reported event
  last := if event = .persistStats then calls.reported else calls.last
  earlier := if event = .persistStats then calls.earlier + calls.last else calls.earlier

def calls (events : List SessionEvent) : Calls := events.foldl Calls.record {}

/-- The user unlocks the device: the database can be opened from now on. -/
def unlock (storage : Storage) : Storage := { storage with isOpen := true }

/-- `DirectBoot.flushTrafficStats()` by itself. -/
def flushTrafficStats (storage : Storage) : Except Failure Unit × Unit × Storage :=
  Routine.exec Storage.handle DirectBoot.flushTrafficStats () storage

/-- Nothing is lost between the device file before the session and the rows
after the unlock. -/
structure LosesNothing (storage : Storage) (expanded : ExpandedProfile)
    (events : List (Nat × SessionEvent)) : Prop where
  completes : ∀ before id after, events = before ++ (id, .persistStats) :: after →
    ((((DirectBootSession.start storage).run before).of id).persist id).1 = .ok ()
  file : ∃ device,
    ((DirectBootSession.start storage).run events).storage.deviceFile = .holds device ∧
      device.toList.map Profile.toRow = expanded.toList.map fun profile =>
        (addTraffic profile (calls (eventsOf profile.id events)).last).toRow
  flushed : (flushTrafficStats (unlock ((DirectBootSession.start storage).run events).storage)).1 =
      .ok () ∧
    ∀ profile ∈ expanded.toList,
      ((flushTrafficStats (unlock ((DirectBootSession.start storage).run events).storage)).2.2.table.find?
        profile.id).map traffic = some (traffic profile + (calls (eventsOf profile.id events)).last)

/-- The device has booted and is still locked, with a profile in the device
file; its row and that of its fallback exist, and nothing else is running. -/
structure DirectBooted (storage : Storage) (expanded : ExpandedProfile)
    (events : List (Nat × SessionEvent)) : Prop where
  locked : storage.isOpen = false
  aware : storage.directBootAware = true
  file : storage.deviceFile = .holds expanded
  rows : ∀ profile ∈ expanded.toList, (storage.table.find? profile.id).isSome
  distinct : (expanded.toList.map Profile.id).Nodup
  running : ∀ event ∈ events, event.1 ∈ expanded.toList.map Profile.id

/-! Flushing after the unlock. -/

section Flush

open Storage (handle)

variable {σ : Type} (m : σ) (s : Storage)

/-- What flushing a list of profiles makes of the table. -/
def flushRows (table : ProfileTable) (profiles : List Profile) : ProfileTable :=
  profiles.foldl (fun table profile => if profile.dirty then table.update profile else table) table

theorem exec_forEach_flush (hopen : s.isOpen = true) (profiles : List Profile)
    (hrows : ∀ profile ∈ profiles, (s.table.find? profile.id).isSome) :
    Routine.exec handle (Routine.forEach profiles DirectBoot.flush : Code σ Unit) m s =
      (.ok (), m, s.setTable (flushRows s.table profiles)) := by
  induction profiles generalizing s with
  | nil => rfl
  | cons profile profiles ih =>
      have hrow := hrows profile (by simp)
      rw [Routine.exec_forEach_cons]
      cases hdirty : profile.dirty with
      | false =>
          simp only [DirectBoot.flush, hdirty, Bool.false_eq_true, if_false, Routine.exec_pure]
          rw [ih s hopen fun other hmem => hrows other (List.mem_cons_of_mem _ hmem)]
          simp [flushRows, hdirty]
      | true =>
          simp only [DirectBoot.flush, hdirty, if_true, exec_updateProfile m s profile hopen hrow]
          rw [ih (s.setTable (s.table.update profile)) hopen ?_]
          · simp [flushRows, hdirty, Storage.setTable]
          · intro other hmem
            have hother := hrows other (List.mem_cons_of_mem _ hmem)
            simpa [ProfileTable.find?_update] using hother

theorem flushRows_find?_of_not_mem (table : ProfileTable) (profiles : List Profile) (id : Nat)
    (hnot : id ∉ profiles.map Profile.id) : (flushRows table profiles).find? id = table.find? id := by
  induction profiles generalizing table with
  | nil => rfl
  | cons profile profiles ih =>
      simp only [List.map_cons, List.mem_cons, not_or] at hnot
      have hhead : (if profile.dirty then table.update profile else table).find? id =
          table.find? id := by
        split
        · exact table.find?_update_of_ne profile hnot.1
        · rfl
      rw [← hhead]
      exact ih _ hnot.2

theorem flushRows_find? (table : ProfileTable) (profiles : List Profile)
    (hdistinct : (profiles.map Profile.id).Nodup) (profile : Profile) (hmem : profile ∈ profiles)
    (hrow : (table.find? profile.id).isSome) :
    (flushRows table profiles).find? profile.id =
      if profile.dirty then some profile.toRow else table.find? profile.id := by
  induction profiles generalizing table with
  | nil => simp at hmem
  | cons head profiles ih =>
      simp only [List.map_cons, List.nodup_cons] at hdistinct
      rcases List.mem_cons.mp hmem with rfl | hmem
      · have hrest := flushRows_find?_of_not_mem
          (if profile.dirty then table.update profile else table) profiles profile.id hdistinct.1
        refine hrest.trans ?_
        split
        · obtain ⟨row, hrow⟩ := Option.isSome_iff_exists.mp hrow
          rw [table.find?_update_stored hrow, if_pos rfl]
        · rfl
      · have hne : profile.id ≠ head.id := by
          intro heq
          exact hdistinct.1 (heq ▸ List.mem_map_of_mem hmem)
        have hhead : (if head.dirty then table.update head else table).find? profile.id =
            table.find? profile.id := by
          split
          · exact table.find?_update_of_ne head hne
          · rfl
        rw [← hhead]
        exact ih _ hdistinct.2 hmem (by rw [hhead]; exact hrow)

/-- The rows after a flush: a dirty profile has overwritten its row. -/
theorem flushTrafficStats_rows (device : ExpandedProfile) (hopen : s.isOpen = true)
    (hfile : s.deviceFile = .holds device)
    (hrows : ∀ profile ∈ device.toList, (s.table.find? profile.id).isSome) :
    (flushTrafficStats s).1 = .ok () ∧
      (flushTrafficStats s).2.2.table = flushRows s.table device.toList := by
  obtain ⟨file, hcurrent⟩ := exec_updateCurrent () (s.setTable (flushRows s.table device.toList)) hopen
  have hflush := exec_forEach_flush () s hopen device.toList hrows
  simp [flushTrafficStats, DirectBoot.flushTrafficStats, Routine.exec_bind, hfile, DeviceFile.read,
    hflush, hcurrent]

end Flush

/-! The session itself, while the database stays shut. -/

theorem eventsOf_concat (id : Nat) (events : List (Nat × SessionEvent)) (event : Nat × SessionEvent) :
    eventsOf id (events ++ [event]) =
      if event.1 = id then eventsOf id events ++ [event.2] else eventsOf id events := by
  unfold eventsOf
  split <;> simp_all [List.filter_append]

theorem mem_eventsOf_iff (id : Nat) (events : List (Nat × SessionEvent)) (event : SessionEvent) :
    event ∈ eventsOf id events ↔ (id, event) ∈ events := by
  simp [eventsOf]

theorem directBootRun_concat (session : DirectBootSession) (events : List (Nat × SessionEvent))
    (event : Nat × SessionEvent) :
    session.run (events ++ [event]) = (session.run events).step event := by
  simp [DirectBootSession.run]

/-- What a session that started from `storage` and saw `events` has changed. -/
structure DirectBootSession.Locked (session : DirectBootSession) (storage : Storage)
    (events : List (Nat × SessionEvent)) : Prop where
  follows : ∀ id, (session.of id).Follows (eventsOf id events)
  storage : session.storage = storage.setDeviceFile session.storage.deviceFile

section Locked

variable {storage : Storage} {session : DirectBootSession} {events : List (Nat × SessionEvent)}

theorem DirectBootSession.Locked.isOpen (hlocked : session.Locked storage events)
    (hclosed : storage.isOpen = false) : session.storage.isOpen = false := by
  rw [hlocked.storage]
  exact hclosed

/-- One `persistStats` call: it throws, at worst after emptying the file, or it
writes the one profile it was called for. -/
theorem persist_locked (hlocked : session.Locked storage events) (hclosed : storage.isOpen = false)
    (haware : storage.directBootAware = true) (id : Nat) :
    (∃ failure file, (session.of id).persist id = (.error failure,
        ⟨{ session.monitors id with persisted := some .current },
          storage.setDeviceFile file⟩) ∧
        (file = session.storage.deviceFile ∨ file = .truncated)) ∨
      ∃ profile, (session.storage.deviceFile.read.elim [] ExpandedProfile.toList).filter
          (·.id = id) = [profile] ∧
        profile.udpFallback = none ∧
        (session.of id).persist id = (.ok (), ⟨{ session.monitors id with persisted := some .current },
          storage.setDeviceFile (.holds
            ⟨{ addTraffic profile (reported (eventsOf id events)) with dirty := true }, none⟩)⟩) := by
  have hopen : (session.of id).storage.isOpen = false := hlocked.isOpen hclosed
  by_cases hpersistable : Persistable id (session.of id).storage
  · obtain hopen' | ⟨_, profile, hprofile, hfallback⟩ := hpersistable
    · simp [hopen] at hopen'
    have haware' : (session.of id).storage.directBootAware = true := by
      change session.storage.directBootAware = true
      rw [hlocked.storage]
      exact haware
    refine Or.inr ⟨profile, hprofile, hfallback, ?_⟩
    rw [persist_device (hlocked.follows id) hopen haware' hprofile hfallback]
    simp only [DirectBootSession.of]
    rw [hlocked.storage]
    rfl
  · obtain ⟨failure, after, hpersist, hafter, -⟩ :=
      persist_not_persistable (hlocked.follows id) hpersistable
    refine Or.inl ⟨failure, after.deviceFile, ?_, ?_⟩
    · rw [hpersist]
      rcases hafter with rfl | rfl
      · simp only [DirectBootSession.of]
        rw [← hlocked.storage]
      · simp only [DirectBootSession.of]
        rw [hlocked.storage]
        rfl
    · rcases hafter with rfl | rfl
      · exact Or.inl rfl
      · exact Or.inr rfl

theorem DirectBootSession.Locked.step (hlocked : session.Locked storage events)
    (hclosed : storage.isOpen = false) (haware : storage.directBootAware = true)
    (event : Nat × SessionEvent) : (session.step event).Locked storage (events ++ [event]) := by
  have hthis : ((session.of event.1).step event.1 event.2).Follows
      (eventsOf event.1 events ++ [event.2]) ∧
      ((session.of event.1).step event.1 event.2).storage =
        storage.setDeviceFile ((session.of event.1).step event.1 event.2).storage.deviceFile := by
    by_cases hevent : event.2 = .persistStats
    · rw [hevent]
      rcases persist_locked hlocked hclosed haware event.1 with
        ⟨failure, file, hpersist, -⟩ | ⟨profile, -, -, hpersist⟩
      · refine ⟨(hlocked.follows event.1).persist hpersist, ?_⟩
        simp only [Session.step, hpersist]
        rfl
      · refine ⟨(hlocked.follows event.1).persist hpersist, ?_⟩
        simp only [Session.step, hpersist]
        rfl
    · obtain ⟨hfollows, hstorage⟩ := (hlocked.follows event.1).step event.1 event.2 hevent
      refine ⟨hfollows, ?_⟩
      rw [hstorage]
      exact hlocked.storage
  refine ⟨fun id => ?_, hthis.2⟩
  rw [eventsOf_concat]
  by_cases hid : event.1 = id
  · subst hid
    rw [if_pos rfl]
    refine ⟨?_, ?_⟩
    · simpa [DirectBootSession.of, DirectBootSession.step] using hthis.1.current
    · simpa [DirectBootSession.of, DirectBootSession.step] using hthis.1.persisted
  · have hother : (session.step event).monitors id = session.monitors id :=
      Function.update_of_ne (fun h => hid h.symm) _ _
    rw [if_neg hid]
    refine ⟨?_, ?_⟩
    · simpa only [DirectBootSession.of, hother] using (hlocked.follows id).current
    · simpa only [DirectBootSession.of, hother] using (hlocked.follows id).persisted

theorem run_locked (hclosed : storage.isOpen = false) (haware : storage.directBootAware = true)
    (events : List (Nat × SessionEvent)) :
    ((DirectBootSession.start storage).run events).Locked storage events := by
  induction events using List.reverseRecOn with
  | nil => exact ⟨fun id => ⟨rfl, Or.inl rfl⟩, rfl⟩
  | append_singleton events event ih =>
      rw [directBootRun_concat]
      exact ih.step hclosed haware event

/-- Without a call the device file stays as it was. -/
theorem run_without_persist (hclosed : storage.isOpen = false)
    (haware : storage.directBootAware = true) (events : List (Nat × SessionEvent))
    (hnone : ∀ event ∈ events, event.2 ≠ .persistStats) :
    ((DirectBootSession.start storage).run events).storage = storage := by
  induction events using List.reverseRecOn with
  | nil => rfl
  | append_singleton events event ih =>
      have hlocked := run_locked hclosed haware events
      have hstep := (hlocked.follows event.1).step event.1 event.2 (hnone event (by simp))
      rw [directBootRun_concat]
      refine hstep.2.trans (ih fun other hmem => hnone other ?_)
      exact List.mem_append_left _ hmem

/-- Once a call was made the file holds at most one profile, one without a
fallback. -/
theorem run_after_persist (hclosed : storage.isOpen = false)
    (haware : storage.directBootAware = true) {before after : List (Nat × SessionEvent)} {id : Nat}
    (hcompletes : ((((DirectBootSession.start storage).run before).of id).persist id).1 = .ok ())
    {device : ExpandedProfile}
    (hfile : ((DirectBootSession.start storage).run
      (before ++ (id, .persistStats) :: after)).storage.deviceFile = .holds device) :
    device.udpFallback = none ∧ device.main.udpFallback = none := by
  induction after using List.reverseRecOn generalizing device with
  | nil =>
      rw [directBootRun_concat] at hfile
      rcases persist_locked (run_locked hclosed haware before) hclosed haware id with
        ⟨failure, file, hpersist, -⟩ | ⟨profile, -, hfallback, hpersist⟩
      · rw [hpersist] at hcompletes
        cases hcompletes
      · simp only [DirectBootSession.step, Session.step, hpersist, Storage.setDeviceFile_deviceFile,
          DeviceFile.holds.injEq] at hfile
        rw [← hfile]
        exact ⟨rfl, hfallback⟩
  | append_singleton after event ih =>
      have hassoc : before ++ (id, SessionEvent.persistStats) :: (after ++ [event]) =
          (before ++ (id, SessionEvent.persistStats) :: after) ++ [event] := by simp
      rw [hassoc, directBootRun_concat] at hfile
      have hlocked := run_locked hclosed haware (before ++ (id, .persistStats) :: after)
      by_cases hevent : event.2 = .persistStats
      · rcases persist_locked hlocked hclosed haware event.1 with
          ⟨failure, file, hpersist, hkept⟩ | ⟨profile, -, hfallback, hpersist⟩
        · simp only [DirectBootSession.step, hevent, Session.step, hpersist,
            Storage.setDeviceFile_deviceFile] at hfile
          rcases hkept with hkept | hkept
          · exact ih (hkept.symm.trans hfile)
          · rw [hkept] at hfile
            cases hfile
        · simp only [DirectBootSession.step, hevent, Session.step, hpersist,
            Storage.setDeviceFile_deviceFile, DeviceFile.holds.injEq] at hfile
          rw [← hfile]
          exact ⟨rfl, hfallback⟩
      · have hstep := (hlocked.follows event.1).step event.1 event.2 hevent
        apply ih
        rw [← hfile]
        exact congrArg Storage.deviceFile hstep.2.symm

/-- The copy of a profile in the file after the calls made for it. -/
def deviceCopy (profile : Profile) (events : List SessionEvent) : Profile :=
  { addTraffic profile (persistedSum events) with
    dirty := profile.dirty || decide (.persistStats ∈ events) }

theorem persist_main_only (hlocked : session.Locked storage events)
    (hclosed : storage.isOpen = false) (haware : storage.directBootAware = true) {main : Profile}
    (hfallback : main.udpFallback = none)
    (hstorage : session.storage =
      storage.setDeviceFile (.holds ⟨deviceCopy main (eventsOf main.id events), none⟩)) :
    (session.of main.id).persist main.id =
      (.ok (), ⟨{ session.monitors main.id with persisted := some .current },
        storage.setDeviceFile (.holds
          ⟨deviceCopy main (eventsOf main.id events ++ [.persistStats]), none⟩)⟩) := by
  have hprofile : ((session.of main.id).storage.deviceFile.read.elim []
      ExpandedProfile.toList).filter (·.id = main.id) =
        [deviceCopy main (eventsOf main.id events)] := by
    simp [DirectBootSession.of, hstorage, DeviceFile.read, ExpandedProfile.toList, deviceCopy,
      addTraffic]
  have haware' : (session.of main.id).storage.directBootAware = true := by
    simpa [DirectBootSession.of, hstorage] using haware
  have hcopy : deviceCopy main (eventsOf main.id events ++ [.persistStats]) =
      { addTraffic (deviceCopy main (eventsOf main.id events))
          (reported (eventsOf main.id events)) with dirty := true } := by
    simp [deviceCopy, addTraffic, persistedSum_concat, add_assoc]
  rw [persist_device (hlocked.follows main.id) (hlocked.isOpen hclosed) haware' hprofile hfallback,
    hcopy]
  simp only [DirectBootSession.of, hstorage, Storage.setDeviceFile_setDeviceFile]

/-- A lone profile without a fallback keeps its place in the file, and every
call adds the whole totals to it. -/
theorem run_main_only (hclosed : storage.isOpen = false)
    (haware : storage.directBootAware = true) {main : Profile}
    (hfile : storage.deviceFile = .holds ⟨main, none⟩) (hfallback : main.udpFallback = none)
    (events : List (Nat × SessionEvent)) (hmain : ∀ event ∈ events, event.1 = main.id) :
    ((DirectBootSession.start storage).run events).storage =
      storage.setDeviceFile (.holds ⟨deviceCopy main (eventsOf main.id events), none⟩) := by
  induction events using List.reverseRecOn with
  | nil =>
      have hcopy : deviceCopy main (eventsOf main.id []) = main := by
        simp [deviceCopy, addTraffic, persistedSum, eventsOf]
      rw [hcopy, ← hfile]
      rfl
  | append_singleton events event ih =>
      have hlocked := run_locked hclosed haware events
      have ih := ih fun other hmem => hmain other (List.mem_append_left _ hmem)
      have hid : event.1 = main.id := hmain event (by simp)
      rw [directBootRun_concat, eventsOf_concat, if_pos hid]
      by_cases hevent : event.2 = .persistStats
      · have hpersist := persist_main_only hlocked hclosed haware hfallback ih
        simp only [DirectBootSession.step, hid, hevent, Session.step, hpersist]
      · have hstep := (hlocked.follows event.1).step event.1 event.2 hevent
        have hne : SessionEvent.persistStats ≠ event.2 := fun h => hevent h.symm
        have hcopy : deviceCopy main (eventsOf main.id events ++ [event.2]) =
            deviceCopy main (eventsOf main.id events) := by
          simp [deviceCopy, persistedSum_concat, hevent, hne]
        rw [hcopy]
        exact hstep.2.trans ih

end Locked

theorem calls_concat (events : List SessionEvent) (event : SessionEvent) :
    calls (events ++ [event]) = (calls events).record event := by
  simp [calls]

theorem persistedSum_eq_calls (events : List SessionEvent) :
    (calls events).reported = reported events ∧
      persistedSum events = (calls events).earlier + (calls events).last := by
  induction events using List.reverseRecOn with
  | nil => exact ⟨rfl, rfl⟩
  | append_singleton events event ih =>
      rw [calls_concat, reported_concat, persistedSum_concat, ih.2, ← ih.1]
      refine ⟨rfl, ?_⟩
      unfold Calls.record
      dsimp only
      split <;> rfl

theorem calls_of_not_mem (events : List SessionEvent) (hnot : .persistStats ∉ events) :
    (calls events).last = 0 := by
  induction events using List.reverseRecOn with
  | nil => rfl
  | append_singleton events event ih =>
      simp only [List.mem_append, List.mem_singleton, not_or] at hnot
      have hevent : event ≠ .persistStats := fun h => hnot.2 h.symm
      rw [calls_concat]
      simpa [Calls.record, hevent] using ih hnot.1

section Accounting

variable {storage : Storage} {expanded : ExpandedProfile} {events : List (Nat × SessionEvent)}

/-- With no call at all the flush is left with what was in the file before. -/
theorem losesNothing_idle_iff (hboot : DirectBooted storage expanded events)
    (hnone : ∀ event ∈ events, event.2 ≠ .persistStats) :
    LosesNothing storage expanded events ↔ ∀ profile ∈ expanded.toList,
      profile.dirty = true ∨
        (storage.table.find? profile.id).map traffic = some (traffic profile) := by
  have hrun := run_without_persist hboot.locked hboot.aware events hnone
  have hlast (id : Nat) : (calls (eventsOf id events)).last = 0 := by
    apply calls_of_not_mem
    rw [mem_eventsOf_iff]
    intro hmem
    exact hnone _ hmem rfl
  obtain ⟨hok, htable⟩ := flushTrafficStats_rows (unlock storage) expanded rfl
    hboot.file hboot.rows
  have htable : (flushTrafficStats (unlock storage)).2.2.table =
      flushRows storage.table expanded.toList := htable
  have hrow (profile : Profile) (hmem : profile ∈ expanded.toList) :
      ((flushTrafficStats (unlock storage)).2.2.table.find? profile.id).map traffic =
          some (traffic profile) ↔
        profile.dirty = true ∨
          (storage.table.find? profile.id).map traffic = some (traffic profile) := by
    rw [htable, flushRows_find? _ _ hboot.distinct profile hmem (hboot.rows profile hmem)]
    cases hdirty : profile.dirty with
    | true => simp
    | false => simp
  constructor
  · intro hloses profile hmem
    have hflushed := hloses.flushed.2 profile hmem
    rw [hrun, hlast, add_zero] at hflushed
    exact (hrow profile hmem).mp hflushed
  · intro hrows
    refine ⟨?_, ⟨expanded, ?_, ?_⟩, ?_, ?_⟩
    · intro before id after hevents
      exact absurd rfl (hnone (id, .persistStats) (by simp [hevents]))
    · rw [hrun]
      exact hboot.file
    · simp [hlast, addTraffic]
    · rw [hrun]
      exact hok
    · intro profile hmem
      rw [hrun, hlast, add_zero]
      exact (hrow profile hmem).mpr (hrows profile hmem)

/-- A lone profile without a fallback loses nothing if only its last call has
anything to add. -/
theorem losesNothing_main_only (hboot : DirectBooted storage expanded events)
    (hcall : ∃ event ∈ events, event.2 = .persistStats) (hnone : expanded.udpFallback = none)
    (hfallback : expanded.main.udpFallback = none)
    (hearlier : (calls (eventsOf expanded.main.id events)).earlier = 0) :
    LosesNothing storage expanded events := by
  obtain ⟨main, fallback⟩ := expanded
  dsimp only at hnone hfallback hearlier
  subst hnone
  have hmain : ∀ event ∈ events, event.1 = main.id := by
    simpa [ExpandedProfile.toList] using hboot.running
  have hrun := run_main_only hboot.locked hboot.aware hboot.file hfallback events hmain
  have hsum : persistedSum (eventsOf main.id events) = (calls (eventsOf main.id events)).last := by
    rw [(persistedSum_eq_calls _).2, hearlier, zero_add]
  have hdirty : (deviceCopy main (eventsOf main.id events)).dirty = true := by
    obtain ⟨⟨id, event⟩, hmem, rfl⟩ := hcall
    have hid : id = main.id := hmain _ hmem
    subst hid
    simp [deviceCopy, mem_eventsOf_iff, hmem]
  have hrows : ∀ profile ∈ (⟨deviceCopy main (eventsOf main.id events), none⟩ :
      ExpandedProfile).toList, (storage.table.find? profile.id).isSome := by
    intro profile hmem
    have hprofile : profile = deviceCopy main (eventsOf main.id events) := by
      simpa [ExpandedProfile.toList] using hmem
    rw [hprofile]
    exact hboot.rows main (by simp [ExpandedProfile.toList])
  obtain ⟨hok, htable⟩ := flushTrafficStats_rows
    (unlock ((DirectBootSession.start storage).run events).storage)
    ⟨deviceCopy main (eventsOf main.id events), none⟩ rfl (by rw [hrun]; rfl) (by rw [hrun]; exact hrows)
  refine ⟨?_, ⟨_, by rw [hrun]; rfl, ?_⟩, hok, ?_⟩
  · intro before id after hevents
    have hbefore : ∀ event ∈ before, event.1 = main.id := fun event hmem =>
      hmain event (by rw [hevents]; exact List.mem_append_left _ hmem)
    have hid : id = main.id := hmain (id, .persistStats) (by simp [hevents])
    rw [hid, persist_main_only (run_locked hboot.locked hboot.aware before) hboot.locked hboot.aware
      hfallback (run_main_only hboot.locked hboot.aware hboot.file hfallback before hbefore)]
  · simp [ExpandedProfile.toList, deviceCopy, hsum, Profile.toRow, addTraffic]
  · intro profile hmem
    have hprofile : profile = main := by simpa [ExpandedProfile.toList] using hmem
    subst hprofile
    rw [htable, hrun]
    have hfind := flushRows_find? storage.table [deviceCopy profile (eventsOf profile.id events)]
      (by simp) (deviceCopy profile (eventsOf profile.id events)) (by simp)
      (hboot.rows profile hmem)
    rw [hdirty, if_pos rfl] at hfind
    refine (congrArg (Option.map traffic) hfind).trans ?_
    rw [Option.map_some, traffic_toRow, ← hsum]
    rfl

/-- A call that goes well leaves one profile in the file; so if nothing was
lost there was only one, and it has no fallback. -/
theorem main_only_of_losesNothing (hboot : DirectBooted storage expanded events)
    (hcall : ∃ event ∈ events, event.2 = .persistStats)
    (hloses : LosesNothing storage expanded events) :
    expanded.udpFallback = none ∧ expanded.main.udpFallback = none ∧
      (calls (eventsOf expanded.main.id events)).earlier = 0 := by
  obtain ⟨⟨id, event⟩, hmem, hevent⟩ := hcall
  dsimp only at hevent
  subst hevent
  obtain ⟨before, after, hevents⟩ := List.append_of_mem hmem
  obtain ⟨device, hfile, hprofiles⟩ := hloses.file
  have hdevice : device.udpFallback = none ∧ device.main.udpFallback = none := by
    apply run_after_persist hboot.locked hboot.aware (hloses.completes before id after hevents)
    rw [← hevents]
    exact hfile
  obtain ⟨main, fallback⟩ := expanded
  obtain ⟨copy, deviceFallback⟩ := device
  dsimp only at hdevice ⊢
  obtain ⟨rfl, hcopy⟩ := hdevice
  cases fallback with
  | some fallback => simp [ExpandedProfile.toList] at hprofiles
  | none =>
      have hrow : copy.toRow =
          (addTraffic main (calls (eventsOf main.id events)).last).toRow := by
        simpa [ExpandedProfile.toList] using hprofiles
      have hfallback : main.udpFallback = none :=
        (congrArg Profile.udpFallback hrow).symm.trans hcopy
      have hmain : ∀ event ∈ events, event.1 = main.id := by
        simpa [ExpandedProfile.toList] using hboot.running
      rw [run_main_only hboot.locked hboot.aware hboot.file hfallback events hmain] at hfile
      simp only [Storage.setDeviceFile_deviceFile, DeviceFile.holds.injEq,
        ExpandedProfile.mk.injEq, and_true] at hfile
      have htraffic : traffic main + persistedSum (eventsOf main.id events) =
          traffic main + (calls (eventsOf main.id events)).last := by
        rw [← hfile] at hrow
        exact congrArg traffic hrow
      have hsum := add_left_cancel htraffic
      rw [(persistedSum_eq_calls _).2] at hsum
      exact ⟨rfl, hfallback, by simpa using hsum⟩

/-- Direct boot accounting loses nothing exactly when nothing is accounted and
the flush has nothing to catch up on, or when the file holds a lone profile
without a fallback whose calls but the last add nothing. -/
theorem losesNothing_iff (hboot : DirectBooted storage expanded events) :
    LosesNothing storage expanded events ↔
      ((∀ event ∈ events, event.2 ≠ .persistStats) ∧ ∀ profile ∈ expanded.toList,
        profile.dirty = true ∨
          (storage.table.find? profile.id).map traffic = some (traffic profile)) ∨
      ((∃ event ∈ events, event.2 = .persistStats) ∧ expanded.udpFallback = none ∧
        expanded.main.udpFallback = none ∧
        (calls (eventsOf expanded.main.id events)).earlier = 0) := by
  by_cases hcall : ∃ event ∈ events, event.2 = .persistStats
  · have hsome : ¬ ∀ event ∈ events, event.2 ≠ .persistStats := by
      intro hnone
      obtain ⟨event, hmem, hevent⟩ := hcall
      exact hnone event hmem hevent
    simp only [hsome, hcall, false_and, true_and, false_or]
    constructor
    · exact main_only_of_losesNothing hboot hcall
    · rintro ⟨hnone, hfallback, hearlier⟩
      exact losesNothing_main_only hboot hcall hnone hfallback hearlier
  · have hnone : ∀ event ∈ events, event.2 ≠ .persistStats := by
      intro event hmem hevent
      exact hcall ⟨event, hmem, hevent⟩
    simp only [hcall, false_and, or_false]
    rw [losesNothing_idle_iff hboot hnone]
    constructor
    · exact fun hrows => ⟨hnone, hrows⟩
    · exact fun hrows => hrows.2

end Accounting

/-- Two rows, a main profile and the fallback it may point to, on a device that
is still locked. -/
def lockedStorage (udpFallback : Option Nat) (expanded : ExpandedProfile) : Storage where
  isOpen := false
  table := ⟨[{ id := 1, udpFallback }, { id := 2 }], 2, by simp, by simp, by simp⟩
  profileId := 1
  directBootAware := true
  deviceFile := .holds expanded

theorem losesNothing_lone_profile :
    DirectBooted (lockedStorage none ⟨{ id := 1 }, none⟩) ⟨{ id := 1 }, none⟩
        [(1, smallReport), (1, .persistStats)] ∧
      LosesNothing (lockedStorage none ⟨{ id := 1 }, none⟩) ⟨{ id := 1 }, none⟩
        [(1, smallReport), (1, .persistStats)] := by
  have hboot : DirectBooted (lockedStorage none ⟨{ id := 1 }, none⟩) ⟨{ id := 1 }, none⟩
      [(1, smallReport), (1, .persistStats)] :=
    ⟨rfl, rfl, rfl, by decide, by decide, by decide⟩
  refine ⟨hboot, (losesNothing_iff hboot).mpr (Or.inr ⟨?_, rfl, rfl, ?_⟩)⟩
  · decide
  · decide

/-- With a fallback the first call empties the device file and then cannot look
the fallback up. -/
theorem losesNothing_fails_with_fallback :
    DirectBooted (lockedStorage (some 2) ⟨{ id := 1, udpFallback := some 2 }, some { id := 2 }⟩)
        ⟨{ id := 1, udpFallback := some 2 }, some { id := 2 }⟩ [(1, smallReport), (1, .persistStats)] ∧
      ¬ LosesNothing
        (lockedStorage (some 2) ⟨{ id := 1, udpFallback := some 2 }, some { id := 2 }⟩)
        ⟨{ id := 1, udpFallback := some 2 }, some { id := 2 }⟩
        [(1, smallReport), (1, .persistStats)] := by
  refine ⟨⟨rfl, rfl, rfl, by decide, by decide, by decide⟩, fun hloses => ?_⟩
  have hcompletes := hloses.completes [(1, smallReport)] 1 [] rfl
  revert hcompletes
  decide

end WifiProject.Bg
