import Mathlib.Data.List.Induction
import WifiProject.Bg.TrafficMonitor

/-!
A session of one `TrafficMonitor`: reports on the stat socket, polls of the
notification and `persistStats` calls for the profile that is running, in any
order and with no other writer of the profile.
-/

namespace WifiProject.Bg

open Lib Database

inductive SessionEvent where
  | accept (read : Option (List Byte))
  | requestUpdate (now : Long)
  | persistStats
  deriving DecidableEq, Repr

structure Session where
  monitor : TrafficMonitor := {}
  storage : Storage

/-- Where the counters of a profile are kept: its row, or its copy in the
device file as long as the database is shut. -/
def storedProfile (storage : Storage) (id : Nat) : Option Profile :=
  if storage.isOpen then storage.table.find? id
  else (storage.deviceFile.read.elim [] ExpandedProfile.toList).find? (·.id = id)

def storedTraffic (storage : Storage) (id : Nat) : Option Traffic :=
  (storedProfile storage id).map traffic

namespace Session

/-- A new monitor over this storage. -/
def start (storage : Storage) : Session := { storage }

def persist (id : Nat) (session : Session) : Except Failure Unit × Session :=
  match Routine.exec Storage.handle (TrafficMonitor.persistStats id) session.monitor
      session.storage with
  | (result, monitor, storage) => (result, ⟨monitor, storage⟩)

/-- A malformed report ends its connection and nothing else. -/
def step (id : Nat) (session : Session) : SessionEvent → Session
  | .accept read =>
      match session.monitor.acceptInternal read with
      | .ok monitor => { session with monitor := monitor }
      | .error _ => session
  | .requestUpdate now => { session with monitor := (session.monitor.requestUpdate now).2 }
  | .persistStats => (session.persist id).2

def run (id : Nat) (session : Session) (events : List SessionEvent) : Session :=
  events.foldl (step id) session

end Session

/-- The totals of the last complete report. -/
def report (totals : Traffic) : SessionEvent → Traffic
  | .accept (some buffer) =>
      if buffer.length = 16 then (getLong buffer 0, getLong buffer 8) else totals
  | .accept none => totals
  | .requestUpdate _ => totals
  | .persistStats => totals

def reported (events : List SessionEvent) : Traffic := events.foldl report 0

/-- After every `persistStats` that returns, the stored counters exceed those
at the start by what was last reported before it. -/
def AccountedOnce (id : Nat) (storage : Storage) (start : Traffic) (events : List SessionEvent) :
    Prop :=
  ∀ before after, events = before ++ .persistStats :: after →
    let last := ((Session.start storage).run id before).persist id
    last.1 = .ok () → storedTraffic last.2.storage id = some (start + reported before)

/-! What really is added: the whole totals, at every call. -/

/-- The totals last reported and the sum of the totals at the `persistStats`
calls. -/
def settle (ledger : Traffic × Traffic) (event : SessionEvent) : Traffic × Traffic :=
  (report ledger.1 event, if event = .persistStats then ledger.2 + ledger.1 else ledger.2)

def persistedSum (events : List SessionEvent) : Traffic := (events.foldl settle 0).2

theorem reported_concat (events : List SessionEvent) (event : SessionEvent) :
    reported (events ++ [event]) = report (reported events) event := by
  simp [reported]

theorem foldl_settle_fst (events : List SessionEvent) (ledger : Traffic × Traffic) :
    (events.foldl settle ledger).1 = events.foldl report ledger.1 := by
  induction events generalizing ledger with
  | nil => rfl
  | cons event events ih => exact ih (settle ledger event)

theorem persistedSum_concat (events : List SessionEvent) (event : SessionEvent) :
    persistedSum (events ++ [event]) =
      if event = .persistStats then persistedSum events + reported events
      else persistedSum events := by
  have hreported : (events.foldl settle 0).1 = reported events := foldl_settle_fst events 0
  simp [persistedSum, settle, hreported]

/-- A call can return: the database is open, or the device file has the
profile once and without a fallback that would have to be looked up. -/
def Persistable (id : Nat) (storage : Storage) : Prop :=
  storage.isOpen = true ∨
    storage.directBootAware = true ∧ ∃ profile,
      (storage.deviceFile.read.elim [] ExpandedProfile.toList).filter (·.id = id) = [profile] ∧
        profile.udpFallback = none

/-- The monitor knows what was reported, and `persisted` is unset or the
current object itself, so that the check for data loss compares it with
itself. -/
structure Session.Follows (session : Session) (events : List SessionEvent) : Prop where
  current : session.monitor.current.traffic = reported events
  persisted : session.monitor.persisted = none ∨ session.monitor.persisted = some .current

theorem Session.Follows.unchanged {session : Session} {events : List SessionEvent}
    (hfollows : session.Follows events) : session.monitor.unchanged = true := by
  rcases hfollows.persisted with h | h <;> simp [TrafficMonitor.unchanged, h]

theorem find?_of_filter_eq_singleton {profiles : List Profile} {id : Nat} {profile : Profile}
    (h : profiles.filter (·.id = id) = [profile]) :
    profiles.find? (·.id = id) = some profile ∧ profile.id = id := by
  have hmem : profile ∈ profiles.filter (·.id = id) := by simp [h]
  have hid : profile.id = id := by simpa using (List.mem_filter.mp hmem).2
  refine ⟨?_, hid⟩
  rw [← List.head?_filter, h]
  rfl

section Persist

variable {id : Nat} {session : Session} {events : List SessionEvent}

theorem persist_open (hfollows : session.Follows events) (hopen : session.storage.isOpen = true)
    {start : Traffic} (hstored : storedTraffic session.storage id = some start) :
    ∃ storage, session.persist id =
        (.ok (), ⟨{ session.monitor with persisted := some .current }, storage⟩) ∧
      Persistable id storage ∧ storedTraffic storage id = some (start + reported events) := by
  obtain ⟨row, hrow, rfl⟩ : ∃ row, session.storage.table.find? id = some row ∧
      traffic row = start := by
    simpa [storedTraffic, storedProfile, hopen] using hstored
  refine ⟨session.storage.setTable
    (session.storage.table.update (addTraffic row (reported events))), ?_, ?_, ?_⟩
  · simp [Session.persist, TrafficMonitor.exec_persistStats_open _ _ _ hfollows.unchanged hopen,
      hrow, hfollows.current]
  · exact Or.inl hopen
  · have hreplace : ProfileTable.replace (addTraffic row (reported events)) row =
        (addTraffic row (reported events)).toRow := by
      simp [ProfileTable.replace, addTraffic]
    simp [storedTraffic, storedProfile, hopen, ProfileTable.find?_update, hrow, hreplace]

theorem persist_device (hfollows : session.Follows events)
    (hclosed : session.storage.isOpen = false) (haware : session.storage.directBootAware = true)
    {profile : Profile}
    (hprofile : (session.storage.deviceFile.read.elim [] ExpandedProfile.toList).filter
      (·.id = id) = [profile])
    (hfallback : profile.udpFallback = none) :
    session.persist id = (.ok (), ⟨{ session.monitor with persisted := some .current },
      session.storage.setDeviceFile
        (.holds ⟨{ addTraffic profile (reported events) with dirty := true }, none⟩)⟩) := by
  obtain ⟨expanded, hread⟩ : ∃ expanded, session.storage.deviceFile.read = some expanded := by
    cases hread : session.storage.deviceFile.read with
    | none => simp [hread] at hprofile
    | some expanded => exact ⟨expanded, rfl⟩
  simp only [hread, Option.elim_some] at hprofile
  simp [Session.persist, TrafficMonitor.exec_persistStats_closed _ _ _ hfollows.unchanged hclosed,
    haware, TrafficMonitor.persistDevice, Routine.exec_bind, hread, TrafficMonitor.single, hprofile,
    TrafficMonitor.exec_update_closed _ _ _ hclosed, hfollows.current, addTraffic, hfallback]

theorem persist_persistable (hfollows : session.Follows events)
    (hpersistable : Persistable id session.storage) {start : Traffic}
    (hstored : storedTraffic session.storage id = some start) :
    ∃ storage, session.persist id =
        (.ok (), ⟨{ session.monitor with persisted := some .current }, storage⟩) ∧
      Persistable id storage ∧ storedTraffic storage id = some (start + reported events) := by
  cases hopen : session.storage.isOpen with
  | true => exact persist_open hfollows hopen hstored
  | false =>
      obtain hopen' | ⟨haware, profile, hprofile, hfallback⟩ := hpersistable
      · simp [hopen] at hopen'
      obtain ⟨hfind, hid⟩ := find?_of_filter_eq_singleton hprofile
      refine ⟨_, persist_device hfollows hopen haware hprofile hfallback, ?_, ?_⟩
      · refine Or.inr ⟨haware, { addTraffic profile (reported events) with dirty := true }, ?_, ?_⟩
        · simp [DeviceFile.read, ExpandedProfile.toList, addTraffic, hid]
        · exact hfallback
      · have hstart : traffic profile = start := by
          simpa [storedTraffic, storedProfile, hopen, hfind] using hstored
        subst hstart
        simp [storedTraffic, storedProfile, hopen, DeviceFile.read, ExpandedProfile.toList,
          addTraffic, hid]
        rfl

/-- A call that cannot return throws, at worst after emptying the device file,
and the next one cannot return either. -/
theorem persist_not_persistable (hfollows : session.Follows events)
    (hnot : ¬ Persistable id session.storage) :
    ∃ failure storage, session.persist id =
        (.error failure, ⟨{ session.monitor with persisted := some .current }, storage⟩) ∧
      (storage = session.storage ∨ storage = session.storage.setDeviceFile .truncated) ∧
      ¬ Persistable id storage := by
  have hclosed : session.storage.isOpen = false := by
    by_contra hopen
    exact hnot (Or.inl (by simpa using hopen))
  have hexec := TrafficMonitor.exec_persistStats_closed id _ _ hfollows.unchanged hclosed
  cases haware : session.storage.directBootAware with
  | false =>
      refine ⟨.io, session.storage, ?_, Or.inl rfl, hnot⟩
      simp [Session.persist, hexec, haware]
  | true =>
      cases hread : session.storage.deviceFile.read with
      | none =>
          refine ⟨.nullPointer, session.storage, ?_, Or.inl rfl, hnot⟩
          simp [Session.persist, hexec, haware, TrafficMonitor.persistDevice, Routine.exec_bind,
            hread]
      | some expanded =>
          rcases hprofile : expanded.toList.filter (·.id = id) with _ | ⟨profile, _ | ⟨second, rest⟩⟩
          · refine ⟨.noSuchElement "Collection contains no element matching the predicate.",
              session.storage, ?_, Or.inl rfl, hnot⟩
            simp [Session.persist, hexec, haware, TrafficMonitor.persistDevice, Routine.exec_bind,
              hread, TrafficMonitor.single, hprofile]
          · have hfallback : profile.udpFallback ≠ none := by
              intro hnone
              exact hnot (Or.inr ⟨haware, profile, by simp [hread, hprofile], hnone⟩)
            obtain ⟨fallback, hfallback⟩ := Option.ne_none_iff_exists'.mp hfallback
            refine ⟨.io, session.storage.setDeviceFile .truncated, ?_, Or.inr rfl, ?_⟩
            · simp [Session.persist, hexec, haware, TrafficMonitor.persistDevice,
                Routine.exec_bind, hread, TrafficMonitor.single, hprofile,
                TrafficMonitor.exec_update_closed _ _ _ hclosed, addTraffic, hfallback]
            · simp [Persistable, hclosed, DeviceFile.read]
          · refine ⟨.illegalArgument "Collection contains more than one matching element.",
              session.storage, ?_, Or.inl rfl, hnot⟩
            simp [Session.persist, hexec, haware, TrafficMonitor.persistDevice, Routine.exec_bind,
              hread, TrafficMonitor.single, hprofile]

end Persist

/-- A report and a poll change the monitor alone. -/
theorem Session.Follows.step (id : Nat) {session : Session} {events : List SessionEvent}
    (hfollows : session.Follows events) (event : SessionEvent) (hevent : event ≠ .persistStats) :
    (session.step id event).Follows (events ++ [event]) ∧
      (session.step id event).storage = session.storage := by
  cases event with
  | accept read =>
      cases read with
      | none =>
          refine ⟨⟨?_, hfollows.persisted⟩, rfl⟩
          rw [reported_concat]
          exact hfollows.current
      | some buffer =>
          by_cases hlength : buffer.length = 16
          · simp only [Session.step, TrafficMonitor.acceptInternal, hlength, if_true]
            refine ⟨⟨?_, hfollows.persisted⟩, trivial⟩
            simp [reported_concat, report, hlength, TrafficStats.traffic]
          · simp only [Session.step, TrafficMonitor.acceptInternal, hlength, if_false]
            refine ⟨⟨?_, hfollows.persisted⟩, trivial⟩
            simp [reported_concat, report, hlength, hfollows.current]
  | requestUpdate now =>
      have hcurrent : (session.monitor.requestUpdate now).2.current = session.monitor.current ∧
          (session.monitor.requestUpdate now).2.persisted = session.monitor.persisted := by
        unfold TrafficMonitor.requestUpdate
        dsimp only
        split
        · exact ⟨rfl, rfl⟩
        · split <;> exact ⟨rfl, rfl⟩
      refine ⟨⟨?_, ?_⟩, rfl⟩
      · rw [reported_concat]
        simpa [Session.step, hcurrent.1, report] using hfollows.current
      · simpa [Session.step, hcurrent.2] using hfollows.persisted
  | persistStats => exact absurd rfl hevent

theorem Session.Follows.persist {id : Nat} {session : Session} {events : List SessionEvent}
    {storage : Storage} {result : Except Failure Unit} (hfollows : session.Follows events)
    (hpersist : session.persist id =
      (result, ⟨{ session.monitor with persisted := some .current }, storage⟩)) :
    (session.step id .persistStats).Follows (events ++ [.persistStats]) := by
  simp only [Session.step, hpersist]
  refine ⟨?_, Or.inr rfl⟩
  rw [reported_concat]
  exact hfollows.current

theorem run_concat (id : Nat) (session : Session) (events : List SessionEvent)
    (event : SessionEvent) :
    session.run id (events ++ [event]) = (session.run id events).step id event := by
  simp [Session.run]

/-- Every call of a session that can persist returns and adds the whole
totals. -/
theorem run_persistable {id : Nat} {storage : Storage} {start : Traffic}
    (hpersistable : Persistable id storage) (hstored : storedTraffic storage id = some start)
    (events : List SessionEvent) :
    ((Session.start storage).run id events).Follows events ∧
      Persistable id ((Session.start storage).run id events).storage ∧
      storedTraffic ((Session.start storage).run id events).storage id =
        some (start + persistedSum events) := by
  induction events using List.reverseRecOn with
  | nil =>
      refine ⟨⟨rfl, Or.inl rfl⟩, hpersistable, ?_⟩
      simpa [Session.run, Session.start, persistedSum] using hstored
  | append_singleton events event ih =>
      obtain ⟨hfollows, hpersistable, hstored⟩ := ih
      rw [run_concat, persistedSum_concat]
      by_cases hevent : event = .persistStats
      · subst hevent
        obtain ⟨storage', hpersist, hpersistable', hstored'⟩ :=
          persist_persistable hfollows hpersistable hstored
        refine ⟨hfollows.persist hpersist, ?_, ?_⟩
        · simpa only [Session.step, hpersist] using hpersistable'
        · simpa only [Session.step, hpersist, if_true, add_assoc] using hstored'
      · obtain ⟨hfollows', hstorage⟩ := hfollows.step id event hevent
        simp only [hstorage, hevent, if_false]
        exact ⟨hfollows', hpersistable, hstored⟩

theorem run_not_persistable {id : Nat} {storage : Storage} (hnot : ¬ Persistable id storage)
    (events : List SessionEvent) :
    ((Session.start storage).run id events).Follows events ∧
      ¬ Persistable id ((Session.start storage).run id events).storage := by
  induction events using List.reverseRecOn with
  | nil => exact ⟨⟨rfl, Or.inl rfl⟩, hnot⟩
  | append_singleton events event ih =>
      obtain ⟨hfollows, hnot⟩ := ih
      rw [run_concat]
      by_cases hevent : event = .persistStats
      · subst hevent
        obtain ⟨failure, storage', hpersist, -, hnot'⟩ := persist_not_persistable hfollows hnot
        refine ⟨hfollows.persist hpersist, ?_⟩
        simpa only [Session.step, hpersist] using hnot'
      · obtain ⟨hfollows', hstorage⟩ := hfollows.step id event hevent
        rw [hstorage]
        exact ⟨hfollows', hnot⟩

theorem persistedSum_append_of_not_mem (before between : List SessionEvent)
    (hnot : .persistStats ∉ between) : persistedSum (before ++ between) = persistedSum before := by
  induction between using List.reverseRecOn with
  | nil => simp
  | append_singleton between event ih =>
      simp only [List.mem_append, List.mem_singleton, not_or] at hnot
      have hevent : event ≠ .persistStats := fun h => hnot.2 h.symm
      rw [← List.append_assoc, persistedSum_concat, if_neg hevent]
      exact ih hnot.1

/-- Every `persistStats` call but the last is made while the totals are zero. -/
def OnlyLastCounts (events : List SessionEvent) : Prop :=
  ∀ before after, events = before ++ .persistStats :: after → .persistStats ∈ after →
    reported before = 0

/-- What is added too much is what the earlier calls have added. -/
theorem onlyLastCounts_iff (events : List SessionEvent) :
    OnlyLastCounts events ↔
      ∀ before after, events = before ++ .persistStats :: after → persistedSum before = 0 := by
  constructor
  · intro hlast before after hevents
    have hzero : ∀ before after, events = before ++ after → .persistStats ∈ after →
        persistedSum before = 0 := by
      intro before
      induction before using List.reverseRecOn with
      | nil => intro after _ _; rfl
      | append_singleton before event ih =>
          intro after hevents hmem
          have hevents' : events = before ++ event :: after := by simpa using hevents
          have hbefore := ih (event :: after) hevents' (List.mem_cons_of_mem _ hmem)
          rw [persistedSum_concat, hbefore]
          split
          · rename_i hevent
            subst hevent
            simp [hlast before after hevents' hmem]
          · rfl
    exact hzero before _ hevents (by simp)
  · intro hsum before after hevents hmem
    obtain ⟨between, rest, rfl, hbetween⟩ := List.eq_append_cons_of_mem hmem
    have hthis : persistedSum before = 0 := hsum before _ hevents
    have hnext : persistedSum ((before ++ [.persistStats]) ++ between) = 0 :=
      hsum _ rest (by simp [hevents])
    rw [persistedSum_append_of_not_mem _ _ hbetween, persistedSum_concat, if_pos rfl, hthis,
      zero_add] at hnext
    exact hnext

/-- Traffic is accounted once exactly when only the last call of the session
finds anything to add, or when no call can return at all. -/
theorem accountedOnce_iff (id : Nat) (storage : Storage) (start : Traffic)
    (events : List SessionEvent) (hstart : storedTraffic storage id = some start) :
    AccountedOnce id storage start events ↔
      (Persistable id storage → OnlyLastCounts events) := by
  by_cases hpersistable : Persistable id storage
  · simp only [hpersistable, true_imp_iff, onlyLastCounts_iff, AccountedOnce]
    apply forall_congr'
    intro before
    apply forall_congr'
    intro after
    apply imp_congr_right
    intro _
    obtain ⟨hfollows, hpersistable', hstored⟩ := run_persistable hpersistable hstart before
    obtain ⟨storage', hpersist, -, hstored'⟩ :=
      persist_persistable hfollows hpersistable' hstored
    simp only [hpersist, hstored', true_imp_iff, Option.some.injEq]
    constructor
    · intro h
      have hsum : start + persistedSum before = start + 0 := by
        rw [add_zero]
        exact add_right_cancel h
      exact add_left_cancel hsum
    · intro h
      rw [h, add_zero]
  · simp only [hpersistable, false_imp_iff, iff_true]
    intro before after _
    obtain ⟨hfollows, hnot⟩ := run_not_persistable hpersistable before
    obtain ⟨failure, storage', hpersist, -, -⟩ := persist_not_persistable hfollows hnot
    simp only [hpersist, reduceCtorEq, false_imp_iff]

/-- One unlocked profile that has not been used yet. -/
def freshStorage : Storage where
  isOpen := true
  table := ⟨[{ id := 1 }], 1, by simp, by simp, by simp⟩
  profileId := 1
  directBootAware := false
  deviceFile := .absent

/-- A report of 5 bytes sent and 7 received. -/
def smallReport : SessionEvent :=
  .accept (some [5, 0, 0, 0, 0, 0, 0, 0, 7, 0, 0, 0, 0, 0, 0, 0])

theorem accountedOnce_reported_after_shutdown :
    storedTraffic freshStorage 1 = some 0 ∧
      AccountedOnce 1 freshStorage 0 [.persistStats, smallReport, .persistStats] := by
  have hstart : storedTraffic freshStorage 1 = some 0 := by decide
  refine ⟨hstart, (accountedOnce_iff 1 freshStorage 0 _ hstart).mpr fun _ => ?_⟩
  intro before after hevents hmem
  rcases before with _ | ⟨first, _ | ⟨second, _ | ⟨third, rest⟩⟩⟩
  · rfl
  · simp [smallReport] at hevents
  · simp only [List.cons_append, List.nil_append, List.cons.injEq, true_and] at hevents
    simp [← hevents.2.2] at hmem
  · simp at hevents

/-- The shutdown broadcast and then the stop of the runner: the same 5 and 7
bytes are added twice. -/
theorem accountedOnce_fails_after_second_persist :
    ¬ AccountedOnce 1 freshStorage 0 [smallReport, .persistStats, .persistStats] := by
  intro honce
  have hlast := honce [smallReport, .persistStats] [] rfl (by decide)
  revert hlast
  decide

end WifiProject.Bg
