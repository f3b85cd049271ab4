import Mathlib.Algebra.Group.Prod
import WifiProject.Database.ProfileManager

/-!
Traffic accounting. A `TrafficMonitor` takes the counters that `ss-local`
reports over its stat socket and adds them to the profile when the runner
stops or the device shuts down.
-/

namespace WifiProject.Bg

open Lib Database

abbrev Byte := BitVec 8

structure TrafficStats where
  txRate : Long := 0
  rxRate : Long := 0
  txTotal : Long := 0
  rxTotal : Long := 0
  deriving DecidableEq, Repr

/-- The bytes sent and received, in this order. -/
abbrev Traffic := Long × Long

def TrafficStats.traffic (stats : TrafficStats) : Traffic := (stats.txTotal, stats.rxTotal)

/-- A reference to one of the two stat objects of a monitor. -/
inductive StatsRef where
  | current
  | out
  deriving DecidableEq, Repr

/-- `persisted` holds a reference and not a copy: once set it is the very
object that the listener keeps changing. -/
structure TrafficMonitor where
  current : TrafficStats := {}
  out : TrafficStats := {}
  timestampLast : Long := 0
  dirty : Bool := false
  persisted : Option StatsRef := none
  deriving DecidableEq, Repr

/-- `ByteBuffer.getLong(index)` in little-endian order. -/
def getLong (buffer : List Byte) (index : Nat) : Long :=
  ((buffer.drop index).take 8).foldr (fun byte rest => rest <<< 8 ||| byte.setWidth 64) 0

/-- `profile.tx += txTotal` and `profile.rx += rxTotal`. -/
def addTraffic (profile : Profile) (traffic : Traffic) : Profile :=
  { profile with tx := profile.tx + traffic.1, rx := profile.rx + traffic.2 }

/-- The counters of a profile. -/
def traffic (profile : Profile) : Traffic := (profile.tx, profile.rx)

@[simp] theorem traffic_addTraffic (profile : Profile) (totals : Traffic) :
    traffic (addTraffic profile totals) = traffic profile + totals := rfl

@[simp] theorem traffic_toRow (profile : Profile) : traffic profile.toRow = traffic profile := rfl

namespace TrafficMonitor

def deref (monitor : TrafficMonitor) : StatsRef → TrafficStats
  | .current => monitor.current
  | .out => monitor.out

/-- One connection to the stat socket; `none` is the end of the stream. -/
def acceptInternal (read : Option (List Byte)) (monitor : TrafficMonitor) :
    Except String TrafficMonitor :=
  match read with
  | none => .ok monitor
  | some buffer =>
      if buffer.length = 16 then
        let tx := getLong buffer 0
        let rx := getLong buffer 8
        let dirty := monitor.dirty || monitor.current.txTotal != tx || monitor.current.rxTotal != rx
        .ok { monitor with
          current := { monitor.current with txTotal := tx, rxTotal := rx }
          dirty := dirty }
      else .error ("Unexpected traffic stat length " ++ toString buffer.length)

/-- `requestUpdate()` at the clock value `now`. -/
def requestUpdate (now : Long) (monitor : TrafficMonitor) : Bool × TrafficMonitor :=
  let delta := now - monitor.timestampLast
  let monitor := { monitor with timestampLast := now }
  if delta = 0 then (false, monitor)
  else if monitor.dirty then
    (true, { monitor with
      out := { monitor.current with
        txRate := ((monitor.current.txTotal - monitor.out.txTotal) * 1000).sdiv delta
        rxRate := ((monitor.current.rxTotal - monitor.out.rxTotal) * 1000).sdiv delta }
      dirty := false })
  else
    (monitor.out.txRate != 0 || monitor.out.rxRate != 0,
      { monitor with out := { monitor.out with txRate := 0, rxRate := 0 } })

/-- `check(persisted == null || persisted == current)`. -/
def unchanged (monitor : TrafficMonitor) : Bool :=
  match monitor.persisted with
  | none => true
  | some persisted => monitor.deref persisted == monitor.deref .current

/-- `single { it.id == id }`. -/
def single (id : Nat) (profiles : List Profile) : Code TrafficMonitor Profile :=
  match profiles.filter (·.id = id) with
  | [] => throw (.noSuchElement "Collection contains no element matching the predicate.")
  | [profile] => pure profile
  | _ => throw (.illegalArgument "Collection contains more than one matching element.")

/-- The branch of `persistStats` for direct boot. Registering for the unlock
broadcast, its last action, touches nothing that is shared. -/
def persistDevice (id : Nat) (traffic : Traffic) : Code TrafficMonitor Unit := do
  let device ← DirectBoot.getDeviceProfile
  match device with
  | none => throw .nullPointer
  | some expanded => do
      let profile ← single id expanded.toList
      DirectBoot.update (some { addTraffic profile traffic with dirty := true })

def persistRow (id : Nat) (traffic : Traffic) : Code TrafficMonitor Unit := do
  let profile ← ProfileManager.getProfile id
  match profile with
  | none => pure ()
  | some profile => ProfileManager.updateProfile (addTraffic profile traffic)

def persistStats (id : Nat) : Code TrafficMonitor Unit := do
  let monitor ← Routine.read
  check monitor.unchanged "Data loss occurred"
  Routine.modify fun monitor => { monitor with persisted := some .current }
  tryCatchThe Failure (persistRow id monitor.current.traffic) fun failure =>
    match failure with
    | .io => do
        let aware ← DataStore.directBootAware
        -- only direct boot is expected to get here
        if aware then persistDevice id monitor.current.traffic else throw .io
    | failure => throw failure

/-! What one call does. -/

section Persist

open Storage (handle)

variable (id : Nat) (traffic : Traffic) (monitor : TrafficMonitor) (storage : Storage)

theorem exec_persistRow_open (hopen : storage.isOpen = true) :
    Routine.exec handle (persistRow id traffic) monitor storage =
      (.ok (), monitor, storage.setTable
        (((storage.table.find? id).map (addTraffic · traffic)).elim storage.table
          storage.table.update)) := by
  cases hrow : storage.table.find? id with
  | none => simp [persistRow, Routine.exec_bind, hopen, hrow]
  | some row =>
      have hid : row.id = id := ((storage.table.find?_eq_some_iff id row).mp hrow).2
      have hexists : (storage.table.find? (addTraffic row traffic).id).isSome := by
        simp [addTraffic, hid, hrow]
      simp [persistRow, Routine.exec_bind, hopen, hrow, exec_updateProfile _ _ _ hopen hexists]

theorem exec_persistRow_closed (hclosed : storage.isOpen = false) :
    Routine.exec handle (persistRow id traffic) monitor storage = (.error .io, monitor, storage) := by
  simp [persistRow, Routine.exec_bind, hclosed]

theorem exec_persistStats_open (hunchanged : monitor.unchanged = true)
    (hopen : storage.isOpen = true) :
    Routine.exec handle (persistStats id) monitor storage =
      (.ok (), { monitor with persisted := some .current }, storage.setTable
        (((storage.table.find? id).map (addTraffic · monitor.current.traffic)).elim
          storage.table storage.table.update)) := by
  simp [persistStats, Routine.exec_bind, Routine.exec_tryCatch, hunchanged,
    exec_persistRow_open _ _ _ _ hopen]

theorem exec_persistStats_closed (hunchanged : monitor.unchanged = true)
    (hclosed : storage.isOpen = false) :
    Routine.exec handle (persistStats id) monitor storage =
      if storage.directBootAware then
        Routine.exec handle (persistDevice id monitor.current.traffic)
          { monitor with persisted := some .current } storage
      else (.error .io, { monitor with persisted := some .current }, storage) := by
  cases haware : storage.directBootAware <;>
    simp [persistStats, Routine.exec_bind, Routine.exec_tryCatch, hunchanged, haware,
      exec_persistRow_closed _ _ _ _ hclosed]

/-- Writing the device file while the database is shut succeeds only for a
profile without a fallback; otherwise the file is left empty. -/
theorem exec_update_closed (profile : Profile) (hclosed : storage.isOpen = false) :
    Routine.exec handle (DirectBoot.update (some profile) : Code TrafficMonitor Unit) monitor
        storage =
      match profile.udpFallback with
      | none => (.ok (), monitor, storage.setDeviceFile (.holds ⟨profile, none⟩))
      | some _ => (.error .io, monitor, storage.setDeviceFile .truncated) := by
  cases hfallback : profile.udpFallback with
  | none => simp [DirectBoot.update, ProfileManager.expand, Routine.exec_bind, hfallback]
  | some fallback =>
      simp [DirectBoot.update, ProfileManager.expand, Routine.exec_bind, hfallback, hclosed]

end Persist

end TrafficMonitor

end WifiProject.Bg
