import Mathlib.Data.List.Basic
import WifiProject.Database.Profile

/-!
The life cycle of a proxy service. All of it happens on the main thread: the
commands and broadcasts, the connecting job, and the coroutine that stops the
runner. What runs between two suspension points is one step; between steps
anything else may happen.

A job that is cancelled while it is suspended is resumed with an exception, and
one that is cancelled before it first runs never enters its body, so neither
`catch` nor `finally` sees it.
-/

namespace WifiProject.Bg

open Database

inductive State where
  | idle
  | connecting
  | connected
  | stopping
  | stopped
  deriving DecidableEq, Repr

def State.canStop : State → Bool
  | .connecting => true
  | .connected => true
  | _ => false

/-- The three services that share the code. -/
inductive ServiceKind where
  | proxy
  | transproxy
  | vpn
  deriving DecidableEq, Repr

inductive Executable where
  | redsocks
  | ssLocal
  | tun2socks
  deriving DecidableEq, Repr

structure ProxyInstance where
  profile : Profile
  route : String
  deriving DecidableEq, Repr

/-- The constructor of `ProxyInstance`; an error is the message of its
`IllegalArgumentException`. -/
def ProxyInstance.new (profile : Profile) (route : String) : Except String ProxyInstance :=
  if profile.host.isEmpty || (profile.method != "none" && profile.password.isEmpty) then
    .error "Proxy/Password should not be empty"
  else if profile.method ∈ ["aes-192-gcm", "chacha20", "salsa20"] then
    .error ("cipher " ++ profile.method ++ " is deprecated.")
  else .ok ⟨profile, route⟩

/-- The worker that answers local DNS queries; only whether there is one
matters here. -/
structure LocalDnsWorker where
  deriving DecidableEq, Repr

/-- `BaseService.Data`. `processes` lists what the pool has started, and
`notification` is the profile name shown. -/
structure Data where
  state : State := .stopped
  processes : Option (List Executable) := none
  proxy : Option ProxyInstance := none
  udpFallback : Option ProxyInstance := none
  localDns : Option LocalDnsWorker := none
  notification : Option String := none
  closeReceiverRegistered : Bool := false
  connectingJob : Option Nat := none
  deriving DecidableEq, Repr

/-- The connecting job, statement by statement. -/
inductive Instruction where
  | killAll
  | preInit
  | flatten
  | createPool
  | startRedsocks
  | startProxy
  | startFallback
  | startLocalDns
  | startVpn
  | sendFd (tries : Nat)
  | scheduleUpdate
  deriving DecidableEq, Repr

def startProcesses : ServiceKind → List Instruction
  | .proxy => [.startProxy, .startFallback, .startLocalDns]
  | .transproxy => [.startRedsocks, .startProxy, .startFallback, .startLocalDns]
  | .vpn => [.startProxy, .startFallback, .startLocalDns, .startVpn, .sendFd 0]

/-- The body of the job up to `changeState(State.Connected)`. -/
def connectingJob (kind : ServiceKind) (profile : Profile) : List Instruction :=
  [.killAll, .preInit] ++ (if profile.route = "custom-rules" then [.flatten] else []) ++
    [.createPool] ++ startProcesses kind ++ [.scheduleUpdate]

namespace Instruction

/-- Where the job may suspend: on the channel of the network actor, on the IO
dispatcher, and in the delay before the file descriptor is sent. -/
def maySuspend (kind : ServiceKind) : Instruction → Bool
  | .preInit => kind = .vpn
  | .flatten => true
  | .sendFd _ => true
  | _ => false

def startProcess (executable : Executable) (data : Data) : Option Data :=
  data.processes.map fun processes =>
    { data with processes := some (processes ++ [executable]) }

/-- What a statement does; `none` is a `!!` on null. -/
def perform (data : Data) : Instruction → Option Data
  | .killAll => some data
  | .preInit => some data
  | .flatten => some data
  | .createPool => some { data with processes := some [] }
  | .startRedsocks => startProcess .redsocks data
  | .startProxy => data.proxy.bind fun _ => startProcess .ssLocal data
  | .startFallback => data.udpFallback.elim (some data) fun _ => startProcess .ssLocal data
  | .startLocalDns => some { data with localDns := some {} }
  | .startVpn => data.proxy.bind fun _ => startProcess .tun2socks data
  | .sendFd _ => some data
  | .scheduleUpdate => data.proxy.map fun _ => data

/-- `data.processes!!` stands in these. -/
def needsPool : Instruction → Bool
  | .startRedsocks => true
  | .startProxy => true
  | .startFallback => true
  | .startVpn => true
  | _ => false

end Instruction

inductive Exception where
  | cancellation
  | error (message : String)
  deriving DecidableEq, Repr

/-- How a statement goes; nothing is assumed about it. `fails` is an
`IOException`, which is an exception like any other except to `sendFd`. -/
inductive Outcome where
  | proceeds
  | suspends
  | fails (message : String)
  | throws (exception : Exception)
  deriving DecidableEq, Repr

inductive SegmentEnd where
  | finished
  | suspended (point : Instruction) (rest : List Instruction)
  | threw (exception : Exception)
  | nullPointer
  deriving DecidableEq, Repr

/-- The job from one suspension point to the next. -/
def segment (kind : ServiceKind) : List Instruction → List Outcome → Data → SegmentEnd × Data
  | [], _, data => (.finished, data)
  | instruction :: rest, outcomes, data =>
      match outcomes.head?.getD .proceeds with
      | .throws exception => (.threw exception, data)
      | .fails message => (.threw (.error message), data)
      | outcome =>
          if outcome = .suspends ∧ instruction.maySuspend kind = true then
            (.suspended instruction rest, data)
          else
            match instruction.perform data with
            | none => (.nullPointer, data)
            | some data => segment kind rest outcomes.tail data

/-- A suspended job that goes on. A cancelled one does so with an exception;
`sendFd` tries again after an `IOException`, up to its limit. -/
def resume (kind : ServiceKind) (cancelled : Bool) (instruction : Instruction)
    (rest : List Instruction) (outcomes : List Outcome) (data : Data) : SegmentEnd × Data :=
  match outcomes.head?.getD .proceeds with
  | .throws exception => (.threw exception, data)
  | .fails message =>
      match instruction with
      | .sendFd tries =>
          if tries > 5 then (.threw (.error message), data)
          else if cancelled then (.threw .cancellation, data)
          else (.suspended (.sendFd (tries + 1)) rest, data)
      | _ => (.threw (.error message), data)
  | .proceeds =>
      if cancelled then (.threw .cancellation, data) else segment kind rest outcomes.tail data
  | .suspends =>
      if cancelled then (.threw .cancellation, data) else (.suspended instruction rest, data)

inductive JobPhase where
  | dispatched (body : List Instruction)
  | suspended (point : Instruction) (rest : List Instruction)
  | completed
  deriving DecidableEq, Repr

structure ConnectingJob where
  phase : JobPhase
  cancelled : Bool := false
  deriving DecidableEq, Repr

inductive StopPhase where
  | joining (job : Nat)
  | cleaning
  deriving DecidableEq, Repr

/-- A coroutine of `stopRunner` that has not reached `Stopped`. -/
structure Stop where
  restart : Bool
  msg : Option String
  phase : StopPhase
  deriving DecidableEq, Repr

inductive ServiceEffect where
  | stateChanged (before after : State) (msg : Option String)
  | trafficPersisted (ids : List Nat)
  | startRunner
  | stopSelf
  deriving DecidableEq, Repr

/-- A service with its jobs, its stop coroutines, and what was seen of it, the
latest first. `nullDereferenced` tells whether a `!!` of a job has failed. -/
structure Service where
  kind : ServiceKind
  data : Data := {}
  jobs : List ConnectingJob := []
  stops : List Stop := []
  effects : List ServiceEffect := []
  nullDereferenced : Bool := false
  deriving DecidableEq, Repr

namespace Service

def start (kind : ServiceKind) : Service := { kind }

def changeState (after : State) (msg : Option String) (service : Service) : Service :=
  if service.data.state = after ∧ msg = none then service
  else
    { service with
      data := { service.data with state := after }
      effects := .stateChanged service.data.state after msg :: service.effects }

/-- The end of a stop coroutine. -/
def complete (restart : Bool) (msg : Option String) (service : Service) : Service :=
  let service := service.changeState .stopped msg
  { service with
    effects := (if restart then .startRunner else .stopSelf) :: service.effects }

/-- A stop coroutine after the connecting job: the fields are cleared at once,
and then the clean-up started in parallel may have to be waited for. -/
def cleanUp (restart : Bool) (msg : Option String) (waits : Bool) (service : Service) : Service :=
  let ids := (service.data.proxy.toList ++ service.data.udpFallback.toList).map (·.profile.id)
  let service := { service with
    data := { service.data with
      processes := none
      localDns := none
      closeReceiverRegistered := false
      notification := none
      proxy := none
      udpFallback := none }
    effects := .trafficPersisted ids :: service.effects }
  if waits then { service with stops := service.stops ++ [⟨restart, msg, .cleaning⟩] }
  else service.complete restart msg

/-- Whether this job still has to be waited for. -/
def jobActive (service : Service) (job : Nat) : Bool :=
  match service.jobs[job]? with
  | none => false
  | some job => job.phase != .completed

/-- `stopRunner`. The coroutine is launched on the immediate main dispatcher,
so that its first segment runs within the call. -/
def stopRunner (restart : Bool) (msg : Option String) (waits : Bool) (service : Service) : Service :=
  if service.data.state = .stopping then service
  else
    let service := service.changeState .stopping none
    match service.data.connectingJob with
    | none => service.cleanUp restart msg waits
    | some job =>
        if service.jobActive job then
          { service with
            jobs := service.jobs.modify job fun job => { job with cancelled := true }
            stops := service.stops ++ [⟨restart, msg, .joining job⟩] }
        else service.cleanUp restart msg waits

def forceLoad (waits : Bool) (service : Service) : Service :=
  if service.data.state = .stopped then
    { service with effects := .startRunner :: service.effects }
  else if service.data.state.canStop then service.stopRunner true none waits
  else service

/-- `onStartCommand`, given `Core.currentProfile`. -/
def onStartCommand (expanded : Option ExpandedProfile) (waits : Bool) (service : Service) :
    Service :=
  if service.data.state ≠ .stopped then service
  else
    match expanded with
    | none =>
        { service with data := { service.data with notification := some "" } }.stopRunner false
          (some "Please select a profile") waits
    | some ⟨profile, fallback⟩ =>
        match ProxyInstance.new profile profile.route with
        | .error message =>
            { service with data := { service.data with notification := some "" } }.stopRunner false
              (some message) waits
        | .ok proxy =>
            match fallback.mapM fun fallback => ProxyInstance.new fallback profile.route with
            | .error message =>
                -- the main instance is already in place when the fallback is rejected
                { service with
                  data := { service.data with
                    proxy := some proxy
                    notification := some "" } }.stopRunner false (some message) waits
            | .ok udpFallback =>
                let service := { service with
                  data := { service.data with
                    proxy := some proxy
                    udpFallback := udpFallback
                    closeReceiverRegistered := true
                    notification := some profile.formattedName } }.changeState .connecting none
                { service with
                  data := { service.data with connectingJob := some service.jobs.length }
                  jobs := service.jobs ++ [⟨.dispatched (Bg.connectingJob service.kind profile), false⟩] }

/-- The `finally` of a job and its completion. -/
def completeJob (job : Nat) (service : Service) : Service :=
  { service with
    data := { service.data with connectingJob := none }
    jobs := service.jobs.modify job fun job => { job with phase := .completed } }

/-- How the body of a job comes to its end or to the next suspension. -/
def endSegment (job : Nat) (waits : Bool) (service : Service) : SegmentEnd → Service
  | .finished => (service.changeState .connected none).completeJob job
  | .suspended instruction rest =>
      { service with
        jobs := service.jobs.modify job fun job => { job with phase := .suspended instruction rest } }
  | .threw .cancellation => service.completeJob job
  | .threw (.error message) =>
      (service.stopRunner false (some ("Failed to connect the remote server: " ++ message))
        waits).completeJob job
  | .nullPointer =>
      ({ service with nullDereferenced := true }.stopRunner false
        (some "Failed to connect the remote server: null") waits).completeJob job

/-- One segment of a job. -/
def runJob (job : Nat) (outcomes : List Outcome) (waits : Bool) (service : Service) : Service :=
  match service.jobs[job]? with
  | none => service
  | some ⟨.completed, _⟩ => service
  | some ⟨.dispatched _, true⟩ =>
      { service with
        jobs := service.jobs.modify job fun job => { job with phase := .completed } }
  | some ⟨.dispatched body, false⟩ =>
      let (result, data) := segment service.kind body outcomes service.data
      { service with data := data }.endSegment job waits result
  | some ⟨.suspended instruction rest, cancelled⟩ =>
      let (result, data) := resume service.kind cancelled instruction rest outcomes service.data
      { service with data := data }.endSegment job waits result

/-- The next segment of a stop coroutine, once what it waits for is over. -/
def runStop (index : Nat) (waits : Bool) (service : Service) : Service :=
  match service.stops[index]? with
  | none => service
  | some ⟨restart, msg, .joining job⟩ =>
      if service.jobActive job then service
      else { service with stops := service.stops.eraseIdx index }.cleanUp restart msg waits
  | some ⟨restart, msg, .cleaning⟩ =>
      { service with stops := service.stops.eraseIdx index }.complete restart msg

inductive Event where
  | onStartCommand (expanded : Option ExpandedProfile) (waits : Bool)
  | stopRunner (restart : Bool) (msg : Option String) (waits : Bool)
  | forceLoad (waits : Bool)
  | runJob (job : Nat) (outcomes : List Outcome) (waits : Bool)
  | runStop (index : Nat) (waits : Bool)
  deriving DecidableEq, Repr

def step (service : Service) : Event → Service
  | .onStartCommand expanded waits => service.onStartCommand expanded waits
  | .stopRunner restart msg waits => service.stopRunner restart msg waits
  | .forceLoad waits => service.forceLoad waits
  | .runJob job outcomes waits => service.runJob job outcomes waits
  | .runStop index waits => service.runStop index waits

def run (service : Service) (events : List Event) : Service := events.foldl step service

end Service

/-! The body of the job finds what it dereferences. -/

/-- Every statement that uses the pool comes after the one that creates it,
unless the pool is there already. -/
def Covered : Bool → List Instruction → Prop
  | _, [] => True
  | pool, instruction :: rest =>
      (instruction.needsPool = true → pool = true) ∧
        Covered (pool || decide (instruction = .createPool)) rest

theorem Covered.mono {instructions : List Instruction} {pool pool' : Bool}
    (hcovered : Covered pool instructions) (hpool : pool = true → pool' = true) :
    Covered pool' instructions := by
  induction instructions generalizing pool pool' with
  | nil => trivial
  | cons instruction rest ih =>
      refine ⟨fun hneeds => hpool (hcovered.1 hneeds), ih hcovered.2 ?_⟩
      intro h
      rcases Bool.or_eq_true _ _ ▸ h with h | h
      · simp [hpool h]
      · simp [h]

theorem connectingJob_covered (kind : ServiceKind) (profile : Profile) :
    Covered false (connectingJob kind profile) := by
  unfold connectingJob
  cases kind <;> split <;> simp [startProcesses, Covered, Instruction.needsPool]

/-- What the body of a job does to the data. -/
structure Advanced (before after : Data) : Prop where
  frame : after = { before with processes := after.processes, localDns := after.localDns }
  pool : before.processes.isSome = true → after.processes.isSome = true

theorem Advanced.refl (data : Data) : Advanced data data := ⟨rfl, id⟩

theorem Advanced.trans {first second third : Data} (hfirst : Advanced first second)
    (hsecond : Advanced second third) : Advanced first third := by
  refine ⟨?_, fun h => hsecond.pool (hfirst.pool h)⟩
  rw [hsecond.frame, hfirst.frame]

theorem startProcess_advances (executable : Executable) (data : Data)
    (hpool : data.processes.isSome = true) :
    ∃ after, Instruction.startProcess executable data = some after ∧ Advanced data after ∧
      after.processes.isSome = true := by
  obtain ⟨processes, hprocesses⟩ := Option.isSome_iff_exists.mp hpool
  refine ⟨{ data with processes := some (processes ++ [executable]) }, ?_, ⟨rfl, fun _ => rfl⟩, rfl⟩
  simp [Instruction.startProcess, hprocesses]

theorem perform_advances (instruction : Instruction) (data : Data)
    (hproxy : data.proxy.isSome = true)
    (hneeds : instruction.needsPool = true → data.processes.isSome = true) :
    ∃ after, instruction.perform data = some after ∧ Advanced data after ∧
      (instruction = .createPool → after.processes.isSome = true) := by
  obtain ⟨proxy, hproxy⟩ := Option.isSome_iff_exists.mp hproxy
  cases instruction with
  | killAll => exact ⟨data, rfl, .refl data, by simp⟩
  | preInit => exact ⟨data, rfl, .refl data, by simp⟩
  | flatten => exact ⟨data, rfl, .refl data, by simp⟩
  | createPool => exact ⟨{ data with processes := some [] }, rfl, ⟨rfl, fun _ => rfl⟩, fun _ => rfl⟩
  | startRedsocks =>
      obtain ⟨after, hafter, hadvanced, -⟩ := startProcess_advances .redsocks data (hneeds rfl)
      exact ⟨after, hafter, hadvanced, by simp⟩
  | startProxy =>
      obtain ⟨after, hafter, hadvanced, -⟩ := startProcess_advances .ssLocal data (hneeds rfl)
      exact ⟨after, by simp [Instruction.perform, hproxy, hafter], hadvanced, by simp⟩
  | startFallback =>
      obtain ⟨after, hafter, hadvanced, -⟩ := startProcess_advances .ssLocal data (hneeds rfl)
      cases hfallback : data.udpFallback with
      | none => exact ⟨data, by simp [Instruction.perform, hfallback], .refl data, by simp⟩
      | some fallback =>
          exact ⟨after, by simp [Instruction.perform, hfallback, hafter], hadvanced, by simp⟩
  | startLocalDns =>
      exact ⟨{ data with localDns := some {} }, rfl, ⟨rfl, id⟩, by simp⟩
  | startVpn =>
      obtain ⟨after, hafter, hadvanced, -⟩ := startProcess_advances .tun2socks data (hneeds rfl)
      exact ⟨after, by simp [Instruction.perform, hproxy, hafter], hadvanced, by simp⟩
  | sendFd tries => exact ⟨data, rfl, .refl data, by simp⟩
  | scheduleUpdate =>
      exact ⟨data, by simp [Instruction.perform, hproxy], .refl data, by simp⟩

/-- A segment of the job dereferences no null and stays ready to go on. -/
structure SegmentSound (before : Data) (result : SegmentEnd × Data) : Prop where
  dereferences : result.1 ≠ .nullPointer
  advanced : Advanced before result.2
  covered : ∀ instruction rest, result.1 = .suspended instruction rest →
    Covered result.2.processes.isSome rest

theorem SegmentSound.threw (data : Data) (exception : Exception) :
    SegmentSound data (.threw exception, data) :=
  ⟨by simp, .refl data, by simp⟩

theorem SegmentSound.suspended {data : Data} (instruction : Instruction) {rest : List Instruction}
    (hcovered : Covered data.processes.isSome rest) :
    SegmentSound data (.suspended instruction rest, data) := by
  refine ⟨by simp, .refl data, ?_⟩
  intro point remaining h
  cases h
  exact hcovered

theorem segment_sound (kind : ServiceKind) (instructions : List Instruction)
    (outcomes : List Outcome) (data : Data) (hproxy : data.proxy.isSome = true)
    (hcovered : Covered data.processes.isSome instructions) :
    SegmentSound data (segment kind instructions outcomes data) := by
  induction instructions generalizing outcomes data with
  | nil => exact ⟨by simp [segment], .refl data, by simp [segment]⟩
  | cons instruction rest ih =>
      obtain ⟨after, hperform, hadvanced, hcreate⟩ :=
        perform_advances instruction data hproxy hcovered.1
      have hpool : (data.processes.isSome || decide (instruction = .createPool)) = true →
          after.processes.isSome = true := by
        intro h
        rcases Bool.or_eq_true _ _ ▸ h with h | h
        · exact hadvanced.pool h
        · exact hcreate (by simpa using h)
      have hproxy' : after.proxy.isSome = true := by
        rw [hadvanced.frame]
        exact hproxy
      have hrest (outcomes : List Outcome) :
          SegmentSound data (segment kind rest outcomes after) := by
        have hsound := ih outcomes after hproxy' (hcovered.2.mono hpool)
        exact ⟨hsound.dereferences, hadvanced.trans hsound.advanced, hsound.covered⟩
      have hsuspended : instruction.maySuspend kind = true →
          Covered data.processes.isSome rest := by
        intro hsuspends
        refine hcovered.2.mono ?_
        cases instruction <;> simp_all [Instruction.maySuspend]
      unfold segment
      split
      · exact .threw data _
      · exact .threw data _
      · split
        · rename_i h
          exact .suspended instruction (hsuspended h.2)
        · simp only [hperform]
          exact hrest _

theorem resume_sound (kind : ServiceKind) (cancelled : Bool) (instruction : Instruction)
    (rest : List Instruction) (outcomes : List Outcome) (data : Data)
    (hproxy : data.proxy.isSome = true) (hcovered : Covered data.processes.isSome rest) :
    SegmentSound data (resume kind cancelled instruction rest outcomes data) := by
  unfold resume
  split
  · exact .threw data _
  · split
    · split
      · exact .threw data _
      · split
        · exact .threw data _
        · exact .suspended _ hcovered
    · exact .threw data _
  · split
    · exact .threw data _
    · exact segment_sound kind rest _ data hproxy hcovered
  · split
    · exact .threw data _
    · exact .suspended _ hcovered

/-- A cancelled job goes on with an exception. -/
theorem resume_cancelled (kind : ServiceKind) (instruction : Instruction) (rest : List Instruction)
    (outcomes : List Outcome) (data : Data) :
    ∃ exception, resume kind true instruction rest outcomes data = (.threw exception, data) := by
  unfold resume
  split
  · exact ⟨_, rfl⟩
  · split
    · split <;> exact ⟨_, rfl⟩
    · exact ⟨_, rfl⟩
  · exact ⟨_, rfl⟩
  · exact ⟨_, rfl⟩

/-! The invariant of the life cycle. -/

/-- Nothing of a run is left. -/
structure Data.Released (data : Data) : Prop where
  proxy : data.proxy = none
  udpFallback : data.udpFallback = none
  processes : data.processes = none
  localDns : data.localDns = none
  notification : data.notification = none
  closeReceiver : data.closeReceiverRegistered = false

def JobPhase.remaining : JobPhase → List Instruction
  | .dispatched body => body
  | .suspended _ rest => rest
  | .completed => []

namespace Service

/-- A job that has not completed is the current one. It connects, or it has
been cancelled by the stop coroutine that waits for it. -/
structure ActiveJob (service : Service) (index : Nat) (job : ConnectingJob) : Prop where
  current : service.data.connectingJob = some index
  proxy : service.data.proxy.isSome = true
  covered : Covered service.data.processes.isSome job.phase.remaining
  state : (service.data.state = .connecting ∧ job.cancelled = false) ∨
    (service.data.state = .stopping ∧ job.cancelled = true ∧
      ∃ stop ∈ service.stops, stop.phase = .joining index)

structure Sound (service : Service) : Prop where
  connected : ∀ before msg, .stateChanged before .connected msg ∈ service.effects →
    before = .connecting
  dereferences : service.nullDereferenced = false
  active : ∀ index job, service.jobs[index]? = some job → job.phase ≠ .completed →
    service.ActiveJob index job
  stopping : service.data.state = .stopping → ∃ stop, service.stops = [stop] ∧
    (stop.phase = .cleaning → service.data.Released)
  running : service.data.state ≠ .stopping → service.stops = []

structure Safe (service : Service) : Prop extends service.Sound where
  stopped : service.data.state = .stopped → service.data.Released

def AllCompleted (service : Service) : Prop :=
  ∀ (index : Nat) (job : ConnectingJob), service.jobs[index]? = some job → job.phase = .completed

theorem safe_start (kind : ServiceKind) : (start kind).Safe := by
  refine ⟨⟨?_, rfl, ?_, ?_, fun _ => rfl⟩, fun _ => ⟨rfl, rfl, rfl, rfl, rfl, rfl⟩⟩
  · simp [start]
  · simp [start]
  · simp [start]

/-- Outside `Connecting` and `Stopping` no job is left. -/
theorem Sound.allCompleted {service : Service} (hsound : service.Sound)
    (hconnecting : service.data.state ≠ .connecting) (hstopping : service.data.state ≠ .stopping) :
    service.AllCompleted := by
  intro index job hjob
  by_contra hphase
  rcases (hsound.active index job hjob hphase).state with h | h
  · exact hconnecting h.1
  · exact hstopping h.1

/-- Without a current job no job is left. -/
theorem Sound.allCompleted_of_current {service : Service} (hsound : service.Sound)
    (hcurrent : ∀ index job, service.data.connectingJob = some index →
      service.jobs[index]? = some job → job.phase = .completed) : service.AllCompleted := by
  intro index job hjob
  by_contra hphase
  exact hphase (hcurrent index job (hsound.active index job hjob hphase).current hjob)

/-- With the current job marked as completed no job is left either. -/
theorem Sound.completed_of_modify {service : Service} (hsound : service.Sound) {index other : Nat}
    {job : ConnectingJob} (hcurrent : service.data.connectingJob = some index)
    (hjob : (service.jobs.modify index fun job => { job with phase := .completed })[other]? =
      some job) : job.phase = .completed := by
  simp only [List.getElem?_modify, Option.map_eq_map, Option.map_eq_some_iff] at hjob
  obtain ⟨old, hold, rfl⟩ := hjob
  split
  · rfl
  · rename_i hne
    by_contra hphase
    have hactive := hsound.active other old hold hphase
    exact hne (Option.some.inj (hcurrent.symm.trans hactive.current))

theorem jobActive_iff (service : Service) (index : Nat) :
    service.jobActive index = true ↔
      ∃ job, service.jobs[index]? = some job ∧ job.phase ≠ .completed := by
  unfold jobActive
  cases service.jobs[index]? <;> simp

/-- While it stops, a service has no job but the one that the stop coroutine waits for. -/
theorem Sound.allCompleted_of_stopping {service : Service} (hsound : service.Sound) {stop : Stop}
    (hstate : service.data.state = .stopping) (hstops : service.stops = [stop])
    (hwaits : ∀ index, stop.phase = .joining index → service.jobActive index ≠ true) :
    service.AllCompleted := by
  intro index job hjob
  by_contra hphase
  rcases (hsound.active index job hjob hphase).state with h | ⟨-, -, other, hmem, hjoining⟩
  · simp [hstate] at h
  · rw [hstops, List.mem_singleton] at hmem
    rw [hmem] at hjoining
    exact hwaits index hjoining ((jobActive_iff service index).mpr ⟨job, hjob, hphase⟩)

/-- The last segment of a stop coroutine. -/
theorem safe_complete {service : Service} (restart : Bool) (msg : Option String)
    (hconnected : ∀ before msg, .stateChanged before .connected msg ∈ service.effects →
      before = .connecting)
    (hdereferences : service.nullDereferenced = false) (hjobs : service.AllCompleted)
    (hstate : service.data.state = .stopping) (hstops : service.stops = [])
    (hreleased : service.data.Released) : (service.complete restart msg).Safe := by
  have hchange : service.changeState .stopped msg =
      { service with
        data := { service.data with state := .stopped }
        effects := .stateChanged service.data.state .stopped msg :: service.effects } := by
    simp [changeState, hstate]
  unfold complete
  rw [hchange]
  refine ⟨⟨?_, hdereferences, ?_, by simp, fun _ => hstops⟩, fun _ => ?_⟩
  · intro before msg' hmem
    refine hconnected before msg' ?_
    cases restart <;> simpa using hmem
  · intro index job hjob hphase
    exact absurd (hjobs index job hjob) hphase
  · exact ⟨hreleased.proxy, hreleased.udpFallback, hreleased.processes, hreleased.localDns,
      hreleased.notification, hreleased.closeReceiver⟩

/-- A stop coroutine from the moment no job is left. -/
theorem safe_cleanUp {service : Service} (restart : Bool) (msg : Option String) (waits : Bool)
    (hconnected : ∀ before msg, .stateChanged before .connected msg ∈ service.effects →
      before = .connecting)
    (hdereferences : service.nullDereferenced = false) (hjobs : service.AllCompleted)
    (hstate : service.data.state = .stopping) (hstops : service.stops = []) :
    (service.cleanUp restart msg waits).Safe := by
  unfold cleanUp
  cases waits with
  | true =>
      refine ⟨⟨?_, hdereferences, ?_, ?_, ?_⟩, ?_⟩
      · intro before msg' hmem
        exact hconnected before msg' (by simpa using hmem)
      · intro index job hjob hphase
        exact absurd (hjobs index job hjob) hphase
      · intro _
        exact ⟨⟨restart, msg, .cleaning⟩, by simp [hstops], fun _ => ⟨rfl, rfl, rfl, rfl, rfl, rfl⟩⟩
      · intro hne
        exact absurd hstate hne
      · intro hstopped
        rw [if_pos rfl] at hstopped
        simp [hstate] at hstopped
  | false =>
      refine safe_complete restart msg ?_ hdereferences hjobs hstate hstops ⟨rfl, rfl, rfl, rfl, rfl, rfl⟩
      intro before msg' hmem
      exact hconnected before msg' (by simpa using hmem)

theorem changeState_eq (service : Service) (after : State) (msg : Option String)
    (h : service.data.state ≠ after) : service.changeState after msg =
      { service with
        data := { service.data with state := after }
        effects := .stateChanged service.data.state after msg :: service.effects } := by
  simp [changeState, h]

/-- `stopRunner` from any state that is sound, also one in which `Stopped` has
already been given something to clean up. -/
theorem Sound.stopRunner {service : Service} (hsound : service.Sound) (restart : Bool)
    (msg : Option String) (waits : Bool) : (service.stopRunner restart msg waits).Safe := by
  unfold Service.stopRunner
  split
  · rename_i hstate
    exact ⟨hsound, fun hstopped => by simp [hstate] at hstopped⟩
  · rename_i hstate
    have hstops : service.stops = [] := hsound.running hstate
    have hconnected : ∀ before msg, .stateChanged before .connected msg ∈
        (.stateChanged service.data.state .stopping none :: service.effects) →
        before = .connecting := by
      intro before msg' hmem
      exact hsound.connected before msg' (by simpa using hmem)
    dsimp only
    rw [changeState_eq service .stopping none hstate]
    split
    · rename_i hcurrent
      refine safe_cleanUp restart msg waits hconnected hsound.dereferences ?_ rfl hstops
      apply hsound.allCompleted_of_current
      intro index job hindex
      exact absurd (hcurrent.symm.trans hindex) (by simp)
    · rename_i current hcurrent
      split
      · -- the job is cancelled and then waited for
        refine ⟨⟨hconnected, hsound.dereferences, ?_, ?_, ?_⟩, ?_⟩
        · intro index job hjob hphase
          simp only [List.getElem?_modify, Option.map_eq_map, Option.map_eq_some_iff] at hjob
          obtain ⟨old, hold, rfl⟩ := hjob
          have hphase' : old.phase ≠ .completed := by
            split at hphase <;> exact hphase
          have hactive := hsound.active index old hold hphase'
          have hindex : current = index := Option.some.inj (hcurrent.symm.trans hactive.current)
          subst hindex
          simp only [if_true]
          refine ⟨hactive.current, hactive.proxy, hactive.covered, Or.inr ⟨rfl, rfl, ?_⟩⟩
          exact ⟨⟨restart, msg, .joining current⟩, by simp, rfl⟩
        · intro _
          exact ⟨⟨restart, msg, .joining current⟩, by simp [hstops], by simp⟩
        · simp
        · simp
      · rename_i hinactive
        refine safe_cleanUp restart msg waits hconnected hsound.dereferences ?_ rfl hstops
        apply hsound.allCompleted_of_current
        intro index job hindex hjob
        have hindex' : current = index := Option.some.inj (hcurrent.symm.trans hindex)
        subst hindex'
        by_contra hphase
        exact hinactive ((jobActive_iff _ current).mpr ⟨job, hjob, hphase⟩)

theorem Safe.forceLoad {service : Service} (hsafe : service.Safe) (waits : Bool) :
    (service.forceLoad waits).Safe := by
  unfold Service.forceLoad
  split
  · refine ⟨⟨?_, hsafe.dereferences, ?_, hsafe.stopping, hsafe.running⟩, hsafe.stopped⟩
    · intro before msg hmem
      exact hsafe.connected before msg (by simpa using hmem)
    · intro index job hjob hphase
      have hactive := hsafe.active index job hjob hphase
      exact ⟨hactive.current, hactive.proxy, hactive.covered, hactive.state⟩
  · split
    · exact hsafe.toSound.stopRunner true none waits
    · exact hsafe

/-- The fields that `onStartCommand` fills in before it changes the state. -/
theorem Safe.prepare {service : Service} (hsafe : service.Safe)
    (hstopped : service.data.state = .stopped) (proxy udpFallback : Option ProxyInstance)
    (notification : Option String) (closeReceiverRegistered : Bool) :
    { service with
      data := { service.data with
        proxy := proxy
        udpFallback := udpFallback
        closeReceiverRegistered := closeReceiverRegistered
        notification := notification } }.Sound := by
  refine ⟨hsafe.connected, hsafe.dereferences, ?_, ?_, ?_⟩
  · intro index job hjob hphase
    have hcompleted := hsafe.toSound.allCompleted (by simp [hstopped]) (by simp [hstopped])
    exact absurd (hcompleted index job hjob) hphase
  · simp [hstopped]
  · exact hsafe.running

theorem Safe.onStartCommand {service : Service} (hsafe : service.Safe)
    (expanded : Option ExpandedProfile) (waits : Bool) :
    (service.onStartCommand expanded waits).Safe := by
  unfold Service.onStartCommand
  split
  · exact hsafe
  · rename_i hstate
    have hstopped : service.data.state = .stopped := by simpa using hstate
    have hcompleted := hsafe.toSound.allCompleted (by simp [hstopped]) (by simp [hstopped])
    split
    · exact (hsafe.prepare hstopped _ _ _ _).stopRunner _ _ _
    · split
      · exact (hsafe.prepare hstopped _ _ _ _).stopRunner _ _ _
      · split
        · exact (hsafe.prepare hstopped _ _ _ _).stopRunner _ _ _
        · rename_i profile fallback _ proxy _ _ udpFallback _
          dsimp only
          rw [changeState_eq _ .connecting none (by simp [hstopped])]
          refine ⟨⟨?_, hsafe.dereferences, ?_, by simp, ?_⟩, by simp⟩
          · intro before msg hmem
            exact hsafe.connected before msg (by simpa using hmem)
          · intro index job hjob hphase
            rw [List.getElem?_append] at hjob
            split at hjob
            · exact absurd (hcompleted index job hjob) hphase
            · rename_i hindex
              rw [List.getElem?_singleton] at hjob
              split at hjob
              · rename_i hzero
                dsimp only at hindex hzero
                have hlast : index = service.jobs.length := by omega
                cases hjob
                subst hlast
                refine ⟨rfl, rfl, ?_, Or.inl ⟨rfl, rfl⟩⟩
                refine (connectingJob_covered service.kind profile).mono ?_
                simp
              · cases hjob
          · intro _
            exact hsafe.running (by simp [hstopped])

/-- The end of the current job, whatever state it leaves behind. -/
theorem Safe.completeJob {service : Service} (hsafe : service.Safe) (index : Nat)
    (hcurrent : service.data.connectingJob = some index) : (service.completeJob index).Safe := by
  refine ⟨⟨hsafe.connected, hsafe.dereferences, ?_, ?_, hsafe.running⟩, ?_⟩
  · intro other job hjob hphase
    exact absurd (hsafe.toSound.completed_of_modify hcurrent hjob) hphase
  · intro hstopping
    obtain ⟨stop, hstop, hreleased⟩ := hsafe.stopping hstopping
    refine ⟨stop, hstop, fun hcleaning => ?_⟩
    have h := hreleased hcleaning
    exact ⟨h.proxy, h.udpFallback, h.processes, h.localDns, h.notification, h.closeReceiver⟩
  · intro hstopped
    have h := hsafe.stopped hstopped
    exact ⟨h.proxy, h.udpFallback, h.processes, h.localDns, h.notification, h.closeReceiver⟩

theorem stopRunner_connectingJob (service : Service) (restart : Bool) (msg : Option String)
    (waits : Bool) : (service.stopRunner restart msg waits).data.connectingJob =
      service.data.connectingJob := by
  have hchange (service : Service) (after : State) (msg : Option String) :
      (service.changeState after msg).data.connectingJob = service.data.connectingJob := by
    unfold changeState
    split <;> rfl
  have hcleanUp (service : Service) : (service.cleanUp restart msg waits).data.connectingJob =
      service.data.connectingJob := by
    unfold cleanUp complete
    split
    · rfl
    · exact hchange _ _ _
  unfold stopRunner
  split
  · rfl
  · dsimp only
    split
    · rw [hcleanUp, hchange]
    · split
      · exact hchange _ _ _
      · rw [hcleanUp, hchange]

/-- The state in the middle of a segment: the body has done its part, and the
job is still there. -/
theorem Safe.advance {service : Service} (hsafe : service.Safe) {data : Data}
    (hadvanced : Advanced service.data data) (hstate : service.data.state = .connecting) :
    { service with data := data }.Safe := by
  have hframe := hadvanced.frame
  have hstate' : data.state = .connecting := by
    rw [hframe]
    exact hstate
  refine ⟨⟨hsafe.connected, hsafe.dereferences, ?_, by simp [hstate'], ?_⟩, by simp [hstate']⟩
  · intro index job hjob hphase
    have hactive := hsafe.active index job hjob hphase
    refine ⟨?_, ?_, hactive.covered.mono hadvanced.pool, ?_⟩
    · rw [hframe]
      exact hactive.current
    · rw [hframe]
      exact hactive.proxy
    · rcases hactive.state with h | h
      · exact Or.inl ⟨hstate', h.2⟩
      · simp [hstate] at h
  · intro _
    exact hsafe.running (by simp [hstate])

theorem Safe.connect {service : Service} (hsafe : service.Safe)
    (hstate : service.data.state = .connecting) (hjobs : service.AllCompleted) :
    (service.changeState .connected none).Safe := by
  rw [changeState_eq service .connected none (by simp [hstate])]
  refine ⟨⟨?_, hsafe.dereferences, ?_, by simp, ?_⟩, by simp⟩
  · intro before msg hmem
    rcases List.mem_cons.mp hmem with h | h
    · cases h
      exact hstate
    · exact hsafe.connected before msg h
  · intro index job hjob hphase
    exact absurd (hjobs index job hjob) hphase
  · intro _
    exact hsafe.running (by simp [hstate])

/-- A segment that has run to its end, from the state it has made. -/
theorem Safe.endSegment {service : Service} (hsafe : service.Safe) {index : Nat}
    {job : ConnectingJob} (hjob : service.jobs[index]? = some job) (hphase : job.phase ≠ .completed)
    (waits : Bool) (result : SegmentEnd) (hdereferences : result ≠ .nullPointer)
    (hconnecting : (∃ exception, result = .threw exception) ∨ service.data.state = .connecting)
    (hcovered : ∀ instruction rest, result = .suspended instruction rest →
      Covered service.data.processes.isSome rest) :
    (service.endSegment index waits result).Safe := by
  have hactive := hsafe.active index job hjob hphase
  have hcurrent := hactive.current
  cases result with
  | nullPointer => exact absurd rfl hdereferences
  | threw exception =>
      cases exception with
      | cancellation => exact hsafe.completeJob index hcurrent
      | error message =>
          apply (hsafe.toSound.stopRunner _ _ _).completeJob
          rw [stopRunner_connectingJob]
          exact hcurrent
  | finished =>
      have hstate : service.data.state = .connecting := by simpa using hconnecting
      have hcommute : (service.changeState .connected none).completeJob index =
          (service.completeJob index).changeState .connected none := by
        rw [changeState_eq service .connected none (by simp [hstate]),
          changeState_eq _ .connected none (by simp [Service.completeJob, hstate])]
        rfl
      change ((service.changeState .connected none).completeJob index).Safe
      rw [hcommute]
      have hcompleted := hsafe.completeJob index hcurrent
      refine hcompleted.connect hstate (hcompleted.toSound.allCompleted_of_current ?_)
      simp [Service.completeJob]
  | suspended instruction rest =>
      have hstate : service.data.state = .connecting := by simpa using hconnecting
      refine ⟨⟨hsafe.connected, hsafe.dereferences, ?_, hsafe.stopping, hsafe.running⟩,
        hsafe.stopped⟩
      intro other updated hupdated hphase'
      simp only [Service.endSegment, List.getElem?_modify, Option.map_eq_map,
        Option.map_eq_some_iff] at hupdated
      obtain ⟨old, hold, rfl⟩ := hupdated
      by_cases hindex : index = other
      · subst hindex
        obtain rfl : job = old := Option.some.inj (hjob.symm.trans hold)
        rw [if_pos rfl]
        exact ⟨hcurrent, hactive.proxy, hcovered instruction rest rfl, hactive.state⟩
      · rw [if_neg hindex] at hphase'
        have hother := hsafe.active other old hold hphase'
        exact absurd (Option.some.inj (hcurrent.symm.trans hother.current)) hindex

/-- A segment of the current job, from its body. -/
theorem Safe.runSegment {service : Service} (hsafe : service.Safe) {index : Nat}
    {job : ConnectingJob} (hjob : service.jobs[index]? = some job) (hphase : job.phase ≠ .completed)
    (hcancelled : job.cancelled = false) (waits : Bool) {result : SegmentEnd × Data}
    (hresult : SegmentSound service.data result) :
    ({ service with data := result.2 }.endSegment index waits result.1).Safe := by
  have hactive := hsafe.active index job hjob hphase
  have hstate : service.data.state = .connecting := by
    rcases hactive.state with h | h
    · exact h.1
    · simp [hcancelled] at h
  have hstate' : result.2.state = .connecting := by
    rw [hresult.advanced.frame]
    exact hstate
  exact (hsafe.advance hresult.advanced hstate).endSegment hjob hphase waits result.1
    hresult.dereferences (Or.inr hstate') hresult.covered

theorem Safe.runJob {service : Service} (hsafe : service.Safe) (index : Nat)
    (outcomes : List Outcome) (waits : Bool) : (service.runJob index outcomes waits).Safe := by
  unfold Service.runJob
  split
  · exact hsafe
  · exact hsafe
  · -- cancelled before it first ran: the body and its `finally` are skipped
    rename_i body hjob
    have hcurrent := (hsafe.active index _ hjob (by simp)).current
    refine ⟨⟨hsafe.connected, hsafe.dereferences, ?_, hsafe.stopping, hsafe.running⟩, hsafe.stopped⟩
    intro other job hother hphase
    exact absurd (hsafe.toSound.completed_of_modify hcurrent hother) hphase
  · rename_i body hjob
    have hactive := hsafe.active index _ hjob (by simp)
    exact hsafe.runSegment hjob (by simp) rfl waits
      (segment_sound service.kind body outcomes service.data hactive.proxy hactive.covered)
  · rename_i instruction rest cancelled hjob
    have hactive := hsafe.active index _ hjob (by simp)
    cases cancelled with
    | false =>
        exact hsafe.runSegment hjob (by simp) rfl waits
          (resume_sound service.kind false instruction rest outcomes service.data hactive.proxy
            hactive.covered)
    | true =>
        obtain ⟨exception, hresume⟩ :=
          resume_cancelled service.kind instruction rest outcomes service.data
        simp only [hresume]
        exact hsafe.endSegment hjob (by simp) waits _ (by simp) (Or.inl ⟨exception, rfl⟩) (by simp)

theorem Safe.runStop {service : Service} (hsafe : service.Safe) (index : Nat) (waits : Bool) :
    (service.runStop index waits).Safe := by
  have hstopping (stop : Stop) (hstop : service.stops[index]? = some stop) :
      service.data.state = .stopping ∧ service.stops = [stop] ∧ service.stops.eraseIdx index = [] ∧
        (stop.phase = .cleaning → service.data.Released) := by
    have hstate : service.data.state = .stopping := by
      by_contra hne
      simp [hsafe.running hne] at hstop
    obtain ⟨only, honly, hreleased⟩ := hsafe.stopping hstate
    rw [honly, List.getElem?_singleton] at hstop
    split at hstop
    · rename_i hzero
      cases hstop
      subst hzero
      exact ⟨hstate, honly, by simp [honly], hreleased⟩
    · cases hstop
  unfold Service.runStop
  split
  · exact hsafe
  · rename_i restart msg job hstop
    obtain ⟨hstate, honly, herase, -⟩ := hstopping _ hstop
    split
    · exact hsafe
    · rename_i hinactive
      refine safe_cleanUp restart msg waits hsafe.connected hsafe.dereferences ?_ hstate herase
      apply hsafe.toSound.allCompleted_of_stopping hstate honly
      rintro _ ⟨⟩
      exact hinactive
  · rename_i restart msg hstop
    obtain ⟨hstate, honly, herase, hreleased⟩ := hstopping _ hstop
    refine safe_complete restart msg hsafe.connected hsafe.dereferences ?_ hstate herase
      (hreleased rfl)
    apply hsafe.toSound.allCompleted_of_stopping hstate honly
    rintro _ ⟨⟩

theorem Safe.step {service : Service} (hsafe : service.Safe) (event : Event) :
    (service.step event).Safe := by
  cases event with
  | onStartCommand expanded waits => exact hsafe.onStartCommand expanded waits
  | stopRunner restart msg waits => exact hsafe.toSound.stopRunner restart msg waits
  | forceLoad waits => exact hsafe.forceLoad waits
  | runJob job outcomes waits => exact hsafe.runJob job outcomes waits
  | runStop index waits => exact hsafe.runStop index waits

theorem Safe.run {service : Service} (hsafe : service.Safe) (events : List Event) :
    (service.run events).Safe := by
  induction events generalizing service with
  | nil => exact hsafe
  | cons event events ih => exact ih (hsafe.step event)

/-- Life-cycle safety: in every state that any interleaving reaches, `Connected`
was only ever entered from `Connecting`; a stopped service has given everything
back and has no job left; at most one stop coroutine is on its way; and no `!!`
of a connecting job has failed. -/
theorem lifeCycle_safe (kind : ServiceKind) (events : List Event) :
    let service := (start kind).run events
    (∀ before msg, .stateChanged before .connected msg ∈ service.effects → before = .connecting) ∧
      (service.data.state = .stopped → service.data.Released ∧ service.AllCompleted) ∧
      service.stops.length ≤ 1 ∧
      service.nullDereferenced = false := by
  intro service
  have hsafe : service.Safe := (safe_start kind).run events
  refine ⟨hsafe.connected, ?_, ?_, hsafe.dereferences⟩
  · intro hstopped
    refine ⟨hsafe.stopped hstopped, hsafe.toSound.allCompleted ?_ ?_⟩
    · simp [hstopped]
    · simp [hstopped]
  · by_cases hstate : service.data.state = .stopping
    · obtain ⟨stop, hstop, -⟩ := hsafe.stopping hstate
      simp [hstop]
    · simp [hsafe.running hstate]

-- a VPN that suspends on its way up connects, and stops again
example : (((start .vpn).run [.onStartCommand (some ⟨{}, none⟩) false,
    .runJob 0 [.proceeds, .suspends] false, .runJob 0 [] false]).data.state,
    ((start .vpn).run [.onStartCommand (some ⟨{}, none⟩) false,
      .runJob 0 [.proceeds, .suspends] false, .stopRunner false none true,
      .runJob 0 [] false, .runStop 0 false]).data.state) = (.connected, .stopped) := by
  decide

end Service

end WifiProject.Bg
