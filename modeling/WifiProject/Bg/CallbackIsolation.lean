import WifiProject.Bg.BandwidthLoop
import WifiProject.Bg.BaseService
import WifiProject.Bg.TrafficMonitor

/-!
Remote calls of `BaseService.Binder`. Its coroutines are children of a plain
`Job`, so an exception that leaves one of them cancels the scope: the loop ends
and no body that is launched later runs. `broadcast` catches what a callback
throws; the calls that `startListeningForBandwidth` makes itself are not caught.

The callback interface is `oneway`, so no call comes back into the binder before
a body has ended.
-/

namespace WifiProject.Bg

open Lib

/-- `State.ordinal`. -/
def State.ordinal : State → Nat
  | .idle => 0
  | .connecting => 1
  | .connected => 2
  | .stopping => 3
  | .stopped => 4

def TrafficStats.plus (stats other : TrafficStats) : TrafficStats where
  txRate := stats.txRate + other.txRate
  rxRate := stats.rxRate + other.rxRate
  txTotal := stats.txTotal + other.txTotal
  rxTotal := stats.rxTotal + other.rxTotal

/-- The calls of `IShadowsocksServiceCallback`. -/
inductive RemoteCall where
  | stateChanged (state : Nat) (profileName : String) (msg : Option String)
  | trafficUpdated (profileId : Nat) (stats : TrafficStats)
  | trafficPersisted (profileId : Nat)
  deriving DecidableEq, Repr

/-- What a body reads of a proxy: its profile, `trafficMonitor?.out`, and what
`requestUpdate` answers. -/
structure ProxyView where
  profileId : Nat
  profileName : Option String
  out : Option TrafficStats
  update : Option (TrafficStats × Bool)
  deriving DecidableEq, Repr

/-- What a body reads of `data`. -/
structure DataView where
  state : State
  proxy : Option ProxyView
  udpFallback : Option ProxyView
  deriving DecidableEq, Repr

namespace DataView

def profileName (view : DataView) : String := (view.proxy.bind ProxyView.profileName).getD "Idle"

/-- The first report to a new listener. -/
def initialCalls (view : DataView) : List RemoteCall :=
  match view.state, view.proxy with
  | .connected, some proxy =>
      let fallback := view.udpFallback.toList
      let sum := ((proxy :: fallback).filterMap ProxyView.out).foldl TrafficStats.plus {}
      (proxy :: fallback).map (fun proxy => .trafficUpdated proxy.profileId (proxy.out.getD {})) ++
        [.trafficUpdated 0 sum]
  | _, _ => []

/-- The reports of one iteration, if anything has changed. -/
def loopCalls (view : DataView) : List RemoteCall :=
  let stats := (view.proxy.toList ++ view.udpFallback.toList).filterMap fun proxy =>
    proxy.update.map fun update => (proxy.profileId, update)
  if stats.any (fun update => update.2.2) && view.state = .connected then
    stats.map (fun update => .trafficUpdated update.1 update.2.1) ++
      [.trafficUpdated 0 ((stats.map fun update => update.2.1).foldl TrafficStats.plus {})]
  else []

end DataView

/-- The bodies that the binder launches. -/
inductive BinderBody (B : Type) where
  | listener (body : ListenerBody B)
  | stateChanged (state : State) (msg : Option String)
  | trafficPersisted (ids : List Nat)
  deriving DecidableEq, Repr

/-- The binder with its scope. `pending` are the bodies that the main thread has
still to run, `delivered` the remote calls that have not thrown. -/
structure CallbackBinder (B : Type) where
  books : BandwidthBinder B := {}
  pending : List (BinderBody B) := []
  active : Bool := true
  closed : Bool := false
  delivered : List (B × RemoteCall) := []
  deriving DecidableEq, Repr

/-- `throws` says which remote calls throw a `RemoteException` while a body is
running. -/
inductive BinderAction (B : Type) where
  | registerCallback (callback : B)
  | launch (body : BinderBody B)
  | unregisterCallback (callback : B)
  | onCallbackDied (callback : B)
  /-- The main thread takes the next body. -/
  | dispatch (view : DataView) (throws : B → RemoteCall → Bool)
  /-- The delay of the loop is over. -/
  | elapse (view : DataView) (throws : B → RemoteCall → Bool)
  | close

section Calls

variable {B : Type}

/-- Calls to one callback, up to the first that throws. -/
def attempt (throws : B → RemoteCall → Bool) (callback : B) : List RemoteCall → List (B × RemoteCall)
  | [] => []
  | call :: calls =>
      if throws callback call then [] else (callback, call) :: attempt throws callback calls

/-- `broadcast`: what one callback throws does not keep the others from being
called. -/
def broadcast (throws : B → RemoteCall → Bool) (callbacks : List B)
    (work : B → List RemoteCall) : List (B × RemoteCall) :=
  callbacks.flatMap fun callback => attempt throws callback (work callback)

theorem attempt_of_quiet {throws : B → RemoteCall → Bool} {callback : B} {calls : List RemoteCall}
    (h : ∀ call ∈ calls, throws callback call = false) :
    attempt throws callback calls = calls.map fun call => (callback, call) := by
  induction calls with
  | nil => rfl
  | cons call calls ih =>
      rw [List.forall_mem_cons] at h
      simp [attempt, h.1, ih h.2]

/-- A broadcast reaches every callback that does not throw. -/
theorem mem_broadcast {throws : B → RemoteCall → Bool} {callbacks : List B} {callback : B}
    {work : B → List RemoteCall} (hmem : callback ∈ callbacks)
    (h : ∀ call ∈ work callback, throws callback call = false) :
    ∀ call ∈ work callback, (callback, call) ∈ broadcast throws callbacks work := by
  intro call hcall
  rw [broadcast, List.mem_flatMap]
  refine ⟨callback, hmem, ?_⟩
  rw [attempt_of_quiet h]
  exact List.mem_map_of_mem hcall

end Calls

namespace CallbackBinder

variable {B : Type} [DecidableEq B]

/-- A broadcast to the callbacks that listen for bandwidth. -/
def report (throws : B → RemoteCall → Bool) (calls : List RemoteCall)
    (binder : CallbackBinder B) : CallbackBinder B :=
  { binder with
    delivered := binder.delivered ++ broadcast throws binder.books.callbacks fun callback =>
      if (binder.books.bandwidthListeners.get? callback).isSome then calls else [] }

/-- One body. An exception that leaves it cancels the scope. -/
def runBody (view : DataView) (throws : B → RemoteCall → Bool) (binder : CallbackBinder B) :
    BinderBody B → CallbackBinder B
  | .listener body =>
      let books := binder.books.runBody false body
      if books.failed then { binder with books := books, active := false }
      else
        match body with
        | .startListeningForBandwidth callback _ =>
            { binder with
              books := books
              delivered := binder.delivered ++ attempt throws callback view.initialCalls
              active := binder.active && !view.initialCalls.any (throws callback) }
        | .stopListeningForBandwidth _ => { binder with books := books }
  | .stateChanged state msg =>
      { binder with
        delivered := binder.delivered ++ broadcast throws binder.books.callbacks fun _ =>
          [.stateChanged state.ordinal view.profileName msg] }
  | .trafficPersisted ids =>
      if binder.books.bandwidthListeners.isEmpty || ids.isEmpty then binder
      else binder.report throws (ids.map .trafficPersisted)

/-- An iteration of the loop after its delay. -/
def elapse (view : DataView) (throws : B → RemoteCall → Bool) (binder : CallbackBinder B) :
    CallbackBinder B :=
  if binder.active &&
      binder.books.loops.any fun loop => !loop.cancelled && loop.phase != .finished then
    binder.report throws view.loopCalls
  else binder

def step (binder : CallbackBinder B) : BinderAction B → CallbackBinder B
  | .registerCallback callback =>
      { binder with books := binder.books.step (.registerCallback callback) }
  | .launch body => { binder with pending := binder.pending ++ [body] }
  | .unregisterCallback callback =>
      { binder with
        pending := binder.pending ++ [.listener (.stopListeningForBandwidth callback)]
        books := { binder.books with callbacks := binder.books.callbacks.erase callback } }
  | .onCallbackDied callback =>
      { binder with
        pending := binder.pending ++ [.listener (.stopListeningForBandwidth callback)]
        books := { binder.books with callbacks := binder.books.callbacks.erase callback } }
  | .dispatch view throws =>
      match binder.pending with
      | [] => binder
      | body :: pending =>
          -- a coroutine of a cancelled scope does not start
          if binder.active then { binder with pending := pending }.runBody view throws body
          else { binder with pending := pending }
  | .elapse view throws => binder.elapse view throws
  | .close =>
      { binder with
        books := { binder.books with callbacks := [] }
        active := false
        closed := true }

def run (binder : CallbackBinder B) (actions : List (BinderAction B)) : CallbackBinder B :=
  actions.foldl step binder

/-- The remote calls of one step. -/
def reached (binder : CallbackBinder B) (action : BinderAction B) : List (B × RemoteCall) :=
  (binder.step action).delivered.drop binder.delivered.length

/-- A state change reaches every registered callback that does not throw, and a
bandwidth update every one of them that listens. -/
def Delivers (binder : CallbackBinder B) : BinderAction B → Prop
  | .dispatch view throws => ∀ state msg pending,
      binder.pending = .stateChanged state msg :: pending →
        ∀ callback ∈ binder.books.callbacks,
          throws callback (.stateChanged state.ordinal view.profileName msg) = false →
            (callback, .stateChanged state.ordinal view.profileName msg) ∈
              binder.reached (.dispatch view throws)
  | .elapse view throws => ∀ callback ∈ binder.books.callbacks,
      (binder.books.bandwidthListeners.get? callback).isSome →
        (∀ call ∈ view.loopCalls, throws callback call = false) →
          ∀ call ∈ view.loopCalls, (callback, call) ∈ binder.reached (.elapse view throws)
  | _ => True

/-- Until the binder is closed, its scope is active and it delivers. -/
def Isolates (actions : List (BinderAction B)) : Prop :=
  ∀ before after, actions = before ++ after → (run {} before).closed = false →
    (run ({} : CallbackBinder B) before).active = true ∧
      ∀ action rest, after = action :: rest → (run {} before).Delivers action

/-- A step in which a new listener does not throw at its first report. -/
def Quiet (binder : CallbackBinder B) : BinderAction B → Prop
  | .dispatch view throws => ∀ callback timeout pending,
      binder.pending = .listener (.startListeningForBandwidth callback timeout) :: pending →
        ∀ call ∈ view.initialCalls, throws callback call = false
  | _ => True

def QuietRun (actions : List (BinderAction B)) : Prop :=
  ∀ before action after, actions = before ++ action :: after → (run {} before).closed = false →
    (run ({} : CallbackBinder B) before).Quiet action

/-- The books are in order, and nothing but closing has ended the scope. -/
structure Sound (binder : CallbackBinder B) : Prop where
  paired : binder.books.Paired
  launching : binder.books.launching = none
  active : binder.active = !binder.closed

section Steps

variable {binder : CallbackBinder B}

theorem runBody_launching (books : BandwidthBinder B) (body : ListenerBody B) :
    (books.runBody false body).launching = books.launching := by
  cases body with
  | startListeningForBandwidth key timeout =>
      simp only [BandwidthBinder.runBody, BandwidthBinder.launchLoop, Bool.false_eq_true, if_false]
      split_ifs <;> rfl
  | stopListeningForBandwidth key =>
      simp only [BandwidthBinder.runBody]
      split
      · split <;> rfl
      · rfl

theorem paired_runBody {books : BandwidthBinder B} (h : books.Paired)
    (hlaunching : books.launching = none) (body : ListenerBody B) :
    (books.runBody false body).Paired := by
  cases body with
  | startListeningForBandwidth key timeout => exact h.start hlaunching false key timeout
  | stopListeningForBandwidth key => exact h.stop hlaunching false key

omit [DecidableEq B] in
/-- Callbacks are not part of the books. -/
theorem paired_callbacks {books : BandwidthBinder B} (h : books.Paired) (callbacks : List B) :
    BandwidthBinder.Paired { books with callbacks := callbacks } :=
  ⟨h.sound, h.launching, h.paired, h.live⟩

omit [DecidableEq B] in
theorem any_eq_false_of_quiet {throws : B → RemoteCall → Bool} {callback : B}
    {calls : List RemoteCall} (h : ∀ call ∈ calls, throws callback call = false) :
    calls.any (throws callback) = false := by
  rw [List.any_eq_false]
  intro call hcall
  rw [h call hcall]
  decide

/-- A body keeps the binder sound, unless it is the first report to a listener
that throws. -/
theorem Sound.runBody (h : binder.Sound) (view : DataView) (throws : B → RemoteCall → Bool)
    (body : BinderBody B)
    (hquiet : ∀ callback timeout, body = .listener (.startListeningForBandwidth callback timeout) →
      ∀ call ∈ view.initialCalls, throws callback call = false) :
    (binder.runBody view throws body).Sound := by
  cases body with
  | listener body =>
      have hpaired := paired_runBody h.paired h.launching body
      have hlaunching := (runBody_launching binder.books body).trans h.launching
      simp only [CallbackBinder.runBody, hpaired.sound, Bool.false_eq_true, if_false]
      cases body with
      | startListeningForBandwidth callback timeout =>
          refine ⟨hpaired, hlaunching, ?_⟩
          dsimp only
          rw [any_eq_false_of_quiet (hquiet callback timeout rfl), Bool.not_false, Bool.and_true]
          exact h.active
      | stopListeningForBandwidth callback => exact ⟨hpaired, hlaunching, h.active⟩
  | stateChanged state msg => exact ⟨h.paired, h.launching, h.active⟩
  | trafficPersisted ids =>
      simp only [CallbackBinder.runBody]
      split
      · exact h
      · exact ⟨h.paired, h.launching, h.active⟩

theorem Sound.step (h : binder.Sound) (action : BinderAction B)
    (hquiet : binder.closed = false → binder.Quiet action) : (binder.step action).Sound := by
  cases action with
  | registerCallback callback =>
      exact ⟨h.paired.step (.registerCallback callback), h.launching, h.active⟩
  | launch body => exact ⟨h.paired, h.launching, h.active⟩
  | unregisterCallback callback =>
      exact ⟨paired_callbacks h.paired _, h.launching, h.active⟩
  | onCallbackDied callback =>
      exact ⟨paired_callbacks h.paired _, h.launching, h.active⟩
  | dispatch view throws =>
      simp only [CallbackBinder.step]
      split
      · exact h
      · rename_i body pending hpending
        have hsound : Sound { binder with pending := pending } := ⟨h.paired, h.launching, h.active⟩
        split
        · rename_i hactive
          have hclosed : binder.closed = false := by
            rw [h.active] at hactive
            simpa using hactive
          apply hsound.runBody view throws body
          intro callback timeout hbody
          exact hquiet hclosed callback timeout pending (hbody ▸ hpending)
        · exact hsound
  | elapse view throws =>
      simp only [CallbackBinder.step, CallbackBinder.elapse]
      split
      · exact ⟨h.paired, h.launching, h.active⟩
      · exact h
  | close => exact ⟨paired_callbacks h.paired _, h.launching, rfl⟩

/-- While there are listeners, there is a loop to report to them. -/
theorem Sound.any_live (h : binder.Sound)
    (hlisteners : binder.books.bandwidthListeners.isEmpty = false) :
    (binder.books.loops.any fun loop => !loop.cancelled && loop.phase != .finished) = true := by
  have hlooper := h.paired.paired.mpr hlisteners
  obtain ⟨job, hjob⟩ := Option.isSome_iff_exists.mp hlooper
  obtain ⟨phase, hloop, hphase⟩ := (h.paired.live job).mpr hjob
  rw [List.any_eq_true]
  exact ⟨_, List.mem_of_getElem? hloop, by simp [hphase]⟩

theorem isEmpty_eq_false_of_get? {K V : Type} [DecidableEq K] {map : LinkedMap K V} {key : K}
    (h : (map.get? key).isSome) : map.isEmpty = false := by
  rw [LinkedMap.get?_isSome_iff] at h
  cases hentries : map.entries with
  | nil => simp [LinkedMap.keys, hentries] at h
  | cons entry entries => simp [LinkedMap.isEmpty, hentries]

/-- A sound binder delivers. -/
theorem Sound.delivers (h : binder.Sound) (hclosed : binder.closed = false)
    (action : BinderAction B) : binder.Delivers action := by
  have hactive : binder.active = true := by rw [h.active, hclosed]; rfl
  cases action with
  | dispatch view throws =>
      intro state msg pending hpending callback hcallback hquiet
      simp only [reached, CallbackBinder.step, hpending, hactive, if_true,
        CallbackBinder.runBody, List.drop_left]
      have hcalls : ∀ call ∈ [RemoteCall.stateChanged state.ordinal view.profileName msg],
          throws callback call = false := by
        rw [List.forall_mem_singleton]
        exact hquiet
      exact mem_broadcast hcallback hcalls _ List.mem_cons_self
  | elapse view throws =>
      intro callback hcallback hlistens hquiet call hcall
      have hlive := h.any_live (isEmpty_eq_false_of_get? hlistens)
      simp only [reached, CallbackBinder.step, CallbackBinder.elapse, hactive, hlive,
        Bool.and_self, if_true, report, List.drop_left]
      have hwork : (if (binder.books.bandwidthListeners.get? callback).isSome then view.loopCalls
          else []) = view.loopCalls := if_pos hlistens
      apply mem_broadcast hcallback
      · rw [hwork]
        exact hquiet
      · rw [hwork]
        exact hcall
  | registerCallback | launch | unregisterCallback | onCallbackDied | close => trivial

/-- A first report that throws ends the scope. -/
theorem active_of_not_quiet (hactive : binder.active = true) {action : BinderAction B}
    (hloud : ¬ binder.Quiet action) :
    (binder.step action).active = false ∧ (binder.step action).closed = binder.closed := by
  cases action with
  | dispatch view throws =>
      simp only [Quiet, not_forall] at hloud
      obtain ⟨callback, timeout, pending, hpending, call, hcall, hthrows⟩ := hloud
      have hany : view.initialCalls.any (throws callback) = true := by
        rw [List.any_eq_true]
        exact ⟨call, hcall, by simpa using hthrows⟩
      simp only [CallbackBinder.step, hpending, hactive, if_true, CallbackBinder.runBody, hany]
      split_ifs
      · exact ⟨rfl, rfl⟩
      · exact ⟨rfl, rfl⟩
  | registerCallback | launch | unregisterCallback | onCallbackDied | elapse | close =>
      exact absurd trivial hloud

end Steps

/-- Every state of a quiet run is sound. -/
theorem sound_of_quietRun {actions : List (BinderAction B)} (h : QuietRun actions)
    (before after : List (BinderAction B)) (hactions : actions = before ++ after) :
    (run ({} : CallbackBinder B) before).Sound := by
  induction before using List.reverseRecOn generalizing after with
  | nil => exact ⟨BandwidthBinder.paired_init, rfl, rfl⟩
  | append_singleton before action ih =>
      rw [List.append_assoc] at hactions
      have hsound := ih _ hactions
      rw [run, List.foldl_append]
      exact hsound.step action (h before action after hactions)

/-- One dead client does not silence the others exactly in the runs in which no
callback throws at its first report after `startListeningForBandwidth`. -/
theorem isolates_iff_quietRun (actions : List (BinderAction B)) :
    Isolates actions ↔ QuietRun actions := by
  constructor
  · intro h before action after hactions hclosed
    by_contra hloud
    have hactive := (h before _ hactions hclosed).1
    obtain ⟨hended, hstill⟩ := active_of_not_quiet hactive hloud
    have hrun : run ({} : CallbackBinder B) (before ++ [action]) =
        (run {} before).step action := by
      rw [run, List.foldl_append]
      rfl
    have hactions' : actions = before ++ [action] ++ after := by simpa using hactions
    have hnext := (h (before ++ [action]) after hactions' (by rw [hrun, hstill]; exact hclosed)).1
    rw [hrun, hended] at hnext
    cases hnext
  · intro h before after hactions hclosed
    have hsound := sound_of_quietRun h before after hactions
    refine ⟨?_, fun action rest _ => hsound.delivers hclosed action⟩
    rw [hsound.active, hclosed]
    rfl

/-- A connected service. -/
def connectedView : DataView where
  state := .connected
  proxy := some ⟨1, none, some {}, none⟩
  udpFallback := none

/-- The first client is dead when its first report is made; the second one is
not told of the state change that follows. -/
def deadClientRun : List (BinderAction Nat) :=
  [.registerCallback 1, .registerCallback 2,
    .launch (.listener (.startListeningForBandwidth 1 1000)),
    .dispatch connectedView fun callback _ => callback = 1,
    .launch (.stateChanged .stopped none),
    .dispatch connectedView fun callback _ => callback = 1]

theorem not_isolates_deadClient : ¬ Isolates deadClientRun := by
  intro h
  have hend := (h (deadClientRun.take 4) (deadClientRun.drop 4) (by simp) (by decide +kernel)).1
  revert hend
  decide +kernel

end CallbackBinder

end WifiProject.Bg
