import Mathlib.Data.List.Induction
import WifiProject.Net.DefaultNetworkListener

/-!
How `VpnService` uses the default-network actor over its start/stop cycles.
`preInit` registers a listener under the service itself. `killProcesses`
unregisters from inside `scope.launch { ... }`, where `this` is the coroutine
just launched, so the key it sends is a fresh object and not the service.
-/

namespace WifiProject.Bg

open Net Lib

/-- The objects used as listener keys: the services, and the coroutines
launched by `killProcesses`, named by the event that launched them. -/
inductive ListenerKey where
  | service (service : Nat)
  | coroutine (launched : Nat)
  deriving DecidableEq, Repr

/-- One thing that happens around the actor: a service is started or stopped,
a connection is opened (`Get`), or the platform calls back. -/
inductive VpnEvent (N : Type) where
  | preInit (service : Nat)
  | killProcesses (service : Nat)
  | openConnection
  | onAvailable (network : N)
  | onCapabilitiesChanged (network : N)
  | onLost (network : N)
  deriving DecidableEq, Repr

namespace VpnEvent

variable {N : Type}

/-- The message an event sends. The listener function is named after the
service whose `underlyingNetwork` it sets. -/
def message (index : Nat) : VpnEvent N → NetworkMessage ListenerKey Nat N
  | .preInit service => .start (.service service) service
  | .killProcesses _ => .stop (.coroutine index)
  | .openConnection => .get
  | .onAvailable network => .put network
  | .onCapabilitiesChanged network => .update network
  | .onLost network => .lost network

def messages (events : List (VpnEvent N)) : List (NetworkMessage ListenerKey Nat N) :=
  events.mapIdx message

def isPreInit : VpnEvent N → Bool
  | .preInit _ => true
  | _ => false

theorem messages_concat (events : List (VpnEvent N)) (event : VpnEvent N) :
    messages (events ++ [event]) = messages events ++ [message events.length event] := by
  simp [messages, List.mapIdx_append]

end VpnEvent

variable {N : Type}

/-- What a stopped service should leave behind: no listener of its own, and
the platform callback registered exactly while somebody listens. -/
def Released (service : Nat) (actor : NetworkActor ListenerKey Nat N) : Prop :=
  actor.listeners.get? (.service service) = none ∧
    (actor.registered = true ↔ actor.listeners.isEmpty = false)

instance (service : Nat) (actor : NetworkActor ListenerKey Nat N) :
    Decidable (Released service actor) :=
  inferInstanceAs (Decidable (_ ∧ _))

/-- The platform accepts the registration made by the first `preInit`. -/
def FirstAccepted (device : Device) (events : List (VpnEvent N)) : Prop :=
  ∀ index, events.findIdx? VpnEvent.isPreInit = some index → device.accepts index = true

/-- What a run of service events has made of the actor. Listeners are only
ever added, one per service that was started. -/
structure Tracks (device : Device) (events : List (VpnEvent N))
    (actor : NetworkActor ListenerKey Nat N) : Prop where
  received : actor.received = events.length
  started : ∀ service, (actor.listeners.get? (.service service)).isSome ↔
    VpnEvent.preInit service ∈ events
  no_coroutine : ∀ launched, actor.listeners.get? (.coroutine launched) = none
  listening : actor.listeners.isEmpty = false ↔ (events.findIdx? VpnEvent.isPreInit).isSome
  registered : actor.registered = true ↔
    ∃ index, events.findIdx? VpnEvent.isPreInit = some index ∧ device.accepts index = true

theorem Tracks.init (device : Device) :
    Tracks device [] ({} : NetworkActor ListenerKey Nat N) where
  received := rfl
  started := by simp
  no_coroutine := by simp
  listening := by simp [LinkedMap.isEmpty, LinkedMap.empty]
  registered := by simp

/-- A `preInit` adds the service's listener; only the first one finds the map
empty and asks the platform. -/
theorem Tracks.preInit [DecidableEq N] {device : Device} {events : List (VpnEvent N)}
    {actor next : NetworkActor ListenerKey Nat N} {service : Nat}
    (htracks : Tracks device events actor)
    (h : actor.step device (.start (.service service) service) = some next) :
    Tracks device (events ++ [.preInit service]) next := by
  obtain ⟨hlisteners, hreceived, hregistered⟩ := NetworkActor.step_start h
  have hfind : (events ++ [VpnEvent.preInit service]).findIdx? VpnEvent.isPreInit =
      if actor.listeners.isEmpty then some events.length
      else events.findIdx? VpnEvent.isPreInit := by
    rw [List.findIdx?_append]
    cases hindex : events.findIdx? VpnEvent.isPreInit with
    | none =>
        have hempty : actor.listeners.isEmpty = true := by
          simpa [hindex] using htracks.listening
        simp [hempty, VpnEvent.isPreInit]
    | some index =>
        have hempty : actor.listeners.isEmpty = false := by
          simpa [hindex] using htracks.listening
        simp [hempty]
  refine {
    received := ?received, started := ?started, no_coroutine := ?no_coroutine
    listening := ?listening, registered := ?registered }
  case received =>
    simp [hreceived, htracks.received]
  case started =>
    intro other
    rw [hlisteners, LinkedMap.get?_put]
    by_cases heq : other = service
    · simp [heq]
    · have hne : ListenerKey.service other ≠ .service service := by simpa using heq
      simp [hne, htracks.started other, heq]
  case no_coroutine =>
    intro launched
    rw [hlisteners, LinkedMap.get?_put_of_ne _ _ (by simp)]
    exact htracks.no_coroutine launched
  case listening =>
    rw [hfind, hlisteners]
    cases hempty : actor.listeners.isEmpty with
    | true => simp
    | false => simpa using htracks.listening.mp hempty
  case registered =>
    rw [hfind, hregistered]
    cases hempty : actor.listeners.isEmpty with
    | true =>
        have hnot : ¬ actor.registered = true := by
          intro hreg
          obtain ⟨index, hindex, _⟩ := htracks.registered.mp hreg
          have hlisten := htracks.listening.mpr (by simp [hindex])
          simp [hempty] at hlisten
        simp [htracks.received, hnot]
    | false => simpa using htracks.registered

/-- Every other event leaves listeners and registration alone: in particular
`killProcesses`, whose key nobody registered. -/
theorem Tracks.other [DecidableEq N] {device : Device} {events : List (VpnEvent N)}
    {actor next : NetworkActor ListenerKey Nat N} {event : VpnEvent N}
    (htracks : Tracks device events actor) (hother : event.isPreInit = false)
    (h : actor.step device (event.message events.length) = some next) :
    Tracks device (events ++ [event]) next := by
  have hkey : ∀ key, event.message events.length = .stop key → actor.listeners.get? key = none := by
    intro key hkey
    cases event <;> simp only [VpnEvent.message, reduceCtorEq, NetworkMessage.stop.injEq] at hkey
    exact hkey ▸ htracks.no_coroutine _
  have hstart : ∀ key listener, event.message events.length ≠ .start key listener := by
    intro key listener
    cases event <;> simp_all [VpnEvent.message, VpnEvent.isPreInit]
  obtain ⟨hlisteners, hreceived, hregistered⟩ := NetworkActor.step_frame hstart hkey h
  have hne (service : Nat) : event ≠ .preInit service := by
    rintro rfl
    cases hother
  refine {
    received := ?received, started := ?started, no_coroutine := ?no_coroutine
    listening := ?listening, registered := ?registered }
  case received =>
    simp [hreceived, htracks.received]
  case started =>
    intro service
    simp [hlisteners, htracks.started service, Ne.symm (hne service)]
  case no_coroutine =>
    simpa [hlisteners] using htracks.no_coroutine
  case listening =>
    simp [hlisteners, htracks.listening, List.findIdx?_append, hother]
  case registered =>
    simp [hregistered, htracks.registered, List.findIdx?_append, hother]

theorem run_tracks [DecidableEq N] (device : Device) (events : List (VpnEvent N))
    (actor : NetworkActor ListenerKey Nat N)
    (h : NetworkActor.run device {} (VpnEvent.messages events) = some actor) :
    Tracks device events actor := by
  induction events using List.reverseRecOn generalizing actor with
  | nil =>
      cases h
      exact Tracks.init device
  | append_singleton events event ih =>
      rw [VpnEvent.messages_concat, NetworkActor.run, List.foldlM_append] at h
      obtain ⟨before, hbefore, hlast⟩ := Option.bind_eq_some_iff.mp h
      have htracks := ih before hbefore
      have hstep : before.step device (event.message events.length) = some actor := by
        simpa using hlast
      cases hpre : event.isPreInit with
      | false => exact htracks.other hpre hstep
      | true =>
          cases event with
          | preInit service => exact htracks.preInit hstep
          | _ => cases hpre

/-- A stopped service has released its listener exactly when it never
registered one (and the platform took the registration it was asked for):
`killProcesses` itself removes nothing. -/
theorem killProcesses_releases_iff [DecidableEq N] (device : Device) (before : List (VpnEvent N))
    (service : Nat) (actor : NetworkActor ListenerKey Nat N)
    (h : NetworkActor.run device {} (VpnEvent.messages (before ++ [.killProcesses service])) =
      some actor) :
    Released service actor ↔
      VpnEvent.preInit service ∉ before ∧ FirstAccepted device before := by
  have htracks := run_tracks device _ actor h
  have hstarted : actor.listeners.get? (.service service) = none ↔
      VpnEvent.preInit service ∉ before := by
    have hiff := htracks.started service
    simp only [List.mem_append, List.mem_singleton, reduceCtorEq, or_false] at hiff
    rw [← hiff, Option.not_isSome_iff_eq_none]
  have hbalance : (actor.registered = true ↔ actor.listeners.isEmpty = false) ↔
      FirstAccepted device before := by
    have hfind : (before ++ [VpnEvent.killProcesses service]).findIdx? VpnEvent.isPreInit =
        before.findIdx? VpnEvent.isPreInit := by
      simp [List.findIdx?_append, VpnEvent.isPreInit]
    rw [htracks.registered, htracks.listening, hfind, FirstAccepted]
    cases before.findIdx? VpnEvent.isPreInit <;> simp
  rw [Released, hstarted, hbalance]

/-- Service 0 never started, so stopping it leaves only service 1 listening. -/
theorem killProcesses_releases_unstarted :
    ∃ actor : NetworkActor ListenerKey Nat Nat,
      NetworkActor.run ⟨30, fun _ => true⟩ {}
        (VpnEvent.messages ([.preInit 1, .onAvailable 3] ++ [.killProcesses 0])) = some actor ∧
      Released 0 actor := by
  refine ⟨_, rfl, ?_⟩
  exact (killProcesses_releases_iff ⟨30, fun _ => true⟩ [.preInit 1, .onAvailable 3] 0 _ rfl).mpr
    ⟨by decide, fun _ _ => rfl⟩

/-- One start/stop cycle leaves the service's listener in the actor's map. -/
theorem killProcesses_keeps_listener :
    ¬ ∀ (device : Device) (before : List (VpnEvent Nat)) (service : Nat)
        (actor : NetworkActor ListenerKey Nat Nat),
        NetworkActor.run device {} (VpnEvent.messages (before ++ [.killProcesses service])) =
          some actor → Released service actor := by
  intro h
  exact absurd (h ⟨30, fun _ => true⟩ [.preInit 0] 0 _ rfl) (by decide)

end WifiProject.Bg
