import Mathlib.Data.List.Induction
import WifiProject.Lib.LinkedMap

/-!
The default-network actor of `DefaultNetworkListener`. One coroutine owns the
listener map, the current network and the pending `Get` requests, and takes
its messages one at a time, so the whole component is the fold of one step
function over the mailbox. The log records what the actor does to the outside
world: listeners it calls, requests it completes, and (re)registrations.

A `Get` object is created for one call and sent once, so it is identified by
its position in the mailbox.
-/

namespace WifiProject.Net

open Lib

/-- `L` stands for the listener functions, `K` for the objects used as keys. -/
inductive NetworkMessage (K L N : Type) where
  | start (key : K) (listener : L)
  | get
  | stop (key : K)
  | put (network : N)
  | update (network : N)
  | lost (network : N)
  deriving DecidableEq, Repr

/-- What the actor does to the outside while it handles a message. A
completion also records the value the `network` variable has at that moment. -/
inductive Effect (K L N : Type) where
  | registered (key : K) (listener : L)
  | called (key : K) (listener : L) (value : Option N)
  | completed (request : Nat) (value : N) (current : Option N)
  deriving DecidableEq, Repr

/-- `registered` is the platform's side of `register()`/`unregister()`,
`fallback` the flag of the API 23 work-around. `received` counts the messages
taken so far. The newest effect is at the head of `log`. -/
structure NetworkActor (K L N : Type) where
  listeners : LinkedMap K L := .empty
  network : Option N := none
  pendingRequests : List Nat := []
  registered : Bool := false
  fallback : Bool := false
  received : Nat := 0
  log : List (Effect K L N) := []
  deriving DecidableEq, Repr

/-- The device: its API level, and whether the platform accepts the `n`-th
message's registration of the callback, should that message need one. -/
structure Device where
  sdkInt : Nat
  accepts : Nat → Bool

namespace NetworkActor

variable {K L N : Type} [DecidableEq K]

/-- `register()`: from API 24 on a refusal escapes and ends the actor; on
API 23 it is caught and turned into the fallback mode. -/
def register (device : Device) (actor : NetworkActor K L N) : Option (NetworkActor K L N) :=
  if device.sdkInt ≥ 24 then
    if device.accepts actor.received then some { actor with registered := true } else none
  else if device.accepts actor.received then
    some { actor with fallback := false, registered := true }
  else some { actor with fallback := true }

def unregister (actor : NetworkActor K L N) : NetworkActor K L N :=
  { actor with registered := false }

def call (value : Option N) (actor : NetworkActor K L N) (listener : K × L) : NetworkActor K L N :=
  { actor with log := .called listener.1 listener.2 value :: actor.log }

def callAll (value : Option N) (actor : NetworkActor K L N) : NetworkActor K L N :=
  actor.listeners.entries.foldl (call value) actor

def complete (value : N) (actor : NetworkActor K L N) (request : Nat) : NetworkActor K L N :=
  { actor with log := .completed request value actor.network :: actor.log }

def addListener (actor : NetworkActor K L N) (key : K) (listener : L) : NetworkActor K L N :=
  { actor with
    listeners := actor.listeners.put key listener
    log := .registered key listener :: actor.log }

/-- `if (network != null) message.listener(network)`. -/
def greet (actor : NetworkActor K L N) (listener : K × L) : NetworkActor K L N :=
  match actor.network with
  | some network => call (some network) actor listener
  | none => actor

/-- The body of the actor's loop for one message. `none` ends the actor: a
`Get` without listeners fails its check, or `register()` throws. -/
def process [DecidableEq N] (device : Device) (actor : NetworkActor K L N) :
    NetworkMessage K L N → Option (NetworkActor K L N)
  | .start key listener =>
      (if actor.listeners.isEmpty then actor.register device else some actor).map fun actor =>
        (actor.addListener key listener).greet (key, listener)
  | .get =>
      if actor.listeners.isEmpty then none
      else match actor.network with
        | none => some { actor with pendingRequests := actor.pendingRequests ++ [actor.received] }
        | some network => some (complete network actor actor.received)
  | .stop key =>
      if (actor.listeners.get? key).isSome then
        let actor := { actor with listeners := actor.listeners.remove key }
        if actor.listeners.isEmpty then some (unregister { actor with network := none })
        else some actor
      else some actor
  | .put network =>
      let actor := { actor with network := some network }
      let actor := actor.pendingRequests.foldl (complete network) actor
      let actor := { actor with pendingRequests := [] }
      some (actor.callAll actor.network)
  | .update network =>
      if actor.network = some network then some (actor.callAll actor.network) else some actor
  | .lost network =>
      if actor.network = some network then
        some (callAll none { actor with network := none })
      else some actor

def step [DecidableEq N] (device : Device) (actor : NetworkActor K L N) (message : NetworkMessage K L N) :
    Option (NetworkActor K L N) :=
  (actor.process device message).map fun next => { next with received := next.received + 1 }

/-- The actor after a whole mailbox, or `none` when it has ended. -/
def run [DecidableEq N] (device : Device) (actor : NetworkActor K L N) (messages : List (NetworkMessage K L N)) :
    Option (NetworkActor K L N) :=
  messages.foldlM (step device) actor

/-- The last value the listener under `key` was called with since its
registration; `none` also when it was not called. -/
def lastHeard (key : K) : List (Effect K L N) → Option N
  | [] => none
  | .called k _ value :: rest => if k = key then value else lastHeard key rest
  | .registered k _ :: rest => if k = key then none else lastHeard key rest
  | .completed _ _ _ :: rest => lastHeard key rest

def completedRequest : Effect K L N → Option Nat
  | .completed request _ _ => some request
  | _ => none

def completedRequests (log : List (Effect K L N)) : List Nat := log.filterMap completedRequest

omit [DecidableEq K] in
theorem foldl_call (value : Option N) (listeners : List (K × L)) (actor : NetworkActor K L N) :
    listeners.foldl (call value) actor =
      { actor with
        log := (listeners.map fun l => .called l.1 l.2 value).reverse ++ actor.log } := by
  induction listeners generalizing actor with
  | nil => rfl
  | cons listener rest ih => simp [ih, call]

omit [DecidableEq K] in
theorem foldl_complete (value : N) (requests : List Nat) (actor : NetworkActor K L N) :
    requests.foldl (complete value) actor =
      { actor with
        log := (requests.map fun r => .completed r value actor.network).reverse ++ actor.log } := by
  induction requests generalizing actor with
  | nil => rfl
  | cons request rest ih => simp [ih, complete]

/-- A round of calls brings every listener in it to the same value. -/
theorem lastHeard_calls (value : Option N) (key : K) (listeners : List (K × L))
    (log : List (Effect K L N)) :
    lastHeard key ((listeners.map fun l => .called l.1 l.2 value).reverse ++ log) =
      if key ∈ listeners.map Prod.fst then value else lastHeard key log := by
  induction listeners using List.reverseRecOn with
  | nil => simp
  | append_singleton rest listener ih =>
      simp only [List.map_append, List.map_cons, List.map_nil, List.reverse_append,
        List.reverse_cons, List.reverse_nil, List.nil_append, List.cons_append, lastHeard, ih]
      by_cases h : listener.1 = key
      · simp [h]
      · have hiff : key ∈ rest.map Prod.fst ++ [listener.1] ↔ key ∈ rest.map Prod.fst := by
          simp [Ne.symm h]
        rw [if_neg h]
        simp only [hiff]

/-- What the actor keeps true between two messages. `pending_new` and
`completed_old` separate the requests still waiting from those answered, so
that no request can be answered twice. -/
structure Agreement (actor : NetworkActor K L N) : Prop where
  quiet : actor.network.isSome → actor.pendingRequests = []
  pending_nodup : actor.pendingRequests.Nodup
  pending_new : ∀ r ∈ actor.pendingRequests, r < actor.received ∧ r ∉ completedRequests actor.log
  completed_nodup : (completedRequests actor.log).Nodup
  completed_old : ∀ r ∈ completedRequests actor.log, r < actor.received
  completed_current : ∀ r v c, Effect.completed r v c ∈ actor.log → c = some v
  heard : ∀ key ∈ actor.listeners.keys, lastHeard key actor.log = actor.network

theorem agreement_init : Agreement ({} : NetworkActor K L N) where
  quiet := by simp
  pending_nodup := List.nodup_nil
  pending_new := by simp
  completed_nodup := List.nodup_nil
  completed_old := by simp [completedRequests]
  completed_current := by simp
  heard := by simp

omit [DecidableEq K] in
/-- Registering with the platform touches nothing the listeners can see. -/
theorem register_frame {device : Device} {actor next : NetworkActor K L N}
    (h : actor.register device = some next) :
    ∃ registered fallback, next = { actor with registered := registered, fallback := fallback } := by
  unfold register at h
  split at h
  · split at h
    · exact ⟨true, actor.fallback, (Option.some.inj h).symm⟩
    · cases h
  · split at h
    · exact ⟨true, false, (Option.some.inj h).symm⟩
    · exact ⟨actor.registered, true, (Option.some.inj h).symm⟩

omit [DecidableEq K] in
@[simp] theorem greet_listeners (actor : NetworkActor K L N) (listener : K × L) :
    (actor.greet listener).listeners = actor.listeners := by
  cases h : actor.network <;> simp [greet, h, call]

omit [DecidableEq K] in
@[simp] theorem greet_received (actor : NetworkActor K L N) (listener : K × L) :
    (actor.greet listener).received = actor.received := by
  cases h : actor.network <;> simp [greet, h, call]

omit [DecidableEq K] in
@[simp] theorem greet_registered (actor : NetworkActor K L N) (listener : K × L) :
    (actor.greet listener).registered = actor.registered := by
  cases h : actor.network <;> simp [greet, h, call]

/-- `Start` puts the listener into the map and asks the platform only when the
map was empty. -/
theorem step_start [DecidableEq N] {device : Device} {actor next : NetworkActor K L N} {key : K}
    {listener : L} (h : actor.step device (.start key listener) = some next) :
    next.listeners = actor.listeners.put key listener ∧ next.received = actor.received + 1 ∧
      (next.registered = true ↔
        if actor.listeners.isEmpty then device.accepts actor.received = true ∨ actor.registered = true
        else actor.registered = true) := by
  simp only [step, process, Option.map_eq_some_iff] at h
  obtain ⟨handled, ⟨ready, hready, rfl⟩, rfl⟩ := h
  simp only [greet_listeners, greet_received, greet_registered, addListener]
  cases hempty : actor.listeners.isEmpty with
  | false =>
      simp only [hempty, Bool.false_eq_true, if_false, Option.some.injEq] at hready ⊢
      simp [hready]
  | true =>
      simp only [hempty, if_true] at hready ⊢
      unfold register at hready
      split at hready
      · split at hready
        · rename_i haccepts
          cases hready
          simp [haccepts]
        · cases hready
      · split at hready
        · rename_i haccepts
          cases hready
          simp [haccepts]
        · rename_i haccepts
          cases hready
          simp [haccepts]

/-- Every message but `Start` and the `Stop` of a registered key leaves the
listener map and the platform's registration alone. -/
theorem step_frame [DecidableEq N] {device : Device} {actor next : NetworkActor K L N}
    {message : NetworkMessage K L N} (hstart : ∀ key listener, message ≠ .start key listener)
    (hstop : ∀ key, message = .stop key → actor.listeners.get? key = none)
    (h : actor.step device message = some next) :
    next.listeners = actor.listeners ∧ next.received = actor.received + 1 ∧
      next.registered = actor.registered := by
  simp only [step, Option.map_eq_some_iff] at h
  obtain ⟨handled, hhandled, rfl⟩ := h
  cases message with
  | start key listener => exact absurd rfl (hstart key listener)
  | stop key =>
      simp only [process, hstop key rfl] at hhandled
      cases hhandled
      exact ⟨rfl, rfl, rfl⟩
  | get =>
      simp only [process] at hhandled
      split at hhandled
      · cases hhandled
      · split at hhandled <;> cases hhandled <;> exact ⟨rfl, rfl, rfl⟩
  | put network =>
      simp only [process, foldl_complete, callAll, foldl_call] at hhandled
      cases hhandled
      exact ⟨rfl, rfl, rfl⟩
  | update network =>
      simp only [process, callAll, foldl_call] at hhandled
      split at hhandled <;> cases hhandled <;> exact ⟨rfl, rfl, rfl⟩
  | lost network =>
      simp only [process, callAll, foldl_call] at hhandled
      split at hhandled <;> cases hhandled <;> exact ⟨rfl, rfl, rfl⟩

/-- Adding a listener: it hears the current network at once, the others have
heard it before. -/
theorem Agreement.start [DecidableEq N] {device : Device} {actor next : NetworkActor K L N} {key : K} {listener : L}
    (hagree : actor.Agreement) (h : actor.process device (.start key listener) = some next) :
    next.Agreement := by
  simp only [process, Option.map_eq_some_iff] at h
  obtain ⟨ready, hready, h⟩ := h
  have hframe : ∃ registered fallback,
      ready = { actor with registered := registered, fallback := fallback } := by
    split at hready
    · exact register_frame hready
    · exact ⟨actor.registered, actor.fallback, (Option.some.inj hready).symm⟩
  obtain ⟨registered, fallback, rfl⟩ := hframe
  have hkeys (k : K) (hk : k ∈ (actor.listeners.put key listener).keys) (hne : k ≠ key) :
      k ∈ actor.listeners.keys := by
    rcases (LinkedMap.mem_keys_put_iff _ _ _ _).mp hk with rfl | hold
    · exact absurd rfl hne
    · exact hold
  cases hnetwork : actor.network with
  | none =>
      simp only [greet, addListener, hnetwork] at h
      subst h
      refine { hagree with
        quiet := by simp
        completed_current := by simpa using hagree.completed_current
        heard := ?_ }
      intro k hk
      by_cases hne : k = key
      · simp [lastHeard, hne]
      · simpa [lastHeard, Ne.symm hne, hnetwork] using hagree.heard k (hkeys k hk hne)
  | some network =>
      simp only [greet, addListener, hnetwork, call] at h
      subst h
      refine { hagree with
        quiet := fun _ => hagree.quiet (by simp [hnetwork])
        completed_current := by simpa using hagree.completed_current
        heard := ?_ }
      intro k hk
      by_cases hne : k = key
      · simp [lastHeard, hne]
      · simpa [lastHeard, Ne.symm hne, hnetwork] using hagree.heard k (hkeys k hk hne)

/-- A round of calls with the value of `network` keeps the agreement. -/
theorem Agreement.callAll (actor : NetworkActor K L N)
    (hquiet : actor.network.isSome → actor.pendingRequests = [])
    (hnodup : actor.pendingRequests.Nodup)
    (hpending : ∀ r ∈ actor.pendingRequests, r < actor.received ∧ r ∉ completedRequests actor.log)
    (hcompleted : (completedRequests actor.log).Nodup)
    (hold : ∀ r ∈ completedRequests actor.log, r < actor.received)
    (hcurrent : ∀ r v c, Effect.completed r v c ∈ actor.log → c = some v) :
    (actor.callAll actor.network).Agreement := by
  have hlog : completedRequests ((actor.listeners.entries.map
      fun l => Effect.called l.1 l.2 actor.network).reverse ++ actor.log) =
      completedRequests actor.log := by
    simp [completedRequests, completedRequest, List.filterMap_map, Function.comp_def]
  rw [NetworkActor.callAll, foldl_call]
  refine {
    quiet := hquiet
    pending_nodup := hnodup
    pending_new := ?pending_new
    completed_nodup := ?completed_nodup
    completed_old := ?completed_old
    completed_current := ?completed_current
    heard := ?heard }
  case pending_new =>
    simpa only [hlog] using hpending
  case completed_nodup =>
    simpa only [hlog] using hcompleted
  case completed_old =>
    simpa only [hlog] using hold
  case completed_current =>
    intro r v c hmem
    simp only [List.mem_append, List.mem_reverse, List.mem_map] at hmem
    rcases hmem with ⟨_, _, hcall⟩ | hmem
    · cases hcall
    · exact hcurrent r v c hmem
  case heard =>
    intro key hkey
    rw [lastHeard_calls]
    exact if_pos hkey

theorem Agreement.get [DecidableEq N] {device : Device} {actor next : NetworkActor K L N}
    (hagree : actor.Agreement) (h : actor.step device .get = some next) : next.Agreement := by
  simp only [step, process, Option.map_eq_some_iff] at h
  obtain ⟨handled, hhandled, rfl⟩ := h
  split at hhandled
  · cases hhandled
  · cases hnetwork : actor.network with
    | none =>
        -- the request waits; its number is larger than every earlier one
        simp only [hnetwork, Option.some.injEq] at hhandled
        subst hhandled
        refine { hagree with
          quiet := by simp
          pending_nodup := ?_
          pending_new := ?_
          completed_old := fun r hr => Nat.lt_succ_of_lt (hagree.completed_old r hr)
          heard := by simpa only [hnetwork] using hagree.heard }
        · rw [List.nodup_append]
          refine ⟨hagree.pending_nodup, by simp, ?_⟩
          intro r hr r' hr' heq
          simp only [List.mem_singleton] at hr'
          have hlt := (hagree.pending_new r hr).1
          omega
        · intro r hr
          rcases List.mem_append.mp hr with hr | hr
          · exact ⟨Nat.lt_succ_of_lt (hagree.pending_new r hr).1, (hagree.pending_new r hr).2⟩
          · simp only [List.mem_singleton] at hr
            subst hr
            exact ⟨Nat.lt_succ_self _, fun hmem => Nat.lt_irrefl _ (hagree.completed_old _ hmem)⟩
    | some network =>
        have hempty : actor.pendingRequests = [] := hagree.quiet (by simp [hnetwork])
        simp only [hnetwork, Option.some.injEq, complete] at hhandled
        subst hhandled
        refine { hagree with
          quiet := fun _ => hempty
          pending_new := by simp [hempty]
          completed_nodup := ?completed_nodup
          completed_old := ?completed_old
          completed_current := ?completed_current
          heard := ?heard }
        case completed_nodup =>
          change (actor.received :: completedRequests actor.log).Nodup
          refine List.nodup_cons.mpr ⟨?_, hagree.completed_nodup⟩
          exact fun hmem => Nat.lt_irrefl _ (hagree.completed_old _ hmem)
        case completed_old =>
          intro r hr
          change r ∈ actor.received :: completedRequests actor.log at hr
          rcases List.mem_cons.mp hr with rfl | hr
          · exact Nat.lt_succ_self _
          · exact Nat.lt_succ_of_lt (hagree.completed_old r hr)
        case completed_current =>
          intro r v c hmem
          rcases List.mem_cons.mp hmem with heq | hmem
          · cases heq
            rfl
          · exact hagree.completed_current r v c hmem
        case heard =>
          simpa only [lastHeard, hnetwork] using hagree.heard

/-- Taking one more message without touching anything keeps the agreement. -/
theorem Agreement.received {actor : NetworkActor K L N} (hagree : actor.Agreement) :
    ({ actor with received := actor.received + 1 } : NetworkActor K L N).Agreement :=
  { hagree with
    pending_new := fun r hr =>
      ⟨Nat.lt_succ_of_lt (hagree.pending_new r hr).1, (hagree.pending_new r hr).2⟩
    completed_old := fun r hr => Nat.lt_succ_of_lt (hagree.completed_old r hr) }

theorem Agreement.stop {actor : NetworkActor K L N} {key : K} (hagree : actor.Agreement) :
    ({ actor with listeners := actor.listeners.remove key } : NetworkActor K L N).Agreement :=
  { hagree with
    heard := by
      intro k hk
      refine hagree.heard k ?_
      rw [← LinkedMap.get?_isSome_iff] at hk ⊢
      rw [LinkedMap.get?_remove] at hk
      split at hk
      · cases hk
      · exact hk }

/-- With the last listener gone nobody is left to disagree with. -/
theorem Agreement.forget {actor : NetworkActor K L N} (hagree : actor.Agreement)
    (hempty : actor.listeners.isEmpty) :
    ({ actor with network := none, registered := false } : NetworkActor K L N).Agreement :=
  { hagree with
    quiet := by simp
    heard := by
      intro k hk
      simp only [LinkedMap.isEmpty, List.isEmpty_iff] at hempty
      simp [LinkedMap.keys, hempty] at hk }

omit [DecidableEq K] in
theorem completedRequests_completions (value : N) (current : Option N) (requests : List Nat)
    (log : List (Effect K L N)) :
    completedRequests ((requests.map fun r => .completed r value current).reverse ++ log) =
      requests.reverse ++ completedRequests log := by
  simp [completedRequests, completedRequest, List.filterMap_map, Function.comp_def]

/-- Answering every waiting request with the network just put. -/
theorem Agreement.put {actor : NetworkActor K L N} (network : N) (hagree : actor.Agreement) :
    (NetworkActor.callAll (some network)
      { actor.pendingRequests.foldl (complete network) { actor with network := some network } with
        pendingRequests := [] }).Agreement := by
  rw [foldl_complete]
  apply Agreement.callAll { actor with
    network := some network
    pendingRequests := []
    log := (actor.pendingRequests.map
      fun r => .completed r network (some network)).reverse ++ actor.log }
  · exact fun _ => rfl
  · exact List.nodup_nil
  · simp
  · rw [completedRequests_completions, List.nodup_append]
    refine ⟨List.nodup_reverse.mpr hagree.pending_nodup, hagree.completed_nodup, ?_⟩
    intro r hr r' hr' heq
    exact (hagree.pending_new r (List.mem_reverse.mp hr)).2 (heq ▸ hr')
  · intro r hr
    rw [completedRequests_completions] at hr
    rcases List.mem_append.mp hr with hr | hr
    · exact (hagree.pending_new r (List.mem_reverse.mp hr)).1
    · exact hagree.completed_old r hr
  · intro r v c hmem
    simp only [List.mem_append, List.mem_reverse, List.mem_map] at hmem
    rcases hmem with ⟨_, _, heq⟩ | hmem
    · cases heq
      rfl
    · exact hagree.completed_current r v c hmem

/-- One message keeps the agreement. -/
theorem Agreement.step [DecidableEq N] {device : Device} {actor next : NetworkActor K L N}
    {message : NetworkMessage K L N} (hagree : actor.Agreement)
    (h : actor.step device message = some next) : next.Agreement := by
  cases message with
  | get => exact hagree.get h
  | start key listener =>
      simp only [NetworkActor.step, Option.map_eq_some_iff] at h
      obtain ⟨handled, hhandled, rfl⟩ := h
      exact (hagree.start hhandled).received
  | stop key =>
      simp only [NetworkActor.step, process, Option.map_eq_some_iff] at h
      obtain ⟨handled, hhandled, rfl⟩ := h
      split at hhandled
      · split at hhandled
        · rename_i hempty
          cases hhandled
          exact (hagree.stop.forget hempty).received
        · cases hhandled
          exact hagree.stop.received
      · cases hhandled
        exact hagree.received
  | put network =>
      simp only [NetworkActor.step, process, Option.map_some, Option.some.injEq] at h
      subst h
      rw [foldl_complete]
      have hput := (hagree.put network).received
      rw [foldl_complete] at hput
      exact hput
  | update network =>
      simp only [NetworkActor.step, process, Option.map_eq_some_iff] at h
      obtain ⟨handled, hhandled, rfl⟩ := h
      split at hhandled
      · cases hhandled
        exact (Agreement.callAll _ hagree.quiet hagree.pending_nodup hagree.pending_new
          hagree.completed_nodup hagree.completed_old hagree.completed_current).received
      · cases hhandled
        exact hagree.received
  | lost network =>
      simp only [NetworkActor.step, process, Option.map_eq_some_iff] at h
      obtain ⟨handled, hhandled, rfl⟩ := h
      split at hhandled
      · cases hhandled
        exact (Agreement.callAll { actor with network := none } (by simp)
          hagree.pending_nodup hagree.pending_new hagree.completed_nodup hagree.completed_old
          hagree.completed_current).received
      · cases hhandled
        exact hagree.received

theorem Agreement.run [DecidableEq N] {device : Device} {actor final : NetworkActor K L N}
    {messages : List (NetworkMessage K L N)} (hagree : actor.Agreement)
    (h : actor.run device messages = some final) : final.Agreement := by
  induction messages generalizing actor with
  | nil =>
      cases h
      exact hagree
  | cons message rest ih =>
      simp only [NetworkActor.run, List.foldlM_cons, Option.bind_eq_bind,
        Option.bind_eq_some_iff] at h
      obtain ⟨next, hstep, hrest⟩ := h
      exact ih (hagree.step hstep) hrest

/-- In every state the actor reaches while it is alive: a known network leaves
no request waiting, every request is answered at most once and with the
network of that moment, and every listener last heard the current network. -/
theorem run_agrees [DecidableEq N] (device : Device) (messages : List (NetworkMessage K L N))
    (actor : NetworkActor K L N) (h : NetworkActor.run device {} messages = some actor) :
    (actor.network ≠ none → actor.pendingRequests = []) ∧
      ((completedRequests actor.log).Nodup ∧
        ∀ request value current, Effect.completed request value current ∈ actor.log →
          current = some value) ∧
      ∀ key listener, actor.listeners.get? key = some listener →
        lastHeard key actor.log = actor.network := by
  have hagree : actor.Agreement := agreement_init.run h
  refine ⟨fun hnetwork => hagree.quiet (Option.isSome_iff_ne_none.mpr hnetwork),
    ⟨hagree.completed_nodup, hagree.completed_current⟩, ?_⟩
  intro key listener hget
  apply hagree.heard key
  rw [← LinkedMap.get?_isSome_iff, hget]
  rfl

/-- A request that waits, a network that answers it, a re-registration and a
second network. -/
theorem run_agrees_reregistered :
    ∃ actor : NetworkActor Nat Nat Nat,
      NetworkActor.run ⟨30, fun _ => true⟩ {}
        [.start 1 7, .get, .put 4, .start 1 8, .start 2 7, .lost 3, .put 5, .stop 2] = some actor ∧
      completedRequests actor.log = [1] ∧
      lastHeard 1 actor.log = actor.network := by
  refine ⟨_, rfl, by decide, ?_⟩
  exact (run_agrees ⟨30, fun _ => true⟩
    [.start 1 7, .get, .put 4, .start 1 8, .start 2 7, .lost 3, .put 5, .stop 2] _ rfl).2.2 1 8
      (by decide)

end NetworkActor

end WifiProject.Net
