import WifiProject.Bg.BandwidthLoop

/-!
`ServiceNotification`: the notification of the running service listens for
bandwidth while the screen is on, through a callback of its own beside those of
the clients. The notifications of the service's runs follow one another.
-/

namespace WifiProject.Bg

open Lib

inductive Callback (C : Type) where
  | notification (id : Nat)
  | client (client : C)
  deriving DecidableEq, Repr

/-- `current` is `data.notification` with its `callbackRegistered`. -/
structure NotifiedBinder (C : Type) where
  binder : BandwidthBinder (Callback C) := {}
  current : Option (Nat × Bool) := none
  next : Nat := 0

/-- `queued` and `atOnce` are those of the actions of the binder. -/
inductive NotificationEvent (C : Type) where
  /-- A new notification, `screenOn` if the device is interactive. -/
  | create (screenOn queued atOnce : Bool)
  /-- The broadcast `ACTION_SCREEN_ON` or `ACTION_SCREEN_OFF`. -/
  | onReceive (connected screenOn queued atOnce : Bool)
  | destroy (queued atOnce : Bool)
  /-- Anything else that the binder does. -/
  | binder (action : BandwidthAction C)

def ListenerBody.forClient {C : Type} : ListenerBody C → ListenerBody (Callback C)
  | .startListeningForBandwidth key timeout => .startListeningForBandwidth (.client key) timeout
  | .stopListeningForBandwidth key => .stopListeningForBandwidth (.client key)

namespace NotifiedBinder

variable {C : Type} [DecidableEq C]

/-- A body waits behind those that wait already. -/
def waits (binder : BandwidthBinder (Callback C)) (queued : Bool) : Bool :=
  queued || !binder.queue.isEmpty

def clientAction (binder : BandwidthBinder (Callback C)) :
    BandwidthAction C → BandwidthAction (Callback C)
  | .registerCallback key => .registerCallback (.client key)
  | .launch body queued atOnce => .launch body.forClient (waits binder queued) atOnce
  | .unregisterCallback key queued atOnce =>
      .unregisterCallback (.client key) (waits binder queued) atOnce
  | .onCallbackDied key queued atOnce => .onCallbackDied (.client key) (waits binder queued) atOnce
  | .dequeue atOnce => .dequeue atOnce
  | .advance job updated => .advance job updated

/-- `updateCallback` of a notification; the result goes with its `callbackRegistered`. -/
def updateCallback (screenOn queued atOnce : Bool) (id : Nat) (callbackRegistered : Bool)
    (binder : BandwidthBinder (Callback C)) : Bool × BandwidthBinder (Callback C) :=
  if screenOn then
    (true, (binder.step (.registerCallback (.notification id))).step
      (.launch (.startListeningForBandwidth (.notification id) 1000) (waits binder queued) atOnce))
  else if callbackRegistered then
    (false, binder.step (.unregisterCallback (.notification id) (waits binder queued) atOnce))
  else (false, binder)

/-- One event. The service makes a notification when the last one is destroyed. -/
def step (service : NotifiedBinder C) : NotificationEvent C → NotifiedBinder C
  | .create screenOn queued atOnce =>
      match service.current with
      | some _ => service
      | none =>
          let (registered, binder) :=
            updateCallback screenOn queued atOnce service.next false service.binder
          ⟨binder, some (service.next, registered), service.next + 1⟩
  | .onReceive connected screenOn queued atOnce =>
      match service.current with
      | none => service
      | some (id, registered) =>
          if connected then
            let (registered, binder) :=
              updateCallback screenOn queued atOnce id registered service.binder
            { service with binder, current := some (id, registered) }
          else service
  | .destroy queued atOnce =>
      match service.current with
      | none => service
      | some (id, registered) =>
          { service with
            binder := (updateCallback false queued atOnce id registered service.binder).2
            current := none }
  | .binder action =>
      { service with binder := service.binder.step (clientAction service.binder action) }

def run (service : NotifiedBinder C) (events : List (NotificationEvent C)) : NotifiedBinder C :=
  events.foldl step service

end NotifiedBinder

/-! ## Who listens when the queue is through -/

section Listens

variable {B : Type} [DecidableEq B] {binder : BandwidthBinder B} {key : B}

/-- What a body makes of a callback that listens or not. -/
def ListenerBody.follow (key : B) (listening : Bool) : ListenerBody B → Bool
  | .startListeningForBandwidth other _ => if other = key then true else listening
  | .stopListeningForBandwidth other => if other = key then false else listening

def ListenerBody.callback : ListenerBody B → B
  | .startListeningForBandwidth callback _ => callback
  | .stopListeningForBandwidth callback => callback

omit [DecidableEq B] in
theorem ListenerBody.follow_of_ne [DecidableEq B] {body : ListenerBody B} (h : body.callback ≠ key)
    (listening : Bool) : body.follow key listening = listening := by
  cases body <;> exact if_neg h

def BandwidthBinder.listens (binder : BandwidthBinder B) (key : B) : Bool :=
  (binder.bandwidthListeners.get? key).isSome

/-- What will be when the bodies that wait have run. -/
def BandwidthBinder.willListen (binder : BandwidthBinder B) (key : B) : Bool :=
  binder.queue.foldl (ListenerBody.follow key) (binder.listens key)

/-- The loops leave alone what the bodies work on. -/
structure BandwidthBinder.Keeps (binder after : BandwidthBinder B) : Prop where
  bandwidthListeners : after.bandwidthListeners = binder.bandwidthListeners
  queue : after.queue = binder.queue
  callbacks : after.callbacks = binder.callbacks

omit [DecidableEq B] in
theorem keeps_launchLoop (atOnce : Bool) : binder.Keeps (binder.launchLoop atOnce) := by
  unfold BandwidthBinder.launchLoop
  cases atOnce <;> exact ⟨rfl, rfl, rfl⟩

omit [DecidableEq B] in
theorem keeps_iterate (updated : Bool) (job : Nat) : binder.Keeps (binder.iterate updated job) := by
  unfold BandwidthBinder.iterate
  split <;> exact ⟨rfl, rfl, rfl⟩

omit [DecidableEq B] in
theorem keeps_loop (updated : Bool) (job : Nat) : binder.Keeps (binder.loop updated job) := by
  unfold BandwidthBinder.loop
  split
  · exact ⟨rfl, rfl, rfl⟩
  · split
    · split <;> exact ⟨rfl, rfl, rfl⟩
    · unfold BandwidthBinder.delay
      split
      · exact ⟨rfl, rfl, rfl⟩
      · split
        · exact keeps_iterate updated job
        · split <;> exact ⟨rfl, rfl, rfl⟩
    · split
      · exact ⟨rfl, rfl, rfl⟩
      · exact keeps_iterate updated job
    · exact ⟨rfl, rfl, rfl⟩
    · exact ⟨rfl, rfl, rfl⟩
    · exact ⟨rfl, rfl, rfl⟩

theorem keeps_advance (binder : BandwidthBinder B) (job : Nat) (updated : Bool) :
    binder.Keeps (binder.step (.advance job updated)) := by
  unfold BandwidthBinder.step
  dsimp only
  split
  · exact keeps_loop updated job
  · split
    · have hloop : binder.Keeps (binder.loop updated job) := keeps_loop updated job
      unfold BandwidthBinder.settle
      split
      · exact ⟨hloop.bandwidthListeners, hloop.queue, hloop.callbacks⟩
      · exact ⟨hloop.bandwidthListeners, hloop.queue, hloop.callbacks⟩
      · exact hloop
    · exact ⟨rfl, rfl, rfl⟩

/-- The body does what it is for, and leaves the queue and the callbacks. -/
theorem listens_runBody (binder : BandwidthBinder B) (key : B) (atOnce : Bool) (body : ListenerBody B) :
    (binder.runBody atOnce body).listens key = body.follow key (binder.listens key) ∧
      (binder.runBody atOnce body).queue = binder.queue ∧
      (binder.runBody atOnce body).callbacks = binder.callbacks := by
  cases body with
  | startListeningForBandwidth other timeout =>
      have hput : ((binder.bandwidthListeners.put other timeout).get? key).isSome =
          if other = key then true else binder.listens key := by
        rw [LinkedMap.get?_put]
        by_cases heq : key = other
        · simp [heq]
        · simp [heq, Ne.symm heq, BandwidthBinder.listens]
      unfold BandwidthBinder.runBody BandwidthBinder.listens
      dsimp only
      split
      · split
        · rw [(keeps_launchLoop atOnce).bandwidthListeners, (keeps_launchLoop atOnce).queue,
            (keeps_launchLoop atOnce).callbacks]
          exact ⟨hput, rfl, rfl⟩
        · exact ⟨hput, rfl, rfl⟩
      · exact ⟨hput, rfl, rfl⟩
  | stopListeningForBandwidth other =>
      have hremove : ((binder.bandwidthListeners.remove other).get? key).isSome =
          if other = key then false else binder.listens key := by
        rw [LinkedMap.get?_remove]
        by_cases heq : key = other
        · simp [heq]
        · simp [heq, Ne.symm heq, BandwidthBinder.listens]
      unfold BandwidthBinder.runBody
      dsimp only
      split
      · split
        · exact ⟨hremove, rfl, rfl⟩
        · exact ⟨hremove, rfl, rfl⟩
      · exact ⟨hremove, rfl, rfl⟩

/-- A body that is launched has its effect in the end, if it keeps its place. -/
theorem willListen_launchBody (binder : BandwidthBinder B) (key : B) (queued atOnce : Bool) (body : ListenerBody B)
    (horder : queued = true ∨ binder.queue = [] ∨ body.callback ≠ key) :
    (binder.launchBody queued atOnce body).willListen key =
        body.follow key (binder.willListen key) ∧
      (binder.launchBody queued atOnce body).callbacks = binder.callbacks := by
  unfold BandwidthBinder.launchBody BandwidthBinder.willListen
  split
  · rw [List.foldl_append]
    exact ⟨rfl, rfl⟩
  · rename_i hidle
    obtain ⟨hlistens, hqueue, hcallbacks⟩ :=
      listens_runBody binder key atOnce body
    refine ⟨?_, hcallbacks⟩
    rw [hlistens, hqueue]
    rcases horder with rfl | hnil | hother
    · exact absurd rfl hidle
    · rw [hnil]
      rfl
    · rw [ListenerBody.follow_of_ne hother, ListenerBody.follow_of_ne hother]

theorem willListen_advance (job : Nat) (updated : Bool) :
    (binder.step (.advance job updated)).willListen key = binder.willListen key := by
  have hkeeps := keeps_advance binder job updated
  unfold BandwidthBinder.willListen BandwidthBinder.listens
  rw [hkeeps.bandwidthListeners, hkeeps.queue]

theorem willListen_dequeue (binder : BandwidthBinder B) (key : B) (atOnce : Bool) :
    (binder.step (.dequeue atOnce)).willListen key = binder.willListen key ∧
      (binder.step (.dequeue atOnce)).callbacks = binder.callbacks := by
  unfold BandwidthBinder.step
  dsimp only
  split
  · rename_i body queue hlaunching hqueue
    obtain ⟨hlistens, hrest, hcallbacks⟩ := listens_runBody
      { binder with queue := queue } key atOnce body
    refine ⟨?_, hcallbacks⟩
    unfold BandwidthBinder.willListen
    rw [hlistens, hrest, hqueue]
    rfl
  · exact ⟨rfl, rfl⟩

theorem live_iff_listens (h : binder.Paired) :
    (∃ job, binder.Live job) ↔ ∃ key, binder.listens key = true := by
  have hlive : (∃ job, binder.Live job) ↔ (binder.launching.or binder.looper).isSome = true := by
    rw [Option.isSome_iff_exists]
    exact exists_congr h.live
  rw [hlive, h.paired]
  simp only [BandwidthBinder.listens, LinkedMap.get?_isSome_iff, LinkedMap.keys, LinkedMap.isEmpty]
  cases binder.bandwidthListeners.entries with
  | nil => simp
  | cons entry entries => exact ⟨fun _ => ⟨entry.1, by simp⟩, fun _ => rfl⟩

/-- An action of another callback. -/
def BandwidthAction.Foreign (key : B) : BandwidthAction B → Prop
  | .registerCallback other => other ≠ key
  | .launch body _ _ => body.callback ≠ key
  | .unregisterCallback other _ _ => other ≠ key
  | .onCallbackDied other _ _ => other ≠ key
  | .dequeue _ => True
  | .advance _ _ => True

theorem launchBody_of_ne (binder : BandwidthBinder B) {body : ListenerBody B} (h : body.callback ≠ key) (queued atOnce : Bool) :
    (binder.launchBody queued atOnce body).willListen key = binder.willListen key ∧
      (binder.launchBody queued atOnce body).callbacks = binder.callbacks := by
  have hlaunch := willListen_launchBody binder key queued atOnce body (.inr (.inr h))
  rw [ListenerBody.follow_of_ne h] at hlaunch
  exact hlaunch

theorem foreign_step (hnodup : binder.callbacks.Nodup) {action : BandwidthAction B}
    (h : action.Foreign key) : (binder.step action).willListen key = binder.willListen key ∧
      (key ∈ (binder.step action).callbacks ↔ key ∈ binder.callbacks) ∧
      (binder.step action).callbacks.Nodup := by
  unfold BandwidthBinder.step
  cases action with
  | registerCallback other =>
      refine ⟨rfl, ?_, hnodup.insert⟩
      rw [List.mem_insert_iff]
      exact ⟨fun hmem => hmem.resolve_left (Ne.symm h), .inr⟩
  | launch body queued atOnce =>
      obtain ⟨hlistens, hcallbacks⟩ := launchBody_of_ne binder h queued atOnce
      dsimp only
      rw [hcallbacks]
      exact ⟨hlistens, Iff.rfl, hnodup⟩
  | unregisterCallback other queued atOnce =>
      obtain ⟨hlistens, hcallbacks⟩ := @launchBody_of_ne _ _ key binder
        (.stopListeningForBandwidth other) h queued atOnce
      dsimp only
      rw [hcallbacks]
      exact ⟨hlistens, List.mem_erase_of_ne (Ne.symm h), hnodup.erase other⟩
  | onCallbackDied other queued atOnce =>
      obtain ⟨hlistens, hcallbacks⟩ := @launchBody_of_ne _ _ key
        { binder with callbacks := binder.callbacks.erase other }
        (.stopListeningForBandwidth other) h queued atOnce
      dsimp only
      rw [hcallbacks]
      exact ⟨hlistens, List.mem_erase_of_ne (Ne.symm h), hnodup.erase other⟩
  | dequeue atOnce =>
      obtain ⟨hlistens, hcallbacks⟩ := willListen_dequeue binder key atOnce
      change (binder.step (.dequeue atOnce)).willListen key = _ ∧
        (key ∈ (binder.step (.dequeue atOnce)).callbacks ↔ _) ∧
        (binder.step (.dequeue atOnce)).callbacks.Nodup
      rw [hcallbacks]
      exact ⟨hlistens, Iff.rfl, hnodup⟩
  | advance job updated =>
      have hkeeps := keeps_advance binder job updated
      change (binder.step (.advance job updated)).willListen key = _ ∧
        (key ∈ (binder.step (.advance job updated)).callbacks ↔ _) ∧
        (binder.step (.advance job updated)).callbacks.Nodup
      rw [hkeeps.callbacks]
      exact ⟨willListen_advance job updated, Iff.rfl, hnodup⟩

end Listens

namespace NotifiedBinder

variable {C : Type} [DecidableEq C] {service : NotifiedBinder C}

omit [DecidableEq C] in
theorem waits_or (binder : BandwidthBinder (Callback C)) (queued : Bool) :
    waits binder queued = true ∨ binder.queue = [] := by
  cases hqueue : binder.queue <;> simp [waits, hqueue]

/-- The books for one notification at most. -/
structure Booked (binder : BandwidthBinder (Callback C)) (id : Nat) (registered : Bool) : Prop where
  listening : ∀ other, binder.willListen (.notification other) = (decide (other = id) && registered)
  registered : ∀ other, .notification other ∈ binder.callbacks ↔ other = id ∧ registered = true
  nodup : binder.callbacks.Nodup
  paired : binder.Paired

theorem Booked.register {binder : BandwidthBinder (Callback C)} {id : Nat} {registered : Bool}
    (h : Booked binder id registered) (queued atOnce : Bool) :
    Booked ((binder.step (.registerCallback (.notification id))).step
      (.launch (.startListeningForBandwidth (.notification id) 1000) (waits binder queued) atOnce)) id
        true := by
  have hlaunch (other : Nat) := willListen_launchBody
    (binder.step (.registerCallback (.notification id))) (.notification other) (waits binder queued)
    atOnce (.startListeningForBandwidth (.notification id) 1000)
    ((waits_or binder queued).imp_right .inl)
  refine ⟨fun other => ?_, fun other => ?_, ?_, (h.paired.step _).step _⟩
  · refine (hlaunch other).1.trans ?_
    rw [show (binder.step (.registerCallback (.notification id))).willListen (.notification other) =
      (decide (other = id) && registered) from h.listening other]
    by_cases heq : id = other
    · simp [ListenerBody.follow, heq]
    · simp [ListenerBody.follow, heq, Ne.symm heq]
  · change Callback.notification other ∈ (BandwidthBinder.launchBody ..).callbacks ↔ _
    rw [(hlaunch other).2, show (binder.step (.registerCallback (.notification id))).callbacks =
      binder.callbacks.insert (.notification id) from rfl, List.mem_insert_iff, h.registered]
    by_cases heq : other = id <;> simp [heq]
  · change (BandwidthBinder.launchBody ..).callbacks.Nodup
    rw [(hlaunch id).2]
    exact h.nodup.insert

theorem Booked.unregister {binder : BandwidthBinder (Callback C)} {id : Nat} {registered : Bool}
    (h : Booked binder id registered) (queued atOnce : Bool) :
    Booked (binder.step (.unregisterCallback (.notification id) (waits binder queued) atOnce)) id
      false := by
  have hlaunch (other : Nat) := willListen_launchBody binder (.notification other)
    (waits binder queued) atOnce (.stopListeningForBandwidth (.notification id))
    ((waits_or binder queued).imp_right .inl)
  refine ⟨fun other => ?_, fun other => ?_, ?_, h.paired.step _⟩
  · refine (hlaunch other).1.trans ?_
    rw [h.listening]
    by_cases heq : id = other
    · simp [ListenerBody.follow, heq]
    · simp [ListenerBody.follow, heq, Ne.symm heq]
  · change Callback.notification other ∈
      (BandwidthBinder.launchBody ..).callbacks.erase (Callback.notification id) ↔ _
    rw [(hlaunch other).2, h.nodup.mem_erase_iff, h.registered]
    by_cases heq : other = id <;> simp [heq]
  · change ((BandwidthBinder.launchBody ..).callbacks.erase (Callback.notification id)).Nodup
    rw [(hlaunch id).2]
    exact h.nodup.erase _

theorem Booked.updateCallback {binder : BandwidthBinder (Callback C)} {id : Nat} {registered : Bool}
    (h : Booked binder id registered) (screenOn queued atOnce : Bool) :
    (updateCallback screenOn queued atOnce id registered binder).1 = screenOn ∧
      Booked (updateCallback screenOn queued atOnce id registered binder).2 id screenOn := by
  cases screenOn with
  | true => exact ⟨rfl, h.register queued atOnce⟩
  | false =>
      cases registered with
      | true => exact ⟨rfl, h.unregister queued atOnce⟩
      | false => exact ⟨rfl, h⟩

omit [DecidableEq C] in
theorem foreign_clientAction (binder : BandwidthBinder (Callback C)) (action : BandwidthAction C)
    (id : Nat) : (clientAction binder action).Foreign (.notification id) := by
  cases action with
  | launch body queued atOnce =>
      cases body <;> simp [clientAction, BandwidthAction.Foreign, ListenerBody.forClient,
        ListenerBody.callback]
  | _ => simp [clientAction, BandwidthAction.Foreign]

/-- The other callbacks do not matter. -/
theorem Booked.client {binder : BandwidthBinder (Callback C)} {id : Nat} {registered : Bool}
    (h : Booked binder id registered) (action : BandwidthAction C) :
    Booked (binder.step (clientAction binder action)) id registered := by
  have hstep (other : Nat) := foreign_step h.nodup (foreign_clientAction binder action other)
  refine ⟨fun other => ?_, fun other => ?_, (hstep 0).2.2, h.paired.step _⟩
  · rw [(hstep other).1, h.listening]
  · rw [(hstep other).2.1, h.registered]

/-- With no notification registered it does not matter which. -/
theorem Booked.forget {binder : BandwidthBinder (Callback C)} {id : Nat} (h : Booked binder id false)
    (other : Nat) : Booked binder other false where
  listening := by simpa using h.listening
  registered := by simpa using h.registered
  nodup := h.nodup
  paired := h.paired

def Inv (service : NotifiedBinder C) : Prop :=
  match service.current with
  | some (id, registered) => Booked service.binder id registered
  | none => Booked service.binder 0 false

theorem Inv.start : Inv ({} : NotifiedBinder C) where
  listening := by simp [BandwidthBinder.willListen, BandwidthBinder.listens]
  registered := by simp
  nodup := List.nodup_nil
  paired := BandwidthBinder.paired_init

theorem Inv.step (h : service.Inv) (event : NotificationEvent C) : (service.step event).Inv := by
  obtain ⟨binder, current, next⟩ := service
  cases event with
  | create screenOn queued atOnce =>
      cases current with
      | some _ => exact h
      | none =>
          obtain ⟨hflag, hbooked⟩ := (Booked.forget h next).updateCallback screenOn queued atOnce
          unfold NotifiedBinder.step Inv
          dsimp only
          rw [hflag]
          exact hbooked
  | onReceive connected screenOn queued atOnce =>
      cases current with
      | none => exact h
      | some notification =>
          obtain ⟨id, registered⟩ := notification
          unfold NotifiedBinder.step
          dsimp only
          split
          · obtain ⟨hflag, hbooked⟩ := Booked.updateCallback h screenOn queued atOnce
            unfold Inv
            dsimp only
            rw [hflag]
            exact hbooked
          · exact h
  | destroy queued atOnce =>
      cases current with
      | none => exact h
      | some notification =>
          obtain ⟨id, registered⟩ := notification
          exact (Booked.updateCallback h false queued atOnce).2.forget 0
  | binder action =>
      cases current with
      | none => exact Booked.client h action
      | some notification => exact Booked.client h action

theorem Inv.run (h : service.Inv) (events : List (NotificationEvent C)) :
    (service.run events).Inv := by
  induction events generalizing service with
  | nil => exact h
  | cons event events ih => exact ih (h.step event)

theorem Inv.booked (h : service.Inv) : ∃ id registered, Booked service.binder id registered ∧
    ∀ other, service.current = some (other, true) ↔ other = id ∧ registered = true := by
  unfold Inv at h
  split at h
  · rename_i id registered hcurrent
    refine ⟨id, registered, h, fun other => ?_⟩
    rw [hcurrent, Option.some.injEq, Prod.mk.injEq]
    exact and_congr_left' eq_comm
  · rename_i hcurrent
    exact ⟨0, false, h, fun other => by simp [hcurrent]⟩

/-- The current notification is registered, with the screen on when it was looked
at last. -/
def Registered (service : NotifiedBinder C) : Prop := ∃ id, service.current = some (id, true)

/-- Bandwidth is polled just while the screen is on or a client asks for it,
whatever notifications there have been and however their callbacks have been
queued among those of the clients. -/
theorem polls_iff (events : List (NotificationEvent C)) :
    (((run {} events).binder.queue = []) →
      ((∃ job, (run {} events).binder.Live job) ↔
        (run {} events).Registered ∨
          ∃ client, (run {} events).binder.listens (.client client) = true)) ∧
    ∀ id, .notification id ∈ (run {} events).binder.callbacks ↔
      (run {} events).current = some (id, true) := by
  obtain ⟨id, registered, hbooked, hcurrent⟩ :=
    (Inv.start.run events : (run ({} : NotifiedBinder C) events).Inv).booked
  refine ⟨fun hqueue => ?_, fun other => ?_⟩
  · rw [live_iff_listens hbooked.paired]
    have hlistens (other : Nat) : (run {} events).binder.listens (.notification other) = true ↔
        (run {} events).current = some (other, true) := by
      have hwill := hbooked.listening other
      rw [BandwidthBinder.willListen, hqueue, List.foldl_nil] at hwill
      rw [hwill, hcurrent]
      simp
    constructor
    · rintro ⟨key, hkey⟩
      cases key with
      | notification other => exact .inl ⟨other, (hlistens other).mp hkey⟩
      | client client => exact .inr ⟨client, hkey⟩
    · rintro (⟨other, hother⟩ | ⟨client, hclient⟩)
      · exact ⟨_, (hlistens other).mpr hother⟩
      · exact ⟨_, hclient⟩
  · rw [hbooked.registered, hcurrent]

/-- The screen goes off and on again while a client comes and goes. -/
theorem polls_iff_screen_on :
    ∃ job, (run ({} : NotifiedBinder Nat) [.create true false true, .binder (.advance 0 false),
      .binder (.launch (.startListeningForBandwidth 7 500) false true),
      .onReceive true false false true, .onReceive true true false true,
      .binder (.unregisterCallback 7 false true)]).binder.Live job :=
  ((polls_iff [.create true false true, .binder (.advance 0 false),
      .binder (.launch (.startListeningForBandwidth 7 500) false true),
      .onReceive true false false true, .onReceive true true false true,
      .binder (.unregisterCallback 7 false true)]).1 (by decide)).mpr (.inl ⟨0, by decide⟩)

end NotifiedBinder

end WifiProject.Bg
