import WifiProject.Bg.BaseService
import WifiProject.Lib.Runs

/-!
A `ShadowsocksConnection` and the service it is bound to, as that one client
meets it. The two are in different processes. What the client asks for and waits
for (`registerCallback`, `startListeningForBandwidth`, `getState`) happens at
once on a thread of the service; its one-way calls, and the notifications of the
service, are on their way for a while. Between two calls of one kind the order is
kept.

On either side a main thread does one thing at a time: `changeState` tells the
callbacks and then assigns the state, and `onServiceConnected` registers the
callback and then reads the state. Everything else may come in between.
-/

namespace WifiProject.Aidl

open Bg Lib

inductive OnewayCall where
  | stopListeningForBandwidth
  | unregisterCallback
  deriving DecidableEq, Repr

/-- The bodies that a call posts to the main thread of the service. -/
inductive PostedBody where
  | startListeningForBandwidth (timeout : Int)
  | stopListeningForBandwidth
  deriving DecidableEq, Repr

/-- What `bandwidthListeners` has for the client afterwards. -/
def PostedBody.listening : PostedBody → Option Int
  | .startListeningForBandwidth timeout => some timeout
  | .stopListeningForBandwidth => none

/-- One run of the service process. `changing` is the argument of a `changeState`
that has still to be assigned, `launched` are broadcasts that wait in the event
loop of the main thread, and `broadcasting` is one that has the client among its
items and has not come to it yet. -/
structure Remote where
  incarnation : Nat := 0
  state : State := .stopped
  changing : Option State := none
  launched : List State := []
  broadcasting : Option State := none
  registered : Bool := false
  listening : Option Int := none
  posted : List PostedBody := []
  deriving DecidableEq, Repr

/-- The connection, what the framework knows of its binding (`bound` and
`reported`), and the activity that is its callback. `reading` says that the main
thread is in `onServiceConnected`, past the registration. `failed` records a
`check` or a `!!` that has thrown. -/
structure Client where
  connectionActive : Bool := false
  callbackRegistered : Bool := false
  callback : Bool := false
  bandwidthTimeout : Int := 0
  service : Option Nat := none
  bound : Bool := false
  reported : Bool := false
  reading : Bool := false
  notifications : List State := []
  shown : State := .idle
  failed : Bool := false
  deriving DecidableEq, Repr

structure Link where
  remote : Remote := {}
  client : Client := {}
  calls : List OnewayCall := []
  inbox : List State := []
  deriving DecidableEq, Repr

inductive LinkEvent where
  /-- `changeState`, up to the broadcast; `nested` says that it is called from a
  coroutine of the event loop, in which the broadcast has to wait. -/
  | changeState (state : State) (msg : Option String) (nested : Bool)
  /-- The broadcast comes to the client. -/
  | callStateChanged
  | assignState
  | runLaunched
  | runPosted
  | runOneway
  /-- The process of the service ends; the next one has its own binder. -/
  | die
  | connect
  | disconnect
  | onServiceConnected (incarnation : Nat)
  | readState
  | onServiceDisconnected
  | binderDied (incarnation : Nat)
  | setBandwidthTimeout (value : Int)
  /-- A thread of the client takes the next notification. -/
  | receive
  /-- The main thread of the client passes the next notification on. -/
  | dispatch
  deriving DecidableEq, Repr

namespace Remote

/-- The state once a change that is under way is through. -/
def latest (remote : Remote) : State := remote.changing.getD remote.state

def busy (remote : Remote) : Bool := remote.changing.isSome || remote.broadcasting.isSome

/-- `beginBroadcast` takes the callbacks that are registered now. -/
def broadcast (remote : Remote) (state : State) : Remote :=
  { remote with broadcasting := if remote.registered then some state else none }

def changeState (remote : Remote) (state : State) (msg : Option String) (nested : Bool) : Remote :=
  if remote.busy || (remote.state = state && msg.isNone) then remote
  else if nested || !remote.launched.isEmpty then
    { remote with launched := remote.launched ++ [state], changing := some state }
  else { remote.broadcast state with changing := some state }

def assignState (remote : Remote) : Remote :=
  match remote.changing, remote.broadcasting with
  | some state, none => { remote with state := state, changing := none }
  | _, _ => remote

def runLaunched (remote : Remote) : Remote :=
  match remote.launched with
  | [] => remote
  | state :: launched =>
      if remote.busy then remote else { remote with launched := launched }.broadcast state

def runPosted (remote : Remote) : Remote :=
  match remote.posted with
  | [] => remote
  | body :: posted =>
      { remote with posted := posted, listening := body.listening }

def post (remote : Remote) (body : PostedBody) : Remote :=
  { remote with posted := remote.posted ++ [body] }

/-- A one-way call arrives. -/
def receive (remote : Remote) : OnewayCall → Remote
  | .stopListeningForBandwidth => remote.post .stopListeningForBandwidth
  | .unregisterCallback => { remote.post .stopListeningForBandwidth with registered := false }

end Remote

namespace Link

/-- Whether the client holds a binder of the service process that is alive. -/
def attached (link : Link) : Bool := link.client.service == some link.remote.incarnation

/-- A one-way call through `service?`; a dead service takes none. -/
def send (call : OnewayCall) (link : Link) : Link :=
  if link.attached then { link with calls := link.calls ++ [call] } else link

def unregisterCallback (link : Link) : Link :=
  let link := if link.client.callbackRegistered then link.send .unregisterCallback else link
  { link with client := { link.client with callbackRegistered := false } }

def connect (link : Link) : Link :=
  if link.client.connectionActive then link
  else if link.client.callback then
    { link with client := { link.client with connectionActive := true, failed := true } }
  else
    { link with client := { link.client with
        connectionActive := true
        callback := true
        bound := true
        reported := false } }

def disconnect (link : Link) : Link :=
  let link := link.unregisterCallback
  let link := link.send .stopListeningForBandwidth
  { link with client := { link.client with
      connectionActive := false
      bound := false
      reported := false
      service := none
      callback := false } }

/-- `onServiceConnected` up to the call of the activity. A binder that is dead
throws a `RemoteException`, which is ignored. -/
def onServiceConnected (incarnation : Nat) (link : Link) : Link :=
  let link := { link with
    client := { link.client with reported := true, service := some incarnation } }
  if link.client.callbackRegistered then
    { link with client := { link.client with failed := true } }
  else if link.attached then
    let remote := { link.remote with registered := true }
    { link with
      client := { link.client with callbackRegistered := true, reading := true }
      remote :=
        if link.client.bandwidthTimeout > 0 then
          remote.post (.startListeningForBandwidth link.client.bandwidthTimeout)
        else remote }
  else { link with client := { link.client with reading := true } }

/-- `callback!!.onServiceConnected(service)`: the activity shows the state it
reads, or `Idle` if the service is dead. -/
def readState (link : Link) : Link :=
  { link with client := { link.client with
      reading := false
      shown := if link.attached then link.remote.state else .idle
      failed := link.client.failed || !link.client.callback } }

def onServiceDisconnected (link : Link) : Link :=
  let link := link.unregisterCallback
  { link with client := { link.client with service := none, reported := false } }

def binderDied (link : Link) : Link :=
  { link with client := { link.client with service := none, callbackRegistered := false } }

def setBandwidthTimeout (value : Int) (link : Link) : Link :=
  let link :=
    if value > 0 then
      if link.attached then
        { link with remote := link.remote.post (.startListeningForBandwidth value) }
      else link
    else link.send .stopListeningForBandwidth
  { link with client := { link.client with bandwidthTimeout := value } }

/-- A notification is passed to the main thread if there is a callback. -/
def receive (link : Link) : Link :=
  match link.inbox with
  | [] => link
  | state :: inbox =>
      if link.client.callback then
        { link with
          inbox := inbox
          client := { link.client with notifications := link.client.notifications ++ [state] } }
      else { link with inbox := inbox }

def dispatch (link : Link) : Link :=
  match link.client.notifications with
  | [] => link
  | state :: notifications =>
      { link with client := { link.client with shown := state, notifications := notifications } }

def callStateChanged (link : Link) : Link :=
  match link.remote.broadcasting with
  | none => link
  | some state =>
      { link with
        inbox := link.inbox ++ [state]
        remote := { link.remote with broadcasting := none } }

def runOneway (link : Link) : Link :=
  match link.calls with
  | [] => link
  | call :: calls => { link with calls := calls, remote := link.remote.receive call }

/-- What is done on the main thread of the client waits for `onServiceConnected`
to end. -/
def whenFree (link : Link) (step : Link → Link) : Link :=
  if link.client.reading then link else step link

/-- One event; what cannot happen now changes nothing. The framework reports a
service that it has bound, and reports its end before it reports another. -/
def step (link : Link) : LinkEvent → Link
  | .changeState state msg nested =>
      { link with remote := link.remote.changeState state msg nested }
  | .callStateChanged => link.callStateChanged
  | .assignState => { link with remote := link.remote.assignState }
  | .runLaunched => { link with remote := link.remote.runLaunched }
  | .runPosted => { link with remote := link.remote.runPosted }
  | .runOneway => link.runOneway
  | .die => { link with remote := { incarnation := link.remote.incarnation + 1 }, calls := [] }
  | .connect => link.whenFree connect
  | .disconnect => link.whenFree disconnect
  | .onServiceConnected incarnation =>
      if link.client.bound && !link.client.reported && incarnation ≤ link.remote.incarnation then
        link.whenFree (onServiceConnected incarnation)
      else link
  | .readState => if link.client.reading then link.readState else link
  | .onServiceDisconnected =>
      if link.client.bound && link.client.reported then link.whenFree onServiceDisconnected
      else link
  | .binderDied incarnation =>
      if incarnation < link.remote.incarnation then link.binderDied else link
  | .setBandwidthTimeout value => link.whenFree (setBandwidthTimeout value)
  | .receive => link.receive
  | .dispatch => link.whenFree dispatch

def run (link : Link) (events : List LinkEvent) : Link := events.foldl step link

/-! Nothing that the connection checks ever fails. -/

/-- The connection and the framework agree. -/
structure Bound (client : Client) : Prop where
  sound : client.failed = false
  active : client.connectionActive = client.callback
  bound : client.bound = client.callback
  reported : client.reported = true → client.callback = true
  registered : client.callbackRegistered = true → client.reported = true
  service : client.service.isSome → client.reported = true
  reading : client.reading = true → client.reported = true

section Bound

variable {link : Link}

theorem whenFree_induction {p : Link → Prop} {step : Link → Link} (h : p link)
    (hstep : link.client.reading = false → p (step link)) : p (link.whenFree step) := by
  unfold whenFree
  split
  · exact h
  · rename_i hreading
    exact hstep (by simpa using hreading)

@[simp] theorem send_client (call : OnewayCall) : (link.send call).client = link.client := by
  unfold send
  split <;> rfl

@[simp] theorem send_inbox (call : OnewayCall) : (link.send call).inbox = link.inbox := by
  unfold send
  split <;> rfl

@[simp] theorem unregisterCallback_client : link.unregisterCallback.client =
    { link.client with callbackRegistered := false } := by
  unfold unregisterCallback
  split <;> simp

theorem onServiceConnected_client (incarnation : Nat)
    (hregistered : link.client.callbackRegistered = false) :
    ∃ registered, (link.onServiceConnected incarnation).client = { link.client with
      reported := true
      service := some incarnation
      callbackRegistered := registered
      reading := true } := by
  unfold onServiceConnected
  simp only [hregistered, Bool.false_eq_true, if_false]
  split
  · exact ⟨true, rfl⟩
  · exact ⟨false, by rw [← hregistered]⟩

theorem setBandwidthTimeout_client (value : Int) : (link.setBandwidthTimeout value).client =
    { link.client with bandwidthTimeout := value } := by
  unfold setBandwidthTimeout
  split
  · split <;> rfl
  · simp

theorem Bound.connect (h : Bound link.client) : Bound link.connect.client := by
  unfold Link.connect
  split
  · exact h
  · rename_i hactive
    have hcallback : link.client.callback = false := by
      rw [← h.active]
      simpa using hactive
    have hreported : link.client.reported = false := by
      by_contra hreported
      simpa [hcallback] using h.reported (by simpa using hreported)
    rw [if_neg (by simp [hcallback])]
    refine ⟨h.sound, rfl, rfl, by simp, ?_, ?_, ?_⟩
    · intro hregistered
      simpa [hreported] using h.registered hregistered
    · intro hservice
      simpa [hreported] using h.service hservice
    · intro hreading
      simpa [hreported] using h.reading hreading

theorem Bound.step (h : Bound link.client) (event : LinkEvent) : Bound (link.step event).client := by
  cases event with
  | changeState | assignState | runLaunched | runPosted | die => exact h
  | callStateChanged =>
      unfold Link.step callStateChanged
      dsimp only
      split <;> exact h
  | runOneway =>
      unfold Link.step runOneway
      dsimp only
      split <;> exact h
  | connect => exact whenFree_induction (p := fun next => Bound next.client) h fun _ => h.connect
  | disconnect =>
      refine whenFree_induction (p := fun next => Bound next.client) h fun hreading => ?_
      simp only [disconnect, send_client, unregisterCallback_client]
      exact ⟨h.sound, rfl, rfl, by simp, by simp, by simp, by simp [hreading]⟩
  | onServiceConnected incarnation =>
      unfold Link.step
      dsimp only
      split
      · rename_i hguard
        simp only [Bool.and_eq_true, Bool.not_eq_eq_eq_not, Bool.not_true, decide_eq_true_eq] at hguard
        have hcallback : link.client.callback = true := h.bound ▸ hguard.1.1
        have hregistered : link.client.callbackRegistered = false := by
          by_contra hregistered
          simpa [hguard.1.2] using h.registered (by simpa using hregistered)
        refine whenFree_induction (p := fun next => Bound next.client) h fun _ => ?_
        obtain ⟨registered, hclient⟩ := onServiceConnected_client incarnation hregistered
        rw [hclient]
        exact ⟨h.sound, h.active, h.bound, fun _ => hcallback, fun _ => rfl, fun _ => rfl,
          fun _ => rfl⟩
      · exact h
  | readState =>
      unfold Link.step
      dsimp only
      split
      · rename_i hreading
        have hcallback := h.reported (h.reading hreading)
        exact ⟨by simp [readState, h.sound, hcallback], h.active, h.bound, h.reported, h.registered,
          h.service, by simp [readState]⟩
      · exact h
  | onServiceDisconnected =>
      unfold Link.step
      dsimp only
      split
      · refine whenFree_induction (p := fun next => Bound next.client) h fun hreading => ?_
        simp only [onServiceDisconnected, unregisterCallback_client]
        exact ⟨h.sound, h.active, h.bound, by simp, by simp, by simp, by simp [hreading]⟩
      · exact h
  | binderDied incarnation =>
      unfold Link.step
      dsimp only
      split
      · exact ⟨h.sound, h.active, h.bound, h.reported, by simp [binderDied], by simp [binderDied],
          h.reading⟩
      · exact h
  | setBandwidthTimeout value =>
      refine whenFree_induction (p := fun next => Bound next.client) h fun _ => ?_
      rw [setBandwidthTimeout_client]
      exact ⟨h.sound, h.active, h.bound, h.reported, h.registered, h.service, h.reading⟩
  | receive =>
      unfold Link.step Link.receive
      dsimp only
      split
      · exact h
      · split
        · exact ⟨h.sound, h.active, h.bound, h.reported, h.registered, h.service, h.reading⟩
        · exact h
  | dispatch =>
      refine whenFree_induction (p := fun next => Bound next.client) h fun _ => ?_
      unfold Link.dispatch
      split
      · exact h
      · exact ⟨h.sound, h.active, h.bound, h.reported, h.registered, h.service, h.reading⟩

theorem Bound.run (h : Bound link.client) (events : List LinkEvent) :
    Bound (link.run events).client := by
  induction events generalizing link with
  | nil => exact h
  | cons event events ih => exact ih (h.step event)

theorem bound_init : Bound ({} : Client) :=
  ⟨rfl, rfl, rfl, by simp, by simp, by simp, by simp⟩

end Bound

/-! A client that has gone is forgotten. -/

/-- The notice of a death comes before the client holds the next binder. -/
def Timely (link : Link) : LinkEvent → Prop
  | .binderDied incarnation =>
      link.client.service = none ∨ link.client.service = some incarnation
  | _ => True

end Link

/-- What `bandwidthListeners` has for the client once the bodies have run. -/
def Remote.settled (remote : Remote) : Option Int :=
  remote.posted.foldl (fun _ body => body.listening) remote.listening

theorem Remote.settled_post (remote : Remote) (body : PostedBody) :
    (remote.post body).settled = body.listening := by
  simp [settled, post]

theorem Remote.settled_runPosted (remote : Remote) : remote.runPosted.settled = remote.settled := by
  unfold runPosted
  split
  · rfl
  · rename_i h
    simp [settled, h]

namespace Link

/-- The service keeps the callback and the timeout of a client only while it is
attached, or has still to be told. -/
structure Kept (link : Link) : Prop where
  alive : ∀ incarnation, link.client.service = some incarnation →
    incarnation ≤ link.remote.incarnation
  attached : link.attached = true → link.client.callbackRegistered = true
  registered : link.remote.registered = true →
    link.attached = true ∨ .unregisterCallback ∈ link.calls
  listening : link.remote.settled ≠ none → link.attached = true ∨ link.calls ≠ []

theorem attached_iff {link : Link} :
    link.attached = true ↔ link.client.service = some link.remote.incarnation := by
  simp [attached]

/-- What neither the books of the service nor the binder are touched by. -/
theorem Kept.frame {link next : Link} (h : link.Kept)
    (hservice : next.client.service = link.client.service)
    (hcallback : next.client.callbackRegistered = link.client.callbackRegistered)
    (hincarnation : next.remote.incarnation = link.remote.incarnation)
    (hregistered : next.remote.registered = link.remote.registered)
    (hsettled : next.remote.settled = link.remote.settled) (hcalls : next.calls = link.calls) :
    next.Kept := by
  have hattached : next.attached = link.attached := by
    rw [Link.attached, Link.attached, hservice, hincarnation]
  refine ⟨?_, ?_, ?_, ?_⟩
  · rw [hservice, hincarnation]
    exact h.alive
  · rw [hattached, hcallback]
    exact h.attached
  · rw [hregistered, hattached, hcalls]
    exact h.registered
  · rw [hsettled, hattached, hcalls]
    exact h.listening

theorem mem_send_of_attached {link : Link} (hattached : link.attached = true) (call : OnewayCall) :
    (link.send call).calls = link.calls ++ [call] := by
  simp [send, hattached]

theorem send_of_detached {link : Link} (hattached : link.attached ≠ true) (call : OnewayCall) :
    link.send call = link := by
  simp [send, hattached]

@[simp] theorem send_remote {link : Link} (call : OnewayCall) :
    (link.send call).remote = link.remote := by
  unfold send
  split <;> rfl

@[simp] theorem send_attached {link : Link} (call : OnewayCall) :
    (link.send call).attached = link.attached := by
  simp [attached]

/-- `unregisterCallback` says that the client goes, if anyone is to know. -/
theorem unregisterCallback_calls {link : Link} (h : link.Kept) :
    link.unregisterCallback.calls =
      if link.attached = true then link.calls ++ [.unregisterCallback] else link.calls := by
  unfold unregisterCallback
  by_cases hattached : link.attached = true
  · simp [h.attached hattached, hattached, send]
  · split <;> simp [hattached, send]

@[simp] theorem unregisterCallback_remote {link : Link} :
    link.unregisterCallback.remote = link.remote := by
  unfold unregisterCallback
  split <;> simp

theorem unregisterCallback_attached {link : Link} :
    link.unregisterCallback.attached = link.attached := by
  simp [attached]

/-- The client lets go of the binder, having sent what it had to. -/
theorem Kept.detach {link next : Link} (h : link.Kept) (hremote : next.remote = link.remote)
    (hservice : next.client.service = none)
    (hcalls : ∀ call ∈ link.calls, call ∈ next.calls)
    (htold : link.attached = true → .unregisterCallback ∈ next.calls) : next.Kept := by
  have hattached : next.attached ≠ true := by simp [attached_iff, hservice]
  refine ⟨by simp [hservice], fun h => absurd h hattached, ?_, ?_⟩
  · intro hregistered
    rw [hremote] at hregistered
    rcases h.registered hregistered with h | h
    · exact Or.inr (htold h)
    · exact Or.inr (hcalls _ h)
  · intro hlistening
    rw [hremote] at hlistening
    refine Or.inr ?_
    rcases h.listening hlistening with h | h
    · exact List.ne_nil_of_mem (htold h)
    · obtain ⟨call, hcall⟩ := List.exists_mem_of_ne_nil _ h
      exact List.ne_nil_of_mem (hcalls call hcall)

theorem Kept.disconnect {link : Link} (h : link.Kept) : link.disconnect.Kept := by
  refine h.detach ?_ rfl ?_ ?_
  · simp [Link.disconnect]
  · intro call hcall
    change call ∈ (link.unregisterCallback.send .stopListeningForBandwidth).calls
    by_cases hattached : link.attached = true
    · rw [mem_send_of_attached (by rw [unregisterCallback_attached, hattached]),
        unregisterCallback_calls h, if_pos hattached]
      simp [hcall]
    · rw [send_of_detached (by rw [unregisterCallback_attached]; exact hattached),
        unregisterCallback_calls h, if_neg hattached]
      exact hcall
  · intro hattached
    change _ ∈ (link.unregisterCallback.send .stopListeningForBandwidth).calls
    rw [mem_send_of_attached (by rw [unregisterCallback_attached, hattached]),
      unregisterCallback_calls h, if_pos hattached]
    simp

theorem Kept.onServiceDisconnected {link : Link} (h : link.Kept) :
    link.onServiceDisconnected.Kept := by
  refine h.detach ?_ rfl ?_ ?_
  · simp [Link.onServiceDisconnected]
  · intro call hcall
    change call ∈ link.unregisterCallback.calls
    rw [unregisterCallback_calls h]
    split
    · simp [hcall]
    · exact hcall
  · intro hattached
    change _ ∈ link.unregisterCallback.calls
    rw [unregisterCallback_calls h, if_pos hattached]
    simp

theorem Kept.onServiceConnected {link : Link} (h : link.Kept) {incarnation : Nat}
    (hservice : link.client.service = none) (hregistered : link.client.callbackRegistered = false)
    (halive : incarnation ≤ link.remote.incarnation) :
    (link.onServiceConnected incarnation).Kept := by
  have hdetached : link.attached ≠ true := by simp [attached_iff, hservice]
  unfold Link.onServiceConnected
  simp only [hregistered, Bool.false_eq_true, if_false]
  by_cases heq : incarnation = link.remote.incarnation
  · subst heq
    simp only [Link.attached, beq_self_eq_true, if_true]
    refine ⟨?_, fun _ => rfl, fun _ => Or.inl ?_, fun _ => Or.inl ?_⟩
    · rintro _ ⟨⟩
      split <;> exact Nat.le_refl _
    all_goals
      rw [attached_iff]
      split <;> rfl
  · have hattached : ¬ (some incarnation == some link.remote.incarnation) = true := by simpa using heq
    simp only [Link.attached, hattached]
    refine ⟨?_, ?_, ?_, ?_⟩
    · rintro _ ⟨⟩
      exact halive
    · intro h
      exact absurd h hattached
    · intro hremote
      exact Or.inr ((h.registered hremote).resolve_left hdetached)
    · intro hlistening
      exact Or.inr ((h.listening hlistening).resolve_left hdetached)

theorem Kept.runOneway {link : Link} (h : link.Kept) : link.runOneway.Kept := by
  unfold Link.runOneway
  split
  · exact h
  · rename_i call calls hcalls
    have hincarnation : (link.remote.receive call).incarnation = link.remote.incarnation := by
      cases call <;> rfl
    have hsettled : (link.remote.receive call).settled = none := by
      cases call with
      | stopListeningForBandwidth => exact Remote.settled_post _ _
      | unregisterCallback => exact Remote.settled_post link.remote .stopListeningForBandwidth
    have hattached : { link with calls := calls, remote := link.remote.receive call }.attached =
        link.attached := by
      simp [Link.attached, hincarnation]
    refine ⟨?_, ?_, ?_, fun hlistening => absurd hsettled hlistening⟩
    · rw [hincarnation]
      exact h.alive
    · rw [hattached]
      exact h.attached
    · rw [hattached]
      cases call with
      | stopListeningForBandwidth =>
          intro hregistered
          have hkept := h.registered hregistered
          rw [hcalls] at hkept
          simpa using hkept
      | unregisterCallback => simp [Remote.receive]

theorem Kept.die {link : Link} (h : link.Kept) :
    { link with remote := { incarnation := link.remote.incarnation + 1 }, calls := [] }.Kept := by
  refine ⟨?_, ?_, by simp, by simp [Remote.settled]⟩
  · intro incarnation hservice
    exact Nat.le_succ_of_le (h.alive incarnation hservice)
  · intro hattached
    have hservice : link.client.service = some (link.remote.incarnation + 1) :=
      attached_iff.mp hattached
    have halive := h.alive _ hservice
    omega

theorem Kept.setBandwidthTimeout {link : Link} (h : link.Kept) (value : Int) :
    (link.setBandwidthTimeout value).Kept := by
  have hkept (next : Link) (hnext : next.Kept) :
      { next with client := { next.client with bandwidthTimeout := value } }.Kept :=
    hnext.frame rfl rfl rfl rfl rfl rfl
  unfold Link.setBandwidthTimeout
  apply hkept
  split
  · split
    · rename_i hattached
      exact ⟨h.alive, h.attached, h.registered, fun _ => Or.inl hattached⟩
    · exact h
  · refine ⟨by simpa using h.alive, by simpa using h.attached, ?_, ?_⟩
    · intro hregistered
      rw [send_remote] at hregistered
      rw [send_attached]
      refine (h.registered hregistered).imp_right fun hmem => ?_
      unfold send
      split
      · simp [hmem]
      · exact hmem
    · intro hlistening
      rw [send_remote] at hlistening
      rw [send_attached]
      refine (h.listening hlistening).imp_right fun hcalls => ?_
      unfold send
      split
      · simp
      · exact hcalls

theorem Kept.binderDied {link : Link} (h : link.Kept) {incarnation : Nat}
    (htimely : link.Timely (.binderDied incarnation))
    (hdead : incarnation < link.remote.incarnation) : link.binderDied.Kept := by
  have hdetached : link.attached ≠ true := by
    rw [ne_eq, attached_iff]
    intro hservice
    rcases htimely with h | h
    · simp [h] at hservice
    · rw [h, Option.some.injEq] at hservice
      omega
  exact h.detach rfl rfl (fun _ h => h) (fun h => absurd h hdetached)

theorem Kept.step {link : Link} (h : link.Kept) (hbound : Bound link.client) {event : LinkEvent}
    (htimely : link.Timely event) : (link.step event).Kept := by
  cases event with
  | changeState state msg nested =>
      simp only [Link.step, Remote.changeState]
      split
      · exact h
      · split <;> exact h.frame rfl rfl rfl rfl rfl rfl
  | callStateChanged =>
      simp only [Link.step, Link.callStateChanged]
      split
      · exact h
      · exact h.frame rfl rfl rfl rfl rfl rfl
  | assignState =>
      simp only [Link.step, Remote.assignState]
      split
      · exact h.frame rfl rfl rfl rfl rfl rfl
      · exact h
  | runLaunched =>
      simp only [Link.step, Remote.runLaunched]
      split
      · exact h
      · split
        · exact h
        · exact h.frame rfl rfl rfl rfl rfl rfl
  | runPosted =>
      simp only [Link.step]
      refine h.frame rfl rfl ?_ ?_ (Remote.settled_runPosted _) rfl
      all_goals
        unfold Remote.runPosted
        split <;> rfl
  | runOneway => exact h.runOneway
  | die => exact h.die
  | connect =>
      refine whenFree_induction h fun _ => ?_
      unfold Link.connect
      split
      · exact h
      · split <;> exact h.frame rfl rfl rfl rfl rfl rfl
  | disconnect => exact whenFree_induction h fun _ => h.disconnect
  | onServiceConnected incarnation =>
      simp only [Link.step]
      split
      · rename_i hguard
        simp only [Bool.and_eq_true, Bool.not_eq_eq_eq_not, Bool.not_true, decide_eq_true_eq] at hguard
        refine whenFree_induction h fun _ => h.onServiceConnected ?_ ?_ hguard.2
        · by_contra hservice
          simpa [hguard.1.2] using hbound.service (Option.isSome_iff_ne_none.mpr hservice)
        · by_contra hregistered
          simpa [hguard.1.2] using hbound.registered (by simpa using hregistered)
      · exact h
  | readState =>
      simp only [Link.step]
      split
      · exact h.frame rfl rfl rfl rfl rfl rfl
      · exact h
  | onServiceDisconnected =>
      simp only [Link.step]
      split
      · exact whenFree_induction h fun _ => h.onServiceDisconnected
      · exact h
  | binderDied incarnation =>
      simp only [Link.step]
      split
      · rename_i hdead
        exact h.binderDied htimely hdead
      · exact h
  | setBandwidthTimeout value => exact whenFree_induction h fun _ => h.setBandwidthTimeout value
  | receive =>
      simp only [Link.step, Link.receive]
      split
      · exact h
      · split <;> exact h.frame rfl rfl rfl rfl rfl rfl
  | dispatch =>
      refine whenFree_induction h fun _ => ?_
      unfold Link.dispatch
      split
      · exact h
      · exact h.frame rfl rfl rfl rfl rfl rfl

instance (link : Link) : (event : LinkEvent) → Decidable (link.Timely event)
  | .binderDied _ => inferInstanceAs (Decidable (_ ∨ _))
  | .changeState .. | .callStateChanged | .assignState | .runLaunched | .runPosted | .runOneway
  | .die | .connect | .disconnect | .onServiceConnected _ | .readState | .onServiceDisconnected
  | .setBandwidthTimeout _ | .receive | .dispatch => isTrue trivial

/-- A connection that lets go is forgotten, whatever comes in between: its own
checks never fail, and once the service has dealt with the one-way calls it has
neither the callback nor the timeout of a client that holds no binder. -/
theorem connection_forgotten {events : List LinkEvent}
    (htimely : Along step Timely ({} : Link) events) :
    let link := ({} : Link).run events
    link.client.failed = false ∧
      (link.client.service = none → link.calls = [] → link.remote.registered = false ∧
        (link.remote.posted = [] → link.remote.listening = none)) := by
  intro link
  have hlink : Bound link.client ∧ link.Kept := by
    refine htimely.induction (fun link => Bound link.client ∧ link.Kept) ?_ ?_
    · exact ⟨bound_init, by simp, by simp [attached], by simp, by simp [Remote.settled]⟩
    · rintro link event ⟨hbound, hkept⟩ htimely
      exact ⟨hbound.step event, hkept.step hbound htimely⟩
  refine ⟨hlink.1.sound, fun hservice hcalls => ?_⟩
  have hdetached : link.attached ≠ true := by simp [attached_iff, hservice]
  constructor
  · by_contra hregistered
    have hkept := hlink.2.registered (by simpa using hregistered)
    simp [hcalls, hdetached] at hkept
  · intro hposted
    by_contra hlistening
    have hkept := hlink.2.listening (by simpa [Remote.settled, hposted] using hlistening)
    exact hkept.elim hdetached (fun h => h hcalls)

/-- The service dies, the activity connects again, and is left for good. -/
def reconnection : List LinkEvent :=
  [.setBandwidthTimeout 500, .connect, .onServiceConnected 0, .readState, .die, .binderDied 0,
    .disconnect, .connect, .onServiceConnected 1, .readState, .disconnect, .runPosted, .runOneway,
    .runOneway, .runPosted, .runPosted]

theorem connection_forgotten_reconnection :
    let link := ({} : Link).run reconnection
    link.client.failed = false ∧ link.remote.registered = false ∧ link.remote.listening = none := by
  have h := @connection_forgotten reconnection (by decide)
  have hgone := h.2 (by decide) (by decide)
  exact ⟨h.1, hgone.1, hgone.2 (by decide)⟩

end Link

end WifiProject.Aidl
