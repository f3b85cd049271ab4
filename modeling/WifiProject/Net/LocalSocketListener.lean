import Mathlib.Data.List.Induction
import Mathlib.Tactic.SplitIfs

/-!
`LocalSocketListener` and `ConcurrentLocalSocketListener`: a thread that accepts
connections until it is shut down, and the coroutines that a shutdown leaves
behind in the scope of its caller. The statements of the thread, of `shutdown`
and of the handlers come in any order.
-/

namespace WifiProject.Net

inductive ListenerKind where
  /-- The thread handles what it has accepted. -/
  | plain
  /-- A coroutine for each connection. -/
  | concurrent
  deriving DecidableEq, Repr

/-- How `acceptInternal` ends. -/
inductive Outcome where
  | returned
  | ioException
  | otherException
  deriving DecidableEq, Repr

/-- Where the thread stands in `run`; connections are named by their position. -/
inductive ListenerPhase where
  | testing
  | accepting
  | handing (socket : Nat)
  | handling (socket : Nat)
  | closing
  | sending
  | ended
  /-- Left by an exception that the loop does not catch. -/
  | died
  deriving DecidableEq, Repr

/-- The loop has ended as it should. -/
def ListenerPhase.Left (phase : ListenerPhase) : Prop :=
  phase = .closing ∨ phase = .sending ∨ phase = .ended

inductive Connection where
  | accepted
  /-- Launched, and not yet dispatched. -/
  | queued
  | handling
  | closed
  /-- Its coroutine was cancelled before it started: nobody closes the socket. -/
  | dropped
  deriving DecidableEq, Repr

/-- The statements of `shutdown`. -/
inductive ShutdownStep where
  | stop
  | cancel
  | shutdownSocket
  | launchReceive
  | launchJoin
  deriving DecidableEq, Repr

def ListenerKind.shutdown : ListenerKind → List ShutdownStep
  | .plain => [.stop, .shutdownSocket, .launchReceive]
  | .concurrent => [.stop, .cancel, .stop, .shutdownSocket, .launchReceive, .launchJoin]

/-- `main` holds what is left of the calls of `shutdown`, `signals` what is in
`closeChannel`. `receivers` and `joins` are the coroutines of the caller's scope
that still wait, `received` and `joined` those that do no more. -/
structure Listener where
  running : Bool := true
  cancelled : Bool := false
  shutDown : Bool := false
  closed : Bool := false
  thread : ListenerPhase := .testing
  connections : List Connection := []
  main : List ShutdownStep := []
  signals : Nat := 0
  receivers : Nat := 0
  received : Nat := 0
  joins : Nat := 0
  joined : Nat := 0
  deriving DecidableEq, Repr

inductive ListenerEvent where
  /-- `shutdown` is called. -/
  | shutdown
  /-- The next statement of `shutdown`. -/
  | main
  /-- The next statement of the thread, unless it waits. -/
  | thread
  /-- `serverSocket.accept()` returns or throws. -/
  | accept (connected : Bool)
  /-- A launched coroutine is dispatched. -/
  | start (socket : Nat)
  | finish (socket : Nat) (outcome : Outcome)
  /-- `closeChannel.receive()` returns. -/
  | receive
  /-- `job.join()` returns. -/
  | join
  deriving DecidableEq, Repr

namespace Listener

def perform (listener : Listener) : ShutdownStep → Listener
  | .stop => { listener with running := false }
  | .cancel => { listener with cancelled := true }
  | .shutdownSocket => { listener with shutDown := true }
  | .launchReceive => { listener with receivers := listener.receivers + 1 }
  | .launchJoin => { listener with joins := listener.joins + 1 }

/-- `accept(socket)`. A coroutine launched under a cancelled job never starts. -/
def hand (kind : ListenerKind) (socket : Nat) (listener : Listener) : Listener :=
  match kind with
  | .plain =>
      { listener with
        thread := .handling socket
        connections := listener.connections.set socket .handling }
  | .concurrent =>
      { listener with
        thread := .testing
        connections := listener.connections.set socket
          (if listener.cancelled then .dropped else .queued) }

def threadStep (kind : ListenerKind) (listener : Listener) : Listener :=
  match listener.thread with
  | .testing => { listener with thread := if listener.running then .accepting else .closing }
  | .handing socket => listener.hand kind socket
  | .closing => { listener with closed := true, thread := .sending }
  | .sending => { listener with signals := listener.signals + 1, thread := .ended }
  | _ => listener

def acceptStep (connected : Bool) (listener : Listener) : Listener :=
  if listener.thread = .accepting then
    if connected then
      { listener with
        thread := .handing listener.connections.length
        connections := listener.connections ++ [.accepted] }
    else { listener with thread := .testing }
  else listener

def startStep (socket : Nat) (listener : Listener) : Listener :=
  if listener.connections[socket]? = some .queued then
    { listener with
      connections := listener.connections.set socket
        (if listener.cancelled then .dropped else .handling) }
  else listener

/-- `socket.use` closes the socket however the handler ends. An exception that
is no `IOException` leaves the loop of a plain listener, and `localSocket.use`. -/
def finishStep (kind : ListenerKind) (socket : Nat) (outcome : Outcome) (listener : Listener) :
    Listener :=
  if listener.connections[socket]? = some .handling then
    let listener := { listener with connections := listener.connections.set socket .closed }
    match kind with
    | .concurrent => listener
    | .plain =>
        if outcome = .otherException then { listener with thread := .died, closed := true }
        else { listener with thread := .testing }
  else listener

/-- No child of the listener's job is left. -/
def Idle (connections : List Connection) : Prop :=
  ∀ connection ∈ connections, connection ≠ .queued ∧ connection ≠ .handling

instance (connections : List Connection) : Decidable (Idle connections) :=
  inferInstanceAs (Decidable (∀ connection ∈ connections, _))

def mainStep (listener : Listener) : Listener :=
  match listener.main with
  | [] => listener
  | statement :: rest => { listener with main := rest }.perform statement

def receiveStep (listener : Listener) : Listener :=
  if 0 < listener.receivers ∧ 0 < listener.signals then
    { listener with
      receivers := listener.receivers - 1
      signals := listener.signals - 1
      received := listener.received + 1 }
  else listener

def joinStep (listener : Listener) : Listener :=
  if 0 < listener.joins ∧ listener.cancelled ∧ Idle listener.connections then
    { listener with joins := listener.joins - 1, joined := listener.joined + 1 }
  else listener

def step (kind : ListenerKind) (listener : Listener) : ListenerEvent → Listener
  | .shutdown => { listener with main := listener.main ++ kind.shutdown }
  | .main => listener.mainStep
  | .thread => listener.threadStep kind
  | .accept connected => listener.acceptStep connected
  | .start socket => listener.startStep socket
  | .finish socket outcome => listener.finishStep kind socket outcome
  | .receive => listener.receiveStep
  | .join => listener.joinStep

def run (kind : ListenerKind) (events : List ListenerEvent) : Listener :=
  events.foldl (step kind) {}

/-! ## What every step keeps -/

/-- Who answers for a connection. -/
def Allowed (kind : ListenerKind) (listener : Listener) (socket : Nat) : Connection → Prop
  | .accepted => listener.thread = .handing socket
  | .queued => kind = .concurrent
  | .handling => kind = .plain → listener.thread = .handling socket
  | .closed => True
  | .dropped => kind = .concurrent ∧ listener.cancelled = true

structure Coherent (kind : ListenerKind) (listener : Listener) : Prop where
  signalled : listener.signals + listener.received = if listener.thread = .ended then 1 else 0
  closed : listener.closed = true ↔
    listener.thread = .sending ∨ listener.thread = .ended ∨ listener.thread = .died
  stopped : listener.thread.Left → listener.running = false
  allowed : ∀ socket connection, listener.connections[socket]? = some connection →
    Allowed kind listener socket connection
  handing : ∀ socket, listener.thread = .handing socket →
    listener.connections[socket]? = some .accepted
  handling : ∀ socket, listener.thread = .handling socket →
    kind = .plain ∧ listener.connections[socket]? = some .handling
  died : listener.thread = .died → kind = .plain
  joined : 0 < listener.joined → listener.cancelled = true ∧ Idle listener.connections
  cancelled : listener.cancelled = true → kind = .concurrent
  cancels : .cancel ∈ listener.main → kind = .concurrent

theorem coherent_start (kind : ListenerKind) : Coherent kind {} := by
  constructor <;> simp [ListenerPhase.Left]

variable {kind : ListenerKind} {listener : Listener}

/-- Nothing but flags, queues and waiting coroutines has changed, and no job was
revived. -/
theorem Coherent.of_same (h : Coherent kind listener) {next : Listener}
    (hthread : next.thread = listener.thread) (hconnections : next.connections = listener.connections)
    (hclosed : next.closed = listener.closed)
    (hsignals : next.signals + next.received = listener.signals + listener.received)
    (hrunning : listener.running = false → next.running = false)
    (hcancelled : listener.cancelled = true → next.cancelled = true)
    (hjoined : 0 < next.joined → next.cancelled = true ∧ Idle listener.connections)
    (hkind : next.cancelled = true → kind = .concurrent)
    (hcancels : .cancel ∈ next.main → kind = .concurrent) : Coherent kind next where
  signalled := by rw [hsignals, hthread]; exact h.signalled
  closed := by rw [hclosed, hthread]; exact h.closed
  stopped hleft := hrunning (h.stopped (hthread ▸ hleft))
  allowed socket connection hconnection := by
    have hallowed := h.allowed socket connection (hconnections ▸ hconnection)
    cases connection <;> simp_all [Allowed]
  handing socket hhanding := by rw [hconnections]; exact h.handing socket (hthread ▸ hhanding)
  handling socket hhandling := by rw [hconnections]; exact h.handling socket (hthread ▸ hhandling)
  died hdied := h.died (hthread ▸ hdied)
  joined := by rw [hconnections]; exact hjoined
  cancelled := hkind
  cancels := hcancels

theorem Allowed.mono {next : Listener} {socket : Nat} {connection : Connection}
    (h : Allowed kind listener socket connection)
    (hcancelled : listener.cancelled = true → next.cancelled = true)
    (hhanding : listener.thread = .handing socket → next.thread = .handing socket)
    (hhandling : listener.thread = .handling socket → next.thread = .handling socket) :
    Allowed kind next socket connection := by
  cases connection with
  | accepted => exact hhanding h
  | queued => exact h
  | handling => exact fun hplain => hhandling (h hplain)
  | closed => trivial
  | dropped => exact ⟨h.1, hcancelled h.2⟩

/-- A connection after one has changed is that one or was there before. -/
theorem getElem?_set_cases {connections : List Connection} {socket other : Nat}
    {changed connection : Connection}
    (h : (connections.set socket changed)[other]? = some connection) :
    other = socket ∧ connection = changed ∨
      other ≠ socket ∧ connections[other]? = some connection := by
  rw [List.getElem?_set] at h
  split_ifs at h with hsame hlt
  · exact .inl ⟨hsame.symm, (Option.some.inj h).symm⟩
  · exact .inr ⟨Ne.symm hsame, h⟩

theorem Coherent.hand (h : Coherent kind listener) {socket : Nat}
    (hthread : listener.thread = .handing socket) : Coherent kind (listener.hand kind socket) := by
  obtain ⟨hsignalled, hclosed, hstopped, hallowed, hhanding, hhandling, hdied, hjoined, hkind,
    hcancels⟩ := h
  have hothers {next : Listener} {other : Nat} {connection : Connection} (hne : other ≠ socket)
      (hconnection : listener.connections[other]? = some connection)
      (hcancelled : next.cancelled = listener.cancelled) : Allowed kind next other connection := by
    refine (hallowed other connection hconnection).mono (by rw [hcancelled]; exact id) ?_ ?_
    · rw [hthread]
      rintro ⟨⟩
      exact absurd rfl hne
    · rw [hthread]
      rintro ⟨⟩
  unfold Listener.hand
  cases kind with
  | plain =>
      constructor
      case allowed =>
        intro other connection hconnection
        rcases getElem?_set_cases hconnection with ⟨rfl, rfl⟩ | ⟨hne, hbefore⟩
        · exact fun _ => rfl
        · exact hothers hne hbefore rfl
      all_goals grind [ListenerPhase.Left, Idle]
  | concurrent =>
      constructor
      case allowed =>
        intro other connection hconnection
        rcases getElem?_set_cases hconnection with ⟨rfl, rfl⟩ | ⟨hne, hbefore⟩
        · by_cases hcancelled : listener.cancelled = true
          · rw [if_pos hcancelled]
            exact ⟨rfl, hcancelled⟩
          · rw [if_neg hcancelled]
            rfl
        · exact hothers hne hbefore rfl
      all_goals grind [ListenerPhase.Left, Idle]

theorem Coherent.threadStep (h : Coherent kind listener) :
    Coherent kind (listener.threadStep kind) := by
  have hcoherent := h
  obtain ⟨hsignalled, hclosed, hstopped, hallowed, hhanding, hhandling, hdied, hjoined, hkind,
    hcancels⟩ := h
  unfold Listener.threadStep
  split
  · constructor <;> grind [Allowed.mono, ListenerPhase.Left]
  · rename_i socket hthread
    exact hcoherent.hand hthread
  · constructor <;> grind [Allowed.mono, ListenerPhase.Left]
  · constructor <;> grind [Allowed.mono, ListenerPhase.Left]
  · exact hcoherent

theorem Coherent.acceptStep (h : Coherent kind listener) (connected : Bool) :
    Coherent kind (listener.acceptStep connected) := by
  have hcoherent := h
  obtain ⟨hsignalled, hclosed, hstopped, hallowed, hhanding, hhandling, hdied, hjoined, hkind,
    hcancels⟩ := h
  unfold Listener.acceptStep
  split_ifs with hthread hconnected
  · constructor
    case allowed =>
      intro other connection hconnection
      rw [List.getElem?_append, List.getElem?_singleton] at hconnection
      split_ifs at hconnection with hlt hlast
      · exact (hallowed other connection hconnection).mono id (by simp [hthread]) (by simp [hthread])
      · cases hconnection
        have heq : other = listener.connections.length := by omega
        rw [heq]
        rfl
    all_goals grind [ListenerPhase.Left, Idle]
  · constructor <;> grind [Allowed.mono, ListenerPhase.Left]
  · exact hcoherent

theorem Coherent.startStep (h : Coherent kind listener) (socket : Nat) :
    Coherent kind (listener.startStep socket) := by
  have hcoherent := h
  obtain ⟨hsignalled, hclosed, hstopped, hallowed, hhanding, hhandling, hdied, hjoined, hkind,
    hcancels⟩ := h
  unfold Listener.startStep
  split
  · rename_i hqueued
    have hkind : kind = .concurrent := hallowed socket .queued hqueued
    subst hkind
    constructor
    case allowed =>
      intro other connection hconnection
      rcases getElem?_set_cases hconnection with ⟨rfl, rfl⟩ | ⟨hne, hbefore⟩
      · by_cases hcancelled : listener.cancelled = true
        · rw [if_pos hcancelled]
          exact ⟨rfl, hcancelled⟩
        · rw [if_neg hcancelled]
          rintro ⟨⟩
      · exact hallowed other connection hbefore
    all_goals grind [ListenerPhase.Left, Idle]
  · exact hcoherent

theorem Coherent.finishStep (h : Coherent kind listener) (socket : Nat) (outcome : Outcome) :
    Coherent kind (listener.finishStep kind socket outcome) := by
  have hcoherent := h
  obtain ⟨hsignalled, hclosed, hstopped, hallowed, hhanding, hhandling, hdied, hjoined, hkind,
    hcancels⟩ := h
  have hothers {next : Listener} {other : Nat} {connection : Connection} (hne : other ≠ socket)
      (hhandler : listener.connections[socket]? = some .handling) (hplain : kind = .plain)
      (hconnection : listener.connections[other]? = some connection)
      (hcancelled : next.cancelled = listener.cancelled) : Allowed kind next other connection := by
    have hthread : listener.thread = .handling socket := hallowed socket .handling hhandler hplain
    refine (hallowed other connection hconnection).mono (by rw [hcancelled]; exact id) ?_ ?_
    · rw [hthread]
      rintro ⟨⟩
    · rw [hthread]
      rintro ⟨⟩
      exact absurd rfl hne
  unfold Listener.finishStep
  split
  · rename_i hhandler
    cases kind with
    | concurrent =>
        constructor
        case allowed =>
          intro other connection hconnection
          rcases getElem?_set_cases hconnection with ⟨rfl, rfl⟩ | ⟨hne, hbefore⟩
          · trivial
          · exact hallowed other connection hbefore
        all_goals grind [ListenerPhase.Left, Idle]
    | plain =>
        have hthread : listener.thread = .handling socket := hallowed socket .handling hhandler rfl
        dsimp only
        split <;> constructor
        case isTrue.allowed | isFalse.allowed =>
          intro other connection hconnection
          rcases getElem?_set_cases hconnection with ⟨rfl, rfl⟩ | ⟨hne, hbefore⟩
          · trivial
          · exact hothers hne hhandler rfl hbefore rfl
        all_goals grind [ListenerPhase.Left, Idle]
  · exact hcoherent

theorem cancel_mem_shutdown (h : .cancel ∈ kind.shutdown) : kind = .concurrent := by
  cases kind with
  | plain => simp [ListenerKind.shutdown] at h
  | concurrent => rfl

theorem Coherent.mainStep (h : Coherent kind listener) : Coherent kind listener.mainStep := by
  unfold Listener.mainStep
  split
  · exact h
  · rename_i statement rest hmain
    have hrest : .cancel ∈ rest → kind = .concurrent := by
      intro hcancel
      exact h.cancels (hmain ▸ List.mem_cons_of_mem _ hcancel)
    cases statement with
    | stop => exact h.of_same rfl rfl rfl rfl (fun _ => rfl) id h.joined h.cancelled hrest
    | cancel =>
        have hkind := h.cancels (hmain ▸ List.mem_cons_self ..)
        exact h.of_same rfl rfl rfl rfl id (fun _ => rfl) (fun hpos => ⟨rfl, (h.joined hpos).2⟩)
          (fun _ => hkind) hrest
    | shutdownSocket | launchReceive | launchJoin =>
        exact h.of_same rfl rfl rfl rfl id id h.joined h.cancelled hrest

theorem Coherent.step (h : Coherent kind listener) (event : ListenerEvent) :
    Coherent kind (listener.step kind event) := by
  cases event with
  | shutdown =>
      refine h.of_same rfl rfl rfl rfl id id h.joined h.cancelled ?_
      intro hcancel
      exact (List.mem_append.mp hcancel).elim h.cancels cancel_mem_shutdown
  | main => exact h.mainStep
  | thread => exact h.threadStep
  | accept connected => exact h.acceptStep connected
  | start socket => exact h.startStep socket
  | finish socket outcome => exact h.finishStep socket outcome
  | receive =>
      rw [Listener.step, receiveStep]
      split
      · rename_i hready
        have hsum : listener.signals - 1 + (listener.received + 1) =
            listener.signals + listener.received := by omega
        exact h.of_same rfl rfl rfl hsum id id h.joined h.cancelled h.cancels
      · exact h
  | join =>
      rw [Listener.step, joinStep]
      split
      · rename_i hready
        exact h.of_same rfl rfl rfl rfl id id (fun _ => hready.2) h.cancelled h.cancels
      · exact h

theorem coherent_run (kind : ListenerKind) (events : List ListenerEvent) :
    Coherent kind (run kind events) := by
  induction events using List.reverseRecOn with
  | nil => exact coherent_start kind
  | append_singleton events event ih =>
      rw [run, List.foldl_append]
      exact ih.step event

/-- What the caller of `shutdown` waits for has come. -/
def Settled (kind : ListenerKind) (listener : Listener) : Prop :=
  0 < listener.received ∧ (kind = .concurrent → 0 < listener.joined)

instance (kind : ListenerKind) (listener : Listener) : Decidable (Settled kind listener) :=
  inferInstanceAs (Decidable (_ ∧ (_ → _)))

/-- Everything is over: the thread has ended, the socket is closed, and so is
every connection that anybody has started to handle. -/
structure AllOver (kind : ListenerKind) (listener : Listener) : Prop where
  thread : listener.thread = .ended
  closed : listener.closed = true
  handled : ∀ connection ∈ listener.connections,
    connection = .closed ∨ connection = .dropped ∧ kind = .concurrent ∧ listener.cancelled = true

theorem Coherent.allOver (h : Coherent kind listener) (hsettled : Settled kind listener) :
    AllOver kind listener := by
  obtain ⟨hreceived, hjoined⟩ := hsettled
  have hthread : listener.thread = .ended := by
    by_contra hthread
    have hsum := h.signalled
    rw [if_neg hthread] at hsum
    omega
  refine ⟨hthread, h.closed.mpr (.inr (.inl hthread)), ?_⟩
  intro connection hmem
  obtain ⟨socket, hsocket⟩ := List.mem_iff_getElem?.mp hmem
  have hallowed := h.allowed socket connection hsocket
  have hidle : kind = .concurrent → Idle listener.connections :=
    fun hkind => (h.joined (hjoined hkind)).2
  cases connection with
  | accepted =>
      have hhanding : listener.thread = .handing socket := hallowed
      rw [hthread] at hhanding
      cases hhanding
  | queued => exact absurd rfl (hidle hallowed _ hmem).1
  | handling =>
      cases kind with
      | plain =>
          have hhandling : listener.thread = .handling socket := hallowed rfl
          rw [hthread] at hhandling
          cases hhandling
      | concurrent => exact absurd rfl (hidle rfl _ hmem).2
  | closed => exact .inl rfl
  | dropped => exact .inr ⟨rfl, hallowed⟩

theorem AllOver.getElem?_ne (h : AllOver kind listener) (socket : Nat) :
    listener.connections[socket]? ≠ some .queued ∧
      listener.connections[socket]? ≠ some .handling := by
  constructor
  · intro hsocket
    rcases h.handled _ (List.mem_of_getElem? hsocket) with hover | ⟨hover, -⟩ <;> cases hover
  · intro hsocket
    rcases h.handled _ (List.mem_of_getElem? hsocket) with hover | ⟨hover, -⟩ <;> cases hover

theorem AllOver.connections_step (h : AllOver kind listener) (event : ListenerEvent) :
    (listener.step kind event).connections = listener.connections := by
  cases event with
  | shutdown => rfl
  | main =>
      rw [Listener.step, mainStep]
      split
      · rfl
      · rename_i statement rest hmain
        cases statement <;> rfl
  | thread => rw [Listener.step, Listener.threadStep, h.thread]
  | accept connected =>
      rw [Listener.step, Listener.acceptStep, if_neg]
      rw [h.thread]
      exact ListenerPhase.noConfusion
  | start socket => rw [Listener.step, Listener.startStep, if_neg (h.getElem?_ne socket).1]
  | finish socket outcome =>
      rw [Listener.step, Listener.finishStep, if_neg (h.getElem?_ne socket).2]
  | receive =>
      rw [Listener.step, receiveStep]
      split <;> rfl
  | join =>
      rw [Listener.step, joinStep]
      split <;> rfl

/-- Coroutines that have returned stay so. -/
theorem counters_step (event : ListenerEvent) :
    listener.received ≤ (listener.step kind event).received ∧
      listener.joined ≤ (listener.step kind event).joined := by
  cases event with
  | shutdown => exact ⟨Nat.le_refl _, Nat.le_refl _⟩
  | main =>
      rw [Listener.step, mainStep]
      split
      · exact ⟨Nat.le_refl _, Nat.le_refl _⟩
      · rename_i statement rest hmain
        cases statement <;> exact ⟨Nat.le_refl _, Nat.le_refl _⟩
  | thread =>
      rw [Listener.step, Listener.threadStep]
      split
      case h_2 => cases kind <;> exact ⟨Nat.le_refl _, Nat.le_refl _⟩
      all_goals exact ⟨Nat.le_refl _, Nat.le_refl _⟩
  | accept connected =>
      rw [Listener.step, Listener.acceptStep]
      split_ifs <;> exact ⟨Nat.le_refl _, Nat.le_refl _⟩
  | start socket =>
      rw [Listener.step, Listener.startStep]
      split <;> exact ⟨Nat.le_refl _, Nat.le_refl _⟩
  | finish socket outcome =>
      rw [Listener.step, Listener.finishStep]
      split
      · cases kind with
        | plain =>
            dsimp only
            split <;> exact ⟨Nat.le_refl _, Nat.le_refl _⟩
        | concurrent => exact ⟨Nat.le_refl _, Nat.le_refl _⟩
      · exact ⟨Nat.le_refl _, Nat.le_refl _⟩
  | receive =>
      rw [Listener.step, receiveStep]
      split
      · exact ⟨Nat.le_succ _, Nat.le_refl _⟩
      · exact ⟨Nat.le_refl _, Nat.le_refl _⟩
  | join =>
      rw [Listener.step, joinStep]
      split
      · exact ⟨Nat.le_refl _, Nat.le_succ _⟩
      · exact ⟨Nat.le_refl _, Nat.le_refl _⟩

theorem Settled.step (h : Settled kind listener) (event : ListenerEvent) :
    Settled kind (listener.step kind event) := by
  have hcounters := @counters_step kind listener event
  exact ⟨Nat.lt_of_lt_of_le h.1 hcounters.1, fun hkind => Nat.lt_of_lt_of_le (h.2 hkind) hcounters.2⟩

/-- Once the scope of the caller has nothing more to wait for, everything is
over, for good, and nobody else who asked for it will ever hear of it. -/
theorem settled_allOver (kind : ListenerKind) (events more : List ListenerEvent)
    (hsettled : Settled kind (run kind events)) :
    AllOver kind (run kind events) ∧ AllOver kind (run kind (events ++ more)) ∧
      (run kind (events ++ more)).connections = (run kind events).connections ∧
      (run kind (events ++ more)).received = 1 := by
  refine ⟨(coherent_run kind events).allOver hsettled, ?_⟩
  have hmore : Settled kind (run kind (events ++ more)) ∧
      (run kind (events ++ more)).connections = (run kind events).connections := by
    induction more using List.reverseRecOn with
    | nil =>
        rw [List.append_nil]
        exact ⟨hsettled, rfl⟩
    | append_singleton more event ih =>
        obtain ⟨hbefore, hsame⟩ := ih
        rw [← List.append_assoc, run, List.foldl_append]
        have hover := (coherent_run kind (events ++ more)).allOver hbefore
        exact ⟨hbefore.step event, (hover.connections_step event).trans hsame⟩
  refine ⟨(coherent_run kind (events ++ more)).allOver hmore.1, hmore.2, ?_⟩
  have hsum := (coherent_run kind (events ++ more)).signalled
  have hpos := hmore.1.1
  split_ifs at hsum <;> omega

/-- A shutdown between two connections: the first is being handled and is closed
in its own time, the second is dropped. -/
def twoConnections : List ListenerEvent :=
  [.thread, .accept true, .thread, .start 0, .thread, .accept true, .thread, .shutdown, .main, .main,
    .start 1, .main, .main, .main, .main, .thread, .thread, .thread, .receive,
    .finish 0 .returned, .join]

theorem settled_allOver_twoConnections :
    Settled .concurrent (run .concurrent twoConnections) ∧
    AllOver .concurrent (run .concurrent twoConnections) ∧
      AllOver .concurrent (run .concurrent (twoConnections ++ [.accept true])) ∧
      (run .concurrent (twoConnections ++ [.accept true])).connections = [.closed, .dropped] := by
  have hsettled : Settled .concurrent (run .concurrent twoConnections) := by decide
  obtain ⟨hover, hmore, hsame, -⟩ :=
    settled_allOver .concurrent twoConnections [.accept true] hsettled
  refine ⟨hsettled, hover, hmore, ?_⟩
  rw [hsame]
  decide

end Listener

end WifiProject.Net
