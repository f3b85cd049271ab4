import Mathlib
import WifiProject.Lib.LeadsTo
import WifiProject.Net.LocalSocketListener

/-!
A shutdown always comes to its end: the thread is woken by the socket, finds
that it should not run, and signals; what was launched is handled or dropped.
The handlers have to end, and `accept()` has to return once the socket is shut
down.
-/

namespace WifiProject.Net

open Lib

def ListenerPhase.rank : ListenerPhase → Nat
  | .accepting => 7
  | .handing _ => 6
  | .handling _ => 4
  | .testing => 3
  | .closing => 2
  | .sending => 1
  | .ended => 0
  | .died => 0

def Connection.weight : Connection → Nat
  | .queued => 2
  | .handling => 1
  | _ => 0

/-- What the handlers of these connections still have to do. -/
def weights (connections : List Connection) : Nat := (connections.map Connection.weight).sum

theorem weights_set {connections : List Connection} {socket : Nat} {before : Connection}
    (h : connections[socket]? = some before) (changed : Connection) :
    weights (connections.set socket changed) + before.weight =
      weights connections + changed.weight := by
  induction connections generalizing socket with
  | nil => simp at h
  | cons first rest ih =>
      cases socket with
      | zero =>
          obtain rfl := Option.some.inj h
          simp only [weights, List.set_cons_zero, List.map_cons, List.sum_cons]
          omega
      | succ socket =>
          have hrest := @ih socket (by simpa using h)
          simp only [weights, List.set_cons_succ, List.map_cons, List.sum_cons] at hrest ⊢
          omega

namespace Listener

variable {kind : ListenerKind} {listener : Listener}

/-- What `shutdown` does has been done or will be. -/
structure Called (kind : ListenerKind) (listener : Listener) : Prop where
  stop : listener.running = false ∨ .stop ∈ listener.main
  cancel : kind = .concurrent → listener.cancelled = true ∨ .cancel ∈ listener.main
  shutDown : listener.shutDown = true ∨ .shutdownSocket ∈ listener.main
  receive : 0 < listener.receivers + listener.received ∨ .launchReceive ∈ listener.main
  join : kind = .concurrent → 0 < listener.joins + listener.joined ∨ .launchJoin ∈ listener.main

theorem called_shutdown (kind : ListenerKind) (listener : Listener) :
    Called kind (listener.step kind .shutdown) := by
  constructor <;> cases kind <;> simp [Listener.step, ListenerKind.shutdown]

theorem Called.step (h : Called kind listener) (event : ListenerEvent) :
    Called kind (listener.step kind event) := by
  obtain ⟨hstop, hcancel, hshutDown, hreceive, hjoin⟩ := h
  cases event with
  | shutdown => constructor <;> grind [Listener.step]
  | main =>
      rw [Listener.step, Listener.mainStep]
      split
      · exact ⟨hstop, hcancel, hshutDown, hreceive, hjoin⟩
      · rename_i statement rest hmain
        cases statement <;> constructor <;> grind [Listener.perform]
  | thread =>
      rw [Listener.step, Listener.threadStep]
      split
      case h_2 => cases kind <;> exact ⟨hstop, hcancel, hshutDown, hreceive, hjoin⟩
      all_goals exact ⟨hstop, hcancel, hshutDown, hreceive, hjoin⟩
  | accept connected => constructor <;> grind [Listener.step, Listener.acceptStep]
  | start socket => constructor <;> grind [Listener.step, Listener.startStep]
  | finish socket outcome => constructor <;> grind [Listener.step, Listener.finishStep]
  | receive => constructor <;> grind [Listener.step, Listener.receiveStep]
  | join => constructor <;> grind [Listener.step, Listener.joinStep]

def rank (listener : Listener) : Nat :=
  listener.main.length + listener.thread.rank + weights listener.connections +
    (1 - listener.received) + (1 - listener.joined)

/-- What a listener that has been told to stop waits for. -/
def Helpful (listener : Listener) (event : ListenerEvent) : Prop :=
  if listener.main ≠ [] then event = .main
  else
    match listener.thread with
    | .testing | .handing _ | .closing | .sending => event = .thread
    | .accepting => ∃ connected, event = .accept connected
    | .handling socket => ∃ outcome, event = .finish socket outcome
    | .ended | .died =>
        (∃ socket, listener.connections[socket]? = some .queued ∧ event = .start socket) ∨
        (∃ socket outcome, listener.connections[socket]? = some .handling ∧
          event = .finish socket outcome) ∨
        Idle listener.connections ∧ (listener.received = 0 ∧ event = .receive ∨
          0 < listener.received ∧ event = .join)

/-- On the way to the end. -/
structure Stopping (kind : ListenerKind) (listener : Listener) : Prop where
  coherent : Coherent kind listener
  called : Called kind listener
  running : listener.running = false
  alive : listener.thread ≠ .died

/-- What is waited for is the same. -/
structure Same (listener next : Listener) : Prop where
  main : next.main = listener.main
  thread : next.thread = listener.thread
  connections : next.connections = listener.connections
  received : next.received = listener.received

theorem Same.helpful {next : Listener} (h : Same listener next) {event : ListenerEvent}
    (hhelpful : listener.Helpful event) : next.Helpful event := by
  unfold Helpful at hhelpful ⊢
  rwa [h.main, h.thread, h.connections, h.received]

/-- No event but another call of `shutdown` raises the rank. -/
theorem rank_step (hcoherent : Coherent kind listener) (hrunning : listener.running = false)
    {event : ListenerEvent} (hevent : event ≠ .shutdown) :
    (listener.step kind event).rank < listener.rank ∨
      Same listener (listener.step kind event) ∧ (listener.step kind event).rank ≤ listener.rank := by
  cases event with
  | shutdown => exact absurd rfl hevent
  | main =>
      rw [Listener.step, Listener.mainStep]
      split
      · exact .inr ⟨⟨rfl, rfl, rfl, rfl⟩, Nat.le_refl _⟩
      · rename_i statement rest hmain
        left
        cases statement <;> simp only [rank, Listener.perform, hmain, List.length_cons] <;> omega
  | thread =>
      rw [Listener.step, Listener.threadStep]
      split
      · rename_i hthread
        left
        simp [rank, hthread, hrunning, ListenerPhase.rank]
      · rename_i socket hthread
        left
        have hweights := weights_set (hcoherent.handing socket hthread)
        cases kind with
        | plain =>
            have hhandling := hweights .handling
            simp only [rank, Listener.hand, hthread, ListenerPhase.rank, Connection.weight] at hhandling ⊢
            omega
        | concurrent =>
            have hlaunched := hweights (if listener.cancelled then .dropped else .queued)
            simp only [rank, Listener.hand, hthread, ListenerPhase.rank]
            split_ifs at hlaunched ⊢ <;> simp only [Connection.weight] at hlaunched <;> omega
      · rename_i hthread
        left
        simp [rank, hthread, ListenerPhase.rank]
      · rename_i hthread
        left
        simp [rank, hthread, ListenerPhase.rank]
      · exact .inr ⟨⟨rfl, rfl, rfl, rfl⟩, Nat.le_refl _⟩
  | accept connected =>
      rw [Listener.step, Listener.acceptStep]
      split_ifs with hthread hconnected
      · left
        simp [rank, hthread, ListenerPhase.rank, weights, Connection.weight]
      · left
        simp [rank, hthread, ListenerPhase.rank]
      · exact .inr ⟨⟨rfl, rfl, rfl, rfl⟩, Nat.le_refl _⟩
  | start socket =>
      rw [Listener.step, Listener.startStep]
      split
      · rename_i hqueued
        left
        have hweights := weights_set hqueued (if listener.cancelled then .dropped else .handling)
        simp only [rank]
        split_ifs at hweights ⊢ <;> simp only [Connection.weight] at hweights <;> omega
      · exact .inr ⟨⟨rfl, rfl, rfl, rfl⟩, Nat.le_refl _⟩
  | finish socket outcome =>
      rw [Listener.step, Listener.finishStep]
      split
      · rename_i hhandler
        left
        have hweights := weights_set hhandler .closed
        simp only [Connection.weight] at hweights
        cases kind with
        | plain =>
            have hthread : listener.thread = .handling socket :=
              hcoherent.allowed socket .handling hhandler rfl
            dsimp only
            split <;> simp only [rank, hthread, ListenerPhase.rank] <;> omega
        | concurrent =>
            simp only [rank]
            omega
      · exact .inr ⟨⟨rfl, rfl, rfl, rfl⟩, Nat.le_refl _⟩
  | receive =>
      rw [Listener.step, receiveStep]
      split
      · rename_i hready
        left
        have hreceived : listener.received = 0 := by
          have hsum := hcoherent.signalled
          split_ifs at hsum <;> omega
        simp [rank, hreceived]
      · exact .inr ⟨⟨rfl, rfl, rfl, rfl⟩, Nat.le_refl _⟩
  | join =>
      rw [Listener.step, joinStep]
      split
      · right
        refine ⟨⟨rfl, rfl, rfl, rfl⟩, ?_⟩
        simp [rank]
      · exact .inr ⟨⟨rfl, rfl, rfl, rfl⟩, Nat.le_refl _⟩

theorem mainStep_main (listener : Listener) : listener.mainStep.main = listener.main.tail := by
  unfold Listener.mainStep
  split
  · rename_i hmain
    rw [hmain, List.tail_nil]
  · rename_i statement rest hmain
    rw [hmain, List.tail_cons]
    cases statement <;> rfl

/-- A handler that starts or ends is no longer where it was. -/
theorem not_same_of_set {next : Listener} {socket : Nat} {before : Connection}
    (hbefore : listener.connections[socket]? = some before) (changed : Connection) (hne : changed ≠ before)
    (hnext : next.connections = listener.connections.set socket changed) : ¬ Same listener next := by
  intro hsame
  have hlt := (List.getElem?_eq_some_iff.mp hbefore).1
  rw [← hsame.connections, hnext, List.getElem?_set_self hlt] at hbefore
  exact hne (Option.some.inj hbefore)

theorem not_same_of_finish {socket : Nat} {outcome : Outcome}
    (hhandler : listener.connections[socket]? = some .handling) :
    ¬ Same listener (listener.step kind (.finish socket outcome)) := by
  refine not_same_of_set hhandler .closed Connection.noConfusion ?_
  rw [Listener.step, Listener.finishStep, if_pos hhandler]
  cases kind with
  | plain =>
      dsimp only
      split <;> rfl
  | concurrent => rfl

/-- When nothing else is left, the signal is there and so is whoever waits for it. -/
theorem Stopping.receive (h : Stopping kind listener) (hmain : listener.main = [])
    (hthread : listener.thread = .ended) (hreceived : listener.received = 0) :
    (listener.step kind .receive).received = 1 := by
  have hsum := h.coherent.signalled
  have hreceivers : 0 < listener.receivers + listener.received := by
    simpa [hmain] using h.called.receive
  rw [if_pos hthread] at hsum
  rw [Listener.step, receiveStep, if_pos (by omega), hreceived]

theorem Stopping.join (h : Stopping .concurrent listener) (hmain : listener.main = [])
    (hidle : Idle listener.connections) (hjoined : listener.joined = 0) :
    listener.step .concurrent .join = { listener with joins := listener.joins - 1, joined := 1 } := by
  have hcancelled : listener.cancelled = true := by simpa [hmain] using h.called.cancel rfl
  have hjoins : 0 < listener.joins + listener.joined := by simpa [hmain] using h.called.join rfl
  rw [Listener.step, joinStep, if_pos ⟨by omega, hcancelled, hidle⟩, hjoined]

/-- What is waited for lowers the rank. -/
theorem rank_step_of_helpful (h : Stopping kind listener) (hunsettled : ¬ Settled kind listener)
    {event : ListenerEvent} (hevent : event ≠ .shutdown) (hhelpful : listener.Helpful event) :
    (listener.step kind event).rank < listener.rank := by
  have hlower (hdiffers : ¬ Same listener (listener.step kind event)) :
      (listener.step kind event).rank < listener.rank :=
    (rank_step h.coherent h.running hevent).resolve_right fun hsame => hdiffers hsame.1
  unfold Helpful at hhelpful
  split at hhelpful
  · rename_i hmain
    subst hhelpful
    apply hlower
    intro hsame
    have htail : listener.main.tail.length = listener.main.length := by
      rw [← mainStep_main]
      exact congrArg List.length hsame.main
    have hlength := List.length_pos_iff.mpr hmain
    rw [List.length_tail] at htail
    omega
  · rename_i hmain
    rw [ne_eq, not_not] at hmain
    split at hhelpful
    · rename_i hthread
      subst hhelpful
      apply hlower
      intro hsame
      have hsamethread := hsame.thread
      simp [Listener.step, Listener.threadStep, hthread, h.running] at hsamethread
    · rename_i socket hthread
      subst hhelpful
      apply hlower
      intro hsame
      have hsamethread := hsame.thread
      cases kind <;> simp [Listener.step, Listener.threadStep, Listener.hand, hthread] at hsamethread
    · rename_i hthread
      subst hhelpful
      apply hlower
      intro hsame
      have hsamethread := hsame.thread
      simp [Listener.step, Listener.threadStep, hthread] at hsamethread
    · rename_i hthread
      subst hhelpful
      apply hlower
      intro hsame
      have hsamethread := hsame.thread
      simp [Listener.step, Listener.threadStep, hthread] at hsamethread
    · rename_i hthread
      obtain ⟨connected, rfl⟩ := hhelpful
      apply hlower
      intro hsame
      have hsamethread := hsame.thread
      cases connected <;> simp [Listener.step, Listener.acceptStep, hthread] at hsamethread
    · rename_i socket hthread
      obtain ⟨outcome, rfl⟩ := hhelpful
      have hhandler := (h.coherent.handling socket hthread).2
      exact hlower (not_same_of_finish hhandler)
    · rename_i hthread
      rcases hhelpful with ⟨socket, hqueued, rfl⟩ | ⟨socket, outcome, hhandler, rfl⟩ |
        ⟨hidle, ⟨hreceived, rfl⟩ | ⟨hreceived, rfl⟩⟩
      · apply hlower
        refine not_same_of_set hqueued (if listener.cancelled then .dropped else .handling) ?_ ?_
        · split <;> exact Connection.noConfusion
        · rw [Listener.step, Listener.startStep, if_pos hqueued]
      · exact hlower (not_same_of_finish hhandler)
      · apply hlower
        intro hsame
        have hsamereceived := hsame.received
        rw [h.receive hmain hthread hreceived, hreceived] at hsamereceived
        cases hsamereceived
      · obtain ⟨rfl, hjoined⟩ : kind = .concurrent ∧ listener.joined = 0 := by
          by_contra hcontra
          refine hunsettled ⟨hreceived, fun hkind => ?_⟩
          by_contra hjoined
          exact hcontra ⟨hkind, by omega⟩
        rw [h.join hmain hidle hjoined]
        simp only [rank, hjoined]
        omega
    · exact absurd ‹_› h.alive

/-- The handlers of a plain listener throw nothing but what its loop catches. -/
def Survives (kind : ListenerKind) (event : ListenerEvent) : Prop :=
  kind = .plain → ∀ socket, event ≠ .finish socket .otherException

theorem running_step (hrunning : listener.running = false) (event : ListenerEvent) :
    (listener.step kind event).running = false := by
  cases event with
  | main =>
      rw [Listener.step, Listener.mainStep]
      split
      · exact hrunning
      · rename_i statement rest hmain
        cases statement <;> first | rfl | exact hrunning
  | thread =>
      rw [Listener.step, Listener.threadStep]
      split
      case h_2 => cases kind <;> exact hrunning
      all_goals exact hrunning
  | finish socket outcome => grind [Listener.step, Listener.finishStep]
  | _ => grind [Listener.step, Listener.acceptStep, Listener.startStep, receiveStep, joinStep]

theorem alive_step (halive : listener.thread ≠ .died) {event : ListenerEvent}
    (hsurvives : Survives kind event) : (listener.step kind event).thread ≠ .died := by
  cases event with
  | main =>
      rw [Listener.step, Listener.mainStep]
      split
      · exact halive
      · rename_i statement rest hmain
        cases statement <;> exact halive
  | thread =>
      rw [Listener.step, Listener.threadStep]
      split
      case h_1 => cases listener.running <;> exact ListenerPhase.noConfusion
      case h_2 => cases kind <;> exact ListenerPhase.noConfusion
      case h_5 => exact halive
      all_goals exact ListenerPhase.noConfusion
  | finish socket outcome =>
      have houtcome : kind = .plain → outcome ≠ .otherException := by
        rintro hplain rfl
        exact hsurvives hplain socket rfl
      grind [Listener.step, Listener.finishStep]
  | _ => grind [Listener.step, Listener.acceptStep, Listener.startStep, receiveStep, joinStep]

theorem Stopping.step (h : Stopping kind listener) {event : ListenerEvent}
    (hsurvives : Survives kind event) : Stopping kind (listener.step kind event) where
  coherent := h.coherent.step event
  called := h.called.step event
  running := running_step h.running event
  alive := alive_step h.alive hsurvives

theorem Stopping.advances (h : Stopping kind listener) (hunsettled : ¬ Settled kind listener)
    {event : ListenerEvent} (hevent : event ≠ .shutdown) (hsurvives : Survives kind event) :
    LeadsTo.Advances (fun listener => Stopping kind listener ∧ ¬ Settled kind listener)
      (Settled kind) rank Helpful listener event (listener.step kind event) := by
  by_cases hsettled : Settled kind (listener.step kind event)
  · exact .inl hsettled
  · refine .inr ⟨⟨h.step hsurvives, hsettled⟩, ?_⟩
    by_cases hhelpful : listener.Helpful event
    · exact .inl (rank_step_of_helpful h hunsettled hevent hhelpful)
    · rcases rank_step h.coherent h.running hevent with hless | ⟨hsame, hle⟩
      · exact .inl hless
      · exact .inr ⟨hle, hhelpful, fun _ hother => hsame.helpful hother⟩

/-- Everybody has a turn again and again, handlers end, and `accept()` returns
from a socket that is shut down. -/
structure Fair (run : Nat → Listener) (events : Nat → ListenerEvent) : Prop where
  main : ∀ n, ∃ m, n ≤ m ∧ events m = .main
  thread : ∀ n, ∃ m, n ≤ m ∧ events m = .thread
  accept : ∀ n, (run n).shutDown = true → ∃ m, n ≤ m ∧ ∃ connected, events m = .accept connected
  start : ∀ socket n, ∃ m, n ≤ m ∧ events m = .start socket
  finish : ∀ socket n, ∃ m, n ≤ m ∧ ∃ outcome, events m = .finish socket outcome
  receive : ∀ n, ∃ m, n ≤ m ∧ events m = .receive
  join : ∀ n, ∃ m, n ≤ m ∧ events m = .join

theorem Fair.helpful {run : Nat → Listener} {events : Nat → ListenerEvent} (h : Fair run events)
    (n : Nat) (hstopping : Stopping kind (run n)) : ∃ m, n ≤ m ∧ (run n).Helpful (events m) := by
  have hshutDown := hstopping.called.shutDown
  have halive := hstopping.alive
  unfold Helpful
  split
  · exact h.main n
  · rename_i hmain
    rw [ne_eq, not_not] at hmain
    split
    · exact h.thread n
    · exact h.thread n
    · exact h.thread n
    · exact h.thread n
    · exact h.accept n (by simpa [hmain] using hshutDown)
    · rename_i socket hthread
      exact h.finish socket n
    · by_cases hidle : Idle (run n).connections
      · rcases Nat.eq_zero_or_pos (run n).received with hreceived | hreceived
        · obtain ⟨m, hm, hevent⟩ := h.receive n
          exact ⟨m, hm, .inr (.inr ⟨hidle, .inl ⟨hreceived, hevent⟩⟩)⟩
        · obtain ⟨m, hm, hevent⟩ := h.join n
          exact ⟨m, hm, .inr (.inr ⟨hidle, .inr ⟨hreceived, hevent⟩⟩)⟩
      · obtain ⟨connection, hmem, hbusy⟩ : ∃ connection ∈ (run n).connections,
            connection = .queued ∨ connection = .handling := by
          by_contra hnone
          refine hidle fun connection hmem => ⟨?_, ?_⟩ <;> rintro rfl
          · exact hnone ⟨_, hmem, .inl rfl⟩
          · exact hnone ⟨_, hmem, .inr rfl⟩
        obtain ⟨socket, hsocket⟩ := List.mem_iff_getElem?.mp hmem
        rcases hbusy with rfl | rfl
        · obtain ⟨m, hm, hevent⟩ := h.start socket n
          exact ⟨m, hm, .inl ⟨socket, hsocket, hevent⟩⟩
        · obtain ⟨m, hm, outcome, hevent⟩ := h.finish socket n
          exact ⟨m, hm, .inr (.inl ⟨socket, outcome, hsocket, hevent⟩)⟩
    · exact absurd ‹_› halive

theorem main_step {event : ListenerEvent} (hevent : event ≠ .shutdown) (hmain : event ≠ .main) :
    (listener.step kind event).main = listener.main := by
  cases event with
  | shutdown => exact absurd rfl hevent
  | main => exact absurd rfl hmain
  | thread =>
      rw [Listener.step, Listener.threadStep]
      split
      case h_2 => cases kind <;> rfl
      all_goals rfl
  | finish socket outcome => grind [Listener.step, Listener.finishStep]
  | _ => grind [Listener.step, Listener.acceptStep, Listener.startStep, receiveStep, joinStep]

/-- Up to `running = false` the queue of `shutdown` gets shorter. -/
structure Starting (kind : ListenerKind) (listener : Listener) : Prop where
  coherent : Coherent kind listener
  called : Called kind listener
  alive : listener.thread ≠ .died

theorem Starting.advances (h : Starting kind listener) (hrunning : listener.running = true)
    {event : ListenerEvent} (hevent : event ≠ .shutdown) (hsurvives : Survives kind event) :
    LeadsTo.Advances (fun listener => Starting kind listener ∧ listener.running = true)
      (Stopping kind) (fun listener => listener.main.length) (fun _ event => event = .main)
      listener event (listener.step kind event) := by
  have hnext : Starting kind (listener.step kind event) :=
    ⟨h.coherent.step event, h.called.step event, alive_step h.alive hsurvives⟩
  cases hstill : (listener.step kind event).running with
  | false => exact .inl ⟨hnext.coherent, hnext.called, hstill, hnext.alive⟩
  | true =>
      refine .inr ⟨⟨hnext, hstill⟩, ?_⟩
      by_cases hmain : event = .main
      · subst hmain
        have hstop : .stop ∈ listener.main := by simpa [hrunning] using h.called.stop
        have hlength := List.length_pos_of_mem hstop
        left
        change listener.mainStep.main.length < listener.main.length
        rw [mainStep_main, List.length_tail]
        omega
      · have hsame := @main_step kind listener event hevent hmain
        exact .inr ⟨(congrArg List.length hsame).le, hmain, fun _ hother => hother⟩

/-- A listener that is told to stop comes to its end: whoever called `shutdown`
has nothing more to wait for, and nothing goes on behind his back. -/
theorem shutdown_settles (kind : ListenerKind) (before : List ListenerEvent)
    (events : Nat → ListenerEvent) (halive : (run kind before).thread ≠ .died)
    (hcalls : ∀ n, events n ≠ .shutdown) (hsurvives : ∀ n, Survives kind (events n))
    (hfair : Fair (states (Listener.step kind) ((run kind before).step kind .shutdown) events) events) :
    ∃ n, ∀ m, n ≤ m →
      Settled kind (states (Listener.step kind) ((run kind before).step kind .shutdown) events m) ∧
      AllOver kind (states (Listener.step kind) ((run kind before).step kind .shutdown) events m) := by
  generalize hstart : (run kind before).step kind .shutdown = start at hfair
  have hbegun : Starting kind start := by
    subst hstart
    exact ⟨(coherent_run kind before).step .shutdown, called_shutdown kind _, halive⟩
  have hstarting : ∀ n, Starting kind (states (Listener.step kind) start events n) :=
    states_induction hbegun fun _ n h =>
      ⟨h.coherent.step _, h.called.step _, alive_step h.alive (hsurvives n)⟩
  have hstops : LeadsTo (states (Listener.step kind) start events)
      (fun listener => Starting kind listener ∧ listener.running = true) (Stopping kind) :=
    LeadsTo.of_rank events _ _ (fun n h => h.1.advances h.2 (hcalls n) (hsurvives n))
      (fun n _ => hfair.main n)
  have hends : LeadsTo (states (Listener.step kind) start events)
      (fun listener => Stopping kind listener ∧ ¬ Settled kind listener) (Settled kind) :=
    LeadsTo.of_rank events _ _ (fun n h => h.1.advances h.2 (hcalls n) (hsurvives n))
      (fun n h => hfair.helpful n h.1)
  have hstopping : LeadsTo (states (Listener.step kind) start events) (Starting kind)
      (Stopping kind) := by
    refine hstops.of_imp_or fun listener h => ?_
    by_cases hrunning : listener.running = true
    · exact .inl ⟨h, hrunning⟩
    · exact .inr ⟨h.coherent, h.called, Bool.eq_false_iff.mpr hrunning, h.alive⟩
  have hsettles : LeadsTo (states (Listener.step kind) start events) (Stopping kind)
      (Settled kind) :=
    hends.of_imp_or fun listener h => (em (Settled kind listener)).symm.imp_left fun hnot => ⟨h, hnot⟩
  obtain ⟨n, -, hsettled⟩ := hstopping.trans hsettles 0 hbegun
  refine ⟨n, fun m hm => ?_⟩
  have hstays : Settled kind (states (Listener.step kind) start events m) := by
    induction m, hm using Nat.le_induction with
    | base => exact hsettled
    | succ m hm ih => exact ih.step (events m)
  exact ⟨hstays, (hstarting m).coherent.allOver hstays⟩

def turnEvent : Nat → Nat → ListenerEvent
  | 0, _ => .main
  | 1, _ => .thread
  | 2, _ => .accept false
  | 3, socket => .start socket
  | 4, socket => .finish socket .returned
  | 5, _ => .receive
  | _, _ => .join

/-- The kinds of events in turn, for each connection again and again. -/
def inTurn (n : Nat) : ListenerEvent := turnEvent (n.unpair.1 % 7) (n.unpair.1 / 7)

theorem exists_inTurn (turn : Nat) (hturn : turn < 7) (socket n : Nat) :
    ∃ m, n ≤ m ∧ inTurn m = turnEvent turn socket := by
  refine ⟨Nat.pair (7 * socket + turn) n, Nat.right_le_pair _ _, ?_⟩
  have hmod : (7 * socket + turn) % 7 = turn ∧ (7 * socket + turn) / 7 = socket := by omega
  rw [inTurn, Nat.unpair_pair, hmod.1, hmod.2]

theorem inTurn_fair (run : Nat → Listener) : Fair run inTurn where
  main := exists_inTurn 0 (by decide) 0
  thread := exists_inTurn 1 (by decide) 0
  accept n _ := by
    obtain ⟨m, hm, hevent⟩ := exists_inTurn 2 (by decide) 0 n
    exact ⟨m, hm, false, hevent⟩
  start := exists_inTurn 3 (by decide)
  finish socket n := by
    obtain ⟨m, hm, hevent⟩ := exists_inTurn 4 (by decide) socket n
    exact ⟨m, hm, .returned, hevent⟩
  receive := exists_inTurn 5 (by decide) 0
  join := exists_inTurn 6 (by decide) 0

theorem inTurn_ne_shutdown (n : Nat) : inTurn n ≠ .shutdown := by
  unfold inTurn turnEvent
  split <;> exact ListenerEvent.noConfusion

theorem shutdown_settles_inTurn :
    ∃ n, ∀ m, n ≤ m →
      Settled .concurrent (states (Listener.step .concurrent)
        ((run .concurrent [.thread, .accept true, .thread]).step .concurrent .shutdown) inTurn m) ∧
      AllOver .concurrent (states (Listener.step .concurrent)
        ((run .concurrent [.thread, .accept true, .thread]).step .concurrent .shutdown) inTurn m) :=
  shutdown_settles .concurrent [.thread, .accept true, .thread] inTurn (by decide)
    inTurn_ne_shutdown (fun n hplain => by cases hplain) (inTurn_fair _)

end Listener

end WifiProject.Net
