import WifiProject.Bg.BaseService
import WifiProject.Lib.Runs

/-!
The countdown of `VpnHomeActivity.showConnect`. Every tap starts a flow of ten
delays in the scope of the activity. Its completion reads the state of the
service anew, and it runs when the flow ends for any reason, also when the
activity is destroyed.
-/

namespace WifiProject.App

open Lib Bg

/-- `Core.startService` and `Core.stopService`. -/
inductive ServiceRequest where
  | startService
  | stopService
  deriving DecidableEq, Repr

/-- What is asked for while the service can be stopped or not. -/
def ServiceRequest.of (canStop : Bool) : ServiceRequest :=
  if canStop then .stopService else .startService

inductive FlowPhase where
  | counting
  | completed
  /-- The scope was cancelled. -/
  | cut
  deriving DecidableEq, Repr

/-- `isCancel` is `state.canStop` when the countdown was started. -/
structure Countdown where
  isCancel : Bool
  ticks : Nat := 0
  phase : FlowPhase := .counting
  issued : List ServiceRequest := []
  deriving DecidableEq, Repr

namespace Countdown

/-- `onCompletion`, whatever has ended the flow. -/
def onCompletion (canStop : Bool) (phase : FlowPhase) (countdown : Countdown) : Countdown :=
  { countdown with phase := phase, issued := countdown.issued ++ [.of canStop] }

/-- One delay is over; there are ten of them. -/
def tick (canStop : Bool) (countdown : Countdown) : Countdown :=
  if countdown.phase = .counting then
    let countdown := { countdown with ticks := countdown.ticks + 1 }
    if countdown.ticks < 10 then countdown else countdown.onCompletion canStop .completed
  else countdown

def cancel (canStop : Bool) (countdown : Countdown) : Countdown :=
  if countdown.phase = .counting then countdown.onCompletion canStop .cut else countdown

end Countdown

structure VpnScreen where
  state : State := .idle
  countdowns : List Countdown := []
  destroyed : Bool := false
  deriving DecidableEq, Repr

inductive ScreenEvent where
  | showConnect
  | changeConnectionStatus (status : State)
  | tick (job : Nat)
  | onDestroy
  deriving DecidableEq, Repr

namespace VpnScreen

/-- The scope of a destroyed activity starts nothing. -/
def step (screen : VpnScreen) : ScreenEvent → VpnScreen
  | .showConnect =>
      if screen.destroyed then screen
      else { screen with countdowns := screen.countdowns ++ [{ isCancel := screen.state.canStop }] }
  | .changeConnectionStatus status => { screen with state := status }
  | .tick job =>
      { screen with
        countdowns := screen.countdowns.modify job (Countdown.tick screen.state.canStop) }
  | .onDestroy =>
      { screen with
        countdowns := screen.countdowns.map (Countdown.cancel screen.state.canStop)
        destroyed := true }

def run (screen : VpnScreen) (events : List ScreenEvent) : VpnScreen := events.foldl step screen

end VpnScreen

/-- A countdown that has done what it was started for: nothing before it is
complete, its request when it is, and nothing when it was cut short. -/
def Countdown.Kept (countdown : Countdown) : Prop :=
  countdown.issued =
    if countdown.phase = .completed then [.of countdown.isCancel] else []

def VpnScreen.Kept (screen : VpnScreen) : Prop := ∀ countdown ∈ screen.countdowns, countdown.Kept

/-- A countdown completes in the state in which it was started. -/
def Countdown.Steady (canStop : Bool) (countdown : Countdown) : Prop :=
  countdown.phase = .counting → countdown.ticks + 1 = 10 → countdown.isCancel = canStop

/-- The last delay of a countdown is over while the service can be stopped as it
could before, and the activity is destroyed while nothing is counting. -/
def VpnScreen.Steady (screen : VpnScreen) : ScreenEvent → Prop
  | .tick job => ∀ countdown, screen.countdowns[job]? = some countdown →
      countdown.Steady screen.state.canStop
  | .onDestroy => ∀ countdown ∈ screen.countdowns, countdown.phase ≠ .counting
  | _ => True

def SteadyRun (events : List ScreenEvent) : Prop :=
  ∀ before event after, events = before ++ event :: after →
    (VpnScreen.run {} before).Steady event

/-- While it is counting, a countdown has issued nothing and has delays left. -/
structure Countdown.Sound (countdown : Countdown) : Prop where
  issued : countdown.phase = .counting → countdown.issued = []
  ticks : countdown.phase = .counting → countdown.ticks < 10

section Countdowns

variable {countdown : Countdown}

theorem ServiceRequest.of_inj {canStop canStop' : Bool}
    (h : ServiceRequest.of canStop = .of canStop') : canStop = canStop' := by
  cases canStop <;> cases canStop' <;> first | rfl | cases h

theorem Countdown.Sound.tick (h : countdown.Sound) (canStop : Bool) :
    (countdown.tick canStop).Sound := by
  unfold Countdown.tick
  split
  · dsimp only
    split
    · rename_i hticks
      exact ⟨h.issued, fun _ => hticks⟩
    · constructor
      · intro hphase
        cases hphase
      · intro hphase
        cases hphase
  · exact h

theorem Countdown.Sound.cancel (h : countdown.Sound) (canStop : Bool) :
    (countdown.cancel canStop).Sound := by
  unfold Countdown.cancel
  split
  · constructor
    · intro hphase
      cases hphase
    · intro hphase
      cases hphase
  · exact h

/-- A delay keeps what is kept exactly if it is not the last one of a countdown
that was started in another state. -/
theorem Countdown.Sound.kept_tick_iff (h : countdown.Sound) (canStop : Bool) :
    (countdown.tick canStop).Kept ↔ countdown.Kept ∧ countdown.Steady canStop := by
  unfold Countdown.tick Countdown.Steady
  by_cases hcounting : countdown.phase = .counting
  · have hissued := h.issued hcounting
    have hticks := h.ticks hcounting
    have hkept : countdown.Kept := by simp [Countdown.Kept, hissued, hcounting]
    rw [if_pos hcounting]
    dsimp only
    split
    · rename_i hmore
      apply iff_of_true hkept
      refine ⟨hkept, ?_⟩
      intro _ hlast
      omega
    · have hten : countdown.ticks + 1 = 10 := by omega
      simp only [Countdown.Kept, Countdown.onCompletion, hissued, hcounting, hten, if_true,
        List.nil_append, List.cons.injEq, and_true, reduceCtorEq, if_false, true_and,
        forall_const]
      constructor
      · intro heq
        exact (ServiceRequest.of_inj heq).symm
      · intro heq
        rw [heq]
  · rw [if_neg hcounting]
    simp [hcounting]

/-- A countdown that is cut short issues a request nevertheless. -/
theorem Countdown.kept_cancel_iff (countdown : Countdown) (canStop : Bool) :
    (countdown.cancel canStop).Kept ↔ countdown.Kept ∧ countdown.phase ≠ .counting := by
  unfold Countdown.cancel
  by_cases hcounting : countdown.phase = .counting
  · rw [if_pos hcounting]
    simp [Countdown.Kept, Countdown.onCompletion, hcounting]
  · rw [if_neg hcounting]
    simp [hcounting]

end Countdowns

namespace VpnScreen

variable {screen : VpnScreen}

def Sound (screen : VpnScreen) : Prop := ∀ countdown ∈ screen.countdowns, countdown.Sound

theorem sound_initial : Sound {} := by
  intro countdown hmem
  cases hmem

theorem Sound.step (h : screen.Sound) (event : ScreenEvent) : (screen.step event).Sound := by
  cases event with
  | showConnect =>
      unfold VpnScreen.step
      dsimp only
      split
      · exact h
      · intro countdown hmem
        rcases List.mem_append.mp hmem with hold | hnew
        · exact h countdown hold
        · rw [List.mem_singleton] at hnew
          subst hnew
          constructor
          · intro _
            rfl
          · intro _
            exact Nat.zero_lt_succ 9
  | changeConnectionStatus status => exact h
  | tick job =>
      show ∀ countdown ∈ screen.countdowns.modify job _, Countdown.Sound countdown
      rw [forall_mem_modify_iff]
      intro j countdown hj
      have hsound := h countdown (List.mem_of_getElem? hj)
      split
      · exact hsound.tick _
      · exact hsound
  | onDestroy =>
      intro countdown hmem
      obtain ⟨old, hold, rfl⟩ := List.mem_map.mp hmem
      exact (h old hold).cancel _

theorem sound_run (events : List ScreenEvent) : (run {} events).Sound := by
  induction events using List.reverseRecOn with
  | nil => exact sound_initial
  | append_singleton events event ih =>
      rw [run, List.foldl_append]
      exact ih.step event

/-- One event keeps what was asked for exactly if it is a steady one. -/
theorem Sound.kept_step_iff (h : screen.Sound) (event : ScreenEvent) :
    (screen.step event).Kept ↔ screen.Kept ∧ screen.Steady event := by
  cases event with
  | showConnect =>
      unfold VpnScreen.step
      dsimp only
      split
      · simp [Steady]
      · simp only [VpnScreen.Kept, List.forall_mem_append, List.forall_mem_singleton, Steady,
          and_true, and_iff_left_iff_imp]
        intro _
        rfl
  | changeConnectionStatus status => simp [VpnScreen.step, VpnScreen.Kept, Steady]
  | tick job =>
      have hkept : screen.Kept ↔ ∀ (j : Nat) (countdown : Countdown),
          screen.countdowns[j]? = some countdown → countdown.Kept := by
        simp only [VpnScreen.Kept, List.mem_iff_getElem?]
        constructor
        · intro hall j countdown hj
          exact hall countdown ⟨j, hj⟩
        · rintro hall countdown ⟨j, hj⟩
          exact hall j countdown hj
      rw [hkept]
      apply forall_mem_modify_iff.trans
      constructor
      · intro hall
        constructor
        · intro j countdown hj
          have hstep := hall j countdown hj
          split at hstep
          · have hsound := h countdown (List.mem_of_getElem? hj)
            exact ((hsound.kept_tick_iff _).mp hstep).1
          · exact hstep
        · intro countdown hj
          have hstep := hall job countdown hj
          rw [if_pos rfl] at hstep
          have hsound := h countdown (List.mem_of_getElem? hj)
          exact ((hsound.kept_tick_iff _).mp hstep).2
      · intro ⟨hall, hsteady⟩ j countdown hj
        have hsound := h countdown (List.mem_of_getElem? hj)
        split
        · rename_i heq
          subst heq
          exact (hsound.kept_tick_iff _).mpr ⟨hall job countdown hj, hsteady countdown hj⟩
        · exact hall j countdown hj
  | onDestroy =>
      simp only [VpnScreen.step, VpnScreen.Kept, Steady, List.forall_mem_map,
        Countdown.kept_cancel_iff]
      exact forall₂_and

end VpnScreen

/-- Every countdown of a run has done what it was started for, and nothing when
the activity was destroyed, exactly in the steady runs. -/
theorem kept_iff_steadyRun (events : List ScreenEvent) :
    (VpnScreen.run {} events).Kept ↔ SteadyRun events := by
  induction events using List.reverseRecOn with
  | nil =>
      apply iff_of_true
      · intro countdown hmem
        cases hmem
      · exact forall_split_nil
  | append_singleton events event ih =>
      have hstep := (VpnScreen.sound_run events).kept_step_iff event
      have hrun : VpnScreen.run {} (events ++ [event]) = (VpnScreen.run {} events).step event := by
        rw [VpnScreen.run, List.foldl_append]
        rfl
      unfold SteadyRun at ih ⊢
      rw [forall_split_concat_iff, ← ih, ← hstep, hrun]

/-- The service reaches `Connected` while a countdown to connect is running: it
ends with a request to disconnect. -/
theorem not_kept_connectedMeanwhile :
    ¬ (VpnScreen.run {}
        ([.showConnect, .changeConnectionStatus .connected] ++
          List.replicate 10 (.tick 0))).Kept := by
  unfold VpnScreen.Kept Countdown.Kept
  decide +kernel

end WifiProject.App
