import WifiProject.Lib.Runs

/-!
`NetworkTestLoadingActivity`: a countdown of ten emissions on a background
dispatcher waits for three pings and a speed report. Both an emission with all
results and the end of the countdown, which a cancellation is too, open the
result screen and finish the activity, when its lifecycle state permits. What
`finish` leads to are the later moves of the lifecycle.
-/

namespace WifiProject.App

open Lib

inductive LifecycleState where
  | destroyed
  | initialized
  | created
  | started
  | resumed
  deriving DecidableEq, Repr

/-- One event of the lifecycle. -/
def LifecycleState.movesTo : LifecycleState → LifecycleState → Bool
  | .initialized, .created => true
  | .created, .started => true
  | .started, .resumed => true
  | .resumed, .started => true
  | .started, .created => true
  | .created, .destroyed => true
  | _, _ => false

inductive ResultScreen where
  | networkTest
  | security
  deriving DecidableEq, Repr

inductive CountdownPhase where
  | launched
  /-- in `onStart`, after this many pings -/
  | starting (pings : Nat)
  | counting (emitted : Nat)
  | completed
  deriving DecidableEq, Repr

/-- `report` is whether `Constant.report` is set. -/
structure NetworkTestLoading where
  isSpeed : Bool
  lifecycle : LifecycleState := .initialized
  num : Int := 1
  report : Bool := false
  pingInt1 : Int := 0
  pingInt2 : Int := 0
  pingInt3 : Int := 0
  countdown : CountdownPhase := .launched
  cancelled : Bool := false
  backPressed : Bool := false
  screens : List ResultScreen := []
  deriving DecidableEq, Repr

inductive TestEvent where
  /-- The countdown is dispatched. -/
  | onStart
  | ping (value : Int)
  | speedCompletion (report : Bool)
  | speedProgress (report : Bool)
  | emission
  | onCompletion
  | arrowBack
  | onBackPressed
  | moveTo (state : LifecycleState)
  deriving DecidableEq, Repr

namespace NetworkTestLoading

def Active (activity : NetworkTestLoading) : Prop :=
  activity.lifecycle = .resumed ∨ activity.lifecycle = .started

instance (activity : NetworkTestLoading) : Decidable activity.Active :=
  inferInstanceAs (Decidable (activity.lifecycle = .resumed ∨ activity.lifecycle = .started))

def jumpActivityFinish (activity : NetworkTestLoading) : NetworkTestLoading :=
  if activity.Active then
    { activity with
      screens := activity.screens ++ [if activity.isSpeed then .networkTest else .security] }
  else activity

def HasResults (activity : NetworkTestLoading) : Prop :=
  3 ≤ activity.num ∧ activity.report = true ∧
    activity.pingInt1 ≠ 0 ∧ activity.pingInt2 ≠ 0 ∧ activity.pingInt3 ≠ 0

instance (activity : NetworkTestLoading) : Decidable activity.HasResults :=
  inferInstanceAs (Decidable (3 ≤ activity.num ∧ activity.report = true ∧
    activity.pingInt1 ≠ 0 ∧ activity.pingInt2 ≠ 0 ∧ activity.pingInt3 ≠ 0))

/-- `getPing` sets the pings one after the other. -/
def ping (value : Int) (activity : NetworkTestLoading) : NetworkTestLoading :=
  match activity.countdown with
  | .starting 0 => { activity with pingInt1 := value, countdown := .starting 1 }
  | .starting 1 => { activity with pingInt2 := value, countdown := .starting 2 }
  | .starting _ => { activity with pingInt3 := value, countdown := .counting 0 }
  | _ => activity

/-- A delay is over and its number is emitted; a cancelled countdown emits
nothing. -/
def emission (activity : NetworkTestLoading) : NetworkTestLoading :=
  match activity.countdown with
  | .counting emitted =>
      if emitted < 10 ∧ activity.cancelled = false then
        let activity := { activity with
          num := activity.num + 1
          countdown := .counting (emitted + 1) }
        if activity.HasResults then activity.jumpActivityFinish else activity
      else activity
  | _ => activity

/-- After ten emissions, or when a delay finds the job cancelled. -/
def onCompletion (activity : NetworkTestLoading) : NetworkTestLoading :=
  match activity.countdown with
  | .counting emitted =>
      if emitted = 10 ∨ activity.cancelled = true then
        { activity.jumpActivityFinish with countdown := .completed }
      else activity
  | _ => activity

/-- A countdown that is cancelled before it is dispatched does not run. -/
def onStart (activity : NetworkTestLoading) : NetworkTestLoading :=
  match activity.countdown with
  | .launched =>
      if activity.cancelled then { activity with countdown := .completed }
      else { activity with
        report := false
        pingInt1 := 0
        pingInt2 := 0
        pingInt3 := 0
        countdown := .starting 0 }
  | _ => activity

/-- The scope of a destroyed activity is cancelled, as its job is. -/
def moveTo (state : LifecycleState) (activity : NetworkTestLoading) : NetworkTestLoading :=
  if activity.lifecycle.movesTo state then
    { activity with
      lifecycle := state
      cancelled := activity.cancelled || state = .destroyed }
  else activity

def next (activity : NetworkTestLoading) : TestEvent → NetworkTestLoading
  | .onStart => activity.onStart
  | .ping value => activity.ping value
  | .speedCompletion report => { activity with report := report }
  | .speedProgress report =>
      if 5 ≤ activity.num then { activity with report := report } else activity
  | .emission => activity.emission
  | .onCompletion => activity.onCompletion
  | .arrowBack => { activity with cancelled := true, backPressed := true }
  | .onBackPressed => { activity with backPressed := true }
  | .moveTo state => activity.moveTo state

/-- The activity after some events. -/
def after (isSpeed : Bool) (events : List TestEvent) : NetworkTestLoading :=
  events.foldl next { isSpeed }

/-- The event comes to `jumpActivityFinish`. -/
def Attempts (activity : NetworkTestLoading) : TestEvent → Prop
  | .emission => ∃ emitted, activity.countdown = .counting emitted ∧ emitted < 10 ∧
      activity.cancelled = false ∧ { activity with num := activity.num + 1 }.HasResults
  | .onCompletion => ∃ emitted, activity.countdown = .counting emitted ∧
      (emitted = 10 ∨ activity.cancelled = true)
  | _ => False

end NetworkTestLoading

open NetworkTestLoading

/-- At most one result screen is opened, and none once back was pressed. -/
structure EndsOnce (isSpeed : Bool) (events : List TestEvent) : Prop where
  once : (after isSpeed events).screens.length ≤ 1
  notAfterBack : ∀ before event rest, events = before ++ event :: rest →
    (after isSpeed before).backPressed = true →
      (after isSpeed (before ++ [event])).screens = (after isSpeed before).screens

/-- Once a result screen was opened or back was pressed, the activity is no
longer visible when an emission with all results comes, or the end of the
countdown. -/
def HiddenInTime (isSpeed : Bool) (events : List TestEvent) : Prop :=
  ∀ before event rest, events = before ++ event :: rest →
    (after isSpeed before).Attempts event →
      (after isSpeed before).screens ≠ [] ∨ (after isSpeed before).backPressed = true →
        ¬ (after isSpeed before).Active

section Steps

theorem jumpActivityFinish_cases (activity : NetworkTestLoading) :
    (activity.Active ∧ ∃ screen, activity.jumpActivityFinish.screens = activity.screens ++ [screen]) ∨
      (¬ activity.Active ∧ activity.jumpActivityFinish.screens = activity.screens) := by
  unfold jumpActivityFinish
  split
  · rename_i hactive
    exact Or.inl ⟨hactive, _, rfl⟩
  · rename_i hhidden
    exact Or.inr ⟨hhidden, rfl⟩

theorem emission_cases (activity : NetworkTestLoading) :
    (activity.Attempts .emission ∧ ∃ counted : NetworkTestLoading,
      (counted.Active ↔ activity.Active) ∧ counted.screens = activity.screens ∧
        activity.emission = counted.jumpActivityFinish) ∨
    (¬ activity.Attempts .emission ∧ activity.emission.screens = activity.screens) := by
  unfold emission Attempts
  cases hcountdown : activity.countdown with
  | counting emitted =>
      simp only [CountdownPhase.counting.injEq, exists_eq_left']
      by_cases hcounts : emitted < 10 ∧ activity.cancelled = false
      · let counted : NetworkTestLoading :=
          { activity with num := activity.num + 1, countdown := .counting (emitted + 1) }
        rw [if_pos hcounts]
        by_cases hresults : counted.HasResults
        · exact Or.inl ⟨⟨hcounts.1, hcounts.2, hresults⟩, counted, Iff.rfl, rfl, if_pos hresults⟩
        · right
          refine ⟨fun h => hresults h.2.2, ?_⟩
          change (if counted.HasResults then counted.jumpActivityFinish else counted).screens = _
          rw [if_neg hresults]
      · rw [if_neg hcounts]
        exact Or.inr ⟨fun h => hcounts ⟨h.1, h.2.1⟩, rfl⟩
  | launched | starting pings | completed => exact Or.inr ⟨by simp, rfl⟩

theorem onCompletion_cases (activity : NetworkTestLoading) :
    (activity.Attempts .onCompletion ∧
      activity.onCompletion.screens = activity.jumpActivityFinish.screens) ∨
    (¬ activity.Attempts .onCompletion ∧ activity.onCompletion.screens = activity.screens) := by
  unfold onCompletion Attempts
  cases hcountdown : activity.countdown with
  | counting emitted =>
      simp only [CountdownPhase.counting.injEq, exists_eq_left']
      by_cases hends : emitted = 10 ∨ activity.cancelled = true
      · exact Or.inl ⟨hends, by rw [if_pos hends]⟩
      · exact Or.inr ⟨hends, by rw [if_neg hends]⟩
  | launched | starting pings | completed => exact Or.inr ⟨by simp, rfl⟩

/-- No other event opens a screen. -/
theorem next_cases (activity : NetworkTestLoading) (event : TestEvent) :
    (activity.Attempts event ∧ activity.Active ∧
      ∃ screen, (activity.next event).screens = activity.screens ++ [screen]) ∨
    (¬ (activity.Attempts event ∧ activity.Active) ∧
      (activity.next event).screens = activity.screens) := by
  cases event with
  | onStart =>
      refine Or.inr ⟨fun h => h.1, ?_⟩
      unfold next onStart
      dsimp only
      repeat' split
      all_goals rfl
  | ping value =>
      refine Or.inr ⟨fun h => h.1, ?_⟩
      unfold next ping
      dsimp only
      split
      all_goals rfl
  | speedCompletion report => exact Or.inr ⟨fun h => h.1, rfl⟩
  | speedProgress report =>
      refine Or.inr ⟨fun h => h.1, ?_⟩
      unfold next
      dsimp only
      split
      all_goals rfl
  | emission =>
      rcases emission_cases activity with ⟨hattempts, counted, hactive, hscreens, hemission⟩ |
        ⟨hattempts, hscreens⟩
      · rcases jumpActivityFinish_cases counted with ⟨hvisible, screen, hopened⟩ | ⟨hhidden, hkept⟩
        · left
          refine ⟨hattempts, hactive.mp hvisible, screen, ?_⟩
          rw [next, hemission, hopened, hscreens]
        · right
          refine ⟨fun h => hhidden (hactive.mpr h.2), ?_⟩
          rw [next, hemission, hkept, hscreens]
      · exact Or.inr ⟨fun h => hattempts h.1, hscreens⟩
  | onCompletion =>
      rcases onCompletion_cases activity with ⟨hattempts, hcompletion⟩ | ⟨hattempts, hscreens⟩
      · rcases jumpActivityFinish_cases activity with ⟨hvisible, screen, hopened⟩ |
          ⟨hhidden, hkept⟩
        · exact Or.inl ⟨hattempts, hvisible, screen, hcompletion.trans hopened⟩
        · exact Or.inr ⟨fun h => hhidden h.2, hcompletion.trans hkept⟩
      · exact Or.inr ⟨fun h => hattempts h.1, hscreens⟩
  | arrowBack => exact Or.inr ⟨fun h => h.1, rfl⟩
  | onBackPressed => exact Or.inr ⟨fun h => h.1, rfl⟩
  | moveTo state =>
      refine Or.inr ⟨fun h => h.1, ?_⟩
      unfold next moveTo
      dsimp only
      split
      all_goals rfl

end Steps

section Runs

variable {isSpeed : Bool} {events : List TestEvent} {event : TestEvent}

theorem NetworkTestLoading.after_concat (isSpeed : Bool) (events : List TestEvent)
    (event : TestEvent) : after isSpeed (events ++ [event]) = (after isSpeed events).next event := by
  rw [after, List.foldl_append]
  rfl

/-- Screens are never closed again. -/
theorem screens_length_le (isSpeed : Bool) (before rest : List TestEvent) :
    (after isSpeed before).screens.length ≤ (after isSpeed (before ++ rest)).screens.length := by
  induction rest using List.reverseRecOn with
  | nil => exact Nat.le_of_eq (by rw [List.append_nil])
  | append_singleton rest event ih =>
      rw [← List.append_assoc, NetworkTestLoading.after_concat]
      rcases next_cases (after isSpeed (before ++ rest)) event with ⟨-, -, screen, hopened⟩ |
        ⟨-, hkept⟩
      · rw [hopened, List.length_append, List.length_singleton]
        exact Nat.le_trans ih (Nat.le_succ _)
      · rw [hkept]
        exact ih

theorem screens_length_le_one (h : HiddenInTime isSpeed events) :
    (after isSpeed events).screens.length ≤ 1 := by
  induction events using List.reverseRecOn with
  | nil => exact Nat.zero_le 1
  | append_singleton events event ih =>
      obtain ⟨hfront, hlast⟩ := forall_split_concat_iff.mp h
      rw [NetworkTestLoading.after_concat]
      rcases next_cases (after isSpeed events) event with ⟨hattempts, hactive, screen, hopened⟩ |
        ⟨-, hkept⟩
      · have hnone : (after isSpeed events).screens = [] := by
          by_contra hopen
          exact hlast hattempts (Or.inl hopen) hactive
        rw [hopened, hnone]
        exact Nat.le_refl 1
      · rw [hkept]
        exact ih hfront

/-- The test ends once exactly when the activity was hidden in time. -/
theorem endsOnce_iff_hiddenInTime (isSpeed : Bool) (events : List TestEvent) :
    EndsOnce isSpeed events ↔ HiddenInTime isSpeed events := by
  constructor
  · rintro ⟨honce, hback⟩ before event rest heq hattempts hended hactive
    have hopens : ∃ screen, (after isSpeed (before ++ [event])).screens =
        (after isSpeed before).screens ++ [screen] := by
      rw [NetworkTestLoading.after_concat]
      rcases next_cases (after isSpeed before) event with ⟨-, -, hopened⟩ | ⟨hkept, -⟩
      · exact hopened
      · exact absurd ⟨hattempts, hactive⟩ hkept
    obtain ⟨screen, hopened⟩ := hopens
    rcases hended with hopen | hpressed
    · have hlater := screens_length_le isSpeed (before ++ [event]) rest
      rw [hopened, List.append_assoc, List.singleton_append, ← heq, List.length_append,
        List.length_singleton] at hlater
      have hpositive := List.length_pos_iff.mpr hopen
      omega
    · have hkept := hback before event rest heq hpressed
      rw [hopened] at hkept
      simp at hkept
  · intro h
    refine ⟨screens_length_le_one h, ?_⟩
    intro before event rest heq hpressed
    rw [NetworkTestLoading.after_concat]
    rcases next_cases (after isSpeed before) event with ⟨hattempts, hactive, -⟩ | ⟨-, hkept⟩
    · exact absurd hactive (h before event rest heq hattempts (Or.inr hpressed))
    · exact hkept

/-- The arrow cancels the countdown of a visible activity. -/
def arrowEvents : List TestEvent :=
  [.moveTo .created, .moveTo .started, .moveTo .resumed, .onStart, .ping 20, .ping 20, .ping 20,
    .emission, .arrowBack, .onCompletion]

/-- The end of a cancelled countdown opens the result screen. -/
theorem arrowEvents_not_endsOnce : ¬ EndsOnce true arrowEvents := by
  intro h
  have hkept := h.notAfterBack (arrowEvents.take 9) .onCompletion [] rfl (by decide)
  exact absurd hkept (by decide)

end Runs

end WifiProject.App
