import WifiProject.Lib.Runs

/-!
The splash screen of `BaseApplication`. When the last started activity stops, a
timer of three seconds is started; when it is over, `bgFlag` asks for a splash
screen at the next start. A start after a configuration change does not cancel
the timer. A finished `MainActivity` stops in an event of its own.
-/

namespace WifiProject.App

open Lib

/-- The timers are numbered as they are launched. -/
structure BaseApplication where
  foregroundActivities : Int := 0
  isChangingConfiguration : Bool := false
  job : Option Nat := none
  bgFlag : Bool := false
  timers : Nat := 0
  pending : List Nat := []
  deriving DecidableEq, Repr

inductive ActivityEvent where
  | onActivityStarted
  | onActivityStopped (isChangingConfigurations : Bool)
  /-- `delay(3000L)` is over. -/
  | expire (timer : Nat)
  deriving DecidableEq, Repr

namespace BaseApplication

/-- `job?.cancel()` and `job = null`. -/
def cancelJob (app : BaseApplication) : BaseApplication :=
  { app with job := none, pending := app.pending.filter (some · ≠ app.job) }

/-- And whether `FlashActivity` is started. -/
def onActivityStarted (app : BaseApplication) : BaseApplication × Bool :=
  let app := { app with foregroundActivities := app.foregroundActivities + 1 }
  if app.foregroundActivities = 1 ∧ app.isChangingConfiguration = false then
    ({ app.cancelJob with bgFlag := false, isChangingConfiguration := false }, app.bgFlag)
  else ({ app with isChangingConfiguration := false }, false)

def onActivityStopped (isChangingConfigurations : Bool) (app : BaseApplication) : BaseApplication :=
  let app := { app with foregroundActivities := app.foregroundActivities - 1 }
  let app :=
    if app.foregroundActivities = 0 then
      { app with
        job := some app.timers
        timers := app.timers + 1
        pending := app.pending ++ [app.timers] }
    else app
  { app with isChangingConfiguration := isChangingConfigurations }

def expire (timer : Nat) (app : BaseApplication) : BaseApplication :=
  { app with bgFlag := true, pending := app.pending.erase timer }

def next (app : BaseApplication) : ActivityEvent → BaseApplication
  | .onActivityStarted => app.onActivityStarted.1
  | .onActivityStopped isChangingConfigurations => app.onActivityStopped isChangingConfigurations
  | .expire timer => app.expire timer

/-- An activity that stops was started, and a timer that is over was running. -/
def Enabled (app : BaseApplication) : ActivityEvent → Prop
  | .onActivityStarted => True
  | .onActivityStopped _ => 0 < app.foregroundActivities
  | .expire timer => timer ∈ app.pending

instance (app : BaseApplication) : DecidablePred app.Enabled
  | .onActivityStarted => inferInstanceAs (Decidable True)
  | .onActivityStopped _ => inferInstanceAs (Decidable (0 < app.foregroundActivities))
  | .expire timer => inferInstanceAs (Decidable (timer ∈ app.pending))

def after (events : List ActivityEvent) : BaseApplication := events.foldl next {}

end BaseApplication

/-- A sequence of events that can happen. -/
structure ActivityRun where
  events : List ActivityEvent
  enabled : ∀ before event after, events = before ++ event :: after →
    (BaseApplication.after before).Enabled event

/-- The stays in the background, by the events alone. -/
structure Stays where
  started : Int := 0
  changing : Bool := false
  timers : Nat := 0
  /-- while no activity is started: whether the timer of this time has expired -/
  stay : Option Bool := none
  /-- a timer of an earlier time has expired since the last start from zero that
  was not for a configuration change, or the timer of a time that such a change
  has ended -/
  leftOver : Bool := false
  deriving DecidableEq, Repr

namespace Stays

/-- Nothing was started, and it is not a configuration change. -/
def Returns (stays : Stays) : Prop := stays.started = 0 ∧ stays.changing = false

instance (stays : Stays) : Decidable stays.Returns :=
  inferInstanceAs (Decidable (stays.started = 0 ∧ stays.changing = false))

def next (stays : Stays) : ActivityEvent → Stays
  | .onActivityStarted =>
      { stays with
        started := stays.started + 1
        changing := false
        stay := none
        leftOver :=
          if stays.Returns then false else stays.leftOver || stays.stay = some true }
  | .onActivityStopped isChangingConfigurations =>
      if stays.started = 1 then
        { stays with
          started := 0
          changing := isChangingConfigurations
          timers := stays.timers + 1
          stay := some false }
      else { stays with started := stays.started - 1, changing := isChangingConfigurations }
  | .expire timer =>
      if stays.stay.isSome ∧ timer + 1 = stays.timers then { stays with stay := some true }
      else { stays with leftOver := true }

def after (events : List ActivityEvent) : Stays := events.foldl next {}

end Stays

/-- A splash screen comes only when no activity was started for as long as the
timer of this time took. -/
def OnlyAfterStay (events : List ActivityEvent) : Prop :=
  ∀ before after, events = before ++ .onActivityStarted :: after →
    (BaseApplication.after before).onActivityStarted.2 = true →
      (Stays.after before).stay = some true

/-- Where a left-over timer has expired, the timer of the last stay has too. -/
def CoversLeftOver (events : List ActivityEvent) : Prop :=
  ∀ before after, events = before ++ .onActivityStarted :: after →
    (Stays.after before).Returns → (Stays.after before).leftOver = true →
      (Stays.after before).stay = some true

/-- The flag is set when a timer is left over or the last one has expired. -/
structure Agrees (app : BaseApplication) (stays : Stays) : Prop where
  started : app.foregroundActivities = stays.started
  changing : app.isChangingConfiguration = stays.changing
  flag : app.bgFlag = (stays.leftOver || stays.stay = some true)
  away : stays.stay.isSome → stays.started = 0

section Steps

variable {app : BaseApplication} {stays : Stays}

/-- A start is a return, with the splash screen when the flag is set, or it only
counts. -/
theorem onActivityStarted_cases (h : Agrees app stays) :
    (stays.Returns ∧ app.onActivityStarted.2 = app.bgFlag ∧
      app.onActivityStarted.1.bgFlag = false) ∨
    (¬ stays.Returns ∧ app.onActivityStarted.2 = false ∧
      app.onActivityStarted.1.bgFlag = app.bgFlag) := by
  have hreturns : (app.foregroundActivities + 1 = 1 ∧ app.isChangingConfiguration = false) ↔
      stays.Returns := by
    have hzero : stays.started + 1 = 1 ↔ stays.started = 0 := by omega
    rw [h.started, h.changing, Stays.Returns, hzero]
  unfold BaseApplication.onActivityStarted
  simp only [hreturns]
  by_cases hreturn : stays.Returns
  · exact Or.inl ⟨hreturn, by simp [hreturn], by simp [hreturn]⟩
  · exact Or.inr ⟨hreturn, by simp [hreturn], by simp [hreturn]⟩

theorem onActivityStarted_counts (app : BaseApplication) :
    app.onActivityStarted.1.foregroundActivities = app.foregroundActivities + 1 ∧
      app.onActivityStarted.1.isChangingConfiguration = false := by
  unfold BaseApplication.onActivityStarted
  dsimp only
  split
  · exact ⟨rfl, rfl⟩
  · exact ⟨rfl, rfl⟩

theorem Agrees.next (h : Agrees app stays) {event : ActivityEvent} (henabled : app.Enabled event) :
    Agrees (app.next event) (stays.next event) := by
  cases event with
  | onActivityStarted =>
      obtain ⟨hstarted, hchanging⟩ := onActivityStarted_counts app
      refine ⟨?_, hchanging, ?_, ?_⟩
      · rw [BaseApplication.next, hstarted, h.started]
        rfl
      · rcases onActivityStarted_cases h with ⟨hreturns, -, hflag⟩ | ⟨hreturns, -, hflag⟩
        · simp [BaseApplication.next, Stays.next, hflag, hreturns]
        · simp [BaseApplication.next, Stays.next, hflag, hreturns, h.flag]
      · simp [Stays.next]
  | onActivityStopped isChangingConfigurations =>
      have hpositive : 0 < stays.started := h.started ▸ henabled
      have hpresent : stays.stay = none := by
        cases hstay : stays.stay with
        | none => rfl
        | some expired =>
            have hzero := h.away (by rw [hstay]; rfl)
            omega
      have hflag : app.bgFlag = stays.leftOver := by simp [h.flag, hpresent]
      have hlast : app.foregroundActivities - 1 = 0 ↔ stays.started = 1 := by
        rw [h.started]
        omega
      simp only [BaseApplication.next, BaseApplication.onActivityStopped, Stays.next, hlast]
      by_cases hone : stays.started = 1
      · simp only [hone, if_true]
        exact ⟨by simp [h.started, hone], rfl, by simp [hflag], fun _ => rfl⟩
      · simp only [hone, if_false]
        exact ⟨by simp [h.started], rfl, by simp [hflag, hpresent], by simp [hpresent]⟩
  | expire timer =>
      simp only [BaseApplication.next, BaseApplication.expire, Stays.next]
      split
      · rename_i hown
        exact ⟨h.started, h.changing, by simp, fun _ => h.away hown.1⟩
      · exact ⟨h.started, h.changing, by simp, h.away⟩

/-- What a start does, by the stays. -/
theorem onActivityStarted_launches_iff (h : Agrees app stays) :
    app.onActivityStarted.2 = true ↔
      stays.Returns ∧ (stays.leftOver = true ∨ stays.stay = some true) := by
  rcases onActivityStarted_cases h with ⟨hreturns, hlaunch, -⟩ | ⟨hreturns, hlaunch, -⟩
  · simp [hlaunch, h.flag, hreturns]
  · simp [hlaunch, hreturns]

end Steps

section Runs

theorem BaseApplication.after_concat (events : List ActivityEvent) (event : ActivityEvent) :
    BaseApplication.after (events ++ [event]) = (BaseApplication.after events).next event := by
  rw [BaseApplication.after, List.foldl_append]
  rfl

theorem Stays.after_concat (events : List ActivityEvent) (event : ActivityEvent) :
    Stays.after (events ++ [event]) = (Stays.after events).next event := by
  rw [Stays.after, List.foldl_append]
  rfl

theorem ActivityRun.agrees (run : ActivityRun) : ∀ before after, run.events = before ++ after →
    Agrees (BaseApplication.after before) (Stays.after before) := by
  apply front_induction
  · exact ⟨rfl, rfl, rfl, by decide⟩
  · intro before event after hsplit hagrees
    rw [BaseApplication.after_concat, Stays.after_concat]
    exact hagrees.next (run.enabled before event after hsplit)

/-- The splash screen comes only after a stay exactly in those runs in which a
left-over timer is covered by the timer of the stay. -/
theorem onlyAfterStay_iff_coversLeftOver (run : ActivityRun) :
    OnlyAfterStay run.events ↔ CoversLeftOver run.events := by
  constructor
  · intro h before after heq hreturns hleftOver
    apply h before after heq
    exact (onActivityStarted_launches_iff (run.agrees _ _ heq)).mpr ⟨hreturns, Or.inl hleftOver⟩
  · intro h before after heq hlaunch
    obtain ⟨hreturns, hleftOver | hstay⟩ :=
      (onActivityStarted_launches_iff (run.agrees _ _ heq)).mp hlaunch
    · exact h before after heq hreturns hleftOver
    · exact hstay

/-- Without configuration changes only the timer of the stay that goes on is
running: a start cancels it. -/
structure Cancelled (app : BaseApplication) (stays : Stays) : Prop where
  agrees : Agrees app stays
  timers : app.timers = stays.timers
  steady : stays.changing = false
  own : ∀ timer ∈ app.pending, app.job = some timer ∧ stays.stay.isSome ∧ timer + 1 = stays.timers
  none : stays.leftOver = false

section Cancelling

variable {app : BaseApplication} {stays : Stays}

/-- No timer runs while an activity is started. -/
theorem Cancelled.pending_of_started (h : Cancelled app stays) (hstarted : stays.started ≠ 0) :
    app.pending = [] := by
  apply List.eq_nil_iff_forall_not_mem.mpr
  intro timer htimer
  exact hstarted (h.agrees.away (h.own timer htimer).2.1)

/-- A start cancels the timer there is. -/
theorem Cancelled.pending_started (h : Cancelled app stays) :
    app.onActivityStarted.1.pending = [] := by
  unfold BaseApplication.onActivityStarted
  dsimp only
  split
  · apply List.filter_eq_nil_iff.mpr
    intro timer htimer
    simp [(h.own timer htimer).1]
  · rename_i hused
    apply h.pending_of_started
    intro hzero
    apply hused
    rw [h.agrees.started, h.agrees.changing, hzero, h.steady]
    exact ⟨rfl, rfl⟩

theorem timers_started (app : BaseApplication) :
    app.onActivityStarted.1.timers = app.timers := by
  unfold BaseApplication.onActivityStarted
  dsimp only
  split
  · rfl
  · rfl

theorem Cancelled.next (h : Cancelled app stays)
    {event : ActivityEvent} (henabled : app.Enabled event)
    (hsteady : event ≠ .onActivityStopped true) : Cancelled (app.next event) (stays.next event) := by
  have hagrees := h.agrees.next henabled
  cases event with
  | onActivityStarted =>
      refine ⟨hagrees, (timers_started app).trans h.timers, rfl, ?_, ?_⟩
      · intro timer htimer
        rw [BaseApplication.next, h.pending_started] at htimer
        cases htimer
      · by_cases hreturns : stays.Returns
        · simp [Stays.next, hreturns]
        · have hpresent : stays.stay ≠ some true := by
            intro hstay
            apply hreturns
            exact ⟨h.agrees.away (by rw [hstay]; rfl), h.steady⟩
          simp [Stays.next, hreturns, hpresent, h.none]
  | onActivityStopped isChangingConfigurations =>
      have hchange : isChangingConfigurations = false := by simpa using hsteady
      have hpositive : 0 < stays.started := h.agrees.started ▸ henabled
      have hpending : app.pending = [] := h.pending_of_started (by omega)
      have hlast : app.foregroundActivities - 1 = 0 ↔ stays.started = 1 := by
        rw [h.agrees.started]
        omega
      simp only [BaseApplication.next, BaseApplication.onActivityStopped, Stays.next, hlast]
        at hagrees ⊢
      by_cases hone : stays.started = 1
      · simp only [hone, if_true, hpending, List.nil_append] at hagrees ⊢
        refine ⟨hagrees, by simp [h.timers], hchange, ?_, h.none⟩
        intro timer htimer
        rw [List.mem_singleton.mp htimer]
        exact ⟨rfl, rfl, by simp [h.timers]⟩
      · simp only [hone, if_false] at hagrees ⊢
        refine ⟨hagrees, h.timers, hchange, ?_, h.none⟩
        intro timer htimer
        rw [hpending] at htimer
        cases htimer
  | expire timer =>
      obtain ⟨-, hstay, hlast⟩ := h.own timer henabled
      have hnext : stays.next (.expire timer) = { stays with stay := some true } := by
        simp [Stays.next, hstay, hlast]
      rw [hnext] at hagrees ⊢
      refine ⟨hagrees, h.timers, h.steady, ?_, h.none⟩
      intro other hother
      obtain ⟨hjob, -, hlast⟩ := h.own other (List.mem_of_mem_erase hother)
      exact ⟨hjob, rfl, hlast⟩

end Cancelling

/-- Without configuration changes the splash screen comes only after a stay. -/
theorem onlyAfterStay_of_steady (run : ActivityRun)
    (h : .onActivityStopped true ∉ run.events) : OnlyAfterStay run.events := by
  have hcancelled : ∀ before after, run.events = before ++ after →
      Cancelled (BaseApplication.after before) (Stays.after before) := by
    apply front_induction
    · exact ⟨⟨rfl, rfl, rfl, by decide⟩, rfl, rfl, by decide, rfl⟩
    · intro before event after hsplit hbefore
      have hsteady : event ≠ .onActivityStopped true := by
        rintro rfl
        apply h
        rw [hsplit]
        exact List.mem_append_right _ (List.mem_cons_self ..)
      rw [BaseApplication.after_concat, Stays.after_concat]
      exact hbefore.next (run.enabled before event after hsplit) hsteady
  intro before after heq hlaunch
  have hbefore := hcancelled before _ heq
  have hcause := ((onActivityStarted_launches_iff hbefore.agrees).mp hlaunch).2
  rw [hbefore.none] at hcause
  exact hcause.resolve_left Bool.false_ne_true

/-- A rotation leaves its timer running; it expires while the activity is used,
and a short absence after that brings the splash screen. -/
def rotation : List ActivityEvent :=
  [.onActivityStarted, .onActivityStopped true, .onActivityStarted, .expire 0,
    .onActivityStopped false, .onActivityStarted]

theorem rotation_enabled : ∀ before event after, rotation = before ++ event :: after →
    (BaseApplication.after before).Enabled event := by
  simp only [rotation, forall_split_cons_iff]
  refine ⟨?_, ?_, ?_, ?_, ?_, ?_, forall_split_nil⟩
  all_goals decide

def rotationRun : ActivityRun where
  events := rotation
  enabled := rotation_enabled

theorem rotationRun_not_onlyAfterStay : ¬ OnlyAfterStay rotationRun.events := by
  intro h
  have hstay := h (rotation.take 5) [] rfl (by decide)
  exact absurd hstay (by decide)

end Runs

end WifiProject.App
