import WifiProject.Lib.LinkedMap

/-!
The bandwidth listeners of `BaseService.Binder` and the loop that reports to
them. All of it runs on the main thread, in coroutines of
`Dispatchers.Main.immediate`. A body that is launched on the main thread runs at
once, but the dispatcher forms an event loop: what is launched while it is
running something else waits in its queue. A callback may call back into the
binder from the middle of a broadcast, so a body may run between any two steps of
a loop.
-/

namespace WifiProject.Bg

open Lib

/-- Where the code of one `launch { loop() }` is. -/
inductive LoopPhase (B : Type) where
  | waiting
  | head
  | delaying
  | broadcasting (items : List B)
  | finished
  deriving DecidableEq, Repr

structure LoopJob (B : Type) where
  cancelled : Bool := false
  phase : LoopPhase B
  deriving DecidableEq, Repr

/-- The bodies of the two coroutines that keep the books. -/
inductive ListenerBody (B : Type) where
  | startListeningForBandwidth (binder : B) (timeout : Int)
  | stopListeningForBandwidth (binder : B)
  deriving DecidableEq, Repr

/-- The binder's state. `looper` is the index of a job in `loops`. `launching` is
a loop that `launch` runs before it returns, that is before `looper` is assigned.
`failed` records a `check(looper == null)` or a `looper!!` that has thrown. -/
structure BandwidthBinder (B : Type) where
  callbacks : List B := []
  bandwidthListeners : LinkedMap B Int := .empty
  looper : Option Nat := none
  loops : List (LoopJob B) := []
  launching : Option Nat := none
  queue : List (ListenerBody B) := []
  failed : Bool := false
  deriving DecidableEq, Repr

/-- What may happen next. `queued` says that the event loop is busy when a body is
launched, `atOnce` that it is not when the body launches a loop, and `updated`
that there are new stats while the service is connected. -/
inductive BandwidthAction (B : Type) where
  | registerCallback (binder : B)
  | launch (body : ListenerBody B) (queued atOnce : Bool)
  | unregisterCallback (binder : B) (queued atOnce : Bool)
  | onCallbackDied (binder : B) (queued atOnce : Bool)
  | dequeue (atOnce : Bool)
  | advance (job : Nat) (updated : Bool)
  deriving DecidableEq, Repr

namespace BandwidthBinder

variable {B : Type} [DecidableEq B]

def setPhase (binder : BandwidthBinder B) (job : Nat) (phase : LoopPhase B) : BandwidthBinder B :=
  { binder with loops := binder.loops.modify job fun loop => { loop with phase := phase } }

def cancel (binder : BandwidthBinder B) (job : Nat) : BandwidthBinder B :=
  { binder with loops := binder.loops.modify job fun loop => { loop with cancelled := true } }

/-- `looper = launch { loop() }`. -/
def launchLoop (atOnce : Bool) (binder : BandwidthBinder B) : BandwidthBinder B :=
  let job := binder.loops.length
  if atOnce then
    { binder with loops := binder.loops ++ [{ phase := .head }], launching := some job }
  else { binder with loops := binder.loops ++ [{ phase := .waiting }], looper := some job }

/-- One body to its end, but for the calls to the callback that follow the
bookkeeping. Both operands of the `and` are evaluated. -/
def runBody (atOnce : Bool) (binder : BandwidthBinder B) : ListenerBody B → BandwidthBinder B
  | .startListeningForBandwidth key timeout =>
      let wasEmpty := binder.bandwidthListeners.isEmpty
      let old := binder.bandwidthListeners.get? key
      let binder := { binder with
        bandwidthListeners := binder.bandwidthListeners.put key timeout }
      if wasEmpty && old.isNone then
        if binder.looper.isNone then launchLoop atOnce binder
        else { binder with failed := true }
      else binder
  | .stopListeningForBandwidth key =>
      let old := binder.bandwidthListeners.get? key
      let binder := { binder with bandwidthListeners := binder.bandwidthListeners.remove key }
      if old.isSome && binder.bandwidthListeners.isEmpty then
        match binder.looper with
        | none => { binder with failed := true }
        | some job => { cancel binder job with looper := none }
      else binder

/-- `launch { ... }` around a body. While a loop is being launched the event loop
is busy. -/
def launchBody (queued atOnce : Bool) (binder : BandwidthBinder B) (body : ListenerBody B) :
    BandwidthBinder B :=
  if queued || binder.launching.isSome then { binder with queue := binder.queue ++ [body] }
  else runBody atOnce binder body

/-- The broadcast of an iteration, if there is one. -/
def iterate (updated : Bool) (binder : BandwidthBinder B) (job : Nat) : BandwidthBinder B :=
  if updated && !binder.bandwidthListeners.isEmpty then
    binder.setPhase job (.broadcasting binder.callbacks)
  else binder.setPhase job .head

/-- `delay(bandwidthListeners.values.minOrNull() ?: return)`. A delay of nothing
neither suspends nor looks at the cancellation. -/
def delay (updated : Bool) (binder : BandwidthBinder B) (job : Nat) (cancelled : Bool) :
    BandwidthBinder B :=
  match binder.bandwidthListeners.values.min? with
  | none => binder.setPhase job .finished
  | some timeout =>
      if timeout ≤ 0 then binder.iterate updated job
      else if cancelled then binder.setPhase job .finished
      else binder.setPhase job .delaying

/-- The next step of a loop. -/
def loop (updated : Bool) (binder : BandwidthBinder B) (job : Nat) : BandwidthBinder B :=
  match binder.loops[job]? with
  | none => binder
  | some { cancelled, phase } =>
      match phase with
      | .waiting => if cancelled then binder.setPhase job .finished else binder.setPhase job .head
      | .head => binder.delay updated job cancelled
      | .delaying =>
          if cancelled then binder.setPhase job .finished else binder.iterate updated job
      | .broadcasting (_ :: items) => binder.setPhase job (.broadcasting items)
      | .broadcasting [] => binder.setPhase job .head
      | .finished => binder

/-- `launch` returns when the loop it runs has suspended or ended. -/
def settle (binder : BandwidthBinder B) (job : Nat) : BandwidthBinder B :=
  match binder.loops[job]? with
  | some { phase := .delaying, .. } => { binder with looper := some job, launching := none }
  | some { phase := .finished, .. } => { binder with looper := some job, launching := none }
  | _ => binder

/-- One action; what cannot happen now changes nothing. -/
def step (binder : BandwidthBinder B) : BandwidthAction B → BandwidthBinder B
  | .registerCallback key => { binder with callbacks := binder.callbacks.insert key }
  | .launch body queued atOnce => binder.launchBody queued atOnce body
  | .unregisterCallback key queued atOnce =>
      let binder := binder.launchBody queued atOnce (.stopListeningForBandwidth key)
      { binder with callbacks := binder.callbacks.erase key }
  | .onCallbackDied key queued atOnce =>
      let binder := { binder with callbacks := binder.callbacks.erase key }
      binder.launchBody queued atOnce (.stopListeningForBandwidth key)
  | .dequeue atOnce =>
      match binder.launching, binder.queue with
      | none, body :: queue => { binder with queue := queue }.runBody atOnce body
      | _, _ => binder
  | .advance job updated =>
      match binder.launching with
      | none => binder.loop updated job
      | some launching =>
          if job = launching then (binder.loop updated job).settle job else binder

def run (binder : BandwidthBinder B) (actions : List (BandwidthAction B)) : BandwidthBinder B :=
  actions.foldl step binder

/-- A loop that has neither ended nor been cancelled. -/
def Live (binder : BandwidthBinder B) (job : Nat) : Prop :=
  ∃ phase, binder.loops[job]? = some ⟨false, phase⟩ ∧ phase ≠ .finished

/-- What holds between any two steps. While a loop is being launched, its job
takes the place of `looper`. -/
structure Paired (binder : BandwidthBinder B) : Prop where
  sound : binder.failed = false
  launching : binder.launching.isSome → binder.looper = none
  paired : (binder.launching.or binder.looper).isSome ↔ binder.bandwidthListeners.isEmpty = false
  live : ∀ job, binder.Live job ↔ binder.launching.or binder.looper = some job

section Loops

variable {binder : BandwidthBinder B} {job : Nat} {cancelled : Bool} {old : LoopPhase B}

omit [DecidableEq B] in
theorem paired_init : Paired ({} : BandwidthBinder B) where
  sound := rfl
  launching := fun _ => rfl
  paired := by simp [LinkedMap.isEmpty, LinkedMap.empty]
  live := by simp [Live]

omit [DecidableEq B] in
/-- A loop goes on; only one that was cancelled may end. -/
theorem live_setPhase (hjob : binder.loops[job]? = some ⟨cancelled, old⟩) (hold : old ≠ .finished)
    {phase : LoopPhase B} (hphase : cancelled = true ∨ phase ≠ .finished) (other : Nat) :
    (binder.setPhase job phase).Live other ↔ binder.Live other := by
  unfold Live setPhase
  simp only [List.getElem?_modify]
  by_cases heq : job = other
  · subst heq
    rw [hjob]
    cases cancelled with
    | true => simp
    | false =>
        have hnew : phase ≠ .finished := by simpa using hphase
        simp [hold, hnew]
  · simp [heq]

omit [DecidableEq B] in
theorem Paired.setPhase (h : binder.Paired) (hjob : binder.loops[job]? = some ⟨cancelled, old⟩)
    (hold : old ≠ .finished) {phase : LoopPhase B}
    (hphase : cancelled = true ∨ phase ≠ .finished) : (binder.setPhase job phase).Paired where
  sound := h.sound
  launching := h.launching
  paired := h.paired
  live := fun other => (live_setPhase hjob hold hphase other).trans (h.live other)

omit [DecidableEq B] in
theorem Paired.iterate (h : binder.Paired) (hjob : binder.loops[job]? = some ⟨cancelled, old⟩)
    (hold : old ≠ .finished) (updated : Bool) : (binder.iterate updated job).Paired := by
  unfold BandwidthBinder.iterate
  split
  · exact h.setPhase hjob hold (Or.inr (by simp))
  · exact h.setPhase hjob hold (Or.inr (by simp))

omit [DecidableEq B] in
/-- A loop that finds no listener has been cancelled. -/
theorem Paired.delay (h : binder.Paired) (hjob : binder.loops[job]? = some ⟨cancelled, .head⟩)
    (updated : Bool) : (binder.delay updated job cancelled).Paired := by
  unfold BandwidthBinder.delay
  split
  · rename_i hmin
    have hempty : binder.bandwidthListeners.isEmpty = true := by
      rw [List.min?_eq_none_iff] at hmin
      simpa [LinkedMap.isEmpty, LinkedMap.values] using hmin
    refine h.setPhase hjob (by simp) (Or.inl ?_)
    cases cancelled with
    | true => rfl
    | false =>
        have hlive := (h.live job).mp ⟨.head, hjob, by simp⟩
        have hlisteners := h.paired.mp (by simp [hlive])
        rw [hempty] at hlisteners
        cases hlisteners
  · split
    · exact h.iterate hjob (by simp) updated
    · split
      · rename_i hcancelled
        exact h.setPhase hjob (by simp) (Or.inl hcancelled)
      · exact h.setPhase hjob (by simp) (Or.inr (by simp))

omit [DecidableEq B] in
theorem Paired.loop (h : binder.Paired) (updated : Bool) (job : Nat) :
    (binder.loop updated job).Paired := by
  unfold BandwidthBinder.loop
  split
  · exact h
  · rename_i cancelled phase hjob
    split
    · split
      · rename_i hcancelled
        exact h.setPhase hjob (by simp) (Or.inl hcancelled)
      · exact h.setPhase hjob (by simp) (Or.inr (by simp))
    · exact h.delay hjob updated
    · split
      · rename_i hcancelled
        exact h.setPhase hjob (by simp) (Or.inl hcancelled)
      · exact h.iterate hjob (by simp) updated
    · exact h.setPhase hjob (by simp) (Or.inr (by simp))
    · exact h.setPhase hjob (by simp) (Or.inr (by simp))
    · exact h

omit [DecidableEq B] in
theorem loop_launching (binder : BandwidthBinder B) (updated : Bool) (job : Nat) :
    (binder.loop updated job).launching = binder.launching := by
  unfold BandwidthBinder.loop BandwidthBinder.delay BandwidthBinder.iterate
  repeat' split
  all_goals rfl

omit [DecidableEq B] in
/-- The loop that was being launched becomes the looper. -/
theorem Paired.settle (h : binder.Paired) (hlaunching : binder.launching = some job) :
    (binder.settle job).Paired := by
  have hassigned : Paired { binder with looper := some job, launching := none } := by
    have hpaired := h.paired
    have hlive := h.live
    rw [hlaunching, Option.some_or] at hpaired hlive
    exact ⟨h.sound, by simp, hpaired, hlive⟩
  unfold BandwidthBinder.settle
  split
  · exact hassigned
  · exact hassigned
  · exact h

end Loops

section Bodies

variable {binder : BandwidthBinder B}

/-- `startListeningForBandwidth`: there is no looper if there was no listener. -/
theorem Paired.start (h : binder.Paired) (hlaunching : binder.launching = none) (atOnce : Bool)
    (key : B) (timeout : Int) :
    (binder.runBody atOnce (.startListeningForBandwidth key timeout)).Paired := by
  have hpaired := h.paired
  have hlive := h.live
  rw [hlaunching, Option.none_or] at hpaired hlive
  have hput : (binder.bandwidthListeners.put key timeout).isEmpty = false := by simp
  simp only [runBody]
  cases hempty : binder.bandwidthListeners.isEmpty with
  | false =>
      refine ⟨h.sound, h.launching, ?_, h.live⟩
      change (binder.launching.or binder.looper).isSome ↔
        (binder.bandwidthListeners.put key timeout).isEmpty = false
      rw [h.paired, hempty, hput]
  | true =>
      have hlooper : binder.looper = none := by
        cases hlooper : binder.looper with
        | none => rfl
        | some job =>
            have hlisteners := hpaired.mp (by simp [hlooper])
            rw [hempty] at hlisteners
            cases hlisteners
      have hold : binder.bandwidthListeners.get? key = none := by
        rw [LinkedMap.get?_eq_none_iff]
        simp only [LinkedMap.isEmpty, List.isEmpty_iff] at hempty
        simp [LinkedMap.keys, hempty]
      have hidle (job : Nat) : ¬ binder.Live job := by
        rw [hlive, hlooper]
        simp
      have hnew (phase : LoopPhase B) (hphase : phase ≠ .finished) (job : Nat) :
          (∃ found, (binder.loops ++ [{ phase := phase }])[job]? = some ⟨false, found⟩ ∧
            found ≠ .finished) ↔ binder.loops.length = job := by
        rw [List.getElem?_append]
        split
        · rename_i hlt
          constructor
          · intro hfound
            exact absurd hfound (hidle job)
          · intro heq
            omega
        · rename_i hge
          rw [List.getElem?_singleton]
          constructor
          · rintro ⟨found, hfound, -⟩
            split at hfound
            · omega
            · cases hfound
          · intro heq
            rw [if_pos (by omega)]
            exact ⟨phase, rfl, hphase⟩
      simp only [hold, Option.isNone_none, Bool.and_self, if_true, hlooper, launchLoop]
      split
      · refine ⟨h.sound, fun _ => rfl, by simp, ?_⟩
        intro job
        exact (hnew .head (by simp) job).trans (by simp)
      · refine ⟨h.sound, by simp [hlaunching], by simp, ?_⟩
        intro job
        exact (hnew .waiting (by simp) job).trans (by simp [hlaunching])

/-- `stopListeningForBandwidth`: with the last listener goes the looper. -/
theorem Paired.stop (h : binder.Paired) (hlaunching : binder.launching = none) (atOnce : Bool)
    (key : B) : (binder.runBody atOnce (.stopListeningForBandwidth key)).Paired := by
  have hpaired := h.paired
  have hlive := h.live
  rw [hlaunching, Option.none_or] at hpaired hlive
  simp only [runBody]
  cases hold : binder.bandwidthListeners.get? key with
  | none =>
      rw [LinkedMap.remove_of_get?_eq_none _ hold]
      exact h
  | some timeout =>
      have hnonempty : binder.bandwidthListeners.isEmpty = false := by
        have hmem := (LinkedMap.get?_eq_some_iff _ _ _).mp hold
        cases hempty : binder.bandwidthListeners.isEmpty with
        | false => rfl
        | true =>
            simp only [LinkedMap.isEmpty, List.isEmpty_iff] at hempty
            rw [hempty] at hmem
            cases hmem
      obtain ⟨job, hlooper⟩ := Option.isSome_iff_exists.mp (hpaired.mpr hnonempty)
      cases hlast : (binder.bandwidthListeners.remove key).isEmpty with
      | false =>
          refine ⟨h.sound, h.launching, ?_, h.live⟩
          change (binder.launching.or binder.looper).isSome ↔
            (binder.bandwidthListeners.remove key).isEmpty = false
          simp [hlaunching, hlooper, hlast]
      | true =>
          simp only [Option.isSome_some, Bool.and_self, if_true, hlooper]
          refine ⟨h.sound, fun _ => rfl, by simp [cancel, hlaunching, hlast], ?_⟩
          intro other
          simp only [cancel, hlaunching, Option.or_none, reduceCtorEq, iff_false]
          rintro ⟨phase, hphase, hrunning⟩
          rw [List.getElem?_modify] at hphase
          by_cases heq : job = other
          · subst heq
            simp at hphase
          · have hother : binder.Live other := ⟨phase, by simpa [heq] using hphase, hrunning⟩
            rw [hlive, hlooper] at hother
            exact heq (Option.some.inj hother)

theorem Paired.launchBody (h : binder.Paired) (queued atOnce : Bool) (body : ListenerBody B) :
    (binder.launchBody queued atOnce body).Paired := by
  unfold BandwidthBinder.launchBody
  split
  · exact ⟨h.sound, h.launching, h.paired, h.live⟩
  · rename_i hidle
    have hlaunching : binder.launching = none := by
      rw [Bool.or_eq_true, not_or] at hidle
      simpa using hidle.2
    cases body with
    | startListeningForBandwidth key timeout => exact h.start hlaunching atOnce key timeout
    | stopListeningForBandwidth key => exact h.stop hlaunching atOnce key

end Bodies

theorem Paired.step {binder : BandwidthBinder B} (h : binder.Paired) (action : BandwidthAction B) :
    (binder.step action).Paired := by
  cases action with
  | registerCallback key => exact ⟨h.sound, h.launching, h.paired, h.live⟩
  | launch body queued atOnce => exact h.launchBody queued atOnce body
  | unregisterCallback key queued atOnce =>
      have hbody := h.launchBody queued atOnce (.stopListeningForBandwidth key)
      exact ⟨hbody.sound, hbody.launching, hbody.paired, hbody.live⟩
  | onCallbackDied key queued atOnce =>
      have hdied : Paired { binder with callbacks := binder.callbacks.erase key } :=
        ⟨h.sound, h.launching, h.paired, h.live⟩
      exact hdied.launchBody queued atOnce (.stopListeningForBandwidth key)
  | dequeue atOnce =>
      simp only [BandwidthBinder.step]
      split
      · rename_i body queue hlaunching hqueue
        have hrest : Paired { binder with queue := queue } :=
          ⟨h.sound, h.launching, h.paired, h.live⟩
        cases body with
        | startListeningForBandwidth key timeout => exact hrest.start hlaunching atOnce key timeout
        | stopListeningForBandwidth key => exact hrest.stop hlaunching atOnce key
      · exact h
  | advance job updated =>
      simp only [BandwidthBinder.step]
      split
      · exact h.loop updated job
      · rename_i launching hlaunching
        split
        · rename_i hjob
          subst hjob
          exact (h.loop updated job).settle ((loop_launching binder updated job).trans hlaunching)
        · exact h

/-- Over every sequence of actions: the check and the assertion never fail, a
looper is set exactly while there are listeners (but for the moment in which
`startListeningForBandwidth` has not assigned it yet), and at most one loop is
neither ended nor cancelled. -/
theorem looper_iff_listening (actions : List (BandwidthAction B)) :
    let binder := run ({} : BandwidthBinder B) actions
    binder.failed = false ∧
      (binder.launching = none →
        (binder.looper ≠ none ↔ binder.bandwidthListeners.isEmpty = false)) ∧
      ∀ job other, binder.Live job → binder.Live other → job = other := by
  intro binder
  have hpaired : binder.Paired := by
    have hrun (start : BandwidthBinder B) (hstart : start.Paired) : (run start actions).Paired := by
      induction actions generalizing start with
      | nil => exact hstart
      | cons action actions ih => exact ih _ (hstart.step action)
    exact hrun {} paired_init
  refine ⟨hpaired.sound, ?_, ?_⟩
  · intro hlaunching
    have hiff := hpaired.paired
    rw [hlaunching, Option.none_or] at hiff
    rw [← hiff, Option.isSome_iff_ne_none]
  · intro job other hjob hother
    rw [hpaired.live] at hjob hother
    rw [hjob] at hother
    exact Option.some.inj hother

end BandwidthBinder

end WifiProject.Bg
