import Mathlib.Data.Nat.Pairing
import WifiProject.Bg.BaseService
import WifiProject.Lib.LeadsTo

/-!
What a service always gets to. Nothing is assumed about commands and broadcasts,
only that what waits on the main thread has its turn again and again, that a
statement of the connecting job does not suspend for ever, and that no statement
throws a `CancellationException` of its own accord: the job would take it for a
`stopRunner` that nobody has called.
-/

namespace WifiProject.Bg

open Lib Database

namespace Instruction

/-- How often the file descriptor may still be sent. -/
def patience : Instruction → Nat
  | .sendFd tries => 7 - tries
  | _ => 0

theorem patience_le (instruction : Instruction) : instruction.patience ≤ 7 := by
  unfold patience
  split <;> omega

end Instruction

/-- How far a job is from its end. -/
def JobPhase.rank : JobPhase → Nat
  | .dispatched body => 8 * body.length
  | .suspended point rest => 8 * rest.length + point.patience
  | .completed => 0

namespace Service

/-- What the service waits for while it stops: the job it has cancelled, and
after that its stop coroutine. -/
def StopAwaits (service : Service) : Event → Prop
  | .runJob job _ _ => service.jobActive job = true
  | .runStop index _ => index = 0 ∧ ∀ job, service.jobActive job = false
  | _ => False

/-- What the service waits for while it connects: a job that goes on. -/
def ConnectAwaits (service : Service) : Event → Prop
  | .runJob job outcomes _ => service.jobActive job = true ∧ outcomes.head? ≠ some .suspends
  | _ => False

def stopRank (service : Service) : Nat :=
  match service.stops with
  | [] => 0
  | ⟨_, _, .cleaning⟩ :: _ => 1
  | ⟨_, _, .joining job⟩ :: _ => if service.jobActive job = true then 3 else 2

def connectRank (service : Service) : Nat :=
  match service.data.connectingJob.bind (service.jobs[·]?) with
  | none => 0
  | some job => job.phase.rank

/-- What holds besides `Safe` if no statement throws a cancellation. -/
structure Steady (service : Service) : Prop extends service.Safe where
  connecting : service.data.state = .connecting → ∃ job, service.jobActive job = true
  used : service.data.state ≠ .idle

/-- The event brings no `CancellationException`. -/
def Event.Uncancelled : Event → Prop
  | .runJob _ outcomes _ => .throws .cancellation ∉ outcomes
  | _ => True

/-! `stopRunner` and the end of a job. -/

theorem changeState_state (service : Service) (after : State) (msg : Option String) :
    (service.changeState after msg).data.state = after := by
  unfold changeState
  split
  · rename_i h
    exact h.1
  · rfl

theorem cleanUp_state (service : Service) (restart : Bool) (msg : Option String) (waits : Bool)
    (hstate : service.data.state = .stopping) :
    (service.cleanUp restart msg waits).data.state = .stopping ∨
      (service.cleanUp restart msg waits).data.state = .stopped := by
  unfold cleanUp
  cases waits with
  | true => exact Or.inl hstate
  | false => exact Or.inr (changeState_state _ _ _)

theorem stopRunner_state (service : Service) (restart : Bool) (msg : Option String) (waits : Bool) :
    (service.stopRunner restart msg waits).data.state = .stopping ∨
      (service.stopRunner restart msg waits).data.state = .stopped := by
  unfold stopRunner
  split
  · rename_i hstate
    exact Or.inl hstate
  · dsimp only
    split
    · exact cleanUp_state _ _ _ _ (changeState_state _ _ _)
    · split
      · exact Or.inl (changeState_state _ _ _)
      · exact cleanUp_state _ _ _ _ (changeState_state _ _ _)

theorem stopRunner_of_stopping {service : Service} (hstate : service.data.state = .stopping)
    (restart : Bool) (msg : Option String) (waits : Bool) :
    service.stopRunner restart msg waits = service := by
  simp [stopRunner, hstate]

/-- A job that is not active has nothing to run. -/
theorem runJob_of_inactive {service : Service} {job : Nat} (hjob : service.jobActive job ≠ true)
    (outcomes : List Outcome) (waits : Bool) : service.runJob job outcomes waits = service := by
  unfold runJob
  split
  · rfl
  · rfl
  · rename_i h
    exact absurd ((jobActive_iff service job).mpr ⟨_, h, by simp⟩) hjob
  · rename_i h
    exact absurd ((jobActive_iff service job).mpr ⟨_, h, by simp⟩) hjob
  · rename_i h
    exact absurd ((jobActive_iff service job).mpr ⟨_, h, by simp⟩) hjob

theorem runStop_of_stops_nil {service : Service} (hstops : service.stops = []) (index : Nat)
    (waits : Bool) : service.runStop index waits = service := by
  simp [runStop, hstops]

theorem jobActive_of_completed {service next : Service} {job : Nat}
    (hjobs : next.jobs = service.jobs.modify job fun job => { job with phase := .completed }) :
    next.jobActive job = false := by
  rw [Bool.eq_false_iff, ne_eq, jobActive_iff, hjobs]
  rintro ⟨completed, hget, hphase⟩
  rw [List.getElem?_modify_eq, Option.map_eq_map, Option.map_eq_some_iff] at hget
  obtain ⟨old, -, rfl⟩ := hget
  exact hphase rfl

/-! Stopping. -/

/-- An active job was cancelled by the stop coroutine, which waits for it. -/
theorem Safe.joining {service : Service} (hsafe : service.Safe)
    (hstate : service.data.state = .stopping) {job : Nat} (hactive : service.jobActive job = true) :
    ∃ restart msg phase, service.stops = [⟨restart, msg, .joining job⟩] ∧
      service.jobs[job]? = some ⟨phase, true⟩ ∧ phase ≠ .completed := by
  obtain ⟨⟨phase, cancelled⟩, hjob, hphase⟩ := (jobActive_iff service job).mp hactive
  obtain ⟨stop, hstops, -⟩ := hsafe.stopping hstate
  rcases (hsafe.active job _ hjob hphase).state with h | ⟨-, hcancelled, waiting, hmem, hjoining⟩
  · simp [hstate] at h
  · rw [hstops, List.mem_singleton] at hmem
    subst hmem
    refine ⟨waiting.restart, waiting.msg, phase, ?_, ?_, hphase⟩
    · rw [hstops, ← hjoining]
    · rw [hjob]
      simpa using hcancelled

/-- The cancelled job runs to its end in one go. -/
theorem Safe.runJob_of_stopping {service : Service} (hsafe : service.Safe)
    (hstate : service.data.state = .stopping) {job : Nat} (hactive : service.jobActive job = true)
    (outcomes : List Outcome) (waits : Bool) :
    (service.runJob job outcomes waits).data.state = .stopping ∧
      (service.runJob job outcomes waits).stops = service.stops ∧
      (service.runJob job outcomes waits).jobActive job = false := by
  obtain ⟨-, -, phase, -, hjob, hphase⟩ := hsafe.joining hstate hactive
  unfold Service.runJob
  simp only [hjob]
  cases phase with
  | completed => exact absurd rfl hphase
  | dispatched body => exact ⟨hstate, rfl, jobActive_of_completed rfl⟩
  | suspended instruction rest =>
      obtain ⟨exception, hresume⟩ :=
        resume_cancelled service.kind instruction rest outcomes service.data
      simp only [hresume]
      cases exception with
      | cancellation => exact ⟨hstate, rfl, jobActive_of_completed rfl⟩
      | error message =>
          simp only [Service.endSegment, stopRunner_of_stopping hstate]
          exact ⟨hstate, rfl, jobActive_of_completed rfl⟩

/-- Once no job is left, every segment of the stop coroutine gets on. -/
theorem Safe.runStop_of_stopping {service : Service} (hsafe : service.Safe)
    (hstate : service.data.state = .stopping) (hinactive : ∀ job, service.jobActive job = false)
    (waits : Bool) :
    (service.runStop 0 waits).data.state = .stopped ∨
      (service.runStop 0 waits).data.state = .stopping ∧
        (service.runStop 0 waits).stopRank < service.stopRank := by
  obtain ⟨⟨restart, msg, phase⟩, hstops, -⟩ := hsafe.stopping hstate
  have hrank : phase ≠ .cleaning → service.stopRank = 2 := by
    intro hphase
    cases phase with
    | cleaning => exact absurd rfl hphase
    | joining job => simp [stopRank, hstops, hinactive]
  unfold Service.runStop
  cases phase with
  | cleaning =>
      simp only [hstops, List.getElem?_cons_zero]
      exact Or.inl (changeState_state _ _ _)
  | joining job =>
      rw [hrank (by simp)]
      simp only [hstops, List.getElem?_cons_zero, hinactive, Bool.false_eq_true, if_false]
      cases waits with
      | true => exact Or.inr ⟨hstate, by simp [cleanUp, stopRank]⟩
      | false => exact Or.inl (changeState_state _ _ _)

/-- A stop coroutine that has its turn while its job is active goes on waiting. -/
theorem Safe.runStop_of_not_awaits {service : Service} (hsafe : service.Safe)
    (hstate : service.data.state = .stopping) {index : Nat} {waits : Bool}
    (hnot : ¬ service.StopAwaits (.runStop index waits)) :
    service.runStop index waits = service := by
  rcases Nat.eq_zero_or_pos index with rfl | hindex
  · obtain ⟨job, hjob⟩ : ∃ job, service.jobActive job = true := by
      by_contra hnone
      exact hnot ⟨rfl, by simpa using hnone⟩
    obtain ⟨restart, msg, -, hstops, -, -⟩ := hsafe.joining hstate hjob
    simp [Service.runStop, hstops, hjob]
  · obtain ⟨stop, hstops, -⟩ := hsafe.stopping hstate
    simp [Service.runStop, hstops, Nat.ne_of_gt hindex]

theorem Safe.stop_advances {service : Service} (hsafe : service.Safe)
    (hstate : service.data.state = .stopping) (event : Event) :
    LeadsTo.Advances (fun s => s.Safe ∧ s.data.state = .stopping)
      (fun s => s.data.state = .stopped) stopRank StopAwaits service event (service.step event) := by
  have hnext := hsafe.step event
  have hstay (hsame : service.step event = service) (hnot : ¬ service.StopAwaits event) :
      LeadsTo.Advances (fun s => s.Safe ∧ s.data.state = .stopping)
        (fun s => s.data.state = .stopped) stopRank StopAwaits service event
        (service.step event) := by
    rw [hsame]
    exact Or.inr ⟨⟨hsafe, hstate⟩, Or.inr ⟨Nat.le_refl _, hnot, fun _ h => h⟩⟩
  cases event with
  | onStartCommand expanded waits => exact hstay (by simp [Service.step, Service.onStartCommand, hstate]) id
  | stopRunner restart msg waits => exact hstay (stopRunner_of_stopping hstate _ _ _) id
  | forceLoad waits => exact hstay (by simp [Service.step, Service.forceLoad, hstate, State.canStop]) id
  | runJob job outcomes waits =>
      by_cases hactive : service.jobActive job = true
      · obtain ⟨hstate', hstops, hdone⟩ := hsafe.runJob_of_stopping hstate hactive outcomes waits
        refine Or.inr ⟨⟨hnext, hstate'⟩, Or.inl ?_⟩
        obtain ⟨restart, msg, -, honly, -, -⟩ := hsafe.joining hstate hactive
        have hbefore : service.stopRank = 3 := by simp [stopRank, honly, hactive]
        have hafter : (service.runJob job outcomes waits).stopRank = 2 := by
          simp [stopRank, hstops, honly, hdone]
        change (service.runJob job outcomes waits).stopRank < service.stopRank
        omega
      · exact hstay (runJob_of_inactive hactive _ _) hactive
  | runStop index waits =>
      by_cases hawaits : service.StopAwaits (.runStop index waits)
      · obtain ⟨rfl, hinactive⟩ := hawaits
        rcases hsafe.runStop_of_stopping hstate hinactive waits with h | ⟨h, hrank⟩
        · exact Or.inl h
        · exact Or.inr ⟨⟨hnext, h⟩, Or.inl hrank⟩
      · exact hstay (hsafe.runStop_of_not_awaits hstate hawaits) hawaits

/-! Connecting. -/

/-- The state has been left: one of these comes next. -/
def Left (state : State) : Prop := state = .connected ∨ state = .stopping ∨ state = .stopped

end Service

theorem segment_suspended {kind : ServiceKind} {instructions : List Instruction}
    {outcomes : List Outcome} {data : Data} {point : Instruction} {rest : List Instruction}
    (h : (segment kind instructions outcomes data).1 = .suspended point rest) :
    rest.length < instructions.length := by
  induction instructions generalizing outcomes data with
  | nil => simp [segment] at h
  | cons instruction remaining ih =>
      unfold segment at h
      split at h
      · simp at h
      · simp at h
      · split at h
        · obtain ⟨-, rfl⟩ := SegmentEnd.suspended.inj h
          simp
        · split at h
          · simp at h
          · exact (ih h).trans (by simp)

theorem head_mem_of_getD {outcomes : List Outcome} {outcome : Outcome}
    (h : outcomes.head?.getD .proceeds = outcome) (hne : outcome ≠ .proceeds) :
    outcome ∈ outcomes := by
  cases outcomes with
  | nil => exact absurd h.symm hne
  | cons first rest => exact List.mem_cons.mpr (Or.inl h.symm)

theorem segment_cancellation {kind : ServiceKind} {instructions : List Instruction}
    {outcomes : List Outcome} {data : Data}
    (h : (segment kind instructions outcomes data).1 = .threw .cancellation) :
    .throws .cancellation ∈ outcomes := by
  induction instructions generalizing outcomes data with
  | nil => simp [segment] at h
  | cons instruction remaining ih =>
      unfold segment at h
      split at h
      · rename_i exception hhead
        cases h
        exact head_mem_of_getD hhead (by simp)
      · simp at h
      · split at h
        · simp at h
        · split at h
          · simp at h
          · exact List.mem_of_mem_tail (ih h)

/-- A job that is resumed and suspends again has less before it, unless it has
been told to suspend where it was. -/
theorem resume_suspended {kind : ServiceKind} {instruction point : Instruction}
    {rest remaining : List Instruction} {outcomes : List Outcome} {data : Data}
    (h : (resume kind false instruction rest outcomes data).1 = .suspended point remaining) :
    (JobPhase.suspended point remaining).rank < (JobPhase.suspended instruction rest).rank ∨
      outcomes.head? = some .suspends ∧ point = instruction ∧ remaining = rest := by
  unfold resume at h
  simp only [JobPhase.rank]
  split at h
  · simp at h
  · split at h
    · split at h
      · simp at h
      · obtain ⟨rfl, rfl⟩ := SegmentEnd.suspended.inj h
        refine Or.inl ?_
        simp only [Instruction.patience]
        omega
    · simp at h
  · refine Or.inl ?_
    have hlength := segment_suspended h
    have hpatience := point.patience_le
    omega
  · rename_i hhead
    obtain ⟨rfl, rfl⟩ := SegmentEnd.suspended.inj h
    refine Or.inr ⟨?_, rfl, rfl⟩
    cases outcomes with
    | nil => simp at hhead
    | cons first rest => simpa using hhead

theorem resume_cancellation {kind : ServiceKind} {instruction : Instruction}
    {rest : List Instruction} {outcomes : List Outcome} {data : Data}
    (h : (resume kind false instruction rest outcomes data).1 = .threw .cancellation) :
    .throws .cancellation ∈ outcomes := by
  unfold resume at h
  split at h
  · rename_i exception hhead
    cases h
    exact head_mem_of_getD hhead (by simp)
  · split at h
    · split at h
      · simp at h
      · simp at h
    · simp at h
  · exact List.mem_of_mem_tail (segment_cancellation h)
  · simp at h

namespace Service

theorem endSegment_left (service : Service) (job : Nat) (waits : Bool) {result : SegmentEnd}
    (hcancellation : result ≠ .threw .cancellation)
    (hsuspended : ∀ point rest, result ≠ .suspended point rest) :
    Left (service.endSegment job waits result).data.state := by
  cases result with
  | finished => exact Or.inl (changeState_state _ _ _)
  | suspended point rest => exact absurd rfl (hsuspended point rest)
  | nullPointer => exact Or.inr (stopRunner_state _ _ _ _)
  | threw exception =>
      cases exception with
      | cancellation => exact absurd rfl hcancellation
      | error message => exact Or.inr (stopRunner_state _ _ _ _)

/-- A segment that the job goes on after leaves it where it suspended. -/
theorem endSegment_suspended {service : Service} {job : Nat} {current : ConnectingJob}
    (hjob : service.jobs[job]? = some current) (waits : Bool) (point : Instruction)
    (rest : List Instruction) :
    (service.endSegment job waits (.suspended point rest)).data = service.data ∧
      (service.endSegment job waits (.suspended point rest)).jobs[job]? =
        some { current with phase := .suspended point rest } := by
  refine ⟨rfl, ?_⟩
  simp [endSegment, hjob]

/-- What a segment of the connecting job comes to. -/
theorem endSegment_connects {service : Service} {data : Data} {job : Nat} {phase : JobPhase}
    (hjob : service.jobs[job]? = some ⟨phase, false⟩) (hadvanced : Advanced service.data data)
    (waits helped : Bool) {result : SegmentEnd} (hcancellation : result ≠ .threw .cancellation)
    (hrank : ∀ point rest, result = .suspended point rest →
      (JobPhase.suspended point rest).rank < phase.rank ∨
        helped = false ∧ (JobPhase.suspended point rest).rank = phase.rank) :
    let next := { service with data := data }.endSegment job waits result
    Left next.data.state ∨ next.data.state = service.data.state ∧
      next.data.connectingJob = service.data.connectingJob ∧
      ∃ phase', next.jobs[job]? = some ⟨phase', false⟩ ∧ phase' ≠ .completed ∧
        (phase'.rank < phase.rank ∨ helped = false ∧ phase'.rank = phase.rank) := by
  by_cases hsuspended : ∃ point rest, result = .suspended point rest
  · obtain ⟨point, rest, rfl⟩ := hsuspended
    have hadvancedJob : { service with data := data }.jobs[job]? = some ⟨phase, false⟩ := hjob
    obtain ⟨hdata, hphase⟩ := endSegment_suspended hadvancedJob waits point rest
    refine Or.inr ⟨?_, ?_, .suspended point rest, hphase, by simp, hrank point rest rfl⟩
    · rw [hdata, hadvanced.frame]
    · rw [hdata, hadvanced.frame]
  · refine Or.inl (endSegment_left _ job waits hcancellation ?_)
    rintro point rest rfl
    exact hsuspended ⟨point, rest, rfl⟩

/-- The current job while the service connects. -/
structure Connecting (service : Service) (job : Nat) (phase : JobPhase) : Prop where
  state : service.data.state = .connecting
  current : service.data.connectingJob = some job
  active : service.jobs[job]? = some ⟨phase, false⟩
  uncompleted : phase ≠ .completed

theorem Connecting.jobActive {service : Service} {job : Nat} {phase : JobPhase}
    (h : service.Connecting job phase) : service.jobActive job = true :=
  (jobActive_iff service job).mpr ⟨_, h.active, h.uncompleted⟩

theorem Connecting.connectRank {service : Service} {job : Nat} {phase : JobPhase}
    (h : service.Connecting job phase) : service.connectRank = phase.rank := by
  simp [Service.connectRank, h.current, h.active]

theorem Safe.connecting {service : Service} (hsafe : service.Safe)
    (hstate : service.data.state = .connecting) {job : Nat}
    (hactive : service.jobActive job = true) : ∃ phase, service.Connecting job phase := by
  obtain ⟨⟨phase, cancelled⟩, hjob, hphase⟩ := (jobActive_iff service job).mp hactive
  have h := hsafe.active job _ hjob hphase
  rcases h.state with ⟨-, hcancelled⟩ | ⟨hstopping, -⟩
  · refine ⟨phase, hstate, h.current, ?_, hphase⟩
    rw [hjob]
    simpa using hcancelled
  · simp [hstate] at hstopping

/-- One segment of the connecting job: it ends, or it is nearer to its end, or
it suspends once more where it was. -/
theorem Safe.runJob_connects {service : Service} (hsafe : service.Safe) {job : Nat}
    {phase : JobPhase} (h : service.Connecting job phase) {outcomes : List Outcome} (waits : Bool)
    (huncancelled : .throws .cancellation ∉ outcomes) :
    let next := service.runJob job outcomes waits
    Left next.data.state ∨ ∃ phase', next.Connecting job phase' ∧
      (phase'.rank < phase.rank ∨
        outcomes.head? = some .suspends ∧ phase'.rank = phase.rank) := by
  have hjobs := hsafe.active job _ h.active h.uncompleted
  have hconnects {data : Data} {result : SegmentEnd} (hadvanced : Advanced service.data data)
      (hcancellation : result ≠ .threw .cancellation)
      (hrank : ∀ point rest, result = .suspended point rest →
        (JobPhase.suspended point rest).rank < phase.rank ∨
          decide (outcomes.head? ≠ some .suspends) = false ∧
            (JobPhase.suspended point rest).rank = phase.rank) :
      let next := { service with data := data }.endSegment job waits result
      Left next.data.state ∨ ∃ phase', next.Connecting job phase' ∧
        (phase'.rank < phase.rank ∨
          outcomes.head? = some .suspends ∧ phase'.rank = phase.rank) := by
    rcases endSegment_connects h.active hadvanced waits _ hcancellation hrank with
      hleft | ⟨hstate, hcurrent, phase', hphase', huncompleted, hrank'⟩
    · exact Or.inl hleft
    · refine Or.inr ⟨phase', ⟨hstate.trans h.state, hcurrent.trans h.current, hphase',
        huncompleted⟩, ?_⟩
      simpa using hrank'
  unfold Service.runJob
  simp only [h.active]
  cases hphase : phase with
  | completed => exact absurd hphase h.uncompleted
  | dispatched body =>
      rw [hphase] at hconnects hjobs
      have hsound := segment_sound service.kind body outcomes service.data hjobs.proxy hjobs.covered
      refine hconnects hsound.advanced ?_ ?_
      · intro hthrew
        exact huncancelled (segment_cancellation hthrew)
      · intro point rest hsuspended
        have hlength := segment_suspended hsuspended
        have hpatience := point.patience_le
        refine Or.inl ?_
        simp only [JobPhase.rank]
        omega
  | suspended instruction rest =>
      rw [hphase] at hconnects hjobs
      have hsound := resume_sound service.kind false instruction rest outcomes service.data
        hjobs.proxy hjobs.covered
      refine hconnects hsound.advanced ?_ ?_
      · intro hthrew
        exact huncancelled (resume_cancellation hthrew)
      · intro point remaining hsuspended
        rcases resume_suspended hsuspended with hless | ⟨hhead, rfl, rfl⟩
        · exact Or.inl hless
        · exact Or.inr ⟨by simp [hhead], rfl⟩

theorem Safe.connect_advances {service : Service} (hsafe : service.Safe)
    (hstate : service.data.state = .connecting) (hactive : ∃ job, service.jobActive job = true)
    {event : Event} (huncancelled : event.Uncancelled) :
    LeadsTo.Advances
      (fun s => s.Safe ∧ s.data.state = .connecting ∧ ∃ job, s.jobActive job = true)
      (fun s => Left s.data.state) connectRank ConnectAwaits service event
      (service.step event) := by
  have hnext := hsafe.step event
  have hstay (hsame : service.step event = service) (hnot : ¬ service.ConnectAwaits event) :
      LeadsTo.Advances
        (fun s => s.Safe ∧ s.data.state = .connecting ∧ ∃ job, s.jobActive job = true)
        (fun s => Left s.data.state) connectRank ConnectAwaits service event
        (service.step event) := by
    rw [hsame]
    exact Or.inr ⟨⟨hsafe, hstate, hactive⟩, Or.inr ⟨Nat.le_refl _, hnot, fun _ h => h⟩⟩
  cases event with
  | onStartCommand expanded waits =>
      exact hstay (by simp [Service.step, Service.onStartCommand, hstate]) id
  | stopRunner restart msg waits => exact Or.inl (Or.inr (stopRunner_state _ _ _ _))
  | forceLoad waits =>
      refine Or.inl (Or.inr ?_)
      have hforce : service.step (.forceLoad waits) = service.stopRunner true none waits := by
        simp [Service.step, Service.forceLoad, hstate, State.canStop]
      rw [hforce]
      exact stopRunner_state _ _ _ _
  | runStop index waits =>
      exact hstay (runStop_of_stops_nil (hsafe.running (by simp [hstate])) _ _) id
  | runJob job outcomes waits =>
      by_cases hjob : service.jobActive job = true
      · obtain ⟨phase, h⟩ := hsafe.connecting hstate hjob
        rcases hsafe.runJob_connects h waits huncancelled with hleft | ⟨phase', h', hrank⟩
        · exact Or.inl hleft
        · refine Or.inr ⟨⟨hnext, h'.state, job, h'.jobActive⟩, ?_⟩
          rw [Service.step, h.connectRank, h'.connectRank]
          rcases hrank with hless | ⟨hhead, heq⟩
          · exact Or.inl hless
          · refine Or.inr ⟨heq.le, fun hawaits => hawaits.2 hhead, ?_⟩
            intro other hawaits
            cases other with
            | runJob index outcomes waits =>
                -- the same job is the current one before and after
                obtain ⟨_, hindex⟩ := hsafe.connecting hstate hawaits.1
                obtain rfl : job = index := Option.some.inj (h.current.symm.trans hindex.current)
                exact ⟨h'.jobActive, hawaits.2⟩
            | onStartCommand | stopRunner | forceLoad | runStop => exact hawaits
      · exact hstay (runJob_of_inactive hjob _ _) (fun hawaits => hjob hawaits.1)

/-! Whole runs. -/

theorem onStartCommand_of_stopped {service : Service} (hstate : service.data.state = .stopped)
    (expanded : Option ExpandedProfile) (waits : Bool) :
    (service.onStartCommand expanded waits).data.state = .stopping ∨
      (service.onStartCommand expanded waits).data.state = .stopped ∨
      (service.onStartCommand expanded waits).data.state = .connecting ∧
        (service.onStartCommand expanded waits).jobActive service.jobs.length = true := by
  have hstopping {next : Service} (h : next.data.state = .stopping ∨ next.data.state = .stopped) :
      next.data.state = .stopping ∨ next.data.state = .stopped ∨
        next.data.state = .connecting ∧ next.jobActive service.jobs.length = true :=
    h.imp_right Or.inl
  unfold onStartCommand
  simp only [hstate, ne_eq, not_true_eq_false, if_false]
  split
  · exact hstopping (stopRunner_state _ _ _ _)
  · split
    · exact hstopping (stopRunner_state _ _ _ _)
    · split
      · exact hstopping (stopRunner_state _ _ _ _)
      · refine Or.inr (Or.inr ⟨changeState_state _ _ _, ?_⟩)
        simp [changeState, jobActive]

/-- While nothing is on its way, only a command changes the state. -/
theorem Safe.step_of_settled {service : Service} (hsafe : service.Safe)
    (hstate : service.data.state = .connected ∨ service.data.state = .stopped) (event : Event) :
    (service.step event).data.state = service.data.state ∨
      (service.step event).data.state = .stopping ∨
      (service.step event).data.state = .stopped ∨
      (service.step event).data.state = .connecting ∧
        ∃ job, (service.step event).jobActive job = true := by
  have hcompleted : ∀ job, service.jobActive job ≠ true := by
    intro job hactive
    obtain ⟨current, hcurrent, hphase⟩ := (jobActive_iff service job).mp hactive
    refine hphase (hsafe.toSound.allCompleted ?_ ?_ job current hcurrent)
    · rcases hstate with h | h <;> simp [h]
    · rcases hstate with h | h <;> simp [h]
  have hstops : service.stops = [] := by
    refine hsafe.running ?_
    rcases hstate with h | h <;> simp [h]
  have hstop (restart : Bool) (msg : Option String) (waits : Bool) :
      let next := service.stopRunner restart msg waits
      next.data.state = .stopping ∨ next.data.state = .stopped ∨
        next.data.state = .connecting ∧ ∃ job, next.jobActive job = true :=
    (stopRunner_state service restart msg waits).imp_right Or.inl
  cases event with
  | stopRunner restart msg waits => exact Or.inr (hstop restart msg waits)
  | runJob job outcomes waits => exact Or.inl (by rw [Service.step, runJob_of_inactive (hcompleted job)])
  | runStop index waits => exact Or.inl (by rw [Service.step, runStop_of_stops_nil hstops])
  | forceLoad waits =>
      rcases hstate with h | h
      · have hforce : service.step (.forceLoad waits) = service.stopRunner true none waits := by
          simp [Service.step, Service.forceLoad, h, State.canStop]
        rw [hforce]
        exact Or.inr (hstop true none waits)
      · exact Or.inl (by simp [Service.step, Service.forceLoad, h])
  | onStartCommand expanded waits =>
      rcases hstate with h | h
      · exact Or.inl (by simp [Service.step, Service.onStartCommand, h])
      · rcases onStartCommand_of_stopped h expanded waits with h | h | h
        · exact Or.inr (Or.inl h)
        · exact Or.inr (Or.inr (Or.inl h))
        · exact Or.inr (Or.inr (Or.inr ⟨h.1, _, h.2⟩))

theorem steady_start (kind : ServiceKind) : (start kind).Steady :=
  ⟨safe_start kind, by simp [start], by simp [start]⟩

theorem Steady.step {service : Service} (hsteady : service.Steady) {event : Event}
    (huncancelled : event.Uncancelled) : (service.step event).Steady := by
  have hsafe := hsteady.toSafe
  have hnext := hsafe.step event
  cases hstate : service.data.state with
  | idle => exact absurd hstate hsteady.used
  | connecting =>
      rcases hsafe.connect_advances hstate (hsteady.connecting hstate) huncancelled with
        hleft | ⟨⟨-, h, hactive⟩, -⟩
      · rcases hleft with h | h | h
        all_goals exact ⟨hnext, by simp [h], by simp [h]⟩
      · exact ⟨hnext, fun _ => hactive, by simp [h]⟩
  | stopping =>
      rcases hsafe.stop_advances hstate event with h | ⟨⟨-, h⟩, -⟩
      all_goals exact ⟨hnext, by simp [h], by simp [h]⟩
  | connected | stopped =>
      rcases hsafe.step_of_settled (by simp [hstate]) event with h | h | h | ⟨h, hactive⟩
      · exact ⟨hnext, by simp [h, hstate], by simp [h, hstate]⟩
      · exact ⟨hnext, by simp [h], by simp [h]⟩
      · exact ⟨hnext, by simp [h], by simp [h]⟩
      · exact ⟨hnext, fun _ => hactive, by simp [h]⟩

/-- What is assumed of the main thread and of what it waits for: no statement of
a job throws a cancellation of its own, a suspended statement of an active job is
resumed, and a stop that is under way, the clean-up it waits for included, goes on. -/
structure Fair (kind : ServiceKind) (events : Nat → Event) : Prop where
  uncancelled : ∀ n, (events n).Uncancelled
  jobs : ∀ job n, (states step (start kind) events n).jobActive job = true →
    ∃ m, n ≤ m ∧ ∃ outcomes waits, events m = .runJob job outcomes waits ∧
      outcomes.head? ≠ some .suspends
  stops : ∀ n, (states step (start kind) events n).stops ≠ [] →
    ∃ m, n ≤ m ∧ ∃ waits, events m = .runStop 0 waits

section Runs

variable {kind : ServiceKind} {events : Nat → Event} (hfair : Fair kind events)

include hfair

theorem Fair.steady (n : Nat) : (states step (start kind) events n).Steady :=
  states_induction (steady_start kind) (fun _ n h => h.step (hfair.uncancelled n)) n

theorem Fair.connecting_leadsTo : LeadsTo (states step (start kind) events)
    (fun s => s.Safe ∧ s.data.state = .connecting ∧ ∃ job, s.jobActive job = true)
    (fun s => Left s.data.state) := by
  refine .of_rank events connectRank ConnectAwaits ?_ ?_
  · rintro n ⟨hsafe, hstate, hactive⟩
    exact hsafe.connect_advances hstate hactive (hfair.uncancelled n)
  · rintro n ⟨-, -, job, hjob⟩
    obtain ⟨m, hm, outcomes, waits, hevent, hhead⟩ := hfair.jobs job n hjob
    exact ⟨m, hm, by rw [hevent]; exact ⟨hjob, hhead⟩⟩

theorem Fair.stopping_leadsTo : LeadsTo (states step (start kind) events)
    (fun s => s.Safe ∧ s.data.state = .stopping) (fun s => s.data.state = .stopped) := by
  refine .of_rank events stopRank StopAwaits ?_ ?_
  · rintro n ⟨hsafe, hstate⟩
    exact hsafe.stop_advances hstate (events n)
  · rintro n ⟨hsafe, hstate⟩
    by_cases hactive : ∃ job, (states step (start kind) events n).jobActive job = true
    · obtain ⟨job, hjob⟩ := hactive
      obtain ⟨m, hm, outcomes, waits, hevent, -⟩ := hfair.jobs job n hjob
      exact ⟨m, hm, by rw [hevent]; exact hjob⟩
    · obtain ⟨stop, hstops, -⟩ := hsafe.stopping hstate
      obtain ⟨m, hm, waits, hevent⟩ := hfair.stops n (by rw [hstops]; simp)
      refine ⟨m, hm, ?_⟩
      rw [hevent]
      exact ⟨rfl, by simpa using hactive⟩

end Runs

/-- A stop is never lost and a start never hangs: however commands and broadcasts
come in between, a service that is stopping comes to be stopped, and at any time
it comes to be connected or stopped. -/
theorem service_settles (kind : ServiceKind) {events : Nat → Event} (hfair : Fair kind events)
    (n : Nat) :
    let service := states step (start kind) events
    ((service n).data.state = .stopping → ∃ m, n ≤ m ∧ (service m).data.state = .stopped) ∧
      ∃ m, n ≤ m ∧ ((service m).data.state = .connected ∨ (service m).data.state = .stopped) := by
  intro service
  have hstops (m : Nat) (h : (service m).data.state = .stopping) :
      ∃ k, m ≤ k ∧ (service k).data.state = .stopped :=
    hfair.stopping_leadsTo m ⟨(hfair.steady m).toSafe, h⟩
  have hsettles (m : Nat) (h : Left (service m).data.state) :
      ∃ k, m ≤ k ∧ ((service k).data.state = .connected ∨ (service k).data.state = .stopped) := by
    rcases h with h | h | h
    · exact ⟨m, Nat.le_refl m, Or.inl h⟩
    · obtain ⟨k, hk, hstopped⟩ := hstops m h
      exact ⟨k, hk, Or.inr hstopped⟩
    · exact ⟨m, Nat.le_refl m, Or.inr h⟩
  refine ⟨hstops n, ?_⟩
  have hsteady : (service n).Steady := hfair.steady n
  cases hstate : (service n).data.state with
  | idle => exact absurd hstate hsteady.used
  | connecting =>
      obtain ⟨m, hm, hleft⟩ :=
        hfair.connecting_leadsTo n ⟨hsteady.toSafe, hstate, hsteady.connecting hstate⟩
      obtain ⟨k, hk, hsettled⟩ := hsettles m hleft
      exact ⟨k, hm.trans hk, hsettled⟩
  | connected => exact hsettles n (Or.inl hstate)
  | stopping => exact hsettles n (Or.inr (Or.inl hstate))
  | stopped => exact hsettles n (Or.inr (Or.inr hstate))

/-- A start command, and then every job and the stop coroutine in turn. -/
def inTurn : Nat → Event
  | 0 => .onStartCommand (some ⟨{}, none⟩) false
  | n + 1 =>
      if n % 2 = 0 then .runStop 0 true else .runJob (Nat.unpair (n / 2)).1 [] false

theorem inTurn_fair (kind : ServiceKind) : Fair kind inTurn where
  uncancelled := by
    intro n
    cases n with
    | zero => trivial
    | succ n =>
        rw [inTurn]
        split
        · trivial
        · simp [Event.Uncancelled]
  jobs := by
    intro job n _
    refine ⟨2 * Nat.pair job n + 1 + 1, ?_, [], false, ?_, by simp⟩
    · have := Nat.right_le_pair job n
      omega
    · have hodd : (2 * Nat.pair job n + 1) % 2 ≠ 0 := by omega
      have hhalf : (2 * Nat.pair job n + 1) / 2 = Nat.pair job n := by omega
      rw [inTurn, if_neg hodd, hhalf, Nat.unpair_pair]
  stops := by
    intro n _
    refine ⟨2 * n + 1, by omega, true, ?_⟩
    rw [inTurn, if_pos (by omega)]

theorem service_settles_inTurn :
    ∃ m, 1 ≤ m ∧ ((states step (start .vpn) inTurn m).data.state = .connected ∨
      (states step (start .vpn) inTurn m).data.state = .stopped) :=
  (service_settles .vpn (inTurn_fair .vpn) 1).2

end Service

end WifiProject.Bg
