import Mathlib.Logic.Relation
import Mathlib.Data.List.Basic

/-!
One guard of `GuardedProcessPool`: the looper coroutine on the main thread,
the guarded process, and the stdout threads that each send one exit code over
the rendezvous channel `exitChannel`.

A suspended `receive` goes through two stages. First it waits; when a sender
arrives the exit code is handed over and the resumption is queued for dispatch
on the main thread. A cancellation or a timeout that hits between hand-over
and dispatch makes `receive` throw, and the element is lost: this is the
documented prompt cancellation of the channel.
-/

namespace WifiProject.Bg

/-- A stdout thread: it reads the process's output and then waits for the
process, then it blocks in `send`, then it is through. -/
inductive StdoutThread where
  | reading
  | sending (exitCode : Int)
  | finished
  deriving DecidableEq, Repr

/-- The places in `looper` that receive from `exitChannel`: the loop, the wait
after SIGTERM (500 ms), the wait after `destroy` (1000 ms), and the last one,
which has no timeout. -/
inductive ReceiveSite where
  | loop
  | sigterm
  | destroyed
  | final
  deriving DecidableEq, Repr

/-- Where the looper coroutine stands. `entering` is the main thread on its
way into `receive`; the other threads keep running meanwhile. -/
inductive LooperPhase where
  | entering (site : ReceiveSite)
  | waiting (site : ReceiveSite)
  | delivered (site : ReceiveSite) (exitCode : Int)
  | restartCallback
  | done
  deriving DecidableEq, Repr

/-- The `IOException` handed to `onFatal`. -/
inductive FatalError where
  | exitsTooFast (exitCode : Int)
  | startFailed
  | callbackFailed
  deriving DecidableEq, Repr

structure GuardConfig where
  sdkInt : Nat
  hasRestartCallback : Bool
  deriving DecidableEq, Repr

/-- `process` is `none` while the process is alive and its exit code after. The
newest stdout thread is at the head. -/
structure Guard where
  process : Option Int := none
  threads : List StdoutThread
  phase : LooperPhase
  running : Bool
  cancelled : Bool := false
  fatal : Option FatalError := none
  deriving DecidableEq, Repr

/-- What follows a received exit code in the loop: the process lived less than
a second, it cannot be started again, or it is. -/
inductive RestartOutcome where
  | exitsTooFast
  | startFails
  | restarted
  deriving DecidableEq, Repr

inductive GuardEvent where
  | exit (code : Int)
  | send (thread : Nat)
  | receive (outcome : RestartOutcome)
  | dispatch (outcome : RestartOutcome)
  | timeout
  | callbackReturns
  | callbackThrows (isIoException : Bool)
  | close
  deriving DecidableEq, Repr

namespace Guard

/-- The head of the `while (true)` body: a new stdout thread, then `receive`. -/
def loopStart (guard : Guard) : Guard :=
  { guard with threads := .reading :: guard.threads, phase := .entering .loop }

/-- `GuardedProcessPool.start`: the process is up and `looper` has begun. -/
def start : Guard :=
  loopStart { threads := [], phase := .done, running := true }

/-- `process.destroy()` and what follows it in the clean-up. -/
def destroy (config : GuardConfig) (guard : Guard) : Guard :=
  if config.sdkInt ≥ 26 then { guard with phase := .entering .destroyed }
  else { guard with phase := .entering .final }

/-- The `finally` block. -/
def cleanUp (config : GuardConfig) (guard : Guard) : Guard :=
  if guard.running then
    if config.sdkInt < 24 then { guard with phase := .entering .sigterm }
    else guard.destroy config
  else { guard with phase := .done }

/-- The `catch (e: IOException)` block and then `finally`. -/
def failWith (config : GuardConfig) (error : FatalError) (guard : Guard) : Guard :=
  cleanUp config { guard with fatal := some error }

/-- The rest of the loop's body once `receive` has returned `exitCode`. -/
def restart (config : GuardConfig) (exitCode : Int) (outcome : RestartOutcome) (guard : Guard) :
    Guard :=
  let guard := { guard with running := false }
  match outcome with
  | .exitsTooFast => guard.failWith config (.exitsTooFast exitCode)
  | .startFails => guard.failWith config .startFailed
  | .restarted =>
      let guard := { guard with process := none, running := true }
      if config.hasRestartCallback then { guard with phase := .restartCallback }
      else guard.loopStart

/-- `receive` has returned at `site`: in the clean-up that is the end. -/
def received (config : GuardConfig) (site : ReceiveSite) (exitCode : Int)
    (outcome : RestartOutcome) (guard : Guard) : Guard :=
  match site with
  | .loop => guard.restart config exitCode outcome
  | _ => { guard with phase := .done }

/-- `withTimeoutOrNull` has returned null at `site`. -/
def timedOut (config : GuardConfig) (site : ReceiveSite) (guard : Guard) : Option Guard :=
  match site with
  | .sigterm => some (guard.destroy config)
  | .destroyed => some { guard with phase := .entering .final }
  | _ => none

def StdoutThread.exitCode? : StdoutThread → Option Int
  | .sending exitCode => some exitCode
  | _ => none

/-- The first blocked sender, if there is one. -/
def sender? (threads : List StdoutThread) : Option (Nat × Int) :=
  match threads.findIdx? (fun t => (StdoutThread.exitCode? t).isSome) with
  | none => none
  | some index => (threads[index]?.bind StdoutThread.exitCode?).map fun code => (index, code)

/-- One step of the guard or of its environment; `none` when the event cannot
happen in this state. `close` and the dispatched events run on the main
thread, so they do not interrupt a looper that is entering `receive`. -/
def step (config : GuardConfig) (guard : Guard) : GuardEvent → Option Guard
  | .exit code =>
      if guard.process = none then some { guard with process := some code } else none
  | .send index =>
      match guard.threads[index]?, guard.process with
      | some .reading, some code =>
          match guard.phase with
          | .waiting site =>
              some { guard with
                threads := guard.threads.set index .finished, phase := .delivered site code }
          | _ => some { guard with threads := guard.threads.set index (.sending code) }
      | _, _ => none
  | .receive outcome =>
      match guard.phase with
      | .entering site =>
          match sender? guard.threads with
          | some (index, code) =>
              some (received config site code outcome
                { guard with threads := guard.threads.set index .finished })
          | none => some { guard with phase := .waiting site }
      | _ => none
  | .dispatch outcome =>
      match guard.phase with
      | .delivered site code =>
          if site = .loop ∧ guard.cancelled = true then some (guard.cleanUp config)
          else some (guard.received config site code outcome)
      | _ => none
  | .timeout =>
      match guard.phase with
      | .waiting site => guard.timedOut config site
      | .delivered site _ => guard.timedOut config site
      | _ => none
  | .callbackReturns =>
      match guard.phase with
      | .restartCallback => some guard.loopStart
      | _ => none
  | .callbackThrows isIoException =>
      match guard.phase with
      | .restartCallback =>
          some (if isIoException then guard.failWith config .callbackFailed
            else guard.cleanUp config)
      | _ => none
  | .close =>
      match guard.phase with
      | .entering _ => none
      | .waiting .loop => some (cleanUp config { guard with cancelled := true })
      | .restartCallback => some (cleanUp config { guard with cancelled := true })
      | _ => some { guard with cancelled := true }

/-- One step among those that `allowed` lets happen. -/
def Step (config : GuardConfig) (allowed : Guard → GuardEvent → Prop) (guard next : Guard) : Prop :=
  ∃ event, allowed guard event ∧ guard.step config event = some next

def Reaches (config : GuardConfig) (allowed : Guard → GuardEvent → Prop) : Guard → Guard → Prop :=
  Relation.ReflTransGen (Step config allowed)

/-- A wait without timeout has somebody left to end it. -/
def WaitEnds (guard : Guard) : Prop :=
  guard.phase = .waiting .final → ∃ thread ∈ guard.threads, thread ≠ .finished

/-- The steps that do not lose an exit code: the pool is not closed while an
exit code is handed over but not yet dispatched, nor during the restart
callback; the callback does not throw; and no clean-up timeout fires between
hand-over and dispatch. -/
def Careful (guard : Guard) : GuardEvent → Prop
  | .close => (∀ code, guard.phase ≠ .delivered .loop code) ∧ guard.phase ≠ .restartCallback
  | .timeout => ∀ site code, guard.phase ≠ .delivered site code
  | .callbackThrows _ => False
  | _ => True

/-- The newest stdout thread still has its exit code to send, the others are
through. -/
def OneSender (threads : List StdoutThread) : Prop :=
  ∃ newest older, threads = newest :: older ∧ newest ≠ .finished ∧ ∀ t ∈ older, t = .finished

def NoSender (threads : List StdoutThread) : Prop :=
  ∀ t ∈ threads, t = .finished

/-- Careful steps keep the `running` flag honest: wherever the looper is about
to receive, exactly one exit code is still to come. -/
def Honest (guard : Guard) : Prop :=
  match guard.phase with
  | .entering site | .waiting site =>
      OneSender guard.threads ∧
        (site = .loop → guard.cancelled = false ∧ guard.running = true)
  | .delivered site _ =>
      NoSender guard.threads ∧
        (site = .loop → guard.cancelled = false ∧ guard.running = true)
  | .restartCallback =>
      NoSender guard.threads ∧ guard.cancelled = false ∧ guard.running = true
  | .done => True

theorem honest_start : Honest start :=
  ⟨⟨.reading, [], rfl, by simp, by simp⟩, fun _ => ⟨rfl, rfl⟩⟩

/-- Only the newest thread can be reading, and its exit code leaves none. -/
theorem OneSender.finish {threads : List StdoutThread} {index : Nat} {thread : StdoutThread}
    (h : OneSender threads) (hthread : threads[index]? = some thread) (hne : thread ≠ .finished) :
    NoSender (threads.set index .finished) := by
  obtain ⟨newest, older, rfl, _, holder⟩ := h
  cases index with
  | zero => simpa [NoSender] using holder
  | succ index =>
      have hmem : thread ∈ older := List.mem_of_getElem? (by simpa using hthread)
      exact absurd (holder thread hmem) hne

theorem OneSender.block {threads : List StdoutThread} {index : Nat} (code : Int)
    (h : OneSender threads) (hthread : threads[index]? = some .reading) :
    OneSender (threads.set index (.sending code)) := by
  obtain ⟨newest, older, rfl, _, holder⟩ := h
  cases index with
  | zero => exact ⟨.sending code, older, rfl, by simp, holder⟩
  | succ index =>
      have hmem : StdoutThread.reading ∈ older := List.mem_of_getElem? (by simpa using hthread)
      exact absurd (holder _ hmem) (by simp)

theorem NoSender.not_reading {threads : List StdoutThread} {index : Nat} (h : NoSender threads)
    (hthread : threads[index]? = some .reading) : False := by
  have hmem : StdoutThread.reading ∈ threads := List.mem_of_getElem? hthread
  exact absurd (h _ hmem) (by simp)

theorem sender?_spec {threads : List StdoutThread} {index : Nat} {code : Int}
    (h : sender? threads = some (index, code)) :
    threads[index]? = some (.sending code) := by
  unfold sender? at h
  split at h
  · cases h
  · obtain ⟨found, hfound, hpair⟩ := Option.map_eq_some_iff.mp h
    cases hpair
    obtain ⟨thread, hthread, hcode⟩ := Option.bind_eq_some_iff.mp hfound
    cases thread with
    | sending exitCode =>
        cases hcode
        exact hthread
    | reading => cases hcode
    | finished => cases hcode

theorem NoSender.sender? {threads : List StdoutThread} (h : NoSender threads) :
    sender? threads = none := by
  cases hsender : Guard.sender? threads with
  | none => rfl
  | some found =>
      obtain ⟨index, code⟩ := found
      have hmem := List.mem_of_getElem? (sender?_spec hsender)
      exact absurd (h _ hmem) (by simp)

/-- A new turn of the loop starts the one thread whose exit code is awaited. -/
theorem honest_loopStart {guard : Guard} (hnone : NoSender guard.threads)
    (hcancelled : guard.cancelled = false) (hrunning : guard.running = true) :
    Honest guard.loopStart :=
  ⟨⟨.reading, guard.threads, rfl, by simp, hnone⟩, fun _ => ⟨hcancelled, hrunning⟩⟩

theorem honest_restart {config : GuardConfig} {guard : Guard} (exitCode : Int)
    (outcome : RestartOutcome) (hnone : NoSender guard.threads)
    (hcancelled : guard.cancelled = false) :
    Honest (guard.restart config exitCode outcome) := by
  cases outcome with
  | exitsTooFast => trivial
  | startFails => trivial
  | restarted =>
      simp only [restart]
      split
      · exact ⟨hnone, hcancelled, rfl⟩
      · exact honest_loopStart hnone hcancelled rfl

theorem honest_received {config : GuardConfig} {guard : Guard} (site : ReceiveSite)
    (exitCode : Int) (outcome : RestartOutcome) (hnone : NoSender guard.threads)
    (hloop : site = .loop → guard.cancelled = false) :
    Honest (guard.received config site exitCode outcome) := by
  cases site with
  | loop => exact honest_restart exitCode outcome hnone (hloop rfl)
  | sigterm => trivial
  | destroyed => trivial
  | final => trivial

/-- The clean-up of a running process, with its exit code still to come. -/
theorem honest_cleanUp {config : GuardConfig} {guard : Guard} (hone : OneSender guard.threads) :
    Honest (guard.cleanUp config) := by
  unfold cleanUp
  split
  · split
    · exact ⟨hone, by simp⟩
    · unfold destroy
      split <;> exact ⟨hone, by simp⟩
  · trivial

theorem honest_timedOut {config : GuardConfig} {guard next : Guard} {site : ReceiveSite}
    (hone : OneSender guard.threads) (h : guard.timedOut config site = some next) :
    Honest next := by
  cases site with
  | loop => cases h
  | final => cases h
  | destroyed =>
      cases h
      exact ⟨hone, by simp⟩
  | sigterm =>
      cases h
      unfold destroy
      split <;> exact ⟨hone, by simp⟩

theorem Honest.send {config : GuardConfig} {guard next : Guard} {index : Nat}
    (hhonest : guard.Honest) (h : guard.step config (.send index) = some next) : next.Honest := by
  simp only [step] at h
  split at h
  · rename_i code hthread hprocess
    cases hphase : guard.phase with
    | entering site =>
        simp only [Honest, hphase] at hhonest
        simp only [hphase, Option.some.injEq] at h
        subst h
        simpa only [Honest, hphase] using
          And.intro (hhonest.1.block code hthread) hhonest.2
    | waiting site =>
        simp only [Honest, hphase] at hhonest
        simp only [hphase, Option.some.injEq] at h
        subst h
        exact ⟨hhonest.1.finish hthread (by simp), hhonest.2⟩
    | delivered site exitCode =>
        simp only [Honest, hphase] at hhonest
        exact (hhonest.1.not_reading hthread).elim
    | restartCallback =>
        simp only [Honest, hphase] at hhonest
        exact (hhonest.1.not_reading hthread).elim
    | done =>
        simp only [hphase, Option.some.injEq] at h
        subst h
        simp [Honest]
  · cases h

theorem Honest.receive {config : GuardConfig} {guard next : Guard} {outcome : RestartOutcome}
    (hhonest : guard.Honest) (h : guard.step config (.receive outcome) = some next) :
    next.Honest := by
  simp only [step] at h
  cases hphase : guard.phase with
  | entering site =>
      simp only [Honest, hphase] at hhonest
      simp only [hphase] at h
      cases hsender : sender? guard.threads with
      | none =>
          simp only [hsender, Option.some.injEq] at h
          subst h
          exact hhonest
      | some found =>
          obtain ⟨index, code⟩ := found
          simp only [hsender, Option.some.injEq] at h
          subst h
          have hnone := hhonest.1.finish (sender?_spec hsender) (by simp)
          exact honest_received site code outcome hnone fun hloop => (hhonest.2 hloop).1
  | waiting site => simp [hphase] at h
  | delivered site code => simp [hphase] at h
  | restartCallback => simp [hphase] at h
  | done => simp [hphase] at h

theorem Honest.dispatch {config : GuardConfig} {guard next : Guard} {outcome : RestartOutcome}
    (hhonest : guard.Honest) (h : guard.step config (.dispatch outcome) = some next) :
    next.Honest := by
  simp only [step] at h
  cases hphase : guard.phase with
  | delivered site code =>
      simp only [Honest, hphase] at hhonest
      have halive : ¬ (site = .loop ∧ guard.cancelled = true) := by
        rintro ⟨hloop, hcancelled⟩
        simp [(hhonest.2 hloop).1] at hcancelled
      simp only [hphase, if_neg halive, Option.some.injEq] at h
      subst h
      exact honest_received site code outcome hhonest.1 fun hloop => (hhonest.2 hloop).1
  | entering site => simp [hphase] at h
  | waiting site => simp [hphase] at h
  | restartCallback => simp [hphase] at h
  | done => simp [hphase] at h

/-- A careful step keeps the flag honest. -/
theorem Honest.step {config : GuardConfig} {guard next : Guard} {event : GuardEvent}
    (hhonest : guard.Honest) (hcareful : guard.Careful event)
    (h : guard.step config event = some next) : next.Honest := by
  cases event with
  | send index => exact hhonest.send h
  | receive outcome => exact hhonest.receive h
  | dispatch outcome => exact hhonest.dispatch h
  | callbackThrows isIoException => exact hcareful.elim
  | exit code =>
      simp only [Guard.step] at h
      split at h
      · cases h
        exact hhonest
      · cases h
  | timeout =>
      cases hphase : guard.phase with
      | waiting site =>
          simp only [Honest, hphase] at hhonest
          simp only [Guard.step, hphase] at h
          exact honest_timedOut hhonest.1 h
      | delivered site code => exact absurd hphase (hcareful site code)
      | entering site => simp [Guard.step, hphase] at h
      | restartCallback => simp [Guard.step, hphase] at h
      | done => simp [Guard.step, hphase] at h
  | callbackReturns =>
      cases hphase : guard.phase with
      | restartCallback =>
          simp only [Honest, hphase] at hhonest
          simp only [Guard.step, hphase, Option.some.injEq] at h
          subst h
          exact honest_loopStart hhonest.1 hhonest.2.1 hhonest.2.2
      | entering site => simp [Guard.step, hphase] at h
      | waiting site => simp [Guard.step, hphase] at h
      | delivered site code => simp [Guard.step, hphase] at h
      | done => simp [Guard.step, hphase] at h
  | close =>
      cases hphase : guard.phase with
      | entering site => simp [Guard.step, hphase] at h
      | restartCallback => exact absurd hphase hcareful.2
      | done =>
          simp only [Guard.step, hphase, Option.some.injEq] at h
          subst h
          simp [Honest]
      | waiting site =>
          simp only [Honest, hphase] at hhonest
          cases site with
          | loop =>
              simp only [Guard.step, hphase, Option.some.injEq] at h
              subst h
              exact honest_cleanUp hhonest.1
          | sigterm | destroyed | final =>
              simp only [Guard.step, hphase, Option.some.injEq] at h
              subst h
              simpa [Honest, hphase] using hhonest.1
      | delivered site code =>
          simp only [Honest, hphase] at hhonest
          cases site with
          | loop => exact absurd hphase (hcareful.1 code)
          | sigterm | destroyed | final =>
              simp only [Guard.step, hphase, Option.some.injEq] at h
              subst h
              simpa [Honest, hphase] using hhonest.1

theorem honest_of_reaches {config : GuardConfig} {guard : Guard}
    (h : Reaches config Careful start guard) : guard.Honest := by
  induction h with
  | refl => exact honest_start
  | tail _ hstep ih =>
      obtain ⟨event, hcareful, hnext⟩ := hstep
      exact ih.step hcareful hnext

/-- All steps, careful or not. -/
def Any (_ : Guard) (_ : GuardEvent) : Prop := True

theorem reaches_step {config : GuardConfig} {allowed : Guard → GuardEvent → Prop}
    {guard next final : Guard} (event : GuardEvent) (hallowed : allowed guard event)
    (h : guard.step config event = some next) (hrest : Reaches config allowed next final) :
    Reaches config allowed guard final :=
  Relation.ReflTransGen.head ⟨event, hallowed, h⟩ hrest

/-- With no sender left, a clean-up runs through its timeouts into the wait
that nobody ends. -/
theorem cleanUp_hangs {config : GuardConfig} {guard : Guard} (site : ReceiveSite)
    (hphase : guard.phase = .entering site) (hsite : site ≠ .loop)
    (hnone : NoSender guard.threads) :
    ∃ stuck, Reaches config Any guard stuck ∧ ¬ WaitEnds stuck := by
  have hwait (g : Guard) (s : ReceiveSite) (hg : g.phase = .entering s) (hn : NoSender g.threads) :
      g.step config (.receive .restarted) = some { g with phase := .waiting s } := by
    simp [step, hg, hn.sender?]
  have hfinal (g : Guard) (hg : g.phase = .entering .final) (hn : NoSender g.threads) :
      ∃ stuck, Reaches config Any g stuck ∧ ¬ WaitEnds stuck := by
    refine ⟨_, reaches_step _ trivial (hwait g .final hg hn) .refl, ?_⟩
    intro hends
    obtain ⟨thread, hmem, hne⟩ := hends rfl
    exact hne (hn thread hmem)
  have hdestroyed (g : Guard) (hg : g.phase = .entering .destroyed) (hn : NoSender g.threads) :
      ∃ stuck, Reaches config Any g stuck ∧ ¬ WaitEnds stuck := by
    obtain ⟨stuck, hreach, hstuck⟩ := hfinal { g with phase := .entering .final } rfl hn
    exact ⟨stuck, reaches_step _ trivial (hwait g .destroyed hg hn) (reaches_step .timeout trivial rfl hreach), hstuck⟩
  cases site with
  | loop => exact absurd rfl hsite
  | final => exact hfinal guard hphase hnone
  | destroyed => exact hdestroyed guard hphase hnone
  | sigterm =>
      have hrest : ∃ stuck, Reaches config Any (guard.destroy config) stuck ∧ ¬ WaitEnds stuck := by
        unfold destroy
        split
        · exact hdestroyed _ rfl hnone
        · exact hfinal _ rfl hnone
      obtain ⟨stuck, hreach, hstuck⟩ := hrest
      exact ⟨stuck, reaches_step _ trivial (hwait guard .sigterm hphase hnone)
        (reaches_step .timeout trivial rfl hreach), hstuck⟩

theorem cleanUp_running_hangs (config : GuardConfig) {guard : Guard} (hrunning : guard.running = true)
    (hnone : NoSender guard.threads) :
    ∃ stuck, Reaches config Any (guard.cleanUp config) stuck ∧ ¬ WaitEnds stuck := by
  simp only [cleanUp, hrunning, if_true]
  split
  · exact cleanUp_hangs .sigterm rfl (by simp) hnone
  · unfold destroy
    split
    · exact cleanUp_hangs .destroyed rfl (by simp) hnone
    · exact cleanUp_hangs .final rfl (by simp) hnone

/-- Every step that is not careful can end in the wait without a sender. -/
theorem careless_hangs {config : GuardConfig} {guard next : Guard} {event : GuardEvent}
    (hhonest : guard.Honest) (hcareless : ¬ guard.Careful event)
    (h : guard.step config event = some next) :
    ∃ stuck, Reaches config Any next stuck ∧ ¬ WaitEnds stuck := by
  cases event with
  | exit code => exact absurd trivial hcareless
  | send index => exact absurd trivial hcareless
  | receive outcome => exact absurd trivial hcareless
  | dispatch outcome => exact absurd trivial hcareless
  | callbackReturns => exact absurd trivial hcareless
  | timeout =>
      simp only [Careful, not_forall, not_not] at hcareless
      obtain ⟨site, code, hphase⟩ := hcareless
      simp only [Honest, hphase] at hhonest
      simp only [Guard.step, hphase] at h
      cases site with
      | loop => cases h
      | final => cases h
      | destroyed =>
          cases h
          exact cleanUp_hangs .final rfl (by simp) hhonest.1
      | sigterm =>
          cases h
          unfold destroy
          split
          · exact cleanUp_hangs .destroyed rfl (by simp) hhonest.1
          · exact cleanUp_hangs .final rfl (by simp) hhonest.1
  | callbackThrows isIoException =>
      cases hphase : guard.phase with
      | restartCallback =>
          simp only [Honest, hphase] at hhonest
          simp only [Guard.step, hphase, Option.some.injEq] at h
          subst h
          split
          · exact cleanUp_running_hangs config hhonest.2.2 hhonest.1
          · exact cleanUp_running_hangs config hhonest.2.2 hhonest.1
      | entering site => simp [Guard.step, hphase] at h
      | waiting site => simp [Guard.step, hphase] at h
      | delivered site code => simp [Guard.step, hphase] at h
      | done => simp [Guard.step, hphase] at h
  | close =>
      cases hphase : guard.phase with
      | restartCallback =>
          simp only [Honest, hphase] at hhonest
          simp only [Guard.step, hphase, Option.some.injEq] at h
          subst h
          exact cleanUp_running_hangs config hhonest.2.2 hhonest.1
      | delivered site code =>
          simp only [Honest, hphase] at hhonest
          cases site with
          | loop =>
              -- the exit code was handed over; the dispatch finds the job cancelled
              simp only [Guard.step, hphase, Option.some.injEq] at h
              subst h
              have hrunning : ({ guard with cancelled := true } : Guard).running = true :=
                (hhonest.2 rfl).2
              obtain ⟨stuck, hreach, hstuck⟩ := cleanUp_running_hangs config hrunning hhonest.1
              refine ⟨stuck, reaches_step (.dispatch .restarted) trivial ?_ hreach, hstuck⟩
              simp [Guard.step, hphase]
          | sigterm | destroyed | final => simp [Careful, hphase] at hcareless
      | entering site => simp [Guard.step, hphase] at h
      | waiting site => simp [Careful, hphase] at hcareless
      | done => simp [Careful, hphase] at hcareless

/-- As long as every step is careful, a guard that waits without timeout waits
for an exit code that is still to be sent; and careful is the least that will
do, since any other step can be followed by a wait that never ends. -/
theorem waits_end_when_careful (config : GuardConfig) :
    (∀ guard, Reaches config Careful start guard → WaitEnds guard) ∧
      ∀ guard event next, Reaches config Careful start guard → ¬ guard.Careful event →
        guard.step config event = some next →
        ∃ stuck, Reaches config Any next stuck ∧ ¬ WaitEnds stuck := by
  constructor
  · intro guard hreach hphase
    have hhonest := honest_of_reaches hreach
    simp only [Honest, hphase] at hhonest
    obtain ⟨newest, older, hthreads, hnewest, _⟩ := hhonest.1
    exact ⟨newest, by simp [hthreads], hnewest⟩
  · intro guard event next hreach hcareless h
    exact careless_hangs (honest_of_reaches hreach) hcareless h

/-- Closing the pool while the process is up: the last wait is for the exit
code of the process just killed. -/
theorem close_alive_waits_end :
    ∃ guard, Reaches ⟨30, false⟩ Careful start guard ∧ guard.phase = .waiting .final ∧
      ∃ thread ∈ guard.threads, thread ≠ .finished := by
  have hreach : Reaches ⟨30, false⟩ Careful start
      { threads := [.reading], phase := .waiting .final, running := true, cancelled := true } :=
    reaches_step (.receive .restarted) trivial rfl <|
    reaches_step .close ⟨by simp, by simp⟩ rfl <|
    reaches_step (.receive .restarted) trivial rfl <|
    reaches_step .timeout (by simp [Careful]) rfl <|
    reaches_step (.receive .restarted) trivial rfl .refl
  exact ⟨_, hreach, rfl, (waits_end_when_careful ⟨30, false⟩).1 _ hreach rfl⟩

/-- The process exits, its code is handed over, and the pool is closed before
the looper is dispatched: the clean-up waits for a code nobody will send. -/
theorem close_before_dispatch_hangs :
    ¬ ∀ (config : GuardConfig) (guard : Guard), Reaches config Any start guard → WaitEnds guard := by
  intro hall
  have hreach : Reaches ⟨30, false⟩ Any start
      { process := some 1, threads := [.finished], phase := .waiting .final, running := true,
        cancelled := true } :=
    reaches_step (.receive .restarted) trivial rfl <|
    reaches_step (.exit 1) trivial rfl <|
    reaches_step (.send 0) trivial rfl <|
    reaches_step .close trivial rfl <|
    reaches_step (.dispatch .restarted) trivial rfl <|
    reaches_step (.receive .restarted) trivial rfl <|
    reaches_step .timeout trivial rfl <|
    reaches_step (.receive .restarted) trivial rfl .refl
  obtain ⟨thread, hmem, hne⟩ := hall _ _ hreach rfl
  simp only [List.mem_singleton] at hmem
  exact hne hmem

end Guard

end WifiProject.Bg
