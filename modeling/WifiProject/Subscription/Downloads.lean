import Mathlib.Data.List.Basic
import Mathlib.Tactic.SplitIfs

/-!
One run of `SubscriptionService`: the worker of `onStartCommand` and the
downloads of `fetchJsonAsync`, whose statements come in any order. The worker may
be cancelled by the user, and everything by the end of the service.
-/

namespace WifiProject.Subscription

/-- The thread that `useCancellable` starts, which writes the temporary file. -/
inductive WriterPhase where
  | absent
  | queued
  /-- Dispatched, before it opens the file. -/
  | opening
  | writing
  | ended
  deriving DecidableEq, Repr

/-- Where a download stands; `kept` says that it is left with its file. -/
inductive FetchPhase where
  | queued
  /-- Suspended in `useCancellable`. -/
  | downloading
  | resumed (ok : Bool)
  /-- Before the main thread has counted it. -/
  | counting (kept : Bool)
  | returning (kept : Bool)
  | completed (kept : Bool)
  /-- Ended by an exception before there was a file. -/
  | failed
  /-- Ended by its cancellation. -/
  | dead
  deriving DecidableEq, Repr

/-- `file`: the temporary file exists; `response`: how the writer has ended. -/
structure Fetch where
  phase : FetchPhase := .queued
  cancelled : Bool := false
  writer : WriterPhase := .absent
  response : Option Bool := none
  counted : Bool := false
  file : Bool := false
  deriving DecidableEq, Repr

inductive WorkerPhase where
  | queued
  /-- In `awaitAll`. -/
  | waiting
  /-- Before the main thread runs the import. -/
  | finishing
  | returning
  /-- In the loop of `finally`, before the download of this index. -/
  | cleaning (next : Nat)
  | ended
  /-- Cancelled before it was dispatched. -/
  | skipped
  deriving DecidableEq, Repr

/-- `imported` has the downloads whose files went into the import. -/
structure SyncWorker where
  urls : Nat
  worker : WorkerPhase := .queued
  cancelled : Bool := false
  fetches : List Fetch := []
  imported : Option (List Nat) := none
  deriving DecidableEq, Repr

inductive DownloadEvent where
  /-- The broadcast of the notification's button. -/
  | abort
  /-- `onDestroy`. -/
  | destroy
  /-- The next statement of the worker, unless it waits. -/
  | worker
  /-- A download is dispatched; `created` says whether it gets a temporary file. -/
  | start (fetch : Nat) (created : Bool)
  /-- The next statement of a writer. -/
  | write (fetch : Nat)
  /-- A writer ends. -/
  | respond (fetch : Nat) (ok : Bool)
  /-- The next statement of a download. -/
  | resume (fetch : Nat)
  deriving DecidableEq, Repr

namespace Fetch

/-- A writer that has been dispatched goes on, and finds itself disconnected. -/
def cancel (fetch : Fetch) : Fetch :=
  match fetch.phase with
  | .completed _ | .failed | .dead => fetch
  | .downloading =>
      { fetch with
        cancelled := true
        phase := .resumed false
        writer := if fetch.writer = .queued then .ended else fetch.writer }
  | _ => { fetch with cancelled := true }

def start (created : Bool) (fetch : Fetch) : Fetch :=
  if fetch.phase = .queued then
    if fetch.cancelled ∨ created = false then { fetch with phase := .failed }
    else { fetch with phase := .downloading, file := true, writer := .queued }
  else fetch

def write (fetch : Fetch) : Fetch :=
  match fetch.writer with
  | .queued => { fetch with writer := .opening }
  | .opening => { fetch with writer := .writing, file := true }
  | _ => fetch

/-- Nobody hears of it when the download has been cancelled. -/
def respond (ok : Bool) (fetch : Fetch) : Fetch :=
  if fetch.writer = .writing ∨ fetch.writer = .opening ∧ ok = false then
    { fetch with
      writer := .ended
      response := some ok
      phase := if fetch.phase = .downloading then .resumed ok else fetch.phase }
  else fetch

/-- A cancelled coroutine resumes with the exception, whatever it was given. -/
def resume (fetch : Fetch) : Fetch :=
  match fetch.phase with
  | .resumed ok =>
      if ok ∧ fetch.cancelled = false then { fetch with phase := .counting true }
      else { fetch with phase := .counting false, file := false }
  | .counting kept =>
      if fetch.cancelled then { fetch with phase := .dead }
      else { fetch with phase := .returning kept, counted := true }
  | .returning kept =>
      if fetch.cancelled then { fetch with phase := .dead }
      else { fetch with phase := .completed kept }
  | _ => fetch

/-- What the loop of `finally` does with it. -/
def sweep (fetch : Fetch) : Fetch :=
  if fetch.phase = .completed true then { fetch with file := false } else fetch.cancel

def IsCompleted (fetch : Fetch) : Prop :=
  fetch.phase = .completed true ∨ fetch.phase = .completed false

def IsBroken (fetch : Fetch) : Prop := fetch.phase = .failed ∨ fetch.phase = .dead

instance (fetch : Fetch) : Decidable fetch.IsCompleted :=
  inferInstanceAs (Decidable (_ ∨ _))

instance (fetch : Fetch) : Decidable fetch.IsBroken :=
  inferInstanceAs (Decidable (_ ∨ _))

end Fetch

namespace SyncWorker

/-- The downloads that fulfil a condition, in the order of their URLs. -/
def which (p : Fetch → Bool) (run : SyncWorker) : List Nat :=
  (List.range run.fetches.length).filter fun fetch => (run.fetches[fetch]?.map p).getD false

def workerStep (run : SyncWorker) : SyncWorker :=
  match run.worker with
  | .queued =>
      if run.cancelled then { run with worker := .skipped }
      else { run with worker := .waiting, fetches := List.replicate run.urls {} }
  | .waiting =>
      if run.cancelled ∨ ∃ fetch ∈ run.fetches, fetch.IsBroken then
        { run with worker := .cleaning 0 }
      else if ∀ fetch ∈ run.fetches, fetch.IsCompleted then { run with worker := .finishing }
      else run
  | .finishing =>
      if run.cancelled then { run with worker := .cleaning 0 }
      else
        { run with
          worker := .returning
          imported := some (run.which fun fetch => fetch.phase = .completed true) }
  | .returning => { run with worker := .cleaning 0 }
  | .cleaning next =>
      if next < run.fetches.length then
        { run with worker := .cleaning (next + 1), fetches := run.fetches.modify next Fetch.sweep }
      else { run with worker := .ended }
  | .ended | .skipped => run

def onFetch (run : SyncWorker) (fetch : Nat) (f : Fetch → Fetch) : SyncWorker :=
  { run with fetches := run.fetches.modify fetch f }

def step (run : SyncWorker) : DownloadEvent → SyncWorker
  | .abort => if run.worker = .ended then run else { run with cancelled := true }
  | .destroy =>
      { run with
        cancelled := run.cancelled || run.worker ≠ .ended
        fetches := run.fetches.map Fetch.cancel }
  | .worker => run.workerStep
  | .start fetch created => run.onFetch fetch (Fetch.start created)
  | .write fetch => run.onFetch fetch Fetch.write
  | .respond fetch ok => run.onFetch fetch (Fetch.respond ok)
  | .resume fetch => run.onFetch fetch Fetch.resume

def run (start : SyncWorker) (events : List DownloadEvent) : SyncWorker := events.foldl step start

/-- Every coroutine and every writer has ended. -/
structure Over (run : SyncWorker) : Prop where
  worker : run.worker = .ended ∨ run.worker = .skipped
  fetches : ∀ fetch ∈ run.fetches, fetch.IsCompleted ∨ fetch.IsBroken
  writers : ∀ fetch ∈ run.fetches, fetch.writer = .absent ∨ fetch.writer = .ended

/-- The counter of the notification. -/
def counter (run : SyncWorker) : Nat := run.fetches.countP (·.counted)

end SyncWorker

/-! ## One download -/

namespace Fetch

/-- The writer has done what `kept` says. -/
def Answered (fetch : Fetch) (kept : Bool) : Prop :=
  fetch.writer = .ended ∧ fetch.response = some kept

/-- What is left of a file behind its download was put there by a writer that had
been dispatched. -/
def Accounted (fetch : Fetch) : Prop :=
  fetch.file = true → fetch.writer = .writing ∨ fetch.response ≠ none

/-- Where a download stands tells what its writer has done, unless it is cancelled. -/
def Sound (fetch : Fetch) : Prop :=
  match fetch.phase with
  | .queued => fetch.file = false ∧ fetch.counted = false
  | .downloading => fetch.cancelled = false ∧ fetch.file = true ∧ fetch.counted = false
  | .resumed ok =>
      fetch.counted = false ∧ (ok = true → fetch.Answered true ∧ fetch.file = true) ∧
        (fetch.cancelled = false → fetch.Answered ok)
  | .counting kept =>
      fetch.counted = false ∧ fetch.Accounted ∧
        (kept = true → fetch.Answered true ∧ fetch.file = true) ∧
        (fetch.cancelled = false → fetch.Answered kept ∧ fetch.file = kept)
  | .returning kept =>
      fetch.counted = true ∧ fetch.Accounted ∧
        (kept = true → fetch.Answered true ∧ fetch.file = true) ∧
        (fetch.cancelled = false → fetch.Answered kept ∧ fetch.file = kept)
  | .completed kept =>
      fetch.counted = true ∧ fetch.cancelled = false ∧ fetch.Answered kept ∧
        (fetch.file = true → kept = true)
  | .failed => fetch.file = false
  | .dead => fetch.cancelled = true ∧ fetch.Accounted

/-- The writer is there with the file, and has not answered while it is awaited. -/
structure WriterSound (fetch : Fetch) : Prop where
  waits : fetch.writer = .absent ↔ fetch.phase = .queued ∨ fetch.phase = .failed
  queued : fetch.writer = .queued → fetch.phase = .downloading

variable {fetch : Fetch}

theorem sound_cancel (h : fetch.Sound) (hw : fetch.WriterSound) :
    fetch.cancel.Sound ∧ fetch.cancel.WriterSound := by
  obtain ⟨phase, cancelled, writer, response, counted, file⟩ := fetch
  obtain ⟨hwaits, hqueued⟩ := hw
  cases phase <;> refine ⟨?_, ?_, ?_⟩ <;> grind [Fetch.cancel, Sound, Answered, Accounted]

theorem sound_start (h : fetch.Sound) (hw : fetch.WriterSound) (created : Bool) :
    (fetch.start created).Sound ∧ (fetch.start created).WriterSound := by
  obtain ⟨phase, cancelled, writer, response, counted, file⟩ := fetch
  obtain ⟨hwaits, hqueued⟩ := hw
  cases phase <;> refine ⟨?_, ?_, ?_⟩ <;> grind [Fetch.start, Sound, Answered, Accounted]

theorem sound_write (h : fetch.Sound) (hw : fetch.WriterSound) :
    fetch.write.Sound ∧ fetch.write.WriterSound := by
  obtain ⟨phase, cancelled, writer, response, counted, file⟩ := fetch
  obtain ⟨hwaits, hqueued⟩ := hw
  cases phase <;> refine ⟨?_, ?_, ?_⟩ <;> grind [Fetch.write, Sound, Answered, Accounted]

theorem sound_respond (h : fetch.Sound) (hw : fetch.WriterSound) (ok : Bool) :
    (fetch.respond ok).Sound ∧ (fetch.respond ok).WriterSound := by
  obtain ⟨phase, cancelled, writer, response, counted, file⟩ := fetch
  obtain ⟨hwaits, hqueued⟩ := hw
  cases phase <;> refine ⟨?_, ?_, ?_⟩ <;> grind [Fetch.respond, Sound, Answered, Accounted]

theorem sound_resume (h : fetch.Sound) (hw : fetch.WriterSound) :
    fetch.resume.Sound ∧ fetch.resume.WriterSound := by
  obtain ⟨phase, cancelled, writer, response, counted, file⟩ := fetch
  obtain ⟨hwaits, hqueued⟩ := hw
  cases phase <;> refine ⟨?_, ?_, ?_⟩ <;> grind [Fetch.resume, Sound, Answered, Accounted]

theorem sound_sweep (h : fetch.Sound) (hw : fetch.WriterSound) :
    fetch.sweep.Sound ∧ fetch.sweep.WriterSound := by
  unfold sweep
  split
  · rename_i hphase
    obtain ⟨phase, cancelled, writer, response, counted, file⟩ := fetch
    obtain ⟨hwaits, hqueued⟩ := hw
    refine ⟨?_, ?_, ?_⟩ <;> grind [Sound, Answered, Accounted]
  · exact sound_cancel h hw

/-- What happens to a download, whoever acts, before the worker sweeps it: what has
ended stays as it is, and who completes has the file. -/
structure Follows (fetch next : Fetch) : Prop where
  sound : next.Sound
  writerSound : next.WriterSound
  ended : fetch.IsCompleted ∨ fetch.phase = .failed → next = fetch
  fresh : ¬ fetch.IsCompleted → next.phase = .completed true → next.file = true
  cancelled : fetch.cancelled = true → next.cancelled = true

theorem follows_refl (h : fetch.Sound) (hw : fetch.WriterSound) : Follows fetch fetch where
  sound := h
  writerSound := hw
  ended _ := rfl
  fresh hnot hphase := absurd (.inl hphase) hnot
  cancelled hcancelled := hcancelled

theorem follows_cancel (h : fetch.Sound) (hw : fetch.WriterSound) :
    Follows fetch fetch.cancel where
  sound := (sound_cancel h hw).1
  writerSound := (sound_cancel h hw).2
  ended hended := by grind [Fetch.cancel, IsCompleted]
  fresh hnot hphase := by grind [Fetch.cancel, IsCompleted]
  cancelled hcancelled := by grind [Fetch.cancel]

theorem follows_start (created : Bool) (h : fetch.Sound) (hw : fetch.WriterSound) :
    Follows fetch (fetch.start created) where
  sound := (sound_start h hw created).1
  writerSound := (sound_start h hw created).2
  ended hended := by grind [Fetch.start, IsCompleted]
  fresh hnot hphase := by grind [Fetch.start, IsCompleted]
  cancelled hcancelled := by grind [Fetch.start]

theorem follows_write (h : fetch.Sound) (hw : fetch.WriterSound) : Follows fetch fetch.write where
  sound := (sound_write h hw).1
  writerSound := (sound_write h hw).2
  ended hended := by
    have hwaits := hw.waits
    grind [Fetch.write, IsCompleted, Sound, Answered]
  fresh hnot hphase := by grind [Fetch.write, IsCompleted]
  cancelled hcancelled := by grind [Fetch.write]

theorem follows_respond (ok : Bool) (h : fetch.Sound) (hw : fetch.WriterSound) :
    Follows fetch (fetch.respond ok) where
  sound := (sound_respond h hw ok).1
  writerSound := (sound_respond h hw ok).2
  ended hended := by
    have hwaits := hw.waits
    grind [Fetch.respond, IsCompleted, Sound, Answered]
  fresh hnot hphase := by grind [Fetch.respond, IsCompleted]
  cancelled hcancelled := by grind [Fetch.respond]

theorem follows_resume (h : fetch.Sound) (hw : fetch.WriterSound) :
    Follows fetch fetch.resume where
  sound := (sound_resume h hw).1
  writerSound := (sound_resume h hw).2
  ended hended := by grind [Fetch.resume, IsCompleted]
  fresh hnot hphase := by grind [Fetch.resume, IsCompleted, Sound]
  cancelled hcancelled := by grind [Fetch.resume]

/-- After the loop of `finally`, a download has no file, or it was cancelled. -/
def Swept (fetch : Fetch) : Prop :=
  fetch.IsCompleted ∧ fetch.file = false ∨ fetch.cancelled = true ∨ fetch.phase = .failed

theorem swept_sweep (h : fetch.Sound) : fetch.sweep.Swept := by
  obtain ⟨phase, cancelled, writer, response, counted, file⟩ := fetch
  cases phase with
  | completed kept =>
      left
      cases kept <;> cases file <;> grind [Fetch.sweep, Fetch.cancel, IsCompleted, Sound]
  | failed => exact .inr (.inr rfl)
  | dead => exact .inr (.inl h.1)
  | _ => exact .inr (.inl rfl)

theorem Follows.swept {next : Fetch} (h : Follows fetch next) (hswept : fetch.Swept) :
    next.Swept := by
  rcases hswept with ⟨hcompleted, hfile⟩ | hcancelled | hfailed
  · rw [h.ended (.inl hcompleted)]
    exact .inl ⟨hcompleted, hfile⟩
  · exact .inr (.inl (h.cancelled hcancelled))
  · rw [h.ended (.inr hfailed)]
    exact .inr (.inr hfailed)

theorem sweep_phase (h : fetch.IsCompleted ∨ fetch.phase = .failed) :
    fetch.sweep.phase = fetch.phase := by
  grind [Fetch.sweep, Fetch.cancel, IsCompleted]

end Fetch

/-! ## The worker -/

namespace SyncWorker

variable {run : SyncWorker}

/-- The worker has not given up yet. -/
def Hopes (run : SyncWorker) : Prop :=
  run.worker = .waiting ∨ run.worker = .finishing ∨ run.worker = .returning

/-- The worker cleans up, or has done so. -/
def Leaves (run : SyncWorker) : Prop := (∃ next, run.worker = .cleaning next) ∨ run.worker = .ended

/-- The loop of `finally` has passed this download. -/
def Passed (run : SyncWorker) (fetch : Nat) : Prop :=
  (∃ next, run.worker = .cleaning next ∧ fetch < next) ∨ run.worker = .ended

structure Inv (run : SyncWorker) : Prop where
  sound : ∀ fetch ∈ run.fetches, fetch.Sound
  writerSound : ∀ fetch ∈ run.fetches, fetch.WriterSound
  launched : run.fetches.length =
    if run.worker = .queued ∨ run.worker = .skipped then 0 else run.urls
  untouched : run.cancelled = false → run.Hopes → ∀ fetch ∈ run.fetches, fetch.cancelled = false
  completed : run.worker = .finishing ∨ run.imported ≠ none →
    ∀ fetch ∈ run.fetches, fetch.IsCompleted
  files : ∀ (i : Nat) (fetch : Fetch), run.fetches[i]? = some fetch →
    fetch.phase = .completed true → ¬ run.Passed i → fetch.file = true
  swept : ∀ (i : Nat) (fetch : Fetch), run.fetches[i]? = some fetch → run.Passed i → fetch.Swept
  imported : ∀ kept ∈ run.imported, kept = run.which fun fetch => fetch.phase = .completed true
  reached : run.imported ≠ none → run.worker = .returning ∨ run.Leaves
  returned : run.worker = .returning → run.imported ≠ none
  givenUp : run.Leaves → run.imported = none →
    run.cancelled = true ∨ ∃ fetch ∈ run.fetches, fetch.phase = .failed
  skipped : run.worker = .skipped → run.cancelled = true

theorem inv_start (urls : Nat) : Inv { urls } := by
  constructor <;> simp [Hopes, Leaves, Passed]

theorem Inv.cancelled (h : run.Inv) : Inv { run with cancelled := true } where
  sound := h.sound
  writerSound := h.writerSound
  launched := h.launched
  untouched hfalse := by simp at hfalse
  completed := h.completed
  files := h.files
  swept := h.swept
  imported := h.imported
  reached := h.reached
  returned := h.returned
  givenUp _ _ := .inl rfl
  skipped _ := rfl

theorem Inv.follows (h : run.Inv) {f : Nat → Fetch → Fetch}
    (hf : ∀ i fetch, fetch.Sound → fetch.WriterSound → Fetch.Follows fetch (f i fetch))
    (huntouched : run.cancelled = false → run.Hopes →
      ∀ i fetch, (f i fetch).cancelled = fetch.cancelled) :
    Inv { run with fetches := run.fetches.mapIdx f } := by
  have hfollows : ∀ (i : Nat) (fetch : Fetch), run.fetches[i]? = some fetch →
      Fetch.Follows fetch (f i fetch) := by
    intro i fetch hfetch
    have hmem := List.mem_of_getElem? hfetch
    exact hf i fetch (h.sound fetch hmem) (h.writerSound fetch hmem)
  have hat : ∀ (i : Nat) (next : Fetch), (run.fetches.mapIdx f)[i]? = some next →
      ∃ fetch, run.fetches[i]? = some fetch ∧ f i fetch = next := by
    intro i next hnext
    simpa [List.getElem?_mapIdx] using hnext
  have hof : ∀ next ∈ run.fetches.mapIdx f, ∃ i fetch, run.fetches[i]? = some fetch ∧
      f i fetch = next := by
    intro next hnext
    obtain ⟨i, hi⟩ := List.getElem?_of_mem hnext
    exact ⟨i, hat i next hi⟩
  have hsame : run.worker = .finishing ∨ run.imported ≠ none →
      run.fetches.mapIdx f = run.fetches := by
    intro hcompleted
    apply List.ext_getElem?
    intro i
    rw [List.getElem?_mapIdx]
    cases hfetch : run.fetches[i]? with
    | none => rfl
    | some fetch =>
        have hdone := h.completed hcompleted fetch (List.mem_of_getElem? hfetch)
        simp [(hfollows i fetch hfetch).ended (.inl hdone)]
  constructor
  case sound =>
    intro next hnext
    obtain ⟨i, fetch, hfetch, rfl⟩ := hof next hnext
    exact (hfollows i fetch hfetch).sound
  case writerSound =>
    intro next hnext
    obtain ⟨i, fetch, hfetch, rfl⟩ := hof next hnext
    exact (hfollows i fetch hfetch).writerSound
  case launched =>
    rw [List.length_mapIdx]
    exact h.launched
  case untouched =>
    intro hcancelled hhopes next hnext
    obtain ⟨i, fetch, hfetch, rfl⟩ := hof next hnext
    rw [huntouched hcancelled hhopes]
    exact h.untouched hcancelled hhopes fetch (List.mem_of_getElem? hfetch)
  case completed =>
    intro hcompleted
    rw [hsame hcompleted]
    exact h.completed hcompleted
  case files =>
    intro i next hnext hphase hpassed
    obtain ⟨fetch, hfetch, rfl⟩ := hat i next hnext
    by_cases hdone : fetch.IsCompleted
    · rw [(hfollows i fetch hfetch).ended (.inl hdone)] at hphase ⊢
      exact h.files i fetch hfetch hphase hpassed
    · exact (hfollows i fetch hfetch).fresh hdone hphase
  case swept =>
    intro i next hnext hpassed
    obtain ⟨fetch, hfetch, rfl⟩ := hat i next hnext
    exact (hfollows i fetch hfetch).swept (h.swept i fetch hfetch hpassed)
  case imported =>
    intro kept hkept
    have hne : run.imported ≠ none := by
      intro hnone
      simp [hnone] at hkept
    rw [hsame (.inr hne)]
    exact h.imported kept hkept
  case reached => exact h.reached
  case returned => exact h.returned
  case givenUp =>
    intro hleaves hnone
    rcases h.givenUp hleaves hnone with hcancelled | ⟨fetch, hfetch, hfailed⟩
    · exact .inl hcancelled
    · right
      obtain ⟨i, hi⟩ := List.getElem?_of_mem hfetch
      refine ⟨f i fetch, ?_, ?_⟩
      · apply List.mem_of_getElem? (i := i)
        simp [List.getElem?_mapIdx, hi]
      · rw [(hfollows i fetch hi).ended (.inr hfailed)]
        exact hfailed
  case skipped => exact h.skipped

theorem modify_eq_mapIdx (fetches : List Fetch) (i : Nat) (f : Fetch → Fetch) :
    fetches.modify i f = fetches.mapIdx fun j fetch => if i = j then f fetch else fetch := by
  apply List.ext_getElem?
  intro j
  rw [List.getElem?_mapIdx, List.getElem?_modify]
  rfl

theorem map_eq_mapIdx (fetches : List Fetch) (f : Fetch → Fetch) :
    fetches.map f = fetches.mapIdx fun _ fetch => f fetch := by
  apply List.ext_getElem?
  intro j
  rw [List.getElem?_mapIdx, List.getElem?_map]

theorem Inv.onFetch (h : run.Inv) (i : Nat) {f : Fetch → Fetch}
    (hf : ∀ fetch : Fetch, fetch.Sound → fetch.WriterSound → Fetch.Follows fetch (f fetch))
    (hcancelled : ∀ fetch, (f fetch).cancelled = fetch.cancelled) : (run.onFetch i f).Inv := by
  unfold SyncWorker.onFetch
  rw [modify_eq_mapIdx]
  apply h.follows
  · intro j fetch hsound hwriter
    split
    · exact hf fetch hsound hwriter
    · exact Fetch.follows_refl hsound hwriter
  · intro _ _ j fetch
    split
    · exact hcancelled fetch
    · rfl

theorem isBroken_cancelled {fetch : Fetch} (h : fetch.Sound) (hbroken : fetch.IsBroken) :
    fetch.phase = .failed ∨ fetch.cancelled = true := by
  rcases hbroken with hfailed | hdead
  · exact .inl hfailed
  · right
    rw [Fetch.Sound, hdead] at h
    exact h.1

theorem Inv.length_eq (h : run.Inv) (hworker : ¬ (run.worker = .queued ∨ run.worker = .skipped)) :
    run.fetches.length = run.urls := by
  have hlaunched := h.launched
  rwa [if_neg hworker] at hlaunched

/-- The worker goes to `finally`. -/
theorem Inv.gives (h : run.Inv) (hhopes : run.Hopes)
    (hreason : run.imported ≠ none ∨ run.cancelled = true ∨
      ∃ fetch ∈ run.fetches, fetch.phase = .failed) :
    Inv { run with worker := .cleaning 0 } where
  sound := h.sound
  writerSound := h.writerSound
  launched := by
    have hlength := h.length_eq (by rcases hhopes with hw | hw | hw <;> simp [hw])
    simpa using hlength
  untouched _ hfalse := by simp [Hopes] at hfalse
  completed hcompleted := h.completed (by simpa using .inr (by simpa using hcompleted))
  files i fetch hfetch hphase _ := by
    apply h.files i fetch hfetch hphase
    rcases hhopes with hw | hw | hw <;> simp [Passed, hw]
  swept i fetch _ hpassed := by simp [Passed] at hpassed
  imported := h.imported
  reached _ := .inr (.inl ⟨0, rfl⟩)
  returned hfalse := by simp at hfalse
  givenUp _ hnone := hreason.resolve_left (by simpa using hnone)
  skipped hfalse := by simp at hfalse

theorem Inv.sweep (h : run.Inv) {next : Nat} (hworker : run.worker = .cleaning next) :
    Inv { run with
      worker := .cleaning (next + 1)
      fetches := run.fetches.modify next Fetch.sweep } := by
  have hat : ∀ (i : Nat) (after : Fetch), (run.fetches.modify next Fetch.sweep)[i]? = some after →
      ∃ fetch, run.fetches[i]? = some fetch ∧
        after = if next = i then fetch.sweep else fetch := by
    intro i after hafter
    rw [List.getElem?_modify] at hafter
    cases hfetch : run.fetches[i]? with
    | none => simp [hfetch] at hafter
    | some fetch => exact ⟨fetch, rfl, by simpa [hfetch] using hafter.symm⟩
  have hof : ∀ after ∈ run.fetches.modify next Fetch.sweep, ∃ fetch ∈ run.fetches,
      after = fetch.sweep ∨ after = fetch := by
    intro after hafter
    obtain ⟨i, hi⟩ := List.getElem?_of_mem hafter
    obtain ⟨fetch, hfetch, heq⟩ := hat i after hi
    refine ⟨fetch, List.mem_of_getElem? hfetch, ?_⟩
    split at heq
    · exact .inl heq
    · exact .inr heq
  have hboth : ∀ fetch ∈ run.fetches, fetch.sweep.Sound ∧ fetch.sweep.WriterSound := by
    intro fetch hfetch
    exact Fetch.sound_sweep (h.sound fetch hfetch) (h.writerSound fetch hfetch)
  constructor
  case sound =>
    intro after hafter
    obtain ⟨fetch, hfetch, rfl | rfl⟩ := hof after hafter
    · exact (hboth fetch hfetch).1
    · exact h.sound after hfetch
  case writerSound =>
    intro after hafter
    obtain ⟨fetch, hfetch, rfl | rfl⟩ := hof after hafter
    · exact (hboth fetch hfetch).2
    · exact h.writerSound after hfetch
  case launched =>
    have hlength := h.length_eq (by simp [hworker])
    simpa using hlength
  case untouched => simp [Hopes]
  case completed =>
    intro hcompleted after hafter
    have hall := h.completed (.inr (by simpa using hcompleted))
    obtain ⟨fetch, hfetch, rfl | rfl⟩ := hof after hafter
    · rw [Fetch.IsCompleted, Fetch.sweep_phase (.inl (hall fetch hfetch))]
      exact hall fetch hfetch
    · exact hall after hfetch
  case files =>
    intro i after hafter hphase hpassed
    obtain ⟨fetch, hfetch, rfl⟩ := hat i after hafter
    have hlt : ¬ i < next + 1 := by
      intro hlt
      exact hpassed (.inl ⟨next + 1, rfl, hlt⟩)
    rw [if_neg (by omega)] at hphase ⊢
    apply h.files i fetch hfetch hphase
    simp [Passed, hworker]
    omega
  case swept =>
    intro i after hafter hpassed
    obtain ⟨fetch, hfetch, rfl⟩ := hat i after hafter
    split
    · exact Fetch.swept_sweep (h.sound fetch (List.mem_of_getElem? hfetch))
    · apply h.swept i fetch hfetch
      simp only [Passed, hworker] at hpassed ⊢
      simp at hpassed ⊢
      omega
  case imported =>
    intro kept hkept
    have hne : run.imported ≠ none := by
      intro hnone
      simp [hnone] at hkept
    rw [h.imported kept hkept, SyncWorker.which, SyncWorker.which, List.length_modify]
    apply List.filter_congr
    intro i _
    rw [List.getElem?_modify]
    cases hfetch : run.fetches[i]? with
    | none => rfl
    | some fetch =>
        have hdone := h.completed (.inr hne) fetch (List.mem_of_getElem? hfetch)
        by_cases heq : next = i <;> simp [heq, Fetch.sweep_phase (.inl hdone)]
  case reached => exact fun _ => .inr (.inl ⟨next + 1, rfl⟩)
  case returned => simp
  case givenUp =>
    intro _ hnone
    rcases h.givenUp (.inl ⟨next, hworker⟩) hnone with hcancelled | ⟨fetch, hfetch, hfailed⟩
    · exact .inl hcancelled
    · right
      obtain ⟨i, hi⟩ := List.getElem?_of_mem hfetch
      refine ⟨if next = i then fetch.sweep else fetch, ?_, ?_⟩
      · apply List.mem_of_getElem? (i := i)
        simp [List.getElem?_modify, hi]
      · split
        · rw [Fetch.sweep_phase (.inr hfailed)]
          exact hfailed
        · exact hfailed
  case skipped => simp

theorem Inv.launch (h : run.Inv) (hworker : run.worker = .queued) :
    Inv { run with worker := .waiting, fetches := List.replicate run.urls {} } := by
  have hnone : run.imported = none := by
    by_contra hne
    rcases h.reached hne with hw | ⟨next, hw⟩ | hw <;> simp [hworker] at hw
  constructor
  case sound =>
    intro fetch hfetch
    obtain rfl := List.eq_of_mem_replicate hfetch
    exact ⟨rfl, rfl⟩
  case writerSound =>
    intro fetch hfetch
    obtain rfl := List.eq_of_mem_replicate hfetch
    constructor <;> simp
  case launched => simp
  case untouched =>
    intro _ _ fetch hfetch
    obtain rfl := List.eq_of_mem_replicate hfetch
    rfl
  case completed => simp [hnone]
  case files =>
    intro i fetch hfetch hphase
    obtain rfl := List.eq_of_mem_replicate (List.mem_of_getElem? hfetch)
    simp at hphase
  case swept => simp [Passed]
  case imported => simp [hnone]
  case reached => simp [hnone]
  case returned => simp
  case givenUp => simp [Leaves]
  case skipped => simp

/-- All downloads have been awaited. -/
theorem Inv.finish (h : run.Inv) (hworker : run.worker = .waiting)
    (hall : ∀ fetch ∈ run.fetches, fetch.IsCompleted) : Inv { run with worker := .finishing } where
  sound := h.sound
  writerSound := h.writerSound
  launched := by simpa using h.length_eq (by simp [hworker])
  untouched hcancelled _ := h.untouched hcancelled (.inl hworker)
  completed _ := hall
  files i fetch hfetch hphase _ := by
    apply h.files i fetch hfetch hphase
    simp [Passed, hworker]
  swept i fetch _ hpassed := by simp [Passed] at hpassed
  imported := h.imported
  reached hne := by
    rcases h.reached hne with hw | ⟨next, hw⟩ | hw <;> simp [hworker] at hw
  returned hfalse := by simp at hfalse
  givenUp hleaves := by simp [Leaves] at hleaves
  skipped hfalse := by simp at hfalse

theorem Inv.importAll (h : run.Inv) (hworker : run.worker = .finishing) :
    Inv { run with
      worker := .returning
      imported := some (run.which fun fetch => fetch.phase = .completed true) } where
  sound := h.sound
  writerSound := h.writerSound
  launched := by simpa using h.length_eq (by simp [hworker])
  untouched hcancelled _ := h.untouched hcancelled (.inr (.inl hworker))
  completed _ := h.completed (.inl hworker)
  files i fetch hfetch hphase _ := by
    apply h.files i fetch hfetch hphase
    simp [Passed, hworker]
  swept i fetch _ hpassed := by simp [Passed] at hpassed
  imported kept hkept := by
    obtain rfl := Option.some.inj hkept
    rfl
  reached _ := .inl rfl
  returned _ := by simp
  givenUp hleaves := by simp [Leaves] at hleaves
  skipped hfalse := by simp at hfalse

/-- The loop of `finally` is through. -/
theorem Inv.endWorker (h : run.Inv) {next : Nat} (hworker : run.worker = .cleaning next)
    (hnext : run.fetches.length ≤ next) : Inv { run with worker := .ended } where
  sound := h.sound
  writerSound := h.writerSound
  launched := by simpa using h.length_eq (by simp [hworker])
  untouched _ hfalse := by simp [Hopes] at hfalse
  completed hcompleted := h.completed (.inr (by simpa using hcompleted))
  files i fetch _ _ hpassed := by simp [Passed] at hpassed
  swept i fetch hfetch _ := by
    have hlt : i < run.fetches.length := (List.getElem?_eq_some_iff.mp hfetch).1
    exact h.swept i fetch hfetch (.inl ⟨next, hworker, by omega⟩)
  imported := h.imported
  reached _ := .inr (.inr rfl)
  returned hfalse := by simp at hfalse
  givenUp _ := h.givenUp (.inl ⟨next, hworker⟩)
  skipped hfalse := by simp at hfalse

theorem Inv.skip (h : run.Inv) (hworker : run.worker = .queued) (hcancelled : run.cancelled = true) :
    Inv { run with worker := .skipped } where
  sound := h.sound
  writerSound := h.writerSound
  launched := by
    have hlaunched := h.launched
    simp only [hworker] at hlaunched
    simpa using hlaunched
  untouched hfalse := by simp [hcancelled] at hfalse
  completed hcompleted := h.completed (.inr (by simpa using hcompleted))
  files i fetch hfetch hphase _ := by
    apply h.files i fetch hfetch hphase
    simp [Passed, hworker]
  swept i fetch _ hpassed := by simp [Passed] at hpassed
  imported := h.imported
  reached hne := by
    rcases h.reached hne with hw | ⟨next, hw⟩ | hw <;> simp [hworker] at hw
  returned hfalse := by simp at hfalse
  givenUp hleaves := by simp [Leaves] at hleaves
  skipped _ := hcancelled

theorem Inv.workerStep (h : run.Inv) : run.workerStep.Inv := by
  unfold SyncWorker.workerStep
  split
  case h_1 hworker =>
    split
    · exact h.skip hworker ‹_›
    · exact h.launch hworker
  case h_2 hworker =>
    have hhopes : run.Hopes := .inl hworker
    split
    case isTrue hreason =>
      apply h.gives hhopes
      right
      by_cases hcancelled : run.cancelled = true
      · exact .inl hcancelled
      · -- nobody else cancels a download while the worker waits
        obtain ⟨fetch, hfetch, hbroken⟩ := hreason.resolve_left hcancelled
        have huntouched := h.untouched (by simpa using hcancelled) hhopes fetch hfetch
        have hfailed := isBroken_cancelled (h.sound fetch hfetch) hbroken
        exact .inr ⟨fetch, hfetch, hfailed.resolve_right (by simp [huntouched])⟩
    case isFalse =>
      split
      · exact h.finish hworker ‹_›
      · exact h
  case h_3 hworker =>
    split
    · exact h.gives (.inr (.inl hworker)) (.inr (.inl ‹_›))
    · exact h.importAll hworker
  case h_4 hworker => exact h.gives (.inr (.inr hworker)) (.inl (h.returned hworker))
  case h_5 next hworker =>
    split
    · exact h.sweep hworker
    · exact h.endWorker hworker (by omega)
  case h_6 => exact h
  case h_7 => exact h

theorem Inv.step (h : run.Inv) (event : DownloadEvent) : (run.step event).Inv := by
  cases event with
  | abort =>
      rw [SyncWorker.step]
      split
      · exact h
      · exact h.cancelled
  | destroy =>
      rw [SyncWorker.step, map_eq_mapIdx]
      by_cases hended : run.worker = .ended
      · have hsame : (run.cancelled || decide (run.worker ≠ .ended)) = run.cancelled := by
          simp [hended]
        rw [hsame]
        apply h.follows fun _ _ => Fetch.follows_cancel
        simp [Hopes, hended]
      · have htrue : (run.cancelled || decide (run.worker ≠ .ended)) = true := by simp [hended]
        rw [htrue]
        apply h.cancelled.follows fun _ _ => Fetch.follows_cancel
        simp
  | worker => exact h.workerStep
  | start fetch created =>
      apply h.onFetch fetch (fun _ => Fetch.follows_start created)
      intro fetch
      grind [Fetch.start]
  | write fetch =>
      apply h.onFetch fetch (fun _ => Fetch.follows_write)
      intro fetch
      grind [Fetch.write]
  | respond fetch ok =>
      apply h.onFetch fetch (fun _ => Fetch.follows_respond ok)
      intro fetch
      grind [Fetch.respond]
  | resume fetch =>
      apply h.onFetch fetch (fun _ => Fetch.follows_resume)
      intro fetch
      grind [Fetch.resume]

theorem inv_run (h : run.Inv) (events : List DownloadEvent) : (run.run events).Inv := by
  induction events generalizing run with
  | nil => exact h
  | cons event events ih => exact ih (h.step event)

@[simp] theorem urls_step (event : DownloadEvent) : (run.step event).urls = run.urls := by
  cases event with
  | abort =>
      rw [SyncWorker.step]
      split <;> rfl
  | worker =>
      rw [SyncWorker.step, SyncWorker.workerStep]
      grind
  | _ => rfl

@[simp] theorem urls_run (events : List DownloadEvent) : (run.run events).urls = run.urls := by
  induction events generalizing run with
  | nil => rfl
  | cons event events ih => exact (@ih (run.step event)).trans (urls_step event)

/-- An import has the files that the downloads were given. -/
theorem Inv.import_spec (h : run.Inv) {kept : List Nat} (himported : run.imported = some kept) :
    kept = (run.which fun fetch => fetch.response = some true) ∧
      run.fetches.length = run.urls ∧ run.counter = run.urls ∧
      (run.worker = .returning → ∀ i ∈ kept, ∃ fetch ∈ run.fetches[i]?, fetch.file = true) := by
  have hne : run.imported ≠ none := by simp [himported]
  have hdone := h.completed (.inr hne)
  have hkept : kept = run.which fun fetch => fetch.phase = .completed true :=
    h.imported kept himported
  have hlength : run.fetches.length = run.urls :=
    h.length_eq (by rcases h.reached hne with hw | ⟨next, hw⟩ | hw <;> simp [hw])
  refine ⟨?_, hlength, ?_, ?_⟩
  · rw [hkept, SyncWorker.which, SyncWorker.which]
    apply List.filter_congr
    intro i _
    cases hfetch : run.fetches[i]? with
    | none => rfl
    | some fetch =>
        have hmem := List.mem_of_getElem? hfetch
        have hsound := h.sound fetch hmem
        rcases hdone fetch hmem with hphase | hphase <;>
          simp_all [Fetch.Sound, Fetch.Answered]
  · rw [SyncWorker.counter, ← hlength, List.countP_eq_length]
    intro fetch hmem
    have hsound := h.sound fetch hmem
    rcases hdone fetch hmem with hphase | hphase <;> simp_all [Fetch.Sound]
  · intro hworker i hi
    rw [hkept, SyncWorker.which, List.mem_filter] at hi
    cases hfetch : run.fetches[i]? with
    | none => simp [hfetch] at hi
    | some fetch =>
        refine ⟨fetch, rfl, h.files i fetch hfetch ?_ ?_⟩
        · simpa [hfetch] using hi.2
        · simp [Passed, hworker]

/-- Who is left with a file was cancelled, and its writer has answered. -/
theorem Inv.leftover (h : run.Inv) (hover : run.Over) {fetch : Fetch} (hfetch : fetch ∈ run.fetches)
    (hfile : fetch.file = true) : fetch.phase = .dead ∧ fetch.response ≠ none := by
  obtain ⟨i, hi⟩ := List.getElem?_of_mem hfetch
  have hended : run.worker = .ended := by
    apply hover.worker.resolve_right
    intro hskipped
    have hlaunched := h.launched
    rw [if_pos (.inr hskipped), List.length_eq_zero_iff] at hlaunched
    simp [hlaunched] at hfetch
  have hswept := h.swept i fetch hi (.inr hended)
  have hsound := h.sound fetch hfetch
  have hwriter := hover.writers fetch hfetch
  rcases hover.fetches fetch hfetch with (hphase | hphase) | hphase | hphase <;>
    simp_all [Fetch.Swept, Fetch.Sound, Fetch.Accounted, Fetch.IsCompleted]
  rcases hwriter with hwriter | hwriter <;> simpa [hwriter] using hsound

/-- Once everything has ended, what the import has read are the downloads whose
writers succeeded, all URLs have been counted, and nothing was left out but by a
cancellation or where there was no temporary file. A file outlives its run only
where the writer of a cancelled download has ended after the file was deleted. -/
theorem downloads_settle (urls : Nat) (events : List DownloadEvent) :
    let run := SyncWorker.run { urls } events
    (∀ kept ∈ run.imported, kept = (run.which fun fetch => fetch.response = some true) ∧
      run.fetches.length = urls ∧ run.counter = urls ∧
      (run.worker = .returning → ∀ i ∈ kept, ∃ fetch ∈ run.fetches[i]?, fetch.file = true)) ∧
    (run.Over → run.cancelled = false → (∀ fetch ∈ run.fetches, fetch.phase ≠ .failed) →
      run.imported ≠ none ∧ ∀ fetch ∈ run.fetches, fetch.file = false) ∧
    (run.Over → ∀ fetch ∈ run.fetches, fetch.file = true →
      fetch.phase = .dead ∧ fetch.response ≠ none) := by
  intro run
  have hinv : run.Inv := inv_run (inv_start urls) events
  have hurls : run.urls = urls := urls_run events
  refine ⟨?_, ?_, ?_⟩
  · intro kept hkept
    have hspec := hinv.import_spec hkept
    rwa [hurls] at hspec
  · intro hover hcancelled hfailed
    have hended : run.worker = .ended := by
      apply hover.worker.resolve_right
      intro hskipped
      simp [hinv.skipped hskipped] at hcancelled
    have hne : run.imported ≠ none := by
      intro hnone
      rcases hinv.givenUp (.inr hended) hnone with hfalse | ⟨fetch, hfetch, hphase⟩
      · simp [hcancelled] at hfalse
      · exact hfailed fetch hfetch hphase
    refine ⟨hne, ?_⟩
    intro fetch hfetch
    by_contra hfile
    have hdead := (hinv.leftover hover hfetch (by simpa using hfile)).1
    rcases hinv.completed (.inr hne) fetch hfetch with hphase | hphase <;> simp [hdead] at hphase
  · intro hover fetch hfetch hfile
    exact hinv.leftover hover hfetch hfile

/-- The second of two downloads fails. -/
theorem downloads_settle_one_of_two :
    let run := SyncWorker.run { urls := 2 }
      [.worker, .start 0 true, .start 1 true, .write 0, .write 0, .write 1, .respond 0 true,
        .respond 1 false, .resume 1, .resume 0, .resume 0, .resume 0, .resume 1, .resume 1,
        .worker, .worker, .worker, .worker, .worker, .worker]
    run.imported = some [0] ∧ ∀ fetch ∈ run.fetches, fetch.file = false := by
  intro run
  have hspec := downloads_settle 2 [.worker, .start 0 true, .start 1 true, .write 0, .write 0,
    .write 1, .respond 0 true, .respond 1 false, .resume 1, .resume 0, .resume 0, .resume 0,
    .resume 1, .resume 1, .worker, .worker, .worker, .worker, .worker, .worker]
  exact ⟨by decide, (hspec.2.1 ⟨by decide, by decide, by decide⟩ (by decide) (by decide)).2⟩

/-- The broadcast comes when the writer has been dispatched: it opens the file that
the download has deleted. -/
example :
    let run := SyncWorker.run { urls := 1 }
      [.worker, .start 0 true, .write 0, .abort, .worker, .worker, .worker, .resume 0, .resume 0,
        .write 0, .respond 0 false]
    run.worker = .ended ∧ run.fetches.map (·.phase) = [.dead] ∧
      run.fetches.map (·.file) = [true] := by
  decide

end SyncWorker

end WifiProject.Subscription
