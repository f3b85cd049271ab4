import WifiProject.Bg.TrafficMonitor
import WifiProject.Lib.Runs

/-!
The statistics of one `TrafficMonitor` over its life: reports of `ss-local`,
restarts of it by the guard, and `requestUpdate` calls, in any order. The
counters start from zero in every process; the monitor does not hear of
restarts.
-/

namespace WifiProject.Bg

open Lib Database

/-- `/` on `Long`s. -/
def divide (x y : Long) : Except String Long :=
  if y = 0 then .error "divide by zero" else .ok (x.sdiv y)

/-- `requestUpdate()` with divisions that throw. -/
def TrafficMonitor.checkedUpdate (now : Long) (monitor : TrafficMonitor) :
    Except String (Bool × TrafficMonitor) :=
  let delta := now - monitor.timestampLast
  let monitor := { monitor with timestampLast := now }
  if delta = 0 then .ok (false, monitor)
  else if monitor.dirty then do
    let txRate ← divide ((monitor.current.txTotal - monitor.out.txTotal) * 1000) delta
    let rxRate ← divide ((monitor.current.rxTotal - monitor.out.rxTotal) * 1000) delta
    return (true, { monitor with
      out := { monitor.current with txRate := txRate, rxRate := rxRate }
      dirty := false })
  else
    .ok (monitor.out.txRate != 0 || monitor.out.rxRate != 0,
      { monitor with out := { monitor.out with txRate := 0, rxRate := 0 } })

theorem TrafficMonitor.checkedUpdate_eq (now : Long) (monitor : TrafficMonitor) :
    monitor.checkedUpdate now = .ok (monitor.requestUpdate now) := by
  unfold checkedUpdate requestUpdate
  by_cases hdelta : now - monitor.timestampLast = 0
  · simp only [hdelta, if_true]
  · have hdivide (x : Long) : divide x (now - monitor.timestampLast) =
        .ok (x.sdiv (now - monitor.timestampLast)) := if_neg hdelta
    simp only [hdelta, if_false, hdivide]
    cases monitor.dirty with
    | true => rfl
    | false => rfl

inductive StatEvent where
  | accept (read : Option (List Byte))
  | restart
  | requestUpdate (now : Long)
  deriving DecidableEq, Repr

/-- A malformed report ends its connection and nothing else. -/
def TrafficMonitor.next (monitor : TrafficMonitor) : StatEvent → TrafficMonitor
  | .accept read =>
      match monitor.acceptInternal read with
      | .ok monitor => monitor
      | .error _ => monitor
  | .restart => monitor
  | .requestUpdate now => (monitor.requestUpdate now).2

/-- A monitor after some events. -/
def monitorAfter (events : List StatEvent) : TrafficMonitor :=
  events.foldl TrafficMonitor.next {}

/-- What went on so far, whatever the monitor made of it. -/
structure History where
  /-- the last report of this process -/
  process : Traffic := 0
  /-- the last report -/
  reported : Traffic := 0
  clock : Long := 0
  /-- the last report when the clock was last seen to have moved -/
  shown : Traffic := 0

/-- The counters of a complete report. -/
def counters : Option (List Byte) → Option Traffic
  | none => none
  | some buffer => if buffer.length = 16 then some (getLong buffer 0, getLong buffer 8) else none

def History.next (history : History) : StatEvent → History
  | .accept read =>
      match counters read with
      | none => history
      | some totals => { history with process := totals, reported := totals }
  | .restart => { history with process := 0 }
  | .requestUpdate now =>
      if now = history.clock then history
      else { history with clock := now, shown := history.reported }

def historyOf (events : List StatEvent) : History := events.foldl History.next {}

/-- No counter is below the other's, as signed numbers. -/
def AtLeast (later earlier : Traffic) : Prop :=
  earlier.1.toInt ≤ later.1.toInt ∧ earlier.2.toInt ≤ later.2.toInt

instance (later earlier : Traffic) : Decidable (AtLeast later earlier) :=
  inferInstanceAs (Decidable (_ ∧ _))

/-- Counters grow within a process, and the clock does not go back. -/
def Credible (history : History) : StatEvent → Prop
  | .accept read => ∀ totals, counters read = some totals → AtLeast totals history.process
  | .restart => True
  | .requestUpdate now => history.clock.toInt ≤ now.toInt

structure StatRun where
  events : List StatEvent
  credible : ∀ before event after, events = before ++ event :: after →
    Credible (historyOf before) event

/-- This call does not divide by zero, returns totals that are not below those
of the call before it, and no negative rate. -/
def Onward (monitor : TrafficMonitor) (now : Long) : Prop :=
  ∃ updated after, monitor.checkedUpdate now = .ok (updated, after) ∧
    AtLeast after.out.traffic monitor.out.traffic ∧
      0 ≤ after.out.txRate.toInt ∧ 0 ≤ after.out.rxRate.toInt

def NeverBackwards (events : List StatEvent) : Prop :=
  ∀ before now after, events = before ++ .requestUpdate now :: after →
    Onward (monitorAfter before) now

/-- A counter did not fall, and a thousand times its growth, in 64 bits, does
not make a negative rate. -/
def Grows (earlier later elapsed : Int) : Prop :=
  earlier ≤ later ∧ -elapsed < ((later - earlier) * 1000).bmod (2 ^ 64)

/-- A call at a later clock value finds counters that grew since the last such
call. -/
def Forward (history : History) (now : Long) : Prop :=
  now ≠ history.clock →
    Grows history.shown.1.toInt history.reported.1.toInt (now.toInt - history.clock.toInt) ∧
      Grows history.shown.2.toInt history.reported.2.toInt (now.toInt - history.clock.toInt)

/-! What one call returns. -/

section Rates

theorem tdiv_nonneg_iff {a b : Int} (hb : 0 < b) : 0 ≤ a.tdiv b ↔ -b < a := by
  constructor
  · intro h
    by_contra hle
    have hquotient : (-a).tdiv b = -(a.tdiv b) := Int.neg_tdiv a b
    have hone : 1 ≤ (-a).tdiv b := by
      rw [Int.tdiv_eq_ediv_of_nonneg (by omega)]
      exact (Int.le_ediv_iff_mul_le hb).mpr (by omega)
    omega
  · intro h
    by_cases ha : 0 ≤ a
    · exact Int.tdiv_nonneg ha hb.le
    · have hquotient : (-a).tdiv b = -(a.tdiv b) := Int.neg_tdiv a b
      have hzero : (-a).tdiv b = 0 := Int.tdiv_eq_zero_of_lt (by omega) (by omega)
      omega

theorem sdiv_nonneg_iff {x y : Long} (hy : 0 < y.toInt) :
    0 ≤ (x.sdiv y).toInt ↔ -y.toInt < x.toInt := by
  have hminus : y ≠ -1 := by
    rintro rfl
    exact absurd hy (by decide)
  rw [BitVec.toInt_sdiv_of_ne_or_ne x y (Or.inr hminus)]
  exact tdiv_nonneg_iff hy

/-- The time between two calls does not overflow. -/
theorem toInt_elapsed {now clock : Long} (hclock : 0 ≤ clock.toInt)
    (h : clock.toInt ≤ now.toInt) : (now - clock).toInt = now.toInt - clock.toInt := by
  have hnow := BitVec.two_mul_toInt_lt (x := now)
  rw [BitVec.toInt_sub]
  apply Int.bmod_eq_of_le
  · omega
  · omega

theorem rate_nonneg_iff (earlier later : Long) {now clock : Long} (hclock : 0 ≤ clock.toInt)
    (h : clock.toInt ≤ now.toInt) (hne : now ≠ clock) :
    0 ≤ (((later - earlier) * 1000).sdiv (now - clock)).toInt ↔
      -(now.toInt - clock.toInt) < ((later.toInt - earlier.toInt) * 1000).bmod (2 ^ 64) := by
  have helapsed := toInt_elapsed hclock h
  have hmoved : clock.toInt ≠ now.toInt := fun heq => hne (BitVec.toInt_inj.mp heq.symm)
  have hgrowth : ((later - earlier) * 1000).toInt =
      ((later.toInt - earlier.toInt) * 1000).bmod (2 ^ 64) := by
    have hthousand : (1000 : Long).toInt = 1000 := by decide
    rw [BitVec.toInt_mul, BitVec.toInt_sub, hthousand, Int.bmod_mul_bmod]
  rw [sdiv_nonneg_iff (by omega), helapsed, hgrowth]

end Rates

/-- The monitor agrees with what went on. -/
structure Records (monitor : TrafficMonitor) (history : History) : Prop where
  current : monitor.current.traffic = history.reported
  clock : monitor.timestampLast = history.clock
  out : monitor.out.traffic = history.shown
  clean : monitor.dirty = false → history.reported = history.shown
  started : 0 ≤ history.clock.toInt

def RatesNonneg (stats : TrafficStats) : Prop := 0 ≤ stats.txRate.toInt ∧ 0 ≤ stats.rxRate.toInt

section Steps

variable {monitor : TrafficMonitor} {history : History}

/-- A complete report is taken over; anything else leaves the monitor alone. -/
theorem next_accept (monitor : TrafficMonitor) (read : Option (List Byte)) :
    (counters read = none ∧ monitor.next (.accept read) = monitor) ∨
      ∃ totals dirty, counters read = some totals ∧
        (dirty = false → monitor.dirty = false ∧ monitor.current.traffic = totals) ∧
        monitor.next (.accept read) = { monitor with
          current := { monitor.current with txTotal := totals.1, rxTotal := totals.2 }
          dirty := dirty } := by
  cases read with
  | none => exact Or.inl ⟨rfl, rfl⟩
  | some buffer =>
      by_cases hlength : buffer.length = 16
      · right
        refine ⟨(getLong buffer 0, getLong buffer 8),
          monitor.dirty || monitor.current.txTotal != getLong buffer 0 ||
            monitor.current.rxTotal != getLong buffer 8, ?_, ?_, ?_⟩
        · simp [counters, hlength]
        · intro hdirty
          simp only [Bool.or_eq_false_iff, bne_eq_false_iff_eq] at hdirty
          exact ⟨hdirty.1.1, Prod.ext hdirty.1.2 hdirty.2⟩
        · simp only [TrafficMonitor.next, TrafficMonitor.acceptInternal, hlength, if_true]
      · left
        simp [counters, TrafficMonitor.next, TrafficMonitor.acceptInternal, hlength]

/-- What a call does: nothing without time passing, a new snapshot after a
report, and otherwise rates of zero. -/
theorem requestUpdate_cases (monitor : TrafficMonitor) (now : Long) :
    (now = monitor.timestampLast ∧ (monitor.requestUpdate now).2 = monitor) ∨
      (now ≠ monitor.timestampLast ∧ monitor.dirty = true ∧
        (monitor.requestUpdate now).2 = { monitor with
          timestampLast := now
          dirty := false
          out := { monitor.current with
            txRate := ((monitor.current.txTotal - monitor.out.txTotal) * 1000).sdiv
              (now - monitor.timestampLast)
            rxRate := ((monitor.current.rxTotal - monitor.out.rxTotal) * 1000).sdiv
              (now - monitor.timestampLast) } }) ∨
      (now ≠ monitor.timestampLast ∧ monitor.dirty = false ∧
        (monitor.requestUpdate now).2 = { monitor with
          timestampLast := now
          out := { monitor.out with txRate := 0, rxRate := 0 } }) := by
  by_cases hnow : now = monitor.timestampLast
  · left
    have hdelta : monitor.timestampLast - monitor.timestampLast = 0 := sub_self _
    refine ⟨hnow, ?_⟩
    simp only [TrafficMonitor.requestUpdate, hnow, hdelta, if_true]
  · right
    have hdelta : ¬ now - monitor.timestampLast = 0 := by
      intro hzero
      exact hnow (sub_eq_zero.mp hzero)
    unfold TrafficMonitor.requestUpdate
    simp only [hdelta, if_false]
    cases hdirty : monitor.dirty with
    | true => exact Or.inl ⟨hnow, rfl, rfl⟩
    | false => exact Or.inr ⟨hnow, rfl, rfl⟩

theorem Records.next (h : Records monitor history) {event : StatEvent}
    (hcredible : Credible history event) :
    Records (monitor.next event) (history.next event) := by
  cases event with
  | accept read =>
      rcases next_accept monitor read with ⟨hcounters, hnext⟩ | ⟨totals, dirty, hcounters, hclean, hnext⟩
      · simpa only [hnext, History.next, hcounters] using h
      · simp only [hnext, History.next, hcounters]
        refine ⟨rfl, h.clock, h.out, ?_, h.started⟩
        intro hdirty
        obtain ⟨hbefore, htotals⟩ := hclean hdirty
        rw [← htotals, h.current]
        exact h.clean hbefore
  | restart => exact ⟨h.current, h.clock, h.out, h.clean, h.started⟩
  | requestUpdate now =>
      have hstarted : 0 ≤ now.toInt := h.started.trans hcredible
      simp only [TrafficMonitor.next, History.next, ← h.clock]
      rcases requestUpdate_cases monitor now with ⟨hnow, hafter⟩ | ⟨hnow, hdirty, hafter⟩ |
        ⟨hnow, hdirty, hafter⟩
      · rw [hafter, if_pos hnow]
        exact h
      · rw [hafter, if_neg hnow]
        exact ⟨h.current, rfl, h.current, fun _ => rfl, hstarted⟩
      · rw [hafter, if_neg hnow]
        exact ⟨h.current, rfl, h.out.trans (h.clean hdirty).symm, fun _ => rfl, hstarted⟩

theorem onward_iff_after (monitor : TrafficMonitor) (now : Long) :
    Onward monitor now ↔
      AtLeast (monitor.requestUpdate now).2.out.traffic monitor.out.traffic ∧
        RatesNonneg (monitor.requestUpdate now).2.out := by
  unfold Onward
  rw [TrafficMonitor.checkedUpdate_eq]
  constructor
  · rintro ⟨updated, after, heq, hresult⟩
    rw [Except.ok.inj heq]
    exact hresult
  · rintro ⟨htotals, hrates⟩
    exact ⟨_, _, rfl, htotals, hrates⟩

theorem atLeast_refl (traffic : Traffic) : AtLeast traffic traffic := ⟨le_rfl, le_rfl⟩

/-- Counters that stay as they are grow. -/
theorem grows_refl {total elapsed : Int} (h : 0 < elapsed) : Grows total total elapsed := by
  have hzero : ((total - total) * 1000).bmod (2 ^ 64) = 0 := by
    rw [sub_self, zero_mul]
    decide
  refine ⟨le_rfl, ?_⟩
  rw [hzero]
  omega

/-- A call goes onward exactly when the counters did, if the rates shown so far
are not negative. -/
theorem Records.onward_iff (h : Records monitor history) {now : Long}
    (hclock : history.clock.toInt ≤ now.toInt) (hrates : RatesNonneg monitor.out) :
    Onward monitor now ↔ Forward history now := by
  rw [onward_iff_after]
  rcases requestUpdate_cases monitor now with ⟨hnow, hafter⟩ | ⟨hnow, hdirty, hafter⟩ |
    ⟨hnow, hdirty, hafter⟩
  · have hstill : Forward history now := fun hne => absurd (hnow.trans h.clock) hne
    simp only [hafter, atLeast_refl, hrates, hstill, and_self]
  · rw [h.clock] at hnow hafter
    have hshown : monitor.out.traffic = history.shown := h.out
    have hreported : monitor.current.traffic = history.reported := h.current
    have htx := rate_nonneg_iff monitor.out.txTotal monitor.current.txTotal h.started hclock hnow
    have hrx := rate_nonneg_iff monitor.out.rxTotal monitor.current.rxTotal h.started hclock hnow
    simp only [hafter, AtLeast, RatesNonneg, htx, hrx, Forward, Grows, hnow, ← hshown, ← hreported,
      TrafficStats.traffic, ne_eq, not_false_iff, true_imp_iff]
    exact and_and_and_comm
  · have hsame : history.shown = history.reported := (h.clean hdirty).symm
    have hmoved : 0 < now.toInt - history.clock.toInt := by
      have hne : history.clock.toInt ≠ now.toInt := fun heq =>
        hnow (h.clock ▸ BitVec.toInt_inj.mp heq.symm)
      omega
    have hforward : Forward history now := by
      intro _
      rw [hsame]
      exact ⟨grows_refl hmoved, grows_refl hmoved⟩
    have hzero : 0 ≤ (0 : Long).toInt := by decide
    simp only [hafter, hforward, iff_true]
    exact ⟨atLeast_refl monitor.out.traffic, hzero, hzero⟩

end Steps

/-- At every call the counters grew since the last call at another clock value. -/
def CountersGrow (events : List StatEvent) : Prop :=
  ∀ before now after, events = before ++ .requestUpdate now :: after →
    Forward (historyOf before) now

section Runs

variable {events : List StatEvent} {event : StatEvent}

theorem monitorAfter_concat (events : List StatEvent) (event : StatEvent) :
    monitorAfter (events ++ [event]) = (monitorAfter events).next event := by
  rw [monitorAfter, List.foldl_concat]
  rfl

theorem historyOf_concat (events : List StatEvent) (event : StatEvent) :
    historyOf (events ++ [event]) = (historyOf events).next event := by
  rw [historyOf, List.foldl_concat]
  rfl

/-- What is asked of every call. -/
theorem forall_call_concat_iff {p : List StatEvent → Long → Prop} :
    (∀ before now after, events ++ [event] = before ++ .requestUpdate now :: after → p before now) ↔
      (∀ before now after, events = before ++ .requestUpdate now :: after → p before now) ∧
        ∀ now, event = .requestUpdate now → p events now := by
  have hsplit := forall_split_concat_iff (l := events) (a := event)
    (p := fun before event => ∀ now, event = .requestUpdate now → p before now)
  constructor
  · intro h
    have hall := hsplit.mp fun before event after heq now hcall => h before now after (hcall ▸ heq)
    exact ⟨fun before now after heq => hall.1 before _ after heq now rfl, hall.2⟩
  · rintro ⟨hfront, hlast⟩ before now after heq
    have hall := hsplit.mpr ⟨fun before event after heq now hcall =>
      hfront before now after (hcall ▸ heq), hlast⟩
    exact hall before _ after heq now rfl

theorem records_run (h : ∀ before event after, events = before ++ event :: after →
    Credible (historyOf before) event) : Records (monitorAfter events) (historyOf events) := by
  induction events using List.reverseRecOn with
  | nil => exact ⟨rfl, rfl, rfl, fun _ => rfl, le_rfl⟩
  | append_singleton events event ih =>
      obtain ⟨hfront, hlast⟩ := forall_split_concat_iff.mp h
      rw [monitorAfter_concat, historyOf_concat]
      exact (ih hfront).next hlast

/-- Only calls change what is shown. -/
theorem ratesNonneg_run (h : NeverBackwards events) : RatesNonneg (monitorAfter events).out := by
  induction events using List.reverseRecOn with
  | nil => exact ⟨le_rfl, le_rfl⟩
  | append_singleton events event ih =>
      obtain ⟨hfront, hlast⟩ := forall_call_concat_iff.mp h
      rw [monitorAfter_concat]
      cases event with
      | accept read =>
          rcases next_accept (monitorAfter events) read with ⟨-, hnext⟩ | ⟨_, _, -, -, hnext⟩
          · rw [hnext]
            exact ih hfront
          · rw [hnext]
            exact ih hfront
      | restart => exact ih hfront
      | requestUpdate now => exact ((onward_iff_after _ now).mp (hlast now rfl)).2

/-- The statistics never run backwards in exactly those runs in which the
counters grew at every call. -/
theorem neverBackwards_iff_countersGrow (run : StatRun) :
    NeverBackwards run.events ↔ CountersGrow run.events := by
  obtain ⟨events, hcredible⟩ := run
  induction events using List.reverseRecOn with
  | nil =>
      constructor
      · intro _ before now after heq
        simp at heq
      · intro _ before now after heq
        simp at heq
  | append_singleton events event ih =>
      obtain ⟨hfront, hlast⟩ := forall_split_concat_iff.mp hcredible
      have hrecords := records_run hfront
      unfold NeverBackwards CountersGrow at ih ⊢
      simp only [forall_call_concat_iff]
      constructor
      · rintro ⟨honward, hcall⟩
        refine ⟨(ih hfront).mp honward, ?_⟩
        rintro now rfl
        exact (hrecords.onward_iff hlast (ratesNonneg_run honward)).mp (hcall now rfl)
      · rintro ⟨hforward, hcall⟩
        have honward := (ih hfront).mpr hforward
        refine ⟨honward, ?_⟩
        rintro now rfl
        exact (hrecords.onward_iff hlast (ratesNonneg_run honward)).mpr (hcall now rfl)

/-- Without a restart the counters of the process are those of the session. -/
structure Rising (history : History) : Prop where
  same : history.process = history.reported
  order : AtLeast history.reported history.shown
  nonneg : AtLeast history.shown 0

/-- Rates are computed in milliseconds. -/
def Small (totals : Traffic) : Prop :=
  totals.1.toInt * 1000 < 2 ^ 63 ∧ totals.2.toInt * 1000 < 2 ^ 63

theorem AtLeast.trans {first second third : Traffic} (h : AtLeast third second)
    (h' : AtLeast second first) : AtLeast third first :=
  ⟨h'.1.trans h.1, h'.2.trans h.2⟩

theorem Rising.next {history : History} (h : Rising history) (hrestart : event ≠ .restart)
    (hcredible : Credible history event) : Rising (history.next event) := by
  cases event with
  | accept read =>
      cases hread : counters read with
      | none => simpa only [History.next, hread] using h
      | some totals =>
          simp only [History.next, hread]
          have hgrown : AtLeast totals history.reported := h.same ▸ hcredible totals hread
          exact ⟨rfl, hgrown.trans h.order, h.nonneg⟩
  | restart => exact absurd rfl hrestart
  | requestUpdate now =>
      simp only [History.next]
      split
      · exact h
      · exact ⟨h.same, atLeast_refl history.reported, h.order.trans h.nonneg⟩

theorem grows_of_small {earlier later elapsed : Int} (hnonneg : 0 ≤ earlier)
    (horder : earlier ≤ later) (hsmall : later * 1000 < 2 ^ 63) (helapsed : 0 < elapsed) :
    Grows earlier later elapsed := by
  refine ⟨horder, ?_⟩
  rw [Int.bmod_eq_of_le (by omega) (by omega)]
  omega

/-- As long as `ss-local` is not restarted and the counters do not come near the
limits of a `Long`, they grow at every call. -/
theorem countersGrow_of_no_restart (run : StatRun) (hrestart : .restart ∉ run.events)
    (hsmall : ∀ before after, run.events = before ++ after → Small (historyOf before).reported) :
    CountersGrow run.events := by
  have hrising : ∀ before after, run.events = before ++ after → Rising (historyOf before) := by
    apply front_induction
    · exact ⟨rfl, atLeast_refl 0, atLeast_refl 0⟩
    · intro before event after hsplit hbefore
      have hne : event ≠ .restart := by
        rintro rfl
        apply hrestart
        rw [hsplit]
        exact List.mem_append_right _ (List.mem_cons_self ..)
      rw [historyOf_concat]
      exact hbefore.next hne (run.credible before event after hsplit)
  intro before now after heq hmoved
  have h := hrising before _ heq
  have hsmall := hsmall before _ heq
  have hclock : (historyOf before).clock.toInt ≤ now.toInt := run.credible before _ after heq
  have hne : (historyOf before).clock.toInt ≠ now.toInt := fun hsame =>
    hmoved (BitVec.toInt_inj.mp hsame.symm)
  exact ⟨grows_of_small h.nonneg.1 h.order.1 hsmall.1 (by omega),
    grows_of_small h.nonneg.2 h.order.2 hsmall.2 (by omega)⟩

/-- Reports of counters that start from zero again are taken for the session's:
`100` before the restart, `5` after it. -/
def restartEvents : List StatEvent :=
  [.accept (some [100, 0, 0, 0, 0, 0, 0, 0, 100, 0, 0, 0, 0, 0, 0, 0]), .requestUpdate 1000, .restart,
    .accept (some [5, 0, 0, 0, 0, 0, 0, 0, 5, 0, 0, 0, 0, 0, 0, 0]), .requestUpdate 2000]

theorem restartEvents_credible : ∀ before event after, restartEvents = before ++ event :: after →
    Credible (historyOf before) event := by
  have hreport (history : History) (buffer : List Byte) (totals : Traffic)
      (hread : counters (some buffer) = some totals) (h : AtLeast totals history.process) :
      Credible history (.accept (some buffer)) := by
    intro found hfound
    rw [hread, Option.some.injEq] at hfound
    exact hfound ▸ h
  simp only [restartEvents, forall_split_cons_iff]
  refine ⟨hreport _ _ (100, 100) rfl ?_, ?_, trivial, hreport _ _ (5, 5) rfl ?_, ?_,
    forall_split_nil⟩
  · decide +kernel
  · change _ ≤ _
    decide +kernel
  · decide +kernel
  · change _ ≤ _
    decide +kernel

def restartRun : StatRun where
  events := restartEvents
  credible := restartEvents_credible

theorem restartRun_runs_backwards : ¬ NeverBackwards restartRun.events := by
  intro h
  have hlast := h (restartEvents.take 4) 2000 [] rfl
  rw [onward_iff_after] at hlast
  exact absurd hlast.1.1 (by decide +kernel)

end Runs

end WifiProject.Bg
