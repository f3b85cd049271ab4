import WifiProject.Aidl.ShadowsocksConnection

/-!
The state that an activity shows and the state of the service. The activity reads
the state once, when it is connected, and follows the notifications from then on.
That is enough unless the service is between telling its callbacks and assigning
the state at the moment the callback is registered: the activity then misses the
notification and reads the old state. Notifications of an earlier binder that are
still on their way are a danger of the same kind.
-/

namespace WifiProject.Aidl

open Bg Lib

namespace Link

/-- The notifications that the activity has still to be shown, the next one
first. -/
def inFlight (link : Link) : List State :=
  link.client.notifications ++ link.inbox ++ link.remote.broadcasting.toList ++ link.remote.launched

/-- What a client that starts from `state` shows in the end. -/
def outcome (link : Link) (state : State) : State := link.inFlight.getLastD state

/-- A client that is registered now and reads the state misses nothing. -/
def Level (link : Link) : LinkEvent → Prop
  | .onServiceConnected incarnation =>
      incarnation = link.remote.incarnation → link.outcome link.remote.state = link.remote.latest
  | _ => True

instance (link : Link) : (event : LinkEvent) → Decidable (link.Level event)
  | .onServiceConnected _ => inferInstanceAs (Decidable (_ → _))
  | .changeState .. | .callStateChanged | .assignState | .runLaunched | .runPosted | .runOneway
  | .die | .connect | .disconnect | .binderDied _ | .readState | .onServiceDisconnected
  | .setBandwidthTimeout _ | .receive | .dispatch => isTrue trivial

/-- What the notifications are added to: the state that is shown, or the one
about to be read. -/
def basis (link : Link) : State :=
  if link.client.reading then link.remote.state else link.client.shown

def Mirrored (link : Link) : Prop :=
  link.attached = true → link.remote.registered = true → link.outcome link.basis = link.remote.latest

section Steps

variable {link : Link}

/-- Steps that neither the notifications nor the state are touched by. -/
theorem Mirrored.frame {next : Link} (h : link.Mirrored) (hattached : next.attached = true →
      link.attached = true) (hregistered : next.remote.registered = true →
      link.remote.registered = true) (hinFlight : next.inFlight = link.inFlight)
    (hbasis : next.basis = link.basis) (hlatest : next.remote.latest = link.remote.latest) :
    next.Mirrored := by
  intro hattached' hregistered'
  rw [outcome, hinFlight, hbasis, hlatest]
  exact h (hattached hattached') (hregistered hregistered')

theorem mirrored_of_detached (hservice : link.client.service = none) : link.Mirrored := by
  intro hattached
  simp [attached_iff, hservice] at hattached

theorem Mirrored.changeState (h : link.Mirrored) (state : State) (msg : Option String)
    (nested : Bool) :
    { link with remote := link.remote.changeState state msg nested }.Mirrored := by
  unfold Remote.changeState
  split
  · exact h
  · rename_i hfree
    have hbroadcasting : link.remote.broadcasting = none := by
      simp only [Remote.busy, Bool.or_eq_true, not_or] at hfree
      simpa using hfree.1.2
    split
    · intro _ _
      simp only [outcome, inFlight, Remote.latest, Option.getD_some]
      rw [← List.append_assoc, List.getLastD_concat]
    · rename_i hlaunched
      have hlaunched' : link.remote.launched = [] := by
        simp only [Bool.or_eq_true, not_or] at hlaunched
        simpa using hlaunched.2
      intro _ hregistered
      have hregistered' : link.remote.registered = true := hregistered
      simp only [outcome, inFlight, Remote.latest, Remote.broadcast, hregistered', hlaunched',
        Option.getD_some, if_true, Option.toList_some, List.append_nil]
      rw [List.getLastD_concat]

theorem Mirrored.callStateChanged (h : link.Mirrored) : link.callStateChanged.Mirrored := by
  unfold Link.callStateChanged
  split
  · exact h
  · rename_i state hbroadcasting
    refine h.frame id id ?_ rfl rfl
    simp [inFlight, hbroadcasting]

theorem Mirrored.assignState (h : link.Mirrored) :
    { link with remote := link.remote.assignState }.Mirrored := by
  unfold Remote.assignState
  split
  · rename_i state hchanging hbroadcasting
    intro hattached hregistered
    have hbefore := h hattached hregistered
    simp only [Remote.latest, hchanging, Option.getD_some] at hbefore
    simp only [Remote.latest, Option.getD_none]
    rw [← hbefore]
    simp only [outcome, inFlight, basis]
    split
    · -- the state that is about to be read changes only if nothing is on its way
      rename_i hreading
      simp only [outcome, inFlight, basis, hreading, if_true] at hbefore
      generalize hflight : link.client.notifications ++ link.inbox ++
        link.remote.broadcasting.toList ++ link.remote.launched = flight at hbefore ⊢
      cases flight with
      | nil => rfl
      | cons first rest => rfl
    · rfl
  · exact h

theorem Mirrored.runLaunched (h : link.Mirrored) :
    { link with remote := link.remote.runLaunched }.Mirrored := by
  unfold Remote.runLaunched
  split
  · exact h
  · rename_i state launched hlaunched
    split
    · exact h
    · rename_i hfree
      have hbroadcasting : link.remote.broadcasting = none := by
        simp only [Remote.busy, Bool.or_eq_true, not_or] at hfree
        simpa using hfree.2
      intro hattached hregistered
      have hregistered' : link.remote.registered = true := hregistered
      have hbefore := h hattached hregistered'
      simp only [outcome, inFlight, basis, Remote.latest, hbroadcasting, hlaunched,
        Option.toList_none, List.append_nil] at hbefore
      simp only [outcome, inFlight, basis, Remote.latest, Remote.broadcast, hregistered', if_true,
        Option.toList_some]
      rw [List.append_assoc, List.singleton_append]
      exact hbefore

theorem Mirrored.receive (h : link.Mirrored) (hbound : Bound link.client) :
    link.receive.Mirrored := by
  unfold Link.receive
  split
  · exact h
  · rename_i state inbox hinbox
    split
    · refine h.frame id id ?_ rfl rfl
      simp [inFlight, hinbox]
    · rename_i hcallback
      apply mirrored_of_detached
      by_contra hservice
      exact hcallback (hbound.reported (hbound.service (Option.isSome_iff_ne_none.mpr hservice)))

theorem Mirrored.dispatch (h : link.Mirrored) (hreading : link.client.reading = false) :
    link.dispatch.Mirrored := by
  unfold Link.dispatch
  split
  · exact h
  · rename_i state notifications hnotifications
    intro hattached hregistered
    have hbefore := h hattached hregistered
    simp only [outcome, inFlight, basis, hreading, hnotifications, Bool.false_eq_true, if_false,
      List.cons_append, List.getLastD_cons] at hbefore
    simpa only [outcome, inFlight, basis, hreading, Bool.false_eq_true, if_false] using hbefore

/-- A registration after which nothing is missed. -/
theorem mirrored_onServiceConnected {incarnation : Nat}
    (hregistered : link.client.callbackRegistered = false)
    (hlevel : link.Level (.onServiceConnected incarnation)) :
    (link.onServiceConnected incarnation).Mirrored := by
  by_cases heq : incarnation = link.remote.incarnation
  · subst heq
    intro _ _
    have hlevel := hlevel rfl
    unfold onServiceConnected
    simp only [hregistered, Bool.false_eq_true, if_false, attached, beq_self_eq_true, if_true]
    split <;> exact hlevel
  · intro hattached
    have hdead : ¬ (some incarnation == some link.remote.incarnation) = true := by simpa using heq
    unfold onServiceConnected at hattached
    simp only [hregistered, Bool.false_eq_true, if_false, attached, hdead] at hattached

theorem Mirrored.step (h : link.Mirrored) (hbound : Bound link.client) {event : LinkEvent}
    (hlevel : link.Level event) : (link.step event).Mirrored := by
  cases event with
  | changeState state msg nested => exact h.changeState state msg nested
  | callStateChanged => exact h.callStateChanged
  | assignState => exact h.assignState
  | runLaunched => exact h.runLaunched
  | runPosted =>
      simp only [Link.step, Remote.runPosted]
      split
      · exact h
      · exact h.frame id id rfl rfl rfl
  | runOneway =>
      simp only [Link.step, Link.runOneway]
      split
      · exact h
      · rename_i call calls hcalls
        cases call with
        | stopListeningForBandwidth => exact h.frame id id rfl rfl rfl
        | unregisterCallback => exact h.frame id (by simp [Remote.receive]) rfl rfl rfl
  | die =>
      intro _ hregistered
      cases hregistered
  | connect =>
      refine whenFree_induction h fun _ => ?_
      unfold Link.connect
      split
      · exact h
      · split <;> exact h.frame id id rfl rfl rfl
  | disconnect => exact whenFree_induction h fun _ => mirrored_of_detached rfl
  | onServiceConnected incarnation =>
      simp only [Link.step]
      split
      · rename_i hguard
        simp only [Bool.and_eq_true, Bool.not_eq_eq_eq_not, Bool.not_true, decide_eq_true_eq] at hguard
        refine whenFree_induction h fun _ => mirrored_onServiceConnected ?_ hlevel
        by_contra hregistered
        simpa [hguard.1.2] using hbound.registered (by simpa using hregistered)
      · exact h
  | readState =>
      simp only [Link.step]
      split
      · rename_i hreading
        intro hattached hregistered
        have hbefore := h hattached hregistered
        have hattached' : link.attached = true := hattached
        simp only [outcome, inFlight, basis, hreading, if_true] at hbefore
        simpa only [readState, outcome, inFlight, basis, hattached', if_true, Bool.false_eq_true,
          if_false] using hbefore
      · exact h
  | onServiceDisconnected =>
      simp only [Link.step]
      split
      · exact whenFree_induction h fun _ => mirrored_of_detached rfl
      · exact h
  | binderDied incarnation =>
      simp only [Link.step]
      split
      · exact mirrored_of_detached rfl
      · exact h
  | setBandwidthTimeout value =>
      refine whenFree_induction h fun _ => ?_
      unfold Link.setBandwidthTimeout
      split
      · split <;> exact h.frame id id rfl rfl rfl
      · refine h.frame ?_ ?_ ?_ ?_ ?_
        · intro hattached
          exact (send_attached _).symm.trans hattached
        · intro hregistered
          rwa [send_remote] at hregistered
        · simp [inFlight]
        · simp [basis]
        · simp
  | receive => exact h.receive hbound
  | dispatch => exact whenFree_induction h fun hreading => h.dispatch hreading

end Steps

/-- The activity agrees with the service: while it is registered, the last of the
notifications on their way to it, or what it shows if there is none, is the state
of the service, one that is being assigned included. -/
theorem state_mirrored {events : List LinkEvent} (hlevel : Along step Level ({} : Link) events) :
    let link := ({} : Link).run events
    link.attached = true → link.remote.registered = true → link.client.reading = false →
      link.outcome link.client.shown = link.remote.latest ∧
        (link.inFlight = [] → link.remote.changing = none →
          link.client.shown = link.remote.state) := by
  intro link hattached hregistered hreading
  have hlink : Bound link.client ∧ link.Mirrored := by
    refine hlevel.induction (fun link => Bound link.client ∧ link.Mirrored) ?_ ?_
    · exact ⟨bound_init, mirrored_of_detached rfl⟩
    · rintro link event ⟨hbound, hmirrored⟩ hlevel
      exact ⟨hbound.step event, hmirrored.step hbound hlevel⟩
  have hmirrored := hlink.2 hattached hregistered
  simp only [basis, hreading, Bool.false_eq_true, if_false] at hmirrored
  refine ⟨hmirrored, fun hempty hchanging => ?_⟩
  simpa [outcome, hempty, Remote.latest, hchanging] using hmirrored

/-- The service connects while the activity watches, and the broadcast of its
second change has to wait. -/
def watched : List LinkEvent :=
  [.connect, .onServiceConnected 0, .readState, .changeState .connecting none false,
    .callStateChanged, .assignState, .changeState .connected none true, .assignState, .receive,
    .runLaunched, .dispatch, .callStateChanged, .receive, .dispatch]

theorem state_mirrored_watched :
    let link := ({} : Link).run watched
    link.client.shown = link.remote.state ∧ link.remote.state = .connected := by
  have h := @state_mirrored watched (by decide) (by decide) (by decide) (by decide)
  exact ⟨h.2 (by decide) (by decide), by decide⟩

-- registered between the broadcast and the assignment
example : let link := ({} : Link).run [.connect, .changeState .connecting none false,
      .onServiceConnected 0, .readState, .assignState]
    (link.inFlight, link.client.shown, link.remote.state) = ([], .stopped, .connecting) := by
  decide

end Link

end WifiProject.Aidl
