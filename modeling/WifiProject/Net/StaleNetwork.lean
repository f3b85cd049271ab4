import WifiProject.Net.DefaultNetworkListener

/-!
Which networks the actor hands out. The callbacks of the platform run on a
thread of their own, so a `Put` may be taken from the mailbox after the `Stop`
that unregistered the callback; nothing but the order of the mailbox keeps such
a network from the next listener.
-/

namespace WifiProject.Net

open Lib

/-- The actor together with the messages it has taken since it last called
`register()`, that call's message included. -/
structure TracedActor (K L N : Type) where
  actor : NetworkActor K L N := {}
  since : List (NetworkMessage K L N) := []

namespace NetworkActor

variable {K L N : Type} [DecidableEq K]

omit [DecidableEq K] in
/-- Whether the actor calls `register()` for this message. -/
def registers (actor : NetworkActor K L N) : NetworkMessage K L N → Bool
  | .start _ _ => actor.listeners.isEmpty
  | _ => false

/-- The network that an effect hands out; the calls that a `Put` or an `Update`
makes to the listeners it finds are not counted. -/
def handedBy (message : NetworkMessage K L N) : Effect K L N → Option N
  | .completed _ value _ => some value
  | .called _ _ value =>
      match message with
      | .start _ _ => value
      | _ => none
  | .registered _ _ => none

/-- The networks handed to a listener on its `Start`, or to a `Get`, by the
message between two states. -/
def handed (message : NetworkMessage K L N) (actor next : NetworkActor K L N) : List N :=
  (next.log.take (next.log.length - actor.log.length)).filterMap (handedBy message)

end NetworkActor

namespace TracedActor

variable {K L N : Type} [DecidableEq K] [DecidableEq N]

def step (device : Device) (traced : TracedActor K L N) (message : NetworkMessage K L N) :
    Option (TracedActor K L N) :=
  (traced.actor.step device message).map fun next =>
    ⟨next, if traced.actor.registers message then [message] else traced.since ++ [message]⟩

def run (device : Device) (traced : TracedActor K L N) (messages : List (NetworkMessage K L N)) :
    Option (TracedActor K L N) :=
  messages.foldlM (step device) traced

end TracedActor

/-- There is a `Put` of this network and no `Lost` of it after that. -/
def Announced {K L N : Type} (messages : List (NetworkMessage K L N)) (network : N) : Prop :=
  ∃ before after, messages = before ++ .put network :: after ∧ .lost network ∉ after

/-- Whatever is handed out was announced since the last registration. -/
def NoStale {K L N : Type} [DecidableEq K] [DecidableEq N] (device : Device)
    (messages : List (NetworkMessage K L N)) : Prop :=
  ∀ before message after, messages = before ++ message :: after → ∀ traced next,
    TracedActor.run device {} before = some traced → traced.step device message = some next →
      ∀ network ∈ NetworkActor.handed message traced.actor next.actor, Announced next.since network

/-- No `Start` finds the map of listeners empty and a network still held. -/
def NoStraggler {K L N : Type} [DecidableEq K] [DecidableEq N] (device : Device)
    (messages : List (NetworkMessage K L N)) : Prop :=
  ∀ before key listener after, messages = before ++ .start key listener :: after →
    ∀ traced next, TracedActor.run device {} before = some traced →
      traced.step device (.start key listener) = some next →
        traced.actor.listeners.isEmpty → traced.actor.network = none

section Announced

variable {K L N : Type} {messages : List (NetworkMessage K L N)} {network : N}

theorem Announced.concat (h : Announced messages network) {message : NetworkMessage K L N}
    (hlost : message ≠ .lost network) : Announced (messages ++ [message]) network := by
  obtain ⟨before, after, rfl, hafter⟩ := h
  refine ⟨before, after ++ [message], by simp, ?_⟩
  intro hmem
  rcases List.mem_append.mp hmem with hold | hnew
  · exact hafter hold
  · exact hlost (List.mem_singleton.mp hnew).symm

theorem announced_put (messages : List (NetworkMessage K L N)) (network : N) :
    Announced (messages ++ [.put network]) network :=
  ⟨messages, [], rfl, by simp⟩

theorem not_announced_start (key : K) (listener : L) (network : N) :
    ¬ Announced [NetworkMessage.start key listener] network := by
  rintro ⟨before, after, heq, -⟩
  have hmem : NetworkMessage.put network ∈ [NetworkMessage.start key listener] := by
    rw [heq]
    simp
  simp at hmem

end Announced

section Steps

variable {K L N : Type} [DecidableEq K] [DecidableEq N] {device : Device}
  {actor next : NetworkActor K L N}

omit [DecidableEq K] [DecidableEq N] in
/-- What was handed out, by the effects that were added to the log. -/
theorem handed_of_log (message : NetworkMessage K L N) (effects : List (Effect K L N))
    (hlog : next.log = effects ++ actor.log) :
    NetworkActor.handed message actor next = effects.filterMap (NetworkActor.handedBy message) := by
  have hlength : next.log.length - actor.log.length = effects.length := by
    rw [hlog, List.length_append]
    omega
  unfold NetworkActor.handed
  rw [hlength, hlog, List.take_left]

/-- A `Start` hands out the network that is held. -/
theorem step_start_handed {key : K} {listener : L}
    (h : actor.step device (.start key listener) = some next) :
    next.network = actor.network ∧
      NetworkActor.handed (.start key listener) actor next = actor.network.toList := by
  simp only [NetworkActor.step, NetworkActor.process, Option.map_eq_some_iff] at h
  obtain ⟨handled, ⟨ready, hready, rfl⟩, rfl⟩ := h
  have hframe : ∃ registered fallback,
      ready = { actor with registered := registered, fallback := fallback } := by
    split at hready
    · exact NetworkActor.register_frame hready
    · exact ⟨actor.registered, actor.fallback, (Option.some.inj hready).symm⟩
  obtain ⟨registered, fallback, rfl⟩ := hframe
  cases hnetwork : actor.network with
  | none => exact ⟨rfl, handed_of_log _ [.registered key listener] rfl⟩
  | some network =>
      exact ⟨rfl, handed_of_log _ [.called key listener (some network), .registered key listener] rfl⟩

omit [DecidableEq K] [DecidableEq N] in
/-- The calls to all listeners are handed out by a `Start` only. -/
theorem handedBy_called {message : NetworkMessage K L N} (value : Option N)
    (listeners : List (K × L)) (hstart : ∀ key listener, message ≠ .start key listener) :
    ((listeners.map fun l => Effect.called l.1 l.2 value).reverse).filterMap
      (NetworkActor.handedBy message) = [] := by
  rw [List.filterMap_eq_nil_iff]
  intro effect heffect
  obtain ⟨l, -, rfl⟩ := List.mem_map.mp (List.mem_reverse.mp heffect)
  cases message with
  | start key listener => exact absurd rfl (hstart key listener)
  | _ => rfl

/-- A `Get` that is answered at once, too. -/
theorem step_get_handed (h : actor.step device (.get : NetworkMessage K L N) = some next) :
    next.network = actor.network ∧
      NetworkActor.handed (.get : NetworkMessage K L N) actor next = actor.network.toList := by
  simp only [NetworkActor.step, NetworkActor.process, Option.map_eq_some_iff] at h
  obtain ⟨handled, hhandled, rfl⟩ := h
  split at hhandled
  · cases hhandled
  · cases hnetwork : actor.network with
    | none =>
        simp only [hnetwork, Option.some.injEq] at hhandled
        subst hhandled
        exact ⟨rfl, handed_of_log _ [] rfl⟩
    | some held =>
        simp only [hnetwork, Option.some.injEq] at hhandled
        subst hhandled
        exact ⟨hnetwork, handed_of_log _ [.completed actor.received held actor.network] rfl⟩

theorem step_stop_handed {key : K} (h : actor.step device (.stop key) = some next) :
    (next.network = actor.network ∨ next.network = none) ∧
      NetworkActor.handed (.stop key) actor next = [] := by
  simp only [NetworkActor.step, NetworkActor.process, Option.map_eq_some_iff] at h
  obtain ⟨handled, hhandled, rfl⟩ := h
  split at hhandled
  · split at hhandled
    · cases hhandled
      exact ⟨Or.inr rfl, handed_of_log _ [] rfl⟩
    · cases hhandled
      exact ⟨Or.inl rfl, handed_of_log _ [] rfl⟩
  · cases hhandled
    exact ⟨Or.inl rfl, handed_of_log _ [] rfl⟩

/-- The requests that waited get the network that is put. -/
theorem step_put_handed {put : N} (h : actor.step device (.put put) = some next) :
    next.network = some put ∧ ∀ network ∈ NetworkActor.handed (.put put) actor next,
      network = put := by
  simp only [NetworkActor.step, NetworkActor.process, NetworkActor.callAll,
    NetworkActor.foldl_complete, NetworkActor.foldl_call, Option.map_some, Option.some.injEq] at h
  subst h
  refine ⟨rfl, fun network hhanded => ?_⟩
  rw [handed_of_log _ _ (List.append_assoc _ _ _).symm, List.filterMap_append,
    handedBy_called _ _ (by simp), List.nil_append] at hhanded
  obtain ⟨effect, heffect, hvalue⟩ := List.mem_filterMap.mp hhanded
  obtain ⟨request, -, rfl⟩ := List.mem_map.mp (List.mem_reverse.mp heffect)
  exact (Option.some.inj hvalue).symm

theorem step_update_handed {update : N} (h : actor.step device (.update update) = some next) :
    next.network = actor.network ∧ NetworkActor.handed (.update update) actor next = [] := by
  simp only [NetworkActor.step, NetworkActor.process, NetworkActor.callAll,
    NetworkActor.foldl_call, Option.map_eq_some_iff] at h
  obtain ⟨handled, hhandled, rfl⟩ := h
  split at hhandled
  · cases hhandled
    exact ⟨rfl, (handed_of_log _ _ rfl).trans (handedBy_called _ _ (by simp))⟩
  · cases hhandled
    exact ⟨rfl, handed_of_log _ [] rfl⟩

/-- A network that is lost is not held afterwards. -/
theorem step_lost_handed {lost : N} (h : actor.step device (.lost lost) = some next) :
    next.network = (if actor.network = some lost then none else actor.network) ∧
      NetworkActor.handed (.lost lost) actor next = [] := by
  simp only [NetworkActor.step, NetworkActor.process, NetworkActor.callAll,
    NetworkActor.foldl_call, Option.map_eq_some_iff] at h
  obtain ⟨handled, hhandled, rfl⟩ := h
  split at hhandled
  · rename_i hheld
    cases hhandled
    rw [if_pos hheld]
    exact ⟨rfl, (handed_of_log _ _ rfl).trans (handedBy_called _ _ (by simp))⟩
  · rename_i hother
    cases hhandled
    rw [if_neg hother]
    exact ⟨rfl, handed_of_log _ [] rfl⟩

/-- What is handed out has been put just now, or was held before. -/
theorem network_of_handed {message : NetworkMessage K L N} {network : N}
    (h : actor.step device message = some next)
    (hhanded : network ∈ NetworkActor.handed message actor next) :
    message = .put network ∨ actor.network = some network ∧ message ≠ .lost network := by
  cases message with
  | start key listener =>
      rw [(step_start_handed h).2, Option.mem_toList] at hhanded
      exact Or.inr ⟨hhanded, by simp⟩
  | get =>
      rw [(step_get_handed h).2, Option.mem_toList] at hhanded
      exact Or.inr ⟨hhanded, by simp⟩
  | stop key =>
      rw [(step_stop_handed h).2] at hhanded
      cases hhanded
  | put put =>
      rw [(step_put_handed h).2 network hhanded]
      exact Or.inl rfl
  | update update =>
      rw [(step_update_handed h).2] at hhanded
      cases hhanded
  | lost lost =>
      rw [(step_lost_handed h).2] at hhanded
      cases hhanded

/-- What is held has been put just now, or was held before and not lost. -/
theorem network_of_step {message : NetworkMessage K L N} {network : N}
    (h : actor.step device message = some next) (hnetwork : next.network = some network) :
    message = .put network ∨ actor.network = some network ∧ message ≠ .lost network := by
  cases message with
  | start key listener =>
      rw [(step_start_handed h).1] at hnetwork
      exact Or.inr ⟨hnetwork, by simp⟩
  | get =>
      rw [(step_get_handed h).1] at hnetwork
      exact Or.inr ⟨hnetwork, by simp⟩
  | stop key =>
      rcases (step_stop_handed h).1 with hsame | hnone
      · rw [hsame] at hnetwork
        exact Or.inr ⟨hnetwork, by simp⟩
      · rw [hnone] at hnetwork
        cases hnetwork
  | put put =>
      rw [(step_put_handed h).1, Option.some.injEq] at hnetwork
      rw [hnetwork]
      exact Or.inl rfl
  | update update =>
      rw [(step_update_handed h).1] at hnetwork
      exact Or.inr ⟨hnetwork, by simp⟩
  | lost lost =>
      rw [(step_lost_handed h).1] at hnetwork
      split at hnetwork
      · cases hnetwork
      · rename_i hother
        refine Or.inr ⟨hnetwork, ?_⟩
        rintro ⟨rfl⟩
        exact hother hnetwork

end Steps

namespace TracedActor

variable {K L N : Type} [DecidableEq K] [DecidableEq N] {device : Device}
  {traced next : TracedActor K L N} {message : NetworkMessage K L N}

/-- The network that is held was announced since the last registration. -/
def Fresh (traced : TracedActor K L N) : Prop :=
  ∀ network, traced.actor.network = some network → Announced traced.since network

/-- One message, unless it registers while a network is held. -/
theorem Fresh.step (hfresh : traced.Fresh) (h : traced.step device message = some next)
    (hstraggler : traced.actor.registers message → traced.actor.network = none) :
    next.Fresh ∧ ∀ network ∈ NetworkActor.handed message traced.actor next.actor,
      Announced next.since network := by
  simp only [TracedActor.step, Option.map_eq_some_iff] at h
  obtain ⟨actor, hactor, rfl⟩ := h
  -- what was put just now or held before is announced after this message
  have hannounced {network : N} (hsource : message = .put network ∨
      traced.actor.network = some network ∧ message ≠ .lost network) :
      Announced (if traced.actor.registers message then [message] else traced.since ++ [message])
        network := by
    rcases hsource with rfl | ⟨hheld, hlost⟩
    · exact announced_put traced.since network
    · rw [if_neg]
      · exact (hfresh network hheld).concat hlost
      · intro hregisters
        rw [hstraggler hregisters] at hheld
        cases hheld
  refine ⟨?_, ?_⟩
  · intro network hnetwork
    exact hannounced (network_of_step hactor hnetwork)
  · intro network hhanded
    exact hannounced (network_of_handed hactor hhanded)

theorem run_concat (traced : TracedActor K L N) (messages : List (NetworkMessage K L N)) :
    traced.run device (messages ++ [message]) =
      (traced.run device messages).bind fun traced => traced.step device message := by
  simp [run, List.foldlM_append]

end TracedActor

section Runs

variable {K L N : Type} [DecidableEq K] [DecidableEq N] {device : Device}
  {messages : List (NetworkMessage K L N)}

theorem NoStraggler.of_append {more : List (NetworkMessage K L N)}
    (h : NoStraggler device (messages ++ more)) : NoStraggler device messages := by
  intro before key listener after hsplit
  apply h before key listener (after ++ more)
  simp [hsplit]

/-- While no `Start` finds a straggler, the network that is held is fresh. -/
theorem NoStraggler.fresh (h : NoStraggler device messages) {traced : TracedActor K L N}
    (hrun : TracedActor.run device {} messages = some traced) : traced.Fresh := by
  induction messages using List.reverseRecOn generalizing traced with
  | nil =>
      cases hrun
      intro network hnetwork
      cases hnetwork
  | append_singleton messages message ih =>
      rw [TracedActor.run_concat, Option.bind_eq_some_iff] at hrun
      obtain ⟨before, hbefore, hstep⟩ := hrun
      refine ((ih h.of_append hbefore).step hstep ?_).1
      intro hregisters
      cases message with
      | start key listener => exact h messages key listener [] rfl before traced hbefore hstep hregisters
      | _ => cases hregisters

/-- The networks that are handed out are fresh exactly as long as every `Start`
that registers finds no network held. -/
theorem noStale_iff_noStraggler (device : Device) (messages : List (NetworkMessage K L N)) :
    NoStale device messages ↔ NoStraggler device messages := by
  constructor
  · intro hstale before key listener after hsplit traced next hrun hstep hempty
    have hhanded := hstale before _ after hsplit traced next hrun hstep
    simp only [TracedActor.step, Option.map_eq_some_iff] at hstep
    obtain ⟨actor, hactor, rfl⟩ := hstep
    cases hnetwork : traced.actor.network with
    | none => rfl
    | some network =>
        have hannounced := hhanded network (by simp [(step_start_handed hactor).2, hnetwork])
        have hregisters : traced.actor.registers (.start key listener) = true := hempty
        rw [if_pos hregisters] at hannounced
        exact absurd hannounced (not_announced_start key listener network)
  · intro hstraggler before message after hsplit traced next hrun hstep
    have hbefore : NoStraggler device before := by
      rw [hsplit] at hstraggler
      exact hstraggler.of_append
    refine ((hbefore.fresh hrun).step hstep ?_).2
    intro hregisters
    cases message with
    | start key listener =>
        exact hstraggler before key listener after hsplit traced next hrun hstep hregisters
    | _ => cases hregisters

end Runs

/-- A `Put` in flight is taken after the last `Stop`; the next listener is
handed its network before the new registration has announced any. -/
theorem noStale_fails_after_stop :
    ¬ NoStale (K := Nat) (L := Nat) (N := Nat) ⟨30, fun _ => true⟩
      [.start 1 7, .stop 1, .put 4, .start 2 8] := by
  intro h
  have hannounced := h [.start 1 7, .stop 1, .put 4] (.start 2 8) [] rfl _ _ rfl rfl 4 (by decide)
  exact not_announced_start 2 8 4 hannounced

end WifiProject.Net
