import WifiProject.Subscription.SyncInvariant

/-!
The log of a sync: which profiles have been requested and which pointers set
since some earlier memory, and what the subscription with a key has become by
that log. Only the first request for a key counts, and only if the profile is
not active already.
-/

namespace WifiProject.Subscription

open Lib Database Bg Plugin

/-- What the subscription with this key becomes by a list of requests. -/
def heir (m : SyncMemory) (requests : List Profile) (key : Profile.Key) : Option Profile :=
  match m.subscribed? key, requests.find? (·.key = key) with
  | none, none => none
  | none, some profile => some { profile with subscription := .active }
  | some old, none => some old
  | some old, some profile =>
      some (if old.subscription = .active then old else reactivate profile old)

section Heir

variable {m : SyncMemory} {requests : List Profile} {key : Profile.Key} {profile : Profile}

/-- There is a first request for every key that is requested. -/
theorem exists_first_request (h : key ∈ requests.map Profile.key) :
    ∃ first, requests.find? (·.key = key) = some first ∧ first ∈ requests := by
  obtain ⟨profile, hmem, hkey⟩ := List.mem_map.mp h
  have hsome : (requests.find? (·.key = key)).isSome := by
    rw [List.find?_isSome]
    exact ⟨profile, hmem, by simp [hkey]⟩
  obtain ⟨first, hfirst⟩ := Option.isSome_iff_exists.mp hsome
  exact ⟨first, hfirst, List.mem_of_find?_eq_some hfirst⟩

theorem first_request_eq_none_iff :
    requests.find? (·.key = key) = none ↔ key ∉ requests.map Profile.key := by
  simp [List.find?_eq_none]

/-- There is an heir once there is an object or a request. -/
theorem heir_eq_none_iff :
    heir m requests key = none ↔ m.subscribed? key = none ∧ key ∉ requests.map Profile.key := by
  rw [← first_request_eq_none_iff]
  unfold heir
  cases m.subscribed? key with
  | none => cases requests.find? (·.key = key) <;> simp
  | some old => cases requests.find? (·.key = key) <;> simp

theorem heir_nil (m : SyncMemory) (key : Profile.Key) : heir m [] key = m.subscribed? key := by
  unfold heir
  cases m.subscribed? key <;> rfl

theorem heir_concat_of_ne (m : SyncMemory) (requests : List Profile) (h : key ≠ profile.key) :
    heir m (requests ++ [profile]) key = heir m requests key := by
  have hfind : (requests ++ [profile]).find? (·.key = key) = requests.find? (·.key = key) := by
    simp [List.find?_append, Ne.symm h]
  unfold heir
  rw [hfind]

/-- Whoever has been requested is active. -/
theorem heir_active_of_requested (m : SyncMemory) (h : key ∈ requests.map Profile.key) :
    ∃ object, heir m requests key = some object ∧ object.subscription = .active := by
  obtain ⟨profile, hprofile, -⟩ := exists_first_request h
  unfold heir
  rw [hprofile]
  cases m.subscribed? key with
  | none => exact ⟨_, rfl, rfl⟩
  | some old =>
      refine ⟨_, rfl, ?_⟩
      split
      · assumption
      · rfl

/-- A request for an active profile changes nothing. -/
theorem heir_concat_of_active {old : Profile} (h : heir m requests profile.key = some old)
    (hactive : old.subscription = .active) :
    heir m (requests ++ [profile]) profile.key = some old := by
  unfold heir at h ⊢
  rw [List.find?_append]
  cases hfind : requests.find? (·.key = profile.key) with
  | some first =>
      rw [hfind] at h
      exact h
  | none =>
      rw [hfind] at h
      cases hold : m.subscribed? profile.key with
      | none =>
          rw [hold] at h
          cases h
      | some object =>
          rw [hold] at h
          cases h
          simp [hactive]

/-- A request for an obsolete profile takes it over. -/
theorem heir_concat_of_obsolete {old : Profile} (h : heir m requests profile.key = some old)
    (hobsolete : old.subscription ≠ .active) :
    heir m (requests ++ [profile]) profile.key = some (reactivate profile old) := by
  have hnone : requests.find? (·.key = profile.key) = none := by
    rw [first_request_eq_none_iff]
    intro hmem
    obtain ⟨object, hobject, hactive⟩ := heir_active_of_requested m hmem
    rw [h] at hobject
    cases hobject
    exact hobsolete hactive
  unfold heir at h ⊢
  rw [List.find?_append, hnone]
  rw [hnone] at h
  cases hold : m.subscribed? profile.key with
  | none =>
      rw [hold] at h
      cases h
  | some object =>
      rw [hold] at h
      cases h
      simp [hobsolete]

/-- A request for a new key. -/
theorem heir_concat_of_none (h : heir m requests profile.key = none) :
    heir m (requests ++ [profile]) profile.key = some { profile with subscription := .active } := by
  obtain ⟨hnew, hnot⟩ := heir_eq_none_iff.mp h
  unfold heir
  rw [List.find?_append, first_request_eq_none_iff.mpr hnot, hnew]
  simp

end Heir

/-- A profile without what its row and its pointer add. -/
def content (profile : Profile) : Profile :=
  { profile with id := 0, userOrder := 0, udpFallback := none }

section Content

variable {object other : Profile} (h : content object = content other)
include h

theorem content_subscription : object.subscription = other.subscription := by
  have hsame := congrArg Profile.subscription h
  exact hsame

theorem content_endpoint : object.endpoint = other.endpoint := by
  have hsame := congrArg Profile.endpoint h
  exact hsame

theorem content_reactivate (profile : Profile) :
    content (reactivate profile object) = content (reactivate profile other) := by
  have hsame := congrArg (fun object => content (reactivate profile object)) h
  exact hsame

end Content

/-! What one call of the callback does to the memory and the table. -/

inductive Creates (profile : Profile) (m : SyncMemory) (g : Watched) :
    Nat → SyncMemory → Watched → Prop
  | subscribed (hnew : m.subscribed? profile.key = none) :
      Creates profile m g (g.storage.table.sequence + 1)
        (subscribe m (createdObject g.storage.table { profile with subscription := .active }))
        (g.setTable (g.storage.table.insert
          (createdObject g.storage.table { profile with subscription := .active })))
  | known (old : Profile) (hold : m.subscribed? profile.key = some old)
      (hactive : old.subscription = .active) : Creates profile m g old.id m g
  | obsolete (old : Profile) (hold : m.subscribed? profile.key = some old)
      (hobsolete : old.subscription = .obsolete) :
      Creates profile m g old.id ((m.addToUpdate old.id).updateObject old.id (reactivate profile)) g

section Steps

variable {s0 : Storage} {rows : List Profile} {id : Nat} {m : SyncMemory} {g : Watched}

theorem Syncing.subscribed?_eq_some (h : Syncing s0 rows id m g) {key : Profile.Key} {known : Nat}
    (hknown : m.env.subscriptions.get? key = some known) :
    ∃ object, m.subscribed? key = some object ∧ m.object? known = some object ∧
      object.id = known ∧ object.key = key ∧ object.subscription ≠ .userConfigured := by
  obtain ⟨object, -, hobject, hkey, hsubscribed, -, -⟩ := h.entry key known hknown
  have hsome : m.subscribed? key = some object := by
    simp [SyncMemory.subscribed?, hknown, hobject]
  exact ⟨object, hsome, hobject, (object?_eq_some hobject).2, hkey, hsubscribed⟩

theorem Syncing.get?_of_subscribed? (h : Syncing s0 rows id m g) {key : Profile.Key}
    {object : Profile} (hobject : m.subscribed? key = some object) :
    m.env.subscriptions.get? key = some object.id ∧ m.object? object.id = some object ∧
      object.key = key ∧ object.subscription ≠ .userConfigured := by
  cases hknown : m.env.subscriptions.get? key with
  | none => simp [SyncMemory.subscribed?, hknown] at hobject
  | some known =>
      obtain ⟨object', hsome, hfound, hid, hkey, hsubscribed⟩ := h.subscribed?_eq_some hknown
      rw [hobject] at hsome
      cases hsome
      exact ⟨by rw [hid], by rw [hid]; exact hfound, hkey, hsubscribed⟩

theorem Syncing.subscribed?_eq_none (h : Syncing s0 rows id m g) {key : Profile.Key} :
    m.subscribed? key = none ↔ m.env.subscriptions.get? key = none := by
  cases hknown : m.env.subscriptions.get? key with
  | none => simp [SyncMemory.subscribed?, hknown]
  | some known =>
      obtain ⟨object, hsome, -⟩ := h.subscribed?_eq_some hknown
      simp [hsome]

/-- Different keys belong to different profiles. -/
theorem Syncing.key_inj (h : Syncing s0 rows id m g) {key other : Profile.Key} {known : Nat}
    (hkey : m.env.subscriptions.get? key = some known)
    (hother : m.env.subscriptions.get? other = some known) : key = other := by
  obtain ⟨object, -, hobject, -, rfl, -⟩ := h.subscribed?_eq_some hkey
  obtain ⟨object', -, hobject', -, rfl, -⟩ := h.subscribed?_eq_some hother
  rw [hobject] at hobject'
  cases hobject'
  rfl

/-- A change of one object is a change of one subscription. -/
theorem Syncing.subscribed?_updateObject (h : Syncing s0 rows id m g) {key : Profile.Key} {known : Nat}
    (hknown : m.env.subscriptions.get? key = some known) (f : Profile → Profile)
    (hid : ∀ object, (f object).id = object.id) (other : Profile.Key) :
    SyncMemory.subscribed? (m.updateObject known f) other =
      if other = key then (m.subscribed? key).map f else m.subscribed? other := by
  have hget : (m.updateObject known f).env.subscriptions = m.env.subscriptions := rfl
  simp only [SyncMemory.subscribed?, hget]
  cases hother : m.env.subscriptions.get? other with
  | none =>
      have hne : other ≠ key := by
        rintro rfl
        rw [hother] at hknown
        cases hknown
      rw [if_neg hne]
      rfl
  | some found =>
      obtain ⟨object, -, hobject, hfound, -, -⟩ := h.subscribed?_eq_some hother
      simp only [Option.bind_some]
      rw [object?_updateObject m known found f hid, hobject, Option.map_some, hfound]
      by_cases heq : other = key
      · subst heq
        rw [hknown] at hother
        cases hother
        simp [hknown, hobject]
      · have hne : found ≠ known := by
          rintro rfl
          exact heq (h.key_inj hother hknown)
        rw [if_neg hne, if_neg heq]

/-- A new subscription leaves the others alone. -/
theorem Syncing.subscribed?_subscribe (h : Syncing s0 rows id m g) {object : Profile}
    (hnew : g.storage.table.sequence < object.id) (other : Profile.Key) :
    SyncMemory.subscribed? (subscribe m object) other =
      if other = object.key then some object else m.subscribed? other := by
  have hget : (subscribe m object).env.subscriptions.get? other =
      if other = object.key then some object.id else m.env.subscriptions.get? other :=
    LinkedMap.get?_put _ _ _ _
  have hnone : m.object? object.id = none := by
    apply List.find?_eq_none.mpr
    intro old hold
    have hbound := h.objectIds old hold
    simp only [decide_eq_true_eq]
    omega
  simp only [SyncMemory.subscribed?, hget]
  split
  · rw [Option.bind_some, object?_subscribe, hnone, Option.none_or, if_pos rfl]
  · cases hother : m.env.subscriptions.get? other with
    | none => rfl
    | some found =>
        obtain ⟨old, -, hold, -⟩ := h.subscribed?_eq_some hother
        rw [Option.bind_some, Option.bind_some, object?_subscribe, hold, Option.some_or]

/-- The callback does one of three things. -/
theorem keeps_create_cases (h : Syncing s0 rows id m g) (profile : Profile) :
    Routine.Keeps (watched id) (create profile)
      (fun out m' g' => ∃ created, out = .ok created ∧ Creates profile m g created m' g') m g := by
  simp only [create, Routine.keeps_bind, Routine.keeps_read, Routine.AndThen]
  cases hold : m.subscribed? profile.key with
  | none =>
      simp only [createSubscribed, createObject, Routine.keeps_bind]
      refine keeps_createProfile h.isOpen ?_
      simp only [Routine.AndThen, Routine.keeps_bind, Routine.keeps_modify, Routine.keeps_pure]
      exact ⟨_, rfl, .subscribed hold⟩
  | some old =>
      obtain ⟨-, -, -, hsubscribed⟩ := h.get?_of_subscribed? hold
      cases hstatus : old.subscription with
      | userConfigured => exact absurd hstatus hsubscribed
      | active =>
          simp only [hstatus, Routine.keeps_pure]
          exact ⟨_, rfl, .known old hold hstatus⟩
      | obsolete =>
          simp only [hstatus, Routine.keeps_bind, Routine.keeps_modify, Routine.AndThen,
            Routine.keeps_pure]
          exact ⟨_, rfl, .obsolete old hold hstatus⟩

end Steps

/-- The last pointer that was set for a key. -/
def lastPointer (pointers : List (Profile.Key × Nat)) (key : Profile.Key) : Option Nat :=
  (pointers.reverse.find? (·.1 = key)).map Prod.snd

theorem lastPointer_concat (pointers : List (Profile.Key × Nat)) (key other : Profile.Key)
    (target : Nat) : lastPointer (pointers ++ [(key, target)]) other =
      if other = key then some target else lastPointer pointers other := by
  unfold lastPointer
  rw [List.reverse_append, List.reverse_singleton, List.singleton_append, List.find?_cons]
  by_cases h : other = key
  · simp [h]
  · simp [h, Ne.symm h]

theorem lastPointer_eq_none {pointers : List (Profile.Key × Nat)} {key : Profile.Key}
    (h : ∀ pointer ∈ pointers, pointer.1 ≠ key) : lastPointer pointers key = none := by
  rw [lastPointer, Option.map_eq_none_iff, List.find?_eq_none]
  intro pointer hpointer
  simpa using h pointer (List.mem_reverse.mp hpointer)

/-- The memory `m` by what was requested and pointed to since `m0`. -/
structure Logged (m0 : SyncMemory) (requests : List Profile) (pointers : List (Profile.Key × Nat))
    (m : SyncMemory) : Prop where
  heirs : ∀ key, (m.subscribed? key).map content = (heir m0 requests key).map content
  pointing : ∀ key, (m.subscribed? key).map Profile.udpFallback =
    (heir m0 requests key).map fun object => (lastPointer pointers key).or object.udpFallback
  kept : ∀ key known, m0.env.subscriptions.get? key = some known →
    m.env.subscriptions.get? key = some known
  active : ∀ pointer ∈ pointers, ∃ object, m.subscribed? pointer.1 = some object ∧
    object.subscription = .active

namespace Logged

variable {s0 : Storage} {rows : List Profile} {id : Nat} {m0 m m' : SyncMemory} {g g' : Watched}
  {requests : List Profile} {pointers : List (Profile.Key × Nat)}

theorem refl (m : SyncMemory) : Logged m [] [] m where
  heirs := fun key => by rw [heir_nil]
  pointing := fun key => by
    rw [heir_nil]
    rfl
  kept := fun _ _ h => h
  active := by simp

theorem heir_of_subscribed? (h : Logged m0 requests pointers m) {key : Profile.Key}
    {object : Profile} (hobject : m.subscribed? key = some object) :
    ∃ old, heir m0 requests key = some old ∧ content object = content old ∧
      object.udpFallback = (lastPointer pointers key).or old.udpFallback := by
  have hheir := h.heirs key
  have hpointer := h.pointing key
  rw [hobject] at hheir hpointer
  cases hold : heir m0 requests key with
  | none =>
      rw [hold] at hheir
      cases hheir
  | some old =>
      rw [hold] at hheir hpointer
      exact ⟨old, rfl, Option.some.inj hheir, Option.some.inj hpointer⟩

theorem heir_eq_none (h : Logged m0 requests pointers m) {key : Profile.Key} :
    heir m0 requests key = none ↔ m.subscribed? key = none := by
  rw [← Option.map_eq_none_iff (f := content), ← h.heirs key, Option.map_eq_none_iff]

/-- Whoever has been requested has an active object. -/
theorem subscribed?_of_requested (h : Logged m0 requests pointers m) {key : Profile.Key}
    (hkey : key ∈ requests.map Profile.key) :
    ∃ object, m.subscribed? key = some object ∧ object.subscription = .active := by
  obtain ⟨old, hold, hactive⟩ := heir_active_of_requested m0 hkey
  cases hobject : m.subscribed? key with
  | none =>
      rw [h.heir_eq_none.mpr hobject] at hold
      cases hold
  | some object =>
      obtain ⟨old', hold', hcontent, -⟩ := h.heir_of_subscribed? hobject
      rw [hold] at hold'
      cases hold'
      exact ⟨object, rfl, (content_subscription hcontent).trans hactive⟩

/-- Only active objects have been pointed from. -/
theorem lastPointer_of_not_active (h : Logged m0 requests pointers m) {key : Profile.Key}
    (hnot : ∀ object, m.subscribed? key = some object → object.subscription ≠ .active) :
    lastPointer pointers key = none := by
  apply lastPointer_eq_none
  intro pointer hpointer heq
  obtain ⟨object, hobject, hactive⟩ := h.active pointer hpointer
  rw [heq] at hobject
  exact hnot object hobject hactive

theorem create_subscribed (hsyncing : Syncing s0 rows id m g)
    (h : Logged m0 requests pointers m) {profile : Profile}
    (hnew : m.subscribed? profile.key = none) :
    Logged m0 (requests ++ [profile]) pointers
      (subscribe m (createdObject g.storage.table { profile with subscription := .active })) := by
  let object := createdObject g.storage.table { profile with subscription := .active }
  have hheir := heir_concat_of_none (h.heir_eq_none.mpr hnew)
  have hsubscribed (key : Profile.Key) : SyncMemory.subscribed? (subscribe m object) key =
      if key = profile.key then some object else m.subscribed? key :=
    hsyncing.subscribed?_subscribe (Nat.lt_succ_self g.storage.table.sequence) key
  have habsent := hsyncing.subscribed?_eq_none.mp hnew
  have hpointer : lastPointer pointers profile.key = none := by
    apply h.lastPointer_of_not_active
    intro old hold
    rw [hnew] at hold
    cases hold
  constructor
  · intro key
    rw [hsubscribed]
    split
    · rename_i heq
      rw [heq, hheir]
      rfl
    · rename_i hne
      rw [heir_concat_of_ne m0 requests hne]
      exact h.heirs key
  · intro key
    rw [hsubscribed]
    split
    · rename_i heq
      rw [heq, hheir, hpointer]
      rfl
    · rename_i hne
      rw [heir_concat_of_ne m0 requests hne]
      exact h.pointing key
  · intro key known hknown
    have hget := h.kept key known hknown
    change (m.env.subscriptions.put object.key object.id).get? key = _
    rw [LinkedMap.get?_put, if_neg]
    · exact hget
    · rintro rfl
      change m.env.subscriptions.get? profile.key = _ at hget
      rw [habsent] at hget
      cases hget
  · intro pointer hmem
    obtain ⟨old, hold, hactive⟩ := h.active pointer hmem
    refine ⟨old, ?_, hactive⟩
    rw [hsubscribed, if_neg]
    · exact hold
    · intro heq
      rw [heq, hnew] at hold
      cases hold

theorem create_known (h : Logged m0 requests pointers m) {profile old : Profile}
    (hold : m.subscribed? profile.key = some old) (hactive : old.subscription = .active) :
    Logged m0 (requests ++ [profile]) pointers m := by
  obtain ⟨object, hobject, hcontent, -⟩ := h.heir_of_subscribed? hold
  have hheir (key : Profile.Key) : heir m0 (requests ++ [profile]) key = heir m0 requests key := by
    by_cases heq : key = profile.key
    · rw [heq, hobject]
      exact heir_concat_of_active hobject ((content_subscription hcontent).symm.trans hactive)
    · exact heir_concat_of_ne m0 requests heq
  constructor
  · intro key
    rw [hheir]
    exact h.heirs key
  · intro key
    rw [hheir]
    exact h.pointing key
  · exact h.kept
  · exact h.active

theorem create_obsolete (hsyncing : Syncing s0 rows id m g)
    (h : Logged m0 requests pointers m) {profile old : Profile}
    (hold : m.subscribed? profile.key = some old) (hobsolete : old.subscription = .obsolete) :
    Logged m0 (requests ++ [profile]) pointers
      ((m.addToUpdate old.id).updateObject old.id (reactivate profile)) := by
  obtain ⟨object, hobject, hcontent, -⟩ := h.heir_of_subscribed? hold
  obtain ⟨hget, -, -, -⟩ := hsyncing.get?_of_subscribed? hold
  have hheir := heir_concat_of_obsolete hobject (by
    rw [← content_subscription hcontent, hobsolete]
    simp)
  have hsubscribed := (hsyncing.mark ⟨profile.key, hget⟩).subscribed?_updateObject hget
    (reactivate profile) (fun _ => rfl)
  have hmarked (key : Profile.Key) : SyncMemory.subscribed? (m.addToUpdate old.id) key =
    m.subscribed? key := rfl
  have hnot : ∀ other, m.subscribed? profile.key = some other →
      other.subscription ≠ .active := by
    intro other hother
    rw [hold] at hother
    cases hother
    rw [hobsolete]
    decide
  have hpointer := h.lastPointer_of_not_active hnot
  constructor
  · intro key
    rw [hsubscribed, hmarked, hmarked, hold]
    split
    · rename_i heq
      rw [heq, hheir]
      exact congrArg some (content_reactivate hcontent profile)
    · rename_i hne
      rw [heir_concat_of_ne m0 requests hne]
      exact h.heirs key
  · intro key
    rw [hsubscribed, hmarked, hmarked, hold]
    split
    · rename_i heq
      rw [heq, hheir, hpointer]
      rfl
    · rename_i hne
      rw [heir_concat_of_ne m0 requests hne]
      exact h.pointing key
  · exact h.kept
  · intro pointer hmem
    obtain ⟨other, hother, hactive⟩ := h.active pointer hmem
    refine ⟨other, ?_, hactive⟩
    rw [hsubscribed, hmarked, if_neg]
    · exact hother
    · intro heq
      rw [heq] at hother
      exact hnot other hother hactive

/-- One request. -/
theorem create (hsyncing : Syncing s0 rows id m g) (h : Logged m0 requests pointers m)
    {profile : Profile} {created : Nat} (hcreates : Creates profile m g created m' g') :
    Logged m0 (requests ++ [profile]) pointers m' ∧
      m'.env.subscriptions.get? profile.key = some created := by
  cases hcreates with
  | subscribed hnew => exact ⟨h.create_subscribed hsyncing hnew, LinkedMap.get?_put_self _ _ _⟩
  | known old hold hactive =>
      exact ⟨h.create_known hold hactive, (hsyncing.get?_of_subscribed? hold).1⟩
  | obsolete old hold hobsolete =>
      exact ⟨h.create_obsolete hsyncing hold hobsolete, (hsyncing.get?_of_subscribed? hold).1⟩

/-- One pointer. -/
theorem set (hsyncing : Syncing s0 rows id m g) (h : Logged m0 requests pointers m)
    {object : Profile} {key : Profile.Key} (hobject : m.subscribed? key = some object)
    (hactive : object.subscription = .active) (target : Nat) :
    Logged m0 requests (pointers ++ [(key, target)])
      (m.updateObject object.id (Profile.wireTo target)) := by
  obtain ⟨hget, -, -, -⟩ := hsyncing.get?_of_subscribed? hobject
  have hsubscribed := hsyncing.subscribed?_updateObject hget (Profile.wireTo target) (fun _ => rfl)
  refine ⟨?_, ?_, h.kept, ?_⟩
  · intro other
    rw [hsubscribed, ← h.heirs]
    split
    · rename_i heq
      rw [heq, hobject]
      rfl
    · rfl
  · intro other
    rw [hsubscribed, lastPointer_concat]
    split
    · rename_i heq
      obtain ⟨old, hold, -, -⟩ := h.heir_of_subscribed? hobject
      rw [heq, hobject, hold]
      rfl
    · exact h.pointing other
  · intro pointer hmem
    have hstays : ∃ object, m.subscribed? pointer.1 = some object ∧ object.subscription = .active := by
      rcases List.mem_append.mp hmem with hold | hnew
      · exact h.active pointer hold
      · rw [List.mem_singleton.mp hnew]
        exact ⟨object, hobject, hactive⟩
    obtain ⟨other, hother, hotherActive⟩ := hstays
    rw [hsubscribed]
    split
    · exact ⟨object.wireTo target, by rw [hobject]; rfl, hactive⟩
    · exact ⟨other, hother, hotherActive⟩

end Logged

end WifiProject.Subscription
