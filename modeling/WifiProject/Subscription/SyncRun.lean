import WifiProject.Subscription.SyncInvariant

/-!
A whole run of a sync: the preprocessing leads into the state that the
documents keep, and the write-back leaves every row as its object is.
-/

namespace WifiProject.Subscription

open Lib Database Bg Plugin

section FirstSubscribed

variable {rows done : List Profile} {key : Profile.Key} {row : Profile}

theorem firstSubscribed_mem (h : firstSubscribed rows key = some row) :
    row ∈ rows ∧ row.subscription ≠ .userConfigured ∧ row.key = key :=
  ⟨List.mem_of_find?_eq_some h, by simpa using List.find?_some h⟩

theorem firstSubscribed_append (done todo : List Profile) (key : Profile.Key) :
    firstSubscribed (done ++ todo) key =
      (firstSubscribed done key).or (firstSubscribed todo key) :=
  List.find?_append

theorem firstSubscribed_singleton (row : Profile) (key : Profile.Key) :
    firstSubscribed [row] key =
      if row.subscription ≠ .userConfigured ∧ row.key = key then some row else none := by
  unfold firstSubscribed
  rw [List.find?_singleton]
  simp

end FirstSubscribed

/-- The object of a row in the preprocessing. -/
def demote (toUpdate : List Nat) (row : Profile) : Profile :=
  if row.id ∈ toUpdate then { row with subscription := .obsolete } else row

@[simp] theorem demote_id (toUpdate : List Nat) (row : Profile) :
    (demote toUpdate row).id = row.id := by
  unfold demote
  split <;> rfl

/-- The state of the preprocessing after the rows in `done`. -/
structure Preprocessing (s0 : Storage) (rows : List Profile) (id : Nat) (done todo : List Profile)
    (m : SyncMemory) (g : Watched) : Prop where
  seen : rows = done ++ todo
  answer : ∃ totals, rows = s0.table.rows.map (retraffic id totals)
  watched : id ≤ s0.table.sequence
  isOpen : g.storage.isOpen = true
  sequence : g.storage.table.sequence = s0.table.sequence
  profileId : g.storage.profileId = 0 ∧ (∃ row ∈ done, row.id = s0.profileId ∧ ¬ Kept rows row) ∨
    g.storage.profileId = s0.profileId ∧ ∀ row ∈ done, row.id = s0.profileId → Kept rows row
  table : ∀ row, row ∈ g.storage.table.rows ↔
    row ∈ s0.table.rows ∧ ∀ other ∈ done, other.id = row.id → Kept rows other
  subscriptions : ∀ key, m.env.subscriptions.get? key = (firstSubscribed done key).map Profile.id
  objects : m.objects = rows.map (demote m.env.toUpdate)
  toUpdate : ∀ known ∈ m.env.toUpdate, ∃ row ∈ done, row.id = known ∧
    row.subscription ≠ .userConfigured ∧ firstSubscribed done row.key = some row
  snapshot : g.snapshot = (rows.find? (·.id = id)).map traffic

namespace Preprocessing

variable {s0 : Storage} {rows : List Profile} {id : Nat} {done todo : List Profile}
  {m : SyncMemory} {g : Watched} {row : Profile}

theorem nodup (h : Preprocessing s0 rows id done todo m g) : (rows.map Profile.id).Nodup := by
  obtain ⟨totals, hrows⟩ := h.answer
  have hids : rows.map Profile.id = s0.table.rows.map Profile.id := by
    rw [hrows, List.map_map]
    congr 1
    funext row
    simp
  rw [hids]
  exact s0.table.nodup_ids

/-- The stored row behind a row of the answer. -/
theorem origin (h : Preprocessing s0 rows id done todo m g) (hrow : row ∈ rows) :
    ∃ old ∈ s0.table.rows, ∃ totals, row = retraffic id totals old := by
  obtain ⟨totals, hrows⟩ := h.answer
  rw [hrows] at hrow
  obtain ⟨old, hold, rfl⟩ := List.mem_map.mp hrow
  exact ⟨old, hold, totals, rfl⟩

theorem answered (h : Preprocessing s0 rows id done todo m g) (hrow : row ∈ s0.table.rows) :
    ∃ totals, retraffic id totals row ∈ rows := by
  obtain ⟨totals, hrows⟩ := h.answer
  rw [hrows]
  exact ⟨totals, List.mem_map_of_mem hrow⟩

theorem eq_of_id_eq (h : Preprocessing s0 rows id done todo m g) {other : Profile}
    (hrow : row ∈ rows) (hother : other ∈ rows) (hid : row.id = other.id) : row = other :=
  List.inj_on_of_nodup_map h.nodup hrow hother hid

theorem rows_find? (h : Preprocessing s0 rows id done todo m g) (hrow : row ∈ rows) :
    rows.find? (·.id = row.id) = some row := by
  cases hfind : rows.find? (·.id = row.id) with
  | none =>
      have hne := List.find?_eq_none.mp hfind row hrow
      simp at hne
  | some other =>
      have hid : other.id = row.id := by simpa using List.find?_some hfind
      rw [h.eq_of_id_eq (List.mem_of_find?_eq_some hfind) hrow hid]

theorem object? (h : Preprocessing s0 rows id done todo m g) (known : Nat) :
    m.object? known = (rows.find? (·.id = known)).map (demote m.env.toUpdate) := by
  rw [Memory.object?, h.objects, List.find?_map]
  congr 2
  funext row
  simp

/-- A row that is not in `done` yet is still in the table. -/
theorem find?_todo (h : Preprocessing s0 rows id done todo m g) (hrow : row ∈ todo) :
    (g.storage.table.find? row.id).isSome := by
  have hmem : row ∈ rows := by
    rw [h.seen]
    exact List.mem_append_right _ hrow
  obtain ⟨old, hold, totals, hretraffic⟩ := h.origin hmem
  have hid : old.id = row.id := by simp [hretraffic]
  have hin : old ∈ g.storage.table.rows := by
    refine (h.table old).mpr ⟨hold, ?_⟩
    intro other hother hsame
    have heq := h.eq_of_id_eq (by rw [h.seen]; exact List.mem_append_left _ hother) hmem
      (hsame.trans hid)
    have hnodup := h.nodup.of_map
    rw [h.seen, List.nodup_append] at hnodup
    exact absurd heq (hnodup.2.2 other hother row hrow)
  rw [(g.storage.table.find?_eq_some_iff row.id old).mpr ⟨hin, hid⟩]
  rfl

/-- A row whose key is free is the first with this key, one whose key is taken
is not. -/
theorem kept_iff (h : Preprocessing s0 rows id done (row :: todo) m g)
    (hsubscribed : row.subscription ≠ .userConfigured) :
    Kept rows row ↔ firstSubscribed done row.key = none := by
  have hrows : firstSubscribed rows row.key =
      (firstSubscribed done row.key).or (some row) := by
    rw [h.seen, firstSubscribed_append]
    congr 1
    simp [firstSubscribed, hsubscribed]
  simp only [Kept, hsubscribed, false_or, hrows]
  cases hfirst : firstSubscribed done row.key with
  | none => simp
  | some other =>
      have hmem := (firstSubscribed_mem hfirst).1
      have hnodup := h.nodup.of_map
      rw [h.seen, List.nodup_append] at hnodup
      have hne := hnodup.2.2 other hmem row (by simp)
      simp [hne]

theorem start (hopen : s0.isOpen = true) (hwatched : id ≤ s0.table.sequence) (totals : Traffic) :
    let rows := s0.table.rows.map (retraffic id totals)
    Preprocessing s0 rows id [] rows ⟨rows, {}⟩ ((⟨s0, none⟩ : Watched).notice id totals) where
  seen := rfl
  answer := ⟨totals, rfl⟩
  watched := hwatched
  isOpen := hopen
  sequence := rfl
  profileId := Or.inr ⟨rfl, by simp⟩
  table := by simp [Watched.notice]
  subscriptions := fun _ => rfl
  objects := by simp [demote]
  toUpdate := by simp
  snapshot := rfl

/-- The part of a step that is the same for every row that stays. -/
theorem profileId_kept (h : Preprocessing s0 rows id done (row :: todo) m g)
    (hkept : Kept rows row) :
    g.storage.profileId = 0 ∧
        (∃ other ∈ done ++ [row], other.id = s0.profileId ∧ ¬ Kept rows other) ∨
      g.storage.profileId = s0.profileId ∧
        ∀ other ∈ done ++ [row], other.id = s0.profileId → Kept rows other := by
  rcases h.profileId with ⟨hzero, other, hother, hcurrent⟩ | ⟨hsame, hall⟩
  · exact Or.inl ⟨hzero, other, List.mem_append_left _ hother, hcurrent⟩
  · refine Or.inr ⟨hsame, ?_⟩
    intro other hother hid
    rcases List.mem_append.mp hother with hdone | hrow
    · exact hall other hdone hid
    · rw [List.mem_singleton.mp hrow]
      exact hkept

theorem table_kept (h : Preprocessing s0 rows id done (row :: todo) m g) (hkept : Kept rows row)
    (stored : Profile) : stored ∈ g.storage.table.rows ↔
      stored ∈ s0.table.rows ∧ ∀ other ∈ done ++ [row], other.id = stored.id → Kept rows other := by
  rw [h.table]
  refine and_congr_right fun _ => ?_
  constructor
  · intro hall other hother hid
    rcases List.mem_append.mp hother with hdone | hrow
    · exact hall other hdone hid
    · rw [List.mem_singleton.mp hrow]
      exact hkept
  · intro hall other hother
    exact hall other (List.mem_append_left _ hother)

theorem toUpdate_concat (h : Preprocessing s0 rows id done (row :: todo) m g) :
    ∀ known ∈ m.env.toUpdate, ∃ other ∈ done ++ [row], other.id = known ∧
      other.subscription ≠ .userConfigured ∧
        firstSubscribed (done ++ [row]) other.key = some other := by
  intro known hknown
  obtain ⟨other, hother, hid, hactive, hfirst⟩ := h.toUpdate known hknown
  refine ⟨other, List.mem_append_left _ hother, hid, hactive, ?_⟩
  rw [firstSubscribed_append, hfirst, Option.some_or]

/-- A user configured row is passed over. -/
theorem skip (h : Preprocessing s0 rows id done (row :: todo) m g)
    (huser : row.subscription = .userConfigured) :
    Preprocessing s0 rows id (done ++ [row]) todo m g := by
  refine { h with
    seen := by simp [h.seen]
    profileId := h.profileId_kept (Or.inl huser)
    table := h.table_kept (Or.inl huser)
    subscriptions := ?_
    toUpdate := h.toUpdate_concat }
  intro key
  rw [firstSubscribed_append, firstSubscribed_singleton, h.subscriptions]
  simp [huser]

/-- The first row with its key is entered into the map. -/
theorem enroll (h : Preprocessing s0 rows id done (row :: todo) m g)
    (hsubscribed : row.subscription ≠ .userConfigured)
    (hfree : m.env.subscriptions.get? row.key = none) :
    Preprocessing s0 rows id (done ++ [row]) todo (m.putSubscription row.key row.id) g := by
  have hfirst : firstSubscribed done row.key = none := by
    rw [h.subscriptions, Option.map_eq_none_iff] at hfree
    exact hfree
  have hkept : Kept rows row := (h.kept_iff hsubscribed).mpr hfirst
  refine { h with
    seen := by simp [h.seen]
    profileId := h.profileId_kept hkept
    table := h.table_kept hkept
    subscriptions := ?_
    toUpdate := h.toUpdate_concat }
  intro key
  change (m.env.subscriptions.put row.key row.id).get? key = _
  rw [LinkedMap.get?_put, firstSubscribed_append, firstSubscribed_singleton, h.subscriptions]
  split
  · rename_i heq
    simp [heq, hfirst, hsubscribed]
  · rename_i hne
    simp [Ne.symm hne]

/-- The last row that was entered is demoted. -/
theorem demoted (h : Preprocessing s0 rows id (done ++ [row]) todo m g)
    (hsubscribed : row.subscription ≠ .userConfigured)
    (henrolled : m.env.subscriptions.get? row.key = some row.id) :
    Preprocessing s0 rows id (done ++ [row]) todo
      ((m.addToUpdate row.id).updateObject row.id
        fun object => { object with subscription := .obsolete }) g := by
  have hdone : ∀ other ∈ done ++ [row], other ∈ rows := by
    intro other hother
    rw [h.seen]
    exact List.mem_append_left _ hother
  refine { h with objects := ?_, toUpdate := ?_ }
  · change m.objects.map _ = rows.map (demote (m.env.toUpdate.insert row.id))
    rw [h.objects, List.map_map]
    apply List.map_congr_left
    intro other _
    simp only [Function.comp_apply, demote, List.mem_insert_iff]
    by_cases hid : other.id = row.id <;> by_cases hmem : other.id ∈ m.env.toUpdate <;>
      simp_all
  · intro known hknown
    rcases List.mem_insert_iff.mp hknown with rfl | hmem
    · refine ⟨row, by simp, rfl, hsubscribed, ?_⟩
      rw [h.subscriptions, Option.map_eq_some_iff] at henrolled
      obtain ⟨other, hother, hid⟩ := henrolled
      rw [hother, h.eq_of_id_eq (hdone other (firstSubscribed_mem hother).1)
        (hdone row (by simp)) hid]
    · exact h.toUpdate known hmem

/-- A row whose key is taken is deleted. -/
theorem duplicate (h : Preprocessing s0 rows id done (row :: todo) m g)
    (hsubscribed : row.subscription ≠ .userConfigured)
    (htaken : m.env.subscriptions.get? row.key ≠ none) {g' : Watched}
    (hopen : g'.storage.isOpen = true) (htable : g'.storage.table = g.storage.table.delete row.id)
    (hsnapshot : g'.snapshot = g.snapshot)
    (hprofileId : g'.storage.profileId =
      if s0.profileId = row.id then 0 else g.storage.profileId) :
    Preprocessing s0 rows id (done ++ [row]) todo m g' := by
  have hfirst : firstSubscribed done row.key ≠ none := by
    rw [h.subscriptions, Ne, Option.map_eq_none_iff] at htaken
    exact htaken
  have hdropped : ¬ Kept rows row := by
    rw [h.kept_iff hsubscribed]
    exact hfirst
  refine { h with
    seen := by simp [h.seen]
    isOpen := hopen
    sequence := by rw [htable]; exact h.sequence
    profileId := ?_
    table := ?_
    subscriptions := ?_
    toUpdate := h.toUpdate_concat
    snapshot := by rw [hsnapshot]; exact h.snapshot }
  · rw [hprofileId]
    split
    · rename_i hcurrent
      exact Or.inl ⟨rfl, row, by simp, hcurrent.symm, hdropped⟩
    · rename_i hother
      rcases h.profileId with ⟨hzero, other, hmem, hcurrent⟩ | ⟨hsame, hall⟩
      · exact Or.inl ⟨hzero, other, List.mem_append_left _ hmem, hcurrent⟩
      · refine Or.inr ⟨hsame, ?_⟩
        intro other hmem hid
        rcases List.mem_append.mp hmem with hdone | hrow
        · exact hall other hdone hid
        · rw [List.mem_singleton.mp hrow] at hid
          exact absurd hid.symm hother
  · intro stored
    rw [htable, ProfileTable.mem_delete_iff, h.table]
    constructor
    · rintro ⟨⟨hmem, hall⟩, hid⟩
      refine ⟨hmem, ?_⟩
      intro other hother hsame
      rcases List.mem_append.mp hother with hdone | hrow
      · exact hall other hdone hsame
      · rw [List.mem_singleton.mp hrow] at hsame
        exact absurd hsame.symm hid
    · rintro ⟨hmem, hall⟩
      refine ⟨⟨hmem, fun other hother => hall other (List.mem_append_left _ hother)⟩, ?_⟩
      intro hid
      exact hdropped (hall row (by simp) hid.symm)
  · intro key
    rw [firstSubscribed_append, firstSubscribed_singleton, h.subscriptions]
    cases hkey : firstSubscribed done key with
    | some other => rfl
    | none =>
        have hne : row.key ≠ key := by
          rintro rfl
          exact hfirst hkey
        simp [hne]

/-- After the last row, the preprocessing has established what the documents
keep. -/
theorem finish (h : Preprocessing s0 rows id rows [] m g) : Syncing s0 rows id m g := by
  have hstored {stored : Profile} (hmem : stored ∈ g.storage.table.rows) :
      ∃ totals, retraffic id totals stored ∈ rows ∧ Kept rows (retraffic id totals stored) := by
    obtain ⟨hold, hall⟩ := (h.table stored).mp hmem
    obtain ⟨totals, hrow⟩ := h.answered hold
    exact ⟨totals, hrow, hall _ hrow (retraffic_id id totals stored)⟩
  have hkept {row : Profile} (hrow : row ∈ rows) (hk : Kept rows row) :
      ∃ stored totals, g.storage.table.find? row.id = some stored ∧
        row = retraffic id totals stored := by
    obtain ⟨old, hold, totals, hretraffic⟩ := h.origin hrow
    have hid : old.id = row.id := by simp [hretraffic]
    refine ⟨old, totals, ?_, hretraffic⟩
    rw [ProfileTable.find?_eq_some_iff, h.table]
    refine ⟨⟨hold, ?_⟩, hid⟩
    intro other hother hsame
    rw [h.eq_of_id_eq hother hrow (hsame.trans hid)]
    exact hk
  have hobject {row : Profile} (hrow : row ∈ rows) :
      m.object? row.id = some (demote m.env.toUpdate row) := by
    rw [h.object?, h.rows_find? hrow, Option.map_some]
  refine { h with
    sequence := h.sequence.ge, user := ?user, kept := ?kept, deleted := ?deleted, owned := ?owned,
    entry := ?entry, objects := ?objects, userObject := ?userObject, objectIds := ?objectIds,
    toUpdate := ?toUpdate, traffic := ?traffic, assigned := ?assigned }
  case user =>
    intro row hrow huser
    refine (h.table row).mpr ⟨hrow, ?_⟩
    intro other hother hid
    obtain ⟨totals, hanswered⟩ := h.answered hrow
    rw [h.eq_of_id_eq hother hanswered (by simp [hid])]
    exact Or.inl (by simp [huser])
  case kept =>
    intro row hrow hk
    obtain ⟨stored, totals, hfind, -⟩ := hkept hrow hk
    simp [hfind]
  case deleted =>
    intro row hrow hk
    cases hfind : g.storage.table.find? row.id with
    | none => rfl
    | some stored =>
        obtain ⟨hmem, hid⟩ := (g.storage.table.find?_eq_some_iff row.id stored).mp hfind
        exact absurd (((h.table stored).mp hmem).2 row hrow hid.symm) hk
  case owned =>
    intro stored hmem hsubscribed
    obtain ⟨totals, hrow, hk⟩ := hstored hmem
    rcases hk with huser | hfirst
    · rw [retraffic_subscription] at huser
      exact absurd huser hsubscribed
    · rw [retraffic_key] at hfirst
      rw [h.subscriptions, hfirst, Option.map_some, retraffic_id]
  case entry =>
    intro key known hknown
    rw [h.subscriptions, Option.map_eq_some_iff] at hknown
    obtain ⟨row, hfirst, rfl⟩ := hknown
    obtain ⟨hrow, hsubscribed, rfl⟩ := firstSubscribed_mem hfirst
    obtain ⟨stored, totals, hfind, hretraffic⟩ := hkept hrow (Or.inr hfirst)
    refine ⟨_, stored, hobject hrow, ?_, ?_, hfind, ?_⟩
    · unfold demote
      split <;> rfl
    · unfold demote
      split
      · simp
      · exact hsubscribed
    · rw [hretraffic, retraffic_subscription] at hsubscribed
      exact hsubscribed
  case objects =>
    intro row hrow
    simp [hobject hrow]
  case userObject =>
    intro stored hmem _
    obtain ⟨totals, hrow, -⟩ := hstored hmem
    refine ⟨_, by rw [← hobject hrow, retraffic_id], ?_⟩
    unfold demote retraffic
    split <;> split <;> rfl
  case objectIds =>
    intro object hmem
    rw [h.objects] at hmem
    obtain ⟨row, hrow, rfl⟩ := List.mem_map.mp hmem
    obtain ⟨old, hold, totals, rfl⟩ := h.origin hrow
    rw [demote_id, retraffic_id, h.sequence]
    exact (s0.table.ids old hold).2
  case toUpdate =>
    intro known hknown
    obtain ⟨row, -, rfl, -, hfirst⟩ := h.toUpdate known hknown
    exact ⟨row.key, by rw [h.subscriptions, hfirst, Option.map_some]⟩
  case traffic =>
    intro object hfound
    rw [h.object?, Option.map_eq_some_iff] at hfound
    obtain ⟨row, hrow, rfl⟩ := hfound
    rw [h.snapshot, hrow, Option.map_some]
    unfold demote
    split <;> rfl
  case assigned =>
    intro row hrow hnot object stored hfound hfind
    rw [hobject hrow] at hfound
    cases hfound
    obtain ⟨hmem, hid⟩ := (g.storage.table.find?_eq_some_iff row.id stored).mp hfind
    obtain ⟨totals, hanswered, -⟩ := hstored hmem
    have heq := h.eq_of_id_eq hrow hanswered (by simp [hid])
    have hdemote : demote m.env.toUpdate row = row := by simp [demote, hnot]
    rw [hdemote, heq]
    exact ⟨by simp, by simp, by simp, by simp⟩

end Preprocessing

/-- The active rows that stay are on the list of those to write back. -/
def Demoted (rows done : List Profile) (m : SyncMemory) : Prop :=
  ∀ row ∈ done, row.subscription = .active → Kept rows row → row.id ∈ m.env.toUpdate

theorem Demoted.concat {rows done : List Profile} {m m' : SyncMemory} {row : Profile}
    (h : Demoted rows done m) (hgrows : ∀ known ∈ m.env.toUpdate, known ∈ m'.env.toUpdate)
    (hrow : row.subscription = .active → Kept rows row → row.id ∈ m'.env.toUpdate) :
    Demoted rows (done ++ [row]) m' := by
  intro other hother hactive hkept
  rcases List.mem_append.mp hother with hdone | hlast
  · exact hgrows _ (h other hdone hactive hkept)
  · rw [List.mem_singleton.mp hlast] at hactive hkept ⊢
    exact hrow hactive hkept

section Run

variable {s0 : Storage} {rows : List Profile} {id : Nat} {m : SyncMemory} {g : Watched}

/-- One row of the preprocessing. -/
theorem keeps_preprocess {done todo : List Profile} {row : Profile}
    (h : Preprocessing s0 rows id done (row :: todo) m g) (hdemoted : Demoted rows done m) :
    Routine.Keeps (watched id) (preprocess s0.profileId row)
      (fun out m g => out = .ok () ∧ Preprocessing s0 rows id (done ++ [row]) todo m g ∧
        Demoted rows (done ++ [row]) m) m g := by
  unfold preprocess
  split
  · rename_i huser
    exact ⟨rfl, h.skip huser, hdemoted.concat (fun _ hknown => hknown) (by simp [huser])⟩
  · rename_i hsubscribed
    simp only [Routine.keeps_bind, Routine.keeps_read, Routine.AndThen]
    cases hkey : m.env.subscriptions.get? row.key with
    | none =>
        have henrolled := h.enroll hsubscribed hkey
        simp only [Routine.keeps_bind, Routine.keeps_modify, Routine.AndThen]
        split
        · rw [Routine.keeps_modify]
          exact ⟨rfl, henrolled.demoted hsubscribed (LinkedMap.get?_put_self _ _ _),
            hdemoted.concat (fun _ hknown => List.mem_insert_of_mem hknown)
              fun _ _ => List.mem_insert_self⟩
        · rename_i hobsolete
          exact ⟨rfl, henrolled, hdemoted.concat (fun _ hknown => hknown)
            fun hactive => absurd hactive hobsolete⟩
    | some known =>
        have htaken : m.env.subscriptions.get? row.key ≠ none := by simp [hkey]
        have hdropped : Demoted rows (done ++ [row]) m := by
          refine hdemoted.concat (fun _ hknown => hknown) fun _ hkept => ?_
          rw [h.subscriptions, (h.kept_iff hsubscribed).mp hkept] at htaken
          exact absurd rfl htaken
        simp only [Routine.keeps_bind]
        refine keeps_delProfile h.isOpen (h.find?_todo (by simp)) ?_
        intro file
        simp only [Routine.AndThen]
        split
        · rename_i hcurrent
          refine keeps_setProfileId h.isOpen ?_
          intro file'
          exact ⟨rfl, h.duplicate hsubscribed htaken h.isOpen rfl rfl (if_pos hcurrent).symm,
            hdropped⟩
        · rename_i hother
          exact ⟨rfl, h.duplicate hsubscribed htaken h.isOpen rfl rfl (if_neg hother).symm,
            hdropped⟩

theorem keeps_preprocessing (hopen : s0.isOpen = true) (hwatched : id ≤ s0.table.sequence)
    (totals : Traffic) :
    let rows := s0.table.rows.map (retraffic id totals)
    Routine.Keeps (watched id) (Routine.forEach rows (preprocess s0.profileId))
      (fun out m g => out = .ok () ∧ Preprocessing s0 rows id rows [] m g ∧ Demoted rows rows m)
      ⟨rows, {}⟩ ((⟨s0, none⟩ : Watched).notice id totals) := by
  intro rows
  have hloop := Routine.keeps_forEach (c := watched id)
    (fun todo m g => ∃ done, Preprocessing s0 rows id done todo m g ∧ Demoted rows done m)
    (fun _ _ _ => False) (preprocess s0.profileId) ?_ rows ⟨rows, {}⟩
    ((⟨s0, none⟩ : Watched).notice id totals)
    ⟨[], Preprocessing.start hopen hwatched totals, by simp [Demoted]⟩
  · refine hloop.mono ?_
    intro out m g hout
    cases out with
    | error failure => exact hout.elim
    | ok _ =>
        obtain ⟨done, hdone, hdemoted⟩ := hout
        have hall : done = rows := by
          have hseen := hdone.seen
          rw [List.append_nil] at hseen
          exact hseen.symm
        subst hall
        exact ⟨rfl, hdone, hdemoted⟩
  · rintro row todo m g ⟨done, hdone, hdemoted⟩
    refine (keeps_preprocess hdone hdemoted).mono ?_
    rintro out m g ⟨rfl, hout⟩
    exact ⟨done ++ [row], hout⟩

theorem keeps_documents (h : Syncing s0 rows id m g) (order : HashOrder) (feature : Option Profile)
    (documents : List Document) :
    Routine.Keeps (watched id) (Routine.forEach documents (syncDocument order feature))
      (fun out m g => out = .ok () ∧ Syncing s0 rows id m g) m g := by
  have hloop := Routine.keeps_forEach (c := watched id)
    (fun _ m g => Syncing s0 rows id m g) (fun _ _ _ => False) (syncDocument order feature) ?_
    documents m g h
  · refine hloop.mono ?_
    intro out m g hout
    cases out with
    | error failure => exact hout.elim
    | ok _ => exact ⟨rfl, hout⟩
  · intro document rest m g hout
    refine (keeps_syncDocument hout order feature document).mono ?_
    rintro out m g ⟨rfl, hout⟩
    exact hout

/-- The table after the write-back of the rows outside `rest`. -/
structure WrittenBack (rows rest : List Profile) (m : SyncMemory) (before after : ProfileTable) :
    Prop where
  sequence : after.sequence = before.sequence
  written : ∀ row ∈ rows, row ∉ rest → row.id ∈ m.env.toUpdate →
    after.find? row.id = (m.object? row.id).map Profile.toRow
  others : ∀ known, (∀ row ∈ rows, row.id = known → known ∉ m.env.toUpdate) →
    after.find? known = before.find? known

theorem keeps_writeBack {row : Profile} {rest : List Profile} {before : ProfileTable}
    (hrow : row ∈ rows) (h : Syncing s0 rows id m g)
    (hwritten : WrittenBack rows (row :: rest) m before g.storage.table) :
    Routine.Keeps (watched id) (writeBack row)
      (fun out m' g' => out = .ok () ∧ m' = m ∧ Syncing s0 rows id m g' ∧
        WrittenBack rows rest m before g'.storage.table) m g := by
  have hrest {other : Profile} (hne : other.id ≠ row.id) (hnot : other ∉ rest) :
      other ∉ row :: rest := by
    intro hmem
    rcases List.mem_cons.mp hmem with rfl | hmem
    · exact hne rfl
    · exact hnot hmem
  simp only [writeBack, Routine.keeps_bind, Routine.keeps_read, Routine.AndThen]
  split
  · rename_i hmem
    have hknown := h.toUpdate row.id hmem
    obtain ⟨object, stored, hobject, -, -, hstored, -, -⟩ := h.known_row hknown
    have hid : object.id = row.id := (object?_eq_some hobject).2
    have hfind (other : Nat) : (g.storage.table.update object).find? other =
        if other = row.id then some object.toRow else g.storage.table.find? other := by
      rw [g.storage.table.find?_update_stored (hid ▸ hstored), hid]
    rw [hobject]
    refine keeps_updateProfile h.isOpen (by simp [hid, hstored]) ?_ ?_
    · intro heq
      exact h.traffic object (by rw [← heq, hid]; exact hobject)
    · refine ⟨rfl, rfl, h.store hknown hobject, hwritten.sequence, ?_, ?_⟩
      · intro other hother hnot hupdate
        change (g.storage.table.update object).find? other.id = _
        rw [hfind]
        split
        · rename_i heq
          rw [heq, hobject, Option.map_some]
        · rename_i hne
          exact hwritten.written other hother (hrest hne hnot) hupdate
      · intro known hothers
        change (g.storage.table.update object).find? known = _
        have hne : known ≠ row.id := by
          rintro rfl
          exact hothers row hrow rfl hmem
        rw [hfind, if_neg hne]
        exact hwritten.others known hothers
  · rename_i hnot
    refine ⟨rfl, rfl, h, hwritten.sequence, ?_, hwritten.others⟩
    intro other hother hin hupdate
    refine hwritten.written other hother (hrest ?_ hin) hupdate
    intro heq
    rw [heq] at hupdate
    exact hnot hupdate

/-- What a sync has done when it returns: nothing makes it fail, and every row
of the first query that is left is as its object is. -/
structure Synced (s0 : Storage) (rows : List Profile) (id : Nat) (out : Except Failure Unit)
    (m : SyncMemory) (g : Watched) : Prop where
  returns : out = .ok ()
  syncing : Syncing s0 rows id m g
  written : ∀ row ∈ rows, ∀ object stored, m.object? row.id = some object →
    g.storage.table.find? row.id = some stored → Assigned object stored

theorem keeps_writeBacks (h : Syncing s0 rows id m g) :
    Routine.Keeps (watched id) (Routine.forEach rows writeBack)
      (fun out m' g' => Synced s0 rows id out m' g' ∧ m' = m ∧
        WrittenBack rows [] m g.storage.table g'.storage.table) m g := by
  have hloop := Routine.keeps_forEach (c := watched id)
    (fun rest m' g' => (∀ row ∈ rest, row ∈ rows) ∧ m' = m ∧ Syncing s0 rows id m g' ∧
      WrittenBack rows rest m g.storage.table g'.storage.table)
    (fun _ _ _ => False) writeBack ?_ rows m g
    ⟨fun _ hrow => hrow, rfl, h, rfl, fun row hrow hnot => absurd hrow hnot, fun _ _ => rfl⟩
  · refine hloop.mono ?_
    intro out m' g' hout
    cases out with
    | error failure => exact hout.elim
    | ok _ =>
        obtain ⟨-, rfl, hsyncing, hwritten⟩ := hout
        refine ⟨⟨rfl, hsyncing, ?_⟩, rfl, hwritten⟩
        intro row hrow object stored hobject hstored
        by_cases hmem : row.id ∈ m'.env.toUpdate
        · rw [hwritten.written row hrow (by simp) hmem, hobject, Option.map_some] at hstored
          cases hstored
          exact ⟨rfl, rfl, rfl, rfl⟩
        · exact hsyncing.assigned row hrow hmem object stored hobject hstored
  · rintro row rest m' g' ⟨hrest, rfl, hsyncing, hwritten⟩
    refine (keeps_writeBack (hrest row (by simp)) hsyncing hwritten).mono ?_
    rintro out m'' g'' ⟨rfl, rfl, hout⟩
    exact ⟨fun other hother => hrest other (List.mem_cons_of_mem _ hother), rfl, hout⟩

/-- A whole sync on an open database, whatever the documents are. -/
theorem keeps_sync (hopen : s0.isOpen = true) (hwatched : id ≤ s0.table.sequence)
    (order : HashOrder) (documents : List Document) :
    Routine.Keeps (watched id) (createProfilesFromSubscription order documents)
      (fun out m g => ∃ rows, Synced s0 rows id out m g) ⟨[], {}⟩ ⟨s0, none⟩ := by
  simp only [createProfilesFromSubscription, Routine.keeps_bind]
  refine keeps_profileId ?_
  simp only [Routine.AndThen, Routine.keeps_bind]
  refine keeps_getAllProfiles hopen ?_
  intro totals
  simp only [Routine.AndThen, Routine.keeps_bind, Routine.keeps_modify]
  refine (keeps_preprocessing hopen hwatched totals).mono ?_
  rintro out m g ⟨rfl, hpreprocessed, -⟩
  simp only [Routine.AndThen, Routine.keeps_bind]
  refine (keeps_documents hpreprocessed.finish order _ documents).mono ?_
  rintro out m g ⟨rfl, hsyncing⟩
  simp only [Routine.AndThen]
  refine (keeps_writeBacks hsyncing).mono ?_
  intro out m g hout
  exact ⟨_, hout.1⟩

end Run

end WifiProject.Subscription
