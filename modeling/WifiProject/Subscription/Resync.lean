import WifiProject.Subscription.SubscriptionImport

/-!
A sync of documents that the table may already hold. What it will request and
where it will point is planned from the table alone; the plan comes true as long
as every request finds a row that has its content.
-/

namespace WifiProject.Subscription

open Lib Database Bg Plugin

section Plan

variable (rows : List Profile)

/-- The servers of a document; there are none in one that cannot be parsed. -/
def parsedServers (order : HashOrder) (feature : Option Profile) (document : Document) :
    List Server :=
  match document.elements, document.malformed with
  | [json], none => (process order feature json).toOption.getD []
  | _, _ => []

/-- What the servers of one document request. -/
def plannedRequests (servers : List Server) : List Profile :=
  servers.map Server.profile ++ unresolved rows (wiringByKey servers).values

/-- Where a fallback will lead. -/
def plannedTarget (fallback : Profile) : Nat :=
  match rows.find? fallback.serves with
  | some row => row.id
  | none => ((firstSubscribed rows fallback.key).map Profile.id).getD 0

def plannedPointers (servers : List Server) : List (Profile.Key × Nat) :=
  (wiringByKey servers).entries.map fun entry => (entry.1, plannedTarget rows entry.2)

/-- The first request for every key finds a row that has its content. -/
def Matched (requests : List Profile) : Prop :=
  ∀ key profile, requests.find? (·.key = key) = some profile →
    ∃ row, firstSubscribed rows key = some row ∧ row.password = profile.password ∧
      row.method = profile.method ∧ row.plugin = profile.plugin

/-- When a sync of what is planned changes nothing: requests are matched, the
rows that are active are those that are requested, and they point where they will
be made to point. -/
structure AtRest (requests : List Profile) (pointers : List (Profile.Key × Nat)) : Prop where
  matched : Matched rows requests
  active : ∀ row ∈ rows, row.subscription ≠ .userConfigured →
    (row.subscription = .active ↔ row.key ∈ requests.map Profile.key)
  pointing : ∀ row ∈ rows, row.subscription = .active →
    row.udpFallback = lastPointer pointers row.key

end Plan

section Matched

variable {rows requests more : List Profile} {profile : Profile}

theorem Matched.of_append (h : Matched rows (requests ++ more)) : Matched rows requests := by
  intro key profile hfind
  apply h key profile
  rw [List.find?_append, hfind, Option.some_or]

/-- A request that breaks the matching is the first for its key. -/
theorem Matched.first_of_concat (h : Matched rows requests)
    (hbroken : ¬ Matched rows (requests ++ [profile])) :
    requests.find? (·.key = profile.key) = none ∧
      ¬ ∃ row, firstSubscribed rows profile.key = some row ∧ row.password = profile.password ∧
        row.method = profile.method ∧ row.plugin = profile.plugin := by
  have hother {key : Profile.Key} {found : Profile}
      (hfind : (requests ++ [profile]).find? (·.key = key) = some found) :
      requests.find? (·.key = key) = some found ∨
        (requests.find? (·.key = key) = none ∧ profile.key = key ∧ found = profile) := by
    rw [List.find?_append] at hfind
    cases hfirst : requests.find? (·.key = key) with
    | some first =>
        rw [hfirst, Option.some_or] at hfind
        exact Or.inl hfind
    | none =>
        rw [hfirst, Option.none_or, List.find?_singleton] at hfind
        split at hfind
        · rename_i hkey
          exact Or.inr ⟨rfl, by simpa using hkey, (Option.some.inj hfind).symm⟩
        · cases hfind
  constructor
  · cases hfirst : requests.find? (·.key = profile.key) with
    | none => rfl
    | some first =>
        exfalso
        apply hbroken
        intro key found hfind
        rcases hother hfind with hold | ⟨hnone, hkey, -⟩
        · exact h key found hold
        · rw [← hkey, hfirst] at hnone
          cases hnone
  · intro hrow
    apply hbroken
    intro key found hfind
    rcases hother hfind with hold | ⟨-, hkey, hfound⟩
    · exact h key found hold
    · rw [hfound, ← hkey]
      exact hrow

end Matched

/-- The memory in which the documents of a sync start. -/
structure Restart (rows : List Profile) (m : SyncMemory) : Prop where
  subscriptions : ∀ key, m.env.subscriptions.get? key = (firstSubscribed rows key).map Profile.id
  subscribed : ∀ key, m.subscribed? key = (firstSubscribed rows key).map fun row =>
    { row with subscription := .obsolete }

/-- What a sync may change in a row that has the requested content. -/
def erase (row : Profile) : Profile := { row with subscription := .active, udpFallback := none }

/-- So far the table has only been pointed and taken over. -/
structure Calm (table : ProfileTable) (m : SyncMemory) (g : Watched) : Prop where
  sequence : g.storage.table.sequence = table.sequence
  rows : g.storage.table.rows.map erase = table.rows.map erase
  untouched : ∀ row ∈ g.storage.table.rows, row.id ∉ m.env.toUpdate → row ∈ table.rows

/-- Something that will show in the table: there is a new row, or the content of
a row is going to be overwritten. -/
def Disturbed (table : ProfileTable) (m : SyncMemory) (g : Watched) : Prop :=
  table.sequence < g.storage.table.sequence ∨
    ∃ row ∈ table.rows, row.id ∈ m.env.toUpdate ∧ ∃ object, m.object? row.id = some object ∧
      object.subscription = .active ∧ ¬ (row.password = object.password ∧
        row.method = object.method ∧ row.plugin = object.plugin)

/-- What the documents of a sync keep. -/
structure Resyncing (table : ProfileTable) (requests : List Profile) (m : SyncMemory)
    (g : Watched) : Prop where
  orders : ∀ row ∈ table.rows, ∀ object, m.object? row.id = some object →
    object.userOrder = row.userOrder
  marked : ∀ row ∈ table.rows, ∀ object, m.object? row.id = some object →
    object.subscription = .active → row.id ∈ m.env.toUpdate
  demoted : ∀ row ∈ table.rows, row.subscription = .active → row.id ∈ m.env.toUpdate
  calm : Matched table.rows requests → Calm table m g
  disturbed : ¬ Matched table.rows requests → Disturbed table m g

section Creates

variable {s0 : Storage} {rows : List Profile} {id : Nat} {m m' : SyncMemory} {g g' : Watched}
  {profile : Profile} {created : Nat}

theorem Creates.toUpdate (h : Creates profile m g created m' g') :
    ∀ known ∈ m.env.toUpdate, known ∈ m'.env.toUpdate := by
  intro known hknown
  cases h with
  | subscribed hnew => exact hknown
  | known old hold hactive => exact hknown
  | obsolete old hold hobsolete => exact List.mem_insert_of_mem hknown

theorem Creates.sequence (h : Creates profile m g created m' g') :
    g.storage.table.sequence ≤ g'.storage.table.sequence := by
  cases h with
  | subscribed hnew => exact Nat.le_succ _
  | known old hold hactive => exact Nat.le_refl _
  | obsolete old hold hobsolete => exact Nat.le_refl _

/-- An object that was there before is left alone or taken over. -/
theorem Creates.object_cases (hsyncing : Syncing s0 rows id m g)
    (h : Creates profile m g created m' g') {known : Nat}
    (hknown : known ≤ g.storage.table.sequence) :
    m'.object? known = m.object? known ∨ known ∈ m'.env.toUpdate ∧ ∃ old,
      m.object? known = some old ∧ old.subscription = .obsolete ∧
        m'.object? known = some (reactivate profile old) := by
  cases h with
  | subscribed hnew =>
      left
      rw [object?_subscribe, if_neg, Option.or_none]
      change g.storage.table.sequence + 1 ≠ known
      omega
  | known old hold hactive => exact Or.inl rfl
  | obsolete old hold hobsolete =>
      obtain ⟨-, hobject, -, -⟩ := hsyncing.get?_of_subscribed? hold
      have hchanged := object?_updateObject (m.addToUpdate old.id) old.id known (reactivate profile)
        (fun _ => rfl)
      change _ = (m.object? known).map _ at hchanged
      by_cases heq : known = old.id
      · subst heq
        refine Or.inr ⟨List.mem_insert_self, old, hobject, hobsolete, ?_⟩
        rw [hchanged, hobject, Option.map_some, if_pos rfl]
      · refine Or.inl ?_
        rw [hchanged]
        cases hfound : m.object? known with
        | none => rfl
        | some found =>
            have hid := (object?_eq_some hfound).2
            rw [Option.map_some, if_neg]
            rw [hid]
            exact heq

end Creates

section Steps

variable {s0 : Storage} {rows : List Profile} {m0 m m' : SyncMemory} {g g' : Watched}
  {requests : List Profile} {pointers : List (Profile.Key × Nat)} {table : ProfileTable}

/-- The row behind a subscription while all requests are matched. -/
theorem Restart.row_of_matched (hrestart : Restart rows m0) (hlogged : Logged m0 requests pointers m)
    (hsyncing : Syncing s0 s0.table.rows 0 m g) (hmatched : Matched rows requests)
    {key : Profile.Key} {object : Profile} (hobject : m.subscribed? key = some object) :
    ∃ row, firstSubscribed rows key = some row ∧ object.id = row.id ∧
      content { object with subscription := .active } =
        content { row with subscription := .active } := by
  obtain ⟨old, hheir, hcontent, -⟩ := hlogged.heir_of_subscribed? hobject
  have hactive : content { object with subscription := .active } =
      content { old with subscription := .active } := by
    have hsame := congrArg (fun profile => { profile with subscription := .active }) hcontent
    exact hsame
  cases hfirst : firstSubscribed rows key with
  | none =>
      have hnone : m0.subscribed? key = none := by rw [hrestart.subscribed, hfirst, Option.map_none]
      unfold heir at hheir
      rw [hnone] at hheir
      cases hfind : requests.find? (·.key = key) with
      | none =>
          rw [hfind] at hheir
          cases hheir
      | some profile =>
          obtain ⟨row, hrow, -⟩ := hmatched key profile hfind
          rw [hfirst] at hrow
          cases hrow
  | some row =>
      have hsome : m0.subscribed? key = some { row with subscription := .obsolete } := by
        rw [hrestart.subscribed, hfirst, Option.map_some]
      have hget : m.env.subscriptions.get? key = some row.id := by
        apply hlogged.kept
        rw [hrestart.subscriptions, hfirst, Option.map_some]
      rw [(hsyncing.get?_of_subscribed? hobject).1] at hget
      refine ⟨row, rfl, Option.some.inj hget, hactive.trans ?_⟩
      unfold heir at hheir
      rw [hsome] at hheir
      cases hfind : requests.find? (·.key = key) with
      | none =>
          rw [hfind] at hheir
          cases hheir
          rfl
      | some profile =>
          obtain ⟨row', hrow', hpassword, hmethod, hplugin⟩ := hmatched key profile hfind
          rw [hfirst] at hrow'
          cases hrow'
          rw [hfind] at hheir
          cases hheir
          simp [content, reactivate, hpassword, hmethod, hplugin]

theorem erase_eq_of_content {object row : Profile}
    (hcontent : content { object with subscription := .active } =
      content { row with subscription := .active })
    (hid : object.id = row.id) (horder : object.userOrder = row.userOrder) :
    erase object = erase row := by
  have hsame := congrArg
    (fun profile => { profile with id := object.id, userOrder := object.userOrder }) hcontent
  rw [hid, horder] at hsame
  have hobject : erase object = { content { object with subscription := .active } with
    id := object.id, userOrder := object.userOrder } := rfl
  rw [hobject, hid, horder]
  exact hsame

/-- A disturbance stays. -/
theorem Disturbed.create (hsyncing : Syncing s0 s0.table.rows 0 m g) (h : Disturbed s0.table m g)
    {profile : Profile} {created : Nat} (hcreates : Creates profile m g created m' g') :
    Disturbed s0.table m' g' := by
  have hsequence := hcreates.sequence
  rcases h with hgrown | ⟨row, hrow, hmarked, object, hobject, hactive, hdiffers⟩
  · exact Or.inl (by omega)
  · have hbound : row.id ≤ g.storage.table.sequence :=
      Nat.le_trans (s0.table.ids row hrow).2 hsyncing.sequence
    refine Or.inr ⟨row, hrow, hcreates.toUpdate _ hmarked, object, ?_, hactive, hdiffers⟩
    rcases hcreates.object_cases hsyncing hbound with hsame | ⟨-, old, hold, hobsolete, -⟩
    · rw [hsame]
      exact hobject
    · rw [hobject] at hold
      cases hold
      rw [hactive] at hobsolete
      cases hobsolete

/-- The first request that is not matched disturbs the table. -/
theorem Restart.disturbed (hrestart : Restart s0.table.rows m0)
    (hsyncing : Syncing s0 s0.table.rows 0 m g) (hlogged : Logged m0 requests pointers m)
    {profile : Profile} {created : Nat} (hcreates : Creates profile m g created m' g')
    (hnew : requests.find? (·.key = profile.key) = none)
    (hunmatched : ¬ ∃ row, firstSubscribed s0.table.rows profile.key = some row ∧
      row.password = profile.password ∧ row.method = profile.method ∧
        row.plugin = profile.plugin) :
    Disturbed s0.table m' g' := by
  have hheir : heir m0 requests profile.key = m0.subscribed? profile.key := by
    unfold heir
    rw [hnew]
    cases m0.subscribed? profile.key <;> rfl
  cases hfirst : firstSubscribed s0.table.rows profile.key with
  | none =>
      have hnone : m.subscribed? profile.key = none := by
        rw [← hlogged.heir_eq_none, hheir, hrestart.subscribed, hfirst, Option.map_none]
      have hsequence := hsyncing.sequence
      cases hcreates with
      | subscribed _ => exact Or.inl (Nat.lt_succ_of_le hsequence)
      | known old hold _ =>
          rw [hnone] at hold
          cases hold
      | obsolete old hold _ =>
          rw [hnone] at hold
          cases hold
  | some row =>
      have hsome : heir m0 requests profile.key = some { row with subscription := .obsolete } := by
        rw [hheir, hrestart.subscribed, hfirst, Option.map_some]
      have hget : m.env.subscriptions.get? profile.key = some row.id := by
        apply hlogged.kept
        rw [hrestart.subscriptions, hfirst, Option.map_some]
      have hstatus {old : Profile} (hold : m.subscribed? profile.key = some old) :
          old.subscription = .obsolete := by
        obtain ⟨known, hknown, hcontent, -⟩ := hlogged.heir_of_subscribed? hold
        rw [hsome] at hknown
        cases hknown
        exact content_subscription hcontent
      cases hcreates with
      | subscribed hnone =>
          rw [hsyncing.subscribed?_eq_none.mp hnone] at hget
          cases hget
      | known old hold hactive =>
          rw [hstatus hold] at hactive
          cases hactive
      | obsolete old hold hobsolete =>
          obtain ⟨hgot, hobject, -, -⟩ := hsyncing.get?_of_subscribed? hold
          rw [hget, Option.some.injEq] at hgot
          refine Or.inr ⟨row, (firstSubscribed_mem hfirst).1, ?_, reactivate profile old, ?_, rfl, ?_⟩
          · rw [hgot]
            exact List.mem_insert_self
          · rw [hgot, object?_updateObject _ _ _ (reactivate profile) (fun _ => rfl)]
            change (m.object? old.id).map _ = _
            rw [hobject, Option.map_some, if_pos rfl]
          · rintro ⟨hpassword, hmethod, hplugin⟩
            exact hunmatched ⟨row, hfirst, hpassword, hmethod, hplugin⟩

/-- The table stays calm while a profile is taken over or pointed. -/
theorem Calm.create (h : Calm table m g) (hsame : g' = g)
    (hgrows : ∀ known ∈ m.env.toUpdate, known ∈ m'.env.toUpdate) : Calm table m' g' := by
  subst hsame
  exact ⟨h.sequence, h.rows, fun row hrow hnot => h.untouched row hrow fun hin => hnot (hgrows _ hin)⟩

theorem Calm.set (h : Calm table m g) {object row : Profile} (hrow : row ∈ table.rows)
    (hid : object.id = row.id) (herase : erase object = erase row)
    (hmarked : row.id ∈ m.env.toUpdate) (target : Nat) :
    Calm table (m.updateObject object.id (Profile.wireTo target))
      (g.setTable (g.storage.table.update (object.wireTo target))) := by
  have hstored : erase (object.wireTo target).toRow = erase row := by
    have hdirty := table.stored row hrow
    have hsame := congrArg (fun profile : Profile => { profile with dirty := false }) herase
    change erase (object.wireTo target).toRow = { erase row with dirty := false } at hsame
    rw [hsame, ← hdirty]
    rfl
  refine ⟨h.sequence, ?_, ?_⟩
  · change (g.storage.table.rows.map (ProfileTable.replace (object.wireTo target))).map erase = _
    rw [← h.rows, List.map_map]
    apply List.map_congr_left
    intro other hother
    simp only [Function.comp_apply, ProfileTable.replace]
    split
    · rename_i heq
      have hmem : erase other ∈ table.rows.map erase := by
        rw [← h.rows]
        exact List.mem_map_of_mem hother
      obtain ⟨old, hold, herased⟩ := List.mem_map.mp hmem
      have hsame : old = row := by
        apply table.eq_of_id_eq hold hrow
        have hids : (erase old).id = (erase other).id := congrArg Profile.id herased
        change old.id = other.id at hids
        change other.id = object.id at heq
        omega
      rw [hstored, ← herased, hsame]
    · rfl
  · intro other hother hnot
    rcases (g.storage.table.mem_update_iff _ other).mp hother with ⟨-, hmem⟩ | ⟨rfl, -⟩
    · exact h.untouched other hmem hnot
    · exact absurd (by rw [← hid] at hmarked; exact hmarked) hnot

theorem resyncing_invariant (hrestart : Restart s0.table.rows m0) :
    LogInvariant s0 s0.table.rows m0 fun requests _ m g => Resyncing s0.table requests m g where
  create := by
    intro requests pointers m g profile created m' g' hsyncing hlogged h hcreates
    have hbound {row : Profile} (hrow : row ∈ s0.table.rows) :
        row.id ≤ g.storage.table.sequence :=
      Nat.le_trans (s0.table.ids row hrow).2 hsyncing.sequence
    refine {
      orders := ?orders, marked := ?marked, demoted := ?demoted, calm := ?calm
      disturbed := ?disturbed }
    case orders =>
      intro row hrow object hobject
      rcases hcreates.object_cases hsyncing (hbound hrow) with hsame | ⟨-, old, hold, -, hnew⟩
      · rw [hsame] at hobject
        exact h.orders row hrow object hobject
      · rw [hnew] at hobject
        cases hobject
        exact h.orders row hrow old hold
    case marked =>
      intro row hrow object hobject hactive
      rcases hcreates.object_cases hsyncing (hbound hrow) with hsame | ⟨hmarked, -⟩
      · rw [hsame] at hobject
        exact hcreates.toUpdate _ (h.marked row hrow object hobject hactive)
      · exact hmarked
    case demoted =>
      intro row hrow hactive
      exact hcreates.toUpdate _ (h.demoted row hrow hactive)
    case calm =>
      intro hmatched
      refine (h.calm hmatched.of_append).create ?_ hcreates.toUpdate
      cases hcreates with
      | subscribed hnew =>
          -- A matched request finds a row, so its key has an object from the start.
          exfalso
          obtain ⟨hfree, -⟩ := heir_eq_none_iff.mp (hlogged.heir_eq_none.mpr hnew)
          have hmem : profile.key ∈ (requests ++ [profile]).map Profile.key := by simp
          obtain ⟨first, hfirst, -⟩ := exists_first_request hmem
          obtain ⟨row, hrow, -⟩ := hmatched _ _ hfirst
          rw [hrestart.subscribed, hrow, Option.map_some] at hfree
          cases hfree
      | known old hold hactive => rfl
      | obsolete old hold hobsolete => rfl
    case disturbed =>
      intro hbroken
      by_cases hmatched : Matched s0.table.rows requests
      · obtain ⟨hnew, hunmatched⟩ := hmatched.first_of_concat hbroken
        exact hrestart.disturbed hsyncing hlogged hcreates hnew hunmatched
      · exact (h.disturbed hmatched).create hsyncing hcreates
  set := by
    intro requests pointers m g key object hsyncing hlogged h hobject hactive target
    have hchanged (known : Nat) :=
      object?_updateObject m object.id known (Profile.wireTo target) (fun _ => rfl)
    have hback {known : Nat} {found : Profile}
        (hfound : (m.updateObject object.id (Profile.wireTo target)).object? known = some found) :
        ∃ old, m.object? known = some old ∧ found.userOrder = old.userOrder ∧
          found.subscription = old.subscription := by
      rw [hchanged, Option.map_eq_some_iff] at hfound
      obtain ⟨old, hold, rfl⟩ := hfound
      refine ⟨old, hold, ?_⟩
      split <;> exact ⟨rfl, rfl⟩
    refine { h with
      orders := ?orders, marked := ?marked, calm := ?calm, disturbed := ?disturbed }
    case orders =>
      intro row hrow found hfound
      obtain ⟨old, hold, horder, -⟩ := hback hfound
      rw [horder]
      exact h.orders row hrow old hold
    case marked =>
      intro row hrow found hfound hfoundActive
      obtain ⟨old, hold, -, hstatus⟩ := hback hfound
      exact h.marked row hrow old hold (hstatus.symm.trans hfoundActive)
    case calm =>
      intro hmatched
      obtain ⟨row, hfirst, hid, hcontent⟩ :=
        hrestart.row_of_matched hlogged hsyncing hmatched hobject
      have hrow := (firstSubscribed_mem hfirst).1
      have hmemory : m.object? row.id = some object := by
        rw [← hid]
        exact (hsyncing.get?_of_subscribed? hobject).2.1
      exact (h.calm hmatched).set hrow hid
        (erase_eq_of_content hcontent hid (h.orders row hrow object hmemory))
        (h.marked row hrow object hmemory hactive) target
    case disturbed =>
      intro hbroken
      rcases h.disturbed hbroken with hgrown | ⟨row, hrow, hmarked, old, hold, holdActive, hdiffers⟩
      · exact Or.inl hgrown
      · refine Or.inr ⟨row, hrow, hmarked, _, by rw [hchanged, hold, Option.map_some], ?_⟩
        split
        · exact ⟨holdActive, hdiffers⟩
        · exact ⟨holdActive, hdiffers⟩

end Steps

end WifiProject.Subscription
