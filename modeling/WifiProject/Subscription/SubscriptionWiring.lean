import WifiProject.Database.JsonImport
import WifiProject.Subscription.SubscriptionImport

/-!
What becomes of the fallbacks of a document when its profiles are merged into
the subscriptions. The profiles are taken as the sync holds them in memory: a
profile that was taken over is written back only after the last document.
-/

namespace WifiProject.Subscription

open Lib Database Bg Plugin

/-- The profiles that requests add, after those in `done`. -/
def newcomersAfter (m : SyncMemory) (done : List Profile) : List Profile → List Profile
  | [] => []
  | profile :: requests =>
      if (heir m done profile.key).isNone then
        { profile with subscription := .active } :: newcomersAfter m (done ++ [profile]) requests
      else newcomersAfter m (done ++ [profile]) requests

theorem newcomersAfter_concat (m : SyncMemory) (done requests : List Profile) (profile : Profile) :
    newcomersAfter m done (requests ++ [profile]) =
      newcomersAfter m done requests ++
        if (heir m (done ++ requests) profile.key).isNone then
          [{ profile with subscription := .active }]
        else [] := by
  induction requests generalizing done with
  | nil =>
      simp only [List.nil_append, List.append_nil, newcomersAfter]
  | cons first requests ih =>
      have hdone : done ++ first :: requests = done ++ [first] ++ requests := by simp
      simp only [List.cons_append, newcomersAfter, ih, hdone]
      split <;> rfl

section Prediction

variable (m : SyncMemory) (s : Storage) (servers : List Server)

/-- The rows that `finalize` queries. -/
def queriedRows : List Profile :=
  s.table.rows ++ newcomersAfter m [] (servers.map Server.profile)

/-- All that a document requests. -/
def requested : List Profile :=
  servers.map Server.profile ++ unresolved (queriedRows m s servers) (wiringByKey servers).values

/-- The profile that a fallback resolves to, as it is queried or requested. -/
def resolution (fallback : Profile) : Profile :=
  ((queriedRows m s servers).find? fallback.serves).getD { fallback with subscription := .active }

/-- What this profile is after the document. -/
def outcome (profile : Profile) : Profile :=
  if profile.subscription = .userConfigured then profile
  else (heir m (requested m s servers) profile.key).getD profile

/-- When the fallbacks of a document come out right in a sync, by the memory and
the rows before it: profiles with one key share one fallback or have none, a
profile that has none was not left with one by an earlier document, and the
fallback resolves to another profile that will do after the document. -/
def SubscriptionWires : Prop :=
  ∀ server ∈ servers,
    match server.fallback with
    | none => (wiringByKey servers).get? server.profile.key = none ∧
        ∀ old, m.subscribed? server.profile.key = some old → old.subscription = .active →
          old.udpFallback = none
    | some fallback => ∃ wired, (wiringByKey servers).get? server.profile.key = some wired ∧
        ((resolution m s servers wired).subscription = .userConfigured ∨
          (resolution m s servers wired).key ≠ server.profile.key) ∧
        fallback.serves (outcome m s servers (resolution m s servers wired)) = true

end Prediction

/-- What a search for a fallback can see of a row. -/
def glance (row : Profile) :
    (String × Int × String × String × Option String) × Profile.Key × SubscriptionStatus :=
  (row.endpoint, row.key, row.subscription)

theorem find?_serves_glance (fallback : Profile) {rows others : List Profile}
    (h : rows.map glance = others.map glance) :
    (rows.find? fallback.serves).map glance = (others.find? fallback.serves).map glance := by
  have hserves : fallback.serves = (servesAt fallback ∘ Prod.fst) ∘ glance := rfl
  rw [hserves, ← List.find?_map, ← List.find?_map, h]

/-- What is kept besides the log: the rows up to the query, and the user
configured rows. -/
structure WiringRows (m0 : SyncMemory) (s : Storage) (requests : List Profile)
    (pointers : List (Profile.Key × Nat)) (g : Watched) : Prop where
  rows : pointers = [] → g.storage.table.rows.map glance =
    (s.table.rows ++ newcomersAfter m0 [] requests).map glance
  users : ∀ row, row.subscription = .userConfigured →
    (row ∈ g.storage.table.rows ↔ row ∈ s.table.rows)

theorem wiringRows_invariant (s0 : Storage) (rows : List Profile) (m0 : SyncMemory) (s : Storage) :
    LogInvariant s0 rows m0 fun requests pointers _ g =>
      WiringRows m0 s requests pointers g where
  create := by
    intro requests pointers m g profile created m' g' hsyncing hlogged hrows hcreates
    have hsame (hknown : m.subscribed? profile.key ≠ none) :
        newcomersAfter m0 [] (requests ++ [profile]) = newcomersAfter m0 [] requests := by
      have hheir : heir m0 requests profile.key ≠ none := by
        rw [Ne, hlogged.heir_eq_none]
        exact hknown
      rw [newcomersAfter_concat, List.nil_append, if_neg, List.append_nil]
      rw [Option.isNone_iff_eq_none]
      exact hheir
    cases hcreates with
    | subscribed hnew =>
        have hheir : (heir m0 requests profile.key).isNone := by
          rw [Option.isNone_iff_eq_none, hlogged.heir_eq_none]
          exact hnew
        refine ⟨?_, ?_⟩
        · intro hnone
          rw [newcomersAfter_concat, List.nil_append, if_pos hheir, ← List.append_assoc,
            List.map_append, ← hrows.rows hnone]
          change (g.storage.table.rows ++ [_]).map glance = _
          rw [List.map_append]
          rfl
        · intro row huser
          rw [← hrows.users row huser]
          change row ∈ (g.storage.table.insert _).rows ↔ _
          rw [ProfileTable.mem_insert_iff]
          constructor
          · rintro (hmem | rfl)
            · exact hmem
            · cases huser
          · exact Or.inl
    | known old hold hactive =>
        refine ⟨?_, hrows.users⟩
        rw [hsame (by simp [hold])]
        exact hrows.rows
    | obsolete old hold hobsolete =>
        refine ⟨?_, hrows.users⟩
        rw [hsame (by simp [hold])]
        exact hrows.rows
  set := by
    intro requests pointers m g key object hsyncing hlogged hrows hobject hactive target
    obtain ⟨hget, -, -, -⟩ := hsyncing.get?_of_subscribed? hobject
    obtain ⟨-, stored, -, -, -, hstored, hsubscribed, -⟩ := hsyncing.known_row ⟨key, hget⟩
    refine ⟨by simp, ?_⟩
    intro row huser
    rw [← hrows.users row huser]
    change row ∈ (g.storage.table.update _).rows ↔ _
    rw [ProfileTable.mem_update_iff]
    constructor
    · rintro (⟨-, hmem⟩ | ⟨rfl, -⟩)
      · exact hmem
      · change object.subscription = _ at huser
        rw [hactive] at huser
        cases huser
    · intro hmem
      refine Or.inl ⟨?_, hmem⟩
      intro heq
      have hsame := (g.storage.table.find?_eq_some_iff object.id row).mpr ⟨hmem, heq⟩
      rw [hstored] at hsame
      cases hsame
      exact hsubscribed huser

/-- A server with a fallback is wired. -/
theorem wiringByKey_of_fallback {servers : List Server} {server : Server} (hserver : server ∈ servers)
    {fallback : Profile} (hfallback : server.fallback = some fallback) :
    ∃ wired, (wiringByKey servers).get? server.profile.key = some wired := by
  have hpending : ((fallbackMap servers).get? server.profile).isSome := by
    rw [fallbackMap_get?, List.getLast?_isSome]
    apply List.ne_nil_of_mem (a := fallback)
    apply List.mem_filterMap.mpr
    exact ⟨server, hserver, by simp [hfallback]⟩
  have hmember : server.profile ∈ servers.map Server.profile := List.mem_map_of_mem hserver
  apply Option.isSome_iff_exists.mp
  rw [LinkedMap.get?_isSome_iff, wiringByKey]
  have hslots : (servers.map fun server => (server.profile.key, server.profile)) =
      (servers.map Server.profile).map fun profile => (profile.key, profile) := by
    rw [List.map_map]
    rfl
  rw [hslots]
  exact mem_keys_wiring_of_pending Profile.key hmember hpending

/-- The pointers of a document by its entries. -/
theorem lastPointer_of_pointsAll {queried : List Profile} {m : SyncMemory}
    {entries : List (Profile.Key × Profile)} {new : List (Profile.Key × Nat)}
    (h : PointsAll queried m entries new) (hnodup : (entries.map Prod.fst).Nodup)
    (key : Profile.Key) :
    (key ∉ entries.map Prod.fst → lastPointer new key = none) ∧
      ∀ fallback, (key, fallback) ∈ entries →
        ∃ target, lastPointer new key = some target ∧ Points queried m fallback target := by
  have hkeys : new.map Prod.fst = entries.map Prod.fst := by
    induction h with
    | nil => rfl
    | cons hhead _ ih =>
        simp only [List.map_cons, List.nodup_cons] at hnodup ⊢
        rw [hhead.1, ih hnodup.2]
  refine ⟨?_, ?_⟩
  · intro hnot
    apply lastPointer_eq_none
    intro pointer hpointer heq
    apply hnot
    rw [← hkeys, ← heq]
    exact List.mem_map_of_mem hpointer
  · intro fallback hentry
    obtain ⟨pointer, hpointer, hkey, hpoints⟩ := exists_of_forall₂ h hentry
    refine ⟨pointer.2, ?_, hpoints⟩
    have hunique : ∀ other ∈ new, other.1 = key → other = pointer := by
      intro other hother heq
      apply List.inj_on_of_nodup_map (hkeys ▸ hnodup) hother hpointer
      rw [heq, hkey]
    unfold lastPointer
    cases hfind : new.reverse.find? (·.1 = key) with
    | none =>
        have hcontra := List.find?_eq_none.mp hfind pointer (List.mem_reverse.mpr hpointer)
        simp [hkey] at hcontra
    | some other =>
        have hother : other.1 = key := by simpa using List.find?_some hfind
        rw [hunique other (List.mem_reverse.mp (List.mem_of_find?_eq_some hfind)) hother]
        rfl

section Right

variable {s0 s : Storage} {rows : List Profile} {m m1 m' : SyncMemory} {g1 g' : Watched}
  {servers : List Server} {ids : List Nat} {new : List (Profile.Key × Nat)}

/-- The queried rows look as predicted. -/
theorem find?_queriedRows (h : WiringRows m s (servers.map Server.profile) [] g1)
    (fallback : Profile) :
    (g1.storage.table.rows.find? fallback.serves).map glance =
      ((queriedRows m s servers).find? fallback.serves).map glance :=
  find?_serves_glance fallback (h.rows rfl)

theorem unresolved_queriedRows (h : WiringRows m s (servers.map Server.profile) [] g1)
    (fallbacks : List Profile) :
    unresolved g1.storage.table.rows fallbacks = unresolved (queriedRows m s servers) fallbacks := by
  unfold unresolved
  congr 1
  funext fallback
  have hfind := congrArg Option.isNone (find?_queriedRows h fallback)
  rwa [Option.isNone_map, Option.isNone_map] at hfind

/-- The pointer that a profile starts with. -/
theorem heir_udpFallback_iff
    (hfresh : ∀ server ∈ servers, server.profile.udpFallback = none) {server : Server}
    (hserver : server ∈ servers) {object : Profile}
    (hheir : heir m (requested m s servers) server.profile.key = some object) :
    object.udpFallback = none ↔ ∀ old, m.subscribed? server.profile.key = some old →
      old.subscription = .active → old.udpFallback = none := by
  have hfirst : ∃ first, (requested m s servers).find? (·.key = server.profile.key) = some first ∧
      first.udpFallback = none := by
    have hkey : server.profile.key ∈ (servers.map Server.profile).map Profile.key :=
      List.mem_map_of_mem (List.mem_map_of_mem hserver)
    obtain ⟨first, hfind, hfirst⟩ := exists_first_request hkey
    obtain ⟨other, hother, rfl⟩ := List.mem_map.mp hfirst
    exact ⟨other.profile, by rw [requested, List.find?_append, hfind, Option.some_or],
      hfresh other hother⟩
  obtain ⟨first, hfind, hnone⟩ := hfirst
  unfold heir at hheir
  rw [hfind] at hheir
  cases hold : m.subscribed? server.profile.key with
  | none =>
      rw [hold] at hheir
      cases hheir
      simp [hnone]
  | some old =>
      rw [hold] at hheir
      simp only [Option.some.injEq, forall_eq']
      cases hheir
      split
      · rename_i hactive
        simp [hactive]
      · rename_i hobsolete
        simp only [hobsolete, false_imp_iff, iff_true]
        exact hnone

/-- The profile that a pointer leads to, against what was predicted. -/
theorem target_iff (himported : Imported s0 rows m
      (fun requests pointers _ g => WiringRows m s requests pointers g) servers [] [] ids m1 g1 new
      m' g')
    {server : Server} {id : Nat}
    (hid : m'.env.subscriptions.get? server.profile.key = some id) {wired : Profile} {target : Nat}
    (hpoints : Points g1.storage.table.rows m' wired target) (fallback : Profile) :
    (target ≠ id ∧ (g'.storage.table.find? target).isSome ∧ ∃ row, m'.object? target = some row ∧
      fallback.serves row = true) ↔
      ((resolution m s servers wired).subscription = .userConfigured ∨
        (resolution m s servers wired).key ≠ server.profile.key) ∧
      fallback.serves (outcome m s servers (resolution m s servers wired)) = true := by
  have hfinal := himported.final
  rw [List.nil_append, unresolved_queriedRows himported.queried.inv] at hfinal
  change LogState s0 rows m _ (requested m s servers) _ m' g' at hfinal
  have hsyncing := hfinal.syncing
  -- a pointer to the subscription with some key
  have hsubscribed {key : Profile.Key} (hget : m'.env.subscriptions.get? key = some target)
      {found : Profile} (hkey : found.key = key) (hfound : found.subscription ≠ .userConfigured) :
      (target ≠ id ∧ (g'.storage.table.find? target).isSome ∧ ∃ row, m'.object? target = some row ∧
        fallback.serves row = true) ↔
        (found.subscription = .userConfigured ∨ found.key ≠ server.profile.key) ∧
          fallback.serves (outcome m s servers found) = true := by
    obtain ⟨object, hobject, hmemory, -, -, -⟩ := hsyncing.subscribed?_eq_some hget
    obtain ⟨-, stored, -, -, -, hstored, -, -⟩ := hsyncing.known_row ⟨key, hget⟩
    obtain ⟨old, hheir, hcontent, -⟩ := hfinal.logged.heir_of_subscribed? hobject
    have hsame : target = id ↔ found.key = server.profile.key := by
      rw [hkey]
      constructor
      · rintro rfl
        exact hsyncing.key_inj hget hid
      · intro heq
        rw [heq, hid] at hget
        exact (Option.some.inj hget).symm
    have houtcome : outcome m s servers found = old := by
      rw [outcome, if_neg hfound, hkey, hheir]
      rfl
    simp only [ne_eq, hsame, hstored, Option.isSome_some, true_and, hmemory, Option.some.injEq,
      exists_eq_left', hfound, false_or, houtcome,
      fallback.serves_congr (content_endpoint hcontent)]
  have hlook := find?_queriedRows himported.queried.inv wired
  unfold Points at hpoints
  cases hfind : g1.storage.table.rows.find? wired.serves with
  | none =>
      rw [hfind] at hpoints hlook
      have hresolution : resolution m s servers wired = { wired with subscription := .active } := by
        rw [resolution, Option.map_eq_none_iff.mp hlook.symm]
        rfl
      rw [hresolution]
      exact hsubscribed hpoints rfl (by simp)
  | some row =>
      rw [hfind] at hpoints hlook
      obtain ⟨seen, hseen, hglance⟩ := Option.map_eq_some_iff.mp hlook.symm
      simp only [glance, Prod.mk.injEq] at hglance
      obtain ⟨hendpoint, hkey, hstatus⟩ := hglance
      have hresolution : resolution m s servers wired = seen := by
        rw [resolution, hseen]
        rfl
      have hmem : row ∈ g1.storage.table.rows := List.mem_of_find?_eq_some hfind
      rw [hresolution]
      by_cases huser : row.subscription = .userConfigured
      · have hrow : row ∈ g'.storage.table.rows :=
          (hfinal.inv.users row huser).mpr ((himported.queried.inv.users row huser).mp hmem)
        have hstored := (g'.storage.table.find?_eq_some_iff row.id row).mpr ⟨hrow, rfl⟩
        obtain ⟨object, hobject, hsame⟩ := hsyncing.userObject row hrow huser
        subst hpoints
        have hne : row.id ≠ id := by
          intro heq
          obtain ⟨-, stored, -, -, -, hother, hsub, -⟩ := hsyncing.known_row ⟨_, hid⟩
          rw [← heq, hstored] at hother
          cases hother
          exact hsub huser
        have houtcome : outcome m s servers seen = seen := by
          rw [outcome, if_pos (hstatus.trans huser)]
        simp only [ne_eq, hne, not_false_eq_true, hstored, Option.isSome_some, true_and,
          hobject, Option.some.injEq, exists_eq_left', hstatus.trans huser, true_or, houtcome,
          fallback.serves_congr (hsame.trans hendpoint.symm)]
      · have howned := himported.queried.syncing.owned row hmem huser
        rw [← hpoints] at howned
        exact hsubscribed (himported.grows _ _ howned) hkey (by rw [hstatus]; exact huser)

/-- What one server of a document has come to. -/
theorem wired_iff (himported : Imported s0 rows m
      (fun requests pointers _ g => WiringRows m s requests pointers g) servers [] [] ids m1 g1 new
      m' g')
    (hfresh : ∀ server ∈ servers, server.profile.udpFallback = none) {server : Server} {id : Nat}
    (hserver : server ∈ servers)
    (hid : m'.env.subscriptions.get? server.profile.key = some id) :
    (∃ profile, m'.object? id = some profile ∧
      match server.fallback with
      | none => profile.udpFallback = none
      | some fallback => ∃ target row, profile.udpFallback = some target ∧ target ≠ id ∧
          (g'.storage.table.find? target).isSome ∧ m'.object? target = some row ∧
            fallback.serves row = true) ↔
      match server.fallback with
      | none => (wiringByKey servers).get? server.profile.key = none ∧
          ∀ old, m.subscribed? server.profile.key = some old → old.subscription = .active →
            old.udpFallback = none
      | some fallback => ∃ wired, (wiringByKey servers).get? server.profile.key = some wired ∧
          ((resolution m s servers wired).subscription = .userConfigured ∨
            (resolution m s servers wired).key ≠ server.profile.key) ∧
          fallback.serves (outcome m s servers (resolution m s servers wired)) = true := by
  have hfinal := himported.final
  rw [List.nil_append, List.nil_append, unresolved_queriedRows himported.queried.inv] at hfinal
  change LogState s0 rows m _ (requested m s servers) new m' g' at hfinal
  obtain ⟨object, hobject, hmemory, -, -, -⟩ := hfinal.syncing.subscribed?_eq_some hid
  obtain ⟨old, hheir, -, hpointer⟩ := hfinal.logged.heir_of_subscribed? hobject
  have hlast := lastPointer_of_pointsAll himported.points (wiringByKey servers).nodupKeys
    server.profile.key
  simp only [hmemory, Option.some.injEq, exists_eq_left']
  have hwired {wired : Profile} (hget : (wiringByKey servers).get? server.profile.key = some wired) :
      ∃ target, object.udpFallback = some target ∧ Points g1.storage.table.rows m' wired target := by
    obtain ⟨target, htarget, hpoints⟩ := hlast.2 wired ((LinkedMap.get?_eq_some_iff _ _ _).mp hget)
    refine ⟨target, ?_, hpoints⟩
    rw [hpointer, htarget, Option.some_or]
  cases hfallback : server.fallback with
  | none =>
      cases hget : (wiringByKey servers).get? server.profile.key with
      | some wired =>
          obtain ⟨target, htarget, -⟩ := hwired hget
          simp [htarget]
      | none =>
          have hnone : lastPointer new server.profile.key = none := by
            apply hlast.1
            exact (LinkedMap.get?_eq_none_iff _ _).mp hget
          simp only [hpointer, hnone, Option.none_or, true_and]
          exact heir_udpFallback_iff hfresh hserver hheir
  | some fallback =>
      obtain ⟨wired, hget⟩ := wiringByKey_of_fallback hserver hfallback
      obtain ⟨target, htarget, hpoints⟩ := hwired hget
      have hiff := target_iff himported hid hpoints fallback
      simp only [htarget, Option.some.injEq, exists_and_left, exists_eq_left', hget]
      exact hiff

theorem wiredRight_iff_subscriptionWires (himported : Imported s0 rows m
      (fun requests pointers _ g => WiringRows m s requests pointers g) servers [] [] ids m1 g1 new
      m' g')
    (hfresh : ∀ server ∈ servers, server.profile.udpFallback = none) :
    WiredRight servers ids m'.object? g'.storage.table ↔ SubscriptionWires m s servers := by
  have hids {i : Nat} {server : Server} {id : Nat} (hserver : servers[i]? = some server)
      (hid : ids[i]? = some id) : m'.env.subscriptions.get? server.profile.key = some id := by
    obtain ⟨hlt, rfl⟩ := List.getElem?_eq_some_iff.mp hserver
    obtain ⟨hlt', rfl⟩ := List.getElem?_eq_some_iff.mp hid
    exact himported.grows _ _ (List.Forall₂.get himported.ids hlt hlt')
  constructor
  · intro hright server hserver
    obtain ⟨i, hi⟩ := List.mem_iff_getElem?.mp hserver
    have hlt := (List.getElem?_eq_some_iff.mp hi).1
    rw [himported.ids.length_eq] at hlt
    have hid := List.getElem?_eq_getElem hlt
    exact (wired_iff himported hfresh hserver (hids hi hid)).mp (hright i server _ hi hid)
  · intro hwires i server id hserver hid
    have hmem := List.mem_of_getElem? hserver
    exact (wired_iff himported hfresh hmem (hids hserver hid)).mpr (hwires server hmem)

end Right

/-- `createProfilesFromSubscription` up to the document after these, and the
profile whose feature settings that document is parsed with. -/
def beforeDocument (order : HashOrder) (documents : List Document) :
    SyncCode (Option Profile) := do
  let currentId ← DataStore.profileId
  let profiles ← ProfileManager.getAllProfiles
  Routine.modify fun memory => { memory with objects := profiles }
  Routine.forEach profiles (preprocess currentId)
  Routine.forEach documents (syncDocument order (profiles.find? (·.id = currentId)))
  pure (profiles.find? (·.id = currentId))

theorem keeps_beforeDocument {s0 : Storage} (hopen : s0.isOpen = true) (order : HashOrder)
    (documents : List Document) :
    Routine.Keeps (watched 0) (beforeDocument order documents)
      (fun out m g => out = .ok (s0.table.rows.find? (·.id = s0.profileId)) ∧
        Syncing s0 s0.table.rows 0 m g) ⟨[], {}⟩ ⟨s0, none⟩ := by
  simp only [beforeDocument, Routine.keeps_bind]
  refine keeps_profileId ?_
  simp only [Routine.AndThen, Routine.keeps_bind]
  refine keeps_getAllProfiles hopen ?_
  intro totals
  have hrows : s0.table.rows.map (retraffic 0 totals) = s0.table.rows :=
    (List.map_congr_left fun row hrow => retraffic_zero totals s0.table hrow).trans (List.map_id _)
  have hpreprocessing := keeps_preprocessing hopen (Nat.zero_le _) totals
  simp only [hrows] at hpreprocessing
  simp only [Routine.AndThen, Routine.keeps_bind, Routine.keeps_modify, hrows]
  refine hpreprocessing.mono ?_
  rintro out m g ⟨rfl, hpreprocessed, -⟩
  simp only [Routine.AndThen, Routine.keeps_bind]
  refine (keeps_documents hpreprocessed.finish order _ documents).mono ?_
  rintro out m g ⟨rfl, hsyncing⟩
  exact ⟨rfl, hsyncing⟩

/-- One document of a sync, after the documents before it. -/
theorem wiredRight_create_iff (order : HashOrder) (earlier : List Document) {json : JsonElement}
    {s : Storage} {servers : List Server} (hopen : s.isOpen = true)
    (hservers : process order (s.table.rows.find? (·.id = s.profileId)) json = .ok servers) :
    let before := Routine.exec Storage.handle (beforeDocument order earlier) ⟨[], {}⟩ s
    let run := Routine.exec Storage.handle
      (parseJson order json (s.table.rows.find? (·.id = s.profileId)) create)
      before.2.1 before.2.2
    before.1 = .ok (s.table.rows.find? (·.id = s.profileId)) ∧ ∃ ids, run.1 = .ok ids ∧
      (WiredRight servers ids run.2.1.object? run.2.2.table ↔
        SubscriptionWires before.2.1 before.2.2 servers) := by
  intro before run
  have hbefore : Routine.Keeps (watched 0) _ _ _ _ := keeps_beforeDocument hopen order earlier
  obtain ⟨g, hstorage, hfeature, hsyncing⟩ := hbefore.exec honours_watched_zero rfl
  change g.storage = before.2.2 at hstorage
  change before.1 = _ at hfeature
  change Syncing s s.table.rows 0 before.2.1 g at hsyncing
  refine ⟨hfeature, ?_⟩
  have hstart : LogState s s.table.rows before.2.1
      (fun requests pointers _ g => WiringRows before.2.1 before.2.2 requests pointers g) [] []
      before.2.1 g := by
    refine ⟨hsyncing, Logged.refl _, ?_, ?_⟩
    · intro _
      rw [hstorage, newcomersAfter, List.append_nil]
    · intro row _
      rw [hstorage]
  have hrun : Routine.Keeps (watched 0) _ _ _ _ := keeps_parseJson_logged
    (wiringRows_invariant s s.table.rows before.2.1 before.2.2) hservers hstart
  obtain ⟨g', hstorage', ids, m1, g1, new, hids, himported⟩ :=
    hrun.exec honours_watched_zero hstorage
  change g'.storage = run.2.2 at hstorage'
  refine ⟨ids, hids, ?_⟩
  have hright := wiredRight_iff_subscriptionWires himported fun server hserver =>
    (process_fresh order _ hservers server hserver).1.udpFallback
  rw [hstorage'] at hright
  exact hright

/-- The sync is this, the documents that are left, and the write-back. -/
theorem sync_append {order : HashOrder} {s : Storage} (hopen : s.isOpen = true)
    (earlier later : List Document) :
    let before := Routine.exec Storage.handle (beforeDocument order earlier) ⟨[], {}⟩ s
    sync order (earlier ++ later) s = Routine.exec Storage.handle
      (do
        Routine.forEach later (syncDocument order (s.table.rows.find? (·.id = s.profileId)))
        Routine.forEach s.table.rows writeBack : SyncCode Unit) before.2.1 before.2.2 := by
  intro before
  have hkeeps : Routine.Keeps (watched 0) _ _ _ _ := keeps_beforeDocument hopen order earlier
  obtain ⟨-, -, hreturns, -⟩ := hkeeps.exec honours_watched_zero rfl
  change before.1 = _ at hreturns
  simp only [before, beforeDocument, Routine.exec_bind, exec_profileId, exec_getAllProfiles, hopen,
    if_true, Routine.exec_modify] at hreturns ⊢
  simp only [sync, createProfilesFromSubscription, Routine.exec_bind, exec_profileId,
    exec_getAllProfiles, hopen, if_true, Routine.exec_modify, Routine.exec_forEach_append]
  cases hpreprocessed : Routine.exec Storage.handle
      (Routine.forEach s.table.rows (preprocess s.profileId)) ⟨s.table.rows, {}⟩ s with
  | mk out rest =>
      obtain ⟨m, s'⟩ := rest
      rw [hpreprocessed] at hreturns
      cases out with
      | error failure => simp at hreturns
      | ok _ =>
          simp only at hreturns ⊢
          cases hsynced : Routine.exec Storage.handle (Routine.forEach earlier
              (syncDocument order (s.table.rows.find? (·.id = s.profileId)))) m s' with
          | mk out rest =>
              rw [hsynced] at hreturns
              cases out with
              | error failure => simp at hreturns
              | ok _ => rfl

/-- When a document gets its fallbacks right, with both callbacks. -/
theorem parseJson_wiredRight_iff (order : HashOrder) (json : JsonElement) (s : Storage)
    (hopen : s.isOpen = true) :
    (∀ previous env feature servers, process order feature json = .ok servers →
      let run := Routine.exec Storage.handle
        (parseJson order json feature (createFromJson previous)) ⟨[], env⟩ s
      run.1 = .ok (createdIds s servers) ∧
        (WiredRight servers (createdIds s servers) run.2.2.table.find? run.2.2.table ↔
          JsonWires (baseRows previous env s) servers)) ∧
    ∀ earlier servers,
      process order (s.table.rows.find? (·.id = s.profileId)) json = .ok servers →
      let before := Routine.exec Storage.handle (beforeDocument order earlier) ⟨[], {}⟩ s
      let run := Routine.exec Storage.handle
        (parseJson order json (s.table.rows.find? (·.id = s.profileId)) create)
        before.2.1 before.2.2
      before.1 = .ok (s.table.rows.find? (·.id = s.profileId)) ∧ ∃ ids, run.1 = .ok ids ∧
        (WiredRight servers ids run.2.1.object? run.2.2.table ↔
          SubscriptionWires before.2.1 before.2.2 servers) :=
  ⟨fun previous env _ _ hservers => wiredRight_createFromJson_iff previous env hopen hservers,
    fun earlier _ hservers => wiredRight_create_iff order earlier hopen hservers⟩

/-- A database without rows. -/
def emptyStorage : Storage where
  isOpen := true
  table := .empty
  profileId := 0
  directBootAware := false
  deviceFile := .absent

/-- The members of a server object. -/
def serverMembers (host : String) : List (String × JsonElement) :=
  [("server", .string host), ("server_port", .number "1"), ("password", .string "p"),
    ("method", .string "m")]

/-- A server object with a fallback. -/
def serverWithFallback (host fallback : String) : JsonElement :=
  .object (serverMembers host ++ [("udp_fallback", .object (serverMembers fallback))])

/-- The profile parsed from such members. -/
def parsedProfile (host : String) : Profile :=
  { name := none, host := host, remotePort := 1, password := "p", method := "m" }

/-- The server parsed from a server object with a fallback. -/
def parsedServer (host fallback : String) : Server :=
  ⟨parsedProfile host, some (parsedProfile fallback)⟩

/-- A fallback at another address comes out right on an empty table. -/
theorem parseJson_wiredRight_apart :
    (let run := Routine.exec Storage.handle (parseJson .insertion (serverWithFallback "h" "g") none
        (createFromJson none)) ⟨[], {}⟩ emptyStorage
     WiredRight [parsedServer "h" "g"] [1] run.2.2.table.find? run.2.2.table) ∧
    let before := Routine.exec Storage.handle (beforeDocument .insertion []) ⟨[], {}⟩ emptyStorage
    let run := Routine.exec Storage.handle
      (parseJson .insertion (serverWithFallback "h" "g") none create) before.2.1 before.2.2
    ∃ ids, run.1 = .ok ids ∧
      WiredRight [parsedServer "h" "g"] ids run.2.1.object? run.2.2.table := by
  have hservers : process .insertion none (serverWithFallback "h" "g") =
      .ok [parsedServer "h" "g"] := by decide +kernel
  have hboth := parseJson_wiredRight_iff .insertion (serverWithFallback "h" "g") emptyStorage rfl
  refine ⟨(hboth.1 none {} none _ hservers).2.mpr ⟨?_, ?_⟩, ?_⟩
  · intro i j server other hij hserver hother
    have hi := (List.getElem?_eq_some_iff.mp hserver).1
    have hj := (List.getElem?_eq_some_iff.mp hother).1
    simp only [List.length_singleton] at hi hj
    omega
  · intro i server fallback hserver hfallback
    have hi := (List.getElem?_eq_some_iff.mp hserver).1
    simp only [List.length_singleton] at hi
    obtain rfl : i = 0 := by omega
    cases hserver
    cases hfallback
    have hnone : (baseRows none {} emptyStorage ++ [parsedProfile "h"]).findIdx?
        (parsedProfile "g").serves = none := by decide +kernel
    have hmap : [parsedServer "h" "g"].map Server.profile = [parsedProfile "h"] := rfl
    rw [hmap, hnone]
    rfl
  · have hfeature : emptyStorage.table.rows.find? (·.id = emptyStorage.profileId) = none := rfl
    rw [hfeature] at hboth
    obtain ⟨-, ids, hids, hright⟩ := hboth.2 [] _ hservers
    refine ⟨ids, hids, hright.mpr ?_⟩
    intro server hserver
    rw [List.mem_singleton.mp hserver]
    have hwired : (wiringByKey [parsedServer "h" "g"]).get? (parsedProfile "h").key =
        some (parsedProfile "g") := by decide +kernel
    refine ⟨parsedProfile "g", hwired, Or.inr ?_, ?_⟩ <;> decide +kernel

/-- Of two equal server objects in a file the second profile gets no fallback; in
a sync, a fallback that equals its server leads back to the profile itself. -/
theorem wiredRight_fails_equal :
    (let run := Routine.exec Storage.handle (parseJson .insertion
        (.array [serverWithFallback "h" "g", serverWithFallback "h" "g"]) none (createFromJson none))
        ⟨[], {}⟩ emptyStorage
     process .insertion none (.array [serverWithFallback "h" "g", serverWithFallback "h" "g"]) =
         .ok [parsedServer "h" "g", parsedServer "h" "g"] ∧ run.1 = .ok [1, 2] ∧
       ¬ WiredRight [parsedServer "h" "g", parsedServer "h" "g"] [1, 2] run.2.2.table.find?
         run.2.2.table) ∧
    let before := Routine.exec Storage.handle (beforeDocument .insertion []) ⟨[], {}⟩ emptyStorage
    let run := Routine.exec Storage.handle
      (parseJson .insertion (serverWithFallback "h" "h") none create) before.2.1 before.2.2
    process .insertion none (serverWithFallback "h" "h") = .ok [parsedServer "h" "h"] ∧
      run.1 = .ok [1] ∧
        ¬ WiredRight [parsedServer "h" "h"] [1] run.2.1.object? run.2.2.table := by
  refine ⟨⟨by decide +kernel, by decide +kernel, ?_⟩, by decide +kernel, by decide +kernel, ?_⟩
  · intro hright
    obtain ⟨profile, hprofile, target, row, htarget, -⟩ := hright 1 _ 2 rfl rfl
    have hnone : ((Routine.exec Storage.handle (parseJson .insertion
        (.array [serverWithFallback "h" "g", serverWithFallback "h" "g"]) none (createFromJson none))
        ⟨[], {}⟩ emptyStorage).2.2.table.find? 2).bind Profile.udpFallback = none := by
      decide +kernel
    rw [hprofile, Option.bind_some, htarget] at hnone
    cases hnone
  · intro hright
    obtain ⟨profile, hprofile, target, row, htarget, hne, -⟩ := hright 0 _ 1 rfl rfl
    have hself : ((Routine.exec Storage.handle
        (parseJson .insertion (serverWithFallback "h" "h") none create)
        (Routine.exec Storage.handle (beforeDocument .insertion []) ⟨[], {}⟩ emptyStorage).2.1
        (Routine.exec Storage.handle (beforeDocument .insertion []) ⟨[], {}⟩
          emptyStorage).2.2).2.1.object? 1).bind Profile.udpFallback = some 1 := by
      decide +kernel
    rw [hprofile, Option.bind_some, htarget] at hself
    exact hne (Option.some.inj hself)

end WifiProject.Subscription
