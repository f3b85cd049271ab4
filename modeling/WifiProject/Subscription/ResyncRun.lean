import WifiProject.Subscription.Resync
import WifiProject.Subscription.SubscriptionWiring

/-!
A whole sync of documents that the table may already hold, and when it leaves
the table as it is.
-/

namespace WifiProject.Subscription

open Lib Database Bg Plugin

section Plan

variable (order : HashOrder) (documents : List Document) (s : Storage)

/-- The profile whose feature settings a sync parses its documents with. -/
def featureProfile : Option Profile := s.table.rows.find? (·.id = s.profileId)

/-- All that a sync of these documents is going to request. -/
def requestsOf : List Profile :=
  documents.flatMap fun document =>
    plannedRequests s.table.rows (parsedServers order (featureProfile s) document)

/-- All the pointers it is going to set. -/
def pointersOf : List (Profile.Key × Nat) :=
  documents.flatMap fun document =>
    plannedPointers s.table.rows (parsedServers order (featureProfile s) document)

end Plan

/-- The documents in `done` have gone as planned, or something will show. -/
def Rehearsed (order : HashOrder) (done : List Document) (s0 : Storage) (m0 m : SyncMemory)
    (g : Watched) : Prop :=
  ∃ requests pointers, LogState s0 s0.table.rows m0
      (fun requests _ m g => Resyncing s0.table requests m g) requests pointers m g ∧
    (requests = requestsOf order done s0 ∧ pointers = pointersOf order done s0 ∨
      ¬ Matched s0.table.rows requests ∧ ¬ Matched s0.table.rows (requestsOf order done s0))

section Documents

variable {order : HashOrder} {s0 : Storage} {m0 m m' m1 : SyncMemory} {g g' g1 : Watched}
  {servers : List Server} {requests : List Profile} {pointers new : List (Profile.Key × Nat)}
  {ids : List Nat}

theorem Calm.find?_serves {table : ProfileTable} (h : Calm table m g) (fallback : Profile) :
    (g.storage.table.rows.find? fallback.serves).map Profile.id =
      (table.rows.find? fallback.serves).map Profile.id := by
  have hserves : fallback.serves = fallback.serves ∘ erase := rfl
  have hid : Profile.id = Profile.id ∘ erase := rfl
  rw [hserves, hid, ← Option.map_map, ← Option.map_map, ← List.find?_map, ← List.find?_map, h.rows]

theorem Calm.unresolved {table : ProfileTable} (h : Calm table m g) (fallbacks : List Profile) :
    unresolved g.storage.table.rows fallbacks = unresolved table.rows fallbacks := by
  unfold Subscription.unresolved
  congr 1
  funext fallback
  have hfind := congrArg Option.isNone (h.find?_serves fallback)
  rwa [Option.isNone_map, Option.isNone_map] at hfind

/-- The pointers of a document are those that were planned. -/
theorem Calm.pointers_eq (h : Calm s0.table m1 g1) (hrestart : Restart s0.table.rows m0)
    (hkept : ∀ key known, m0.env.subscriptions.get? key = some known →
      m'.env.subscriptions.get? key = some known)
    (hmatched : Matched s0.table.rows (requests ++ plannedRequests s0.table.rows servers))
    (hpoints : PointsAll g1.storage.table.rows m' (wiringByKey servers).entries new) :
    new = plannedPointers s0.table.rows servers := by
  have htarget {entry : Profile.Key × Profile} (hentry : entry ∈ (wiringByKey servers).entries)
      {target : Nat} (htarget : Points g1.storage.table.rows m' entry.2 target) :
      target = plannedTarget s0.table.rows entry.2 := by
    have hfind := h.find?_serves entry.2
    unfold Points at htarget
    unfold plannedTarget
    cases hplanned : s0.table.rows.find? entry.2.serves with
    | some row =>
        rw [hplanned, Option.map_some, Option.map_eq_some_iff] at hfind
        obtain ⟨found, hfound, hid⟩ := hfind
        rw [hfound] at htarget
        exact htarget.trans hid
    | none =>
        rw [hplanned, Option.map_none, Option.map_eq_none_iff] at hfind
        rw [hfind] at htarget
        have hrequested : entry.2 ∈ requests ++ plannedRequests s0.table.rows servers := by
          apply List.mem_append_right
          apply List.mem_append_right
          apply List.mem_filter.mpr
          refine ⟨List.mem_map_of_mem hentry, ?_⟩
          rw [hplanned]
          rfl
        have hsome : ((requests ++ plannedRequests s0.table.rows servers).find?
            (·.key = entry.2.key)).isSome := by
          rw [List.find?_isSome]
          exact ⟨entry.2, hrequested, by simp⟩
        obtain ⟨first, hfirst⟩ := Option.isSome_iff_exists.mp hsome
        obtain ⟨row, hrow, -⟩ := hmatched _ _ hfirst
        have hget := hkept entry.2.key row.id (by
          rw [hrestart.subscriptions, hrow, Option.map_some])
        rw [hget] at htarget
        rw [hrow]
        exact (Option.some.inj htarget).symm
  unfold plannedPointers
  generalize (wiringByKey servers).entries = entries at *
  induction hpoints with
  | nil => rfl
  | cons hhead _ ih =>
      rw [List.map_cons, ← ih fun hentry => htarget (List.mem_cons_of_mem _ hentry)]
      rw [← htarget List.mem_cons_self hhead.2, ← hhead.1]

/-- A document that has been parsed. -/
theorem Rehearsed.imported (hrestart : Restart s0.table.rows m0) {done : List Document}
    {document : Document} (hservers : parsedServers order (featureProfile s0) document = servers)
    (hplan : requests = requestsOf order done s0 ∧ pointers = pointersOf order done s0 ∨
      ¬ Matched s0.table.rows requests ∧ ¬ Matched s0.table.rows (requestsOf order done s0))
    (h : Imported s0 s0.table.rows m0 (fun requests _ m g => Resyncing s0.table requests m g) servers
      requests pointers ids m1 g1 new m' g') :
    Rehearsed order (done ++ [document]) s0 m0 m' g' := by
  have hrequests : requestsOf order (done ++ [document]) s0 =
      requestsOf order done s0 ++ plannedRequests s0.table.rows servers := by
    simp [requestsOf, hservers]
  have hpointers : pointersOf order (done ++ [document]) s0 =
      pointersOf order done s0 ++ plannedPointers s0.table.rows servers := by
    simp [pointersOf, hservers]
  refine ⟨_, _, h.final, ?_⟩
  rw [hrequests, hpointers, List.append_assoc]
  rcases hplan with ⟨hplanned, hpointed⟩ | ⟨hbroken, hbroken'⟩
  · rw [← hplanned, ← hpointed]
    by_cases hqueried : Matched s0.table.rows (requests ++ servers.map Server.profile)
    · -- the query saw the rows that the plan was made from
      have hcalm := h.queried.inv.calm hqueried
      have hsame : servers.map Server.profile ++
          unresolved g1.storage.table.rows (wiringByKey servers).values =
            plannedRequests s0.table.rows servers := by
        rw [hcalm.unresolved]
        rfl
      rw [hsame]
      by_cases hmatched : Matched s0.table.rows (requests ++ plannedRequests s0.table.rows servers)
      · refine Or.inl ⟨rfl, ?_⟩
        rw [hcalm.pointers_eq hrestart h.final.logged.kept hmatched h.points]
      · exact Or.inr ⟨hmatched, hmatched⟩
    · refine Or.inr ⟨?_, ?_⟩
      · intro hmatched
        rw [← List.append_assoc] at hmatched
        exact hqueried hmatched.of_append
      · intro hmatched
        rw [plannedRequests, ← List.append_assoc] at hmatched
        exact hqueried hmatched.of_append
  · exact Or.inr ⟨fun hmatched => hbroken hmatched.of_append,
      fun hmatched => hbroken' hmatched.of_append⟩

/-- A document without servers changes nothing. -/
theorem Rehearsed.skip {done : List Document} {document : Document}
    (hservers : parsedServers order (featureProfile s0) document = [])
    (h : Rehearsed order done s0 m0 m g) : Rehearsed order (done ++ [document]) s0 m0 m g := by
  have hempty : wiringByKey [] = LinkedMap.empty := rfl
  have hrequests : requestsOf order (done ++ [document]) s0 = requestsOf order done s0 := by
    simp [requestsOf, hservers, plannedRequests, hempty, unresolved, LinkedMap.values,
      LinkedMap.empty]
  have hpointers : pointersOf order (done ++ [document]) s0 = pointersOf order done s0 := by
    simp [pointersOf, hservers, plannedPointers, hempty, LinkedMap.empty]
  obtain ⟨requests, pointers, hstate, hplan⟩ := h
  refine ⟨requests, pointers, hstate, ?_⟩
  rw [hrequests, hpointers]
  exact hplan

theorem keeps_syncDocument_rehearsed (hrestart : Restart s0.table.rows m0) {done : List Document}
    (document : Document) (h : Rehearsed order done s0 m0 m g) :
    Routine.Keeps (watched 0) (syncDocument order (featureProfile s0) document)
      (fun out m' g' => out = .ok () ∧ Rehearsed order (done ++ [document]) s0 m0 m' g') m g := by
  simp only [syncDocument, Routine.keeps_tryCatch, Routine.keeps_bind]
  unfold Document.single
  split
  · rename_i helements hmalformed
    exact ⟨rfl, h.skip (by simp [parsedServers, helements])⟩
  · rename_i message helements hmalformed
    exact ⟨rfl, h.skip (by simp [parsedServers, helements])⟩
  · rename_i json helements hmalformed
    simp only [Routine.keeps_pure, Routine.AndThen, Routine.keeps_bind]
    cases hprocess : process order (featureProfile s0) json with
    | error message =>
        have hthrows : (processed order (featureProfile s0) json : SyncCode (List Server)) =
            throw (.illegalState message) := by
          simp [processed, hprocess]
        simp only [parseJson, Routine.keeps_bind, hthrows]
        exact ⟨rfl, h.skip (by simp [parsedServers, helements, hmalformed, hprocess, Except.toOption])⟩
    | ok servers =>
        have hservers : parsedServers order (featureProfile s0) document = servers := by
          simp [parsedServers, helements, hmalformed, hprocess, Except.toOption]
        obtain ⟨requests, pointers, hstate, hplan⟩ := h
        refine (keeps_parseJson_logged (resyncing_invariant hrestart) hprocess hstate).mono ?_
        rintro out m' g' ⟨ids, m1, g1, new, rfl, himported⟩
        exact ⟨rfl, Rehearsed.imported hrestart hservers hplan himported⟩
  · rename_i helements hmalformed
    exact ⟨rfl, h.skip (by simp [parsedServers, helements, hmalformed])⟩
  · rename_i helements
    exact ⟨rfl, h.skip (by simp [parsedServers, helements])⟩

theorem keeps_documents_rehearsed (hrestart : Restart s0.table.rows m0) (documents : List Document)
    (h : Rehearsed order [] s0 m0 m g) :
    Routine.Keeps (watched 0)
      (Routine.forEach documents (syncDocument order (featureProfile s0)))
      (fun out m' g' => out = .ok () ∧ Rehearsed order documents s0 m0 m' g') m g := by
  have hloop := Routine.keeps_forEach (c := watched 0)
    (fun rest m g => ∃ done, documents = done ++ rest ∧ Rehearsed order done s0 m0 m g)
    (fun _ _ _ => False) (syncDocument order (featureProfile s0)) ?_ documents m g ⟨[], rfl, h⟩
  · refine hloop.mono ?_
    intro out m g hout
    cases out with
    | error failure => exact hout.elim
    | ok _ =>
        obtain ⟨done, hdone, hrehearsed⟩ := hout
        rw [List.append_nil] at hdone
        subst hdone
        exact ⟨rfl, hrehearsed⟩
  · rintro document rest m g ⟨done, hdone, hrehearsed⟩
    refine (keeps_syncDocument_rehearsed hrestart document hrehearsed).mono ?_
    rintro out m g ⟨rfl, hout⟩
    exact ⟨done ++ [document], by simp [hdone], hout⟩

end Documents

/-- A parsed profile points nowhere, and neither does a fallback. -/
theorem requestsOf_fresh (order : HashOrder) (documents : List Document) (s : Storage) :
    ∀ profile ∈ requestsOf order documents s, profile.udpFallback = none := by
  intro profile hprofile
  obtain ⟨document, -, hrequest⟩ := List.mem_flatMap.mp hprofile
  have hfresh : ∀ server ∈ parsedServers order (featureProfile s) document,
      server.profile.Fresh ∧ ∀ fallback ∈ server.fallback, fallback.Fresh := by
    unfold parsedServers
    split
    · rename_i json _ _
      cases hprocess : process order (featureProfile s) json with
      | error message => simp [Except.toOption]
      | ok servers => exact process_fresh order (featureProfile s) hprocess
    · simp
  rcases List.mem_append.mp hrequest with hserver | hunresolved
  · obtain ⟨server, hmem, rfl⟩ := List.mem_map.mp hserver
    exact (hfresh server hmem).1.udpFallback
  · obtain ⟨entry, hentry, rfl⟩ := List.mem_map.mp (List.mem_filter.mp hunresolved).1
    rcases pending_of_mem_wiring hentry with hempty | ⟨main, hmain⟩
    · simp [LinkedMap.empty] at hempty
    · rw [fallbackMap_get?] at hmain
      obtain ⟨server, hmem, hfallback⟩ := List.mem_filterMap.mp (List.mem_of_getLast? hmain)
      split at hfallback
      · exact ((hfresh server hmem).2 entry.2 hfallback).udpFallback
      · cases hfallback

section Start

variable {s0 : Storage} {m : SyncMemory} {g : Watched}

/-- If no row is deleted, the documents start from the table as it was. -/
theorem Preprocessing.restart (h : Preprocessing s0 s0.table.rows 0 s0.table.rows [] m g)
    (hdemoted : Demoted s0.table.rows s0.table.rows m)
    (hkept : ∀ row ∈ s0.table.rows, Kept s0.table.rows row) :
    Restart s0.table.rows m := by
  refine ⟨h.subscriptions, ?_⟩
  intro key
  unfold SyncMemory.subscribed?
  rw [h.subscriptions]
  cases hfirst : firstSubscribed s0.table.rows key with
  | none => rfl
  | some row =>
      obtain ⟨hrow, hsubscribed, -⟩ := firstSubscribed_mem hfirst
      rw [Option.map_some, Option.bind_some, h.object?, h.rows_find? hrow, Option.map_some,
        Option.map_some]
      unfold demote
      split
      · rfl
      · rename_i hnot
        have hobsolete : row.subscription = .obsolete := by
          cases hstatus : row.subscription with
          | userConfigured => exact absurd hstatus hsubscribed
          | active => exact absurd (hdemoted row hrow hstatus (hkept row hrow)) hnot
          | obsolete => rfl
        rw [← hobsolete]

theorem Preprocessing.rehearsed (h : Preprocessing s0 s0.table.rows 0 s0.table.rows [] m g)
    (hdemoted : Demoted s0.table.rows s0.table.rows m)
    (hkept : ∀ row ∈ s0.table.rows, Kept s0.table.rows row) (order : HashOrder) :
    Rehearsed order [] s0 m m g := by
  have htable : g.storage.table = s0.table := by
    apply ProfileTable.ext_mem _ h.sequence
    intro row
    rw [h.table]
    constructor
    · exact And.left
    · intro hrow
      exact ⟨hrow, fun other hother _ => hkept other hother⟩
  have hobject {row : Profile} (hrow : row ∈ s0.table.rows) :
      m.object? row.id = some (demote m.env.toUpdate row) := by
    rw [h.object?, h.rows_find? hrow, Option.map_some]
  have hresyncing : Resyncing s0.table [] m g := by
    refine {
      orders := ?orders, marked := ?marked, demoted := ?demoted, calm := ?calm
      disturbed := ?disturbed }
    case orders =>
      intro row hrow object hfound
      rw [hobject hrow] at hfound
      cases hfound
      unfold demote
      split <;> rfl
    case marked =>
      intro row hrow object hfound hactive
      rw [hobject hrow] at hfound
      cases hfound
      unfold demote at hactive
      split at hactive
      · assumption
      · exact hdemoted row hrow hactive (hkept row hrow)
    case demoted =>
      intro row hrow hactive
      exact hdemoted row hrow hactive (hkept row hrow)
    case calm =>
      intro _
      refine ⟨by rw [htable], by rw [htable], ?_⟩
      intro row hrow _
      rw [htable] at hrow
      exact hrow
    case disturbed =>
      intro hbroken
      exact absurd (fun key profile hfind => by simp at hfind) hbroken
  exact ⟨[], [], ⟨h.finish, Logged.refl m, hresyncing⟩, Or.inl ⟨rfl, rfl⟩⟩

end Start

section End

variable {s0 : Storage} {m0 m : SyncMemory} {g : Watched} {final : ProfileTable}
  {requests : List Profile} {pointers : List (Profile.Key × Nat)}

/-- A disturbance shows. -/
theorem Disturbed.table_ne (h : Disturbed s0.table m g)
    (hwritten : WrittenBack s0.table.rows [] m g.storage.table final) : final ≠ s0.table := by
  rintro rfl
  rcases h with hgrown | ⟨row, hrow, hmarked, object, hobject, -, hdiffers⟩
  · have hsequence := hwritten.sequence
    omega
  · have hfind := hwritten.written row hrow (by simp) hmarked
    rw [(s0.table.find?_eq_some_iff row.id row).mpr ⟨hrow, rfl⟩, hobject] at hfind
    apply hdiffers
    rw [Option.some.inj hfind]
    exact ⟨rfl, rfl, rfl⟩

/-- A calm table ends as it was if every row does. -/
theorem Calm.table_eq_iff (h : Calm s0.table m g)
    (hwritten : WrittenBack s0.table.rows [] m g.storage.table final) :
    final = s0.table ↔ ∀ row ∈ s0.table.rows, final.find? row.id = some row := by
  constructor
  · rintro rfl row hrow
    exact (s0.table.find?_eq_some_iff row.id row).mpr ⟨hrow, rfl⟩
  · intro hall
    apply final.ext_mem (hwritten.sequence.trans h.sequence)
    intro row
    constructor
    · intro hrow
      have hfind := (final.find?_eq_some_iff row.id row).mpr ⟨hrow, rfl⟩
      have hold : ∃ old ∈ s0.table.rows, old.id = row.id := by
        by_contra hnone
        have hothers := hwritten.others row.id fun old hold heq => absurd ⟨old, hold, heq⟩ hnone
        rw [hfind] at hothers
        have hmem := ((g.storage.table.find?_eq_some_iff row.id row).mp hothers.symm).1
        have herased : erase row ∈ s0.table.rows.map erase := by
          rw [← h.rows]
          exact List.mem_map_of_mem hmem
        obtain ⟨old, hold, heq⟩ := List.mem_map.mp herased
        have hid : (erase old).id = (erase row).id := congrArg Profile.id heq
        exact hnone ⟨old, hold, hid⟩
      obtain ⟨old, hmem, hid⟩ := hold
      have hsame := hall old hmem
      rw [hid, hfind] at hsame
      cases hsame
      exact hmem
    · intro hrow
      exact ((final.find?_eq_some_iff row.id row).mp (hall row hrow)).1

/-- The object of a subscription row when all requests are matched. -/
theorem Resyncing.object_eq (h : Resyncing s0.table requests m g)
    (hrestart : Restart s0.table.rows m0) (hlogged : Logged m0 requests pointers m)
    (hsyncing : Syncing s0 s0.table.rows 0 m g) (hmatched : Matched s0.table.rows requests)
    (hfresh : ∀ profile ∈ requests, profile.udpFallback = none) {row : Profile}
    (hrow : row ∈ s0.table.rows) (hfirst : firstSubscribed s0.table.rows row.key = some row) :
    m.object? row.id = some (if row.key ∈ requests.map Profile.key then
      { row with subscription := .active, udpFallback := lastPointer pointers row.key }
      else { row with subscription := .obsolete }) := by
  have hstart : m0.subscribed? row.key = some { row with subscription := .obsolete } := by
    rw [hrestart.subscribed, hfirst, Option.map_some]
  have hget : m.env.subscriptions.get? row.key = some row.id := by
    apply hlogged.kept
    rw [hrestart.subscriptions, hfirst, Option.map_some]
  obtain ⟨object, hobject, hmemory, hid, -, -⟩ := hsyncing.subscribed?_eq_some hget
  obtain ⟨row', hrow', -, hcontent⟩ := hrestart.row_of_matched hlogged hsyncing hmatched hobject
  rw [hfirst] at hrow'
  cases hrow'
  obtain ⟨old, hheir, hsame, hpointer⟩ := hlogged.heir_of_subscribed? hobject
  have herase := erase_eq_of_content hcontent hid (h.orders row hrow object hmemory)
  have hparts : object = { row with
      subscription := object.subscription, udpFallback := object.udpFallback } := by
    have hwhole := congrArg (fun profile : Profile => { profile with
      subscription := object.subscription, udpFallback := object.udpFallback }) herase
    exact hwhole
  have hstatus := content_subscription hsame
  rw [hmemory, hparts]
  congr 1
  unfold heir at hheir
  rw [hstart] at hheir
  split
  · rename_i hrequested
    obtain ⟨first, hfind, hfirstRequest⟩ := exists_first_request hrequested
    rw [hfind] at hheir
    cases hheir
    have hnone : first.udpFallback = none := hfresh first hfirstRequest
    change object.subscription = .active at hstatus
    change object.udpFallback = (lastPointer pointers row.key).or first.udpFallback at hpointer
    rw [hnone, Option.or_none] at hpointer
    rw [hstatus, hpointer]
  · rename_i hrequested
    rw [first_request_eq_none_iff.mpr hrequested] at hheir
    cases hheir
    change object.subscription = .obsolete at hstatus
    have hnone : lastPointer pointers row.key = none := by
      apply lastPointer_eq_none
      intro pointer hpointer' heq
      obtain ⟨other, hother, hactive⟩ := hlogged.active pointer hpointer'
      rw [heq, hobject] at hother
      cases hother
      rw [hstatus] at hactive
      cases hactive
    rw [hnone, Option.none_or] at hpointer
    rw [hstatus, hpointer]

/-- When one row ends as it was. -/
theorem Resyncing.row_iff (h : Resyncing s0.table requests m g)
    (hrestart : Restart s0.table.rows m0) (hlogged : Logged m0 requests pointers m)
    (hsyncing : Syncing s0 s0.table.rows 0 m g) (hmatched : Matched s0.table.rows requests)
    (hfresh : ∀ profile ∈ requests, profile.udpFallback = none)
    (hwritten : WrittenBack s0.table.rows [] m g.storage.table final) {row : Profile}
    (hrow : row ∈ s0.table.rows) (hkept : Kept s0.table.rows row) :
    final.find? row.id = some row ↔
      (row.subscription ≠ .userConfigured →
        (row.subscription = .active ↔ row.key ∈ requests.map Profile.key)) ∧
      (row.subscription = .active → row.udpFallback = lastPointer pointers row.key) := by
  have hcalm := h.calm hmatched
  -- a row that is not written back has not been touched before either
  have hsame (hnot : row.id ∉ m.env.toUpdate) : final.find? row.id = some row := by
    rw [hwritten.others row.id fun _ _ _ => hnot]
    have hmem : erase row ∈ g.storage.table.rows.map erase := by
      rw [hcalm.rows]
      exact List.mem_map_of_mem hrow
    obtain ⟨now, hnow, herased⟩ := List.mem_map.mp hmem
    have hid : (erase now).id = (erase row).id := congrArg Profile.id herased
    change now.id = row.id at hid
    have hold := hcalm.untouched now hnow (by rw [hid]; exact hnot)
    rw [s0.table.eq_of_id_eq hold hrow hid] at hnow
    exact (g.storage.table.find?_eq_some_iff row.id row).mpr ⟨hnow, rfl⟩
  rcases hkept with huser | hfirst
  · have hnot : row.id ∉ m.env.toUpdate := by
      intro hmem
      obtain ⟨-, stored, -, -, -, hstored, hsubscribed, -⟩ :=
        hsyncing.known_row (hsyncing.toUpdate row.id hmem)
      have huserRow := hsyncing.user row hrow huser
      rw [(g.storage.table.find?_eq_some_iff row.id row).mpr ⟨huserRow, rfl⟩] at hstored
      cases hstored
      exact hsubscribed huser
    simp [hsame hnot, huser]
  · have hsubscribed := (firstSubscribed_mem hfirst).2.1
    have hobject := h.object_eq hrestart hlogged hsyncing hmatched hfresh hrow hfirst
    have hdirty := s0.table.stored row hrow
    by_cases hmem : row.id ∈ m.env.toUpdate
    · rw [hwritten.written row hrow (by simp) hmem, hobject, Option.map_some, Option.some.injEq]
      by_cases hrequested : row.key ∈ requests.map Profile.key
      · rw [if_pos hrequested]
        simp only [ne_eq, hsubscribed, not_false_eq_true, hrequested, iff_true, true_imp_iff]
        constructor
        · intro heq
          have hactive := congrArg Profile.subscription heq
          have hpointer := congrArg Profile.udpFallback heq
          exact ⟨hactive.symm, fun _ => hpointer.symm⟩
        · rintro ⟨hactive, hpointer⟩
          change { row with
            subscription := .active, udpFallback := lastPointer pointers row.key, dirty := false } = row
          rw [← hpointer hactive, ← hactive, ← hdirty]
      · rw [if_neg hrequested]
        simp only [ne_eq, hsubscribed, not_false_eq_true, hrequested, iff_false, true_imp_iff]
        constructor
        · intro heq
          have hobsolete := congrArg Profile.subscription heq
          change SubscriptionStatus.obsolete = row.subscription at hobsolete
          simp [← hobsolete]
        · rintro ⟨hinactive, -⟩
          have hobsolete : row.subscription = .obsolete := by
            cases hstatus : row.subscription with
            | userConfigured => exact absurd hstatus hsubscribed
            | active => exact absurd hstatus hinactive
            | obsolete => rfl
          change { row with subscription := .obsolete, dirty := false } = row
          rw [← hobsolete, ← hdirty]
    · have hinactive : row.subscription ≠ .active := fun hactive => hmem (h.demoted row hrow hactive)
      have hidle : row.key ∉ requests.map Profile.key := by
        intro hrequested
        rw [if_pos hrequested] at hobject
        exact hmem (h.marked row hrow _ hobject rfl)
      simp only [hsame hmem, hinactive, hidle, false_imp_iff, implies_true, and_self]

theorem Rehearsed.table_eq_iff {order : HashOrder} {documents : List Document}
    (h : Rehearsed order documents s0 m0 m g) (hrestart : Restart s0.table.rows m0)
    (hkept : ∀ row ∈ s0.table.rows, Kept s0.table.rows row)
    (hwritten : WrittenBack s0.table.rows [] m g.storage.table final) :
    final = s0.table ↔
      AtRest s0.table.rows (requestsOf order documents s0) (pointersOf order documents s0) := by
  obtain ⟨requests, pointers, hstate, hplan⟩ := h
  have hbroken (hunmatched : ¬ Matched s0.table.rows requests)
      (hplanned : ¬ Matched s0.table.rows (requestsOf order documents s0)) :
      final = s0.table ↔
        AtRest s0.table.rows (requestsOf order documents s0) (pointersOf order documents s0) := by
    have hne := (hstate.inv.disturbed hunmatched).table_ne hwritten
    constructor
    · intro heq
      exact absurd heq hne
    · intro hrest
      exact absurd hrest.matched hplanned
  rcases hplan with ⟨rfl, rfl⟩ | ⟨hunmatched, hplanned⟩
  · by_cases hmatched : Matched s0.table.rows (requestsOf order documents s0)
    · have hrows {row : Profile} (hrow : row ∈ s0.table.rows) :=
        hstate.inv.row_iff hrestart hstate.logged hstate.syncing hmatched
          (requestsOf_fresh order documents s0) hwritten hrow (hkept row hrow)
      rw [(hstate.inv.calm hmatched).table_eq_iff hwritten]
      constructor
      · intro hall
        exact ⟨hmatched, fun row hrow => ((hrows hrow).mp (hall row hrow)).1,
          fun row hrow => ((hrows hrow).mp (hall row hrow)).2⟩
      · intro hrest row hrow
        exact (hrows hrow).mpr ⟨hrest.active row hrow, hrest.pointing row hrow⟩
    · exact hbroken hmatched hmatched
  · exact hbroken hunmatched hplanned

end End

/-- A sync that finds no duplicates, to its end. -/
theorem keeps_resync {s0 : Storage} (hopen : s0.isOpen = true)
    (hkept : ∀ row ∈ s0.table.rows, Kept s0.table.rows row) (order : HashOrder)
    (documents : List Document) :
    Routine.Keeps (watched 0) (createProfilesFromSubscription order documents)
      (fun _ _ g => g.storage.table = s0.table ↔
        AtRest s0.table.rows (requestsOf order documents s0) (pointersOf order documents s0))
      ⟨[], {}⟩ ⟨s0, none⟩ := by
  simp only [createProfilesFromSubscription, Routine.keeps_bind]
  refine keeps_profileId ?_
  simp only [Routine.AndThen, Routine.keeps_bind]
  refine keeps_getAllProfiles hopen ?_
  intro totals
  have hrows : s0.table.rows.map (retraffic 0 totals) = s0.table.rows :=
    (List.map_congr_left fun row hrow => retraffic_zero totals s0.table hrow).trans (List.map_id _)
  have hpreprocessing := keeps_preprocessing hopen (Nat.zero_le _) totals
  simp only [hrows] at hpreprocessing
  simp only [Routine.AndThen, Routine.keeps_bind, Routine.keeps_modify, hrows]
  refine hpreprocessing.mono ?_
  rintro out m0 g0 ⟨rfl, hpreprocessed, hdemoted⟩
  have hrestart := hpreprocessed.restart hdemoted hkept
  simp only [Routine.AndThen, Routine.keeps_bind]
  refine (keeps_documents_rehearsed hrestart documents
    (hpreprocessed.rehearsed hdemoted hkept order)).mono ?_
  rintro out m g ⟨rfl, hrehearsed⟩
  have hsyncing : Syncing s0 s0.table.rows 0 m g := by
    obtain ⟨_, _, hstate, _⟩ := hrehearsed
    exact hstate.syncing
  simp only [Routine.AndThen]
  refine (keeps_writeBacks hsyncing).mono ?_
  rintro out m' g' ⟨-, rfl, hwritten⟩
  exact hrehearsed.table_eq_iff hrestart hkept hwritten

/-- When a sync leaves the table of an open database as it is. -/
theorem sync_table_eq_iff {s : Storage} (hopen : s.isOpen = true)
    (hkept : ∀ row ∈ s.table.rows, Kept s.table.rows row) (order : HashOrder)
    (documents : List Document) :
    (sync order documents s).2.2.table = s.table ↔
      AtRest s.table.rows (requestsOf order documents s) (pointersOf order documents s) := by
  have hkeeps : Routine.Keeps (watched 0) _ _ _ _ := keeps_resync hopen hkept order documents
  obtain ⟨g, hstorage, hiff⟩ := hkeeps.exec honours_watched_zero rfl
  rw [hstorage] at hiff
  exact hiff

theorem sync_isOpen {s : Storage} (hopen : s.isOpen = true) (order : HashOrder)
    (documents : List Document) : (sync order documents s).2.2.isOpen = true := by
  have hkeeps : Routine.Keeps (watched 0) _ _ _ _ :=
    keeps_sync hopen (Nat.zero_le _) order documents
  obtain ⟨g, hstorage, rows, hsynced⟩ := hkeeps.exec honours_watched_zero rfl
  change g.storage = (sync order documents s).2.2 at hstorage
  rw [← hstorage]
  exact hsynced.syncing.isOpen

/-- After a sync there are no duplicates. -/
theorem SyncFrame.kept {before after : Storage} (h : SyncFrame before after) :
    ∀ row ∈ after.table.rows, Kept after.table.rows row := by
  intro row hrow
  by_cases huser : row.subscription = .userConfigured
  · exact Or.inl huser
  · refine Or.inr ?_
    have hsome : (firstSubscribed after.table.rows row.key).isSome := by
      unfold firstSubscribed
      rw [List.find?_isSome]
      exact ⟨row, hrow, by simp [huser]⟩
    obtain ⟨first, hfirst⟩ := Option.isSome_iff_exists.mp hsome
    obtain ⟨hmem, hsubscribed, hkey⟩ := firstSubscribed_mem hfirst
    rw [hfirst, h.unique first hmem row hrow hsubscribed huser hkey]

/-- When a second sync of the same documents leaves the table as the first has
left it. -/
theorem resync_table_eq_iff (order : HashOrder) (documents : List Document) (s : Storage) :
    let after := (sync order documents s).2.2
    (sync order documents after).2.2.table = after.table ↔
      (s.isOpen = true → AtRest after.table.rows (requestsOf order documents after)
        (pointersOf order documents after)) := by
  intro after
  obtain ⟨-, hframe, hclosed⟩ := sync_frame order documents s
  cases hopen : s.isOpen with
  | false =>
      have hsame : after = s := hclosed hopen
      obtain ⟨-, -, hagain⟩ := sync_frame order documents after
      simp [hagain (by rw [hsame]; exact hopen)]
  | true =>
      have hkept := (hframe hopen).kept
      simp only [true_imp_iff]
      exact sync_table_eq_iff (sync_isOpen hopen order documents) hkept order documents

/-- A row that exists only as a fallback is given up by the second sync. -/
theorem resync_demotes_fallback :
    let documents := [⟨[serverWithFallback "h" "g"], none⟩]
    let after := (sync .insertion documents emptyStorage).2.2
    after.table.rows.map Profile.subscription = [.active, .active] ∧
      (sync .insertion documents after).2.2.table.rows.map Profile.subscription =
        [.active, .obsolete] ∧
      (sync .insertion documents after).2.2.table ≠ after.table := by
  decide +kernel

end WifiProject.Subscription
