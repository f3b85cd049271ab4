import WifiProject.Lib.Pointwise
import WifiProject.Subscription.ImportLog
import WifiProject.Subscription.SyncFrame

/-!
One document of a sync, by its log. The servers are requested in document order;
then every fallback that no queried row serves is requested too, and a pointer
is set for every profile that is wired.
-/

namespace WifiProject.Subscription

open Lib Database Bg Plugin

/-- The fallbacks of a document by the key of the profile they belong to. -/
def wiringByKey (servers : List Server) : LinkedMap Profile.Key Profile :=
  wiring (servers.map fun server => (server.profile.key, server.profile)) (fallbackMap servers)
    LinkedMap.empty

/-- The fallbacks that have to be requested themselves. -/
def unresolved (queried fallbacks : List Profile) : List Profile :=
  fallbacks.filter fun fallback => (queried.find? fallback.serves).isNone

/-- Where a fallback leads. -/
def Points (queried : List Profile) (m : SyncMemory) (fallback : Profile) (target : Nat) : Prop :=
  match queried.find? fallback.serves with
  | some row => target = row.id
  | none => m.env.subscriptions.get? fallback.key = some target

/-- An invariant of a sync that may depend on its log. -/
structure LogInvariant (s0 : Storage) (rows : List Profile) (m0 : SyncMemory)
    (inv : List Profile → List (Profile.Key × Nat) → SyncMemory → Watched → Prop) : Prop where
  create : ∀ {requests pointers m g profile created m' g'}, Syncing s0 rows 0 m g →
    Logged m0 requests pointers m → inv requests pointers m g →
      Creates profile m g created m' g' → inv (requests ++ [profile]) pointers m' g'
  set : ∀ {requests pointers m g key object}, Syncing s0 rows 0 m g →
    Logged m0 requests pointers m → inv requests pointers m g → m.subscribed? key = some object →
      object.subscription = .active → ∀ target, inv requests (pointers ++ [(key, target)])
        (m.updateObject object.id (Profile.wireTo target))
        (g.setTable (g.storage.table.update (object.wireTo target)))

/-- A state of a sync with its log. -/
structure LogState (s0 : Storage) (rows : List Profile) (m0 : SyncMemory)
    (inv : List Profile → List (Profile.Key × Nat) → SyncMemory → Watched → Prop)
    (requests : List Profile) (pointers : List (Profile.Key × Nat)) (m : SyncMemory) (g : Watched) :
    Prop where
  syncing : Syncing s0 rows 0 m g
  logged : Logged m0 requests pointers m
  inv : inv requests pointers m g

/-- The map of subscriptions only grows. -/
def Extends (m m' : SyncMemory) : Prop :=
  ∀ key known, m.env.subscriptions.get? key = some known →
    m'.env.subscriptions.get? key = some known

theorem Extends.trans {m m' m'' : SyncMemory} (h : Extends m m') (h' : Extends m' m'') :
    Extends m m'' :=
  fun key known hknown => h' key known (h key known hknown)

section Loops

variable {s0 : Storage} {rows : List Profile} {m0 : SyncMemory}
  {inv : List Profile → List (Profile.Key × Nat) → SyncMemory → Watched → Prop}
  {requests : List Profile} {pointers : List (Profile.Key × Nat)} {m m' : SyncMemory} {g g' : Watched}

theorem Creates.extends (hsyncing : Syncing s0 rows 0 m g) {profile : Profile} {created : Nat}
    (h : Creates profile m g created m' g') : Extends m m' := by
  intro key known hknown
  cases h with
  | subscribed hnew =>
      change (m.env.subscriptions.put profile.key (g.storage.table.sequence + 1)).get? key = _
      rw [LinkedMap.get?_put, if_neg]
      · exact hknown
      · rintro rfl
        rw [hsyncing.subscribed?_eq_none.mp hnew] at hknown
        cases hknown
  | known old hold hactive => exact hknown
  | obsolete old hold hobsolete => exact hknown

/-- One request, with its place in the log. -/
theorem keeps_create_logged (hinv : LogInvariant s0 rows m0 inv)
    (h : LogState s0 rows m0 inv requests pointers m g) (profile : Profile) :
    Routine.Keeps (watched 0) (create profile)
      (fun out m' g' => ∃ created, out = .ok created ∧
        LogState s0 rows m0 inv (requests ++ [profile]) pointers m' g' ∧ Extends m m' ∧
          m'.env.subscriptions.get? profile.key = some created) m g := by
  have hkeeps : Routine.Keeps (watched 0) (create profile) (Created (SyncImport s0 rows 0) []) m g :=
    keeps_create ⟨h.syncing, by simp⟩ profile
  refine (hkeeps.and (keeps_create_cases h.syncing profile)).mono ?_
  rintro out m' g' ⟨hcreated, created, rfl, hcreates⟩
  obtain ⟨hlogged, hget⟩ := h.logged.create h.syncing hcreates
  exact ⟨created, rfl, ⟨hcreated.1, hlogged, hinv.create h.syncing h.logged h.inv hcreates⟩,
    hcreates.extends h.syncing, hget⟩

/-- The loop of `parseJson`: every server is requested. -/
theorem keeps_createAll_logged (hinv : LogInvariant s0 rows m0 inv) (profiles : List Profile)
    (pending : LinkedMap Profile Profile) (wired : LinkedMap Nat Profile)
    (h : LogState s0 rows m0 inv requests pointers m g) :
    Routine.Keeps (watched 0) (createAll create profiles pending wired)
      (fun out m' g' => ∃ ids, out = .ok (ids, wiring (ids.zip profiles) pending wired) ∧
        LogState s0 rows m0 inv (requests ++ profiles) pointers m' g' ∧ Extends m m' ∧
          List.Forall₂ (fun profile id => m'.env.subscriptions.get? profile.key = some id)
            profiles ids) m g := by
  induction profiles generalizing requests pending wired m g with
  | nil =>
      refine ⟨[], rfl, ?_, fun _ _ hknown => hknown, .nil⟩
      rw [List.append_nil]
      exact h
  | cons profile profiles ih =>
      simp only [createAll, Routine.keeps_bind]
      refine (keeps_create_logged hinv h profile).mono ?_
      rintro out m1 g1 ⟨created, rfl, hstate, hextends, hget⟩
      simp only [Routine.AndThen, Routine.keeps_bind]
      refine (ih _ _ hstate).mono ?_
      rintro out m' g' ⟨ids, rfl, hstate', hextends', hids⟩
      simp only [Routine.AndThen, Routine.keeps_pure]
      refine ⟨created :: ids, rfl, ?_, hextends.trans hextends', .cons ?_ hids⟩
      · rw [← List.singleton_append, ← List.append_assoc]
        exact hstate'
      · exact hextends' profile.key created hget

/-- The pointer of one profile. -/
theorem keeps_set_logged (hinv : LogInvariant s0 rows m0 inv)
    (h : LogState s0 rows m0 inv requests pointers m g) {key : Profile.Key} {object : Profile}
    (hobject : m.subscribed? key = some object) (hactive : object.subscription = .active)
    (target : Nat) :
    Routine.Keeps (watched 0) (setUdpFallback object.id target)
      (fun out m' g' => out = .ok () ∧
        LogState s0 rows m0 inv requests (pointers ++ [(key, target)]) m' g' ∧ Extends m m') m g := by
  obtain ⟨hget, hfound, -, -⟩ := h.syncing.get?_of_subscribed? hobject
  have hknown : Known m object.id := ⟨key, hget⟩
  have hkeeps : Routine.Keeps (watched 0) (setUdpFallback object.id target)
      (fun _ => SyncImport s0 rows 0 [object.id]) m g :=
    keeps_setUdpFallback ⟨h.syncing, by simpa using hknown⟩ (List.mem_singleton_self _) target
  have hchanged : (m.updateObject object.id (Profile.wireTo target)).object? object.id =
      some (object.wireTo target) := by
    rw [object?_updateObject m object.id object.id (Profile.wireTo target) (fun _ => rfl), hfound,
      Option.map_some, if_pos rfl]
  have hexplicit : Routine.Keeps (watched 0) (setUdpFallback object.id target)
      (fun out m' g' => out = .ok () ∧ m' = m.updateObject object.id (Profile.wireTo target) ∧
        g' = g.setTable (g.storage.table.update (object.wireTo target))) m g := by
    obtain ⟨-, row, -, -, -, hrow, -, -⟩ := h.syncing.known_row hknown
    have hmodified : Memory.updateObject object.id (fun object =>
      { object with udpFallback := some target }) m =
        m.updateObject object.id (Profile.wireTo target) := rfl
    simp only [setUdpFallback, Routine.keeps_bind, Routine.keeps_modify, Routine.AndThen,
      Routine.keeps_read, hmodified, hchanged]
    refine keeps_updateProfile h.syncing.isOpen ?_ ?_ ⟨rfl, rfl, rfl⟩
    · change (g.storage.table.find? object.id).isSome
      simp [hrow]
    · intro hzero
      have hbound := (g.storage.table.ids row ((g.storage.table.find?_eq_some_iff _ _).mp hrow).1).1
      have hid := ((g.storage.table.find?_eq_some_iff _ _).mp hrow).2
      change object.id = 0 at hzero
      omega
  refine (hkeeps.and hexplicit).mono ?_
  rintro out m' g' ⟨hsyncing, rfl, rfl, rfl⟩
  exact ⟨rfl, ⟨hsyncing.1, h.logged.set h.syncing hobject hactive target,
    hinv.set h.syncing h.logged h.inv hobject hactive target⟩, fun _ _ hknown => hknown⟩

theorem Points.mono {queried : List Profile} {fallback : Profile} {target : Nat}
    (h : Points queried m fallback target) (hextends : Extends m m') :
    Points queried m' fallback target := by
  unfold Points at h ⊢
  split
  · rename_i row hrow
    rw [hrow] at h
    exact h
  · rename_i hnone
    rw [hnone] at h
    exact hextends _ _ h

/-- The pointers that were set for the entries of a document. -/
def PointsAll (queried : List Profile) (m : SyncMemory) (entries : List (Profile.Key × Profile))
    (pointers : List (Profile.Key × Nat)) : Prop :=
  List.Forall₂ (fun entry pointer => pointer.1 = entry.1 ∧ Points queried m entry.2 pointer.2)
    entries pointers

/-- One entry of `finalize`. -/
theorem keeps_wire_logged (hinv : LogInvariant s0 rows m0 inv) (queried : List Profile)
    (h : LogState s0 rows m0 inv requests pointers m g) {key : Profile.Key} {known : Nat}
    (hkey : key ∈ requests.map Profile.key) (hknown : m.env.subscriptions.get? key = some known)
    (fallback : Profile) :
    Routine.Keeps (watched 0) (wire create queried (known, fallback))
      (fun out m' g' => out = .ok () ∧ Extends m m' ∧ ∃ target, Points queried m' fallback target ∧
        LogState s0 rows m0 inv (requests ++ unresolved queried [fallback])
          (pointers ++ [(key, target)]) m' g') m g := by
  have hset {requests : List Profile} {m : SyncMemory} {g : Watched}
      (h : LogState s0 rows m0 inv requests pointers m g) (hkey : key ∈ requests.map Profile.key)
      (hknown : m.env.subscriptions.get? key = some known) (target : Nat) :
      Routine.Keeps (watched 0) (setUdpFallback known target)
        (fun out m' g' => out = .ok () ∧
          LogState s0 rows m0 inv requests (pointers ++ [(key, target)]) m' g' ∧ Extends m m') m g := by
    obtain ⟨object, hobject, hactive⟩ := h.logged.subscribed?_of_requested hkey
    have hget := (h.syncing.get?_of_subscribed? hobject).1
    rw [hknown, Option.some.injEq] at hget
    rw [hget]
    exact keeps_set_logged hinv h hobject hactive target
  simp only [wire, resolve, Routine.keeps_bind]
  cases hfound : queried.find? fallback.serves with
  | some row =>
      simp only [Routine.keeps_pure, Routine.AndThen]
      refine (hset h hkey hknown row.id).mono ?_
      rintro out m' g' ⟨rfl, hstate, hextends⟩
      have hnone : unresolved queried [fallback] = [] := by simp [unresolved, hfound]
      rw [hnone, List.append_nil]
      exact ⟨rfl, hextends, row.id, by simp [Points, hfound], hstate⟩
  | none =>
      have hrequest : unresolved queried [fallback] = [fallback] := by simp [unresolved, hfound]
      refine (keeps_create_logged hinv h fallback).mono ?_
      rintro out m1 g1 ⟨target, rfl, hstate, hextends, hget⟩
      simp only [Routine.AndThen]
      refine (hset hstate (by simp [List.mem_map.mp hkey]) (hextends key known hknown) target).mono ?_
      rintro out m' g' ⟨rfl, hstate', hextends'⟩
      rw [hrequest]
      refine ⟨rfl, hextends.trans hextends', target, ?_, hstate'⟩
      simp only [Points, hfound]
      exact hextends' _ _ hget

/-- The loop of `finalize`. -/
theorem keeps_wireAll_logged (hinv : LogInvariant s0 rows m0 inv) (queried : List Profile)
    (ids : Profile.Key → Nat) (entries : List (Profile.Key × Profile))
    (h : LogState s0 rows m0 inv requests pointers m g)
    (hkeys : ∀ entry ∈ entries, entry.1 ∈ requests.map Profile.key ∧
      m.env.subscriptions.get? entry.1 = some (ids entry.1)) :
    Routine.Keeps (watched 0)
      (Routine.forEach (entries.map (Prod.map ids id)) (wire create queried))
      (fun out m' g' => out = .ok () ∧ Extends m m' ∧ ∃ new, PointsAll queried m' entries new ∧
        LogState s0 rows m0 inv (requests ++ unresolved queried (entries.map Prod.snd))
          (pointers ++ new) m' g') m g := by
  induction entries generalizing requests pointers m g with
  | nil =>
      refine ⟨rfl, fun _ _ hknown => hknown, [], .nil, ?_⟩
      simp only [List.map_nil, unresolved, List.filter_nil, List.append_nil]
      exact h
  | cons entry entries ih =>
      obtain ⟨key, fallback⟩ := entry
      obtain ⟨hkey, hknown⟩ := hkeys (key, fallback) (by simp)
      change Routine.Keeps _ (wire create queried (ids key, fallback) >>= fun _ =>
        Routine.forEach (entries.map (Prod.map ids id)) (wire create queried)) _ m g
      rw [Routine.keeps_bind]
      refine (keeps_wire_logged hinv queried h hkey hknown fallback).mono ?_
      rintro out m1 g1 ⟨rfl, hextends, target, hpoints, hstate⟩
      simp only [Routine.AndThen]
      refine (ih hstate ?_).mono ?_
      · intro entry hentry
        obtain ⟨hkey', hknown'⟩ := hkeys entry (List.mem_cons_of_mem _ hentry)
        refine ⟨?_, hextends _ _ hknown'⟩
        rw [List.map_append]
        exact List.mem_append_left _ hkey'
      · rintro out m' g' ⟨rfl, hextends', new, hall, hstate'⟩
        refine ⟨rfl, hextends.trans hextends', (key, target) :: new, ?_, ?_⟩
        · exact .cons ⟨rfl, hpoints.mono hextends'⟩ hall
        · have hsplit : unresolved queried (((key, fallback) :: entries).map Prod.snd) =
              unresolved queried [fallback] ++ unresolved queried (entries.map Prod.snd) := by
            rw [unresolved, unresolved, unresolved, ← List.filter_append]
            rfl
          rw [hsplit, ← List.append_assoc, List.append_cons]
          exact hstate'

end Loops

/-- What a document has done: the state in which the table was queried, and the
pointers that were set after it. -/
structure Imported (s0 : Storage) (rows : List Profile) (m0 : SyncMemory)
    (inv : List Profile → List (Profile.Key × Nat) → SyncMemory → Watched → Prop)
    (servers : List Server) (requests : List Profile) (pointers : List (Profile.Key × Nat))
    (ids : List Nat) (m1 : SyncMemory) (g1 : Watched) (new : List (Profile.Key × Nat))
    (m' : SyncMemory) (g' : Watched) : Prop where
  queried : LogState s0 rows m0 inv (requests ++ servers.map Server.profile) pointers m1 g1
  ids : List.Forall₂ (fun server id =>
    m1.env.subscriptions.get? (Profile.key (Server.profile server)) = some id) servers ids
  grows : Extends m1 m'
  points : PointsAll g1.storage.table.rows m' (wiringByKey servers).entries new
  final : LogState s0 rows m0 inv (requests ++ servers.map Server.profile ++
    unresolved g1.storage.table.rows (wiringByKey servers).values) (pointers ++ new) m' g'

section Document

variable {s0 : Storage} {rows : List Profile} {m0 : SyncMemory}
  {inv : List Profile → List (Profile.Key × Nat) → SyncMemory → Watched → Prop}
  {requests : List Profile} {pointers : List (Profile.Key × Nat)} {m : SyncMemory} {g : Watched}

/-- The keys of a document are told apart by the profiles they lead to. -/
theorem wiring_ids {servers : List Server} {ids : List Nat} (h : Syncing s0 rows 0 m g)
    (hids : List.Forall₂ (fun server id =>
      m.env.subscriptions.get? (Profile.key (Server.profile server)) = some id) servers ids) :
    (wiring (ids.zip (servers.map Server.profile)) (fallbackMap servers) LinkedMap.empty).entries =
      (wiringByKey servers).entries.map
        (Prod.map (fun key => (m.env.subscriptions.get? key).getD 0) id) := by
  have hslots : ids.zip (servers.map Server.profile) =
      (servers.map fun server => (server.profile.key, server.profile)).map
        (Prod.map (fun key => (m.env.subscriptions.get? key).getD 0) id) := by
    generalize fallbackMap servers = pending at *
    induction hids with
    | nil => rfl
    | cons hid _ ih =>
        simp only [List.map_cons, List.zip_cons_cons, Prod.map_apply, hid, Option.getD_some, id_eq]
        rw [ih]
  have hsome : ∀ key ∈ (servers.map fun server => (server.profile.key, server.profile)).map Prod.fst,
      ∃ known, m.env.subscriptions.get? key = some known := by
    intro key hkey
    rw [List.map_map] at hkey
    obtain ⟨server, hserver, rfl⟩ := List.mem_map.mp hkey
    obtain ⟨id, -, hid⟩ := exists_of_forall₂ hids hserver
    exact ⟨id, hid⟩
  rw [hslots, wiringByKey]
  apply wiring_map
  · rfl
  · intro slot hslot key hkey heq
    have hkey' : key ∈ (servers.map fun server => (server.profile.key, server.profile)).map Prod.fst := by
      rcases hkey with hempty | hkey
      · simp at hempty
      · exact hkey
    obtain ⟨known, hknown⟩ := hsome key hkey'
    obtain ⟨other, hother⟩ := hsome slot hslot
    rw [hknown, hother, Option.getD_some, Option.getD_some] at heq
    subst heq
    exact h.key_inj hknown hother

theorem keeps_parseJson_logged (hinv : LogInvariant s0 rows m0 inv) {order : HashOrder}
    {json : JsonElement} {feature : Option Profile} {servers : List Server}
    (hservers : process order feature json = .ok servers)
    (h : LogState s0 rows m0 inv requests pointers m g) :
    Routine.Keeps (watched 0) (parseJson order json feature create)
      (fun out m' g' => ∃ ids m1 g1 new, out = .ok ids ∧
        Imported s0 rows m0 inv servers requests pointers ids m1 g1 new m' g') m g := by
  have hprocessed : (processed order feature json : SyncCode (List Server)) = pure servers := by
    simp [processed, hservers]
  simp only [parseJson, Routine.keeps_bind, hprocessed, Routine.keeps_pure, Routine.AndThen]
  refine (keeps_createAll_logged hinv (servers.map Server.profile) (fallbackMap servers)
    LinkedMap.empty h).mono ?_
  rintro out m1 g1 ⟨ids, rfl, hqueried, hgrows, hids⟩
  rw [List.forall₂_map_left_iff] at hids
  simp only [Routine.AndThen, Routine.keeps_bind, finalize]
  refine keeps_getAllProfiles hqueried.syncing.isOpen ?_
  intro totals
  have hrows : g1.storage.table.rows.map (retraffic 0 totals) = g1.storage.table.rows :=
    (List.map_congr_left fun row hrow => retraffic_zero totals g1.storage.table hrow).trans
      (List.map_id _)
  have hnotice : g1.notice 0 totals = g1 := by
    have hnone : g1.storage.table.rows.find? (·.id = 0) = none := by
      apply List.find?_eq_none.mpr
      intro row hrow
      have hid := (g1.storage.table.ids row hrow).1
      simp only [decide_eq_true_eq]
      omega
    unfold Watched.notice
    rw [hrows, hnone, Option.map_none, Option.or_none]
  rw [hrows, hnotice]
  simp only [Routine.AndThen]
  rw [wiring_ids hqueried.syncing hids]
  have hkeys : ∀ entry ∈ (wiringByKey servers).entries,
      entry.1 ∈ (requests ++ servers.map Server.profile).map Profile.key ∧
        m1.env.subscriptions.get? entry.1 =
          some ((m1.env.subscriptions.get? entry.1).getD 0) := by
    intro entry hentry
    have hkey : entry.1 ∈ (wiringByKey servers).keys := List.mem_map_of_mem hentry
    rcases mem_keys_wiring hkey with hempty | hslot
    · simp at hempty
    · rw [List.map_map] at hslot
      obtain ⟨server, hserver, heq⟩ := List.mem_map.mp hslot
      obtain ⟨id, -, hid⟩ := exists_of_forall₂ hids hserver
      change server.profile.key = entry.1 at heq
      rw [← heq, hid]
      refine ⟨?_, rfl⟩
      rw [List.map_append, List.map_map]
      exact List.mem_append_right _ (List.mem_map.mpr ⟨server, hserver, rfl⟩)
  refine (keeps_wireAll_logged hinv g1.storage.table.rows _ _ hqueried hkeys).mono ?_
  rintro out m' g' ⟨rfl, hextends, new, hpoints, hfinal⟩
  exact ⟨ids, m1, g1, new, rfl, hqueried, hids, hextends, hpoints, hfinal⟩

end Document

end WifiProject.Subscription
