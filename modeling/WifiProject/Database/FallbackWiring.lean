import WifiProject.Database.JsonParser

/-!
Which fallback is wired to which profile. `parseJson` files the pending
fallback of each profile under whatever `create` returned for it; here that is
a slot of any type, so that a callback can be described by the slot it chooses.
-/

namespace WifiProject.Database

open Lib Plugin

/-- What a fallback is compared by. -/
def Profile.endpoint (profile : Profile) : String × Int × String × String × Option String :=
  (profile.host, profile.remotePort, profile.password, profile.method, profile.plugin)

theorem Profile.serves_congr (fallback : Profile) {row other : Profile}
    (h : row.endpoint = other.endpoint) : fallback.serves row = fallback.serves other := by
  simp only [endpoint, Prod.mk.injEq] at h
  simp [serves, h]

/-- The test of `serves` on the endpoint alone. -/
def servesAt (fallback : Profile) (endpoint : String × Int × String × String × Option String) : Bool :=
  fallback.host == endpoint.1 && fallback.remotePort == endpoint.2.1 &&
    fallback.password == endpoint.2.2.1 && fallback.method == endpoint.2.2.2.1 &&
      isNullOrEmpty endpoint.2.2.2.2

theorem findIdx?_serves_congr (fallback : Profile) {rows others : List Profile}
    (h : rows.map Profile.endpoint = others.map Profile.endpoint) :
    rows.findIdx? fallback.serves = others.findIdx? fallback.serves := by
  have hserves : fallback.serves = servesAt fallback ∘ Profile.endpoint := rfl
  rw [hserves, ← List.findIdx?_map, ← List.findIdx?_map, h]

/-- A profile serves itself unless it has a plugin. -/
theorem Profile.serves_self {fallback row : Profile} (h : row.endpoint = fallback.endpoint) :
    fallback.serves row = isNullOrEmpty fallback.plugin := by
  rw [fallback.serves_congr h]
  simp [serves]

section Parsed

variable (order : HashOrder) (feature : Option Profile)

mutual

/-- Whatever holds of every object that parses holds of every server found. -/
theorem process_forall {P : Server → Prop}
    (htry : ∀ members server, tryParse order feature members = .ok (some server) → P server) :
    ∀ json servers, process order feature json = .ok servers → ∀ server ∈ servers, P server
  | .object members, servers, h => by
      simp only [process] at h
      split at h
      · cases h
      · rename_i found hfound
        cases h
        simpa using htry members found hfound
      · exact processMembers_forall htry members servers h
  | .array elements, servers, h => by
      simp only [process] at h
      exact processElements_forall htry elements servers h
  | .null, servers, h => by
      simp only [process] at h
      cases h
      simp
  | .string _, servers, h => by
      simp only [process] at h
      cases h
      simp
  | .number _, servers, h => by
      simp only [process] at h
      cases h
      simp
  | .boolean _, servers, h => by
      simp only [process] at h
      cases h
      simp

theorem processElements_forall {P : Server → Prop}
    (htry : ∀ members server, tryParse order feature members = .ok (some server) → P server) :
    ∀ elements servers, processElements order feature elements = .ok servers →
      ∀ server ∈ servers, P server
  | [], servers, h => by
      simp only [processElements] at h
      cases h
      simp
  | element :: elements, servers, h => by
      simp only [processElements] at h
      cases hfirst : process order feature element with
      | error message => simp [hfirst, Except.bind] at h
      | ok first =>
          cases hrest : processElements order feature elements with
          | error message => simp [hfirst, hrest, Except.bind, Except.map] at h
          | ok rest =>
              simp only [hfirst, hrest, Except.bind, Except.map, Except.ok.injEq] at h
              subst h
              intro server hserver
              rcases List.mem_append.mp hserver with hmem | hmem
              · exact process_forall htry element first hfirst server hmem
              · exact processElements_forall htry elements rest hrest server hmem

theorem processMembers_forall {P : Server → Prop}
    (htry : ∀ members server, tryParse order feature members = .ok (some server) → P server) :
    ∀ members servers, processMembers order feature members = .ok servers →
      ∀ server ∈ servers, P server
  | [], servers, h => by
      simp only [processMembers] at h
      cases h
      simp
  | (_, value) :: members, servers, h => by
      simp only [processMembers] at h
      cases hfirst : process order feature value with
      | error message => simp [hfirst, Except.bind] at h
      | ok first =>
          cases hrest : processMembers order feature members with
          | error message => simp [hfirst, hrest, Except.bind, Except.map] at h
          | ok rest =>
              simp only [hfirst, hrest, Except.bind, Except.map, Except.ok.injEq] at h
              subst h
              intro server hserver
              rcases List.mem_append.mp hserver with hmem | hmem
              · exact process_forall htry value first hfirst server hmem
              · exact processMembers_forall htry members rest hrest server hmem

end

/-- What `tryParse` leaves at its default. -/
structure Profile.Fresh (profile : Profile) : Prop where
  udpFallback : profile.udpFallback = none
  dirty : profile.dirty = false

theorem parseServer_fresh {members : List (String × JsonElement)} {profile : Profile}
    (h : parseServer order feature members = .ok (some profile)) : profile.Fresh := by
  unfold parseServer at h
  split at h
  · split at h
    · cases h
    · cases hplugin : parsePlugin order members with
      | error message => simp [hplugin, Except.map] at h
      | ok plugin =>
          simp only [hplugin, Except.map, Except.ok.injEq, Option.some.injEq] at h
          subst h
          cases feature <;> exact ⟨rfl, rfl⟩
  · cases h

/-- The servers of a document, as parsed. -/
theorem process_fresh {json : JsonElement} {servers : List Server}
    (h : process order feature json = .ok servers) :
    ∀ server ∈ servers, server.profile.Fresh ∧ ∀ fallback ∈ server.fallback, fallback.Fresh := by
  refine process_forall order feature ?_ json servers h
  intro members server htry
  unfold tryParse at htry
  split at htry
  · cases htry
  · cases htry
  · rename_i profile hprofile
    have hfresh := parseServer_fresh order feature hprofile
    cases hfallback : parseFallback order feature members with
    | error message => simp [hfallback, Except.map] at htry
    | ok fallback =>
        simp only [hfallback, Except.map, Except.ok.injEq, Option.some.injEq] at htry
        subst htry
        refine ⟨⟨hfresh.udpFallback, hfresh.dirty⟩, ?_⟩
        rintro fallback' rfl
        unfold parseFallback at hfallback
        split at hfallback
        · cases hfallback
        · exact parseServer_fresh order feature hfallback

end Parsed

/-- The fallbacks declared for a profile, in document order. -/
def declared (servers : List Server) (profile : Profile) : List Profile :=
  servers.filterMap fun server => if server.profile = profile then server.fallback else none

/-- Equal profiles share an entry of `fallbackMap`, and the last declaration
wins. -/
theorem fallbackMap_get? (servers : List Server) (profile : Profile) :
    (fallbackMap servers).get? profile = (declared servers profile).getLast? := by
  have hfold (map : LinkedMap Profile Profile) :
      (servers.foldl (fun map server => server.fallback.elim map fun fallback =>
        map.put server.profile fallback) map).get? profile =
          (declared servers profile).getLast?.or (map.get? profile) := by
    induction servers generalizing map with
    | nil => rfl
    | cons server servers ih =>
        rw [List.foldl_cons, ih]
        cases hfallback : server.fallback with
        | none => simp [declared, hfallback]
        | some fallback =>
            by_cases heq : server.profile = profile
            · have hdeclared : declared (server :: servers) profile =
                  fallback :: declared servers profile := by
                simp [declared, heq, hfallback]
              rw [hdeclared, List.getLast?_cons]
              simp only [Option.elim_some, LinkedMap.get?_put, heq, if_true]
              cases (declared servers profile).getLast? <;> rfl
            · have hdeclared : declared (server :: servers) profile = declared servers profile := by
                simp [declared, heq]
              rw [hdeclared, Option.elim_some, LinkedMap.get?_put, if_neg (Ne.symm heq)]
  have hempty := hfold LinkedMap.empty
  rwa [LinkedMap.get?_empty, Option.or_none] at hempty

section Slots

variable {K : Type} [DecidableEq K]

/-- The map that the loop of `parseJson` builds, by slots. -/
def wiring : List (K × Profile) → LinkedMap Profile Profile → LinkedMap K Profile →
    LinkedMap K Profile
  | [], _, wired => wired
  | (slot, profile) :: slots, pending, wired =>
      wiring slots (pending.remove profile)
        ((pending.get? profile).elim wired fun fallback => wired.put slot fallback)

/-- Only slots are wired. -/
theorem mem_keys_wiring {slots : List (K × Profile)} {pending : LinkedMap Profile Profile}
    {wired : LinkedMap K Profile} {slot : K} (h : slot ∈ (wiring slots pending wired).keys) :
    slot ∈ wired.keys ∨ slot ∈ slots.map Prod.fst := by
  induction slots generalizing pending wired with
  | nil => exact Or.inl h
  | cons head slots ih =>
      obtain ⟨first, profile⟩ := head
      rcases ih h with hwired | hslot
      · cases hpending : pending.get? profile with
        | none =>
            rw [hpending] at hwired
            exact Or.inl hwired
        | some fallback =>
            rw [hpending, Option.elim_some, LinkedMap.mem_keys_put_iff] at hwired
            rcases hwired with rfl | hwired
            · exact Or.inr (by simp)
            · exact Or.inl hwired
      · exact Or.inr (List.mem_cons_of_mem _ hslot)

/-- What is wired was pending. -/
theorem pending_of_mem_wiring {slots : List (K × Profile)} {pending : LinkedMap Profile Profile}
    {wired : LinkedMap K Profile} {slot : K} {fallback : Profile}
    (h : (slot, fallback) ∈ (wiring slots pending wired).entries) :
    (slot, fallback) ∈ wired.entries ∨ ∃ profile, pending.get? profile = some fallback := by
  induction slots generalizing pending wired with
  | nil => exact Or.inl h
  | cons head slots ih =>
      obtain ⟨first, profile⟩ := head
      rcases ih h with hmem | ⟨other, hother⟩
      · cases hpending : pending.get? profile with
        | none =>
            rw [hpending] at hmem
            exact Or.inl hmem
        | some found =>
            rw [hpending, Option.elim_some, LinkedMap.mem_put_iff] at hmem
            rcases hmem with ⟨-, rfl⟩ | ⟨-, hold⟩
            · exact Or.inr ⟨profile, hpending⟩
            · exact Or.inl hold
      · rw [LinkedMap.get?_remove] at hother
        split at hother
        · cases hother
        · exact Or.inr ⟨other, hother⟩

/-- What is wired was declared by a server. -/
theorem exists_server_of_wiring {slots : List (K × Profile)} {servers : List Server}
    {entry : K × Profile}
    (h : entry ∈ (wiring slots (fallbackMap servers) LinkedMap.empty).entries) :
    ∃ server ∈ servers, server.fallback = some entry.2 := by
  rcases pending_of_mem_wiring h with hempty | ⟨profile, hpending⟩
  · cases hempty
  · rw [fallbackMap_get?] at hpending
    obtain ⟨server, hserver, hdeclared⟩ := List.mem_filterMap.mp (List.mem_of_getLast? hpending)
    exact ⟨server, hserver, (Option.ite_none_right_eq_some.mp hdeclared).2⟩

theorem mem_keys_wiring_of_wired {slots : List (K × Profile)} {pending : LinkedMap Profile Profile}
    {wired : LinkedMap K Profile} {slot : K} (h : slot ∈ wired.keys) :
    slot ∈ (wiring slots pending wired).keys := by
  induction slots generalizing pending wired with
  | nil => exact h
  | cons head slots ih =>
      apply ih
      cases pending.get? head.2 with
      | none => exact h
      | some fallback => exact (LinkedMap.mem_keys_put_iff _ _ _ _).mpr (Or.inr h)

/-- A profile with a pending fallback is wired, whatever slot it has. -/
theorem mem_keys_wiring_of_pending (slot : Profile → K) {profiles : List Profile}
    {pending : LinkedMap Profile Profile} {wired : LinkedMap K Profile} {profile : Profile}
    (hmem : profile ∈ profiles) (hpending : (pending.get? profile).isSome) :
    slot profile ∈
      (wiring (profiles.map fun profile => (slot profile, profile)) pending wired).keys := by
  induction profiles generalizing pending wired with
  | nil => simp at hmem
  | cons first profiles ih =>
      by_cases heq : profile = first
      · subst heq
        obtain ⟨fallback, hfallback⟩ := Option.isSome_iff_exists.mp hpending
        rw [List.map_cons, wiring, hfallback, Option.elim_some]
        apply mem_keys_wiring_of_wired
        exact (LinkedMap.mem_keys_put_iff _ _ _ _).mpr (Or.inl rfl)
      · have hrest : profile ∈ profiles := by
          rcases List.mem_cons.mp hmem with hfirst | hrest
          · exact absurd hfirst heq
          · exact hrest
        apply ih hrest
        rw [LinkedMap.get?_remove, if_neg heq]
        exact hpending

/-- With slots of their own, each profile gets its pending fallback unless an
equal profile came first. -/
theorem mem_wiring_iff (slots : List (K × Profile)) (pending : LinkedMap Profile Profile)
    (wired : LinkedMap K Profile) (hnodup : (slots.map Prod.fst).Nodup)
    (hfree : ∀ slot ∈ slots.map Prod.fst, slot ∉ wired.keys) (slot : K) (fallback : Profile) :
    (slot, fallback) ∈ (wiring slots pending wired).entries ↔
      (slot, fallback) ∈ wired.entries ∨ ∃ before profile after,
        slots = before ++ (slot, profile) :: after ∧ profile ∉ before.map Prod.snd ∧
          pending.get? profile = some fallback := by
  induction slots generalizing pending wired with
  | nil => simp [wiring]
  | cons head slots ih =>
      obtain ⟨first, profile⟩ := head
      simp only [List.map_cons, List.nodup_cons] at hnodup
      have hfirst : first ∉ wired.keys := hfree first (by simp)
      have hrest : ∀ slot ∈ slots.map Prod.fst,
          slot ∉ ((pending.get? profile).elim wired fun fallback => wired.put first fallback).keys := by
        intro slot hslot
        have hnot := hfree slot (List.mem_cons_of_mem _ hslot)
        cases pending.get? profile with
        | none => exact hnot
        | some fallback =>
            rw [Option.elim_some, LinkedMap.mem_keys_put_iff]
            rintro (rfl | hmem)
            · exact hnodup.1 hslot
            · exact hnot hmem
      rw [wiring, ih _ _ hnodup.2 hrest]
      constructor
      · rintro (hmem | ⟨before, other, after, rfl, hother, hpending⟩)
        · cases hpending : pending.get? profile with
          | none =>
              rw [hpending] at hmem
              exact Or.inl hmem
          | some found =>
              rw [hpending, Option.elim_some, LinkedMap.mem_put_iff] at hmem
              rcases hmem with ⟨rfl, rfl⟩ | ⟨-, hmem⟩
              · exact Or.inr ⟨[], profile, slots, rfl, by simp, hpending⟩
              · exact Or.inl hmem
        · rw [LinkedMap.get?_remove] at hpending
          split at hpending
          · cases hpending
          · rename_i hne
            refine Or.inr ⟨(first, profile) :: before, other, after, rfl, ?_, hpending⟩
            simp only [List.map_cons, List.mem_cons, not_or]
            exact ⟨hne, hother⟩
      · rintro (hmem | ⟨before, other, after, hsplit, hother, hpending⟩)
        · refine Or.inl ?_
          have hne : slot ≠ first := by
            rintro rfl
            exact hfirst (List.mem_map_of_mem hmem)
          cases pending.get? profile with
          | none => exact hmem
          | some found =>
              rw [Option.elim_some, LinkedMap.mem_put_iff]
              exact Or.inr ⟨hne, hmem⟩
        · cases before with
          | nil =>
              simp only [List.nil_append, List.cons.injEq, Prod.mk.injEq] at hsplit
              obtain ⟨⟨rfl, rfl⟩, rfl⟩ := hsplit
              refine Or.inl ?_
              rw [hpending, Option.elim_some, LinkedMap.mem_put_iff]
              exact Or.inl ⟨rfl, rfl⟩
          | cons head before =>
              simp only [List.cons_append, List.cons.injEq] at hsplit
              obtain ⟨rfl, rfl⟩ := hsplit
              simp only [List.map_cons, List.mem_cons, not_or] at hother
              refine Or.inr ⟨before, other, after, rfl, hother.2, ?_⟩
              rw [LinkedMap.get?_remove, if_neg hother.1]
              exact hpending

/-- Slots may be renamed as long as they stay apart. -/
theorem wiring_map {L : Type} [DecidableEq L] (f : K → L) (slots : List (K × Profile))
    (pending : LinkedMap Profile Profile) (wired : LinkedMap K Profile) (wired' : LinkedMap L Profile)
    (hentries : wired'.entries = wired.entries.map (Prod.map f id))
    (hinj : ∀ slot ∈ slots.map Prod.fst, ∀ k, k ∈ wired.keys ∨ k ∈ slots.map Prod.fst →
      f k = f slot → k = slot) :
    (wiring (slots.map (Prod.map f id)) pending wired').entries =
      (wiring slots pending wired).entries.map (Prod.map f id) := by
  induction slots generalizing pending wired wired' with
  | nil => exact hentries
  | cons head slots ih =>
      obtain ⟨slot, profile⟩ := head
      simp only [List.map_cons, Prod.map_apply, id_eq, wiring]
      apply ih
      · cases pending.get? profile with
        | none => exact hentries
        | some fallback =>
            apply LinkedMap.entries_put_map f wired wired' hentries
            intro k hk
            exact hinj slot (by simp) k (Or.inl hk)
      · intro slot' hslot' k hk
        apply hinj slot' (List.mem_cons_of_mem _ hslot') k
        rcases hk with hk | hk
        · cases hpending : pending.get? profile with
          | none =>
              rw [hpending] at hk
              exact Or.inl hk
          | some fallback =>
              rw [hpending, Option.elim_some, LinkedMap.mem_keys_put_iff] at hk
              rcases hk with rfl | hk
              · exact Or.inr (by simp)
              · exact Or.inl hk
        · exact Or.inr (List.mem_cons_of_mem _ hk)

end Slots

/-- The profile with its fallback set. -/
def Profile.wireTo (target : Nat) (profile : Profile) : Profile :=
  { profile with udpFallback := some target }

/-- Wiring a profile that has both an object and a row. -/
theorem exec_setUdpFallback {σ : Type} {m : Memory σ} {s : Storage} {id : Nat} {object : Profile}
    (target : Nat) (hopen : s.isOpen = true) (hobject : m.object? id = some object)
    (hrow : (s.table.find? id).isSome) :
    Routine.exec Storage.handle (setUdpFallback id target) m s =
      (.ok (), m.updateObject id (Profile.wireTo target),
        s.setTable (s.table.update (object.wireTo target))) := by
  have hid : object.id = id := (object?_eq_some hobject).2
  have hchanged : (m.updateObject id (Profile.wireTo target)).object? id =
      some (object.wireTo target) := by
    rw [object?_updateObject m id id (Profile.wireTo target) (fun _ => rfl), hobject,
      Option.map_some, if_pos hid]
  have hexists : (s.table.find? (object.wireTo target).id).isSome := by
    rw [show (object.wireTo target).id = object.id from rfl, hid]
    exact hrow
  have hmodify : Routine.exec Storage.handle (Routine.modify (Memory.updateObject id
      fun object => { object with udpFallback := some target }) : Code (Memory σ) Unit) m s =
        (.ok (), m.updateObject id (Profile.wireTo target), s) := rfl
  simp only [setUdpFallback, Routine.exec_bind, hmodify, Routine.exec_read, hchanged,
    exec_updateProfile _ _ _ hopen hexists]

/-- Whatever the callback does, the loop of `parseJson` wires by what it
returned. -/
theorem exec_createAll_wiring {σ : Type} {create : Profile → Code (Memory σ) Nat}
    {profiles : List Profile} {pending : LinkedMap Profile Profile} {wired : LinkedMap Nat Profile}
    {m m' : Memory σ} {s s' : Storage} {created : List Nat × LinkedMap Nat Profile}
    (h : Routine.exec Storage.handle (createAll create profiles pending wired) m s =
      (.ok created, m', s')) :
    created.1.length = profiles.length ∧
      created.2 = wiring (created.1.zip profiles) pending wired := by
  induction profiles generalizing pending wired m s m' s' created with
  | nil =>
      simp only [createAll, Routine.exec_pure, Prod.mk.injEq, Except.ok.injEq] at h
      rw [← h.1]
      exact ⟨rfl, rfl⟩
  | cons profile profiles ih =>
      simp only [createAll, Routine.exec_bind] at h
      split at h
      · rename_i id m1 s1 hcreate
        split at h
        · rename_i rest m2 s2 hrest
          simp only [Routine.exec_pure, Prod.mk.injEq, Except.ok.injEq] at h
          obtain ⟨hlength, hwiring⟩ := ih hrest
          rw [← h.1]
          exact ⟨by simp [hlength], hwiring⟩
        · simp at h
      · simp at h

/-- The profiles of a document have the fallbacks it declares. `view` tells how
the profile with an id is found. -/
def WiredRight (servers : List Server) (ids : List Nat) (view : Nat → Option Profile)
    (table : ProfileTable) : Prop :=
  ∀ (i : Nat) (server : Server) (id : Nat), servers[i]? = some server → ids[i]? = some id →
    ∃ profile, view id = some profile ∧
      match server.fallback with
      | none => profile.udpFallback = none
      | some fallback => ∃ target row, profile.udpFallback = some target ∧ target ≠ id ∧
          (table.find? target).isSome ∧ view target = some row ∧ fallback.serves row = true

/-- The declarations for a profile that is declared once. -/
theorem declared_of_once {servers : List Server} {i : Nat} {server : Server}
    (hserver : servers[i]? = some server)
    (hfirst : ∀ (k : Nat) (other : Server), k < i → servers[k]? = some other →
      other.profile ≠ server.profile)
    (hlast : ∀ (k : Nat) (other : Server), i < k → servers[k]? = some other →
      other.profile = server.profile → other.fallback = none) :
    declared servers server.profile = server.fallback.toList := by
  obtain ⟨hlt, hget⟩ := List.getElem?_eq_some_iff.mp hserver
  have hsplit : servers = servers.take i ++ server :: servers.drop (i + 1) := by
    rw [← hget, List.getElem_cons_drop, List.take_append_drop]
  have hbefore : (servers.take i).filterMap (fun other =>
      if other.profile = server.profile then other.fallback else none) = [] := by
    rw [List.filterMap_eq_nil_iff]
    intro other hother
    obtain ⟨k, hk, hkget⟩ := List.mem_iff_getElem.mp hother
    rw [List.length_take] at hk
    rw [List.getElem_take] at hkget
    have hne := hfirst k other (by omega) (by rw [← hkget]; exact List.getElem?_eq_getElem _)
    simp [hne]
  have hafter : (servers.drop (i + 1)).filterMap (fun other =>
      if other.profile = server.profile then other.fallback else none) = [] := by
    rw [List.filterMap_eq_nil_iff]
    intro other hother
    obtain ⟨k, hk, hkget⟩ := List.mem_iff_getElem.mp hother
    rw [List.length_drop] at hk
    rw [List.getElem_drop] at hkget
    split
    · rename_i heq
      exact hlast (i + 1 + k) other (by omega)
        (by rw [← hkget]; exact List.getElem?_eq_getElem _) heq
    · rfl
  rw [declared]
  nth_rewrite 1 [hsplit]
  rw [List.filterMap_append, hbefore, List.nil_append, List.filterMap_cons]
  cases server.fallback <;> simp [hafter]

end WifiProject.Database
