import Mathlib.Data.List.Lookmap
import Mathlib.Data.List.Nodup
import Mathlib.Data.List.Perm.Subperm

/-!
Insertion-ordered maps. Putting an existing key replaces its value in place,
putting a new one appends it, and iteration follows the entries. That the
keys are distinct is part of the type.
-/

namespace WifiProject.Lib

structure LinkedMap (K V : Type) where
  entries : List (K × V)
  nodupKeys : (entries.map Prod.fst).Nodup
  deriving DecidableEq, Repr

namespace LinkedMap

variable {K V : Type} [DecidableEq K]

omit [DecidableEq K] in
theorem ext_entries {m m' : LinkedMap K V} (h : m.entries = m'.entries) : m = m' := by
  cases m
  cases m'
  simp_all

def empty : LinkedMap K V := ⟨[], by simp⟩

def keys (m : LinkedMap K V) : List K := m.entries.map Prod.fst

def values (m : LinkedMap K V) : List V := m.entries.map Prod.snd

def isEmpty (m : LinkedMap K V) : Bool := m.entries.isEmpty

def get? (m : LinkedMap K V) (key : K) : Option V :=
  (m.entries.find? (·.1 = key)).map Prod.snd

/-- Replaces the value of `key` in place; the keys stay as they are. -/
def setAt (key : K) (value : V) (entries : List (K × V)) : List (K × V) :=
  entries.map fun entry => if entry.1 = key then (key, value) else entry

theorem keys_setAt (key : K) (value : V) (entries : List (K × V)) :
    (setAt key value entries).map Prod.fst = entries.map Prod.fst := by
  induction entries with
  | nil => rfl
  | cons entry rest ih =>
      simp only [setAt, List.map_cons, List.cons.injEq] at ih ⊢
      refine ⟨?_, ih⟩
      split
      · rename_i h
        exact h.symm
      · rfl

def put (m : LinkedMap K V) (key : K) (value : V) : LinkedMap K V :=
  if h : key ∈ m.entries.map Prod.fst then
    ⟨setAt key value m.entries, by rw [keys_setAt]; exact m.nodupKeys⟩
  else
    ⟨m.entries ++ [(key, value)], by
      rw [List.map_append, List.nodup_append]
      refine ⟨m.nodupKeys, by simp, ?_⟩
      intro old hold new hnew
      simp only [List.map_cons, List.map_nil, List.mem_singleton] at hnew
      rintro rfl
      exact h (hnew ▸ hold)⟩

def remove (m : LinkedMap K V) (key : K) : LinkedMap K V :=
  ⟨m.entries.filter (·.1 ≠ key), m.nodupKeys.sublist (List.filter_sublist.map _)⟩

@[simp] theorem get?_empty (key : K) : (empty : LinkedMap K V).get? key = none := rfl

omit [DecidableEq K] in
@[simp] theorem keys_empty : (empty : LinkedMap K V).keys = [] := rfl

/-- Distinct keys make lookup and membership of the entry the same thing. -/
theorem get?_eq_some_iff (m : LinkedMap K V) (key : K) (value : V) :
    m.get? key = some value ↔ (key, value) ∈ m.entries := by
  obtain ⟨entries, hnodup⟩ := m
  simp only [get?]
  induction entries with
  | nil => simp
  | cons entry rest ih =>
      obtain ⟨k, v⟩ := entry
      simp only [List.map_cons, List.nodup_cons] at hnodup
      by_cases hk : k = key
      · subst hk
        have hrest : (k, value) ∉ rest := fun hmem => hnodup.1 (List.mem_map_of_mem hmem)
        simp [eq_comm, hrest]
      · have hne : (key, value) ≠ (k, v) := by
          intro h
          exact hk (Prod.mk.inj h).1.symm
        simp only [List.find?_cons, hk, decide_false, List.mem_cons, hne, false_or]
        exact ih hnodup.2

theorem get?_isSome_iff (m : LinkedMap K V) (key : K) :
    (m.get? key).isSome ↔ key ∈ m.keys := by
  simp only [Option.isSome_iff_exists, get?_eq_some_iff, keys, List.mem_map]
  constructor
  · rintro ⟨value, h⟩
    exact ⟨(key, value), h, rfl⟩
  · rintro ⟨⟨_, value⟩, h, rfl⟩
    exact ⟨value, h⟩

theorem get?_eq_none_iff (m : LinkedMap K V) (key : K) :
    m.get? key = none ↔ key ∉ m.keys := by
  rw [← get?_isSome_iff]
  simp

theorem mem_put_iff (m : LinkedMap K V) (key k : K) (value v : V) :
    (k, v) ∈ (m.put key value).entries ↔
      (k = key ∧ v = value) ∨ (k ≠ key ∧ (k, v) ∈ m.entries) := by
  unfold put
  split
  · rename_i hmem
    simp only [setAt, List.mem_map, Prod.exists]
    constructor
    · rintro ⟨k', v', hentry, heq⟩
      split at heq
      · cases heq
        exact Or.inl ⟨rfl, rfl⟩
      · rename_i hne
        cases heq
        exact Or.inr ⟨hne, hentry⟩
    · rintro (⟨rfl, rfl⟩ | ⟨hne, hentry⟩)
      · obtain ⟨⟨k', v'⟩, hentry, rfl⟩ := List.mem_map.mp hmem
        exact ⟨k', v', hentry, by simp⟩
      · exact ⟨k, v, hentry, by simp [hne]⟩
  · rename_i hmem
    simp only [List.mem_append, List.mem_singleton, Prod.mk.injEq]
    constructor
    · rintro (hentry | h)
      · refine Or.inr ⟨?_, hentry⟩
        rintro rfl
        exact hmem (List.mem_map_of_mem hentry)
      · exact Or.inl h
    · rintro (h | ⟨_, hentry⟩)
      · exact Or.inr h
      · exact Or.inl hentry

/-- The entries after a put, in some order. -/
theorem entries_put_perm (m : LinkedMap K V) (key : K) (value : V) :
    (m.put key value).entries.Perm ((key, value) :: m.entries.filter (·.1 ≠ key)) := by
  have hother : (key, value) ∉ m.entries.filter (·.1 ≠ key) := by
    simp
  rw [List.perm_ext_iff_of_nodup ((m.put key value).nodupKeys.of_map _)
    (List.nodup_cons.mpr ⟨hother, (m.nodupKeys.of_map _).filter _⟩)]
  rintro ⟨k, v⟩
  rw [mem_put_iff]
  simp [and_comm]

@[simp] theorem get?_put_self (m : LinkedMap K V) (key : K) (value : V) :
    (m.put key value).get? key = some value := by
  rw [get?_eq_some_iff, mem_put_iff]
  exact Or.inl ⟨rfl, rfl⟩

theorem get?_put_of_ne (m : LinkedMap K V) {key k : K} (value : V) (h : k ≠ key) :
    (m.put key value).get? k = m.get? k := by
  apply Option.ext
  intro v
  simp only [get?_eq_some_iff, mem_put_iff]
  simp [h]

theorem get?_put (m : LinkedMap K V) (key k : K) (value : V) :
    (m.put key value).get? k = if k = key then some value else m.get? k := by
  split
  · rename_i h
    rw [h, get?_put_self]
  · rename_i h
    exact get?_put_of_ne m value h

theorem mem_keys_put_iff (m : LinkedMap K V) (key k : K) (value : V) :
    k ∈ (m.put key value).keys ↔ k = key ∨ k ∈ m.keys := by
  rw [← get?_isSome_iff, ← get?_isSome_iff, get?_put]
  split <;> simp_all

@[simp] theorem put_isEmpty (m : LinkedMap K V) (key : K) (value : V) :
    (m.put key value).isEmpty = false := by
  have h : (key, value) ∈ (m.put key value).entries :=
    (mem_put_iff m key key value value).mpr (Or.inl ⟨rfl, rfl⟩)
  cases hentries : (m.put key value).entries with
  | nil => simp [hentries] at h
  | cons _ _ => simp [isEmpty, hentries]

theorem mem_remove_iff (m : LinkedMap K V) (key k : K) (v : V) :
    (k, v) ∈ (m.remove key).entries ↔ k ≠ key ∧ (k, v) ∈ m.entries := by
  simp [remove, and_comm]

theorem remove_of_get?_eq_none (m : LinkedMap K V) {key : K} (h : m.get? key = none) :
    m.remove key = m := by
  apply ext_entries
  apply List.filter_eq_self.mpr
  intro entry hentry
  have hkey : entry.1 ∈ m.keys := List.mem_map_of_mem hentry
  have habsent := (m.get?_eq_none_iff key).mp h
  simp only [decide_eq_true_eq]
  rintro rfl
  exact habsent hkey

theorem get?_remove (m : LinkedMap K V) (key k : K) :
    (m.remove key).get? k = if k = key then none else m.get? k := by
  apply Option.ext
  intro v
  rw [get?_eq_some_iff, mem_remove_iff]
  split <;> simp_all [get?_eq_some_iff]

/-- Equality of maps up to an equality of values: as many entries, and each of
them in the other map. The order does not count. -/
def equalsBy (same : V → V → Bool) (m m' : LinkedMap K V) : Bool :=
  m.entries.length = m'.entries.length &&
    m.entries.all fun entry => (m'.get? entry.1).any (same entry.2)

def equals [DecidableEq V] (m m' : LinkedMap K V) : Bool :=
  m.equalsBy (fun value value' => value = value') m'

theorem equals_iff_perm [DecidableEq V] (m m' : LinkedMap K V) :
    m.equals m' = true ↔ m.entries.Perm m'.entries := by
  simp only [equals, equalsBy, Bool.and_eq_true, decide_eq_true_eq, List.all_eq_true,
    Option.any_eq_true, exists_eq_right', get?_eq_some_iff]
  constructor
  · rintro ⟨hlength, hmem⟩
    have hnodup : m.entries.Nodup := m.nodupKeys.of_map _
    have hsub : m.entries.Subperm m'.entries := List.subperm_of_subset hnodup hmem
    exact hsub.perm_of_length_le (by omega)
  · intro hperm
    refine ⟨hperm.length_eq, ?_⟩
    intro entry hentry
    exact hperm.mem_iff.mp hentry

/-- Equal maps have the same keys. -/
theorem mem_keys_of_equalsBy {same : V → V → Bool} {m m' : LinkedMap K V}
    (h : m.equalsBy same m' = true) {key : K} (hkey : key ∈ m'.keys) : key ∈ m.keys := by
  simp only [equalsBy, Bool.and_eq_true, decide_eq_true_eq, List.all_eq_true] at h
  have hsub : ∀ k ∈ m.keys, k ∈ m'.keys := by
    intro k hk
    obtain ⟨entry, hentry, rfl⟩ := List.mem_map.mp hk
    obtain ⟨value, hvalue, -⟩ := Option.any_eq_true _ _ |>.mp (h.2 entry hentry)
    rw [← get?_isSome_iff, hvalue]
    rfl
  have hperm : m.keys.Perm m'.keys := by
    apply (List.subperm_of_subset m.nodupKeys hsub).perm_of_length_le
    simp only [keys, List.length_map]
    omega
  exact hperm.mem_iff.mpr hkey

/-- A map whose values were replaced by equal ones, in any order. -/
theorem equalsBy_of_perm_map {same : V → V → Bool} {m m' : LinkedMap K V} (f : V → V)
    (hperm : m.entries.Perm (m'.entries.map fun entry => (entry.1, f entry.2)))
    (hsame : ∀ value, same (f value) value = true) : m.equalsBy same m' = true := by
  simp only [equalsBy, Bool.and_eq_true, decide_eq_true_eq, List.all_eq_true]
  constructor
  · rw [hperm.length_eq, List.length_map]
  · intro entry hentry
    obtain ⟨⟨key, value⟩, hmem, rfl⟩ := List.mem_map.mp (hperm.mem_iff.mp hentry)
    have hget : m'.get? key = some value := (m'.get?_eq_some_iff key value).mpr hmem
    simp [hget, hsame]

/-- Putting entries with new and distinct keys appends them. -/
theorem entries_foldl_put (entries : List (K × V)) (m : LinkedMap K V)
    (hnodup : ((m.entries ++ entries).map Prod.fst).Nodup) :
    (entries.foldl (fun m entry => m.put entry.1 entry.2) m).entries = m.entries ++ entries := by
  induction entries generalizing m with
  | nil => simp
  | cons entry rest ih =>
      have hnew : entry.1 ∉ m.entries.map Prod.fst := by
        rw [List.map_append, List.nodup_append] at hnodup
        intro hmem
        exact hnodup.2.2 _ hmem _ (List.mem_map_of_mem (List.mem_cons_self ..)) rfl
      have hput : (m.put entry.1 entry.2).entries = m.entries ++ [entry] := by
        unfold put
        rw [dif_neg hnew]
      rw [List.foldl_cons, ih, hput, List.append_assoc, List.singleton_append]
      rw [hput, List.append_assoc, List.singleton_append]
      exact hnodup

/-- Renaming keys apart renames the entries of a put. -/
theorem entries_put_map {L : Type} [DecidableEq L] (f : K → L) (m : LinkedMap K V)
    (m' : LinkedMap L V) (hentries : m'.entries = m.entries.map (Prod.map f id)) (key : K) (value : V)
    (hinj : ∀ k ∈ m.keys, f k = f key → k = key) :
    (m'.put (f key) value).entries = (m.put key value).entries.map (Prod.map f id) := by
  have hmem : f key ∈ m'.entries.map Prod.fst ↔ key ∈ m.entries.map Prod.fst := by
    rw [hentries, List.map_map]
    constructor
    · intro h
      obtain ⟨entry, hentry, heq⟩ := List.mem_map.mp h
      have hkey : entry.1 ∈ m.keys := List.mem_map_of_mem hentry
      rw [← hinj entry.1 hkey heq]
      exact hkey
    · intro h
      obtain ⟨entry, hentry, rfl⟩ := List.mem_map.mp h
      exact List.mem_map.mpr ⟨entry, hentry, rfl⟩
  unfold put
  by_cases hkey : key ∈ m.entries.map Prod.fst
  · rw [dif_pos hkey, dif_pos (hmem.mpr hkey)]
    simp only [setAt, hentries, List.map_map]
    apply List.map_congr_left
    intro entry hentry
    have hiff : f entry.1 = f key ↔ entry.1 = key :=
      ⟨hinj entry.1 (List.mem_map_of_mem hentry), fun heq => congrArg f heq⟩
    simp only [Function.comp_apply, Prod.map_fst, hiff]
    split <;> rfl
  · rw [dif_neg hkey, dif_neg fun h => hkey (hmem.mp h)]
    simp [hentries]

end LinkedMap

end WifiProject.Lib
