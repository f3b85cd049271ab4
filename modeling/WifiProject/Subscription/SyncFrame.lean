import WifiProject.Subscription.SyncRun

/-!
What a sync leaves alone. The statements are about the run in a process of its
own; no row is watched there, and row id 0 stands for none.
-/

namespace WifiProject.Subscription

open Lib Database Plugin

/-- The frame of a sync: user configured rows stay, the keys of subscription
rows become unique, only duplicates are deleted, and the current profile is
given up only with its row. -/
structure SyncFrame (before after : Storage) : Prop where
  user : ∀ row ∈ before.table.rows, row.subscription = .userConfigured → row ∈ after.table.rows
  unique : ∀ row ∈ after.table.rows, ∀ other ∈ after.table.rows,
    row.subscription ≠ .userConfigured → other.subscription ≠ .userConfigured →
      row.key = other.key → row = other
  deleted : ∀ row ∈ before.table.rows, after.table.find? row.id = none →
    row.subscription ≠ .userConfigured ∧ ∃ earlier ∈ before.table.rows, earlier.id < row.id ∧
      earlier.subscription ≠ .userConfigured ∧ earlier.key = row.key ∧
        (after.table.find? earlier.id).isSome
  profileId : after.profileId =
    if (before.table.find? before.profileId).isSome ∧ after.table.find? before.profileId = none then 0
    else before.profileId

section NoneWatched

theorem retraffic_zero (totals : Bg.Traffic) (table : ProfileTable) {row : Profile}
    (hrow : row ∈ table.rows) : retraffic 0 totals row = row := by
  have hid := (table.ids row hrow).1
  unfold retraffic
  rw [if_neg (by omega)]

/-- Replies that are true are among those a sync expects. -/
theorem answers_zero (op : StorageCall) (s : Storage) :
    Answers 0 op (Storage.handle op s).1 (Storage.handle op s).1 := by
  cases op with
  | listAll =>
      refine ⟨0, ?_⟩
      change (s.onTable s.table.rows s.table).1 = (s.onTable s.table.rows s.table).1.map _
      have hrows : s.table.rows.map (retraffic 0 0) = s.table.rows :=
        (List.map_congr_left fun row hrow => retraffic_zero 0 s.table hrow).trans (List.map_id _)
      rw [Storage.onTable_table]
      split <;> simp [hrows]
  | get id =>
      refine ⟨0, ?_⟩
      change (s.onTable (s.table.find? id) s.table).1 = (s.onTable (s.table.find? id) s.table).1.map _
      have hrow : (s.table.find? id).map (retraffic 0 0) = s.table.find? id := by
        cases hfind : s.table.find? id with
        | none => rfl
        | some row =>
            rw [Option.map_some,
              retraffic_zero 0 s.table ((s.table.find?_eq_some_iff id row).mp hfind).1]
      rw [Storage.onTable_table]
      split <;> simp [hrow]
  | _ => exact rfl

theorem honours_watched_zero :
    Prog.Honours Storage.handle (watched 0) fun s g => g.storage = s := by
  rintro op s g rfl -
  exact ⟨answers_zero op g.storage, rfl⟩

end NoneWatched

section Frame

variable {s0 : Storage} {out : Except Failure Unit} {m : SyncMemory} {g : Watched}

/-- A row that is not kept comes after the kept row with its key. -/
theorem earlier_of_not_kept {table : ProfileTable} {row : Profile} (hrow : row ∈ table.rows)
    (hdropped : ¬ Kept table.rows row) :
    row.subscription ≠ .userConfigured ∧ ∃ earlier ∈ table.rows, earlier.id < row.id ∧
      earlier.subscription ≠ .userConfigured ∧ earlier.key = row.key ∧
        Kept table.rows earlier := by
  have hsubscribed : row.subscription ≠ .userConfigured := fun huser => hdropped (Or.inl huser)
  refine ⟨hsubscribed, ?_⟩
  cases hfirst : firstSubscribed table.rows row.key with
  | none =>
      have hnone := List.find?_eq_none.mp hfirst row hrow
      simp [hsubscribed] at hnone
  | some earlier =>
      obtain ⟨hmem, hactive, hkey⟩ := firstSubscribed_mem hfirst
      refine ⟨earlier, hmem, ?_, hactive, hkey, Or.inr (by rw [hkey, hfirst])⟩
      obtain ⟨-, before, after, hsplit, hbefore⟩ := List.find?_eq_some_iff_append.mp hfirst
      have hsorted := table.sorted
      rw [hsplit, List.pairwise_append] at hsorted
      rw [hsplit] at hrow
      rcases List.mem_append.mp hrow with hin | hin
      · have hcontra := hbefore row hin
        simp [hsubscribed] at hcontra
      · rcases List.mem_cons.mp hin with heq | hafter
        · subst heq
          exact absurd (Or.inr hfirst) hdropped
        · exact List.rel_of_pairwise_cons hsorted.2.1 hafter

/-- What the end of a sync says about the storage when no row is watched. -/
theorem Synced.frame (h : Synced s0 s0.table.rows 0 out m g) : SyncFrame s0 g.storage := by
  have hsyncing := h.syncing
  have hnone {row : Profile} (hrow : row ∈ s0.table.rows) :
      g.storage.table.find? row.id = none ↔ ¬ Kept s0.table.rows row := by
    constructor
    · intro hfind hk
      have hsome := hsyncing.kept row hrow hk
      simp [hfind] at hsome
    · exact hsyncing.deleted row hrow
  refine ⟨hsyncing.user, ?_, ?_, ?_⟩
  · intro row hrow other hother hactive hactive' hkey
    have howned := hsyncing.owned row hrow hactive
    rw [hkey, hsyncing.owned other hother hactive'] at howned
    exact g.storage.table.eq_of_id_eq hrow hother (Option.some.inj howned).symm
  · intro row hrow hfind
    obtain ⟨hsubscribed, earlier, hmem, hlt, hactive, hkey, hk⟩ :=
      earlier_of_not_kept hrow ((hnone hrow).mp hfind)
    exact ⟨hsubscribed, earlier, hmem, hlt, hactive, hkey, hsyncing.kept earlier hmem hk⟩
  · rcases hsyncing.profileId with ⟨hzero, row, hrow, hid, hdropped⟩ | ⟨hsame, hall⟩
    · rw [if_pos, hzero]
      have hfound : s0.table.find? s0.profileId = some row :=
        (s0.table.find?_eq_some_iff _ row).mpr ⟨hrow, hid⟩
      rw [hfound, ← hid]
      exact ⟨rfl, (hnone hrow).mpr hdropped⟩
    · rw [if_neg, hsame]
      rintro ⟨hfound, hgone⟩
      obtain ⟨row, hrow⟩ := Option.isSome_iff_exists.mp hfound
      obtain ⟨hmem, hid⟩ := (s0.table.find?_eq_some_iff _ row).mp hrow
      rw [← hid] at hgone
      exact (hnone hmem).mp hgone (hall row hmem hid)

end Frame

/-- On an open database a sync always returns, whatever the documents are, and
keeps its frame; on a closed one it fails at its first query. -/
theorem sync_frame (order : HashOrder) (documents : List Document) (storage : Storage) :
    (sync order documents storage).1 =
        (if storage.isOpen then .ok () else .error .io) ∧
      (storage.isOpen = true → SyncFrame storage (sync order documents storage).2.2) ∧
      (storage.isOpen = false → (sync order documents storage).2.2 = storage) := by
  cases hopen : storage.isOpen with
  | false =>
      have hfails : sync order documents storage = (.error .io, ⟨[], {}⟩, storage) := by
        simp [sync, createProfilesFromSubscription, Routine.exec_bind, hopen]
      simp [hfails]
  | true =>
      have hkeeps : Routine.Keeps (watched 0) _ _ _ _ :=
        keeps_sync hopen (Nat.zero_le _) order documents
      obtain ⟨g, hstorage, rows, hsynced⟩ := hkeeps.exec honours_watched_zero rfl
      obtain ⟨totals, hrows⟩ := hsynced.syncing.answer
      have hsame : rows = storage.table.rows :=
        hrows.trans ((List.map_congr_left fun row hrow =>
          retraffic_zero totals storage.table hrow).trans (List.map_id _))
      subst hsame
      refine ⟨hsynced.returns, fun _ => ?_, by simp⟩
      have hframe := hsynced.frame
      rw [hstorage] at hframe
      exact hframe

end WifiProject.Subscription
