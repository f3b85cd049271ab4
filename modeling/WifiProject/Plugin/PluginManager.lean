import WifiProject.Lib.Decimal
import WifiProject.Lib.UnixPath

/-!
`PluginManager.initNativeSlow`: the files that a plugin's content provider
describes are copied into the plugin directory and made executable. What the
provider and the operating system answer for a row is part of the row.
-/

namespace WifiProject.Plugin

open Lib Lib.Decimal

/-- `cursor.getType(1)` and the value of that type. -/
inductive ModeColumn where
  | integer (value : Int)
  | string (value : String)
  | other
  deriving DecidableEq, Repr

/-- A row of the provider. `readable`: its stream can be opened; `writable`: the
file can be opened for writing; `copies` and `chmods`: so can the rest be done. -/
structure PluginRow where
  path : List Char
  mode : ModeColumn
  readable : Bool := true
  writable : Bool := true
  copies : Bool := true
  chmods : Bool := true
  deriving DecidableEq, Repr

/-- What makes `initNativeSlow` fail. -/
inductive PluginFailure where
  | entryNotFound
  | directory
  | check
  | unreadable
  | unwritable
  | copy
  | mode
  | chmod
  deriving DecidableEq, Repr

/-- What it does to files. -/
inductive FileEffect where
  | opened (path : List Char)
  | chmod (path : List Char) (mode : Int)
  deriving DecidableEq, Repr

def FileEffect.path : FileEffect → List Char
  | .opened path => path
  | .chmod path _ => path

/-- `String.toInt(8)`; `none` is a `NumberFormatException`. -/
def parseOctal (text : String) : Option Int :=
  let digits (text : List Char) : Option Nat :=
    if text.isEmpty then none
    else text.foldlM (fun value c =>
      (digit c).bind fun digit => if digit < 8 then some (value * 8 + digit) else none) 0
  match text.toList with
  | '-' :: text => (digits text).bind fun value =>
      if value ≤ 2 ^ 31 then some (-(value : Int)) else none
  | '+' :: text => (digits text).bind fun value =>
      if value < 2 ^ 31 then some (value : Int) else none
  | text => (digits text).bind fun value => if value < 2 ^ 31 then some (value : Int) else none

def ModeColumn.value : ModeColumn → Option Int
  | .integer value => some value
  | .string value => parseOctal value
  | .other => none

/-- `File(Core.deviceStorage.noBackupFilesDir, "plugin")`. -/
def pluginDir (noBackupFilesDir : List Char) : List Char :=
  UnixPath.file noBackupFilesDir "plugin".toList

/-- The body of the loop over the rows. -/
def copyRow (dir : List Char) (row : PluginRow) : List FileEffect × Except PluginFailure Unit :=
  let file := UnixPath.file dir row.path
  if (dir ++ ['/']).isPrefixOf file = false then ([], .error .check)
  else if row.readable = false then ([], .error .unreadable)
  -- `FileOutputStream` refuses a path with a NUL in it
  else if '\x00' ∈ file ∨ row.writable = false then ([], .error .unwritable)
  else if row.copies = false then ([.opened file], .error .copy)
  else
    match row.mode.value with
    | none => ([.opened file], .error .mode)
    | some mode =>
        if row.chmods = false then ([.opened file], .error .chmod)
        else ([.opened file, .chmod file mode], .ok ())

/-- The loop; the result tells whether a row was the plugin's entry. -/
def copyRows (dir id : List Char) : List PluginRow → Bool →
    List FileEffect × Except PluginFailure Bool
  | [], initialized => ([], .ok initialized)
  | row :: rows, initialized =>
      match copyRow dir row with
      | (effects, .error failure) => (effects, .error failure)
      | (effects, .ok _) =>
          let rest := copyRows dir id rows (initialized || row.path == id)
          (effects ++ rest.1, rest.2)

/-- `initNativeSlow`; `rows` is what the query returns, `created` whether the
directory could be made. -/
def initNativeSlow (noBackupFilesDir id : List Char) (rows : Option (List PluginRow))
    (created : Bool) : List FileEffect × Except PluginFailure (Option (List Char)) :=
  match rows with
  | none => ([], .ok none)
  | some [] => ([], .error .entryNotFound)
  | some rows =>
      if created = false then ([], .error .directory)
      else
        match copyRows (pluginDir noBackupFilesDir) id rows false with
        | (effects, .error failure) => (effects, .error failure)
        | (effects, .ok false) => (effects, .error .entryNotFound)
        | (effects, .ok true) => (effects, .ok (some (UnixPath.file (pluginDir noBackupFilesDir) id)))

/-- The loop gets past these rows. -/
def Copied (dir : List Char) (rows : List PluginRow) : Prop :=
  ∀ row ∈ rows, (copyRow dir row).2 = .ok ()

/-- What is touched lies inside the plugin directory, and a row that does not lie
there makes the whole fail before its file is written. -/
def StaysInside (noBackupFilesDir id : List Char) (rows : List PluginRow) (created : Bool) : Prop :=
  let dir := pluginDir noBackupFilesDir
  let outcome := initNativeSlow noBackupFilesDir id (some rows) created
  (∀ effect ∈ outcome.1, UnixPath.StrictlyInside dir effect.path) ∧
    ∀ before row after, rows = before ++ row :: after → created = true → Copied dir before →
      ¬ UnixPath.StrictlyInside dir (UnixPath.file dir row.path) →
        (∃ failure, outcome.2 = .error failure) ∧
          outcome.1 = before.flatMap fun row => (copyRow dir row).1

/-- The names in a path lead from the directory to something inside it. -/
def LeadsInside (noBackupFilesDir path : List Char) : Prop :=
  let dir := UnixPath.location (pluginDir noBackupFilesDir)
  ∃ name names, UnixPath.follow dir (UnixPath.components path) = dir ++ name :: names

/-- A row that the provider and the operating system let through. -/
def Admitted (dir : List Char) (row : PluginRow) : Prop :=
  row.readable = true ∧ row.writable = true ∧ '\x00' ∉ UnixPath.file dir row.path

section Rows

variable {dir : List Char} {row : PluginRow}

/-- A row is stopped before its file is opened, or the file is opened and nothing
else is touched. -/
theorem copyRow_cases (hdir : dir ≠ ['/']) (row : PluginRow) :
    (¬ (UnixPath.components row.path ≠ [] ∧ Admitted dir row) ∧
      ∃ failure, copyRow dir row = ([], .error failure)) ∨
    ((UnixPath.components row.path ≠ [] ∧ Admitted dir row) ∧
      .opened (UnixPath.file dir row.path) ∈ (copyRow dir row).1 ∧
        ∀ effect ∈ (copyRow dir row).1, effect.path = UnixPath.file dir row.path) := by
  have hguard := UnixPath.isPrefixOf_file dir row.path hdir
  by_cases hname : UnixPath.components row.path ≠ []
  · have hprefix := hguard.mpr hname
    by_cases hadmitted : Admitted dir row
    · have hopens : ¬ ('\x00' ∈ UnixPath.file dir row.path ∨ row.writable = false) := by
        rw [not_or]
        exact ⟨hadmitted.2.2, by simp [hadmitted.2.1]⟩
      refine Or.inr ⟨⟨hname, hadmitted⟩, ?_⟩
      simp only [copyRow, hprefix, hadmitted.1, Bool.true_eq_false, if_false, hopens]
      split
      · simp [FileEffect.path]
      · split
        · simp [FileEffect.path]
        · split
          · simp [FileEffect.path]
          · simp [FileEffect.path]
    · refine Or.inl ⟨fun h => hadmitted h.2, ?_⟩
      simp only [copyRow, hprefix, Bool.true_eq_false, if_false]
      split
      · exact ⟨_, rfl⟩
      · rename_i hreadable
        split
        · exact ⟨_, rfl⟩
        · rename_i hopens
          rw [not_or] at hopens
          exact absurd ⟨by simpa using hreadable, by simpa using hopens.2, hopens.1⟩ hadmitted
  · have hprefix : (dir ++ ['/']).isPrefixOf (UnixPath.file dir row.path) = false :=
      Bool.eq_false_iff.mpr fun htrue => hname (hguard.mp htrue)
    refine Or.inl ⟨fun h => hname h.1, .check, ?_⟩
    simp only [copyRow, hprefix, if_true]

variable {id : List Char}

/-- The rows that were copied, and then the others. -/
theorem copyRows_append {before : List PluginRow} (h : Copied dir before) (id : List Char)
    (rest : List PluginRow) (initialized : Bool) :
    ∃ initialized', copyRows dir id (before ++ rest) initialized =
      (before.flatMap (fun row => (copyRow dir row).1) ++ (copyRows dir id rest initialized').1,
        (copyRows dir id rest initialized').2) := by
  induction before generalizing initialized with
  | nil => exact ⟨initialized, rfl⟩
  | cons row before ih =>
      have hrow := h row (by simp)
      obtain ⟨initialized', hrest⟩ :=
        ih (fun other hother => h other (List.mem_cons_of_mem _ hother)) (initialized || row.path == id)
      refine ⟨initialized', ?_⟩
      rw [List.cons_append, copyRows]
      split
      · rename_i failure hfailure
        rw [hfailure] at hrow
        cases hrow
      · rename_i effects hok
        simp only [hrest, List.flatMap_cons, hok, List.append_assoc]

/-- The effects of the loop are those of a row that was reached. -/
theorem mem_copyRows {rows : List PluginRow} {initialized : Bool} {effect : FileEffect}
    (h : effect ∈ (copyRows dir id rows initialized).1) :
    ∃ before row after, rows = before ++ row :: after ∧ Copied dir before ∧
      effect ∈ (copyRow dir row).1 := by
  induction rows generalizing initialized with
  | nil => cases h
  | cons row rows ih =>
      rw [copyRows] at h
      split at h
      · rename_i effects failure hfailure
        exact ⟨[], row, rows, rfl, by simp [Copied], by rw [hfailure]; exact h⟩
      · rename_i effects hok
        rcases List.mem_append.mp h with hrow | hrest
        · exact ⟨[], row, rows, rfl, by simp [Copied], by rw [hok]; exact hrow⟩
        · obtain ⟨before, other, after, rfl, hbefore, heffect⟩ := ih hrest
          refine ⟨row :: before, other, after, rfl, ?_, heffect⟩
          intro copied hcopied
          rcases List.mem_cons.mp hcopied with rfl | hmem
          · rw [hok]
          · exact hbefore copied hmem

end Rows

theorem pluginDir_ne_root (noBackupFilesDir : List Char) : pluginDir noBackupFilesDir ≠ ['/'] := by
  intro hroot
  have hcomponents := UnixPath.components_file noBackupFilesDir "plugin".toList
  have hplugin : UnixPath.components "plugin".toList = ["plugin".toList] := by decide +kernel
  have hnone : UnixPath.components (pluginDir noBackupFilesDir) = [] := by
    rw [hroot]
    rfl
  rw [hplugin] at hcomponents
  rw [pluginDir, hcomponents] at hnone
  simp at hnone

theorem leadsInside_iff (noBackupFilesDir path : List Char) :
    LeadsInside noBackupFilesDir path ↔ UnixPath.StrictlyInside (pluginDir noBackupFilesDir)
      (UnixPath.file (pluginDir noBackupFilesDir) path) := by
  unfold LeadsInside UnixPath.StrictlyInside
  rw [UnixPath.location_file]

section Run

variable {noBackupFilesDir id : List Char} {rows : List PluginRow}

/-- Once the directory is made, the effects are those of the loop. -/
theorem initNativeSlow_effects (noBackupFilesDir id : List Char) (rows : List PluginRow) :
    (initNativeSlow noBackupFilesDir id (some rows) true).1 =
      (copyRows (pluginDir noBackupFilesDir) id rows false).1 := by
  cases rows with
  | nil => rfl
  | cons row rows =>
      simp only [initNativeSlow, Bool.true_eq_false, if_false]
      split <;> rename_i hrows <;> rw [hrows]

theorem initNativeSlow_error {failure : PluginFailure} {effects : List FileEffect}
    (h : copyRows (pluginDir noBackupFilesDir) id rows false = (effects, .error failure)) :
    initNativeSlow noBackupFilesDir id (some rows) true = (effects, .error failure) := by
  cases rows with
  | nil => cases h
  | cons row rows => simp only [initNativeSlow, Bool.true_eq_false, if_false, h]

end Run

/-- The files stay inside the plugin directory exactly if every row that is
reached, is let through and has a name in its path leads inside. The check of the
code stops only paths without a name. -/
theorem staysInside_iff (noBackupFilesDir id : List Char) (rows : List PluginRow) (created : Bool) :
    StaysInside noBackupFilesDir id rows created ↔
      ∀ before row after, rows = before ++ row :: after → created = true →
        Copied (pluginDir noBackupFilesDir) before → Admitted (pluginDir noBackupFilesDir) row →
          UnixPath.components row.path ≠ [] → LeadsInside noBackupFilesDir row.path := by
  have hdir := pluginDir_ne_root noBackupFilesDir
  constructor
  · rintro ⟨hinside, -⟩ before row after rfl rfl hbefore hadmitted hname
    rw [initNativeSlow_effects] at hinside
    rw [leadsInside_iff]
    rcases copyRow_cases hdir row with ⟨hstopped, -⟩ | ⟨-, hopened, -⟩
    · exact absurd ⟨hname, hadmitted⟩ hstopped
    · apply hinside (.opened _)
      obtain ⟨initialized, hrun⟩ := copyRows_append hbefore id (row :: after) false
      rw [hrun]
      apply List.mem_append_right
      rw [copyRows]
      split
      · rename_i effects failure hfailure
        rw [hfailure] at hopened
        exact hopened
      · rename_i effects hok
        rw [hok] at hopened
        exact List.mem_append_left _ hopened
  · intro hleads
    refine ⟨?_, ?_⟩
    · intro effect heffect
      cases created with
      | false =>
          cases rows <;> cases heffect
      | true =>
          rw [initNativeSlow_effects] at heffect
          obtain ⟨before, row, after, hsplit, hbefore, hrow⟩ := mem_copyRows heffect
          rcases copyRow_cases hdir row with ⟨-, failure, hfailure⟩ | ⟨⟨hname, hadmitted⟩, -, hpath⟩
          · rw [hfailure] at hrow
            cases hrow
          · rw [hpath effect hrow, ← leadsInside_iff]
            exact hleads before row after hsplit rfl hbefore hadmitted hname
    · rintro before row after rfl rfl hbefore houtside
      rw [← leadsInside_iff] at houtside
      rcases copyRow_cases hdir row with ⟨-, failure, hfailure⟩ | ⟨⟨hname, hadmitted⟩, -, -⟩
      · obtain ⟨initialized, hrun⟩ := copyRows_append hbefore id (row :: after) false
        have hrest : copyRows (pluginDir noBackupFilesDir) id (row :: after) initialized =
            ([], .error failure) := by
          rw [copyRows, hfailure]
        rw [hrest, List.append_nil] at hrun
        rw [initNativeSlow_error hrun]
        exact ⟨⟨failure, rfl⟩, rfl⟩
      · exact absurd (hleads before row after rfl rfl hbefore hadmitted hname) houtside

/-- The prefix of the path does not tell where two dots lead. -/
theorem staysInside_fails_dots :
    ¬ StaysInside "/data/no_backup".toList "main".toList
      [{ path := "../x".toList, mode := .integer 448 }] true := by
  intro h
  have hinside := h.1 (.opened "/data/no_backup/plugin/../x".toList) (by decide +kernel)
  obtain ⟨name, names, hlocation⟩ := hinside
  have hpath : UnixPath.location "/data/no_backup/plugin/../x".toList =
      ["data".toList, "no_backup".toList, "x".toList] := by decide +kernel
  have hdir : UnixPath.location (pluginDir "/data/no_backup".toList) =
      ["data".toList, "no_backup".toList, "plugin".toList] := by decide +kernel
  change UnixPath.location "/data/no_backup/plugin/../x".toList = _ at hlocation
  rw [hpath, hdir] at hlocation
  simp at hlocation

end WifiProject.Plugin
