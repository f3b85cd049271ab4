import WifiProject.Plugin.PathProvider
import WifiProject.Plugin.PluginManager

/-!
The two ends of the slow mode: what `populateFiles` of a plugin lists through
`PathProvider`, and what `PluginManager.initNativeSlow` makes of it in the
directory that it has just created.
-/

namespace WifiProject.Plugin

open Lib

inductive PopulateCall where
  | addPath (path : List Char) (mode : Int)
  | addTo (file : FileNode) (to' : List Char) (mode : Int)
  | addAt (file : FileNode) (at' : List Char) (mode : Int)

def PopulateCall.perform (provider : PathProvider) : PopulateCall → PathProvider
  | .addPath path mode => provider.addPath path mode
  | .addTo file to' mode => provider.addTo file to' mode
  | .addAt file at' mode => provider.addAt file at' mode

/-- A plugin's provider; `openFile` tells for which paths of a URI it opens a file. -/
structure NativePluginProvider where
  populateFiles : List PopulateCall
  openFile : List Char → Bool

/-- The cursor for the URI of the provider itself, which has no path. -/
def NativePluginProvider.query (plugin : NativePluginProvider) : List PathRow :=
  (plugin.populateFiles.foldl PopulateCall.perform (PathProvider.ofUri none [])).cursor

/-- `creates`: a regular file can be opened for writing there. -/
structure FileSystem where
  isDirectory : List (List Char) → Bool
  creates : List (List Char) → Bool

namespace FileSystem

/-- Names that lead through directories to what is not one. -/
def opens (system : FileSystem) (here : List (List Char)) : List (List Char) → Bool
  | [] => false
  | [name] =>
      !system.isDirectory (UnixPath.descend here name) &&
        system.creates (UnixPath.descend here name)
  | name :: next :: names =>
      system.isDirectory (UnixPath.descend here name) &&
        system.opens (UnixPath.descend here name) (next :: names)

/-- A directory that was deleted with all it held, and made again. The loop makes
no directories in it. -/
def Fresh (system : FileSystem) (dir : List Char) : Prop :=
  ∀ name names, system.isDirectory (UnixPath.location dir ++ name :: names) = false

end FileSystem

/-- A row as `initNativeSlow` finds it, when what it has opened can be copied. -/
def NativePluginProvider.row (plugin : NativePluginProvider) (system : FileSystem)
    (dir : List Char) (row : PathRow) : PluginRow where
  path := row.path
  mode := .integer row.mode
  readable := plugin.openFile ('/' :: row.path)
  writable := system.opens (UnixPath.location dir) (UnixPath.components row.path)

/-- The slow mode from end to end. -/
def initProvided (plugin : NativePluginProvider) (system : FileSystem)
    (noBackupFilesDir id : List Char) :
    List FileEffect × Except PluginFailure (Option (List Char)) :=
  initNativeSlow noBackupFilesDir id
    (some (plugin.query.map (plugin.row system (pluginDir noBackupFilesDir)))) true

/-! ## What is listed -/

/-- The row of a call. The base path is empty, and what has a name starts no
empty path. -/
def PopulateCall.row? : PopulateCall → Option PathRow
  | .addPath path mode => some ⟨trimSlashes path, mode⟩
  | .addAt (.file _) [] mode => some ⟨[], mode⟩
  | _ => none

section Query

variable {provider : PathProvider}

theorem addTo_eq_self (h : provider.basePath = []) (file : FileNode) (to' : List Char) (mode : Int) :
    provider.addTo file to' mode = provider := by
  have hname : (to' ++ file.name).isPrefixOf provider.basePath = false := by
    rw [h, Bool.eq_false_iff, ne_eq, List.isPrefixOf_iff_prefix, List.prefix_nil]
    intro hnil
    have hne : file.name ≠ [] := by
      cases file with
      | file name | directory name => exact name.property.1
    exact hne (List.append_eq_nil_iff.mp hnil).2
  cases file with
  | file name | directory name =>
      unfold PathProvider.addTo
      simp only [FileNode.name] at hname
      simp [hname]

theorem addEach_eq_self (h : provider.basePath = []) (files : List FileNode) (to' : List Char)
    (mode : Int) : provider.addEach files to' mode = provider := by
  induction files with
  | nil => simp only [PathProvider.addEach]
  | cons file files ih =>
      simp only [PathProvider.addEach]
      rw [addTo_eq_self h, ih]

theorem perform_eq (cursor : List PathRow) (call : PopulateCall) :
    call.perform ⟨[], cursor⟩ = ⟨[], cursor ++ call.row?.toList⟩ := by
  cases call with
  | addPath path mode => simp [PopulateCall.perform, PathProvider.addPath, PopulateCall.row?]
  | addTo file to' mode => simp [PopulateCall.perform, PopulateCall.row?, addTo_eq_self]
  | addAt file at' mode =>
      cases at' with
      | nil =>
          cases file <;>
            simp [PopulateCall.perform, PathProvider.addAt, PathProvider.addPath,
              PopulateCall.row?, addEach_eq_self, trimSlashes, Text.trimBy]
      | cons c at' =>
          cases file <;> simp [PopulateCall.perform, PathProvider.addAt, PopulateCall.row?]

theorem foldl_perform (cursor : List PathRow) (calls : List PopulateCall) :
    calls.foldl PopulateCall.perform ⟨[], cursor⟩ =
      ⟨[], cursor ++ calls.filterMap PopulateCall.row?⟩ := by
  induction calls generalizing cursor with
  | nil => simp
  | cons call calls ih =>
      rw [List.foldl_cons, perform_eq, ih]
      cases hrow : call.row? <;> simp [hrow]

theorem query_eq (plugin : NativePluginProvider) :
    plugin.query = plugin.populateFiles.filterMap PopulateCall.row? := by
  change (plugin.populateFiles.foldl PopulateCall.perform ⟨[], []⟩).cursor = _
  rw [foldl_perform, List.nil_append]

end Query

/-! ## What is copied -/

section Copy

variable {plugin : NativePluginProvider} {system : FileSystem} {noBackupFilesDir dir id : List Char}

/-- The name of a file in the plugin directory that can be filled. -/
structure Storable (plugin : NativePluginProvider) (system : FileSystem) (dir path : List Char) :
    Prop where
  named : path ≠ []
  flat : '/' ∉ path
  terminated : '\x00' ∉ path
  readable : plugin.openFile ('/' :: path) = true
  creates : system.creates (UnixPath.location dir ++ [path]) = true

/-- A path that does not climb is opened just if it is a single name: there are no
directories for more. -/
theorem opens_iff (hfresh : system.Fresh dir) {path : List Char}
    (hdots : ∀ name ∈ UnixPath.components path, name ≠ ['.'] ∧ name ≠ ['.', '.'])
    (hhead : path.head? ≠ some '/') (hlast : path.getLast? ≠ some '/') :
    system.opens (UnixPath.location dir) (UnixPath.components path) = true ↔
      path ≠ [] ∧ '/' ∉ path ∧ system.creates (UnixPath.location dir ++ [path]) = true := by
  by_cases hslash : '/' ∈ path
  · obtain ⟨first, second, rest, hnames⟩ := UnixPath.exists_two_components hhead hlast hslash
    rw [hnames] at hdots ⊢
    have hfirst := hdots first (by simp)
    have hnone : system.isDirectory (UnixPath.location dir ++ [first]) = false := hfresh first []
    simp [FileSystem.opens, UnixPath.descend, hfirst.1, hfirst.2, hnone, hslash]
  · by_cases hnil : path = []
    · simp [hnil, FileSystem.opens]
    · rw [UnixPath.components_of_not_mem hnil hslash] at hdots ⊢
      have hname := hdots path (by simp)
      have hnone : system.isDirectory (UnixPath.location dir ++ [path]) = false := hfresh path []
      simp [FileSystem.opens, UnixPath.descend, hname.1, hname.2, hnone, hslash, hnil]

theorem copyRow_of_storable (hdir : dir ≠ ['/']) (hnul : '\x00' ∉ dir) (hfresh : system.Fresh dir)
    {row : PathRow} (hdots : ∀ name ∈ UnixPath.components row.path, name ≠ ['.'] ∧ name ≠ ['.', '.'])
    (hends : row.path.head? ≠ some '/' ∧ row.path.getLast? ≠ some '/')
    (h : Storable plugin system dir row.path) :
    copyRow dir (plugin.row system dir row) =
      ([.opened (dir ++ '/' :: row.path), .chmod (dir ++ '/' :: row.path) row.mode], .ok ()) := by
  have hfile : UnixPath.file dir row.path = dir ++ '/' :: row.path :=
    UnixPath.file_of_not_mem hdir h.named h.flat
  have hprefix : (dir ++ ['/']).isPrefixOf (dir ++ '/' :: row.path) = true := by
    rw [List.isPrefixOf_iff_prefix]
    exact ⟨row.path, by simp⟩
  have hopens : system.opens (UnixPath.location dir) (UnixPath.components row.path) = true :=
    (opens_iff hfresh hdots hends.1 hends.2).mpr ⟨h.named, h.flat, h.creates⟩
  simp [copyRow, NativePluginProvider.row, hfile, hprefix, h.readable, hopens, ModeColumn.value,
    hnul, h.terminated]

theorem storable_of_copyRow (hdir : dir ≠ ['/']) (hfresh : system.Fresh dir)
    {row : PathRow} (hdots : ∀ name ∈ UnixPath.components row.path, name ≠ ['.'] ∧ name ≠ ['.', '.'])
    (hends : row.path.head? ≠ some '/' ∧ row.path.getLast? ≠ some '/')
    (h : (copyRow dir (plugin.row system dir row)).2 = .ok ()) :
    Storable plugin system dir row.path := by
  have hadmitted : Admitted dir (plugin.row system dir row) := by
    rcases copyRow_cases hdir (plugin.row system dir row) with
      ⟨-, failure, hfailure⟩ | ⟨⟨-, hadmitted⟩, -⟩
    · rw [hfailure] at h
      cases h
    · exact hadmitted
  obtain ⟨hreadable, hopens, hterminated⟩ := hadmitted
  obtain ⟨hnamed, hflat, hcreates⟩ := (opens_iff hfresh hdots hends.1 hends.2).mp hopens
  rw [show (plugin.row system dir row).path = row.path from rfl,
    UnixPath.file_of_not_mem hdir hnamed hflat] at hterminated
  refine ⟨hnamed, hflat, ?_, hreadable, hcreates⟩
  intro hmem
  exact hterminated (List.mem_append_right _ (List.mem_cons_of_mem _ hmem))

/-- The loop is through if every row is. -/
theorem copyRows_ok_iff (dir : List Char) (id : List Char) (rows : List PluginRow) (initialized found : Bool) :
    (copyRows dir id rows initialized).2 = .ok found ↔
      Copied dir rows ∧ found = (initialized || rows.any (·.path == id)) := by
  induction rows generalizing initialized with
  | nil => simp [copyRows, Copied, eq_comm]
  | cons row rows ih =>
      have hcopied : Copied dir (row :: rows) ↔ (copyRow dir row).2 = .ok () ∧ Copied dir rows :=
        List.forall_mem_cons
      rw [hcopied, List.any_cons, ← Bool.or_assoc]
      unfold copyRows
      split
      · rename_i effects failure hfailure
        simp [hfailure]
      · rename_i effects hok
        simpa [hok] using ih (initialized || row.path == id)

theorem copyRows_effects {rows : List PluginRow} (h : Copied dir rows) (initialized : Bool) :
    (copyRows dir id rows initialized).1 = rows.flatMap fun row => (copyRow dir row).1 := by
  obtain ⟨initialized', hrun⟩ := copyRows_append h id [] initialized
  rw [List.append_nil] at hrun
  rw [hrun]
  simp [copyRows]

/-- Success of the whole. -/
theorem initNativeSlow_ok_iff (rows : List PluginRow) (entry : Option (List Char)) :
    (initNativeSlow noBackupFilesDir id (some rows) true).2 = .ok entry ↔
      Copied (pluginDir noBackupFilesDir) rows ∧ rows.any (·.path == id) = true ∧
        entry = some (UnixPath.file (pluginDir noBackupFilesDir) id) := by
  have hloop := copyRows_ok_iff (pluginDir noBackupFilesDir) id rows false
  cases rows with
  | nil => simp [initNativeSlow]
  | cons row rows =>
      simp only [initNativeSlow, Bool.true_eq_false, if_false]
      generalize (row :: rows).any (·.path == id) = listed at hloop ⊢
      rw [Bool.false_or] at hloop
      split
      · rename_i effects failure hrun
        have hnot : ¬ Copied (pluginDir noBackupFilesDir) (row :: rows) := by
          intro hcopied
          have hok := (hloop listed).mpr ⟨hcopied, rfl⟩
          rw [hrun] at hok
          cases hok
        simp [hnot]
      · rename_i effects hrun
        obtain ⟨-, rfl⟩ := (hloop false).mp (by rw [hrun])
        simp
      · rename_i effects hrun
        obtain ⟨hcopied, rfl⟩ := (hloop true).mp (by rw [hrun])
        simp [hcopied, eq_comm]

/-- What is done to files then. -/
theorem initNativeSlow_copied {rows : List PluginRow}
    (h : Copied (pluginDir noBackupFilesDir) rows) :
    (initNativeSlow noBackupFilesDir id (some rows) true).1 =
      rows.flatMap fun row => (copyRow (pluginDir noBackupFilesDir) row).1 := by
  rw [initNativeSlow_effects, copyRows_effects h]

/-- A call that the slow mode can cope with. Nothing comes of a directory. -/
def PopulateCall.Works (plugin : NativePluginProvider) (system : FileSystem) (dir : List Char) :
    PopulateCall → Prop
  | .addPath path _ => Storable plugin system dir (trimSlashes path)
  | .addAt (.file _) [] _ => False
  | _ => True

end Copy

/-- No path of the plugin climbs. -/
def NativePluginProvider.StaysBelow (plugin : NativePluginProvider) : Prop :=
  ∀ path mode, .addPath path mode ∈ plugin.populateFiles →
    ∀ name ∈ UnixPath.components (trimSlashes path), name ≠ ['.'] ∧ name ≠ ['.', '.']

theorem works_iff (plugin : NativePluginProvider) (system : FileSystem) (dir : List Char)
    (call : PopulateCall) :
    call.Works plugin system dir ↔ ∀ row ∈ call.row?, Storable plugin system dir row.path := by
  have hempty : ¬ Storable plugin system dir [] := fun h => h.named rfl
  cases call with
  | addPath path mode => simp [PopulateCall.Works, PopulateCall.row?]
  | addTo file to' mode => simp [PopulateCall.Works, PopulateCall.row?]
  | addAt file at' mode =>
      cases file <;> cases at' <;> simp [PopulateCall.Works, PopulateCall.row?, hempty]

section Query

variable {plugin : NativePluginProvider} {system : FileSystem} {dir : List Char} {row : PathRow}

theorem ends_of_mem_query (h : row ∈ plugin.query) :
    row.path.head? ≠ some '/' ∧ row.path.getLast? ≠ some '/' := by
  rw [query_eq, List.mem_filterMap] at h
  obtain ⟨call, -, hrow⟩ := h
  cases call with
  | addPath path mode =>
      cases hrow
      refine ⟨fun hhead => ?_, fun hlast => ?_⟩
      · simpa using Text.head?_trimBy hhead
      · simpa using Text.getLast?_trimBy hlast
  | addTo => cases hrow
  | addAt file at' mode =>
      cases file <;> cases at' <;> cases hrow
      simp

theorem dots_of_mem_query (hbelow : plugin.StaysBelow) (h : row ∈ plugin.query) :
    ∀ name ∈ UnixPath.components row.path, name ≠ ['.'] ∧ name ≠ ['.', '.'] := by
  rw [query_eq, List.mem_filterMap] at h
  obtain ⟨call, hcall, hrow⟩ := h
  cases call with
  | addPath path mode =>
      cases hrow
      exact hbelow path mode hcall
  | addTo => cases hrow
  | addAt file at' mode =>
      cases file <;> cases at' <;> cases hrow
      simp

theorem all_works_iff : (∀ call ∈ plugin.populateFiles, call.Works plugin system dir) ↔
    ∀ row ∈ plugin.query, Storable plugin system dir row.path := by
  simp only [works_iff, query_eq, List.mem_filterMap]
  constructor
  · rintro hall row ⟨call, hcall, hrow⟩
    exact hall call hcall row hrow
  · intro hall call hcall row hrow
    exact hall row ⟨call, hcall, hrow⟩

theorem copied_iff (hdir : dir ≠ ['/']) (hnul : '\x00' ∉ dir) (hfresh : system.Fresh dir)
    (hbelow : plugin.StaysBelow) :
    Copied dir (plugin.query.map (plugin.row system dir)) ↔
      ∀ row ∈ plugin.query, Storable plugin system dir row.path := by
  unfold Copied
  rw [List.forall_mem_map]
  refine forall₂_congr fun row hrow => ?_
  constructor
  · exact storable_of_copyRow hdir hfresh (dots_of_mem_query hbelow hrow) (ends_of_mem_query hrow)
  · intro hstorable
    rw [copyRow_of_storable hdir hnul hfresh (dots_of_mem_query hbelow hrow) (ends_of_mem_query hrow)
      hstorable]

/-- Only `addPath` lists a path with a name. -/
theorem any_query_iff (hstorable : ∀ row ∈ plugin.query, Storable plugin system dir row.path)
    (id : List Char) : (plugin.query.map (plugin.row system dir)).any (·.path == id) = true ↔
      ∃ path mode, .addPath path mode ∈ plugin.populateFiles ∧ trimSlashes path = id := by
  rw [List.any_map, List.any_eq_true]
  constructor
  · rintro ⟨row, hrow, hid⟩
    have hnamed := (hstorable row hrow).named
    rw [query_eq, List.mem_filterMap] at hrow
    obtain ⟨call, hcall, hrow⟩ := hrow
    cases call with
    | addPath path mode =>
        cases hrow
        exact ⟨path, mode, hcall, by simpa [NativePluginProvider.row] using hid⟩
    | addTo => cases hrow
    | addAt file at' mode =>
        cases file <;> cases at' <;> cases hrow
        exact absurd rfl hnamed
  · rintro ⟨path, mode, hcall, hid⟩
    refine ⟨⟨trimSlashes path, mode⟩, ?_, by simp [NativePluginProvider.row, hid]⟩
    rw [query_eq, List.mem_filterMap]
    exact ⟨_, hcall, rfl⟩

end Query

/-- A plugin whose paths do not climb is initialised in the slow mode just if each
path it adds is one name without a NUL, of a file that `openFile` gives and that
can be created, no file is added under the empty path, and the executable is
among them; `addTo`, and `addAt` of a directory, list nothing. Then the files are
copied under these names, in this order. -/
theorem initProvided_iff (plugin : NativePluginProvider) (system : FileSystem)
    (noBackupFilesDir id : List Char) (entry : Option (List Char))
    (hnul : '\x00' ∉ pluginDir noBackupFilesDir) (hfresh : system.Fresh (pluginDir noBackupFilesDir))
    (hbelow : plugin.StaysBelow) :
    ((initProvided plugin system noBackupFilesDir id).2 = .ok entry ↔
      (∀ call ∈ plugin.populateFiles, call.Works plugin system (pluginDir noBackupFilesDir)) ∧
      (∃ path mode, .addPath path mode ∈ plugin.populateFiles ∧ trimSlashes path = id) ∧
      entry = some (pluginDir noBackupFilesDir ++ '/' :: id)) ∧
    ((initProvided plugin system noBackupFilesDir id).2 = .ok entry →
      (initProvided plugin system noBackupFilesDir id).1 =
        (plugin.populateFiles.filterMap PopulateCall.row?).flatMap fun row =>
          [.opened (pluginDir noBackupFilesDir ++ '/' :: row.path),
            .chmod (pluginDir noBackupFilesDir ++ '/' :: row.path) row.mode]) := by
  have hdir := pluginDir_ne_root noBackupFilesDir
  have hcopied := @copied_iff plugin _ _ hdir hnul hfresh hbelow
  unfold initProvided
  rw [initNativeSlow_ok_iff, hcopied, all_works_iff]
  constructor
  · refine and_congr_right fun hstorable => ?_
    rw [any_query_iff hstorable]
    refine and_congr_right fun hlisted => ?_
    obtain ⟨path, mode, hcall, rfl⟩ := hlisted
    have hid := all_works_iff.mpr hstorable _ hcall
    rw [UnixPath.file_of_not_mem hdir hid.named hid.flat]
  · rintro ⟨hstorable, -⟩
    rw [initNativeSlow_copied (hcopied.mpr hstorable), List.flatMap_map, ← query_eq]
    refine List.flatMap_congr fun row hrow => ?_
    rw [copyRow_of_storable hdir hnul hfresh (dots_of_mem_query hbelow hrow) (ends_of_mem_query hrow)
      (hstorable row hrow)]

def loneExecutable : NativePluginProvider where
  populateFiles := [.addPath "obfs-local".toList 0b111101101]
  openFile := fun _ => true

/-- Everything lies in `/data/no_backup/plugin`. -/
def shallowSystem : FileSystem where
  isDirectory := fun here => here.length ≤ 3
  creates := fun _ => true

theorem shallowSystem_fresh : shallowSystem.Fresh (pluginDir "/data/no_backup".toList) := by
  intro name names
  have hlocation : UnixPath.location (pluginDir "/data/no_backup".toList) =
      ["data".toList, "no_backup".toList, "plugin".toList] := by decide +kernel
  rw [hlocation]
  simp [shallowSystem]

theorem loneExecutable_staysBelow : loneExecutable.StaysBelow := by
  intro path mode hcall
  obtain ⟨rfl, -⟩ : path = "obfs-local".toList ∧ mode = 0b111101101 := by
    simpa [loneExecutable] using hcall
  decide +kernel

theorem initProvided_lone_executable :
    (initProvided loneExecutable shallowSystem "/data/no_backup".toList "obfs-local".toList).2 =
      .ok (some (pluginDir "/data/no_backup".toList ++ '/' :: "obfs-local".toList)) := by
  refine (initProvided_iff loneExecutable shallowSystem "/data/no_backup".toList
    "obfs-local".toList _ (by decide +kernel) shallowSystem_fresh loneExecutable_staysBelow).1.mpr
    ⟨?_, ⟨_, _, List.mem_singleton_self _, by decide +kernel⟩, rfl⟩
  intro call hcall
  obtain rfl := List.mem_singleton.mp hcall
  exact ⟨by decide +kernel, by decide +kernel, by decide +kernel, rfl, rfl⟩

end WifiProject.Plugin
