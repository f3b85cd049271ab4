import Mathlib.Data.List.Perm.Basic
import Mathlib.Data.List.Nodup
import WifiProject.Lib.Text

/-!
`PathProvider`: the rows that the content provider of a plugin lists, given the path
of each file or a directory with all of them.
-/

namespace WifiProject.Plugin

open Lib

/-- The name of a file in its directory. -/
abbrev FileName := { name : List Char // name ≠ [] ∧ '/' ∉ name }

/-- `java.io.File`, with what `listFiles` finds below it. -/
inductive FileNode where
  | file (name : FileName)
  | directory (name : FileName) (entries : List FileNode)

def FileNode.name : FileNode → List Char
  | .file name => name.val
  | .directory name _ => name.val

mutual

/-- No directory has two entries of one name. -/
def FileNode.Distinct : FileNode → Prop
  | .file _ => True
  | .directory _ entries => (entries.map FileNode.name).Nodup ∧ EachDistinct entries

def EachDistinct : List FileNode → Prop
  | [] => True
  | node :: nodes => node.Distinct ∧ EachDistinct nodes

end

/-- A finite file tree. -/
structure FileTree where
  root : FileNode
  distinct : root.Distinct

/-- A row of the cursor: `COLUMN_PATH` and `COLUMN_MODE`. -/
structure PathRow where
  path : List Char
  mode : Int
  deriving DecidableEq, Repr

structure PathProvider where
  basePath : List Char
  cursor : List PathRow

/-- `trim('/')`. -/
def trimSlashes (path : List Char) : List Char := Text.trimBy (· == '/') path

/-- The constructor; `path` is that of the queried URI. -/
def PathProvider.ofUri (path : Option (List Char)) (cursor : List PathRow) : PathProvider :=
  ⟨(path.map trimSlashes).getD [], cursor⟩

namespace PathProvider

def addPath (provider : PathProvider) (path : List Char) (mode : Int := 0b110100100) :
    PathProvider :=
  let trimmed := trimSlashes path
  if provider.basePath.isPrefixOf trimmed then
    { provider with cursor := provider.cursor ++ [⟨trimmed, mode⟩] }
  else provider

mutual

def addTo (provider : PathProvider) (file : FileNode) (to' : List Char := [])
    (mode : Int := 0b110100100) : PathProvider :=
  match file with
  | .file name =>
      let sub := to' ++ name.val
      if sub.isPrefixOf provider.basePath then provider.addPath sub mode else provider
  | .directory name entries =>
      let sub := to' ++ name.val
      if sub.isPrefixOf provider.basePath then provider.addEach entries (sub ++ ['/']) mode
      else provider

/-- `file.listFiles()!!.forEach { addTo(it, to, mode) }`. -/
def addEach (provider : PathProvider) (files : List FileNode) (to' : List Char) (mode : Int) :
    PathProvider :=
  match files with
  | [] => provider
  | file :: files => (provider.addTo file to' mode).addEach files to' mode

end

def addAt (provider : PathProvider) (file : FileNode) (at' : List Char := [])
    (mode : Int := 0b110100100) : PathProvider :=
  if at'.isPrefixOf provider.basePath then
    match file with
    | .file _ => provider.addPath at' mode
    | .directory _ entries => provider.addEach entries at' mode
  else provider

end PathProvider

mutual

/-- The paths of the regular files below `to'`. -/
def FileNode.paths (to' : List Char) : FileNode → List (List Char)
  | .file name => [to' ++ name.val]
  | .directory name entries => pathsOfEach (to' ++ name.val ++ ['/']) entries

def pathsOfEach (to' : List Char) : List FileNode → List (List Char)
  | [] => []
  | node :: nodes => node.paths to' ++ pathsOfEach to' nodes

end

/-- The paths of the regular files, relative to the root. -/
def FileTree.relativePaths (tree : FileTree) : List (List Char) :=
  match tree.root with
  | .file _ => [[]]
  | .directory _ entries => pathsOfEach [] entries

/-- `addPath` on every path. -/
def PathProvider.addPaths (provider : PathProvider) (paths : List (List Char)) (mode : Int) :
    PathProvider :=
  paths.foldl (fun provider path => provider.addPath path mode) provider

/-- `addAt` adds the rows that `addPath` adds for all files: each file whose path starts
with the base path, once. -/
def ListsFiles (provider : PathProvider) (tree : FileTree) (mode : Int) : Prop :=
  ∃ rows, (provider.addAt tree.root [] mode).cursor = provider.cursor ++ rows ∧
    List.Perm (provider.addPaths tree.relativePaths mode).cursor (provider.cursor ++ rows) ∧
    rows.Nodup ∧
    ∀ row, row ∈ rows ↔
      ∃ path ∈ tree.relativePaths, provider.basePath <+: path ∧ row = ⟨path, mode⟩

/-- These paths get rows. -/
def PathProvider.append (provider : PathProvider) (paths : List (List Char)) (mode : Int) :
    PathProvider :=
  { provider with cursor := provider.cursor ++ paths.map (PathRow.mk · mode) }

@[simp] theorem basePath_append (provider : PathProvider) (paths : List (List Char)) (mode : Int) :
    (provider.append paths mode).basePath = provider.basePath := rfl

@[simp] theorem append_nil (provider : PathProvider) (mode : Int) :
    provider.append [] mode = provider := by
  simp [PathProvider.append]

@[simp] theorem append_append (provider : PathProvider) (paths more : List (List Char))
    (mode : Int) :
    (provider.append paths mode).append more mode = provider.append (paths ++ more) mode := by
  simp [PathProvider.append]

section Paths

/-- A path that ends with a name and does not start with a slash. -/
theorem trimSlashes_append {to' : List Char} (hto : to'.head? ≠ some '/') (name : FileName) :
    trimSlashes (to' ++ name.val) = to' ++ name.val := by
  obtain ⟨name, hne, hslash⟩ := name
  apply Text.trimBy_eq_self
  · intro c hc
    rw [beq_eq_false_iff_ne]
    rintro rfl
    cases to' with
    | nil => exact hslash (List.mem_of_mem_head? hc)
    | cons first rest => exact hto hc
  · intro c hc
    rw [beq_eq_false_iff_ne]
    rintro rfl
    dsimp only at hc
    rw [List.getLast?_append_of_ne_nil _ hne] at hc
    exact hslash (List.mem_of_getLast? hc)

/-- The directory below `to'` whose entries are listed next does not start with a slash either. -/
theorem head?_descend {to' : List Char} (hto : to'.head? ≠ some '/') (name : FileName) :
    (to' ++ name.val ++ ['/']).head? ≠ some '/' := by
  obtain ⟨name, hne, hslash⟩ := name
  cases to' with
  | nil =>
      cases name with
      | nil => exact absurd rfl hne
      | cons c name =>
          rw [List.mem_cons, not_or] at hslash
          simpa using Ne.symm hslash.1
  | cons first rest => exact hto

mutual

theorem trimSlashes_of_mem_paths {to' : List Char} (hto : to'.head? ≠ some '/') :
    ∀ (node : FileNode) {path : List Char}, path ∈ node.paths to' → trimSlashes path = path
  | .file name, path, h => by
      rw [FileNode.paths, List.mem_singleton] at h
      rw [h]
      exact trimSlashes_append hto name
  | .directory name entries, path, h => by
      rw [FileNode.paths] at h
      exact trimSlashes_of_mem_pathsOfEach (head?_descend hto name) entries h

theorem trimSlashes_of_mem_pathsOfEach {to' : List Char} (hto : to'.head? ≠ some '/') :
    ∀ (nodes : List FileNode) {path : List Char}, path ∈ pathsOfEach to' nodes →
      trimSlashes path = path
  | [], path, h => by
      rw [pathsOfEach] at h
      cases h
  | node :: nodes, path, h => by
      rw [pathsOfEach, List.mem_append] at h
      rcases h with h | h
      · exact trimSlashes_of_mem_paths hto node h
      · exact trimSlashes_of_mem_pathsOfEach hto nodes h

end

theorem trimSlashes_of_mem_relativePaths (tree : FileTree) {path : List Char}
    (h : path ∈ tree.relativePaths) : trimSlashes path = path := by
  unfold FileTree.relativePaths at h
  split at h
  · rw [List.mem_singleton.mp h]
    rfl
  · exact trimSlashes_of_mem_pathsOfEach (by decide) _ h

/-- What lies below a directory has a path that goes on with a slash. -/
def GoesOn (start path : List Char) : Prop := path = start ∨ start ++ ['/'] <+: path

mutual

theorem goesOn_of_mem_paths (to' : List Char) :
    ∀ (node : FileNode) {path : List Char}, path ∈ node.paths to' → GoesOn (to' ++ node.name) path
  | .file name, path, h => by
      rw [FileNode.paths, List.mem_singleton] at h
      exact Or.inl h
  | .directory name entries, path, h => by
      rw [FileNode.paths] at h
      exact Or.inr (prefix_of_mem_pathsOfEach (to' ++ name.val ++ ['/']) entries h)

theorem prefix_of_mem_pathsOfEach (to' : List Char) :
    ∀ (nodes : List FileNode) {path : List Char}, path ∈ pathsOfEach to' nodes → to' <+: path
  | [], path, h => by
      rw [pathsOfEach] at h
      cases h
  | node :: nodes, path, h => by
      rw [pathsOfEach, List.mem_append] at h
      rcases h with h | h
      · rcases goesOn_of_mem_paths to' node h with rfl | hbelow
        · exact List.prefix_append _ _
        · rw [List.append_assoc] at hbelow
          exact (List.prefix_append _ _).trans hbelow
      · exact prefix_of_mem_pathsOfEach to' nodes h

end

/-- A path tells which name it goes through. -/
theorem cut_of_goesOn {to' name path : List Char} (hslash : '/' ∉ name)
    (h : GoesOn (to' ++ name) path) : (Text.cut '/' (path.drop to'.length)).1 = name := by
  rcases h with rfl | ⟨rest, rfl⟩
  · rw [List.drop_left, Text.cut_of_not_mem hslash]
  · rw [List.append_assoc, List.append_assoc, List.drop_left, List.singleton_append,
      Text.cut_append hslash]

theorem slash_not_mem_name (node : FileNode) : '/' ∉ node.name := by
  cases node with
  | file name => exact name.property.2
  | directory name entries => exact name.property.2

theorem exists_of_mem_pathsOfEach {to' path : List Char} {nodes : List FileNode}
    (h : path ∈ pathsOfEach to' nodes) : ∃ node ∈ nodes, path ∈ node.paths to' := by
  induction nodes with
  | nil =>
      rw [pathsOfEach] at h
      cases h
  | cons node nodes ih =>
      rw [pathsOfEach, List.mem_append] at h
      rcases h with h | h
      · exact ⟨node, List.mem_cons_self .., h⟩
      · obtain ⟨other, hmem, hpath⟩ := ih h
        exact ⟨other, List.mem_cons_of_mem _ hmem, hpath⟩

mutual

theorem nodup_paths (to' : List Char) :
    ∀ (node : FileNode), node.Distinct → (node.paths to').Nodup
  | .file name, _ => by
      rw [FileNode.paths]
      exact List.nodup_singleton _
  | .directory name entries, h => by
      rw [FileNode.Distinct] at h
      rw [FileNode.paths]
      exact nodup_pathsOfEach (to' ++ name.val ++ ['/']) entries h.1 h.2

theorem nodup_pathsOfEach (to' : List Char) :
    ∀ (nodes : List FileNode), (nodes.map FileNode.name).Nodup → EachDistinct nodes →
      (pathsOfEach to' nodes).Nodup
  | [], _, _ => by
      rw [pathsOfEach]
      exact List.nodup_nil
  | node :: nodes, hnames, h => by
      rw [EachDistinct] at h
      rw [List.map_cons, List.nodup_cons] at hnames
      rw [pathsOfEach, List.nodup_append]
      refine ⟨nodup_paths to' node h.1, nodup_pathsOfEach to' nodes hnames.2 h.2, ?_⟩
      rintro path hnode _ hother rfl
      obtain ⟨other, hmem, hpath⟩ := exists_of_mem_pathsOfEach hother
      have hname := cut_of_goesOn (slash_not_mem_name node) (goesOn_of_mem_paths to' node hnode)
      rw [cut_of_goesOn (slash_not_mem_name other) (goesOn_of_mem_paths to' other hpath)] at hname
      exact hnames.1 (hname ▸ List.mem_map_of_mem hmem)

end

theorem nodup_relativePaths (tree : FileTree) : tree.relativePaths.Nodup := by
  obtain ⟨root, hdistinct⟩ := tree
  cases root with
  | file name => exact List.nodup_singleton _
  | directory name entries =>
      rw [FileNode.Distinct] at hdistinct
      exact nodup_pathsOfEach [] entries hdistinct.1 hdistinct.2

end Paths

section Provider

variable {mode : Int}

theorem addPath_eq (provider : PathProvider) {path : List Char} (htrim : trimSlashes path = path) :
    provider.addPath path mode =
      provider.append ([path].filter fun path => provider.basePath.isPrefixOf path) mode := by
  unfold PathProvider.addPath
  dsimp only
  rw [htrim, List.filter_cons, List.filter_nil]
  split
  · rfl
  · exact (append_nil provider mode).symm

theorem addPaths_eq {paths : List (List Char)} (provider : PathProvider)
    (htrim : ∀ path ∈ paths, trimSlashes path = path) :
    provider.addPaths paths mode =
      provider.append (paths.filter fun path => provider.basePath.isPrefixOf path) mode := by
  induction paths generalizing provider with
  | nil => exact (append_nil provider mode).symm
  | cons path paths ih =>
      rw [List.forall_mem_cons] at htrim
      have hrest := ih (provider.addPath path mode) htrim.2
      rw [addPath_eq provider htrim.1, basePath_append, append_append, ← List.filter_append,
        List.singleton_append] at hrest
      rw [← hrest, ← addPath_eq provider htrim.1]
      rfl

/-- Both tests together leave one path. -/
theorem addPath_if_prefix (provider : PathProvider) {path : List Char}
    (htrim : trimSlashes path = path) :
    (if path.isPrefixOf provider.basePath then provider.addPath path mode else provider) =
      provider.append ([path].filter (· = provider.basePath)) mode := by
  have hboth : path = provider.basePath ↔ path.isPrefixOf provider.basePath = true ∧
      provider.basePath.isPrefixOf path = true := by
    rw [List.isPrefixOf_iff_prefix, List.isPrefixOf_iff_prefix]
    constructor
    · intro h
      rw [h]
      exact ⟨List.prefix_refl _, List.prefix_refl _⟩
    · intro h
      exact h.1.eq_of_length_le h.2.length_le
  rw [addPath_eq provider htrim]
  simp only [List.filter_cons, List.filter_nil, hboth]
  by_cases hsub : path.isPrefixOf provider.basePath = true
  · simp only [hsub, true_and, if_true, Bool.decide_eq_true]
  · simp [hsub]

mutual

/-- Of all files below, the one whose path is the base path is added. -/
theorem addTo_eq {to' : List Char} (hto : to'.head? ≠ some '/') :
    ∀ (node : FileNode) (provider : PathProvider), provider.addTo node to' mode =
      provider.append ((node.paths to').filter (· = provider.basePath)) mode
  | .file name, provider => by
      rw [PathProvider.addTo, FileNode.paths]
      exact addPath_if_prefix provider (trimSlashes_append hto name)
  | .directory name entries, provider => by
      rw [PathProvider.addTo, FileNode.paths]
      split
      · exact addEach_eq (head?_descend hto name) entries provider
      · rename_i hsub
        have hnone : (pathsOfEach (to' ++ name.val ++ ['/']) entries).filter
            (· = provider.basePath) = [] := by
          rw [List.filter_eq_nil_iff]
          intro path hpath heq
          have hbelow := prefix_of_mem_pathsOfEach _ entries hpath
          rw [of_decide_eq_true heq] at hbelow
          exact hsub (List.isPrefixOf_iff_prefix.mpr ((List.prefix_append _ _).trans hbelow))
        rw [hnone, append_nil]

theorem addEach_eq {to' : List Char} (hto : to'.head? ≠ some '/') :
    ∀ (nodes : List FileNode) (provider : PathProvider), provider.addEach nodes to' mode =
      provider.append ((pathsOfEach to' nodes).filter (· = provider.basePath)) mode
  | [], provider => by
      rw [PathProvider.addEach, pathsOfEach, List.filter_nil, append_nil]
  | node :: nodes, provider => by
      rw [PathProvider.addEach, pathsOfEach, addTo_eq hto node provider,
        addEach_eq hto nodes, basePath_append, append_append, List.filter_append]

end

/-- `addAt` from the root. -/
theorem addAt_eq (provider : PathProvider) (tree : FileTree) :
    provider.addAt tree.root [] mode =
      provider.append (tree.relativePaths.filter (· = provider.basePath)) mode := by
  obtain ⟨root, hdistinct⟩ := tree
  unfold PathProvider.addAt FileTree.relativePaths
  cases root with
  | file name => exact addPath_if_prefix provider rfl
  | directory name entries =>
      rw [List.isPrefixOf_nil_left, if_pos rfl]
      exact addEach_eq (by decide) entries provider

/-- A row is listed once, as its path is. -/
theorem nodup_rows {paths : List (List Char)} (h : paths.Nodup) :
    (paths.map (PathRow.mk · mode)).Nodup := by
  apply List.Nodup.map _ h
  intro path other heq
  exact (PathRow.mk.inj heq).1

theorem mem_rows_iff {provider : PathProvider} {paths : List (List Char)} {row : PathRow} :
    row ∈ (paths.filter fun path => provider.basePath.isPrefixOf path).map (PathRow.mk · mode) ↔
      ∃ path ∈ paths, provider.basePath <+: path ∧ row = ⟨path, mode⟩ := by
  simp only [List.mem_map, List.mem_filter, List.isPrefixOf_iff_prefix, and_assoc,
    eq_comm (a := row)]

end Provider

/-- The two tests admit the base path alone, so the listing is complete exactly if no
other file has a path that starts with it. -/
theorem listsFiles_iff (path : Option (List Char)) (cursor : List PathRow) (tree : FileTree)
    (mode : Int) :
    ListsFiles (PathProvider.ofUri path cursor) tree mode ↔
      ∀ file ∈ tree.relativePaths, (PathProvider.ofUri path cursor).basePath <+: file →
        file = (PathProvider.ofUri path cursor).basePath := by
  generalize PathProvider.ofUri path cursor = provider
  unfold ListsFiles
  rw [addAt_eq, addPaths_eq provider fun _ => trimSlashes_of_mem_relativePaths tree]
  constructor
  · rintro ⟨rows, hrows, -, -, hmem⟩ file hfile hbase
    have hlisted := (hmem ⟨file, mode⟩).mpr ⟨file, hfile, hbase, rfl⟩
    rw [← List.append_cancel_left hrows] at hlisted
    obtain ⟨other, hother, heq⟩ := List.mem_map.mp hlisted
    rw [← (PathRow.mk.inj heq).1]
    exact of_decide_eq_true (List.mem_filter.mp hother).2
  · intro h
    have hfilter : tree.relativePaths.filter (· = provider.basePath) =
        tree.relativePaths.filter fun path => provider.basePath.isPrefixOf path := by
      apply List.filter_congr
      intro file hfile
      rw [Bool.eq_iff_iff, decide_eq_true_iff, List.isPrefixOf_iff_prefix]
      exact ⟨fun heq => heq ▸ List.prefix_refl _, h file hfile⟩
    rw [hfilter]
    exact ⟨_, rfl, List.Perm.refl _, nodup_rows ((nodup_relativePaths tree).filter _),
      fun row => mem_rows_iff⟩

/-- A directory with the executable of a plugin. -/
def obfsDirectory : FileTree :=
  ⟨.directory ⟨"files".toList, by decide⟩ [.file ⟨"obfs-local".toList, by decide⟩],
    by simp [FileNode.Distinct, EachDistinct]⟩

/-- A query for all files lists none. -/
theorem not_listsFiles_obfs :
    obfsDirectory.relativePaths = ["obfs-local".toList] ∧
      ((PathProvider.ofUri none []).addAt obfsDirectory.root).cursor = [] ∧
      ¬ ListsFiles (PathProvider.ofUri none []) obfsDirectory 0b110100100 := by
  refine ⟨by decide, by decide, ?_⟩
  rintro ⟨rows, hrows, -, -, hmem⟩
  have hnone : ((PathProvider.ofUri none []).addAt obfsDirectory.root).cursor = [] := by decide
  rw [hnone] at hrows
  have hlisted := (hmem ⟨"obfs-local".toList, 0b110100100⟩).mpr
    ⟨"obfs-local".toList, by decide, by decide, rfl⟩
  have hempty : rows = [] := hrows.symm
  rw [hempty] at hlisted
  cases hlisted

end WifiProject.Plugin
