import Mathlib.Data.List.Basic

/-!
Path strings as `java.io.File` keeps them on a Unix file system, and where they
lead when no link is involved. `File` removes repeated and trailing slashes and
nothing else; the dots are left to the file system.
-/

namespace WifiProject.Lib.UnixPath

/-- A path without its repeated slashes; `previous` is the character before. -/
def squeeze (previous : Char) : List Char → List Char
  | [] => []
  | c :: path => if c = '/' ∧ previous = '/' then squeeze c path else c :: squeeze c path

/-- `UnixFileSystem.normalize`. -/
def normalize (path : List Char) : List Char :=
  if path.getLast? = some '/' ∧ 1 < path.length then (squeeze '\x00' path).dropLast
  else squeeze '\x00' path

/-- `UnixFileSystem.resolve`. -/
def resolve (parent child : List Char) : List Char :=
  if child = [] ∨ child = ['/'] then parent
  else if child.head? = some '/' then if parent = ['/'] then child else parent ++ child
  else if parent = ['/'] then parent ++ child
  else parent ++ '/' :: child

/-- The path of `File(parent, child)`. -/
def file (parent child : List Char) : List Char := resolve parent (normalize child)

/-- The names in a path. -/
def components (path : List Char) : List (List Char) :=
  (path.splitOnP (· == '/')).filter (· ≠ [])

/-- One name further. -/
def descend (here : List (List Char)) (name : List Char) : List (List Char) :=
  if name = ['.'] then here else if name = ['.', '.'] then here.dropLast else here ++ [name]

/-- Where names lead from a directory. -/
def follow (directory names : List (List Char)) : List (List Char) := names.foldl descend directory

/-- Where a path leads from the root. -/
def location (path : List Char) : List (List Char) := follow [] (components path)

/-- A file lies inside a directory and is not the directory itself. -/
def StrictlyInside (directory path : List Char) : Prop :=
  ∃ name names, location path = location directory ++ name :: names

@[simp] theorem components_nil : components [] = [] := rfl

theorem components_append_slash (path rest : List Char) :
    components (path ++ '/' :: rest) = components path ++ components rest := by
  unfold components
  rw [List.splitOnP_append_cons path rest (by decide), List.filter_append]

theorem components_slash (path : List Char) : components ('/' :: path) = components path :=
  components_append_slash [] path

/-- Repeated slashes separate nothing. `word` is what stands before. -/
theorem components_append_squeeze (previous : Char) (word path : List Char)
    (hword : previous = '/' → word = []) :
    components (word ++ squeeze previous path) = components (word ++ path) := by
  induction path generalizing previous word with
  | nil => rfl
  | cons c path ih =>
      by_cases hslash : c = '/'
      · subst hslash
        have hrest := ih '/' [] (fun _ => rfl)
        rw [List.nil_append, List.nil_append] at hrest
        by_cases hprevious : previous = '/'
        · rw [hword hprevious, squeeze, if_pos ⟨rfl, hprevious⟩, List.nil_append, List.nil_append,
            components_slash]
          exact hrest
        · rw [squeeze, if_neg (by simp [hprevious]), components_append_slash,
            components_append_slash, hrest]
      · rw [squeeze, if_neg (by simp [hslash]), List.append_cons, List.append_cons word c path]
        exact ih c (word ++ [c]) fun heq => absurd heq hslash

theorem components_squeeze (path : List Char) :
    components (squeeze '\x00' path) = components path :=
  components_append_squeeze '\x00' [] path fun _ => rfl

/-- A trailing slash stays the last character. -/
theorem getLast?_squeeze (previous : Char) {path : List Char} (h : path.getLast? = some '/') :
    previous = '/' ∧ squeeze previous path = [] ∨
      (squeeze previous path).getLast? = some '/' := by
  induction path generalizing previous with
  | nil => cases h
  | cons c path ih =>
      cases path with
      | nil =>
          rw [List.getLast?_singleton, Option.some.injEq] at h
          subst h
          unfold squeeze
          split
          · rename_i hboth
            exact Or.inl ⟨hboth.2, rfl⟩
          · exact Or.inr rfl
      | cons next path =>
          rw [List.getLast?_cons_cons] at h
          have hlast := ih c h
          rw [squeeze]
          split
          · rename_i hboth
            rcases hlast with ⟨-, hnil⟩ | hlast
            · exact Or.inl ⟨hboth.2, hnil⟩
            · exact Or.inr hlast
          · rcases hlast with ⟨rfl, hnil⟩ | hlast
            · rw [hnil]
              exact Or.inr rfl
            · rw [List.getLast?_cons, hlast]
              exact Or.inr rfl

theorem components_normalize (path : List Char) : components (normalize path) = components path := by
  unfold normalize
  split
  · rename_i hslash
    rcases getLast?_squeeze '\x00' hslash.1 with ⟨hcontra, -⟩ | hlast
    · cases hcontra
    · have hsplit : (squeeze '\x00' path).dropLast ++ ['/'] = squeeze '\x00' path :=
        List.dropLast_append_getLast? '/' hlast
      have hcomponents := components_squeeze path
      rw [← hsplit, components_append_slash, components_nil, List.append_nil] at hcomponents
      exact hcomponents
  · exact components_squeeze path

theorem components_eq_nil_iff (path : List Char) : components path = [] ↔ ∀ c ∈ path, c = '/' := by
  induction path with
  | nil => simp
  | cons c path ih =>
      by_cases hslash : c = '/'
      · subst hslash
        rw [components_slash, ih]
        simp
      · constructor
        · intro hnil
          exfalso
          obtain ⟨head, tail, hsplit⟩ :=
            List.exists_cons_of_ne_nil (List.splitOnP_ne_nil (· == '/') path)
          simp [components, List.splitOnP_cons_eq_if_modifyHead, hslash, hsplit] at hnil
        · intro hall
          exact absurd (hall c (by simp)) hslash

/-- A path of nothing but slashes has no name in it. -/
theorem normalize_of_components_eq_nil {path : List Char} (h : components path = []) :
    normalize path = [] ∨ normalize path = ['/'] := by
  have hslashes := (components_eq_nil_iff path).mp h
  have hrest (rest : List Char) (hrest : ∀ c ∈ rest, c = '/') : squeeze '/' rest = [] := by
    induction rest with
    | nil => rfl
    | cons c rest ih =>
        obtain rfl := hrest c (by simp)
        rw [squeeze, if_pos ⟨rfl, rfl⟩]
        exact ih fun c hc => hrest c (List.mem_cons_of_mem _ hc)
  cases path with
  | nil => exact Or.inl rfl
  | cons c path =>
      obtain rfl := hslashes c (by simp)
      have hsqueeze : squeeze '\x00' ('/' :: path) = ['/'] := by
        rw [squeeze, if_neg (by simp), hrest path fun c hc => hslashes c (List.mem_cons_of_mem _ hc)]
      unfold normalize
      rw [hsqueeze]
      split
      · exact Or.inl rfl
      · exact Or.inr rfl

theorem components_ne_nil_iff (path : List Char) :
    components path ≠ [] ↔ normalize path ≠ [] ∧ normalize path ≠ ['/'] := by
  constructor
  · intro hne
    rw [← components_normalize] at hne
    refine ⟨?_, ?_⟩
    · rintro hnil
      rw [hnil] at hne
      exact hne rfl
    · rintro hslash
      rw [hslash] at hne
      exact hne rfl
  · rintro ⟨hnil, hslash⟩ hcomponents
    rcases normalize_of_components_eq_nil hcomponents with h | h
    · exact hnil h
    · exact hslash h

section File

variable (parent child : List Char)

/-- `File` keeps the names of both parts, dots included. -/
theorem components_file : components (file parent child) = components parent ++ components child := by
  rw [← components_normalize child]
  unfold file resolve
  split
  · rename_i hempty
    rcases hempty with hnil | hslash
    · rw [hnil, components_nil, List.append_nil]
    · rw [hslash, components_slash, components_nil, List.append_nil]
  · split
    · rename_i hhead
      obtain ⟨rest, hrest⟩ := List.head?_eq_some_iff.mp hhead
      split
      · rename_i hroot
        rw [hroot, components_slash, components_nil, List.nil_append]
      · rw [hrest, components_append_slash, components_slash]
    · split
      · rename_i hroot
        rw [hroot, components_slash, List.singleton_append, components_slash, components_nil,
          List.nil_append]
      · rw [components_append_slash]

theorem location_file :
    location (file parent child) = follow (location parent) (components child) := by
  rw [location, components_file, follow, List.foldl_append]
  rfl

/-- A path starts with that of its directory and a slash unless it has no name
in it. -/
theorem isPrefixOf_file (hroot : parent ≠ ['/']) :
    (parent ++ ['/']).isPrefixOf (file parent child) = true ↔ components child ≠ [] := by
  rw [components_ne_nil_iff, List.isPrefixOf_iff_prefix]
  unfold file resolve
  rw [if_neg hroot, if_neg hroot]
  split
  · rename_i hempty
    constructor
    · intro hprefix
      have hlength := hprefix.length_le
      rw [List.length_append, List.length_singleton] at hlength
      omega
    · rintro ⟨hnil, hslash⟩
      rcases hempty with h | h
      · exact absurd h hnil
      · exact absurd h hslash
  · rename_i hnonempty
    rw [not_or] at hnonempty
    simp only [ne_eq, hnonempty, not_false_eq_true, and_self, iff_true]
    split
    · rename_i hhead
      obtain ⟨rest, hrest⟩ := List.head?_eq_some_iff.mp hhead
      rw [hrest]
      exact ⟨rest, by simp⟩
    · exact ⟨normalize child, by simp⟩

end File

/-- A path without slashes is a name. -/
theorem components_of_not_mem {path : List Char} (hne : path ≠ []) (hslash : '/' ∉ path) :
    components path = [path] := by
  have hsingle : path.splitOnP (· == '/') = [path] := by
    apply List.splitOnP_eq_singleton
    intro c hc
    rw [beq_eq_false_iff_ne]
    rintro rfl
    exact hslash hc
  simp [components, hsingle, hne]

/-- A slash within a path stands between two names. -/
theorem exists_two_components {path : List Char} (hhead : path.head? ≠ some '/')
    (hlast : path.getLast? ≠ some '/') (hslash : '/' ∈ path) :
    ∃ first second rest, components path = first :: second :: rest := by
  obtain ⟨before, after, rfl⟩ := List.append_of_mem hslash
  rw [components_append_slash]
  have hbefore : components before ≠ [] := by
    rw [ne_eq, components_eq_nil_iff]
    cases before with
    | nil => exact absurd rfl hhead
    | cons c before =>
        intro hall
        exact hhead (by simp [hall c (by simp)])
  have hafter : components after ≠ [] := by
    rw [ne_eq, components_eq_nil_iff]
    rcases List.eq_nil_or_concat after with rfl | ⟨front, c, rfl⟩
    · exact absurd (by simp) hlast
    · intro hall
      rw [List.concat_eq_append, ← List.cons_append, ← List.append_assoc, List.getLast?_concat,
        hall c (by simp)] at hlast
      exact hlast rfl
  obtain ⟨first, names, hfirst⟩ := List.exists_cons_of_ne_nil hbefore
  obtain ⟨next, others, hnext⟩ := List.exists_cons_of_ne_nil hafter
  rw [hfirst, hnext]
  cases names with
  | nil => exact ⟨first, next, others, rfl⟩
  | cons name names => exact ⟨first, name, names ++ next :: others, rfl⟩

theorem squeeze_of_not_mem {path : List Char} (hslash : '/' ∉ path) (previous : Char) :
    squeeze previous path = path := by
  induction path generalizing previous with
  | nil => rfl
  | cons c path ih =>
      rw [List.mem_cons, not_or] at hslash
      rw [squeeze, if_neg fun h => hslash.1 h.1.symm, ih hslash.2]

/-- A name goes behind the directory and a slash. -/
theorem file_of_not_mem {parent child : List Char} (hparent : parent ≠ ['/']) (hne : child ≠ [])
    (hslash : '/' ∉ child) : file parent child = parent ++ '/' :: child := by
  have hnormal : normalize child = child := by
    unfold normalize
    rw [squeeze_of_not_mem hslash, if_neg]
    rintro ⟨hlast, -⟩
    exact hslash (List.mem_of_getLast? hlast)
  have hroot : child ≠ ['/'] := by
    rintro rfl
    exact hslash (by simp)
  have hhead : child.head? ≠ some '/' := fun hhead => hslash (List.mem_of_mem_head? hhead)
  rw [file, hnormal, resolve, if_neg (by simp [hne, hroot]), if_neg hhead, if_neg hparent]

end WifiProject.Lib.UnixPath
