import Mathlib.Data.List.Induction
import WifiProject.Lib.Pointwise
import WifiProject.Plugin.PluginOptionsText
import WifiProject.Utils.Commandline

/-!
`PluginConfiguration`: one line per plugin, the selected plugin first. A line
that starts with `kcptun ` is read as a command line, every other line as a
`PluginOptions` string; both are printed as `PluginOptions` strings.
-/

namespace WifiProject.Plugin

open Lib Utils

/-- How a legacy line starts. -/
def kcptunWord : List Char := "kcptun ".toList

structure PluginConfiguration where
  pluginsOptions : LinkedMap String PluginOptions
  selected : String
  deriving DecidableEq

namespace PluginConfiguration

/-- The loop over the arguments. It ends at the first argument it cannot use,
and the options put so far stay. -/
def kcptunArguments : List String → Options → Options
  | [], opt => opt
  | [option], opt => if option = "--nocomp" then opt.put "nocomp" none else opt
  | option :: value :: rest, opt =>
      if option = "--nocomp" then kcptunArguments (value :: rest) (opt.put "nocomp" none)
      else if "--".toList.isPrefixOf option.toList then
        kcptunArguments rest (opt.put (String.ofList (option.toList.drop 2)) (some value))
      else opt

def kcptunOptions (line : String) : Options :=
  match Commandline.translateCommandline (some line) with
  | .error _ => LinkedMap.empty
  | .ok arguments => kcptunArguments (arguments.drop 1) LinkedMap.empty

def isKcptun (line : String) : Bool := kcptunWord.isPrefixOf line.toList

def readLine (line : String) : Except String PluginOptions :=
  if isKcptun line then .ok { id := "kcptun", options := kcptunOptions line }
  else PluginOptions.new (some line) true

def lines (plugin : String) : List String := (plugin.toList.splitOn '\n').map String.ofList

/-- `associateBy { it.id }` over the plugins that have an id. -/
def associate (plugins : List PluginOptions) : LinkedMap String PluginOptions :=
  (plugins.filter fun plugin => !plugin.id.isEmpty).foldl
    (fun m plugin => m.put plugin.id plugin) LinkedMap.empty

/-- The private constructor. -/
def ofPlugins (plugins : List PluginOptions) : PluginConfiguration where
  pluginsOptions := associate plugins
  selected := match plugins with
    | [] => ""
    | plugin :: _ => plugin.id

def new (plugin : String) : Except String PluginConfiguration :=
  ((lines plugin).mapM readLine).map ofPlugins

/-- `getOptions`; `defaultConfig` is what the installed plugins offer. -/
def getOptions (defaultConfig : String → Option String) (id : String)
    (config : PluginConfiguration) : Except String PluginOptions :=
  if id.isEmpty then .ok {}
  else match config.pluginsOptions.get? id with
    | some plugin => .ok plugin
    | none => PluginOptions.ofId id (defaultConfig id)

/-- The plugins of the map in the order of the output. -/
def result (config : PluginConfiguration) : List PluginOptions :=
  config.pluginsOptions.entries.foldl
    (fun result entry =>
      if entry.1 = config.selected then entry.2 :: result else result ++ [entry.2]) []

def joinLines (order : HashOrder) (plugins : List PluginOptions) : String :=
  String.ofList (['\n'].intercalate
    (plugins.map fun plugin => (plugin.toString order false).toList))

def toString (order : HashOrder) (defaultConfig : String → Option String)
    (config : PluginConfiguration) : Except String String :=
  if config.selected ∈ config.pluginsOptions.keys then .ok (joinLines order config.result)
  else (config.getOptions defaultConfig config.selected).map fun plugin =>
    joinLines order (plugin :: config.result)

/-- The configuration comes back from its string form. -/
def Survives (order : HashOrder) (defaultConfig : String → Option String)
    (config : PluginConfiguration) : Prop :=
  ∃ text read, config.toString order defaultConfig = .ok text ∧ new text = .ok read ∧
    read.selected = config.selected ∧
    read.pluginsOptions.equalsBy PluginOptions.equals config.pluginsOptions = true

/-- No id, once its escapes are read, looks like a legacy line, and the legacy
line that decides the options of kcptun has no control characters in them. -/
structure Stable (plugin : String) : Prop where
  ids : ∀ line ∈ lines plugin, isKcptun line = false →
    ∀ read, PluginOptions.new (some line) true = .ok read → isKcptun read.id = false
  options : ∀ before line after, lines plugin = before ++ line :: after →
    isKcptun line = true →
    (∀ later ∈ after, ∀ read, readLine later = .ok read → read.id ≠ "kcptun") →
    PluginOptions.Within (fun c => isISOControl c = false)
      { id := "kcptun", options := kcptunOptions line }

section Lines

open PluginOptions

variable {plugin : PluginOptions}

/-- The arguments have no character outside the line, and an empty key always
has a value. -/
theorem kcptunArguments_within {allowed : Char → Prop} (arguments : List String) (opt : Options)
    (harguments : ∀ argument ∈ arguments, ∀ c ∈ argument.toList, allowed c)
    (hnocomp : ∀ c ∈ "nocomp".toList, allowed c)
    (h : Within allowed { id := "kcptun", options := opt }) (hnamed : ("", none) ∉ opt.entries) :
    Within allowed { id := "kcptun", options := kcptunArguments arguments opt } ∧
      ("", none) ∉ (kcptunArguments arguments opt).entries := by
  fun_induction kcptunArguments arguments opt with
  | case1 opt => exact ⟨h, hnamed⟩
  | case2 opt => exact ⟨h.put hnocomp (by simp), named_put hnamed (by simp)⟩
  | case3 option opt hne => exact ⟨h, hnamed⟩
  | case4 value rest opt ih =>
      apply ih
      · exact (List.forall_mem_cons.mp harguments).2
      · exact h.put hnocomp (by simp)
      · exact named_put hnamed (by simp)
  | case5 option value rest opt hne hdashes ih =>
      have hrest := (List.forall_mem_cons.mp harguments).2
      have hkey : ∀ c ∈ (String.ofList (option.toList.drop 2)).toList, allowed c := by
        intro c hc
        rw [String.toList_ofList] at hc
        exact (List.forall_mem_cons.mp harguments).1 c (List.mem_of_mem_drop hc)
      apply ih
      · exact (List.forall_mem_cons.mp hrest).2
      · apply h.put hkey
        rintro str ⟨⟩
        exact (List.forall_mem_cons.mp hrest).1
      · exact named_put hnamed (by simp)
  | case6 option value rest opt hne hdashes => exact ⟨h, hnamed⟩

/-- What a line without line feeds is read to can be printed on a line. -/
theorem readLine_within {line : String} {read : PluginOptions}
    (hline : ∀ c ∈ line.toList, c ≠ '\n') (h : readLine line = .ok read) :
    Within (· ≠ '\n') read ∧ ("", none) ∉ read.options.entries := by
  unfold readLine at h
  split at h
  · cases h
    have hempty : Within (· ≠ '\n') { id := "kcptun", options := LinkedMap.empty } :=
      ⟨by decide, by simp [LinkedMap.empty], by simp [LinkedMap.empty]⟩
    have hnamed : ("", none) ∉ (LinkedMap.empty : Options).entries := by simp [LinkedMap.empty]
    unfold kcptunOptions
    split
    · exact ⟨hempty, hnamed⟩
    · rename_i arguments harguments
      have hwithin := Commandline.translateCommandline_within harguments (by decide) hline
      apply kcptunArguments_within _ _ _ (by decide) hempty hnamed
      intro argument hmem
      exact hwithin argument (List.mem_of_mem_drop hmem)
  · have hread := representable_of_new h
    have hother : ∀ c, isISOControl c = false → c ≠ '\n' := by
      rintro c hc rfl
      exact absurd hc (by decide)
    refine ⟨⟨?_, ?_, ?_⟩, hread.named⟩
    · exact fun c hc => hother c (hread.id c hc)
    · exact fun entry hentry c hc => hother c (hread.keys entry hentry c hc)
    · exact fun entry hentry value hvalue c hc =>
        hother c (hread.values entry hentry value hvalue c hc)

/-- A word without delimiters is at the front of an escaped text only if it is
at the front of the text. -/
theorem isPrefix_escape_iff (word str rest : List Char)
    (hword : ∀ c ∈ word, c ≠ '\\' ∧ c ≠ '=' ∧ c ≠ ';') :
    word <+: str.flatMap escape ++ ';' :: rest ↔ word <+: str := by
  induction word generalizing str with
  | nil => simp
  | cons c word ih =>
      rw [List.forall_mem_cons] at hword
      obtain ⟨⟨hslash, hequals, hsemicolon⟩, hrest⟩ := hword
      cases str with
      | nil => simp [hsemicolon]
      | cons d str =>
          rw [List.flatMap_cons, List.append_assoc]
          by_cases hdelimiter : d = '\\' ∨ d = '=' ∨ d = ';'
          · have hne : c ≠ d := by
              rintro rfl
              rcases hdelimiter with h | h | h
              · exact hslash h
              · exact hequals h
              · exact hsemicolon h
            have hescape : escape d = ['\\', d] := if_pos hdelimiter
            simp [hescape, hslash, hne]
          · have hescape : escape d = [d] := if_neg hdelimiter
            rw [hescape, List.singleton_append, List.cons_prefix_cons, List.cons_prefix_cons,
              ih _ hrest]

theorem isKcptun_toString (order : HashOrder) (hid : plugin.id ≠ "") :
    isKcptun (plugin.toString order false) = isKcptun plugin.id := by
  have hne : kcptunWord ≠ (plugin.toString order false).toList ++ [';'] := by
    intro heq
    have hmem : ';' ∈ kcptunWord := heq ▸ List.mem_append_right _ (List.mem_singleton_self _)
    exact absurd hmem (by decide)
  have hconcat : kcptunWord <+: (plugin.toString order false).toList ++ [';'] ↔
      kcptunWord <+: (plugin.toString order false).toList := by
    rw [List.prefix_concat_iff, or_iff_right hne]
  rw [Bool.eq_iff_iff, isKcptun, isKcptun, List.isPrefixOf_iff_prefix,
    List.isPrefixOf_iff_prefix, ← hconcat, toString_semicolon order hid, List.append_assoc,
    List.singleton_append, isPrefix_escape_iff _ _ _ (by decide)]

/-- Reading a printed line. -/
theorem readLine_toString (order : HashOrder) (hid : plugin.id ≠ "") (h : Representable plugin)
    (hword : isKcptun plugin.id = false) :
    readLine (plugin.toString order false) = .ok (reread order plugin) := by
  rw [readLine, isKcptun_toString order hid, hword]
  exact new_toString order hid h

/-- What a printed line is read to, when it is accepted. -/
theorem readLine_toString_cases (order : HashOrder) {read : PluginOptions} (hid : plugin.id ≠ "")
    (hnamed : ("", none) ∉ plugin.options.entries)
    (h : readLine (plugin.toString order false) = .ok read) :
    (isKcptun plugin.id = true ∧ read.id = "kcptun") ∨
      (isKcptun plugin.id = false ∧ Representable plugin ∧ read.id = plugin.id) := by
  rw [readLine, isKcptun_toString order hid] at h
  split at h
  · rename_i hword
    cases h
    exact Or.inl ⟨hword, rfl⟩
  · rename_i hword
    have hplain := plain_of_new h
    rw [forall_toString order hid (by decide) (by decide) (by decide)] at hplain
    rw [new_toString order hid ⟨hplain, hnamed⟩] at h
    cases h
    exact Or.inr ⟨Bool.eq_false_iff.mpr hword, ⟨hplain, hnamed⟩, rfl⟩

end Lines

section Maps

theorem associate_concat (plugins : List PluginOptions) (plugin : PluginOptions) :
    associate (plugins ++ [plugin]) =
      if plugin.id.isEmpty then associate plugins
      else (associate plugins).put plugin.id plugin := by
  unfold associate
  rw [List.filter_append]
  by_cases hid : plugin.id.isEmpty <;> simp [hid]

/-- The map has, for every id, the last plugin with it. -/
theorem mem_associate_iff (plugins : List PluginOptions) (key : String) (plugin : PluginOptions) :
    (key, plugin) ∈ (associate plugins).entries ↔ plugin.id = key ∧ key ≠ "" ∧
      ∃ before after, plugins = before ++ plugin :: after ∧ ∀ later ∈ after, later.id ≠ key := by
  induction plugins using List.reverseRecOn with
  | nil => simp [associate, LinkedMap.empty]
  | append_singleton plugins last ih =>
      rw [associate_concat]
      have hsplit : (∃ before after, plugins ++ [last] = before ++ plugin :: after ∧
            ∀ later ∈ after, later.id ≠ key) ↔
          last = plugin ∨ (last.id ≠ key ∧ ∃ before after, plugins = before ++ plugin :: after ∧
            ∀ later ∈ after, later.id ≠ key) := by
        constructor
        · rintro ⟨before, after, heq, hafter⟩
          rcases List.eq_nil_or_concat' after with rfl | ⟨after, later, rfl⟩
          · exact Or.inl (by simpa using (List.append_inj' heq rfl).2)
          · rw [← List.cons_append, ← List.append_assoc] at heq
            obtain ⟨hinit, hlast⟩ := List.append_inj' heq rfl
            cases hlast
            refine Or.inr ⟨hafter _ (by simp), before, after, hinit, ?_⟩
            exact fun later hlater => hafter later (List.mem_append_left _ hlater)
        · rintro (rfl | ⟨hlast, before, after, rfl, hafter⟩)
          · exact ⟨plugins, [], rfl, by simp⟩
          · refine ⟨before, after ++ [last], by simp, ?_⟩
            rw [List.forall_mem_append]
            exact ⟨hafter, by simpa using hlast⟩
      rw [hsplit]
      split_ifs with hid
      · have hempty := String.isEmpty_iff.mp hid
        rw [ih]
        constructor
        · rintro ⟨hkey, hne, hexists⟩
          exact ⟨hkey, hne, Or.inr ⟨by rw [hempty]; exact hne.symm, hexists⟩⟩
        · rintro ⟨hkey, hne, rfl | ⟨-, hexists⟩⟩
          · exact absurd (hkey ▸ hempty) hne
          · exact ⟨hkey, hne, hexists⟩
      · have hne : last.id ≠ "" := by simpa using hid
        rw [LinkedMap.mem_put_iff, ih]
        grind

theorem mem_keys_associate {plugins : List PluginOptions} {plugin : PluginOptions}
    (hmem : plugin ∈ plugins) (hid : plugin.id ≠ "") : plugin.id ∈ (associate plugins).keys := by
  induction plugins using List.reverseRecOn with
  | nil => simp at hmem
  | append_singleton plugins last ih =>
      rw [associate_concat]
      rcases List.mem_append.mp hmem with hmem | hmem
      · split_ifs
        · exact ih hmem
        · exact (LinkedMap.mem_keys_put_iff ..).mpr (Or.inr (ih hmem))
      · obtain rfl := List.mem_singleton.mp hmem
        rw [if_neg (by simpa using hid)]
        exact (LinkedMap.mem_keys_put_iff ..).mpr (Or.inl rfl)

theorem entries_associate {plugins : List PluginOptions}
    (h : ((plugins.filter fun plugin => !plugin.id.isEmpty).map PluginOptions.id).Nodup) :
    (associate plugins).entries =
      (plugins.filter fun plugin => !plugin.id.isEmpty).map fun plugin => (plugin.id, plugin) := by
  have hfold := LinkedMap.entries_foldl_put
    ((plugins.filter fun plugin => !plugin.id.isEmpty).map fun plugin => (plugin.id, plugin))
    LinkedMap.empty (by simpa [LinkedMap.empty, Function.comp_def] using h)
  rw [List.foldl_map] at hfold
  exact hfold

end Maps

section Printing

open PluginOptions

variable {config : PluginConfiguration}

/-- What holds of every configuration that was read from a string. -/
structure Readable (config : PluginConfiguration) : Prop where
  keyed : ∀ entry ∈ config.pluginsOptions.entries, entry.2.id = entry.1 ∧ entry.1 ≠ ""
  selected : config.selected ∈ config.pluginsOptions.keys ∨ config.selected = ""
  printable : ∀ plugin ∈ config.pluginsOptions.values,
    Within (· ≠ '\n') plugin ∧ ("", none) ∉ plugin.options.entries

/-- The lines of the output: without a selected plugin the first one is empty. -/
def listed (config : PluginConfiguration) : List PluginOptions :=
  if config.selected ∈ config.pluginsOptions.keys then config.result else {} :: config.result

theorem Readable.toString_eq (h : Readable config) (order : HashOrder)
    (defaultConfig : String → Option String) :
    config.toString order defaultConfig = .ok (joinLines order config.listed) := by
  unfold PluginConfiguration.toString listed
  split_ifs with hmem
  · rfl
  · have hempty := h.selected.resolve_left hmem
    simp [getOptions, hempty, Except.map]

/-- The selected entry goes to the front, the others to the back. -/
theorem foldl_result (selected : String) (entries : List (String × PluginOptions))
    (result : List PluginOptions) :
    entries.foldl (fun result entry =>
        if entry.1 = selected then entry.2 :: result else result ++ [entry.2]) result =
      ((entries.filter (·.1 = selected)).map Prod.snd).reverse ++ result ++
        (entries.filter (·.1 ≠ selected)).map Prod.snd := by
  induction entries generalizing result with
  | nil => simp
  | cons entry rest ih =>
      rw [List.foldl_cons, ih]
      by_cases hentry : entry.1 = selected <;> simp [hentry]

theorem result_perm : config.result.Perm config.pluginsOptions.values := by
  have hfilter := List.filter_append_perm (fun entry => decide (entry.1 = config.selected))
    config.pluginsOptions.entries
  unfold result
  rw [foldl_result, List.append_nil, LinkedMap.values]
  apply List.Perm.trans _ (hfilter.map Prod.snd)
  rw [List.map_append]
  apply (List.reverse_perm _).append
  simp

theorem Readable.nonempty_listed (h : Readable config) :
    config.listed.filter (fun plugin => !plugin.id.isEmpty) = config.result := by
  have hresult : config.result.filter (fun plugin => !plugin.id.isEmpty) = config.result := by
    rw [List.filter_eq_self]
    intro plugin hplugin
    obtain ⟨entry, hentry, rfl⟩ := List.mem_map.mp (result_perm.mem_iff.mp hplugin)
    obtain ⟨hid, hne⟩ := h.keyed entry hentry
    simp [hid, hne]
  unfold listed
  split_ifs
  · exact hresult
  · rw [List.filter_cons_of_neg (by simp)]
    exact hresult

/-- The first line is the line of the selected plugin. -/
theorem Readable.head_listed (h : Readable config) :
    ∃ plugin rest, config.listed = plugin :: rest ∧ plugin.id = config.selected := by
  unfold listed
  split_ifs with hmem
  · obtain ⟨entry, hentry, hkey⟩ := List.mem_map.mp hmem
    have hfirst : entry.2 ∈ ((config.pluginsOptions.entries.filter
        (·.1 = config.selected)).map Prod.snd).reverse := by
      rw [List.mem_reverse]
      exact List.mem_map_of_mem (List.mem_filter.mpr ⟨hentry, by simpa using hkey⟩)
    have hne := List.ne_nil_of_mem hfirst
    obtain ⟨plugin, rest, hcons⟩ := List.exists_cons_of_ne_nil hne
    have hplugin : plugin ∈ ((config.pluginsOptions.entries.filter
        (·.1 = config.selected)).map Prod.snd).reverse := hcons ▸ List.mem_cons_self ..
    rw [List.mem_reverse, List.mem_map] at hplugin
    obtain ⟨first, hfilter, rfl⟩ := hplugin
    obtain ⟨hentry, hkey⟩ := List.mem_filter.mp hfilter
    refine ⟨first.2, rest ++ (config.pluginsOptions.entries.filter
      (·.1 ≠ config.selected)).map Prod.snd, ?_, ?_⟩
    · rw [result, foldl_result, hcons, List.append_nil, List.cons_append]
    · rw [(h.keyed first hentry).1]
      simpa using hkey
  · exact ⟨{}, config.result, rfl, (h.selected.resolve_left hmem).symm⟩

theorem Readable.mem_listed (h : Readable config) {plugin : PluginOptions}
    (hplugin : plugin ∈ config.listed) :
    plugin = {} ∨ (plugin.id, plugin) ∈ config.pluginsOptions.entries := by
  have hresult : ∀ plugin ∈ config.result, (plugin.id, plugin) ∈ config.pluginsOptions.entries := by
    intro plugin hplugin
    obtain ⟨entry, hentry, rfl⟩ := List.mem_map.mp (result_perm.mem_iff.mp hplugin)
    rw [(h.keyed entry hentry).1]
    exact hentry
  unfold listed at hplugin
  split_ifs at hplugin
  · exact Or.inr (hresult plugin hplugin)
  · rcases List.mem_cons.mp hplugin with rfl | hplugin
    · exact Or.inl rfl
    · exact Or.inr (hresult plugin hplugin)

/-- The output is cut where it was joined. -/
theorem Readable.lines_joinLines (h : Readable config) (order : HashOrder) :
    lines (joinLines order config.listed) =
      config.listed.map fun plugin => plugin.toString order false := by
  obtain ⟨first, rest, hcons, -⟩ := h.head_listed
  have hline : ∀ line ∈ config.listed.map fun plugin => (plugin.toString order false).toList,
      '\n' ∉ line := by
    intro line hline
    obtain ⟨plugin, hplugin, rfl⟩ := List.mem_map.mp hline
    rcases h.mem_listed hplugin with rfl | hentry
    · simp [PluginOptions.toString]
    · have hid : plugin.id ≠ "" := (h.keyed _ hentry).2
      have hprintable := (h.printable plugin (List.mem_map_of_mem hentry)).1
      rw [← forall_toString order hid (by decide) (by decide) (by decide)] at hprintable
      exact fun hmem => hprintable _ hmem rfl
  rw [lines, joinLines, String.toList_ofList,
    List.splitOn_intercalate '\n' hline (by simp [hcons]), List.map_map]
  apply List.map_congr_left
  intro plugin hplugin
  simp

end Printing

section Survival

open PluginOptions

variable {config : PluginConfiguration} (order : HashOrder)
  (defaultConfig : String → Option String)

/-- What the output is read to. -/
theorem Readable.readLines (h : Readable config)
    (hgood : ∀ plugin ∈ config.pluginsOptions.values,
      isKcptun plugin.id = false ∧ Representable plugin) :
    (config.listed.map fun plugin => plugin.toString order false).mapM readLine =
      .ok (config.listed.map (reread order)) := by
  rw [mapM_eq_ok_iff, List.forall₂_map_left_iff, List.forall₂_map_right_iff, List.forall₂_same]
  intro plugin hplugin
  rcases h.mem_listed hplugin with rfl | hentry
  · have hnil : order.iterate [] = [] := (order.perm []).eq_nil
    have hreread : reread order {} = {} := by
      simp [reread, LinkedMap.empty, hnil]
    rw [hreread]
    rfl
  · obtain ⟨hword, hrepresentable⟩ := hgood plugin (List.mem_map_of_mem hentry)
    exact readLine_toString order (h.keyed _ hentry).2 hrepresentable hword

theorem Readable.entries_reread (h : Readable config) :
    (associate (config.listed.map (reread order))).entries.Perm
      (config.pluginsOptions.entries.map fun entry => (entry.1, reread order entry.2)) := by
  have hids : config.pluginsOptions.entries.map (fun entry => (entry.1, reread order entry.2)) =
      config.pluginsOptions.values.map fun plugin => (plugin.id, reread order plugin) := by
    rw [LinkedMap.values, List.map_map]
    apply List.map_congr_left
    intro entry hentry
    simp [(h.keyed entry hentry).1]
  have hfilter : (config.listed.map (reread order)).filter (fun plugin => !plugin.id.isEmpty) =
      config.result.map (reread order) := by
    rw [List.filter_map, ← h.nonempty_listed]
    rfl
  have hkeys : (config.result.map PluginOptions.id).Perm config.pluginsOptions.keys := by
    apply (result_perm.map _).trans
    rw [LinkedMap.values, List.map_map, LinkedMap.keys]
    apply List.Perm.of_eq
    apply List.map_congr_left
    intro entry hentry
    exact (h.keyed entry hentry).1
  rw [entries_associate, hfilter, List.map_map]
  · apply (result_perm.map _).trans
    apply List.Perm.of_eq
    exact hids.symm
  · rw [hfilter, List.map_map]
    exact hkeys.nodup_iff.mpr config.pluginsOptions.nodupKeys

theorem Readable.survives (h : Readable config)
    (hgood : ∀ plugin ∈ config.pluginsOptions.values,
      isKcptun plugin.id = false ∧ Representable plugin) :
    config.Survives order defaultConfig := by
  obtain ⟨first, rest, hcons, hfirst⟩ := h.head_listed
  refine ⟨_, ofPlugins (config.listed.map (reread order)), h.toString_eq order defaultConfig,
    ?_, ?_, ?_⟩
  · rw [new, h.lines_joinLines order, h.readLines order hgood]
    rfl
  · simp only [ofPlugins, hcons, List.map_cons]
    exact hfirst
  · exact LinkedMap.equalsBy_of_perm_map _ (h.entries_reread order) fun _ => reread_equals order

/-- An id that looks like a legacy line is not an id of what is read back. -/
theorem Readable.good_of_survives (h : Readable config)
    (hsurvives : config.Survives order defaultConfig) :
    ∀ plugin ∈ config.pluginsOptions.values,
      isKcptun plugin.id = false ∧ Representable plugin := by
  obtain ⟨text, read, htext, hread, -, hequal⟩ := hsurvives
  rw [h.toString_eq order defaultConfig] at htext
  cases htext
  rw [new, h.lines_joinLines order] at hread
  cases hlines : (config.listed.map fun plugin => plugin.toString order false).mapM readLine with
  | error e => simp [hlines, Except.map] at hread
  | ok plugins =>
      rw [hlines] at hread
      cases hread
      rw [mapM_eq_ok_iff, List.forall₂_map_left_iff] at hlines
      -- What an accepted line of the output says about its plugin.
      have hline : ∀ plugin, (plugin.id, plugin) ∈ config.pluginsOptions.entries →
          ∀ read, readLine (plugin.toString order false) = .ok read →
          (isKcptun plugin.id = true ∧ read.id = "kcptun") ∨
            (isKcptun plugin.id = false ∧ Representable plugin ∧ read.id = plugin.id) := by
        intro plugin hentry read hread
        have hprintable := h.printable plugin (List.mem_map_of_mem hentry)
        exact readLine_toString_cases order (h.keyed _ hentry).2 hprintable.2 hread
      intro plugin hplugin
      have hentry : (plugin.id, plugin) ∈ config.pluginsOptions.entries := by
        obtain ⟨entry, hentry, rfl⟩ := List.mem_map.mp hplugin
        rw [(h.keyed entry hentry).1]
        exact hentry
      have hlisted : plugin ∈ config.listed :=
        (List.mem_filter.mp (h.nonempty_listed ▸ result_perm.mem_iff.mpr hplugin)).1
      obtain ⟨read, -, hread⟩ := exists_of_forall₂ hlines hlisted
      rcases hline plugin hentry read hread with ⟨hword, -⟩ | ⟨hword, hrepresentable, -⟩
      · -- The id is a key of what was read, but no line gives it.
        have hkey : plugin.id ∈ (associate plugins).keys :=
          LinkedMap.mem_keys_of_equalsBy hequal (List.mem_map_of_mem hentry)
        obtain ⟨⟨key, other⟩, hother, hsame⟩ := List.mem_map.mp hkey
        obtain rfl : key = plugin.id := hsame
        obtain ⟨hid, hne, before, after, hplugins, -⟩ := (mem_associate_iff _ _ _).mp hother
        obtain ⟨source, hsource, hread⟩ := exists_of_forall₂ hlines.flip
          (hplugins ▸ List.mem_append_right before (List.mem_cons_self ..))
        rcases h.mem_listed hsource with rfl | hsource
        · cases hread
          exact absurd hid.symm hne
        · rcases hline source hsource other hread with ⟨-, hkcptun⟩ | ⟨hword', -, hsame⟩
          · rw [← hid, hkcptun] at hword
            exact absurd hword (by decide)
          · rw [← hid, hsame, hword'] at hword
            exact absurd hword (by decide)
      · exact ⟨hword, hrepresentable⟩

/-- A configuration and the lines it was read from. -/
theorem new_eq_ok_iff (plugin : String) (config : PluginConfiguration) :
    new plugin = .ok config ↔ ∃ plugins,
      List.Forall₂ (fun line read => readLine line = .ok read) (lines plugin) plugins ∧
        config = ofPlugins plugins := by
  unfold new
  constructor
  · intro h
    cases hlines : (lines plugin).mapM readLine with
    | error e => simp [hlines, Except.map] at h
    | ok plugins =>
        rw [hlines] at h
        cases h
        exact ⟨plugins, (mapM_eq_ok_iff _ _ _).mp hlines, rfl⟩
  · rintro ⟨plugins, hlines, rfl⟩
    rw [(mapM_eq_ok_iff _ _ _).mpr hlines]
    rfl

theorem readable_of_new {plugin : String} (h : new plugin = .ok config) : Readable config := by
  obtain ⟨plugins, hlines, rfl⟩ := (new_eq_ok_iff plugin config).mp h
  have hread : ∀ read ∈ plugins, Within (· ≠ '\n') read ∧ ("", none) ∉ read.options.entries := by
    intro read hread
    obtain ⟨line, hline, hread⟩ := exists_of_forall₂ hlines.flip hread
    obtain ⟨text, htext, rfl⟩ := List.mem_map.mp hline
    apply readLine_within _ hread
    intro c hc
    rw [String.toList_ofList] at hc
    rintro rfl
    exact Text.not_mem_of_mem_splitOn htext hc
  refine ⟨?_, ?_, ?_⟩
  · rintro ⟨key, read⟩ hentry
    obtain ⟨hid, hne, -⟩ := (mem_associate_iff _ _ _).mp hentry
    exact ⟨hid, hne⟩
  · cases plugins with
    | nil => exact Or.inr rfl
    | cons first rest =>
        by_cases hid : first.id = ""
        · exact Or.inr hid
        · exact Or.inl (mem_keys_associate (List.mem_cons_self ..) hid)
  · intro read hvalue
    obtain ⟨⟨key, plugin⟩, hentry, hsame⟩ := List.mem_map.mp hvalue
    obtain rfl : plugin = read := hsame
    obtain ⟨-, -, before, after, rfl, -⟩ := (mem_associate_iff _ _ _).mp hentry
    exact hread plugin (by simp)

/-- Control characters are never in an id. -/
theorem plain_id_of_new {plugin : String} (h : new plugin = .ok config) {read : PluginOptions}
    (hread : read ∈ config.pluginsOptions.values) :
    ∀ c ∈ read.id.toList, isISOControl c = false := by
  obtain ⟨plugins, hlines, rfl⟩ := (new_eq_ok_iff plugin config).mp h
  obtain ⟨⟨key, found⟩, hentry, hsame⟩ := List.mem_map.mp hread
  obtain rfl : found = read := hsame
  obtain ⟨-, -, before, after, hsplit, -⟩ := (mem_associate_iff _ _ _).mp hentry
  obtain ⟨line, -, hline⟩ := exists_of_forall₂ hlines.flip
    (hsplit ▸ List.mem_append_right before (List.mem_cons_self ..))
  change readLine line = .ok found at hline
  unfold readLine at hline
  split at hline
  · cases hline
    have hword : ∀ c ∈ "kcptun".toList, isISOControl c = false := by decide
    exact hword
  · exact (representable_of_new hline).id

theorem good_iff_stable {plugin : String} (h : new plugin = .ok config) :
    (∀ read ∈ config.pluginsOptions.values, isKcptun read.id = false ∧ Representable read) ↔
      Stable plugin := by
  have hreadable := readable_of_new h
  obtain ⟨plugins, hlines, rfl⟩ := (new_eq_ok_iff plugin config).mp h
  constructor
  · intro hgood
    refine ⟨?_, ?_⟩
    · intro line hline hword read hread
      obtain ⟨found, hfound, hsame⟩ := exists_of_forall₂ hlines hline
      rw [readLine, hword, hread] at hsame
      cases hsame
      by_cases hid : read.id = ""
      · rw [hid]
        decide
      · obtain ⟨entry, hentry, hkey⟩ := List.mem_map.mp (mem_keys_associate hfound hid)
        have hgood := (hgood entry.2 (List.mem_map_of_mem hentry)).1
        rwa [(hreadable.keyed entry hentry).1, hkey] at hgood
    · intro before line after hsplit hword hlater
      obtain ⟨before', read, after', rfl, hread, hafter⟩ := forall₂_split hlines hsplit
      rw [readLine, hword] at hread
      obtain rfl : { id := "kcptun", options := kcptunOptions line } = read :=
        Except.ok.inj hread
      have hids : ∀ later ∈ after', later.id ≠ "kcptun" := by
        intro later hmem
        obtain ⟨source, hsource, hread⟩ := exists_of_forall₂ hafter.flip hmem
        exact hlater source hsource later hread
      have hentry := (mem_associate_iff (before' ++ _ :: after') "kcptun"
        { id := "kcptun", options := kcptunOptions line }).mpr
          ⟨rfl, by decide, before', after', rfl, hids⟩
      exact (hgood _ (List.mem_map_of_mem hentry)).2.toWithin
  · intro hstable read hvalue
    obtain ⟨⟨key, plugin'⟩, hentry, hsame⟩ := List.mem_map.mp hvalue
    obtain rfl : plugin' = read := hsame
    obtain ⟨hid, -, before, after, hsplit, hafter⟩ := (mem_associate_iff _ _ _).mp hentry
    obtain ⟨before', line, after', hlines', hread, hrest⟩ := forall₂_split hlines.flip hsplit
    have hread : readLine line = .ok plugin' := hread
    have hnamed := (hreadable.printable plugin' hvalue).2
    by_cases hword : isKcptun line = true
    · have hstable := hstable.options before' line after' hlines' hword
      rw [readLine, hword] at hread
      cases hread
      have hkcptun : isKcptun "kcptun" = false := by decide
      refine ⟨hkcptun, hstable ?_, hnamed⟩
      intro later hlater found hfound
      obtain ⟨other, hother, hsame⟩ := exists_of_forall₂ hrest.flip hlater
      rw [hfound] at hsame
      cases hsame
      exact fun heq => hafter found hother (heq.trans hid)
    · have hword := Bool.eq_false_iff.mpr hword
      rw [readLine, hword] at hread
      have hline : line ∈ lines plugin := by simp [hlines']
      exact ⟨hstable.ids line hline hword plugin' hread, representable_of_new hread⟩

/-- A configuration comes back from its string form exactly when no line of its
source is of the kind that changes grammar. -/
theorem survives_iff_stable (order : HashOrder) (defaultConfig : String → Option String)
    (plugin : String) (config : PluginConfiguration) (h : new plugin = .ok config) :
    config.Survives order defaultConfig ↔ Stable plugin := by
  have hreadable := readable_of_new h
  rw [← good_iff_stable h]
  constructor
  · exact hreadable.good_of_survives order defaultConfig
  · exact hreadable.survives order defaultConfig

/-- A legacy line and an id with an escaped semicolon. -/
def twoLines : String := "kcptun --nocomp --key 'a b'\nx\\;y;host=c"

def twoPlugins : PluginConfiguration where
  pluginsOptions := (LinkedMap.empty.put "kcptun"
    { id := "kcptun", options := (LinkedMap.empty.put "nocomp" none).put "key" (some "a b") }).put
    "x;y" { id := "x;y", options := LinkedMap.empty.put "host" (some "c") }
  selected := "kcptun"

theorem survives_iff_stable_two_plugins :
    new twoLines = .ok twoPlugins ∧
      (twoPlugins.Survives .insertion (fun _ => none) ↔ Stable twoLines) := by
  have h : new twoLines = .ok twoPlugins := by decide +kernel
  exact ⟨h, survives_iff_stable .insertion (fun _ => none) twoLines twoPlugins h⟩

/-- A legacy line with a tab in a value. -/
def tabbedPlugin : PluginConfiguration where
  pluginsOptions := LinkedMap.empty.put "kcptun"
    { id := "kcptun", options := LinkedMap.empty.put "key" (some "a\tb") }
  selected := "kcptun"

/-- The tab is taken by the grammar of command lines and refused by the grammar
of plugin options. -/
theorem survives_fails_tab :
    new "kcptun --key a\tb" = .ok tabbedPlugin ∧
      ¬ tabbedPlugin.Survives .insertion (fun _ => none) := by
  refine ⟨by decide +kernel, ?_⟩
  rintro ⟨text, read, htext, hread, -⟩
  have hprinted : tabbedPlugin.toString .insertion (fun _ => none) = .ok "kcptun;key=a\tb" := by
    decide +kernel
  have hrefused : new "kcptun;key=a\tb" = .error "No control characters allowed." := by
    decide +kernel
  rw [hprinted] at htext
  cases htext
  rw [hrefused] at hread
  cases hread

end Survival

end PluginConfiguration

end WifiProject.Plugin
