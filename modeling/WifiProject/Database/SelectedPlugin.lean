import WifiProject.Database.Profile
import WifiProject.Plugin.PluginConfiguration

/-!
The selected plugin of a profile, as both exports write it: only this plugin,
in the string form of its options. Read back, the string is a configuration of
one line.
-/

namespace WifiProject.Database

open Lib Plugin PluginOptions PluginConfiguration

/-- `PluginConfiguration(plugin ?: "").getOptions()`. -/
def Profile.selectedOptions (defaultConfig : String → Option String) (profile : Profile) :
    Except String PluginOptions :=
  (PluginConfiguration.new (profile.plugin.getD "")).bind fun config =>
    config.getOptions defaultConfig config.selected

/-- What the options of a selected plugin are like. -/
structure Selected (plugin : PluginOptions) : Prop where
  id : plugin.id ≠ ""
  plain : ∀ c ∈ plugin.id.toList, isISOControl c = false
  within : Within (· ≠ '\n') plugin
  named : ("", none) ∉ plugin.options.entries

variable {defaultConfig : String → Option String} {profile : Profile} {plugin : PluginOptions}

/-- A selected plugin is one of the configuration. -/
theorem getOptions_selected (defaultConfig : String → Option String) {text : String}
    {config : PluginConfiguration} (hnew : PluginConfiguration.new text = .ok config)
    (hselected : config.selected.isEmpty = false) :
    ∃ plugin, config.getOptions defaultConfig config.selected = .ok plugin ∧ Selected plugin := by
  have hreadable := readable_of_new hnew
  have hkey := hreadable.selected.resolve_right (by simpa using hselected)
  obtain ⟨found, hfound⟩ := Option.isSome_iff_exists.mp ((LinkedMap.get?_isSome_iff _ _).mpr hkey)
  have hentry := (LinkedMap.get?_eq_some_iff _ _ _).mp hfound
  have hvalue : found ∈ config.pluginsOptions.values := List.mem_map_of_mem hentry
  obtain ⟨hid, hne⟩ := hreadable.keyed _ hentry
  obtain ⟨hwithin, hnamed⟩ := hreadable.printable _ hvalue
  refine ⟨found, ?_, hid ▸ hne, plain_id_of_new hnew hvalue, hwithin, hnamed⟩
  simp [getOptions, hselected, hfound]

theorem selected_of_selectedOptions (h : profile.selectedOptions defaultConfig = .ok plugin) :
    plugin = {} ∨ Selected plugin := by
  unfold Profile.selectedOptions at h
  cases hnew : PluginConfiguration.new (profile.plugin.getD "") with
  | error message => simp [hnew, Except.bind] at h
  | ok config =>
      simp only [hnew, Except.bind] at h
      cases hselected : config.selected.isEmpty with
      | true =>
          simp only [getOptions, hselected] at h
          exact Or.inl (Except.ok.inj h).symm
      | false =>
          obtain ⟨found, hfound, hplugin⟩ := getOptions_selected defaultConfig hnew hselected
          rw [hfound] at h
          exact Or.inr (Except.ok.inj h ▸ hplugin)

/-- Options are the same once they have been listed in another order. -/
theorem Selected.reread (h : Selected plugin) (order : HashOrder) :
    Selected (plugin.reread order) where
  id := h.id
  plain := h.plain
  within := h.within.reread order
  named := by
    rw [entries_reread]
    exact fun hmem => h.named ((order.perm _).mem_iff.mp hmem)

/-- A configuration of one line. -/
theorem selectedOptions_line {text : String} (hprofile : profile.plugin = some text)
    (hline : '\n' ∉ text.toList) :
    profile.selectedOptions defaultConfig =
      (readLine text).map fun read => if read.id.isEmpty then {} else read := by
  have hlines : lines text = [text] := by
    rw [lines, List.splitOn_eq_singleton hline]
    simp
  unfold Profile.selectedOptions PluginConfiguration.new
  rw [hprofile, Option.getD_some, hlines, List.mapM_cons, List.mapM_nil]
  cases readLine text with
  | error message => rfl
  | ok read =>
      change getOptions defaultConfig read.id (ofPlugins [read]) = _
      by_cases hid : read.id.isEmpty
      · simp [getOptions, hid, Except.map]
      · simp [getOptions, hid, Except.map, ofPlugins, associate]

/-- The string form of an imported plugin, written twice in the order of two
hash maps. -/
def pluginText (order order' : HashOrder) (plugin : PluginOptions) : Option String :=
  if plugin.id.isEmpty then none else some ((plugin.reread order).toString order' false)

section Back

variable (order order' : HashOrder)

theorem Selected.pluginText_eq (h : Selected plugin) :
    pluginText order order' plugin = some ((plugin.reread order).toString order' false) :=
  if_neg (by simpa using h.id)

theorem Selected.selectedOptions_eq (h : Selected plugin)
    (hprofile : profile.plugin = pluginText order order' plugin) :
    profile.selectedOptions defaultConfig =
      (readLine ((plugin.reread order).toString order' false)).map fun read =>
        if read.id.isEmpty then {} else read := by
  have hreread := h.reread order
  apply selectedOptions_line (hprofile.trans (h.pluginText_eq order order'))
  have hwithin := hreread.within
  rw [← forall_toString order' hreread.id (by decide) (by decide) (by decide)] at hwithin
  exact fun hmem => hwithin _ hmem rfl

/-- Plugin options that the command line grammar does not claim come back. -/
theorem Selected.comes_back (h : Selected plugin) (hword : isKcptun plugin.id = false)
    (hplain : Within (fun c => isISOControl c = false) plugin)
    (hprofile : profile.plugin = pluginText order order' plugin) :
    ∃ read, profile.selectedOptions defaultConfig = .ok read ∧ read.equals plugin = true := by
  have hreread := h.reread order
  have hread : readLine ((plugin.reread order).toString order' false) =
      .ok ((plugin.reread order).reread order') :=
    readLine_toString order' hreread.id ⟨hplain.reread order, hreread.named⟩ hword
  have hid : ((plugin.reread order).reread order').id.isEmpty = false := by
    simpa [PluginOptions.reread] using h.id
  refine ⟨(plugin.reread order).reread order', ?_, ?_⟩
  · rw [h.selectedOptions_eq order order' hprofile, hread]
    simp [Except.map, hid]
  · have hentries : (((plugin.reread order).reread order').options.entries).Perm
        plugin.options.entries := by
      rw [entries_reread, entries_reread]
      exact (order'.perm _).trans (order.perm _)
    rw [PluginOptions.equals, (LinkedMap.equals_iff_perm _ _).mpr hentries]
    simp [PluginOptions.reread]

/-- An id that looks like a legacy line does not come back. -/
theorem Selected.word_of_comes_back (h : Selected plugin) {read : PluginOptions}
    (hprofile : profile.plugin = pluginText order order' plugin)
    (hread : profile.selectedOptions defaultConfig = .ok read) (hequals : read.equals plugin = true) :
    isKcptun plugin.id = false := by
  have hreread := h.reread order
  rw [h.selectedOptions_eq order order' hprofile] at hread
  have hsame : read.id = plugin.id := by
    simp only [PluginOptions.equals, Bool.and_eq_true, decide_eq_true_eq] at hequals
    exact hequals.2
  cases hline : readLine ((plugin.reread order).toString order' false) with
  | error message => simp [hline, Except.map] at hread
  | ok found =>
      rcases readLine_toString_cases order' hreread.id hreread.named hline with
        ⟨-, hkcptun⟩ | ⟨hword, -⟩
      · have hfound : read.id = "kcptun" := by
          simp only [hline, Except.map, hkcptun, Except.ok.injEq] at hread
          rw [← hread]
          exact hkcptun
        rw [← hsame, hfound]
        decide
      · exact hword

theorem selectedOptions_of_none (hprofile : profile.plugin = none) :
    profile.selectedOptions defaultConfig = .ok {} := by
  unfold Profile.selectedOptions
  rw [hprofile]
  rfl

end Back

end WifiProject.Database
