import Mathlib.Data.List.Flatten
import WifiProject.Lib.Text
import WifiProject.Plugin.PluginOptions

/-!
The string form of plugin options. `toString` escapes per character and the
parser reads per token; between two entries the parser is `clean`, so that
reading an entry is one `put` whatever came before it.
-/

namespace WifiProject.Plugin.PluginOptions

open Lib

/-- Id, keys and values are made of allowed characters. -/
structure Within (allowed : Char → Prop) (plugin : PluginOptions) : Prop where
  id : ∀ c ∈ plugin.id.toList, allowed c
  keys : ∀ entry ∈ plugin.options.entries, ∀ c ∈ entry.1.toList, allowed c
  values : ∀ entry ∈ plugin.options.entries, ∀ value, entry.2 = some value →
    ∀ c ∈ value.toList, allowed c

/-- What the string form can carry: no ISO control characters, and no empty key
without a value, which would leave no trace in it. -/
structure Representable (plugin : PluginOptions) : Prop extends
    Within (fun c => isISOControl c = false) plugin where
  named : ("", none) ∉ plugin.options.entries

/-- The parser between two entries. -/
def Parser.clean (plugin : PluginOptions) (parseId : Bool) : Parser := { plugin, parseId }

/-- What one entry adds to the string. -/
def entryText (entry : String × Option String) : List Char :=
  entry.1.toList.flatMap escape ++
    match entry.2 with
    | none => []
    | some value => '=' :: value.toList.flatMap escape

theorem flatMap_escape_ne_nil {str : String} (h : str ≠ "") : str.toList.flatMap escape ≠ [] := by
  have hne : str.toList ≠ [] := fun hnil => h (String.toList_eq_nil_iff.mp hnil)
  obtain ⟨c, rest, hcons⟩ := List.exists_cons_of_ne_nil hne
  rw [hcons, List.flatMap_cons]
  intro hnil
  have hescape := (List.append_eq_nil_iff.mp hnil).1
  unfold escape at hescape
  split at hescape <;> simp at hescape

theorem entryText_ne_nil {entry : String × Option String} (h : entry ≠ ("", none)) :
    entryText entry ≠ [] := by
  obtain ⟨key, value⟩ := entry
  cases value with
  | some value => simp [entryText]
  | none =>
      have hkey : key ≠ "" := by
        rintro rfl
        exact h rfl
      simpa [entryText] using flatMap_escape_ne_nil hkey

/-- Escaped characters are read back as themselves. -/
theorem foldl_step_escape (str : List Char) (parser : Parser) (h : parser.escaped = false) :
    (str.flatMap escape).foldl Parser.step parser =
      { parser with current := str.reverse ++ parser.current } := by
  induction str generalizing parser with
  | nil => rfl
  | cons c str ih =>
      have hstep : (escape c).foldl Parser.step parser =
          { parser with current := c :: parser.current } := by
        unfold escape
        split
        · simp [Parser.step, h]
        · rename_i hplain
          simp only [not_or] at hplain
          simp [Parser.step, h, hplain]
      rw [List.flatMap_cons, List.foldl_append, hstep, ih { parser with current := c :: parser.current } h]
      simp

/-- An entry and its semicolon are one `put`. -/
theorem foldl_step_entryText (plugin : PluginOptions) {entry : String × Option String}
    (h : entry ≠ ("", none)) :
    (entryText entry ++ [';']).foldl Parser.step (Parser.clean plugin false) =
      Parser.clean { plugin with options := plugin.options.put entry.1 entry.2 } false := by
  obtain ⟨key, value⟩ := entry
  rw [entryText, List.foldl_append, List.foldl_append, foldl_step_escape _ _ rfl]
  cases value with
  | some value =>
      have hkey : Parser.step
          { plugin, parseId := false, current := key.toList.reverse ++ [] } '=' =
          { plugin, parseId := false, key := some key } := by
        simp [Parser.step, Parser.take]
      simp only [Parser.clean, List.foldl_cons, List.foldl_nil]
      rw [hkey, foldl_step_escape _ _ rfl]
      simp [Parser.step, Parser.semicolon, Parser.take]
  | none =>
      have hkey : key ≠ "" := by
        rintro rfl
        exact h rfl
      simp [Parser.step, Parser.semicolon, Parser.take, Parser.clean, hkey]

theorem foldl_step_id {id : String} (h : id ≠ "") :
    (id.toList.flatMap escape ++ [';']).foldl Parser.step (Parser.clean {} true) =
      Parser.clean { id := id } false := by
  rw [List.foldl_append, foldl_step_escape _ _ rfl]
  simp [Parser.step, Parser.semicolon, Parser.take, Parser.clean, h]

/-- Reading entry after entry, each with its semicolon. -/
theorem foldl_step_entries (entries : List (String × Option String)) (plugin : PluginOptions)
    (h : ("", none) ∉ entries) :
    (entries.flatMap fun entry => entryText entry ++ [';']).foldl Parser.step
        (Parser.clean plugin false) =
      Parser.clean { plugin with
        options := entries.foldl (fun m entry => m.put entry.1 entry.2) plugin.options } false := by
  induction entries generalizing plugin with
  | nil => rfl
  | cons entry rest ih =>
      have hentry : entry ≠ ("", none) := fun heq => h (heq ▸ List.mem_cons_self ..)
      have hrest : ("", none) ∉ rest := fun hmem => h (List.mem_cons_of_mem _ hmem)
      rw [List.flatMap_cons, List.foldl_append, foldl_step_entryText plugin hentry, ih _ hrest]
      rfl

theorem appendEntry_eq (result : List Char) (entry : String × Option String) :
    appendEntry result entry =
      (if result.isEmpty then result else result ++ [';']) ++ entryText entry := by
  obtain ⟨key, value⟩ := entry
  cases value <;> simp [appendEntry, append, entryText]

/-- The separators of the output are the terminators of the input, but for
the last one. -/
theorem foldl_appendEntry (entries : List (String × Option String)) (result : List Char)
    (h : result ≠ []) :
    entries.foldl appendEntry result ++ [';'] =
      result ++ [';'] ++ entries.flatMap fun entry => entryText entry ++ [';'] := by
  induction entries generalizing result with
  | nil => simp
  | cons entry rest ih =>
      have happend : appendEntry result entry = result ++ [';'] ++ entryText entry := by
        rw [appendEntry_eq, if_neg (by simpa using h)]
      rw [List.foldl_cons, ih _ (by simp [happend]), happend]
      simp

theorem foldl_appendEntry_nil (entries : List (String × Option String))
    (h : ("", none) ∉ entries) (hne : entries ≠ []) :
    entries.foldl appendEntry [] ++ [';'] =
      entries.flatMap fun entry => entryText entry ++ [';'] := by
  obtain ⟨entry, rest, rfl⟩ := List.exists_cons_of_ne_nil hne
  have hentry : entry ≠ ("", none) := fun heq => h (heq ▸ List.mem_cons_self ..)
  have happend : appendEntry [] entry = entryText entry := by simp [appendEntry_eq]
  rw [List.foldl_cons, happend, foldl_appendEntry rest _ (entryText_ne_nil hentry)]
  simp

section Within

variable {allowed : Char → Prop} {plugin : PluginOptions}

theorem forall_escape (hslash : allowed '\\') (str : List Char) :
    (∀ d ∈ str.flatMap escape, allowed d) ↔ ∀ c ∈ str, allowed c := by
  simp only [List.mem_flatMap, forall_exists_index, and_imp]
  constructor
  · intro h c hc
    apply h c c hc
    unfold escape
    split <;> simp
  · intro h d c hc hd
    unfold escape at hd
    split at hd
    · simp only [List.mem_cons, List.not_mem_nil, or_false] at hd
      rcases hd with rfl | rfl
      · exact hslash
      · exact h d hc
    · rw [List.mem_singleton.mp hd]
      exact h c hc

theorem forall_entryText (hslash : allowed '\\') (hequals : allowed '=')
    (entry : String × Option String) :
    (∀ d ∈ entryText entry, allowed d) ↔ (∀ c ∈ entry.1.toList, allowed c) ∧
      ∀ value, entry.2 = some value → ∀ c ∈ value.toList, allowed c := by
  obtain ⟨key, value⟩ := entry
  rw [entryText, List.forall_mem_append, forall_escape hslash]
  cases value with
  | none => simp
  | some value =>
      dsimp only
      rw [List.forall_mem_cons, forall_escape hslash]
      simp [hequals]

theorem forall_entries (order : HashOrder) (hslash : allowed '\\') (hequals : allowed '=')
    (hsemicolon : allowed ';') :
    (∀ d ∈ (order.iterate plugin.options.entries).flatMap
        (fun entry => entryText entry ++ [';']), allowed d) ↔
      ∀ entry ∈ plugin.options.entries, (∀ c ∈ entry.1.toList, allowed c) ∧
        ∀ value, entry.2 = some value → ∀ c ∈ value.toList, allowed c := by
  have hperm := order.perm plugin.options.entries
  constructor
  · intro h entry hentry
    rw [← forall_entryText hslash hequals]
    intro d hd
    apply h d
    rw [List.mem_flatMap]
    exact ⟨entry, hperm.mem_iff.mpr hentry, List.mem_append_left _ hd⟩
  · intro h d hd
    obtain ⟨entry, hentry, hd⟩ := List.mem_flatMap.mp hd
    rcases List.mem_append.mp hd with hd | hd
    · exact (forall_entryText hslash hequals entry).mpr (h entry (hperm.mem_iff.mp hentry)) d hd
    · rw [List.mem_singleton.mp hd]
      exact hsemicolon

/-- The string with the id, as the parser gets it. -/
theorem toString_semicolon (order : HashOrder) (hid : plugin.id ≠ "") :
    (plugin.toString order false).toList ++ [';'] =
      plugin.id.toList.flatMap escape ++ [';'] ++
        (order.iterate plugin.options.entries).flatMap fun entry => entryText entry ++ [';'] := by
  have hempty : plugin.id.isEmpty = false := by simpa using hid
  have hescaped : append [] plugin.id ≠ [] := flatMap_escape_ne_nil hid
  have hlist : (plugin.toString order false).toList =
      (order.iterate plugin.options.entries).foldl appendEntry (append [] plugin.id) := by
    simp [toString, hempty]
  rw [hlist, foldl_appendEntry _ _ hescaped, append, List.nil_append]

/-- The string has the characters of id, keys and values, and the delimiters. -/
theorem forall_toString (order : HashOrder) (hid : plugin.id ≠ "") (hslash : allowed '\\')
    (hequals : allowed '=') (hsemicolon : allowed ';') :
    (∀ c ∈ (plugin.toString order false).toList, allowed c) ↔ Within allowed plugin := by
  have hlast : (∀ c ∈ (plugin.toString order false).toList, allowed c) ↔
      ∀ c ∈ (plugin.toString order false).toList ++ [';'], allowed c := by
    rw [List.forall_mem_append]
    simp [hsemicolon]
  rw [hlast, toString_semicolon order hid, List.forall_mem_append, List.forall_mem_append,
    forall_escape hslash, forall_entries order hslash hequals hsemicolon]
  constructor
  · rintro ⟨⟨hid, -⟩, hentries⟩
    exact ⟨hid, fun entry hentry => (hentries entry hentry).1,
      fun entry hentry => (hentries entry hentry).2⟩
  · intro h
    refine ⟨⟨h.id, by simpa using hsemicolon⟩, ?_⟩
    intro entry hentry
    exact ⟨h.keys entry hentry, h.values entry hentry⟩

end Within

theorem new_of_plain {str : String} (hne : str ≠ "")
    (h : ∀ c ∈ str.toList, isISOControl c = false) (parseId : Bool) :
    new (some str) parseId =
      .ok ((str.toList ++ [';']).foldl Parser.step (Parser.clean {} parseId)).plugin := by
  have hall : str.toList.any isISOControl = false := by
    rw [List.any_eq_false]
    intro c hc
    simp [h c hc]
  simp [new, hne, hall, Parser.clean]

/-- What is accepted has no control characters. -/
theorem plain_of_new {str : String} {parseId : Bool} {read : PluginOptions}
    (h : new (some str) parseId = .ok read) : ∀ c ∈ str.toList, isISOControl c = false := by
  simp only [new] at h
  split_ifs at h with hempty hall
  · simp [String.isEmpty_iff.mp hempty]
  · intro c hc
    have hnone := List.any_eq_false.mp (Bool.eq_false_iff.mpr hall) c hc
    simpa using hnone

section Reading

variable {allowed : Char → Prop} {plugin : PluginOptions}

theorem Within.put (h : Within allowed plugin) {key : String} {value : Option String}
    (hkey : ∀ c ∈ key.toList, allowed c)
    (hvalue : ∀ str, value = some str → ∀ c ∈ str.toList, allowed c) :
    Within allowed { plugin with options := plugin.options.put key value } where
  id := h.id
  keys := by
    rintro ⟨k, v⟩ hentry
    rcases (plugin.options.mem_put_iff key k value v).mp hentry with ⟨rfl, -⟩ | ⟨-, hentry⟩
    · exact hkey
    · exact h.keys _ hentry
  values := by
    rintro ⟨k, v⟩ hentry
    rcases (plugin.options.mem_put_iff key k value v).mp hentry with ⟨-, rfl⟩ | ⟨-, hentry⟩
    · exact hvalue
    · exact h.values _ hentry

theorem named_put {options : Options} (h : ("", none) ∉ options.entries) {key : String}
    {value : Option String} (hne : (key, value) ≠ ("", none)) :
    ("", none) ∉ (options.put key value).entries := by
  rw [LinkedMap.mem_put_iff]
  rintro (⟨rfl, rfl⟩ | ⟨-, hmem⟩)
  · exact hne rfl
  · exact h hmem

/-- What the parser has taken in is made of the characters it has read. -/
structure Parser.Sound (allowed : Char → Prop) (parser : Parser) : Prop where
  plugin : Within allowed parser.plugin
  named : ("", none) ∉ parser.plugin.options.entries
  current : ∀ c ∈ parser.current, allowed c
  key : ∀ key, parser.key = some key → ∀ c ∈ key.toList, allowed c

variable {parser : Parser}

theorem Parser.Sound.take (h : parser.Sound allowed) : ∀ c ∈ parser.take.toList, allowed c := by
  intro c hc
  rw [Parser.take, String.toList_ofList, List.mem_reverse] at hc
  exact h.current c hc

theorem Parser.Sound.semicolon (h : parser.Sound allowed) : parser.semicolon.Sound allowed := by
  have hread : ∀ {plugin : PluginOptions}, Within allowed plugin →
      ("", none) ∉ plugin.options.entries →
      Parser.Sound allowed { parser with plugin, parseId := false, current := [], key := none } :=
    fun hplugin hnamed => ⟨hplugin, hnamed, by simp, by simp⟩
  unfold Parser.semicolon
  apply hread
  · split
    · rename_i key hkey
      apply h.plugin.put (h.key key hkey)
      rintro str ⟨⟩
      exact h.take
    · split_ifs
      · exact h.plugin
      · exact ⟨h.take, h.plugin.keys, h.plugin.values⟩
      · exact h.plugin.put h.take (by simp)
  · split
    · exact named_put h.named (by simp)
    · split_ifs with hempty
      · exact h.named
      · exact h.named
      · apply named_put h.named
        intro heq
        have htake : parser.take = "" := congrArg Prod.fst heq
        rw [Parser.take, ← String.toList_eq_nil_iff, String.toList_ofList] at htake
        simp [List.reverse_eq_nil_iff.mp htake] at hempty

theorem Parser.Sound.step (h : parser.Sound allowed) {c : Char} (hc : allowed c) :
    (parser.step c).Sound allowed := by
  have hpush : ∀ d ∈ c :: parser.current, allowed d := by
    rw [List.forall_mem_cons]
    exact ⟨hc, h.current⟩
  unfold Parser.step
  split_ifs
  · exact ⟨h.plugin, h.named, hpush, h.key⟩
  · exact ⟨h.plugin, h.named, h.current, h.key⟩
  · refine ⟨h.plugin, h.named, by simp, ?_⟩
    rintro key ⟨⟩
    exact h.take
  · exact h.semicolon
  · exact ⟨h.plugin, h.named, hpush, h.key⟩

theorem Parser.Sound.steps (text : List Char) (h : parser.Sound allowed)
    (htext : ∀ c ∈ text, allowed c) : (text.foldl Parser.step parser).Sound allowed := by
  induction text generalizing parser with
  | nil => exact h
  | cons c rest ih =>
      rw [List.forall_mem_cons] at htext
      exact ih (h.step htext.1) htext.2

/-- What the parser accepts it can also print. -/
theorem representable_of_new {str : String} {parseId : Bool} {read : PluginOptions}
    (h : new (some str) parseId = .ok read) : Representable read := by
  have hplain := plain_of_new h
  have hclean : Parser.Sound (fun c => isISOControl c = false) (Parser.clean {} parseId) :=
    ⟨⟨by simp [Parser.clean], by simp [Parser.clean, LinkedMap.empty],
      by simp [Parser.clean, LinkedMap.empty]⟩, by simp [Parser.clean, LinkedMap.empty],
      by simp [Parser.clean], by simp [Parser.clean]⟩
  by_cases hne : str = ""
  · subst hne
    cases h
    exact ⟨hclean.plugin, hclean.named⟩
  · rw [new_of_plain hne hplain] at h
    cases h
    have hsteps := hclean.steps (str.toList ++ [';']) (by
      rw [List.forall_mem_append]
      exact ⟨hplain, by decide⟩)
    exact ⟨hsteps.plugin, hsteps.named⟩

end Reading

section RoundTrip

variable {plugin : PluginOptions} (order : HashOrder)

theorem iterate_named (h : Representable plugin) :
    ("", none) ∉ order.iterate plugin.options.entries :=
  fun hmem => h.named ((order.perm _).mem_iff.mp hmem)

/-- The map read back: the entries in the order in which they were written. -/
def reread (plugin : PluginOptions) : PluginOptions :=
  { id := plugin.id
    options := (order.iterate plugin.options.entries).foldl
      (fun m entry => m.put entry.1 entry.2) LinkedMap.empty }

theorem entries_reread :
    (reread order plugin).options.entries = order.iterate plugin.options.entries := by
  rw [reread, LinkedMap.entries_foldl_put]
  · rfl
  · have hkeys : ((order.iterate plugin.options.entries).map Prod.fst).Perm
        (plugin.options.entries.map Prod.fst) := (order.perm _).map _
    exact hkeys.nodup_iff.mpr plugin.options.nodupKeys

theorem Within.reread {allowed : Char → Prop} (h : Within allowed plugin) :
    Within allowed (reread order plugin) where
  id := h.id
  keys := by
    rw [entries_reread]
    exact fun entry hentry => h.keys entry ((order.perm _).mem_iff.mp hentry)
  values := by
    rw [entries_reread]
    exact fun entry hentry => h.values entry ((order.perm _).mem_iff.mp hentry)

theorem reread_equals : (reread order plugin).equals plugin = true := by
  have hperm : (reread order plugin).options.equals plugin.options = true := by
    rw [LinkedMap.equals_iff_perm, entries_reread]
    exact order.perm _
  rw [equals, hperm]
  simp [reread]

theorem new_toString (hid : plugin.id ≠ "") (h : Representable plugin) :
    new (some (plugin.toString order false)) true = .ok (reread order plugin) := by
  have hplain := (forall_toString order hid (by decide) (by decide) (by decide)).mpr h.toWithin
  have htext := toString_semicolon order hid
  have hne : plugin.toString order false ≠ "" := by
    intro heq
    have hlength := congrArg List.length htext
    have hpos := List.length_pos_iff.mpr (flatMap_escape_ne_nil hid)
    simp only [heq, String.toList_empty, List.nil_append, List.length_append, List.length_cons,
      List.length_nil] at hlength
    omega
  rw [new_of_plain hne hplain, htext, List.foldl_append, foldl_step_id hid,
    foldl_step_entries _ _ (iterate_named order h)]
  rfl

theorem ofId_toString (h : Representable plugin) :
    ofId plugin.id (some (plugin.toString order true)) = .ok (reread order plugin) := by
  have hlist : (plugin.toString order true).toList =
      (order.iterate plugin.options.entries).foldl appendEntry [] := by
    simp [toString]
  by_cases hnil : order.iterate plugin.options.entries = []
  · have heq : plugin.toString order true = "" := by
      rw [← String.toList_eq_nil_iff, hlist, hnil]
      rfl
    simp [ofId, new, heq, reread, hnil, Except.map]
  · have hfold := foldl_appendEntry_nil _ (iterate_named order h) hnil
    rw [← hlist] at hfold
    have hne : plugin.toString order true ≠ "" := by
      intro heq
      obtain ⟨entry, rest, hcons⟩ := List.exists_cons_of_ne_nil hnil
      have hentry : entryText entry ≠ [] := by
        apply entryText_ne_nil
        rintro rfl
        exact iterate_named order h (hcons ▸ List.mem_cons_self ..)
      have hpos := List.length_pos_iff.mpr hentry
      have hlength := congrArg List.length hfold
      simp only [heq, hcons, List.flatMap_cons, String.toList_empty, List.nil_append,
        List.length_append, List.length_cons, List.length_nil] at hlength
      omega
    have hplain : ∀ c ∈ (plugin.toString order true).toList, isISOControl c = false := by
      intro c hc
      have hmem := List.mem_append_left [';'] hc
      rw [hfold] at hmem
      apply (forall_entries order _ _ _).mpr _ c hmem
      · decide
      · decide
      · decide
      · intro entry hentry
        exact ⟨h.keys entry hentry, h.values entry hentry⟩
    rw [ofId, new_of_plain hne hplain, hfold]
    simp only [foldl_step_entries _ _ (iterate_named order h), Except.map]
    rfl

/-- Plugin options survive their string form, whatever the order in which the
hash map lists its entries. -/
theorem toString_survives (plugin : PluginOptions) (order : HashOrder) (hid : plugin.id ≠ "")
    (h : Representable plugin) :
    (∃ read, new (some (plugin.toString order false)) true = .ok read ∧
      read.equals plugin = true) ∧
    (∃ read, ofId plugin.id (some (plugin.toString order true)) = .ok read ∧
      read.equals plugin = true) :=
  ⟨⟨_, new_toString order hid h, reread_equals order⟩,
    ⟨_, ofId_toString order h, reread_equals order⟩⟩

/-- Options with every delimiter in the id, in a key and in a value, an empty
value and a key without one. -/
def delimiterOptions : PluginOptions where
  id := "a\\=;b"
  options := ((LinkedMap.empty.put "k=;\\" (some "v;=")).put "" (some "")).put "flag" none

theorem toString_survives_delimiters :
    delimiterOptions.id ≠ "" ∧ Representable delimiterOptions ∧
    (∃ read, new (some (delimiterOptions.toString .insertion false)) true = .ok read ∧
      read.equals delimiterOptions = true) ∧
    (∃ read, ofId delimiterOptions.id (some (delimiterOptions.toString .insertion true)) =
      .ok read ∧ read.equals delimiterOptions = true) := by
  have hid : delimiterOptions.id ≠ "" := by decide
  have h : Representable delimiterOptions := by
    refine ⟨⟨?_, ?_, ?_⟩, ?_⟩
    · decide
    · decide
    · decide +kernel
    · decide
  exact ⟨hid, h, toString_survives delimiterOptions .insertion hid h⟩

end RoundTrip

/-! How many characters of some kind there are. Reading never makes more of them,
so a text that has lost one of them is not read to the same options. -/

section Tally

variable (p : Char → Bool)

def entryChars (entry : String × Option String) : List Char :=
  entry.1.toList ++ (entry.2.getD "").toList

/-- The characters of this kind in the id, the keys and the values. -/
def tally (plugin : PluginOptions) : Nat :=
  plugin.id.toList.countP p + (plugin.options.entries.flatMap entryChars).countP p

theorem tally_of_equals {plugin other : PluginOptions} (h : plugin.equals other = true) :
    tally p plugin = tally p other := by
  simp only [equals, Bool.and_eq_true, decide_eq_true_eq] at h
  have hperm := (LinkedMap.equals_iff_perm _ _).mp h.1
  rw [tally, tally, h.2, (hperm.flatMap_right entryChars).countP_eq]

theorem tally_put (plugin : PluginOptions) (key : String) (value : Option String) :
    tally p { plugin with options := plugin.options.put key value } ≤
      tally p plugin + (entryChars (key, value)).countP p := by
  have hperm := (LinkedMap.entries_put_perm plugin.options key value).flatMap_right entryChars
  have hsublist : ((plugin.options.entries.filter (·.1 ≠ key)).flatMap entryChars).Sublist
      (plugin.options.entries.flatMap entryChars) := List.filter_sublist.flatMap _
  have hcount := hsublist.countP_le (p := p)
  simp only [tally]
  rw [hperm.countP_eq, List.flatMap_cons, List.countP_append]
  omega

/-- What the parser has taken in of these characters. -/
def Parser.tally (parser : Parser) : Nat :=
  PluginOptions.tally p parser.plugin + parser.current.countP p +
    (parser.key.getD "").toList.countP p

variable {p}

theorem Parser.countP_take (parser : Parser) :
    parser.take.toList.countP p = parser.current.countP p := by
  rw [Parser.take, String.toList_ofList, List.countP_reverse]

theorem Parser.tally_semicolon (parser : Parser) :
    parser.semicolon.tally p ≤ parser.tally p := by
  have htake := parser.countP_take (p := p)
  obtain ⟨plugin, parseId, current, key, escaped⟩ := parser
  cases key with
  | some key =>
      have hput := tally_put p plugin key (some (Parser.take ⟨plugin, parseId, current, some key, escaped⟩))
      simp only [entryChars, Option.getD_some, List.countP_append, htake] at hput
      simp only [Parser.semicolon, Parser.tally, List.countP_nil, Option.getD_some,
        Option.getD_none, String.toList_empty]
      omega
  | none =>
      simp only [Parser.semicolon, Parser.tally, List.countP_nil, Option.getD_none,
        String.toList_empty]
      split_ifs
      · omega
      · simp only [PluginOptions.tally, htake]
        omega
      · have hput := tally_put p plugin (Parser.take ⟨plugin, parseId, current, none, escaped⟩) none
        simp only [entryChars, Option.getD_none, List.countP_append, htake, String.toList_empty,
          List.countP_nil] at hput
        omega

theorem Parser.tally_step (parser : Parser) (c : Char) :
    (parser.step c).tally p ≤ parser.tally p + [c].countP p := by
  have hpush : (c :: parser.current).countP p = parser.current.countP p + [c].countP p := by
    rw [← List.singleton_append, List.countP_append, Nat.add_comm]
  have htake := parser.countP_take (p := p)
  have hsemicolon := parser.tally_semicolon (p := p)
  unfold Parser.step
  split_ifs with hescaped hslash hequals hend
  · simp only [Parser.tally, hpush]
    omega
  · simp only [Parser.tally]
    omega
  · simp only [Parser.tally, List.countP_nil, hequals.2, Option.getD_some, Option.getD_none,
      String.toList_empty, htake]
    omega
  · omega
  · simp only [Parser.tally, hpush]
    omega

theorem Parser.tally_steps (text : List Char) (parser : Parser) :
    (text.foldl Parser.step parser).tally p ≤ parser.tally p + text.countP p := by
  induction text generalizing parser with
  | nil => simp
  | cons c text ih =>
      have hstep := parser.tally_step (p := p) c
      have hrest := ih (parser.step c)
      have hcount : (c :: text).countP p = [c].countP p + text.countP p := by
        rw [← List.singleton_append, List.countP_append]
      rw [List.foldl_cons]
      omega

/-- What is read has no more of these characters than the text. -/
theorem tally_of_new (hsemicolon : p ';' = false) {str : String} {parseId : Bool}
    {read : PluginOptions} (h : new (some str) parseId = .ok read) :
    tally p read ≤ str.toList.countP p := by
  by_cases hne : str = ""
  · subst hne
    cases h
    simp [tally, LinkedMap.empty]
  · rw [new_of_plain hne (plain_of_new h)] at h
    cases h
    have hsteps := Parser.tally_steps (p := p) (str.toList ++ [';']) (Parser.clean {} parseId)
    simp only [Parser.tally, Parser.clean, tally, LinkedMap.empty, List.countP_append,
      String.toList_empty, List.flatMap_nil, List.countP_nil, Option.getD_none,
      List.countP_singleton, hsemicolon, Bool.false_eq_true, if_false] at hsteps ⊢
    omega

theorem countP_escape (hslash : p '\\' = false) (text : List Char) :
    (text.flatMap escape).countP p = text.countP p := by
  induction text with
  | nil => rfl
  | cons c text ih =>
      rw [List.flatMap_cons, List.countP_append, ih, escape]
      split
      · simp [List.countP_cons, hslash, Nat.add_comm]
      · simp [List.countP_cons, Nat.add_comm]

theorem countP_entryText (hslash : p '\\' = false) (hequals : p '=' = false)
    (entry : String × Option String) :
    (entryText entry).countP p = (entryChars entry).countP p := by
  obtain ⟨key, value⟩ := entry
  rw [entryText, entryChars, List.countP_append, List.countP_append, countP_escape hslash]
  cases value with
  | none => simp
  | some value => simp [hequals, countP_escape hslash]

/-- The string form has all of them. -/
theorem countP_toString (order : HashOrder) {plugin : PluginOptions} (hid : plugin.id ≠ "")
    (hslash : p '\\' = false) (hequals : p '=' = false) (hsemicolon : p ';' = false) :
    (plugin.toString order false).toList.countP p = tally p plugin := by
  have htext := congrArg (List.countP p) (toString_semicolon order hid)
  have hentries : ((order.iterate plugin.options.entries).flatMap
      fun entry => entryText entry ++ [';']).countP p =
        (plugin.options.entries.flatMap entryChars).countP p := by
    rw [← ((order.perm _).flatMap_right entryChars).countP_eq, List.countP_flatMap,
      List.countP_flatMap]
    congr 1
    apply List.map_congr_left
    intro entry _
    simp [countP_entryText hslash hequals, hsemicolon]
  simp only [List.countP_append, List.countP_singleton, hsemicolon, countP_escape hslash,
    hentries] at htext
  simpa [tally] using htext

end Tally

end WifiProject.Plugin.PluginOptions
