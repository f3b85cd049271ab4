import WifiProject.Database.UrlParsing

/-!
Sharing profiles as links and finding them again. A link can lose characters at
its end only, so what decides is the last character of the name or, for a
profile without a name, of the plugin string.
-/

namespace WifiProject.Database

open Lib Plugin PluginOptions Rfc2396

/-! What is cut. -/

/-- What is written as it is but may not end a link. -/
def isTrailing (c : Char) : Bool := isUnreserved c && !isLastUrlChar c

theorem isTrailing_iff (c : Char) : isTrailing c = true ↔ c = '_' ∨ c = '!' := by
  constructor
  · intro h
    have hmark : ∀ c ∈ marks, isTrailing c = true → c = '_' ∨ c = '!' := by decide +kernel
    rw [isTrailing, Bool.and_eq_true, Bool.not_eq_true'] at h
    obtain ⟨hplain, hlast⟩ := h
    have halphanum : c.isAlphanum = false := by
      simp only [isLastUrlChar, Bool.or_eq_false_iff] at hlast
      exact hlast.1
    simp only [isUnreserved, halphanum, Bool.false_or, decide_eq_true_eq] at hplain
    apply hmark c hplain
    simp [isTrailing, isUnreserved, hplain, hlast]
  · rintro (rfl | rfl)
    · decide +kernel
    · decide +kernel

/-- What a link keeps of the text at its end. -/
def keptText (text : List Char) : List Char := text.rdropWhile isTrailing

theorem keptText_eq_self_iff (text : List Char) :
    keptText text = text ↔ ∀ c ∈ text.getLast?, c ≠ '_' ∧ c ≠ '!' := by
  have hlast (c : Char) : ¬ isTrailing c = true ↔ c ≠ '_' ∧ c ≠ '!' := by
    rw [isTrailing_iff, not_or]
  rw [keptText, List.rdropWhile_eq_self_iff]
  simp only [hlast]
  constructor
  · intro h c hc
    obtain ⟨hne, rfl⟩ := List.mem_getLast?_eq_getLast hc
    exact h hne
  · intro h hne
    exact h _ (List.getLast?_eq_some_getLast hne)

theorem isLastUrlChar_hexDigit (n : Nat) : (!isLastUrlChar (hexDigit n)) = false := by
  have hall : ∀ c ∈ hexDigits, (!isLastUrlChar c) = false := by decide +kernel
  exact hall _ (hexDigit_mem n)

/-- A link that ends in an encoded text. -/
theorem cutShort_encode (before : List Char) {c : Char} (hc : isLastUrlChar c = true)
    (text : List Char) :
    cutShort (before ++ c :: encode text) = before ++ c :: encode (keptText text) := by
  have hkept : c :: encode (keptText text) = c :: (encode text).rdropWhile (fun c => !isLastUrlChar c) := by
    rw [rdropWhile_encode isLastUrlChar_hexDigit]
    rfl
  rw [hkept, cutShort]
  apply Text.rdropWhile_append_cons
  simp [hc]

/-- The plugin string of a link without a name and the name of any other link
are at its end. -/
theorem cutShort_bodyText (before : List Char) {digit : Char} (hdigit : digit.isDigit = true)
    (plugin name : Option (List Char)) :
    cutShort (bodyText (before ++ [digit]) plugin name) = bodyText (before ++ [digit])
      (if name.isSome then plugin else plugin.map keptText) (name.map keptText) := by
  cases name with
  | some name =>
      have hcut := cutShort_encode (before ++ [digit] ++ pluginPart plugin) (c := '#') (by decide) name
      simpa [bodyText, namePart] using hcut
  | none =>
      cases plugin with
      | some plugin =>
          have hcut := cutShort_encode (before ++ [digit] ++ '?' :: encode pluginKey) (c := '=')
            (by decide) plugin
          simpa [bodyText, namePart, pluginPart] using hcut
      | none =>
          have hlast : isLastUrlChar digit = true := by
            simp [isLastUrlChar, Char.isAlphanum, hdigit]
          simp only [bodyText, namePart, pluginPart, Option.map_none, Option.elim_none,
            List.append_nil, Option.isSome_none, Bool.false_eq_true, if_false, cutShort]
          exact List.rdropWhile_concat_neg _ _ _ (by simp [hlast])

/-! The links of some profiles. -/

section Links

variable {codecs : Codecs} {profile : Profile}

theorem isUrlChar_of_mem_encode {text : List Char} {c : Char} (h : c ∈ encode text) :
    isUrlChar c = true := by
  have hmark : ∀ c ∈ marks, isUrlChar c = true := by decide +kernel
  rcases mem_encode h with hplain | rfl
  · simp only [isUnreserved, Bool.or_eq_true, decide_eq_true_eq] at hplain
    rcases hplain with halphanum | hmem
    · simp [isUrlChar, halphanum]
    · exact hmark c hmem
  · decide

theorem isUrlChar_of_isHostChar {c : Char} (h : isHostChar c = true) : isUrlChar c = true := by
  have hmark : ∀ c ∈ "-.:[]".toList, isUrlChar c = true := by decide +kernel
  simp only [isHostChar, Bool.or_eq_true, decide_eq_true_eq] at h
  rcases h with halphanum | hmem
  · simp [isUrlChar, halphanum]
  · exact hmark c hmem

theorem isUrlChar_authorityText (hcodecs : codecs.Documented) (h : profile.Shared) :
    ∀ c ∈ profile.authorityText codecs, isUrlChar c = true := by
  obtain ⟨port, -, -, hauthority⟩ := authorityText_eq codecs h
  intro c hc
  rw [hauthority, List.mem_append, List.mem_cons, List.mem_append, List.mem_cons] at hc
  rcases hc with hinfo | rfl | hhost | rfl | hdigit
  · rw [← encode_of_unreserved (isUnreserved_userInfoText hcodecs profile)] at hinfo
    exact isUrlChar_of_mem_encode hinfo
  · decide
  · exact isUrlChar_of_isHostChar (isHostChar_of_mem_bracket h.host hhost)
  · decide
  · have hc := Decimal.toDigits_isDigit port c hdigit
    simp [isUrlChar, Char.isAlphanum, hc]

theorem isUrlChar_bodyText {authority : List Char} (h : ∀ c ∈ authority, isUrlChar c = true)
    (plugin name : Option (List Char)) :
    ∀ c ∈ bodyText authority plugin name, isUrlChar c = true := by
  have hplugin : ∀ c ∈ pluginPart plugin, isUrlChar c = true := by
    cases plugin with
    | none => simp [pluginPart]
    | some text =>
        intro c hc
        simp only [pluginPart, Option.elim_some, List.mem_cons, List.mem_append] at hc
        rcases hc with rfl | hc | rfl | hc
        · decide
        · exact isUrlChar_of_mem_encode hc
        · decide
        · exact isUrlChar_of_mem_encode hc
  have hname : ∀ c ∈ namePart name, isUrlChar c = true := by
    cases name with
    | none => simp [namePart]
    | some text =>
        intro c hc
        simp only [namePart, Option.elim_some, List.mem_cons] at hc
        rcases hc with rfl | hc
        · decide
        · exact isUrlChar_of_mem_encode hc
  rw [bodyText, List.forall_mem_append, List.forall_mem_append]
  exact ⟨h, hplugin, hname⟩

/-- An authority ends in a digit of the port. -/
theorem authorityText_eq_concat (codecs : Codecs) (h : profile.Shared) :
    ∃ before digit, Char.isDigit digit = true ∧ profile.authorityText codecs = before ++ [digit] := by
  obtain ⟨port, -, -, hauthority⟩ := authorityText_eq codecs h
  have hne : Nat.toDigits 10 port ≠ [] := Nat.toDigits_ne_nil
  obtain ⟨before, digit, hdigits⟩ := (List.eq_nil_or_concat' _).resolve_left hne
  refine ⟨profile.userInfoText codecs ++ '@' :: (bracket profile.host.toList ++ ':' :: before),
    digit, Decimal.toDigits_isDigit port digit (by simp [hdigits]), ?_⟩
  simp [hauthority, hdigits]

end Links

section FromLink

variable (codecs : Codecs) (order : HashOrder) (defaultConfig : String → Option String)
  (feature : Option Profile)

def Profile.nameText (profile : Profile) : Option (List Char) :=
  if isNullOrEmpty profile.name then none else some (profile.name.getD "").toList

def optionsText (plugin : PluginOptions) : Option (List Char) :=
  if plugin.id.isEmpty then none else some (plugin.toString order false).toList

/-- The selected options of a profile whose plugin string is accepted. -/
def Profile.sharedOptions (profile : Profile) : PluginOptions :=
  match profile.selectedOptions defaultConfig with
  | .ok plugin => plugin
  | .error _ => {}

/-- What is left of the plugin string in a link. -/
def Profile.keptPlugin (profile : Profile) : Option (List Char) :=
  if profile.nameText.isSome then optionsText order (profile.sharedOptions defaultConfig)
  else (optionsText order (profile.sharedOptions defaultConfig)).map keptText

/-- The profile that comes back. -/
def Profile.fromLink (profile : Profile) : Profile :=
  { newProfile feature with
    method := profile.method
    password := profile.password
    host := profile.host
    remotePort := profile.remotePort
    plugin := (profile.keptPlugin order defaultConfig).map String.ofList
    name := some (((profile.nameText.map keptText).map String.ofList).getD "") }

def Profile.bodyText (profile : Profile) : List Char :=
  Database.bodyText (profile.authorityText codecs)
    (optionsText order (profile.sharedOptions defaultConfig)) profile.nameText

variable {codecs order defaultConfig feature} {profile : Profile}

theorem fragmentText_eq : profile.fragmentText = namePart profile.nameText := by
  unfold Profile.fragmentText Profile.nameText
  split <;> rfl

/-- A shared profile either has no plugin selected or options to write. -/
theorem shared_cases (defaultConfig : String → Option String) (h : profile.Shared) :
    ∃ configuration plugin, PluginConfiguration.new (profile.plugin.getD "") = .ok configuration ∧
      configuration.getOptions defaultConfig configuration.selected = .ok plugin ∧
      profile.sharedOptions defaultConfig = plugin ∧
      (configuration.selected.isEmpty = true ∧ plugin = {} ∨
        configuration.selected.isEmpty = false ∧ Selected plugin) := by
  obtain ⟨configuration, hnew⟩ := h.plugin
  have hshared {plugin : PluginOptions}
      (hplugin : configuration.getOptions defaultConfig configuration.selected = .ok plugin) :
      profile.sharedOptions defaultConfig = plugin := by
    simp [Profile.sharedOptions, Profile.selectedOptions, hnew, Except.bind, hplugin]
  cases hselected : configuration.selected.isEmpty with
  | true =>
      have hnone : configuration.getOptions defaultConfig configuration.selected = .ok {} := by
        simp [PluginConfiguration.getOptions, hselected]
      exact ⟨configuration, {}, hnew, hnone, hshared hnone, Or.inl ⟨hselected, rfl⟩⟩
  | false =>
      obtain ⟨plugin, hplugin, hgood⟩ := getOptions_selected defaultConfig hnew hselected
      exact ⟨configuration, plugin, hnew, hplugin, hshared hplugin, Or.inr ⟨hselected, hgood⟩⟩

theorem selectedOptions_shared (h : profile.Shared) :
    profile.selectedOptions defaultConfig = .ok (profile.sharedOptions defaultConfig) := by
  obtain ⟨configuration, plugin, hnew, hplugin, rfl, -⟩ := shared_cases defaultConfig h
  simp only [Profile.selectedOptions, hnew, Except.bind, hplugin]

/-- The link of a shared profile. -/
theorem toUri_eq (h : profile.Shared) :
    profile.toUri codecs order defaultConfig =
      .ok (linkHead ++ profile.bodyText codecs order defaultConfig) := by
  obtain ⟨configuration, plugin, hnew, hplugin, hshared, hcases⟩ := shared_cases defaultConfig h
  simp only [Profile.toUri, Profile.bodyText, Database.bodyText, hnew, Except.bind, fragmentText_eq,
    hshared, hplugin, Except.map]
  rcases hcases with ⟨hselected, rfl⟩ | ⟨hselected, hgood⟩
  · simp [hselected, optionsText, pluginPart]
  · have hid : plugin.id.isEmpty = false := by
      simpa using hgood.id
    simp [hselected, optionsText, hid, pluginPart, parameterText]

theorem shareText_eq {profiles : List Profile} (h : ∀ profile ∈ profiles, profile.Shared) :
    shareText codecs order defaultConfig profiles = .ok (String.ofList (['\n'].intercalate
      ((profiles.map (Profile.bodyText codecs order defaultConfig)).map (linkHead ++ ·)))) := by
  have hlinks : profiles.mapM (Profile.toUri codecs order defaultConfig) =
      .ok ((profiles.map (Profile.bodyText codecs order defaultConfig)).map (linkHead ++ ·)) := by
    induction profiles with
    | nil => rfl
    | cons profile profiles ih =>
        rw [List.forall_mem_cons] at h
        rw [List.mapM_cons, toUri_eq h.1, ih h.2]
        rfl
  rw [shareText, hlinks]
  rfl

theorem cutShort_shared (h : profile.Shared) :
    cutShort (profile.bodyText codecs order defaultConfig) =
      Database.bodyText (profile.authorityText codecs) (profile.keptPlugin order defaultConfig)
        (profile.nameText.map keptText) := by
  obtain ⟨before, digit, hdigit, hauthority⟩ := authorityText_eq_concat codecs h
  rw [Profile.bodyText, hauthority, cutShort_bodyText before hdigit]
  rfl

/-- What is found in the text of shared profiles. -/
theorem findAllUrls_shared (hcodecs : codecs.Documented) (feature : Option Profile)
    {profiles : List Profile} (h : ∀ profile ∈ profiles, profile.Shared) :
    findAllUrls codecs feature (String.ofList (['\n'].intercalate
      ((profiles.map (Profile.bodyText codecs order defaultConfig)).map (linkHead ++ ·)))) =
        profiles.map (Profile.fromLink order defaultConfig feature) := by
  have hbodies : ∀ body ∈ profiles.map (Profile.bodyText codecs order defaultConfig),
      (∀ c ∈ body, isUrlChar c = true) ∧ cutShort body ≠ [] := by
    intro body hbody
    obtain ⟨profile, hprofile, rfl⟩ := List.mem_map.mp hbody
    have hshared := h profile hprofile
    refine ⟨isUrlChar_bodyText (isUrlChar_authorityText hcodecs hshared) _ _, ?_⟩
    rw [cutShort_shared hshared]
    simp [Database.bodyText, Profile.authorityText]
  have hparse : ∀ profile ∈ profiles,
      parseUrl codecs feature (linkHead ++ cutShort (profile.bodyText codecs order defaultConfig)) =
        some (profile.fromLink order defaultConfig feature) := by
    intro profile hprofile
    rw [cutShort_shared (h profile hprofile), parseUrl_link hcodecs (h profile hprofile)]
    rfl
  rw [findAllUrls, String.toList_ofList, findAll_lines hbodies, List.map_map, List.filterMap_map,
    ← List.filterMap_eq_map']
  apply List.filterMap_congr
  intro profile hprofile
  rw [Function.comp_apply, Function.comp_apply, hparse profile hprofile]

end FromLink

/-! Which profiles come back. -/

/-- A profile and what came back of it. -/
structure SameProfile (defaultConfig : String → Option String) (profile read : Profile) : Prop where
  method : read.method = profile.method
  password : read.password = profile.password
  host : read.host = profile.host
  remotePort : read.remotePort = profile.remotePort
  name : read.name.getD "" = profile.name.getD ""
  plugin : ∃ options back, profile.selectedOptions defaultConfig = .ok options ∧
    PluginOptions.new read.plugin true = .ok back ∧ back.equals options = true

section Decide

variable (order : HashOrder) (defaultConfig : String → Option String)

/-- The text at the end of a link. -/
def Profile.endText (profile : Profile) : List Char :=
  profile.nameText.getD ((profile.sharedOptions defaultConfig).toString order false).toList

/-- What a link carries: options without control characters, and at its end
neither an underscore nor an exclamation mark. -/
structure Profile.Linkable (profile : Profile) : Prop where
  plain : Within (fun c => isISOControl c = false) (profile.sharedOptions defaultConfig)
  last : ∀ c ∈ (profile.endText order defaultConfig).getLast?, c ≠ '_' ∧ c ≠ '!'

variable {order defaultConfig} {profile : Profile} {plugin : PluginOptions}

/-- The whole string of some options is read to them. -/
theorem new_whole_iff (hgood : Selected plugin) :
    (∃ back, new (some (plugin.toString order false)) true = .ok back ∧
      back.equals plugin = true) ↔ Within (fun c => isISOControl c = false) plugin := by
  constructor
  · rintro ⟨back, hnew, -⟩
    exact (forall_toString order hgood.id (by decide) (by decide) (by decide)).mp (plain_of_new hnew)
  · intro hplain
    exact ⟨_, new_toString order hgood.id ⟨hplain, hgood.named⟩, reread_equals order⟩

/-- The string of some options is not read to them once it has been cut. -/
theorem kept_of_new (hgood : Selected plugin) {back : PluginOptions}
    (hnew : new (some (String.ofList (keptText (plugin.toString order false).toList))) true = .ok back)
    (hequals : back.equals plugin = true) :
    keptText (plugin.toString order false).toList = (plugin.toString order false).toList := by
  have hread := tally_of_new (p := isTrailing) (by decide) hnew
  have hsame := tally_of_equals isTrailing hequals
  have hwhole := countP_toString (p := isTrailing) order hgood.id (by decide) (by decide) (by decide)
  rw [String.toList_ofList] at hread
  generalize (plugin.toString order false).toList = text at *
  -- every character that has been dropped counts
  let dropped := text.rtakeWhile isTrailing
  have hsplit : keptText text ++ dropped = text := List.rdropWhile_append_rtakeWhile
  have hdropped : dropped.countP isTrailing = dropped.length :=
    List.countP_eq_length.mpr fun c hc => List.mem_rtakeWhile_imp hc
  have hcount := congrArg (List.countP isTrailing) hsplit
  rw [List.countP_append, hdropped] at hcount
  have hnil : dropped = [] := List.eq_nil_of_length_eq_zero (by omega)
  rwa [hnil, List.append_nil] at hsplit

theorem new_kept_iff (hgood : Selected plugin) :
    (∃ back, new (some (String.ofList (keptText (plugin.toString order false).toList))) true = .ok back ∧
      back.equals plugin = true) ↔
      Within (fun c => isISOControl c = false) plugin ∧
        keptText (plugin.toString order false).toList = (plugin.toString order false).toList := by
  constructor
  · rintro ⟨back, hnew, hequals⟩
    have hkept := kept_of_new hgood hnew hequals
    rw [hkept, String.ofList_toList] at hnew
    exact ⟨(new_whole_iff hgood).mp ⟨back, hnew, hequals⟩, hkept⟩
  · rintro ⟨hplain, hkept⟩
    rw [hkept, String.ofList_toList]
    exact (new_whole_iff hgood).mpr hplain

theorem ofList_keptText_iff (text : String) :
    String.ofList (keptText text.toList) = text ↔ keptText text.toList = text.toList := by
  constructor
  · intro h
    have hlist := congrArg String.toList h
    rwa [String.toList_ofList] at hlist
  · intro h
    rw [h, String.ofList_toList]

theorem fromLink_name_iff (order : HashOrder) (defaultConfig : String → Option String)
    (feature : Option Profile) :
    (profile.fromLink order defaultConfig feature).name.getD "" = profile.name.getD "" ↔
      ∀ text ∈ profile.nameText, keptText text = text := by
  unfold Profile.fromLink Profile.nameText
  split
  · rename_i hempty
    cases hname : profile.name with
    | none => simp
    | some name =>
        have hnil : name = "" := by simpa [isNullOrEmpty, hname] using hempty
        simp [hnil]
  · simpa using ofList_keptText_iff (profile.name.getD "")

theorem fromLink_plugin_iff (feature : Option Profile) (h : profile.Shared) :
    (∃ back, new (profile.fromLink order defaultConfig feature).plugin true = .ok back ∧
        back.equals (profile.sharedOptions defaultConfig) = true) ↔
      Within (fun c => isISOControl c = false) (profile.sharedOptions defaultConfig) ∧
        (profile.nameText = none →
          keptText ((profile.sharedOptions defaultConfig).toString order false).toList =
            ((profile.sharedOptions defaultConfig).toString order false).toList) := by
  obtain ⟨configuration, plugin, -, -, hshared, hcases⟩ := shared_cases defaultConfig h
  simp only [Profile.fromLink, Profile.keptPlugin, hshared]
  rcases hcases with ⟨-, rfl⟩ | ⟨-, hgood⟩
  · have hread : (∃ back, new none true = .ok back ∧ back.equals {} = true) ↔ True :=
      ⟨fun _ => trivial, fun _ => ⟨{}, rfl, by decide⟩⟩
    have hwithin : Within (fun c => isISOControl c = false) {} :=
      ⟨by simp, by simp [LinkedMap.empty], by simp [LinkedMap.empty]⟩
    have hkept : keptText (PluginOptions.toString order false {}).toList =
        (PluginOptions.toString order false {}).toList := rfl
    simp [optionsText, hread, hwithin, hkept]
  · have hid : plugin.id.isEmpty = false := by
      simpa using hgood.id
    cases hname : profile.nameText with
    | some name => simpa [optionsText, hid] using new_whole_iff hgood
    | none => simpa [optionsText, hid] using new_kept_iff hgood

theorem linkable_iff : profile.Linkable order defaultConfig ↔
    Within (fun c => isISOControl c = false) (profile.sharedOptions defaultConfig) ∧
      keptText (profile.endText order defaultConfig) = profile.endText order defaultConfig := by
  rw [keptText_eq_self_iff]
  exact ⟨fun h => ⟨h.plain, h.last⟩, fun h => ⟨h.1, h.2⟩⟩

/-- A shared profile comes back if a link can carry it. -/
theorem sameProfile_iff (feature : Option Profile) (h : profile.Shared) :
    SameProfile defaultConfig profile (profile.fromLink order defaultConfig feature) ↔
      profile.Linkable order defaultConfig := by
  have hoptions : profile.selectedOptions defaultConfig = .ok (profile.sharedOptions defaultConfig) :=
    selectedOptions_shared h
  have hparts : SameProfile defaultConfig profile (profile.fromLink order defaultConfig feature) ↔
      (∀ text ∈ profile.nameText, keptText text = text) ∧
        ∃ back, new (profile.fromLink order defaultConfig feature).plugin true = .ok back ∧
          back.equals (profile.sharedOptions defaultConfig) = true := by
    rw [← fromLink_name_iff order defaultConfig feature]
    constructor
    · intro hsame
      obtain ⟨options, back, hselected, hback⟩ := hsame.plugin
      rw [hoptions] at hselected
      cases hselected
      exact ⟨hsame.name, back, hback⟩
    · rintro ⟨hname, back, hback⟩
      exact ⟨rfl, rfl, rfl, rfl, hname, _, back, hoptions, hback⟩
  rw [hparts, fromLink_plugin_iff feature h, linkable_iff, Profile.endText]
  cases profile.nameText with
  | none => simp
  | some name => simp [and_comm]

/-- Sharing and finding links are inverse if and only if links can carry all of
the profiles. -/
theorem shared_iff_linkable (codecs : Codecs) (hcodecs : codecs.Documented) (order : HashOrder)
    (defaultConfig : String → Option String) (feature : Option Profile) (profiles : List Profile)
    (hshared : ∀ profile ∈ profiles, profile.Shared) :
    (∃ text, shareText codecs order defaultConfig profiles = .ok text ∧
        List.Forall₂ (SameProfile defaultConfig) profiles (findAllUrls codecs feature text)) ↔
      ∀ profile ∈ profiles, profile.Linkable order defaultConfig := by
  have hsame : List.Forall₂ (SameProfile defaultConfig) profiles
      (profiles.map (Profile.fromLink order defaultConfig feature)) ↔
        ∀ profile ∈ profiles, profile.Linkable order defaultConfig := by
    rw [List.forall₂_map_right_iff, List.forall₂_same]
    apply forall₂_congr
    intro profile hprofile
    exact sameProfile_iff feature (hshared profile hprofile)
  rw [← hsame, shareText_eq hshared]
  constructor
  · rintro ⟨text, htext, hfound⟩
    cases htext
    rwa [findAllUrls_shared hcodecs feature hshared] at hfound
  · intro hfound
    refine ⟨_, rfl, ?_⟩
    rwa [findAllUrls_shared hcodecs feature hshared]

end Decide

/-! The codecs of the platform on well-formed text. -/

def urlSafe (c : Char) : Char := if c = '+' then '-' else if c = '/' then '_' else c

def referenceCodecs : Codecs where
  decode convertPlus text := Rfc2396.decode convertPlus text.toList
  encodeBase64 text := String.ofList (Base64.encode (bytesOf text))
  decodeBase64 text := (Base64.decode text.toList).bind ofBytes
  decodeLegacy text := (Base64.decode (text.toList.map urlSafe)).bind ofBytes
  lowercase text := text.toLower

theorem documented_referenceCodecs : referenceCodecs.Documented := by
  constructor
  · intro convertPlus text
    simp only [referenceCodecs, String.toList_ofList, Rfc2396.decode_encode]
  · intro text
    simp only [referenceCodecs, String.toList_ofList, Base64.decode_encode, Option.bind_some,
      ofBytes_bytesOf]
  · intro text c hc
    simp only [referenceCodecs, String.toList_ofList] at hc
    exact Base64.mem_encode hc

theorem exists_ok_of_isOk {ε α : Type} {result : Except ε α} (h : result.isOk = true) :
    ∃ value, result = .ok value := by
  cases result with
  | error failure => cases h
  | ok value => exact ⟨value, rfl⟩

/-- Profiles with an IPv6 server, a plugin and a name that is escaped, and with
neither of them. -/
def sharedPair : List Profile :=
  [{ host := "::1", remotePort := 443, password := "b:c@d", plugin := some "v2ray;host=c\nkcptun",
     name := some "_ü !?" },
   { host := "example.org", method := "none", password := "", name := none }]

theorem shared_iff_linkable_pair :
    referenceCodecs.Documented ∧ (∀ profile ∈ sharedPair, profile.Shared) ∧
      ((∃ text, shareText referenceCodecs .insertion (fun _ => none) sharedPair = .ok text ∧
        List.Forall₂ (SameProfile fun _ => none) sharedPair (findAllUrls referenceCodecs none text)) ↔
        ∀ profile ∈ sharedPair, profile.Linkable .insertion fun _ => none) := by
  have hshared : ∀ profile ∈ sharedPair, profile.Shared := by
    intro profile hmem
    simp only [sharedPair, List.mem_cons, List.not_mem_nil, or_false] at hmem
    rcases hmem with rfl | rfl
    · exact ⟨by decide +kernel, by decide +kernel, by decide +kernel, by decide,
        exists_ok_of_isOk (by decide +kernel)⟩
    · exact ⟨by decide +kernel, by decide +kernel, by decide +kernel, by decide,
        exists_ok_of_isOk (by decide +kernel)⟩
  exact ⟨documented_referenceCodecs, hshared, shared_iff_linkable referenceCodecs
    documented_referenceCodecs .insertion (fun _ => none) none sharedPair hshared⟩

/-- A name that ends in an underscore. -/
def underscored : Profile := { host := "a", name := some "server_" }

theorem shared_fails_underscore :
    referenceCodecs.Documented ∧ (∀ profile ∈ [underscored], profile.Shared) ∧
      ¬ ∃ text, shareText referenceCodecs .insertion (fun _ => none) [underscored] = .ok text ∧
        List.Forall₂ (SameProfile fun _ => none) [underscored]
          (findAllUrls referenceCodecs none text) := by
  have hshared : ∀ profile ∈ [underscored], profile.Shared := by
    intro profile hmem
    rw [List.mem_singleton.mp hmem]
    exact ⟨by decide +kernel, by decide +kernel, by decide +kernel, by decide,
      exists_ok_of_isOk (by decide +kernel)⟩
  refine ⟨documented_referenceCodecs, hshared, ?_⟩
  rintro ⟨text, htext, hfound⟩
  rw [shareText_eq hshared] at htext
  cases htext
  rw [findAllUrls_shared documented_referenceCodecs none hshared] at hfound
  have hname := (List.forall₂_cons.mp hfound).1.name
  exact absurd hname (by decide +kernel)

end WifiProject.Database
