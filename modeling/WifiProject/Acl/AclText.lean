import WifiProject.Acl.Acl

/-!
Printing and parsing rules. Every entry that the parser has taken is on a line
that it takes for the same entry again, and the printed sections put each entry
back into its own list.
-/

namespace WifiProject.Acl

open Lib Net

variable {Url : Type}

/-- What the rules rely on of addresses and URLs. -/
structure Platform.Documented (platform : Platform Url) : Prop where
  parse_hostAddress : ∀ {text address}, platform.parseNumericAddress text = some address →
    platform.parseNumericAddress (platform.hostAddress address) = some address
  hostAddress_ne_empty : ∀ {text address}, platform.parseNumericAddress text = some address →
    platform.hostAddress address ≠ ""
  hostAddress_chars : ∀ {text address}, platform.parseNumericAddress text = some address →
    ∀ c ∈ (platform.hostAddress address).toList,
      c ≠ '/' ∧ c ≠ '#' ∧ c ≠ '[' ∧ Text.isWhitespace c = false
  parse_url : ∀ {text url}, platform.parseUrl text = .ok url →
    platform.parseUrl (platform.urlToString url) = .ok url
  url_ne_empty : ∀ {text url}, platform.parseUrl text = .ok url → platform.urlToString url ≠ ""
  /-- No part of a URL has a line terminator that its text does not have. -/
  url_chars : ∀ {text url}, platform.parseUrl text = .ok url →
    (∀ c ∈ text.toList, Text.isLineTerminator c = false) →
    ∀ c ∈ (platform.urlToString url).toList, Text.isLineTerminator c = false
  sameUrl_symm : ∀ url url', platform.sameUrl url url' → platform.sameUrl url' url

/-- The same mode and the same sets. -/
structure SameRules (platform : Platform Url) (acl acl' : Acl Url) : Prop where
  bypass : acl.bypass = acl'.bypass
  bypassHostnames : ∀ hostname, hostname ∈ platform.hostnames.items acl.bypassHostnames ↔
    hostname ∈ platform.hostnames.items acl'.bypassHostnames
  proxyHostnames : ∀ hostname, hostname ∈ platform.hostnames.items acl.proxyHostnames ↔
    hostname ∈ platform.hostnames.items acl'.proxyHostnames
  subnets : ∀ subnet, subnet ∈ platform.subnets.items acl.subnets ↔
    subnet ∈ platform.subnets.items acl'.subnets
  urls : ∀ url, url ∈ platform.urls.items acl.urls ↔ url ∈ platform.urls.items acl'.urls

section Entries

variable (platform : Platform Url)

/-- A line the parser takes for one entry: no comment, no bracket, no space
around it. -/
structure EntryLine (line : List Char) : Prop where
  oneLine : Text.OneLine line
  comment : '#' ∉ line
  trimmed : Text.trim line = line
  bracket : line.head? ≠ some '['
  nonempty : line ≠ []

/-- What the parser has taken so far. -/
structure Parse.Taken (state : Parse Url) : Prop where
  hostnames : ∀ hostname, hostname ∈ state.bypassHostnames ∨ hostname ∈ state.proxyHostnames →
    EntryLine hostname.toList ∧
      Subnet.fromString platform.parseNumericAddress hostname.toList = none
  subnets : ∀ subnet, subnet ∈ state.bypassSubnets ∨ subnet ∈ state.proxySubnets →
    ∃ text, platform.parseNumericAddress text = some subnet.address
  urls : ∀ url ∈ state.urls, ∃ text, platform.parseUrl text = .ok url ∧
    ∀ c ∈ text.toList, Text.isLineTerminator c = false

variable {platform} {state state' : Parse Url}

theorem Parse.Taken.add (h : state.Taken platform) (side : Side) {hostnames : List String}
    {subnets : List Subnet}
    (hhostnames : ∀ hostname ∈ hostnames, EntryLine hostname.toList ∧
      Subnet.fromString platform.parseNumericAddress hostname.toList = none)
    (hsubnets : ∀ subnet ∈ subnets,
      ∃ text, platform.parseNumericAddress text = some subnet.address) :
    (state.add side hostnames subnets).Taken platform := by
  cases side with
  | bypass =>
      refine ⟨?_, ?_, h.urls⟩
      · intro hostname hmem
        simp only [Parse.add, List.mem_append, or_assoc] at hmem
        rcases hmem with hmem | hmem | hmem
        · exact h.hostnames hostname (Or.inl hmem)
        · exact hhostnames hostname hmem
        · exact h.hostnames hostname (Or.inr hmem)
      · intro subnet hmem
        simp only [Parse.add, List.mem_append, or_assoc] at hmem
        rcases hmem with hmem | hmem | hmem
        · exact h.subnets subnet (Or.inl hmem)
        · exact hsubnets subnet hmem
        · exact h.subnets subnet (Or.inr hmem)
  | proxy =>
      refine ⟨?_, ?_, h.urls⟩
      · intro hostname hmem
        simp only [Parse.add, List.mem_append] at hmem
        rcases hmem with hmem | hmem | hmem
        · exact h.hostnames hostname (Or.inl hmem)
        · exact h.hostnames hostname (Or.inr hmem)
        · exact hhostnames hostname hmem
      · intro subnet hmem
        simp only [Parse.add, List.mem_append] at hmem
        rcases hmem with hmem | hmem | hmem
        · exact h.subnets subnet (Or.inl hmem)
        · exact h.subnets subnet (Or.inr hmem)
        · exact hsubnets subnet hmem

theorem Parse.Taken.entry (h : state.Taken platform) {input : List Char}
    (hinput : EntryLine input) : (state.entry platform input).Taken platform := by
  unfold Parse.entry
  split
  · exact h
  · split
    · rename_i hnone
      apply h.add _
      · rw [List.forall_mem_singleton, String.toList_ofList]
        exact ⟨hinput, hnone⟩
      · simp
    · rename_i subnet hsubnet
      apply h.add _
      · simp
      · rw [List.forall_mem_singleton]
        exact Subnet.address_of_fromString hsubnet

theorem Parse.Taken.block (h : state.Taken platform) {input : String}
    (hblock : state.block input = .ok state') : state'.Taken platform := by
  unfold Parse.block at hblock
  split_ifs at hblock <;> cases hblock <;> exact ⟨h.hostnames, h.subnets, h.urls⟩

theorem not_isLineTerminator_of_networkAclParser {text group : List Char}
    (h : networkAclParser text = some group) : ∀ c ∈ group, Text.isLineTerminator c = false := by
  unfold networkAclParser at h
  split at h
  · split at h
    · split at h
      · split_ifs at h with hgroup
        cases h
        intro c hc
        rw [List.mem_reverse] at hc
        rw [not_or] at hgroup
        simpa using List.any_eq_false.mp (Bool.eq_false_iff.mpr hgroup.2) c hc
      · cases h
    · cases h
  · cases h

theorem Parse.Taken.comment (h : state.Taken platform) {text : List Char}
    (hcomment : state.comment platform text = .ok state') : state'.Taken platform := by
  unfold Parse.comment at hcomment
  split at hcomment
  · cases hcomment
    exact h
  · rename_i group hgroup
    split at hcomment
    · cases hcomment
    · rename_i url hurl
      cases hcomment
      refine ⟨h.hostnames, h.subnets, ?_⟩
      rw [List.forall_mem_append, List.forall_mem_singleton]
      refine ⟨h.urls, _, hurl, ?_⟩
      rw [String.toList_ofList]
      exact not_isLineTerminator_of_networkAclParser hgroup

theorem Parse.Taken.line (h : state.Taken platform) {line : List Char} (hline : Text.OneLine line)
    (hnext : state.line platform line = .ok state') : state'.Taken platform := by
  unfold Parse.line at hnext
  cases hcomment : state.comment platform ((Text.cut '#' line).2.getD []) with
  | error failure => simp [hcomment, Except.bind] at hnext
  | ok commented =>
      rw [hcomment] at hnext
      have htaken := h.comment hcomment
      simp only [Except.bind, Parse.input] at hnext
      split_ifs at hnext with hbracket hempty
      · exact htaken.block hnext
      · cases hnext
        exact htaken
      · cases hnext
        apply htaken.entry
        refine ⟨?_, ?_, Text.trim_trim _, hbracket, hempty⟩
        · intro c hc
          exact hline c (Text.mem_of_mem_cut (Text.mem_of_mem_trim hc))
        · intro hc
          exact Text.not_mem_cut line (Text.mem_of_mem_trim hc)

theorem Parse.Taken.lines (lines : List (List Char)) (h : state.Taken platform)
    (hlines : ∀ line ∈ lines, Text.OneLine line)
    (hnext : Parse.lines platform lines state = .ok state') : state'.Taken platform := by
  induction lines generalizing state with
  | nil =>
      cases hnext
      exact h
  | cons line rest ih =>
      rw [List.forall_mem_cons] at hlines
      rw [Parse.lines] at hnext
      cases hline : state.line platform line with
      | error failure => simp [hline, Except.bind] at hnext
      | ok next =>
          rw [hline] at hnext
          exact ih (h.line hlines.1 hline) hlines.2 hnext

theorem Parse.taken_of_parse {text : String} {defaultBypass : Bool}
    (h : parse platform text defaultBypass = .ok state) : state.Taken platform := by
  have hstart : (Parse.start defaultBypass : Parse Url).Taken platform := by
    refine ⟨?_, ?_, ?_⟩
    · simp [Parse.start]
    · simp [Parse.start]
    · simp [Parse.start]
  exact hstart.lines _ (fun line hline => Text.oneLine_of_mem_readLines hline) h

end Entries

section Printing

variable (platform : Platform Url)

/-- The lines of a section. -/
def sectionLines (header : List Char) (entries : List (List Char)) : List (List Char) :=
  if entries = [] then [] else header :: entries

def printedLines (acl : Acl Url) : List (List Char) :=
  (if acl.bypass then "[bypass_all]" else "[proxy_all]").toList ::
    (sectionLines (Side.header .bypass).toList (bypassList platform acl) ++
      sectionLines (Side.header .proxy).toList (proxyList platform acl) ++
      (platform.urls.items acl.urls).map (importLine platform))

theorem intercalate_newline {entries : List (List Char)} (h : entries ≠ []) :
    ['\n'].intercalate entries ++ ['\n'] = entries.flatMap fun line => line ++ ['\n'] := by
  induction entries with
  | nil => exact absurd rfl h
  | cons line rest ih =>
      cases rest with
      | nil => simp
      | cons next rest =>
          rw [List.intercalate_cons_cons, List.append_assoc, ih (by simp)]
          simp

theorem appendList_eq (header : String) (entries : List (List Char)) :
    appendList header entries =
      (sectionLines header.toList entries).flatMap fun line => line ++ ['\n'] := by
  unfold appendList sectionLines
  split_ifs with hnil
  · rfl
  · rw [List.append_assoc, List.cons_append, intercalate_newline hnil, List.flatMap_cons,
      List.append_assoc, List.singleton_append]

theorem toString_toList (acl : Acl Url) :
    (toString platform acl).toList =
      (printedLines platform acl).flatMap fun line => line ++ ['\n'] := by
  rw [toString, String.toList_ofList, printedLines, List.flatMap_cons, List.flatMap_append,
    List.flatMap_append, ← appendList_eq, ← appendList_eq, List.flatMap_map, List.append_assoc,
    List.append_assoc, List.singleton_append]

end Printing

section Reading

variable {platform : Platform Url} {state : Parse Url}

theorem Parse.lines_append (before after : List (List Char)) (state : Parse Url) :
    Parse.lines platform (before ++ after) state =
      (Parse.lines platform before state).bind (Parse.lines platform after) := by
  induction before generalizing state with
  | nil => rfl
  | cons line rest ih =>
      rw [List.cons_append, Parse.lines, Parse.lines]
      cases state.line platform line with
      | error failure => rfl
      | ok next => exact ih next

/-- A line without a comment. -/
theorem Parse.line_of_no_comment {line : List Char} (hcomment : '#' ∉ line)
    (htrim : Text.trim line = line) : state.line platform line = state.input platform line := by
  have hnone : networkAclParser [] = none := by decide
  rw [Parse.line, Text.cut_of_not_mem hcomment]
  simp [Parse.comment, hnone, Except.bind, htrim]

theorem Parse.line_entry {line : List Char} (h : EntryLine line) :
    state.line platform line = .ok (state.entry platform line) := by
  rw [Parse.line_of_no_comment h.comment h.trimmed, Parse.input, if_neg h.bracket,
    if_neg h.nonempty]

@[simp] theorem Parse.add_side (side : Side) (hostnames : List String) (subnets : List Subnet) :
    (state.add side hostnames subnets).side = state.side := by
  cases side <;> rfl

theorem Parse.add_add (side : Side) (hostnames hostnames' : List String)
    (subnets subnets' : List Subnet) :
    (state.add side hostnames subnets).add side hostnames' subnets' =
      state.add side (hostnames ++ hostnames') (subnets ++ subnets') := by
  cases side <;> simp [Parse.add]

theorem Parse.lines_hostnames {side : Side} (hside : state.side = some side)
    (hostnames : List String)
    (h : ∀ hostname ∈ hostnames, EntryLine hostname.toList ∧
      Subnet.fromString platform.parseNumericAddress hostname.toList = none) :
    Parse.lines platform (hostnames.map String.toList) state =
      .ok (state.add side hostnames []) := by
  induction hostnames generalizing state with
  | nil => cases side <;> simp [Parse.lines, Parse.add]
  | cons hostname rest ih =>
      rw [List.forall_mem_cons] at h
      have hentry : state.entry platform hostname.toList = state.add side [hostname] [] := by
        simp [Parse.entry, hside, h.1.2]
      rw [List.map_cons, Parse.lines, Parse.line_entry h.1.1, hentry]
      change Parse.lines platform (rest.map String.toList) (state.add side [hostname] []) = _
      rw [ih (by simp [hside]) h.2, Parse.add_add]
      rfl

theorem Parse.lines_subnets {side : Side} (hside : state.side = some side)
    (subnets : List Subnet)
    (h : ∀ subnet ∈ subnets, EntryLine (subnet.toString platform.hostAddress) ∧
      Subnet.fromString platform.parseNumericAddress (subnet.toString platform.hostAddress) =
        some subnet) :
    Parse.lines platform (subnets.map (Subnet.toString platform.hostAddress)) state =
      .ok (state.add side [] subnets) := by
  induction subnets generalizing state with
  | nil => cases side <;> simp [Parse.lines, Parse.add]
  | cons subnet rest ih =>
      rw [List.forall_mem_cons] at h
      have hentry : state.entry platform (subnet.toString platform.hostAddress) =
          state.add side [] [subnet] := by
        simp [Parse.entry, hside, h.1.2]
      rw [List.map_cons, Parse.lines, Parse.line_entry h.1.1, hentry]
      change Parse.lines platform (rest.map _) (state.add side [] [subnet]) = _
      rw [ih (by simp [hside]) h.2, Parse.add_add]
      rfl

theorem Parse.line_mode (bypass : Bool) :
    state.line platform (if bypass then "[bypass_all]" else "[proxy_all]").toList =
      .ok { state with bypass := bypass } := by
  cases bypass with
  | true =>
      rw [if_pos rfl, Parse.line_of_no_comment (by decide) (by decide), Parse.input,
        if_pos (by decide), String.ofList_toList]
      simp [Parse.block]
  | false =>
      rw [if_neg (by decide), Parse.line_of_no_comment (by decide) (by decide), Parse.input,
        if_pos (by decide), String.ofList_toList]
      simp [Parse.block]

theorem Parse.line_header (side : Side) :
    state.line platform side.header.toList = .ok { state with side := some side } := by
  have hcomment : ∀ side : Side, '#' ∉ side.header.toList := by
    intro side
    cases side <;> decide
  have htrim : ∀ side : Side, Text.trim side.header.toList = side.header.toList := by
    intro side
    cases side <;> decide
  rw [Parse.line_of_no_comment (hcomment side) (htrim side), Parse.input, if_pos,
    String.ofList_toList]
  · cases side <;> simp [Parse.block, Side.header]
  · cases side <;> decide

/-- A printed section puts its entries back into the lists of its side. -/
theorem Parse.lines_section (side : Side) (hostnames : List String) (subnets : List Subnet)
    (hhostnames : ∀ hostname ∈ hostnames, EntryLine hostname.toList ∧
      Subnet.fromString platform.parseNumericAddress hostname.toList = none)
    (hsubnets : ∀ subnet ∈ subnets, EntryLine (subnet.toString platform.hostAddress) ∧
      Subnet.fromString platform.parseNumericAddress (subnet.toString platform.hostAddress) =
        some subnet) :
    ∃ last, Parse.lines platform (sectionLines side.header.toList
        (subnets.map (Subnet.toString platform.hostAddress) ++ hostnames.map String.toList))
      state = .ok { state.add side hostnames subnets with side := last } := by
  unfold sectionLines
  split_ifs with hnil
  · obtain ⟨hsubnil, hhostnil⟩ := List.append_eq_nil_iff.mp hnil
    obtain rfl := List.map_eq_nil_iff.mp hsubnil
    obtain rfl := List.map_eq_nil_iff.mp hhostnil
    refine ⟨state.side, ?_⟩
    cases side <;> simp [Parse.lines, Parse.add]
  · refine ⟨some side, ?_⟩
    have hside : ({ state with side := some side } : Parse Url).side = some side := rfl
    have hadded : (({ state with side := some side } : Parse Url).add side [] subnets).side =
        some side := Parse.add_side side [] subnets
    rw [Parse.lines, Parse.line_header]
    simp only [Except.bind]
    rw [Parse.lines_append, Parse.lines_subnets hside subnets hsubnets]
    simp only [Except.bind]
    rw [Parse.lines_hostnames hadded hostnames hhostnames, Parse.add_add]
    cases side <;> simp [Parse.add]

theorem networkAclParser_import {text : List Char} (hne : text ≠ [])
    (hchars : ∀ c ∈ text, Text.isLineTerminator c = false) :
    networkAclParser (importWord ++ ' ' :: '<' :: text ++ ['>']) = some text := by
  have hword : importWord.isPrefixOf (importWord ++ ' ' :: '<' :: text ++ ['>']) = true := by
    rw [List.isPrefixOf_iff_prefix, List.append_assoc]
    exact List.prefix_append _ _
  have hdrop : (importWord ++ ' ' :: '<' :: text ++ ['>']).drop importWord.length =
      ' ' :: '<' :: (text ++ ['>']) := by
    rw [List.append_assoc, List.drop_left]
    rfl
  have hspace : (' ' :: '<' :: (text ++ ['>'])).dropWhile isRegexSpace = '<' :: (text ++ ['>']) := by
    rw [List.dropWhile_cons_of_pos (by decide), List.dropWhile_cons_of_neg (by decide)]
  have hclose : (text ++ ['>']).rdropWhile isRegexSpace = text ++ ['>'] :=
    List.rdropWhile_concat_neg _ _ _ (by decide)
  have hany : text.reverse.any Text.isLineTerminator = false := by
    rw [List.any_eq_false]
    intro c hc
    simp [hchars c (List.mem_reverse.mp hc)]
  rw [networkAclParser, if_pos hword, hdrop, hspace]
  simp [hclose, hne, hany]

theorem Parse.line_import {url : Url}
    (hparse : platform.parseUrl (platform.urlToString url) = .ok url)
    (hne : platform.urlToString url ≠ "")
    (hchars : ∀ c ∈ (platform.urlToString url).toList, Text.isLineTerminator c = false) :
    state.line platform (importLine platform url) =
      .ok { state with urls := state.urls ++ [url] } := by
  have hnil : (platform.urlToString url).toList ≠ [] := by simpa using hne
  have hbefore : '#' ∉ ([] : List Char) := List.not_mem_nil
  have hcut : Text.cut '#' (importLine platform url) = ([], some
      (importWord ++ ' ' :: '<' :: (platform.urlToString url).toList ++ ['>'])) :=
    Text.cut_append hbefore _
  have hinput : ∀ state : Parse Url, state.input platform (Text.trim []) = .ok state := by
    intro state
    rfl
  rw [Parse.line, hcut]
  simp only [Option.getD_some, Parse.comment, networkAclParser_import hnil hchars,
    String.ofList_toList, hparse, Except.bind, hinput]

theorem Parse.lines_imports (urls : List Url)
    (h : ∀ url ∈ urls, platform.parseUrl (platform.urlToString url) = .ok url ∧
      platform.urlToString url ≠ "" ∧
      ∀ c ∈ (platform.urlToString url).toList, Text.isLineTerminator c = false) :
    Parse.lines platform (urls.map (importLine platform)) state =
      .ok { state with urls := state.urls ++ urls } := by
  induction urls generalizing state with
  | nil => simp [Parse.lines]
  | cons url rest ih =>
      rw [List.forall_mem_cons] at h
      obtain ⟨⟨hparse, hne, hchars⟩, hrest⟩ := h
      rw [List.map_cons, Parse.lines, Parse.line_import hparse hne hchars]
      simp only [Except.bind]
      rw [ih hrest]
      simp

end Reading

section RoundTrip

variable {platform : Platform Url}

theorem not_isWhitespace_of_isDigit {c : Char} (h : c.isDigit = true) :
    Text.isWhitespace c = false := by
  have hrange : 48 ≤ c.toNat ∧ c.toNat ≤ 57 := by
    simpa [Char.isDigit, UInt32.le_iff_toNat_le] using h
  simp only [Text.isWhitespace, Bool.or_eq_false_iff, Bool.and_eq_false_iff, decide_eq_false_iff_not]
  omega

/-- Text without spaces and comment signs is an entry. -/
theorem entryLine_of_chars {line : List Char} (hne : line ≠ []) (hbracket : line.head? ≠ some '[')
    (hchars : ∀ c ∈ line, c ≠ '#' ∧ Text.isWhitespace c = false) : EntryLine line where
  oneLine := by
    intro c hc
    have hspace := (hchars c hc).2
    constructor
    · rintro rfl
      exact absurd hspace (by decide)
    · rintro rfl
      exact absurd hspace (by decide)
  comment hc := (hchars '#' hc).1 rfl
  trimmed := by
    apply Text.trim_eq_self
    · intro c hc
      exact (hchars c (List.mem_of_mem_head? hc)).2
    · intro c hc
      exact (hchars c (List.mem_of_mem_getLast? hc)).2
  bracket := hbracket
  nonempty := hne

theorem entryLine_subnet (hplatform : platform.Documented) {subnet : Subnet} {text : String}
    (htext : platform.parseNumericAddress text = some subnet.address) :
    EntryLine (subnet.toString platform.hostAddress) := by
  have hchars := hplatform.hostAddress_chars htext
  have hnil : (platform.hostAddress subnet.address).toList ≠ [] := by
    simpa using hplatform.hostAddress_ne_empty htext
  obtain ⟨first, rest, hcons⟩ := List.exists_cons_of_ne_nil hnil
  have hfirst : first ≠ '[' := (hchars first (hcons ▸ List.mem_cons_self ..)).2.2.1
  have haddress : ∀ c ∈ (platform.hostAddress subnet.address).toList,
      c ≠ '#' ∧ Text.isWhitespace c = false :=
    fun c hc => ⟨(hchars c hc).2.1, (hchars c hc).2.2.2⟩
  unfold Subnet.toString
  split
  · exact entryLine_of_chars hnil (by simpa [hcons] using hfirst) haddress
  · apply entryLine_of_chars
    · simp
    · simpa [hcons] using hfirst
    · rw [List.forall_mem_append, List.forall_mem_cons]
      refine ⟨haddress, by decide, ?_⟩
      intro c hc
      have hdigit := Decimal.toDigits_isDigit _ c hc
      refine ⟨?_, not_isWhitespace_of_isDigit hdigit⟩
      rintro rfl
      exact absurd hdigit (by decide)

theorem oneLine_importLine {url : Url}
    (hchars : ∀ c ∈ (platform.urlToString url).toList, Text.isLineTerminator c = false) :
    Text.OneLine (importLine platform url) := by
  have hword : ∀ c ∈ importWord, c ≠ '\n' ∧ c ≠ '\r' := by decide
  have hurl : ∀ c ∈ (platform.urlToString url).toList, c ≠ '\n' ∧ c ≠ '\r' := by
    intro c hc
    have hother := hchars c hc
    constructor
    · rintro rfl
      exact absurd hother (by decide)
    · rintro rfl
      exact absurd hother (by decide)
  simp only [Text.OneLine, importLine, List.forall_mem_cons, List.forall_mem_append]
  exact ⟨by decide, ⟨hword, by decide, by decide, hurl⟩, by decide, by simp⟩

theorem oneLine_sectionLines {header : List Char} (hheader : Text.OneLine header)
    {entries : List (List Char)} (hentries : ∀ line ∈ entries, Text.OneLine line) :
    ∀ line ∈ sectionLines header entries, Text.OneLine line := by
  unfold sectionLines
  split_ifs
  · simp
  · rw [List.forall_mem_cons]
    exact ⟨hheader, hentries⟩

/-- Everything in the list can be printed and read back. -/
structure Printable (platform : Platform Url) (acl : Acl Url) : Prop where
  bypassHostnames : ∀ hostname ∈ platform.hostnames.items acl.bypassHostnames,
    EntryLine hostname.toList ∧
      Subnet.fromString platform.parseNumericAddress hostname.toList = none
  proxyHostnames : ∀ hostname ∈ platform.hostnames.items acl.proxyHostnames,
    EntryLine hostname.toList ∧
      Subnet.fromString platform.parseNumericAddress hostname.toList = none
  subnets : ∀ subnet ∈ platform.subnets.items acl.subnets,
    EntryLine (subnet.toString platform.hostAddress) ∧
      Subnet.fromString platform.parseNumericAddress (subnet.toString platform.hostAddress) =
        some subnet
  urls : ∀ url ∈ platform.urls.items acl.urls,
    platform.parseUrl (platform.urlToString url) = .ok url ∧ platform.urlToString url ≠ "" ∧
      ∀ c ∈ (platform.urlToString url).toList, Text.isLineTerminator c = false

theorem printable_of_fromReader (hplatform : platform.Documented) {before acl : Acl Url}
    {text : String} {defaultBypass : Bool}
    (h : fromReader platform before text defaultBypass = .ok acl) : Printable platform acl := by
  unfold fromReader at h
  split at h
  · rename_i state hstate
    have htaken := Parse.taken_of_parse hstate
    cases h
    refine ⟨?_, ?_, ?_, ?_⟩
    · intro hostname hmem
      exact htaken.hostnames hostname (Or.inl (Sorter.mem_of_mem_items _ hmem))
    · intro hostname hmem
      exact htaken.hostnames hostname (Or.inr (Sorter.mem_of_mem_items _ hmem))
    · intro subnet hmem
      have hsubnet : subnet ∈ state.bypassSubnets ∨ subnet ∈ state.proxySubnets := by
        have hadds : subnet ∈ state.subnets := Sorter.mem_of_mem_items _ hmem
        unfold Parse.subnets at hadds
        split at hadds
        · exact Or.inr hadds
        · exact Or.inl hadds
      obtain ⟨text, htext⟩ := htaken.subnets subnet hsubnet
      refine ⟨entryLine_subnet hplatform htext, ?_⟩
      apply Subnet.fromString_toString subnet (hplatform.parse_hostAddress htext)
      intro hslash
      exact (hplatform.hostAddress_chars htext '/' hslash).1 rfl
    · intro url hmem
      obtain ⟨text, htext, hchars⟩ := htaken.urls url (Sorter.mem_of_mem_items _ hmem)
      exact ⟨hplatform.parse_url htext, hplatform.url_ne_empty htext,
        hplatform.url_chars htext hchars⟩
  · cases h

/-- The subnets of the mode are printed in the list of the other side. -/
def sideSubnets (acl : Acl Url) (platform : Platform Url) : Side → List Subnet
  | .bypass => if acl.bypass then [] else platform.subnets.items acl.subnets
  | .proxy => if acl.bypass then platform.subnets.items acl.subnets else []

theorem bypassList_eq (acl : Acl Url) :
    bypassList platform acl =
      (sideSubnets acl platform .bypass).map (Subnet.toString platform.hostAddress) ++
        (platform.hostnames.items acl.bypassHostnames).map String.toList := by
  unfold bypassList sideSubnets
  split_ifs <;> simp

theorem proxyList_eq (acl : Acl Url) :
    proxyList platform acl =
      (sideSubnets acl platform .proxy).map (Subnet.toString platform.hostAddress) ++
        (platform.hostnames.items acl.proxyHostnames).map String.toList := by
  unfold proxyList sideSubnets
  split_ifs <;> simp

theorem Printable.sideSubnets {acl : Acl Url} (h : Printable platform acl) (side : Side) :
    ∀ subnet ∈ Acl.sideSubnets acl platform side,
      EntryLine (subnet.toString platform.hostAddress) ∧
        Subnet.fromString platform.parseNumericAddress (subnet.toString platform.hostAddress) =
          some subnet := by
  intro subnet hmem
  apply h.subnets
  cases side with
  | bypass =>
      unfold Acl.sideSubnets at hmem
      split_ifs at hmem
      · simp at hmem
      · exact hmem
  | proxy =>
      unfold Acl.sideSubnets at hmem
      split_ifs at hmem
      · exact hmem
      · simp at hmem

theorem Printable.readLines_toString {acl : Acl Url} (h : Printable platform acl) :
    Text.readLines (toString platform acl).toList = printedLines platform acl := by
  have hentries : ∀ side, ∀ hostnames : List String,
      (∀ hostname ∈ hostnames, EntryLine hostname.toList ∧
        Subnet.fromString platform.parseNumericAddress hostname.toList = none) →
      ∀ line ∈ (Acl.sideSubnets acl platform side).map (Subnet.toString platform.hostAddress) ++
        hostnames.map String.toList, Text.OneLine line := by
    intro side hostnames hhostnames line hline
    rcases List.mem_append.mp hline with hline | hline
    · obtain ⟨subnet, hsubnet, rfl⟩ := List.mem_map.mp hline
      exact (h.sideSubnets side subnet hsubnet).1.oneLine
    · obtain ⟨hostname, hhostname, rfl⟩ := List.mem_map.mp hline
      exact (hhostnames hostname hhostname).1.oneLine
  rw [toString_toList, Text.readLines_flatMap]
  rw [printedLines, List.forall_mem_cons, List.forall_mem_append, List.forall_mem_append,
    bypassList_eq, proxyList_eq]
  refine ⟨?_, ⟨?_, ?_⟩, ?_⟩
  · cases acl.bypass <;> decide
  · exact oneLine_sectionLines (by decide) (hentries .bypass _ h.bypassHostnames)
  · exact oneLine_sectionLines (by decide) (hentries .proxy _ h.proxyHostnames)
  · intro line hline
    obtain ⟨url, hurl, rfl⟩ := List.mem_map.mp hline
    exact oneLine_importLine (h.urls url hurl).2.2

/-- What the printed list is parsed to, whatever the default mode. -/
theorem Printable.parse_toString {acl : Acl Url} (h : Printable platform acl)
    (defaultBypass : Bool) :
    ∃ last, parse platform (toString platform acl) defaultBypass = .ok
      { bypass := acl.bypass
        side := last
        bypassHostnames := platform.hostnames.items acl.bypassHostnames
        proxyHostnames := platform.hostnames.items acl.proxyHostnames
        bypassSubnets := Acl.sideSubnets acl platform .bypass
        proxySubnets := Acl.sideSubnets acl platform .proxy
        urls := platform.urls.items acl.urls } := by
  obtain ⟨afterBypass, hbypass⟩ : ∃ last, Parse.lines platform _
      { Parse.start defaultBypass with bypass := acl.bypass } = .ok { Parse.add _ _ _ _ with side := last } :=
    Parse.lines_section .bypass _ _ h.bypassHostnames (h.sideSubnets .bypass)
  obtain ⟨afterProxy, hproxy⟩ : ∃ last, Parse.lines platform _
      { Parse.add .bypass _ _ { Parse.start defaultBypass with bypass := acl.bypass } with
        side := afterBypass } = .ok { Parse.add _ _ _ _ with side := last } :=
    Parse.lines_section .proxy _ _ h.proxyHostnames (h.sideSubnets .proxy)
  refine ⟨afterProxy, ?_⟩
  rw [parse, h.readLines_toString, printedLines, bypassList_eq, proxyList_eq, Parse.lines,
    Parse.line_mode]
  simp only [Except.bind]
  rw [Parse.lines_append, Parse.lines_append, hbypass]
  simp only [Except.bind]
  rw [hproxy]
  dsimp only
  rw [Parse.lines_imports _ h.urls]
  simp [Parse.add, Parse.start]

theorem fromReader_of_parse {before : Acl Url} {text : String} {defaultBypass : Bool}
    {state : Parse Url} (h : parse platform text defaultBypass = .ok state) :
    fromReader platform before text defaultBypass = .ok state.toAcl := by
  rw [fromReader, h]

/-- Printing and parsing are inverse: what is accepted is accepted again from
its printed form, in either default mode, with the same mode and the same sets. -/
theorem fromReader_toString (platform : Platform Url) (hplatform : platform.Documented)
    (text : String) (defaultBypass : Bool) (acl : Acl Url)
    (h : fromReader platform {} text defaultBypass = .ok acl) (defaultBypass' : Bool) :
    ∃ acl', fromReader platform {} (toString platform acl) defaultBypass' = .ok acl' ∧
      SameRules platform acl' acl := by
  obtain ⟨last, hparse⟩ := (printable_of_fromReader hplatform h).parse_toString defaultBypass'
  refine ⟨_, fromReader_of_parse hparse, rfl, ?_, ?_, ?_, ?_⟩
  · intro hostname
    simp only [Parse.toAcl, Sorter.mem_items]
  · intro hostname
    simp only [Parse.toAcl, Sorter.mem_items]
  · intro subnet
    simp only [Parse.toAcl, Parse.subnets, sideSubnets, Sorter.mem_items]
    cases acl.bypass <;> simp [Sorter.mem_items]
  · intro url
    exact platform.urls.mem_items_items hplatform.sameUrl_symm _ _

theorem plainPlatform_documented : plainPlatform.Documented where
  parse_hostAddress htext := parseDotted_dotted (length_of_parseDotted htext)
  hostAddress_ne_empty := by
    intro text address htext
    exact dotted_ne_empty (length_of_parseDotted htext)
  hostAddress_chars := by
    intro text address htext c hc
    rcases dotted_chars hc with rfl | hdigit
    · decide
    · refine ⟨?_, ?_, ?_, not_isWhitespace_of_isDigit hdigit⟩
      · rintro rfl
        exact absurd hdigit (by decide)
      · rintro rfl
        exact absurd hdigit (by decide)
      · rintro rfl
        exact absurd hdigit (by decide)
  parse_url := by
    intro text url hurl
    simp only [plainPlatform] at hurl ⊢
    split_ifs at hurl with hprotocol
    cases hurl
    rw [if_pos hprotocol]
  url_ne_empty := by
    rintro text url hurl rfl
    simp only [plainPlatform] at hurl
    split_ifs at hurl with hprotocol
    cases hurl
    exact absurd hprotocol (by decide)
  url_chars := by
    intro text url hurl hchars
    simp only [plainPlatform] at hurl ⊢
    split_ifs at hurl
    cases hurl
    exact hchars
  sameUrl_symm _ _ h := h.symm

/-- Rules of every kind, with a mode line at the end. -/
def mixedText : String :=
  "example\n[bypass_list]\n10.0.0.0/8 # private\n[proxy_list]\n1.1.1.1\n" ++
    "#IMPORT_URL <http://a/>\n[bypass_all]"

def mixedAcl : Acl String where
  bypassHostnames := ["example"]
  subnets := [⟨⟨[1, 1, 1, 1], by decide⟩, 32, by decide⟩]
  urls := ["http://a/"]
  bypass := true

theorem fromReader_toString_mixed :
    plainPlatform.Documented ∧ fromReader plainPlatform {} mixedText false = .ok mixedAcl ∧
    ∃ acl', fromReader plainPlatform {} (toString plainPlatform mixedAcl) false = .ok acl' ∧
      SameRules plainPlatform acl' mixedAcl := by
  have h : fromReader plainPlatform {} mixedText false = .ok mixedAcl := by decide +kernel
  exact ⟨plainPlatform_documented, h,
    fromReader_toString plainPlatform plainPlatform_documented mixedText false mixedAcl h false⟩

end RoundTrip

end WifiProject.Acl
