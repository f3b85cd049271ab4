import Mathlib.Data.List.Perm.Basic
import Mathlib.Data.List.Forall2
import WifiProject.Acl.AclLines

/-!
The layout of rules. A text consists of mode lines, of the lines before the
first header, and of sections. Its meaning is the last mode, the imports and the
entries of each section; where a section stands does not matter.
-/

namespace WifiProject.Acl

open Lib Net

/-- A header with the entry and comment lines up to the next header. -/
structure Section where
  header : List Char
  body : List (List Char)
  deriving DecidableEq

structure Layout where
  modes : List (List Char)
  /-- What stands before the first header. -/
  preamble : List (List Char)
  sections : List Section
  deriving DecidableEq

/-- Mode lines belong to no section. -/
def layout : List (List Char) → Layout
  | [] => { modes := [], preamble := [], sections := [] }
  | line :: rest =>
      match lineKind line with
      | .mode _ => { layout rest with modes := line :: (layout rest).modes }
      | .header _ =>
          { layout rest with
            preamble := []
            sections := ⟨line, (layout rest).preamble⟩ :: (layout rest).sections }
      | _ => { layout rest with preamble := line :: (layout rest).preamble }

/-- The side whose entries the section lists; none for a block list. -/
def Section.side (part : Section) : Option Side := sideAfter none [part.header]

/-- The same header over the same lines in another order. -/
def Section.Reordered (part part' : Section) : Prop :=
  part.header = part'.header ∧ part.body.Perm part'.body

namespace Layout

def EntriesFollowHeaders (layout : Layout) : Prop :=
  ∀ line ∈ layout.preamble, ∀ text, lineKind line ≠ .entry text

/-- Sections are permuted, lines reordered within them, and mode lines placed
anywhere with the same one last. -/
structure Rearranged (layout layout' : Layout) : Prop where
  modes : layout.modes.Perm layout'.modes
  lastMode : layout.modes.getLast? = layout'.modes.getLast?
  preamble : layout.preamble.Perm layout'.preamble
  sections : ∃ order, layout.sections.Perm order ∧
    List.Forall₂ Section.Reordered order layout'.sections

/-- An entry of a section for the side. -/
def HasEntry (layout : Layout) (side : Side) (text : List Char) : Prop :=
  ∃ part ∈ layout.sections, part.side = some side ∧
    ∃ line ∈ part.body, lineKind line = .entry text

end Layout

section

variable {Url : Type} (platform : Platform Url)

/-- The same mode and the same sets; URLs are compared as the sorted list
compares them. -/
structure SameMeaning (acl acl' : Acl Url) : Prop where
  bypass : acl.bypass = acl'.bypass
  bypassHostnames : ∀ hostname, hostname ∈ platform.hostnames.items acl.bypassHostnames ↔
    hostname ∈ platform.hostnames.items acl'.bypassHostnames
  proxyHostnames : ∀ hostname, hostname ∈ platform.hostnames.items acl.proxyHostnames ↔
    hostname ∈ platform.hostnames.items acl'.proxyHostnames
  subnets : ∀ subnet, subnet ∈ platform.subnets.items acl.subnets ↔
    subnet ∈ platform.subnets.items acl'.subnets
  urls : ∀ url ∈ platform.urls.items acl.urls,
    ∃ url' ∈ platform.urls.items acl'.urls, platform.sameUrl url url'
  urls_symm : ∀ url' ∈ platform.urls.items acl'.urls,
    ∃ url ∈ platform.urls.items acl.urls, platform.sameUrl url' url

/-- Hostnames and subnets are those of the sections of their side. -/
structure ListsSections (layout : Layout) (acl : Acl Url) : Prop where
  bypassHostnames : ∀ hostname, hostname ∈ platform.hostnames.items acl.bypassHostnames ↔
    ∃ text, layout.HasEntry .bypass text ∧
      Subnet.fromString platform.parseNumericAddress text = none ∧ hostname = String.ofList text
  proxyHostnames : ∀ hostname, hostname ∈ platform.hostnames.items acl.proxyHostnames ↔
    ∃ text, layout.HasEntry .proxy text ∧
      Subnet.fromString platform.parseNumericAddress text = none ∧ hostname = String.ofList text
  subnets : ∀ subnet, subnet ∈ platform.subnets.items acl.subnets ↔
    ∃ text, layout.HasEntry (if acl.bypass then .proxy else .bypass) text ∧
      Subnet.fromString platform.parseNumericAddress text = some subnet

end

section Sections

def entriesUnder (current : Option Side) (body : List (List Char)) : List (Side × List Char) :=
  body.flatMap fun line => listed current [line]

def Section.entries (part : Section) : List (Side × List Char) := entriesUnder part.side part.body

/-- What is listed is listed section by section. -/
theorem listed_eq_layout (current : Option Side) (lines : List (List Char)) :
    listed current lines = entriesUnder current (layout lines).preamble ++
      (layout lines).sections.flatMap Section.entries := by
  induction lines generalizing current with
  | nil => rfl
  | cons line rest ih =>
      cases hkind : lineKind line with
      | header side =>
          simp [listed, layout, hkind, ih, entriesUnder, Section.entries, Section.side, sideAfter]
      | blank | mode | entry | unknown => simp [listed, layout, hkind, ih, entriesUnder]

theorem mem_listed_singleton {current : Option Side} {line : List Char}
    {entry : Side × List Char} :
    entry ∈ listed current [line] ↔ current = some entry.1 ∧ lineKind line = .entry entry.2 := by
  obtain ⟨side, text⟩ := entry
  cases hkind : lineKind line with
  | entry input => cases current <;> simp [listed, hkind, eq_comm]
  | blank | header | mode | unknown => simp [listed, hkind]

theorem entriesUnder_eq_nil {current : Option Side} {body : List (List Char)}
    (h : ∀ line ∈ body, ∀ text, lineKind line ≠ .entry text) : entriesUnder current body = [] := by
  rw [entriesUnder, List.flatMap_eq_nil_iff]
  intro line hline
  rw [List.eq_nil_iff_forall_not_mem]
  intro entry hentry
  exact h line hline entry.2 (mem_listed_singleton.mp hentry).2

/-- When entries follow headers, what was read before the text does not matter. -/
theorem mem_listed_iff {lines : List (List Char)} (h : (layout lines).EntriesFollowHeaders)
    (current : Option Side) (side : Side) (text : List Char) :
    (side, text) ∈ listed current lines ↔ (layout lines).HasEntry side text := by
  rw [listed_eq_layout, entriesUnder_eq_nil h, List.nil_append, List.mem_flatMap]
  unfold Layout.HasEntry Section.entries entriesUnder
  simp only [List.mem_flatMap, mem_listed_singleton]
  constructor
  · rintro ⟨part, hpart, line, hline, hside, hkind⟩
    exact ⟨part, hpart, hside, line, hline, hkind⟩
  · rintro ⟨part, hpart, hside, line, hline, hkind⟩
    exact ⟨part, hpart, line, hline, hside, hkind⟩

/-- A text is its mode lines, its preamble and its sections in some order. -/
theorem perm_layout (lines : List (List Char)) :
    lines.Perm ((layout lines).modes ++ ((layout lines).preamble ++
      (layout lines).sections.flatMap fun part => part.header :: part.body)) := by
  induction lines with
  | nil => exact List.Perm.nil
  | cons line rest ih =>
      cases hkind : lineKind line with
      | mode bypass =>
          simp only [layout, hkind, List.cons_append]
          exact ih.cons line
      | header side =>
          simp only [layout, hkind, List.nil_append, List.flatMap_cons, List.cons_append]
          exact (ih.cons line).trans List.perm_middle.symm
      | blank | entry | unknown =>
          simp only [layout, hkind, List.cons_append]
          exact (ih.cons line).trans List.perm_middle.symm

theorem filterMap_getLast? {α β : Type} {f : α → Option β} {l : List α}
    (h : ∀ x ∈ l, (f x).isSome) : (l.filterMap f).getLast? = l.getLast?.bind f := by
  induction l using List.reverseRecOn with
  | nil => rfl
  | append_singleton l x _ =>
      obtain ⟨y, hy⟩ := Option.isSome_iff_exists.mp (h x (by simp))
      simp [hy]

/-- The mode lines of the layout decide the mode. -/
theorem modeAfter_eq_layout (bypass : Bool) (lines : List (List Char)) :
    modeAfter bypass lines = ((layout lines).modes.getLast?.bind lineMode).getD bypass := by
  have hmodes : lines.filterMap lineMode = (layout lines).modes.filterMap lineMode ∧
      ∀ line ∈ (layout lines).modes, (lineMode line).isSome := by
    induction lines with
    | nil => simp [layout]
    | cons line rest ih =>
        cases hkind : lineKind line with
        | mode mode =>
            have hmode : lineMode line = some mode := by simp [lineMode, hkind]
            simpa [layout, hkind, hmode, ih.1] using ih.2
        | blank | header | entry | unknown =>
            have hmode : lineMode line = none := by simp [lineMode, hkind]
            simp only [layout, hkind]
            rw [List.filterMap_cons_none hmode]
            exact ih
  rw [modeAfter, hmodes.1, filterMap_getLast? hmodes.2]

end Sections

section Rearranging

variable {layout layout' : Layout}

theorem Section.Reordered.hasLine {part part' : Section} (h : part.Reordered part') :
    part.side = part'.side ∧ ∀ line, line ∈ part.body ↔ line ∈ part'.body := by
  refine ⟨?_, fun line => h.2.mem_iff⟩
  rw [Section.side, Section.side, h.1]

/-- Reordered sections have the same entries. -/
theorem exists_part_iff {sections sections' : List Section}
    (h : List.Forall₂ Section.Reordered sections sections') (side : Side) (text : List Char) :
    (∃ part ∈ sections, part.side = some side ∧
      ∃ line ∈ part.body, lineKind line = .entry text) ↔
    ∃ part ∈ sections', part.side = some side ∧
      ∃ line ∈ part.body, lineKind line = .entry text := by
  induction h with
  | nil => rfl
  | cons hpart _ ih =>
      simp only [List.exists_mem_cons_iff, ih, hpart.hasLine.1, hpart.hasLine.2]

theorem Layout.Rearranged.hasEntry_iff (h : layout.Rearranged layout') (side : Side)
    (text : List Char) : layout.HasEntry side text ↔ layout'.HasEntry side text := by
  obtain ⟨order, hperm, hparts⟩ := h.sections
  unfold Layout.HasEntry
  rw [← exists_part_iff hparts]
  simp only [hperm.mem_iff]

theorem Layout.Rearranged.entriesFollowHeaders (h : layout.Rearranged layout')
    (hentries : layout.EntriesFollowHeaders) : layout'.EntriesFollowHeaders := by
  intro line hline
  exact hentries line (h.preamble.mem_iff.mpr hline)

theorem flatMap_perm_of_reordered {sections sections' : List Section}
    (h : List.Forall₂ Section.Reordered sections sections') :
    (sections.flatMap fun part => part.header :: part.body).Perm
      (sections'.flatMap fun part => part.header :: part.body) := by
  induction h with
  | nil => exact List.Perm.nil
  | cons hpart _ ih =>
      simp only [List.flatMap_cons]
      rw [hpart.1]
      exact (hpart.2.cons _).append ih

end Rearranging

/-- A rearranged text has the same lines. -/
theorem perm_of_rearranged {lines lines' : List (List Char)}
    (h : (layout lines).Rearranged (layout lines')) : lines.Perm lines' := by
  obtain ⟨order, hperm, hparts⟩ := h.sections
  have hsections := (hperm.flatMap_right fun part => part.header :: part.body).trans
    (flatMap_perm_of_reordered hparts)
  exact (perm_layout lines).trans ((h.modes.append (h.preamble.append hsections)).trans
    (perm_layout lines').symm)

section Meaning

variable {Url : Type} {platform : Platform Url}

theorem mem_hostnames_iff {lines : List (List Char)} (h : (layout lines).EntriesFollowHeaders)
    (current : Option Side) (side : Side) (hostname : String) :
    hostname ∈ (listed current lines).filterMap (entryHostname platform side) ↔
      ∃ text, (layout lines).HasEntry side text ∧
        Subnet.fromString platform.parseNumericAddress text = none ∧
        hostname = String.ofList text := by
  rw [List.mem_filterMap]
  constructor
  · rintro ⟨⟨side', text⟩, hmem, hentry⟩
    simp only [entryHostname, Option.ite_none_right_eq_some, Option.some.injEq] at hentry
    obtain ⟨⟨rfl, hnone⟩, rfl⟩ := hentry
    exact ⟨text, (mem_listed_iff h current side' text).mp hmem, hnone, rfl⟩
  · rintro ⟨text, hhas, hnone, rfl⟩
    exact ⟨(side, text), (mem_listed_iff h current side text).mpr hhas, by
      simp [entryHostname, hnone]⟩

theorem mem_subnets_iff {lines : List (List Char)} (h : (layout lines).EntriesFollowHeaders)
    (current : Option Side) (side : Side) (subnet : Subnet) :
    subnet ∈ (listed current lines).filterMap (entrySubnet platform side) ↔
      ∃ text, (layout lines).HasEntry side text ∧
        Subnet.fromString platform.parseNumericAddress text = some subnet := by
  rw [List.mem_filterMap]
  constructor
  · rintro ⟨⟨side', text⟩, hmem, hentry⟩
    simp only [entrySubnet, Option.ite_none_right_eq_some] at hentry
    obtain ⟨rfl, hsubnet⟩ := hentry
    exact ⟨text, (mem_listed_iff h current side' text).mp hmem, hsubnet⟩
  · rintro ⟨text, hhas, hsubnet⟩
    exact ⟨(side, text), (mem_listed_iff h current side text).mpr hhas, by
      simp [entrySubnet, hsubnet]⟩

/-- What is loaded from lines in which entries follow headers. -/
theorem listsSections_of_lines (platform : Platform Url) {lines : List (List Char)}
    (h : (layout lines).EntriesFollowHeaders) (defaultBypass : Bool) :
    ListsSections platform (layout lines)
      ((Parse.start defaultBypass : Parse Url).after platform lines).toAcl where
  bypassHostnames hostname := by
    rw [Sorter.mem_items]
    exact mem_hostnames_iff h _ .bypass hostname
  proxyHostnames hostname := by
    rw [Sorter.mem_items]
    exact mem_hostnames_iff h _ .proxy hostname
  subnets subnet := by
    rw [Sorter.mem_items, Parse.toAcl, Parse.subnets]
    dsimp only
    split_ifs
    · exact mem_subnets_iff h _ .proxy subnet
    · exact mem_subnets_iff h _ .bypass subnet

theorem fromReader_ok_iff {before acl : Acl Url} {text : String} {defaultBypass : Bool} :
    fromReader platform before text defaultBypass = .ok acl ↔
      (∀ line ∈ Text.readLines text.toList, lineFailure platform line = none) ∧
        acl = ((Parse.start defaultBypass).after platform (Text.readLines text.toList)).toAcl := by
  unfold fromReader
  constructor
  · intro h
    cases hparse : parse platform text defaultBypass with
    | error failure => simp [hparse] at h
    | ok state =>
        obtain ⟨hall, rfl⟩ := Parse.accepted_of_lines hparse
        rw [hparse] at h
        cases h
        exact ⟨hall, rfl⟩
  · rintro ⟨hall, rfl⟩
    rw [parse, Parse.lines_of_accepted hall]

/-- Adds with the same elements leave the same URLs. -/
theorem exists_sameUrl (hsame : Equivalence platform.sameUrl) {adds adds' : List Url}
    (h : adds ⊆ adds') :
    ∀ url ∈ platform.urls.items adds,
      ∃ url' ∈ platform.urls.items adds', platform.sameUrl url url' := by
  intro url hurl
  exact platform.urls.exists_same_of_mem hsame (h (platform.urls.mem_of_mem_items hurl))

/-- Rules do not depend on their layout, and block lists list nothing. -/
theorem fromReader_rearranged (platform : Platform Url) (hsame : Equivalence platform.sameUrl)
    (before before' : Acl Url) (text text' : String) (defaultBypass : Bool) (acl : Acl Url)
    (haccepted : fromReader platform before text defaultBypass = .ok acl)
    (hentries : (layout (Text.readLines text.toList)).EntriesFollowHeaders)
    (h : (layout (Text.readLines text.toList)).Rearranged
      (layout (Text.readLines text'.toList))) :
    ∃ acl', fromReader platform before' text' defaultBypass = .ok acl' ∧
      SameMeaning platform acl acl' ∧
      ListsSections platform (layout (Text.readLines text.toList)) acl ∧
      ListsSections platform (layout (Text.readLines text'.toList)) acl' := by
  obtain ⟨hall, rfl⟩ := fromReader_ok_iff.mp haccepted
  have hperm := perm_of_rearranged h
  have hlists := listsSections_of_lines platform hentries defaultBypass
  have hlists' := listsSections_of_lines platform
    (h.entriesFollowHeaders hentries) defaultBypass
  have hmode : modeAfter defaultBypass (Text.readLines text.toList) =
      modeAfter defaultBypass (Text.readLines text'.toList) := by
    rw [modeAfter_eq_layout, modeAfter_eq_layout, h.lastMode]
  have hurls := hperm.flatMap_right (lineUrls platform)
  refine ⟨_, fromReader_ok_iff.mpr ⟨fun line hline => hall line (hperm.mem_iff.mpr hline), rfl⟩,
    ⟨hmode, ?_, ?_, ?_, ?_, ?_⟩, hlists, hlists'⟩
  · intro hostname
    rw [hlists.bypassHostnames, hlists'.bypassHostnames]
    simp only [h.hasEntry_iff]
  · intro hostname
    rw [hlists.proxyHostnames, hlists'.proxyHostnames]
    simp only [h.hasEntry_iff]
  · intro subnet
    rw [hlists.subnets, hlists'.subnets]
    have hbypass : ((Parse.start defaultBypass).after platform
        (Text.readLines text.toList)).toAcl.bypass =
        ((Parse.start defaultBypass).after platform (Text.readLines text'.toList)).toAcl.bypass :=
      hmode
    simp only [h.hasEntry_iff, hbypass]
  · exact exists_sameUrl hsame hurls.subset
  · exact exists_sameUrl hsame hurls.symm.subset

def laidOutText : String :=
  "[bypass_all]\n[bypass_list]\n10.0.0.0/8\nlocal\n[outbound_block_list]\nads\n" ++
    "#IMPORT_URL <http://a/>\n[proxy_all]"

def rearrangedText : String :=
  "[outbound_block_list]\n#IMPORT_URL <http://a/>\n[bypass_all]\nads\n[proxy_all]\n" ++
    "[bypass_list]\nlocal\n10.0.0.0/8"

def laidOutAcl : Acl String where
  bypassHostnames := ["local"]
  subnets := [privateNetwork]
  urls := ["http://a/"]

theorem rearranged_laidOut : (layout (Text.readLines laidOutText.toList)).Rearranged
    (layout (Text.readLines rearrangedText.toList)) := by
  have hlaidOut : layout (Text.readLines laidOutText.toList) =
      { modes := ["[bypass_all]".toList, "[proxy_all]".toList]
        preamble := []
        sections := [⟨"[bypass_list]".toList, ["10.0.0.0/8".toList, "local".toList]⟩,
          ⟨"[outbound_block_list]".toList, ["ads".toList, "#IMPORT_URL <http://a/>".toList]⟩] } := by
    decide +kernel
  have hrearranged : layout (Text.readLines rearrangedText.toList) =
      { modes := ["[bypass_all]".toList, "[proxy_all]".toList]
        preamble := []
        sections := [
          ⟨"[outbound_block_list]".toList, ["#IMPORT_URL <http://a/>".toList, "ads".toList]⟩,
          ⟨"[bypass_list]".toList, ["local".toList, "10.0.0.0/8".toList]⟩] } := by
    decide +kernel
  rw [hlaidOut, hrearranged]
  refine ⟨List.Perm.refl _, rfl, List.Perm.refl _, _, List.Perm.swap _ _ _, ?_⟩
  exact .cons ⟨rfl, List.Perm.swap _ _ _⟩ (.cons ⟨rfl, List.Perm.swap _ _ _⟩ .nil)

theorem fromReader_rearranged_laidOut :
    fromReader plainPlatform {} laidOutText false = .ok laidOutAcl ∧
    ∃ acl', fromReader plainPlatform {} rearrangedText false = .ok acl' ∧
      SameMeaning plainPlatform laidOutAcl acl' ∧
      ListsSections plainPlatform (layout (Text.readLines laidOutText.toList)) laidOutAcl ∧
      ListsSections plainPlatform (layout (Text.readLines rearrangedText.toList)) acl' := by
  have haccepted : fromReader plainPlatform {} laidOutText false = .ok laidOutAcl := by
    decide +kernel
  have hpreamble : (layout (Text.readLines laidOutText.toList)).preamble = [] := by decide +kernel
  refine ⟨haccepted, fromReader_rearranged plainPlatform eq_equivalence {} {} laidOutText
    rearrangedText false laidOutAcl haccepted ?_ rearranged_laidOut⟩
  simp [Layout.EntriesFollowHeaders, hpreamble]

end Meaning

end WifiProject.Acl
