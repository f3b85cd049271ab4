import Mathlib.Algebra.Ring.Nat
import Mathlib.Data.Char
import Mathlib.Data.List.Infix
import Mathlib.Data.List.Lex
import Mathlib.Data.List.Sort
import WifiProject.Lib.Regex
import WifiProject.Lib.Text

/-!
`gfwlist/parse.py`: the hosts of a list of rules, and the access control list that is
generated from them. Both are byte strings.
-/

namespace WifiProject.Gfwlist

open Lib

/-- `text.lstrip(c)`. -/
def lstrip (c : Char) (text : List Char) : List Char := text.dropWhile (· == c)

/-- `text.rstrip(c)`. -/
def rstrip (c : Char) (text : List Char) : List Char := text.rdropWhile (· == c)

section Urlparse

/-- `netloc` of a URL with the scheme `http`. -/
def netloc (url : List Char) : List Char :=
  match (url.drop "http:".length) with
  | '/' :: '/' :: rest => rest.takeWhile fun c => c ≠ '/' && c ≠ '?' && c ≠ '#'
  | _ => []

/-- The `hostname` of a location. Without a matching bracket, `urlparse` raises a
`ValueError`; this and `None` are `none`. -/
def locationHost (location : List Char) : Option (List Char) :=
  if decide ('[' ∈ location) ≠ decide (']' ∈ location) then none
  else
    let location := (location.splitOn '@').getLastD []
    if '[' ∈ location ∧ ']' ∈ location then
      some (((Text.cut ']' location).1.drop 1).map Char.toLower)
    else if ':' ∈ location then some ((Text.cut ':' location).1.map Char.toLower)
    else if location = [] then none
    else some (location.map Char.toLower)

/-- `urlparse(url).hostname`. -/
def hostname (url : List Char) : Option (List Char) := locationHost (netloc url)

end Urlparse

section InetAton

/-- Digits of a base, at least one of them. -/
def cDigits (base : Nat) (digits : List Char) : Option Nat :=
  if digits.isEmpty then none
  else digits.foldlM (fun value c =>
    let digit := if c.isDigit then c.toNat - '0'.toNat else c.toLower.toNat - 'a'.toNat + 10
    if c.isAlphanum ∧ digit < base then some (value * base + digit) else none) 0

/-- A number as C writes it: hexadecimal after `0x`, octal after `0`. -/
def cNumber : List Char → Option Nat
  | '0' :: 'x' :: digits => cDigits 16 digits
  | '0' :: 'X' :: digits => cDigits 16 digits
  | '0' :: digits => cDigits 8 ('0' :: digits)
  | digits => cDigits 10 digits

def isSpace (c : Char) : Bool := c = ' ' || (9 ≤ c.toNat && c.toNat ≤ 13)

/-- `socket.inet_aton` takes the text: up to four numbers, the last of which fills the
bytes that are left. What follows a space is not read. -/
def inetAton (text : List Char) : Bool :=
  match ((text.takeWhile fun c => !isSpace c).splitOn '.').mapM cNumber with
  | some [a] => a < 2 ^ 32
  | some [a, b] => a < 2 ^ 8 && b < 2 ^ 24
  | some [a, b, c] => a < 2 ^ 8 && b < 2 ^ 8 && c < 2 ^ 16
  | some [a, b, c, d] => a < 2 ^ 8 && b < 2 ^ 8 && c < 2 ^ 8 && d < 2 ^ 8
  | _ => false

end InetAton

/-- `none` is an exception that is logged. -/
def getHostname (something : List Char) : Option (List Char) :=
  if "http:".toList.isPrefixOf something then hostname something
  else hostname ("http://".toList ++ something)

/-- A set is the list of its elements. -/
def addDomainToSet (s : List (List Char)) (something : List Char) : List (List Char) :=
  match getHostname something with
  | none => s
  | some hostname =>
      let hostname := if hostname.head? = some '.' then lstrip '.' hostname else hostname
      let hostname := if hostname.getLast? = some '/' then rstrip '/' hostname else hostname
      if hostname = [] then s else s.insert hostname

/-- The tests for the start of a line. -/
def addLine (domains : List (List Char)) (line : List Char) : List (List Char) :=
  if line.head? = some '!' then domains
  else if line.head? = some '[' then domains
  else if line.head? = some '@' then domains
  else if "||".toList.isPrefixOf line then addDomainToSet domains (lstrip '|' line)
  else if line.head? = some '|' then addDomainToSet domains (lstrip '|' line)
  else if line.head? = some '.' then addDomainToSet domains (lstrip '.' line)
  else addDomainToSet domains line

/-- The body of the loop. -/
def parseLine (domains : List (List Char)) (line : List Char) : List (List Char) :=
  if ['.', '*'] <:+: line then domains
  else if '*' ∈ line then addLine domains (line.map fun c => if c = '*' then '/' else c)
  else addLine domains line

/-- Byte strings have the line ends that `readLines` knows. -/
def parseGfwlist (content : List Char) : List (List Char) :=
  (Text.readLines content).foldl parseLine []

/-- `datetime.date`. -/
structure Date where
  year : Nat
  month : Nat
  day : Nat

/-- `str(date)`: four digits and twice two. -/
def Date.text (date : Date) : List Char :=
  let padded (width n : Nat) : List Char := (Nat.toDigits 10 n).leftpad width '0'
  padded 4 date.year ++ '-' :: padded 2 date.month ++ '-' :: padded 2 date.day

/-- Each line with its line feed. -/
def unlines (lines : List (List Char)) : List Char := lines.flatMap fun line => line ++ ['\n']

/-- The lines of `header`, with the date in its place. -/
def headerLines (today : Date) : List (List Char) :=
  ["#".toList,
    "# GFW list from ".toList ++ "https://github.com/gfwlist/".toList ++
      "gfwlist/blob/master/gfwlist.txt".toList,
    "# updated on ".toList ++ today.text, "#".toList, [], "[bypass_all]".toList, [],
    "[proxy_list]".toList, []]

def header (today : Date) : List Char := unlines (headerLines today)

structure AclContent where
  ip : List Char
  proxy : List Char

/-- `'(?:^|\.)' + domain + '$'`, with the dots of the domain escaped. -/
def hostPattern (domain : List Char) : List Char :=
  "(?:^|\\.)".toList ++ domain.flatMap (fun c => if c = '.' then ['\\', '.'] else [c]) ++ ['$']

def AclContent.add (content : AclContent) (domain : List Char) : AclContent :=
  if inetAton domain then { content with ip := content.ip ++ domain ++ ['\n'] }
  else { content with proxy := content.proxy ++ hostPattern domain ++ ['\n'] }

def generateAcl (today : Date) (domains : List (List Char)) : List Char :=
  let content := (domains.insertionSort (· ≤ ·)).foldl AclContent.add ⟨[], []⟩
  header today ++ content.ip ++ content.proxy

/-- The rules of a list that are no addresses. -/
def hostPatterns (acl : List Char) : List (List Char) :=
  (Text.readLines acl).filter fun line =>
    line ≠ [] && line.head? ≠ some '#' && line.head? ≠ some '[' && !inetAton line

section Pattern

variable {domain : List Char}

/-- A dot, or a character that a pattern takes as it is. -/
def Plain (c : Char) : Prop := c = '.' ∨ c ∉ Regex.special

theorem tokens_escape (hplain : ∀ c ∈ domain, Plain c) (pattern : List Char) :
    Regex.tokens (domain.flatMap (fun c => if c = '.' then ['\\', '.'] else [c]) ++ pattern) =
      (Regex.tokens pattern).map (domain.map Regex.Token.literal ++ ·) := by
  induction domain with
  | nil => simp
  | cons c domain ih =>
      rw [List.forall_mem_cons] at hplain
      have hrest := ih hplain.2
      rw [List.flatMap_cons, List.append_assoc]
      split
      · rename_i hdot
        rw [hdot, List.cons_append, List.singleton_append, Regex.tokens, hrest]
        simp [Function.comp_def]
      · rename_i hdot
        have hliteral := hplain.1.resolve_left hdot
        rw [List.singleton_append, Regex.tokens_literal hliteral, hrest]
        simp [Function.comp_def]

/-- The start of a text or a dot. -/
def boundary : Regex :=
  .seq .empty (.alt (.seq .empty .start) (.seq .empty (.char '.')))

theorem tokens_boundary (pattern : List Char) :
    Regex.tokens ("(?:^|\\.)".toList ++ pattern) = (Regex.tokens pattern).map
      ([.opening, .start, .bar, .literal '.', .closing] ++ ·) := by
  have hchars : "(?:^|\\.)".toList ++ pattern =
      '(' :: '?' :: ':' :: '^' :: '|' :: '\\' :: '.' :: ')' :: pattern := rfl
  rw [hchars]
  simp [Regex.tokens, Function.comp_def]

theorem tokens_hostPattern (hplain : ∀ c ∈ domain, Plain c) :
    Regex.tokens (hostPattern domain) =
      some (([.opening, .start, .bar, .literal '.', .closing] : List Regex.Token) ++
        (domain.map Regex.Token.literal ++ [Regex.Token.finish])) := by
  have hfinish : Regex.tokens ['$'] = some [.finish] := rfl
  unfold hostPattern
  rw [List.append_assoc, tokens_boundary, tokens_escape hplain, hfinish]
  rfl

/-- What a host pattern says: a boundary, the domain and the end. -/
def hostRegex (domain : List Char) : Regex := .seq (boundary.chars domain) .finish

theorem parse_hostPattern (hplain : ∀ c ∈ domain, Plain c) :
    Regex.parse (hostPattern domain) = some (hostRegex domain) := by
  have hgroup : [Regex.Token.opening, .start, .bar, .literal '.', .closing].foldlM Regex.shift
      [.new] = some [⟨none, boundary⟩] := rfl
  have hword := Regex.foldlM_shift_literals domain ⟨none, boundary⟩ []
  rw [Regex.parse, tokens_hostPattern hplain]
  simp only [Option.bind_eq_bind, Option.bind_some, List.foldlM_append, hgroup, hword]
  rfl

theorem matches_boundary_iff {place middle : Regex.Place} :
    Regex.Matches boundary place middle ↔ (place.atStart = true ∧ middle = place) ∨
      (place.rest = '.' :: middle.rest ∧ middle.atStart = false) := by
  simp [boundary]

/-- Without a line feed, the domain must be what is left after the boundary. -/
theorem exists_matches_hostRegex_iff (hne : domain ≠ []) {place : Regex.Place}
    (hline : '\n' ∉ place.rest) :
    (∃ final, Regex.Matches (hostRegex domain) place final) ↔
      (place.atStart = true ∧ place.rest = domain) ∨ place.rest = '.' :: domain := by
  simp only [hostRegex, Regex.matches_seq_iff, Regex.matches_chars_iff _ hne,
    Regex.matches_finish_iff]
  constructor
  · rintro ⟨final, _, ⟨middle, hmiddle, hrest, -⟩, hfinish, rfl⟩
    rw [matches_boundary_iff] at hmiddle
    have hfeed : final.rest ≠ ['\n'] := by
      intro hfeed
      rw [hfeed] at hrest
      rcases hmiddle with ⟨-, rfl⟩ | ⟨hdot, -⟩
      · exact hline (by simp [hrest])
      · exact hline (by simp [hdot, hrest])
    rw [hfinish.resolve_right hfeed, List.append_nil] at hrest
    rcases hmiddle with ⟨hstart, rfl⟩ | ⟨hdot, -⟩
    · exact Or.inl ⟨hstart, hrest⟩
    · exact Or.inr (hrest ▸ hdot)
  · intro h
    have hmiddle : ∃ atStart, Regex.Matches boundary place ⟨atStart, domain⟩ := by
      rcases h with ⟨hstart, rfl⟩ | hdot
      · exact ⟨place.atStart, matches_boundary_iff.mpr (Or.inl ⟨hstart, rfl⟩)⟩
      · exact ⟨false, matches_boundary_iff.mpr (Or.inr ⟨hdot, rfl⟩)⟩
    obtain ⟨atStart, hmiddle⟩ := hmiddle
    exact ⟨⟨false, []⟩, ⟨false, []⟩, ⟨_, hmiddle, (List.append_nil _).symm, rfl⟩, Or.inl rfl, rfl⟩

/-- The pattern finds the domain and what ends with a dot and the domain. -/
theorem accepts_hostPattern_iff (hplain : ∀ c ∈ domain, Plain c) (hne : domain ≠ [])
    {text : List Char} (hline : '\n' ∉ text) :
    Regex.accepts (hostPattern domain) text = true ↔
      text = domain ∨ ∃ before, text = before ++ '.' :: domain := by
  have hplaces := Regex.mem_places_iff text
  have hplace {place : Regex.Place} (hmem : place ∈ Regex.places text) :
      (∃ final, Regex.Matches (hostRegex domain) place final) ↔
        (place.atStart = true ∧ place.rest = domain) ∨ place.rest = '.' :: domain := by
    apply exists_matches_hostRegex_iff hne
    rcases (hplaces place).mp hmem with rfl | ⟨c, before, rfl, -⟩
    · exact hline
    · exact fun hfeed => hline (List.mem_append_right _ hfeed)
  rw [Regex.accepts, parse_hostPattern hplain, Option.any_some, Regex.search_iff]
  constructor
  · rintro ⟨place, hmem, hmatch⟩
    have hfound := (hplace hmem).mp hmatch
    rcases (hplaces place).mp hmem with rfl | ⟨c, before, rfl, hstart⟩
    · exact hfound.imp (·.2) fun hdot => ⟨[], hdot⟩
    · rcases hfound with ⟨hcontra, -⟩ | hdot
      · rw [hstart] at hcontra
        cases hcontra
      · exact Or.inr ⟨c :: before, by rw [hdot]⟩
  · have hfound {place : Regex.Place} (hmem : place ∈ Regex.places text)
        (h : (place.atStart = true ∧ place.rest = domain) ∨ place.rest = '.' :: domain) :
        ∃ place ∈ Regex.places text, ∃ final, Regex.Matches (hostRegex domain) place final :=
      ⟨place, hmem, (hplace hmem).mpr h⟩
    rintro (htext | ⟨before, htext⟩)
    · exact hfound ((hplaces _).mpr (Or.inl rfl)) (Or.inl ⟨rfl, htext⟩)
    · cases before with
      | nil => exact hfound ((hplaces _).mpr (Or.inl rfl)) (Or.inr htext)
      | cons c before =>
          exact hfound ((hplaces ⟨false, '.' :: domain⟩).mpr (Or.inr ⟨c, before, htext, rfl⟩))
            (Or.inr rfl)

end Pattern
section Lines

/-- A character of a host name, apart from the dot. -/
def isHostChar (c : Char) : Bool := c.isLower || c.isDigit || c = '-'

/-- What a host name consists of. -/
def IsDomain (domain : List Char) : Prop := domain ≠ [] ∧ ∀ c ∈ domain, c = '.' ∨ isHostChar c = true

theorem IsDomain.not_mem {domain : List Char} (h : IsDomain domain) {c : Char}
    (hc : c ≠ '.' ∧ isHostChar c = false) : c ∉ domain := by
  intro hmem
  rcases h.2 c hmem with hdot | hhost
  · exact hc.1 hdot
  · rw [hc.2] at hhost
    cases hhost

theorem IsDomain.plain {domain : List Char} (h : IsDomain domain) : ∀ c ∈ domain, Plain c := by
  have hspecial : ∀ c ∈ Regex.special, isHostChar c = false := by decide
  intro c hc
  rcases h.2 c hc with hdot | hhost
  · exact Or.inl hdot
  · refine Or.inr fun hmem => ?_
    rw [hspecial c hmem] at hhost
    cases hhost

theorem IsDomain.oneLine {domain : List Char} (h : IsDomain domain) : Text.OneLine domain := by
  intro c hc
  constructor
  · rintro rfl
    exact h.not_mem (by decide) hc
  · rintro rfl
    exact h.not_mem (by decide) hc

theorem oneLine_append {line rest : List Char} :
    Text.OneLine (line ++ rest) ↔ Text.OneLine line ∧ Text.OneLine rest := List.forall_mem_append

theorem oneLine_hostPattern {domain : List Char} (h : IsDomain domain) :
    Text.OneLine (hostPattern domain) := by
  unfold hostPattern
  rw [oneLine_append, oneLine_append]
  refine ⟨⟨by decide, ?_⟩, by decide⟩
  intro c hc
  obtain ⟨d, hd, hc⟩ := List.mem_flatMap.mp hc
  split at hc
  · have hescape : ∀ c ∈ ['\\', '.'], c ≠ '\n' ∧ c ≠ '\r' := by decide
    exact hescape c hc
  · rw [List.mem_singleton.mp hc]
    exact h.oneLine d hd

theorem oneLine_date (today : Date) : Text.OneLine today.text := by
  have hpadded (width n : Nat) : Text.OneLine ((Nat.toDigits 10 n).leftpad width '0') := by
    intro c hc
    rw [List.leftpad, List.mem_append] at hc
    have hdigit : c.isDigit = true := by
      rcases hc with hc | hc
      · rw [List.eq_of_mem_replicate hc]
        rfl
      · exact Nat.isDigit_of_mem_toDigits (by omega) (by omega) hc
    constructor
    · rintro rfl
      cases hdigit
    · rintro rfl
      cases hdigit
  have hdash {line : List Char} (h : Text.OneLine line) : Text.OneLine ('-' :: line) := by
    rw [← List.singleton_append, oneLine_append]
    exact ⟨by decide, h⟩
  unfold Date.text
  dsimp only
  rw [oneLine_append, oneLine_append]
  exact ⟨⟨hpadded 4 _, hdash (hpadded 2 _)⟩, hdash (hpadded 2 _)⟩

theorem oneLine_headerLines (today : Date) : ∀ line ∈ headerLines today, Text.OneLine line := by
  simp only [headerLines, List.forall_mem_cons]
  have haddress : Text.OneLine ("# GFW list from ".toList ++ "https://github.com/gfwlist/".toList ++
      "gfwlist/blob/master/gfwlist.txt".toList) :=
    oneLine_append.mpr ⟨oneLine_append.mpr ⟨by decide, by decide⟩, by decide⟩
  exact ⟨by decide, haddress, oneLine_append.mpr ⟨by decide, oneLine_date today⟩, by decide,
    by decide, by decide, by decide, by decide, by decide⟩

theorem foldl_add (domains : List (List Char)) (content : AclContent) :
    domains.foldl AclContent.add content =
      ⟨content.ip ++ unlines (domains.filter fun domain => inetAton domain),
        content.proxy ++
          unlines ((domains.filter fun domain => !inetAton domain).map hostPattern)⟩ := by
  induction domains generalizing content with
  | nil => simp [unlines]
  | cons domain domains ih =>
      rw [List.foldl_cons, ih, AclContent.add]
      split
      · rename_i hip
        simp [unlines, hip]
      · rename_i hname
        simp [unlines, hname]

/-- The lines of the list that is generated. -/
def aclLines (today : Date) (domains : List (List Char)) : List (List Char) :=
  headerLines today ++ (domains.filter fun domain => inetAton domain) ++
    (domains.filter fun domain => !inetAton domain).map hostPattern

theorem generateAcl_eq (today : Date) (domains : List (List Char)) :
    generateAcl today domains = unlines (aclLines today (domains.insertionSort (· ≤ ·))) := by
  unfold generateAcl
  dsimp only
  rw [foldl_add]
  simp [header, unlines, aclLines]

theorem oneLine_aclLines (today : Date) {domains : List (List Char)}
    (h : ∀ domain ∈ domains, IsDomain domain) :
    ∀ line ∈ aclLines today domains, Text.OneLine line := by
  intro line hline
  unfold aclLines at hline
  rw [List.mem_append, List.mem_append, List.mem_filter, List.mem_map] at hline
  rcases hline with (hline | ⟨hdomain, -⟩) | ⟨domain, hdomain, rfl⟩
  · exact oneLine_headerLines today line hline
  · exact (h line hdomain).oneLine
  · exact oneLine_hostPattern (h domain (List.mem_of_mem_filter hdomain))

/-- The test for a host pattern. -/
def IsHostPattern (line : List Char) : Prop :=
  line ≠ [] ∧ line.head? ≠ some '#' ∧ line.head? ≠ some '[' ∧ inetAton line = false

theorem not_isHostPattern_headerLines (today : Date) {line : List Char}
    (h : line ∈ headerLines today) : ¬ IsHostPattern line := by
  rintro ⟨hne, hcomment, hsection, -⟩
  simp only [headerLines, List.mem_cons, List.not_mem_nil, or_false] at h
  rcases h with rfl | rfl | rfl | rfl | rfl | rfl | rfl | rfl | rfl
  · exact hcomment rfl
  · exact hcomment rfl
  · exact hcomment rfl
  · exact hcomment rfl
  · exact hne rfl
  · exact hsection rfl
  · exact hne rfl
  · exact hsection rfl
  · exact hne rfl

/-- A number starts with a digit. -/
theorem cNumber_of_head {c : Char} (h : c.isDigit = false) (digits : List Char) :
    cNumber (c :: digits) = none := by
  have hzero : c ≠ '0' := by
    rintro rfl
    cases h
  have hdecimal : cDigits 10 (c :: digits) = none := by
    rw [cDigits, List.isEmpty_cons, if_neg (by decide), List.foldlM_cons]
    simp [h]
  unfold cNumber
  split
  · simp_all
  · simp_all
  · simp_all
  · exact hdecimal

/-- An address does, too. -/
theorem inetAton_of_head {c : Char} (hdigit : c.isDigit = false) (hspace : isSpace c = false)
    (hdot : c ≠ '.') (text : List Char) : inetAton (c :: text) = false := by
  unfold inetAton
  rw [List.takeWhile_cons_of_pos (by simp [hspace]), List.splitOn, List.splitOnP_cons_eq_if_modifyHead,
    if_neg (by simpa using hdot)]
  cases List.splitOnP (· == '.') (text.takeWhile fun c => !isSpace c) with
  | nil => rfl
  | cons first parts =>
      rw [List.modifyHead_cons, List.mapM_cons, cNumber_of_head hdigit]
      rfl

theorem isHostPattern_hostPattern (domain : List Char) : IsHostPattern (hostPattern domain) := by
  obtain ⟨rest, hrest⟩ : ∃ rest, hostPattern domain = '(' :: rest := ⟨_, rfl⟩
  rw [hrest]
  exact ⟨by simp, by simp, by simp, inetAton_of_head rfl rfl (by decide) rest⟩

theorem mem_hostPatterns_iff (today : Date) {domains : List (List Char)}
    (h : ∀ domain ∈ domains, IsDomain domain) (line : List Char) :
    line ∈ hostPatterns (generateAcl today domains) ↔
      ∃ domain ∈ domains, inetAton domain = false ∧ line = hostPattern domain := by
  have hsorted : ∀ domain ∈ domains.insertionSort (· ≤ ·), IsDomain domain := by
    intro domain hdomain
    exact h domain ((List.mem_insertionSort _).mp hdomain)
  have hlines : Text.readLines (generateAcl today domains) =
      aclLines today (domains.insertionSort (· ≤ ·)) := by
    rw [generateAcl_eq, unlines, Text.readLines_flatMap _ (oneLine_aclLines today hsorted)]
  have hkept : line ∈ hostPatterns (generateAcl today domains) ↔
      line ∈ aclLines today (domains.insertionSort (· ≤ ·)) ∧ IsHostPattern line := by
    rw [hostPatterns, hlines, List.mem_filter]
    simp [IsHostPattern, and_assoc]
  rw [hkept]
  unfold aclLines
  rw [List.mem_append, List.mem_append, List.mem_filter, List.mem_map]
  constructor
  · rintro ⟨(hline | ⟨-, hip⟩) | ⟨domain, hdomain, rfl⟩, hpattern⟩
    · exact absurd hpattern (not_isHostPattern_headerLines today hline)
    · rw [hpattern.2.2.2] at hip
      cases hip
    · obtain ⟨hmem, hname⟩ := List.mem_filter.mp hdomain
      exact ⟨domain, (List.mem_insertionSort _).mp hmem, by simpa using hname, rfl⟩
  · rintro ⟨domain, hdomain, hname, rfl⟩
    refine ⟨Or.inr ⟨domain, List.mem_filter.mpr ⟨?_, by simp [hname]⟩, rfl⟩,
      isHostPattern_hostPattern domain⟩
    exact (List.mem_insertionSort _).mpr hdomain

end Lines

end WifiProject.Gfwlist
