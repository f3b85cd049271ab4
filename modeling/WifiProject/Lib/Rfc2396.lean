import WifiProject.Lib.Decimal
import WifiProject.Lib.Text

/-!
The generic syntax of URIs in the reading of RFC 2396 that a permissive parser
takes: an authority is a server if it can be, and otherwise a registry. Of a
parsed URI only the server's host and port are kept. Texts are ASCII.
-/

namespace WifiProject.Lib.Rfc2396

def marks : List Char := "_-!.~'()*".toList

def isHex (c : Char) : Bool := c.isDigit || ('a' ≤ c && c ≤ 'f') || ('A' ≤ c && c ≤ 'F')

def isUnreserved (c : Char) : Bool := c.isAlphanum || c ∈ marks

def isUserInfo (c : Char) : Bool := isUnreserved c || c ∈ ";:&=+$,".toList

def isRegName (c : Char) : Bool := isUserInfo c || c = '@'

def isPath (c : Char) : Bool := isUserInfo c || c = '@' || c = '/'

def isUric (c : Char) : Bool := isUserInfo c || c ∈ "@/?[]".toList

/-- Only allowed characters and escape pairs. -/
def legal (allowed : Char → Bool) : List Char → Bool
  | [] => true
  | '%' :: high :: low :: text => isHex high && isHex low && legal allowed text
  | c :: text => allowed c && legal allowed text

/-! Hosts. -/

def isByte (part : List Char) : Bool :=
  !part.isEmpty && part.all Char.isDigit && Nat.ofDigitChars 10 part 0 ≤ 255

def isIPv4 (text : List Char) : Bool :=
  (text.splitOn '.').length = 4 && (text.splitOn '.').all isByte

def isLabel (label : List Char) : Bool :=
  label.all (fun c => c.isAlphanum || c = '-') && label.head?.any Char.isAlphanum &&
    label.getLast?.any Char.isAlphanum

/-- The labels of a name; one dot may follow the last of them. -/
def labels (text : List Char) : List (List Char) :=
  let fields := text.splitOn '.'
  if 1 < fields.length ∧ fields.getLast? = some [] then fields.dropLast else fields

/-- The last of several labels starts with a letter. -/
def isHostname (text : List Char) : Bool :=
  (labels text).all isLabel &&
    ((labels text).length = 1 ||
      (labels text).getLast?.any fun label => label.head?.any Char.isAlpha)

def isHexGroup (group : List Char) : Bool :=
  !group.isEmpty && group.length ≤ 4 && group.all isHex

/-- The bytes in groups of hexadecimal digits; the last group may be an IPv4
address where one can stand. -/
def groupBytes (ipv4 : Bool) : List (List Char) → Option Nat
  | [] => some 0
  | [group] =>
      if isHexGroup group then some 2 else if ipv4 && isIPv4 group then some 4 else none
  | group :: groups =>
      if isHexGroup group then (groupBytes ipv4 groups).map (2 + ·) else none

/-- What stands before and after the first pair of colons. -/
def halves : List Char → Option (List Char × List Char)
  | [] => none
  | ':' :: ':' :: text => some ([], text)
  | c :: text => (halves text).map fun (before, after) => (c :: before, after)

def colonGroups (text : List Char) : List (List Char) :=
  if text.isEmpty then [] else text.splitOn ':'

def isIPv6 (text : List Char) : Bool :=
  match halves text with
  | none => groupBytes true (colonGroups text) = some 16
  | some (before, after) =>
      match groupBytes false (colonGroups before), groupBytes true (colonGroups after) with
      | some first, some last => first + last < 16
      | _, _ => false

def isScope (c : Char) : Bool := c.isAlphanum || c = '_' || c = '.'

/-- What may stand between brackets: an IPv6 address, perhaps with a scope. -/
def isBracketed (text : List Char) : Bool :=
  match Text.cut '%' text with
  | (address, none) => isIPv6 address
  | (address, some scope) => isIPv6 address && !scope.isEmpty && scope.all isScope

/-- A host and what follows it. -/
def takeHost : List Char → Option (List Char × List Char)
  | '[' :: text =>
      match Text.cut ']' text with
      | (address, some rest) =>
          if isBracketed address then some ('[' :: address ++ [']'], rest) else none
      | (_, none) => none
  | text =>
      let (host, rest) := text.span (· ≠ ':')
      if isIPv4 host || isHostname host then some (host, rest) else none

/-- A port that is left out is -1. -/
def parsePort : List Char → Option Int
  | [] => some (-1)
  | [':'] => some (-1)
  | ':' :: digits =>
      if digits.all Char.isDigit && Nat.ofDigitChars 10 digits 0 < 2 ^ 31 then
        some (Nat.ofDigitChars 10 digits 0)
      else none
  | _ => none

/-- What follows the user info of an authority, if the user info is legal. -/
def afterUserInfo (authority : List Char) : Option (List Char) :=
  match Text.cut '@' authority with
  | (_, none) => some authority
  | (info, some rest) => if legal isUserInfo info then some rest else none

/-- An authority as a server. -/
def parseServer (authority : List Char) : Option (List Char × Int) :=
  (afterUserInfo authority).bind fun text =>
    (takeHost text).bind fun (host, rest) => (parsePort rest).map fun port => (host, port)

structure Uri where
  host : Option String
  port : Int
  deriving DecidableEq, Repr

/-- A URI without a server. -/
def Uri.serverless : Uri := ⟨none, -1⟩

def parseAuthority (authority : List Char) : Option Uri :=
  match parseServer authority with
  | some (host, port) => some ⟨some (String.ofList host), port⟩
  | none => if legal isRegName authority then some .serverless else none

def isFragment : List Char → Bool
  | '#' :: text => legal isUric text
  | _ => true

def isQuery : List Char → Bool
  | '?' :: text =>
      let (query, rest) := text.span (· ≠ '#')
      legal isUric query && isFragment rest
  | text => isFragment text

/-- The path, the query and the fragment are legal. -/
def isTail (text : List Char) : Bool :=
  let (path, rest) := text.span fun c => c ≠ '?' && c ≠ '#'
  legal isPath path && isQuery rest

def endsAuthority (c : Char) : Bool := c = '/' || c = '?' || c = '#'

/-- What follows the scheme. An empty authority has to be followed by something. -/
def parseHierarchical : List Char → Option Uri
  | '/' :: '/' :: text =>
      let (authority, tail) := text.span fun c => !endsAuthority c
      if authority.isEmpty then if !tail.isEmpty && isTail tail then some .serverless else none
      else (parseAuthority authority).bind fun uri => if isTail tail then some uri else none
  | text => if isTail text then some .serverless else none

/-- A URI whose scheme is not followed by a slash. -/
def parseSchemeSpecific (text : List Char) : Option Uri :=
  let (part, rest) := text.span (· ≠ '#')
  if !part.isEmpty && legal isUric part && isFragment rest then some .serverless else none

def isSchemeChar (c : Char) : Bool := c.isAlphanum || c = '+' || c = '-' || c = '.'

def isScheme (scheme : List Char) : Bool :=
  scheme.head?.any Char.isAlpha && scheme.all isSchemeChar

/-- The whole text as a URI; `none` is a syntax error. -/
def parse (text : List Char) : Option Uri :=
  match text.span fun c => c ≠ ':' && !endsAuthority c with
  | (scheme, ':' :: '/' :: rest) => if isScheme scheme then parseHierarchical ('/' :: rest) else none
  | (scheme, ':' :: rest) => if isScheme scheme then parseSchemeSpecific rest else none
  | _ => parseHierarchical text

example : parse "ss://bWV0@[2001:db8::1]:8388?plugin=x#n".toList =
    some ⟨some "[2001:db8::1]", 8388⟩ := by decide +kernel

example : parse "ss://bWV0@a_b:8388".toList = some .serverless := by decide +kernel

/-! The characters of hosts. -/

section Hosts

variable {text : List Char} {c : Char}

theorem digit_or_dot_of_isIPv4 (h : isIPv4 text = true) (hc : c ∈ text) :
    c.isDigit = true ∨ c = '.' := by
  simp only [isIPv4, Bool.and_eq_true, List.all_eq_true] at h
  rcases Text.mem_field_of_mem '.' hc with hdot | ⟨field, hfield, hc⟩
  · exact Or.inr hdot
  · have hbyte := h.2 field hfield
    simp only [isByte, Bool.and_eq_true, List.all_eq_true] at hbyte
    exact Or.inl (hbyte.1.2 c hc)

theorem label_or_dot_of_isHostname (h : isHostname text = true) (hc : c ∈ text) :
    c.isAlphanum = true ∨ c = '-' ∨ c = '.' := by
  simp only [isHostname, Bool.and_eq_true, List.all_eq_true] at h
  rcases Text.mem_field_of_mem '.' hc with hdot | ⟨field, hfield, hc⟩
  · exact Or.inr (Or.inr hdot)
  · have hlabel : field ∈ labels text := by
      simp only [labels]
      split
      · rename_i hlast
        have hfields := List.dropLast_append_getLast? [] hlast.2
        rw [← hfields, List.mem_append, List.mem_singleton] at hfield
        rcases hfield with hfield | rfl
        · exact hfield
        · simp at hc
      · exact hfield
    have hchars := h.1 field hlabel
    simp only [isLabel, Bool.and_eq_true, List.all_eq_true, Bool.or_eq_true,
      decide_eq_true_eq] at hchars
    rcases hchars.1.1 c hc with halnum | hdash
    · exact Or.inl halnum
    · exact Or.inr (Or.inl hdash)

theorem chars_of_groupBytes {ipv4 : Bool} {groups : List (List Char)} {bytes : Nat}
    (h : groupBytes ipv4 groups = some bytes) {group : List Char} (hgroup : group ∈ groups)
    (hc : c ∈ group) : isHex c = true ∨ c = '.' := by
  fun_induction groupBytes ipv4 groups generalizing bytes with
  | case1 => simp at hgroup
  | case2 only hhex =>
      rw [List.mem_singleton.mp hgroup] at hc
      simp only [isHexGroup, Bool.and_eq_true, List.all_eq_true] at hhex
      exact Or.inl (hhex.2 c hc)
  | case3 only hhex hipv4 =>
      rw [List.mem_singleton.mp hgroup] at hc
      simp only [Bool.and_eq_true] at hipv4
      rcases digit_or_dot_of_isIPv4 hipv4.2 hc with hdigit | hdot
      · exact Or.inl (by simp [isHex, hdigit])
      · exact Or.inr hdot
  | case4 => cases h
  | case5 first groups hne hhex ih =>
      rcases List.mem_cons.mp hgroup with rfl | hgroup
      · simp only [isHexGroup, Bool.and_eq_true, List.all_eq_true] at hhex
        exact Or.inl (hhex.2 c hc)
      · cases hrest : groupBytes ipv4 groups with
        | none => simp [hrest] at h
        | some rest => exact ih hrest hgroup
  | case6 => cases h

theorem chars_of_colonGroups {ipv4 : Bool} {bytes : Nat}
    (h : groupBytes ipv4 (colonGroups text) = some bytes) (hc : c ∈ text) :
    isHex c = true ∨ c = '.' ∨ c = ':' := by
  have hgroups : colonGroups text = text.splitOn ':' := by
    unfold colonGroups
    rw [if_neg]
    simpa using List.ne_nil_of_mem hc
  rw [hgroups] at h
  rcases Text.mem_field_of_mem ':' hc with hcolon | ⟨group, hgroup, hc⟩
  · exact Or.inr (Or.inr hcolon)
  · rcases chars_of_groupBytes h hgroup hc with hhex | hdot
    · exact Or.inl hhex
    · exact Or.inr (Or.inl hdot)

theorem halves_eq_some {before after : List Char} (h : halves text = some (before, after)) :
    text = before ++ ':' :: ':' :: after := by
  fun_induction halves text generalizing before with
  | case1 => cases h
  | case2 rest =>
      cases h
      rfl
  | case3 d rest hne ih =>
      cases hrest : halves rest with
      | none => simp [hrest] at h
      | some pair =>
          simp only [hrest, Option.map_some, Option.some.injEq, Prod.mk.injEq] at h
          obtain ⟨rfl, rfl⟩ := h
          rw [ih hrest]
          rfl

/-- An address has hexadecimal digits, dots and at least one colon. -/
theorem chars_of_isIPv6 (h : isIPv6 text = true) :
    (∀ c ∈ text, isHex c = true ∨ c = '.' ∨ c = ':') ∧ ':' ∈ text := by
  unfold isIPv6 at h
  split at h
  · have hbytes : groupBytes true (colonGroups text) = some 16 := by simpa using h
    refine ⟨fun c hc => chars_of_colonGroups hbytes hc, ?_⟩
    by_contra hnone
    have hone : colonGroups text = [] ∨ colonGroups text = [text] := by
      unfold colonGroups
      split
      · exact Or.inl rfl
      · exact Or.inr (List.splitOn_eq_singleton hnone)
    rcases hone with hnil | hone
    · simp [hnil, groupBytes] at hbytes
    · rw [hone, groupBytes] at hbytes
      split_ifs at hbytes <;> simp at hbytes
  · rename_i before after hhalves
    obtain rfl := halves_eq_some hhalves
    split at h
    · rename_i first last hfirst hlast
      refine ⟨?_, by simp⟩
      intro c hc
      rcases List.mem_append.mp hc with hc | hc
      · exact chars_of_colonGroups hfirst hc
      · simp only [List.mem_cons] at hc
        rcases hc with rfl | rfl | hc
        · exact Or.inr (Or.inr rfl)
        · exact Or.inr (Or.inr rfl)
        · exact chars_of_colonGroups hlast hc
    · cases h

/-- A host that can be written in an authority. -/
def isHost (host : List Char) : Bool := isIPv4 host || isHostname host || isIPv6 host

/-- A host as it is written in an authority. -/
def bracket (host : List Char) : List Char := if ':' ∈ host then '[' :: (host ++ [']']) else host

def isHostChar (c : Char) : Bool := c.isAlphanum || c ∈ "-.:[]".toList

theorem isAlphanum_of_isHex (h : isHex c = true) : c.isAlphanum = true := by
  simp only [isHex, Bool.or_eq_true, Bool.and_eq_true, decide_eq_true_eq] at h
  have halphanum : c.isAlphanum = (c.isUpper || c.isLower || c.isDigit) := rfl
  rw [halphanum]
  rcases h with (hdigit | hlower) | hupper
  · rw [hdigit, Bool.or_true]
  · have hz : c ≤ 'z' := Char.le_trans hlower.2 (by decide)
    have hisLower : c.isLower = true := by
      show (decide ('a' ≤ c) && decide (c ≤ 'z')) = true
      simp [hlower.1, hz]
    rw [hisLower, Bool.or_true, Bool.true_or]
  · have hz : c ≤ 'Z' := Char.le_trans hupper.2 (by decide)
    have hisUpper : c.isUpper = true := by
      show decide ('A' ≤ c ∧ c ≤ 'Z') = true
      exact decide_eq_true ⟨hupper.1, hz⟩
    rw [hisUpper, Bool.true_or, Bool.true_or]

/-- Only an IPv6 address has colons. -/
theorem isHost_cases (h : isHost text = true) :
    (isIPv6 text = true ∧ ':' ∈ text ∧ ∀ c ∈ text, isHex c = true ∨ c = '.' ∨ c = ':') ∨
      ((isIPv4 text || isHostname text) = true ∧
        ∀ c ∈ text, c.isAlphanum = true ∨ c = '-' ∨ c = '.') := by
  simp only [isHost, Bool.or_eq_true] at h
  rcases h with (hipv4 | hname) | hipv6
  · refine Or.inr ⟨by simp [hipv4], ?_⟩
    intro c hc
    rcases digit_or_dot_of_isIPv4 hipv4 hc with hdigit | hdot
    · exact Or.inl (by simp [Char.isAlphanum, hdigit])
    · exact Or.inr (Or.inr hdot)
  · exact Or.inr ⟨by simp [hname], fun c hc => label_or_dot_of_isHostname hname hc⟩
  · have hchars := chars_of_isIPv6 hipv6
    exact Or.inl ⟨hipv6, hchars.2, hchars.1⟩

theorem isHostChar_of_mem_bracket (h : isHost text = true) (hc : c ∈ bracket text) :
    isHostChar c = true := by
  have hbare : c ∈ text → isHostChar c = true := by
    intro hc
    rcases isHost_cases h with ⟨-, -, hchars⟩ | ⟨-, hchars⟩
    · rcases hchars c hc with hhex | rfl | rfl
      · simp [isHostChar, isAlphanum_of_isHex hhex]
      · decide
      · decide
    · rcases hchars c hc with halnum | rfl | rfl
      · simp [isHostChar, halnum]
      · decide
      · decide
  unfold bracket at hc
  split at hc
  · simp only [List.mem_cons, List.mem_append, List.not_mem_nil, or_false] at hc
    rcases hc with rfl | hc | rfl
    · decide
    · exact hbare hc
    · decide
  · exact hbare hc

theorem takeHost_bracket (h : isHost text = true) {rest : List Char}
    (hrest : ∀ c ∈ rest.head?, c = ':') :
    takeHost (bracket text ++ rest) = some (bracket text, rest) := by
  rcases isHost_cases h with ⟨hipv6, hcolon, hchars⟩ | ⟨hname, hchars⟩
  · have hclose : ']' ∉ text := fun hmem => by
      rcases hchars _ hmem with hhex | hdot | hcolon
      · exact absurd hhex (by decide)
      · exact absurd hdot (by decide)
      · exact absurd hcolon (by decide)
    have hscope : '%' ∉ text := fun hmem => by
      rcases hchars _ hmem with hhex | hdot | hcolon
      · exact absurd hhex (by decide)
      · exact absurd hdot (by decide)
      · exact absurd hcolon (by decide)
    have hbracketed : isBracketed text = true := by
      rw [isBracketed, Text.cut_of_not_mem hscope]
      exact hipv6
    have hwritten : bracket text = '[' :: (text ++ [']']) := if_pos hcolon
    rw [hwritten, List.cons_append, List.append_assoc, List.singleton_append, takeHost,
      Text.cut_append hclose]
    simp [hbracketed]
  · have hcolon : ':' ∉ text := fun hmem => by
      rcases hchars _ hmem with halnum | hdash | hdot
      · exact absurd halnum (by decide)
      · exact absurd hdash (by decide)
      · exact absurd hdot (by decide)
    have hwritten : bracket text = text := if_neg hcolon
    have hopen : ∀ tail, text ++ rest ≠ '[' :: tail := by
      intro tail heq
      cases htext : text with
      | nil =>
          rw [htext] at hname
          exact absurd hname (by decide)
      | cons first tail' =>
          rw [htext, List.cons_append, List.cons.injEq] at heq
          have hfirst := hchars first (by simp [htext])
          rw [heq.1] at hfirst
          revert hfirst
          decide
    have hspan : (text ++ rest).span (· ≠ ':') = (text, rest) := by
      apply Text.span_append
      · intro c hc
        have hne : c ≠ ':' := fun heq => hcolon (heq ▸ hc)
        simpa using hne
      · intro c hc
        simp [hrest c hc]
    rw [hwritten]
    unfold takeHost
    split
    · rename_i tail heq
      exact absurd heq (hopen tail)
    · simp only [hspan]
      rw [if_pos hname]

end Hosts

section Parse

theorem parsePort_toDigits {port : Nat} (h : port < 2 ^ 31) :
    parsePort (':' :: Nat.toDigits 10 port) = some (port : Int) := by
  have hdigits : (Nat.toDigits 10 port).all Char.isDigit = true := by
    rw [List.all_eq_true]
    exact Decimal.toDigits_isDigit port
  obtain ⟨first, rest, hcons⟩ := List.exists_cons_of_ne_nil
    (Nat.toDigits_ne_nil : Nat.toDigits 10 port ≠ [])
  have hvalue := Nat.ofDigitChars_ten_toDigits (n := port)
  rw [hcons] at hdigits hvalue ⊢
  have hfits : ((first :: rest).all Char.isDigit &&
      decide (Nat.ofDigitChars 10 (first :: rest) 0 < 2 ^ 31)) = true := by
    rw [hdigits, hvalue, decide_eq_true h]
    rfl
  show (if _ then some (Nat.ofDigitChars 10 (first :: rest) 0 : Int) else none) = _
  rw [if_pos hfits, hvalue]

/-- An authority with user info, a host and a port is a server. -/
theorem parseServer_eq {info host : List Char} {port : Nat} (hinfo : legal isUserInfo info = true)
    (hat : '@' ∉ info) (hhost : isHost host = true) (hport : port < 2 ^ 31) :
    parseServer (info ++ '@' :: (bracket host ++ ':' :: Nat.toDigits 10 port)) =
      some (bracket host, (port : Int)) := by
  have hafter : afterUserInfo (info ++ '@' :: (bracket host ++ ':' :: Nat.toDigits 10 port)) =
      some (bracket host ++ ':' :: Nat.toDigits 10 port) := by
    rw [afterUserInfo, Text.cut_append hat]
    simp [hinfo]
  rw [parseServer, hafter, Option.bind_some, takeHost_bracket hhost (by simp), Option.bind_some]
  dsimp only
  rw [parsePort_toDigits hport, Option.map_some]

/-- A character that ends an authority is none of the characters before it. -/
theorem not_endsAuthority {allowed : Char → Bool} (hslash : allowed '/' = false)
    (hquestion : allowed '?' = false) (hnumber : allowed '#' = false) {c : Char}
    (h : allowed c = true) : endsAuthority c = false := by
  rw [Bool.eq_false_iff]
  intro hends
  simp only [endsAuthority, Bool.or_eq_true, decide_eq_true_eq] at hends
  rcases hends with (rfl | rfl) | rfl
  · simp [hslash] at h
  · simp [hquestion] at h
  · simp [hnumber] at h

section Server

variable {info host : List Char} (port : Nat) (hends : ∀ c ∈ info, endsAuthority c = false)
  (hhost : isHost host = true)

include hends hhost

theorem not_endsAuthority_of_server :
    ∀ c ∈ info ++ '@' :: (bracket host ++ ':' :: Nat.toDigits 10 port), endsAuthority c = false := by
  intro c hc
  simp only [List.mem_append, List.mem_cons] at hc
  rcases hc with hc | rfl | hc | rfl | hc
  · exact hends c hc
  · decide
  · exact not_endsAuthority (by decide) (by decide) (by decide) (isHostChar_of_mem_bracket hhost hc)
  · decide
  · exact not_endsAuthority (by decide) (by decide) (by decide) (Decimal.toDigits_isDigit port c hc)

/-- The authority is cut where it ends. -/
theorem span_authority {tail : List Char} (hstart : ∀ c ∈ tail.head?, endsAuthority c = true) :
    (info ++ '@' :: (bracket host ++ ':' :: Nat.toDigits 10 port) ++ tail).span
        (fun c => !endsAuthority c) =
      (info ++ '@' :: (bracket host ++ ':' :: Nat.toDigits 10 port), tail) := by
  apply Text.span_append
  · intro c hc
    simp [not_endsAuthority_of_server port hends hhost c hc]
  · intro c hc
    simp [hstart c hc]

/-- A URI with a server, whatever may follow the authority. -/
theorem parse_server {scheme tail : List Char} (hscheme : isScheme scheme = true)
    (hinfo : legal isUserInfo info = true) (hat : '@' ∉ info) (hport : port < 2 ^ 31)
    (htail : isTail tail = true) (hstart : ∀ c ∈ tail.head?, endsAuthority c = true) :
    parse (scheme ++ ':' :: '/' :: '/' ::
      (info ++ '@' :: (bracket host ++ ':' :: Nat.toDigits 10 port) ++ tail)) =
      some ⟨some (String.ofList (bracket host)), port⟩ := by
  have hspan : (scheme ++ ':' :: '/' :: '/' ::
      (info ++ '@' :: (bracket host ++ ':' :: Nat.toDigits 10 port) ++ tail)).span
        (fun c => c ≠ ':' && !endsAuthority c) = (scheme, ':' :: '/' :: '/' ::
          (info ++ '@' :: (bracket host ++ ':' :: Nat.toDigits 10 port) ++ tail)) := by
    apply Text.span_append
    · intro c hc
      simp only [isScheme, Bool.and_eq_true, List.all_eq_true] at hscheme
      have hchar : isSchemeChar c = true := hscheme.2 c hc
      have hcolon : c ≠ ':' := by
        rintro rfl
        exact absurd hchar (by decide)
      have hother := not_endsAuthority (by decide) (by decide) (by decide) hchar
      simp [hcolon, hother]
    · simp
  have hserver := parseServer_eq hinfo hat hhost hport
  have hauthority := span_authority port hends hhost hstart
  have hne : (info ++ '@' :: (bracket host ++ ':' :: Nat.toDigits 10 port)).isEmpty = false := by
    simp
  simp only [parse, hspan, hscheme, if_true, parseHierarchical, hauthority, hne,
    Bool.false_eq_true, if_false, parseAuthority, hserver, Option.bind_some, htail]

end Server

end Parse

end WifiProject.Lib.Rfc2396
