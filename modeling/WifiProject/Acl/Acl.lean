import WifiProject.Lib.SortedList
import WifiProject.Net.Subnet

/-!
Access control lists. `parse` reads lines into sections, `fromReader` fills the
sorted lists of an `Acl`, and `flatten` replaces imports by what they lead to.
Addresses, URLs and sorted lists belong to the platform.
-/

namespace WifiProject

open Lib Net

/-- The sorted lists are given by the adds since they were cleared. `Url` is the
type of `java.net.URL`. -/
structure Acl (Url : Type) where
  bypassHostnames : List String := []
  proxyHostnames : List String := []
  subnets : List Subnet := []
  urls : List Url := []
  bypass : Bool := false
  deriving DecidableEq

namespace Acl

/-- What the rules are built with. -/
structure Platform (Url : Type) where
  parseNumericAddress : String → Option InetAddress
  hostAddress : InetAddress → String
  /-- `URL(spec)`, which may throw a `MalformedURLException`. -/
  parseUrl : String → Except String Url
  urlToString : Url → String
  /-- The URLs the sorter takes for one. -/
  sameUrl : Url → Url → Prop
  hostnames : Sorter String Eq
  subnets : Sorter Subnet Eq
  urls : Sorter Url sameUrl

inductive Failure where
  | unrecognizedBlock (message : String)
  | malformedURL (message : String)
  deriving DecidableEq, Repr

/-- Where entries go; outside of both, in a block list, they are dropped. -/
inductive Side where
  | bypass
  | proxy
  deriving DecidableEq, Repr

def Side.header : Side → String
  | .bypass => "[bypass_list]"
  | .proxy => "[proxy_list]"

/-- The variables of the parser and what it has handed to its callbacks. The
hostname and the subnet section always change together. -/
structure Parse (Url : Type) where
  bypass : Bool
  side : Option Side
  bypassHostnames : List String := []
  proxyHostnames : List String := []
  bypassSubnets : List Subnet := []
  proxySubnets : List Subnet := []
  urls : List Url := []

/-- `\s` of a regular expression. -/
def isRegexSpace (c : Char) : Bool :=
  c = ' ' || c = '\t' || c = '\n' || c = '\x0B' || c = '\x0C' || c = '\r'

def importWord : List Char := "IMPORT_URL".toList

/-- The group of `^IMPORT_URL\s*<(.+)>\s*$`. Spaces are not brackets, so the last
character that is no space has to close the group. -/
def networkAclParser (text : List Char) : Option (List Char) :=
  if importWord.isPrefixOf text then
    match (text.drop importWord.length).dropWhile isRegexSpace with
    | '<' :: rest =>
        match (rest.rdropWhile isRegexSpace).reverse with
        | '>' :: group =>
            if group = [] ∨ group.any Text.isLineTerminator then none else some group.reverse
        | _ => none
    | _ => none
  else none

section

variable {Url : Type} (platform : Platform Url)

/-- A line that starts with a bracket. -/
def Parse.block (state : Parse Url) (input : String) : Except (Failure × Parse Url) (Parse Url) :=
  if input = "[outbound_block_list]" then .ok { state with side := none }
  else if input = "[black_list]" ∨ input = "[bypass_list]" then
    .ok { state with side := some .bypass }
  else if input = "[white_list]" ∨ input = "[proxy_list]" then
    .ok { state with side := some .proxy }
  else if input = "[reject_all]" ∨ input = "[bypass_all]" then .ok { state with bypass := true }
  else if input = "[accept_all]" ∨ input = "[proxy_all]" then .ok { state with bypass := false }
  else .error (.unrecognizedBlock ("Unrecognized block: " ++ input), state)

/-- Hostnames and subnets for the lists of a side. -/
def Parse.add (side : Side) (hostnames : List String) (subnets : List Subnet)
    (state : Parse Url) : Parse Url :=
  match side with
  | .bypass =>
      { state with
        bypassHostnames := state.bypassHostnames ++ hostnames
        bypassSubnets := state.bypassSubnets ++ subnets }
  | .proxy =>
      { state with
        proxyHostnames := state.proxyHostnames ++ hostnames
        proxySubnets := state.proxySubnets ++ subnets }

/-- A hostname or a subnet. -/
def Parse.entry (state : Parse Url) (input : List Char) : Parse Url :=
  match state.side with
  | none => state
  | some side =>
      match Subnet.fromString platform.parseNumericAddress input with
      | none => state.add side [String.ofList input] []
      | some subnet => state.add side [] [subnet]

/-- The comment of a line may be an import. -/
def Parse.comment (state : Parse Url) (text : List Char) :
    Except (Failure × Parse Url) (Parse Url) :=
  match networkAclParser text with
  | none => .ok state
  | some url =>
      match platform.parseUrl (String.ofList url) with
      | .error message => .error (.malformedURL message, state)
      | .ok url => .ok { state with urls := state.urls ++ [url] }

/-- What stands before the comment, trimmed. -/
def Parse.input (state : Parse Url) (input : List Char) :
    Except (Failure × Parse Url) (Parse Url) :=
  if input.head? = some '[' then state.block (String.ofList input)
  else if input = [] then .ok state
  else .ok (state.entry platform input)

def Parse.line (state : Parse Url) (line : List Char) :
    Except (Failure × Parse Url) (Parse Url) :=
  (state.comment platform ((Text.cut '#' line).2.getD [])).bind fun state =>
    state.input platform (Text.trim (Text.cut '#' line).1)

/-- Line after line. A failure keeps what was read before it. -/
def Parse.lines : List (List Char) → Parse Url → Except (Failure × Parse Url) (Parse Url)
  | [], state => .ok state
  | line :: rest, state => (state.line platform line).bind (Parse.lines rest)

def Parse.start (defaultBypass : Bool) : Parse Url where
  bypass := defaultBypass
  side := some (if defaultBypass then .proxy else .bypass)

/-- `parse` with callbacks for hostnames and URLs. -/
def parse (text : String) (defaultBypass : Bool) : Except (Failure × Parse Url) (Parse Url) :=
  Parse.lines platform (Text.readLines text.toList) (Parse.start defaultBypass)

/-- The subnets of the mode. -/
def Parse.subnets (state : Parse Url) : List Subnet :=
  if state.bypass then state.proxySubnets else state.bypassSubnets

def Parse.toAcl (state : Parse Url) : Acl Url where
  bypassHostnames := state.bypassHostnames
  proxyHostnames := state.proxyHostnames
  subnets := state.subnets
  urls := state.urls
  bypass := state.bypass

/-- `fromReader` on an object. A failure leaves the hostnames and URLs read so
far, no subnets, and the mode as it was. -/
def fromReader (acl : Acl Url) (text : String) (defaultBypass : Bool) :
    Except (Failure × Acl Url) (Acl Url) :=
  match parse platform text defaultBypass with
  | .ok state => .ok state.toAcl
  | .error (failure, state) => .error (failure,
      { bypassHostnames := state.bypassHostnames
        proxyHostnames := state.proxyHostnames
        subnets := []
        urls := state.urls
        bypass := acl.bypass })

/-- The hostnames and subnets of an imported list; subnets for the other mode
are discarded. -/
def merge (acl child : Acl Url) : Acl Url :=
  let child := if acl.bypass ≠ child.bypass then { child with subnets := [], bypass := acl.bypass }
    else child
  { acl with
    bypassHostnames := acl.bypassHostnames ++ platform.hostnames.items child.bypassHostnames
    proxyHostnames := acl.proxyHostnames ++ platform.hostnames.items child.proxyHostnames
    subnets := acl.subnets ++ platform.subnets.items child.subnets }

/-- The imports of a list, one after the other. -/
def importAll (load : Bool → Url → Except Failure (Acl Url)) :
    List Url → Acl Url → Except Failure (Acl Url)
  | [], acl => .ok acl
  | url :: rest, acl => (load acl.bypass url).bind fun child =>
      importAll load rest (merge platform acl child)

/-- The list behind a URL; `connect` gives its text. -/
def download (connect : Url → String) (bypass : Bool) (url : Url) : Except Failure (Acl Url) :=
  (fromReader platform {} (connect url) bypass).mapError Prod.fst

/-- `flatten` with as many levels of imports. -/
def flattenLevels (connect : Url → String) : Nat → Acl Url → Except Failure (Acl Url)
  | 0, acl => .ok { acl with urls := [] }
  | depth + 1, acl =>
      (importAll platform
        (fun bypass url => (download platform connect bypass url).bind
          (flattenLevels connect depth))
        (platform.urls.items acl.urls) acl).map fun acl => { acl with urls := [] }

/-- `flatten`; a depth of zero or less imports nothing. -/
def flatten (connect : Url → String) (depth : Int) (acl : Acl Url) : Except Failure (Acl Url) :=
  flattenLevels platform connect depth.toNat acl

def bypassList (acl : Acl Url) : List (List Char) :=
  let hostnames := (platform.hostnames.items acl.bypassHostnames).map String.toList
  if acl.bypass then hostnames
  else (platform.subnets.items acl.subnets).map (Subnet.toString platform.hostAddress) ++ hostnames

def proxyList (acl : Acl Url) : List (List Char) :=
  let hostnames := (platform.hostnames.items acl.proxyHostnames).map String.toList
  if acl.bypass then
    (platform.subnets.items acl.subnets).map (Subnet.toString platform.hostAddress) ++ hostnames
  else hostnames

/-- A list under its header, or nothing. -/
def appendList (header : String) (entries : List (List Char)) : List Char :=
  if entries = [] then [] else header.toList ++ '\n' :: ['\n'].intercalate entries ++ ['\n']

def importLine (url : Url) : List Char :=
  '#' :: (importWord ++ ' ' :: '<' :: (platform.urlToString url).toList ++ ['>'])

def toString (acl : Acl Url) : String :=
  String.ofList ((if acl.bypass then "[bypass_all]" else "[proxy_all]").toList ++ '\n' ::
    (appendList (Side.header .bypass) (bypassList platform acl) ++
      appendList (Side.header .proxy) (proxyList platform acl) ++
      (platform.urls.items acl.urls).flatMap fun url => importLine platform url ++ ['\n']))

end

/-- A platform for IPv4 rules and plain `http` URLs. -/
def plainPlatform : Platform String where
  parseNumericAddress := parseDotted
  hostAddress := dotted
  parseUrl spec :=
    if "http://".toList.isPrefixOf spec.toList then .ok spec else .error ("no protocol: " ++ spec)
  urlToString url := url
  sameUrl := Eq
  hostnames := .byLastAdd
  subnets := .byLastAdd
  urls := .byLastAdd

end Acl

end WifiProject
