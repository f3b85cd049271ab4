import WifiProject.Database.SelectedPlugin
import WifiProject.Lib.Base64
import WifiProject.Lib.PercentEncoding

/-!
`ss://` links. `Profile.toUri` writes one; `Profile.findAllUrls` finds them in
free text with a regular expression and takes each of them apart, the newer
kind with the help of two URI parsers and the older one with a second regular
expression. What Android decodes is a parameter.
-/

namespace WifiProject.Database

open Lib Plugin Rfc2396

/-- The codecs of the platform. -/
structure Codecs where
  /-- `UriCodec.decode`; in a query a plus sign is a space. -/
  decode : Bool → String → String
  /-- `Base64.encodeToString` of the UTF-8 bytes, URL-safe and without padding. -/
  encodeBase64 : String → String
  /-- `String(Base64.decode(...))` for URL-safe text. -/
  decodeBase64 : String → Option String
  /-- `String(Base64.decode(...))` for the older links. -/
  decodeLegacy : String → Option String
  /-- `lowercase(Locale.ENGLISH)`. -/
  lowercase : String → String

/-! `pattern` -/

def isUrlChar (c : Char) : Bool := c.isAlphanum || c ∈ "-+&@#/%?=.~*'()|!:,;_[]".toList

/-- The class of the last character has no `?`, `!`, `:`, `,`, `;` and `_`. -/
def isLastUrlChar (c : Char) : Bool := c.isAlphanum || c ∈ "-+&@#/%=.~*'()|[]".toList

/-- The match of the pattern at the start of a text. The star is greedy, so it
gives back no more characters than the last class makes it. -/
def urlAt : List Char → Option (List Char)
  | a :: b :: ':' :: '/' :: '/' :: text =>
      if (a = 's' ∨ a = 'S') ∧ (b = 's' ∨ b = 'S') then
        let body := (text.takeWhile isUrlChar).rdropWhile fun c => !isLastUrlChar c
        if body.isEmpty then none else some (a :: b :: ':' :: '/' :: '/' :: body)
      else none
  | _ => none

/-- `pattern.findAll`. The counter runs through the rest of a match. -/
def findAll : Nat → List Char → List (List Char)
  | _, [] => []
  | skip + 1, _ :: text => findAll skip text
  | 0, c :: text =>
      match urlAt (c :: text) with
      | some url => url :: findAll (url.length - 1) text
      | none => findAll 0 text

/-! `userInfoPattern` and `legacyPattern` -/

/-- A group of `.`. -/
def isDots (group : List Char) : Bool := !group.any Text.isLineTerminator

/-- `^(.+?):(.*)$`. -/
def matchUserInfo (text : List Char) : Option (String × String) :=
  (Text.splits ':' text).findSome? fun (method, password) =>
    if !method.isEmpty && isDots method && isDots password then
      some (String.ofList method, String.ofList password)
    else none

/-- `(.+?):(\d+?)$`. -/
def matchHostPort (text : List Char) : Option (List Char × List Char) :=
  (Text.splits ':' text).find? fun (host, port) =>
    !host.isEmpty && isDots host && !port.isEmpty && port.all fun c => (Decimal.digit c).isSome

/-- `(.*)@(.+?):(\d+?)$`; the password is the longest there can be. -/
def matchPasswordHostPort (text : List Char) : Option (List Char × List Char × List Char) :=
  (Text.splits '@' text).reverse.findSome? fun (password, rest) =>
    if isDots password then (matchHostPort rest).map fun (host, port) => (password, host, port)
    else none

structure LegacyMatch where
  method : String
  password : String
  host : String
  port : String
  deriving DecidableEq, Repr

/-- `^(.+?):(.*)@(.+?):(\d+?)$`. -/
def matchLegacy (text : List Char) : Option LegacyMatch :=
  (Text.splits ':' text).findSome? fun (method, rest) =>
    if !method.isEmpty && isDots method then
      (matchPasswordHostPort rest).map fun (password, host, port) =>
        { method := String.ofList method
          password := String.ofList password
          host := String.ofList host
          port := String.ofList port }
    else none

/-! `android.net.Uri` -/

/-- What follows `ss:` of a link, up to the fragment, and the fragment. -/
def cutFragment (url : List Char) : List Char × Option (List Char) := Text.cut '#' url

def encodedQuery (url : List Char) : Option (List Char) := (Text.cut '?' (cutFragment url).1).2

/-- The authority of a link: what follows `ss://`. -/
def encodedAuthority (url : List Char) : List Char :=
  ((url.drop 5).span fun c => !endsAuthority c).1

/-- What is before and after the last at sign. -/
def splitUserInfo (authority : List Char) : Option (List Char) × List Char :=
  match (Text.splits '@' authority).getLast? with
  | none => (none, authority)
  | some (info, rest) => (some info, rest)

/-- A port at the end of an authority is a colon and digits. -/
def dropPort (text : List Char) : List Char :=
  match (text.rdropWhile Char.isDigit).reverse with
  | ':' :: host => host.reverse
  | _ => text

section Uri

variable (codecs : Codecs)

def userInfo (url : List Char) : Option String :=
  (splitUserInfo (encodedAuthority url)).1.map fun info => codecs.decode false (String.ofList info)

def uriHost (url : List Char) : String :=
  codecs.decode false (String.ofList (dropPort (splitUserInfo (encodedAuthority url)).2))

def uriFragment (url : List Char) : Option String :=
  (cutFragment url).2.map fun fragment => codecs.decode false (String.ofList fragment)

/-- `getQueryParameter(key)`: the first parameter with this name. -/
def getQueryParameter (key : List Char) (url : List Char) : Option String :=
  (encodedQuery url).bind fun query =>
    (query.splitOn '&').findSome? fun parameter =>
      let (name, value) := Text.cut '=' parameter
      if name = encode key then
        some (value.elim "" fun value => codecs.decode true (String.ofList value))
      else none

end Uri

def pluginKey : List Char := "plugin".toList

section FindAllUrls

variable (codecs : Codecs) (feature : Option Profile)

/-- `Profile()` with the settings of the feature profile. -/
def newProfile : Profile := feature.elim {} (·.copyFeatureSettingsTo {})

/-- A link without user info. -/
def parseLegacy (url : List Char) : Option Profile :=
  (codecs.decodeLegacy (uriHost codecs url)).bind fun decoded =>
    (matchLegacy decoded.toList).bind fun found =>
      (Decimal.parseInt found.port).map fun port =>
        { newProfile feature with
          method := codecs.lowercase found.method
          password := found.password
          host := found.host
          remotePort := port
          plugin := getQueryParameter codecs pluginKey url
          name := uriFragment codecs url }

/-- `host.substring(1, host.length - 1)` for a host in brackets. -/
def unwrapHost (host : String) : String :=
  if host.toList.head? = some '[' ∧ host.toList.getLast? = some ']' then
    String.ofList (host.toList.tail.dropLast)
  else host

/-- A link with user info. -/
def parseSip002 (url : List Char) (info : String) : Option Profile :=
  (codecs.decodeBase64 info).bind fun decoded =>
    (matchUserInfo decoded.toList).bind fun found =>
      (Rfc2396.parse url).map fun javaURI =>
        { newProfile feature with
          method := found.1
          password := found.2
          host := unwrapHost (javaURI.host.getD "")
          remotePort := javaURI.port
          plugin := getQueryParameter codecs pluginKey url
          name := some ((uriFragment codecs url).getD "") }

def parseUrl (url : List Char) : Option Profile :=
  match userInfo codecs url with
  | none => parseLegacy codecs feature url
  | some info => parseSip002 codecs feature url info

def findAllUrls (data : String) : List Profile :=
  (findAll 0 data.toList).filterMap (parseUrl codecs feature)

end FindAllUrls

section ToUri

variable (codecs : Codecs) (order : HashOrder) (defaultConfig : String → Option String)

def Profile.userInfoText (profile : Profile) : List Char :=
  (codecs.encodeBase64 (profile.method ++ ":" ++ profile.password)).toList

def Profile.authorityText (profile : Profile) : List Char :=
  profile.userInfoText codecs ++
    '@' :: (bracket profile.host.toList ++ ':' :: (toString profile.remotePort).toList)

/-- `appendQueryParameter(Key.plugin, ...)`. -/
def parameterText (plugin : PluginOptions) : List Char :=
  '?' :: (encode pluginKey ++ '=' :: encode (plugin.toString order false).toList)

def Profile.fragmentText (profile : Profile) : List Char :=
  if isNullOrEmpty profile.name then [] else '#' :: encode (profile.name.getD "").toList

def linkHead : List Char := ['s', 's', ':', '/', '/']

/-- `toUri().toString()`; an error is the message of the check in
`PluginOptions`. -/
def Profile.toUri (profile : Profile) : Except String (List Char) :=
  (PluginConfiguration.new (profile.plugin.getD "")).bind fun configuration =>
    if configuration.selected.isEmpty then
      .ok (linkHead ++ profile.authorityText codecs ++ profile.fragmentText)
    else
      (configuration.getOptions defaultConfig configuration.selected).map fun plugin =>
        linkHead ++ profile.authorityText codecs ++ parameterText order plugin ++
          profile.fragmentText

/-- The links of some profiles, one on each line. -/
def shareText (profiles : List Profile) : Except String String :=
  (profiles.mapM (Profile.toUri codecs order defaultConfig)).map fun links =>
    String.ofList (['\n'].intercalate links)

end ToUri

end WifiProject.Database
