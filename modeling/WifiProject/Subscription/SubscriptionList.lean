import WifiProject.Lib.NeighbourSearch
import WifiProject.Lib.Text
import WifiProject.Lib.Utf16

/-!
The list of subscription URLs: `fromReader` adds every line that is a URL to a
sorted list, `toString` writes one URL a line. The sorter orders by host, port,
file and protocol as they are written. The list asks `URL.equals` of the URL at
the index an added one goes to, whether it compares as equal or is the next
greater one: that takes hosts without their case and a default port for the
absent one, and like the order it does not look at the user info.
-/

namespace WifiProject.Subscription

open Lib

/-- `java.net.URL`. The authority is the host and the port with the user info. -/
structure Url where
  protocol : String
  authority : Option String
  host : String
  port : Int
  file : String
  ref : Option String
  deriving DecidableEq, Repr

/-- `URL.toString()`. -/
def Url.toExternalForm (url : Url) : String :=
  url.protocol ++ ":" ++ url.authority.elim "" ("//" ++ ·) ++ url.file ++
    url.ref.elim "" ("#" ++ ·)

/-- What `java.net.URL` asks of the platform. A URL that was read is read again
from its text, which is on one line when it was read from one. -/
structure UrlPlatform where
  /-- `URL(spec)`; `none` is a `MalformedURLException`. -/
  parse : String → Option Url
  parse_toExternalForm : ∀ spec url, parse spec = some url → parse url.toExternalForm = some url
  oneLine : ∀ spec url, parse spec = some url → Text.OneLine spec.toList →
    Text.OneLine url.toExternalForm.toList
  /-- `getDefaultPort()` of a protocol's handler. -/
  defaultPort : String → Int
  /-- What `equalsIgnoreCase` leaves of a character. -/
  foldCase : Char → Char
  /-- The address that a host name is resolved to, where it is. -/
  resolve : String → Option (List UInt8)

namespace Url

section Equals

variable (platform : UrlPlatform)

def equalsIgnoreCase (x y : String) : Bool :=
  x.toList.map platform.foldCase == y.toList.map platform.foldCase

def hostsEqual (u1 u2 : Url) : Bool :=
  match platform.resolve u1.host, platform.resolve u2.host with
  | some a1, some a2 => a1 == a2
  | _, _ => equalsIgnoreCase platform u1.host u2.host

/-- The port, or the default one for `-1`. -/
def portOrDefault (url : Url) : Int :=
  if url.port ≠ -1 then url.port else platform.defaultPort url.protocol

def sameFile (u1 u2 : Url) : Bool :=
  equalsIgnoreCase platform u1.protocol u2.protocol && u1.file == u2.file &&
    portOrDefault platform u1 == portOrDefault platform u2 && hostsEqual platform u1 u2

/-- `URL.equals`. -/
def equals (u1 u2 : Url) : Bool := u1.ref == u2.ref && sameFile platform u1 u2

end Equals

/-- What the ordering of `URLSorter` compares. -/
def key (url : Url) : List Nat ×ₗ Int ×ₗ List Nat ×ₗ List Nat :=
  toLex (Utf16.encode url.host.toList, toLex (url.port,
    toLex (Utf16.encode url.file.toList, Utf16.encode url.protocol.toList)))

theorem key_eq_iff {x y : Url} :
    x.key = y.key ↔
      x.host = y.host ∧ x.port = y.port ∧ x.file = y.file ∧ x.protocol = y.protocol := by
  simp only [key, EmbeddingLike.apply_eq_iff_eq, Prod.mk.injEq,
    Utf16.encode_toList_injective.eq_iff]

/-- Of URLs that compare as equal, `URL.equals` looks at the fragment. -/
theorem equals_iff_of_key_eq {platform : UrlPlatform} {x y : Url} (h : x.key = y.key) :
    equals platform x y = true ↔ x.ref = y.ref := by
  obtain ⟨hhost, hport, hfile, hprotocol⟩ := key_eq_iff.mp h
  have hhosts : hostsEqual platform x y = true := by
    rw [hostsEqual, hhost]
    cases platform.resolve y.host <;> simp [equalsIgnoreCase]
  simp [equals, sameFile, portOrDefault, equalsIgnoreCase, hport, hfile, hprotocol, hhosts]

theorem toExternalForm_ne_nil (url : Url) : url.toExternalForm.toList ≠ [] := by
  simp [toExternalForm]

end Url

namespace URLSorter

/-- `compareNonNull`: host, port, file, protocol. -/
def compareNonNull (o1 o2 : Url) : Int :=
  let host := Utf16.compareTo o1.host o2.host
  if host ≠ 0 then host
  else
    let port := compareNumbers o1.port o2.port
    if port ≠ 0 then port
    else
      let file := Utf16.compareTo o1.file o2.file
      if file ≠ 0 then file else Utf16.compareTo o1.protocol o2.protocol

theorem agrees_compareNonNull (x y : Url) : Agrees (compareNonNull x y) x.key y.key := by
  apply (Utf16.agrees_compareTo x.host y.host).andThen
  intro
  apply (agrees_compareNumbers x.port y.port).andThen
  intro
  exact (Utf16.agrees_compareTo x.file y.file).andThen fun _ =>
    Utf16.agrees_compareTo x.protocol y.protocol

/-- The sorter; `areItemsTheSame` and `areContentsTheSame` are `==`. -/
def callback (platform : UrlPlatform) :
    SortedListCallback Url (List Nat ×ₗ Int ×ₗ List Nat ×ₗ List Nat) where
  compare := compareNonNull
  areItemsTheSame := Url.equals platform
  key := Url.key
  agrees := agrees_compareNonNull
  same_self url := (Url.equals_iff_of_key_eq rfl).mpr rfl
  same_of_same := by
    intro x y z hxz hyz hx hy
    rw [Url.equals_iff_of_key_eq hxz] at hx
    rw [Url.equals_iff_of_key_eq hyz] at hy
    exact (Url.equals_iff_of_key_eq (hxz.trans hyz.symm)).mpr (hx.trans hy.symm)

end URLSorter

section Subscription

variable (platform : UrlPlatform)

/-- The URLs among the lines of a text. -/
def accepted (text : String) : List Url :=
  (Text.readLines text.toList).filterMap fun line => platform.parse (String.ofList line)

/-- The list after `fromReader`. -/
def fromReader (text : String) : List Url :=
  (URLSorter.callback platform).added (accepted platform text)

def toString (urls : List Url) : String :=
  String.ofList (['\n'].intercalate (urls.map fun url => url.toExternalForm.toList))

/-- The subscriptions are the URLs that were read, by their text, and stay so
when the list is written and read again. -/
def KeepsEveryUrl (text : String) : Prop :=
  let urls := fromReader platform text
  (∀ url, url ∈ urls.map Url.toExternalForm ↔
      url ∈ (accepted platform text).map Url.toExternalForm) ∧
    ∀ url, url ∈ (fromReader platform (toString urls)).map Url.toExternalForm ↔
      url ∈ urls.map Url.toExternalForm

/-- Where a URL is added at the index of one that it equals, the text of that one
is read there or later. -/
def RereadsReplaced (text : String) : Prop :=
  ∀ before url after, accepted platform text = before ++ url :: after →
    ∀ existing,
      (URLSorter.callback platform).replaced ((URLSorter.callback platform).added before) url =
        some existing →
      existing.toExternalForm ∈ (url :: after).map Url.toExternalForm

variable {platform} {text : String}

theorem accepted_spec {url : Url} (h : url ∈ accepted platform text) :
    platform.parse url.toExternalForm = some url ∧ Text.OneLine url.toExternalForm.toList := by
  obtain ⟨line, hline, hparse⟩ := List.mem_filterMap.mp h
  refine ⟨platform.parse_toExternalForm _ url hparse, ?_⟩
  apply platform.oneLine _ url hparse
  rw [String.toList_ofList]
  exact Text.oneLine_of_mem_readLines hline

/-- The text of a URL tells it apart from the others that were read. -/
theorem toExternalForm_inj {x y : Url} (hx : x ∈ accepted platform text)
    (hy : y ∈ accepted platform text) (h : x.toExternalForm = y.toExternalForm) : x = y := by
  have hparse := (accepted_spec hx).1
  rw [h, (accepted_spec hy).1] at hparse
  exact (Option.some.inj hparse).symm

theorem mem_map_toExternalForm {urls : List Url} {url : Url}
    (hurls : ∀ x ∈ urls, x ∈ accepted platform text) (hurl : url ∈ accepted platform text) :
    url.toExternalForm ∈ urls.map Url.toExternalForm ↔ url ∈ urls := by
  constructor
  · intro h
    obtain ⟨x, hx, heq⟩ := List.mem_map.mp h
    exact toExternalForm_inj (hurls x hx) hurl heq ▸ hx
  · exact List.mem_map_of_mem

theorem mem_fromReader_iff (url : Url) :
    url ∈ fromReader platform text ↔ url ∈ accepted platform text ∧
      (URLSorter.callback platform).AddedAgain (accepted platform text) url :=
  SortedListCallback.mem_added_iff _ url

/-- What is written is read again, in the same order. -/
theorem accepted_toString {urls : List Url}
    (h : ∀ url ∈ urls, platform.parse url.toExternalForm = some url ∧
      Text.OneLine url.toExternalForm.toList) :
    accepted platform (toString urls) = urls := by
  have hlines : Text.readLines (toString urls).toList =
      urls.map fun url => url.toExternalForm.toList := by
    rw [toString, String.toList_ofList, Text.readLines_intercalate]
    intro line hline
    obtain ⟨url, hurl, rfl⟩ := List.mem_map.mp hline
    exact ⟨(h url hurl).2, url.toExternalForm_ne_nil⟩
  rw [accepted, hlines, List.filterMap_map]
  have hread : ∀ url ∈ urls, ((fun line => platform.parse (String.ofList line)) ∘
      fun url : Url => url.toExternalForm.toList) url = some url := by
    intro url hurl
    rw [Function.comp_apply, String.ofList_toList]
    exact (h url hurl).1
  rw [List.filterMap_congr hread, List.filterMap_some]

theorem mem_fromReader_toString (url : Url) :
    url ∈ fromReader platform (toString (fromReader platform text)) ↔
      url ∈ fromReader platform text := by
  have hkept : ∀ url ∈ fromReader platform text,
      platform.parse url.toExternalForm = some url ∧ Text.OneLine url.toExternalForm.toList :=
    fun url hurl => accepted_spec ((mem_fromReader_iff url).mp hurl).1
  have hreread : fromReader platform (toString (fromReader platform text)) =
      (URLSorter.callback platform).added (fromReader platform text) := by
    rw [fromReader, accepted_toString hkept]
  rw [hreread]
  exact SortedListCallback.mem_added_added _ url

/-- Every accepted URL is listed when those that make place are read again. -/
theorem mem_fromReader_all_iff :
    (∀ url ∈ accepted platform text, url ∈ fromReader platform text) ↔
      RereadsReplaced platform text := by
  constructor
  · intro h before url after haccepted existing hreplaced
    have hadded := (SortedListCallback.kept_added _ before).of_replaced hreplaced
    have hbefore := ((SortedListCallback.mem_added_iff before existing).mp hadded.1).1
    have hmem : existing ∈ accepted platform text := by
      rw [haccepted]
      exact List.mem_append_left _ hbefore
    have hagain := ((mem_fromReader_iff existing).mp (h existing hmem)).2
    exact List.mem_map_of_mem (hagain before url after haccepted hreplaced)
  · intro h url hurl
    refine (mem_fromReader_iff url).mpr ⟨hurl, ?_⟩
    intro before item after haccepted hreplaced
    refine (mem_map_toExternalForm ?_ hurl).mp (h before item after haccepted url hreplaced)
    intro x hx
    rw [haccepted]
    exact List.mem_append_right _ hx

/-- Nothing makes place where equal URLs have one text. -/
theorem RereadsReplaced.of_equals
    (h : ∀ x ∈ accepted platform text, ∀ y ∈ accepted platform text,
      x.equals platform y = true → x.toExternalForm = y.toExternalForm) :
    RereadsReplaced platform text := by
  intro before url after haccepted existing hreplaced
  obtain ⟨hadded, -, hequals⟩ := (SortedListCallback.kept_added _ before).of_replaced hreplaced
  have hbefore := ((SortedListCallback.mem_added_iff before existing).mp hadded).1
  have hexisting : existing ∈ accepted platform text := by simp [haccepted, hbefore]
  have hurl : url ∈ accepted platform text := by simp [haccepted]
  rw [h existing hexisting url hurl hequals]
  exact List.mem_map_of_mem (List.mem_cons_self ..)

/-- Of URLs that differ in the user info alone one is lost. -/
theorem RereadsReplaced.eq_of_key_eq (h : RereadsReplaced platform text) {x y : Url}
    (hx : x ∈ accepted platform text) (hy : y ∈ accepted platform text) (hkey : x.key = y.key)
    (href : x.ref = y.ref) : x = y := by
  have hall := mem_fromReader_all_iff.mpr h
  have hkept := SortedListCallback.kept_added (URLSorter.callback platform) (accepted platform text)
  exact hkept.eq_of_same (hall x hx) (hall y hy) hkey
    ((Url.equals_iff_of_key_eq hkey).mpr href)

/-- `https://authority/x` on the host `h`. -/
def serverUrl (authority : String) (port : Int) : Url where
  protocol := "https"
  authority := some authority
  host := "h"
  port := port
  file := "/x"
  ref := none

/-- `URL(spec)` for the texts of some URLs. -/
def parseOf (urls : List Url) (spec : String) : Option Url :=
  urls.find? fun url => url.toExternalForm = spec

theorem parseOf_spec {urls : List Url} {spec : String} {url : Url}
    (h : parseOf urls spec = some url) : url.toExternalForm = spec := by
  simpa using List.find?_some h

theorem parseOf_toExternalForm (urls : List Url) (spec : String) (url : Url)
    (h : parseOf urls spec = some url) : parseOf urls url.toExternalForm = some url := by
  rw [parseOf_spec h]
  exact h

theorem parseOf_oneLine (urls : List Url) (spec : String) (url : Url)
    (h : parseOf urls spec = some url) (hspec : Text.OneLine spec.toList) :
    Text.OneLine url.toExternalForm.toList := by
  rw [parseOf_spec h]
  exact hspec

def platformOf (urls : List Url) : UrlPlatform where
  parse := parseOf urls
  parse_toExternalForm := parseOf_toExternalForm urls
  oneLine := parseOf_oneLine urls
  defaultPort _ := 443
  foldCase := Char.toLower
  resolve _ := none

-- The default port comes first in the order: it takes the place of the one that
-- is written out, and is not found when it is there already.
example : fromReader (platformOf [serverUrl "h:443" 443, serverUrl "h" (-1)])
    "https://h:443/x\nhttps://h/x" = [serverUrl "h" (-1)] := by decide +kernel

example : fromReader (platformOf [serverUrl "h:443" 443, serverUrl "h" (-1)])
    "https://h/x\nhttps://h:443/x" = [serverUrl "h" (-1), serverUrl "h:443" 443] := by
  decide +kernel

end Subscription

end WifiProject.Subscription
