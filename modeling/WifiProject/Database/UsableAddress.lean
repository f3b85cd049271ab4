import WifiProject.Database.Editing
import WifiProject.Database.UrlParsing
import WifiProject.Database.UsableImport

/-!
Server addresses that can be connected to. The editor falls back to a default,
but neither links nor documents are checked for a port that is too large, and a
link may have no server at all.
-/

namespace WifiProject.Database

open Lib Plugin Preference Rfc2396

/-! Links. -/

section Links

variable (codecs : Codecs)

/-- A link without user info has a port in range, if it is accepted. -/
def LegacyFits (url : List Char) : Prop :=
  ∀ decoded found port, codecs.decodeLegacy (uriHost codecs url) = some decoded →
    matchLegacy decoded.toList = some found → Decimal.parseInt found.port = some port →
      1 ≤ port ∧ port ≤ 65535

/-- The authority of any other link is a server with a port in range, if the
link is accepted. -/
def Sip002Fits (url : List Char) (info : String) : Prop :=
  ∀ decoded, codecs.decodeBase64 info = some decoded → (matchUserInfo decoded.toList).isSome = true →
    (Rfc2396.parse url).isSome = true →
      ∃ host port, Rfc2396.parseServer (encodedAuthority url) = some (host, port) ∧
        1 ≤ port ∧ port ≤ 65535

def LinkFits (url : List Char) : Prop :=
  match userInfo codecs url with
  | none => LegacyFits codecs url
  | some info => Sip002Fits codecs url info

variable {codecs}

theorem matchLegacy_host {text : List Char} {found : LegacyMatch}
    (h : matchLegacy text = some found) : found.host ≠ "" := by
  obtain ⟨⟨method, rest⟩, -, hmethod⟩ := List.exists_of_findSome?_eq_some h
  dsimp only at hmethod
  split at hmethod
  · rw [Option.map_eq_some_iff] at hmethod
    obtain ⟨⟨password, host, port⟩, hrest, rfl⟩ := hmethod
    obtain ⟨⟨first, second⟩, -, hpassword⟩ := List.exists_of_findSome?_eq_some hrest
    dsimp only at hpassword
    split at hpassword
    · rw [Option.map_eq_some_iff] at hpassword
      obtain ⟨⟨host', port'⟩, hhost, heq⟩ := hpassword
      cases heq
      have hvalid := List.find?_some hhost
      simp only [Bool.and_eq_true, Bool.not_eq_true', List.isEmpty_eq_false_iff] at hvalid
      rw [ne_eq, ← String.toList_eq_nil_iff, String.toList_ofList]
      exact hvalid.1.1.1
    · cases hpassword
  · cases hmethod

theorem legacyFits_iff (feature : Option Profile) (url : List Char) :
    (∀ profile, parseLegacy codecs feature url = some profile → profile.Usable) ↔
      LegacyFits codecs url := by
  constructor
  · intro h decoded found port hdecoded hfound hport
    have hparsed : parseLegacy codecs feature url = some { newProfile feature with
        method := codecs.lowercase found.method
        password := found.password
        host := found.host
        remotePort := port
        plugin := getQueryParameter codecs pluginKey url
        name := uriFragment codecs url } := by
      simp [parseLegacy, hdecoded, hfound, hport]
    exact (h _ hparsed).2
  · intro h profile hprofile
    simp only [parseLegacy, Option.bind_eq_some_iff, Option.map_eq_some_iff] at hprofile
    obtain ⟨decoded, hdecoded, found, hfound, port, hport, rfl⟩ := hprofile
    exact ⟨matchLegacy_host hfound, h decoded found port hdecoded hfound hport⟩

theorem isHostname_ne_nil {host : List Char} (h : (isIPv4 host || isHostname host) = true) :
    host ≠ [] := by
  rintro rfl
  exact absurd h (by decide)

theorem isBracketed_ne_nil {address : List Char} (h : isBracketed address = true) : address ≠ [] := by
  rintro rfl
  exact absurd h (by decide)

/-- A host is a name, an address or an address in brackets. -/
theorem unwrapHost_ne_empty {text host rest : List Char} (h : takeHost text = some (host, rest)) :
    unwrapHost (String.ofList host) ≠ "" := by
  have hplain {host : List Char} (hne : host ≠ []) (hhead : host.head? ≠ some '[') :
      unwrapHost (String.ofList host) ≠ "" := by
    rw [unwrapHost, String.toList_ofList, if_neg fun hbrackets => hhead hbrackets.1, ne_eq,
      ← String.toList_eq_nil_iff, String.toList_ofList]
    exact hne
  unfold takeHost at h
  split at h
  · rename_i inside
    split at h
    · rename_i address after hcut
      split at h
      · rename_i hbracketed
        cases h
        have hlast : ('[' :: address ++ [']']).getLast? = some ']' := List.getLast?_concat
        have hinside : ('[' :: address ++ [']']).tail.dropLast = address := by simp
        rw [unwrapHost, String.toList_ofList, if_pos ⟨rfl, hlast⟩, hinside, ne_eq,
          ← String.toList_eq_nil_iff, String.toList_ofList]
        exact isBracketed_ne_nil hbracketed
      · cases h
    · cases h
  · rename_i hopen
    rw [List.span_eq_takeWhile_dropWhile] at h
    dsimp only at h
    split at h
    · rename_i hname
      cases h
      apply hplain (isHostname_ne_nil hname)
      intro hhead
      cases text with
      | nil => cases hhead
      | cons c text =>
          rw [List.takeWhile_cons] at hhead
          split at hhead
          · cases hhead
            exact hopen text rfl
          · cases hhead
    · cases h

/-- Every link starts with its scheme. -/
theorem urlAt_eq_some {text url : List Char} (h : urlAt text = some url) :
    ∃ a b body, (a = 's' ∨ a = 'S') ∧ (b = 's' ∨ b = 'S') ∧
      url = a :: b :: ':' :: '/' :: '/' :: body := by
  unfold urlAt at h
  split at h
  · split at h
    · rename_i hscheme
      dsimp only at h
      split at h
      · cases h
      · cases h
        exact ⟨_, _, _, hscheme.1, hscheme.2, rfl⟩
    · cases h
  · cases h

theorem mem_findAll {skip : Nat} {text url : List Char} (h : url ∈ findAll skip text) :
    ∃ a b body, (a = 's' ∨ a = 'S') ∧ (b = 's' ∨ b = 'S') ∧
      url = a :: b :: ':' :: '/' :: '/' :: body := by
  fun_induction findAll skip text with
  | case1 => simp at h
  | case2 skip c text ih => exact ih h
  | case3 c text found hfound ih =>
      rcases List.mem_cons.mp h with rfl | h
      · exact urlAt_eq_some hfound
      · exact ih h
  | case4 c text hfound ih => exact ih h

/-- The two parsers agree on where the authority of a link is. -/
theorem parse_link {a b : Char} (ha : a = 's' ∨ a = 'S') (hb : b = 's' ∨ b = 'S') (body : List Char) :
    Rfc2396.parse (a :: b :: ':' :: '/' :: '/' :: body) = parseHierarchical ('/' :: '/' :: body) := by
  have hspan : (a :: b :: ':' :: '/' :: '/' :: body).span (fun c => c ≠ ':' && !endsAuthority c) =
      ([a, b], ':' :: '/' :: '/' :: body) := by
    change ([a, b] ++ ':' :: '/' :: '/' :: body).span _ = _
    apply Text.span_append
    · rcases ha with rfl | rfl
      · rcases hb with rfl | rfl
        · decide
        · decide
      · rcases hb with rfl | rfl
        · decide
        · decide
    · simp
  have hscheme : isScheme [a, b] = true := by
    rcases ha with rfl | rfl
    · rcases hb with rfl | rfl
      · decide
      · decide
    · rcases hb with rfl | rfl
      · decide
      · decide
  rw [Rfc2396.parse, hspan]
  exact if_pos hscheme

/-- A link with an authority is a server or has none. -/
theorem parse_authority {url : List Char} (hurl : ∃ a b body, (a = 's' ∨ a = 'S') ∧
    (b = 's' ∨ b = 'S') ∧ url = a :: b :: ':' :: '/' :: '/' :: body)
    (hne : encodedAuthority url ≠ []) {uri : Uri} (h : Rfc2396.parse url = some uri) :
    parseAuthority (encodedAuthority url) = some uri := by
  obtain ⟨a, b, body, ha, hb, rfl⟩ := hurl
  rw [parse_link ha hb, parseHierarchical] at h
  change (body.span fun c => !endsAuthority c).1 ≠ [] at hne
  change parseAuthority (body.span fun c => !endsAuthority c).1 = some uri
  dsimp only at h
  rw [if_neg (by simpa using hne), Option.bind_eq_some_iff] at h
  obtain ⟨found, hfound, htail⟩ := h
  split at htail
  · cases htail
    exact hfound
  · cases htail

theorem usable_iff_server {authority : List Char} {uri : Uri} (h : parseAuthority authority = some uri) :
    (unwrapHost (uri.host.getD "") ≠ "" ∧ 1 ≤ uri.port ∧ uri.port ≤ 65535) ↔
      ∃ host port, Rfc2396.parseServer authority = some (host, port) ∧ 1 ≤ port ∧ port ≤ 65535 := by
  unfold parseAuthority at h
  split at h
  · rename_i host port hserver
    cases h
    have hhost : unwrapHost (String.ofList host) ≠ "" := by
      simp only [Rfc2396.parseServer, Option.bind_eq_some_iff, Option.map_eq_some_iff] at hserver
      obtain ⟨text, -, ⟨found, rest⟩, htake, port', -, heq⟩ := hserver
      cases heq
      exact unwrapHost_ne_empty htake
    simp [hserver, hhost]
  · rename_i hnone
    split at h
    · cases h
      simp [hnone, Uri.serverless]
    · cases h

theorem encodedAuthority_ne_nil {url : List Char} {info : String}
    (h : userInfo codecs url = some info) : encodedAuthority url ≠ [] := by
  intro hnil
  rw [userInfo, hnil] at h
  cases h

theorem sip002Fits_iff (feature : Option Profile) {url : List Char} {info : String}
    (hurl : ∃ a b body, (a = 's' ∨ a = 'S') ∧ (b = 's' ∨ b = 'S') ∧
      url = a :: b :: ':' :: '/' :: '/' :: body) (hinfo : userInfo codecs url = some info) :
    (∀ profile, parseSip002 codecs feature url info = some profile → profile.Usable) ↔
      Sip002Fits codecs url info := by
  have hne := encodedAuthority_ne_nil hinfo
  constructor
  · intro h decoded hdecoded hmatch hparse
    obtain ⟨found, hfound⟩ := Option.isSome_iff_exists.mp hmatch
    obtain ⟨uri, huri⟩ := Option.isSome_iff_exists.mp hparse
    apply (usable_iff_server (parse_authority hurl hne huri)).mp
    have hparsed : parseSip002 codecs feature url info = some { newProfile feature with
        method := found.1
        password := found.2
        host := unwrapHost (uri.host.getD "")
        remotePort := uri.port
        plugin := getQueryParameter codecs pluginKey url
        name := some ((uriFragment codecs url).getD "") } := by
      simp [parseSip002, hdecoded, hfound, huri]
    exact h _ hparsed
  · intro h profile hprofile
    simp only [parseSip002, Option.bind_eq_some_iff, Option.map_eq_some_iff] at hprofile
    obtain ⟨decoded, hdecoded, found, hfound, uri, huri, rfl⟩ := hprofile
    exact (usable_iff_server (parse_authority hurl hne huri)).mpr
      (h decoded hdecoded (by simp [hfound]) (by simp [huri]))

/-- What a link is read to can be used if and only if the link fits. -/
theorem linkFits_iff (feature : Option Profile) {text : List Char} {skip : Nat} {url : List Char}
    (h : url ∈ findAll skip text) :
    (∀ profile, parseUrl codecs feature url = some profile → profile.Usable) ↔
      LinkFits codecs url := by
  unfold parseUrl LinkFits
  cases hinfo : userInfo codecs url with
  | none => exact legacyFits_iff feature url
  | some info => exact sip002Fits_iff feature (mem_findAll h) hinfo

theorem findAllUrls_usable_iff (feature : Option Profile) (text : String) :
    (∀ profile ∈ findAllUrls codecs feature text, profile.Usable) ↔
      ∀ url ∈ findAll 0 text.toList, LinkFits codecs url := by
  have hall : (∀ profile ∈ findAllUrls codecs feature text, profile.Usable) ↔
      ∀ url ∈ findAll 0 text.toList, ∀ profile, parseUrl codecs feature url = some profile →
        profile.Usable := by
    simp only [findAllUrls, List.mem_filterMap]
    constructor
    · intro h url hurl profile hprofile
      exact h profile ⟨url, hurl, hprofile⟩
    · rintro h profile ⟨url, hurl, hprofile⟩
      exact h url hurl profile hprofile
  rw [hall]
  apply forall₂_congr
  intro url hurl
  exact linkFits_iff feature hurl

end Links

/-- The addresses that links, documents and the editor hand on can be used if and
only if the links and the ports of the document fit. -/
theorem usable_iff_fits (codecs : Codecs) (decode : List UInt8 → String) (order : HashOrder)
    (feature : Option Profile) (text : String) (json : JsonElement) (store : PreferenceStore)
    (profile : Profile) :
    ((∀ found ∈ findAllUrls codecs feature text, found.Usable) ∧
        HandsOnUsable order feature json ∧
        ∀ edited, profile.deserialize decode store = .ok edited →
          1 ≤ edited.1.remotePort ∧ edited.1.remotePort ≤ 65535) ↔
      (∀ url ∈ findAll 0 text.toList, LinkFits codecs url) ∧ PortsFit order feature json := by
  have hedited : ∀ edited, profile.deserialize decode store = .ok edited →
      1 ≤ edited.1.remotePort ∧ edited.1.remotePort ≤ 65535 := by
    intro edited h
    exact deserialize_remotePort decode h
  rw [findAllUrls_usable_iff, handsOnUsable_iff_portsFit]
  constructor
  · rintro ⟨hlinks, hports, -⟩
    exact ⟨hlinks, hports⟩
  · rintro ⟨hlinks, hports⟩
    exact ⟨hlinks, hports, hedited⟩

/-- A server object with a port past 16 bits. -/
def farPort : JsonElement :=
  .object [("server", .string "a"), ("server_port", .number "70000"), ("password", .string "b"),
    ("method", .string "c")]

theorem handsOnUsable_fails_farPort : ¬ HandsOnUsable .insertion none farPort := by
  intro h
  have hservers : ∃ server, process .insertion none farPort = .ok [server] ∧
      server.profile.remotePort = 70000 := by
    refine ⟨_, rfl, ?_⟩
    decide +kernel
  obtain ⟨server, hserver, hport⟩ := hservers
  have husable := ((handsOnUsable_iff hserver).mp h).1 server (by simp)
  rw [Profile.Usable, hport] at husable
  exact absurd husable.2.2 (by decide)

end WifiProject.Database
