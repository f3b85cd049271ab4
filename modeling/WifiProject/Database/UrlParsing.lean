import WifiProject.Database.Urls

/-!
Links come back from the text they are shared in. The pattern may cut a link
short, but only at characters that stand for themselves, so what is left is the
link of a shorter name or plugin.
-/

namespace WifiProject.Database

open Lib Plugin Rfc2396

/-- What is relied on of the codecs: decoding inverts encoding, and Base64 text
has the symbols of the URL-safe alphabet only. -/
structure Codecs.Documented (codecs : Codecs) : Prop where
  decode_encode : ∀ convertPlus (text : String),
    codecs.decode convertPlus (String.ofList (encode text.toList)) = text
  decodeBase64_encodeBase64 : ∀ text, codecs.decodeBase64 (codecs.encodeBase64 text) = some text
  encodeBase64_chars : ∀ text, ∀ c ∈ (codecs.encodeBase64 text).toList, c ∈ Base64.alphabet

/-! Finding links. -/

section Find

theorem urlAt_of_not_last {c : Char} (h : isLastUrlChar c = false) (text : List Char) :
    urlAt (c :: text) = none := by
  unfold urlAt
  split
  · rename_i a b rest heq
    rw [List.cons.injEq] at heq
    obtain ⟨rfl, -⟩ := heq
    rw [if_neg]
    rintro ⟨rfl | rfl, -⟩
    · exact absurd h (by decide)
    · exact absurd h (by decide)
  · rfl

/-- No link starts with a character that cannot end one. -/
theorem findAll_of_not_last {dropped : List Char} (h : ∀ c ∈ dropped, isLastUrlChar c = false)
    (text : List Char) : findAll 0 (dropped ++ text) = findAll 0 text := by
  induction dropped with
  | nil => rfl
  | cons c dropped ih =>
      rw [List.forall_mem_cons] at h
      rw [List.cons_append, findAll, urlAt_of_not_last h.1]
      exact ih h.2

theorem findAll_skip (passed text : List Char) :
    findAll passed.length (passed ++ text) = findAll 0 text := by
  induction passed with
  | nil => rfl
  | cons c passed ih =>
      rw [List.cons_append, List.length_cons, findAll]
      exact ih

/-- What the pattern leaves of a link. -/
def cutShort (body : List Char) : List Char := body.rdropWhile fun c => !isLastUrlChar c

/-- A link at the start of a text, followed by something else. -/
theorem findAll_link {body rest : List Char} (hbody : ∀ c ∈ body, isUrlChar c = true)
    (hrest : ∀ c ∈ rest.head?, isUrlChar c = false) (hne : cutShort body ≠ []) :
    findAll 0 (linkHead ++ body ++ rest) = (linkHead ++ cutShort body) :: findAll 0 rest := by
  let dropped := body.rtakeWhile fun c => !isLastUrlChar c
  have hbody' : body = cutShort body ++ dropped := (List.rdropWhile_append_rtakeWhile).symm
  have hspan := Text.span_append hbody hrest
  rw [List.span_eq_takeWhile_dropWhile, Prod.mk.injEq] at hspan
  have hat : urlAt (linkHead ++ body ++ rest) = some (linkHead ++ cutShort body) := by
    have hempty : (cutShort body).isEmpty = false := by simpa using hne
    simp only [linkHead, List.cons_append, List.nil_append, urlAt, true_or, and_self, if_true,
      hspan.1]
    rw [← cutShort, hempty]
    rfl
  have hlast : ∀ c ∈ dropped, isLastUrlChar c = false := by
    intro c hc
    simpa using List.mem_rtakeWhile_imp hc
  have hsplit : linkHead ++ body ++ rest =
      's' :: ((linkHead.tail ++ cutShort body) ++ (dropped ++ rest)) := by
    nth_rewrite 1 [hbody']
    simp [linkHead]
  have hlength : (linkHead ++ cutShort body).length - 1 = (linkHead.tail ++ cutShort body).length := by
    simp [linkHead]
  rw [hsplit] at hat ⊢
  rw [findAll, hat]
  dsimp only
  rw [hlength, findAll_skip, findAll_of_not_last hlast]

/-- Links on lines of their own. -/
theorem findAll_lines {bodies : List (List Char)}
    (hbodies : ∀ body ∈ bodies, (∀ c ∈ body, isUrlChar c = true) ∧ cutShort body ≠ []) :
    findAll 0 (['\n'].intercalate (bodies.map (linkHead ++ ·))) =
      bodies.map fun body => linkHead ++ cutShort body := by
  induction bodies with
  | nil => rfl
  | cons body bodies ih =>
      rw [List.forall_mem_cons] at hbodies
      obtain ⟨⟨hchars, hne⟩, hrest⟩ := hbodies
      have hlater := ih hrest
      cases bodies with
      | nil =>
          have hone : findAll 0 (linkHead ++ body ++ []) = (linkHead ++ cutShort body) :: findAll 0 [] :=
            findAll_link hchars (by simp) hne
          rw [List.append_nil] at hone
          simpa [List.intercalate, findAll] using hone
      | cons next bodies =>
          have hjoin : ['\n'].intercalate ((body :: next :: bodies).map (linkHead ++ ·)) =
              linkHead ++ body ++ '\n' :: ['\n'].intercalate ((next :: bodies).map (linkHead ++ ·)) := by
            simp [List.intercalate]
          have hnewline : ∀ c ∈ ['\n'], isLastUrlChar c = false := by decide
          have hfeed (text : List Char) : findAll 0 ('\n' :: text) = findAll 0 text :=
            findAll_of_not_last hnewline text
          rw [hjoin, findAll_link hchars (by simp; decide) hne, hfeed, hlater]
          rfl

end Find

/-! Taking a link apart. -/

def pluginPart (plugin : Option (List Char)) : List Char :=
  plugin.elim [] fun text => '?' :: (encode pluginKey ++ '=' :: encode text)

def namePart (name : Option (List Char)) : List Char :=
  name.elim [] fun text => '#' :: encode text

/-- The body of a link with a given plugin string and a given name. -/
def bodyText (authority : List Char) (plugin name : Option (List Char)) : List Char :=
  authority ++ (pluginPart plugin ++ namePart name)

section Body

variable {authority : List Char} (plugin name : Option (List Char))

theorem not_mem_encode {c : Char} (hreserved : isUnreserved c = false) (hpercent : c ≠ '%')
    (text : List Char) : c ∉ encode text := by
  intro hmem
  rcases mem_encode hmem with h | h
  · simp [hreserved] at h
  · exact hpercent h

theorem head_pluginPart : ∀ c ∈ (pluginPart plugin ++ namePart name).head?, c = '?' ∨ c = '#' := by
  intro c hc
  cases plugin with
  | some text =>
      simp only [pluginPart, Option.elim_some, List.cons_append, List.head?_cons, Option.mem_some_iff] at hc
      exact Or.inl hc.symm
  | none =>
      cases name with
      | some text =>
          simp only [pluginPart, Option.elim_none, namePart, Option.elim_some, List.nil_append,
            List.head?_cons, Option.mem_some_iff] at hc
          exact Or.inr hc.symm
      | none => simp [pluginPart, namePart] at hc

theorem endsAuthority_head : ∀ c ∈ (pluginPart plugin ++ namePart name).head?,
    endsAuthority c = true := by
  intro c hc
  rcases head_pluginPart plugin name c hc with rfl | rfl
  · decide
  · decide

theorem isUric_of_isUnreserved {c : Char} (h : isUnreserved c = true) : isUric c = true := by
  simp [isUric, isUserInfo, h]

theorem legal_uric_encode (text : List Char) : legal isUric (encode text) = true := by
  have hlegal := legal_encode (fun _ => isUric_of_isUnreserved) text []
  rw [List.append_nil] at hlegal
  rw [hlegal]
  rfl

theorem legal_uric_parameter (text : List Char) :
    legal isUric (encode pluginKey ++ '=' :: encode text) = true := by
  rw [legal_encode (fun _ => isUric_of_isUnreserved), legal_cons (by decide), legal_uric_encode]
  rfl

theorem isFragment_namePart : isFragment (namePart name) = true := by
  cases name with
  | none => rfl
  | some text => exact legal_uric_encode text

/-- A parameter ends where the fragment starts. -/
theorem span_parameter (text : List Char) :
    (encode pluginKey ++ '=' :: encode text ++ namePart name).span (· ≠ '#') =
      (encode pluginKey ++ '=' :: encode text, namePart name) := by
  apply Text.span_append
  · intro c hc
    have hne : c ≠ '#' := by
      rintro rfl
      rw [List.mem_append, List.mem_cons] at hc
      rcases hc with hc | hc | hc
      · exact not_mem_encode (by decide) (by decide) _ hc
      · exact absurd hc (by decide)
      · exact not_mem_encode (by decide) (by decide) _ hc
    simpa using hne
  · cases name <;> simp [namePart]

theorem isTail_parts : isTail (pluginPart plugin ++ namePart name) = true := by
  have hspan : (pluginPart plugin ++ namePart name).span (fun c => c ≠ '?' && c ≠ '#') =
      ([], pluginPart plugin ++ namePart name) := by
    change ([] ++ (pluginPart plugin ++ namePart name)).span _ = _
    apply Text.span_append
    · simp
    · intro c hc
      rcases head_pluginPart plugin name c hc with rfl | rfl
      · decide
      · decide
  have hquery : isQuery (pluginPart plugin ++ namePart name) = true := by
    cases plugin with
    | none =>
        cases name with
        | none => rfl
        | some text => exact legal_uric_encode text
    | some text =>
        change isQuery ('?' :: (encode pluginKey ++ '=' :: encode text ++ namePart name)) = true
        simp only [isQuery, span_parameter, legal_uric_parameter, isFragment_namePart, Bool.and_self]
  simp only [isTail, hspan, hquery]
  rfl

theorem not_mem_pluginPart {c : Char} (hreserved : isUnreserved c = false) (hpercent : c ≠ '%')
    (hquestion : c ≠ '?') (hequals : c ≠ '=') : c ∉ pluginPart plugin := by
  cases plugin with
  | none => simp [pluginPart]
  | some text =>
      simp only [pluginPart, Option.elim_some, List.mem_cons, List.mem_append, not_or]
      exact ⟨hquestion, not_mem_encode hreserved hpercent _, hequals,
        not_mem_encode hreserved hpercent _⟩

theorem cutFragment_link (hnumber : '#' ∉ authority) :
    cutFragment (linkHead ++ bodyText authority plugin name) =
      (linkHead ++ authority ++ pluginPart plugin, name.map encode) := by
  have hnot : '#' ∉ linkHead ++ authority ++ pluginPart plugin := by
    simp only [List.mem_append, not_or]
    exact ⟨⟨by decide, hnumber⟩,
      not_mem_pluginPart plugin (by decide) (by decide) (by decide) (by decide)⟩
  have htext : linkHead ++ bodyText authority plugin name =
      linkHead ++ authority ++ pluginPart plugin ++ namePart name := by
    simp [bodyText]
  rw [cutFragment, htext]
  cases name with
  | none =>
      rw [namePart, Option.elim_none, List.append_nil]
      exact Text.cut_of_not_mem hnot
  | some text => exact Text.cut_append hnot (encode text)

/-- The query of a link. -/
theorem encodedQuery_link (hquestion : '?' ∉ authority) (hnumber : '#' ∉ authority) :
    encodedQuery (linkHead ++ bodyText authority plugin name) =
      plugin.map fun text => encode pluginKey ++ '=' :: encode text := by
  have hnot : '?' ∉ linkHead ++ authority := by
    simp only [List.mem_append, not_or]
    exact ⟨by decide, hquestion⟩
  rw [encodedQuery, cutFragment_link plugin name hnumber]
  cases plugin with
  | none =>
      rw [pluginPart, Option.elim_none, List.append_nil, Text.cut_of_not_mem hnot]
      rfl
  | some text =>
      rw [pluginPart, Option.elim_some, Text.cut_append hnot]
      rfl

/-- The plugin string of a link. -/
theorem getQueryParameter_link (codecs : Codecs) (hquestion : '?' ∉ authority)
    (hnumber : '#' ∉ authority) :
    getQueryParameter codecs pluginKey (linkHead ++ bodyText authority plugin name) =
      plugin.map fun text => codecs.decode true (String.ofList (encode text)) := by
  rw [getQueryParameter, encodedQuery_link plugin name hquestion hnumber]
  cases plugin with
  | none => rfl
  | some text =>
      have hone : (encode pluginKey ++ '=' :: encode text).splitOn '&' =
          [encode pluginKey ++ '=' :: encode text] := by
        apply List.splitOn_eq_singleton
        simp only [List.mem_append, List.mem_cons, not_or]
        exact ⟨not_mem_encode (by decide) (by decide) _, by decide,
          not_mem_encode (by decide) (by decide) _⟩
      have hcut : Text.cut '=' (encode pluginKey ++ '=' :: encode text) =
          (encode pluginKey, some (encode text)) :=
        Text.cut_append (not_mem_encode (by decide) (by decide) _) _
      simp [hone, hcut]

theorem uriFragment_link (codecs : Codecs) (hnumber : '#' ∉ authority) :
    uriFragment codecs (linkHead ++ bodyText authority plugin name) =
      name.map fun text => codecs.decode false (String.ofList (encode text)) := by
  rw [uriFragment, cutFragment_link plugin name hnumber]
  cases name <;> rfl

end Body

/-! The profile of a link. -/

/-- What is shared: a method and a password that the user info pattern can tell
apart, a host and a port of a server, and a plugin string that is accepted. -/
structure Profile.Shared (profile : Profile) : Prop where
  method : profile.method ≠ "" ∧ ':' ∉ profile.method.toList ∧
    ∀ c ∈ profile.method.toList, Text.isLineTerminator c = false
  password : ∀ c ∈ profile.password.toList, Text.isLineTerminator c = false
  host : isHost profile.host.toList = true
  remotePort : 1 ≤ profile.remotePort ∧ profile.remotePort ≤ 65535
  plugin : ∃ configuration, PluginConfiguration.new (profile.plugin.getD "") = .ok configuration

section Parse

variable {codecs : Codecs} {profile : Profile}

theorem isUnreserved_of_mem_alphabet {c : Char} (h : c ∈ Base64.alphabet) :
    isUnreserved c = true := by
  have hall : ∀ c ∈ Base64.alphabet, isUnreserved c = true := by decide +kernel
  exact hall c h

theorem isUnreserved_userInfoText (hcodecs : codecs.Documented) (profile : Profile) :
    ∀ c ∈ profile.userInfoText codecs, isUnreserved c = true :=
  fun c hc => isUnreserved_of_mem_alphabet (hcodecs.encodeBase64_chars _ c hc)

/-- The authority of a link, with the digits of its port. -/
theorem authorityText_eq (codecs : Codecs) (h : profile.Shared) : ∃ port : Nat, profile.remotePort = port ∧
    port < 2 ^ 31 ∧ profile.authorityText codecs = profile.userInfoText codecs ++
      '@' :: (bracket profile.host.toList ++ ':' :: Nat.toDigits 10 port) := by
  have hrange := h.remotePort
  obtain ⟨port, hport⟩ := Int.eq_ofNat_of_zero_le (by omega : 0 ≤ profile.remotePort)
  refine ⟨port, hport, by omega, ?_⟩
  have hdigits : (toString (port : Int)).toList = Nat.toDigits 10 port := by
    change (Nat.repr port).toList = _
    simp [Nat.repr]
  rw [Profile.authorityText, hport]
  exact congrArg (fun digits => _ ++ '@' :: (_ ++ ':' :: digits)) hdigits

theorem matchUserInfo_shared (h : profile.Shared) :
    matchUserInfo (profile.method ++ ":" ++ profile.password).toList =
      some (profile.method, profile.password) := by
  obtain ⟨hne, hcolon, hmethod⟩ := h.method
  have htext : (profile.method ++ ":" ++ profile.password).toList =
      profile.method.toList ++ ':' :: profile.password.toList := by
    simp
  have hdots {group : String} (hgroup : ∀ c ∈ group.toList, Text.isLineTerminator c = false) :
      isDots group.toList = true := by
    simpa [isDots] using hgroup
  rw [matchUserInfo, htext, Text.splits_append hcolon, List.findSome?_cons]
  simp [hne, hdots hmethod, hdots h.password]

theorem unwrapHost_bracket (host : String) (h : isHost host.toList = true) :
    unwrapHost (String.ofList (bracket host.toList)) = host := by
  unfold bracket
  split
  · have hlast : ('[' :: (host.toList ++ [']'])).getLast? = some ']' := by
      rw [← List.cons_append, List.getLast?_concat]
    simp [unwrapHost, hlast]
  · rename_i hcolon
    have hhead : host.toList.head? ≠ some '[' := by
      intro hhead
      obtain ⟨rest, hcons⟩ : ∃ rest, host.toList = '[' :: rest := by
        cases htext : host.toList with
        | nil => simp [htext] at hhead
        | cons c rest =>
            rw [htext] at hhead
            exact ⟨rest, by simpa using hhead⟩
      rcases isHost_cases h with ⟨-, hmem, -⟩ | ⟨-, hchars⟩
      · exact hcolon hmem
      · have hopen := hchars '[' (by simp [hcons])
        revert hopen
        decide
    simp [unwrapHost, hhead]

/-- What the user info of a link is read to. -/
theorem userInfo_link (hcodecs : codecs.Documented) (h : profile.Shared)
    (plugin name : Option (List Char)) :
    userInfo codecs (linkHead ++ bodyText (profile.authorityText codecs) plugin name) =
      some (codecs.encodeBase64 (profile.method ++ ":" ++ profile.password)) := by
  obtain ⟨port, -, -, hauthority⟩ := authorityText_eq codecs h
  have hinfo := isUnreserved_userInfoText hcodecs profile
  have hat : '@' ∉ profile.userInfoText codecs := fun hmem => absurd (hinfo _ hmem) (by decide)
  have hends : ∀ c ∈ profile.userInfoText codecs, endsAuthority c = false := fun c hc =>
    not_endsAuthority (by decide) (by decide) (by decide) (hinfo c hc)
  have hrest : '@' ∉ bracket profile.host.toList ++ ':' :: Nat.toDigits 10 port := by
    simp only [List.mem_append, List.mem_cons, not_or]
    refine ⟨fun hmem => absurd (isHostChar_of_mem_bracket h.host hmem) (by decide), by decide,
      fun hmem => absurd (Decimal.toDigits_isDigit port _ hmem) (by decide)⟩
  have hcut : encodedAuthority (linkHead ++ bodyText (profile.authorityText codecs) plugin name) =
      profile.authorityText codecs := by
    have hspan := span_authority port hends h.host (endsAuthority_head plugin name)
    rw [← hauthority] at hspan
    exact congrArg Prod.fst hspan
  have hsplit : splitUserInfo (profile.authorityText codecs) =
      (some (profile.userInfoText codecs), bracket profile.host.toList ++ ':' :: Nat.toDigits 10 port) := by
    rw [splitUserInfo, hauthority, Text.splits_append hat, Text.splits_of_not_mem hrest]
    rfl
  have hdecode : codecs.decode false (String.ofList (encode (profile.userInfoText codecs))) =
      codecs.encodeBase64 (profile.method ++ ":" ++ profile.password) :=
    hcodecs.decode_encode false _
  rw [encode_of_unreserved hinfo] at hdecode
  rw [userInfo, hcut, hsplit]
  exact congrArg some hdecode

/-- A link of a shared profile, with whatever plugin string and name. -/
theorem parseUrl_link (hcodecs : codecs.Documented) (h : profile.Shared) (feature : Option Profile)
    (plugin name : Option (List Char)) :
    parseUrl codecs feature (linkHead ++ bodyText (profile.authorityText codecs) plugin name) =
      some { newProfile feature with
        method := profile.method
        password := profile.password
        host := profile.host
        remotePort := profile.remotePort
        plugin := plugin.map String.ofList
        name := some ((name.map String.ofList).getD "") } := by
  obtain ⟨port, hport, hbound, hauthority⟩ := authorityText_eq codecs h
  have hinfo := isUnreserved_userInfoText hcodecs profile
  have hat : '@' ∉ profile.userInfoText codecs := fun hmem => absurd (hinfo _ hmem) (by decide)
  have hends : ∀ c ∈ profile.userInfoText codecs, endsAuthority c = false := fun c hc =>
    not_endsAuthority (by decide) (by decide) (by decide) (hinfo c hc)
  have hlegal : legal isUserInfo (profile.userInfoText codecs) = true := by
    have hallowed (c : Char) (hc : isUnreserved c = true) : isUserInfo c = true := by
      simp [isUserInfo, hc]
    have hencode := legal_encode hallowed (profile.userInfoText codecs) []
    rw [encode_of_unreserved hinfo, List.append_nil] at hencode
    exact hencode
  have hnot {c : Char} (hc : endsAuthority c = true) : c ∉ profile.authorityText codecs := by
    intro hmem
    rw [hauthority] at hmem
    have hno := not_endsAuthority_of_server port hends h.host c hmem
    rw [hc] at hno
    cases hno
  have hscheme : isScheme ['s', 's'] = true := by decide
  have hparse := parse_server port hends h.host hscheme hlegal hat hbound
    (isTail_parts plugin name) (endsAuthority_head plugin name)
  have hurl : linkHead ++ bodyText (profile.authorityText codecs) plugin name =
      ['s', 's'] ++ ':' :: '/' :: '/' :: (profile.userInfoText codecs ++
        '@' :: (bracket profile.host.toList ++ ':' :: Nat.toDigits 10 port) ++
          (pluginPart plugin ++ namePart name)) := by
    rw [bodyText, hauthority]
    rfl
  rw [← hurl] at hparse
  have hdecode (convertPlus : Bool) (text : List Char) :
      codecs.decode convertPlus (String.ofList (encode text)) = String.ofList text := by
    have hback := hcodecs.decode_encode convertPlus (String.ofList text)
    rwa [String.toList_ofList] at hback
  rw [parseUrl, userInfo_link hcodecs h]
  dsimp only
  rw [parseSip002, hcodecs.decodeBase64_encodeBase64, Option.bind_some, matchUserInfo_shared h,
    Option.bind_some, hparse, Option.map_some, getQueryParameter_link plugin name codecs
      (hnot (by decide)) (hnot (by decide)), uriFragment_link plugin name codecs (hnot (by decide))]
  simp only [hdecode, Option.getD_some, unwrapHost_bracket profile.host h.host, hport]

end Parse

end WifiProject.Database
