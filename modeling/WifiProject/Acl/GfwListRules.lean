import WifiProject.Acl.GfwList

/-!
Rules of a gfwlist without wildcards: which host each of them lists, which one the parser
reads, and when the generated patterns are those of the listed hosts.
-/

namespace WifiProject.Gfwlist

open Lib

/-- A lower-case host name: labels of letters, digits and hyphens. -/
structure HostName where
  labels : List (List Char)
  ne_nil : labels ≠ []
  valid : ∀ label ∈ labels, label ≠ [] ∧ ∀ c ∈ label, isHostChar c = true

def HostName.name (host : HostName) : List Char := ['.'].intercalate host.labels

/-- A host is another one or a subdomain of it. -/
def HostName.Within (host other : HostName) : Prop := other.labels <:+ host.labels

/-- How a rule starts. -/
inductive RuleForm where
  | anchored
  | http
  | https
  | dotted
  | plain
  deriving DecidableEq, Repr

def RuleForm.start : RuleForm → List Char
  | .anchored => "||".toList
  | .http => "|http://".toList
  | .https => "|https://".toList
  | .dotted => ".".toList
  | .plain => []

/-- A path on one line, with no wildcard. -/
abbrev RulePath := { path : List Char // '*' ∉ path ∧ Text.OneLine path }

/-- What follows the host. -/
def pathText : Option RulePath → List Char
  | none => []
  | some path => '/' :: path.val

structure Rule where
  form : RuleForm
  host : HostName
  path : Option RulePath

def Rule.line (rule : Rule) : List Char :=
  rule.form.start ++ (rule.host.name ++ pathText rule.path)

/-- The patterns match the listed hosts and their subdomains, and no other host. -/
def CoversListed (today : Date) (content : List Char) (rules : List Rule) : Prop :=
  ∀ host : HostName,
    (∃ pattern ∈ hostPatterns (generateAcl today (parseGfwlist content)),
      Regex.accepts pattern host.name = true) ↔
      ∃ rule ∈ rules, host.Within rule.host

/-- The host that is read from each rule with `https`. -/
def httpsHost : HostName where
  labels := ["https".toList]
  ne_nil := by simp
  valid := by decide

/-- The host of a rule becomes a pattern. -/
def Rule.Kept (rule : Rule) : Prop := rule.form ≠ .https ∧ inetAton rule.host.name = false

/-- With a rule for `https`, the host `https` is listed; and what is not kept lies
within what is. -/
def Recovered (rules : List Rule) : Prop :=
  ((∃ rule ∈ rules, rule.form = .https) → ∃ rule ∈ rules, rule.host.name = "https".toList) ∧
    ∀ rule ∈ rules, ¬ rule.Kept →
      (∃ other ∈ rules, other.form = .https ∧ rule.host.Within httpsHost) ∨
        ∃ other ∈ rules, other.Kept ∧ rule.host.Within other.host

section Names

/-- The labels can be read off a name. -/
theorem splitOn_name (host : HostName) : host.name.splitOn '.' = host.labels := by
  have hdot : ∀ label ∈ host.labels, '.' ∉ label := by
    intro label hlabel hmem
    exact absurd ((host.valid label hlabel).2 '.' hmem) (by decide)
  exact List.splitOn_intercalate '.' hdot host.ne_nil

theorem isDomain_name (host : HostName) : IsDomain host.name := by
  constructor
  · intro hnil
    have hlabels := splitOn_name host
    rw [hnil] at hlabels
    exact (host.valid [] (hlabels ▸ List.mem_singleton_self _)).1 rfl
  · intro c hc
    rcases Text.mem_field_of_mem '.' hc with hdot | ⟨label, hlabel, hmem⟩
    · exact Or.inl hdot
    · rw [splitOn_name] at hlabel
      exact Or.inr ((host.valid label hlabel).2 c hmem)

/-- A name starts with a character of a label. -/
theorem exists_name_eq_cons (host : HostName) :
    ∃ c rest, host.name = c :: rest ∧ isHostChar c = true := by
  obtain ⟨labels, hne, hvalid⟩ := host
  obtain ⟨label, labels, rfl⟩ := List.exists_cons_of_ne_nil hne
  obtain ⟨hlabel, hchars⟩ := hvalid label (List.mem_cons_self ..)
  obtain ⟨c, rest, rfl⟩ := List.exists_cons_of_ne_nil hlabel
  have hc := hchars c (List.mem_cons_self ..)
  unfold HostName.name
  cases labels with
  | nil => exact ⟨c, rest, List.intercalate_singleton, hc⟩
  | cons next labels => exact ⟨c, _, List.intercalate_cons_cons, hc⟩

/-- Being a subdomain shows in the text. -/
theorem within_iff (host other : HostName) : host.Within other ↔
    host.name = other.name ∨ ∃ before, host.name = before ++ '.' :: other.name := by
  constructor
  · rintro ⟨labels, hlabels⟩
    cases labels with
    | nil =>
        rw [List.nil_append] at hlabels
        exact Or.inl (by rw [HostName.name, HostName.name, hlabels])
    | cons label labels =>
        have hdot : ∀ part ∈ label :: labels, '.' ∉ part := by
          intro part hpart hmem
          have hvalid := host.valid part (hlabels ▸ List.mem_append_left _ hpart)
          exact absurd (hvalid.2 '.' hmem) (by decide)
        have hsplit : (['.'].intercalate (label :: labels) ++ '.' :: other.name).splitOn '.' =
            host.labels := by
          rw [List.splitOn_append_cons_self, List.splitOn_intercalate '.' hdot (by simp),
            splitOn_name, hlabels]
        refine Or.inr ⟨['.'].intercalate (label :: labels), ?_⟩
        rw [HostName.name, ← hsplit, List.intercalate_splitOn]
  · intro h
    unfold HostName.Within
    rw [← splitOn_name host, ← splitOn_name other]
    rcases h with h | ⟨before, h⟩
    · exact h ▸ List.suffix_refl _
    · rw [h, List.splitOn_append_cons_self]
      exact List.suffix_append _ _

end Names

section Parsing

variable {word tail : List Char}

/-- A host name is followed by nothing or by a path. -/
def IsTail (tail : List Char) : Prop := tail = [] ∨ tail.head? = some '/'

theorem isTail_pathText (path : Option RulePath) : IsTail (pathText path) := by
  cases path with
  | none => exact Or.inl rfl
  | some path => exact Or.inr rfl

theorem netloc_append (hword : ∀ c ∈ word, c ≠ '/' ∧ c ≠ '?' ∧ c ≠ '#') (htail : IsTail tail) :
    netloc ("http://".toList ++ (word ++ tail)) = word := by
  change (word ++ tail).takeWhile (fun c => c ≠ '/' && c ≠ '?' && c ≠ '#') = word
  rw [List.takeWhile_append_of_pos (by simpa [and_assoc] using hword)]
  rcases htail with rfl | hslash
  · simp
  · cases tail with
    | nil => cases hslash
    | cons c tail =>
        rw [List.head?_cons, Option.some.injEq] at hslash
        simp [hslash]

theorem toLower_hostChar {c : Char} (h : c = '.' ∨ isHostChar c = true) : c.toLower = c := by
  have hupper : ¬ (c.val ≥ 'A'.val ∧ c.val ≤ 'Z'.val) := by
    rintro ⟨hge, hle⟩
    have hall : ∀ n < 91, 65 ≤ n → Char.ofNat n ≠ '.' ∧ isHostChar (Char.ofNat n) = false := by
      decide
    obtain ⟨hdot, hhost⟩ := hall c.toNat (Nat.lt_succ_of_le hle) hge
    rw [Char.ofNat_toNat] at hdot hhost
    rw [hhost] at h
    exact h.elim hdot Bool.false_ne_true
  exact dif_neg hupper

/-- The host of a URL with a host name. -/
theorem hostname_name (host : HostName) (htail : IsTail tail) :
    hostname ("http://".toList ++ (host.name ++ tail)) = some host.name := by
  have hdomain := isDomain_name host
  have hnetloc : netloc ("http://".toList ++ (host.name ++ tail)) = host.name := by
    apply netloc_append _ htail
    intro c hc
    refine ⟨?_, ?_, ?_⟩
    all_goals
      rintro rfl
      exact hdomain.not_mem (by decide) hc
  have hlower : host.name.map Char.toLower = host.name := by
    rw [List.map_congr_left fun c hc => toLower_hostChar (hdomain.2 c hc), List.map_id']
  have hopening : '[' ∉ host.name := hdomain.not_mem (by decide)
  have hclosing : ']' ∉ host.name := hdomain.not_mem (by decide)
  have hat : '@' ∉ host.name := hdomain.not_mem (by decide)
  have hcolon : ':' ∉ host.name := hdomain.not_mem (by decide)
  have hsplit : host.name.splitOn '@' = [host.name] := List.splitOn_eq_singleton hat
  rw [hostname, hnetloc, locationHost, hsplit]
  simp [hopening, hclosing, hcolon, hdomain.1, hlower]

/-- The host of what is made of a rule with `https`. -/
theorem hostname_https (rest : List Char) :
    hostname ("http://".toList ++ ("https://".toList ++ rest)) = some "https".toList := by
  have hnetloc : netloc ("http://".toList ++ ("https:".toList ++ ("//".toList ++ rest))) =
      "https:".toList := netloc_append (by decide) (Or.inr rfl)
  have hhost : locationHost "https:".toList = some "https".toList := by decide
  exact (congrArg locationHost hnetloc).trans hhost

theorem not_http_prefix (host : HostName) (htail : IsTail tail) :
    "http:".toList.isPrefixOf (host.name ++ tail) = false := by
  have hcolon : ':' ∉ host.name := (isDomain_name host).not_mem (by decide)
  rw [Bool.eq_false_iff, ne_eq, List.isPrefixOf_iff_prefix]
  intro hprefix
  rcases List.prefix_or_prefix_of_prefix hprefix (List.prefix_append host.name tail) with
    hname | ⟨rest, hrest⟩
  · exact hcolon (hname.subset (by decide))
  · rw [← hrest, List.prefix_append_right_inj] at hprefix
    cases rest with
    | nil =>
        rw [List.append_nil] at hrest
        exact hcolon (hrest ▸ by decide)
    | cons c rest =>
        -- The name ends inside `http:`, where no path can start.
        obtain ⟨more, hmore⟩ := hprefix
        rcases htail with rfl | hslash
        · cases hmore
        · rw [← hmore, List.cons_append, List.head?_cons, Option.some.injEq] at hslash
          have hmem : '/' ∈ "http:".toList := by
            rw [← hrest, hslash]
            exact List.mem_append_right _ (List.mem_cons_self ..)
          exact absurd hmem (by decide)

theorem getHostname_name (host : HostName) (htail : IsTail tail) :
    getHostname (host.name ++ tail) = some host.name := by
  rw [getHostname, not_http_prefix host htail, if_neg (by decide)]
  exact hostname_name host htail

theorem getHostname_http (host : HostName) (htail : IsTail tail) :
    getHostname ("http://".toList ++ (host.name ++ tail)) = some host.name := by
  have hprefix : "http:".toList.isPrefixOf ("http://".toList ++ (host.name ++ tail)) = true := rfl
  rw [getHostname, hprefix, if_pos rfl]
  exact hostname_name host htail

/-- The test for the scheme does not know the other one. -/
theorem getHostname_https (rest : List Char) :
    getHostname ("https://".toList ++ rest) = some "https".toList := by
  have hprefix : "http:".toList.isPrefixOf ("https://".toList ++ rest) = false := rfl
  rw [getHostname, hprefix, if_neg (by decide)]
  exact hostname_https rest

theorem addDomainToSet_of_isDomain {domain something : List Char} (s : List (List Char))
    (h : IsDomain domain) (hhead : domain.head? ≠ some '.')
    (hsomething : getHostname something = some domain) :
    addDomainToSet s something = s.insert domain := by
  have hlast : domain.getLast? ≠ some '/' := by
    intro hslash
    exact h.not_mem (by decide) (List.mem_of_getLast? hslash)
  rw [addDomainToSet, hsomething]
  dsimp only
  rw [if_neg hhead, if_neg hlast, if_neg h.1]

/-- The host that is read from a rule. -/
def Rule.read (rule : Rule) : HostName := if rule.form = .https then httpsHost else rule.host

theorem star_not_mem_line (rule : Rule) : '*' ∉ rule.line := by
  have hstart : '*' ∉ rule.form.start := by
    cases rule.form
    all_goals decide
  have hname : '*' ∉ rule.host.name := (isDomain_name rule.host).not_mem (by decide)
  have hpath : '*' ∉ pathText rule.path := by
    cases rule.path with
    | none => simp [pathText]
    | some path => simp [pathText, path.property.1]
  simp [Rule.line, hstart, hname, hpath]

/-- Without wildcards a line is read by its start. -/
theorem parseLine_of_no_star {line : List Char} (domains : List (List Char)) (h : '*' ∉ line) :
    parseLine domains line = addLine domains line := by
  have hwild : ¬ ['.', '*'] <:+: line := fun hwild => h (hwild.subset (by decide))
  rw [parseLine, if_neg hwild, if_neg h]

theorem head?_name (host : HostName) (tail : List Char) {c : Char} (hc : isHostChar c = false) :
    (host.name ++ tail).head? ≠ some c := by
  obtain ⟨first, rest, hname, hfirst⟩ := exists_name_eq_cons host
  rw [hname, List.cons_append, List.head?_cons, ne_eq, Option.some.injEq]
  rintro rfl
  rw [hc] at hfirst
  cases hfirst

/-- No start of a rule is taken off a name. -/
theorem lstrip_name (host : HostName) (tail : List Char) {c : Char} (hc : isHostChar c = false) :
    lstrip c (host.name ++ tail) = host.name ++ tail := by
  have hhead := head?_name host tail hc
  unfold lstrip
  cases htext : host.name ++ tail with
  | nil => rfl
  | cons first rest =>
      rw [htext, List.head?_cons, ne_eq, Option.some.injEq] at hhead
      exact List.dropWhile_cons_of_neg (by simpa using hhead)

theorem parseLine_rule (domains : List (List Char)) (rule : Rule) :
    parseLine domains rule.line = domains.insert rule.read.name := by
  rw [parseLine_of_no_star domains (star_not_mem_line rule)]
  unfold addLine
  obtain ⟨form, host, path⟩ := rule
  have htail := isTail_pathText path
  have hadd {something : List Char} (h : getHostname something = some host.name) :
      addDomainToSet domains something = domains.insert host.name := by
    have hhead := head?_name host [] (c := '.') (by decide)
    rw [List.append_nil] at hhead
    exact addDomainToSet_of_isDomain domains (isDomain_name host) hhead h
  cases form with
  | anchored =>
      have hstrip : lstrip '|' (Rule.line ⟨.anchored, host, path⟩) =
          lstrip '|' (host.name ++ pathText path) := rfl
      rw [hstrip, lstrip_name host _ (by decide), hadd (getHostname_name host htail)]
      rfl
  | http =>
      have hstrip : lstrip '|' (Rule.line ⟨.http, host, path⟩) =
          "http://".toList ++ (host.name ++ pathText path) := rfl
      rw [hstrip, hadd (getHostname_http host htail)]
      rfl
  | https =>
      have hstrip : lstrip '|' (Rule.line ⟨.https, host, path⟩) =
          "https://".toList ++ (host.name ++ pathText path) := rfl
      have hdomain : addDomainToSet domains ("https://".toList ++ (host.name ++ pathText path)) =
          domains.insert httpsHost.name :=
        addDomainToSet_of_isDomain domains (isDomain_name httpsHost) (by decide)
          (getHostname_https _)
      rw [hstrip, hdomain]
      rfl
  | dotted =>
      have hstrip : lstrip '.' (Rule.line ⟨.dotted, host, path⟩) =
          lstrip '.' (host.name ++ pathText path) := rfl
      rw [hstrip, lstrip_name host _ (by decide), hadd (getHostname_name host htail)]
      rfl
  | plain =>
      have hline : Rule.line ⟨.plain, host, path⟩ = host.name ++ pathText path := rfl
      have hpipe : ("||".toList.isPrefixOf (host.name ++ pathText path)) = false := by
        rw [Bool.eq_false_iff, ne_eq, List.isPrefixOf_iff_prefix]
        rintro ⟨rest, hrest⟩
        exact head?_name host (pathText path) (c := '|') (by decide) (hrest ▸ rfl)
      rw [hline, if_neg (head?_name host _ (by decide)), if_neg (head?_name host _ (by decide)),
        if_neg (head?_name host _ (by decide)), hpipe, if_neg (by decide),
        if_neg (head?_name host _ (by decide)), if_neg (head?_name host _ (by decide)),
        hadd (getHostname_name host htail)]
      rfl

theorem mem_foldl_parseLine (rules : List Rule) (domains : List (List Char)) (domain : List Char) :
    domain ∈ (rules.map Rule.line).foldl parseLine domains ↔
      domain ∈ domains ∨ ∃ rule ∈ rules, domain = rule.read.name := by
  induction rules generalizing domains with
  | nil => simp
  | cons rule rules ih =>
      rw [List.map_cons, List.foldl_cons, ih, parseLine_rule, List.mem_insert_iff]
      simp only [List.mem_cons, exists_eq_or_imp]
      tauto

end Parsing

section Cover

variable {content : List Char} {rules : List Rule}

theorem mem_parseGfwlist_iff (h : Text.readLines content = rules.map Rule.line)
    (domain : List Char) :
    domain ∈ parseGfwlist content ↔ ∃ rule ∈ rules, domain = rule.read.name := by
  rw [parseGfwlist, h, mem_foldl_parseLine]
  simp

/-- A pattern of the list matches the hosts within a host that is read. -/
theorem accepts_iff (today : Date) (h : Text.readLines content = rules.map Rule.line)
    (host : HostName) :
    (∃ pattern ∈ hostPatterns (generateAcl today (parseGfwlist content)),
      Regex.accepts pattern host.name = true) ↔
      ∃ rule ∈ rules, inetAton rule.read.name = false ∧ host.Within rule.read := by
  have hdomains : ∀ domain ∈ parseGfwlist content, IsDomain domain := by
    intro domain hdomain
    obtain ⟨rule, -, rfl⟩ := (mem_parseGfwlist_iff h domain).mp hdomain
    exact isDomain_name rule.read
  have hpattern (rule : Rule) : Regex.accepts (hostPattern rule.read.name) host.name = true ↔
      host.Within rule.read := by
    have hread := isDomain_name rule.read
    rw [within_iff]
    exact accepts_hostPattern_iff hread.plain hread.1 ((isDomain_name host).not_mem (by decide))
  constructor
  · rintro ⟨pattern, hmem, haccepts⟩
    obtain ⟨domain, hdomain, hname, rfl⟩ := (mem_hostPatterns_iff today hdomains pattern).mp hmem
    obtain ⟨rule, hrule, rfl⟩ := (mem_parseGfwlist_iff h domain).mp hdomain
    exact ⟨rule, hrule, hname, (hpattern rule).mp haccepts⟩
  · rintro ⟨rule, hrule, hname, hwithin⟩
    refine ⟨hostPattern rule.read.name, ?_, (hpattern rule).mpr hwithin⟩
    rw [mem_hostPatterns_iff today hdomains]
    exact ⟨rule.read.name, (mem_parseGfwlist_iff h _).mpr ⟨rule, hrule, rfl⟩, hname, rfl⟩

theorem read_https {rule : Rule} (h : rule.form = .https) : rule.read = httpsHost := if_pos h

theorem read_other {rule : Rule} (h : rule.form ≠ .https) : rule.read = rule.host := if_neg h

/-- What is read from a rule and no address: its host, or `https`. -/
theorem read_iff (host : HostName) :
    (∃ rule ∈ rules, inetAton rule.read.name = false ∧ host.Within rule.read) ↔
      (∃ rule ∈ rules, rule.form = .https ∧ host.Within httpsHost) ∨
        ∃ rule ∈ rules, rule.Kept ∧ host.Within rule.host := by
  have hhttps : inetAton httpsHost.name = false := by decide
  constructor
  · rintro ⟨rule, hrule, hname, hwithin⟩
    by_cases hform : rule.form = .https
    · rw [read_https hform] at hwithin
      exact Or.inl ⟨rule, hrule, hform, hwithin⟩
    · rw [read_other hform] at hname hwithin
      exact Or.inr ⟨rule, hrule, ⟨hform, hname⟩, hwithin⟩
  · rintro (⟨rule, hrule, hform, hwithin⟩ | ⟨rule, hrule, ⟨hform, hname⟩, hwithin⟩)
    · refine ⟨rule, hrule, ?_⟩
      rw [read_https hform]
      exact ⟨hhttps, hwithin⟩
    · refine ⟨rule, hrule, ?_⟩
      rw [read_other hform]
      exact ⟨hname, hwithin⟩

theorem HostName.Within.trans {host other last : HostName} (h : host.Within other)
    (hother : other.Within last) : host.Within last := List.IsSuffix.trans hother h

/-- Only `https` itself has `https` as a subdomain. -/
theorem httpsHost_within_iff (host : HostName) :
    httpsHost.Within host ↔ host.name = "https".toList := by
  rw [within_iff]
  constructor
  · rintro (hname | ⟨before, hname⟩)
    · exact hname.symm
    · have hdot : '.' ∈ httpsHost.name := by simp [hname]
      exact absurd hdot (by decide)
  · intro hname
    exact Or.inl hname.symm

end Cover

/-- The patterns cover the listed hosts exactly if no rule for `https` adds or loses one, and
no host that is taken for an address is lost. -/
theorem coversListed_iff (today : Date) (content : List Char) (rules : List Rule)
    (h : Text.readLines content = rules.map Rule.line) :
    CoversListed today content rules ↔ Recovered rules := by
  unfold CoversListed
  simp only [accepts_iff today h, read_iff]
  constructor
  · intro hcover
    constructor
    · rintro ⟨rule, hrule, hform⟩
      obtain ⟨other, hother, hwithin⟩ :=
        (hcover httpsHost).mp (Or.inl ⟨rule, hrule, hform, List.suffix_refl _⟩)
      exact ⟨other, hother, (httpsHost_within_iff other.host).mp hwithin⟩
    · intro rule hrule _
      exact (hcover rule.host).mpr ⟨rule, hrule, List.suffix_refl _⟩
  · rintro ⟨hlisted, hfound⟩ host
    constructor
    · rintro (⟨rule, hrule, hform, hwithin⟩ | ⟨rule, hrule, -, hwithin⟩)
      · obtain ⟨other, hother, hname⟩ := hlisted ⟨rule, hrule, hform⟩
        exact ⟨other, hother, hwithin.trans ((httpsHost_within_iff other.host).mpr hname)⟩
      · exact ⟨rule, hrule, hwithin⟩
    · rintro ⟨rule, hrule, hwithin⟩
      by_cases hkept : rule.Kept
      · exact Or.inr ⟨rule, hrule, hkept, hwithin⟩
      · rcases hfound rule hrule hkept with ⟨other, hother, hform, hhttps⟩ |
          ⟨other, hother, hother', hhost⟩
        · exact Or.inl ⟨other, hother, hform, hwithin.trans hhttps⟩
        · exact Or.inr ⟨other, hother, hother', hwithin.trans hhost⟩

/-- A host for examples. -/
def exampleHost : HostName where
  labels := ["example".toList, "com".toList]
  ne_nil := by simp
  valid := by decide

theorem coversListed_example :
    CoversListed ⟨2020, 1, 1⟩ "||example.com\n".toList [⟨.anchored, exampleHost, none⟩] ↔
      Recovered [⟨.anchored, exampleHost, none⟩] :=
  coversListed_iff ⟨2020, 1, 1⟩ _ _ (by decide)

/-- The rule `|https://example.com` becomes a pattern for `https`. -/
theorem not_coversListed_https :
    hostPatterns (generateAcl ⟨2020, 1, 1⟩ (parseGfwlist "|https://example.com".toList)) =
        ["(?:^|\\.)https$".toList] ∧
      ¬ CoversListed ⟨2020, 1, 1⟩ "|https://example.com".toList [⟨.https, exampleHost, none⟩] := by
  have hpatterns : hostPatterns (generateAcl ⟨2020, 1, 1⟩
      (parseGfwlist "|https://example.com".toList)) = ["(?:^|\\.)https$".toList] := by decide
  refine ⟨hpatterns, ?_⟩
  intro hcover
  obtain ⟨pattern, hmem, haccepts⟩ :=
    (hcover exampleHost).mpr ⟨_, List.mem_singleton_self _, List.suffix_refl _⟩
  rw [hpatterns, List.mem_singleton] at hmem
  rw [hmem] at haccepts
  exact absurd haccepts (by decide)

end WifiProject.Gfwlist
