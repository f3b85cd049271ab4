import WifiProject.Acl.AclLines

/-!
Loading the rules of an id. The object is cleared before its file is parsed, and
an `IOException` is caught: a malformed import in the middle of a file leaves
the hostnames and URLs that stand before it and nothing of the object but its
mode.
-/

namespace WifiProject.Acl

open Lib Net

/-- What `getFile(id)` gives. -/
inductive RuleFile where
  /-- Opening it throws. -/
  | unreadable
  | readable (text : String)
  /-- Reading on after these lines throws. -/
  | broken (text : String)
  deriving DecidableEq

inductive LoadFailure where
  | read
  | parse (failure : Failure)
  deriving DecidableEq

/-- A `MalformedURLException` is an `IOException`, the `IllegalStateException` of
an unrecognized block is not. -/
def LoadFailure.isIOException : LoadFailure → Bool
  | .read | .parse (.malformedURL _) => true
  | .parse (.unrecognizedBlock _) => false

section

variable {Url : Type} (platform : Platform Url)

/-- What is left when parsing ends early. -/
def leftBy (acl : Acl Url) (state : Parse Url) : Acl Url where
  bypassHostnames := state.bypassHostnames
  proxyHostnames := state.proxyHostnames
  subnets := []
  urls := state.urls
  bypass := acl.bypass

/-- `fromReader` on the file. The reader is opened before the object is cleared. -/
def fromFile (acl : Acl Url) : RuleFile → Except (LoadFailure × Acl Url) (Acl Url)
  | .unreadable => .error (.read, acl)
  | .readable text =>
      match fromReader platform acl text false with
      | .ok acl => .ok acl
      | .error (failure, acl) => .error (.parse failure, acl)
  | .broken text =>
      match parse platform text false with
      | .ok state => .error (.read, leftBy acl state)
      | .error (failure, state) => .error (.parse failure, leftBy acl state)

/-- `fromId`: the object it returns, or what it throws with the object as left. -/
def fromId (acl : Acl Url) (file : RuleFile) : Except (LoadFailure × Acl Url) (Acl Url) :=
  match fromFile platform acl file with
  | .ok acl => .ok acl
  | .error (failure, acl) => if failure.isIOException then .ok acl else .error (failure, acl)

/-- Every line was taken. -/
def LoadsAll (file : RuleFile) (acl : Acl Url) : Prop :=
  ∃ text, file = .readable text ∧
    (∀ line ∈ Text.readLines text.toList, lineFailure platform line = none) ∧
    acl = ((Parse.start false).after platform (Text.readLines text.toList)).toAcl

structure SameContents (acl acl' : Acl Url) : Prop where
  bypass : acl.bypass = acl'.bypass
  bypassHostnames : platform.hostnames.items acl.bypassHostnames =
    platform.hostnames.items acl'.bypassHostnames
  proxyHostnames : platform.hostnames.items acl.proxyHostnames =
    platform.hostnames.items acl'.proxyHostnames
  subnets : platform.subnets.items acl.subnets = platform.subnets.items acl'.subnets
  urls : platform.urls.items acl.urls = platform.urls.items acl'.urls

/-- The file is loaded completely, or the object is returned as it was. -/
def AllOrNothing (acl : Acl Url) (file : RuleFile) : Prop :=
  ∃ acl', fromId platform acl file = .ok acl' ∧
    (LoadsAll platform file acl' ∨ SameContents platform acl acl')

/-- The lines before the first failure, and what it is. -/
def firstFailure : List (List Char) → Option (List (List Char) × Failure)
  | [] => none
  | line :: rest =>
      match lineFailure platform line with
      | some failure => some ([], failure)
      | none => (firstFailure rest).map fun (before, failure) => (line :: before, failure)

/-- The object has the hostnames and imports of the lines already, and no subnets. -/
structure HoldsOnly (acl : Acl Url) (lines : List (List Char)) : Prop where
  bypassHostnames : platform.hostnames.items acl.bypassHostnames =
    platform.hostnames.items
      ((listed (some .bypass) lines).filterMap (entryHostname platform .bypass))
  proxyHostnames : platform.hostnames.items acl.proxyHostnames =
    platform.hostnames.items
      ((listed (some .bypass) lines).filterMap (entryHostname platform .proxy))
  subnets : platform.subnets.items acl.subnets = []
  urls : platform.urls.items acl.urls = platform.urls.items (lines.flatMap (lineUrls platform))

/-- A failure is harmless when it is caught and there was nothing to lose. -/
def Harmless (acl : Acl Url) : Option (List (List Char) × Failure) → Prop
  | none => True
  | some (before, failure) =>
      (LoadFailure.parse failure).isIOException = true ∧ HoldsOnly platform acl before

def LoadsSafely (acl : Acl Url) : RuleFile → Prop
  | .unreadable => True
  | .readable text => Harmless platform acl (firstFailure platform (Text.readLines text.toList))
  | .broken text =>
      Harmless platform acl (firstFailure platform (Text.readLines text.toList)) ∧
        (firstFailure platform (Text.readLines text.toList) = none →
          HoldsOnly platform acl (Text.readLines text.toList))

end

section Loading

variable {Url : Type} {platform : Platform Url} {acl : Acl Url}

theorem firstFailure_eq_none {lines : List (List Char)} (h : firstFailure platform lines = none) :
    ∀ line ∈ lines, lineFailure platform line = none := by
  induction lines with
  | nil => simp
  | cons line rest ih =>
      cases hline : lineFailure platform line with
      | some failure => simp [firstFailure, hline] at h
      | none =>
          simp only [firstFailure, hline, Option.map_eq_none_iff] at h
          exact List.forall_mem_cons.mpr ⟨hline, ih h⟩

theorem firstFailure_eq_some {lines before : List (List Char)} {failure : Failure}
    (h : firstFailure platform lines = some (before, failure)) :
    ∃ line rest, lines = before ++ line :: rest ∧
      (∀ line ∈ before, lineFailure platform line = none) ∧
      lineFailure platform line = some failure := by
  induction lines generalizing before with
  | nil => cases h
  | cons line rest ih =>
      cases hline : lineFailure platform line with
      | some first =>
          simp only [firstFailure, hline, Option.some.injEq, Prod.mk.injEq] at h
          obtain ⟨rfl, rfl⟩ := h
          exact ⟨line, rest, rfl, by simp, hline⟩
      | none =>
          simp only [firstFailure, hline, Option.map_eq_some_iff] at h
          obtain ⟨⟨before', failure'⟩, hrest, heq⟩ := h
          obtain ⟨rfl, rfl⟩ := Prod.mk.inj heq
          obtain ⟨last, rest', rfl, hbefore, hlast⟩ := ih hrest
          exact ⟨last, rest', rfl, List.forall_mem_cons.mpr ⟨hline, hbefore⟩, hlast⟩

/-- A line with a malformed import adds no URL. -/
theorem lineUrls_of_isIOException {line : List Char} {failure : Failure}
    (h : lineFailure platform line = some failure)
    (hio : (LoadFailure.parse failure).isIOException = true) : lineUrls platform line = [] := by
  unfold lineFailure importFailure at h
  unfold lineUrls
  cases himport : lineImport line with
  | none => rfl
  | some text =>
      rw [himport] at h
      cases hurl : platform.parseUrl (String.ofList text) with
      | error message => simp [hurl]
      | ok url =>
          simp only [hurl] at h
          cases hkind : lineKind line <;>
            simp only [hkind, blockFailure, Option.or_none, Option.none_or, reduceCtorEq,
              Option.some.injEq] at h
          subst h
          cases hio

/-- What is left after some lines is what the object was exactly when it held
only that. -/
theorem sameContents_leftBy_iff (acl : Acl Url) (lines : List (List Char)) :
    SameContents platform acl (leftBy acl ((Parse.start false).after platform lines)) ↔
      HoldsOnly platform acl lines := by
  constructor
  · rintro ⟨-, hbypass, hproxy, hsubnets, hurls⟩
    exact ⟨hbypass, hproxy, hsubnets.trans platform.subnets.items_nil, hurls⟩
  · rintro ⟨hbypass, hproxy, hsubnets, hurls⟩
    exact ⟨rfl, hbypass, hproxy, hsubnets.trans platform.subnets.items_nil.symm, hurls⟩

/-- The first failure of a text decides what the parser ends with. -/
theorem parse_of_firstFailure (acl : Acl Url) {text : String} {before : List (List Char)} {failure : Failure}
    (h : firstFailure platform (Text.readLines text.toList) = some (before, failure)) :
    ∃ state, parse platform text false = .error (failure, state) ∧
      ((LoadFailure.parse failure).isIOException = true →
        leftBy acl state = leftBy acl ((Parse.start false).after platform before)) := by
  obtain ⟨line, rest, hlines, hbefore, hline⟩ := firstFailure_eq_some h
  rw [parse, hlines, Parse.lines_of_failure hbefore hline]
  refine ⟨_, rfl, fun hio => ?_⟩
  rw [lineUrls_of_isIOException hline hio, List.append_nil]

theorem parse_of_accepted {text : String}
    (h : firstFailure platform (Text.readLines text.toList) = none) :
    parse platform text false =
      .ok ((Parse.start false).after platform (Text.readLines text.toList)) :=
  Parse.lines_of_accepted (firstFailure_eq_none h)

theorem not_loadsAll_of_failure {text : String} {failure : List (List Char) × Failure}
    (h : firstFailure platform (Text.readLines text.toList) = some failure) (acl' : Acl Url) :
    ¬ LoadsAll platform (.readable text) acl' := by
  rintro ⟨text', heq, hall, -⟩
  cases heq
  obtain ⟨line, rest, hlines, -, hline⟩ := firstFailure_eq_some h
  rw [hall line (by simp [hlines])] at hline
  cases hline

/-- What a file with a failing line leads to. -/
theorem allOrNothing_of_failure {file : RuleFile} {text : String} {before : List (List Char)}
    {failure : Failure}
    (h : firstFailure platform (Text.readLines text.toList) = some (before, failure))
    (hfile : file = .readable text ∨ file = .broken text) :
    AllOrNothing platform acl file ↔ Harmless platform acl (some (before, failure)) := by
  obtain ⟨state, hparse, hleft⟩ := parse_of_firstFailure acl h
  have hfrom : fromFile platform acl file = .error (.parse failure, leftBy acl state) := by
    rcases hfile with rfl | rfl
    · simp [fromFile, fromReader, hparse, leftBy]
    · simp [fromFile, hparse]
  have hloads : ∀ acl', ¬ LoadsAll platform file acl' := by
    intro acl'
    rcases hfile with rfl | rfl
    · exact not_loadsAll_of_failure h acl'
    · rintro ⟨_, heq, -⟩
      cases heq
  unfold AllOrNothing Harmless fromId
  rw [hfrom]
  dsimp only
  by_cases hio : (LoadFailure.parse failure).isIOException = true
  · rw [if_pos hio, hleft hio, ← sameContents_leftBy_iff]
    constructor
    · rintro ⟨acl', heq, hall | hsame⟩
      · exact absurd hall (hloads acl')
      · cases heq
        exact ⟨hio, hsame⟩
    · rintro ⟨-, hsame⟩
      exact ⟨_, rfl, Or.inr hsame⟩
  · rw [if_neg hio]
    constructor
    · rintro ⟨acl', heq, -⟩
      cases heq
    · rintro ⟨hio', -⟩
      exact absurd hio' hio

/-- Loading is all or nothing exactly when no line fails before the end, or the
failure is caught and the object held nothing but what is left of the file. -/
theorem allOrNothing_iff_loadsSafely (platform : Platform Url) (acl : Acl Url)
    (file : RuleFile) : AllOrNothing platform acl file ↔ LoadsSafely platform acl file := by
  cases file with
  | unreadable =>
      have hsame : SameContents platform acl acl := ⟨rfl, rfl, rfl, rfl, rfl⟩
      exact iff_of_true ⟨acl, rfl, Or.inr hsame⟩ trivial
  | readable text =>
      cases hfirst : firstFailure platform (Text.readLines text.toList) with
      | some failure =>
          rw [allOrNothing_of_failure hfirst (Or.inl rfl), LoadsSafely, hfirst]
      | none =>
          rw [LoadsSafely, hfirst]
          refine iff_of_true ⟨_, ?_, Or.inl ⟨text, rfl, firstFailure_eq_none hfirst, rfl⟩⟩ trivial
          simp [fromId, fromFile, fromReader, parse_of_accepted hfirst]
  | broken text =>
      cases hfirst : firstFailure platform (Text.readLines text.toList) with
      | some failure =>
          rw [allOrNothing_of_failure hfirst (Or.inr rfl), LoadsSafely, hfirst]
          simp
      | none =>
          rw [LoadsSafely, hfirst, ← sameContents_leftBy_iff]
          have hfrom : fromId platform acl (.broken text) = .ok (leftBy acl
              ((Parse.start false).after platform (Text.readLines text.toList))) := by
            simp [fromId, fromFile, parse_of_accepted hfirst, LoadFailure.isIOException]
          unfold AllOrNothing
          rw [hfrom]
          constructor
          · rintro ⟨acl', heq, ⟨_, hfile, -⟩ | hsame⟩
            · cases hfile
            · cases heq
              exact ⟨trivial, fun _ => hsame⟩
          · rintro ⟨-, hsame⟩
            exact ⟨_, rfl, Or.inr (hsame rfl)⟩

/-- An import without a protocol, after one hostname. -/
def malformedText : String := "example\n#IMPORT_URL <example>\n[bypass_all]"

/-- An object with other rules. -/
def loadedAcl : Acl String where
  bypassHostnames := ["local"]
  subnets := [privateNetwork]

theorem not_allOrNothing_malformed :
    ¬ AllOrNothing plainPlatform loadedAcl (.readable malformedText) := by
  have hfrom : fromId plainPlatform loadedAcl (.readable malformedText) =
      .ok { bypassHostnames := ["example"] } := by decide +kernel
  rintro ⟨acl', heq, ⟨text, hfile, hall, -⟩ | hsame⟩
  · cases hfile
    revert hall
    decide +kernel
  · rw [hfrom] at heq
    cases heq
    have hsubnets := hsame.subnets
    revert hsubnets
    decide +kernel

end Loading

end WifiProject.Acl
