import WifiProject.Acl.Acl

/-!
What a rule file says, line by line. The kind of a line, its import and its
failure do not depend on what was read before it; only the side of an entry
does. Reading lines is described by these, without the variables of the parser.
-/

namespace WifiProject.Acl

open Lib Net

inductive LineKind where
  | blank
  /-- The entries that follow belong to a side, or are dropped. -/
  | header (side : Option Side)
  | mode (bypass : Bool)
  | entry (text : List Char)
  | unknown (block : String)
  deriving DecidableEq

/-- The kind of a line that starts with a bracket. -/
def blockKind (input : String) : LineKind :=
  if input = "[outbound_block_list]" then .header none
  else if input = "[black_list]" ∨ input = "[bypass_list]" then .header (some .bypass)
  else if input = "[white_list]" ∨ input = "[proxy_list]" then .header (some .proxy)
  else if input = "[reject_all]" ∨ input = "[bypass_all]" then .mode true
  else if input = "[accept_all]" ∨ input = "[proxy_all]" then .mode false
  else .unknown input

def inputKind (input : List Char) : LineKind :=
  if input.head? = some '[' then blockKind (String.ofList input)
  else if input = [] then .blank
  else .entry input

def lineKind (line : List Char) : LineKind := inputKind (Text.trim (Text.cut '#' line).1)

/-- The URL that the comment of a line imports. -/
def lineImport (line : List Char) : Option (List Char) :=
  networkAclParser ((Text.cut '#' line).2.getD [])

def blockFailure : LineKind → Option Failure
  | .unknown block => some (.unrecognizedBlock ("Unrecognized block: " ++ block))
  | _ => none

section

variable {Url : Type} (platform : Platform Url)

def lineUrls (line : List Char) : List Url :=
  match lineImport line with
  | none => []
  | some text =>
      match platform.parseUrl (String.ofList text) with
      | .error _ => []
      | .ok url => [url]

def importFailure (line : List Char) : Option Failure :=
  match lineImport line with
  | none => none
  | some text =>
      match platform.parseUrl (String.ofList text) with
      | .error message => some (.malformedURL message)
      | .ok _ => none

/-- The import is looked at first. -/
def lineFailure (line : List Char) : Option Failure :=
  (importFailure platform line).or (blockFailure (lineKind line))

end

/-- The entries with the side they stand under; those of a block list are not
listed. -/
def listed : Option Side → List (List Char) → List (Side × List Char)
  | _, [] => []
  | current, line :: rest =>
      match lineKind line with
      | .header side => listed side rest
      | .entry text => current.toList.map (fun side => (side, text)) ++ listed current rest
      | _ => listed current rest

def sideAfter : Option Side → List (List Char) → Option Side
  | current, [] => current
  | current, line :: rest =>
      match lineKind line with
      | .header side => sideAfter side rest
      | _ => sideAfter current rest

def lineMode (line : List Char) : Option Bool :=
  match lineKind line with
  | .mode bypass => some bypass
  | _ => none

/-- The last mode line decides. -/
def modeAfter (bypass : Bool) (lines : List (List Char)) : Bool :=
  (lines.filterMap lineMode).getLast?.getD bypass

section

variable {Url : Type} (platform : Platform Url)

def entryHostname (side : Side) (entry : Side × List Char) : Option String :=
  if entry.1 = side ∧ Subnet.fromString platform.parseNumericAddress entry.2 = none then
    some (String.ofList entry.2)
  else none

def entrySubnet (side : Side) (entry : Side × List Char) : Option Subnet :=
  if entry.1 = side then Subnet.fromString platform.parseNumericAddress entry.2 else none

/-- The parser after lines without a failure. -/
def Parse.after (lines : List (List Char)) (state : Parse Url) : Parse Url where
  bypass := modeAfter state.bypass lines
  side := sideAfter state.side lines
  bypassHostnames := state.bypassHostnames ++
    (listed state.side lines).filterMap (entryHostname platform .bypass)
  proxyHostnames := state.proxyHostnames ++
    (listed state.side lines).filterMap (entryHostname platform .proxy)
  bypassSubnets := state.bypassSubnets ++
    (listed state.side lines).filterMap (entrySubnet platform .bypass)
  proxySubnets := state.proxySubnets ++
    (listed state.side lines).filterMap (entrySubnet platform .proxy)
  urls := state.urls ++ lines.flatMap (lineUrls platform)

end

section Reading

variable {Url : Type} {platform : Platform Url} {state : Parse Url}

theorem listed_cons (current : Option Side) (line : List Char) (rest : List (List Char)) :
    listed current (line :: rest) =
      listed current [line] ++ listed (sideAfter current [line]) rest := by
  cases hkind : lineKind line <;> simp [listed, sideAfter, hkind]

theorem sideAfter_cons (current : Option Side) (line : List Char) (rest : List (List Char)) :
    sideAfter current (line :: rest) = sideAfter (sideAfter current [line]) rest := by
  cases hkind : lineKind line <;> simp [sideAfter, hkind]

theorem modeAfter_cons (bypass : Bool) (line : List Char) (rest : List (List Char)) :
    modeAfter bypass (line :: rest) = modeAfter (modeAfter bypass [line]) rest := by
  unfold modeAfter
  cases hmode : lineMode line with
  | none => simp [hmode]
  | some mode =>
      rw [List.filterMap_cons_some hmode, List.filterMap_cons_some hmode, List.getLast?_cons]
      simp

theorem Parse.after_nil : state.after platform [] = state := by
  simp [Parse.after, modeAfter, sideAfter, listed]

theorem Parse.after_cons (line : List Char) (rest : List (List Char)) :
    state.after platform (line :: rest) =
      (state.after platform [line]).after platform rest := by
  unfold Parse.after
  rw [modeAfter_cons, sideAfter_cons, listed_cons]
  simp only [List.filterMap_append, List.flatMap_cons, List.flatMap_nil, List.append_assoc,
    List.append_nil]

/-- A comment adds its import or fails with it. -/
theorem Parse.comment_eq (line : List Char) :
    state.comment platform ((Text.cut '#' line).2.getD []) =
      match importFailure platform line with
      | some failure => .error (failure, state)
      | none => .ok { state with urls := state.urls ++ lineUrls platform line } := by
  unfold Parse.comment importFailure lineUrls lineImport
  cases networkAclParser ((Text.cut '#' line).2.getD []) with
  | none => simp
  | some text =>
      cases hurl : platform.parseUrl (String.ofList text) <;> simp [hurl]

theorem Parse.block_eq (input : String) :
    state.block input =
      match blockKind input with
      | .header side => .ok { state with side }
      | .mode bypass => .ok { state with bypass }
      | _ => .error (.unrecognizedBlock ("Unrecognized block: " ++ input), state) := by
  unfold Parse.block blockKind
  split_ifs <;> rfl

/-- What one line does to the variables other than the imports. -/
theorem Parse.input_eq (input : List Char) :
    state.input platform input =
      match inputKind input with
      | .blank => .ok state
      | .header side => .ok { state with side }
      | .mode bypass => .ok { state with bypass }
      | .entry text => .ok (state.entry platform text)
      | .unknown block =>
          .error (.unrecognizedBlock ("Unrecognized block: " ++ block), state) := by
  unfold Parse.input inputKind
  split_ifs with hbracket hempty
  · rw [Parse.block_eq]
    unfold blockKind
    split_ifs <;> rfl
  · rfl
  · rfl

theorem Parse.entry_eq (text : List Char) :
    state.entry platform text =
      { state with
        bypassHostnames := state.bypassHostnames ++
          (state.side.toList.map fun side => (side, text)).filterMap
            (entryHostname platform .bypass)
        proxyHostnames := state.proxyHostnames ++
          (state.side.toList.map fun side => (side, text)).filterMap
            (entryHostname platform .proxy)
        bypassSubnets := state.bypassSubnets ++
          (state.side.toList.map fun side => (side, text)).filterMap (entrySubnet platform .bypass)
        proxySubnets := state.proxySubnets ++
          (state.side.toList.map fun side => (side, text)).filterMap
            (entrySubnet platform .proxy) } := by
  obtain ⟨bypass, current, _, _, _, _, _⟩ := state
  unfold Parse.entry
  cases current with
  | none => simp
  | some side =>
      cases hsubnet : Subnet.fromString platform.parseNumericAddress text <;>
        cases side <;> simp [entryHostname, entrySubnet, hsubnet, Parse.add]

/-- A line is taken, or its failure keeps the import of the line. -/
theorem Parse.line_eq (line : List Char) :
    state.line platform line =
      match lineFailure platform line with
      | some failure =>
          .error (failure, { state with urls := state.urls ++ lineUrls platform line })
      | none => .ok (state.after platform [line]) := by
  unfold Parse.line lineFailure
  rw [Parse.comment_eq]
  cases himport : importFailure platform line with
  | some failure =>
      have hurls : lineUrls platform line = [] := by
        unfold importFailure at himport
        unfold lineUrls
        split at himport
        · cases himport
        · split at himport
          · simp [*]
          · cases himport
      simp [hurls, Except.bind]
  | none =>
      simp only [Option.none_or, Except.bind]
      rw [Parse.input_eq]
      change (match lineKind line with
        | .blank => _ | .header _ => _ | .mode _ => _ | .entry _ => _ | .unknown _ => _) = _
      cases hkind : lineKind line with
      | entry text =>
          simp only [Parse.entry_eq]
          simp [blockFailure, Parse.after, modeAfter, lineMode, sideAfter, listed, hkind]
      | blank | header | mode | unknown =>
          simp [blockFailure, Parse.after, modeAfter, lineMode, sideAfter, listed, hkind]

/-- Lines without a failure are all taken. -/
theorem Parse.lines_of_accepted {lines : List (List Char)}
    (h : ∀ line ∈ lines, lineFailure platform line = none) :
    Parse.lines platform lines state = .ok (state.after platform lines) := by
  induction lines generalizing state with
  | nil => rw [Parse.lines, Parse.after_nil]
  | cons line rest ih =>
      rw [List.forall_mem_cons] at h
      rw [Parse.lines, Parse.line_eq, h.1]
      simp only [Except.bind]
      rw [ih h.2, ← Parse.after_cons]

/-- The first failure ends the reading. -/
theorem Parse.lines_of_failure {before : List (List Char)} {line : List Char}
    {failure : Failure} (h : ∀ line ∈ before, lineFailure platform line = none)
    (hline : lineFailure platform line = some failure) (rest : List (List Char)) :
    Parse.lines platform (before ++ line :: rest) state =
      .error (failure, { state.after platform before with
        urls := (state.after platform before).urls ++ lineUrls platform line }) := by
  induction before generalizing state with
  | nil =>
      rw [List.nil_append, Parse.lines, Parse.line_eq, hline, Parse.after_nil]
      rfl
  | cons first before ih =>
      rw [List.forall_mem_cons] at h
      rw [List.cons_append, Parse.lines, Parse.line_eq, h.1]
      simp only [Except.bind]
      rw [ih h.2, ← Parse.after_cons]

/-- Without a failure, or up to the first one. -/
theorem accepted_or_failure (platform : Platform Url) (lines : List (List Char)) :
    (∀ line ∈ lines, lineFailure platform line = none) ∨
      ∃ before line rest failure, lines = before ++ line :: rest ∧
        (∀ line ∈ before, lineFailure platform line = none) ∧
        lineFailure platform line = some failure := by
  induction lines with
  | nil => exact Or.inl (by simp)
  | cons line rest ih =>
      cases hline : lineFailure platform line with
      | some failure => exact Or.inr ⟨[], line, rest, failure, rfl, by simp, hline⟩
      | none =>
          rcases ih with hall | ⟨before, last, rest, failure, rfl, hbefore, hlast⟩
          · exact Or.inl (List.forall_mem_cons.mpr ⟨hline, hall⟩)
          · exact Or.inr ⟨line :: before, last, rest, failure, rfl,
              List.forall_mem_cons.mpr ⟨hline, hbefore⟩, hlast⟩

/-- Lines are read to their end exactly when none of them fails. -/
theorem Parse.accepted_of_lines {lines : List (List Char)} {state' : Parse Url}
    (h : Parse.lines platform lines state = .ok state') :
    (∀ line ∈ lines, lineFailure platform line = none) ∧
      state' = state.after platform lines := by
  rcases accepted_or_failure platform lines with hall | ⟨before, line, rest, failure, rfl, hb, hl⟩
  · rw [Parse.lines_of_accepted hall] at h
    cases h
    exact ⟨hall, rfl⟩
  · rw [Parse.lines_of_failure hb hl] at h
    cases h

end Reading

/-- `10.0.0.0/8`. -/
def privateNetwork : Subnet := ⟨⟨[10, 0, 0, 0], by decide⟩, 8, by decide⟩

end WifiProject.Acl
