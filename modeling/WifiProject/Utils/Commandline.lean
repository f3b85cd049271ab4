import WifiProject.Lib.Text

/-!
`Commandline`: `toString` quotes arguments with backslashes, and
`translateCommandline` scans the tokens of a command line.
-/

namespace WifiProject.Utils.Commandline

open Lib

/-- A character of an argument on the command line. -/
def quote (c : Char) : List Char :=
  if c = ' ' ∨ c = '\\' ∨ c = '"' ∨ c = '\'' then ['\\', c] else [c]

/-- One turn of the loop; a space goes before an argument when something was
written already. -/
def appendArgument (result : List Char) (arg : String) : List Char :=
  (if result.isEmpty then result else result ++ [' ']) ++ arg.toList.flatMap quote

def toString (args : Option (List String)) : String :=
  match args with
  | none => ""
  | some args => String.ofList (args.foldl appendArgument [])

inductive State where
  | normal
  | inQuote
  | inDoubleQuote
  deriving DecidableEq, Repr

/-- The variables of the loop. -/
structure Scanner where
  state : State := .normal
  result : List String := []
  current : List Char := []
  lastTokenHasBeenQuoted : Bool := false
  lastTokenIsSlash : Bool := false

def isDelimiter (c : Char) : Bool := c = '\\' || c = '"' || c = '\'' || c = ' '

def Scanner.add (scanner : Scanner) : Scanner :=
  { scanner with result := scanner.result ++ [String.ofList scanner.current], current := [] }

def Scanner.append (scanner : Scanner) (text : List Char) : Scanner :=
  { scanner with current := scanner.current ++ text }

def Scanner.ends (scanner : Scanner) : Bool :=
  scanner.lastTokenHasBeenQuoted || !scanner.current.isEmpty

/-- A token inside single quotes. -/
def Scanner.quoted (scanner : Scanner) (nextTok : List Char) : Scanner :=
  if nextTok = ['\''] then { scanner with lastTokenHasBeenQuoted := true, state := .normal }
  else scanner.append nextTok

/-- A token inside double quotes. -/
def Scanner.doubleQuoted (scanner : Scanner) (nextTok : List Char) : Scanner :=
  if nextTok = ['"'] then
    if scanner.lastTokenIsSlash then { scanner.append nextTok with lastTokenIsSlash := false }
    else { scanner with lastTokenHasBeenQuoted := true, state := .normal }
  else if nextTok = ['\\'] then
    if scanner.lastTokenIsSlash then { scanner.append nextTok with lastTokenIsSlash := false }
    else { scanner with lastTokenIsSlash := true }
  else if scanner.lastTokenIsSlash then
    { (scanner.append ['\\']).append nextTok with lastTokenIsSlash := false }
  else scanner.append nextTok

/-- A token outside quotes. -/
def Scanner.unquoted (scanner : Scanner) (nextTok : List Char) : Scanner :=
  let scanner :=
    if scanner.lastTokenIsSlash then { scanner.append nextTok with lastTokenIsSlash := false }
    else if nextTok = ['\\'] then { scanner with lastTokenIsSlash := true }
    else if nextTok = ['\''] then { scanner with state := .inQuote }
    else if nextTok = ['"'] then { scanner with state := .inDoubleQuote }
    else if nextTok = [' '] then if scanner.ends then scanner.add else scanner
    else scanner.append nextTok
  { scanner with lastTokenHasBeenQuoted := false }

def Scanner.step (scanner : Scanner) (nextTok : List Char) : Scanner :=
  match scanner.state with
  | .inQuote => scanner.quoted nextTok
  | .inDoubleQuote => scanner.doubleQuoted nextTok
  | .normal => scanner.unquoted nextTok

def scan (toProcess : String) : Scanner :=
  let scanner := (Text.tokens isDelimiter toProcess.toList).foldl Scanner.step {}
  if scanner.ends then scanner.add else scanner

def translateCommandline (toProcess : Option String) : Except String (List String) :=
  match toProcess with
  | none => .ok []
  | some toProcess =>
      if toProcess.isEmpty then .ok []
      else if (scan toProcess).state = .inQuote ∨ (scan toProcess).state = .inDoubleQuote then
        .error ("unbalanced quotes in " ++ toProcess)
      else if (scan toProcess).lastTokenIsSlash then
        .error ("escape character following nothing in " ++ toProcess)
      else .ok (scan toProcess).result

section Characters

variable (allowed : Char → Prop)

/-- Everything collected so far is made of allowed characters. -/
structure Scanner.Within (scanner : Scanner) : Prop where
  result : ∀ argument ∈ scanner.result, ∀ c ∈ argument.toList, allowed c
  current : ∀ c ∈ scanner.current, allowed c

variable {allowed} {scanner : Scanner}

theorem Scanner.Within.append (h : scanner.Within allowed) {text : List Char}
    (htext : ∀ c ∈ text, allowed c) : (scanner.append text).Within allowed where
  result := h.result
  current := by
    intro c hc
    rcases List.mem_append.mp hc with hc | hc
    · exact h.current c hc
    · exact htext c hc

theorem Scanner.Within.add (h : scanner.Within allowed) : scanner.add.Within allowed where
  result := by
    intro argument hargument
    rcases List.mem_append.mp hargument with hargument | hargument
    · exact h.result argument hargument
    · rw [List.mem_singleton.mp hargument, String.toList_ofList]
      exact h.current
  current := by simp [Scanner.add]

/-- A backslash before another character in double quotes is kept, so it has
to be allowed too. -/
theorem Scanner.Within.step (h : scanner.Within allowed) (hslash : allowed '\\')
    {nextTok : List Char} (htok : ∀ c ∈ nextTok, allowed c) :
    (scanner.step nextTok).Within allowed := by
  have happend := h.append htok
  have hkept : ∀ c ∈ ['\\'], allowed c := by simpa using hslash
  have hslashed := (h.append hkept).append htok
  have hadd := h.add
  unfold Scanner.step
  split
  · unfold Scanner.quoted
    split
    · exact ⟨h.result, h.current⟩
    · exact happend
  · unfold Scanner.doubleQuoted
    split_ifs
    · exact ⟨happend.result, happend.current⟩
    · exact ⟨h.result, h.current⟩
    · exact ⟨happend.result, happend.current⟩
    · exact ⟨h.result, h.current⟩
    · exact ⟨hslashed.result, hslashed.current⟩
    · exact happend
  · unfold Scanner.unquoted
    dsimp only
    split_ifs
    · exact ⟨happend.result, happend.current⟩
    · exact ⟨h.result, h.current⟩
    · exact ⟨h.result, h.current⟩
    · exact ⟨h.result, h.current⟩
    · exact ⟨hadd.result, hadd.current⟩
    · exact ⟨h.result, h.current⟩
    · exact ⟨happend.result, happend.current⟩

theorem Scanner.Within.steps (toks : List (List Char)) (h : scanner.Within allowed)
    (hslash : allowed '\\') (htoks : ∀ tok ∈ toks, ∀ c ∈ tok, allowed c) :
    (toks.foldl Scanner.step scanner).Within allowed := by
  induction toks generalizing scanner with
  | nil => exact h
  | cons tok rest ih =>
      apply ih
      · exact h.step hslash (htoks tok (List.mem_cons_self ..))
      · intro later hlater
        exact htoks later (List.mem_cons_of_mem _ hlater)

/-- Arguments are made of the characters of the line, and backslashes. -/
theorem translateCommandline_within {toProcess : String} {arguments : List String}
    (h : translateCommandline (some toProcess) = .ok arguments) (hslash : allowed '\\')
    (hline : ∀ c ∈ toProcess.toList, allowed c) :
    ∀ argument ∈ arguments, ∀ c ∈ argument.toList, allowed c := by
  have hstart : Scanner.Within allowed {} := ⟨by simp, by simp⟩
  have hsteps := hstart.steps (Text.tokens isDelimiter toProcess.toList) hslash
    fun tok htok c hc => hline c (Text.mem_of_mem_tokens htok hc)
  have hscan : (scan toProcess).Within allowed := by
    unfold scan
    dsimp only
    split
    · exact hsteps.add
    · exact hsteps
  simp only [translateCommandline] at h
  split_ifs at h
  · cases h
    simp
  · cases h
    exact hscan.result

end Characters

end WifiProject.Utils.Commandline
