import WifiProject.Utils.Commandline

/-!
The quoting grammar of command lines, read character by character, and
`translateCommandline` against it. The scanner works on whole tokens and keeps
two flags; the grammar has a mode for each situation the flags stand for.
-/

namespace WifiProject.Utils.Commandline

open Lib

/-- What the next character of a line is read as. -/
inductive Mode where
  | outside
  /-- just after an unescaped backslash outside quotes -/
  | escaped
  | single
  | double
  /-- just after an unescaped backslash in double quotes -/
  | doubleEscaped
  deriving DecidableEq, Repr

/-- The words read so far. The word being read is `none` until it has a
character or a quoted part. -/
structure Reading where
  mode : Mode := .outside
  done : List (List Char) := []
  word : Option (List Char) := none
  deriving DecidableEq, Repr

namespace Reading

/-- The word goes on with some text; with no text, it only exists from now on. -/
def put (reading : Reading) (text : List Char) (mode : Mode) : Reading :=
  { reading with mode := mode, word := some (reading.word.getD [] ++ text) }

def words (reading : Reading) : List (List Char) := reading.done ++ reading.word.toList

def read (reading : Reading) (c : Char) : Reading :=
  match reading.mode with
  | .outside =>
      if c = '\\' then { reading with mode := .escaped }
      else if c = '\'' then reading.put [] .single
      else if c = '"' then reading.put [] .double
      else if c = ' ' then { reading with done := reading.words, word := none }
      else reading.put [c] .outside
  | .escaped => reading.put [c] .outside
  | .single =>
      if c = '\'' then { reading with mode := .outside } else reading.put [c] .single
  | .double =>
      if c = '"' then { reading with mode := .outside }
      else if c = '\\' then { reading with mode := .doubleEscaped }
      else reading.put [c] .double
  | .doubleEscaped =>
      if c = '"' ∨ c = '\\' then reading.put [c] .double else reading.put ['\\', c] .double

def EndsInQuotes (reading : Reading) : Prop :=
  reading.mode = .single ∨ reading.mode = .double ∨ reading.mode = .doubleEscaped

def EndsAfterBackslash (reading : Reading) : Prop := reading.mode = .escaped

instance (reading : Reading) : Decidable reading.EndsInQuotes :=
  inferInstanceAs (Decidable (reading.mode = .single ∨ reading.mode = .double ∨
    reading.mode = .doubleEscaped))

instance (reading : Reading) : Decidable reading.EndsAfterBackslash :=
  inferInstanceAs (Decidable (reading.mode = .escaped))

end Reading

/-- A whole line, from its first character. -/
def readLine (line : String) : Reading := line.toList.foldl Reading.read {}

/-- Neither a quote, a backslash nor a space. -/
def Ordinary (text : List Char) : Prop := ∀ c ∈ text, isDelimiter c = false

section Runs

variable {c : Char} {text : List Char}

theorem isDelimiter_eq_false_iff :
    isDelimiter c = false ↔ c ≠ '\\' ∧ c ≠ '"' ∧ c ≠ '\'' ∧ c ≠ ' ' := by
  simp [isDelimiter, and_assoc]

theorem ordinary_cons_iff :
    Ordinary (c :: text) ↔
      (c ≠ '\\' ∧ c ≠ '"' ∧ c ≠ '\'' ∧ c ≠ ' ') ∧ Ordinary text := by
  rw [Ordinary, List.forall_mem_cons, isDelimiter_eq_false_iff]
  rfl

/-- An ordinary character in any mode. -/
theorem read_ordinary (reading : Reading)
    (hc : c ≠ '\\' ∧ c ≠ '"' ∧ c ≠ '\'' ∧ c ≠ ' ') :
    reading.read c =
      match reading.mode with
      | .outside | .escaped => reading.put [c] .outside
      | .single => reading.put [c] .single
      | .double => reading.put [c] .double
      | .doubleEscaped => reading.put ['\\', c] .double := by
  obtain ⟨hslash, hdouble, hsingle, hspace⟩ := hc
  unfold Reading.read
  cases reading.mode with
  | outside => simp only [hslash, hdouble, hsingle, hspace, if_false]
  | escaped => rfl
  | single => simp only [hsingle, if_false]
  | double => simp only [hdouble, hslash, if_false]
  | doubleEscaped => simp only [hdouble, hslash, or_self, if_false]

/-- Where a run goes on until it ends. -/
theorem reads_ordinary {reading : Reading} {mode : Mode} (hrun : Ordinary text)
    (hmode : mode = .outside ∨ mode = .single ∨ mode = .double) (before : List Char) :
    text.foldl Reading.read (reading.put before mode) = reading.put (before ++ text) mode := by
  induction text generalizing before with
  | nil => rw [List.foldl_nil, List.append_nil]
  | cons c text ih =>
      obtain ⟨hc, htext⟩ := ordinary_cons_iff.mp hrun
      have hfirst : (reading.put before mode).read c = reading.put (before ++ [c]) mode := by
        rw [read_ordinary _ hc]
        rcases hmode with rfl | rfl | rfl
        all_goals simp [Reading.put]
      rw [List.foldl_cons, hfirst, ih htext, List.append_assoc, List.singleton_append]

/-- A run of ordinary characters is read like one of them. -/
theorem read_run (reading : Reading) (hrun : Ordinary text) (hne : text ≠ []) :
    text.foldl Reading.read reading =
      match reading.mode with
      | .outside | .escaped => reading.put text .outside
      | .single => reading.put text .single
      | .double => reading.put text .double
      | .doubleEscaped => reading.put ('\\' :: text) .double := by
  obtain ⟨c, rest, rfl⟩ := List.exists_cons_of_ne_nil hne
  obtain ⟨hc, hrest⟩ := ordinary_cons_iff.mp hrun
  rw [List.foldl_cons, read_ordinary _ hc]
  cases reading.mode with
  | outside => exact reads_ordinary hrest (Or.inl rfl) [c]
  | escaped => exact reads_ordinary hrest (Or.inl rfl) [c]
  | single => exact reads_ordinary hrest (Or.inr (Or.inl rfl)) [c]
  | double => exact reads_ordinary hrest (Or.inr (Or.inr rfl)) [c]
  | doubleEscaped => exact reads_ordinary hrest (Or.inr (Or.inr rfl)) ['\\', c]

end Runs

/-- The scanner's state and flags for a mode. -/
def Scanner.InMode (scanner : Scanner) (word : Option (List Char)) : Mode → Prop
  | .outside => scanner.state = .normal ∧ scanner.lastTokenIsSlash = false ∧
      word.isSome = scanner.ends
  | .escaped => scanner.state = .normal ∧ scanner.lastTokenIsSlash = true
  | .single => scanner.state = .inQuote ∧ scanner.lastTokenIsSlash = false ∧ word.isSome
  | .double => scanner.state = .inDoubleQuote ∧ scanner.lastTokenIsSlash = false ∧ word.isSome
  | .doubleEscaped => scanner.state = .inDoubleQuote ∧ scanner.lastTokenIsSlash = true ∧
      word.isSome

/-- The scanner has read what the grammar has. -/
structure Scanner.Follows (scanner : Scanner) (reading : Reading) : Prop where
  result : scanner.result = reading.done.map String.ofList
  current : scanner.current = reading.word.getD []
  mode : scanner.InMode reading.word reading.mode

section Simulation

variable {scanner : Scanner} {reading : Reading}

theorem Ordinary.ne_delimiter {text : List Char} (h : Ordinary text) {c : Char}
    (hc : isDelimiter c = true) : text ≠ [c] := by
  intro htext
  have hordinary := h c (htext ▸ List.mem_singleton.mpr rfl)
  rw [hc] at hordinary
  contradiction

/-- The word goes on outside quotes. -/
theorem Scanner.Follows.put_outside (h : scanner.Follows reading) {text : List Char}
    (hne : text ≠ []) {next : Scanner} (hresult : next.result = scanner.result)
    (hcurrent : next.current = scanner.current ++ text) (hstate : next.state = .normal)
    (hslash : next.lastTokenIsSlash = false) : next.Follows (reading.put text .outside) where
  result := hresult.trans h.result
  current := by rw [hcurrent, h.current]; rfl
  mode := by
    refine ⟨hstate, hslash, ?_⟩
    simp [Reading.put, Scanner.ends, hcurrent, hne]

theorem Scanner.Follows.run (h : scanner.Follows reading) {token : List Char}
    (hrun : Ordinary token) (hne : token ≠ []) :
    (scanner.step token).Follows (token.foldl Reading.read reading) := by
  have hslash : token ≠ ['\\'] := hrun.ne_delimiter (by decide)
  have hdouble : token ≠ ['"'] := hrun.ne_delimiter (by decide)
  have hsingle : token ≠ ['\''] := hrun.ne_delimiter (by decide)
  have hspace : token ≠ [' '] := hrun.ne_delimiter (by decide)
  have hmode := h.mode
  rw [read_run reading hrun hne]
  cases hreading : reading.mode with
  | outside =>
      rw [hreading] at hmode
      obtain ⟨hstate, hflag, -⟩ := hmode
      apply h.put_outside hne
      all_goals simp [Scanner.step, Scanner.unquoted, Scanner.append, hstate, hflag, hslash,
        hdouble, hsingle, hspace]
  | escaped =>
      rw [hreading] at hmode
      obtain ⟨hstate, hflag⟩ := hmode
      apply h.put_outside hne
      all_goals simp [Scanner.step, Scanner.unquoted, Scanner.append, hstate, hflag]
  | single =>
      rw [hreading] at hmode
      obtain ⟨hstate, hflag, -⟩ := hmode
      have hstep : scanner.step token = scanner.append token := by
        simp [Scanner.step, Scanner.quoted, hstate, hsingle]
      rw [hstep]
      exact ⟨h.result, by rw [Scanner.append, h.current]; rfl, hstate, hflag, rfl⟩
  | double =>
      rw [hreading] at hmode
      obtain ⟨hstate, hflag, -⟩ := hmode
      have hstep : scanner.step token = scanner.append token := by
        simp [Scanner.step, Scanner.doubleQuoted, hstate, hflag, hdouble, hslash]
      rw [hstep]
      exact ⟨h.result, by rw [Scanner.append, h.current]; rfl, hstate, hflag, rfl⟩
  | doubleEscaped =>
      rw [hreading] at hmode
      obtain ⟨hstate, hflag, -⟩ := hmode
      have hstep : scanner.step token =
          { scanner.append ('\\' :: token) with lastTokenIsSlash := false } := by
        simp [Scanner.step, Scanner.doubleQuoted, Scanner.append, hstate, hflag, hdouble, hslash]
      rw [hstep]
      exact ⟨h.result, by simp [Scanner.append, h.current, Reading.put], hstate, rfl, rfl⟩

/-- A space outside quotes ends the word there is. -/
theorem Scanner.Follows.space (h : scanner.Follows reading) (hstate : scanner.state = .normal)
    (hflag : scanner.lastTokenIsSlash = false) (hends : reading.word.isSome = scanner.ends) :
    Scanner.Follows
      { (if scanner.ends then scanner.add else scanner) with lastTokenHasBeenQuoted := false }
      { reading with mode := .outside, done := reading.words, word := none } := by
  rw [← hends]
  cases hword : reading.word with
  | none =>
      have hempty : scanner.current = [] := by rw [h.current, hword]; rfl
      refine ⟨?_, hempty, hstate, hflag, ?_⟩
      · simp [h.result, Reading.words, hword]
      · simp [Scanner.ends, hempty]
  | some word =>
      refine ⟨?_, rfl, hstate, hflag, ?_⟩
      · simp [Scanner.add, h.result, h.current, Reading.words, hword]
      · simp [Scanner.ends, Scanner.add]

/-- A delimiter outside quotes that no backslash precedes. -/
theorem Scanner.Follows.delimiter_outside (h : scanner.Follows reading)
    (hreading : reading.mode = .outside) {c : Char} (hc : isDelimiter c = true) :
    (scanner.step [c]).Follows (reading.read c) := by
  have hmode := h.mode
  rw [hreading] at hmode
  obtain ⟨hstate, hflag, hends⟩ := hmode
  simp only [isDelimiter, Bool.or_eq_true, decide_eq_true_eq, or_assoc] at hc
  unfold Scanner.step Reading.read
  rw [hstate, hreading]
  rcases hc with rfl | rfl | rfl | rfl
  · have hstep : scanner.unquoted ['\\'] =
        { scanner with lastTokenIsSlash := true, lastTokenHasBeenQuoted := false } := by
      simp [Scanner.unquoted, hflag]
    rw [hstep]
    exact ⟨h.result, h.current, hstate, rfl⟩
  · have hstep : scanner.unquoted ['"'] =
        { scanner with state := .inDoubleQuote, lastTokenHasBeenQuoted := false } := by
      simp [Scanner.unquoted, hflag]
    rw [hstep]
    exact ⟨h.result, by simp [Reading.put, h.current], rfl, hflag, rfl⟩
  · have hstep : scanner.unquoted ['\''] =
        { scanner with state := .inQuote, lastTokenHasBeenQuoted := false } := by
      simp [Scanner.unquoted, hflag]
    rw [hstep]
    exact ⟨h.result, by simp [Reading.put, h.current], rfl, hflag, rfl⟩
  · have hstep : scanner.unquoted [' '] =
        { (if scanner.ends then scanner.add else scanner) with
          lastTokenHasBeenQuoted := false } := by
      simp [Scanner.unquoted, hflag]
    rw [hstep]
    exact h.space hstate hflag hends

theorem Scanner.Follows.delimiter (h : scanner.Follows reading) {c : Char}
    (hc : isDelimiter c = true) : (scanner.step [c]).Follows (reading.read c) := by
  have hmode := h.mode
  cases hreading : reading.mode with
  | outside => exact h.delimiter_outside hreading hc
  | escaped =>
      rw [hreading] at hmode
      obtain ⟨hstate, hflag⟩ := hmode
      have hread : reading.read c = reading.put [c] .outside := by rw [Reading.read, hreading]
      rw [hread]
      apply h.put_outside (List.cons_ne_nil c [])
      all_goals simp [Scanner.step, Scanner.unquoted, Scanner.append, hstate, hflag]
  | single =>
      rw [hreading] at hmode
      obtain ⟨hstate, hflag, hword⟩ := hmode
      simp only [Scanner.step, hstate, Scanner.quoted, List.cons.injEq, and_true, Reading.read,
        hreading]
      split
      · exact ⟨h.result, h.current, rfl, hflag, by simp [hword, Scanner.ends]⟩
      · exact ⟨h.result, by rw [Scanner.append, h.current]; rfl, hstate, hflag, rfl⟩
  | double =>
      rw [hreading] at hmode
      obtain ⟨hstate, hflag, hword⟩ := hmode
      unfold Scanner.step Scanner.doubleQuoted Reading.read
      rw [hstate, hreading, hflag]
      simp only [List.cons.injEq, and_true, Bool.false_eq_true, if_false]
      split_ifs
      · exact ⟨h.result, h.current, rfl, rfl, by simp [hword, Scanner.ends]⟩
      · exact ⟨h.result, h.current, rfl, rfl, hword⟩
      · exact ⟨h.result, by rw [Scanner.append, h.current]; rfl, hstate, hflag, rfl⟩
  | doubleEscaped =>
      rw [hreading] at hmode
      obtain ⟨hstate, hflag, hword⟩ := hmode
      unfold Scanner.step Scanner.doubleQuoted Reading.read
      rw [hstate, hreading, hflag]
      simp only [List.cons.injEq, and_true, if_true]
      by_cases hdouble : c = '"'
      · simp only [hdouble, true_or, if_true]
        exact ⟨h.result, by rw [Scanner.append, h.current]; rfl, hstate, rfl, rfl⟩
      by_cases hslash : c = '\\'
      · simp only [hslash, or_true, if_true]
        exact ⟨h.result, by rw [Scanner.append, h.current]; rfl, hstate, rfl, rfl⟩
      simp only [hdouble, hslash, or_self, if_false]
      exact ⟨h.result, by simp [Scanner.append, h.current, Reading.put], hstate, rfl, rfl⟩

theorem Scanner.Follows.step (h : scanner.Follows reading) {token : List Char}
    (htoken : (∃ c, token = [c] ∧ isDelimiter c = true) ∨ (token ≠ [] ∧ Ordinary token)) :
    (scanner.step token).Follows (token.foldl Reading.read reading) := by
  rcases htoken with ⟨c, rfl, hc⟩ | ⟨hne, hrun⟩
  · exact h.delimiter hc
  · exact h.run hrun hne

theorem Scanner.Follows.steps (toks : List (List Char)) (h : scanner.Follows reading)
    (htoks : ∀ tok ∈ toks, (∃ c, tok = [c] ∧ isDelimiter c = true) ∨ (tok ≠ [] ∧ Ordinary tok)) :
    (toks.foldl Scanner.step scanner).Follows (toks.flatten.foldl Reading.read reading) := by
  induction toks generalizing scanner reading with
  | nil => exact h
  | cons tok rest ih =>
      obtain ⟨htok, hrest⟩ := List.forall_mem_cons.mp htoks
      rw [List.foldl_cons, List.flatten_cons, List.foldl_append]
      exact ih (h.step htok) hrest

end Simulation

/-- The scanner at the end of the line, before the last word is added. -/
theorem tokens_follow (line : String) :
    ((Text.tokens isDelimiter line.toList).foldl Scanner.step {}).Follows (readLine line) := by
  have hstart : Scanner.Follows {} {} := ⟨rfl, rfl, rfl, rfl, rfl⟩
  have hsteps := hstart.steps (Text.tokens isDelimiter line.toList)
    fun tok htok => Text.delimiter_or_run_of_mem_tokens htok
  rwa [Text.flatten_tokens] at hsteps

section Scan

variable (line : String)

theorem scan_state_iff :
    (scan line).state = .inQuote ∨ (scan line).state = .inDoubleQuote ↔
      (readLine line).EndsInQuotes := by
  have hmode := (tokens_follow line).mode
  have hstate : (scan line).state =
      ((Text.tokens isDelimiter line.toList).foldl Scanner.step {}).state := by
    unfold scan
    dsimp only
    split
    all_goals rfl
  unfold Reading.EndsInQuotes
  cases hreading : (readLine line).mode with
  | outside | escaped | single | double | doubleEscaped =>
      rw [hreading] at hmode
      simp [hstate, hmode.1]

theorem scan_lastTokenIsSlash (h : ¬ (readLine line).EndsInQuotes) :
    (scan line).lastTokenIsSlash = true ↔ (readLine line).EndsAfterBackslash := by
  have hmode := (tokens_follow line).mode
  have hslash : (scan line).lastTokenIsSlash =
      ((Text.tokens isDelimiter line.toList).foldl Scanner.step {}).lastTokenIsSlash := by
    unfold scan
    dsimp only
    split
    all_goals rfl
  unfold Reading.EndsInQuotes at h
  unfold Reading.EndsAfterBackslash
  cases hreading : (readLine line).mode with
  | outside =>
      rw [hreading] at hmode
      simp [hslash, hmode.2.1]
  | escaped =>
      rw [hreading] at hmode
      simp [hslash, hmode.2]
  | single | double | doubleEscaped => simp [hreading] at h

theorem scan_result (hquotes : ¬ (readLine line).EndsInQuotes)
    (hslash : ¬ (readLine line).EndsAfterBackslash) :
    (scan line).result = (readLine line).words.map String.ofList := by
  have hfollows := tokens_follow line
  have hmode := hfollows.mode
  have houtside : (readLine line).mode = .outside := by
    unfold Reading.EndsInQuotes at hquotes
    unfold Reading.EndsAfterBackslash at hslash
    cases hreading : (readLine line).mode with
    | outside => rfl
    | escaped | single | double | doubleEscaped => simp [hreading] at hquotes hslash
  rw [houtside] at hmode
  obtain ⟨-, -, hends⟩ := hmode
  unfold scan
  dsimp only
  rw [← hends, Reading.words, List.map_append, ← hfollows.result]
  cases hword : (readLine line).word with
  | none => simp
  | some word => simp [Scanner.add, hfollows.current, hword]

theorem translateCommandline_eq :
    translateCommandline (some line) =
      if (readLine line).EndsInQuotes then .error ("unbalanced quotes in " ++ line)
      else if (readLine line).EndsAfterBackslash then
        .error ("escape character following nothing in " ++ line)
      else .ok ((readLine line).words.map String.ofList) := by
  by_cases hempty : line = ""
  · subst hempty
    decide +kernel
  have hsome : line.isEmpty = false := by simpa using hempty
  simp only [translateCommandline, hsome, scan_state_iff, Bool.false_eq_true, if_false]
  by_cases hquotes : (readLine line).EndsInQuotes
  · rw [if_pos hquotes, if_pos hquotes]
  rw [if_neg hquotes, if_neg hquotes]
  simp only [scan_lastTokenIsSlash line hquotes]
  by_cases hslash : (readLine line).EndsAfterBackslash
  · rw [if_pos hslash, if_pos hslash]
  · rw [if_neg hslash, if_neg hslash, scan_result line hquotes hslash]

/-- Splitting throws exactly on lines that end in quotes or after a backslash,
and returns the words of every other line. -/
theorem translateCommandline_follows_grammar :
    ((∃ message, translateCommandline (some line) = .error message) ↔
      (readLine line).EndsInQuotes ∨ (readLine line).EndsAfterBackslash) ∧
    (¬ ((readLine line).EndsInQuotes ∨ (readLine line).EndsAfterBackslash) →
      translateCommandline (some line) = .ok ((readLine line).words.map String.ofList)) := by
  rw [translateCommandline_eq]
  by_cases hquotes : (readLine line).EndsInQuotes
  · simp [hquotes]
  by_cases hslash : (readLine line).EndsAfterBackslash
  · simp [hquotes, hslash]
  · simp [hquotes, hslash]

end Scan

example :
    translateCommandline (some "a\\ b  '' \"c\\d\\\"\"") = .ok ["a b", "", "c\\d\""] := by
  decide +kernel

section Quoting

variable {reading : Reading}

theorem read_quote (h : reading.mode = .outside) (c : Char) :
    (quote c).foldl Reading.read reading = reading.put [c] .outside := by
  unfold quote
  split
  · have hslash : reading.read '\\' = { reading with mode := .escaped } := by
      simp [Reading.read, h]
    rw [List.foldl_cons, hslash]
    rfl
  · rename_i hplain
    simp only [not_or] at hplain
    obtain ⟨hspace, hslash, hdouble, hsingle⟩ := hplain
    rw [List.foldl_cons, List.foldl_nil, read_ordinary _ ⟨hslash, hdouble, hsingle, hspace⟩, h]

theorem put_words (text : List Char) :
    (reading.put text .outside).words = reading.done ++ [reading.word.getD [] ++ text] := rfl

/-- A quoted argument is read as its own characters. -/
theorem reads_quote (h : reading.mode = .outside) (arg : List Char) :
    (arg.flatMap quote).foldl Reading.read reading =
      if arg.isEmpty then reading else reading.put arg .outside := by
  induction arg generalizing reading with
  | nil => rfl
  | cons c arg ih =>
      rw [List.flatMap_cons, List.foldl_append, read_quote h, ih rfl]
      cases arg with
      | nil => rfl
      | cons d arg => simp [Reading.put]

/-- What was written so far is read as the arguments that are not empty. -/
def Written (result : List Char) (args : List String) : Prop :=
  (result.foldl Reading.read {}).mode = .outside ∧
    (result.foldl Reading.read {}).words = (args.filter (· ≠ "")).map String.toList

theorem Written.separated {result : List Char} {args : List String} (h : Written result args) :
    (if result.isEmpty then result else result ++ [' ']).foldl Reading.read {} =
      { done := (args.filter (· ≠ "")).map String.toList } := by
  obtain ⟨hmode, hwords⟩ := h
  cases result with
  | nil => exact congrArg (Reading.mk .outside · none) hwords
  | cons c result =>
      simp only [List.isEmpty_cons, Bool.false_eq_true, if_false, List.foldl_append,
        List.foldl_cons (l := []), List.foldl_nil]
      rw [← hwords, Reading.read, hmode]
      simp

theorem Written.append {result : List Char} {args : List String} (h : Written result args)
    (arg : String) : Written (appendArgument result arg) (args ++ [arg]) := by
  have hread : (appendArgument result arg).foldl Reading.read {} =
      (arg.toList.flatMap quote).foldl Reading.read
        { done := (args.filter (· ≠ "")).map String.toList } := by
    rw [appendArgument, List.foldl_append, h.separated]
  rw [Written, hread, reads_quote rfl]
  by_cases hempty : arg = ""
  · subst hempty
    simp [Reading.words]
  · have hne : arg.toList.isEmpty = false := by simpa using hempty
    simp [hne, hempty, put_words]
    rfl

theorem Written.all (args : List String) : Written (args.foldl appendArgument []) args := by
  induction args using List.reverseRecOn with
  | nil => exact ⟨rfl, rfl⟩
  | append_singleton args arg ih =>
      rw [List.foldl_append]
      exact ih.append arg

/-- A command line written by `toString` is split into the arguments it was
written from, except the empty ones. -/
theorem translateCommandline_toString (args : List String) :
    translateCommandline (some (toString (some args))) = .ok (args.filter (· ≠ "")) := by
  obtain ⟨hmode, hwords⟩ := Written.all args
  have hline : readLine (toString (some args)) =
      (args.foldl appendArgument []).foldl Reading.read {} := by
    rw [readLine, toString, String.toList_ofList]
  rw [translateCommandline_eq, hline, hwords]
  have hquotes : ¬ ((args.foldl appendArgument []).foldl Reading.read {}).EndsInQuotes := by
    simp [Reading.EndsInQuotes, hmode]
  have hslash : ¬ ((args.foldl appendArgument []).foldl Reading.read {}).EndsAfterBackslash := by
    simp [Reading.EndsAfterBackslash, hmode]
  rw [if_neg hquotes, if_neg hslash]
  simp [Function.comp_def]

end Quoting

end WifiProject.Utils.Commandline
