import Mathlib.Data.List.DropRight
import Mathlib.Data.List.TakeDrop

/-!
Cutting text into pieces: fields between separators, the tokens of a tokenizer
that returns its delimiters, lines, and text without the spaces around it.
-/

namespace WifiProject.Lib.Text

/-- Characters of a list are looked at one by one; the instance for characters
alone would look at all there are. -/
instance (priority := 2000) decidableForallMemChar (p : Char → Prop) [DecidablePred p]
    (l : List Char) : Decidable (∀ c ∈ l, p c) :=
  List.decidableBAll p l

/-- Tokens in order: every delimiter is a token of its own, and so is every
longest run of other characters. -/
def tokens (delimiter : Char → Bool) : List Char → List (List Char)
  | [] => []
  | c :: text =>
      match tokens delimiter text with
      | [] => [[c]]
      | token :: rest =>
          if delimiter c || token.any delimiter then [c] :: token :: rest
          else (c :: token) :: rest

/-- Tokenizing drops and adds nothing. -/
theorem flatten_tokens (delimiter : Char → Bool) (text : List Char) :
    (tokens delimiter text).flatten = text := by
  induction text with
  | nil => rfl
  | cons c text ih =>
      rw [tokens]
      cases htokens : tokens delimiter text with
      | nil => simpa [htokens] using ih
      | cons token rest =>
          rw [htokens] at ih
          dsimp only
          split
          · rw [List.flatten_cons, ih, List.singleton_append]
          · rw [List.flatten_cons, List.cons_append, ← List.flatten_cons, ih]

theorem mem_of_mem_tokens {delimiter : Char → Bool} {text token : List Char} {c : Char}
    (htoken : token ∈ tokens delimiter text) (hc : c ∈ token) : c ∈ text := by
  rw [← flatten_tokens delimiter text]
  exact List.mem_flatten_of_mem htoken hc

/-- A token is one delimiter or a run of other characters. -/
theorem delimiter_or_run_of_mem_tokens {delimiter : Char → Bool} {text token : List Char}
    (h : token ∈ tokens delimiter text) :
    (∃ c, token = [c] ∧ delimiter c = true) ∨ (token ≠ [] ∧ ∀ c ∈ token, delimiter c = false) := by
  -- what one more character in front of the tokens of the rest is
  have single (c : Char) :
      (∃ d, [c] = [d] ∧ delimiter d = true) ∨ ([c] ≠ [] ∧ ∀ d ∈ [c], delimiter d = false) := by
    cases hc : delimiter c with
    | true => exact Or.inl ⟨c, rfl, hc⟩
    | false => exact Or.inr ⟨by simp, by simpa using hc⟩
  induction text generalizing token with
  | nil => simp [tokens] at h
  | cons c text ih =>
      rw [tokens] at h
      cases htokens : tokens delimiter text with
      | nil =>
          rw [htokens, List.mem_singleton] at h
          subst h
          exact single c
      | cons first rest =>
          rw [htokens] at ih h
          dsimp only at h
          split at h
          · rcases List.mem_cons.mp h with rfl | h
            · exact single c
            · exact ih h
          · rename_i hjoined
            rcases List.mem_cons.mp h with rfl | h
            · simp only [Bool.or_eq_true, not_or, Bool.not_eq_true] at hjoined
              have hfirst := List.any_eq_false.mp hjoined.2
              exact Or.inr ⟨by simp, by simpa using ⟨hjoined.1, by simpa using hfirst⟩⟩
            · exact ih (List.mem_cons_of_mem _ h)

/-- A field does not contain the separator. -/
theorem not_mem_of_mem_splitOn {sep : Char} {text field : List Char}
    (h : field ∈ text.splitOn sep) : sep ∉ field := by
  rw [List.splitOn_eq_splitOnP] at h
  induction text generalizing field with
  | nil =>
      rw [List.splitOnP_nil, List.mem_singleton] at h
      simp [h]
  | cons c text ih =>
      rw [List.splitOnP_cons_eq_if_modifyHead] at h
      split at h
      · rcases List.mem_cons.mp h with rfl | h
        · simp
        · exact ih h
      · rename_i hc
        obtain ⟨first, rest, hsplit⟩ := List.exists_cons_of_ne_nil
          (List.splitOnP_ne_nil (· == sep) text)
        rw [hsplit, List.modifyHead_cons] at h
        rcases List.mem_cons.mp h with rfl | h
        · have hfirst := ih (hsplit ▸ List.mem_cons_self ..)
          simp only [beq_iff_eq] at hc
          simp [hfirst, Ne.symm hc]
        · exact ih (hsplit ▸ List.mem_cons_of_mem _ h)

/-- A character is the separator or in a field. -/
theorem mem_field_of_mem (sep : Char) {text : List Char} {c : Char} (h : c ∈ text) :
    c = sep ∨ ∃ field ∈ text.splitOn sep, c ∈ field := by
  rw [List.splitOn_eq_splitOnP]
  induction text with
  | nil => simp at h
  | cons d text ih =>
      rw [List.splitOnP_cons_eq_if_modifyHead]
      split
      · rename_i hd
        rcases List.mem_cons.mp h with rfl | h
        · exact Or.inl (by simpa using hd)
        · rcases ih h with hsep | ⟨field, hfield, hc⟩
          · exact Or.inl hsep
          · exact Or.inr ⟨field, List.mem_cons_of_mem _ hfield, hc⟩
      · obtain ⟨first, rest, hsplit⟩ := List.exists_cons_of_ne_nil
          (List.splitOnP_ne_nil (· == sep) text)
        rw [hsplit] at ih ⊢
        rw [List.modifyHead_cons]
        rcases List.mem_cons.mp h with rfl | h
        · exact Or.inr ⟨_, List.mem_cons_self .., List.mem_cons_self ..⟩
        · rcases ih h with hsep | ⟨field, hfield, hc⟩
          · exact Or.inl hsep
          · rcases List.mem_cons.mp hfield with rfl | hfield
            · exact Or.inr ⟨_, List.mem_cons_self .., List.mem_cons_of_mem _ hc⟩
            · exact Or.inr ⟨field, List.mem_cons_of_mem _ hfield, hc⟩

/-- What `.` of a regular expression does not match. -/
def isLineTerminator (c : Char) : Bool :=
  c = '\n' || c = '\r' || c = '\u0085' || c = '\u2028' || c = '\u2029'

section Lines

/-- Lines end with a line feed, a carriage return or both; the last one may end
with the text. -/
def readLines : List Char → List (List Char)
  | [] => []
  | '\n' :: text => [] :: readLines text
  | '\r' :: '\n' :: text => [] :: readLines text
  | '\r' :: text => [] :: readLines text
  | c :: text =>
      match readLines text with
      | [] => [[c]]
      | line :: rest => (c :: line) :: rest

/-- No character ends a line. -/
def OneLine (text : List Char) : Prop := ∀ c ∈ text, c ≠ '\n' ∧ c ≠ '\r'

instance (text : List Char) : Decidable (OneLine text) :=
  inferInstanceAs (Decidable (∀ c ∈ text, c ≠ '\n' ∧ c ≠ '\r'))

theorem oneLine_of_mem_readLines {text line : List Char} (h : line ∈ readLines text) :
    OneLine line := by
  fun_induction readLines text generalizing line with
  | case1 => simp at h
  | case2 text ih | case3 text ih | case4 text _ ih =>
      rcases List.mem_cons.mp h with rfl | h
      · simp [OneLine]
      · exact ih h
  | case5 c text hfeed _ hreturn hnil ih =>
      rw [List.mem_singleton.mp h]
      simp only [OneLine, List.mem_singleton, forall_eq]
      exact ⟨hfeed, hreturn⟩
  | case6 c text hfeed _ hreturn first rest hcons ih =>
      rw [hcons] at ih
      rcases List.mem_cons.mp h with rfl | h
      · have hfirst := ih (List.mem_cons_self ..)
        simp only [OneLine, List.forall_mem_cons]
        exact ⟨⟨hfeed, hreturn⟩, hfirst⟩
      · exact ih (List.mem_cons_of_mem _ h)

theorem readLines_append {line : List Char} (h : OneLine line) (text : List Char) :
    readLines (line ++ '\n' :: text) = line :: readLines text := by
  induction line with
  | nil => rw [List.nil_append, readLines]
  | cons c line ih =>
      simp only [OneLine, List.forall_mem_cons] at h
      rw [List.cons_append, readLines, ih h.2]
      · exact h.1.1
      · rintro _ rfl
        exact absurd rfl h.1.2
      · exact h.1.2

/-- Lines come back when each of them is written with its line feed. -/
theorem readLines_flatMap (lines : List (List Char)) (h : ∀ line ∈ lines, OneLine line) :
    readLines (lines.flatMap fun line => line ++ ['\n']) = lines := by
  induction lines with
  | nil => rfl
  | cons line rest ih =>
      rw [List.forall_mem_cons] at h
      rw [List.flatMap_cons, List.append_assoc, List.singleton_append, readLines_append h.1,
        ih h.2]

/-- A last line that is not empty need not be ended. -/
theorem readLines_line {line : List Char} (h : OneLine line) (hne : line ≠ []) :
    readLines line = [line] := by
  induction line with
  | nil => contradiction
  | cons c line ih =>
      simp only [OneLine, List.forall_mem_cons] at h
      obtain ⟨hc, hline⟩ := h
      cases line with
      | nil =>
          rw [readLines, readLines]
          all_goals simp_all
      | cons d line =>
          rw [readLines, ih hline (by simp)]
          all_goals simp_all

theorem readLines_intercalate {lines : List (List Char)}
    (h : ∀ line ∈ lines, OneLine line ∧ line ≠ []) :
    readLines (['\n'].intercalate lines) = lines := by
  induction lines with
  | nil => rw [List.intercalate_nil, readLines]
  | cons line lines ih =>
      obtain ⟨hline, hlines⟩ := List.forall_mem_cons.mp h
      cases lines with
      | nil => rw [List.intercalate_singleton, readLines_line hline.1 hline.2]
      | cons next lines =>
          rw [List.intercalate_cons_cons, List.append_assoc, List.singleton_append,
            readLines_append hline.1, ih hlines]

end Lines

section Cut

/-- The text before the first separator, and what follows it. -/
def cut (sep : Char) : List Char → List Char × Option (List Char)
  | [] => ([], none)
  | c :: text => if c = sep then ([], some text) else (c :: (cut sep text).1, (cut sep text).2)

variable {sep : Char}

theorem cut_of_not_mem {text : List Char} (h : sep ∉ text) : cut sep text = (text, none) := by
  induction text with
  | nil => rfl
  | cons c text ih =>
      rw [List.mem_cons, not_or] at h
      rw [cut, if_neg (Ne.symm h.1), ih h.2]

theorem cut_append {before : List Char} (h : sep ∉ before) (after : List Char) :
    cut sep (before ++ sep :: after) = (before, some after) := by
  induction before with
  | nil => rw [List.nil_append, cut, if_pos rfl]
  | cons c before ih =>
      rw [List.mem_cons, not_or] at h
      rw [List.cons_append, cut, if_neg (Ne.symm h.1), ih h.2]

theorem not_mem_cut (text : List Char) : sep ∉ (cut sep text).1 := by
  induction text with
  | nil => simp [cut]
  | cons c text ih =>
      rw [cut]
      split_ifs with hc
      · simp
      · rw [List.mem_cons, not_or]
        exact ⟨Ne.symm hc, ih⟩

theorem mem_of_mem_cut {text : List Char} {c : Char} (h : c ∈ (cut sep text).1) : c ∈ text := by
  induction text with
  | nil => simp [cut] at h
  | cons d text ih =>
      rw [cut] at h
      split_ifs at h
      · simp at h
      · rcases List.mem_cons.mp h with rfl | h
        · exact List.mem_cons_self ..
        · exact List.mem_cons_of_mem _ (ih h)

end Cut

section Splits

/-- Dropping from the end stops at a character that stays. -/
theorem rdropWhile_append_cons {p : Char → Bool} {c : Char} (h : p c = false)
    (before after : List Char) :
    (before ++ c :: after).rdropWhile p = before ++ c :: after.rdropWhile p := by
  induction after using List.reverseRecOn with
  | nil => exact List.rdropWhile_concat_neg p before c (by simp [h])
  | append_singleton after d ih =>
      have hassoc : before ++ c :: (after ++ [d]) = (before ++ c :: after) ++ [d] := by
        simp
      rw [hassoc, List.rdropWhile_concat, List.rdropWhile_concat]
      split
      · exact ih
      · simp

/-- A run of characters is taken up to where it ends. -/
theorem span_append {p : Char → Bool} {run rest : List Char} (hrun : ∀ c ∈ run, p c = true)
    (hrest : ∀ c ∈ rest.head?, p c = false) : (run ++ rest).span p = (run, rest) := by
  rw [List.span_eq_takeWhile_dropWhile, List.takeWhile_append_of_pos hrun,
    List.dropWhile_append_of_pos hrun]
  cases rest with
  | nil => simp
  | cons c rest => simp [hrest c rfl]

/-- Every way to split at a separator, the shortest first part first. -/
def splits (sep : Char) : List Char → List (List Char × List Char)
  | [] => []
  | c :: text =>
      let later := (splits sep text).map fun (before, after) => (c :: before, after)
      if c = sep then ([], text) :: later else later

theorem mem_splits_iff (sep : Char) (text before after : List Char) :
    (before, after) ∈ splits sep text ↔ text = before ++ sep :: after := by
  induction text generalizing before with
  | nil => simp [splits]
  | cons c text ih =>
      have hlater : (before, after) ∈ ((splits sep text).map fun pair => (c :: pair.1, pair.2)) ↔
          ∃ rest, before = c :: rest ∧ text = rest ++ sep :: after := by
        simp only [List.mem_map, Prod.exists, Prod.mk.injEq]
        constructor
        · rintro ⟨rest, tail, hmem, rfl, rfl⟩
          exact ⟨rest, rfl, (ih rest).mp hmem⟩
        · rintro ⟨rest, rfl, htext⟩
          exact ⟨rest, after, (ih rest).mpr htext, rfl, rfl⟩
      have hcons : c :: text = before ++ sep :: after ↔
          (before = [] ∧ c = sep ∧ text = after) ∨
            ∃ rest, before = c :: rest ∧ text = rest ++ sep :: after := by
        cases before with
        | nil => simp
        | cons d before => simp [eq_comm]
      rw [hcons, ← hlater, splits]
      split_ifs with hc
      · simp [hc, eq_comm]
      · simp [hc]

theorem splits_of_not_mem {sep : Char} {text : List Char} (h : sep ∉ text) :
    splits sep text = [] := by
  apply List.eq_nil_iff_forall_not_mem.mpr
  rintro ⟨before, after⟩ hmem
  rw [mem_splits_iff] at hmem
  exact h (hmem ▸ by simp)

/-- The first split is at the first separator. -/
theorem splits_append {sep : Char} {before : List Char} (h : sep ∉ before) (after : List Char) :
    splits sep (before ++ sep :: after) = (before, after) ::
      (splits sep after).map fun pair => (before ++ sep :: pair.1, pair.2) := by
  induction before with
  | nil => rw [List.nil_append, splits, if_pos rfl]; rfl
  | cons c before ih =>
      rw [List.mem_cons, not_or] at h
      rw [List.cons_append, splits, if_neg (Ne.symm h.1), ih h.2, List.map_cons, List.map_map]
      rfl

end Splits

section Trim

/-- `String.trim(predicate)`. -/
def trimBy (p : Char → Bool) (text : List Char) : List Char := (text.dropWhile p).rdropWhile p

/-- Text that neither starts nor ends with what is trimmed. -/
theorem trimBy_eq_self {p : Char → Bool} {text : List Char} (hhead : ∀ c ∈ text.head?, p c = false)
    (hlast : ∀ c ∈ text.getLast?, p c = false) : trimBy p text = text := by
  have hdrop : text.dropWhile p = text := by
    cases text with
    | nil => rfl
    | cons c text => simp [hhead c (by simp)]
  rw [trimBy, hdrop, List.rdropWhile_eq_self_iff]
  intro hne
  have hc := hlast _ (List.getLast?_eq_getLast_of_ne_nil hne)
  simp [hc]

theorem head?_trimBy {p : Char → Bool} {text : List Char} {c : Char}
    (h : (trimBy p text).head? = some c) : p c = false := by
  obtain ⟨rest, hrest⟩ : trimBy p text <+: text.dropWhile p := List.rdropWhile_prefix ..
  have hnot := text.head?_dropWhile_not p
  rw [← hrest, List.head?_append, h] at hnot
  exact hnot

theorem getLast?_trimBy {p : Char → Bool} {text : List Char} {c : Char}
    (h : (trimBy p text).getLast? = some c) : p c = false := by
  have hne : trimBy p text ≠ [] := by
    intro hnil
    rw [hnil] at h
    cases h
  have hnot := List.rdropWhile_last_not p (text.dropWhile p) hne
  rw [List.getLast?_eq_getLast_of_ne_nil hne] at h
  cases h
  exact Bool.eq_false_iff.mpr hnot

/-- `Char.isWhitespace()`: white space and spaces that do not break. -/
def isWhitespace (c : Char) : Bool :=
  let n := c.toNat
  (9 ≤ n && n ≤ 13) || (28 ≤ n && n ≤ 32) || n = 0xA0 || n = 0x1680 || (0x2000 ≤ n && n ≤ 0x200A) ||
    n = 0x2028 || n = 0x2029 || n = 0x202F || n = 0x205F || n = 0x3000

def trim (text : List Char) : List Char := (text.dropWhile isWhitespace).rdropWhile isWhitespace

theorem mem_of_mem_trim {text : List Char} {c : Char} (h : c ∈ trim text) : c ∈ text :=
  (List.dropWhile_sublist _).subset ((List.rdropWhile_prefix _ _).subset h)

/-- Text that neither starts nor ends with a space. -/
theorem trim_eq_self {text : List Char} (hhead : ∀ c ∈ text.head?, isWhitespace c = false)
    (hlast : ∀ c ∈ text.getLast?, isWhitespace c = false) : trim text = text :=
  trimBy_eq_self hhead hlast

theorem trim_trim (text : List Char) : trim (trim text) = trim text := by
  apply trim_eq_self
  · intro c hc
    obtain ⟨rest, hcons⟩ : ∃ rest, trim text = c :: rest := by
      cases htrim : trim text with
      | nil => simp [htrim] at hc
      | cons d rest =>
          rw [htrim] at hc
          exact ⟨rest, by simpa using hc⟩
    obtain ⟨after, happend⟩ := List.rdropWhile_prefix isWhitespace (text.dropWhile isWhitespace)
    change trim text ++ after = _ at happend
    rw [hcons, List.cons_append] at happend
    have hne : text.dropWhile isWhitespace ≠ [] := by simp [← happend]
    have hhead := List.head_dropWhile_not isWhitespace hne
    simpa [← happend] using hhead
  · intro c hc
    obtain ⟨hne, rfl⟩ := List.mem_getLast?_eq_getLast hc
    have hlast := List.rdropWhile_last_not isWhitespace _ hne
    exact Bool.eq_false_iff.mpr hlast

end Trim

end WifiProject.Lib.Text
