import Mathlib.Data.List.Infix

/-!
Regular expressions with anchors and groups that capture nothing: how they are read
from a pattern, what they match, and a search that tries every place of a text.
-/

namespace WifiProject.Lib

inductive Regex where
  | empty
  | char (c : Char)
  | start
  | finish
  | seq (first second : Regex)
  | alt (first second : Regex)
  deriving DecidableEq, Repr

namespace Regex

/-- A place in a text, with what follows it. -/
structure Place where
  atStart : Bool
  rest : List Char
  deriving DecidableEq, Repr

/-- The text is over, but for a line feed. -/
def Place.AtFinish (place : Place) : Prop := place.rest = [] ∨ place.rest = ['\n']

instance (place : Place) : Decidable place.AtFinish :=
  inferInstanceAs (Decidable (place.rest = [] ∨ place.rest = ['\n']))

/-- The text from one place to another is matched. -/
inductive Matches : Regex → Place → Place → Prop
  | empty {place} : Matches .empty place place
  | char {c atStart rest} : Matches (.char c) ⟨atStart, c :: rest⟩ ⟨false, rest⟩
  | start {rest} : Matches .start ⟨true, rest⟩ ⟨true, rest⟩
  | finish {place : Place} : place.AtFinish → Matches .finish place place
  | seq {first second place middle final} : Matches first place middle →
      Matches second middle final → Matches (.seq first second) place final
  | first {first second place final} : Matches first place final →
      Matches (.alt first second) place final
  | second {first second place final} : Matches second place final →
      Matches (.alt first second) place final

/-- Where a match may end. -/
def ends : Regex → Place → List Place
  | .empty, place => [place]
  | .char _, ⟨_, []⟩ => []
  | .char c, ⟨_, d :: rest⟩ => if c = d then [⟨false, rest⟩] else []
  | .start, place => if place.atStart then [place] else []
  | .finish, place => if place.AtFinish then [place] else []
  | .seq first second, place => (first.ends place).flatMap second.ends
  | .alt first second, place => first.ends place ++ second.ends place

/-- The places of a text, from its start. -/
def places : List Char → List Place
  | [] => [⟨true, []⟩]
  | c :: text => ⟨true, c :: text⟩ :: text.tails.map (Place.mk false)

/-- Some part of the text is matched. -/
def search (regex : Regex) (text : List Char) : Bool :=
  (places text).any fun place => !(regex.ends place).isEmpty

section Matching

variable {place final : Place} {first second : Regex}

@[simp] theorem matches_empty_iff : Matches .empty place final ↔ final = place := by
  constructor
  · rintro ⟨⟩
    rfl
  · rintro rfl
    exact .empty

@[simp] theorem matches_char_iff {c : Char} :
    Matches (.char c) place final ↔ place.rest = c :: final.rest ∧ final.atStart = false := by
  constructor
  · rintro ⟨⟩
    exact ⟨rfl, rfl⟩
  · obtain ⟨atStart, rest⟩ := place
    obtain ⟨atStart', rest'⟩ := final
    rintro ⟨rfl, rfl⟩
    exact .char

@[simp] theorem matches_start_iff :
    Matches .start place final ↔ place.atStart = true ∧ final = place := by
  constructor
  · rintro ⟨⟩
    exact ⟨rfl, rfl⟩
  · obtain ⟨atStart, rest⟩ := place
    rintro ⟨rfl, rfl⟩
    exact .start

@[simp] theorem matches_finish_iff :
    Matches .finish place final ↔ place.AtFinish ∧ final = place := by
  constructor
  · rintro ⟨⟩
    rename_i h
    exact ⟨h, rfl⟩
  · rintro ⟨h, rfl⟩
    exact .finish h

@[simp] theorem matches_seq_iff : Matches (.seq first second) place final ↔
    ∃ middle, Matches first place middle ∧ Matches second middle final := by
  constructor
  · rintro ⟨⟩
    rename_i middle hfirst hsecond
    exact ⟨middle, hfirst, hsecond⟩
  · rintro ⟨middle, hfirst, hsecond⟩
    exact .seq hfirst hsecond

@[simp] theorem matches_alt_iff : Matches (.alt first second) place final ↔
    Matches first place final ∨ Matches second place final := by
  constructor
  · rintro ⟨⟩
    · exact Or.inl ‹_›
    · exact Or.inr ‹_›
  · rintro (h | h)
    · exact .first h
    · exact .second h

/-- The ends that are found are those of the matches. -/
theorem mem_ends_iff (regex : Regex) (place final : Place) :
    final ∈ regex.ends place ↔ Matches regex place final := by
  induction regex generalizing place final with
  | empty => rw [ends, List.mem_singleton, matches_empty_iff]
  | char c =>
      obtain ⟨atStart, rest⟩ := place
      cases rest with
      | nil => simp [ends]
      | cons d rest =>
          obtain ⟨atStart', rest'⟩ := final
          rw [ends, matches_char_iff]
          split
          · simp_all [and_comm, eq_comm]
          · rename_i hne
            simp [Ne.symm hne]
  | start =>
      rw [ends, matches_start_iff]
      split
      · simp_all
      · simp_all
  | finish =>
      rw [ends, matches_finish_iff]
      split
      · simp_all
      · simp_all
  | seq first second ihFirst ihSecond =>
      rw [ends, List.mem_flatMap, matches_seq_iff]
      simp only [ihFirst, ihSecond]
  | alt first second ihFirst ihSecond =>
      rw [ends, List.mem_append, matches_alt_iff, ihFirst, ihSecond]

theorem mem_places_iff (text : List Char) (place : Place) :
    place ∈ places text ↔ place = ⟨true, text⟩ ∨
      ∃ c before, text = c :: before ++ place.rest ∧ place.atStart = false := by
  cases text with
  | nil => simp [places]
  | cons c text =>
      obtain ⟨atStart, rest⟩ := place
      rw [places, List.mem_cons, List.mem_map]
      simp only [List.mem_tails, Place.mk.injEq, List.cons_append, List.cons.injEq]
      constructor
      · rintro (h | ⟨suffix, ⟨before, rfl⟩, rfl, rfl⟩)
        · exact Or.inl h
        · exact Or.inr ⟨c, before, ⟨rfl, rfl⟩, rfl⟩
      · rintro (h | ⟨c', before, ⟨rfl, rfl⟩, rfl⟩)
        · exact Or.inl h
        · exact Or.inr ⟨rest, ⟨before, rfl⟩, rfl, rfl⟩

theorem search_iff (regex : Regex) (text : List Char) :
    regex.search text = true ↔ ∃ place ∈ places text, ∃ final, Matches regex place final := by
  simp only [search, List.any_eq_true, Bool.not_eq_true', List.isEmpty_eq_false_iff_exists_mem,
    mem_ends_iff]

end Matching

section Chars

/-- One character after the other. -/
def chars (regex : Regex) (word : List Char) : Regex :=
  word.foldl (fun regex c => .seq regex (.char c)) regex

theorem matches_chars_iff (regex : Regex) {word : List Char} (hne : word ≠ [])
    (place final : Place) : Matches (regex.chars word) place final ↔
      ∃ middle, Matches regex place middle ∧ middle.rest = word ++ final.rest ∧
        final.atStart = false := by
  induction word generalizing regex with
  | nil => exact absurd rfl hne
  | cons c word ih =>
      cases word with
      | nil =>
          simp [chars]
      | cons d word =>
          have hrest := ih (.seq regex (.char c)) (by simp)
          rw [chars, List.foldl_cons]
          refine hrest.trans ?_
          constructor
          · rintro ⟨middle, hmiddle, hword, hfinal⟩
            obtain ⟨before, hbefore, hc, -⟩ := by simpa using hmiddle
            exact ⟨before, hbefore, by rw [hc, hword]; rfl, hfinal⟩
          · rintro ⟨before, hbefore, hword, hfinal⟩
            refine ⟨⟨false, d :: word ++ final.rest⟩, ?_, rfl, hfinal⟩
            rw [matches_seq_iff]
            exact ⟨before, hbefore, matches_char_iff.mpr ⟨hword, rfl⟩⟩

end Chars

section Parsing

inductive Token where
  | opening
  | closing
  | bar
  | start
  | finish
  | literal (c : Char)
  deriving DecidableEq, Repr

/-- The characters that do not stand for themselves. -/
def special : List Char := "\\^$.|?*+()[]\x7b\x7d".toList

/-- The tokens of a pattern; `none` if it has an operator of another kind. -/
def tokens : List Char → Option (List Token)
  | [] => some []
  | '(' :: '?' :: ':' :: pattern => (tokens pattern).map (.opening :: ·)
  | ')' :: pattern => (tokens pattern).map (.closing :: ·)
  | '|' :: pattern => (tokens pattern).map (.bar :: ·)
  | '^' :: pattern => (tokens pattern).map (.start :: ·)
  | '$' :: pattern => (tokens pattern).map (.finish :: ·)
  | '\\' :: c :: pattern =>
      if c.isAlphanum then none else (tokens pattern).map (.literal c :: ·)
  | c :: pattern => if c ∈ special then none else (tokens pattern).map (.literal c :: ·)

/-- A group that is not closed: its alternatives so far, and the last of them. -/
structure Frame where
  before : Option Regex
  sequence : Regex

def Frame.new : Frame := ⟨none, .empty⟩

def Frame.add (frame : Frame) (regex : Regex) : Frame :=
  { frame with sequence := .seq frame.sequence regex }

def Frame.regex (frame : Frame) : Regex :=
  match frame.before with
  | none => frame.sequence
  | some before => .alt before frame.sequence

def shift : List Frame → Token → Option (List Frame)
  | frames, .opening => some (.new :: frames)
  | inner :: frame :: frames, .closing => some (frame.add inner.regex :: frames)
  | frame :: frames, .bar => some (⟨some frame.regex, .empty⟩ :: frames)
  | frame :: frames, .start => some (frame.add .start :: frames)
  | frame :: frames, .finish => some (frame.add .finish :: frames)
  | frame :: frames, .literal c => some (frame.add (.char c) :: frames)
  | _, _ => none

def parse (pattern : List Char) : Option Regex := do
  let tokens ← tokens pattern
  let frames ← tokens.foldlM shift [.new]
  match frames with
  | [frame] => some frame.regex
  | _ => none

/-- What a matcher says of a pattern and a text. -/
def accepts (pattern text : List Char) : Bool := (parse pattern).any (·.search text)

/-- A character that stands for itself. -/
theorem tokens_literal {c : Char} (h : c ∉ special) (pattern : List Char) :
    tokens (c :: pattern) = (tokens pattern).map (.literal c :: ·) := by
  rw [tokens, if_neg h]
  all_goals
    intros
    subst_vars
    exact absurd (by decide) h

/-- A run of such characters lengthens the last alternative. -/
theorem foldlM_shift_literals (word : List Char) (frame : Frame) (frames : List Frame) :
    (word.map Token.literal).foldlM shift (frame :: frames) =
      some ({ frame with sequence := frame.sequence.chars word } :: frames) := by
  induction word generalizing frame with
  | nil => rfl
  | cons c word ih =>
      rw [List.map_cons, List.foldlM_cons]
      exact ih (frame.add (.char c))

end Parsing

end Regex

end WifiProject.Lib
