import Mathlib.Data.List.Infix
import Mathlib.Data.List.Sublists

/-!
`StringTextUtils.verifyPasswordContainAccount`: a password must not contain the
account, nor a text that looks like it. The loop tries one replacement alone and
all replacements so far.
-/

namespace WifiProject.Utils

/-- The letters of `likes` with their signs in `likeSign`. -/
def likes : List (Char × Char) := [('a', '@'), ('l', '!'), ('o', '0')]

/-- `String.replace` of one character. -/
def replace (pair : Char × Char) (text : List Char) : List Char :=
  text.map fun c => if c = pair.1 then pair.2 else c

/-- The loop; `account` has had the replacements so far. -/
def containsLike (password originalAccount : List Char) :
    List (Char × Char) → List Char → Bool
  | [], _ => false
  | pair :: pairs, account =>
      let tempAccount := replace pair originalAccount
      let account := replace pair account
      if tempAccount <:+: password ∨ account <:+: password then true
      else containsLike password originalAccount pairs account

/-- A `null` is taken for an empty text. -/
def verifyPasswordContainAccount (toLowerCase : List Char → List Char)
    (password account : List Char) : Bool :=
  if password ≠ [] ∧ account ≠ [] then
    let password := toLowerCase password
    let account := toLowerCase account
    if account <:+: password then true
    else containsLike password account likes account
  else false

/-- Every letter of these pairs is replaced by its sign. -/
def disguise (pairs : List (Char × Char)) (account : List Char) : List Char :=
  pairs.foldl (fun account pair => replace pair account) account

/-- The password is found out exactly if it contains a look-alike of the account,
whichever of the letters it replaces. -/
def Detects (toLowerCase : List Char → List Char) (password account : List Char) : Prop :=
  verifyPasswordContainAccount toLowerCase password account = true ↔
    ∃ pairs ∈ likes.sublists, disguise pairs (toLowerCase account) <:+: toLowerCase password

/-- The replacements that the loop does not try. -/
def untried : List (List (Char × Char)) :=
  [[('a', '@'), ('o', '0')], [('l', '!'), ('o', '0')]]

/-- The account has all three letters and the password one of the look-alikes
that are not tried, and no other. -/
def Missed (password account : List Char) : Prop :=
  ('a' ∈ account ∧ 'l' ∈ account ∧ 'o' ∈ account) ∧
    (∃ pairs ∈ untried, disguise pairs account <:+: password) ∧
      ∀ pairs ∈ likes.sublists, pairs ∉ untried → ¬ disguise pairs account <:+: password

section Replace

variable {pair : Char × Char} {text : List Char}

theorem replace_of_not_mem (h : pair.1 ∉ text) : replace pair text = text := by
  have hself : ∀ c ∈ text, (if c = pair.1 then pair.2 else c) = id c := by
    intro c hc
    rw [if_neg]
    · rfl
    · rintro rfl
      exact h hc
  rw [replace, List.map_congr_left hself, List.map_id]

theorem not_mem_replace {c : Char} (h : c ∉ text) (hsign : c ≠ pair.2) :
    c ∉ replace pair text := by
  unfold replace
  rw [List.mem_map]
  rintro ⟨d, hd, heq⟩
  split at heq
  · exact hsign heq.symm
  · exact h (heq ▸ hd)

end Replace

section Loop

variable {password account : List Char}

/-- What the loop tries. -/
def tried : List (List (Char × Char)) :=
  [[('a', '@')], [('l', '!')], [('a', '@'), ('l', '!')], [('o', '0')],
    [('a', '@'), ('l', '!'), ('o', '0')]]

theorem containsLike_likes_iff :
    containsLike password account likes account = true ↔
      ∃ pairs ∈ tried, disguise pairs account <:+: password := by
  simp only [containsLike, likes, tried, disguise, List.foldl_cons, List.foldl_nil,
    List.exists_mem_cons_iff, List.not_mem_nil, false_and, exists_false, or_false]
  split_ifs <;> tauto

theorem mem_sublists_likes {pairs : List (Char × Char)} :
    pairs ∈ likes.sublists ↔ pairs = [] ∨ pairs ∈ tried ∨ pairs ∈ untried := by
  have hsublists : likes.sublists = [[], [('a', '@')], [('l', '!')], [('a', '@'), ('l', '!')],
      [('o', '0')], [('a', '@'), ('o', '0')], [('l', '!'), ('o', '0')],
      [('a', '@'), ('l', '!'), ('o', '0')]] := by decide
  rw [hsublists]
  simp only [tried, untried, List.mem_cons, List.not_mem_nil, or_false]
  tauto

theorem verifyPasswordContainAccount_iff {toLowerCase : List Char → List Char}
    (hpassword : password ≠ []) (haccount : account ≠ []) :
    verifyPasswordContainAccount toLowerCase password account = true ↔
      ∃ pairs, (pairs = [] ∨ pairs ∈ tried) ∧
        disguise pairs (toLowerCase account) <:+: toLowerCase password := by
  unfold verifyPasswordContainAccount
  rw [if_pos ⟨hpassword, haccount⟩]
  dsimp only
  split
  · rename_i hcontains
    simp only [true_iff]
    exact ⟨[], Or.inl rfl, hcontains⟩
  · rename_i hcontains
    rw [containsLike_likes_iff]
    constructor
    · rintro ⟨pairs, hpairs, hlike⟩
      exact ⟨pairs, Or.inr hpairs, hlike⟩
    · rintro ⟨pairs, rfl | hpairs, hlike⟩
      · exact absurd hlike hcontains
      · exact ⟨pairs, hpairs, hlike⟩

/-- Without one of the letters, a look-alike that is not tried is one that is. -/
theorem exists_tried_of_untried (hletters : ¬ ('a' ∈ account ∧ 'l' ∈ account ∧ 'o' ∈ account))
    {pairs : List (Char × Char)} (hpairs : pairs ∈ untried) :
    ∃ other ∈ tried, disguise other account = disguise pairs account := by
  have hskip (pair : Char × Char) (h : pair.1 ∉ account) :
      replace pair account = account := replace_of_not_mem h
  by_cases ha : 'a' ∈ account
  · by_cases hl : 'l' ∈ account
    · have ho : 'o' ∉ account := fun ho => hletters ⟨ha, hl, ho⟩
      have hafter (pair : Char × Char) (hsign : 'o' ≠ pair.2) :
          replace ('o', '0') (replace pair account) = replace pair account :=
        replace_of_not_mem (not_mem_replace ho hsign)
      rcases List.mem_cons.mp hpairs with rfl | hpairs
      · exact ⟨[('a', '@')], by decide, (hafter ('a', '@') (by decide)).symm⟩
      · rw [List.mem_singleton.mp hpairs]
        exact ⟨[('l', '!')], by decide, (hafter ('l', '!') (by decide)).symm⟩
    · rcases List.mem_cons.mp hpairs with rfl | hpairs
      · refine ⟨[('a', '@'), ('l', '!'), ('o', '0')], by decide, ?_⟩
        have hafter : replace ('l', '!') (replace ('a', '@') account) = replace ('a', '@') account :=
          replace_of_not_mem (not_mem_replace hl (by decide))
        simp only [disguise, List.foldl_cons, List.foldl_nil, hafter]
      · rw [List.mem_singleton.mp hpairs]
        refine ⟨[('o', '0')], by decide, ?_⟩
        simp only [disguise, List.foldl_cons, List.foldl_nil, hskip ('l', '!') hl]
  · rcases List.mem_cons.mp hpairs with rfl | hpairs
    · refine ⟨[('o', '0')], by decide, ?_⟩
      simp only [disguise, List.foldl_cons, List.foldl_nil, hskip ('a', '@') ha]
    · rw [List.mem_singleton.mp hpairs]
      refine ⟨[('a', '@'), ('l', '!'), ('o', '0')], by decide, ?_⟩
      simp only [disguise, List.foldl_cons, List.foldl_nil, hskip ('a', '@') ha]

end Loop

/-- A look-alike is found exactly unless it is one of the two that are not tried. -/
theorem detects_iff_not_missed (toLowerCase : List Char → List Char) (password account : List Char)
    (hpassword : password ≠ []) (haccount : account ≠ []) :
    Detects toLowerCase password account ↔
      ¬ Missed (toLowerCase password) (toLowerCase account) := by
  have hnot_tried : ∀ pairs ∈ tried, pairs ∉ untried := by decide
  rw [Detects, verifyPasswordContainAccount_iff hpassword haccount]
  constructor
  · rintro hdetects ⟨-, ⟨pairs, hpairs, hlike⟩, hnone⟩
    obtain ⟨found, hfound, hother⟩ := hdetects.mpr
      ⟨pairs, mem_sublists_likes.mpr (Or.inr (Or.inr hpairs)), hlike⟩
    have hmem : found ∈ likes.sublists :=
      mem_sublists_likes.mpr (hfound.imp_right Or.inl)
    refine hnone found hmem ?_ hother
    rcases hfound with rfl | hfound
    · decide
    · exact hnot_tried found hfound
  · intro hmissed
    constructor
    · rintro ⟨pairs, hpairs, hlike⟩
      exact ⟨pairs, mem_sublists_likes.mpr (hpairs.imp_right Or.inl), hlike⟩
    · rintro ⟨pairs, hpairs, hlike⟩
      by_contra hnone
      have huntried : pairs ∈ untried := by
        rcases mem_sublists_likes.mp hpairs with hnil | htried | huntried
        · exact absurd ⟨pairs, Or.inl hnil, hlike⟩ hnone
        · exact absurd ⟨pairs, Or.inr htried, hlike⟩ hnone
        · exact huntried
      refine hmissed ⟨?_, ⟨pairs, huntried, hlike⟩, ?_⟩
      · by_contra hletters
        obtain ⟨other, hother, hsame⟩ := exists_tried_of_untried hletters huntried
        exact hnone ⟨other, Or.inr hother, hsame ▸ hlike⟩
      · intro other hother hnot hcontains
        rcases mem_sublists_likes.mp hother with hnil | htried | huntried
        · exact hnone ⟨other, Or.inl hnil, hcontains⟩
        · exact hnone ⟨other, Or.inr htried, hcontains⟩
        · exact hnot huntried

theorem detects_admin :
    "adm1n@0".toList ≠ [] ∧ "adm1n".toList ≠ [] ∧
      (Detects (List.map Char.toLower) "adm1n@0".toList "adm1n".toList ↔
        ¬ Missed (List.map Char.toLower "adm1n@0".toList) (List.map Char.toLower "adm1n".toList)) :=
  ⟨by decide, by decide, detects_iff_not_missed _ _ _ (by decide) (by decide)⟩

/-- Two signs are too many for the loop when the letter between them stays. -/
theorem not_detects_alo : ¬ Detects (List.map Char.toLower) "@l0".toList "alo".toList := by
  intro h
  have hfound := h.mpr ⟨[('a', '@'), ('o', '0')], by decide, by decide⟩
  exact absurd hfound (by decide)

end WifiProject.Utils
