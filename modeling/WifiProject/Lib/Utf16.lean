import WifiProject.Lib.Comparator

/-!
Texts as the UTF-16 code units that a `java.lang.String` holds, and the order of
its `compareTo`.
-/

namespace WifiProject.Lib.Utf16

/-- The code units of a character: itself, or a surrogate pair. -/
def units (c : Char) : List Nat :=
  if c.toNat < 0x10000 then [c.toNat]
  else [0xD800 + (c.toNat - 0x10000) / 0x400, 0xDC00 + (c.toNat - 0x10000) % 0x400]

def encode (text : List Char) : List Nat := text.flatMap units

/-- `x.compareTo(y)`: the difference of the first units that differ, or of the lengths. -/
def compareUnits : List Nat → List Nat → Int
  | x :: xs, y :: ys => if x = y then compareUnits xs ys else (x : Int) - y
  | xs, ys => (xs.length : Int) - ys.length

def compareTo (x y : String) : Int := compareUnits (encode x.toList) (encode y.toList)

theorem units_ne_nil (c : Char) : units c ≠ [] := by
  unfold units
  split <;> simp

/-- No character is a surrogate. -/
theorem not_surrogate (c : Char) : c.toNat < 0xD800 ∨ 0xDFFF < c.toNat := by
  have hvalid := c.valid
  simp only [UInt32.isValidChar, Nat.isValidChar] at hvalid
  change c.val.toNat < 0xD800 ∨ 0xDFFF < c.val.toNat
  omega

theorem toNat_lt (c : Char) : c.toNat < 0x110000 := by
  have hvalid := c.valid
  simp only [UInt32.isValidChar, Nat.isValidChar] at hvalid
  change c.val.toNat < 0x110000
  omega

/-- The units of a character show where it ends. -/
theorem units_append_inj {c d : Char} {xs ys : List Nat} (h : units c ++ xs = units d ++ ys) :
    c = d ∧ xs = ys := by
  have hc := not_surrogate c
  have hd := not_surrogate d
  have hcmax := toNat_lt c
  have hdmax := toNat_lt d
  have hnat : c.toNat = d.toNat ∧ xs = ys := by
    unfold units at h
    split at h
    · split at h
      · simpa using h
      · simp only [List.cons_append, List.nil_append, List.cons.injEq] at h
        omega
    · split at h
      · simp only [List.cons_append, List.nil_append, List.cons.injEq] at h
        omega
      · simp only [List.cons_append, List.nil_append, List.cons.injEq] at h
        obtain ⟨hhigh, hlow, hrest⟩ := h
        exact ⟨by omega, hrest⟩
  exact ⟨Char.toNat_inj.mp hnat.1, hnat.2⟩

theorem encode_injective : Function.Injective encode := by
  intro x
  induction x with
  | nil =>
      intro y h
      cases y with
      | nil => rfl
      | cons d y =>
          rw [encode, encode, List.flatMap_nil, List.flatMap_cons] at h
          exact absurd (List.append_eq_nil_iff.mp h.symm).1 (units_ne_nil d)
  | cons c x ih =>
      intro y h
      cases y with
      | nil =>
          rw [encode, encode, List.flatMap_nil, List.flatMap_cons] at h
          exact absurd (List.append_eq_nil_iff.mp h).1 (units_ne_nil c)
      | cons d y =>
          rw [encode, encode, List.flatMap_cons, List.flatMap_cons] at h
          obtain ⟨rfl, hrest⟩ := units_append_inj h
          rw [ih hrest]

theorem agrees_compareUnits (xs ys : List Nat) : Agrees (compareUnits xs ys) xs ys := by
  induction xs generalizing ys with
  | nil =>
      cases ys with
      | nil => exact ⟨by simp [compareUnits], by simp [compareUnits]⟩
      | cons y ys =>
          constructor
          · simp only [compareUnits, List.length_nil, List.length_cons, List.nil_lt_cons, iff_true]
            omega
          · simp only [compareUnits, List.length_nil, List.length_cons, reduceCtorEq, iff_false]
            omega
  | cons x xs ih =>
      cases ys with
      | nil =>
          constructor
          · simp only [compareUnits, List.length_nil, List.length_cons, List.not_lt_nil, iff_false]
            omega
          · simp only [compareUnits, List.length_nil, List.length_cons, reduceCtorEq, iff_false]
            omega
      | cons y ys =>
          rw [compareUnits]
          split
          · rename_i heq
            subst heq
            constructor
            · rw [(ih ys).neg, List.cons_lt_cons_iff]
              simp
            · rw [(ih ys).zero, List.cons.injEq]
              simp
          · rename_i hne
            constructor
            · rw [List.cons_lt_cons_iff]
              omega
            · simp only [List.cons.injEq, hne, false_and, iff_false]
              omega

/-- Strings are ordered by their units, and different ones differ there. -/
theorem agrees_compareTo (x y : String) :
    Agrees (compareTo x y) (encode x.toList) (encode y.toList) :=
  agrees_compareUnits _ _

theorem encode_toList_injective : Function.Injective fun text : String => encode text.toList := by
  intro x y h
  exact String.toList_injective (encode_injective h)

end WifiProject.Lib.Utf16
