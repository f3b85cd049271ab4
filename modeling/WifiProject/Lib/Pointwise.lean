import Mathlib.Data.List.Forall2

/-!
Lists related position by position: what a list of items became under a step
that can fail.
-/

namespace WifiProject.Lib

variable {α β γ ε : Type} {R : α → β → Prop}

/-- A position of the first list has its position in the second, and what
follows it is related too. -/
theorem forall₂_split {as : List α} {bs : List β} (h : List.Forall₂ R as bs)
    {before : List α} {a : α} {after : List α} (has : as = before ++ a :: after) :
    ∃ before' b after', bs = before' ++ b :: after' ∧ R a b ∧ List.Forall₂ R after after' := by
  induction h generalizing before with
  | nil => simp at has
  | cons hhead htail ih =>
      cases before with
      | nil =>
          cases has
          exact ⟨[], _, _, rfl, hhead, htail⟩
      | cons first before =>
          rw [List.cons_append, List.cons.injEq] at has
          obtain ⟨before', b, after', rfl, hrel, hafter⟩ := ih has.2
          exact ⟨_ :: before', b, after', rfl, hrel, hafter⟩

theorem exists_of_forall₂ {as : List α} {bs : List β} (h : List.Forall₂ R as bs) {a : α}
    (ha : a ∈ as) : ∃ b ∈ bs, R a b := by
  obtain ⟨before, after, has⟩ := List.append_of_mem ha
  obtain ⟨before', b, after', rfl, hrel, -⟩ := forall₂_split h has
  exact ⟨b, by simp, hrel⟩

theorem exists_forall₂ {as : List α} (h : ∀ a ∈ as, ∃ b, R a b) : ∃ bs, List.Forall₂ R as bs := by
  induction as with
  | nil => exact ⟨[], .nil⟩
  | cons a as ih =>
      rw [List.forall_mem_cons] at h
      obtain ⟨b, hb⟩ := h.1
      obtain ⟨bs, hbs⟩ := ih h.2
      exact ⟨b :: bs, .cons hb hbs⟩

/-- Two relations of lists, one after the other. -/
theorem forall₂_comp_iff {S : β → γ → Prop} (as : List α) (cs : List γ) :
    (∃ bs, List.Forall₂ R as bs ∧ List.Forall₂ S bs cs) ↔
      List.Forall₂ (fun a c => ∃ b, R a b ∧ S b c) as cs := by
  constructor
  · rintro ⟨bs, hfirst, hsecond⟩
    induction hfirst generalizing cs with
    | nil =>
        cases hsecond
        exact .nil
    | cons hhead htail ih =>
        cases hsecond with
        | cons hhead' htail' => exact .cons ⟨_, hhead, hhead'⟩ (ih _ htail')
  · intro h
    induction h with
    | nil => exact ⟨[], .nil, .nil⟩
    | cons hhead htail ih =>
        obtain ⟨b, hfirst, hsecond⟩ := hhead
        obtain ⟨bs, hbefore, hafter⟩ := ih
        exact ⟨b :: bs, .cons hfirst hbefore, .cons hsecond hafter⟩

theorem forall₂_congr_of_mem {S : α → β → Prop} {as : List α} {bs : List β}
    (h : ∀ a ∈ as, ∀ b, R a b ↔ S a b) : List.Forall₂ R as bs ↔ List.Forall₂ S as bs := by
  constructor
  · intro hrel
    have hboth := (List.forall₂_and_left as bs).mpr ⟨fun a ha => h a ha, hrel⟩
    exact hboth.imp fun a b hab => (hab.1 b).mp hab.2
  · intro hrel
    have hboth := (List.forall₂_and_left as bs).mpr ⟨fun a ha => h a ha, hrel⟩
    exact hboth.imp fun a b hab => (hab.1 b).mpr hab.2

theorem forall₂_getElem? {as : List α} {bs : List β} (h : List.Forall₂ R as bs) {i : Nat} {a : α}
    (ha : as[i]? = some a) : ∃ b, bs[i]? = some b ∧ R a b := by
  induction h generalizing i with
  | nil => simp at ha
  | cons hhead htail ih =>
      cases i with
      | zero =>
          cases ha
          exact ⟨_, rfl, hhead⟩
      | succ i => exact ih ha

theorem mapM_eq_ok_iff (f : α → Except ε β) (items : List α) (results : List β) :
    items.mapM f = .ok results ↔
      List.Forall₂ (fun item result => f item = .ok result) items results := by
  induction items generalizing results with
  | nil => cases results <;> simp [List.mapM_nil, pure, Except.pure]
  | cons item items ih =>
      rw [List.mapM_cons]
      cases hitem : f item with
      | error e => cases results <;> simp [hitem, bind, Except.bind]
      | ok first =>
          cases results with
          | nil => cases items.mapM f <;> simp [bind, Except.bind, pure, Except.pure]
          | cons result rest =>
              rw [List.forall₂_cons, ← ih rest, hitem]
              cases items.mapM f <;> simp [bind, Except.bind, pure, Except.pure]

end WifiProject.Lib
