import Mathlib.Data.List.Induction

/-!
Runs as lists of events: what holds at every event, given the events before it,
and what holds of a list after one of its elements was changed.
-/

namespace WifiProject.Lib

variable {α : Type} {p : List α → α → Prop} {l : List α} {a : α}

theorem forall_split_nil : ∀ before b after, ([] : List α) = before ++ b :: after → p before b := by
  intro before b after h
  simp at h

/-- What holds at every event of a run holds at those of the front and at the
last one. -/
theorem forall_split_concat_iff :
    (∀ before b after, l ++ [a] = before ++ b :: after → p before b) ↔
      (∀ before b after, l = before ++ b :: after → p before b) ∧ p l a := by
  constructor
  · intro h
    constructor
    · intro before b after heq
      apply h before b (after ++ [a])
      simp [heq]
    · exact h l a [] rfl
  · rintro ⟨hfront, hlast⟩ before b after heq
    rcases List.eq_nil_or_concat after with rfl | ⟨front, last, rfl⟩
    · obtain ⟨hbefore, hb⟩ := List.append_inj' heq rfl
      cases hb
      rw [← hbefore]
      exact hlast
    · rw [List.concat_eq_append, ← List.cons_append, ← List.append_assoc] at heq
      obtain ⟨hfrontEq, -⟩ := List.append_inj' heq rfl
      exact hfront before b front hfrontEq

/-- The same at the first event and at those after it. -/
theorem forall_split_cons_iff :
    (∀ before b after, a :: l = before ++ b :: after → p before b) ↔
      p [] a ∧ ∀ before b after, l = before ++ b :: after → p (a :: before) b := by
  constructor
  · intro h
    constructor
    · exact h [] a l rfl
    · intro before b after heq
      apply h (a :: before) b after
      rw [heq, List.cons_append]
  · rintro ⟨hfirst, hrest⟩ before b after heq
    cases before with
    | nil =>
        cases heq
        exact hfirst
    | cons first before =>
        obtain ⟨rfl, hl⟩ := List.cons_eq_cons.mp heq
        exact hrest before b after hl

/-- What every event of a run keeps holds after every front of it. -/
theorem front_induction {q : List α → Prop} (hstart : q [])
    (hstep : ∀ before b after, l = before ++ b :: after → q before → q (before ++ [b])) :
    ∀ before after, l = before ++ after → q before := by
  intro before
  induction before using List.reverseRecOn with
  | nil =>
      intro _ _
      exact hstart
  | append_singleton before b ih =>
      intro after heq
      have hsplit : l = before ++ b :: after := by
        rw [heq, List.append_assoc, List.singleton_append]
      exact hstep before b after hsplit (ih _ hsplit)

/-- What is asked of every element of a list in which one has been changed. -/
theorem forall_mem_modify_iff {q : α → Prop} {f : α → α} {i : Nat} :
    (∀ b ∈ l.modify i f, q b) ↔
      ∀ j b, l[j]? = some b → q (if i = j then f b else b) := by
  simp only [List.mem_iff_getElem?, List.getElem?_modify]
  constructor
  · intro h j b hb
    apply h
    exact ⟨j, by simp [hb]⟩
  · rintro h b ⟨j, hj⟩
    obtain ⟨c, hc, rfl⟩ := Option.map_eq_some_iff.mp hj
    have hq := h j c hc
    split at hq <;> simp_all

variable {S E : Type} {step : S → E → S} {r : S → E → Prop} {s : S} {events : List E}

/-- Every event of a run meets a condition on the state that it finds. -/
def Along (step : S → E → S) (r : S → E → Prop) : S → List E → Prop
  | _, [] => True
  | s, e :: events => r s e ∧ Along step r (step s e) events

instance [∀ s e, Decidable (r s e)] : Decidable (Along step r s events) :=
  go s events
where
  go : (s : S) → (events : List E) → Decidable (Along step r s events)
    | _, [] => isTrue trivial
    | s, e :: events =>
        have := go (step s e) events
        inferInstanceAs (Decidable (r s e ∧ Along step r (step s e) events))

/-- What such events keep holds after a run of them. -/
theorem Along.induction (inv : S → Prop) (h : Along step r s events) (hstart : inv s)
    (hstep : ∀ s e, inv s → r s e → inv (step s e)) : inv (events.foldl step s) := by
  induction events generalizing s with
  | nil => exact hstart
  | cons e events ih => exact ih h.2 (hstep s e hstart h.1)

end WifiProject.Lib
