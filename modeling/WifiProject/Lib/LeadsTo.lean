import Mathlib.Data.Nat.Init

/-!
Infinite runs of a system that takes one event after another, and what they lead
to. A rank shows that something happens in the end: no event raises it, and in
every state some events, which the run is known to hold again and again, lower
it.
-/

namespace WifiProject.Lib

variable {S E : Type}

/-- The states of the run from `start`. -/
def states (step : S → E → S) (start : S) (events : Nat → E) : Nat → S
  | 0 => start
  | n + 1 => step (states step start events n) (events n)

/-- What the start has and every step keeps holds throughout. -/
theorem states_induction {step : S → E → S} {start : S} {events : Nat → E} {p : S → Prop}
    (hstart : p start) (hstep : ∀ s n, p s → p (step s (events n))) (n : Nat) :
    p (states step start events n) := by
  induction n with
  | zero => exact hstart
  | succ n ih => exact hstep _ n ih

/-- Whenever `p` holds, `q` holds then or later. -/
def LeadsTo (run : Nat → S) (p q : S → Prop) : Prop :=
  ∀ n, p (run n) → ∃ m, n ≤ m ∧ q (run m)

namespace LeadsTo

variable {run : Nat → S} {p q r : S → Prop}

theorem trans (hpq : LeadsTo run p q) (hqr : LeadsTo run q r) : LeadsTo run p r := by
  intro n hp
  obtain ⟨m, hm, hq⟩ := hpq n hp
  obtain ⟨k, hk, hr⟩ := hqr m hq
  exact ⟨k, Nat.le_trans hm hk, hr⟩

/-- It is enough to look at the moments at which `q` does not hold yet. -/
theorem of_imp_or (hrpq : ∀ s, r s → p s ∨ q s) (hpq : LeadsTo run p q) : LeadsTo run r q := by
  intro n hr
  rcases hrpq _ hr with hp | hq
  · exact hpq n hp
  · exact ⟨n, Nat.le_refl n, hq⟩

/-- What an event does on the way from `p` to `q`: it arrives, or it lowers the
rank, or it is not one of the helpful events and these remain helpful. -/
def Advances (p q : S → Prop) (rank : S → Nat) (helpful : S → E → Prop) (s : S) (e : E)
    (next : S) : Prop :=
  q next ∨ p next ∧ (rank next < rank s ∨
    rank next ≤ rank s ∧ ¬ helpful s e ∧ ∀ e', helpful s e' → helpful next e')

variable {events : Nat → E} {rank : S → Nat} {helpful : S → E → Prop}

/-- Up to the next helpful event a run arrives, or lowers its rank, or stays
where that event helps. -/
theorem wait (hadvance : ∀ n, p (run n) →
      Advances p q rank helpful (run n) (events n) (run (n + 1)))
    {n : Nat} (hp : p (run n)) (k : Nat) :
    (∃ m, n ≤ m ∧ q (run m)) ∨ (∃ m, n ≤ m ∧ p (run m) ∧ rank (run m) < rank (run n)) ∨
      p (run (n + k)) ∧ rank (run (n + k)) ≤ rank (run n) ∧
        ∀ e, helpful (run n) e → helpful (run (n + k)) e := by
  induction k with
  | zero => exact Or.inr (Or.inr ⟨hp, Nat.le_refl _, fun _ h => h⟩)
  | succ k ih =>
      rcases ih with harrived | hlower | ⟨hpk, hrank, hhelpful⟩
      · exact Or.inl harrived
      · exact Or.inr (Or.inl hlower)
      · rcases hadvance (n + k) hpk with hq | ⟨hnext, hless | ⟨hle, -, hkeep⟩⟩
        · exact Or.inl ⟨n + k + 1, by omega, hq⟩
        · exact Or.inr (Or.inl ⟨n + k + 1, by omega, hnext, by omega⟩)
        · exact Or.inr (Or.inr ⟨hnext, Nat.le_trans hle hrank, fun e he => hkeep e (hhelpful e he)⟩)

theorem of_rank (events : Nat → E) (rank : S → Nat) (helpful : S → E → Prop)
    (hadvance : ∀ n, p (run n) → Advances p q rank helpful (run n) (events n) (run (n + 1)))
    (hfair : ∀ n, p (run n) → ∃ m, n ≤ m ∧ helpful (run n) (events m)) : LeadsTo run p q := by
  intro n
  induction hrank : rank (run n) using Nat.strongRecOn generalizing n with
  | ind bound ih =>
      intro hp
      have hlower : ∀ m, n ≤ m → p (run m) → rank (run m) < rank (run n) →
          ∃ m, n ≤ m ∧ q (run m) := by
        intro m hm hpm hless
        obtain ⟨k, hk, hq⟩ := ih _ (hrank ▸ hless) m rfl hpm
        exact ⟨k, Nat.le_trans hm hk, hq⟩
      obtain ⟨m, hm, hhelps⟩ := hfair n hp
      obtain ⟨k, rfl⟩ := Nat.exists_eq_add_of_le hm
      rcases wait hadvance hp k with harrived | ⟨m, hm, hpm, hless⟩ | ⟨hpk, hle, hhelpful⟩
      · exact harrived
      · exact hlower m hm hpm hless
      · rcases hadvance (n + k) hpk with hq | ⟨hnext, hless | ⟨-, hnot, -⟩⟩
        · exact ⟨n + k + 1, by omega, hq⟩
        · exact hlower _ (by omega) hnext (by omega)
        · exact absurd (hhelpful _ hhelps) hnot

end LeadsTo

end WifiProject.Lib
