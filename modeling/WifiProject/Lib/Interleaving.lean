import WifiProject.Lib.Routine

/-!
Two programs over one store. A schedule says which side makes the next call; a
side that has nothing left is passed over, and what the schedule leaves open is
done by the left side first. The log lists the calls in the order they were
made.
-/

namespace WifiProject.Lib

inductive Side where
  | left
  | right
  deriving DecidableEq, Repr

structure Interleaved (Op α β S : Type) where
  log : List (Side × Op)
  left : α
  right : β
  store : S

def Interleaved.after {Op α β S : Type} (call : Side × Op) (run : Interleaved Op α β S) :
    Interleaved Op α β S :=
  { run with log := call :: run.log }

namespace Prog

variable {Op : Type} {Res : Op → Type} {α β S G H M : Type}

def runRight (handle : Handler Op Res S) (a : α) : Prog Op Res β → S → Interleaved Op α β S
  | .done b, s => ⟨[], a, b, s⟩
  | .call op next, s => (runRight handle a (next (handle op s).1) (handle op s).2).after (.right, op)

def runLeft (handle : Handler Op Res S) : Prog Op Res α → Prog Op Res β → S →
    Interleaved Op α β S
  | .done a, q, s => runRight handle a q s
  | .call op next, q, s => (runLeft handle (next (handle op s).1) q (handle op s).2).after (.left, op)

def interleave (handle : Handler Op Res S) : List Side → Prog Op Res α → Prog Op Res β → S →
    Interleaved Op α β S
  | [], p, q, s => runLeft handle p q s
  | .left :: schedule, p, q, s =>
      match p with
      | .done a => interleave handle schedule (.done a) q s
      | .call op next =>
          (interleave handle schedule (next (handle op s).1) q (handle op s).2).after (.left, op)
  | .right :: schedule, p, q, s =>
      match q with
      | .done b => interleave handle schedule p (.done b) s
      | .call op next =>
          (interleave handle schedule p (next (handle op s).1) (handle op s).2).after (.right, op)

end Prog

/-- A condition on the order of calls, judged call by call. -/
structure Discipline (Op M : Type) where
  allows : M → Side × Op → Bool
  next : M → Side × Op → M

def Discipline.accepts {Op M : Type} (d : Discipline Op M) : M → List (Side × Op) → Bool
  | _, [] => true
  | mode, call :: log => d.allows mode call && d.accepts (d.next mode call) log

theorem Discipline.accepts_cons {Op M : Type} {d : Discipline Op M} {mode : M} {call : Side × Op}
    {log : List (Side × Op)} (h : d.accepts mode (call :: log) = true) :
    d.allows mode call = true ∧ d.accepts (d.next mode call) log = true :=
  (Bool.and_eq_true _ _).mp h

namespace Prog

variable {Op : Type} {Res : Op → Type} {α β S G H M : Type}

/-- The store honours the contracts of both sides under a discipline: `rel`
relates the mode of the discipline, the store and the two ghosts. -/
structure Cooperation (handle : Handler Op Res S) (c : Contract Op Res G) (d : Contract Op Res H)
    (discipline : Discipline Op M) (rel : M → S → G → H → Prop) : Prop where
  left : ∀ op mode s g h, rel mode s g h → c.admits op g → discipline.allows mode (.left, op) = true →
    c.replies op (handle op s).1 g ∧
      rel (discipline.next mode (.left, op)) (handle op s).2 (c.next op (handle op s).1 g) h
  right : ∀ op mode s g h, rel mode s g h → d.admits op h → discipline.allows mode (.right, op) = true →
    d.replies op (handle op s).1 h ∧
      rel (discipline.next mode (.right, op)) (handle op s).2 g (d.next op (handle op s).1 h)

namespace Cooperation

variable {handle : Handler Op Res S} {c : Contract Op Res G} {d : Contract Op Res H}
  {discipline : Discipline Op M} {rel : M → S → G → H → Prop} {post : α → G → Prop}
  {post' : β → H → Prop}

/-- What a run has established when both sides are done. -/
def Ends (rel : M → S → G → H → Prop) (post : α → G → Prop) (post' : β → H → Prop)
    (run : Interleaved Op α β S) : Prop :=
  ∃ mode g h, rel mode run.store g h ∧ post run.left g ∧ post' run.right h

theorem runRight (hcoop : Cooperation handle c d discipline rel) {a : α} {q : Prog Op Res β}
    {mode : M} {s : S} {g : G} {h : H} (hrel : rel mode s g h) (hpost : post a g)
    (hq : q.Keeps d post' h) (hlog : discipline.accepts mode (Prog.runRight handle a q s).log = true) :
    Ends rel post post' (Prog.runRight handle a q s) := by
  induction q generalizing mode s h with
  | done b => exact ⟨mode, g, h, hrel, hpost, hq⟩
  | call op next ih =>
      obtain ⟨hallowed, hrest⟩ := Discipline.accepts_cons hlog
      obtain ⟨hreply, hrel'⟩ := hcoop.right op mode s g h hrel hq.1 hallowed
      exact ih _ hrel' (hq.2 _ hreply) hrest

theorem runLeft (hcoop : Cooperation handle c d discipline rel) {p : Prog Op Res α}
    {q : Prog Op Res β} {mode : M} {s : S} {g : G} {h : H} (hrel : rel mode s g h)
    (hp : p.Keeps c post g) (hq : q.Keeps d post' h)
    (hlog : discipline.accepts mode (Prog.runLeft handle p q s).log = true) :
    Ends rel post post' (Prog.runLeft handle p q s) := by
  induction p generalizing mode s g with
  | done a => exact hcoop.runRight hrel hp hq hlog
  | call op next ih =>
      obtain ⟨hallowed, hrest⟩ := Discipline.accepts_cons hlog
      obtain ⟨hreply, hrel'⟩ := hcoop.left op mode s g h hrel hp.1 hallowed
      exact ih _ hrel' (hp.2 _ hreply) hrest

/-- Every interleaving that keeps to the discipline ends in both
postconditions. -/
theorem interleave (hcoop : Cooperation handle c d discipline rel) (schedule : List Side)
    {p : Prog Op Res α} {q : Prog Op Res β} {mode : M} {s : S} {g : G} {h : H}
    (hrel : rel mode s g h) (hp : p.Keeps c post g) (hq : q.Keeps d post' h)
    (hlog : discipline.accepts mode (Prog.interleave handle schedule p q s).log = true) :
    Ends rel post post' (Prog.interleave handle schedule p q s) := by
  induction schedule generalizing p q mode s g h with
  | nil => exact hcoop.runLeft hrel hp hq hlog
  | cons side schedule ih =>
      cases side with
      | left =>
          cases p with
          | done a => exact ih hrel hp hq hlog
          | call op next =>
              obtain ⟨hallowed, hrest⟩ := Discipline.accepts_cons hlog
              obtain ⟨hreply, hrel'⟩ := hcoop.left op mode s g h hrel hp.1 hallowed
              exact ih hrel' (hp.2 _ hreply) hq hrest
      | right =>
          cases q with
          | done b => exact ih hrel hp hq hlog
          | call op next =>
              obtain ⟨hallowed, hrest⟩ := Discipline.accepts_cons hlog
              obtain ⟨hreply, hrel'⟩ := hcoop.right op mode s g h hrel hq.1 hallowed
              exact ih hrel' hp (hq.2 _ hreply) hrest

end Cooperation

end Prog

end WifiProject.Lib
