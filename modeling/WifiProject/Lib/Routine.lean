import Mathlib.Data.List.Basic

/-!
Programs over a shared store. A `Prog` is a tree of atomic calls: each call
names an operation and continues with the reply. The same tree is run alone,
run interleaved with another one, or judged against a contract that says which
operations may be issued and which replies may come back. A `Routine` adds
private memory and exceptions; an exception keeps the memory.
-/

namespace WifiProject.Lib

inductive Prog (Op : Type) (Res : Op → Type) (α : Type) where
  | done (a : α)
  | call (op : Op) (next : Res op → Prog Op Res α)

/-- How the store answers an operation. -/
abbrev Handler (Op : Type) (Res : Op → Type) (S : Type) := (op : Op) → S → Res op × S

namespace Prog

variable {Op : Type} {Res : Op → Type} {α β S : Type}

def bind : Prog Op Res α → (α → Prog Op Res β) → Prog Op Res β
  | .done a, f => f a
  | .call op next, f => .call op fun reply => (next reply).bind f

/-- The program alone on the store. -/
def exec (handle : Handler Op Res S) : Prog Op Res α → S → α × S
  | .done a, s => (a, s)
  | .call op next, s => (next (handle op s).1).exec handle (handle op s).2

@[simp] theorem exec_bind (handle : Handler Op Res S) (p : Prog Op Res α)
    (f : α → Prog Op Res β) (s : S) :
    (p.bind f).exec handle s = (f (p.exec handle s).1).exec handle (p.exec handle s).2 := by
  induction p generalizing s with
  | done a => rfl
  | call op next ih => exact ih (handle op s).1 (handle op s).2

/-- A program judged call by call over a ghost state `G`: `admits` is what it
may issue, `replies` what it may be answered, `next` how the ghost follows. -/
structure Contract (Op : Type) (Res : Op → Type) (G : Type) where
  admits : Op → G → Prop
  replies : (op : Op) → Res op → G → Prop
  next : (op : Op) → Res op → G → G

variable {G : Type}

def Keeps (c : Contract Op Res G) : Prog Op Res α → (α → G → Prop) → G → Prop
  | .done a, post, g => post a g
  | .call op next, post, g =>
      c.admits op g ∧ ∀ reply, c.replies op reply g → (next reply).Keeps c post (c.next op reply g)

theorem Keeps.mono {c : Contract Op Res G} {p : Prog Op Res α} {post post' : α → G → Prop} {g : G}
    (h : p.Keeps c post g) (himp : ∀ a g, post a g → post' a g) : p.Keeps c post' g := by
  induction p generalizing g with
  | done a => exact himp a g h
  | call op next ih => exact ⟨h.1, fun reply hreply => ih reply (h.2 reply hreply)⟩

theorem Keeps.and {c : Contract Op Res G} {p : Prog Op Res α} {post post' : α → G → Prop} {g : G}
    (h : p.Keeps c post g) (h' : p.Keeps c post' g) :
    p.Keeps c (fun a g => post a g ∧ post' a g) g := by
  induction p generalizing g with
  | done a => exact ⟨h, h'⟩
  | call op next ih =>
      exact ⟨h.1, fun reply hreply => ih reply (h.2 reply hreply) (h'.2 reply hreply)⟩

theorem keeps_bind (c : Contract Op Res G) (p : Prog Op Res α) (f : α → Prog Op Res β)
    (post : β → G → Prop) (g : G) :
    (p.bind f).Keeps c post g ↔ p.Keeps c (fun a g => (f a).Keeps c post g) g := by
  induction p generalizing g with
  | done a => rfl
  | call op next ih =>
      simp only [bind, Keeps]
      exact and_congr_right fun _ => forall_congr' fun reply => imp_congr_right fun _ => ih reply _

end Prog

/-- A routine with private memory `σ` and exceptions `ε`. -/
def Routine (Op : Type) (Res : Op → Type) (σ ε α : Type) : Type :=
  σ → Prog Op Res (Except ε α × σ)

namespace Routine

variable {Op : Type} {Res : Op → Type} {σ ε α β S G : Type}

def pure (a : α) : Routine Op Res σ ε α := fun m => .done (.ok a, m)

def throw (e : ε) : Routine Op Res σ ε α := fun m => .done (.error e, m)

def bind (r : Routine Op Res σ ε α) (f : α → Routine Op Res σ ε β) : Routine Op Res σ ε β :=
  fun m => (r m).bind fun (result, m) =>
    match result with
    | .ok a => f a m
    | .error e => .done (.error e, m)

/-- `try ... catch`: what the failed part did to the memory stays done. -/
def tryCatch (r : Routine Op Res σ ε α) (f : ε → Routine Op Res σ ε α) : Routine Op Res σ ε α :=
  fun m => (r m).bind fun (result, m) =>
    match result with
    | .ok a => .done (.ok a, m)
    | .error e => f e m

instance : Monad (Routine Op Res σ ε) where
  pure := pure
  bind := bind

instance : MonadExceptOf ε (Routine Op Res σ ε) where
  throw := throw
  tryCatch := tryCatch

def perform (op : Op) : Routine Op Res σ ε (Res op) :=
  fun m => .call op fun reply => .done (.ok reply, m)

def read : Routine Op Res σ ε σ := fun m => .done (.ok m, m)

def modify (f : σ → σ) : Routine Op Res σ ε Unit := fun m => .done (.ok (), f m)

/-- `for (x in xs) body(x)`. -/
def forEach (xs : List β) (body : β → Routine Op Res σ ε Unit) : Routine Op Res σ ε Unit :=
  match xs with
  | [] => pure ()
  | x :: xs => bind (body x) fun _ => forEach xs body

/-- The routine alone on the store: its result, its memory and the store. -/
def exec (handle : Handler Op Res S) (r : Routine Op Res σ ε α) (m : σ) (s : S) :
    Except ε α × σ × S :=
  (((r m).exec handle s).1.1, ((r m).exec handle s).1.2, ((r m).exec handle s).2)

section Exec

variable (handle : Handler Op Res S)

@[simp] theorem exec_pure (a : α) (m : σ) (s : S) :
    exec handle (Pure.pure a : Routine Op Res σ ε α) m s = (.ok a, m, s) := rfl

@[simp] theorem exec_throw (e : ε) (m : σ) (s : S) :
    exec handle (MonadExcept.throw e : Routine Op Res σ ε α) m s = (.error e, m, s) := rfl

@[simp] theorem exec_perform (op : Op) (m : σ) (s : S) :
    exec handle (perform op : Routine Op Res σ ε (Res op)) m s =
      (.ok (handle op s).1, m, (handle op s).2) := rfl

@[simp] theorem exec_read (m : σ) (s : S) :
    exec handle (read : Routine Op Res σ ε σ) m s = (.ok m, m, s) := rfl

@[simp] theorem exec_modify (f : σ → σ) (m : σ) (s : S) :
    exec handle (modify f : Routine Op Res σ ε Unit) m s = (.ok (), f m, s) := rfl

theorem exec_bind (r : Routine Op Res σ ε α) (f : α → Routine Op Res σ ε β) (m : σ) (s : S) :
    exec handle (r >>= f) m s =
      match exec handle r m s with
      | (.ok a, m, s) => exec handle (f a) m s
      | (.error e, m, s) => (.error e, m, s) := by
  change exec handle (bind r f) m s = _
  simp only [exec, bind, Prog.exec_bind]
  cases ((r m).exec handle s).1.1 <;> rfl

theorem exec_tryCatch (r : Routine Op Res σ ε α) (f : ε → Routine Op Res σ ε α) (m : σ) (s : S) :
    exec handle (tryCatchThe ε r f) m s =
      match exec handle r m s with
      | (.ok a, m, s) => (.ok a, m, s)
      | (.error e, m, s) => exec handle (f e) m s := by
  change exec handle (tryCatch r f) m s = _
  simp only [exec, tryCatch, Prog.exec_bind]
  cases ((r m).exec handle s).1.1 <;> rfl

@[simp] theorem exec_forEach_nil (body : β → Routine Op Res σ ε Unit) (m : σ) (s : S) :
    exec handle (forEach [] body) m s = (.ok (), m, s) := rfl

theorem exec_forEach_cons (x : β) (xs : List β) (body : β → Routine Op Res σ ε Unit) (m : σ)
    (s : S) :
    exec handle (forEach (x :: xs) body) m s =
      match exec handle (body x) m s with
      | (.ok _, m, s) => exec handle (forEach xs body) m s
      | (.error e, m, s) => (.error e, m, s) := by
  change exec handle (body x >>= fun _ => forEach xs body) m s = _
  rw [exec_bind]
  cases exec handle (body x) m s with
  | mk result rest => cases result <;> rfl

theorem exec_forEach_append (xs ys : List β) (body : β → Routine Op Res σ ε Unit) (m : σ) (s : S) :
    exec handle (forEach (xs ++ ys) body) m s =
      match exec handle (forEach xs body) m s with
      | (.ok _, m, s) => exec handle (forEach ys body) m s
      | (.error e, m, s) => (.error e, m, s) := by
  induction xs generalizing m s with
  | nil => rfl
  | cons x xs ih =>
      simp only [List.cons_append, exec_forEach_cons]
      cases exec handle (body x) m s with
      | mk result rest =>
          cases result with
          | error e => rfl
          | ok _ => exact ih rest.1 rest.2

end Exec

/-- The routine from memory `m` keeps the contract and ends in `post`. -/
def Keeps (c : Prog.Contract Op Res G) (r : Routine Op Res σ ε α)
    (post : Except ε α → σ → G → Prop) (m : σ) (g : G) : Prop :=
  (r m).Keeps c (fun out g => post out.1 out.2 g) g

section Keeps

variable {c : Prog.Contract Op Res G}

theorem Keeps.mono {r : Routine Op Res σ ε α} {post post' : Except ε α → σ → G → Prop} {m : σ}
    {g : G} (h : Keeps c r post m g) (himp : ∀ out m g, post out m g → post' out m g) :
    Keeps c r post' m g :=
  Prog.Keeps.mono h fun out g => himp out.1 out.2 g

theorem Keeps.and {r : Routine Op Res σ ε α} {post post' : Except ε α → σ → G → Prop} {m : σ} {g : G}
    (h : Keeps c r post m g) (h' : Keeps c r post' m g) :
    Keeps c r (fun out m g => post out m g ∧ post' out m g) m g :=
  Prog.Keeps.and h h'

@[simp] theorem keeps_pure (a : α) (post : Except ε α → σ → G → Prop) (m : σ) (g : G) :
    Keeps c (Pure.pure a : Routine Op Res σ ε α) post m g ↔ post (.ok a) m g := Iff.rfl

@[simp] theorem keeps_throw (e : ε) (post : Except ε α → σ → G → Prop) (m : σ) (g : G) :
    Keeps c (MonadExcept.throw e : Routine Op Res σ ε α) post m g ↔ post (.error e) m g := Iff.rfl

@[simp] theorem keeps_perform (op : Op) (post : Except ε (Res op) → σ → G → Prop) (m : σ) (g : G) :
    Keeps c (perform op : Routine Op Res σ ε (Res op)) post m g ↔
      c.admits op g ∧ ∀ reply, c.replies op reply g → post (.ok reply) m (c.next op reply g) :=
  Iff.rfl

@[simp] theorem keeps_read (post : Except ε σ → σ → G → Prop) (m : σ) (g : G) :
    Keeps c (read : Routine Op Res σ ε σ) post m g ↔ post (.ok m) m g := Iff.rfl

@[simp] theorem keeps_modify (f : σ → σ) (post : Except ε Unit → σ → G → Prop) (m : σ) (g : G) :
    Keeps c (modify f : Routine Op Res σ ε Unit) post m g ↔ post (.ok ()) (f m) g := Iff.rfl

/-- What the first part has to establish for the second. -/
def AndThen (c : Prog.Contract Op Res G) (f : α → Routine Op Res σ ε β)
    (post : Except ε β → σ → G → Prop) : Except ε α → σ → G → Prop
  | .ok a, m, g => Keeps c (f a) post m g
  | .error e, m, g => post (.error e) m g

/-- What a guarded part has to establish for its handler. -/
def OrElse (c : Prog.Contract Op Res G) (f : ε → Routine Op Res σ ε α)
    (post : Except ε α → σ → G → Prop) : Except ε α → σ → G → Prop
  | .ok a, m, g => post (.ok a) m g
  | .error e, m, g => Keeps c (f e) post m g

theorem keeps_bind (r : Routine Op Res σ ε α) (f : α → Routine Op Res σ ε β)
    (post : Except ε β → σ → G → Prop) (m : σ) (g : G) :
    Keeps c (r >>= f) post m g ↔ Keeps c r (AndThen c f post) m g := by
  change Prog.Keeps c ((r m).bind _) _ g ↔ _
  rw [Prog.keeps_bind]
  unfold Keeps
  constructor
  · intro h
    refine h.mono ?_
    rintro ⟨result, m⟩ g hout
    cases result <;> exact hout
  · intro h
    refine h.mono ?_
    rintro ⟨result, m⟩ g hout
    cases result <;> exact hout

theorem keeps_tryCatch (r : Routine Op Res σ ε α) (f : ε → Routine Op Res σ ε α)
    (post : Except ε α → σ → G → Prop) (m : σ) (g : G) :
    Keeps c (tryCatchThe ε r f) post m g ↔ Keeps c r (OrElse c f post) m g := by
  change Prog.Keeps c ((r m).bind _) _ g ↔ _
  rw [Prog.keeps_bind]
  unfold Keeps
  constructor
  · intro h
    refine h.mono ?_
    rintro ⟨result, m⟩ g hout
    cases result <;> exact hout
  · intro h
    refine h.mono ?_
    rintro ⟨result, m⟩ g hout
    cases result <;> exact hout

/-- What a loop keeps for its remaining elements, and what an exception that
leaves it keeps. -/
def Loop (inv : List β → σ → G → Prop) (failed : ε → σ → G → Prop) (rest : List β) :
    Except ε Unit → σ → G → Prop
  | .ok _, m, g => inv rest m g
  | .error e, m, g => failed e m g

theorem keeps_forEach (inv : List β → σ → G → Prop) (failed : ε → σ → G → Prop)
    (body : β → Routine Op Res σ ε Unit)
    (hbody : ∀ x rest m g, inv (x :: rest) m g → Keeps c (body x) (Loop inv failed rest) m g)
    (xs : List β) (m : σ) (g : G) (hinv : inv xs m g) :
    Keeps c (forEach xs body) (Loop inv failed []) m g := by
  induction xs generalizing m g with
  | nil => exact hinv
  | cons x rest ih =>
      change Keeps c (body x >>= fun _ => forEach rest body) _ m g
      rw [keeps_bind]
      refine (hbody x rest m g hinv).mono ?_
      intro out m g hout
      cases out with
      | ok a => exact ih m g hout
      | error e => exact hout

end Keeps

end Routine

namespace Prog

variable {Op : Type} {Res : Op → Type} {α β S G : Type}

/-- The store does what the contract expects of it, as long as `rel` relates it
to the ghost. -/
def Honours (handle : Handler Op Res S) (c : Contract Op Res G) (rel : S → G → Prop) : Prop :=
  ∀ op s g, rel s g → c.admits op g →
    c.replies op (handle op s).1 g ∧ rel (handle op s).2 (c.next op (handle op s).1 g)

/-- A program that keeps a contract, on a store that honours it. -/
theorem Keeps.exec {handle : Handler Op Res S} {c : Contract Op Res G} {rel : S → G → Prop}
    (hhonours : Honours handle c rel) {p : Prog Op Res α} {post : α → G → Prop} {s : S} {g : G}
    (hrel : rel s g) (h : p.Keeps c post g) :
    ∃ g', rel (p.exec handle s).2 g' ∧ post (p.exec handle s).1 g' := by
  induction p generalizing s g with
  | done a => exact ⟨g, hrel, h⟩
  | call op next ih =>
      obtain ⟨hreply, hnext⟩ := hhonours op s g hrel h.1
      exact ih _ hnext (h.2 _ hreply)

/-- The contract of a program that is judged by its memory alone. -/
def Contract.any : Contract Op Res Unit := ⟨fun _ _ => True, fun _ _ _ => True, fun _ _ _ => ()⟩

theorem honours_any (handle : Handler Op Res S) :
    Honours handle (Contract.any : Contract Op Res Unit) (fun _ _ => True) :=
  fun _ _ _ _ _ => ⟨trivial, trivial⟩

end Prog

/-- What a routine does to its memory whatever it is answered, it does on every
store. -/
theorem Routine.Keeps.exec_any {Op : Type} {Res : Op → Type} {σ ε α S : Type}
    {r : Routine Op Res σ ε α} {post : Except ε α → σ → Unit → Prop} {m : σ}
    (h : Routine.Keeps Prog.Contract.any r post m ()) (handle : Handler Op Res S) (s : S) :
    post (Routine.exec handle r m s).1 (Routine.exec handle r m s).2.1 () := by
  obtain ⟨⟨⟩, -, hpost⟩ := Prog.Keeps.exec (Prog.honours_any handle) (s := s) trivial h
  exact hpost

end WifiProject.Lib
