import Mathlib.Data.Nat.Notation

/-!
# Programs that suspend at commands

An asynchronous routine is a tree: it is either done, with a value or an
error, or it is suspended at a command and continues with the answer.  The
answer of a command may itself be an error, which the routine propagates
unless it catches it.  Between two commands a routine touches nothing shared,
so the suspension points are exactly the places where other routines can run.
-/

namespace Interleave

/-- A routine over commands `Cmd`, answered in `Resp`, failing with `Err`. -/
inductive Program (Cmd : Type) (Resp : Cmd → Type) (Err α : Type) : Type
  | done (result : Except Err α)
  | call (cmd : Cmd) (next : Except Err (Resp cmd) → Program Cmd Resp Err α)

namespace Program

variable {Cmd : Type} {Resp : Cmd → Type} {Err α β : Type}

def bind (p : Program Cmd Resp Err α) (f : α → Program Cmd Resp Err β) :
    Program Cmd Resp Err β :=
  match p with
  | done (.ok a) => f a
  | done (.error e) => done (.error e)
  | call cmd next => call cmd fun r => (next r).bind f

/-- Handle an error of `p`. -/
def handle (p : Program Cmd Resp Err α) (f : Err → Program Cmd Resp Err α) :
    Program Cmd Resp Err α :=
  match p with
  | done (.ok a) => done (.ok a)
  | done (.error e) => f e
  | call cmd next => call cmd fun r => (next r).handle f

/-- Run `q` after `p`, whatever the outcome of `p`; an error of `q` replaces
that outcome. -/
def andFinally (p : Program Cmd Resp Err α) (q : Program Cmd Resp Err Unit) :
    Program Cmd Resp Err α :=
  match p with
  | done (.ok a) => q.bind fun _ => done (.ok a)
  | done (.error e) => q.bind fun _ => done (.error e)
  | call cmd next => call cmd fun r => (next r).andFinally q

instance : Monad (Program Cmd Resp Err) where
  pure a := done (.ok a)
  bind := bind

instance : MonadExceptOf Err (Program Cmd Resp Err) where
  throw e := done (.error e)
  tryCatch := handle

theorem bind_assoc {γ : Type} (p : Program Cmd Resp Err α) (f : α → Program Cmd Resp Err β)
    (g : β → Program Cmd Resp Err γ) : (p >>= f) >>= g = p >>= fun a => f a >>= g := by
  change (p.bind f).bind g = p.bind fun a => (f a).bind g
  induction p with
  | done r => cases r <;> rfl
  | call cmd next ih =>
      simp only [Program.bind]
      congr 1
      funext answer
      exact ih answer

def request (cmd : Cmd) : Program Cmd Resp Err (Resp cmd) :=
  call cmd done

/-- Run `f` on every element, in order, and collect the results. -/
def forEach (f : α → Program Cmd Resp Err β) : List α → Program Cmd Resp Err (List β)
  | [] => pure []
  | a :: as => do
    let b ← f a
    let bs ← forEach f as
    pure (b :: bs)

end Program

end Interleave
