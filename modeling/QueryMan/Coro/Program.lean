import Mathlib.Data.List.Basic
import Mathlib.Tactic.Common

/-!
# Coroutines and their worlds

A program that calls operations of its environment, one after the other, and may fail: a `Prog` is
either done, with a value or an exception, or calls an operation and goes on with the answer, which
is a value or an exception again. `try`/`except` (`Prog.tryCatch`), context managers
(`Prog.exitWith`) and `try`/`finally` (`Prog.tryFinally`) are functions on programs.

A `World` says which answers are possible in a state, and what state follows. `Run` is a complete
run of a program in a world, and `play` the run in which a given function makes the answers.
-/

namespace Coro

/-- A program over the operations that `Ret` is indexed by. -/
inductive Prog {Op : Type} (Ret : Op → Type) (ε α : Type) : Type where
  /-- The program returns or raises. -/
  | done (r : Except ε α)
  /-- The program calls an operation and goes on with the answer. -/
  | call (o : Op) (k : Except ε (Ret o) → Prog Ret ε α)

namespace Prog

variable {Op : Type} {Ret : Op → Type} {ε α β : Type}

/-- Go on with the value that a program returns. -/
def bind (f : α → Prog Ret ε β) : Prog Ret ε α → Prog Ret ε β
  | done (.ok a) => f a
  | done (.error e) => done (.error e)
  | call o k => call o fun r => (k r).bind f

instance : Monad (Prog Ret ε) where
  pure a := done (.ok a)
  bind p f := p.bind f

/-- `try: … except`: the handler takes over from an exception. -/
def tryCatch (h : ε → Prog Ret ε α) : Prog Ret ε α → Prog Ret ε α
  | done (.ok a) => done (.ok a)
  | done (.error e) => h e
  | call o k => call o fun r => (k r).tryCatch h

instance : MonadExceptOf ε (Prog Ret ε) where
  throw e := done (.error e)
  tryCatch p h := p.tryCatch h

/-- A context manager around a program: the exit runs in any case, sees the exception if there is
one, and only an exception of its own changes how the program ends. -/
def exitWith : Prog Ret ε α → (Option ε → Prog Ret ε Unit) → Prog Ret ε α
  | done (.ok a), exit => (exit none).bind fun _ => done (.ok a)
  | done (.error e), exit => (exit (some e)).bind fun _ => done (.error e)
  | call o k, exit => call o fun r => (k r).exitWith exit

/-- `try: … finally`: the final part runs in any case. -/
def tryFinally (p : Prog Ret ε α) (final : Prog Ret ε Unit) : Prog Ret ε α :=
  p.exitWith fun _ => final

/-- Call one operation. -/
def perform (o : Op) : Prog Ret ε (Ret o) :=
  call o done

/-- Return or raise what a computation without operations gives. -/
def lift (r : Except ε α) : Prog Ret ε α :=
  done r

theorem lift_ok_bind (a : α) (f : α → Prog Ret ε β) :
    ((lift (.ok a) : Prog Ret ε α) >>= f) = f a := rfl

end Prog

/-- What the environment may answer in a state, and what state follows. -/
structure World (σ : Type) {Op : Type} (Ret : Op → Type) (ε : Type) where
  allowed : σ → (o : Op) → Except ε (Ret o) → Prop
  next : σ → (o : Op) → Except ε (Ret o) → σ

variable {σ : Type} {Op : Type} {Ret : Op → Type} {ε α β : Type}

/-- The world in which every step meets a further condition. -/
def World.restrict (W : World σ Ret ε) (meets : σ → (o : Op) → Except ε (Ret o) → Prop) :
    World σ Ret ε where
  allowed := fun s o r => W.allowed s o r ∧ meets s o r
  next := W.next

/-- A complete run of a program: it starts in a state, ends in a state, and returns or raises. -/
inductive Run (W : World σ Ret ε) : σ → Prog Ret ε α → σ → Except ε α → Prop where
  | done (s : σ) (r : Except ε α) : Run W s (.done r) s r
  | call {s s' : σ} {o : Op} {k : Except ε (Ret o) → Prog Ret ε α} {r : Except ε (Ret o)}
      {r' : Except ε α} (hallowed : W.allowed s o r) (hrun : Run W (W.next s o r) (k r) s' r') :
      Run W s (.call o k) s' r'

/-- A run of a restricted world is a run of the world. -/
theorem Run.of_restrict {W : World σ Ret ε} {meets : σ → (o : Op) → Except ε (Ret o) → Prop}
    {s s' : σ} {p : Prog Ret ε α} {r : Except ε α} (h : Run (W.restrict meets) s p s' r) :
    Run W s p s' r := by
  induction p generalizing s with
  | done x =>
    cases h
    exact .done _ _
  | call o k ih =>
    cases h with
    | @call _ _ _ _ x _ hallowed hrun => exact .call hallowed.1 (ih x hrun)

/-- The run in which `answer` makes the answers. -/
def play (W : World σ Ret ε) (answer : σ → (o : Op) → Except ε (Ret o)) :
    Prog Ret ε α → σ → σ × Except ε α
  | .done r, s => (s, r)
  | .call o k, s => play W answer (k (answer s o)) (W.next s o (answer s o))

/-- Playing is running, if the answers are possible. -/
theorem run_play {W : World σ Ret ε} {answer : σ → (o : Op) → Except ε (Ret o)}
    (h : ∀ s o, W.allowed s o (answer s o)) (p : Prog Ret ε α) (s : σ) :
    Run W s p (play W answer p s).1 (play W answer p s).2 := by
  induction p generalizing s with
  | done r => exact .done s r
  | call o k ih => exact .call (h s o) (ih (answer s o) (W.next s o (answer s o)))

end Coro
