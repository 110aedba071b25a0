import QueryMan.Coro.Logic

/-!
# Safe programs

`Prog.Safe V Q E p s`: whatever the environment does, `p` calls from the state `s` on each operation
within its gate, and ends as `Q` and `E` say. Other than a `Triple`, which is about complete runs,
it speaks about every operation on the way, so that it also says what holds of a program that is
still running. An operation may find the state changed since the one before it: the view says how.

Each way to build a program has an equivalence for `Prog.Safe` and a rule for `SafeTriple`.
-/

namespace Coro

/-- How a program sees a state that it shares: the states in which an operation may find it, the
gate of an operation, and what the operation answers and does. -/
structure View (σ : Type) {Op : Type} (Ret : Op → Type) (ε : Type) where
  resumes : σ → Op → σ → Prop
  gate : σ → Op → Prop
  step : σ → (o : Op) → Except ε (Ret o) → σ → Prop

variable {σ : Type} {Op : Type} {Ret : Op → Type} {ε α β : Type} {V : View σ Ret ε}

/-- Every operation of the program is called within its gate, and the program ends as `Q` and `E`
say. -/
def Prog.Safe (V : View σ Ret ε) (Q : α → σ → Prop) (E : ε → σ → Prop) : Prog Ret ε α → σ → Prop
  | .done (.ok a), s => Q a s
  | .done (.error e), s => E e s
  | .call o k, s =>
    ∀ s₁, V.resumes s o s₁ → V.gate s₁ o ∧ ∀ r s', V.step s₁ o r s' → (k r).Safe V Q E s'

namespace Prog.Safe

variable {Q Q' : α → σ → Prop} {E E' : ε → σ → Prop} {R : β → σ → Prop} {s : σ}

theorem mono {p : Prog Ret ε α} (h : p.Safe V Q E s) (hQ : ∀ a s, Q a s → Q' a s)
    (hE : ∀ e s, E e s → E' e s) : p.Safe V Q' E' s := by
  induction p generalizing s with
  | done r =>
    cases r with
    | ok a => exact hQ a s h
    | error e => exact hE e s h
  | call o k ih =>
    intro s₁ hresumes
    obtain ⟨hgate, hstep⟩ := h s₁ hresumes
    exact ⟨hgate, fun r s' hr => ih r (hstep r s' hr)⟩

/-- The continuation starts where the program returns. -/
theorem bind {p : Prog Ret ε α} {f : α → Prog Ret ε β}
    (h : p.Safe V (fun a => (f a).Safe V R E) E s) : (p.bind f).Safe V R E s := by
  induction p generalizing s with
  | done r => cases r <;> exact h
  | call o k ih =>
    intro s₁ hresumes
    obtain ⟨hgate, hstep⟩ := h s₁ hresumes
    exact ⟨hgate, fun r s' hr => ih r (hstep r s' hr)⟩

/-- The handler starts where the program raises. -/
theorem tryCatch {p : Prog Ret ε α} {handler : ε → Prog Ret ε α}
    (h : p.Safe V Q (fun e => (handler e).Safe V Q E) s) : (p.tryCatch handler).Safe V Q E s := by
  induction p generalizing s with
  | done r => cases r <;> exact h
  | call o k ih =>
    intro s₁ hresumes
    obtain ⟨hgate, hstep⟩ := h s₁ hresumes
    exact ⟨hgate, fun r s' hr => ih r (hstep r s' hr)⟩

/-- The exit of a context manager starts from either end. -/
theorem exitWith {p : Prog Ret ε α} {exit : Option ε → Prog Ret ε Unit}
    (h : p.Safe V (fun a => (exit none).Safe V (fun _ => Q a) E)
      (fun e => (exit (some e)).Safe V (fun _ => E e) E) s) : (p.exitWith exit).Safe V Q E s := by
  induction p generalizing s with
  | done r =>
    cases r with
    | ok a => exact bind (R := Q) h
    | error e => exact bind (R := Q) h
  | call o k ih =>
    intro s₁ hresumes
    obtain ⟨hgate, hstep⟩ := h s₁ hresumes
    exact ⟨hgate, fun r s' hr => ih r (hstep r s' hr)⟩

end Prog.Safe

/-! ## Rules -/

/-- From every state with `P` on, the program is safe. -/
def SafeTriple (V : View σ Ret ε) (P : σ → Prop) (p : Prog Ret ε α) (Q : α → σ → Prop)
    (E : ε → σ → Prop) : Prop :=
  ∀ s, P s → p.Safe V Q E s

namespace SafeTriple

variable {P P' : σ → Prop} {Q Q' : α → σ → Prop} {E E' : ε → σ → Prop} {R : β → σ → Prop}
  {p : Prog Ret ε α} {f : α → Prog Ret ε β}

theorem conseq (h : SafeTriple V P p Q E) (hP : ∀ s, P' s → P s) (hQ : ∀ a s, Q a s → Q' a s)
    (hE : ∀ e s, E e s → E' e s) : SafeTriple V P' p Q' E' :=
  fun s hs => (h s (hP s hs)).mono hQ hE

theorem weaken_pre (h : SafeTriple V P p Q E) (hP : ∀ s, P' s → P s) : SafeTriple V P' p Q E :=
  fun s hs => h s (hP s hs)

theorem weaken_post (h : SafeTriple V P p Q E) (hQ : ∀ a s, Q a s → Q' a s) :
    SafeTriple V P p Q' E :=
  h.conseq (fun _ h => h) hQ fun _ _ h => h

theorem weaken_exc (h : SafeTriple V P p Q E) (hE : ∀ e s, E e s → E' e s) :
    SafeTriple V P p Q E' :=
  h.conseq (fun _ h => h) (fun _ _ h => h) hE

/-- A fact that does not mention the state can be assumed. -/
theorem of_fact {φ : Prop} (h : φ → SafeTriple V P p Q E) :
    SafeTriple V (fun s => φ ∧ P s) p Q E :=
  fun s hs => h hs.1 s hs.2

/-- A fact that does not mention the state stays. -/
theorem frame_fact {φ : Prop} (h : SafeTriple V P p Q E) :
    SafeTriple V (fun s => P s ∧ φ) p (fun a s => Q a s ∧ φ) E :=
  fun s hs => (h s hs.1).mono (fun _ _ h => ⟨h, hs.2⟩) fun _ _ h => h

/-- A precondition can be taken apart. -/
theorem of_exists {ι : Sort*} {P : ι → σ → Prop} (h : ∀ i, SafeTriple V (P i) p Q E) :
    SafeTriple V (fun s => ∃ i, P i s) p Q E :=
  fun s ⟨i, hs⟩ => h i s hs

theorem pure {a : α} : SafeTriple V (Q a) (Pure.pure a) Q E :=
  fun _ hs => hs

theorem throw {e : ε} : SafeTriple V (E e) (MonadExceptOf.throw e : Prog Ret ε α) Q E :=
  fun _ hs => hs

/-- A computation without operations. -/
theorem lift {x : Except ε α} : SafeTriple V (fun s => Post Q E x s) (.lift x) Q E := by
  intro s hs
  cases x <;> exact hs

/-- An operation: the gate holds where it is performed, and each answer leads to the
postcondition. -/
theorem perform {o : Op} {Q : Ret o → σ → Prop}
    (h : ∀ s s₁, P s → V.resumes s o s₁ →
      V.gate s₁ o ∧ ∀ r s', V.step s₁ o r s' → Post Q E r s') :
    SafeTriple V P (.perform o) Q E := by
  intro s hs s₁ hresumes
  obtain ⟨hgate, hstep⟩ := h s s₁ hs hresumes
  refine ⟨hgate, fun r s' hr => ?_⟩
  have hpost := hstep r s' hr
  cases r <;> exact hpost

/-- One program after the other. -/
theorem bind (hp : SafeTriple V P p Q E) (hf : ∀ a, SafeTriple V (Q a) (f a) R E) :
    SafeTriple V P (p >>= f) R E :=
  fun s hs => Prog.Safe.bind ((hp s hs).mono (fun a s h => hf a s h) fun _ _ h => h)

/-- `except`: the handler starts where an exception left off. -/
theorem tryCatch {handler : ε → Prog Ret ε α} (hp : SafeTriple V P p Q E)
    (hh : ∀ e, SafeTriple V (E e) (handler e) Q E') : SafeTriple V P (p.tryCatch handler) Q E' :=
  fun s hs => Prog.Safe.tryCatch ((hp s hs).mono (fun _ _ h => h) fun e s h => hh e s h)

/-- A context manager: the exit starts from either end, and may end with an exception of its own. -/
theorem exitWith {exit : Option ε → Prog Ret ε Unit} {Q₁ : α → σ → Prop} {E₁ : ε → σ → Prop}
    (hp : SafeTriple V P p Q₁ E₁) (hok : ∀ a, SafeTriple V (Q₁ a) (exit none) (fun _ => Q a) E)
    (herror : ∀ e, SafeTriple V (E₁ e) (exit (some e)) (fun _ => E e) E) :
    SafeTriple V P (p.exitWith exit) Q E :=
  fun s hs => Prog.Safe.exitWith ((hp s hs).mono (fun a s h => hok a s h) fun e s h => herror e s h)

/-- `finally`: the final part starts from either end. -/
theorem tryFinally {final : Prog Ret ε Unit} {Q₁ : α → σ → Prop} {E₁ : ε → σ → Prop}
    (hp : SafeTriple V P p Q₁ E₁) (hok : ∀ a, SafeTriple V (Q₁ a) final (fun _ => Q a) E)
    (herror : ∀ e, SafeTriple V (E₁ e) final (fun _ => E e) E) :
    SafeTriple V P (p.tryFinally final) Q E :=
  hp.exitWith hok herror

/-- A choice. -/
theorem ite {c : Prop} [Decidable c] {q : Prog Ret ε α} (hp : c → SafeTriple V P p Q E)
    (hq : ¬ c → SafeTriple V P q Q E) : SafeTriple V P (if c then p else q) Q E := by
  split
  · next h => exact hp h
  · next h => exact hq h

end SafeTriple

/-- The program keeps `I`, whether it returns or raises. -/
def SafeKeeps (V : View σ Ret ε) (I : σ → Prop) (p : Prog Ret ε α) : Prop :=
  SafeTriple V I p (fun _ => I) fun _ => I

namespace SafeKeeps

variable {I : σ → Prop} {p : Prog Ret ε α} {f : α → Prog Ret ε β}

theorem pure {a : α} : SafeKeeps V I (Pure.pure a : Prog Ret ε α) :=
  SafeTriple.pure (Q := fun _ => I)

theorem throw {e : ε} : SafeKeeps V I (MonadExceptOf.throw e : Prog Ret ε α) :=
  SafeTriple.throw (E := fun _ => I)

theorem lift {x : Except ε α} : SafeKeeps V I (.lift x) := by
  intro s hs
  cases x <;> exact hs

theorem bind (hp : SafeKeeps V I p) (hf : ∀ a, SafeKeeps V I (f a)) : SafeKeeps V I (p >>= f) :=
  SafeTriple.bind hp hf

theorem tryCatch {handler : ε → Prog Ret ε α} (hp : SafeKeeps V I p)
    (hh : ∀ e, SafeKeeps V I (handler e)) : SafeKeeps V I (p.tryCatch handler) :=
  SafeTriple.tryCatch hp hh

theorem exitWith {exit : Option ε → Prog Ret ε Unit} (hp : SafeKeeps V I p)
    (hexit : ∀ raised, SafeKeeps V I (exit raised)) : SafeKeeps V I (p.exitWith exit) :=
  SafeTriple.exitWith hp (fun _ => hexit none) fun e => hexit (some e)

theorem tryFinally {final : Prog Ret ε Unit} (hp : SafeKeeps V I p) (hfinal : SafeKeeps V I final) :
    SafeKeeps V I (p.tryFinally final) :=
  hp.exitWith fun _ => hfinal

theorem ite {c : Prop} [Decidable c] {q : Prog Ret ε α} (hp : SafeKeeps V I p)
    (hq : SafeKeeps V I q) : SafeKeeps V I (if c then p else q) :=
  SafeTriple.ite (fun _ => hp) fun _ => hq

end SafeKeeps

end Coro
