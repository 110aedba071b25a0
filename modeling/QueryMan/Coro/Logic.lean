import QueryMan.Coro.Program

/-!
# A program logic for coroutines

`Triple P p Q E`: from a state that satisfies `P`, every run of `p` either returns a value that `Q`
holds of, or raises an exception that `E` holds of. One rule for each way to build a program, a rule
for an operation, and the rule of consequence.

`Keeps I p`: every run of `p` keeps the invariant `I`, however it ends.
-/

namespace Coro

variable {σ : Type} {Op : Type} {Ret : Op → Type} {ε α β : Type} {W : World σ Ret ε}

/-- The postcondition that holds of a return or of a raise. -/
def Post (Q : α → σ → Prop) (E : ε → σ → Prop) : Except ε α → σ → Prop
  | .ok a, s => Q a s
  | .error e, s => E e s

/-- Every run of `p` from a state with `P` ends as `Q` and `E` say. -/
def Triple (W : World σ Ret ε) (P : σ → Prop) (p : Prog Ret ε α) (Q : α → σ → Prop)
    (E : ε → σ → Prop) : Prop :=
  ∀ s s' r, P s → Run W s p s' r → Post Q E r s'

namespace Triple

variable {P P' : σ → Prop} {Q Q' : α → σ → Prop} {E E' : ε → σ → Prop}
  {R : β → σ → Prop} {p : Prog Ret ε α} {f : α → Prog Ret ε β}

/-- The rule of consequence. -/
theorem conseq (h : Triple W P p Q E) (hP : ∀ s, P' s → P s) (hQ : ∀ a s, Q a s → Q' a s)
    (hE : ∀ e s, E e s → E' e s) : Triple W P' p Q' E' := by
  intro s s' r hs hrun
  have hpost := h s s' r (hP s hs) hrun
  cases r with
  | ok a => exact hQ a s' hpost
  | error e => exact hE e s' hpost

theorem weaken_pre (h : Triple W P p Q E) (hP : ∀ s, P' s → P s) : Triple W P' p Q E :=
  h.conseq hP (fun _ _ h => h) fun _ _ h => h

theorem weaken_post (h : Triple W P p Q E) (hQ : ∀ a s, Q a s → Q' a s) : Triple W P p Q' E :=
  h.conseq (fun _ h => h) hQ fun _ _ h => h

theorem weaken_exc (h : Triple W P p Q E) (hE : ∀ e s, E e s → E' e s) : Triple W P p Q E' :=
  h.conseq (fun _ h => h) (fun _ _ h => h) hE

/-- Both postconditions of two triples. -/
theorem and (h : Triple W P p Q E) (h' : Triple W P' p Q' E') :
    Triple W (fun s => P s ∧ P' s) p (fun a s => Q a s ∧ Q' a s) fun e s => E e s ∧ E' e s := by
  intro s s' r hs hrun
  have h₁ := h s s' r hs.1 hrun
  have h₂ := h' s s' r hs.2 hrun
  cases r with
  | ok a => exact ⟨h₁, h₂⟩
  | error e => exact ⟨h₁, h₂⟩

/-- A precondition can be taken apart. -/
theorem of_forall {ι : Sort*} {P : ι → σ → Prop} (h : ∀ i, Triple W (P i) p Q E) :
    Triple W (fun s => ∃ i, P i s) p Q E := by
  rintro s s' r ⟨i, hs⟩ hrun
  exact h i s s' r hs hrun

/-- A precondition of two cases. -/
theorem of_or (h : Triple W P p Q E) (h' : Triple W P' p Q E) :
    Triple W (fun s => P s ∨ P' s) p Q E := by
  rintro s s' r (hs | hs) hrun
  · exact h s s' r hs hrun
  · exact h' s s' r hs hrun

/-- A fact that does not mention the state can be assumed. -/
theorem of_fact {φ : Prop} (h : φ → Triple W P p Q E) : Triple W (fun s => φ ∧ P s) p Q E := by
  rintro s s' r ⟨hφ, hs⟩ hrun
  exact h hφ s s' r hs hrun

theorem done_ok {a : α} : Triple W (Q a) (.done (.ok a)) Q E := by
  intro s s' r hs hrun
  cases hrun
  exact hs

theorem done_error {e : ε} : Triple W (E e) (.done (.error e) : Prog Ret ε α) Q E := by
  intro s s' r hs hrun
  cases hrun
  exact hs

theorem pure {a : α} : Triple W (Q a) (Pure.pure a) Q E :=
  done_ok

theorem throw {e : ε} : Triple W (E e) (MonadExceptOf.throw e : Prog Ret ε α) Q E :=
  done_error

/-- A computation without operations. -/
theorem lift {x : Except ε α} : Triple W (fun s => Post Q E x s) (.lift x) Q E := by
  intro s s' r hs hrun
  cases hrun
  exact hs

/-- An operation: each possible answer must lead to the postcondition. -/
theorem perform {o : Op} {Q : Ret o → σ → Prop}
    (h : ∀ s r, P s → W.allowed s o r → Post Q E r (W.next s o r)) :
    Triple W P (.perform o) Q E := by
  intro s s' r hs hrun
  cases hrun with
  | call hallowed hrun =>
    cases hrun
    exact h s _ hs hallowed

theorem call {o : Op} {k : Except ε (Ret o) → Prog Ret ε α}
    (h : ∀ s r, P s → W.allowed s o r → ∀ s' r', Run W (W.next s o r) (k r) s' r' →
      Post Q E r' s') :
    Triple W P (.call o k) Q E := by
  intro s s' r hs hrun
  cases hrun with
  | call hallowed hrun => exact h s _ hs hallowed s' r hrun

/-- One program after the other. -/
theorem bind (hp : Triple W P p Q E) (hf : ∀ a, Triple W (Q a) (f a) R E) :
    Triple W P (p >>= f) R E := by
  intro s s' r hs hrun
  change Run W s (p.bind f) s' r at hrun
  induction p generalizing s P with
  | done x =>
    have hx := hp s s x hs (.done s x)
    cases x with
    | ok a => exact hf a s s' r hx hrun
    | error e =>
      cases hrun
      exact hx
  | call o k ih =>
    cases hrun with
    | @call _ _ _ _ x _ hallowed hrun =>
      refine ih x (fun t t' y ht hk => ?_) _ rfl hrun
      subst ht
      exact hp s t' y hs (.call hallowed hk)

theorem seq {p : Prog Ret ε Unit} {q : Prog Ret ε β} {Q : σ → Prop}
    (hp : Triple W P p (fun _ => Q) E) (hq : Triple W Q q R E) :
    Triple W P (p >>= fun _ => q) R E :=
  hp.bind fun _ => hq

/-- `except`: the handler starts where an exception left off. -/
theorem tryCatch {h : ε → Prog Ret ε α} (hp : Triple W P p Q E)
    (hh : ∀ e, Triple W (E e) (h e) Q E') : Triple W P (p.tryCatch h) Q E' := by
  intro s s' r hs hrun
  induction p generalizing s P with
  | done x =>
    have hx := hp s s x hs (.done s x)
    cases x with
    | ok a =>
      cases hrun
      exact hx
    | error e => exact hh e s s' r hx hrun
  | call o k ih =>
    cases hrun with
    | @call _ _ _ _ x _ hallowed hrun =>
      refine ih x (fun t t' y ht hk => ?_) _ rfl hrun
      subst ht
      exact hp s t' y hs (.call hallowed hk)

/-- A context manager: the exit starts from either end, and may end with an exception of its own. -/
theorem exitWith {exit : Option ε → Prog Ret ε Unit} {Q₁ : α → σ → Prop} {E₁ : ε → σ → Prop}
    (hp : Triple W P p Q₁ E₁) (hok : ∀ a, Triple W (Q₁ a) (exit none) (fun _ => Q a) E)
    (herror : ∀ e, Triple W (E₁ e) (exit (some e)) (fun _ => E e) E) :
    Triple W P (p.exitWith exit) Q E := by
  intro s s' r hs hrun
  induction p generalizing s P with
  | done x =>
    have hx := hp s s x hs (.done s x)
    cases x with
    | ok a => exact (hok a).bind (fun _ => done_ok) s s' r hx hrun
    | error e => exact (herror e).bind (fun _ => done_error) s s' r hx hrun
  | call o k ih =>
    cases hrun with
    | @call _ _ _ _ x _ hallowed hrun =>
      refine ih x (fun t t' y ht hk => ?_) _ rfl hrun
      subst ht
      exact hp s t' y hs (.call hallowed hk)

/-- `finally`: the final part starts from either end. -/
theorem tryFinally {final : Prog Ret ε Unit} {Q₁ : α → σ → Prop} {E₁ : ε → σ → Prop}
    (hp : Triple W P p Q₁ E₁) (hok : ∀ a, Triple W (Q₁ a) final (fun _ => Q a) E)
    (herror : ∀ e, Triple W (E₁ e) final (fun _ => E e) E) :
    Triple W P (p.tryFinally final) Q E :=
  hp.exitWith hok herror

/-- A choice. -/
theorem ite {c : Prop} [Decidable c] {q : Prog Ret ε α} (hp : c → Triple W P p Q E)
    (hq : ¬ c → Triple W P q Q E) : Triple W P (if c then p else q) Q E := by
  split
  · next h => exact hp h
  · next h => exact hq h

end Triple

/-! ## Invariants -/

/-- Every run of `p` keeps `I`, whether it returns or raises. -/
def Keeps (W : World σ Ret ε) (I : σ → Prop) (p : Prog Ret ε α) : Prop :=
  Triple W I p (fun _ => I) fun _ => I

namespace Keeps

variable {I J : σ → Prop} {p : Prog Ret ε α} {f : α → Prog Ret ε β}

theorem pure {a : α} : Keeps W I (Pure.pure a : Prog Ret ε α) :=
  Triple.pure (Q := fun _ => I)

theorem throw {e : ε} : Keeps W I (MonadExceptOf.throw e : Prog Ret ε α) :=
  Triple.throw (E := fun _ => I)

/-- A computation without operations keeps everything. -/
theorem lift {x : Except ε α} : Keeps W I (.lift x) := by
  intro s s' r hs hrun
  cases hrun
  cases x <;> exact hs

/-- An operation keeps what its answers keep. -/
theorem perform {o : Op} (h : ∀ s r, I s → W.allowed s o r → I (W.next s o r)) :
    Keeps W I (.perform o) :=
  Triple.perform fun s r hs hallowed => by
    cases r <;> exact h s _ hs hallowed

theorem bind (hp : Keeps W I p) (hf : ∀ a, Keeps W I (f a)) : Keeps W I (p >>= f) :=
  Triple.bind hp hf

theorem tryCatch {h : ε → Prog Ret ε α} (hp : Keeps W I p) (hh : ∀ e, Keeps W I (h e)) :
    Keeps W I (p.tryCatch h) :=
  Triple.tryCatch hp hh

theorem exitWith {exit : Option ε → Prog Ret ε Unit} (hp : Keeps W I p)
    (hexit : ∀ raised, Keeps W I (exit raised)) : Keeps W I (p.exitWith exit) :=
  Triple.exitWith hp (fun _ => hexit none) fun e => hexit (some e)

theorem tryFinally {final : Prog Ret ε Unit} (hp : Keeps W I p) (hfinal : Keeps W I final) :
    Keeps W I (p.tryFinally final) :=
  hp.exitWith fun _ => hfinal

theorem ite {c : Prop} [Decidable c] {q : Prog Ret ε α} (hp : Keeps W I p) (hq : Keeps W I q) :
    Keeps W I (if c then p else q) :=
  Triple.ite (fun _ => hp) fun _ => hq

/-- Two invariants together. -/
theorem and (h : Keeps W I p) (h' : Keeps W J p) : Keeps W (fun s => I s ∧ J s) p :=
  Triple.and h h'

end Keeps

/-! ## Exceptions -/

/-- Every exception that `p` ends with is one of `E`. -/
def OnlyRaises (W : World σ Ret ε) (E : ε → Prop) (p : Prog Ret ε α) : Prop :=
  Triple W (fun _ => True) p (fun _ _ => True) fun e _ => E e

namespace OnlyRaises

variable {E : ε → Prop} {p : Prog Ret ε α} {f : α → Prog Ret ε β}

theorem pure {a : α} : OnlyRaises W E (Pure.pure a : Prog Ret ε α) :=
  Triple.pure (Q := fun _ _ => True)

theorem throw {e : ε} (h : E e) : OnlyRaises W E (MonadExceptOf.throw e : Prog Ret ε α) :=
  Triple.throw.weaken_pre fun _ _ => h

theorem lift {x : Except ε α} (h : ∀ e, x = .error e → E e) : OnlyRaises W E (.lift x) := by
  intro s s' r _ hrun
  cases hrun
  cases x with
  | ok a => trivial
  | error e => exact h e rfl

theorem perform {o : Op} (h : ∀ s e, W.allowed s o (.error e) → E e) :
    OnlyRaises W E (.perform o) :=
  Triple.perform fun s r _ hallowed => by
    cases r with
    | ok a => trivial
    | error e => exact h s e hallowed

theorem bind (hp : OnlyRaises W E p) (hf : ∀ a, OnlyRaises W E (f a)) : OnlyRaises W E (p >>= f) :=
  Triple.bind hp hf

/-- Only what the handler raises is left. -/
theorem tryCatch {handler : ε → Prog Ret ε α} {E' : ε → Prop} (hp : OnlyRaises W E' p)
    (hh : ∀ e, E' e → OnlyRaises W E (handler e)) : OnlyRaises W E (p.tryCatch handler) :=
  Triple.tryCatch hp fun e s s' r he => hh e he s s' r trivial

theorem exitWith {exit : Option ε → Prog Ret ε Unit} (hp : OnlyRaises W E p)
    (hexit : ∀ raised, OnlyRaises W E (exit raised)) : OnlyRaises W E (p.exitWith exit) :=
  Triple.exitWith hp (fun _ => hexit none) fun e s s' r he hrun => by
    have hpost := hexit (some e) s s' r trivial hrun
    cases r with
    | ok a => exact he
    | error e' => exact hpost

theorem ite {c : Prop} [Decidable c] {q : Prog Ret ε α} (hp : OnlyRaises W E p)
    (hq : OnlyRaises W E q) : OnlyRaises W E (if c then p else q) :=
  Triple.ite (fun _ => hp) fun _ => hq

end OnlyRaises

/-- The invariant that says nothing. -/
theorem keeps_true (p : Prog Ret ε α) : Keeps W (fun _ => True) p := by
  intro s s' r _ _
  cases r <;> trivial

/-- What every step keeps, every program keeps. -/
theorem keeps_of_step {I : σ → Prop} (h : ∀ s o r, I s → W.allowed s o r → I (W.next s o r))
    (p : Prog Ret ε α) : Keeps W I p := by
  intro s s' r hs hrun
  induction hrun with
  | done s r => cases r <;> exact hs
  | call hallowed _ ih => exact ih (h _ _ _ hs hallowed)

end Coro
