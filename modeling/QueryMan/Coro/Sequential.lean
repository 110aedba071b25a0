import QueryMan.Coro.Safe

/-!
# Undisturbed programs

A program that nobody disturbs runs as in the world of its own state. The first part takes a run of
a composed program apart. The second runs a program inside another one, by saying how each of its
operations is carried out (`Prog.interpret`): where the state that the operations are about changes
only by them, the program makes a run of its own world (`Prog.Safe.interpret`).
-/

namespace Coro

section Inversion

variable {σ : Type} {Op : Type} {Ret : Op → Type} {ε α β : Type} {W : World σ Ret ε} {s s' : σ}

theorem run_done {r r' : Except ε α} :
    Run W s (.done r : Prog Ret ε α) s' r' ↔ s' = s ∧ r' = r := by
  constructor
  · intro h
    cases h
    exact ⟨rfl, rfl⟩
  · rintro ⟨rfl, rfl⟩
    exact .done _ _

theorem run_pure {a : α} {r : Except ε α} :
    Run W s (pure a : Prog Ret ε α) s' r ↔ s' = s ∧ r = .ok a :=
  run_done

theorem run_throw {e : ε} {r : Except ε α} :
    Run W s (MonadExceptOf.throw e : Prog Ret ε α) s' r ↔ s' = s ∧ r = .error e :=
  run_done

theorem run_lift {x r : Except ε α} : Run W s (.lift x : Prog Ret ε α) s' r ↔ s' = s ∧ r = x :=
  run_done

theorem run_call {o : Op} {k : Except ε (Ret o) → Prog Ret ε α} {r : Except ε α} :
    Run W s (.call o k) s' r ↔
      ∃ answer, W.allowed s o answer ∧ Run W (W.next s o answer) (k answer) s' r := by
  constructor
  · intro h
    cases h with
    | call hallowed hrun => exact ⟨_, hallowed, hrun⟩
  · rintro ⟨answer, hallowed, hrun⟩
    exact .call hallowed hrun

theorem run_perform {o : Op} {r : Except ε (Ret o)} :
    Run W s (.perform o) s' r ↔ W.allowed s o r ∧ s' = W.next s o r := by
  rw [Prog.perform, run_call]
  constructor
  · rintro ⟨answer, hallowed, hrun⟩
    obtain ⟨rfl, rfl⟩ := run_done.1 hrun
    exact ⟨hallowed, rfl⟩
  · rintro ⟨hallowed, rfl⟩
    exact ⟨r, hallowed, .done _ _⟩

/-- A sequence: the first program returns and the second goes on, or the first one raises. -/
theorem run_bind {p : Prog Ret ε α} {f : α → Prog Ret ε β} {r : Except ε β} :
    Run W s (p >>= f) s' r ↔
      (∃ a s₁, Run W s p s₁ (.ok a) ∧ Run W s₁ (f a) s' r) ∨
        ∃ e, Run W s p s' (.error e) ∧ r = .error e := by
  change Run W s (p.bind f) s' r ↔ _
  induction p generalizing s with
  | done x =>
    cases x with
    | ok a =>
      constructor
      · exact fun h => .inl ⟨a, s, .done _ _, h⟩
      · rintro (⟨a', s₁, hp, hf⟩ | ⟨e, hp, -⟩)
        · obtain ⟨rfl, heq⟩ := run_done.1 hp
          cases heq
          exact hf
        · cases (run_done.1 hp).2
    | error e =>
      constructor
      · intro h
        obtain ⟨rfl, rfl⟩ := run_done.1 h
        exact .inr ⟨e, .done _ _, rfl⟩
      · rintro (⟨a', s₁, hp, -⟩ | ⟨e', hp, rfl⟩)
        · cases (run_done.1 hp).2
        · obtain ⟨rfl, heq⟩ := run_done.1 hp
          cases heq
          exact .done _ _
  | call o k ih =>
    rw [Prog.bind, run_call]
    simp only [run_call, ih]
    constructor
    · rintro ⟨answer, hallowed, ⟨a, s₁, hp, hf⟩ | ⟨e, hp, rfl⟩⟩
      · exact .inl ⟨a, s₁, ⟨answer, hallowed, hp⟩, hf⟩
      · exact .inr ⟨e, ⟨answer, hallowed, hp⟩, rfl⟩
    · rintro (⟨a, s₁, ⟨answer, hallowed, hp⟩, hf⟩ | ⟨e, ⟨answer, hallowed, hp⟩, rfl⟩)
      · exact ⟨answer, hallowed, .inl ⟨a, s₁, hp, hf⟩⟩
      · exact ⟨answer, hallowed, .inr ⟨e, hp, rfl⟩⟩

/-- A sequence that returns: both programs do. -/
theorem run_bind_ok {p : Prog Ret ε α} {f : α → Prog Ret ε β} {b : β} :
    Run W s (p >>= f) s' (.ok b) ↔ ∃ a s₁, Run W s p s₁ (.ok a) ∧ Run W s₁ (f a) s' (.ok b) := by
  rw [run_bind]
  constructor
  · exact fun h => h.resolve_right fun ⟨_, _, heq⟩ => nomatch heq
  · exact Or.inl

/-- A sequence in a sequence. -/
theorem run_bind_assoc {γ : Type} {p : Prog Ret ε α} {f : α → Prog Ret ε β} {g : β → Prog Ret ε γ}
    {r : Except ε γ} :
    Run W s (p >>= f >>= g) s' r ↔ Run W s (p >>= fun a => f a >>= g) s' r := by
  have hassoc : (p.bind f).bind g = p.bind fun a => (f a).bind g := by
    induction p with
    | done r => cases r <;> rfl
    | call o k ih => exact congrArg (Prog.call o) (funext ih)
  change Run W s ((p.bind f).bind g) s' r ↔ _
  rw [hassoc]
  rfl

/-- `except`: the program returns, or the handler goes on from its exception. -/
theorem run_tryCatch {p : Prog Ret ε α} {handler : ε → Prog Ret ε α} {r : Except ε α} :
    Run W s (p.tryCatch handler) s' r ↔
      (∃ a, Run W s p s' (.ok a) ∧ r = .ok a) ∨
        ∃ e s₁, Run W s p s₁ (.error e) ∧ Run W s₁ (handler e) s' r := by
  induction p generalizing s with
  | done x =>
    cases x with
    | ok a =>
      constructor
      · intro h
        obtain ⟨rfl, rfl⟩ := run_done.1 h
        exact .inl ⟨a, .done _ _, rfl⟩
      · rintro (⟨a', hp, rfl⟩ | ⟨e, s₁, hp, -⟩)
        · obtain ⟨rfl, heq⟩ := run_done.1 hp
          cases heq
          exact .done _ _
        · cases (run_done.1 hp).2
    | error e =>
      constructor
      · exact fun h => .inr ⟨e, s, .done _ _, h⟩
      · rintro (⟨a', hp, -⟩ | ⟨e', s₁, hp, hh⟩)
        · cases (run_done.1 hp).2
        · obtain ⟨rfl, heq⟩ := run_done.1 hp
          cases heq
          exact hh
  | call o k ih =>
    rw [Prog.tryCatch, run_call]
    simp only [run_call, ih]
    constructor
    · rintro ⟨answer, hallowed, ⟨a, hp, rfl⟩ | ⟨e, s₁, hp, hh⟩⟩
      · exact .inl ⟨a, ⟨answer, hallowed, hp⟩, rfl⟩
      · exact .inr ⟨e, s₁, ⟨answer, hallowed, hp⟩, hh⟩
    · rintro (⟨a, ⟨answer, hallowed, hp⟩, rfl⟩ | ⟨e, s₁, ⟨answer, hallowed, hp⟩, hh⟩)
      · exact ⟨answer, hallowed, .inl ⟨a, hp, rfl⟩⟩
      · exact ⟨answer, hallowed, .inr ⟨e, s₁, hp, hh⟩⟩

/-- A context manager: the exit runs after a return or an exception, and may raise one of its own.
-/
theorem run_exitWith {p : Prog Ret ε α} {exit : Option ε → Prog Ret ε Unit} {r : Except ε α} :
    Run W s (p.exitWith exit) s' r ↔
      (∃ a s₁, Run W s p s₁ (.ok a) ∧ ((Run W s₁ (exit none) s' (.ok ()) ∧ r = .ok a) ∨
        ∃ e, Run W s₁ (exit none) s' (.error e) ∧ r = .error e)) ∨
      ∃ e s₁, Run W s p s₁ (.error e) ∧ ((Run W s₁ (exit (some e)) s' (.ok ()) ∧ r = .error e) ∨
        ∃ e', Run W s₁ (exit (some e)) s' (.error e') ∧ r = .error e') := by
  have hexit : ∀ {raised : Option ε} {x : Except ε α} {s : σ},
      Run W s ((exit raised).bind fun _ => .done x) s' r ↔
        (Run W s (exit raised) s' (.ok ()) ∧ r = x) ∨
          ∃ e, Run W s (exit raised) s' (.error e) ∧ r = .error e := by
    intro raised x s
    refine run_bind.trans (or_congr_left ⟨?_, fun ⟨hrun, heq⟩ => ⟨(), s', hrun, heq ▸ .done _ _⟩⟩)
    rintro ⟨⟨⟩, s₁, hrun, hdone⟩
    obtain ⟨rfl, rfl⟩ := run_done.1 hdone
    exact ⟨hrun, rfl⟩
  induction p generalizing s with
  | done x =>
    cases x with
    | ok a =>
      constructor
      · exact fun h => .inl ⟨a, s, .done _ _, hexit.1 h⟩
      · rintro (⟨a', s₁, hp, h⟩ | ⟨e, s₁, hp, -⟩)
        · obtain ⟨rfl, heq⟩ := run_done.1 hp
          cases heq
          exact hexit.2 h
        · cases (run_done.1 hp).2
    | error e =>
      constructor
      · exact fun h => .inr ⟨e, s, .done _ _, hexit.1 h⟩
      · rintro (⟨a', s₁, hp, -⟩ | ⟨e', s₁, hp, h⟩)
        · cases (run_done.1 hp).2
        · obtain ⟨rfl, heq⟩ := run_done.1 hp
          cases heq
          exact hexit.2 h
  | call o k ih =>
    rw [Prog.exitWith, run_call]
    simp only [run_call, ih]
    constructor
    · rintro ⟨answer, hallowed, ⟨a, s₁, hp, h⟩ | ⟨e, s₁, hp, h⟩⟩
      · exact .inl ⟨a, s₁, ⟨answer, hallowed, hp⟩, h⟩
      · exact .inr ⟨e, s₁, ⟨answer, hallowed, hp⟩, h⟩
    · rintro (⟨a, s₁, ⟨answer, hallowed, hp⟩, h⟩ | ⟨e, s₁, ⟨answer, hallowed, hp⟩, h⟩)
      · exact ⟨answer, hallowed, .inl ⟨a, s₁, hp, h⟩⟩
      · exact ⟨answer, hallowed, .inr ⟨e, s₁, hp, h⟩⟩

end Inversion

/-! ## Programs inside programs -/

namespace Prog

variable {Op Op' : Type} {Ret : Op → Type} {Ret' : Op' → Type} {ε α β : Type}

/-- Go on with the way that a program ends. -/
def bindResult (p : Prog Ret ε α) (f : Except ε α → Prog Ret ε β) : Prog Ret ε β :=
  match p with
  | done r => f r
  | call o k => call o fun r => (k r).bindResult f

/-- A final part that sees how the program ends, and does not change it. -/
def finallyWith (p : Prog Ret ε α) (final : Except ε α → Prog Ret ε Unit) : Prog Ret ε α :=
  p.bindResult fun r => final r >>= fun _ => lift r

/-- Carry out each operation of a program by a program. -/
def interpret (carry : (o : Op) → Prog Ret' ε (Ret o)) : Prog Ret ε α → Prog Ret' ε α
  | done r => done r
  | call o k => (carry o).bindResult fun r => (k r).interpret carry

end Prog

section Results

variable {σ : Type} {Op : Type} {Ret : Op → Type} {ε α β : Type} {W : World σ Ret ε} {s s' : σ}

theorem run_bindResult {p : Prog Ret ε α} {f : Except ε α → Prog Ret ε β} {r : Except ε β} :
    Run W s (p.bindResult f) s' r ↔ ∃ x s₁, Run W s p s₁ x ∧ Run W s₁ (f x) s' r := by
  induction p generalizing s with
  | done x =>
    constructor
    · exact fun h => ⟨x, s, .done _ _, h⟩
    · rintro ⟨x', s₁, hp, hf⟩
      obtain ⟨rfl, rfl⟩ := run_done.1 hp
      exact hf
  | call o k ih =>
    rw [Prog.bindResult, run_call]
    simp only [run_call, ih]
    constructor
    · rintro ⟨answer, hallowed, x, s₁, hp, hf⟩
      exact ⟨x, s₁, ⟨answer, hallowed, hp⟩, hf⟩
    · rintro ⟨x, s₁, ⟨answer, hallowed, hp⟩, hf⟩
      exact ⟨answer, hallowed, x, s₁, hp, hf⟩

variable {V : View σ Ret ε} {Q : β → σ → Prop} {E : ε → σ → Prop}

/-- The continuation starts from either end of the program. -/
theorem Prog.Safe.bindResult {p : Prog Ret ε α} {f : Except ε α → Prog Ret ε β}
    (h : p.Safe V (fun a => (f (.ok a)).Safe V Q E) (fun e => (f (.error e)).Safe V Q E) s) :
    (p.bindResult f).Safe V Q E s := by
  induction p generalizing s with
  | done r => cases r <;> exact h
  | call o k ih =>
    intro s₁ hresumes
    obtain ⟨hgate, hstep⟩ := h s₁ hresumes
    exact ⟨hgate, fun r s' hr => ih r (hstep r s' hr)⟩

/-- The final part starts from either end. -/
theorem Prog.Safe.finallyWith {Q : α → σ → Prop} {p : Prog Ret ε α}
    {final : Except ε α → Prog Ret ε Unit}
    (h : p.Safe V (fun a => (final (.ok a)).Safe V (fun _ => Q a) E)
      (fun e => (final (.error e)).Safe V (fun _ => E e) E) s) :
        (p.finallyWith final).Safe V Q E s :=
  bindResult (h.mono (fun _ _ h => Prog.Safe.bind h) fun _ _ h => Prog.Safe.bind h)

end Results

section Interpret

variable {σ τ : Type} {Op Op' : Type} {Ret : Op → Type} {Ret' : Op' → Type} {ε α : Type}
  {V : View σ Ret' ε} {W : World τ Ret ε}

/-- How an operation of an undisturbed program ends: it has the state to itself, and has moved it as
its world says. -/
def Carried (W : World τ Ret ε) (own : σ → Prop) (proj : σ → τ) (t : τ) (o : Op)
    (r : Except ε (Ret o)) (s : σ) : Prop :=
  own s ∧ W.allowed t o r ∧ proj s = W.next t o r

/-- **An undisturbed program runs as in its own world.** -/
theorem Prog.Safe.interpret {carry : (o : Op) → Prog Ret' ε (Ret o)} {own : σ → Prop} {proj : σ → τ}
    (hcarry : ∀ o s, own s → (carry o).Safe V (fun a => Carried W own proj (proj s) o (.ok a))
      (fun e => Carried W own proj (proj s) o (.error e)) s)
    (p : Prog Ret ε α) {s : σ} (hown : own s) :
    (p.interpret carry).Safe V (fun a s' => own s' ∧ Run W (proj s) p (proj s') (.ok a))
      (fun e s' => own s' ∧ Run W (proj s) p (proj s') (.error e)) s := by
  induction p generalizing s with
  | done r =>
    cases r with
    | ok a => exact ⟨hown, .done _ _⟩
    | error e => exact ⟨hown, .done _ _⟩
  | call o k ih =>
    have hnext : ∀ r s₁, Carried W own proj (proj s) o r s₁ →
        ((k r).interpret carry).Safe V
          (fun a s' => own s' ∧ Run W (proj s) (.call o k) (proj s') (.ok a))
          (fun e s' => own s' ∧ Run W (proj s) (.call o k) (proj s') (.error e)) s₁ := by
      rintro r s₁ ⟨hown₁, hallowed, hproj⟩
      refine (ih r hown₁).mono (fun a s' h => ⟨h.1, ?_⟩) fun e s' h => ⟨h.1, ?_⟩
      · exact .call hallowed (hproj ▸ h.2)
      · exact .call hallowed (hproj ▸ h.2)
    exact bindResult ((hcarry o s hown).mono (fun a s₁ h => hnext (.ok a) s₁ h)
      fun e s₁ h => hnext (.error e) s₁ h)

end Interpret

end Coro
