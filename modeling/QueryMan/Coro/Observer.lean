import QueryMan.Coro.Tasks

/-!
# Observers

A part of the state that the tasks only write: it sees every operation and its answer, and no answer
depends on it. A system with an observer beside it (`System.observe`) has the runs of the system
(`System.Reachable.of_observe`), so that what is known of the system holds of it too.
-/

namespace Coro

variable {ι σ τ : Type} {Op : ι → Type} {Ret : (i : ι) → Op i → Type} {ε : Type} {α : ι → Type}

/-- A configuration without its observer. -/
def Config.unobserved (c : Config (σ × τ) Ret ε α) : Config σ Ret ε α where
  shared := c.shared.1
  tasks := c.tasks
  turn := c.turn

namespace System

/-- The system with an observer beside it, which the environment may move on its own. -/
def observe (S : System ι σ Ret ε α) (watch : (i : ι) → (o : Op i) → Except ε (Ret i o) → τ → τ)
    (moves : τ → τ → Prop) : System ι (σ × τ) Ret ε α where
  starts := S.starts
  suspends := S.suspends
  step := fun i s o r s' => S.step i s.1 o r s'.1 ∧ s'.2 = watch i o r s.2
  env := fun s s' => (S.env s.1 s'.1 ∧ s'.2 = s.2) ∨ (s'.1 = s.1 ∧ moves s.2 s'.2)

variable [DecidableEq ι] {S : System ι σ Ret ε α}

/-- **What every operation keeps holds of every reachable state.** -/
theorem Reachable.invariant {s₀ : σ} {c : Config σ Ret ε α} {P : σ → Prop} (hinit : P s₀)
    (hstep : ∀ i s o r s', P s → S.step i s o r s' → P s') (henv : ∀ s s', P s → S.env s s' → P s')
    (h : S.Reachable s₀ c) : P c.shared := by
  induction h with
  | initial => exact hinit
  | step _ hs ih =>
    cases hs with
    | start => exact ih
    | act _ _ hact => exact hstep _ _ _ _ _ ih hact
    | finish => exact ih
    | env _ hmove => exact henv _ _ ih hmove

/-- **An observed run is a run.** -/
theorem Reachable.of_observe {watch : (i : ι) → (o : Op i) → Except ε (Ret i o) → τ → τ}
    {moves : τ → τ → Prop} {s₀ : σ} {t₀ : τ} {c : Config (σ × τ) Ret ε α}
    (h : (S.observe watch moves).Reachable (s₀, t₀) c) : S.Reachable s₀ c.unobserved := by
  induction h with
  | initial => exact .initial
  | @step c c' _ hs ih =>
    cases hs with
    | start hfree hnew hstarts => exact ih.step (Step.start (c := c.unobserved) hfree hnew hstarts)
    | act hturn htask hact => exact ih.step (Step.act (c := c.unobserved) hturn htask hact.1)
    | finish hturn htask => exact ih.step (Step.finish (c := c.unobserved) hturn htask)
    | @env s' hfree hmove =>
      rcases hmove with ⟨hmove, -⟩ | ⟨hsame, -⟩
      · exact ih.step (Step.env (c := c.unobserved) hfree hmove)
      · have heq : Config.unobserved { c with shared := s' } = c.unobserved := by
          rw [Config.unobserved, Config.unobserved, hsame]
        exact heq ▸ ih

/-- **A run can be observed.** -/
theorem Reachable.observed {watch : (i : ι) → (o : Op i) → Except ε (Ret i o) → τ → τ}
    {moves : τ → τ → Prop} {s₀ : σ} {c : Config σ Ret ε α} (t₀ : τ) (h : S.Reachable s₀ c) :
    ∃ t, (S.observe watch moves).Reachable (s₀, t₀) ⟨(c.shared, t), c.tasks, c.turn⟩ := by
  induction h with
  | initial => exact ⟨t₀, .initial⟩
  | step _ hs ih =>
    obtain ⟨t, ht⟩ := ih
    cases hs with
    | start hfree hnew hstarts => exact ⟨t, ht.step (.start hfree hnew hstarts)⟩
    | @act i o k r s' hturn htask hact =>
      have hwatched : (S.observe watch moves).step i (_, t) o r (s', watch i o r t) := ⟨hact, rfl⟩
      exact ⟨watch i o r t, ht.step (.act hturn htask hwatched)⟩
    | finish hturn htask => exact ⟨t, ht.step (.finish hturn htask)⟩
    | @env s' hfree hmove =>
      have hmoved : (S.observe watch moves).env (_, t) (s', t) := .inl ⟨hmove, rfl⟩
      exact ⟨t, ht.step (.env hfree hmoved)⟩

end System

end Coro
