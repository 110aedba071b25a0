import QueryMan.Coro.Sequential

/-!
# Histories

The history of a run: its operations in their order, each with its answer. A run is a history that
the program makes (`Prog.Makes`) and that the world allows (`World.Allows`). The first does not
depend on the state and the second does not depend on the program, so that a history can be replayed
from another state (`World.Allows.simulate`).
-/

namespace Coro

variable {σ : Type} {Op : Type} {Ret : Op → Type} {ε α : Type}

/-- An operation with its answer. -/
abbrev Exchange {Op : Type} (Ret : Op → Type) (ε : Type) : Type :=
  (o : Op) × Except ε (Ret o)

/-- The program calls these operations, and with these answers it ends so. -/
inductive Prog.Makes : Prog Ret ε α → List (Exchange Ret ε) → Except ε α → Prop where
  | done (r : Except ε α) : Makes (.done r) [] r
  | call {o : Op} {k : Except ε (Ret o) → Prog Ret ε α} {answer : Except ε (Ret o)}
      {history : List (Exchange Ret ε)} {r : Except ε α} (h : Makes (k answer) history r) :
      Makes (.call o k) (⟨o, answer⟩ :: history) r

/-- The world gives these answers, one after the other. -/
inductive World.Allows (W : World σ Ret ε) : σ → List (Exchange Ret ε) → σ → Prop where
  | nil (s : σ) : Allows W s [] s
  | cons {s s' : σ} {o : Op} {answer : Except ε (Ret o)} {history : List (Exchange Ret ε)}
      (hallowed : W.allowed s o answer) (hrest : Allows W (W.next s o answer) history s') :
      Allows W s (⟨o, answer⟩ :: history) s'

variable {W : World σ Ret ε} {s s' t : σ} {p : Prog Ret ε α} {r : Except ε α}
  {history : List (Exchange Ret ε)}

/-- A run is a history that its program makes and its world allows. -/
theorem run_iff_history :
    Run W s p s' r ↔ ∃ history, p.Makes history r ∧ W.Allows s history s' := by
  constructor
  · intro h
    induction h with
    | done s r => exact ⟨[], .done r, .nil s⟩
    | call hallowed _ ih =>
      obtain ⟨history, hmakes, hallows⟩ := ih
      exact ⟨_, .call hmakes, .cons hallowed hallows⟩
  · rintro ⟨history, hmakes, hallows⟩
    induction hmakes generalizing s with
    | done r =>
      cases hallows
      exact .done _ _
    | call _ ih =>
      cases hallows with
      | cons hallowed hrest => exact .call hallowed (ih hrest)

/-- **A history can be replayed** from a state that answers as the first one did. -/
theorem World.Allows.simulate {R : σ → σ → Prop}
    (hstep : ∀ s t o answer, R s t → W.allowed s o answer →
      W.allowed t o answer ∧ R (W.next s o answer) (W.next t o answer))
    (h : W.Allows s history s') (hR : R s t) : ∃ t', W.Allows t history t' ∧ R s' t' := by
  induction h generalizing t with
  | nil s => exact ⟨t, .nil t, hR⟩
  | cons hallowed _ ih =>
    obtain ⟨hallowed', hR'⟩ := hstep _ t _ _ hR hallowed
    obtain ⟨t', hallows, hR''⟩ := ih hR'
    exact ⟨t', .cons hallowed' hallows, hR''⟩

/-- A history is allowed in the restricted world if each of its answers meets the condition. -/
theorem World.Allows.restrict {meets : σ → (o : Op) → Except ε (Ret o) → Prop}
    (h : W.Allows s history s')
    (hmeets : ∀ before o answer rest t, history = before ++ ⟨o, answer⟩ :: rest →
      W.Allows s before t → meets t o answer) : (W.restrict meets).Allows s history s' := by
  induction h with
  | nil s => exact .nil s
  | cons hallowed _ ih =>
    refine .cons ⟨hallowed, hmeets [] _ _ _ _ rfl (.nil _)⟩ (ih ?_)
    intro before o answer rest t heq hbefore
    exact hmeets (_ :: before) o answer rest t (congrArg _ heq) (.cons hallowed hbefore)

/-- Where the state is the history so far. -/
theorem World.Allows.eq_append {W : World (List (Exchange Ret ε)) Ret ε}
    (hnext : ∀ s o answer, W.next s o answer = s ++ [⟨o, answer⟩])
    {s s' : List (Exchange Ret ε)} (h : W.Allows s history s') : s' = s ++ history := by
  induction h with
  | nil s => exact (List.append_nil s).symm
  | cons _ _ ih => rw [ih, hnext, List.append_assoc, List.cons_append, List.nil_append]

/-- **A history is determined by its inputs**: where the world leaves no choice but for the answers
of some operations, two runs of a program from one state that got the same answers of these are the
same. -/
theorem makes_unique {input : Op → Bool}
    (hdetermined : ∀ s o answer answer', input o = false → W.allowed s o answer →
      W.allowed s o answer' → answer = answer')
    {s' s'' : σ} {r' : Except ε α} {history' : List (Exchange Ret ε)} (hmakes : p.Makes history r)
    (hallows : W.Allows s history s') (hmakes' : p.Makes history' r')
    (hallows' : W.Allows s history' s'')
    (hinputs : history.filter (input ·.1) = history'.filter (input ·.1)) :
    history = history' ∧ r = r' ∧ s' = s'' := by
  induction hmakes generalizing s history' with
  | done r =>
    cases hmakes'
    cases hallows
    cases hallows'
    exact ⟨rfl, rfl, rfl⟩
  | @call o k answer history r _ ih =>
    cases hmakes' with
    | @call _ _ answer' history' _ hmakes' =>
      cases hallows with
      | cons hallowed hrest =>
        cases hallows' with
        | cons hallowed' hrest' =>
          have hanswer : answer = answer' := by
            cases hinput : input o with
            | true =>
              rw [List.filter_cons_of_pos (by exact hinput),
                List.filter_cons_of_pos (by exact hinput)]
                at hinputs
              exact eq_of_heq (Sigma.mk.inj (List.cons.inj hinputs).1).2
            | false => exact hdetermined s o answer answer' hinput hallowed hallowed'
          subst hanswer
          have hrest_inputs : history.filter (input ·.1) = history'.filter (input ·.1) := by
            rw [List.filter_cons, List.filter_cons] at hinputs
            split at hinputs
            · exact (List.cons.inj hinputs).2
            · exact hinputs
          obtain ⟨rfl, rfl, rfl⟩ := ih hrest hmakes' hrest' hrest_inputs
          exact ⟨rfl, rfl, rfl⟩

/-! ## Worlds that keep the history -/

/-- The world with the history so far in its state. -/
def World.logged (W : World σ Ret ε) : World (σ × List (Exchange Ret ε)) Ret ε where
  allowed := fun s o answer => W.allowed s.1 o answer
  next := fun s o answer => (W.next s.1 o answer, s.2 ++ [⟨o, answer⟩])

theorem run_logged {before : List (Exchange Ret ε)} {t : σ × List (Exchange Ret ε)}
    (h : Run W.logged (s, before) p t r) :
    ∃ history, t.2 = before ++ history ∧ p.Makes history r ∧ W.Allows s history t.1 := by
  induction p generalizing s before with
  | done x =>
    obtain ⟨rfl, rfl⟩ := run_done.1 h
    exact ⟨[], (List.append_nil _).symm, .done _, .nil _⟩
  | call o k ih =>
    obtain ⟨answer, hallowed, hrun⟩ := run_call.1 h
    obtain ⟨history, heq, hmakes, hallows⟩ := ih answer hrun
    refine ⟨⟨o, answer⟩ :: history, ?_, .call hmakes, .cons hallowed hallows⟩
    rw [heq, List.append_assoc, List.cons_append, List.nil_append]

theorem run_logged_of_history (hmakes : p.Makes history r) {before : List (Exchange Ret ε)}
    (hallows : W.Allows s history s') : Run W.logged (s, before) p (s', before ++ history) r := by
  induction hmakes generalizing s before with
  | done r =>
    cases hallows
    rw [List.append_nil]
    exact .done _ _
  | @call o k answer history r _ ih =>
    cases hallows with
    | cons hallowed hrest =>
      refine .call hallowed ?_
      rw [List.append_cons]
      exact ih hrest

/-! ## Histories of safe programs -/

/-- A world as a program sees it that nobody disturbs. -/
def World.view (W : World σ Ret ε) (gate : σ → Op → Prop) : View σ Ret ε where
  resumes := fun s _ s₁ => s₁ = s
  gate := gate
  step := fun s o r s' => W.allowed s o r ∧ s' = W.next s o r

end Coro
