import QueryMan.Coro.Sequential
import QueryMan.Coro.Tasks

/-!
# A task alone

A stretch of a task that performs operations while no other task moves (`System.Solo`). Such
stretches compose as programs do (`Solo.bind`, `Solo.tryCatch`, `Solo.finallyWith`), and a program
that is interpreted goes on alone as it runs in its own world (`Solo.interpret`). What a task does
alone is reachable (`Reachable.solo`), and a task that is alone from its start to its end is one
step of the shared state (`Reachable.alone`): whatever can be done one call after the other can be
done by the tasks.
-/

namespace Coro

variable {ι σ : Type} {Op : ι → Type} {Ret : (i : ι) → Op i → Type} {ε : Type} {α : ι → Type}

/-- The task performs operations, and nobody else moves. -/
inductive System.Solo (S : System ι σ Ret ε α) (i : ι) {β : Type} :
    σ → Prog (Ret i) ε β → σ → Prog (Ret i) ε β → Prop where
  | refl (s : σ) (p : Prog (Ret i) ε β) : Solo S i s p s p
  | act {s s' s'' : σ} {o : Op i} {k : Except ε (Ret i o) → Prog (Ret i) ε β}
      {r : Except ε (Ret i o)} {q : Prog (Ret i) ε β} (hstep : S.step i s o r s')
      (hrest : Solo S i s' (k r) s'' q) : Solo S i s (.call o k) s'' q

namespace System.Solo

variable {S : System ι σ Ret ε α} {i : ι} {β γ : Type} {s s' s'' : σ}
  {p q : Prog (Ret i) ε β} {p' : Prog (Ret i) ε β}

/-- One stretch after the other. -/
theorem trans (h : S.Solo i s p s' q) (h' : S.Solo i s' q s'' p') : S.Solo i s p s'' p' := by
  induction h with
  | refl => exact h'
  | act hstep _ ih => exact .act hstep (ih h')

/-- One operation. -/
theorem perform {o : Op i} {r : Except ε (Ret i o)} (hstep : S.step i s o r s') :
    S.Solo i s (.perform o) s' (.done r) :=
  .act hstep (.refl ..)

/-- What is around a program stays around it. -/
theorem around {K : Prog (Ret i) ε β → Prog (Ret i) ε γ}
    (hK : ∀ (o : Op i) k, K (.call o k) = .call o fun r => K (k r)) (h : S.Solo i s p s' q) :
    S.Solo i s (K p) s' (K q) := by
  induction h with
  | refl => exact .refl ..
  | act hstep _ ih =>
    rw [hK]
    exact .act hstep ih

/-- A sequence, after its first program. -/
theorem bind {f : β → Prog (Ret i) ε γ} {b : β} {q : Prog (Ret i) ε γ}
    (h : S.Solo i s p s' (.done (.ok b))) (hrest : S.Solo i s' (f b) s'' q) :
    S.Solo i s (p >>= f) s'' q :=
  (around (fun _ _ => rfl) h : S.Solo i s (p.bind f) s' (f b)).trans hrest

/-- A sequence whose first program raises. -/
theorem bind_error {f : β → Prog (Ret i) ε γ} {e : ε} (h : S.Solo i s p s' (.done (.error e))) :
    S.Solo i s (p >>= f) s' (.done (.error e)) :=
  (around (fun _ _ => rfl) h : S.Solo i s (p.bind f) s' _)

/-- `try`, where nothing is raised. -/
theorem tryCatch {handler : ε → Prog (Ret i) ε β} {b : β} (h : S.Solo i s p s' (.done (.ok b))) :
    S.Solo i s (p.tryCatch handler) s' (.done (.ok b)) :=
  (around (fun _ _ => rfl) h : S.Solo i s (p.tryCatch handler) s' _)

/-- A final part. -/
theorem finallyWith {final : Except ε β → Prog (Ret i) ε Unit} {r : Except ε β}
    (h : S.Solo i s p s' (.done r)) (hfinal : S.Solo i s' (final r) s'' (.done (.ok ()))) :
    S.Solo i s (p.finallyWith final) s'' (.done r) :=
  (around (K := fun p => p.finallyWith final) (fun _ _ => rfl) h).trans
    (bind (f := fun _ => .lift r) hfinal (.refl ..))

/-- **An interpreted program goes on alone as it runs in its own world**, if each operation is
carried out as that world says. -/
theorem interpret {τ : Type} {Op₀ : Type} {Ret₀ : Op₀ → Type} {W : World τ Ret₀ ε}
    {carry : (o : Op₀) → Prog (Ret i) ε (Ret₀ o)} (embed : τ → σ)
    (hcarry : ∀ t o r, W.allowed t o r →
      S.Solo i (embed t) (carry o) (embed (W.next t o r)) (.done r))
    {p : Prog Ret₀ ε β} {t t' : τ} {r : Except ε β} (h : Run W t p t' r) :
    S.Solo i (embed t) (p.interpret carry) (embed t') (.done r) := by
  induction h with
  | done s r => exact .refl ..
  | @call t t' o k r r' hallowed _ ih =>
    have hfirst : S.Solo i (embed t) ((Prog.call o k).interpret carry) (embed (W.next t o r))
        ((k r).interpret carry) :=
      around (K := fun q => q.bindResult fun r => (k r).interpret carry) (fun _ _ => rfl)
        (hcarry t o r hallowed)
    exact hfirst.trans ih

end System.Solo

section Reachable

variable [DecidableEq ι] {S : System ι σ Ret ε α} {c : Config σ Ret ε α} {s₀ : σ} {i : ι}

/-- What a task does last is what is seen of it. -/
theorem System.put_put {s s' : σ} {p q : Prog (Ret i) ε (α i)} :
    S.put (S.put c i s p) i s' q = S.put c i s' q := by
  rw [System.put, System.put, System.put, Function.update_idem]

/-- **A task may go on alone** from where it may move. -/
theorem System.Reachable.solo {s s' : σ} {p q : Prog (Ret i) ε (α i)}
    (h : S.Reachable s₀ (S.put c i s p)) (hsolo : S.Solo i s p s' q) :
    S.Reachable s₀ (S.put c i s' q) := by
  induction hsolo with
  | refl => exact h
  | @act s s' s'' o k r q hstep _ ih =>
    refine ih ?_
    have hturn : (S.put c i s (.call o k)).turn = none ∨
        (S.put c i s (.call o k)).turn = some i := by
      change (if _ then none else some i) = none ∨ (if _ then none else some i) = some i
      split
      · exact .inl rfl
      · exact .inr rfl
    rw [← System.put_put]
    exact h.act System.put_self hturn r s' hstep

/-- A task that has not started yet goes on alone. -/
theorem System.Reachable.soloStart {s : σ} {p q : Prog (Ret i) ε (α i)} (h : S.Reachable s₀ c)
    (hfree : c.turn = none) (hnew : c.tasks i = none) (hstarts : S.starts i p)
    (hsolo : S.Solo i c.shared p s q) : S.Reachable s₀ (S.put c i s q) :=
  System.Reachable.solo (.step h (.start hfree hnew hstarts)) hsolo

/-- **A task alone, from its start to its end**, leaves nothing but the shared state. -/
theorem System.Reachable.alone {s : σ} {p : Prog (Ret i) ε (α i)} {r : Except ε (α i)}
    (h : S.Reachable s₀ c) (hfree : c.turn = none) (hnew : c.tasks i = none)
    (hstarts : S.starts i p) (hsolo : S.Solo i c.shared p s (.done r)) :
    S.Reachable s₀ { c with shared := s } := by
  have hended : S.Reachable s₀ (S.put c i s (.done r)) := h.soloStart hfree hnew hstarts hsolo
  have hgone : Function.update (S.put c i s (.done r)).tasks i none = c.tasks := by
    rw [System.put, Function.update_idem, Function.update_eq_self_iff, hnew]
  have hlast : S.Reachable s₀ ⟨s, Function.update (S.put c i s (.done r)).tasks i none, none⟩ :=
    .step hended (.finish rfl System.put_self)
  rw [hgone, ← hfree] at hlast
  exact hlast

/-- A task that waits is where it is. -/
theorem System.put_waiting {p : Prog (Ret i) ε (α i)} (hfree : c.turn = none)
    (htask : c.tasks i = some p) (hwaits : p.suspended (S.suspends i) = true) :
    S.put c i c.shared p = c := by
  obtain ⟨s, tasks, turn⟩ := c
  dsimp only at hfree htask
  rw [System.put, hwaits, if_pos rfl, hfree, Function.update_eq_self_iff.2 htask.symm]

/-- **A task that waited goes on alone**. -/
theorem System.Reachable.resume {s : σ} {p q : Prog (Ret i) ε (α i)} (h : S.Reachable s₀ c)
    (hfree : c.turn = none) (htask : c.tasks i = some p)
    (hwaits : p.suspended (S.suspends i) = true) (hsolo : S.Solo i c.shared p s q) :
    S.Reachable s₀ (S.put c i s q) :=
  System.Reachable.solo ((System.put_waiting hfree htask hwaits).symm ▸ h) hsolo

end Reachable

end Coro
