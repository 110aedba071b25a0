import QueryMan.Coro.Safe
import Mathlib.Logic.Function.Basic

/-!
# Cooperative tasks

Any number of tasks share a state and take turns, as the coroutines of an event loop do: a task
keeps its turn until its next operation suspends it or it has ended (`System.Step`). What the others
do while a task waits is an arbitrary sequence of steps.

A `Contract` states what each task relies on and what it owes: an invariant of the shared state,
what the others leave as it is, the gate of each operation, and what a task holds when it is not
running. Its laws are about single operations and single programs; `Contract.kept` puts them
together for every reachable configuration.
-/

namespace Coro

section

variable {ι σ : Type} {Op : ι → Type} {Ret : (i : ι) → Op i → Type} {ε : Type} {α : ι → Type}

/-- Tasks over a shared state. -/
structure System (ι σ : Type) {Op : ι → Type} (Ret : (i : ι) → Op i → Type) (ε : Type)
    (α : ι → Type) where
  /-- the programs that a task may start with -/
  starts : (i : ι) → Prog (Ret i) ε (α i) → Prop
  /-- the operations at which a task may lose its turn -/
  suspends : (i : ι) → Op i → Bool
  /-- what an operation answers and does -/
  step : (i : ι) → σ → (o : Op i) → Except ε (Ret i o) → σ → Prop
  /-- what happens while no task has the turn -/
  env : σ → σ → Prop

/-- The shared state, the programs that the running tasks have still to do, and the task that has
the turn. -/
structure Config (σ : Type) (Ret : (i : ι) → Op i → Type) (ε : Type) (α : ι → Type) where
  shared : σ
  tasks : (i : ι) → Option (Prog (Ret i) ε (α i))
  turn : Option ι

/-- The program waits for an operation that suspends. -/
def Prog.suspended {Op : Type} {Ret : Op → Type} {ε α : Type} (suspends : Op → Bool) :
    Prog Ret ε α → Bool
  | .done _ => false
  | .call o _ => suspends o

namespace System

variable [DecidableEq ι] {S : System ι σ Ret ε α} {c c' : Config σ Ret ε α}

/-- The task has moved to a program, and keeps the turn unless that suspends. -/
def put (S : System ι σ Ret ε α) (c : Config σ Ret ε α) (i : ι) (s : σ)
    (p : Prog (Ret i) ε (α i)) : Config σ Ret ε α where
  shared := s
  tasks := Function.update c.tasks i (some p)
  turn := if p.suspended (S.suspends i) then none else some i

/-- The task has moved. -/
theorem put_self {i : ι} {s : σ} {p : Prog (Ret i) ε (α i)} : (S.put c i s p).tasks i = some p :=
  Function.update_self ..

/-- The others have not. -/
theorem put_of_ne {i j : ι} {s : σ} {p : Prog (Ret i) ε (α i)} (h : j ≠ i) :
    (S.put c i s p).tasks j = c.tasks j :=
  Function.update_of_ne h ..

/-- One step of the tasks. -/
inductive Step (S : System ι σ Ret ε α) : Config σ Ret ε α → Config σ Ret ε α → Prop where
  /-- a task starts -/
  | start {c : Config σ Ret ε α} {i : ι} {p : Prog (Ret i) ε (α i)} (hfree : c.turn = none)
      (hnew : c.tasks i = none) (hstarts : S.starts i p) : Step S c (S.put c i c.shared p)
  /-- a task performs its next operation -/
  | act {c : Config σ Ret ε α} {i : ι} {o : Op i} {k : Except ε (Ret i o) → Prog (Ret i) ε (α i)}
      {r : Except ε (Ret i o)} {s' : σ} (hturn : c.turn = none ∨ c.turn = some i)
      (htask : c.tasks i = some (.call o k)) (hstep : S.step i c.shared o r s') :
      Step S c (S.put c i s' (k r))
  /-- a task ends -/
  | finish {c : Config σ Ret ε α} {i : ι} {r : Except ε (α i)} (hturn : c.turn = some i)
      (htask : c.tasks i = some (.done r)) :
      Step S c ⟨c.shared, Function.update c.tasks i none, none⟩
  /-- the environment moves -/
  | env {c : Config σ Ret ε α} {s' : σ} (hfree : c.turn = none) (hstep : S.env c.shared s') :
      Step S c { c with shared := s' }

/-- The configurations that can be reached from a state in which no task runs. -/
inductive Reachable (S : System ι σ Ret ε α) (s₀ : σ) : Config σ Ret ε α → Prop where
  | initial : Reachable S s₀ ⟨s₀, fun _ => none, none⟩
  | step {c c' : Config σ Ret ε α} (hreach : Reachable S s₀ c) (hstep : S.Step c c') :
      Reachable S s₀ c'

/-- A task performs its next operation. -/
theorem Reachable.act {s₀ : σ} (h : S.Reachable s₀ c) {i : ι} {o : Op i}
    {k : Except ε (Ret i o) → Prog (Ret i) ε (α i)} (htask : c.tasks i = some (.call o k))
    (hturn : c.turn = none ∨ c.turn = some i) (r : Except ε (Ret i o)) (s : σ)
    (hstep : S.step i c.shared o r s) : S.Reachable s₀ (S.put c i s (k r)) :=
  .step h (.act hturn htask hstep)

/-- The environment moves. -/
theorem Reachable.move {s₀ s : σ} (h : S.Reachable s₀ c) (hfree : c.turn = none)
    (hmove : S.env c.shared s) : S.Reachable s₀ { c with shared := s } :=
  .step h (.env hfree hmove)

end System

/-! ## Contracts -/

/-- What the tasks of a system rely on and owe. -/
structure Contract (S : System ι σ Ret ε α) where
  /-- the invariant of the shared state -/
  inv : σ → Prop
  /-- what the others leave of the state, from the point of view of a task -/
  rely : ι → σ → σ → Prop
  /-- what a task finds that is about to perform an operation -/
  gate : (i : ι) → σ → Op i → Prop
  /-- what holds of a task that is not running -/
  idle : ι → σ → Prop
  /-- what holds when a task returns -/
  returned : (i : ι) → α i → σ → Prop
  /-- what holds when a task raises -/
  raised : ι → ε → σ → Prop

namespace Contract

variable {S : System ι σ Ret ε α} (K : Contract S)

/-- The shared state as a task sees it: where it is suspended, the others may have moved. -/
def view (i : ι) : View σ (Ret i) ε where
  resumes := fun s o s₁ => K.inv s₁ ∧ if S.suspends i o then K.rely i s s₁ else s₁ = s
  gate := K.gate i
  step := S.step i

/-- The program of a task meets the contract from a state on. -/
def Meets (i : ι) (p : Prog (Ret i) ε (α i)) (s : σ) : Prop :=
  p.Safe (K.view i) (K.returned i) (K.raised i) s

/-- The laws of a contract. -/
structure Lawful : Prop where
  rely_refl : ∀ i s, K.rely i s s
  rely_trans : ∀ i s s' s'', K.rely i s s' → K.rely i s' s'' → K.rely i s s''
  /-- a step leaves what the other tasks rely on, and keeps the invariant -/
  guarantee : ∀ i s o r s', K.inv s → K.gate i s o → S.step i s o r s' →
    K.inv s' ∧ ∀ j, j ≠ i → K.rely j s s'
  env_guarantee : ∀ s s', K.inv s → S.env s s' → K.inv s' ∧ ∀ j, K.rely j s s'
  idle_stable : ∀ i s s', K.rely i s s' → K.idle i s → K.idle i s'
  meets : ∀ i p s, S.starts i p → K.inv s → K.idle i s → K.Meets i p s
  idle_of_returned : ∀ i a s, K.returned i a s → K.idle i s
  idle_of_raised : ∀ i e s, K.raised i e s → K.idle i s

/-- A configuration in which every task keeps the contract. -/
structure Kept (c : Config σ Ret ε α) : Prop where
  inv : K.inv c.shared
  idle : ∀ i, c.tasks i = none → K.idle i c.shared
  running : ∀ i p, c.tasks i = some p → c.turn = some i → K.Meets i p c.shared
  waiting : ∀ i p, c.tasks i = some p → c.turn ≠ some i →
    p.suspended (S.suspends i) = true ∧ ∃ s, K.rely i s c.shared ∧ K.Meets i p s

variable {K}

section Perform
variable {i : ι} {o : Op i} {P : σ → Prop} {Q : Ret i o → σ → Prop} {E : ε → σ → Prop}

/-- An operation that does not suspend finds the state as it was. -/
theorem perform_now (ho : S.suspends i o = false)
    (h : ∀ s, K.inv s → P s → K.gate i s o ∧ ∀ r s', S.step i s o r s' → Post Q E r s') :
    SafeTriple (K.view i) P (.perform o) Q E := by
  refine SafeTriple.perform fun s s₁ hs hresumes => ?_
  obtain ⟨hinv, hsame⟩ := hresumes
  rw [if_neg (by simp [ho])] at hsame
  subst hsame
  exact h s₁ hinv hs

/-- An operation that suspends finds what the task relies on. -/
theorem perform_await (ho : S.suspends i o = true)
    (h : ∀ s s₁, K.inv s₁ → P s → K.rely i s s₁ →
      K.gate i s₁ o ∧ ∀ r s', S.step i s₁ o r s' → Post Q E r s') :
    SafeTriple (K.view i) P (.perform o) Q E := by
  refine SafeTriple.perform fun s s₁ hs hresumes => ?_
  obtain ⟨hinv, hrely⟩ := hresumes
  rw [if_pos ho] at hrely
  exact h s s₁ hinv hs hrely

end Perform

variable {c c' : Config σ Ret ε α}

/-- **A task that is about to perform an operation finds its gate open**, and goes on within the
contract. -/
theorem Kept.act (h : K.Kept c) (hK : K.Lawful) {i : ι} {o : Op i}
    {k : Except ε (Ret i o) → Prog (Ret i) ε (α i)} (htask : c.tasks i = some (.call o k)) :
    K.gate i c.shared o ∧ ∀ r s', S.step i c.shared o r s' → K.Meets i (k r) s' := by
  by_cases hturn : c.turn = some i
  · refine h.running i _ htask hturn c.shared ⟨h.inv, ?_⟩
    split
    · exact hK.rely_refl i _
    · rfl
  · obtain ⟨hsuspended, s, hrely, hmeets⟩ := h.waiting i _ htask hturn
    refine hmeets c.shared ⟨h.inv, ?_⟩
    rw [if_pos (show S.suspends i o = true from hsuspended)]
    exact hrely

/-- What a task that ends has to show. -/
theorem Kept.finish (h : K.Kept c) {i : ι} {r : Except ε (α i)} (hturn : c.turn = some i)
    (htask : c.tasks i = some (.done r)) : Post (K.returned i) (K.raised i) r c.shared := by
  have hmeets := h.running i _ htask hturn
  cases r <;> exact hmeets

/-- A task that has no turn is suspended or not running: it relies on a step of another. -/
theorem Kept.others (h : K.Kept c) (hK : K.Lawful) {j : ι} {s' : σ} (hrely : K.rely j c.shared s')
    (hturn : c.turn ≠ some j) :
    (c.tasks j = none → K.idle j s') ∧ ∀ p, c.tasks j = some p →
      p.suspended (S.suspends j) = true ∧ ∃ s, K.rely j s s' ∧ K.Meets j p s := by
  refine ⟨fun hnone => hK.idle_stable j _ _ hrely (h.idle j hnone), fun p hp => ?_⟩
  obtain ⟨hsuspended, s, hs, hmeets⟩ := h.waiting j p hp hturn
  exact ⟨hsuspended, s, hK.rely_trans j _ _ _ hs hrely, hmeets⟩

variable [DecidableEq ι]

/-- A task moves to a program that meets the contract. -/
theorem Kept.put (h : K.Kept c) (hK : K.Lawful) {i : ι} {s' : σ} {p : Prog (Ret i) ε (α i)}
    (hinv : K.inv s') (hrely : ∀ j, j ≠ i → K.rely j c.shared s')
    (hturn : ∀ j, j ≠ i → c.turn ≠ some j) (hmeets : K.Meets i p s') : K.Kept (S.put c i s' p) := by
  have hsame : (S.put c i s' p).tasks i = some p := Function.update_self ..
  have hother : ∀ j, j ≠ i → (S.put c i s' p).tasks j = c.tasks j :=
    fun j hj => Function.update_of_ne hj ..
  have hgiven : ∀ j, (S.put c i s' p).turn = some j → j = i := by
    intro j hj
    change (if _ then none else some i) = some j at hj
    split at hj
    · cases hj
    · exact (Option.some.inj hj).symm
  refine ⟨hinv, fun j hnone => ?_, fun j q hq hj => ?_, fun j q hq hj => ?_⟩
  · have hne : j ≠ i := by
      rintro rfl
      rw [hsame] at hnone
      cases hnone
    exact (h.others hK (hrely j hne) (hturn j hne)).1 (hother j hne ▸ hnone)
  · obtain rfl := hgiven j hj
    rw [hsame] at hq
    cases hq
    exact hmeets
  · by_cases hne : j = i
    · subst hne
      rw [hsame] at hq
      cases hq
      refine ⟨?_, s', hK.rely_refl _ _, hmeets⟩
      by_contra hno
      exact hj (if_neg hno)
    · exact (h.others hK (hrely j hne) (hturn j hne)).2 q (hother j hne ▸ hq)

/-- Every step keeps the contract. -/
theorem Kept.step (h : K.Kept c) (hK : K.Lawful) (hstep : S.Step c c') : K.Kept c' := by
  cases hstep with
  | @start i p hfree hnew hstarts =>
    refine h.put hK h.inv (fun j _ => hK.rely_refl j _) (fun j _ => ?_)
      (hK.meets i p _ hstarts h.inv (h.idle i hnew))
    rw [hfree]
    exact nofun
  | @act i o k r s' hturn htask hstep =>
    obtain ⟨hgate, hgoes⟩ := h.act hK htask
    obtain ⟨hinv, hrely⟩ := hK.guarantee i _ o r s' h.inv hgate hstep
    refine h.put hK hinv hrely (fun j hne heq => ?_) (hgoes r s' hstep)
    rcases hturn with hturn | hturn
    · cases hturn.symm.trans heq
    · exact hne (Option.some.inj (heq.symm.trans hturn))
  | @finish i r hturn htask =>
    have hpost := h.finish hturn htask
    have hidle : K.idle i c.shared := by
      cases r with
      | ok a => exact hK.idle_of_returned i a _ hpost
      | error e => exact hK.idle_of_raised i e _ hpost
    have hother : ∀ j, j ≠ i → Function.update c.tasks i none j = c.tasks j :=
      fun j hj => Function.update_of_ne hj ..
    have hturn' : ∀ j, j ≠ i → c.turn ≠ some j := fun j hj heq =>
      hj (Option.some.inj (heq.symm.trans hturn))
    refine ⟨h.inv, fun j hnone => ?_, fun j q _ hj => (nofun : none ≠ some j) hj |>.elim,
      fun j q hq _ => ?_⟩
    · by_cases hne : j = i
      · exact hne ▸ hidle
      · exact h.idle j (hother j hne ▸ hnone)
    · have hne : j ≠ i := by
        rintro rfl
        have hsame : Function.update c.tasks j none j = none := Function.update_self ..
        change Function.update c.tasks j none j = some q at hq
        rw [hsame] at hq
        cases hq
      exact h.waiting j q (hother j hne ▸ hq) (hturn' j hne)
  | @env s' hfree hstep =>
    obtain ⟨hinv, hrely⟩ := hK.env_guarantee _ s' h.inv hstep
    have hturn : ∀ j, c.turn ≠ some j := fun j => by
      rw [hfree]
      exact nofun
    refine ⟨hinv, fun j => (h.others hK (hrely j) (hturn j)).1, fun j q _ hj => absurd hj (hturn j),
      fun j q hq _ => (h.others hK (hrely j) (hturn j)).2 q hq⟩

/-- **Every reachable configuration keeps the contract.** -/
theorem kept {s₀ : σ} (hK : K.Lawful) (hinv : K.inv s₀) (hidle : ∀ i, K.idle i s₀)
    (hreach : S.Reachable s₀ c) : K.Kept c := by
  induction hreach with
  | initial =>
    refine ⟨hinv, fun i _ => hidle i, fun i p hp _ => ?_, fun i p hp _ => ?_⟩
    · cases hp
    · cases hp
  | step _ hstep ih => exact ih.step hK hstep

end Contract

end

end Coro
