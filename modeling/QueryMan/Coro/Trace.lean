import Mathlib.Data.List.Basic
import Mathlib.Tactic.Common

/-!
# Guarded traces

A trace lists the events of a run in their order. It is guarded if each event finds what it needs in
the events before it.
-/

namespace Coro

/-- Each event of the trace meets the gate with the events before it. -/
def Guarded {Ev : Type} (gate : List Ev → Ev → Prop) (trace : List Ev) : Prop :=
  ∀ before event after, trace = before ++ event :: after → gate before event

variable {Ev : Type} {gate : List Ev → Ev → Prop} {trace : List Ev} {event : Ev}

theorem guarded_nil : Guarded gate [] := by
  intro before event after h
  cases before <;> cases h

/-- One more event: it has to meet the gate itself. -/
theorem guarded_concat :
    Guarded gate (trace ++ [event]) ↔ Guarded gate trace ∧ gate trace event := by
  constructor
  · intro h
    refine ⟨fun before event' after heq => ?_, h trace event [] rfl⟩
    refine h before event' (after ++ [event]) ?_
    rw [heq, List.append_assoc, List.cons_append]
  · rintro ⟨htrace, hevent⟩ before event' after heq
    rcases List.eq_nil_or_concat after with rfl | ⟨after', last, rfl⟩
    · obtain ⟨rfl, rfl⟩ := List.append_singleton_inj.1 heq
      exact hevent
    · rw [List.concat_eq_append, ← List.cons_append, ← List.append_assoc] at heq
      obtain ⟨rfl, -⟩ := List.append_singleton_inj.1 heq
      exact htrace before event' after' rfl

end Coro
