import QueryMan.Coro.History

/-!
# Programs that do not look at all of an exception

`forget` keeps of an exception what a program may look at. Two programs are alike (`Prog.Alike`) if
they go on alike after answers that differ in the forgotten part only, and end alike. A program that
is like itself is blind to the forgotten part: two runs of it whose answers differ in that part only
call the same operations and end alike (`Prog.Alike.makes`).
-/

namespace Coro

variable {Op : Type} {Ret : Op → Type} {ε δ α β : Type} {forget : ε → δ}

/-- Two outcomes with the same value, or with exceptions that differ in the forgotten part only. -/
theorem mapError_eq_iff {r r' : Except ε α} :
    r.mapError forget = r'.mapError forget ↔
      (∃ a, r = .ok a ∧ r' = .ok a) ∨
        ∃ e e', r = .error e ∧ r' = .error e' ∧ forget e = forget e' := by
  constructor
  · intro h
    cases r with
    | ok a =>
      cases r' with
      | ok a' =>
        cases h
        exact .inl ⟨a, rfl, rfl⟩
      | error e' => cases h
    | error e =>
      cases r' with
      | ok a' => cases h
      | error e' => exact .inr ⟨e, e', rfl, rfl, Except.error.inj h⟩
  · rintro (⟨a, rfl, rfl⟩ | ⟨e, e', rfl, rfl, he⟩)
    · rfl
    · exact congrArg Except.error he

/-- An operation with its answer, without the forgotten part. -/
def Exchange.mapError (f : ε → δ) (exchange : Exchange Ret ε) : Exchange Ret δ :=
  ⟨exchange.1, exchange.2.mapError f⟩

namespace Prog

/-- The programs go on alike and end alike, whatever the forgotten part is. -/
inductive Alike (forget : ε → δ) : Prog Ret ε α → Prog Ret ε α → Prop where
  | done {r r' : Except ε α} (h : r.mapError forget = r'.mapError forget) :
      Alike forget (.done r) (.done r')
  | call {o : Op} {k k' : Except ε (Ret o) → Prog Ret ε α}
      (h : ∀ r r', r.mapError forget = r'.mapError forget → Alike forget (k r) (k' r')) :
      Alike forget (.call o k) (.call o k')

namespace Alike

variable {p p' : Prog Ret ε α}

theorem pure (a : α) : Alike forget (Pure.pure a : Prog Ret ε α) (Pure.pure a) :=
  .done rfl

theorem throw {e e' : ε} (h : forget e = forget e') :
    Alike forget (MonadExceptOf.throw e : Prog Ret ε α) (MonadExceptOf.throw e') :=
  .done (congrArg Except.error h)

theorem lift (r : Except ε α) : Alike forget (lift r : Prog Ret ε α) (lift r) :=
  .done rfl

theorem perform (o : Op) : Alike forget (perform o : Prog Ret ε (Ret o)) (perform o) :=
  .call fun _ _ => .done

/-- One program after the other. -/
theorem bind {f f' : α → Prog Ret ε β} (hp : Alike forget p p')
    (hf : ∀ a, Alike forget (f a) (f' a)) : Alike forget (p >>= f) (p' >>= f') := by
  induction hp with
  | done h =>
    rcases mapError_eq_iff.1 h with ⟨a, rfl, rfl⟩ | ⟨e, e', rfl, rfl, he⟩
    · exact hf a
    · exact .throw he
  | call _ ih => exact .call ih

/-- `except`: the handlers are alike on exceptions that differ in the forgotten part only. -/
theorem tryCatch {h h' : ε → Prog Ret ε α} (hp : Alike forget p p')
    (hh : ∀ e e', forget e = forget e' → Alike forget (h e) (h' e')) :
    Alike forget (p.tryCatch h) (p'.tryCatch h') := by
  induction hp with
  | done h =>
    rcases mapError_eq_iff.1 h with ⟨a, rfl, rfl⟩ | ⟨e, e', rfl, rfl, he⟩
    · exact .pure a
    · exact hh e e' he
  | call _ ih => exact .call ih

/-- A context manager. -/
theorem exitWith {exit exit' : Option ε → Prog Ret ε Unit} (hp : Alike forget p p')
    (hexit : ∀ raised raised', raised.map forget = raised'.map forget →
      Alike forget (exit raised) (exit' raised')) :
    Alike forget (p.exitWith exit) (p'.exitWith exit') := by
  induction hp with
  | done h =>
    rcases mapError_eq_iff.1 h with ⟨a, rfl, rfl⟩ | ⟨e, e', rfl, rfl, he⟩
    · exact (hexit none none rfl).bind fun _ => .pure a
    · exact (hexit (some e) (some e') (congrArg some he)).bind fun _ => .throw he
  | call _ ih => exact .call ih

theorem tryFinally {final : Prog Ret ε Unit} (hp : Alike forget p p')
    (hfinal : Alike forget final final) : Alike forget (p.tryFinally final) (p'.tryFinally final) :=
  hp.exitWith fun _ _ _ => hfinal

theorem ite {c : Prop} [Decidable c] {q q' : Prog Ret ε α} (hp : Alike forget p p')
    (hq : Alike forget q q') : Alike forget (if c then p else q) (if c then p' else q') := by
  split
  · exact hp
  · exact hq

end Alike

end Prog

/-! ## Two runs -/

/-- The answers differ in the forgotten part only, as long as the histories do: an operation that
both call after alike histories is answered alike. -/
def AnswersAlike (forget : ε → δ) (history history' : List (Exchange Ret ε)) : Prop :=
  ∀ before before' rest rest' o answer answer',
    history = before ++ ⟨o, answer⟩ :: rest → history' = before' ++ ⟨o, answer'⟩ :: rest' →
    before.map (Exchange.mapError forget) = before'.map (Exchange.mapError forget) →
    answer.mapError forget = answer'.mapError forget

/-- **Blind programs**: two runs of alike programs whose answers differ in the forgotten part only
call the same operations, and end alike. -/
theorem Prog.Alike.makes {p p' : Prog Ret ε α} {history history' : List (Exchange Ret ε)}
    {r r' : Except ε α} (h : p.Alike forget p') (hmakes : p.Makes history r)
    (hmakes' : p'.Makes history' r') (hanswers : AnswersAlike forget history history') :
    history.map (Exchange.mapError forget) = history'.map (Exchange.mapError forget) ∧
      r.mapError forget = r'.mapError forget := by
  induction h generalizing history history' with
  | done h =>
    cases hmakes
    cases hmakes'
    exact ⟨rfl, h⟩
  | @call o _ _ _ ih =>
    cases hmakes with
    | @call _ _ answer rest _ hmakes =>
      cases hmakes' with
      | @call _ _ answer' rest' _ hmakes' =>
        have hanswer := hanswers [] [] rest rest' o answer answer' rfl rfl rfl
        obtain ⟨hrest, hend⟩ := ih answer answer' hanswer hmakes hmakes' <| by
          rintro before before' after after' o' a a' rfl rfl hbefore
          refine hanswers (⟨o, answer⟩ :: before) (⟨o, answer'⟩ :: before') after after' o' a a' rfl
            rfl ?_
          rw [List.map_cons, List.map_cons, hbefore, Exchange.mapError, Exchange.mapError, hanswer]
        refine ⟨?_, hend⟩
        rw [List.map_cons, List.map_cons, hrest, Exchange.mapError, Exchange.mapError, hanswer]

/-- Alike histories have alike answers. -/
theorem answersAlike_of_map_eq {history history' : List (Exchange Ret ε)}
    (h : history.map (Exchange.mapError forget) = history'.map (Exchange.mapError forget)) :
    AnswersAlike forget history history' := by
  rintro before before' rest rest' o answer answer' rfl rfl hbefore
  rw [List.map_append, List.map_append, hbefore, List.map_cons, List.map_cons] at h
  exact eq_of_heq (Sigma.mk.inj (List.cons.inj (List.append_cancel_left h)).1).2

/-- Answers that are made alike make alike runs. -/
theorem Prog.Alike.play {W W' : World (List (Exchange Ret ε)) Ret ε}
    {answer answer' : List (Exchange Ret ε) → (o : Op) → Except ε (Ret o)}
    (hnext : ∀ s o r, W.next s o r = s ++ [⟨o, r⟩])
    (hnext' : ∀ s o r, W'.next s o r = s ++ [⟨o, r⟩])
    (hanswers : ∀ s s' o, s.map (Exchange.mapError forget) = s'.map (Exchange.mapError forget) →
      (answer s o).mapError forget = (answer' s' o).mapError forget)
    {p p' : Prog Ret ε α} {s s' : List (Exchange Ret ε)} (h : p.Alike forget p')
    (hs : s.map (Exchange.mapError forget) = s'.map (Exchange.mapError forget)) :
    (Coro.play W answer p s).1.map (Exchange.mapError forget) =
      (Coro.play W' answer' p' s').1.map (Exchange.mapError forget) := by
  induction h generalizing s s' with
  | done _ => exact hs
  | @call o _ _ _ ih =>
    refine ih _ _ (hanswers s s' o hs) ?_
    rw [hnext, hnext', List.map_append, List.map_append, hs, List.map_singleton, List.map_singleton,
      Exchange.mapError, Exchange.mapError, hanswers s s' o hs]

end Coro
