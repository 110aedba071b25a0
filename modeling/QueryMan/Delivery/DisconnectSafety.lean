import QueryMan.Delivery.Disconnect

/-!
# No query is left behind

Whatever the order of events, a request that leaves `_until_disconnect` has seen its query end,
unless the `finally` block raised an exception of the watcher while the query ran
(`left_settled_iff`). That takes a cancellation that interrupts `asyncio.wait`, and an exception of
`request.receive`.
-/

namespace QueryMan.UntilDisconnect

open Coro

section
variable {α : Type}

/-! ## What the request relies on -/

/-- What happens while the request waits leaves the tasks that are done, and cancels the request
only if what it waits for is done. -/
structure Rely (s s' : Loop α) : Prop where
  query : s.query.done = true → s'.query = s.query
  disconnected : s.disconnected.done = true → s'.disconnected = s.disconnected
  waiter : s'.waiter = s.waiter
  interrupted : s'.interrupted = s.interrupted
  abandoned : s'.abandoned = s.abandoned
  cancelled : ∀ child, s.waiter = some (.task child) → s'.cancelled = true →
    s.cancelled = true ∨ s'.done child = true
  untouched : s.waiter = some .firstCompleted → s'.query.cancelRequested = s.query.cancelRequested

namespace Rely

variable {s s' s'' : Loop α}

theorem refl (s : Loop α) : Rely s s :=
  ⟨fun _ => rfl, fun _ => rfl, rfl, rfl, rfl, fun _ _ h => .inl h, fun _ => rfl⟩

/-- A task that is done stays done. -/
theorem done (h : Rely s s') {child : Child} (hdone : s.done child = true) :
    s'.done child = true := by
  cases child with
  | query =>
    change s'.query.done = true
    rw [h.query hdone]
    exact hdone
  | disconnected =>
    change s'.disconnected.done = true
    rw [h.disconnected hdone]
    exact hdone

theorem trans (h : Rely s s') (h' : Rely s' s'') : Rely s s'' where
  query := fun hdone => (h'.query (@Rely.done _ _ _ h .query hdone)).trans (h.query hdone)
  disconnected := fun hdone =>
    (h'.disconnected (@Rely.done _ _ _ h .disconnected hdone)).trans (h.disconnected hdone)
  waiter := h'.waiter.trans h.waiter
  interrupted := h'.interrupted.trans h.interrupted
  abandoned := h'.abandoned.trans h.abandoned
  cancelled := fun child hwaiter hcancelled => by
    rcases h'.cancelled child (h.waiter.trans hwaiter) hcancelled with hcancelled | hdone
    · exact (h.cancelled child hwaiter hcancelled).imp_right h'.done
    · exact .inr hdone
  untouched := fun hwaiter =>
    (h'.untouched (h.waiter.trans hwaiter)).trans (h.untouched hwaiter)

/-- Every move of the environment is such. -/
theorem of_env (h : Env s s') : Rely s s' := by
  cases h with
  | queryEnds hrunning r =>
    refine ⟨fun hdone => ?_, fun _ => rfl, rfl, rfl, rfl, fun _ _ h => .inl h, fun _ => rfl⟩
    rw [hrunning] at hdone
    cases hdone
  | watcherEnds hrunning r =>
    refine ⟨fun _ => rfl, fun hdone => ?_, rfl, rfl, rfl, fun _ _ h => .inl h, fun _ => rfl⟩
    rw [hrunning] at hdone
    cases hdone
  | cancelled =>
    unfold Loop.cancelRequest
    split
    · next child hwaiter =>
      split
      · next hdone =>
        refine ⟨fun _ => rfl, fun _ => rfl, rfl, rfl, rfl,
          fun child' hwaiter' _ => ?_, fun _ => rfl⟩
        rw [hwaiter] at hwaiter'
        cases hwaiter'
        exact .inr hdone
      · next hrunning =>
        cases child with
        | query =>
          refine ⟨fun hdone => absurd hdone hrunning, fun _ => rfl, rfl, rfl, rfl,
            fun _ _ h => .inl h, fun hwaiter' => ?_⟩
          rw [hwaiter] at hwaiter'
          cases hwaiter'
        | disconnected =>
          exact ⟨fun _ => rfl, fun hdone => absurd hdone hrunning, rfl, rfl, rfl,
            fun _ _ h => .inl h, fun _ => rfl⟩
    · next hwaiter =>
      refine ⟨fun _ => rfl, fun _ => rfl, rfl, rfl, rfl, fun child' hwaiter' _ => ?_, fun _ => rfl⟩
      rw [hwaiter] at hwaiter'
      cases hwaiter'
    · exact refl s

end Rely

/-! ## How the request is left -/

/-- The query has ended, and no exception of the watcher got in the way. -/
def Ended (s : Loop α) : Prop :=
  s.query.done = true ∧ s.abandoned = false

/-- The query has ended with a result, before the request reacted to anything. -/
def Answered (a : α) (s : Loop α) : Prop :=
  s.query.outcome = some (.ok a) ∧ s.query.cancelRequested = false ∧ s.abandoned = false

/-- The exception of the watcher took the request out of the `finally` block, after a cancellation
had taken it out of `asyncio.wait`. -/
def Abandoned (s : Loop α) : Prop :=
  s.query.done = false ∧ s.abandoned = true ∧ s.interrupted = true ∧ s.disconnected.failed = true

/-- What the request relies on and owes: it is alone, and owes only how it is left. -/
def contract (α : Type) : Contract (system α) where
  inv := fun _ => True
  rely := fun _ => Rely
  gate := fun _ _ _ => True
  idle := fun _ _ => True
  returned := fun _ => Answered
  raised := fun _ _ s => Ended s ∨ Abandoned s

/-- The request's view of the loop. -/
abbrev view (α : Type) : View (Loop α) (Ret α) Raised :=
  (contract α).view ()

/-- The steps of the request and of its environment up to the next answer of a task: the tasks that
are done stay, and nothing is forgotten. -/
structure Ahead (s s' : Loop α) : Prop where
  query : s.query.done = true → s'.query = s.query
  interrupted : s.interrupted = true → s'.interrupted = true
  abandoned : s'.abandoned = s.abandoned

/-- Such steps keep the fact. -/
def Steady (I : Loop α → Prop) : Prop :=
  ∀ s s', Ahead s s' → I s → I s'

theorem Ahead.of_rely {s s' : Loop α} (h : Rely s s') : Ahead s s' :=
  ⟨h.query, fun hi => h.interrupted.trans hi, h.abandoned⟩

theorem steady_ended : @Steady α Ended := by
  rintro s s' h ⟨hdone, habandoned⟩
  refine ⟨?_, h.abandoned.trans habandoned⟩
  rw [h.query hdone]
  exact hdone

theorem steady_answered (a : α) : Steady (Answered a) := by
  rintro s s' h ⟨houtcome, hrequested, habandoned⟩
  have hdone : s.query.done = true := by
    rw [Task.done, houtcome]
    rfl
  rw [Answered, h.query hdone]
  exact ⟨houtcome, hrequested, h.abandoned.trans habandoned⟩

/-- A cancellation has taken the request out of `asyncio.wait`. -/
def Interrupted (s : Loop α) : Prop :=
  s.abandoned = false ∧ s.interrupted = true

theorem steady_interrupted : @Steady α Interrupted :=
  fun _ _ h hs => ⟨h.abandoned.trans hs.1, h.interrupted hs.2⟩

theorem ended_of_answered {a : α} {s : Loop α} (h : Answered a s) : Ended s := by
  refine ⟨?_, h.2.2⟩
  rw [Task.done, h.1]
  rfl

/-! ## Operations -/

variable {I : Loop α → Prop} {E : Raised → Loop α → Prop}

/-- An operation that keeps the turn: it finds the loop as it is. -/
theorem perform_now {o : Op} {P : Loop α → Prop} {Q : Ret α o → Loop α → Prop} (ho : o ≠ .resume)
    (h : ∀ s r s', P s → Step s o r s' → Post Q E r s') :
    SafeTriple (view α) P (perform o) Q E := by
  refine SafeTriple.perform fun s s₁ hP hresumes => ⟨trivial, fun r s' hstep => ?_⟩
  have hsame : s₁ = s := by
    have hsuspends : (system α).suspends () o = false := decide_eq_false ho
    have hif := hresumes.2
    rw [hsuspends] at hif
    exact hif
  exact h s r s' hP (hsame ▸ hstep)

/-- The turn comes back: what was waited for is done, or the request is cancelled. -/
theorem perform_resume {P : Loop α → Prop} {Q : Unit → Loop α → Prop}
    (hok : ∀ s s₁ waiter, P s → Rely s s₁ → s₁.waiter = some waiter → s₁.ready waiter = true →
      Q () { s₁ with waiter := none })
    (hcancelled : ∀ s s₁, P s → Rely s s₁ → s₁.cancelled = true →
      E .cancelledError { s₁ with
        waiter := none
        interrupted := s₁.interrupted || decide (s₁.waiter = some .firstCompleted) }) :
    SafeTriple (view α) P (perform .resume) Q E := by
  refine SafeTriple.perform fun s s₁ hP hresumes => ⟨trivial, fun r s' hstep => ?_⟩
  have hrely : Rely s s₁ := hresumes.2
  cases hstep with
  | resume hwaiter hready _ => exact hok s s₁ _ hP hrely hwaiter hready
  | interrupt h => exact hcancelled s s₁ hP hrely h

/-- The task is done, whether the wait for it returns or is cancelled. -/
theorem waitDone_safe (hI : Steady I) (child : Child) :
    SafeTriple (view α) I (waitDone child) (fun _ s => I s ∧ s.done child = true)
      fun e s => e = .cancelledError ∧ I s ∧ s.done child = true := by
  have hdone : SafeTriple (view α) I (perform (.done child))
      (fun (finished : Bool) s => I s ∧ s.done child = finished)
      fun e s => e = .cancelledError ∧ I s ∧ s.done child = true := by
    refine perform_now nofun fun s r s' hs hstep => ?_
    cases hstep
    exact ⟨hs, rfl⟩
  refine hdone.bind fun (finished : Bool) => .ite (fun hfinished => ?_) fun _ => ?_
  · exact SafeTriple.pure.weaken_pre fun s hs => ⟨hs.1, hs.2.trans hfinished⟩
  · have hblock : SafeTriple (view α) (fun s => I s ∧ s.done child = finished)
        (perform (.block (.task child)))
        (fun (_ : Unit) s => I s ∧ s.waiter = some (.task child) ∧ s.cancelled = false)
        fun e s => e = .cancelledError ∧ I s ∧ s.done child = true := by
      refine perform_now nofun fun s r s' hs hstep => ?_
      cases hstep
      exact ⟨hI s _ ⟨fun _ => rfl, id, rfl⟩ hs.1, rfl, rfl⟩
    refine hblock.bind fun _ => perform_resume (fun s s₁ waiter hs hrely hwaiter hready => ?_)
      fun s s₁ hs hrely hcancelled => ?_
    · obtain ⟨hs, hblocked, -⟩ := hs
      rw [hrely.waiter.trans hblocked] at hwaiter
      cases hwaiter
      have hI₁ : I s₁ := hI _ _ (.of_rely hrely) hs
      exact ⟨hI s₁ _ ⟨fun _ => rfl, id, rfl⟩ hI₁, by cases child <;> exact hready⟩
    · obtain ⟨hs, hblocked, hcalm⟩ := hs
      have hI₁ : I s₁ := hI _ _ (.of_rely hrely) hs
      have hdone₁ : s₁.done child = true := by
        rcases hrely.cancelled child hblocked hcancelled with h | h
        · rw [hcalm] at h
          cases h
        · exact h
      refine ⟨rfl, hI s₁ _ ⟨fun _ => rfl, fun h => ?_, rfl⟩ hI₁, by cases child <;> exact hdone₁⟩
      exact Bool.or_eq_true_iff.2 (.inl h)

/-- `suppress`: what is raised is not the cancellation, or nothing is raised. -/
theorem awaitQuietly_safe {child : Child} {P : Loop α → Prop} {Q : Unit → Loop α → Prop}
    (h : SafeTriple (view α) P (awaitTask child) (fun _ s => Q () s)
      fun e s => if e = .cancelledError then Q () s else E e s) :
    SafeTriple (view α) P (awaitQuietly child) Q E := by
  have hvalue : SafeTriple (view α) P (do let _ ← awaitTask child; pure ()) Q
      fun e s => if e = .cancelledError then Q () s else E e s :=
    h.bind fun _ => SafeTriple.pure
  refine hvalue.tryCatch fun e => .ite (fun he => ?_) fun he => ?_
  · exact SafeTriple.pure.weaken_pre fun s hs => by rwa [if_pos he] at hs
  · exact SafeTriple.throw.weaken_pre fun s hs => by rwa [if_neg he] at hs

/-- Whoever awaits the query goes on when the query is done. -/
theorem awaitQuery_safe (hI : Steady I) :
    SafeTriple (view α) I (awaitQuietly .query) (fun _ s => I s ∧ s.query.done = true)
      fun _ s => I s ∧ s.query.done = true := by
  refine awaitQuietly_safe (SafeTriple.bind ((waitDone_safe hI .query).weaken_exc ?_) fun _ => ?_)
  · rintro e s ⟨rfl, hs⟩
    rw [if_pos rfl]
    exact hs
  · refine perform_now nofun fun s r s' hs hstep => ?_
    cases hstep with
    | resultQuery houtcome =>
      cases r with
      | ok a => exact hs
      | error e => exact (ite_self _).mpr hs

/-- Whoever awaits the watcher may get its exception: then the query is abandoned if it runs. -/
theorem awaitDisconnected_safe (hI : Steady I) (hfresh : ∀ s, I s → s.abandoned = false) :
    SafeTriple (view α) I (awaitQuietly .disconnected) (fun _ => I)
      fun _ s => ∃ s₀, I s₀ ∧ s₀.disconnected.failed = true ∧
        s = { s₀ with abandoned := !s₀.query.done } := by
  refine awaitQuietly_safe
    (SafeTriple.bind ((waitDone_safe hI .disconnected).weaken_exc ?_) fun _ => ?_)
  · rintro e s ⟨rfl, hs, -⟩
    rw [if_pos rfl]
    exact hs
  · refine perform_now nofun fun s r s' hs hstep => ?_
    have hcalm := hfresh s hs.1
    cases hstep with
    | resultDisconnected houtcome =>
      have hkept : s.disconnected.failed = false → I { s with
          abandoned := s.abandoned || (s.disconnected.failed && !s.query.done) } := by
        intro hno
        rw [hno, Bool.false_and, Bool.or_false]
        exact hs.1
      cases r with
      | ok a => exact hkept (by rw [Task.failed, houtcome])
      | error e =>
        by_cases he : e = .cancelledError
        · change if e = .cancelledError then _ else _
          rw [if_pos he]
          exact hkept (by rw [Task.failed, houtcome, he]; rfl)
        · have hfailed : s.disconnected.failed = true := by
            rw [Task.failed, houtcome]
            exact decide_eq_true he
          change if e = .cancelledError then _ else _
          rw [if_neg he]
          exact ⟨s, hs.1, hfailed, by rw [hcalm, hfailed, Bool.false_or, Bool.true_and]⟩

/-! ## The blocks -/

/-- Nothing has happened to the query yet. -/
def Started (s : Loop α) : Prop :=
  s.query.cancelRequested = false ∧ s.abandoned = false

/-- `asyncio.wait`: it tells whether the query is done, or the request is cancelled. -/
theorem waitFirstCompleted_safe :
    SafeTriple (view α) Started waitFirstCompleted
      (fun (done : Bool) s => s.query.done = done ∧ Started s) fun _ => Interrupted := by
  have hblock : SafeTriple (view α) Started (perform (.block .firstCompleted))
      (fun (_ : Unit) s => s.waiter = some .firstCompleted ∧ Started s) fun _ => Interrupted := by
    refine perform_now nofun fun s r s' hs hstep => ?_
    cases hstep
    exact ⟨rfl, hs⟩
  have hkept : ∀ {s s₁ : Loop α}, s.waiter = some .firstCompleted ∧ Started s → Rely s s₁ →
      Started s₁ := fun hs hrely =>
    ⟨(hrely.untouched hs.1).trans hs.2.1, hrely.abandoned.trans hs.2.2⟩
  have hresume : SafeTriple (view α) (fun s => s.waiter = some .firstCompleted ∧ Started s)
      (perform .resume) (fun (_ : Unit) => Started) fun _ => Interrupted := by
    refine perform_resume (fun s s₁ waiter hs hrely _ _ => ?_) fun s s₁ hs hrely _ => ?_
    · have hstarted : Started s₁ := hkept hs hrely
      exact hstarted
    · have hstarted : Started s₁ := hkept hs hrely
      refine ⟨hstarted.2, ?_⟩
      rw [hrely.waiter, hs.1]
      exact Bool.or_true _
  refine SafeTriple.bind (hblock.bind fun _ => hresume) fun _ => ?_
  refine perform_now nofun fun s r s' hs hstep => ?_
  cases hstep
  exact ⟨rfl, hs⟩

/-- The `try` block: the query has ended, or the wait was interrupted. -/
theorem reactFirst_safe :
    SafeTriple (view α) Started reactFirst Answered fun _ s => Ended s ∨ Interrupted s := by
  refine SafeTriple.bind (waitFirstCompleted_safe.weaken_exc fun _ s => .inr) fun (done : Bool) =>
    .ite (fun hdone => ?_) fun _ => ?_
  · refine perform_now nofun fun s r s' hs hstep => ?_
    cases hstep with
    | resultQuery houtcome =>
      cases r with
      | ok a => exact ⟨houtcome, hs.2.1, hs.2.2⟩
      | error e => exact .inl ⟨hs.1.trans hdone, hs.2.2⟩
  · -- the request reacts, and stays until the query has ended
    have hcancel : SafeTriple (view α) (fun s => s.query.done = done ∧ Started s)
        (perform (.cancel .query)) (fun (_ : Unit) s => s.abandoned = false)
        fun _ s => Ended s ∨ Interrupted s := by
      refine perform_now nofun fun s r s' hs hstep => ?_
      cases hstep
      exact hs.2.2
    have hsteady : Steady fun s : Loop α => s.abandoned = false :=
      fun s s' h hs => h.abandoned.trans hs
    have hawait : SafeTriple (view α) (fun s => s.abandoned = false) (awaitQuietly .query)
        (fun _ => Ended) fun _ s => Ended s ∨ Interrupted s :=
      (awaitQuery_safe hsteady).conseq (fun _ h => h) (fun _ s h => ⟨h.2, h.1⟩) fun _ s h =>
        .inl ⟨h.2, h.1⟩
    exact hcancel.bind fun _ => SafeTriple.bind hawait fun _ =>
      SafeTriple.throw.weaken_pre fun s h => .inl h

/-- The `finally` block, where the query has ended. -/
theorem settle_safe_of_ended (hI : Steady I) (hended : ∀ s, I s → Ended s) :
    SafeTriple (view α) I settle (fun _ => I) fun _ => Ended := by
  have hcancel : SafeTriple (view α) I (perform (.cancel .disconnected)) (fun (_ : Unit) => I)
      fun _ => Ended := by
    refine perform_now nofun fun s r s' hs hstep => ?_
    cases hstep
    exact hI s _ ⟨fun _ => rfl, id, rfl⟩ hs
  have hawait : SafeTriple (view α) I (awaitQuietly .disconnected) (fun _ => I) fun _ => Ended := by
    refine (awaitDisconnected_safe hI fun s hs => (hended s hs).2).weaken_exc ?_
    rintro e s ⟨s₀, hs₀, -, rfl⟩
    have hdone := (hended s₀ hs₀).1
    exact ⟨hdone, by rw [hdone]; rfl⟩
  have hdone : SafeTriple (view α) I (perform (.done .query))
      (fun (done : Bool) s => done = true ∧ I s) fun _ => Ended := by
    refine perform_now nofun fun s r s' hs hstep => ?_
    cases hstep
    exact ⟨(hended s hs).1, hs⟩
  refine hcancel.bind fun _ => hawait.bind fun _ => hdone.bind fun (done : Bool) =>
    .ite (fun _ => ?_) fun hno => ?_
  · exact SafeTriple.pure.weaken_pre fun s hs => hs.2
  · exact fun s hs => absurd hs.1 hno

/-- The `finally` block after an interruption: it awaits the query, unless the watcher raises. -/
theorem settle_safe_of_interrupted :
    SafeTriple (view α) Interrupted settle (fun _ => Ended) fun _ s => Ended s ∨ Abandoned s := by
  have hcancel : SafeTriple (view α) Interrupted (perform (.cancel .disconnected))
      (fun (_ : Unit) => Interrupted) fun _ s => Ended s ∨ Abandoned s := by
    refine perform_now nofun fun s r s' hs hstep => ?_
    cases hstep
    exact hs
  have hawait : SafeTriple (view α) Interrupted (awaitQuietly .disconnected)
      (fun _ => Interrupted) fun _ s => Ended s ∨ Abandoned s := by
    refine (awaitDisconnected_safe steady_interrupted fun s hs => hs.1).weaken_exc ?_
    rintro e s ⟨s₀, hs₀, hfailed, rfl⟩
    cases hdone : s₀.query.done with
    | true => exact .inl ⟨hdone, rfl⟩
    | false => exact .inr ⟨hdone, rfl, hs₀.2, hfailed⟩
  have hdone : SafeTriple (view α) Interrupted (perform (.done .query))
      (fun (done : Bool) s => s.query.done = done ∧ Interrupted s)
      fun _ s => Ended s ∨ Abandoned s := by
    refine perform_now nofun fun s r s' hs hstep => ?_
    cases hstep
    exact ⟨rfl, hs⟩
  refine hcancel.bind fun _ => hawait.bind fun _ => hdone.bind fun (done : Bool) =>
    .ite (fun htrue => ?_) fun _ => ?_
  · exact SafeTriple.pure.weaken_pre fun s hs => ⟨hs.1.trans htrue, hs.2.1⟩
  · have hask : SafeTriple (view α) (fun s => s.query.done = done ∧ Interrupted s)
        (perform (.cancel .query)) (fun (_ : Unit) => Interrupted)
        fun _ s => Ended s ∨ Abandoned s := by
      refine perform_now nofun fun s r s' hs hstep => ?_
      cases hstep
      exact hs.2
    exact hask.bind fun _ => (awaitQuery_safe steady_interrupted).conseq (fun _ h => h)
      (fun _ s h => ⟨h.2, h.1.1⟩) fun _ s h => .inl ⟨h.2, h.1.1⟩

/-- `_until_disconnect` meets its contract. -/
theorem untilDisconnect_meets (s : Loop α) : (contract α).Meets () untilDisconnect s := by
  have hquery : SafeTriple (view α) (fun _ => True) (perform (.createTask .query))
      (fun (_ : Unit) => Started) fun _ s => Ended s ∨ Abandoned s := by
    refine perform_now nofun fun s r s' _ hstep => ?_
    cases hstep
    exact ⟨rfl, rfl⟩
  have hwatcher : SafeTriple (view α) Started (perform (.createTask .disconnected))
      (fun (_ : Unit) => Started) fun _ s => Ended s ∨ Abandoned s := by
    refine perform_now nofun fun s r s' hs hstep => ?_
    cases hstep
    exact hs
  have hwhole : SafeTriple (view α) (fun _ => True) untilDisconnect Answered
      fun _ s => Ended s ∨ Abandoned s := by
    refine hquery.bind fun _ => hwatcher.bind fun _ =>
      reactFirst_safe.tryFinally (fun a => ?_) fun e => ?_
    · exact (settle_safe_of_ended (steady_answered a) fun s => ended_of_answered).weaken_exc
        fun _ s h => .inl h
    · intro s hs
      rcases hs with hs | hs
      · exact (settle_safe_of_ended steady_ended fun _ h => h).conseq (fun _ h => h)
          (fun _ s h => Or.inl h) (fun _ s h => Or.inl h) s hs
      · exact settle_safe_of_interrupted.weaken_post (fun _ s h => Or.inl h) s hs
  exact hwhole s trivial

theorem contract_lawful : (contract α).Lawful where
  rely_refl := fun _ => Rely.refl
  rely_trans := fun _ _ _ _ => Rely.trans
  guarantee := fun i _ _ _ _ _ _ _ => ⟨trivial, fun j hj => absurd (Subsingleton.elim j i) hj⟩
  env_guarantee := fun _ _ _ henv => ⟨trivial, fun _ => .of_env henv⟩
  idle_stable := fun _ _ _ _ _ => trivial
  meets := fun _ p s hstarts _ _ => by
    cases hstarts
    exact untilDisconnect_meets s
  idle_of_returned := fun _ _ _ _ => trivial
  idle_of_raised := fun _ _ _ _ => trivial

/-! ## Every run -/

/-- The configurations that the request can reach. -/
abbrev Reachable (c : Config (Loop α) (fun _ : Unit => Ret α) Raised fun _ : Unit => α) : Prop :=
  (system α).Reachable (.idle α) c

/-- The request left `_until_disconnect`, and has left no query behind: the query has ended, and if
its result is returned, it ended before the request reacted to a disconnect. -/
structure Settled (s : Loop α) (r : Except Raised α) : Prop where
  finished : s.query.done = true
  result : ∀ a, r = .ok a → s.query.outcome = some (.ok a) ∧ s.query.cancelRequested = false

/-- How every run leaves. -/
theorem left_of_reachable {c : Config (Loop α) (fun _ : Unit => Ret α) Raised fun _ : Unit => α}
    (h : Reachable c) {r : Except Raised α} (hleft : c.tasks () = some (.done r)) :
    Post Answered (fun _ s => Ended s ∨ Abandoned s) r c.shared := by
  have hkept := Contract.kept contract_lawful trivial (fun _ => trivial) h
  have hturn : c.turn = some () := by
    by_contra hno
    have hsuspended := (hkept.waiting () _ hleft hno).1
    cases hsuspended
  exact hkept.finish hturn hleft

/-- **A disconnected or cancelled request leaves no query behind, exactly if** the `finally` block
has raised no exception of the watcher while the query ran. Where it has, a cancellation had
interrupted `asyncio.wait`. -/
theorem left_settled_iff {c : Config (Loop α) (fun _ : Unit => Ret α) Raised fun _ : Unit => α}
    (h : Reachable c) {r : Except Raised α} (hleft : c.tasks () = some (.done r)) :
    (Settled c.shared r ↔ c.shared.abandoned = false) ∧
      (c.shared.abandoned = true →
        c.shared.interrupted = true ∧ c.shared.disconnected.failed = true) := by
  have hpost := left_of_reachable h hleft
  cases r with
  | ok a =>
    have hended : Ended c.shared := ended_of_answered hpost
    obtain ⟨houtcome, hrequested, hcalm⟩ : Answered a c.shared := hpost
    refine ⟨iff_of_true ⟨hended.1, fun b hb => ?_⟩ hcalm, fun hno => ?_⟩
    · cases hb
      exact ⟨houtcome, hrequested⟩
    · rw [hcalm] at hno
      cases hno
  | error e =>
    rcases hpost with ⟨hdone, hcalm⟩ | ⟨hrunning, habandoned, hinterrupted, hfailed⟩
    · refine ⟨iff_of_true ⟨hdone, nofun⟩ hcalm, fun hno => ?_⟩
      rw [hcalm] at hno
      cases hno
    · refine ⟨iff_of_false (fun hsettled => ?_) ?_, fun _ => ⟨hinterrupted, hfailed⟩⟩
      · have hfinished := hsettled.finished
        rw [hrunning] at hfinished
        cases hfinished
      · rw [habandoned]
        exact Bool.true_eq_false.mp

end

/-! ## Two runs -/

/-- The query answers, and the watcher ends when it is cancelled. -/
theorem answeredRun :
    ∃ c : Config (Loop String) (fun _ : Unit => Ret String) Raised fun _ : Unit => String,
    Reachable c ∧ c.tasks () = some (.done (.ok "rows")) ∧ c.shared.abandoned = false := by
  have h₀ : Reachable (α := String) _ := .step .initial (.start (i := ()) rfl rfl rfl)
  have h₁ := h₀.act (i := ()) rfl (.inr rfl) (.ok ()) _ (.createQuery _)
  have h₂ := h₁.act (i := ()) rfl (.inr rfl) (.ok ()) _ (.createDisconnected _)
  have h₃ := h₂.act (i := ()) rfl (.inr rfl) (.ok ()) _ (.block _ _)
  have h₄ := h₃.move rfl (.queryEnds rfl (.ok "rows"))
  have h₅ := h₄.act (i := ()) rfl (.inl rfl) (.ok ()) _ (.resume rfl rfl rfl)
  have h₆ := h₅.act (i := ()) rfl (.inr rfl) (.ok true) _ (.done _ _)
  have h₇ := h₆.act (i := ()) rfl (.inr rfl) (.ok "rows") _ (.resultQuery rfl)
  have h₈ := h₇.act (i := ()) rfl (.inr rfl) (.ok ()) _ (.cancel _ _)
  have h₉ := h₈.act (i := ()) rfl (.inr rfl) (.ok false) _ (.done _ _)
  have h₁₀ := h₉.act (i := ()) rfl (.inr rfl) (.ok ()) _ (.block _ _)
  have h₁₁ := h₁₀.move rfl (.watcherEnds rfl (.error .cancelledError))
  have h₁₂ := h₁₁.act (i := ()) rfl (.inl rfl) (.ok ()) _ (.resume rfl rfl rfl)
  have h₁₃ := h₁₂.act (i := ()) rfl (.inr rfl) (.error .cancelledError) _ (.resultDisconnected rfl)
  have h₁₄ := h₁₃.act (i := ()) rfl (.inr rfl) (.ok true) _ (.done _ _)
  exact ⟨_, h₁₄, rfl, rfl⟩

/-- **A query is left behind**: the request is cancelled while it waits, and the watcher ends with
an exception of `request.receive`. -/
theorem abandonedRun :
    ∃ c : Config (Loop String) (fun _ : Unit => Ret String) Raised fun _ : Unit => String,
    ∃ r, Reachable c ∧ c.tasks () = some (.done r) ∧ c.shared.query.outcome = none ∧
      c.shared.query.cancelRequested = false ∧ ¬ Settled c.shared r := by
  have h₀ : Reachable (α := String) _ := .step .initial (.start (i := ()) rfl rfl rfl)
  have h₁ := h₀.act (i := ()) rfl (.inr rfl) (.ok ()) _ (.createQuery _)
  have h₂ := h₁.act (i := ()) rfl (.inr rfl) (.ok ()) _ (.createDisconnected _)
  have h₃ := h₂.act (i := ()) rfl (.inr rfl) (.ok ()) _ (.block _ _)
  have h₄ := h₃.move rfl (.cancelled _)
  have h₅ := h₄.act (i := ()) rfl (.inl rfl) (.error .cancelledError) _ (.interrupt rfl)
  have h₆ := h₅.act (i := ()) rfl (.inr rfl) (.ok ()) _ (.cancel _ _)
  have h₇ := h₆.act (i := ()) rfl (.inr rfl) (.ok false) _ (.done _ _)
  have h₈ := h₇.act (i := ()) rfl (.inr rfl) (.ok ()) _ (.block _ _)
  have h₉ := h₈.move rfl (.watcherEnds rfl (.error (.other "RuntimeError")))
  have h₁₀ := h₉.act (i := ()) rfl (.inl rfl) (.ok ()) _ (.resume rfl rfl rfl)
  have h₁₁ := h₁₀.act (i := ()) rfl (.inr rfl) (.error (.other "RuntimeError")) _
    (.resultDisconnected rfl)
  refine ⟨_, .error (.other "RuntimeError"), h₁₁, rfl, rfl, rfl, fun hsettled => ?_⟩
  have hfinished := hsettled.finished
  cases hfinished

/-- A run that leaves no query behind. -/
theorem left_settled_iff_answered :
    ∃ c : Config (Loop String) (fun _ : Unit => Ret String) Raised fun _ : Unit => String,
      c.tasks () = some (.done (.ok "rows")) ∧ c.shared.abandoned = false ∧
        (Settled c.shared (.ok "rows") ↔ c.shared.abandoned = false) := by
  obtain ⟨c, hreach, hleft, hcalm⟩ := answeredRun
  exact ⟨c, hleft, hcalm, (left_settled_iff hreach hleft).1⟩

end QueryMan.UntilDisconnect
