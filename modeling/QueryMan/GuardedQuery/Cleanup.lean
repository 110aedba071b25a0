import QueryMan.GuardedQuery.FaultInjection

/-!
# Rollback and verdict under failing cleanup

A transaction that was begun is rolled back or committed before its connection is given up, and a
call whose deadline struck ends as `QUERY_TIMEOUT` without lowering the query health
(`CleanupHolds`). `except asyncio.CancelledError` of `_execute_connection` awaits `cancel_safe`
before the rollback and catches nothing of it: where `cancel_safe` raises, both parts fail
(`cancelSafeRaises_cleanupFails`). They hold in every run in which it returns and the caller does
not cancel the task that the deadline has struck (`cleanup_holds`).
-/

namespace QueryMan.PostgresQueryExecutor

open Coro

section

variable {Row α : Type}

/-! ## What cleanup owes -/

/-- The first cancellation that was delivered. -/
def firstCancellation (log : Log Row) : Option Exc :=
  (log.filterMap raisedBy).find? Exc.isCancelled

@[simp] theorem firstCancellation_concat (log : Log Row) (event : Event Row) :
    firstCancellation (log ++ [event]) =
      (firstCancellation log).or ((raisedBy event).filter Exc.isCancelled) := by
  rw [firstCancellation, List.filterMap_append, List.find?_append, ← firstCancellation]
  congr 1
  cases h : raisedBy event with
  | none => simp [h]
  | some e =>
    cases hc : e.isCancelled <;> simp [h, hc, Option.filter_some]

/-- The run was struck by the deadline of its transaction. -/
def StruckByDeadline (log : Log Row) : Prop :=
  firstCancellation log = some (.cancelled .deadline)

/-- The query health of no source was lowered. -/
def HealthKept (log : Log Row) : Prop :=
  ∀ sourceId r, ⟨.setSourceQueryHealth sourceId .unavailable, r⟩ ∉ log

/-- A rollback was attempted. -/
def RollbackAttempted (log : Log Row) : Prop :=
  ∃ r, ⟨.rollback, r⟩ ∈ log

/-- `_execute_connection` was left, after its last statement, with a commit or a rollback behind it.
-/
def LeftClean (log : Log Row) : Prop :=
  ∃ before r after, log = before ++ ⟨.lockActive .deregister, r⟩ :: after ∧ sent after = [] ∧
    (Answered .commit before ∨ RollbackAttempted before)

/-- What a run owes, whatever its cleanup calls do. -/
structure CleanupHolds (log : Log Row) (result : Except Exc α) : Prop where
  rolledBack : .beginTransaction ∈ sent log → LeftClean log
  verdict : StruckByDeadline log → result = .error (.app .queryTimeout) ∧ HealthKept log

/-! ## The condition -/

/-- The condition on a step: `cancel_safe` returns, and the caller does not cancel a task that the
deadline has struck. The third part is about the pool: leaving its block with an exception raises
nothing but a cancellation, since the driver logs what the rollback of the block raises. -/
def CleanupSucceeds (log : Log Row) (o : Op) (r : Except Exc (Ret Row o)) : Prop :=
  ∀ e, r = .error e →
    o ≠ .cancelSafe ∧ (e.byCaller = true → ¬ StruckByDeadline log) ∧
      (o = .returnConnection true → e.isCancelled = true)

/-- The world of the runs that meet the condition. -/
abbrev calmWorld (Row : Type) (live : LiveCatalog) : World (Log Row) (Ret Row) Exc :=
  (world Row live).restrict CleanupSucceeds

end

section

variable {Row Json α : Type} {live : LiveCatalog}

/-! ## The rollback -/

/-- A fact that stays is kept by every operation. -/
theorem Stable.keeps {W : World (Log Row) (Ret Row) Exc} {F : Log Row → Prop} {p : Exec Row α}
    (hnext : ∀ log o r, W.next log o r = log ++ [⟨o, r⟩]) (hF : Stable F) : Keeps W F p :=
  keeps_of_step (fun log o r h _ => hnext log o r ▸ hF log _ h) p

/-- A rollback is an attempt, however it ends. -/
theorem rollbackQuietly_attempts :
    Triple (calmWorld Row live) (fun _ => True) rollbackQuietly (fun _ => RollbackAttempted)
      fun _ => RollbackAttempted :=
  quietly_spec <| perform_spec
    (fun _ _ _ _ => ⟨_, List.mem_append_right _ List.mem_cons_self⟩)
    fun _ _ _ _ => ⟨_, List.mem_append_right _ List.mem_cons_self⟩

/-- Both `except` blocks attempt the rollback, since `cancel_safe` returns. -/
theorem cleanUp_attempts {Q : α → Log Row → Prop} (e : Exc) :
    Triple (calmWorld Row live) (fun _ => True) (cleanUp e) Q fun _ => RollbackAttempted := by
  have hquietly : Triple (calmWorld Row live) (fun _ => True) rollbackQuietly
      (fun _ => RollbackAttempted) fun _ => RollbackAttempted := rollbackQuietly_attempts
  have hrollback := Triple.bind hquietly fun _ => throw_spec (Q := Q) e
  refine .ite (fun _ => Triple.bind (Q := fun _ _ => True) ?_ fun _ => hrollback) fun _ => hrollback
  exact perform_spec (fun _ _ _ _ => trivial) fun _ e' _ h => absurd rfl (h.2 e' rfl).1

/-- `_execute_connection` ends with an answered `COMMIT` or a rollback. -/
theorem executeConnection_attempts {encodeRow : RowEncoder Row Json} {source : SourceProfile}
    {sql metadataRevision : String} {validated : ValidatedSql} {queueMs : Int} {queryId : String} :
    Triple (calmWorld Row live) (fun _ => True)
      (executeConnection encodeRow source sql metadataRevision validated queueMs queryId)
      (fun _ => Answered .commit) fun _ => RollbackAttempted := by
  have hlocal : ∀ {o : Op} {I : Log Row → Prop}, (∀ e, o.canRaise e = false) → Stable I →
      Triple (calmWorld Row live) I (perform o) (fun _ => I) fun _ => RollbackAttempted :=
    fun hnever hI => local_spec (fun e _ h => Bool.noConfusion ((hnever e).symm.trans h.1.1))
      (hI.keeps fun _ _ _ => rfl)
  have hcommit : Triple (calmWorld Row live) (fun _ => True)
      (runTransaction encodeRow source sql validated queryId) (fun _ => Answered .commit)
      fun _ _ => True := by
    refine Triple.bind (keeps_true _) fun plan => Triple.bind (keeps_true _) ?_
    rintro ⟨columns, fetched⟩
    refine Triple.bind (Q := fun _ => Answered .commit) (perform_spec
      (fun _ answer _ _ => ⟨answer, List.mem_append_right _ List.mem_cons_self⟩)
      fun _ _ _ _ => trivial) fun _ => ?_
    refine Triple.bind (Q := fun _ => Answered .commit) (perform_spec
      (fun log _ h _ => stable_answered .commit log _ h) fun _ _ _ _ => trivial) fun _ => ?_
    exact Triple.pure.weaken_pre fun _ h => h
  have hcounts : ∀ {o : Op}, (∀ e, o.canRaise e = false) → Triple (calmWorld Row live)
      (Answered .commit) (perform o) (fun _ => Answered .commit) fun _ => RollbackAttempted :=
    fun hnever => hlocal hnever (stable_answered .commit)
  refine Triple.bind (hlocal (fun _ => rfl) fun _ _ _ => trivial) fun startedAt => ?_
  refine Triple.bind (hcommit.tryCatch cleanUp_attempts) fun outcome => ?_
  refine Triple.bind (hcounts fun _ => rfl) fun now => ?_
  refine Triple.bind (hcounts fun _ => rfl) fun _ => ?_
  refine Triple.bind (hcounts fun _ => rfl) fun _ => ?_
  refine Triple.bind (.ite (fun _ => hcounts fun _ => rfl) fun _ =>
    Triple.pure.weaken_pre fun _ h => h) fun _ => ?_
  exact Triple.pure.weaken_pre fun _ h => h

/-- Nothing was sent, or the connection was left clean. -/
def SettledOrIdle (log : Log Row) : Prop :=
  sent log = [] ∨ LeftClean log

theorem LeftClean.concat_quiet {log : Log Row} {event : Event Row}
    (hquiet : event.1.statement = none) (h : LeftClean log) : LeftClean (log ++ [event]) := by
  obtain ⟨before, r, after, rfl, hafter, hclean⟩ := h
  refine ⟨before, r, after ++ [event], ?_, ?_, hclean⟩
  · rw [List.append_assoc, List.cons_append]
  · rw [sent_concat, hafter, hquiet]
    rfl

/-- The descriptions that the layers around a connection keep. -/
theorem layers_rollback :
    Layers (calmWorld Row live) (fun log => sent log = []) SettledOrIdle SettledOrIdle := by
  have hidle : ∀ o : Op, o.statement = none →
      Keeps (calmWorld Row live) (fun log => sent log = []) (perform o) := by
    intro o ho
    refine .perform fun log r (h : sent log = []) _ => ?_
    change sent (log ++ [⟨o, r⟩]) = []
    rw [sent_concat, h, ho]
    rfl
  have hsettled : ∀ o : Op, o.statement = none →
      Keeps (calmWorld Row live) SettledOrIdle (perform o) := by
    intro o ho
    refine Triple.of_or ?_ ?_
    · exact (hidle o ho).conseq (fun _ h => h) (fun _ _ => .inl) fun _ _ => .inl
    · exact (Keeps.perform fun _ _ h _ => h.concat_quiet ho).conseq (fun _ h => h)
        (fun _ _ => .inr) fun _ _ => .inr
  exact ⟨hidle, hsettled, hsettled, fun _ => .inl, fun _ h => h⟩

/-- The use of a connection ends clean. -/
theorem useConnection_clean {encodeRow : RowEncoder Row Json} {source : SourceProfile}
    {sql metadataRevision : String} {validated : ValidatedSql} {queueMs : Int} {queryId : String} :
    Triple (calmWorld Row live) (fun log => sent log = [])
      (useConnection encodeRow source sql metadataRevision validated queueMs queryId)
      (fun _ => SettledOrIdle) fun _ => SettledOrIdle := by
  have hidle : ∀ {o : Op}, o.statement = none → Keeps (calmWorld Row live)
      (fun log => sent log = []) (perform o) := fun ho => layers_rollback.idle_keeps _ ho
  have hcheck : Keeps (calmWorld Row live) (fun log => sent log = []) (checkConnection source) :=
    .tryCatch ((hidle rfl).bind fun _ => .lift) fun e =>
      .ite (Keeps.bind (quietly_spec (hidle rfl)) fun _ => .throw) .throw
  have hderegister : Triple (calmWorld Row live)
      (fun log => Answered .commit log ∨ RollbackAttempted log)
      (do
        perform (.lockActive .deregister)
        perform (.popActive queryId))
      (fun _ => SettledOrIdle) fun _ => SettledOrIdle := by
    refine Triple.bind (Q := fun _ => SettledOrIdle) (perform_spec
      (fun log _ h _ => .inr ⟨log, _, [], rfl, rfl, h⟩)
      fun log _ h _ => .inr ⟨log, _, [], rfl, rfl, h⟩) fun _ => ?_
    exact layers_rollback.finished_keeps _ rfl
  refine Triple.bind (layers_rollback.before hcheck) fun _ => ?_
  refine Triple.bind (layers_rollback.before (hidle rfl)) fun _ => ?_
  refine Triple.bind (layers_rollback.before (hidle rfl)) fun _ => ?_
  exact Triple.tryFinally (executeConnection_attempts.weaken_pre fun _ _ => trivial)
    (fun _ => hderegister.weaken_pre fun _ => .inl) fun _ => hderegister.weaken_pre fun _ => .inr

/-! ## The verdict, inside the timeout -/

/-- The operations that neither move the timeout nor lower the health. -/
def Op.isPlain : Op → Bool
  | .enterTimeout _ | .exitTimeout => false
  | .setSourceQueryHealth _ status => status ≠ .unavailable
  | _ => true

theorem advance_of_isPlain {o : Op} (ho : o.isPlain = true) (timeout : Timeout)
    (r : Except Exc (Ret Row o)) : timeout.advance ⟨o, r⟩ = timeout.answered r := by
  cases o <;> first | rfl | cases ho

theorem HealthKept.concat {log : Log Row} {o : Op} {r : Except Exc (Ret Row o)}
    (ho : o.isPlain = true ∨ ∃ timeoutMs, o = .enterTimeout timeoutMs ∨ o = .exitTimeout)
    (h : HealthKept log) : HealthKept (log ++ [⟨o, r⟩]) := by
  intro sourceId r' hmem
  rcases List.mem_append.1 hmem with hmem | hmem
  · exact h sourceId r' hmem
  · cases List.mem_singleton.1 hmem
    rcases ho with ho | ⟨timeoutMs, ho | ho⟩ <;> cases ho

/-- The state of the timeout inside its block: it is as it was entered until a cancellation is
delivered, and it has expired if that was its own. -/
structure InBlock (log : Log Row) : Prop where
  healthKept : HealthKept log
  entered : firstCancellation log = none → timeoutAfter log = ⟨.entered, 0⟩
  expiring : StruckByDeadline log → timeoutAfter log = ⟨.expiring, 0⟩

/-- What an answer without a cancellation leaves as it was. -/
theorem firstCancellation_of_not_cancelled {log : Log Row} {o : Op} {r : Except Exc (Ret Row o)}
    (hr : ∀ e, r = .error e → e.isCancelled = false) :
    firstCancellation (log ++ [⟨o, r⟩]) = firstCancellation log := by
  rw [firstCancellation_concat]
  cases r with
  | ok a => exact Option.or_none
  | error e =>
    change (firstCancellation log).or ((some e).filter Exc.isCancelled) = _
    rw [Option.filter_some, hr e rfl]
    exact Option.or_none

/-- A cancellation is the deadline's, the caller's or both. -/
theorem byDeadline_or_byCaller {e : Exc} (h : e.isCancelled = true) :
    e.byDeadline = true ∨ e.byCaller = true := by
  cases e with
  | cancelled canceller =>
    cases canceller
    · exact .inl rfl
    · exact .inr rfl
    · exact .inl rfl
  | _ => cases h

/-- **The block's invariant is kept by every plain step** that meets the condition. -/
theorem InBlock.step {log : Log Row} {o : Op} {r : Except Exc (Ret Row o)} (h : InBlock log)
    (ho : o.isPlain = true) (hallowed : (calmWorld Row live).allowed log o r) :
    InBlock (log ++ [⟨o, r⟩]) := by
  have hhealth : HealthKept (log ++ [⟨o, r⟩]) := h.healthKept.concat (.inl ho)
  have htimeout : timeoutAfter (log ++ [⟨o, r⟩]) = (timeoutAfter log).answered r := by
    rw [timeoutAfter_concat, advance_of_isPlain ho]
  by_cases hcancelled : ∃ e, r = .error e ∧ e.isCancelled = true
  · obtain ⟨e, rfl, he⟩ := hcancelled
    obtain ⟨⟨-, hdeadline⟩, hmeets⟩ := hallowed
    have hfirst : firstCancellation (log ++ [⟨o, .error e⟩]) =
        (firstCancellation log).or (some e) := by
      rw [firstCancellation_concat]
      change (firstCancellation log).or ((some e).filter Exc.isCancelled) = _
      rw [Option.filter_some, he]
      rfl
    refine ⟨hhealth, fun hnone => ?_, fun hstruck => ?_⟩
    · rw [hfirst, Option.or_eq_none_iff] at hnone
      cases hnone.2
    · rw [StruckByDeadline, hfirst] at hstruck
      cases hbefore : firstCancellation log with
      | none =>
        rw [hbefore] at hstruck
        cases hstruck
        rw [htimeout, h.entered hbefore]
        rfl
      | some e' =>
        -- the deadline has struck before: it cannot strike twice, and the caller does not cancel
        rw [hbefore] at hstruck
        have hbefore : StruckByDeadline log := hbefore.trans hstruck
        rcases byDeadline_or_byCaller he with he | he
        · have hstate := hdeadline he
          rw [h.expiring hbefore] at hstate
          cases hstate
        · exact absurd hbefore ((hmeets e rfl).2.1 he)
  · have hr : ∀ e, r = .error e → e.isCancelled = false :=
      fun e he => Bool.eq_false_iff.2 fun hc => hcancelled ⟨e, he, hc⟩
    have hsame : timeoutAfter (log ++ [⟨o, r⟩]) = timeoutAfter log := by
      rw [htimeout]
      cases r with
      | ok a => rfl
      | error e =>
        have he := hr e rfl
        have hdeadline : e.byDeadline = false :=
          Bool.eq_false_iff.2 fun h =>
            Bool.noConfusion (he.symm.trans (Exc.isCancelled_of_byDeadline h))
        have hcaller : e.byCaller = false :=
          Bool.eq_false_iff.2 fun h =>
            Bool.noConfusion (he.symm.trans (Exc.isCancelled_of_byCaller h))
        simp only [Timeout.answered, Timeout.raised, hdeadline, hcaller]
        rfl
    have hfirst : firstCancellation (log ++ [⟨o, r⟩]) = firstCancellation log :=
      firstCancellation_of_not_cancelled hr
    refine ⟨hhealth, fun hnone => ?_, fun hstruck => ?_⟩
    · rw [hsame]
      exact h.entered (hfirst ▸ hnone)
    · rw [hsame]
      exact h.expiring (hfirst.symm.trans hstruck)

/-- Inside the timeout, with no cancellation so far. -/
def Undisturbed (log : Log Row) : Prop :=
  firstCancellation log = none ∧ InBlock log

/-- Inside the timeout, with an exception on its way: if a cancellation was delivered, the exception
is one. -/
def Disturbed (e : Exc) (log : Log Row) : Prop :=
  (e.isCancelled = true ∨ firstCancellation log = none) ∧ InBlock log

/-- A program that turns no cancellation into another exception. -/
def Orderly (live : LiveCatalog) (p : Exec Row α) : Prop :=
  Triple (calmWorld Row live) Undisturbed p (fun _ => Undisturbed) Disturbed

namespace Orderly

variable {p : Exec Row α} {β : Type} {f : α → Exec Row β}

/-- A plain operation. -/
theorem perform {o : Op} (ho : o.isPlain = true) :
    Orderly live (perform o : Exec Row (Ret Row o)) := by
  refine perform_spec (fun log a h hallowed => ⟨?_, h.2.step ho hallowed⟩)
    fun log e h hallowed => ⟨?_, h.2.step ho hallowed⟩
  · exact (firstCancellation_of_not_cancelled fun e he => by cases he).trans h.1
  · cases he : e.isCancelled with
    | true => exact .inl rfl
    | false =>
      right
      refine (firstCancellation_of_not_cancelled fun e' he' => ?_).trans h.1
      cases he'
      exact he

theorem pure {a : α} : Orderly live (Pure.pure a : Exec Row α) :=
  Triple.pure.weaken_pre fun _ h => h

theorem throw {e : Exc} : Orderly live (throw e : Exec Row α) :=
  Triple.throw.weaken_pre fun _ h => ⟨.inr h.1, h.2⟩

theorem lift {x : Except Exc α} : Orderly live (.lift x : Exec Row α) := by
  cases x with
  | ok a => exact pure
  | error e => exact throw

theorem bind (hp : Orderly live p) (hf : ∀ a, Orderly live (f a)) : Orderly live (p >>= f) :=
  Triple.bind hp hf

theorem ite {c : Prop} [Decidable c] {q : Exec Row α} (hp : Orderly live p) (hq : Orderly live q) :
    Orderly live (if c then p else q) :=
  Triple.ite (fun _ => hp) fun _ => hq

/-- Swallowing an exception that is no cancellation leaves the block undisturbed. -/
theorem quietly {p : Exec Row Unit} (hp : Orderly live p) : Orderly live (quietly p) :=
  Triple.tryCatch hp fun _ => .ite (fun _ => Triple.throw.weaken_pre fun _ h => h) fun he =>
    Triple.pure.weaken_pre fun _ h => ⟨h.1.resolve_left he, h.2⟩

end Orderly

/-- Raising on the way out. -/
theorem rethrow_spec {Q : α → Log Row → Prop} (e : Exc) :
    Triple (calmWorld Row live) (Disturbed e) (throw e : Exec Row α) Q Disturbed :=
  Triple.throw.weaken_pre fun _ h => h

/-- A plain operation on the way out, if all it may raise is a cancellation. -/
theorem disturbed_spec {o : Op} {e : Exc} (ho : o.isPlain = true)
    (hraise : ∀ log e', (calmWorld Row live).allowed log o (.error e') → e'.isCancelled = true) :
    Triple (calmWorld Row live) (Disturbed e) (perform o) (fun _ => Disturbed e) Disturbed := by
  refine perform_spec (fun log a h hallowed => ⟨?_, h.2.step ho hallowed⟩)
    fun log e' h hallowed => ⟨.inl (hraise log e' hallowed), h.2.step ho hallowed⟩
  have hsame : firstCancellation (log ++ [⟨o, .ok a⟩]) = firstCancellation log :=
    firstCancellation_of_not_cancelled fun _ he => by cases he
  change _ ∨ firstCancellation (log ++ [⟨o, .ok a⟩]) = none
  rw [hsame]
  exact h.1

/-- A plain operation on the way out, whatever it may raise. -/
theorem interrupted_spec {o : Op} {e : Exc} (ho : o.isPlain = true) :
    Triple (calmWorld Row live) (Disturbed e) (perform o) (fun _ => Disturbed e)
      fun e' log => (e'.isCancelled = true ∨ Disturbed e log) ∧ InBlock log := by
  refine perform_spec (fun log a h hallowed => ?_)
    fun log e' h hallowed => ⟨?_, h.2.step ho hallowed⟩
  · refine ⟨h.1.imp_right fun hnone => ?_, h.2.step ho hallowed⟩
    exact (firstCancellation_of_not_cancelled fun _ he => by cases he).trans hnone
  · cases he' : e'.isCancelled with
    | true => exact .inl rfl
    | false =>
      refine .inr ⟨h.1.imp_right fun hnone => ?_, h.2.step ho hallowed⟩
      refine (firstCancellation_of_not_cancelled fun e'' heq => ?_).trans hnone
      cases heq
      exact he'

/-- A quiet step on the way out: what it raises is swallowed, if it is no cancellation. -/
theorem quietly_disturbed {p : Exec Row Unit} {e : Exc}
    (hp : Triple (calmWorld Row live) (Disturbed e) p (fun _ => Disturbed e)
      fun e' log => (e'.isCancelled = true ∨ Disturbed e log) ∧ InBlock log) :
    Triple (calmWorld Row live) (Disturbed e) (quietly p) (fun _ => Disturbed e) Disturbed := by
  refine hp.tryCatch fun e' => .ite (fun he' => ?_) fun he' => ?_
  · exact Triple.throw.weaken_pre fun _ h => ⟨.inl he', h.2⟩
  · exact Triple.pure.weaken_pre fun _ h => h.1.resolve_left he'

/-- A handler may raise something else for an exception that is no cancellation. -/
theorem Disturbed.replace {e : Exc} {log : Log Row} (he : e.isCancelled = false) (e' : Exc)
    (h : Disturbed e log) : Disturbed e' log :=
  ⟨.inr (h.1.resolve_left (Bool.eq_false_iff.1 he)), h.2⟩

variable {encodeRow : RowEncoder Row Json} {source : SourceProfile}
  {sql metadataRevision queryId : String}
  {validated : ValidatedSql} {queueMs : Int}

/-- The `except` blocks let no cancellation turn into another exception. -/
theorem cleanUp_disturbed {Q : α → Log Row → Prop} (e : Exc) :
    Triple (calmWorld Row live) (Disturbed e) (cleanUp e) Q Disturbed := by
  have hquietly : Triple (calmWorld Row live) (Disturbed e) rollbackQuietly (fun _ => Disturbed e)
      Disturbed := quietly_disturbed (interrupted_spec rfl)
  have hrollback := Triple.bind hquietly fun _ => rethrow_spec (Q := Q) e
  refine .ite (fun _ => Triple.bind (disturbed_spec rfl ?_) fun _ => hrollback) fun _ => hrollback
  exact fun log e' h => absurd rfl (h.2 e' rfl).1

/-- The handler around the caller's SQL leaves a cancellation alone. -/
theorem reraiseForUserSql_disturbed {Q : α → Log Row → Prop} (sourceId : String) (e : Exc) :
    Triple (calmWorld Row live) (Disturbed e) (reraiseForUserSql sourceId e) Q Disturbed := by
  refine .ite (fun hdatabase => Triple.bind (Q := fun _ => Disturbed e) ?_ fun _ => rethrow_spec e)
    fun _ => rethrow_spec e
  unfold raiseQueryInvalidForUserSql
  split
  · exact Triple.pure.weaken_pre fun _ h => h
  · refine Triple.bind (disturbed_spec rfl fun _ _ h => Bool.noConfusion h.1.1) fun _ => ?_
    have he : e.isCancelled = false := by
      cases e <;> first | rfl | cases hdatabase
    exact Triple.throw.weaken_pre fun _ h => h.replace he _

theorem requireReaderSessionPolicy_orderly :
    Orderly live (requireReaderSessionPolicy : Exec Row Unit) :=
  Orderly.bind (.perform rfl) fun _ => Orderly.bind (.perform rfl) fun _ => .ite .pure .throw

theorem validateResolvedNames_orderly {kind : ObjectKind} {names : Finset String}
    {reasonCode : String} :
    Orderly live (validateResolvedNames kind names reasonCode : Exec Row Unit) :=
  .ite .pure <| Orderly.bind (.perform rfl) fun _ => Orderly.bind (.perform rfl) fun _ =>
    .ite .pure .throw

theorem explainPlan_orderly : Orderly live (explainPlan source sql : Exec Row PlanSummary) :=
  Orderly.bind (Triple.tryCatch (Orderly.bind (.perform rfl) fun _ => Orderly.perform rfl)
    (reraiseForUserSql_disturbed _)) fun _ => .bind .lift fun _ => .bind .lift fun _ => .pure

theorem prepare_orderly :
    Orderly live (prepare source sql validated queryId : Exec Row PlanSummary) :=
  Orderly.bind (.perform rfl) fun _ => Orderly.bind (.perform rfl) fun _ =>
    Orderly.bind (.perform rfl) fun _ => requireReaderSessionPolicy_orderly.bind fun _ =>
      (validateResolvedNames_orderly.bind fun _ => validateResolvedNames_orderly).bind fun _ =>
        explainPlan_orderly

theorem fetchLoop_orderly {fuel : Nat} {fetched : Fetched Json} :
    Orderly live (fetchLoop encodeRow source.budget fuel fetched) := by
  induction fuel generalizing fetched with
  | zero => exact .pure
  | succ fuel ih =>
    exact .ite .pure <| Orderly.bind (.perform rfl) fun _ => .ite .pure <| .bind .lift fun _ => ih

/-- The cursor is closed quietly, whatever happened before. -/
theorem readResult_orderly : Orderly live (readResult encodeRow source sql) := by
  have hread : Orderly live (readCursor encodeRow source sql) :=
    Orderly.bind (.perform rfl) fun _ => Orderly.bind (.perform rfl) fun _ => .bind .lift fun _ =>
      fetchLoop_orderly.bind fun _ => .pure
  refine Orderly.bind (.perform rfl) fun _ => ?_
  refine Triple.tryFinally (hread.tryCatch (reraiseForUserSql_disturbed _))
    (fun _ => ?_) fun e => ?_
  · exact Triple.conseq (Orderly.quietly (Orderly.perform rfl)) (fun _ h => h) (fun _ _ h => h)
      fun _ _ h => h
  · exact quietly_disturbed (interrupted_spec rfl)

theorem executeConnection_orderly :
    Orderly live
      (executeConnection encodeRow source sql metadataRevision validated queueMs queryId) := by
  have htransaction : Orderly live (runTransaction encodeRow source sql validated queryId) :=
    prepare_orderly.bind fun _ => readResult_orderly.bind fun _ =>
      Orderly.bind (.perform rfl) fun _ => Orderly.bind (.perform rfl) fun _ => .pure
  refine Orderly.bind (.perform rfl) fun _ => (Triple.tryCatch htransaction cleanUp_disturbed).bind
    fun _ => ?_
  exact Orderly.bind (.perform rfl) fun _ => Orderly.bind (.perform rfl) fun _ =>
    Orderly.bind (.perform rfl) fun _ =>
      Orderly.bind (.ite (Orderly.perform rfl) .pure) fun _ => .pure

/-- The lease, with what it does on the way out. -/
theorem withConnection_orderly :
    Orderly live (withConnection source
      (useConnection encodeRow source sql metadataRevision validated queueMs queryId)) := by
  have hcheck : Orderly live (checkConnection source : Exec Row Unit) := by
    refine Triple.tryCatch (E := Disturbed) (Orderly.bind (.perform rfl) fun _ => .lift) fun e => ?_
    refine .ite (fun _ => ?_) fun _ => rethrow_spec e
    exact Triple.bind (quietly_disturbed (interrupted_spec rfl)) fun _ => rethrow_spec e
  refine Orderly.bind (.perform rfl) fun _ => Triple.exitWith ?_ (fun _ => Orderly.perform rfl)
    fun e => disturbed_spec rfl fun log e' h => (h.2 e' rfl).2.2 rfl
  refine hcheck.bind fun _ => Orderly.bind (.perform rfl) fun _ =>
    Orderly.bind (.perform rfl) fun _ => ?_
  refine Triple.tryFinally executeConnection_orderly
    (fun _ => Orderly.bind (.perform rfl) fun _ => Orderly.perform rfl) fun e => ?_
  exact Triple.bind (disturbed_spec rfl fun _ _ h => h.1.1) fun _ =>
    disturbed_spec rfl fun _ _ h => Bool.noConfusion h.1.1

/-! ## The verdict, around the timeout -/

/-- No deadline has struck first, and none can strike any more. -/
def Calm (log : Log Row) : Prop :=
  ¬ StruckByDeadline log ∧ (timeoutAfter log).state ≠ .entered

/-- The deadline has struck, and its block is behind. -/
def TimedOut (log : Log Row) : Prop :=
  StruckByDeadline log ∧ (timeoutAfter log).state ≠ .entered ∧ HealthKept log

/-- Before the timeout is entered. -/
def Beforehand (log : Log Row) : Prop :=
  firstCancellation log = none ∧ HealthKept log ∧ (timeoutAfter log).state ≠ .entered

/-- An exception behind the block of the timeout. -/
def AfterBlock (e : Exc) (log : Log Row) : Prop :=
  Calm log ∨ (e = .timeoutError ∧ TimedOut log)

/-- An exception behind the `except` clauses. -/
def Verdict (e : Exc) (log : Log Row) : Prop :=
  Calm log ∨ (e = .app .queryTimeout ∧ TimedOut log)

/-- Outside the block the deadline does not strike, and the state of the timeout stays. -/
theorem outside_step {log : Log Row} {o : Op} {r : Except Exc (Ret Row o)}
    (hstate : (timeoutAfter log).state ≠ .entered) (ho : ∀ timeoutMs, o ≠ .enterTimeout timeoutMs)
    (hallowed : (calmWorld Row live).allowed log o r) :
    (∀ e, r = .error e → e.byDeadline = false) ∧
      (timeoutAfter (log ++ [⟨o, r⟩])).state ≠ .entered := by
  have hdeadline : ∀ e, r = .error e → e.byDeadline = false := by
    rintro e rfl
    exact Bool.eq_false_iff.2 fun he => hstate (hallowed.1.2 he)
  refine ⟨hdeadline, ?_⟩
  by_cases hexit : o = .exitTimeout
  · subst hexit
    rw [timeoutAfter_concat]
    exact nofun
  · have hsame : (timeoutAfter log).advance ⟨o, r⟩ = (timeoutAfter log).answered r := by
      cases o <;> first | rfl | exact absurd rfl (ho _) | exact absurd rfl hexit
    rw [timeoutAfter_concat, hsame]
    cases r with
    | ok a => exact hstate
    | error e =>
      rw [Timeout.answered, Timeout.raised, hdeadline e rfl]
      exact hstate

/-- A first cancellation by the deadline was there before, or is delivered now. -/
theorem struckByDeadline_concat {log : Log Row} {o : Op} {r : Except Exc (Ret Row o)}
    (hr : ∀ e, r = .error e → e.byDeadline = false) :
    StruckByDeadline (log ++ [⟨o, r⟩]) ↔ StruckByDeadline log := by
  rw [StruckByDeadline, StruckByDeadline, firstCancellation_concat]
  cases firstCancellation log with
  | some e => rfl
  | none =>
    refine iff_of_false (fun h => ?_) nofun
    cases r with
    | ok a => cases h
    | error e =>
      change ((some e).filter Exc.isCancelled) = _ at h
      rw [Option.filter_some] at h
      split at h
      · cases h
        exact Bool.noConfusion (hr _ rfl)
      · cases h

theorem calm_keeps {o : Op} (ho : ∀ timeoutMs, o ≠ .enterTimeout timeoutMs) :
    Keeps (calmWorld Row live) Calm (perform o) := by
  refine .perform fun log r h hallowed => ?_
  obtain ⟨hdeadline, hstate⟩ := outside_step h.2 ho hallowed
  exact ⟨fun hstruck => h.1 ((struckByDeadline_concat hdeadline).1 hstruck), hstate⟩

/-- An operation before the timeout. -/
theorem beforehand_spec {o : Op} (ho : o.isPlain = true) :
    Triple (calmWorld Row live) Beforehand (perform o) (fun _ => Beforehand) fun _ => Calm := by
  have henter : ∀ timeoutMs, o ≠ .enterTimeout timeoutMs := by
    rintro timeoutMs rfl
    cases ho
  refine perform_spec (fun log a h hallowed => ⟨?_, h.2.1.concat (.inl ho),
    (outside_step h.2.2 henter hallowed).2⟩) fun log e h hallowed => ?_
  · exact (firstCancellation_of_not_cancelled fun _ he => by cases he).trans h.1
  · obtain ⟨hdeadline, hstate⟩ := outside_step h.2.2 henter hallowed
    refine ⟨fun hstruck => ?_, hstate⟩
    have hbefore := (struckByDeadline_concat hdeadline).1 hstruck
    rw [StruckByDeadline, h.1] at hbefore
    cases hbefore

/-- A plain operation after the deadline has struck, if all it may raise is a cancellation: it
returns. -/
theorem timedOut_spec {o : Op} {E : Exc → Log Row → Prop} (ho : o.isPlain = true)
    (hraise : ∀ e, o.canRaise e = true → e.isCancelled = true) :
    Triple (calmWorld Row live) TimedOut (perform o) (fun _ => TimedOut) E := by
  have henter : ∀ timeoutMs, o ≠ .enterTimeout timeoutMs := by
    rintro timeoutMs rfl
    cases ho
  refine perform_spec (fun log a h hallowed => ?_) fun log e h hallowed => ?_
  · obtain ⟨hdeadline, hstate⟩ := outside_step h.2.1 henter hallowed
    exact ⟨(struckByDeadline_concat hdeadline).2 h.1, hstate, h.2.2.concat (.inl ho)⟩
  · rcases byDeadline_or_byCaller (hraise e hallowed.1.1) with he | he
    · exact absurd (hallowed.1.2 he) h.2.1
    · exact absurd h.1 ((hallowed.2 e rfl).2.1 he)

/-- **The timeout takes the blame** for what its deadline has struck. -/
theorem withTimeout_spec {timeoutMs : Nat} {p : Exec Row α} (hp : Orderly live p) :
    Triple (calmWorld Row live) Beforehand (withTimeout timeoutMs p)
      (fun _ => Calm) AfterBlock := by
  have henter : Triple (calmWorld Row live) Beforehand (perform (.enterTimeout timeoutMs))
      (fun _ => Undisturbed) AfterBlock := by
    refine perform_spec (fun log a h _ => ?_) fun _ _ _ h => Bool.noConfusion h.1.1
    have hnone : firstCancellation (log ++ [⟨.enterTimeout timeoutMs, .ok a⟩]) = none :=
      (firstCancellation_of_not_cancelled fun _ he => by cases he).trans h.1
    refine ⟨hnone, h.2.1.concat (.inr ⟨timeoutMs, .inl rfl⟩), fun _ => ?_, fun hstruck => ?_⟩
    · exact timeoutAfter_concat _ _
    · cases hnone.symm.trans hstruck
  refine Triple.bind henter fun _ => Triple.exitWith hp (fun _ => ?_) fun e => ?_
  · refine Triple.bind (Q := fun _ => Calm) (perform_spec (fun log a h hallowed => ?_)
      fun _ _ _ h => Bool.noConfusion h.1.1) fun (expired : Bool) => ?_
    · refine ⟨fun hstruck => ?_, ?_⟩
      · have hbefore : StruckByDeadline log :=
          (struckByDeadline_concat (r := .ok a) fun _ he => by cases he).1 hstruck
        cases h.1.symm.trans hbefore
      · change (timeoutAfter (log ++ [_])).state ≠ .entered
        rw [timeoutAfter_concat]
        exact nofun
    · exact .ite (fun _ => Triple.throw.weaken_pre fun _ h => .inl h) fun _ =>
        Triple.pure.weaken_pre fun _ h => h
  · refine Triple.bind (Q := fun (expired : Bool) log => Calm log ∨
      ((expired && e.isCancelled) = true ∧ TimedOut log)) (perform_spec (fun log a h hallowed => ?_)
      fun _ _ _ h => Bool.noConfusion h.1.1) fun (expired : Bool) => ?_
    · have hstate : (timeoutAfter (log ++ [⟨.exitTimeout, .ok a⟩])).state ≠ .entered := by
        rw [timeoutAfter_concat]
        exact nofun
      have hsame : StruckByDeadline (log ++ [⟨.exitTimeout, .ok a⟩]) ↔ StruckByDeadline log :=
        struckByDeadline_concat fun _ he => by cases he
      by_cases hstruck : StruckByDeadline log
      · -- nobody else has asked for a cancellation, and what is on its way is one
        have hexpired : a = true := by
          have ha : a = _ := hallowed.1
          rw [ha, h.2.expiring hstruck]
          rfl
        have hcancelled : e.isCancelled = true :=
          h.1.resolve_right fun hnone => by cases hnone.symm.trans hstruck
        refine .inr ⟨?_, hsame.2 hstruck, hstate,
          h.2.healthKept.concat (.inr ⟨timeoutMs, .inr rfl⟩)⟩
        rw [hexpired, hcancelled]
        rfl
      · exact .inl ⟨fun h' => hstruck (hsame.1 h'), hstate⟩
    · refine .ite (fun _ => Triple.throw.weaken_pre fun log h => ?_) fun hno =>
        Triple.pure.weaken_pre fun log h => ?_
      · exact h.imp_right fun h' => ⟨rfl, h'.2⟩
      · exact .inl (h.resolve_right fun h' => hno h'.1)

/-- The pool, and what it is for. -/
theorem executePermitted_spec :
    Triple (calmWorld Row live) Beforehand
      (executePermitted encodeRow source sql metadataRevision validated queueMs queryId)
      (fun _ => Calm) AfterBlock := by
  have hbefore : ∀ {o : Op}, o.isPlain = true → Triple (calmWorld Row live) Beforehand (perform o)
      (fun _ => Beforehand) AfterBlock :=
    fun ho => (beforehand_spec ho).weaken_exc fun _ _ => .inl
  have hpure : Triple (calmWorld Row live) Beforehand (pure () : Exec Row Unit)
      (fun _ => Beforehand) AfterBlock :=
    Triple.pure.weaken_pre fun _ h => h
  have hcreate : Triple (calmWorld Row live) Beforehand (createPool source)
      (fun _ => Beforehand) AfterBlock := by
    refine Triple.bind (hbefore rfl) fun (existing : Bool) => .ite (fun _ => hpure) fun _ => ?_
    exact Triple.bind (hbefore rfl) fun _ => hbefore rfl
  have hpool : Triple (calmWorld Row live) Beforehand (getPool source)
      (fun _ => Beforehand) AfterBlock := by
    refine Triple.bind (hbefore rfl) fun (existing : Bool) => .ite (fun _ => hpure) fun _ => ?_
    exact Triple.bind (hbefore rfl) fun _ => hcreate
  exact Triple.bind hpool fun _ => withTimeout_spec withConnection_orderly

/-- The ladder of `except` clauses makes a timeout of the timeout. -/
theorem mapFailure_verdict {Q : α → Log Row → Prop} (e : Exc) :
    Triple (calmWorld Row live) (AfterBlock e) (mapFailure source queryId e) Q Verdict := by
  refine Triple.of_or ?_ (.of_fact fun he => ?_)
  · refine (mapFailure_spec (fun o ho => calm_keeps ?_) e).weaken_exc fun _ _ => .inl
    rintro timeoutMs rfl
    cases ho
  · subst he
    refine Triple.bind (timedOut_spec rfl fun _ he => by cases he) fun _ => ?_
    exact Triple.throw.weaken_pre fun _ h => .inr ⟨rfl, h⟩

/-- What the outer layers do after an exception leaves its verdict. -/
theorem verdict_spec {o : Op} {e : Exc} (ho : o.isPlain = true)
    (hraise : ∀ e, o.canRaise e = true → e.isCancelled = true) :
    Triple (calmWorld Row live) (Verdict e) (perform o) (fun _ => Verdict e) Verdict := by
  refine Triple.of_or ?_ (.of_fact fun he => ?_)
  · refine (calm_keeps ?_).conseq (fun _ h => h) (fun _ _ => .inl) fun _ _ => .inl
    rintro timeoutMs rfl
    cases ho
  · exact (timedOut_spec ho hraise).weaken_post fun _ _ h => .inr ⟨he, h⟩

theorem calm_spec {o : Op} (ho : ∀ timeoutMs, o ≠ .enterTimeout timeoutMs) :
    Triple (calmWorld Row live) Calm (perform o) (fun _ => Calm) Verdict :=
  (calm_keeps ho).weaken_exc fun _ _ => .inl

theorem executeAdmitted_verdict :
    Triple (calmWorld Row live) Beforehand
      (executeAdmitted encodeRow source sql metadataRevision validated queryId)
      (fun _ => Calm) Verdict := by
  have hbefore : ∀ {o : Op}, o.isPlain = true → Triple (calmWorld Row live) Beforehand (perform o)
      (fun _ => Beforehand) Verdict :=
    fun ho => (beforehand_spec ho).weaken_exc fun _ _ => .inl
  have hpermit : Triple (calmWorld Row live) Beforehand (acquirePermit source)
      (fun _ => Beforehand) Verdict := by
    refine Triple.tryCatch (beforehand_spec rfl) fun e => .ite (fun _ => ?_) fun _ =>
      Triple.throw.weaken_pre fun _ => .inl
    exact Triple.bind (calm_spec nofun) fun _ => Triple.throw.weaken_pre fun _ => .inl
  refine Triple.bind (hbefore rfl) fun _ => Triple.bind (hbefore rfl) fun queuedAt => ?_
  refine Triple.bind hpermit fun _ => Triple.bind (hbefore rfl) fun now => ?_
  refine Triple.bind (hbefore rfl) fun _ => Triple.bind (hbefore rfl) fun _ => ?_
  exact Triple.tryFinally (Triple.tryCatch executePermitted_spec mapFailure_verdict)
    (fun _ => calm_spec nofun) fun e => verdict_spec rfl fun _ he => by cases he

/-- The verdict of a call. -/
theorem execute_verdict {requestedId : Option String} :
    Triple (calmWorld Row live) Beforehand
      (execute encodeRow source sql metadataRevision validated requestedId)
      (fun _ => Calm) Verdict := by
  have hbefore : ∀ {o : Op}, o.isPlain = true → Triple (calmWorld Row live) Beforehand (perform o)
      (fun _ => Beforehand) Verdict :=
    fun ho => (beforehand_spec ho).weaken_exc fun _ _ => .inl
  have hcalm : ∀ log : Log Row, Beforehand log → Calm log :=
    fun log h =>
      ⟨fun hstruck => (nofun : none ≠ some (Exc.cancelled .deadline)) (h.1.symm.trans hstruck),
      h.2.2⟩
  have hqueryId : Triple (calmWorld Row live) Beforehand (effectiveQueryId requestedId)
      (fun _ => Beforehand) Verdict :=
    .ite (fun _ => hbefore rfl) fun _ => Triple.pure.weaken_pre fun _ h => h
  have hadmit : Triple (calmWorld Row live) Beforehand admitTask (fun _ => Beforehand) Verdict := by
    refine Triple.bind (hbefore rfl) fun _ => Triple.bind (hbefore rfl) fun (accepting : Bool) => ?_
    exact .ite (fun _ => hbefore rfl) fun _ => Triple.throw.weaken_pre fun log h =>
      .inl (hcalm log h)
  refine Triple.bind (hbefore rfl) fun (task : Bool) => .ite (fun _ => ?_) fun _ =>
    Triple.throw.weaken_pre fun log h => .inl (hcalm log h)
  refine Triple.bind hqueryId fun effectiveId => Triple.bind hadmit fun _ => ?_
  have hcall : Triple (calmWorld Row live) Beforehand
      ((executeAdmitted encodeRow source sql metadataRevision validated effectiveId).tryCatch
        (mapInterruption source)) (fun _ => Calm) Verdict := by
    refine Triple.tryCatch executeAdmitted_verdict fun e => ?_
    refine Triple.of_or ?_ (.of_fact fun he => ?_)
    · refine (mapInterruption_spec (fun o ho => calm_keeps ?_) e).weaken_exc fun _ _ => .inl
      rintro timeoutMs rfl
      cases ho
    · subst he
      exact Triple.throw.weaken_pre fun _ h => .inr ⟨rfl, h⟩
  refine Triple.tryFinally hcall (fun _ => ?_) fun e => ?_
  · exact Triple.bind (calm_spec nofun) fun _ => calm_spec nofun
  · refine Triple.bind (verdict_spec rfl fun _ he => he) fun _ => ?_
    exact verdict_spec rfl fun _ he => by cases he

end

/-- **Cleanup keeps its promise**: in every run of `execute` in which `cancel_safe` returns and the
caller does not cancel a task that the deadline has struck, a transaction that was begun is
committed or rolled back before its connection is given up, and a run that the deadline struck ends
as `QUERY_TIMEOUT` without lowering the health. -/
theorem cleanup_holds {Row Json : Type} (live : LiveCatalog) (encodeRow : RowEncoder Row Json)
    (source : SourceProfile) (sql metadataRevision : String) (validated : ValidatedSql)
    (queryId : Option String) {log : Log Row} {result : Except Exc (Response Json)}
    (hrun : Run ((world Row live).restrict CleanupSucceeds) []
      (execute encodeRow source sql metadataRevision validated queryId) log result) :
    CleanupHolds log result := by
  have hclean : SettledOrIdle log := by
    have hpost := (layers_rollback.execute fun _ _ => useConnection_clean) [] log result rfl hrun
    cases result <;> exact hpost
  have hverdict := execute_verdict [] log result
    ⟨rfl, fun _ _ h => absurd h List.not_mem_nil, nofun⟩ hrun
  refine ⟨fun hbegun => ?_, fun hstruck => ?_⟩
  · refine hclean.resolve_left fun hnil => ?_
    rw [hnil] at hbegun
    cases hbegun
  · cases result with
    | ok response => exact absurd hstruck hverdict.1
    | error e =>
      obtain ⟨rfl, htimedOut⟩ := hverdict.resolve_left fun hcalm => hcalm.1 hstruck
      exact ⟨rfl, htimedOut.2.2⟩

/-! ## Faults -/

section

variable {Row : Type}

/-- The deadline strikes while `BEGIN` is awaited. -/
def deadlineAtBegin (log : Log Row) (o : Op) : Option Exc :=
  if o = .send .beginTransaction ∧ (timeoutAfter log).state = .entered then
    some (.cancelled .deadline)
  else none

/-- The same, and then an operation raises. -/
def deadlineThen (o : Op) (e : Exc) (log : Log Row) (o' : Op) : Option Exc :=
  if o' = o then some e else deadlineAtBegin log o'

theorem possible_deadlineAtBegin : @PossibleFaults Row deadlineAtBegin := by
  intro log o e he
  rw [deadlineAtBegin] at he
  split at he
  · next h =>
    cases he
    rw [h.1]
    exact ⟨rfl, fun _ => h.2⟩
  · cases he

theorem possible_deadlineThen {o : Op} {e : Exc} (hraise : o.canRaise e = true)
    (he : e.byDeadline = false) : @PossibleFaults Row (deadlineThen o e) := by
  intro log o' e' he'
  rw [deadlineThen] at he'
  split at he'
  · next heq =>
    cases he'
    rw [heq]
    exact ⟨hraise, fun h => Bool.noConfusion (he.symm.trans h)⟩
  · exact possible_deadlineAtBegin log o' e' he'

/-- `CancellationTimeout`, an `OperationalError` of the driver. -/
def cancellationTimeout : Exc :=
  .database ⟨.operationalError, none, "cancellation timeout expired"⟩

end

/-- The deadline strikes at `BEGIN`, and cleanup does its part. -/
theorem cleanup_holds_deadlineAtBegin :
    CleanupHolds (playWith emptyLive deadlineAtBegin selectOne).1
      (playWith emptyLive deadlineAtBegin selectOne).2 := by
  have hallowed : ∀ (log : Log String) (o : Op), ((world String emptyLive).restrict
      CleanupSucceeds).allowed log o (injected emptyLive deadlineAtBegin log o) := by
    intro log o
    refine ⟨injected_allowed possible_deadlineAtBegin log o, fun e he => ?_⟩
    rw [injected] at he
    split at he
    · next e' hfault =>
      cases he
      rw [deadlineAtBegin] at hfault
      split at hfault
      · next h =>
        cases hfault
        rw [h.1]
        refine ⟨fun heq => ?_, fun hcaller => ?_, fun heq => ?_⟩
        · cases heq
        · cases hcaller
        · cases heq
      · cases hfault
    · cases he
  exact cleanup_holds emptyLive _ plainSource "SELECT 1" "revision" selectOneValidated (some "q")
    (run_play hallowed selectOne [])

/-- **A failing `cancel_safe` defeats both parts.** The deadline strikes at `BEGIN` and
`cancel_safe` raises `CancellationTimeout`: no rollback is attempted, the caller is told
`QUERY_UNAVAILABLE`, and the health of the source is lowered. -/
theorem cancelSafeRaises_cleanupFails :
    ∃ (log : Log String) (result : Except Exc (Response String)),
      Run (world String emptyLive) [] selectOne log result ∧ ¬ CleanupHolds log result ∧
        .beginTransaction ∈ sent log ∧ ¬ LeftClean log ∧ StruckByDeadline log ∧
        result = .error (.app .queryUnavailable) ∧ ¬ HealthKept log := by
  have hpossible : @PossibleFaults String (deadlineThen .cancelSafe cancellationTimeout) :=
    possible_deadlineThen rfl rfl
  refine ⟨_, _, @run_playWith String _ emptyLive _ hpossible selectOne, ?_⟩
  generalize hplay :
      playWith emptyLive (deadlineThen .cancelSafe cancellationTimeout) selectOne = played
  have hbegun : .beginTransaction ∈ sent played.1 := by
    rw [← hplay]
    decide +kernel
  have hnever : ∀ event ∈ played.1, event.1 ≠ .rollback ∧ event.1 ≠ .send .commit := by
    rw [← hplay]
    decide +kernel
  have hresult : played.2 = .error (.app .queryUnavailable) := by
    rw [← hplay]
    decide +kernel
  have hstruck : StruckByDeadline played.1 := by
    rw [← hplay]
    change firstCancellation _ = _
    decide +kernel
  have hlowered : ∃ event ∈ played.1, event.1 = .setSourceQueryHealth "cave" .unavailable := by
    rw [← hplay]
    decide +kernel
  have hdirty : ¬ LeftClean played.1 := by
    rintro ⟨before, r, after, hlog, -, hclean⟩
    rw [hlog] at hnever
    rcases hclean with ⟨answer, hmem⟩ | ⟨r', hmem⟩
    · exact (hnever _ (List.mem_append_left _ hmem)).2 rfl
    · exact (hnever _ (List.mem_append_left _ hmem)).1 rfl
  refine ⟨fun h => hdirty (h.rolledBack hbegun), hbegun, hdirty, hstruck, hresult, fun h => ?_⟩
  obtain ⟨⟨o, r⟩, hmem, ho⟩ := hlowered
  cases ho
  exact h "cave" r hmem

/-- The other part of the condition: after the deadline has struck, the caller's own cancellation is
what the call ends with. -/
theorem callerCancels_verdictFails :
    ∃ (log : Log String) (result : Except Exc (Response String)),
      Run (world String emptyLive) [] selectOne log result ∧ StruckByDeadline log ∧
        result = .error (.cancelled .caller) := by
  have hpossible : @PossibleFaults String (deadlineThen .rollback (.cancelled .caller)) :=
    possible_deadlineThen rfl rfl
  refine ⟨_, _, @run_playWith String _ emptyLive _ hpossible selectOne, ?_, by decide +kernel⟩
  change firstCancellation _ = _
  decide +kernel

end QueryMan.PostgresQueryExecutor
