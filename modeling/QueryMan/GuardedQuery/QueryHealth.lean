import QueryMan.GuardedQuery.CheckFailures
import QueryMan.GuardedQuery.FaultInjection

/-!
# Query health and the caller's SQL

A run in which everything succeeds but the caller's own SQL lowers the query health of its source
exactly if PostgreSQL answers with one of the limits that the gateway itself imposes: temporary
files (`53400`), locks (`55P03`) and statement complexity (class `54`) are an `OperationalError` of
the driver, as the loss of a connection is (`queryHealth_kept_iff`).
-/

namespace QueryMan.PostgresQueryExecutor

open Coro

/-! ## The caller's errors -/

/-- The SQLSTATEs that a caller's SQL can provoke. -/
def IsCallerSqlstate (sqlstate : String) : Prop :=
  sqlstateClass sqlstate 2 ∈ ["21", "22", "42", "54"] ∨ sqlstate ∈ ["53400", "55P03", "57014"]

/-- The limits among them that the driver classifies as `OperationalError`. -/
def IsOperationalLimit (sqlstate : String) : Prop :=
  sqlstateClass sqlstate 2 = "54" ∨ sqlstate ∈ ["53400", "55P03"]

/-- The exceptions for which `_execute_admitted` lowers the health. -/
def lowersHealth : Exc → Bool
  | .poolTimeout | .interfaceError | .readerSessionPolicyError => true
  | .database error => error.cls = .operationalError
  | _ => false

/-- A caller's error lowers the health exactly if it is one of the limits. -/
theorem lowersHealth_serverError {sqlstate message : String} (h : IsCallerSqlstate sqlstate) :
    lowersHealth (serverError sqlstate message) = true ↔ IsOperationalLimit sqlstate := by
  have hlowers : lowersHealth (serverError sqlstate message) = true ↔
      databaseErrorClass sqlstate = .operationalError := decide_eq_true_iff
  rw [hlowers, IsOperationalLimit]
  by_cases hcanceled : sqlstate = "57014"
  · subst hcanceled
    decide
  by_cases hxquery : sqlstate = "10608"
  · subst hxquery
    decide
  rcases h with hclass | hstate
  · have hcls : databaseErrorClass sqlstate =
        ((baseClassByPair.lookup (sqlstateClass sqlstate 2)).or
          (baseClassByInitial.lookup (sqlstateClass sqlstate 1))).getD .databaseError := by
      rw [databaseErrorClass, if_neg hcanceled, if_neg hxquery]
    have hnot : sqlstate ∈ ["53400", "55P03"] → False := by
      intro hmem
      rcases List.mem_cons.1 hmem with rfl | hmem
      · exact absurd hclass (by decide)
      · rcases List.mem_singleton.1 hmem with rfl
        exact absurd hclass (by decide)
    rw [hcls, or_iff_left hnot]
    simp only [List.mem_cons, List.not_mem_nil, or_false] at hclass
    have hpair : ∀ (pair : String) (cls : DatabaseErrorClass), sqlstateClass sqlstate 2 = pair →
        baseClassByPair.lookup pair = some cls →
        ((baseClassByPair.lookup (sqlstateClass sqlstate 2)).or
          (baseClassByInitial.lookup (sqlstateClass sqlstate 1))).getD .databaseError = cls := by
      rintro pair cls rfl hlookup
      rw [hlookup, Option.some_or, Option.getD_some]
    rcases hclass with hclass | hclass | hclass | hclass
    · rw [hpair "21" .programmingError hclass (by decide), hclass]
      decide
    · rw [hpair "22" .dataError hclass (by decide), hclass]
      decide
    · rw [hpair "42" .programmingError hclass (by decide), hclass]
      decide
    · rw [hpair "54" .operationalError hclass (by decide), hclass]
      decide
  · simp only [List.mem_cons, List.not_mem_nil, or_false] at hstate
    rcases hstate with rfl | rfl | rfl <;> decide

/-- An error that is reported as the caller's fault does not lower the health. -/
theorem not_lowersHealth_of_reason {sqlstate message : String}
    (h : (queryInvalidReason (serverError sqlstate message)).isSome = true) :
    lowersHealth (serverError sqlstate message) = false := by
  obtain ⟨reason, hreason⟩ := Option.isSome_iff_exists.1 h
  have hall : ∀ entry ∈ queryInvalidReasonBySqlstate,
      databaseErrorClass entry.1 ≠ .operationalError := by decide
  obtain ⟨l, l', hsplit, -⟩ := List.lookup_eq_some_iff.1 hreason
  refine decide_eq_false (hall (sqlstate, reason) ?_)
  rw [hsplit]
  exact List.mem_append_right _ List.mem_cons_self

section

variable {Row Json α : Type}

/-! ## What a run does to the operational state -/

/-- The write of an operation. -/
def Op.applyTo (o : Op) (operations : OperationalState) : OperationalState :=
  match o with
  | .increment name sourceId => operations.increment name (some sourceId) 1
  | .observe name value sourceId => operations.observe name value (some sourceId)
  | .setSourceQueryHealth sourceId status => operations.setSourceQueryHealth sourceId status
  | _ => operations

/-- The operational state after the writes of a run. -/
def operationsAfter (operations : OperationalState) (log : Log Row) : OperationalState :=
  log.foldl (fun operations event => event.1.applyTo operations) operations

/-- The run does not mark the source unavailable, so that the public status is what it was: at the
end of a run that raises, and of any run if the source was healthy. -/
structure HealthUnaffected (source : SourceProfile) (operations : OperationalState) (log : Log Row)
    (result : Except Exc α) : Prop where
  notLowered : ∀ r, ⟨.setSourceQueryHealth source.sourceId .unavailable, r⟩ ∉ log
  publicStatus : (∃ e, result = .error e) ∨
      operations.sourceQueryHealth.lookup source.sourceId = some .healthy →
    (operationsAfter operations log).publicStatus = operations.publicStatus

/-- The operations in which PostgreSQL answers the caller's SQL. -/
def Op.isCallerSql : Op → Bool
  | .send (.explain _) | .send (.declare _) | .send (.fetch _) | .fetchPlan => true
  | _ => false

/-- The condition on a step: the pool, the connection, the session policy and the internal
statements succeed, and what the caller's SQL may raise is an error of the server that it can
provoke. -/
def OnlyCallerSqlFails (source : SourceProfile) (_ : Log Row) (o : Op)
    (r : Except Exc (Ret Row o)) : Prop :=
  match o, r with
  | .connectionInfo, .ok info => requireReaderConnectionPolicy info source.sslmode = .ok ()
  | .fetchPolicyRow, .ok policy => sessionPolicyHolds policy = true
  | _, .ok _ => True
  | o, .error e => o.isCallerSql = true ∧
      ∃ sqlstate message, e = serverError sqlstate message ∧ IsCallerSqlstate sqlstate

/-- The world of such runs. -/
abbrev callerWorld (Row : Type) (live : LiveCatalog) (source : SourceProfile) :
    World (Log Row) (Ret Row) Exc :=
  (world Row live).restrict (OnlyCallerSqlFails source)

theorem onlyCallerSqlFails_error {source : SourceProfile} {log : Log Row} {o : Op} {e : Exc} :
    OnlyCallerSqlFails source log o (.error e) ↔ o.isCallerSql = true ∧
      ∃ sqlstate message, e = serverError sqlstate message ∧ IsCallerSqlstate sqlstate := by
  cases o <;> rfl

/-- One of the limits was hit. -/
def LimitHit (log : Log Row) : Prop :=
  ∃ event ∈ log, ∃ e, raisedBy event = some e ∧ lowersHealth e = true

/-- No health was written. -/
def Untouched (log : Log Row) : Prop :=
  ∀ event ∈ log, ∀ sourceId status, event.1 ≠ .setSourceQueryHealth sourceId status

/-- Nothing has failed and no health was written. -/
def Smooth (log : Log Row) : Prop :=
  Untouched log ∧ ¬ LimitHit log

/-- An exception is on its way: it tells whether a limit was hit, and one that is reported as the
caller's fault is none. -/
def Failing (e : Exc) (log : Log Row) : Prop :=
  Untouched log ∧ (LimitHit log ↔ lowersHealth e = true) ∧
    ((queryInvalidReason e).isSome = true → lowersHealth e = false)

/-- The transaction is committed: only its own source was marked, and as healthy. -/
def Finished (source : SourceProfile) (log : Log Row) : Prop :=
  (∀ event ∈ log, ∀ sourceId status, event.1 = .setSourceQueryHealth sourceId status →
    sourceId = source.sourceId ∧ status = .healthy) ∧ ¬ LimitHit log

/-- The call has failed: the source was marked unavailable if a limit was hit, and not at all if
not. -/
def Failed (source : SourceProfile) (log : Log Row) : Prop :=
  (LimitHit log → ∃ r, ⟨.setSourceQueryHealth source.sourceId .unavailable, r⟩ ∈ log) ∧
    (¬ LimitHit log → Untouched log)

/-! ## Steps -/

theorem limitHit_concat {log : Log Row} {o : Op} {r : Except Exc (Ret Row o)} :
    LimitHit (log ++ [⟨o, r⟩]) ↔ LimitHit log ∨ ∃ e, r = .error e ∧ lowersHealth e = true := by
  constructor
  · rintro ⟨event, hmem, e, hraised, he⟩
    rcases List.mem_append.1 hmem with hmem | hmem
    · exact .inl ⟨event, hmem, e, hraised, he⟩
    · rcases List.mem_singleton.1 hmem with rfl
      cases r with
      | ok a => cases hraised
      | error e' =>
        cases hraised
        exact .inr ⟨_, rfl, he⟩
  · rintro (⟨event, hmem, hevent⟩ | ⟨e, rfl, he⟩)
    · exact ⟨event, List.mem_append_left _ hmem, hevent⟩
    · exact ⟨_, List.mem_append_right _ List.mem_cons_self, e, rfl, he⟩

theorem limitHit_concat_ok {log : Log Row} {o : Op} {a : Ret Row o} :
    LimitHit (log ++ [⟨o, .ok a⟩]) ↔ LimitHit log := by
  rw [limitHit_concat]
  refine or_iff_left ?_
  rintro ⟨e, he, -⟩
  cases he

/-- The operations that write no health. -/
def Op.writesNoHealth : Op → Bool
  | .setSourceQueryHealth _ _ => false
  | _ => true

theorem Untouched.concat {log : Log Row} {o : Op} {r : Except Exc (Ret Row o)}
    (ho : o.writesNoHealth = true) (h : Untouched log) : Untouched (log ++ [⟨o, r⟩]) := by
  intro event hmem sourceId status heq
  rcases List.mem_append.1 hmem with hmem | hmem
  · exact h event hmem sourceId status heq
  · rcases List.mem_singleton.1 hmem with rfl
    cases heq
    cases ho

variable {live : LiveCatalog} {source : SourceProfile}

/-- An answer that is no error of the caller's SQL is no exception. -/
theorem not_allowed_error {o : Op} (ho : o.isCallerSql = false) (e : Exc) (log : Log Row) :
    ¬ (callerWorld Row live source).allowed log o (.error e) := by
  rintro ⟨-, hmeets⟩
  rw [onlyCallerSqlFails_error, ho] at hmeets
  cases hmeets.1

/-- A program whose exceptions tell whether a limit was hit. -/
def Telling (live : LiveCatalog) (source : SourceProfile) (p : Exec Row α) : Prop :=
  Triple (callerWorld Row live source) Smooth p (fun _ => Smooth) Failing

/-- A computation whose exceptions do not lower the health. -/
def Harmless (x : Except Exc α) : Prop :=
  ∀ e, x = .error e → lowersHealth e = false

namespace Telling

variable {p : Exec Row α} {β : Type} {f : α → Exec Row β}

theorem perform {o : Op} (ho : o.writesNoHealth = true) :
    Telling live source (perform o : Exec Row (Ret Row o)) := by
  refine perform_spec (fun log a h _ => ⟨h.1.concat ho, fun hit => h.2 (limitHit_concat_ok.1 hit)⟩)
    fun log e h hallowed => ⟨h.1.concat ho, ?_, ?_⟩
  · change LimitHit (log ++ [⟨o, .error e⟩]) ↔ _
    rw [limitHit_concat, or_iff_right h.2]
    exact ⟨fun ⟨e', heq, he'⟩ => by cases heq; exact he', fun he => ⟨e, rfl, he⟩⟩
  · obtain ⟨-, sqlstate, message, rfl, -⟩ := onlyCallerSqlFails_error.1 hallowed.2
    exact not_lowersHealth_of_reason

theorem pure {a : α} : Telling live source (Pure.pure a : Exec Row α) :=
  Triple.pure.weaken_pre fun _ h => h

/-- Raising what does not lower the health. -/
theorem throw {e : Exc} (hlowers : lowersHealth e = false) :
    Telling live source (throw e : Exec Row α) := by
  refine Triple.throw.weaken_pre fun log h => ⟨h.1, ?_, fun _ => hlowers⟩
  rw [hlowers]
  exact iff_of_false h.2 Bool.false_ne_true

theorem lift {x : Except Exc α} (hx : Harmless x) : Telling live source (.lift x : Exec Row α) := by
  cases x with
  | ok a => exact pure
  | error e => exact throw (hx e rfl)

theorem bind (hp : Telling live source p) (hf : ∀ a, Telling live source (f a)) :
    Telling live source (p >>= f) :=
  Triple.bind hp hf

theorem ite {c : Prop} [Decidable c] {q : Exec Row α} (hp : Telling live source p)
    (hq : Telling live source q) : Telling live source (if c then p else q) :=
  Triple.ite (fun _ => hp) fun _ => hq

end Telling

theorem Smooth.concat {log : Log Row} {o : Op} {a : Ret Row o} (ho : o.writesNoHealth = true)
    (h : Smooth log) : Smooth (log ++ [⟨o, .ok a⟩]) :=
  ⟨h.1.concat ho, fun hit => h.2 (limitHit_concat_ok.1 hit)⟩

/-- The operations other than the caller's SQL succeed. -/
theorem smooth_spec {o : Op} {E : Exc → Log Row → Prop} (hsql : o.isCallerSql = false)
    (ho : o.writesNoHealth = true) :
    Triple (callerWorld Row live source) Smooth (perform o) (fun _ => Smooth) E :=
  perform_spec (fun _ _ h _ => h.concat ho) fun log e _ hallowed =>
    absurd hallowed (not_allowed_error hsql e log)

/-- What follows the commit succeeds. -/
theorem finished_spec {o : Op} {E : Exc → Log Row → Prop} (hsql : o.isCallerSql = false)
    (ho : o.writesNoHealth = true) :
    Triple (callerWorld Row live source) (Finished source) (perform o) (fun _ => Finished source)
      E := by
  refine perform_spec (fun log a h _ => ⟨?_, fun hit => h.2 (limitHit_concat_ok.1 hit)⟩)
    fun log e _ hallowed => absurd hallowed (not_allowed_error hsql e log)
  intro event hmem sourceId status heq
  rcases List.mem_append.1 hmem with hmem | hmem
  · exact h.1 event hmem sourceId status heq
  · rcases List.mem_singleton.1 hmem with rfl
    cases heq
    cases ho

/-- What follows a failure succeeds. -/
theorem failed_spec {o : Op} {E : Exc → Log Row → Prop} (hsql : o.isCallerSql = false)
    (ho : o.writesNoHealth = true) :
    Triple (callerWorld Row live source) (Failed source) (perform o)
      (fun _ => Failed source) E := by
  refine perform_spec (fun log a h _ => ⟨fun hit => ?_, fun hno => ?_⟩)
    fun log e _ hallowed => absurd hallowed (not_allowed_error hsql e log)
  · obtain ⟨r, hmem⟩ := h.1 (limitHit_concat_ok.1 hit)
    exact ⟨r, List.mem_append_left _ hmem⟩
  · exact (h.2 fun hit => hno (limitHit_concat_ok.2 hit)).concat ho

/-- A failure that lowers no health leaves it untouched. -/
theorem Failing.failed {e : Exc} {log : Log Row} (hlowers : lowersHealth e = false)
    (h : Failing e log) : Failed source log := by
  have hno : ¬ LimitHit log := fun hit => Bool.noConfusion (hlowers.symm.trans (h.2.1.1 hit))
  exact ⟨fun hit => absurd hit hno, fun _ => h.1⟩

/-- On the way out the other operations succeed. -/
theorem failing_spec {o : Op} {e : Exc} {E : Exc → Log Row → Prop} (hsql : o.isCallerSql = false)
    (ho : o.writesNoHealth = true) :
    Triple (callerWorld Row live source) (Failing e) (perform o) (fun _ => Failing e) E := by
  refine perform_spec (fun log a h _ => ⟨h.1.concat ho, ?_, h.2.2⟩) fun log e' _ hallowed =>
    absurd hallowed (not_allowed_error hsql e' log)
  change LimitHit (log ++ [⟨o, .ok a⟩]) ↔ _
  rw [limitHit_concat_ok]
  exact h.2.1

theorem rethrow_failing {Q : α → Log Row → Prop} (e : Exc) :
    Triple (callerWorld Row live source) (Failing e) (throw e : Exec Row α) Q Failing :=
  Triple.throw.weaken_pre fun _ h => h

/-- The checks lower no health. -/
theorem Harmless.of_checks {x : Except Exc α} (h : ChecksOnly x) : Harmless x := by
  intro e he
  have hcheck := h e he
  cases e <;> first | rfl | cases hcheck

/-! ## The block -/

variable {encodeRow : RowEncoder Row Json} {sql metadataRevision queryId : String}
  {validated : ValidatedSql} {queueMs : Int}

/-- The handler around the caller's SQL keeps what its exception tells. -/
theorem reraiseForUserSql_failing {Q : α → Log Row → Prop} (sourceId : String) (e : Exc) :
    Triple (callerWorld Row live source) (Failing e) (reraiseForUserSql sourceId e) Q Failing := by
  refine .ite (fun _ => Triple.bind (Q := fun _ => Failing e) ?_ fun _ => rethrow_failing e)
    fun _ => rethrow_failing e
  unfold raiseQueryInvalidForUserSql
  split
  · exact Triple.pure.weaken_pre fun _ h => h
  · next reason hreason =>
    refine Triple.bind (failing_spec rfl rfl) fun _ => Triple.throw.weaken_pre fun log h => ?_
    have hlowers := h.2.2 (by rw [hreason]; rfl)
    refine ⟨h.1, ?_, fun _ => rfl⟩
    rw [h.2.1, hlowers]
    exact Iff.rfl

/-- The `except` blocks keep what their exception tells. -/
theorem cleanUp_failing {Q : α → Log Row → Prop} (e : Exc) :
    Triple (callerWorld Row live source) (Failing e) (cleanUp e) Q Failing := by
  have hrollback : Triple (callerWorld Row live source) (Failing e) rollbackQuietly
      (fun _ => Failing e) Failing :=
    Triple.tryCatch (E := fun _ _ => False) (failing_spec rfl rfl) fun _ _ _ _ h => h.elim
  refine .ite (fun _ => Triple.bind (failing_spec rfl rfl) fun _ => ?_) fun _ => ?_
  · exact Triple.bind hrollback fun _ => rethrow_failing e
  · exact Triple.bind hrollback fun _ => rethrow_failing e

/-- Up to the admission of the plan. -/
theorem prepare_telling :
    Telling live source (prepare source sql validated queryId : Exec Row PlanSummary) := by
  have hpolicy : Telling live source (requireReaderSessionPolicy : Exec Row Unit) := by
    refine Telling.bind (.perform rfl) fun _ => ?_
    -- the policy row holds in this world
    refine Triple.bind (Q := fun policy log => sessionPolicyHolds policy = true ∧ Smooth log)
      (perform_spec (fun log a h hallowed => ⟨hallowed.2, h.1.concat rfl, fun hit =>
        h.2 (limitHit_concat_ok.1 hit)⟩) fun log e _ hallowed =>
          absurd hallowed (not_allowed_error rfl e log)) fun policy => .of_fact fun hholds => ?_
    rw [if_pos hholds]
    exact Telling.pure
  have hnames : ∀ {kind names reasonCode}, Telling live source
      (validateResolvedNames kind names reasonCode : Exec Row Unit) :=
    .ite .pure <| Telling.bind (.perform rfl) fun _ => Telling.bind (.perform rfl) fun _ =>
      .ite .pure (.throw rfl)
  have hexplain : Telling live source (explainPlan source sql : Exec Row PlanSummary) :=
    Telling.bind (Triple.tryCatch (Telling.bind (.perform rfl) fun _ => Telling.perform rfl)
      (reraiseForUserSql_failing _)) fun _ =>
        .bind (.lift (.of_checks (checks_extractPlan.bind fun _ => checks_summarizePlan))) fun _ =>
          .bind (.lift (.of_checks checks_admitPlan)) fun _ => .pure
  exact Telling.bind (.perform rfl) fun _ => Telling.bind (.perform rfl) fun _ =>
    Telling.bind (.perform rfl) fun _ => hpolicy.bind fun _ =>
      (hnames.bind fun _ => hnames).bind fun _ => hexplain

/-- The cursor. -/
theorem readResult_telling : Telling live source (readResult encodeRow source sql) := by
  have hloop : ∀ {fuel fetched},
      Telling live source (fetchLoop encodeRow source.budget fuel fetched) := by
    intro fuel
    induction fuel with
    | zero => exact .pure
    | succ fuel ih =>
      exact .ite .pure <| Telling.bind (.perform rfl) fun _ =>
        .ite .pure <| .bind (.lift (.of_checks checks_addBatch)) fun _ => ih
  have hread : Telling live source (readCursor encodeRow source sql) :=
    Telling.bind (.perform rfl) fun _ => Telling.bind (.perform rfl) fun _ =>
      .bind (.lift (.of_checks checks_checkDescription)) fun _ => hloop.bind fun _ => .pure
  refine Telling.bind (.perform rfl) fun _ => Triple.tryFinally
    (hread.tryCatch (reraiseForUserSql_failing _)) (fun _ => ?_) fun e => ?_
  · exact Triple.tryCatch (E := fun _ _ => False) (smooth_spec rfl rfl) fun _ _ _ _ h => h.elim
  · exact Triple.tryCatch (E := fun _ _ => False) (failing_spec rfl rfl) fun _ _ _ _ h => h.elim

/-- `_execute_connection` ends with a healthy source, or tells what it failed of. -/
theorem executeConnection_telling :
    Triple (callerWorld Row live source) Smooth
      (executeConnection encodeRow source sql metadataRevision validated queueMs queryId)
      (fun _ => Finished source) Failing := by
  have hmark : Triple (callerWorld Row live source) Smooth
      (perform (.setSourceQueryHealth source.sourceId .healthy) : Exec Row Unit)
      (fun _ => Finished source) Failing := by
    refine perform_spec (fun log a h _ => ⟨?_, fun hit => h.2 (limitHit_concat_ok.1 hit)⟩)
      fun log e _ hallowed => absurd hallowed (not_allowed_error rfl e log)
    intro event hmem sourceId status heq
    rcases List.mem_append.1 hmem with hmem | hmem
    · exact absurd heq (h.1 event hmem sourceId status)
    · rcases List.mem_singleton.1 hmem with rfl
      cases heq
      exact ⟨rfl, rfl⟩
  have htransaction : Triple (callerWorld Row live source) Smooth
      (runTransaction encodeRow source sql validated queryId)
      (fun _ => Finished source) Failing := by
    refine Triple.bind prepare_telling fun plan => Triple.bind readResult_telling fun _ => ?_
    refine Triple.bind (smooth_spec rfl rfl) fun _ => Triple.bind hmark fun _ => ?_
    exact Triple.pure.weaken_pre fun _ h => h
  refine Triple.bind (smooth_spec rfl rfl) fun startedAt => ?_
  refine Triple.bind (htransaction.tryCatch cleanUp_failing) fun outcome => ?_
  refine Triple.bind (finished_spec rfl rfl) fun now =>
    Triple.bind (finished_spec rfl rfl) fun _ => ?_
  refine Triple.bind (finished_spec rfl rfl) fun _ => Triple.bind (.ite (fun _ =>
    finished_spec rfl rfl) fun _ => Triple.pure.weaken_pre fun _ h => h) fun _ => ?_
  exact Triple.pure.weaken_pre fun _ h => h

/-! ## The layers around the block -/

/-- The connection passes its policy, and is used. -/
theorem useConnection_telling :
    Triple (callerWorld Row live source) Smooth
      (useConnection encodeRow source sql metadataRevision validated queueMs queryId)
      (fun _ => Finished source) Failing := by
  have hcheck : Triple (callerWorld Row live source) Smooth (checkConnection source)
      (fun _ => Smooth) Failing := by
    refine Triple.tryCatch (E := fun _ _ => False) ?_ fun _ _ _ _ h => h.elim
    refine Triple.bind (Q := fun info log =>
      requireReaderConnectionPolicy info source.sslmode = .ok () ∧ Smooth log)
      (perform_spec (fun log a h hallowed => ⟨hallowed.2, h.concat rfl⟩) fun log e _ hallowed =>
        absurd hallowed (not_allowed_error rfl e log)) fun info => .of_fact fun hpasses => ?_
    rw [hpasses]
    exact Triple.pure.weaken_pre fun _ h => h
  refine hcheck.bind fun _ => Triple.bind (smooth_spec rfl rfl) fun _ => ?_
  refine Triple.bind (smooth_spec rfl rfl) fun _ => ?_
  refine Triple.tryFinally executeConnection_telling (fun _ => ?_) fun e => ?_
  · exact Triple.bind (finished_spec rfl rfl) fun _ => finished_spec rfl rfl
  · exact Triple.bind (failing_spec rfl rfl) fun _ => failing_spec rfl rfl

/-- The pool, the timeout and the lease. -/
theorem executePermitted_telling :
    Triple (callerWorld Row live source) Smooth
      (executePermitted encodeRow source sql metadataRevision validated queueMs queryId)
      (fun _ => Finished source) Failing := by
  have hpure : Triple (callerWorld Row live source) Smooth (pure () : Exec Row Unit)
      (fun _ => Smooth) Failing :=
    Triple.pure.weaken_pre fun _ h => h
  have hpool : Triple (callerWorld Row live source) Smooth (getPool source)
      (fun _ => Smooth) Failing := by
    refine Triple.bind (smooth_spec rfl rfl) fun (existing : Bool) =>
      .ite (fun _ => hpure) fun _ => ?_
    refine Triple.bind (smooth_spec rfl rfl) fun _ => ?_
    refine Triple.bind (smooth_spec rfl rfl) fun (existing : Bool) =>
      .ite (fun _ => hpure) fun _ => ?_
    exact Triple.bind (smooth_spec rfl rfl) fun _ => smooth_spec rfl rfl
  refine Triple.bind hpool fun _ => Triple.bind (smooth_spec rfl rfl) fun _ => ?_
  refine Triple.exitWith (Triple.bind (smooth_spec rfl rfl) fun _ =>
    Triple.exitWith useConnection_telling (fun _ => finished_spec rfl rfl) fun _ =>
      failing_spec rfl rfl) (fun _ => ?_) fun e => ?_
  · refine Triple.bind (finished_spec rfl rfl) fun (expired : Bool) => .ite (fun hno => ?_) fun _ =>
      Triple.pure.weaken_pre fun _ h => h
    rw [Option.any_none, Bool.and_false] at hno
    cases hno
  · refine Triple.bind (failing_spec rfl rfl) fun (expired : Bool) => .ite (fun hyes => ?_) fun _ =>
      Triple.pure.weaken_pre fun _ h => h
    -- a cancellation does not lower the health, and neither does the timeout it becomes
    have hcancelled : e.isCancelled = true := (Bool.and_eq_true_iff.1 hyes).2
    have hlowers : lowersHealth e = false := by
      cases e <;> first | rfl | cases hcancelled
    refine Triple.throw.weaken_pre fun log h => ⟨h.1, ?_, fun _ => rfl⟩
    rw [h.2.1, hlowers]
    exact Iff.rfl

/-- The ladder of `except` clauses marks the source exactly if a limit was hit. -/
theorem mapFailure_failed {Q : α → Log Row → Prop} (e : Exc) :
    Triple (callerWorld Row live source) (Failing e) (mapFailure source queryId e) Q
      fun _ => Failed source := by
  have hthrow : ∀ {e'}, lowersHealth e = false → Triple (callerWorld Row live source) (Failing e)
      (throw e' : Exec Row α) Q fun _ => Failed source :=
    fun hlowers => Triple.throw.weaken_pre fun log h => h.failed hlowers
  have hcount : ∀ {o : Op} {k : Ret Row o → Exec Row α}, o.isCallerSql = false →
      o.writesNoHealth = true →
      (∀ a, Triple (callerWorld Row live source) (Failing e) (k a) Q fun _ => Failed source) →
      Triple (callerWorld Row live source) (Failing e) (perform o >>= k) Q fun _ => Failed source :=
    fun hsql ho hk => Triple.bind (failing_spec hsql ho) hk
  have hmark : lowersHealth e = true → Triple (callerWorld Row live source) (Failing e) (do
      setSourceQueryHealth source.sourceId .unavailable
      throw (.app .queryUnavailable) : Exec Row α) Q fun _ => Failed source := by
    intro hlowers
    refine Triple.bind (Q := fun _ => Failed source) (perform_spec (fun log a h _ => ?_)
      fun log e' _ hallowed => absurd hallowed (not_allowed_error rfl e' log)) fun _ =>
        Triple.throw.weaken_pre fun _ h => h
    refine ⟨fun _ => ⟨_, List.mem_append_right _ List.mem_cons_self⟩, fun hno => absurd ?_ hno⟩
    exact limitHit_concat_ok.2 (h.2.1.2 hlowers)
  unfold mapFailure
  split
  · exact hthrow rfl
  · exact hcount rfl rfl fun _ => hmark rfl
  · exact hcount rfl rfl fun _ => hthrow rfl
  · exact hcount rfl rfl fun _ => hcount rfl rfl fun _ => hthrow rfl
  · exact hcount rfl rfl fun _ => hmark rfl
  · exact hcount rfl rfl fun _ => hmark rfl
  · exact hcount rfl rfl fun _ => hmark rfl
  · exact hcount rfl rfl fun _ => hthrow rfl
  · exact hthrow rfl
  · exact hthrow rfl
  · exact hthrow rfl
  · next hpool _ _ hoperational hinterface hpolicy _ _ _ _ =>
    refine hcount rfl rfl fun _ => hthrow ?_
    cases e with
    | poolTimeout => exact absurd rfl hpool
    | interfaceError => exact absurd rfl hinterface
    | readerSessionPolicyError => exact absurd rfl hpolicy
    | database error =>
      refine decide_eq_false fun hcls => ?_
      obtain ⟨cls, sqlstate, message⟩ := error
      cases hcls
      exact hoperational _ _ rfl
    | _ => rfl

/-- The whole call: a finished run or a failed one. -/
theorem execute_health {requestedId : Option String} :
    Triple (callerWorld Row live source) Smooth
      (execute encodeRow source sql metadataRevision validated requestedId)
      (fun _ => Finished source) fun _ => Failed source := by
  have hthrow :
      ∀ {β : Type} {R : β → Log Row → Prop} {e}, Triple (callerWorld Row live source) Smooth
      (throw e : Exec Row β) R fun _ => Failed source :=
    Triple.throw.weaken_pre fun log h => ⟨fun hit => absurd hit h.2, fun _ => h.1⟩
  have hadmitted : ∀ effectiveId, Triple (callerWorld Row live source) Smooth
      (executeAdmitted encodeRow source sql metadataRevision validated effectiveId)
      (fun _ => Finished source) fun _ => Failed source := by
    intro effectiveId
    have hpermit : Triple (callerWorld Row live source) Smooth (acquirePermit source)
        (fun _ => Smooth) fun _ => Failed source :=
      Triple.tryCatch (E := fun _ _ => False) (smooth_spec rfl rfl) fun _ _ _ _ h => h.elim
    refine Triple.bind (smooth_spec rfl rfl) fun _ =>
      Triple.bind (smooth_spec rfl rfl) fun queuedAt => ?_
    refine Triple.bind hpermit fun _ => Triple.bind (smooth_spec rfl rfl) fun now => ?_
    refine Triple.bind (smooth_spec rfl rfl) fun _ => Triple.bind (smooth_spec rfl rfl) fun _ => ?_
    exact Triple.tryFinally (executePermitted_telling.tryCatch mapFailure_failed)
      (fun _ => finished_spec rfl rfl) fun _ => failed_spec rfl rfl
  have hadmit : Triple (callerWorld Row live source) Smooth admitTask (fun _ => Smooth)
      fun _ => Failed source :=
    Triple.bind (smooth_spec rfl rfl) fun _ => Triple.bind (smooth_spec rfl rfl)
      fun (accepting : Bool) => .ite (fun _ => smooth_spec rfl rfl) fun _ => hthrow
  have hrethrow : ∀ {e}, Triple (callerWorld Row live source) (Failed source)
      (throw e : Exec Row (Response Json)) (fun _ => Finished source) fun _ => Failed source :=
    Triple.throw.weaken_pre fun _ h => h
  have hinterrupt : ∀ e, Triple (callerWorld Row live source) (Failed source)
      (mapInterruption source e : Exec Row (Response Json)) (fun _ => Finished source)
      fun _ => Failed source :=
    fun e => .ite (fun _ => Triple.bind (failed_spec rfl rfl) fun (accepting : Bool) =>
      .ite (fun _ => Triple.bind (failed_spec rfl rfl) fun _ => hrethrow) fun _ => hrethrow)
      fun _ => hrethrow
  refine Triple.bind (smooth_spec rfl rfl) fun (task : Bool) => .ite (fun _ => ?_) fun _ => hthrow
  refine Triple.bind (.ite (fun _ => smooth_spec rfl rfl) fun _ =>
    Triple.pure.weaken_pre fun _ h => h) fun effectiveId => hadmit.bind fun _ => ?_
  refine Triple.tryFinally ((hadmitted effectiveId).tryCatch hinterrupt) (fun _ => ?_) fun _ => ?_
  · exact Triple.bind (finished_spec rfl rfl) fun _ => finished_spec rfl rfl
  · exact Triple.bind (failed_spec rfl rfl) fun _ => failed_spec rfl rfl

/-! ## The public status -/

theorem applyTo_of_writesNoHealth {o : Op} (ho : o.writesNoHealth = true)
    (operations : OperationalState) :
    (o.applyTo operations).publicStatus = operations.publicStatus ∧
      (o.applyTo operations).sourceQueryHealth = operations.sourceQueryHealth := by
  cases o <;> first | exact ⟨rfl, rfl⟩ | cases ho

theorem writesNoHealth_of_ne {o : Op}
    (h : ∀ sourceId status, o ≠ .setSourceQueryHealth sourceId status) :
    o.writesNoHealth = true := by
  cases o <;> first | rfl | exact absurd rfl (h _ _)

/-- A run that writes no health does not move the public status. -/
theorem publicStatus_of_untouched {log : Log Row} {operations : OperationalState}
    (h : Untouched log) :
    (operationsAfter operations log).publicStatus = operations.publicStatus := by
  induction log generalizing operations with
  | nil => rfl
  | cons event log ih =>
    have ho := writesNoHealth_of_ne (h event List.mem_cons_self)
    change (operationsAfter (event.1.applyTo operations) log).publicStatus = _
    rw [ih fun event' hmem => h event' (List.mem_cons_of_mem _ hmem),
      (applyTo_of_writesNoHealth ho operations).1]

/-- A run that marks a healthy source as healthy does not move the public status. -/
theorem publicStatus_of_healthy {log : Log Row} {operations : OperationalState} {sourceId : String}
    (h : ∀ event ∈ log, ∀ id status, event.1 = .setSourceQueryHealth id status →
      id = sourceId ∧ status = .healthy)
    (hhealthy : operations.sourceQueryHealth.lookup sourceId = some .healthy) :
    (operationsAfter operations log).publicStatus = operations.publicStatus := by
  induction log generalizing operations with
  | nil => rfl
  | cons event log ih =>
    have htail : ∀ event' ∈ log, ∀ id status, event'.1 = .setSourceQueryHealth id status →
        id = sourceId ∧ status = .healthy :=
      fun event' hmem => h event' (List.mem_cons_of_mem _ hmem)
    change (operationsAfter (event.1.applyTo operations) log).publicStatus = _
    by_cases hwrite : ∃ id status, event.1 = .setSourceQueryHealth id status
    · obtain ⟨id, status, hevent⟩ := hwrite
      obtain ⟨rfl, rfl⟩ := h event List.mem_cons_self id status hevent
      rw [hevent]
      change (operationsAfter (operations.setSourceQueryHealth id .healthy) log).publicStatus = _
      rw [ih htail (OperationalState.lookup_setSourceQueryHealth_healthy hhealthy),
        OperationalState.publicStatus_setSourceQueryHealth_healthy hhealthy]
    · have ho : event.1.writesNoHealth = true :=
        writesNoHealth_of_ne fun id status heq => hwrite ⟨id, status, heq⟩
      obtain ⟨hstatus, hsame⟩ := applyTo_of_writesNoHealth ho operations
      rw [ih htail (hsame ▸ hhealthy), hstatus]

/-- Every exception of such a run answers the caller's SQL. -/
def CallerErrors (log : Log Row) : Prop :=
  ∀ event ∈ log, ∀ e, raisedBy event = some e →
    ∃ sqlstate message, e = serverError sqlstate message ∧ IsCallerSqlstate sqlstate

theorem callerErrors_keeps {p : Exec Row α} :
    Keeps (callerWorld Row live source) CallerErrors p := by
  refine keeps_of_step (fun log o r h hallowed event hmem e hraised => ?_) p
  rcases List.mem_append.1 hmem with hmem | hmem
  · exact h event hmem e hraised
  · rcases List.mem_singleton.1 hmem with rfl
    cases r with
    | ok a => cases hraised
    | error e' =>
      cases hraised
      exact (onlyCallerSqlFails_error.1 hallowed.2).2

/-- The limits that were hit, by their SQLSTATEs. -/
theorem limitHit_iff {log : Log Row} (h : CallerErrors log) :
    LimitHit log ↔ ∃ event ∈ log, ∃ sqlstate message,
      raisedBy event = some (serverError sqlstate message) ∧ IsOperationalLimit sqlstate := by
  constructor
  · rintro ⟨event, hmem, e, hraised, he⟩
    obtain ⟨sqlstate, message, rfl, hstate⟩ := h event hmem e hraised
    exact ⟨event, hmem, sqlstate, message, hraised, (lowersHealth_serverError hstate).1 he⟩
  · rintro ⟨event, hmem, sqlstate, message, hraised, hlimit⟩
    refine ⟨event, hmem, _, hraised, ?_⟩
    obtain ⟨sqlstate', message', heq, hstate⟩ := h event hmem _ hraised
    have hsame : sqlstate = sqlstate' := Option.some.inj (congrArg Exc.sqlstate heq)
    exact (lowersHealth_serverError (hsame ▸ hstate)).2 hlimit

end

/-- **Query health under the caller's SQL**: in a run in which everything succeeds but the caller's
SQL, the health of the source is not lowered and the public status is unchanged exactly if no error
of PostgreSQL has class `54` or is `53400` or `55P03`. -/
theorem queryHealth_kept_iff {Row Json : Type} (live : LiveCatalog)
    (encodeRow : RowEncoder Row Json)
    (source : SourceProfile) (sql metadataRevision : String) (validated : ValidatedSql)
    (queryId : Option String) (operations : OperationalState) {log : Log Row}
    {result : Except Exc (Response Json)}
    (hrun : Run ((world Row live).restrict (OnlyCallerSqlFails source)) []
      (execute encodeRow source sql metadataRevision validated queryId) log result) :
    HealthUnaffected source operations log result ↔
      ∀ event ∈ log, ∀ sqlstate message, raisedBy event = some (serverError sqlstate message) →
        ¬ IsOperationalLimit sqlstate := by
  have herrors : CallerErrors log := by
    have hpost := callerErrors_keeps [] log result (fun _ h => absurd h List.not_mem_nil) hrun
    cases result <;> exact hpost
  have hpost := execute_health [] log result
    ⟨fun _ h => absurd h List.not_mem_nil, fun ⟨_, h, _⟩ => absurd h List.not_mem_nil⟩ hrun
  have hlimit : (∀ event ∈ log, ∀ sqlstate message,
      raisedBy event = some (serverError sqlstate message) → ¬ IsOperationalLimit sqlstate) ↔
        ¬ LimitHit log := by
    rw [limitHit_iff herrors]
    push Not
    exact Iff.rfl
  rw [hlimit]
  cases result with
  | ok response =>
    obtain ⟨hwrites, hno⟩ : Finished source log := hpost
    refine iff_of_true ⟨fun r hmem => ?_, fun h => ?_⟩ hno
    · cases (hwrites _ hmem _ _ rfl).2
    · refine publicStatus_of_healthy hwrites (h.resolve_left ?_)
      rintro ⟨e, he⟩
      cases he
  | error e =>
    obtain ⟨hhit, hmiss⟩ : Failed source log := hpost
    refine ⟨fun h hlimit => ?_, fun hno => ⟨fun r hmem => ?_, fun _ => ?_⟩⟩
    · obtain ⟨r, hmem⟩ := hhit hlimit
      exact h.notLowered r hmem
    · exact hmiss hno _ hmem _ _ rfl
    · exact publicStatus_of_untouched (hmiss hno)

/-! ## Errors of the caller -/

section

variable {Row : Type}

/-- PostgreSQL answers an operation with an error. -/
def serverAnswers (o : Op) (sqlstate message : String) (_ : Log Row) (o' : Op) : Option Exc :=
  if o' = o then some (serverError sqlstate message) else none

/-- Such an answer to the caller's SQL is what these runs may meet. -/
theorem serverAnswers_allowed {live : LiveCatalog} {o : Op} {sqlstate message : String}
    (hraise : ∀ e, o.canRaise e = true) (hsql : o.isCallerSql = true)
    (hstate : IsCallerSqlstate sqlstate) (log : Log Row) (o' : Op) :
    (callerWorld Row live plainSource).allowed log o'
      (injected live (serverAnswers o sqlstate message) log o') := by
  have hpossible : @PossibleFaults Row (serverAnswers o sqlstate message) := by
    intro log o' e he
    rw [serverAnswers] at he
    split at he
    · next heq =>
      cases he
      rw [heq]
      exact ⟨hraise _, nofun⟩
    · cases he
  refine ⟨injected_allowed hpossible log o', ?_⟩
  rw [injected]
  split
  · next e hfault =>
    rw [serverAnswers] at hfault
    split at hfault
    · next heq =>
      cases hfault
      rw [heq]
      exact onlyCallerSqlFails_error.2 ⟨hsql, sqlstate, message, rfl, hstate⟩
    · cases hfault
  · cases o' <;> trivial

end

/-- Division by zero on the cursor. -/
def divisionByZero : Log String × Except Exc (Response String) :=
  play (callerWorld String emptyLive plainSource)
    (injected emptyLive (serverAnswers (.send (.fetch 2)) "22012" "division by zero")) selectOne []

/-- Its one SQLSTATE is that of the division by zero. -/
theorem sqlstate_of_divisionByZero : ∀ event ∈ divisionByZero.1,
    (raisedBy event).bind Exc.sqlstate ∈ [none, some "22012"] := by
  decide +kernel

/-- Division by zero leaves the health. -/
theorem queryHealth_kept_iff_divisionByZero :
    HealthUnaffected plainSource .initial divisionByZero.1 divisionByZero.2 := by
  refine (queryHealth_kept_iff emptyLive _ plainSource "SELECT 1" "revision" selectOneValidated
    (some "q") .initial (run_play (serverAnswers_allowed (fun _ => rfl) rfl (.inl (by decide)))
      selectOne [])).2 fun event hmem sqlstate message hraised => ?_
  have hstate := sqlstate_of_divisionByZero event hmem
  rw [hraised] at hstate
  have hsame : sqlstate = "22012" := by simpa [serverError, Exc.sqlstate] using hstate
  subst hsame
  unfold IsOperationalLimit
  decide

/-- The state of a process whose one source is healthy. -/
def readyOperations : OperationalState :=
  ((OperationalState.initial.reconcileSources ["cave"]).setSourceHealth "cave" .healthy)

/-- **A sort that exceeds `temp_file_limit` takes the source out of readiness.** PostgreSQL answers
the fetch with `53400`, and the one source of the process is marked unavailable. -/
theorem tempFileLimit_lowersHealth :
    ∃ (log : Log String) (result : Except Exc (Response String)),
      Run ((world String emptyLive).restrict (OnlyCallerSqlFails plainSource))
        [] selectOne log result ∧
        ¬ HealthUnaffected plainSource readyOperations log result ∧
        result = .error (.app .queryUnavailable) ∧ readyOperations.publicStatus = .ready ∧
        (operationsAfter readyOperations log).publicStatus = .unavailable := by
  have hallowed :
      ∀ log o, ((world String emptyLive).restrict (OnlyCallerSqlFails plainSource)).allowed
      log o (injected emptyLive (serverAnswers (.send (.fetch 2)) "53400"
        "temporary file size exceeds temp_file_limit (1024kB)") log o) :=
    serverAnswers_allowed (fun _ => rfl) rfl (.inr (by decide))
  refine ⟨_, _, run_play hallowed selectOne [], ?_⟩
  generalize hplay : play (callerWorld String emptyLive plainSource) _ selectOne [] = played
  have hresult : played.2 = .error (.app .queryUnavailable) := by
    rw [← hplay]
    decide +kernel
  have hready : readyOperations.publicStatus = .ready := by decide +kernel
  have hlowered : (operationsAfter readyOperations played.1).publicStatus = .unavailable := by
    rw [← hplay]
    decide +kernel
  refine ⟨fun h => ?_, hresult, hready, hlowered⟩
  have hsame := h.publicStatus (.inl ⟨_, hresult⟩)
  rw [hlowered, hready] at hsame
  cases hsame

end QueryMan.PostgresQueryExecutor
