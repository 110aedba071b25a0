import QueryMan.Coro.Logic
import QueryMan.Coro.Trace
import QueryMan.GuardedQuery.Executor

/-!
# The world of the executor

What the environment of `PostgresQueryExecutor.execute` may answer. The state is the log of the
operations with their answers. Every await may return, raise any exception or be cancelled; reads
and writes of the process itself do not fail, the locks can only be cancelled, and the deadline of
`asyncio.timeout` strikes at most once, inside its block. The policy queries answer from a catalog.
-/

namespace QueryMan.PostgresQueryExecutor

open Coro

/-- An operation with its answer. -/
abbrev Event (Row : Type) : Type := Σ o : Op, Except Exc (Ret Row o)

/-- The operations of a run with their answers, in their order. -/
abbrev Log (Row : Type) : Type := List (Event Row)

/-! ## `asyncio.timeout` -/

/-- `asyncio.timeouts._State`. -/
inductive TimeoutState where
  | created
  | entered
  | expiring
  | exited
  deriving DecidableEq, Repr

/-- `asyncio.Timeout`: its state, and the calls of `task.cancel()` since it was entered that are not
its own. -/
structure Timeout where
  state : TimeoutState
  cancelling : Nat
  deriving DecidableEq, Repr

namespace Timeout

variable {Row : Type}

/-- The effect of an exception: a cancellation is the timeout's own or somebody else's. -/
def raised (timeout : Timeout) (e : Exc) : Timeout where
  state := if e.byDeadline then .expiring else timeout.state
  cancelling := if e.byCaller then timeout.cancelling + 1 else timeout.cancelling

/-- The effect of an answer: only a cancellation has one. -/
def answered {α : Type} (timeout : Timeout) : Except Exc α → Timeout
  | .ok _ => timeout
  | .error e => timeout.raised e

/-- The effect of an event. -/
def advance (timeout : Timeout) : Event Row → Timeout
  | ⟨.enterTimeout _, _⟩ => ⟨.entered, 0⟩
  | ⟨.exitTimeout, _⟩ => { timeout with state := .exited }
  | ⟨_, r⟩ => timeout.answered r

end Timeout

variable {Row : Type}

/-- The timeout after the events of a log. -/
def timeoutAfter (log : Log Row) : Timeout :=
  log.foldl Timeout.advance ⟨.created, 0⟩

@[simp] theorem timeoutAfter_concat (log : Log Row) (event : Event Row) :
    timeoutAfter (log ++ [event]) = (timeoutAfter log).advance event := by
  simp [timeoutAfter]

/-! ## Answers -/

/-- The exceptions that an operation can raise. -/
def Op.canRaise : Op → Exc → Bool
  | .lockActive _, e | .lockPool, e => e.isCancelled
  | .acquireSemaphore _ _, e => e.isCancelled || e = .timeoutError
  | .connectionInfo, e | .openCursor, e | .description, e => !e.isCancelled
  | .openPool _ _ _, _ | .leaseConnection _ _, _ | .returnConnection _,
      _ | .closeConnection, _ => true
  | .send _, _ | .fetchPolicyRow, _ | .fetchObjects _ _, _ | .fetchPlan, _ => true
  | .cancelSafe, _ | .rollback, _ => true
  | _, _ => false

/-- The answer of a policy query. -/
def objectPolicy (live : LiveCatalog) : ObjectKind → List String → List PolicyRow
  | .function => live.functionPolicy
  | .operator => live.operatorPolicy

/-- The answers of the two operations that are not free: a policy query answers from the catalog,
and a timeout takes the blame if it has struck and nobody else has asked for a cancellation. -/
def answers (live : LiveCatalog) (log : Log Row) : (o : Op) → Ret Row o → Prop
  | .fetchObjects kind names, rows => rows = objectPolicy live kind names
  | .exitTimeout, expired =>
    expired = decide ((timeoutAfter log).state = .expiring ∧ (timeoutAfter log).cancelling = 0)
  | _, _ => True

/-- The world of one call of `execute`. -/
def world (Row : Type) (live : LiveCatalog) : World (Log Row) (Ret Row) Exc where
  allowed := fun log o r =>
    match r with
    | .ok a => answers live log o a
    | .error e =>
      o.canRaise e = true ∧ (e.byDeadline = true → (timeoutAfter log).state = .entered)
  next := fun log o r => log ++ [⟨o, r⟩]

/-! ## Statements -/

/-- The statement that an operation sends on the leased connection. -/
def Op.statement : Op → Option Statement
  | .send statement => some statement
  | _ => none

/-- The statements that were sent, in their order. -/
def sent (log : Log Row) : List Statement :=
  log.filterMap fun event => event.1.statement

@[simp] theorem sent_concat (log : Log Row) (event : Event Row) :
    sent (log ++ [event]) = sent log ++ event.1.statement.toList := by
  rw [sent, List.filterMap_append, sent]
  cases h : event.1.statement <;> simp [h]

/-- The exception of an event. -/
def raisedBy (event : Event Row) : Option Exc :=
  match event.2 with
  | .ok _ => none
  | .error e => some e

/-- The statement was sent and answered without an exception. -/
def Answered (statement : Statement) (log : Log Row) : Prop :=
  ∃ answer, ⟨.send statement, .ok answer⟩ ∈ log

/-! ## Rules -/

/-- An operation: what its answers lead to. -/
theorem perform_spec {W : World (Log Row) (Ret Row) Exc} {o : Op} {P : Log Row → Prop}
    {Q : Ret Row o → Log Row → Prop} {E : Exc → Log Row → Prop}
    (hok : ∀ log a, P log → W.allowed log o (.ok a) → Q a (W.next log o (.ok a)))
    (herror : ∀ log e, P log → W.allowed log o (.error e) → E e (W.next log o (.error e))) :
    Triple W P (perform o) Q E :=
  .perform fun log r hP hallowed => by
    cases r with
    | ok a => exact hok log a hP hallowed
    | error e => exact herror log e hP hallowed

/-- More events do not take the fact away. -/
def Stable (F : Log Row → Prop) : Prop :=
  ∀ log event, F log → F (log ++ [event])

theorem Stable.and {F G : Log Row → Prop} (hF : Stable F) (hG : Stable G) :
    Stable fun log => F log ∧ G log :=
  fun log event h => ⟨hF log event h.1, hG log event h.2⟩

theorem stable_answered (statement : Statement) : @Stable Row (Answered statement) :=
  fun _ _ ⟨answer, hmem⟩ => ⟨answer, List.mem_append_left _ hmem⟩

section

variable {W : World (Log Row) (Ret Row) Exc} {P J I : Log Row → Prop} {α : Type}

/-- `try: … except Exception: pass`: both ends of the block lead to the end of the whole. -/
theorem quietly_spec {p : Exec Row Unit} (hp : Triple W P p (fun _ => J) fun _ => J) :
    Triple W P (quietly p) (fun _ => J) fun _ => J :=
  hp.tryCatch fun _ => .ite (fun _ => Keeps.throw) fun _ => Keeps.pure

/-- Raising keeps the state, and there is no return. -/
theorem throw_spec {Q : α → Log Row → Prop} (e : Exc) :
    Triple W I (throw e : Exec Row α) Q fun _ => I :=
  Triple.throw (E := fun _ => I)

/-- The handler around the caller's SQL only counts, and raises. -/
theorem reraiseForUserSql_spec {Q : α → Log Row → Prop}
    (hI : ∀ name sourceId, Keeps W I (perform (.increment name sourceId)))
    (sourceId : String) (e : Exc) :
    Triple W I (reraiseForUserSql sourceId e) Q fun _ => I := by
  have hcount : Keeps W I (raiseQueryInvalidForUserSql e sourceId) := by
    rw [raiseQueryInvalidForUserSql]
    split
    · exact .pure
    · exact (hI _ _).bind fun _ => .throw
  exact .ite (fun _ => Triple.bind hcount fun _ => throw_spec e) fun _ => throw_spec e

/-- The operations of the two outer handlers. -/
def Op.isBookkeeping : Op → Bool
  | .increment _ _ | .setSourceQueryHealth _ _ | .cancelReasonShutdown _ | .accepting => true
  | _ => false

theorem statement_of_isBookkeeping {o : Op} (ho : o.isBookkeeping = true) : o.statement = none := by
  cases o <;> first | rfl | cases ho

/-- The ladder of `except` clauses counts, marks the health and raises. -/
theorem mapFailure_spec {Q : α → Log Row → Prop} {source : SourceProfile} {queryId : String}
    (hI : ∀ o : Op, o.isBookkeeping = true → Keeps W I (perform o)) (e : Exc) :
    Triple W I (mapFailure source queryId e) Q fun _ => I := by
  unfold mapFailure
  split
  · exact throw_spec _
  · exact Triple.bind (hI _ rfl) fun _ => Triple.bind (hI _ rfl) fun _ => throw_spec _
  · exact Triple.bind (hI _ rfl) fun _ => throw_spec _
  · exact Triple.bind (hI _ rfl) fun _ => Triple.bind (hI _ rfl) fun _ => throw_spec _
  · exact Triple.bind (hI _ rfl) fun _ => Triple.bind (hI _ rfl) fun _ => throw_spec _
  · exact Triple.bind (hI _ rfl) fun _ => Triple.bind (hI _ rfl) fun _ => throw_spec _
  · exact Triple.bind (hI _ rfl) fun _ => Triple.bind (hI _ rfl) fun _ => throw_spec _
  · exact Triple.bind (hI _ rfl) fun _ => throw_spec _
  · exact throw_spec _
  · exact throw_spec _
  · exact throw_spec _
  · exact Triple.bind (hI _ rfl) fun _ => throw_spec _

/-- The outermost handler counts and raises. -/
theorem mapInterruption_spec {Q : α → Log Row → Prop} {source : SourceProfile}
    (hI : ∀ o : Op, o.isBookkeeping = true → Keeps W I (perform o)) (e : Exc) :
    Triple W I (mapInterruption source e) Q fun _ => I := by
  refine .ite (fun _ => ?_) fun _ => throw_spec e
  refine Triple.bind (hI _ rfl) fun (_ : Bool) => .ite (fun _ => ?_) fun _ => throw_spec _
  exact Triple.bind (hI _ rfl) fun _ => throw_spec e

end

/-- An operation that cannot raise. -/
theorem local_spec {W : World (Log Row) (Ret Row) Exc} {o : Op} {I : Log Row → Prop}
    {E : Exc → Log Row → Prop} (hnever : ∀ e log, ¬ W.allowed log o (.error e))
    (hI : Keeps W I (perform o)) : Triple W I (perform o) (fun _ => I) E := by
  refine perform_spec (fun log a h hallowed => ?_) fun log e _ hallowed =>
    absurd hallowed (hnever e log)
  exact hI log _ _ h (.call hallowed (.done _ _))

/-! ## The layers around a connection -/

/-- Three descriptions of a log that operations which send nothing keep: before the connection is
used, after its use returned, and after it raised. -/
structure Layers (W : World (Log Row) (Ret Row) Exc) (idle finished failed : Log Row → Prop) :
    Prop where
  idle_keeps : ∀ o : Op, o.statement = none → Keeps W idle (perform o)
  finished_keeps : ∀ o : Op, o.statement = none → Keeps W finished (perform o)
  failed_keeps : ∀ o : Op, o.statement = none → Keeps W failed (perform o)
  failed_of_idle : ∀ log, idle log → failed log
  failed_of_finished : ∀ log, finished log → failed log

namespace Layers

variable {W : World (Log Row) (Ret Row) Exc} {idle finished failed : Log Row → Prop} {Json α : Type}

/-- A program before the connection is used. -/
theorem before (h : Layers W idle finished failed) {p : Exec Row α} (hp : Keeps W idle p) :
    Triple W idle p (fun _ => idle) fun _ => failed :=
  hp.weaken_exc fun _ => h.failed_of_idle

/-- A context manager around the use of the connection that sends nothing itself. -/
theorem around (h : Layers W idle finished failed) {P : Log Row → Prop} {p : Exec Row α}
    {exit : Option Exc → Exec Row Unit}
    (hp : Triple W P p (fun _ => finished) fun _ => failed)
    (hexit : ∀ I : Log Row → Prop, (∀ o : Op, o.statement = none → Keeps W I (perform o)) →
      ∀ raised, Keeps W I (exit raised)) :
    Triple W P (p.exitWith exit) (fun _ => finished) fun _ => failed :=
  hp.exitWith
    (fun _ => Triple.weaken_exc (hexit _ h.finished_keeps none) fun _ => h.failed_of_finished)
    fun e => hexit _ h.failed_keeps (some e)

variable {encodeRow : RowEncoder Row Json} {source : SourceProfile} {sql metadataRevision : String}
  {validated : ValidatedSql}

/-- The pool, the timeout and the lease around the use of the connection. -/
theorem executePermitted (h : Layers W idle finished failed) {queueMs : Int} {queryId : String}
    (huse : Triple W idle
      (useConnection encodeRow source sql metadataRevision validated queueMs queryId)
      (fun _ => finished) fun _ => failed) :
    Triple W idle
      (executePermitted encodeRow source sql metadataRevision validated queueMs queryId)
      (fun _ => finished) fun _ => failed := by
  have hidle : ∀ {o : Op}, o.statement = none → Keeps W idle (perform o) := fun ho =>
    h.idle_keeps _ ho
  have hpool : Keeps W idle (getPool source) :=
    (hidle rfl).bind fun (_ : Bool) => .ite .pure <| (hidle rfl).bind fun _ =>
      (hidle rfl).bind fun (_ : Bool) => .ite .pure <| (hidle rfl).bind fun _ => hidle rfl
  refine Triple.bind (h.before hpool) fun _ => ?_
  refine Triple.bind (h.before (hidle rfl)) fun _ => ?_
  refine h.around ?_ fun _ hI _ => (hI _ rfl).bind fun (_ : Bool) => .ite .throw .pure
  refine Triple.bind (h.before (hidle rfl)) fun _ => ?_
  exact h.around huse fun _ hI _ => hI _ rfl

/-- The permit and the ladder of `except` clauses. -/
theorem executeAdmitted (h : Layers W idle finished failed) {queryId : String}
    (huse : ∀ queueMs, Triple W idle
      (useConnection encodeRow source sql metadataRevision validated queueMs queryId)
      (fun _ => finished) fun _ => failed) :
    Triple W idle (executeAdmitted encodeRow source sql metadataRevision validated queryId)
      (fun _ => finished) fun _ => failed := by
  have hidle : ∀ {o : Op}, o.statement = none → Keeps W idle (perform o) := fun ho =>
    h.idle_keeps _ ho
  have hpermit : Keeps W idle (acquirePermit source) :=
    (hidle rfl).tryCatch fun _ => .ite ((hidle rfl).bind fun _ => .throw) .throw
  refine Triple.bind (h.before (hidle rfl)) fun _ => ?_
  refine Triple.bind (h.before (hidle rfl)) fun queuedAt => ?_
  refine Triple.bind (h.before hpermit) fun _ => ?_
  refine Triple.bind (h.before (hidle rfl)) fun now => ?_
  refine Triple.bind (h.before (hidle rfl)) fun _ => ?_
  refine Triple.bind (h.before (hidle rfl)) fun _ => ?_
  exact h.around (Triple.tryCatch (h.executePermitted (huse _)) (mapFailure_spec fun _ ho =>
    h.failed_keeps _ (statement_of_isBookkeeping ho)))
    fun _ hI _ => hI _ rfl

/-- **From the use of the connection to the whole call.** -/
theorem execute (h : Layers W idle finished failed) {queryId : Option String}
    (huse : ∀ queueMs effectiveId, Triple W idle
      (useConnection encodeRow source sql metadataRevision validated queueMs effectiveId)
      (fun _ => finished) fun _ => failed) :
    Triple W idle (execute encodeRow source sql metadataRevision validated queryId)
      (fun _ => finished) fun _ => failed := by
  have hidle : ∀ {o : Op}, o.statement = none → Keeps W idle (perform o) := fun ho =>
    h.idle_keeps _ ho
  have hqueryId : Keeps W idle (effectiveQueryId queryId) := .ite (hidle rfl) .pure
  have hadmit : Keeps W idle admitTask :=
    (hidle rfl).bind fun _ => (hidle rfl).bind fun (_ : Bool) => .ite (hidle rfl) .throw
  refine Triple.bind (h.before (hidle rfl)) fun (task : Bool) => .ite (fun _ => ?_) fun _ => ?_
  · refine Triple.bind (h.before hqueryId) fun effectiveId => ?_
    refine Triple.bind (h.before hadmit) fun _ => ?_
    refine h.around (Triple.tryCatch (h.executeAdmitted fun queueMs => huse queueMs effectiveId)
      (mapInterruption_spec fun _ ho => h.failed_keeps _ (statement_of_isBookkeeping ho)))
        fun _ hI _ => (hI _ rfl).bind fun _ => hI _ rfl
  · exact Triple.throw.weaken_pre h.failed_of_idle

end Layers

end QueryMan.PostgresQueryExecutor
