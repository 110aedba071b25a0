import QueryMan.Coro.Program
import QueryMan.GuardedQuery.Plan
import QueryMan.GuardedQuery.ResolvedObjects
import QueryMan.GuardedQuery.ResultEncoding
import QueryMan.Python.Float
import QueryMan.Runtime.Operations
import QueryMan.SourceCatalog.ReaderPolicy

/-!
# The query executor

`PostgresQueryExecutor.execute` of `guarded_query/query.py` with all it calls, as a program over the
operations of its environment: the awaits, each of which may return, raise or be cancelled, and the
reads and writes of what it shares with other tasks. The definitions follow the functions of the
source one by one, with their `try` blocks and context managers.

The rows of a result and their JSON values are parameters, and so is the encoder of a row, which
answers with the value and the bytes of its compact JSON text. Audit messages are left out.
-/

namespace QueryMan.PostgresQueryExecutor

open Coro
open Python (roundHalfEven toFloat)

/-! ## Operations -/

/-- The sections that `_active_lock` guards. -/
inductive ActiveSection where
  | admission
  | register
  | deregister
  | retire
  deriving DecidableEq, Repr

/-- The two policy queries of `_validate_resolved_objects`. -/
inductive ObjectKind where
  | function
  | operator
  deriving DecidableEq, Repr

/-- The statements of a query on its leased connection. -/
inductive Statement where
  /-- `BEGIN TRANSACTION ISOLATION LEVEL REPEATABLE READ READ ONLY` -/
  | beginTransaction
  /-- `READER_SESSION_TIMEZONE_SETTER` -/
  | timeZone
  /-- `_QUERY_SESSION_SETTINGS` with its parameters -/
  | sessionSettings (values : List String)
  /-- `_READER_SESSION_POLICY_QUERY` -/
  | sessionPolicy
  /-- `_FUNCTION_POLICY_QUERY` or `_OPERATOR_POLICY_QUERY` with the names -/
  | objectPolicy (kind : ObjectKind) (names : List String)
  /-- `EXPLAIN (FORMAT JSON)` of the SQL -/
  | explain (sql : String)
  /-- the SQL on the named cursor -/
  | declare (sql : String)
  /-- `cursor.fetchmany` -/
  | fetch (size : Nat)
  /-- `cursor.close` -/
  | closeCursor
  /-- `COMMIT` -/
  | commit
  deriving DecidableEq, Repr

/-- The operations of the environment. -/
inductive Op where
  /-- `asyncio.current_task()` is a task -/
  | currentTask
  | uuid4
  /-- `time.monotonic()` -/
  | monotonic
  /-- `async with self._active_lock` -/
  | lockActive (part : ActiveSection)
  /-- `self._accepting` -/
  | accepting
  | addInflight
  | discardInflight
  /-- `self._semaphores.setdefault` -/
  | semaphore (sourceId : String) (limit : Nat)
  /-- `asyncio.wait_for(semaphore.acquire(), timeout)` -/
  | acquireSemaphore (sourceId : String) (timeoutMs : Nat)
  | releaseSemaphore (sourceId : String)
  | increment (name sourceId : String)
  | observe (name : String) (value : Int) (sourceId : String)
  | setSourceQueryHealth (sourceId : String) (status : Health)
  /-- `self._pools.get(source_id) is not None` -/
  | hasPool (sourceId : String)
  /-- `async with self._pool_lock` -/
  | lockPool
  /-- `AsyncConnectionPool(...)` and `pool.open()` -/
  | openPool (sourceId : String) (maxSize timeoutMs : Nat)
  | storePool (sourceId : String)
  /-- the two ends of `asyncio.timeout`; at its end, whether the timeout takes the blame -/
  | enterTimeout (timeoutMs : Nat)
  | exitTimeout
  /-- the two ends of `pool.connection`; at its end, whether the block raised -/
  | leaseConnection (sourceId : String) (timeoutMs : Nat)
  | returnConnection (raised : Bool)
  /-- the reads of `require_reader_connection_policy` -/
  | connectionInfo
  /-- `connection.close()` -/
  | closeConnection
  /-- `self._active[query_id] = active_query` -/
  | addActive (queryId : String)
  /-- `self._active.pop(query_id, None)` -/
  | popActive (queryId : String)
  /-- whether the record of the query says `shutdown`; a query without a record has no reason -/
  | cancelReasonShutdown (queryId : String)
  | send (statement : Statement)
  /-- `cursor.fetchone()` of the session policy query -/
  | fetchPolicyRow
  /-- `cursor.fetchall()` of an object policy query -/
  | fetchObjects (kind : ObjectKind) (names : List String)
  /-- `plan_cursor.fetchone()` -/
  | fetchPlan
  /-- `connection.cursor(name=...)` -/
  | openCursor
  /-- `cursor.description` -/
  | description
  /-- `connection.cancel_safe(timeout=1)` -/
  | cancelSafe
  /-- `connection.rollback()` -/
  | rollback
  deriving DecidableEq, Repr

/-- What a statement answers with: a batch of rows, or nothing that is read here. -/
def Statement.Result (Row : Type) : Statement → Type
  | fetch _ => List Row
  | _ => Unit

/-- What an operation answers with. -/
def Ret (Row : Type) : Op → Type
  | .currentTask | .accepting | .hasPool _ | .exitTimeout | .cancelReasonShutdown _ => Bool
  | .uuid4 => String
  | .monotonic => ℚ
  | .connectionInfo => ConnectionInfo
  | .send statement => statement.Result Row
  | .fetchPolicyRow => Option SessionPolicyRow
  | .fetchObjects _ _ => List PolicyRow
  | .fetchPlan => Option (List (String × PlanValue))
  | .description => Option (List ResultColumn)
  | _ => Unit

/-- The executor's programs. -/
abbrev Exec (Row α : Type) : Type := Prog (Ret Row) Exc α

section

variable {Row Json α : Type}

/-- Call an operation. -/
def perform (o : Op) : Exec Row (Ret Row o) :=
  Prog.perform o

/-- Send a statement. -/
def send (statement : Statement) : Exec Row (statement.Result Row) :=
  perform (.send statement)

/-- `operations.increment`. -/
def increment (name sourceId : String) : Exec Row Unit :=
  perform (.increment name sourceId)

/-- `operations.increment` under a condition. -/
def incrementIf (c : Bool) (name sourceId : String) : Exec Row Unit :=
  if c then increment name sourceId else pure ()

/-- `operations.set_source_query_health`. -/
def setSourceQueryHealth (sourceId : String) (status : Health) : Exec Row Unit :=
  perform (.setSourceQueryHealth sourceId status)

/-- `try: … except Exception: pass`. -/
def quietly (p : Exec Row Unit) : Exec Row Unit :=
  p.tryCatch fun e => if e.isCancelled then throw e else pure ()

/-- `_rollback_quietly`. -/
def rollbackQuietly : Exec Row Unit :=
  quietly (perform .rollback)

/-! ## Checks before execution -/

/-- `require_reader_session_policy`. -/
def requireReaderSessionPolicy : Exec Row Unit := do
  send .sessionPolicy
  let policy : Option SessionPolicyRow ← perform .fetchPolicyRow
  if sessionPolicyHolds policy then pure () else throw .readerSessionPolicyError

/-- One half of `_validate_resolved_objects`. -/
def validateResolvedNames (kind : ObjectKind) (names : Finset String) (reasonCode : String) :
    Exec Row Unit :=
  if names = ∅ then pure ()
  else do
    send (.objectPolicy kind (sorted names))
    let rows : List PolicyRow ← perform (.fetchObjects kind (sorted names))
    if safeNames rows = names then pure () else throw (.app (.queryRejected reasonCode none))

/-- `_validate_resolved_objects`. -/
def validateResolvedObjects (validated : ValidatedSql) : Exec Row Unit := do
  validateResolvedNames .function validated.functionNames "QUERY_RESOLVED_FUNCTION_NOT_ALLOWED"
  validateResolvedNames .operator validated.operatorNames "QUERY_RESOLVED_OPERATOR_NOT_ALLOWED"

/-- `_raise_query_invalid_for_user_sql`. -/
def raiseQueryInvalidForUserSql (e : Exc) (sourceId : String) : Exec Row Unit :=
  match queryInvalidReason e with
  | none => pure ()
  | some reasonCode => do
    increment "query_invalid" sourceId
    throw (.app (.queryInvalid reasonCode))

/-- `except errors.DatabaseError` around the caller's SQL. -/
def reraiseForUserSql (sourceId : String) (e : Exc) : Exec Row α :=
  if e.isDatabaseError then do
    raiseQueryInvalidForUserSql e sourceId
    throw e
  else throw e

/-- The `EXPLAIN` phase of `_execute_connection`. -/
def explainPlan (source : SourceProfile) (sql : String) : Exec Row PlanSummary := do
  let planRow ← Prog.tryCatch (reraiseForUserSql source.sourceId) do
    send (.explain sql)
    perform .fetchPlan
  let plan ← .lift (extractPlan planRow >>= summarizePlan)
  .lift (admitPlan source plan)
  pure plan

/-! ## The result -/

/-- The exceptions of the row encoder. -/
inductive EncodingFailure where
  | resultEncodingError
  | other
  deriving DecidableEq, Repr

/-- The encoder of a row: the value with the length of its compact UTF-8 JSON text. -/
abbrev RowEncoder (Row Json : Type) : Type := Row → Except EncodingFailure (Json × Nat)

/-- What the fetch loop has collected. -/
structure Fetched (Json : Type) where
  rows : List Json
  resultBytes : Nat
  truncated : Bool
  deriving DecidableEq, Repr

/-- The exception of a failing encoder. -/
def EncodingFailure.exc : EncodingFailure → Exc
  | resultEncodingError => .resultEncodingError
  | other => .other

/-- The loop over the rows of a batch. -/
def addBatch (encodeRow : RowEncoder Row Json) (budget : BudgetProfile) :
    List Row → Fetched Json → Except Exc (Fetched Json)
  | [], fetched => .ok fetched
  | row :: batch, fetched =>
    if fetched.rows.length ≥ budget.maxResultRows then .ok { fetched with truncated := true }
    else
      match encodeRow row with
      | .error failure => .error failure.exc
      | .ok (encodedRow, rowBytes) =>
        let separatorBytes := if fetched.rows.isEmpty then 0 else 1
        if fetched.resultBytes + separatorBytes + rowBytes > budget.maxResultBytes then
          .ok { fetched with truncated := true }
        else
          addBatch encodeRow budget batch
            { fetched with
              rows := fetched.rows ++ [encodedRow]
              resultBytes := fetched.resultBytes + separatorBytes + rowBytes }

/-- `_RESULT_FETCH_BATCH_ROWS`. -/
def resultFetchBatchRows : Nat := 16

/-- The loop `while not truncated`. Every turn but the last adds a row, so that the rows that are
still allowed bound the turns. -/
def fetchLoop (encodeRow : RowEncoder Row Json) (budget : BudgetProfile) :
    Nat → Fetched Json → Exec Row (Fetched Json)
  | 0, fetched => pure fetched
  | fuel + 1, fetched =>
    if fetched.truncated then pure fetched
    else do
      let batch : List Row ← send (.fetch
        (min resultFetchBatchRows (budget.maxResultRows - fetched.rows.length + 1)))
      if batch.isEmpty then pure fetched
      else do
        let fetched' ← .lift (addBatch encodeRow budget batch fetched)
        fetchLoop encodeRow budget fuel fetched'

/-- A batch that does not truncate the result is added to the end, within the row limit. -/
theorem addBatch_rows {encodeRow : RowEncoder Row Json} {budget : BudgetProfile} {batch : List Row}
    {fetched fetched' : Fetched Json} (h : addBatch encodeRow budget batch fetched = .ok fetched')
    (hrows : fetched.rows.length ≤ budget.maxResultRows) :
    fetched'.truncated = true ∨
      (fetched'.rows.length = fetched.rows.length + batch.length ∧
        fetched'.rows.length ≤ budget.maxResultRows) := by
  induction batch generalizing fetched with
  | nil =>
    cases h
    exact .inr ⟨rfl, hrows⟩
  | cons row batch ih =>
    rw [addBatch] at h
    split at h
    · cases h
      exact .inl rfl
    · next hlimit =>
      split at h
      · cases h
      · next encodedRow rowBytes hencode =>
        dsimp only at h
        generalize (if fetched.rows.isEmpty = true then 0 else 1) = separatorBytes at h
        split at h
        · cases h
          exact .inl rfl
        · have hlength : (fetched.rows ++ [encodedRow]).length = fetched.rows.length + 1 :=
            List.length_append
          rcases ih h (by rw [hlength]; omega) with htruncated | ⟨hadded, hle⟩
          · exact .inl htruncated
          · exact .inr ⟨by rw [hadded, hlength, List.length_cons]; omega, hle⟩

/-- **The fetch loop ends by itself**: from the rows that are still allowed on, more fuel changes
nothing. -/
theorem fetchLoop_fuel {encodeRow : RowEncoder Row Json} {budget : BudgetProfile} {fuel : Nat}
    {fetched : Fetched Json}
    (h : fetched.truncated = true ∨
      (fetched.rows.length ≤ budget.maxResultRows ∧
        budget.maxResultRows < fuel + fetched.rows.length))
    (extra : Nat) :
    fetchLoop encodeRow budget (fuel + extra) fetched =
      fetchLoop encodeRow budget fuel fetched := by
  induction fuel generalizing fetched with
  | zero =>
    rcases h with htruncated | ⟨hle, hlt⟩
    · cases extra with
      | zero => rfl
      | succ extra => rw [Nat.zero_add, fetchLoop, fetchLoop, if_pos htruncated]
    · omega
  | succ fuel ih =>
    rw [Nat.succ_add, fetchLoop, fetchLoop]
    split
    · rfl
    · next hopen =>
      rcases h with htruncated | ⟨hle, hlt⟩
      · exact absurd htruncated hopen
      refine congrArg _ (funext fun batch => ?_)
      split
      · rfl
      · next hbatch =>
        cases hadd : addBatch encodeRow budget batch fetched with
        | error e => rfl
        | ok fetched' =>
          refine ih ?_
          have hpos : 0 < batch.length := by
            cases batch with
            | nil => exact absurd rfl hbatch
            | cons row batch => exact Nat.succ_pos _
          rcases addBatch_rows hadd hle with htruncated | ⟨hadded, hle'⟩
          · exact .inl htruncated
          · exact .inr ⟨hle', by omega⟩

/-- `result_bytes` starts with the two brackets. -/
def Fetched.empty : Fetched Json := ⟨[], 2, false⟩

/-- The block inside the cursor's `try`. -/
def readCursor (encodeRow : RowEncoder Row Json) (source : SourceProfile) (sql : String) :
    Exec Row (List String × Fetched Json) := do
  send (.declare sql)
  let description : Option (List ResultColumn) ← perform .description
  let columns ← .lift (checkDescription description)
  let fetched ← fetchLoop encodeRow source.budget (source.budget.maxResultRows + 1) .empty
  pure (columns, fetched)

/-- The cursor phase of `_execute_connection`. -/
def readResult (encodeRow : RowEncoder Row Json) (source : SourceProfile) (sql : String) :
    Exec Row (List String × Fetched Json) := do
  perform .openCursor
  Prog.tryFinally
    ((readCursor encodeRow source sql).tryCatch (reraiseForUserSql source.sourceId))
    (quietly (send .closeCursor))

/-! ## The transaction -/

/-- The response of a query. -/
structure Response (Json : Type) where
  queryId : String
  metadataRevision : String
  fingerprint : String
  columns : List String
  rows : List Json
  rowCount : Nat
  resultBytes : Nat
  truncated : Bool
  queueMs : Int
  elapsedMs : Int
  planSummary : PlanSummary
  deriving DecidableEq

/-- `round((time.monotonic() - since) * 1000)`, where each operation rounds to a float. -/
def milliseconds (since now : ℚ) : Int :=
  roundHalfEven (toFloat (toFloat (now - since) * 1000))

/-- The parameters of `_QUERY_SESSION_SETTINGS`. -/
def sessionSettingValues (source : SourceProfile) (queryId : String) : List String :=
  [toString source.budget.queryStatementTimeoutMs ++ "ms",
    toString source.budget.queryTransactionTimeoutMs ++ "ms",
    toString source.budget.lockTimeoutMs ++ "ms",
    toString source.budget.queryTransactionTimeoutMs ++ "ms", "", "query-man:" ++ queryId] ++
  readerSessionBudgetValues source

/-- The checks of `_execute_connection` up to the admission of the plan. -/
def prepare (source : SourceProfile) (sql : String) (validated : ValidatedSql) (queryId : String) :
    Exec Row PlanSummary := do
  send .beginTransaction
  send .timeZone
  send (.sessionSettings (sessionSettingValues source queryId))
  requireReaderSessionPolicy
  validateResolvedObjects validated
  explainPlan source sql

/-- The block inside the outer `try` of `_execute_connection`. -/
def runTransaction (encodeRow : RowEncoder Row Json) (source : SourceProfile) (sql : String)
    (validated : ValidatedSql) (queryId : String) :
    Exec Row (PlanSummary × List String × Fetched Json) := do
  let plan ← prepare source sql validated queryId
  let (columns, fetched) ← readResult encodeRow source sql
  send .commit
  setSourceQueryHealth source.sourceId .healthy
  pure (plan, columns, fetched)

/-- The two `except` blocks of `_execute_connection`. -/
def cleanUp (e : Exc) : Exec Row α :=
  if e.isCancelled then do
    perform .cancelSafe
    rollbackQuietly
    throw e
  else do
    rollbackQuietly
    throw e

/-- What `_execute_connection` does after `COMMIT`. -/
def respond (source : SourceProfile) (metadataRevision : String) (validated : ValidatedSql)
    (queueMs : Int) (queryId : String) (startedAt : ℚ)
    (outcome : PlanSummary × List String × Fetched Json) : Exec Row (Response Json) := do
  let now : ℚ ← perform .monotonic
  let elapsedMs := milliseconds startedAt now
  increment "query_execution_succeeded" source.sourceId
  perform (.observe "query_elapsed_ms" elapsedMs source.sourceId)
  incrementIf outcome.2.2.truncated "query_truncated" source.sourceId
  pure
    { queryId := queryId
      metadataRevision := metadataRevision
      fingerprint := validated.fingerprint
      columns := outcome.2.1
      rows := outcome.2.2.rows
      rowCount := outcome.2.2.rows.length
      resultBytes := outcome.2.2.resultBytes
      truncated := outcome.2.2.truncated
      queueMs := queueMs
      elapsedMs := elapsedMs
      planSummary := outcome.1 }

/-- `_execute_connection`. -/
def executeConnection (encodeRow : RowEncoder Row Json) (source : SourceProfile) (sql : String)
    (metadataRevision : String) (validated : ValidatedSql) (queueMs : Int) (queryId : String) :
    Exec Row (Response Json) := do
  let startedAt : ℚ ← perform .monotonic
  let outcome ← (runTransaction encodeRow source sql validated queryId).tryCatch cleanUp
  respond source metadataRevision validated queueMs queryId startedAt outcome

/-! ## Admission -/

/-- The section of `_get_pool` under the lock. -/
def createPool (source : SourceProfile) : Exec Row Unit := do
  let existing : Bool ← perform (.hasPool source.sourceId)
  if existing then pure ()
  else do
    perform (.openPool source.sourceId source.budget.maxPoolSize source.budget.queryQueueTimeoutMs)
    perform (.storePool source.sourceId)

/-- `_get_pool`. -/
def getPool (source : SourceProfile) : Exec Row Unit := do
  let existing : Bool ← perform (.hasPool source.sourceId)
  if existing then pure ()
  else do
    perform .lockPool
    createPool source

/-- `asyncio.timeout`: at the end of the block it turns the cancellation that is its own into
`TimeoutError`. -/
def withTimeout (timeoutMs : Nat) (p : Exec Row α) : Exec Row α := do
  perform (.enterTimeout timeoutMs)
  p.exitWith fun raised => do
    let expired : Bool ← perform .exitTimeout
    if expired && raised.any Exc.isCancelled then throw .timeoutError else pure ()

/-- `pool.connection`. -/
def withConnection (source : SourceProfile) (p : Exec Row α) : Exec Row α := do
  perform (.leaseConnection source.sourceId source.budget.queryQueueTimeoutMs)
  p.exitWith fun raised => perform (.returnConnection raised.isSome)

/-- The connection policy: a connection that does not pass is closed. -/
def checkConnection (source : SourceProfile) : Exec Row Unit :=
  Prog.tryCatch
    (fun e =>
      if e = .readerSessionPolicyError then do
        quietly (perform .closeConnection)
        throw e
      else throw e)
    (do
      let info : ConnectionInfo ← perform .connectionInfo
      .lift (requireReaderConnectionPolicy info source.sslmode))

/-- What `_execute_admitted` does with its lease. -/
def useConnection (encodeRow : RowEncoder Row Json) (source : SourceProfile) (sql : String)
    (metadataRevision : String) (validated : ValidatedSql) (queueMs : Int) (queryId : String) :
    Exec Row (Response Json) := do
  checkConnection source
  perform (.lockActive .register)
  perform (.addActive queryId)
  Prog.tryFinally
    (executeConnection encodeRow source sql metadataRevision validated queueMs queryId)
    (do
      perform (.lockActive .deregister)
      perform (.popActive queryId))

/-- The ladder of `except` clauses of `_execute_admitted`. -/
def mapFailure (source : SourceProfile) (queryId : String) (e : Exc) : Exec Row α :=
  match e with
  | .cancelled _ => throw e
  | .poolTimeout => do
    increment "query_pool_exhausted" source.sourceId
    setSourceQueryHealth source.sourceId .unavailable
    throw (.app .queryUnavailable)
  | .timeoutError => do
    increment "query_timeout" source.sourceId
    throw (.app .queryTimeout)
  | .database { cls := .queryCanceled, .. } => do
    let shutdown : Bool ← perform (.cancelReasonShutdown queryId)
    increment (if shutdown then "query_shutdown_cancelled" else "query_timeout") source.sourceId
    throw (.app .queryTimeout)
  | .database { cls := .operationalError, .. } | .interfaceError | .readerSessionPolicyError => do
    increment "query_failed" source.sourceId
    setSourceQueryHealth source.sourceId .unavailable
    throw (.app .queryUnavailable)
  | .app (.queryRejected ..) => do
    increment "query_rejected" source.sourceId
    throw e
  | .app (.queryInvalid _) | .app .queryOverloaded | .app .queryTimeout => throw e
  | _ => do
    increment "query_failed" source.sourceId
    throw (.app .queryUnavailable)

/-- The wait for the permit of a source: its time limit is an overload. -/
def acquirePermit (source : SourceProfile) : Exec Row Unit :=
  Prog.tryCatch
    (fun e =>
      if e = .timeoutError then do
        increment "query_queue_rejected" source.sourceId
        throw (.app .queryOverloaded)
      else throw e)
    (perform (.acquireSemaphore source.sourceId source.budget.queryQueueTimeoutMs))

/-- The block of `_execute_admitted` between the permit and the `except` clauses. -/
def executePermitted (encodeRow : RowEncoder Row Json) (source : SourceProfile) (sql : String)
    (metadataRevision : String) (validated : ValidatedSql) (queueMs : Int) (queryId : String) :
    Exec Row (Response Json) := do
  getPool source
  withTimeout source.budget.queryTransactionTimeoutMs <|
    withConnection source <|
      useConnection encodeRow source sql metadataRevision validated queueMs queryId

/-- `_execute_admitted`. -/
def executeAdmitted (encodeRow : RowEncoder Row Json) (source : SourceProfile) (sql : String)
    (metadataRevision : String) (validated : ValidatedSql) (queryId : String) :
    Exec Row (Response Json) := do
  perform (.semaphore source.sourceId source.budget.maxConcurrentQueries)
  let queuedAt : ℚ ← perform .monotonic
  acquirePermit source
  let now : ℚ ← perform .monotonic
  let queueMs := milliseconds queuedAt now
  perform (.observe "query_queue_ms" queueMs source.sourceId)
  increment "query_execution_started" source.sourceId
  Prog.tryFinally
    ((executePermitted encodeRow source sql metadataRevision validated queueMs queryId).tryCatch
      (mapFailure source queryId))
    (perform (.releaseSemaphore source.sourceId))

/-- `except asyncio.CancelledError` of `execute`; the clause for `AppError` only writes the audit
log. -/
def mapInterruption (source : SourceProfile) (e : Exc) : Exec Row α :=
  if e.isCancelled then do
    let accepting : Bool ← perform .accepting
    if accepting then do
      increment "query_interrupted" source.sourceId
      throw e
    else throw (.app .queryUnavailable)
  else throw e

/-- The first section of `execute` under `_active_lock`. -/
def admitTask : Exec Row Unit := do
  perform (.lockActive .admission)
  let accepting : Bool ← perform .accepting
  if accepting then perform .addInflight else throw (.app .queryUnavailable)

/-- `query_id or str(uuid.uuid4())`. -/
def effectiveQueryId (queryId : Option String) : Exec Row String :=
  if queryId.getD "" = "" then perform .uuid4 else pure (queryId.getD "")

/-- `execute`. -/
def execute (encodeRow : RowEncoder Row Json) (source : SourceProfile) (sql : String)
    (metadataRevision : String) (validated : ValidatedSql) (queryId : Option String) :
    Exec Row (Response Json) := do
  let task : Bool ← perform .currentTask
  if task then do
    let effectiveId ← effectiveQueryId queryId
    admitTask
    Prog.tryFinally
      ((executeAdmitted encodeRow source sql metadataRevision validated effectiveId).tryCatch
        (mapInterruption source))
      (do
        perform (.lockActive .retire)
        perform .discardInflight)
  else throw (.app .queryUnavailable)

end

end QueryMan.PostgresQueryExecutor
