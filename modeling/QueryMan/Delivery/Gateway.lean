import QueryMan.Coro.Program
import QueryMan.Delivery.Access
import QueryMan.Delivery.ServiceErrors
import QueryMan.Metadata.ServiceTasks
import QueryMan.Runtime.LogFormat
import QueryMan.SourceCatalog.Load

/-!
# The gateway

`GatewayService` of `delivery/gateway.py`, with the audit records that it writes. A call of `query`
about a source that is not registered is recorded without the name it gave. Any other is recorded
under a query id where it starts and where it ends, and ends as the query service does.
-/

namespace QueryMan.GatewayService

open Coro
open ServiceTasks (QueryRequest QueryResponse)

/-! ## Audit records -/

/-- `caller_audit_fields`. -/
def callerAuditFields (caller : CallerContext) : List (String × FieldValue) :=
  [("caller_id", .str caller.callerId), ("tenant_id", .str caller.tenantId)]

/-- `_audit_extra`. -/
def auditExtra (caller : CallerContext) (fields : List (String × FieldValue)) :
    List (String × FieldValue) :=
  callerAuditFields caller ++ fields

/-- A record of the audit logger. -/
def audit (levelname message : String) (exceptionType : Option String)
    (extra : List (String × FieldValue)) : LogRecord where
  name := "query_man.audit"
  levelname := levelname
  message := message
  exceptionType := exceptionType
  extra := extra

/-- A text or `None`. -/
def optionalText : Option String → FieldValue
  | some text => .str text
  | none => .null

/-- What the records show of values of other types: the text of a float, and the name of the type of
an exception. -/
structure Names where
  float : ℚ → FloatText
  exceptionType : ServiceExc → String

/-- `authorization_denied`. -/
def deniedRecord (caller : CallerContext) (operation : String) : LogRecord :=
  audit "WARNING" "authorization_denied" none (auditExtra caller [("operation", .str operation)])

/-- `query_started`. -/
def startedRecord (caller : CallerContext) (queryId sourceId : String) : LogRecord :=
  audit "INFO" "query_started" none
    (auditExtra caller [("query_id", .str queryId), ("source_id", .str sourceId)])

/-- `query_succeeded`. -/
def succeededRecord (names : Names) (caller : CallerContext) (queryId sourceId : String)
    (result : QueryResponse) : LogRecord :=
  let response := result.response
  audit "INFO" "query_succeeded" none (auditExtra caller
    [("query_id", .str queryId), ("source_id", .str sourceId),
      ("fingerprint", .str response.fingerprint), ("queue_ms", .int response.queueMs),
      ("elapsed_ms", .int response.elapsedMs), ("row_count", .int response.rowCount),
      ("result_bytes", .int response.resultBytes), ("truncated", .bool response.truncated),
      ("plan_total_cost", .float (names.float response.planSummary.totalCost)),
      ("plan_max_rows", .int response.planSummary.maxRows),
      ("plan_node_count", .int response.planSummary.nodeCount)])

/-- The record of an `except` clause of `query`. -/
def failedRecord (names : Names) (caller : CallerContext) (queryId sourceId : String)
    (error : ServiceExc) : LogRecord :=
  let ids : List (String × FieldValue) :=
    [("query_id", .str queryId), ("source_id", .str sourceId)]
  if error.isCancelled then
    audit "INFO" "query_interrupted" none
      (auditExtra caller (ids ++ [("cancel_reason", .str "interrupted")]))
  else
    match error.publicError with
    | some e =>
      audit "INFO" "query_failed" none (auditExtra caller
        (ids ++ [("error_code", .str e.code), ("reason_code", optionalText error.reasonCode)]))
    | none =>
      audit "ERROR" "query_failed" (some (names.exceptionType error))
        (auditExtra caller (ids ++ [("error_code", .str "INTERNAL_ERROR")]))

/-- The record at the end of a query. -/
def endedRecord (names : Names) (caller : CallerContext) (queryId sourceId : String) :
    Except ServiceExc QueryResponse → LogRecord
  | .ok result => succeededRecord names caller queryId sourceId result
  | .error e => failedRecord names caller queryId sourceId e

/-! ## Operations -/

/-- The operations of a call. -/
inductive Op where
  /-- `operations.increment` -/
  | increment (name sourceId : String)
  /-- `uuid.uuid4` -/
  | uuid4
  /-- a call of the audit logger -/
  | log (record : LogRecord)
  /-- `self._queries.query` -/
  | query (request : QueryRequest)
  /-- `self._metadata.get_context` -/
  | getContext (sourceId : String)

/-- What an operation answers with. -/
def Ret : Op → Type
  | .uuid4 => String
  | .query _ => QueryResponse
  | .getContext _ => ContextResponse
  | _ => Unit

/-- The operations that await. -/
def Op.suspends : Op → Bool
  | .query _ | .getContext _ => true
  | _ => false

/-- The programs of a call. -/
abbrev Call (α : Type) : Type := Prog Ret ServiceExc α

/-- Call an operation. -/
def perform (o : Op) : Call (Ret o) :=
  Prog.perform o

/-! ## The functions of the source -/

section
variable (registry : SourceRegistry) (names : Names)

/-- `list_sources`. -/
def listSources (_caller : CallerContext) : List SourceListing :=
  registry.list

/-- `_require_source`. -/
def requireSource (caller : CallerContext) (sourceId operation : String) : Call Unit :=
  if (registry.get sourceId).isSome then pure ()
  else do
    perform (.log (deniedRecord caller operation))
    throw .sourceNotFound

/-- `get_context`. -/
def getContext (caller : CallerContext) (sourceId : String) : Call ContextResponse := do
  requireSource registry caller sourceId "get_context"
  perform (.getContext sourceId)

/-- The `except` clauses of `query`. -/
def recordFailure (caller : CallerContext) (queryId sourceId : String) (error : ServiceExc) :
    Call QueryResponse := do
  perform (.log (failedRecord names caller queryId sourceId error))
  throw error

/-- `query`. -/
def query (caller : CallerContext) (request : QueryRequest) : Call QueryResponse := do
  requireSource registry caller request.sourceId "query"
  perform (.increment "query_request_started" request.sourceId)
  let queryId : String ← perform .uuid4
  perform (.log (startedRecord caller queryId request.sourceId))
  let result : QueryResponse ←
    Prog.tryCatch (recordFailure names caller queryId request.sourceId)
      (perform (.query { request with queryId := some queryId }))
  perform (.log (succeededRecord names caller queryId request.sourceId result))
  pure result

end

end QueryMan.GatewayService
