import QueryMan.Coro.Program
import QueryMan.Delivery.Authenticate
import QueryMan.Delivery.Gateway
import QueryMan.Delivery.RequestValidation

/-!
# The HTTP application

`build_http_app` of `delivery/app.py`: the middleware, the exception handlers and the endpoints, as
one program for each request. How FastAPI answers a request to no endpoint of the source is a
parameter (`framework`).
-/

namespace QueryMan.HttpApp

open Coro Python
open ServiceTasks (QueryResponse)

/-! ## Requests and responses -/

/-- A request. -/
structure HttpRequest extends Request where
  body : RequestBody

/-- The body of a response: a value, or what the gateway or the operational state answered. -/
inductive Body where
  | json (value : Json)
  | sources (sources : List SourceListing)
  | context (response : ContextResponse)
  | queryResult (response : QueryResponse)
  | adminHealth (status : PublicStatus) (snapshot : OperationalState)
  | metrics (snapshot : OperationalState)

/-- A response. -/
structure Response where
  status : Nat
  headers : List (String × String)
  body : Body

/-- The exceptions of a request: those of the gateway, a missing operator permission, an invalid
body, and a request without a caller. -/
inductive HttpExc where
  | service (e : ServiceExc)
  | operatorRequired
  | body (e : BodyError)
  | attributeError

namespace HttpExc

/-- `except AppError`: the attributes of the exception, if it is one. -/
def publicError : HttpExc → Option PublicError
  | service e => e.publicError
  | operatorRequired => some
    { statusCode := 403
      code := "OPERATOR_REQUIRED"
      message := "Operator permission is required."
      details := none }
  | _ => none

/-- A cancellation is no `Exception`. -/
def isCancelled : HttpExc → Bool
  | service e => e.isCancelled
  | _ => false

end HttpExc

/-- The endpoints. -/
inductive Endpoint where
  | health
  | readiness
  | detailedHealth
  | metrics
  | sources
  | metadata
  | query
  deriving DecidableEq, Repr

/-- The routes of the endpoints. -/
def routes : List ((String × String) × Endpoint) :=
  [(("GET", "/health"), .health), (("GET", "/ready"), .readiness),
    (("GET", "/admin/health"), .detailedHealth), (("GET", "/admin/metrics"), .metrics),
    (("GET", "/sources"), .sources), (("POST", "/meta"), .metadata), (("POST", "/query"), .query)]

/-- The endpoint of a request. -/
def endpoint (request : HttpRequest) : Option Endpoint :=
  routes.lookup (request.method, request.path)

/-! ## Operations -/

/-- The operations of a request. -/
inductive Op where
  /-- what `operations.public_status` reads -/
  | operations
  /-- `operations.snapshot` -/
  | snapshot
  /-- a call of a logger -/
  | log (record : LogRecord)
  /-- `gateway.list_sources` -/
  | listSources (caller : CallerContext)
  /-- `gateway.get_context` -/
  | getContext (caller : CallerContext) (sourceId : String)
  /-- `_until_disconnect` of `gateway.query` -/
  | query (caller : CallerContext) (payload : QueryRequest)

/-- What an operation answers with. -/
def Ret : Op → Type
  | .operations | .snapshot => OperationalState
  | .log _ => Unit
  | .listSources _ => List SourceListing
  | .getContext _ _ => ContextResponse
  | .query _ _ => QueryResponse

/-- The operations that await. -/
def Op.suspends : Op → Bool
  | .getContext _ _ | .query _ _ => true
  | _ => false

/-- The programs of a request. -/
abbrev Http (α : Type) : Type := Prog Ret HttpExc α

/-- Call an operation. -/
def perform (o : Op) : Http (Ret o) :=
  Prog.perform o

/-! ## Responses to exceptions -/

/-- The content of an error response. -/
def errorContent (code message : String) (details : List (String × Json)) : Json :=
  .object [("error", .object ([("code", .str code), ("message", .str message)] ++ details))]

/-- An entry of the details as an object. -/
def Detail.json (d : Detail) : Json :=
  .object [("path", .str d.path), ("code", .str d.code), ("message", .str d.message)]

/-- `validation_error`. -/
def validationError (issues : List RequestIssue) : Response :=
  let details := (boundedValidationDetails issues).map Detail.json
  ⟨400, [], .json (errorContent "INVALID_REQUEST" "The request body is invalid."
    [("details", .array details)])⟩

/-- The headers of `app_error`. -/
def appErrorHeaders : HttpExc → List (String × String)
  | .operatorRequired => [("WWW-Authenticate", "Bearer error=\"insufficient_scope\"")]
  | _ => []

/-- The response of `app_error`: the details of a server error are left out. -/
def appErrorResponse (e : HttpExc) (error : PublicError) : Response :=
  let details := if error.statusCode < 500 then
      (error.details.map fun details => ("details", details)).toList
    else []
  ⟨error.statusCode, appErrorHeaders e, .json (errorContent error.code error.message details)⟩

section
variable (exceptionType : HttpExc → String)

/-- `app_error`. -/
def appError (e : HttpExc) (error : PublicError) : Http Response := do
  if 500 ≤ error.statusCode then
    perform (.log
      { name := "query_man"
        levelname := "ERROR"
        message := error.code ++ ": " ++ error.message
        exceptionType := some (exceptionType e)
        extra := [] })
  pure (appErrorResponse e error)

/-- The response of FastAPI to its `HTTPException`. -/
def httpExceptionResponse : Response :=
  ⟨400, [], .json (.object [("detail", .str unreadableDetail)])⟩

/-- The exception handlers for `RequestValidationError`, `HTTPException` and `AppError`. -/
def handleException : HttpExc → Http Response
  | .body (.requestValidation issues) => pure (validationError issues)
  | .body .httpException => pure httpExceptionResponse
  | e =>
    match e.publicError with
    | some error => appError exceptionType e error
    | none => throw e

/-- `_caller`. -/
def callerOf : Option CallerContext → Http CallerContext
  | some caller => pure caller
  | none => throw .attributeError

/-- `_require_operator`. -/
def requireOperator (caller : Option CallerContext) : Http CallerContext := do
  let caller ← callerOf caller
  if caller.operator then pure caller
  else do
    perform (.log (GatewayService.deniedRecord caller "source_admin"))
    throw .operatorRequired

/-- A payload that was validated, or the exception for the body. -/
def validated {α : Type} (payload : Except BodyError α) : Http α :=
  .lift (payload.mapError .body)

/-- The words of `public_status`. -/
def statusWord : PublicStatus → String
  | .shuttingDown => "shutting_down"
  | .initializing => "initializing"
  | .unavailable => "unavailable"
  | .degraded => "degraded"
  | .ready => "ready"

/-- The response of `readiness`. -/
def readinessResponse (status : PublicStatus) : Response where
  status := if status = .ready ∨ status = .degraded then 200 else 503
  headers := []
  body := .json (.object [("status", .str (statusWord status))])

/-- The endpoints, with the caller of the request. -/
def call (request : HttpRequest) (caller : Option CallerContext) : Endpoint → Http Response
  | .health => pure ⟨200, [], .json (.object [("status", .str "ok")])⟩
  | .readiness => do
    let operations : OperationalState ← perform .operations
    pure (readinessResponse operations.publicStatus)
  | .detailedHealth => do
    let _ ← requireOperator caller
    let snapshot : OperationalState ← perform .snapshot
    let operations : OperationalState ← perform .operations
    pure ⟨200, [], .adminHealth operations.publicStatus snapshot⟩
  | .metrics => do
    let _ ← requireOperator caller
    let snapshot : OperationalState ← perform .snapshot
    pure ⟨200, [], .metrics snapshot⟩
  | .sources => do
    let caller ← callerOf caller
    let sources : List SourceListing ← perform (.listSources caller)
    pure ⟨200, [], .sources sources⟩
  | .metadata => do
    let payload ← validated (payloadOf metadataRequest request.body)
    let caller ← callerOf caller
    let response : ContextResponse ← perform (.getContext caller payload.sourceId)
    pure ⟨200, [], .context response⟩
  | .query => do
    let payload ← validated (payloadOf queryRequest request.body)
    let caller ← callerOf caller
    let response : QueryResponse ← perform (.query caller payload)
    pure ⟨200, [], .queryResult response⟩

/-! ## The application -/

variable {Digest : Type} [DecidableEq Digest] (digest : String → Digest)
  (policy : AccessPolicy Digest) (framework : HttpRequest → Response)

/-- The router below the exception handlers. -/
def route (request : HttpRequest) (caller : Option CallerContext) : Http Response :=
  match endpoint request with
  | some e => (call request caller e).tryCatch (handleException exceptionType)
  | none => pure (framework request)

/-- The record of a request without a caller. -/
def authenticationFailed (method : String) : LogRecord where
  name := "query_man.audit"
  levelname := "WARNING"
  message := "authentication_failed method=" ++ method
  exceptionType := none
  extra := []

/-- The middleware `authenticate`. -/
def authenticated (request : HttpRequest) : Http Response := do
  let operations : OperationalState ← perform .operations
  match authenticate digest policy operations request.toRequest with
  | .serviceShuttingDown =>
    pure ⟨503, [], .json (errorContent "SERVICE_SHUTTING_DOWN" "The service is shutting down." [])⟩
  | .unauthorized => do
    perform (.log (authenticationFailed request.method))
    pure ⟨401, [("WWW-Authenticate", "Bearer error=\"invalid_token\"")],
      .json (errorContent "UNAUTHORIZED" "A valid bearer token is required." [])⟩
  | .forward caller => route exceptionType framework request caller

end

end QueryMan.HttpApp
