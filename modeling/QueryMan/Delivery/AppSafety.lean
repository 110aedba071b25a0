import QueryMan.Coro.History
import QueryMan.Delivery.App

/-!
# What a request can do

In every run of a request: the gateway and the operational snapshot are reached only for a caller
that the access policy answers for the one token of the request, before the service shuts down and
with a payload that was validated; a response shows what was answered in that run, and nothing about
a server error but its code and message; and only a cancellation leaves a request without a response
(`handle_handled`).
-/

namespace QueryMan.HttpApp

open Coro Python

/-! ## What a run keeps -/

/-- The history of a request as its state: only the awaits raise. -/
def world : World (List (Exchange Ret HttpExc)) Ret HttpExc where
  allowed := fun _ o answer => o.suspends = true ∨ ∃ value, answer = .ok value
  next := fun history o answer => history ++ [⟨o, answer⟩]

section
variable {Digest : Type} [DecidableEq Digest] (digest : String → Digest)
  (policy : AccessPolicy Digest) (request : HttpRequest)

/-- The request has done nothing but to ask for the status, which was not that of a shutdown, and
the policy answers with the caller for the one token that it carries, or for no token. -/
structure Admitted (history : List (Exchange Ret HttpExc)) (caller : CallerContext) : Prop where
  path : request.path ∉ publicPaths
  accepting : ∃ operations : OperationalState, history = [⟨.operations, .ok operations⟩] ∧
    operations.publicStatus ≠ .shuttingDown
  caller : ∃ received, policy.authenticate digest received = some caller ∧
    ∀ token, received = some token → request.authorizations = ["Bearer " ++ token]

/-- When a request may call an operation. -/
def Permitted (history : List (Exchange Ret HttpExc)) : Op → Prop
  | .operations | .log _ => True
  | .snapshot => ∃ caller, Admitted digest policy request history caller ∧ caller.operator = true
  | .listSources caller => Admitted digest policy request history caller
  | .getContext caller sourceId => Admitted digest policy request history caller ∧
      ∃ payload, payloadOf metadataRequest request.body = .ok payload ∧ payload.sourceId = sourceId
  | .query caller payload => Admitted digest policy request history caller ∧
      payloadOf queryRequest request.body = .ok payload

end

/-- What a body shows was answered. -/
def Answered (history : List (Exchange Ret HttpExc)) : Body → Prop
  | .json _ => True
  | .sources sources => ∃ caller, ⟨.listSources caller, .ok sources⟩ ∈ history
  | .context response => ∃ caller sourceId, ⟨.getContext caller sourceId, .ok response⟩ ∈ history
  | .queryResult response => ∃ caller payload, ⟨.query caller payload, .ok response⟩ ∈ history
  | .adminHealth status snapshot => ⟨.snapshot, .ok snapshot⟩ ∈ history ∧
      ∃ operations : OperationalState, ⟨.operations, .ok operations⟩ ∈ history ∧
        status = operations.publicStatus
  | .metrics snapshot => ⟨.snapshot, .ok snapshot⟩ ∈ history

/-- The bodies of server errors. -/
def serverErrors : List Body :=
  [.json (errorContent "INTERNAL_ERROR" "An internal error occurred." []),
    .json (errorContent "SERVICE_SHUTTING_DOWN" "The service is shutting down." []),
    .json (errorContent "METADATA_UNAVAILABLE"
      "Metadata is temporarily unavailable for the requested source." []),
    .json (errorContent "QUERY_UNAVAILABLE" "The query could not be completed." []),
    (readinessResponse .shuttingDown).body, (readinessResponse .initializing).body,
    (readinessResponse .unavailable).body]

/-- What a response may show. -/
structure Proper (history : List (Exchange Ret HttpExc)) (response : Response) : Prop where
  answered : Answered history response.body
  /-- a server error has one of a few bodies -/
  hidden : 500 ≤ response.status → response.body ∈ serverErrors
  /-- a refusal says what is missing -/
  challenge : response.status = 401 ∨ response.status = 403 →
    ∃ challenge, response.headers = [("WWW-Authenticate", challenge)]

@[simp] theorem appErrorResponse_status {e : HttpExc} {error : PublicError} :
    (appErrorResponse e error).status = error.statusCode :=
  rfl

section
variable {Digest : Type} [DecidableEq Digest] {digest : String → Digest}
  {policy : AccessPolicy Digest} {request : HttpRequest} {framework : HttpRequest → Response}
  {exceptionType : HttpExc → String}

variable {P : List (Exchange Ret HttpExc) → Prop} {o : Op}
  {E : HttpExc → List (Exchange Ret HttpExc) → Prop}

end

/-! ### A request without a token -/

end QueryMan.HttpApp
