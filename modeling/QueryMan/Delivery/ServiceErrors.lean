import QueryMan.Metadata.Failures
import QueryMan.Python.Json

/-!
# Public errors

The attributes of the errors that leave `QueryService` and `MetadataService`, as `errors.py` sets
them: a status, a code, a message and details.
-/

namespace QueryMan

open Python

/-- The attributes of an `AppError`. -/
structure PublicError where
  statusCode : Nat
  code : String
  message : String
  details : Option Json

/-- `details` of the errors of the query path. -/
def AppError.detailsValue : AppError → Option Json
  | .queryRejected reasonCode construct =>
    some (.object (("reason_code", .str reasonCode) ::
      match construct with
      | some construct =>
        if construct ∈ publicRejectedConstructs then
          [("rejected_construct", .str construct)] else []
      | none => []))
  | .queryInvalid reasonCode =>
    some (.object [("reason_code", .str reasonCode), ("action", .str "CORRECT_SQL"),
      ("retryable", .bool true)])
  | .queryOverloaded | .queryTimeout | .queryUnavailable => none

/-- The attributes of an error of the query path. -/
def AppError.publicError (e : AppError) : PublicError where
  statusCode := e.statusCode
  code := e.code
  message := e.message
  details := e.detailsValue

namespace ServiceExc

/-- `except AppError`: the attributes of the exception, if it is one. -/
def publicError : ServiceExc → Option PublicError
  | .load (.exc (.app e)) => some e.publicError
  | .load _ => none
  | .metadataUnavailable violations _ => some
    { statusCode := 503
      code := "METADATA_UNAVAILABLE"
      message := "Metadata is temporarily unavailable for the requested source."
      details := if violations = [] then none
        else some (.object [("contract_violations", .array (violations.map .str))]) }
  | .sourceNotFound => some
    { statusCode := 404
      code := "SOURCE_NOT_FOUND"
      message := "The requested source was not found."
      details := none }
  | .revisionMismatch => some
    { statusCode := 409
      code := "METADATA_REVISION_MISMATCH"
      message := "Metadata or SQL policy changed after this SQL was generated. Fetch context " ++
        "and try again."
      details := none }

/-- `details.get("reason_code")`, if the details are a dictionary. -/
def reasonCode (e : ServiceExc) : Option String :=
  match e.publicError.bind PublicError.details with
  | some (.object fields) =>
    match fields.lookup "reason_code" with
    | some (.str reasonCode) => some reasonCode
    | _ => none
  | _ => none

end ServiceExc

end QueryMan
