import Mathlib.Data.List.Basic

/-!
# Application errors

`errors.py`: what a caller is told of a request that fails.
-/

namespace QueryMan

/-- `_PUBLIC_REJECTED_CONSTRUCTS`. -/
def publicRejectedConstructs : List String :=
  ["BETWEEN", "BETWEEN SYMMETRIC", "NOT BETWEEN", "NOT BETWEEN SYMMETRIC", "OPERATOR"]

/-- `_QUERY_INVALID_MESSAGES`. -/
def queryInvalidMessages : List (String × String) :=
  [("QUERY_DIVISION_BY_ZERO",
      "The query can divide by zero. Guard the denominator with NULLIF or exclude zero values, " ++
      "then retry once."),
    ("QUERY_FUNCTION_SIGNATURE_MISMATCH",
      "A function or operator call has unsupported argument types or count. Use a supported " ++
      "built-in signature and only advertised casts, then retry once."),
    ("QUERY_INVALID_CAST",
      "The query casts a value to an incompatible type. Use an advertised compatible cast or " ++
      "filter invalid values, then retry once."),
    ("QUERY_INVALID_FUNCTION_ARGUMENT",
      "A function argument has an invalid value. Correct the argument while preserving the " ++
      "requested calculation, then retry once."),
    ("QUERY_INVALID_FUNCTION_USAGE",
      "An aggregate or window function is used in an unsupported form. Use its supported call " ++
      "form, then retry once."),
    ("QUERY_INVALID_LIMIT",
      "LIMIT and OFFSET must use non-negative values. Correct them and retry once."),
    ("QUERY_INVALID_REGULAR_EXPRESSION",
      "The regular expression is invalid. Correct its pattern or flags, then retry once."),
    ("QUERY_NUMERIC_VALUE_OUT_OF_RANGE",
      "A numeric value is outside its supported range. For percentile fractions use a value " ++
      "from 0 through 1, then retry once."),
    ("QUERY_UNDEFINED_COLUMN",
      "The query references a column PostgreSQL cannot resolve. Use a returned column sql_name " ++
      "or an alias declared in the query, then retry once.")]

/-- The subclasses of `AppError` that the query path raises. -/
inductive AppError where
  | queryRejected (reasonCode : String) (rejectedConstruct : Option String)
  | queryInvalid (reasonCode : String)
  | queryOverloaded
  | queryTimeout
  | queryUnavailable
  deriving DecidableEq, Repr

namespace AppError

/-- `status_code`. -/
def statusCode : AppError → Nat
  | queryRejected .. | queryInvalid _ => 400
  | queryOverloaded => 429
  | queryTimeout => 408
  | queryUnavailable => 503

/-- `code`. -/
def code : AppError → String
  | queryRejected .. => "QUERY_REJECTED"
  | queryInvalid _ => "QUERY_INVALID"
  | queryOverloaded => "QUERY_OVERLOADED"
  | queryTimeout => "QUERY_TIMEOUT"
  | queryUnavailable => "QUERY_UNAVAILABLE"

/-- `message`. -/
def message : AppError → String
  | queryRejected .. => "The query is not allowed by the source policy."
  | queryInvalid reasonCode => (queryInvalidMessages.lookup reasonCode).getD ""
  | queryOverloaded => "The source is currently at its query limit."
  | queryTimeout => "The query exceeded its execution deadline."
  | queryUnavailable => "The query could not be completed."

/-- `details`: a rejected construct is shown only if it is public. -/
def details : AppError → List (String × String)
  | queryRejected reasonCode (some construct) =>
    if construct ∈ publicRejectedConstructs then
      [("reason_code", reasonCode), ("rejected_construct", construct)]
    else [("reason_code", reasonCode)]
  | queryRejected reasonCode none => [("reason_code", reasonCode)]
  | queryInvalid reasonCode =>
    [("reason_code", reasonCode), ("action", "CORRECT_SQL"), ("retryable", "true")]
  | queryOverloaded | queryTimeout | queryUnavailable => []

end AppError

end QueryMan
