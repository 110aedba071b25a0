import QueryMan.Errors

/-!
# The failures of a query

The exceptions that the awaits of `guarded_query/query.py` can raise: cancellation, the timeouts,
the exceptions of the driver and of its pool, and the gateway's own. A database error that the
server reports has the class that the driver's SQLSTATE hierarchy gives it.
-/

namespace QueryMan

/-- Who asked for a cancellation: the deadline of `asyncio.timeout`, somebody else, or both while
the task waited. The code never sees it; the timeout does. -/
inductive Canceller where
  | deadline
  | caller
  | both
  deriving DecidableEq, Repr

/-- The classes of `psycopg.errors` below `DatabaseError`. -/
inductive DatabaseErrorClass where
  | databaseError
  | dataError
  | operationalError
  | queryCanceled
  | integrityError
  | internalError
  | programmingError
  | notSupportedError
  deriving DecidableEq, Repr

/-- A `DatabaseError`. -/
structure DatabaseError where
  cls : DatabaseErrorClass
  sqlstate : Option String
  message : String
  deriving DecidableEq, Repr

/-- The exceptions. `cancelled` is the one `BaseException`, all others are an `Exception`. -/
inductive Exc where
  | cancelled (canceller : Canceller)
  | timeoutError
  | poolTimeout
  | database (error : DatabaseError)
  | interfaceError
  | readerSessionPolicyError
  | resultEncodingError
  | runtimeError (message : String)
  | app (error : AppError)
  | other
  deriving DecidableEq, Repr

namespace Exc

/-- `except asyncio.CancelledError`. -/
def isCancelled : Exc → Bool
  | cancelled _ => true
  | _ => false

/-- The deadline struck. -/
def byDeadline : Exc → Bool
  | cancelled .deadline | cancelled .both => true
  | _ => false

/-- Somebody called `task.cancel()`. -/
def byCaller : Exc → Bool
  | cancelled .caller | cancelled .both => true
  | _ => false

/-- `except errors.DatabaseError`. -/
def isDatabaseError : Exc → Bool
  | poolTimeout | database _ => true
  | _ => false

/-- `error.sqlstate` of a `DatabaseError`; `PoolTimeout` is one without. -/
def sqlstate : Exc → Option String
  | database error => error.sqlstate
  | _ => none

theorem isCancelled_of_byDeadline {e : Exc} (h : e.byDeadline = true) : e.isCancelled = true := by
  cases e <;> first | rfl | cases h

theorem isCancelled_of_byCaller {e : Exc} (h : e.byCaller = true) : e.isCancelled = true := by
  cases e <;> first | rfl | cases h

end Exc

/-! ## Server errors -/

/-- The base class of a SQLSTATE by its first two characters. -/
def baseClassByPair : List (String × DatabaseErrorClass) :=
  [("08", .operationalError), ("0A", .notSupportedError), ("20", .programmingError),
    ("21", .programmingError), ("22", .dataError), ("23", .integrityError), ("24", .internalError),
    ("25", .internalError), ("26", .programmingError), ("27", .operationalError),
    ("28", .operationalError), ("2B", .internalError), ("2D", .internalError),
    ("2F", .operationalError), ("34", .programmingError), ("38", .operationalError),
    ("39", .operationalError), ("3B", .operationalError), ("3D", .programmingError),
    ("3F", .programmingError), ("40", .operationalError), ("42", .programmingError),
    ("44", .programmingError), ("53", .operationalError), ("54", .operationalError),
    ("55", .operationalError), ("57", .operationalError), ("58", .operationalError)]

/-- The base class of a SQLSTATE by its first character. -/
def baseClassByInitial : List (String × DatabaseErrorClass) :=
  [("F", .operationalError), ("H", .operationalError), ("P", .programmingError),
    ("X", .internalError)]

/-- The first characters of a SQLSTATE. -/
def sqlstateClass (sqlstate : String) (n : Nat) : String :=
  String.ofList (sqlstate.toList.take n)

/-- The class of the exception that the driver raises for a SQLSTATE. -/
def databaseErrorClass (sqlstate : String) : DatabaseErrorClass :=
  if sqlstate = "57014" then .queryCanceled
  else if sqlstate = "10608" then .programmingError
  else
    ((baseClassByPair.lookup (sqlstateClass sqlstate 2)).or
      (baseClassByInitial.lookup (sqlstateClass sqlstate 1))).getD .databaseError

/-- The exception for an error that the server reports. -/
def serverError (sqlstate message : String) : Exc :=
  .database ⟨databaseErrorClass sqlstate, some sqlstate, message⟩

/-! ## Errors of the caller's SQL -/

/-- `_QUERY_INVALID_REASON_BY_SQLSTATE`. -/
def queryInvalidReasonBySqlstate : List (String × String) :=
  [("22003", "QUERY_NUMERIC_VALUE_OUT_OF_RANGE"),
    ("22007", "QUERY_INVALID_CAST"),
    ("22008", "QUERY_INVALID_CAST"),
    ("22012", "QUERY_DIVISION_BY_ZERO"),
    ("2201B", "QUERY_INVALID_REGULAR_EXPRESSION"),
    ("2201W", "QUERY_INVALID_LIMIT"),
    ("2201X", "QUERY_INVALID_LIMIT"),
    ("22023", "QUERY_INVALID_FUNCTION_ARGUMENT"),
    ("22P02", "QUERY_INVALID_CAST"),
    ("42703", "QUERY_UNDEFINED_COLUMN"),
    ("42809", "QUERY_INVALID_FUNCTION_USAGE"),
    ("42846", "QUERY_INVALID_CAST"),
    ("42883", "QUERY_FUNCTION_SIGNATURE_MISMATCH")]

/-- The reason that `_raise_query_invalid_for_user_sql` finds for an exception. -/
def queryInvalidReason (e : Exc) : Option String :=
  queryInvalidReasonBySqlstate.lookup (e.sqlstate.getD "")

/-- Every reason of the table has a message for the caller. -/
theorem queryInvalidReason_public {e : Exc} {reason : String}
    (h : queryInvalidReason e = some reason) :
    (queryInvalidMessages.lookup reason).isSome = true := by
  have hall : ∀ entry ∈ queryInvalidReasonBySqlstate,
      (queryInvalidMessages.lookup entry.2).isSome = true := by decide
  obtain ⟨l, l', hsplit, -⟩ := List.lookup_eq_some_iff.1 h
  refine hall (e.sqlstate.getD "", reason) ?_
  rw [hsplit]
  exact List.mem_append_right _ List.mem_cons_self

end QueryMan
