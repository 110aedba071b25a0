import QueryMan.GuardedQuery.Failures
import QueryMan.SourceCatalog.Models

/-!
# Reader policy

The checks of `source_catalog/reader_policy.py`: what a leased connection must look like before
anything is sent on it, and what the session policy row must say.
-/

namespace QueryMan

/-- What `require_reader_connection_policy` reads of a connection. -/
structure ConnectionInfo where
  serverVersion : Int
  serverEncoding : Option String
  clientEncoding : Option String
  encoding : String
  sslInUse : Bool
  deriving DecidableEq, Repr

/-- `READER_CLIENT_ENCODING`. -/
def readerClientEncoding : String := "UTF8"

/-- `require_reader_connection_policy`. -/
def requireReaderConnectionPolicy (info : ConnectionInfo) (sslmode : SSLMode) : Except Exc Unit :=
  if ¬ (180000 ≤ info.serverVersion ∧ info.serverVersion < 190000) ∨
      info.serverEncoding ≠ some readerClientEncoding ∨
      info.clientEncoding ≠ some readerClientEncoding ∨ info.encoding ≠ "utf-8" then
    .error .readerSessionPolicyError
  else if info.sslInUse ≠ decide (sslmode ≠ .disable) then
    .error .readerSessionPolicyError
  else .ok ()

/-- The connection policy raises nothing else. -/
theorem readerSessionPolicyError_of_connectionPolicy {info : ConnectionInfo} {sslmode : SSLMode}
    {e : Exc} (h : requireReaderConnectionPolicy info sslmode = .error e) :
    e = .readerSessionPolicyError := by
  rw [requireReaderConnectionPolicy] at h
  split at h
  · cases h
    rfl
  · split at h
    · cases h
      rfl
    · cases h

/-- A row of the session policy query: the columns with their values, `none` for `NULL`. -/
abbrev SessionPolicyRow := List (String × Option Bool)

/-- `not policy or not all(policy.values())`, the other way round. -/
def sessionPolicyHolds (policy : Option SessionPolicyRow) : Bool :=
  match policy with
  | none | some [] => false
  | some columns => columns.all fun column => column.2 == some true

/-- The session settings that the budget of a source gives. -/
def readerSessionBudgetValues (source : SourceProfile) : List String :=
  [toString source.budget.workMemKb ++ "kB", toString source.budget.tempFileLimitKb ++ "kB",
    toString source.budget.maxParallelWorkersPerGather,
    if source.budget.jitEnabled then "on" else "off"]

/-- A connection that passes is an encrypted one, unless encryption is disabled for the source. -/
theorem sslInUse_of_requireReaderConnectionPolicy {info : ConnectionInfo} {sslmode : SSLMode}
    (h : requireReaderConnectionPolicy info sslmode = .ok ()) :
    info.sslInUse = true ↔ sslmode ≠ .disable := by
  rw [requireReaderConnectionPolicy] at h
  split at h
  · cases h
  · split at h
    · cases h
    · next hssl =>
      rw [not_not] at hssl
      rw [hssl, decide_eq_true_iff]

end QueryMan
