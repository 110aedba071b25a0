import QueryMan.GuardedQuery.Failures
import QueryMan.Metadata.Catalog

/-!
# The failures of the metadata service

The exceptions of `metadata/service.py` and of `QueryService.query`: what a refresh of the catalog
can raise, and what the service makes of it.
-/

namespace QueryMan

/-- What `PostgresCatalog.load` raises: an exception of an await or of the reader policy, or a
catalog that it rejects. -/
inductive LoadFailure where
  | exc (e : Exc)
  | catalogValidation (error : CatalogValidationError)
  deriving DecidableEq, Repr

/-- The exceptions. `metadataUnavailable` carries the `contract_violations` of its details and the
exception that it was raised from. -/
inductive ServiceExc where
  | load (failure : LoadFailure)
  | metadataUnavailable (violations : List String) (cause : Option LoadFailure)
  | sourceNotFound
  | revisionMismatch
  deriving DecidableEq, Repr

namespace ServiceExc

/-- An exception of an await. -/
abbrev ofExc (e : Exc) : ServiceExc :=
  .load (.exc e)

/-- The failure of the load, if the exception is one. -/
def failure : ServiceExc → Option LoadFailure
  | load failure => some failure
  | _ => none

/-- `except asyncio.CancelledError`. -/
def isCancelled : ServiceExc → Bool
  | load (.exc e) => e.isCancelled
  | _ => false

/-- `except MetadataUnavailableError`. -/
def isMetadataUnavailable : ServiceExc → Bool
  | metadataUnavailable _ _ => true
  | _ => false

/-- `except (ReaderSessionPolicyError, _CatalogValidationError)`, with the exception. -/
def policyRejection : ServiceExc → Option LoadFailure
  | load (.exc .readerSessionPolicyError) => some (.exc .readerSessionPolicyError)
  | load (.catalogValidation error) => some (.catalogValidation error)
  | _ => none

/-- The exception of a rejection is the failure itself. -/
theorem eq_of_policyRejection {failure error : LoadFailure}
    (h : (load failure).policyRejection = some error) : error = failure := by
  unfold policyRejection at h
  split at h <;> cases h <;> rename_i heq <;> exact (load.inj heq).symm

end ServiceExc

end QueryMan
