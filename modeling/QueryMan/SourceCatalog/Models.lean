import Mathlib.Data.List.Basic
import Mathlib.Data.String.Basic

/-!
# Source profiles

`source_catalog/models.py`, with the check that `registry.py` makes of an identifier: a name that
the registry accepts carries the proof that it matches `IDENTIFIER_PATTERN`.
-/

namespace QueryMan

/-- The first characters that `IDENTIFIER_PATTERN` allows. -/
def isIdentifierStart (c : Char) : Bool :=
  ('A' ≤ c && c ≤ 'Z') || ('a' ≤ c && c ≤ 'z') || c == '_'

/-- The characters that `IDENTIFIER_PATTERN` allows after the first. -/
def isIdentifierPart (c : Char) : Bool :=
  isIdentifierStart c || ('0' ≤ c && c ≤ '9') || c == '$'

/-- `IDENTIFIER_PATTERN`. -/
def isIdentifier (s : String) : Bool :=
  match s.toList with
  | [] => false
  | c :: rest => isIdentifierStart c && rest.all isIdentifierPart && decide (rest.length ≤ 62)

/-- `Identifier`: a name that the registry accepts. -/
structure Identifier where
  text : String
  matchesPattern : isIdentifier text = true

/-- An accepted name contains no dot. -/
theorem Identifier.dot_notMem (name : Identifier) : '.' ∉ name.text.toList := by
  have h := name.matchesPattern
  unfold isIdentifier at h
  intro hmem
  split at h
  · next heq =>
    rw [heq] at hmem
    cases hmem
  · next c rest heq =>
    rw [heq] at hmem
    simp only [Bool.and_eq_true, List.all_eq_true] at h
    obtain ⟨⟨hstart, hrest⟩, -⟩ := h
    rcases List.mem_cons.1 hmem with rfl | hmem
    · exact absurd hstart (by decide)
    · exact absurd (hrest _ hmem) (by decide)

/-- `SSLMode`. -/
inductive SSLMode where
  | disable
  | require
  | verifyFull
  deriving DecidableEq, Repr

/-- `BudgetProfile`. -/
structure BudgetProfile where
  name : String
  version : Nat
  metadataStatementTimeoutMs : Nat
  queryStatementTimeoutMs : Nat
  queryTransactionTimeoutMs : Nat
  queryQueueTimeoutMs : Nat
  lockTimeoutMs : Nat
  workMemKb : Nat
  tempFileLimitKb : Nat
  maxParallelWorkersPerGather : Nat
  jitEnabled : Bool
  maxPoolSize : Nat
  maxConcurrentQueries : Nat
  maxMetadataRelations : Nat
  maxMetadataColumns : Nat
  maxColumnsPerRelation : Nat
  maxContextColumnsPerRelation : Nat
  maxMetadataResponseBytes : Nat
  maxResultRows : Nat
  maxResultBytes : Nat
  maxSqlBytes : Nat
  maxPlanTotalCost : Nat
  maxPlanRows : Nat
  maxPlanNodes : Nat
  deriving DecidableEq, Repr

/-- `SourceProfile`, as far as the query and the metadata paths read it. The only word of
`AllowedRelationKind` is `"view"`. -/
structure SourceProfile where
  sourceId : String
  name : String
  description : String
  sslmode : SSLMode
  allowedSchemas : List Identifier
  allowedRelationKinds : List String
  viewContractVersion : Nat
  budget : BudgetProfile

end QueryMan
