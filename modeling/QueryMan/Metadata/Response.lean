import QueryMan.Metadata.Failures
import QueryMan.Metadata.Revision

/-!
# Admission and projection of a snapshot

The pure functions of `metadata/service.py`: `_validate_snapshot`, which lists what is wrong with a
snapshot, and `_context_response`, the public projection with its byte limit.
-/

namespace QueryMan

open Python

/-- `PreparedMetadata`. -/
structure PreparedMetadata where
  snapshot : CatalogSnapshot
  revision : String
  deriving DecidableEq, Repr

/-! ## Admission -/

/-- The issues of one relation, in the order of the checks of `_validate_snapshot`. -/
def relationIssues (source : SourceProfile) (relation : CatalogRelation) : List String :=
  (if relation.schema ∉ source.allowedSchemas.map Identifier.text ∨
      relation.kind ∉ source.allowedRelationKinds then
    ["Catalog relation is outside the source allowlist: " ++ relation.qualifiedName] else []) ++
  (if relation.viewContractSource ≠ some source.sourceId then
    ["View contract source does not match the source: " ++ relation.qualifiedName] else []) ++
  (if relation.viewContractVersion ≠ some source.viewContractVersion then
    ["View contract version does not match the source: " ++ relation.qualifiedName] else []) ++
  (if relation.comment.getD "" = "" then
    ["Missing view description: " ++ relation.qualifiedName] else [])

/-- `_validate_snapshot`. -/
def validateSnapshot (source : SourceProfile) (snapshot : CatalogSnapshot) : List String :=
  if snapshot.relations = [] then
    ["No selectable relations were discovered in the allowed schemas."]
  else
    (if ¬ (snapshot.relations.map (·.qualifiedName)).Nodup then
      ["Catalog contains duplicate relations."] else []) ++
    snapshot.relations.flatMap (relationIssues source)

/-! ## Projection -/

/-- `_to_column_response`. -/
structure ColumnResponse where
  name : String
  sqlName : String
  ordinal : Int
  dataType : String
  nullable : String
  description : Option String
  deriving DecidableEq, Repr

/-- `_to_relation_response`. -/
structure RelationResponse where
  name : String
  sqlName : String
  kind : String
  description : Option String
  columnCount : Nat
  returnedColumnCount : Nat
  columnsTruncated : Bool
  columns : List ColumnResponse
  deriving DecidableEq, Repr

/-- The response of `_context_response`; `sql_capabilities` is the same in every response. -/
structure ContextResponse where
  sourceId : String
  sourceName : String
  sourceDescription : String
  metadataRevision : String
  sqlPolicyRevision : String
  stale : Bool
  relations : List RelationResponse
  truncated : Bool
  deriving DecidableEq, Repr

/-- The text of `snapshot_status`. -/
def ContextResponse.snapshotStatus (response : ContextResponse) : String :=
  if response.stale then "stale" else "fresh"

/-- `_to_column_response`. -/
def toColumnResponse (column : CatalogColumn) : ColumnResponse where
  name := column.name
  sqlName := column.sqlName
  ordinal := column.ordinal
  dataType := column.dataType
  nullable := column.nullable
  description := column.comment

/-- The columns of a relation, sorted by ordinal and name. -/
def orderedColumns (relation : CatalogRelation) : List CatalogColumn :=
  relation.columns.mergeSort fun a b =>
    a.ordinal < b.ordinal ∨ (a.ordinal = b.ordinal ∧ a.name ≤ b.name)

/-- `_to_relation_response`. -/
def toRelationResponse (maxColumns : Nat) (relation : CatalogRelation) : RelationResponse :=
  let columns := (orderedColumns relation).take maxColumns
  { name := relation.qualifiedName
    sqlName := relation.sqlName
    kind := relation.kind
    description := relation.comment
    columnCount := (orderedColumns relation).length
    returnedColumnCount := columns.length
    columnsTruncated := decide (columns.length < (orderedColumns relation).length)
    columns := columns.map toColumnResponse }

/-- The projection before it is measured. -/
def projection (sha256 : String → String) (source : SourceProfile) (prepared : PreparedMetadata)
    (stale : Bool) : ContextResponse :=
  let sorted := prepared.snapshot.relations.mergeSort fun a b => a.qualifiedName ≤ b.qualifiedName
  let relations := sorted.map (toRelationResponse source.budget.maxContextColumnsPerRelation)
  { sourceId := source.sourceId
    sourceName := source.name
    sourceDescription := source.description
    metadataRevision := prepared.revision
    sqlPolicyRevision := sqlPolicyRevision sha256
    stale := stale
    relations := relations
    truncated := relations.any (·.columnsTruncated) }

/-! ### The text of a response -/

/-- The JSON value of a column. -/
def ColumnResponse.value (column : ColumnResponse) : Json :=
  .object [("name", .str column.name), ("sql_name", .str column.sqlName),
    ("ordinal", .int column.ordinal), ("data_type", .str column.dataType),
    ("nullable", .str column.nullable), ("description", optionalString column.description)]

/-- The JSON value of a relation. -/
def RelationResponse.value (relation : RelationResponse) : Json :=
  .object [("name", .str relation.name), ("sql_name", .str relation.sqlName),
    ("kind", .str relation.kind), ("description", optionalString relation.description),
    ("column_count", .int relation.columnCount),
    ("returned_column_count", .int relation.returnedColumnCount),
    ("columns_truncated", .bool relation.columnsTruncated),
    ("columns", .array (relation.columns.map ColumnResponse.value))]

/-- The JSON value of a response. -/
def ContextResponse.value (response : ContextResponse) : Json :=
  .object [("source_id", .str response.sourceId), ("source_name", .str response.sourceName),
    ("source_description", .str response.sourceDescription),
    ("metadata_revision", .str response.metadataRevision),
    ("sql_policy_revision", .str response.sqlPolicyRevision),
    ("snapshot_status", .str response.snapshotStatus),
    ("sql_capabilities", .object [("functions", sortedNames defaultAllowedFunctions),
      ("cast_types", sortedNames defaultAllowedTypes),
      ("unqualified_cast_types", sortedNames defaultAllowedUnqualifiedTypes)]),
    ("relations", .array (response.relations.map RelationResponse.value)),
    ("truncated", .bool response.truncated)]

/-- `_context_response`. -/
def contextResponse (sha256 : String → String) (source : SourceProfile)
    (prepared : PreparedMetadata)
    (stale : Bool) : Except ServiceExc ContextResponse :=
  let response := projection sha256 source prepared stale
  if response.value.dumps.utf8ByteSize > source.budget.maxMetadataResponseBytes then
    .error (.metadataUnavailable ["Metadata response exceeds its byte limit."] none)
  else .ok response

/-- A response is the projection of its snapshot. -/
theorem contextResponse_eq_ok {sha256 : String → String} {source : SourceProfile}
    {prepared : PreparedMetadata} {stale : Bool} {response : ContextResponse}
    (h : contextResponse sha256 source prepared stale = .ok response) :
    response = projection sha256 source prepared stale := by
  unfold contextResponse at h
  dsimp only at h
  split at h
  · cases h
  · exact (Except.ok.inj h).symm

/-- A response that is not sent exceeds its limit. -/
theorem contextResponse_eq_error {sha256 : String → String} {source : SourceProfile}
    {prepared : PreparedMetadata} {stale : Bool} {e : ServiceExc}
    (h : contextResponse sha256 source prepared stale = .error e) :
    e = .metadataUnavailable ["Metadata response exceeds its byte limit."] none := by
  unfold contextResponse at h
  dsimp only at h
  split at h
  · exact (Except.error.inj h).symm
  · cases h

/-- A response lists every relation of its snapshot. -/
theorem mem_projection_relations {sha256 : String → String} {source : SourceProfile}
    {prepared : PreparedMetadata} {stale : Bool} {name : String} :
    name ∈ (projection sha256 source prepared stale).relations.map (·.name) ↔
      name ∈ prepared.snapshot.relations.map (·.qualifiedName) := by
  have hname : ∀ relation, (toRelationResponse source.budget.maxContextColumnsPerRelation
      relation).name = relation.qualifiedName := fun _ => rfl
  simp only [projection, List.map_map, List.mem_map, List.mem_mergeSort, Function.comp_apply, hname]

/-! ## Fresh and stale responses -/

/-- `fresh` and `stale` are of one length. -/
theorem ContextResponse.snapshotStatus_size (response : ContextResponse) :
    (Json.str response.snapshotStatus).size = 7 := by
  rw [ContextResponse.snapshotStatus]
  split
  · rfl
  · rfl

/-- The size of a response does not depend on whether it is stale. -/
theorem ContextResponse.value_size (response : ContextResponse) (stale : Bool) :
    ({ response with stale := stale } : ContextResponse).value.size = response.value.size := by
  have hstatus :
      (Json.str ({ response with stale := stale } : ContextResponse).snapshotStatus).size =
      (Json.str response.snapshotStatus).size := by
    rw [ContextResponse.snapshotStatus_size, ContextResponse.snapshotStatus_size]
  have hsame : ∀ fields : List (String × Json),
      List.Forall₂ (fun f g => f.1 = g.1 ∧ f.2.size = g.2.size) fields fields :=
    fun fields => List.forall₂_same.2 fun _ _ => ⟨rfl, rfl⟩
  rw [ContextResponse.value, ContextResponse.value]
  refine Json.size_object_congr ?_
  -- the five fields before `snapshot_status`, and the three behind it, are the same
  exact List.rel_append (hsame [_, _, _, _, _]) (.cons ⟨rfl, hstatus⟩ (hsame [_, _, _]))

/-- A projection within the limit is sent. -/
theorem contextResponse_of_size_le {sha256 : String → String} {source : SourceProfile}
    {prepared : PreparedMetadata} {stale : Bool}
    (h : (projection sha256 source prepared stale).value.size ≤
      source.budget.maxMetadataResponseBytes) :
    contextResponse sha256 source prepared stale =
      .ok (projection sha256 source prepared stale) := by
  rw [contextResponse]
  exact if_neg (not_lt.2 h)

/-- A snapshot that can be rendered as fresh can be rendered as stale. -/
theorem contextResponse_stale {sha256 : String → String} {source : SourceProfile}
    {value : PreparedMetadata} {response : ContextResponse}
    (h : contextResponse sha256 source value false = .ok response) (stale : Bool) :
    contextResponse sha256 source value stale =
      .ok (projection sha256 source value stale) := by
  have hfits : (projection sha256 source value false).value.size ≤
      source.budget.maxMetadataResponseBytes := by
    unfold contextResponse at h
    dsimp only at h
    split at h
    · cases h
    · next hfits => exact not_lt.1 hfits
  rw [← ContextResponse.value_size _ stale] at hfits
  exact contextResponse_of_size_le hfits

end QueryMan
