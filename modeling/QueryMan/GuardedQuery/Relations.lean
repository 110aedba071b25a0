import QueryMan.GuardedQuery.CteScope
import QueryMan.Metadata.CatalogRows

/-!
# The relation allowlist

`QueryService.query` passes the dotted names of the published relations to `validate_sql`, which
compares them with the dotted name of each reference. The comparison identifies relations as long as
a reference's schema contains no dot (`relationAllowlist_identifies_iff`); a quoted schema with a
dot in it is taken for another relation (`dottedSchema_accepted`).
-/

namespace QueryMan

open Python
open Python.Value (Path)

/-- A snapshot that `_rows_to_relations` built for a source: the catalog query returns only rows of
the allowed schemas. -/
structure PublishedSnapshot (source : SourceProfile) where
  rows : List CatalogRow
  eligible : ∀ row ∈ rows, ∃ schema ∈ source.allowedSchemas, row.schemaName = schema.text
  relations : List CatalogRelation
  built : rowsToRelations rows = .ok relations

/-- The keyword arguments that `QueryService.query` gives to `validate_sql`. -/
def PublishedSnapshot.sqlLimits {source : SourceProfile} (snapshot : PublishedSnapshot source) :
    SqlLimits where
  allowedRelations := snapshot.relations.map CatalogRelation.qualifiedName
  maxSqlBytes := source.budget.maxSqlBytes

/-! ## The allowlist -/

/-- What a snapshot says of its relations: the schema is an allowed one, and the qualified name is
the dotted name. -/
theorem PublishedSnapshot.relation_spec {source : SourceProfile}
    (snapshot : PublishedSnapshot source) {relation : CatalogRelation}
    (hmem : relation ∈ snapshot.relations) :
    (∃ schema ∈ source.allowedSchemas, relation.schema = schema.text) ∧
      relation.qualifiedName = relation.schema ++ "." ++ relation.name := by
  obtain ⟨row, hrow, hschema, hname, hqualified⟩ :=
    rowsToRelations_from snapshot.built relation hmem
  rw [hschema, hname, hqualified]
  exact ⟨snapshot.eligible row hrow, rfl⟩

/-- The reference is a relation of the snapshot, in an allowed schema. -/
def NamesRelation {source : SourceProfile} (snapshot : PublishedSnapshot source)
    (schema relation : String) : Prop :=
  (∃ published ∈ snapshot.relations, published.schema = schema ∧ published.name = relation) ∧
    ∃ allowed ∈ source.allowedSchemas, allowed.text = schema

/-- A dotted name in the allowlist names a relation exactly if its schema has no dot. -/
theorem namesRelation_iff {source : SourceProfile} (snapshot : PublishedSnapshot source)
    {schema relation : String}
    (hallowed : schema ++ "." ++ relation ∈ snapshot.sqlLimits.allowedRelations) :
    NamesRelation snapshot schema relation ↔ '.' ∉ schema.toList := by
  constructor
  · rintro ⟨-, allowed, -, rfl⟩
    exact allowed.dot_notMem
  · intro hdot
    obtain ⟨published, hmem, hqualified⟩ := List.mem_map.1 hallowed
    obtain ⟨⟨allowed, hallowedMem, hschema⟩, hname⟩ := snapshot.relation_spec hmem
    have hdotted : published.schema.toList ++ '.' :: published.name.toList =
        schema.toList ++ '.' :: relation.toList := by
      rw [← dotted_toList, ← dotted_toList, ← hname, hqualified]
    have hdot' : '.' ∉ published.schema.toList := by
      rw [hschema]
      exact allowed.dot_notMem
    obtain ⟨hs, hr⟩ := dotted_inj hdot' hdot hdotted
    have hs' := String.toList_inj.1 hs
    have hr' := String.toList_inj.1 hr
    exact ⟨⟨published, hmem, hs', hr'⟩, allowed, hallowedMem, hschema.symm.trans hs'⟩

/-- **The relation allowlist identifies relations exactly when no schema is dotted.** In a statement
accepted for a published snapshot, every qualified reference is a relation of the snapshot, in an
allowed schema, if and only if the schema of no reference contains a dot. -/
theorem relationAllowlist_identifies_iff {source : SourceProfile}
    (snapshot : PublishedSnapshot source) (t : SelectTree) {parser : SqlParser} {sql : String}
    {result : ValidatedSql} (hparse : parser.parse sql = some [t.tree])
    (haccepted : validateSql parser snapshot.sqlLimits sql = .ok result) :
    (∀ path node schema relation, t.tree.at? path = some node → IsRangeVar node →
        name? node "schemaname" = some schema → name? node "relname" = some relation →
        NamesRelation snapshot schema relation) ↔
      ∀ path node schema, t.tree.at? path = some node → IsRangeVar node →
        name? node "schemaname" = some schema → '.' ∉ schema.toList := by
  obtain ⟨-, tree, collected, fingerprint, hparse', -, hrun, -, -⟩ := validateSql_eq_ok.1 haccepted
  rw [hparse] at hparse'
  obtain rfl : t.tree = tree := by simpa using hparse'
  obtain ⟨⟨-, hresolved⟩, -, -⟩ := (validate_records _ t).inv hrun
  have hallowed : ∀ path node schema, t.tree.at? path = some node → IsRangeVar node →
      name? node "schemaname" = some schema → ∃ relation, name? node "relname" = some relation ∧
        schema ++ "." ++ relation ∈ snapshot.sqlLimits.allowedRelations := by
    intro path node schema hat htag hschema
    obtain ⟨-, hcase⟩ := hresolved path node hat htag
    rw [hschema] at hcase
    obtain ⟨relation, hrelation, hmem⟩ := hcase
    exact ⟨relation, hrelation, List.mem_toFinset.1 hmem⟩
  constructor
  · intro h path node schema hat htag hschema
    obtain ⟨relation, hrelation, hmem⟩ := hallowed path node schema hat htag hschema
    exact (namesRelation_iff snapshot hmem).1
      (h path node schema relation hat htag hschema hrelation)
  · intro h path node schema relation hat htag hschema hrelation
    obtain ⟨relation', hrelation', hmem⟩ := hallowed path node schema hat htag hschema
    obtain rfl := Option.some.inj (hrelation.symm.trans hrelation')
    exact (namesRelation_iff snapshot hmem).2 (h path node schema hat htag hschema)

/-! ## A dotted view name -/

namespace DottedView

/-- The catalog row of the view `"public"."x.y"`. -/
def row : CatalogRow where
  schemaName := "public"
  relationName := "x.y"
  relationKind := "v"
  relationComment := some "query-man:source=demo;view-contract=1\nOrders."
  viewDefinitionHash := some "9e107d9d372bb6826bd81d3542a419d6"
  securityInvoker := false
  securityBarrier := true
  ordinal := 1
  columnName := "id"
  dataType := "bigint"
  typeKind := some "b"
  columnComment := none

/-- The relation that the row is read as. -/
def relation : CatalogRelation where
  schema := "public"
  name := "x.y"
  qualifiedName := "public.x.y"
  sqlName := "\"public\".\"x.y\""
  kind := "view"
  columns := [⟨"id", "\"id\"", 1, "bigint", "unknown", none⟩]
  comment := some "Orders."
  definitionHash := some "9e107d9d372bb6826bd81d3542a419d6"
  viewContractSource := some "demo"
  viewContractVersion := some 1
  securityInvoker := false
  securityBarrier := true

/-- A source that publishes the schema `public`. -/
def source : SourceProfile where
  sourceId := "demo"
  name := "Demo"
  description := "The orders of the demo shop."
  sslmode := .disable
  allowedSchemas := [⟨"public", by decide⟩]
  allowedRelationKinds := ["view"]
  viewContractVersion := 1
  budget := {
    name := "default"
    version := 2
    metadataStatementTimeoutMs := 5000
    queryStatementTimeoutMs := 5000
    queryTransactionTimeoutMs := 10000
    queryQueueTimeoutMs := 1000
    lockTimeoutMs := 500
    workMemKb := 4096
    tempFileLimitKb := 10240
    maxParallelWorkersPerGather := 0
    jitEnabled := false
    maxPoolSize := 2
    maxConcurrentQueries := 2
    maxMetadataRelations := 100
    maxMetadataColumns := 1000
    maxColumnsPerRelation := 100
    maxContextColumnsPerRelation := 50
    maxMetadataResponseBytes := 1048576
    maxResultRows := 1000
    maxResultBytes := 1048576
    maxSqlBytes := 100000
    maxPlanTotalCost := 1000000
    maxPlanRows := 1000000
    maxPlanNodes := 100 }

/-- The snapshot of that one view. -/
def snapshot : PublishedSnapshot source where
  rows := [row]
  eligible := by
    intro r hmem
    obtain rfl := List.mem_singleton.1 hmem
    exact ⟨⟨"public", by decide⟩, List.mem_singleton.2 rfl, rfl⟩
  relations := [relation]
  built := by
    have hfold : [row].foldlM addRow [] = .ok [relation] := by decide
    rw [rowsToRelations, hfold]
    exact congrArg Except.ok (List.mergeSort_singleton _)

end DottedView

/-- The condition is met by the view's own name, which is accepted and identified. -/
theorem relationAllowlist_identifies_iff_view :
    (∃ result, validateSql (fixedParser (selectFrom "public" "x.y")) DottedView.snapshot.sqlLimits
      "SELECT FROM public.\"x.y\"" = .ok result) ∧
    ∀ path node schema relation, (selectFrom "public" "x.y").at? path = some node →
      IsRangeVar node → name? node "schemaname" = some schema →
      name? node "relname" = some relation → NamesRelation DottedView.snapshot schema relation := by
  have hallowed : "public" ++ "." ++ "x.y" ∈ DottedView.snapshot.sqlLimits.allowedRelations := by
    decide
  have haccepted : ∃ result, validateSql (fixedParser (selectFrom "public" "x.y"))
      DottedView.snapshot.sqlLimits "SELECT FROM public.\"x.y\"" = .ok result :=
    validateSql_selectFrom (by decide) (by decide) hallowed (by decide)
  refine ⟨haccepted, ?_⟩
  obtain ⟨result, hok⟩ := haccepted
  refine (relationAllowlist_identifies_iff DottedView.snapshot
    (selectFromTree "public" "x.y" (by decide) (by decide)) rfl hok).2 ?_
  intro path node schema hat htag hschema
  obtain rfl := rangeVar_of_selectFrom hat htag
  cases hschema
  decide

/-- `SELECT FROM "public.x"."y"` is accepted for a snapshot whose only relation is `"public"."x.y"`:
the reference names no relation of the snapshot, and its schema is not an allowed one. -/
theorem dottedSchema_accepted :
    (∃ result, validateSql (fixedParser (selectFrom "public.x" "y")) DottedView.snapshot.sqlLimits
      "SELECT FROM \"public.x\".\"y\"" = .ok result) ∧
    (∃ path node, (selectFrom "public.x" "y").at? path = some node ∧ IsRangeVar node ∧
      name? node "schemaname" = some "public.x" ∧ name? node "relname" = some "y") ∧
    (¬ ∃ published ∈ DottedView.snapshot.relations,
      published.schema = "public.x" ∧ published.name = "y") ∧
    ¬ ∃ allowed ∈ DottedView.source.allowedSchemas, allowed.text = "public.x" := by
  have hallowed : "public.x" ++ "." ++ "y" ∈ DottedView.snapshot.sqlLimits.allowedRelations := by
    decide
  refine ⟨validateSql_selectFrom (by decide) (by decide) hallowed (by decide),
    ⟨[.key "fromClause", .index 0], _, rfl, rfl, rfl, rfl⟩, by decide, by decide⟩

end QueryMan
