import QueryMan.GuardedQuery.Relations

/-!
# Published SQL names

A client quotes a relation as the catalog publishes it (`sql_name`), the allowlist holds its dotted
name (`qualified_name`), and `_validate_range_var` builds the dotted name again from the parsed
reference. Here the quoted name is read back by the rule of PostgreSQL (`readQualified`), and the
three agree: what a client quotes is accepted, and recorded as the relation it was published for
(`sqlNames_read_back`).
-/

namespace QueryMan

open Python

/-! ## Quoted identifiers -/

/-- The rest of a quoted identifier, behind its opening quote, with what follows it: a doubled quote
is one quote. -/
def readBody : List Char → Option (List Char × List Char)
  | [] => none
  | '"' :: '"' :: rest => (readBody rest).map fun read => ('"' :: read.1, read.2)
  | '"' :: rest => some ([], rest)
  | c :: rest => (readBody rest).map fun read => (c :: read.1, read.2)

/-- A quoted identifier, with what follows it. -/
def readIdentifier : List Char → Option (List Char × List Char)
  | '"' :: rest => readBody rest
  | _ => none

/-- The name of a column. -/
def readColumn (sqlName : String) : Option String :=
  match readIdentifier sqlName.toList with
  | some (name, []) => some (String.ofList name)
  | _ => none

/-- The schema and the name of a relation. -/
def readQualified (sqlName : String) : Option (String × String) :=
  match readIdentifier sqlName.toList with
  | some (schema, '.' :: rest) =>
    match readIdentifier rest with
    | some (name, []) => some (String.ofList schema, String.ofList name)
    | _ => none
  | _ => none

theorem readBody_cons {c : Char} {rest : List Char} (h : c ≠ '"') :
    readBody (c :: rest) = (readBody rest).map fun read => (c :: read.1, read.2) := by
  rw [readBody]
  · exact fun _ hc => absurd hc h
  · exact h

/-- Behind the quote that closes it, an identifier ends, unless another quote follows. -/
theorem readBody_quote {rest : List Char} (h : rest.head? ≠ some '"') :
    readBody ('"' :: rest) = some ([], rest) := by
  cases rest with
  | nil => rfl
  | cons c rest =>
    rw [readBody]
    intro tail hc
    obtain ⟨rfl, -⟩ := List.cons.inj hc
    exact h rfl

/-- `_quote_identifier` is read back, whatever the name. The induction is on the name: each of its
characters is itself, or a quote that was doubled. -/
theorem readBody_doubled {rest : List Char} (h : rest.head? ≠ some '"') (name : List Char) :
    readBody ((name.flatMap fun c => if c = '"' then ['"', '"'] else [c]) ++ '"' :: rest) =
      some (name, rest) := by
  induction name with
  | nil => exact readBody_quote h
  | cons c name ih =>
    rw [List.flatMap_cons, List.append_assoc]
    by_cases hc : c = '"'
    · subst hc
      rw [if_pos rfl, List.cons_append, List.cons_append, List.nil_append, readBody, ih]
      rfl
    · rw [if_neg hc, List.cons_append, List.nil_append, readBody_cons hc, ih]
      rfl

theorem readIdentifier_quoteIdentifier {rest : List Char} (h : rest.head? ≠ some '"')
    (name : String) :
    readIdentifier ((quoteIdentifier name).toList ++ rest) = some (name.toList, rest) := by
  rw [quoteIdentifier, String.toList_ofList, List.append_assoc, List.cons_append,
    List.singleton_append, readIdentifier]
  exact readBody_doubled h name.toList

/-- A column is read back. -/
theorem readColumn_quoteIdentifier (name : String) :
    readColumn (quoteIdentifier name) = some name := by
  have hread := @readIdentifier_quoteIdentifier [] (by simp) name
  rw [List.append_nil] at hread
  rw [readColumn, hread]
  exact congrArg some (String.ofList_toList)

/-- A relation is read back, as the pair of its names. -/
theorem readQualified_quoteIdentifier (schema name : String) :
    readQualified (quoteIdentifier schema ++ "." ++ quoteIdentifier name) =
      some (schema, name) := by
  have hname := @readIdentifier_quoteIdentifier [] (by simp) name
  rw [List.append_nil] at hname
  have hschema := @readIdentifier_quoteIdentifier ('.' :: (quoteIdentifier name).toList)
    (by simp) schema
  rw [readQualified, dotted_toList, hschema]
  simp only [hname, String.ofList_toList]

/-! ## References -/

/-- The `RangeVar` node refers to a relation of the current database, by its schema and its name. -/
structure RefersTo (node : Value) (schema name : String) : Prop where
  catalog : (node.get "catalogname").truthy = false
  schema : node.get "schemaname" = .str schema
  relation : node.getD "relname" (.str "") = .str name

theorem rangeVar_refersTo (schema name : String) : RefersTo (rangeVar schema name) schema name :=
  ⟨rfl, rfl, rfl⟩

/-- `_validate_range_var` accepts the node, whatever CTEs are in scope, and records this one name.
-/
def RecordsRelation (p : ValidationPolicy) (node : Value) (qualifiedName : String) : Prop :=
  ∀ visible collected, validateRangeVar p node visible collected =
    .ok ((), { collected with relations := insert qualifiedName collected.relations })

/-- A reference with a schema is accepted exactly for its dotted name. -/
theorem RefersTo.records {p : ValidationPolicy} {node : Value} {schema name : String}
    (h : RefersTo node schema name) (hschema : schema ≠ "")
    (hallowed : schema ++ "." ++ name ∈ p.allowedRelations) :
    RecordsRelation p node (schema ++ "." ++ name) := by
  intro visible collected
  have htruthy : (node.get "schemaname").truthy = true := by
    rw [h.schema]
    exact bne_iff_ne.2 hschema
  have hqualified : (node.get "schemaname").text ++ "." ++
      (node.getD "relname" (.str "")).text = schema ++ "." ++ name := by
    rw [h.schema, h.relation]
    rfl
  simp only [validateRangeVar, h.catalog, htruthy, hqualified, raiseIf, hallowed, not_true,
    Bool.false_eq_true, if_false]
  rfl

/-! ## The names of a snapshot -/

/-- The allowlist of the policy is that of the catalog. -/
def AllowsCatalog (p : ValidationPolicy) (catalog : List CatalogRelation) : Prop :=
  ∀ name, name ∈ p.allowedRelations ↔ name ∈ catalog.map (·.qualifiedName)

/-- The SQL names of a catalog say what the rows say. -/
structure SqlNames (rows : List CatalogRow) (catalog : List CatalogRelation) : Prop where
  /-- The name of a relation reads as its schema and its name. -/
  read : ∀ relation ∈ catalog,
    readQualified relation.sqlName = some (relation.schema, relation.name)
  /-- The name of a column reads as the column. -/
  columns : ∀ relation ∈ catalog, ∀ column ∈ relation.columns,
    readColumn column.sqlName = some column.name
  /-- Each row has the relation and the column that read as it. -/
  covers : ∀ row ∈ rows, ∃ relation ∈ catalog,
    readQualified relation.sqlName = some (row.schemaName, row.relationName) ∧
      ∃ column ∈ relation.columns, readColumn column.sqlName = some row.columnName
  /-- Different relations have different names, in SQL and in the allowlist. -/
  distinct : ∀ relation ∈ catalog, ∀ other ∈ catalog, relation ≠ other →
    relation.sqlName ≠ other.sqlName ∧ relation.qualifiedName ≠ other.qualifiedName
  /-- A reference by the names that are read is accepted, and recorded as the relation. -/
  recorded : ∀ relation ∈ catalog, ∀ schema name,
    readQualified relation.sqlName = some (schema, name) →
      ∀ node, RefersTo node schema name → ∀ p, AllowsCatalog p catalog →
        RecordsRelation p node relation.qualifiedName

variable {rows : List CatalogRow} {catalog : List CatalogRelation}

/-- The names of a relation are those of its first row. -/
theorem OfRows.names {relation : CatalogRelation} (h : OfRows rows relation) :
    relation.sqlName = quoteIdentifier relation.schema ++ "." ++ quoteIdentifier relation.name ∧
      relation.qualifiedName = relation.schema ++ "." ++ relation.name ∧
      ∃ row ∈ rows, row.schemaName = relation.schema ∧ row.relationName = relation.name := by
  obtain ⟨first, contract, hfirst, -, -, hrelation⟩ := h
  have hmem : first ∈ rowsOf rows relation.qualifiedName := List.mem_of_head? hfirst
  obtain ⟨hrow, hname⟩ := List.mem_filter.1 hmem
  have hqualified : first.qualifiedName = relation.qualifiedName := of_decide_eq_true hname
  rw [hrelation]
  exact ⟨rfl, rfl, first, hrow, rfl, rfl⟩

theorem OfRows.column {relation : CatalogRelation} {column : CatalogColumn}
    (h : OfRows rows relation) (hcolumn : column ∈ relation.columns) :
    column.sqlName = quoteIdentifier column.name := by
  obtain ⟨first, contract, -, -, -, hrelation⟩ := h
  rw [hrelation] at hcolumn
  obtain ⟨row, -, rfl⟩ := List.mem_map.1 hcolumn
  rfl

/-- Two relations of one dotted name are one. -/
theorem Grouped.eq_of_qualifiedName (h : Grouped rows catalog) {relation other : CatalogRelation}
    (hmem : relation ∈ catalog) (hother : other ∈ catalog)
    (hname : relation.qualifiedName = other.qualifiedName) : relation = other :=
  List.inj_on_of_nodup_map h.nodup hmem hother hname

/-- **Published SQL names are read back into the allowlist**, for every catalog of rows whose
schemas have a name without a dot: quoted names read as the relation's own names, whatever
characters these have, so no two relations share one; and a reference by what is read passes
`_validate_range_var` and records that relation. -/
theorem sqlNames_read_back (hbuilt : rowsToRelations rows = .ok catalog)
    (hdots : ∀ row ∈ rows, '.' ∉ row.schemaName.toList)
    (hnamed : ∀ row ∈ rows, row.schemaName ≠ "") : SqlNames rows catalog := by
  have hgrouped : Grouped rows catalog := (rowsToRelations_grouped hbuilt).1
  have hread : ∀ relation ∈ catalog,
      readQualified relation.sqlName = some (relation.schema, relation.name) := by
    intro relation hmem
    rw [(hgrouped.each relation hmem).names.1]
    exact readQualified_quoteIdentifier relation.schema relation.name
  refine ⟨hread, ?_, ?_, ?_, ?_⟩
  · intro relation hmem column hcolumn
    rw [(hgrouped.each relation hmem).column hcolumn]
    exact readColumn_quoteIdentifier column.name
  · intro row hrow
    obtain ⟨relation, hmem, hname⟩ := List.mem_map.1 (hgrouped.covers row hrow)
    obtain ⟨-, hdotted, first, hfirst, hschema, hrelation⟩ := (hgrouped.each relation hmem).names
    -- without dots in their schemas, the rows of a relation are those of its names
    have hsame : first.qualifiedName = row.qualifiedName := by
      rw [CatalogRow.qualifiedName, hschema, hrelation, ← hdotted]
      exact hname
    obtain ⟨hschemas, hnames⟩ :=
      (CatalogRow.qualifiedName_inj (hdots first hfirst) (hdots row hrow)).1 hsame
    refine ⟨relation, hmem, ?_, row.column, ?_, readColumn_quoteIdentifier row.columnName⟩
    · rw [hread relation hmem, ← hschema, ← hrelation, hschemas, hnames]
    · obtain ⟨first, contract, -, -, -, hcolumns⟩ := hgrouped.each relation hmem
      have hof : row ∈ rowsOf rows relation.qualifiedName :=
        List.mem_filter.2 ⟨hrow, decide_eq_true hname.symm⟩
      rw [hcolumns]
      exact List.mem_map_of_mem hof
  · intro relation hmem other hother hne
    have hqualified : relation.qualifiedName ≠ other.qualifiedName := fun hname =>
      hne (hgrouped.eq_of_qualifiedName hmem hother hname)
    refine ⟨fun hsql => hqualified ?_, hqualified⟩
    have hpairs : some (relation.schema, relation.name) = some (other.schema, other.name) := by
      rw [← hread relation hmem, hsql, hread other hother]
    obtain ⟨hschema, hname⟩ := Prod.mk.inj (Option.some.inj hpairs)
    rw [(hgrouped.each relation hmem).names.2.1, (hgrouped.each other hother).names.2.1, hschema,
      hname]
  · intro relation hmem schema name hpair node hrefers p hallows
    obtain ⟨rfl, rfl⟩ := Prod.mk.inj (Option.some.inj ((hread relation hmem).symm.trans hpair))
    obtain ⟨-, hdotted, first, hfirst, hschema, -⟩ := (hgrouped.each relation hmem).names
    rw [hdotted]
    refine hrefers.records (hschema ▸ hnamed first hfirst) ?_
    rw [hallows, ← hdotted]
    exact List.mem_map_of_mem hmem

namespace QuotedView

/-- The catalog row of a view whose names hold quotes and dots. -/
def row : CatalogRow :=
  { DottedView.row with relationName := "x.\"y\"", columnName := "\"id" }

/-- The relation that it is read as. -/
def relation : CatalogRelation :=
  { DottedView.relation with
    name := "x.\"y\""
    qualifiedName := "public.x.\"y\""
    sqlName := "\"public\".\"x.\"\"y\"\"\""
    columns := [⟨"\"id", "\"\"\"id\"", 1, "bigint", "unknown", none⟩] }

theorem built : rowsToRelations [row] = .ok [relation] := by
  have hfold : [row].foldlM addRow [] = .ok [relation] := by decide
  rw [rowsToRelations, hfold]
  exact congrArg Except.ok (List.mergeSort_singleton _)

end QuotedView

/-- The names of a view may hold quotes and dots. -/
theorem sqlNames_read_back_quoted : SqlNames [QuotedView.row] [QuotedView.relation] :=
  sqlNames_read_back QuotedView.built
    (fun row hrow => List.mem_singleton.1 hrow ▸ by decide)
    (fun row hrow => List.mem_singleton.1 hrow ▸ by decide)

namespace UnnamedSchema

/-- A row whose schema has the empty name, which has no dot. -/
def row : CatalogRow :=
  { DottedView.row with schemaName := "" }

/-- The relation that it is read as. -/
def relation : CatalogRelation :=
  { DottedView.relation with
    schema := ""
    qualifiedName := ".x.y"
    sqlName := "\"\".\"x.y\"" }

theorem built : rowsToRelations [row] = .ok [relation] := by
  have hfold : [row].foldlM addRow [] = .ok [relation] := by decide
  rw [rowsToRelations, hfold]
  exact congrArg Except.ok (List.mergeSort_singleton _)

/-- Its allowlist. -/
def policy : ValidationPolicy :=
  SqlLimits.policy { allowedRelations := [relation.qualifiedName] }

end UnnamedSchema

/-- A relation of a schema with the empty name is published, but a reference to it is taken for one
without a schema, and refused. -/
theorem unnamedSchema_refused :
    rowsToRelations [UnnamedSchema.row] = .ok [UnnamedSchema.relation] ∧
      '.' ∉ UnnamedSchema.row.schemaName.toList ∧
      readQualified UnnamedSchema.relation.sqlName = some ("", "x.y") ∧
      validateRangeVar UnnamedSchema.policy (rangeVar "" "x.y") ∅ ⟨∅, ∅, ∅⟩ =
        .error (SqlValidationError.mk "SQL_RELATION_MUST_BE_QUALIFIED"
          "Physical relations must use a schema-qualified name." none) ∧
      ¬ SqlNames [UnnamedSchema.row] [UnnamedSchema.relation] := by
  have hread : readQualified UnnamedSchema.relation.sqlName = some ("", "x.y") := by decide
  have hrefused : validateRangeVar UnnamedSchema.policy (rangeVar "" "x.y") ∅ ⟨∅, ∅, ∅⟩ =
      .error (SqlValidationError.mk "SQL_RELATION_MUST_BE_QUALIFIED"
        "Physical relations must use a schema-qualified name." none) := rfl
  refine ⟨UnnamedSchema.built, by decide, hread, hrefused, fun hnames => ?_⟩
  have hallows : AllowsCatalog UnnamedSchema.policy [UnnamedSchema.relation] := fun name =>
    List.mem_toFinset
  have haccepted := hnames.recorded UnnamedSchema.relation (List.mem_singleton.2 rfl) "" "x.y" hread
    (rangeVar "" "x.y") (rangeVar_refersTo "" "x.y") UnnamedSchema.policy hallows ∅ ⟨∅, ∅, ∅⟩
  rw [hrefused] at haccepted
  cases haccepted

end QueryMan
