import QueryMan.Python.Checks
import QueryMan.Python.Value
import QueryMan.SourceCatalog.Models

/-!
# The catalog of a source

`_rows_to_relations` of `metadata/catalog.py`, with the parser of view comments and the quoting of
identifiers. A row of the catalog query describes one column; rows are grouped by the dotted text
`schema.name`. `RelationFrom` is the invariant of the grouping: every relation carries the names of
a row, and its qualified name is their dotted text.
-/

namespace QueryMan

open Python

/-- A row of `CATALOG_QUERY`. -/
structure CatalogRow where
  schemaName : String
  relationName : String
  relationKind : String
  relationComment : Option String
  viewDefinitionHash : Option String
  securityInvoker : Bool
  securityBarrier : Bool
  ordinal : Int
  columnName : String
  dataType : String
  typeKind : Option String
  columnComment : Option String
  deriving DecidableEq, Repr

/-- `CatalogColumn`; its nullability is always `"unknown"`. -/
structure CatalogColumn where
  name : String
  sqlName : String
  ordinal : Int
  dataType : String
  nullable : String
  comment : Option String
  deriving DecidableEq, Repr

/-- `CatalogRelation`, and `_CatalogRelationBuilder`, whose `freeze` copies every field. -/
structure CatalogRelation where
  schema : String
  name : String
  qualifiedName : String
  sqlName : String
  kind : String
  columns : List CatalogColumn
  comment : Option String
  definitionHash : Option String
  viewContractSource : Option String
  viewContractVersion : Option Nat
  securityInvoker : Bool
  securityBarrier : Bool
  deriving DecidableEq, Repr

/-- The messages of `_CatalogValidationError`. -/
structure CatalogValidationError where
  message : String
  deriving DecidableEq, Repr

/-! ## Comments and names -/

/-- `_quote_identifier`. -/
def quoteIdentifier (value : String) : String :=
  String.ofList
    ('"' :: (value.toList.flatMap fun c => if c = '"' then ['"', '"'] else [c]) ++ ['"'])

/-- The control characters that `_sanitize_comment` replaces. -/
def isReplacedControl (c : Char) : Bool :=
  decide (c.toNat ≤ 0x08) || decide (c.toNat = 0x0b) || decide (c.toNat = 0x0c) ||
    (decide (0x0e ≤ c.toNat) && decide (c.toNat ≤ 0x1f)) || decide (c.toNat = 0x7f)

/-- `s.strip()`. -/
def stripSpaces (cs : List Char) : List Char :=
  ((cs.dropWhile isSpace).reverse.dropWhile isSpace).reverse

/-- `_sanitize_comment`. -/
def sanitizeComment (value : Option String) : Option String :=
  value.bind fun text =>
    let sanitized := stripSpaces (text.toList.map fun c => if isReplacedControl c then ' ' else c)
    match sanitized.take 2000 with
    | [] => none
    | cs => some (String.ofList cs)

/-- `[a-z0-9]`. -/
def isSlugChar (c : Char) : Bool :=
  ('a' ≤ c && c ≤ 'z') || ('0' ≤ c && c ≤ '9')

/-- `[a-z0-9]+(?:-[a-z0-9]+)*`. -/
def isSlug (cs : List Char) : Bool :=
  (cs.splitOn '-').all fun part => part != [] && part.all isSlugChar

/-- `[1-9][0-9]*`. -/
def isVersion : List Char → Bool
  | [] => false
  | c :: rest => '1' ≤ c && c ≤ '9' && rest.all fun d => '0' ≤ d && d ≤ '9'

/-- `int` of decimal digits. -/
def decimal (cs : List Char) : Nat :=
  cs.foldl (fun n c => 10 * n + (c.toNat - '0'.toNat)) 0

/-- The rest of a list after a prefix. -/
def dropPrefix? (start cs : List Char) : Option (List Char) :=
  if start.isPrefixOf cs then some (cs.drop start.length) else none

/-- `_VIEW_CONTRACT_MARKER.fullmatch`: the slug ends at the first semicolon, since it contains
none. -/
def matchMarker (line : List Char) : Option (String × Nat) := do
  let rest ← dropPrefix? "query-man:source=".toList line
  let slug := rest.takeWhile (· ≠ ';')
  let version ← dropPrefix? ";view-contract=".toList (rest.dropWhile (· ≠ ';'))
  if isSlug slug ∧ isVersion version then some (String.ofList slug, decimal version) else none

/-- A line without its carriage return, if it ends in one. -/
def dropCarriageReturn (line : List Char) : List Char :=
  if line.getLast? = some '\r' then line.dropLast else line

/-- `_parse_view_comment`: the contract in the first line, then the description. -/
def parseViewComment (value : Option String) :
    Except CatalogValidationError (Option String × Option Nat × Option String) :=
  match value with
  | none => return (none, none, none)
  | some text =>
    let firstLine := text.toList.takeWhile (· ≠ '\n')
    let description := (text.toList.dropWhile (· ≠ '\n')).tail
    match matchMarker (dropCarriageReturn firstLine) with
    | none => throw ⟨"View comment has an invalid contract marker"⟩
    | some (source, version) =>
      match sanitizeComment (some (String.ofList description)) with
      | none => throw ⟨"View comment requires a human description"⟩
      | some human => return (some source, some version, some human)

/-! ## Rows to relations -/

/-- The text that rows are grouped by. -/
def CatalogRow.qualifiedName (row : CatalogRow) : String :=
  row.schemaName ++ "." ++ row.relationName

/-- The column that a row describes. -/
def CatalogRow.column (row : CatalogRow) : CatalogColumn where
  name := row.columnName
  sqlName := quoteIdentifier row.columnName
  ordinal := row.ordinal
  dataType := row.dataType
  nullable := "unknown"
  comment := sanitizeComment row.columnComment

/-- `relation.columns.append`, on the relation of that name. -/
def appendColumn (relations : List CatalogRelation) (row : CatalogRow) : List CatalogRelation :=
  relations.map fun relation =>
    if relation.qualifiedName = row.qualifiedName then
      { relation with columns := relation.columns ++ [row.column] }
    else relation

/-- One turn of the loop of `_rows_to_relations`. -/
def addRow (relations : List CatalogRelation) (row : CatalogRow) :
    Except CatalogValidationError (List CatalogRelation) :=
  if relations.any fun relation => relation.qualifiedName == row.qualifiedName then
    return appendColumn relations row
  else do
    raiseIf (row.relationKind ≠ "v")
      (CatalogValidationError.mk "Catalog returned a non-view relation")
    let (contractSource, contractVersion, comment) ← parseViewComment row.relationComment
    let relation : CatalogRelation := {
      schema := row.schemaName
      name := row.relationName
      qualifiedName := row.qualifiedName
      sqlName := quoteIdentifier row.schemaName ++ "." ++ quoteIdentifier row.relationName
      kind := "view"
      columns := []
      comment := comment
      definitionHash := row.viewDefinitionHash
      viewContractSource := contractSource
      viewContractVersion := contractVersion
      securityInvoker := row.securityInvoker
      securityBarrier := row.securityBarrier }
    return appendColumn (relations ++ [relation]) row

/-- `_rows_to_relations`: the dictionary is the list of its relations in insertion order. -/
def rowsToRelations (rows : List CatalogRow) :
    Except CatalogValidationError (List CatalogRelation) := do
  let relations ← rows.foldlM addRow []
  return relations.mergeSort fun a b => a.qualifiedName ≤ b.qualifiedName

/-! ## The invariant of the grouping -/

/-- The relation carries the names of one of the rows. -/
def RelationFrom (rows : List CatalogRow) (relation : CatalogRelation) : Prop :=
  ∃ row ∈ rows, relation.schema = row.schemaName ∧ relation.name = row.relationName ∧
    relation.qualifiedName = row.qualifiedName

/-- Appending a column leaves the names alone. -/
theorem appendColumn_from {rows : List CatalogRow} {relations : List CatalogRelation}
    {row : CatalogRow} (h : ∀ relation ∈ relations, RelationFrom rows relation) :
    ∀ relation ∈ appendColumn relations row, RelationFrom rows relation := by
  intro relation hmem
  obtain ⟨before, hbefore, rfl⟩ := List.mem_map.1 hmem
  split
  · exact h before hbefore
  · exact h before hbefore

/-- One row keeps the invariant. -/
theorem addRow_from {rows : List CatalogRow} {relations relations' : List CatalogRelation}
    {row : CatalogRow} (hrow : row ∈ rows) (h : ∀ relation ∈ relations, RelationFrom rows relation)
    (hadd : addRow relations row = .ok relations') :
    ∀ relation ∈ relations', RelationFrom rows relation := by
  unfold addRow at hadd
  split at hadd
  · cases hadd
    exact appendColumn_from h
  · obtain ⟨_, -, hadd⟩ := bind_eq_ok.1 hadd
    obtain ⟨⟨contractSource, contractVersion, comment⟩, -, hadd⟩ := bind_eq_ok.1 hadd
    cases hadd
    refine appendColumn_from fun relation hmem => ?_
    rcases List.mem_append.1 hmem with hmem | hmem
    · exact h relation hmem
    · obtain rfl := List.mem_singleton.1 hmem
      exact ⟨row, hrow, rfl, rfl, rfl⟩

/-- All rows keep the invariant. -/
theorem foldlM_addRow_from {rows : List CatalogRow} :
    ∀ {rest : List CatalogRow} {relations relations' : List CatalogRelation}, rest ⊆ rows →
      (∀ relation ∈ relations, RelationFrom rows relation) →
      rest.foldlM addRow relations = .ok relations' →
      ∀ relation ∈ relations', RelationFrom rows relation
  | [], relations, relations', _, h, hfold => by
    cases hfold
    exact h
  | row :: rest, relations, relations', hsub, h, hfold => by
    rw [List.foldlM_cons] at hfold
    obtain ⟨relations₁, hadd, hfold⟩ := bind_eq_ok.1 hfold
    obtain ⟨hrow, hrest⟩ := List.cons_subset.1 hsub
    exact foldlM_addRow_from hrest (addRow_from hrow h hadd) hfold

/-- Every relation of a snapshot carries the names of a row of the catalog. -/
theorem rowsToRelations_from {rows : List CatalogRow} {relations : List CatalogRelation}
    (h : rowsToRelations rows = .ok relations) :
    ∀ relation ∈ relations, RelationFrom rows relation := by
  obtain ⟨relations₀, hfold, hsort⟩ := bind_eq_ok.1 h
  cases hsort
  intro relation hmem
  have hmem' : relation ∈ relations₀ := (List.mergeSort_perm _ _).mem_iff.1 hmem
  exact foldlM_addRow_from (List.Subset.refl _) (by simp) hfold relation hmem'

end QueryMan
