import QueryMan.Metadata.Catalog
import QueryMan.GuardedQuery.ResultEncoding
import QueryMan.GuardedQuery.SqlValidation
import QueryMan.Python.Json
import Mathlib.Logic.Function.Basic

/-!
# Revisions and signatures

`metadata/revision.py`: the texts that the metadata revision and the view structure signature are
the digests of. Both are made canonical first, which forgets the order of lists and drops `None`
from mappings. The structure text still determines the structure up to the order of the relations
(`sameStructure_of_text_eq`).
-/

namespace QueryMan

open Python

/-! ## Canonical values -/

mutual

/-- `_canonicalize`. The keys of a canonical mapping are sorted already, so that `sort_keys` leaves
the text of an item as it is. -/
def canonicalize : Json → Json
  | .array items => .array ((canonicalizeItems items).mergeSort fun a b => a.dumps ≤ b.dumps)
  | .object fields => .object ((canonicalizeFields fields).mergeSort fun a b => a.1 ≤ b.1)
  | v => v

/-- The items of a list. -/
def canonicalizeItems : List Json → List Json
  | [] => []
  | v :: items => canonicalize v :: canonicalizeItems items

/-- The items of a mapping that are not `None`. -/
def canonicalizeFields : List (String × Json) → List (String × Json)
  | [] => []
  | (_, .null) :: fields => canonicalizeFields fields
  | (k, v) :: fields => (k, canonicalize v) :: canonicalizeFields fields

end

theorem canonicalizeItems_eq (items : List Json) :
    canonicalizeItems items = items.map canonicalize := by
  induction items with
  | nil => rfl
  | cons v items ih => rw [canonicalizeItems, List.map_cons, ih]

theorem mem_canonicalizeFields {fields : List (String × Json)} {k : String} {v : Json} :
    (k, v) ∈ canonicalizeFields fields ↔
      ∃ w, (k, w) ∈ fields ∧ w ≠ .null ∧ canonicalize w = v := by
  induction fields with
  | nil => exact ⟨nofun, fun ⟨_, h, _⟩ => absurd h List.not_mem_nil⟩
  | cons field fields ih =>
    obtain ⟨k', w'⟩ := field
    by_cases hnull : w' = .null
    · subst hnull
      rw [canonicalizeFields, ih]
      constructor
      · rintro ⟨w, hmem, h⟩
        exact ⟨w, List.mem_cons_of_mem _ hmem, h⟩
      · rintro ⟨w, hmem, hw, h⟩
        rcases List.mem_cons.1 hmem with heq | hmem
        · exact absurd (Prod.mk.inj heq).2 hw
        · exact ⟨w, hmem, hw, h⟩
    · rw [canonicalizeFields.eq_3 _ _ _ hnull, List.mem_cons, ih]
      constructor
      · rintro (heq | ⟨w, hmem, h⟩)
        · obtain ⟨rfl, rfl⟩ := Prod.mk.inj heq
          exact ⟨w', List.mem_cons_self, hnull, rfl⟩
        · exact ⟨w, List.mem_cons_of_mem _ hmem, h⟩
      · rintro ⟨w, hmem, hw, rfl⟩
        rcases List.mem_cons.1 hmem with heq | hmem
        · obtain ⟨rfl, rfl⟩ := Prod.mk.inj heq
          exact .inl rfl
        · exact .inr ⟨w, hmem, hw, rfl⟩

/-- Sorting forgets the order, if only equal items take the same place. -/
theorem mergeSort_eq_of_perm {α : Type} {le : α → α → Bool} {xs ys : List α}
    (htrans : ∀ a b c, le a b → le b c → le a c) (htotal : ∀ a b, le a b || le b a)
    (hanti : ∀ a ∈ xs, ∀ b ∈ xs, le a b → le b a → a = b) (h : xs.Perm ys) :
    xs.mergeSort le = ys.mergeSort le := by
  have hperm : (xs.mergeSort le).Perm (ys.mergeSort le) :=
    ((List.mergeSort_perm xs le).trans h).trans (List.mergeSort_perm ys le).symm
  refine hperm.eq_of_pairwise (fun a b ha hb => ?_) (List.pairwise_mergeSort htrans htotal xs)
    (List.pairwise_mergeSort htrans htotal ys)
  exact hanti a (List.mem_mergeSort.1 ha) b (h.mem_iff.2 (List.mem_mergeSort.1 hb))

/-- **Canonical lists are equal exactly if they have the same items**, in any order. -/
theorem canonicalize_array_eq_iff {xs ys : List Json} :
    canonicalize (.array xs) = canonicalize (.array ys) ↔
      (xs.map canonicalize).Perm (ys.map canonicalize) := by
  rw [canonicalize, canonicalize, canonicalizeItems_eq, canonicalizeItems_eq]
  constructor
  · intro h
    have hsorted := Json.array.inj h
    have hperm := List.mergeSort_perm (ys.map canonicalize) fun a b => decide (a.dumps ≤ b.dumps)
    rw [← hsorted] at hperm
    exact (List.mergeSort_perm _ _).symm.trans hperm
  · intro h
    refine congrArg Json.array (mergeSort_eq_of_perm (fun a b c hab hbc => ?_) (fun a b => ?_)
      (fun a _ b _ hab hba => ?_) h)
    · exact decide_eq_true ((of_decide_eq_true hab).trans (of_decide_eq_true hbc))
    · simpa using le_total a.dumps b.dumps
    · exact Json.dumps_injective (le_antisymm (of_decide_eq_true hab) (of_decide_eq_true hba))

theorem canonicalize_eq_null {v : Json} : canonicalize v = .null ↔ v = .null := by
  cases v with
  | array | object => rw [canonicalize]; exact ⟨nofun, nofun⟩
  | _ => rw [canonicalize] <;> nofun

/-- Mappings of the same keys are canonically equal if their values are. -/
theorem canonicalize_object_congr {fields fields' : List (String × Json)}
    (h : List.Forall₂ (fun f g => f.1 = g.1 ∧ canonicalize f.2 = canonicalize g.2) fields fields') :
    canonicalize (.object fields) = canonicalize (.object fields') := by
  have hfields : canonicalizeFields fields = canonicalizeFields fields' := by
    induction h with
    | nil => rfl
    | @cons f g fields fields' hfield _ ih =>
      obtain ⟨k, v⟩ := f
      obtain ⟨k', w⟩ := g
      obtain ⟨rfl, hvalue⟩ := hfield
      dsimp only at hvalue
      by_cases hv : v = .null
      · have hw : w = .null := canonicalize_eq_null.1 (hvalue ▸ canonicalize_eq_null.2 hv)
        rw [hv, hw, canonicalizeFields, canonicalizeFields, ih]
      · have hw :
          w ≠ .null := fun hw => hv (canonicalize_eq_null.1 (hvalue ▸ canonicalize_eq_null.2 hw))
        rw [canonicalizeFields.eq_3 _ _ _ hv, canonicalizeFields.eq_3 _ _ _ hw, ih, hvalue]
  rw [canonicalize, canonicalize, hfields]

/-- Canonical mappings have the same items. -/
theorem field_of_canonicalize_object {fields fields' : List (String × Json)}
    (h : canonicalize (.object fields) = canonicalize (.object fields')) {k : String} {w : Json}
    (hmem : (k, w) ∈ fields) (hw : w ≠ .null) :
    ∃ w', (k, w') ∈ fields' ∧ w' ≠ .null ∧ canonicalize w' = canonicalize w := by
  rw [canonicalize, canonicalize] at h
  have hsorted := Json.object.inj h
  have hcanonical : (k, canonicalize w) ∈
      (canonicalizeFields fields).mergeSort fun a b => decide (a.1 ≤ b.1) :=
    List.mem_mergeSort.2 (mem_canonicalizeFields.2 ⟨w, hmem, hw, rfl⟩)
  rw [hsorted, List.mem_mergeSort] at hcanonical
  exact mem_canonicalizeFields.1 hcanonical

/-! ## Materials -/

/-- A string that may be `None`. -/
def optionalString : Option String → Json
  | none => .null
  | some s => .str s

/-- `CANONICAL_TIME_POLICY_MATERIAL`. -/
def canonicalTimePolicyMaterial : Json :=
  .object [("version", .int 1), ("reader_session_timezone", .str "UTC"),
    ("aware_datetime", .str "utc_isoformat_plus_00_00"),
    ("naive_datetime", .str "preserve_isoformat"),
    ("date", .str "preserve_isoformat"), ("time", .str "preserve_isoformat"),
    ("timetz", .str "preserve_isoformat")]

/-- The fields of a `BudgetProfile`. -/
def BudgetProfile.value (budget : BudgetProfile) : Json :=
  .object [("name", .str budget.name), ("version", .int budget.version),
    ("metadata_statement_timeout_ms", .int budget.metadataStatementTimeoutMs),
    ("query_statement_timeout_ms", .int budget.queryStatementTimeoutMs),
    ("query_transaction_timeout_ms", .int budget.queryTransactionTimeoutMs),
    ("query_queue_timeout_ms", .int budget.queryQueueTimeoutMs),
    ("lock_timeout_ms", .int budget.lockTimeoutMs), ("work_mem_kb", .int budget.workMemKb),
    ("temp_file_limit_kb", .int budget.tempFileLimitKb),
    ("max_parallel_workers_per_gather", .int budget.maxParallelWorkersPerGather),
    ("jit_enabled", .bool budget.jitEnabled), ("max_pool_size", .int budget.maxPoolSize),
    ("max_concurrent_queries", .int budget.maxConcurrentQueries),
    ("max_metadata_relations", .int budget.maxMetadataRelations),
    ("max_metadata_columns", .int budget.maxMetadataColumns),
    ("max_columns_per_relation", .int budget.maxColumnsPerRelation),
    ("max_context_columns_per_relation", .int budget.maxContextColumnsPerRelation),
    ("max_metadata_response_bytes", .int budget.maxMetadataResponseBytes),
    ("max_result_rows", .int budget.maxResultRows),
    ("max_result_bytes", .int budget.maxResultBytes),
    ("max_sql_bytes", .int budget.maxSqlBytes),
    ("max_plan_total_cost", .int budget.maxPlanTotalCost),
    ("max_plan_rows", .int budget.maxPlanRows), ("max_plan_nodes", .int budget.maxPlanNodes)]

/-- `CatalogSnapshot`. -/
structure CatalogSnapshot where
  relations : List CatalogRelation
  deriving DecidableEq, Repr

/-- A relation in the material of `create_metadata_revision`. -/
def revisionRelation (relation : CatalogRelation) : Json :=
  .object ([("schema", .str relation.schema), ("name", .str relation.name),
      ("kind", .str relation.kind), ("comment", optionalString relation.comment),
      ("definition_hash", optionalString relation.definitionHash)] ++
    (if relation.securityInvoker then [("security_invoker", .bool true)] else []) ++
    (if relation.securityBarrier then [("security_barrier", .bool true)] else []) ++
    [("columns", .array (relation.columns.map fun column =>
      .object [("name", .str column.name), ("ordinal", .int column.ordinal),
        ("data_type", .str column.dataType), ("nullable", .str column.nullable),
        ("comment", optionalString column.comment)]))])

/-- The material of `create_metadata_revision`. -/
def revisionValue (source : SourceProfile) (catalog : CatalogSnapshot) : Json :=
  .object [("source_id", .str source.sourceId), ("source_name", .str source.name),
    ("source_description", .str source.description),
    ("view_contract_version", .int source.viewContractVersion),
    ("canonical_time_policy", canonicalTimePolicyMaterial),
    ("allowed_schemas", .array (source.allowedSchemas.map fun schema => .str schema.text)),
    ("allowed_relation_kinds", .array (source.allowedRelationKinds.map .str)),
    ("execution_budget", source.budget.value),
    ("relations", .array (catalog.relations.map revisionRelation))]

/-- The text that `create_metadata_revision` takes the digest of. -/
def revisionText (source : SourceProfile) (catalog : CatalogSnapshot) : String :=
  (canonicalize (revisionValue source catalog)).dumps

/-- A column in the material of `create_view_structure_signature`, with its index. -/
def structureColumn (entry : CatalogColumn × Nat) : Json :=
  .object [("position", .int (entry.2 + 1)), ("name", .str entry.1.name),
    ("ordinal", .int entry.1.ordinal), ("data_type", .str entry.1.dataType),
    ("nullable", .str entry.1.nullable)]

/-- A relation in the material of `create_view_structure_signature`. -/
def structureRelation (relation : CatalogRelation) : Json :=
  .object [("schema", .str relation.schema), ("name", .str relation.name),
    ("kind", .str relation.kind), ("definition_hash", optionalString relation.definitionHash),
    ("security_invoker", .bool relation.securityInvoker),
    ("security_barrier", .bool relation.securityBarrier),
    ("columns", .array (relation.columns.zipIdx.map structureColumn))]

/-- The material of `create_view_structure_signature`. -/
def structureValue (catalog : CatalogSnapshot) : Json :=
  .object [("relations", .array (catalog.relations.map structureRelation))]

/-- The text that `create_view_structure_signature` takes the digest of. -/
def structureText (catalog : CatalogSnapshot) : String :=
  (canonicalize (structureValue catalog)).dumps

/-! ## What the texts determine -/

/-- The structure of a column. -/
structure ColumnStructure where
  name : String
  ordinal : Int
  dataType : String
  nullable : String
  deriving DecidableEq

/-- The structure of a relation, with its columns in their order. -/
structure RelationStructure where
  schema : String
  name : String
  kind : String
  definitionHash : Option String
  securityInvoker : Bool
  securityBarrier : Bool
  columns : List ColumnStructure
  deriving DecidableEq

/-- The structure of a column. -/
def CatalogColumn.structure (column : CatalogColumn) : ColumnStructure where
  name := column.name
  ordinal := column.ordinal
  dataType := column.dataType
  nullable := column.nullable

/-- The structure of a relation. -/
def CatalogRelation.structure (relation : CatalogRelation) : RelationStructure where
  schema := relation.schema
  name := relation.name
  kind := relation.kind
  definitionHash := relation.definitionHash
  securityInvoker := relation.securityInvoker
  securityBarrier := relation.securityBarrier
  columns := relation.columns.map CatalogColumn.structure

/-- Two snapshots have the same relations with the same structure. -/
def CatalogSnapshot.SameStructure (catalog catalog' : CatalogSnapshot) : Prop :=
  (catalog.relations.map CatalogRelation.structure).Perm
    (catalog'.relations.map CatalogRelation.structure)

/-- What `f` keeps of the members of a list, a permutation of their images keeps. -/
theorem perm_map_of_factors {α β γ : Type} {f : α → β} {g : α → γ}
    (hfactors : ∀ x y, f x = f y → g x = g y) {l l' : List α} (h : (l.map f).Perm (l'.map f)) :
    (l.map g).Perm (l'.map g) := by
  cases l with
  | nil =>
    rw [List.map_nil, List.nil_perm, List.map_eq_nil_iff] at h
    rw [h]
  | cons x l =>
    have : Nonempty γ := ⟨g x⟩
    obtain ⟨k, hk⟩ := (Function.factorsThrough_iff g).1 fun a b => hfactors a b
    rw [hk, ← List.map_map, ← List.map_map]
    exact h.map k

/-- The indices of a list give its order back. -/
theorem eq_of_zipIdx_perm {α : Type} {l l' : List α} (h : l.zipIdx.Perm l'.zipIdx) : l = l' := by
  refine List.ext_getElem? fun i => Option.ext fun x => ?_
  rw [← List.mem_zipIdx_iff_getElem? (x := (x, i)), h.mem_iff, List.mem_zipIdx_iff_getElem?]

@[simp] theorem canonicalize_str (s : String) : canonicalize (.str s) = .str s := by
  rw [canonicalize] <;> nofun

@[simp] theorem canonicalize_int (i : Int) : canonicalize (.int i) = .int i := by
  rw [canonicalize] <;> nofun

@[simp] theorem canonicalize_bool (b : Bool) : canonicalize (.bool b) = .bool b := by
  rw [canonicalize] <;> nofun

/-- The one value of a key in a mapping. -/
def HasField (fields : List (String × Json)) (k : String) (v : Json) : Prop :=
  ∀ w, (k, w) ∈ fields ↔ w = v

section Fields

variable {fields fields' : List (String × Json)} {k : String}

/-- A value that is not `None` has the same canonical form in both mappings. -/
theorem canonicalize_field (h : canonicalize (.object fields) = canonicalize (.object fields'))
    {v w : Json} (hv : HasField fields k v) (hw : HasField fields' k w) (hnull : v ≠ .null) :
    w ≠ .null ∧ canonicalize v = canonicalize w := by
  obtain ⟨w', hmem, hw', heq⟩ := field_of_canonicalize_object h ((hv v).2 rfl) hnull
  obtain rfl := (hw w').1 hmem
  exact ⟨hw', heq.symm⟩

theorem str_field (h : canonicalize (.object fields) = canonicalize (.object fields'))
    {s t : String}
    (hs : HasField fields k (.str s)) (ht : HasField fields' k (.str t)) : s = t := by
  have heq := (canonicalize_field h hs ht nofun).2
  rw [canonicalize_str, canonicalize_str] at heq
  exact Json.str.inj heq

theorem int_field (h : canonicalize (.object fields) = canonicalize (.object fields')) {i j : Int}
    (hi : HasField fields k (.int i)) (hj : HasField fields' k (.int j)) : i = j := by
  have heq := (canonicalize_field h hi hj nofun).2
  rw [canonicalize_int, canonicalize_int] at heq
  exact Json.int.inj heq

theorem bool_field (h : canonicalize (.object fields) = canonicalize (.object fields')) {a b : Bool}
    (ha : HasField fields k (.bool a)) (hb : HasField fields' k (.bool b)) : a = b := by
  have heq := (canonicalize_field h ha hb nofun).2
  rw [canonicalize_bool, canonicalize_bool] at heq
  exact Json.bool.inj heq

theorem array_field (h : canonicalize (.object fields) = canonicalize (.object fields'))
    {xs ys : List Json} (hxs : HasField fields k (.array xs))
    (hys : HasField fields' k (.array ys)) :
    (xs.map canonicalize).Perm (ys.map canonicalize) :=
  canonicalize_array_eq_iff.1 (canonicalize_field h hxs hys nofun).2

/-- A string that may be `None` is left out when it is, and found otherwise. -/
theorem optionalString_field (h : canonicalize (.object fields) = canonicalize (.object fields'))
    {a b : Option String} (ha : HasField fields k (optionalString a))
    (hb : HasField fields' k (optionalString b)) : a = b := by
  cases a with
  | some s =>
    cases b with
    | some t => exact congrArg some (str_field h ha hb)
    | none => exact absurd rfl (canonicalize_field h ha hb nofun).1
  | none =>
    cases b with
    | some t => exact absurd rfl (canonicalize_field h.symm hb ha nofun).1
    | none => rfl

end Fields

theorem structureColumn_inj {x y : CatalogColumn × Nat}
    (h : canonicalize (structureColumn x) = canonicalize (structureColumn y)) :
    (x.1.structure, x.2) = (y.1.structure, y.2) := by
  have hposition : (x.2 + 1 : Int) = y.2 + 1 :=
    int_field (k := "position") h (fun w => by simp) fun w => by simp
  have hname : x.1.name = y.1.name :=
    str_field (k := "name") h (fun w => by simp) fun w => by simp
  have hordinal : x.1.ordinal = y.1.ordinal :=
    int_field (k := "ordinal") h (fun w => by simp) fun w => by simp
  have htype : x.1.dataType = y.1.dataType :=
    str_field (k := "data_type") h (fun w => by simp) fun w => by simp
  have hnullable : x.1.nullable = y.1.nullable :=
    str_field (k := "nullable") h (fun w => by simp) fun w => by simp
  simp only [CatalogColumn.structure, hname, hordinal, htype, hnullable, Prod.mk.injEq, true_and]
  omega

theorem structureRelation_inj {relation relation' : CatalogRelation}
    (h : canonicalize (structureRelation relation) = canonicalize (structureRelation relation')) :
    relation.structure = relation'.structure := by
  have hschema : relation.schema = relation'.schema :=
    str_field (k := "schema") h (fun w => by simp) fun w => by simp
  have hname : relation.name = relation'.name :=
    str_field (k := "name") h (fun w => by simp) fun w => by simp
  have hkind : relation.kind = relation'.kind :=
    str_field (k := "kind") h (fun w => by simp) fun w => by simp
  have hhash : relation.definitionHash = relation'.definitionHash :=
    optionalString_field (k := "definition_hash") h (fun w => by simp) fun w => by simp
  have hinvoker : relation.securityInvoker = relation'.securityInvoker :=
    bool_field (k := "security_invoker") h (fun w => by simp) fun w => by simp
  have hbarrier : relation.securityBarrier = relation'.securityBarrier :=
    bool_field (k := "security_barrier") h (fun w => by simp) fun w => by simp
  have hcolumns : ((relation.columns.zipIdx.map structureColumn).map canonicalize).Perm
      ((relation'.columns.zipIdx.map structureColumn).map canonicalize) :=
    array_field (k := "columns") h (fun w => by simp) fun w => by simp
  rw [List.map_map, List.map_map] at hcolumns
  have hperm := perm_map_of_factors (g := Prod.map CatalogColumn.structure id)
    (fun x y heq => structureColumn_inj heq) hcolumns
  rw [← List.zipIdx_map, ← List.zipIdx_map] at hperm
  simp only [CatalogRelation.structure, hschema, hname, hkind, hhash, hinvoker, hbarrier,
    eq_of_zipIdx_perm hperm]

/-- **The structure text determines the structure**: the order of the columns is part of it, the
order of the relations is not. -/
theorem sameStructure_of_text_eq {catalog catalog' : CatalogSnapshot}
    (h : structureText catalog = structureText catalog') : catalog.SameStructure catalog' := by
  have hrelations : ((catalog.relations.map structureRelation).map canonicalize).Perm
      ((catalog'.relations.map structureRelation).map canonicalize) :=
    array_field (k := "relations") (Json.dumps_injective h) (fun w => by simp) fun w => by simp
  rw [List.map_map, List.map_map] at hrelations
  exact perm_map_of_factors (fun _ _ heq => structureRelation_inj heq) hrelations

/-! ## Digests -/

/-- The digest of a text as the revisions show it; `sha256` is the hexadecimal digest of its UTF-8
bytes. -/
def digest (sha256 : String → String) (text : String) : String :=
  "sha256:" ++ sha256 text

theorem digest_inj {sha256 : String → String} {texts : List String}
    (hsha : Set.InjOn sha256 {text | text ∈ texts}) {s t : String} (hs : s ∈ texts) (ht : t ∈ texts)
    (h : digest sha256 s = digest sha256 t) : s = t :=
  hsha hs ht ((String.append_right_inj _).1 h)

/-- `create_metadata_revision`. -/
def createMetadataRevision (sha256 : String → String) (source : SourceProfile)
    (catalog : CatalogSnapshot) : String :=
  digest sha256 (revisionText source catalog)

/-- `create_view_structure_signature`. -/
def createViewStructureSignature (sha256 : String → String) (catalog : CatalogSnapshot) : String :=
  digest sha256 (structureText catalog)

/-- A sorted list of names. -/
def sortedNames (names : List String) : Json :=
  .array ((names.mergeSort fun a b => a ≤ b).map .str)

/-- The size of a list of short names. -/
theorem sortedNames_size_le {names : List String} {n : Nat} (h : ∀ name ∈ names, name.length ≤ n) :
    (sortedNames names).size ≤ (6 * n + 3) * names.length + 2 := by
  have hsize : ∀ v ∈ (names.mergeSort fun a b => a ≤ b).map Json.str, v.size ≤ 6 * n + 2 := by
    intro v hv
    obtain ⟨name, hname, rfl⟩ := List.mem_map.1 hv
    have hlength := h name (List.mem_mergeSort.1 hname)
    have hstr := Json.size_str_le name
    omega
  have harray := Json.size_array_le hsize
  rwa [List.length_map, List.length_mergeSort] at harray

/-- The items of a mapping, sorted. -/
def sortedItems (items : List (String × String)) : Json :=
  .array ((items.mergeSort fun a b => a.1 ≤ b.1).map fun item => .array [.str item.1, .str item.2])

/-- The material of `_create_sql_policy_revision`, its keys in the order that `sort_keys` gives
them. -/
def sqlPolicyValue : Json :=
  .object [("allowed_nodes", sortedNames allowedNodeTags),
    ("canonical_time_policy", canonicalize canonicalTimePolicyMaterial),
    ("forbidden_nodes", sortedItems forbiddenNodeCodes),
    ("functions", sortedNames defaultAllowedFunctions),
    ("operators", sortedNames defaultAllowedOperators),
    ("reader_connection_policy", .object [("client_encoding", .str "UTF8"),
      ("driver_encoding", .str "utf-8"), ("postgresql_major", .int 18),
      ("server_encoding", .str "UTF8"), ("version", .int 1)]),
    ("rejected_expressions", sortedItems rejectedAExprConstructs),
    ("result_oid_policy", .object [
      ("allowed_scalar_oids",
        .array (resultOidPairs.map fun pair => .array [.str pair.1, .int pair.2])),
      ("postgresql_major", .int 18), ("version", .int 1)]),
    ("sql_value_functions", sortedNames allowedSqlValueFunctions),
    ("types", sortedNames defaultAllowedTypes),
    ("unqualified_types", sortedNames defaultAllowedUnqualifiedTypes),
    ("version", .int 3)]

/-- `SQL_POLICY_REVISION`. -/
def sqlPolicyRevision (sha256 : String → String) : String :=
  digest sha256 sqlPolicyValue.dumps

end QueryMan
