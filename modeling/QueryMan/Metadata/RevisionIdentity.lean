import QueryMan.Metadata.CatalogRows
import QueryMan.Metadata.Response

/-!
# What a revision identifies

The revision text of a source and a snapshot is the same text exactly if the published contract is
the same one: the fields of the source, and the relations with their columns, both in any order
(`revisionText_eq_iff`). For snapshots of catalog rows, in which no column is repeated, the order
and the number of times are no part of it, so that the relations and columns agree as sets.
-/

namespace QueryMan

open Python

/-! ## The published contract -/

/-- A column, as it is published. -/
structure PublishedColumn where
  name : String
  ordinal : Int
  dataType : String
  nullable : String
  comment : Option String
  deriving DecidableEq

/-- A relation without its columns, as it is published. -/
structure RelationHead where
  schema : String
  name : String
  kind : String
  comment : Option String
  definitionHash : Option String
  securityInvoker : Bool
  securityBarrier : Bool
  deriving DecidableEq

/-- A column, as it is published. -/
def CatalogColumn.published (column : CatalogColumn) : PublishedColumn where
  name := column.name
  ordinal := column.ordinal
  dataType := column.dataType
  nullable := column.nullable
  comment := column.comment

/-- A relation without its columns, as it is published. -/
def CatalogRelation.head (relation : CatalogRelation) : RelationHead where
  schema := relation.schema
  name := relation.name
  kind := relation.kind
  comment := relation.comment
  definitionHash := relation.definitionHash
  securityInvoker := relation.securityInvoker
  securityBarrier := relation.securityBarrier

/-- The columns of a relation, in any order. -/
def CatalogRelation.columnBag (relation : CatalogRelation) : Multiset PublishedColumn :=
  (relation.columns.map CatalogColumn.published : List PublishedColumn)

/-- A relation with the set of its columns, as it is published. -/
def CatalogRelation.published (relation : CatalogRelation) : RelationHead × Set PublishedColumn :=
  (relation.head, {column | column ∈ relation.columns.map CatalogColumn.published})

/-- The set of the published relations. -/
def CatalogSnapshot.published (catalog : CatalogSnapshot) :
    Set (RelationHead × Set PublishedColumn) :=
  {relation | relation ∈ catalog.relations.map CatalogRelation.published}

/-- Two sources publish under the same contract. -/
structure SourceProfile.SameContract (source source' : SourceProfile) : Prop where
  sourceId : source.sourceId = source'.sourceId
  name : source.name = source'.name
  description : source.description = source'.description
  viewContractVersion : source.viewContractVersion = source'.viewContractVersion
  kinds : source.allowedRelationKinds.Perm source'.allowedRelationKinds
  schemas :
    (source.allowedSchemas.map Identifier.text).Perm (source'.allowedSchemas.map Identifier.text)
  budget : source.budget = source'.budget

/-! ## Relations -/

section

variable {relation relation' : CatalogRelation}

/-- A flag is a field of the mapping only if it is set. -/
theorem flag_field {fields fields' : List (String × Json)} {k : String} {a b : Bool}
    (h : canonicalize (.object fields) = canonicalize (.object fields'))
    (ha : ∀ w, (k, w) ∈ fields ↔ a = true ∧ w = .bool true)
    (hb : ∀ w, (k, w) ∈ fields' ↔ b = true ∧ w = .bool true) : a = b := by
  have himp : ∀ {fields fields' : List (String × Json)} {a b : Bool},
      canonicalize (.object fields) = canonicalize (.object fields') →
      (∀ w, (k, w) ∈ fields ↔ a = true ∧ w = .bool true) →
      (∀ w, (k, w) ∈ fields' ↔ b = true ∧ w = .bool true) → a = true → b = true := by
    intro fields fields' a b h ha hb hset
    obtain ⟨w, hmem, -, -⟩ := field_of_canonicalize_object h ((ha (.bool true)).2 ⟨hset, rfl⟩) nofun
    exact ((hb w).1 hmem).1
  exact Bool.eq_iff_iff.2 ⟨himp h ha hb, himp h.symm hb ha⟩

/-- A value that is not `None` has the same canonical form in both mappings. -/
theorem value_field {fields fields' : List (String × Json)} {k : String} {v w : Json}
    (h : canonicalize (.object fields) = canonicalize (.object fields')) (hv : HasField fields k v)
    (hw : HasField fields' k w) (hnull : v ≠ .null) : canonicalize v = canonicalize w :=
  (canonicalize_field h hv hw hnull).2

/-- A column in the material of the revision. -/
def revisionColumn (column : CatalogColumn) : Json :=
  .object [("name", .str column.name), ("ordinal", .int column.ordinal),
    ("data_type", .str column.dataType), ("nullable", .str column.nullable),
    ("comment", optionalString column.comment)]

theorem revisionColumn_iff {column column' : CatalogColumn} :
    canonicalize (revisionColumn column) = canonicalize (revisionColumn column') ↔
      column.published = column'.published := by
  constructor
  · intro h
    have hname : column.name = column'.name :=
      str_field (k := "name") h (fun w => by simp) fun w => by simp
    have hordinal : column.ordinal = column'.ordinal :=
      int_field (k := "ordinal") h (fun w => by simp) fun w => by simp
    have htype : column.dataType = column'.dataType :=
      str_field (k := "data_type") h (fun w => by simp) fun w => by simp
    have hnullable : column.nullable = column'.nullable :=
      str_field (k := "nullable") h (fun w => by simp) fun w => by simp
    have hcomment : column.comment = column'.comment :=
      optionalString_field (k := "comment") h (fun w => by simp) fun w => by simp
    simp only [CatalogColumn.published, hname, hordinal, htype, hnullable, hcomment]
  · intro h
    simp only [CatalogColumn.published, PublishedColumn.mk.injEq] at h
    obtain ⟨hname, hordinal, htype, hnullable, hcomment⟩ := h
    rw [revisionColumn, revisionColumn, hname, hordinal, htype, hnullable, hcomment]

/-- Columns in any order. -/
theorem revisionColumns_iff {columns columns' : List CatalogColumn} :
    canonicalize (.array (columns.map revisionColumn)) =
        canonicalize (.array (columns'.map revisionColumn)) ↔
      (columns.map CatalogColumn.published).Perm (columns'.map CatalogColumn.published) := by
  rw [canonicalize_array_eq_iff, List.map_map, List.map_map]
  exact ⟨perm_map_of_factors fun _ _ => revisionColumn_iff.1,
    perm_map_of_factors fun _ _ => revisionColumn_iff.2⟩

/-- The fields of a relation without its columns, in the material of the revision. -/
def RelationHead.fields (head : RelationHead) : List (String × Json) :=
  [("schema", .str head.schema), ("name", .str head.name), ("kind", .str head.kind),
    ("comment", optionalString head.comment),
    ("definition_hash", optionalString head.definitionHash)] ++
  (if head.securityInvoker then [("security_invoker", .bool true)] else []) ++
  (if head.securityBarrier then [("security_barrier", .bool true)] else [])

theorem revisionRelation_eq : revisionRelation relation =
    .object (relation.head.fields ++ [("columns", .array (relation.columns.map revisionColumn))]) :=
  rfl

/-- **A relation in the material of the revision** is canonically its head and its columns in any
order. -/
theorem revisionRelation_iff :
    canonicalize (revisionRelation relation) = canonicalize (revisionRelation relation') ↔
      (relation.head, relation.columnBag) = (relation'.head, relation'.columnBag) := by
  rw [revisionRelation_eq, revisionRelation_eq]
  generalize relation.head = head, relation'.head = head'
  constructor
  · intro h
    have hschema : head.schema = head'.schema :=
      str_field (k := "schema") h (fun w => by simp [RelationHead.fields]) fun w => by
        simp [RelationHead.fields]
    have hname : head.name = head'.name :=
      str_field (k := "name") h (fun w => by simp [RelationHead.fields]) fun w => by
        simp [RelationHead.fields]
    have hkind : head.kind = head'.kind :=
      str_field (k := "kind") h (fun w => by simp [RelationHead.fields]) fun w => by
        simp [RelationHead.fields]
    have hcomment : head.comment = head'.comment :=
      optionalString_field (k := "comment") h (fun w => by simp [RelationHead.fields]) fun w => by
        simp [RelationHead.fields]
    have hhash : head.definitionHash = head'.definitionHash :=
      optionalString_field (k := "definition_hash") h (fun w => by simp [RelationHead.fields])
        fun w => by simp [RelationHead.fields]
    have hinvoker : head.securityInvoker = head'.securityInvoker :=
      flag_field (k := "security_invoker") h (fun w => by simp [RelationHead.fields]) fun w => by
        simp [RelationHead.fields]
    have hbarrier : head.securityBarrier = head'.securityBarrier :=
      flag_field (k := "security_barrier") h (fun w => by simp [RelationHead.fields]) fun w => by
        simp [RelationHead.fields]
    have hcolumns : canonicalize (.array (relation.columns.map revisionColumn)) =
        canonicalize (.array (relation'.columns.map revisionColumn)) :=
      value_field (k := "columns") h (fun w => by simp [RelationHead.fields])
        (fun w => by simp [RelationHead.fields]) nofun
    have hbag : relation.columnBag = relation'.columnBag :=
      Multiset.coe_eq_coe.2 (revisionColumns_iff.1 hcolumns)
    have hhead : head = head' := by
      cases head
      cases head'
      simp_all only
    rw [hhead, hbag]
  · intro h
    obtain ⟨rfl, hbag⟩ := Prod.mk.inj h
    have hcolumns := revisionColumns_iff.2 (Multiset.coe_eq_coe.1 hbag)
    exact canonicalize_object_congr (List.rel_append (List.forall₂_same.2 fun _ _ => ⟨rfl, rfl⟩)
      (.cons ⟨rfl, hcolumns⟩ .nil))

end

/-! ## The text -/

/-- A value that is its own canonical form, and not `None`. -/
def IsScalar : Json → Prop
  | .bool _ | .int _ | .str _ => True
  | _ => False

theorem canonicalize_scalar {v : Json} (h : IsScalar v) : canonicalize v = v := by
  cases v with
  | bool b => exact canonicalize_bool b
  | int i => exact canonicalize_int i
  | str s => exact canonicalize_str s
  | null | array | object => exact h.elim

/-- Mappings of scalars with the same keys are canonically equal only if they are the same. -/
theorem scalars_eq {fields fields' : List (String × Json)}
    (h : canonicalize (.object fields) = canonicalize (.object fields'))
    (hkeys : fields.map Prod.fst = fields'.map Prod.fst) (hnodup : (fields.map Prod.fst).Nodup)
    (hscalar : ∀ f ∈ fields, IsScalar f.2) (hscalar' : ∀ f ∈ fields', IsScalar f.2) :
    fields = fields' := by
  have hsub : ∀ f ∈ fields, f ∈ fields' := by
    rintro ⟨k, v⟩ hmem
    have hv : IsScalar v := hscalar _ hmem
    have hnull : v ≠ .null := fun heq => by rw [heq] at hv; exact hv
    obtain ⟨w, hmem', -, heq⟩ := field_of_canonicalize_object h hmem hnull
    rw [canonicalize_scalar hv, canonicalize_scalar (hscalar' _ hmem')] at heq
    exact heq ▸ hmem'
  have hlength : fields.length = fields'.length := by
    rw [← List.length_map, hkeys, List.length_map]
  refine List.ext_getElem hlength fun i hi hi' => ?_
  have hkey : fields[i].1 = fields'[i].1 := by
    have hget := List.getElem_of_eq hkeys (by rwa [List.length_map])
    rwa [List.getElem_map, List.getElem_map] at hget
  exact List.inj_on_of_nodup_map (hkeys ▸ hnodup) (hsub _ (List.getElem_mem hi))
    (List.getElem_mem hi') hkey

/-- The mapping of a budget determines the budget. -/
theorem budget_of_canonicalize {budget budget' : BudgetProfile}
    (h : canonicalize budget.value = canonicalize budget'.value) : budget = budget' := by
  have hfields := scalars_eq h rfl (by simp) (by simp [IsScalar]) (by simp [IsScalar])
  cases budget
  cases budget'
  simpa [Int.natCast_inj] using hfields

section

variable {source source' : SourceProfile} {catalog catalog' : CatalogSnapshot}

/-- The relations of a snapshot in any order, each with its columns in any order. -/
def CatalogSnapshot.relationBag (catalog : CatalogSnapshot) :
    Multiset (RelationHead × Multiset PublishedColumn) :=
  (catalog.relations.map fun relation => (relation.head, relation.columnBag) : List _)

theorem revisionRelations_iff :
    canonicalize (.array (catalog.relations.map revisionRelation)) =
        canonicalize (.array (catalog'.relations.map revisionRelation)) ↔
      catalog.relationBag = catalog'.relationBag := by
  rw [canonicalize_array_eq_iff, List.map_map, List.map_map, CatalogSnapshot.relationBag,
    CatalogSnapshot.relationBag, Multiset.coe_eq_coe]
  exact ⟨perm_map_of_factors fun _ _ => revisionRelation_iff.1,
    perm_map_of_factors fun _ _ => revisionRelation_iff.2⟩

/-- One contract names the same relations. -/
theorem names_perm (h : catalog.relationBag = catalog'.relationBag) :
    (catalog.relations.map fun relation => (relation.schema, relation.name)).Perm
      (catalog'.relations.map fun relation => (relation.schema, relation.name)) := by
  have hnames := (Multiset.coe_eq_coe.1 h).map fun key => (key.1.schema, key.1.name)
  rwa [List.map_map, List.map_map] at hnames

/-- Strings in any order. -/
theorem strings_iff {α : Type} {f : α → String} {xs ys : List α} :
    canonicalize (.array (xs.map fun x => .str (f x))) =
        canonicalize (.array (ys.map fun x => .str (f x))) ↔ (xs.map f).Perm (ys.map f) := by
  have hstr : ∀ x y : α, canonicalize (.str (f x)) = canonicalize (.str (f y)) ↔ f x = f y := by
    intro x y
    rw [canonicalize_str, canonicalize_str, Json.str.injEq]
  rw [canonicalize_array_eq_iff, List.map_map, List.map_map]
  exact ⟨perm_map_of_factors fun x y => (hstr x y).1, perm_map_of_factors fun x y => (hstr x y).2⟩

/-- **The revision text identifies the published contract.** -/
theorem revisionText_eq_iff : revisionText source catalog = revisionText source' catalog' ↔
    source.SameContract source' ∧ catalog.relationBag = catalog'.relationBag := by
  have hkinds := @strings_iff String id source.allowedRelationKinds source'.allowedRelationKinds
  rw [List.map_id, List.map_id] at hkinds
  constructor
  · intro htext
    have h := Json.dumps_injective htext
    refine ⟨⟨?_, ?_, ?_, ?_, hkinds.1 ?_, strings_iff.1 ?_, budget_of_canonicalize ?_⟩,
      revisionRelations_iff.1 ?_⟩
    · exact str_field (k := "source_id") h (fun w => by simp) fun w => by simp
    · exact str_field (k := "source_name") h (fun w => by simp) fun w => by simp
    · exact str_field (k := "source_description") h (fun w => by simp) fun w => by simp
    · have hversion : (source.viewContractVersion : Int) = source'.viewContractVersion :=
        int_field (k := "view_contract_version") h (fun w => by simp) fun w => by simp
      exact Int.ofNat.inj hversion
    · exact value_field (k := "allowed_relation_kinds") h (fun w => by simp)
        (fun w => by simp) nofun
    · exact value_field (k := "allowed_schemas") h (fun w => by simp) (fun w => by simp) nofun
    · exact value_field (k := "execution_budget") h (fun w => by simp) (fun w => by simp) nofun
    · exact value_field (k := "relations") h (fun w => by simp) (fun w => by simp) nofun
  · rintro ⟨h, hrelations⟩
    refine congrArg Json.dumps (canonicalize_object_congr ?_)
    rw [h.sourceId, h.name, h.description, h.viewContractVersion, h.budget]
    exact .cons ⟨rfl, rfl⟩ <| .cons ⟨rfl, rfl⟩ <| .cons ⟨rfl, rfl⟩ <| .cons ⟨rfl, rfl⟩ <|
      .cons ⟨rfl, rfl⟩ <| .cons ⟨rfl, strings_iff.2 h.schemas⟩ <|
      .cons ⟨rfl, hkinds.2 h.kinds⟩ <| .cons ⟨rfl, rfl⟩ <|
      .cons ⟨rfl, revisionRelations_iff.2 hrelations⟩ .nil

end

end QueryMan
