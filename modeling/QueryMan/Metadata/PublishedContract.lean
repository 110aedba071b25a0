import QueryMan.GuardedQuery.Relations
import QueryMan.Metadata.RevisionIdentity
import QueryMan.Python.TableDigest

/-!
# Revisions of catalog snapshots

Snapshots that `_rows_to_relations` builds from catalog rows. Their revision identifies the
published contract, in which relations and columns are sets; so it determines the response, which
sorts both, and for rows in the order of the catalog query also the structure signature, which keeps
the order of the columns.
-/

namespace QueryMan

open Python

/-! ## Catalog rows -/

/-- The rows are those of a catalog: their schemas are identifiers of the manifest, and an attribute
of a relation has one row. -/
structure IsCatalog (rows : List CatalogRow) : Prop where
  dotFree : ∀ row ∈ rows, '.' ∉ row.schemaName.toList
  oneRow : rows.Pairwise fun row row' =>
    row.schemaName = row'.schemaName → row.relationName = row'.relationName →
      row.ordinal ≠ row'.ordinal

/-- The rows of each relation come in the order of their ordinals, as the catalog query gives them.
-/
def InOrder (rows : List CatalogRow) : Prop :=
  rows.Pairwise fun row row' => row.schemaName = row'.schemaName →
    row.relationName = row'.relationName → row.ordinal < row'.ordinal

/-- A snapshot of catalog rows. -/
structure CatalogBuilt (rows : List CatalogRow) (catalog : CatalogSnapshot) : Prop where
  isCatalog : IsCatalog rows
  built : rowsToRelations rows = .ok catalog.relations

variable {rows rows' : List CatalogRow} {catalog catalog' : CatalogSnapshot}
  {relation relation' : CatalogRelation} {source source' : SourceProfile}

namespace CatalogBuilt

theorem grouped (h : CatalogBuilt rows catalog) : Grouped rows catalog.relations :=
  (rowsToRelations_grouped h.built).1

theorem increasing (h : CatalogBuilt rows catalog) :
    catalog.relations.Pairwise fun a b => a.qualifiedName < b.qualifiedName :=
  (rowsToRelations_grouped h.built).2

theorem columns (h : CatalogBuilt rows catalog) (hmem : relation ∈ catalog.relations) :
    relation.columns = (rowsOf rows relation.qualifiedName).map CatalogRow.column := by
  obtain ⟨first, contract, -, -, -, hrelation⟩ := h.grouped.each relation hmem
  conv_lhs => rw [hrelation]
  rfl

/-- What relates the rows of each relation relates its columns. -/
theorem columns_pairwise {R : Int → Int → Prop} (h : CatalogBuilt rows catalog)
    (hrows : rows.Pairwise fun row row' => row.schemaName = row'.schemaName →
      row.relationName = row'.relationName → R row.ordinal row'.ordinal)
    (hmem : relation ∈ catalog.relations) :
    relation.columns.Pairwise fun column column' => R column.ordinal column'.ordinal := by
  rw [h.columns hmem, List.pairwise_map]
  refine ((hrows.sublist (List.filter_sublist ..)).imp_of_mem fun {row row'} hrow hrow' hR => ?_)
  obtain ⟨hrow, hname⟩ := List.mem_filter.1 hrow
  obtain ⟨hrow', hname'⟩ := List.mem_filter.1 hrow'
  have hsame := (of_decide_eq_true hname).trans (of_decide_eq_true hname').symm
  obtain ⟨hschema, hrelation⟩ := (CatalogRow.qualifiedName_inj (h.isCatalog.dotFree row hrow)
    (h.isCatalog.dotFree row' hrow')).1 hsame
  exact hR hschema hrelation

/-- The columns of a relation have different ordinals. -/
theorem ordinals (h : CatalogBuilt rows catalog) (hmem : relation ∈ catalog.relations) :
    relation.columns.Pairwise fun column column' => column.ordinal ≠ column'.ordinal :=
  h.columns_pairwise h.isCatalog.oneRow hmem

theorem sqlName (h : CatalogBuilt rows catalog) (hmem : relation ∈ catalog.relations)
    {column : CatalogColumn} (hcolumn : column ∈ relation.columns) :
    column.sqlName = quoteIdentifier column.name := by
  rw [h.columns hmem] at hcolumn
  obtain ⟨row, -, rfl⟩ := List.mem_map.1 hcolumn
  rfl

/-- The names of a relation are made of its schema and its name. -/
theorem names (h : CatalogBuilt rows catalog) (hmem : relation ∈ catalog.relations) :
    relation.qualifiedName = relation.schema ++ "." ++ relation.name ∧
      relation.sqlName =
        quoteIdentifier relation.schema ++ "." ++ quoteIdentifier relation.name := by
  obtain ⟨first, contract, -, -, -, hrelation⟩ := h.grouped.each relation hmem
  rw [hrelation]
  exact ⟨rfl, rfl⟩

/-- The published columns of a relation are not repeated. -/
theorem columns_nodup (h : CatalogBuilt rows catalog) (hmem : relation ∈ catalog.relations) :
    (relation.columns.map CatalogColumn.published).Nodup := by
  refine List.pairwise_map.2 ((h.ordinals hmem).imp fun hne heq => hne ?_)
  exact congrArg PublishedColumn.ordinal heq

/-- Neither are the published relations. -/
theorem heads_nodup (h : CatalogBuilt rows catalog) :
    (catalog.relations.map CatalogRelation.head).Nodup := by
  refine List.pairwise_map.2 (h.increasing.imp_of_mem fun {a b} ha hb hlt heq => hlt.ne ?_)
  have hschema : a.schema = b.schema := congrArg RelationHead.schema heq
  have hname : a.name = b.name := congrArg RelationHead.name heq
  rw [(h.names ha).1, (h.names hb).1, hschema, hname]

end CatalogBuilt

/-! ## Sets -/

/-- Where nothing is repeated, the published sets say everything. -/
theorem relationBag_eq_iff (h : CatalogBuilt rows catalog) (h' : CatalogBuilt rows' catalog') :
    catalog.relationBag = catalog'.relationBag ↔ catalog.published = catalog'.published := by
  have hset : ∀ relation : CatalogRelation, relation.published =
      (relation.head, {column | column ∈ relation.columnBag}) := fun _ => rfl
  have hbag : ∀ {rows rows' catalog catalog'}, CatalogBuilt rows catalog →
      CatalogBuilt rows' catalog' → catalog.published = catalog'.published →
      ∀ key ∈ catalog.relations.map fun relation => (relation.head, relation.columnBag),
        key ∈ catalog'.relations.map fun relation => (relation.head, relation.columnBag) := by
    intro rows rows' catalog catalog' h h' heq key hkey
    obtain ⟨relation, hmem, rfl⟩ := List.mem_map.1 hkey
    have hpublished : relation.published ∈ catalog.published := List.mem_map.2 ⟨relation, hmem, rfl⟩
    rw [heq] at hpublished
    obtain ⟨relation', hmem', hsame⟩ := List.mem_map.1 hpublished
    obtain ⟨hhead, hcolumns⟩ := Prod.mk.inj hsame
    refine List.mem_map.2 ⟨relation', hmem', Prod.ext hhead (Multiset.coe_eq_coe.2 ?_)⟩
    exact (List.perm_ext_iff_of_nodup (h'.columns_nodup hmem') (h.columns_nodup hmem)).2
      fun column => Set.ext_iff.1 hcolumns column
  have hnodup : ∀ {rows catalog}, CatalogBuilt rows catalog →
      (catalog.relations.map fun relation => (relation.head, relation.columnBag)).Nodup := by
    intro rows catalog h
    refine List.pairwise_map.2 ((List.pairwise_map.1 h.heads_nodup).imp fun hne heq => hne ?_)
    exact congrArg Prod.fst heq
  rw [CatalogSnapshot.relationBag, CatalogSnapshot.relationBag, Multiset.coe_eq_coe]
  constructor
  · intro hperm
    have hsets := hperm.map fun key => (key.1, {column | column ∈ key.2})
    rw [List.map_map, List.map_map] at hsets
    exact Set.ext fun key => hsets.mem_iff
  · intro heq
    exact (List.perm_ext_iff_of_nodup (hnodup h) (hnodup h')).2 fun key =>
      ⟨hbag h h' heq key, hbag h' h heq.symm key⟩

/-- The relations of two snapshots with one contract correspond to each other, in their order. -/
theorem relations_correspond (h : CatalogBuilt rows catalog) (h' : CatalogBuilt rows' catalog')
    (hbag : catalog.relationBag = catalog'.relationBag) :
    (catalog.relations.map fun relation => (relation.head, relation.columnBag)) =
      catalog'.relations.map fun relation => (relation.head, relation.columnBag) := by
  have hsorted : ∀ {rows catalog}, CatalogBuilt rows catalog →
      (catalog.relations.map fun relation => (relation.head, relation.columnBag)).Pairwise
        fun a b => a.1.schema ++ "." ++ a.1.name < b.1.schema ++ "." ++ b.1.name := by
    intro rows catalog h
    refine List.pairwise_map.2 (h.increasing.imp_of_mem fun {a b} ha hb hlt => ?_)
    rwa [(h.names ha).1, (h.names hb).1] at hlt
  exact (Multiset.coe_eq_coe.1 hbag).eq_of_pairwise (fun _ _ _ _ hlt hgt => absurd hgt hlt.asymm)
    (hsorted h) (hsorted h')

/-- Two functions that agree on corresponding members give the same list. -/
theorem map_eq_of_map_eq {α β γ : Type} {key : α → β} {f g : α → γ} :
    ∀ {xs ys : List α}, xs.map key = ys.map key →
      (∀ x ∈ xs, ∀ y ∈ ys, key x = key y → f x = g y) → xs.map f = ys.map g
  | [], [], _, _ => rfl
  | x :: xs, y :: ys, h, hsame => by
    obtain ⟨hkey, hkeys⟩ := List.cons.inj h
    rw [List.map_cons, List.map_cons, hsame x List.mem_cons_self y List.mem_cons_self hkey,
      map_eq_of_map_eq hkeys fun x hx y hy => hsame x (List.mem_cons_of_mem _ hx) y
        (List.mem_cons_of_mem _ hy)]

/-- Corresponding relations have the same columns, in some order. -/
theorem columns_perm (h : CatalogBuilt rows catalog) (h' : CatalogBuilt rows' catalog')
    (hmem : relation ∈ catalog.relations) (hmem' : relation' ∈ catalog'.relations)
    (hbag : relation.columnBag = relation'.columnBag) :
    relation.columns.Perm relation'.columns := by
  -- a column of a snapshot is determined by what is published of it
  have hcolumn :
      ∀ {rows catalog relation}, CatalogBuilt rows catalog → relation ∈ catalog.relations →
      (relation.columns.map CatalogColumn.published).map (fun column =>
        ⟨column.name, quoteIdentifier column.name, column.ordinal, column.dataType, column.nullable,
          column.comment⟩) = relation.columns := by
    intro rows catalog relation h hmem
    rw [List.map_map]
    refine (List.map_congr_left fun column hcolumn => ?_).trans (List.map_id _)
    rw [Function.comp_apply, CatalogColumn.published, ← h.sqlName hmem hcolumn]
    rfl
  rw [← hcolumn h hmem, ← hcolumn h' hmem']
  exact (Multiset.coe_eq_coe.1 hbag).map _

/-! ## What follows from one contract -/

/-- Corresponding relations give the same response. -/
theorem relationResponse_eq (h : CatalogBuilt rows catalog) (h' : CatalogBuilt rows' catalog')
    (hmem : relation ∈ catalog.relations) (hmem' : relation' ∈ catalog'.relations)
    (hkey : (relation.head, relation.columnBag) = (relation'.head, relation'.columnBag))
    (max : Nat) :
    toRelationResponse max relation = toRelationResponse max relation' := by
  obtain ⟨hhead, hbag⟩ := Prod.mk.inj hkey
  have hcolumns : orderedColumns relation = orderedColumns relation' := by
    refine mergeSort_eq_of_perm (fun a b c hab hbc => ?_) (fun a b => ?_)
      (fun a ha b hb hab hba => ?_) (columns_perm h h' hmem hmem' hbag)
    · simp only [decide_eq_true_eq] at hab hbc ⊢
      rcases hab with hab | ⟨hab, hname⟩ <;> rcases hbc with hbc | ⟨hbc, hname'⟩
      · exact .inl (hab.trans hbc)
      · exact .inl (hbc ▸ hab)
      · exact .inl (hab ▸ hbc)
      · exact .inr ⟨hab.trans hbc, hname.trans hname'⟩
    · simp only [Bool.or_eq_true, decide_eq_true_eq]
      rcases lt_trichotomy a.ordinal b.ordinal with hlt | heq | hgt
      · exact .inl (.inl hlt)
      · exact (le_total a.name b.name).imp (fun hle => .inr ⟨heq, hle⟩) fun hle =>
          .inr ⟨heq.symm, hle⟩
      · exact .inr (.inl hgt)
    · simp only [decide_eq_true_eq] at hab hba
      have hordinal : a.ordinal = b.ordinal := by omega
      exact List.inj_on_of_nodup_map (List.pairwise_map.2 (h.ordinals hmem)) ha hb hordinal
  simp only [CatalogRelation.head, RelationHead.mk.injEq] at hhead
  obtain ⟨hschema, hname, hkind, hcomment, -⟩ := hhead
  rw [toRelationResponse, toRelationResponse, hcolumns, (h.names hmem).1, (h.names hmem).2,
    (h'.names hmem').1, (h'.names hmem').2, hschema, hname, hkind, hcomment]

/-- **One contract gives one response.** -/
theorem contextResponse_eq (h : CatalogBuilt rows catalog) (h' : CatalogBuilt rows' catalog')
    (hsource : source.SameContract source') (hbag : catalog.relationBag = catalog'.relationBag)
    (sha256 : String → String) (revision : String) (stale : Bool) :
    contextResponse sha256 source ⟨catalog, revision⟩ stale =
      contextResponse sha256 source' ⟨catalog', revision⟩ stale := by
  have hsorted : ∀ {rows catalog}, CatalogBuilt rows catalog →
      (catalog.relations.mergeSort fun a b => a.qualifiedName ≤ b.qualifiedName) =
        catalog.relations := by
    intro rows catalog h
    exact List.mergeSort_of_pairwise (h.increasing.imp fun hlt => decide_eq_true hlt.le)
  have hresponses : ∀ max, catalog.relations.map (toRelationResponse max) =
      catalog'.relations.map (toRelationResponse max) := by
    intro max
    exact map_eq_of_map_eq
      (relations_correspond h h' hbag) fun relation hmem relation' hmem' hkey =>
      relationResponse_eq h h' hmem hmem' hkey max
  have hprojection : projection sha256 source ⟨catalog, revision⟩ stale =
      projection sha256 source' ⟨catalog', revision⟩ stale := by
    rw [projection, projection, hsorted h, hsorted h', hsource.budget, hresponses, hsource.sourceId,
      hsource.name, hsource.description]
  rw [contextResponse, contextResponse, hprojection, hsource.budget]

/-- **One contract and the order of the catalog query give one signature.** -/
theorem structureText_eq (h : CatalogBuilt rows catalog) (h' : CatalogBuilt rows' catalog')
    (horder : InOrder rows) (horder' : InOrder rows')
    (hbag : catalog.relationBag = catalog'.relationBag) :
    structureText catalog = structureText catalog' := by
  have hrelations : catalog.relations.map structureRelation =
      catalog'.relations.map structureRelation := by
    refine map_eq_of_map_eq
      (relations_correspond h h' hbag) fun relation hmem relation' hmem' hkey => ?_
    obtain ⟨hhead, hcolumns⟩ := Prod.mk.inj hkey
    have hsame : relation.columns = relation'.columns :=
      (columns_perm h h' hmem hmem' hcolumns).eq_of_pairwise
        (fun _ _ _ _ hlt hgt => absurd hgt hlt.asymm)
        (h.columns_pairwise horder hmem) (h'.columns_pairwise horder' hmem')
    simp only [CatalogRelation.head, RelationHead.mk.injEq] at hhead
    obtain ⟨hschema, hname, hkind, -, hhash, hinvoker, hbarrier⟩ := hhead
    rw [structureRelation, structureRelation, hschema, hname, hkind, hhash, hinvoker,
      hbarrier, hsame]
  rw [structureText, structureText, structureValue, structureValue, hrelations]

/-- **The order of the rows is no part of the contract.** -/
theorem published_of_perm (h : CatalogBuilt rows catalog) (h' : CatalogBuilt rows' catalog')
    (hfields : SameFields rows) (hperm : rows.Perm rows') :
    catalog.published = catalog'.published := by
  have hfields' : SameFields rows' := fun row hrow row' hrow' =>
    hfields row (hperm.mem_iff.2 hrow) row' (hperm.mem_iff.2 hrow')
  have hsub : ∀ {rows rows' catalog catalog'}, CatalogBuilt rows catalog →
      CatalogBuilt rows' catalog' → SameFields rows → rows.Perm rows' →
      catalog.published ⊆ catalog'.published := by
    intro rows rows' catalog catalog' h h' hfields hperm key hkey
    obtain ⟨relation, hmem, rfl⟩ := List.mem_map.1 hkey
    obtain ⟨first, contract, hfirst, -, hcomment, hrelation⟩ := h.grouped.each relation hmem
    have hrow : first ∈ rows := (List.mem_filter.1 (List.mem_of_head? hfirst)).1
    obtain ⟨relation', hmem', hname⟩ :=
      List.mem_map.1 (h'.grouped.covers first (hperm.mem_iff.1 hrow))
    obtain ⟨first', contract', hfirst', -, hcomment', hrelation'⟩ := h'.grouped.each relation' hmem'
    have hrow' : first' ∈ rows :=
      hperm.mem_iff.2 (List.mem_filter.1 (List.mem_of_head? hfirst')).1
    have hqualified : relation.qualifiedName = first.qualifiedName := congrArg _ hrelation
    have hqualified' : relation'.qualifiedName = first'.qualifiedName := congrArg _ hrelation'
    have hsame : relation.qualifiedName = relation'.qualifiedName := hqualified.trans hname.symm
    obtain ⟨hschema, hrelationName⟩ :=
      (CatalogRow.qualifiedName_inj (h.isCatalog.dotFree first hrow)
      (h.isCatalog.dotFree first' hrow')).1 (hname.symm.trans hqualified')
    have hrelationFields := hfields first hrow first' hrow' hschema hrelationName
    simp only [CatalogRow.relationFields, Prod.mk.injEq] at hrelationFields
    obtain ⟨-, hcomments, hhash, hinvoker, hbarrier⟩ := hrelationFields
    rw [hcomments, hcomment'] at hcomment
    cases hcomment
    refine List.mem_map.2 ⟨relation', hmem', Prod.ext ?_ (Set.ext fun column => ?_)⟩
    · change relation'.head = relation.head
      rw [hrelation, hrelation']
      simp only [CatalogRelation.head, CatalogRow.relation, hschema, hrelationName, hhash, hinvoker,
        hbarrier]
    · change column ∈ relation'.columns.map CatalogColumn.published ↔
        column ∈ relation.columns.map CatalogColumn.published
      rw [h.columns hmem, h'.columns hmem', ← hsame]
      exact (((hperm.symm.filter _).map _).map _).mem_iff
  exact Set.Subset.antisymm (hsub h h' hfields hperm) (hsub h' h hfields' hperm.symm)

/-! ## Revisions -/

/-- **The revision identifies the published contract**, for two snapshots of catalog rows and a hash
that has no collision on their two texts: it is the same exactly if the sources agree and the
snapshots publish the same relations with the same columns. So the order of the rows does not
matter, and one revision means one response; it means one signature, which keeps the order of the
columns, if the rows of each relation come in the order of the catalog query. -/
theorem revision_identifies_contract {sha256 : String → String} (h : CatalogBuilt rows catalog)
    (h' : CatalogBuilt rows' catalog')
    (hsha : Set.InjOn sha256 {revisionText source catalog, revisionText source' catalog'}) :
    (createMetadataRevision sha256 source catalog = createMetadataRevision sha256 source' catalog' ↔
      source.SameContract source' ∧ catalog.published = catalog'.published) ∧
    (SameFields rows → rows.Perm rows' → source.SameContract source' →
      createMetadataRevision sha256 source catalog =
        createMetadataRevision sha256 source' catalog') ∧
    (createMetadataRevision sha256 source catalog = createMetadataRevision sha256 source' catalog' →
      (InOrder rows → InOrder rows' →
        createViewStructureSignature sha256 catalog =
          createViewStructureSignature sha256 catalog') ∧
      ∀ stale, contextResponse sha256 source
          ⟨catalog, createMetadataRevision sha256 source catalog⟩ stale =
        contextResponse sha256 source'
          ⟨catalog', createMetadataRevision sha256 source' catalog'⟩ stale) := by
  have htext : createMetadataRevision sha256 source catalog =
      createMetadataRevision sha256 source' catalog' ↔
        source.SameContract source' ∧ catalog.relationBag = catalog'.relationBag := by
    rw [← revisionText_eq_iff]
    constructor
    · intro heq
      exact hsha (.inl rfl) (.inr rfl) ((String.append_right_inj _).1 heq)
    · intro heq
      exact congrArg (digest sha256) heq
  have hiff := htext
  rw [relationBag_eq_iff h h'] at hiff
  refine ⟨hiff, fun hfields hperm hsource => hiff.2 ⟨hsource, published_of_perm h h' hfields hperm⟩,
    fun heq => ?_⟩
  obtain ⟨hsource, hbag⟩ := htext.1 heq
  refine ⟨fun horder horder' => ?_, fun stale => ?_⟩
  · exact congrArg (digest sha256) (structureText_eq h h' horder horder' hbag)
  · rw [heq]
    exact contextResponse_eq h h' hsource hbag sha256 _ stale

/-! ## A view with two columns -/

namespace TwoColumns

/-- The catalog row of a column of the view `"public"."orders"`. -/
def row (ordinal : Int) (columnName : String) : CatalogRow where
  schemaName := "public"
  relationName := "orders"
  relationKind := "v"
  relationComment := some "query-man:source=demo;view-contract=1\nOrders."
  viewDefinitionHash := some "9e107d9d372bb6826bd81d3542a419d6"
  securityInvoker := false
  securityBarrier := true
  ordinal := ordinal
  columnName := columnName
  dataType := "bigint"
  typeKind := some "b"
  columnComment := none

/-- The snapshot of some columns of the view. -/
def snapshot (columns : List (Int × String)) : CatalogSnapshot where
  relations := [(row 1 "id").relation (some "demo", some 1, some "Orders.")
    (columns.map fun column => (row column.1 column.2).column)]

/-- The rows in the order of the catalog query. -/
def inOrder : List (Int × String) := [(1, "id"), (2, "total")]

/-- The rows in the other order. -/
def reversed : List (Int × String) := [(2, "total"), (1, "id")]

theorem built {columns : List (Int × String)}
    (hcatalog : IsCatalog (columns.map fun column => row column.1 column.2))
    (hfold : (columns.map fun column => row column.1 column.2).foldlM addRow [] =
      .ok (snapshot columns).relations) :
    CatalogBuilt (columns.map fun column => row column.1 column.2) (snapshot columns) where
  isCatalog := hcatalog
  built := by
    rw [rowsToRelations, hfold]
    exact congrArg Except.ok (List.mergeSort_singleton _)

theorem built_inOrder :
    CatalogBuilt (inOrder.map fun column => row column.1 column.2) (snapshot inOrder) :=
  built ⟨by decide, by decide⟩ (by decide)

theorem built_reversed :
    CatalogBuilt (reversed.map fun column => row column.1 column.2) (snapshot reversed) :=
  built ⟨by decide, by decide⟩ (by decide)

/-- The texts of the revisions, and that of a signature. -/
def texts : List String :=
  [revisionText DottedView.source (snapshot inOrder),
    revisionText DottedView.source (snapshot reversed), structureText (snapshot inOrder)]

/-- A hash that tells these texts from all others. -/
def sha256 : String → String :=
  tableDigest texts

theorem sameFields_inOrder : SameFields (inOrder.map fun column => row column.1 column.2) := by
  unfold SameFields
  decide

theorem sameContract : DottedView.source.SameContract DottedView.source :=
  ⟨rfl, rfl, rfl, rfl, .refl _, .refl _, rfl⟩

end TwoColumns

open TwoColumns in
/-- Two orders of the rows have one revision, and so one published contract and one response. -/
theorem revision_identifies_contract_reversed :
    createMetadataRevision sha256 DottedView.source (snapshot inOrder) =
        createMetadataRevision sha256 DottedView.source (snapshot reversed) ∧
      (snapshot inOrder).published = (snapshot reversed).published ∧
      ∀ stale, contextResponse sha256 DottedView.source
          ⟨snapshot inOrder, createMetadataRevision sha256 DottedView.source (snapshot inOrder)⟩
            stale =
        contextResponse sha256 DottedView.source
          ⟨snapshot reversed, createMetadataRevision sha256 DottedView.source (snapshot reversed)⟩
            stale := by
  have hsubset : {revisionText DottedView.source (snapshot inOrder),
      revisionText DottedView.source (snapshot reversed)} ⊆ {text | text ∈ texts} := by
    rintro text (rfl | rfl)
    · exact List.mem_cons_self
    · exact List.mem_cons_of_mem _ List.mem_cons_self
  obtain ⟨hiff, hrows, hdetermined⟩ := revision_identifies_contract built_inOrder built_reversed
    ((tableDigest_injOn (by decide)).mono hsubset)
  have hrevision := hrows sameFields_inOrder (List.Perm.swap ..) sameContract
  exact ⟨hrevision, (hiff.1 hrevision).2, (hdetermined hrevision).2⟩

open TwoColumns in
/-- Rows in another order give the same revision and another signature: the signature counts the
positions of the columns. -/
theorem signature_of_reversed_rows :
    CatalogBuilt (inOrder.map fun column => row column.1 column.2) (snapshot inOrder) ∧
      CatalogBuilt (reversed.map fun column => row column.1 column.2) (snapshot reversed) ∧
      createMetadataRevision sha256 DottedView.source (snapshot inOrder) =
        createMetadataRevision sha256 DottedView.source (snapshot reversed) ∧
      createViewStructureSignature sha256 (snapshot inOrder) ≠
        createViewStructureSignature sha256 (snapshot reversed) := by
  refine ⟨built_inOrder, built_reversed, ?_, ?_⟩
  · refine congrArg (digest sha256) (revisionText_eq_iff.2 ⟨sameContract, ?_⟩)
    have hbag : (CatalogRelation.columnBag
        ((row 1 "id").relation (some "demo", some 1, some "Orders.")
          (inOrder.map fun column => (row column.1 column.2).column))) =
        CatalogRelation.columnBag ((row 1 "id").relation (some "demo", some 1, some "Orders.")
          (reversed.map fun column => (row column.1 column.2).column)) :=
      Multiset.coe_eq_coe.2 (List.Perm.swap _ _ _)
    rw [CatalogSnapshot.relationBag, CatalogSnapshot.relationBag]
    simp only [snapshot, List.map_cons, List.map_nil, hbag]
    rfl
  · intro heq
    have hmem : structureText (snapshot inOrder) ∈ texts :=
      List.mem_cons_of_mem _ (List.mem_cons_of_mem _ List.mem_cons_self)
    have htext : structureText (snapshot reversed) = structureText (snapshot inOrder) :=
      tableDigest_inj (by decide) hmem ((String.append_right_inj _).1 heq.symm)
    have hstructure := sameStructure_of_text_eq htext
    rw [CatalogSnapshot.SameStructure] at hstructure
    revert hstructure
    decide

end QueryMan
