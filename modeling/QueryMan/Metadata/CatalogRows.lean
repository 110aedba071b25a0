import QueryMan.Metadata.Catalog

/-!
# The rows of a relation

What `_rows_to_relations` makes of its rows, whatever their order: the relations have different
names, and each has the columns of all the rows of its name, in their order, and is otherwise read
from the first of them (`Grouped`).
-/

namespace QueryMan

open Python

/-- What the comment of a view gives. -/
abbrev ViewContract : Type :=
  Option String × Option Nat × Option String

/-- The relation that a row describes, with these columns. -/
def CatalogRow.relation (row : CatalogRow) (contract : ViewContract)
    (columns : List CatalogColumn) :
    CatalogRelation where
  schema := row.schemaName
  name := row.relationName
  qualifiedName := row.qualifiedName
  sqlName := quoteIdentifier row.schemaName ++ "." ++ quoteIdentifier row.relationName
  kind := "view"
  columns := columns
  comment := contract.2.2
  definitionHash := row.viewDefinitionHash
  viewContractSource := contract.1
  viewContractVersion := contract.2.1
  securityInvoker := row.securityInvoker
  securityBarrier := row.securityBarrier

/-- What the rows of one relation have in common. -/
def CatalogRow.relationFields (row : CatalogRow) :
    String × Option String × Option String × Bool × Bool :=
  (row.relationKind, row.relationComment, row.viewDefinitionHash, row.securityInvoker,
    row.securityBarrier)

/-- The fields of a relation are the same in all its rows. -/
def SameFields (rows : List CatalogRow) : Prop :=
  ∀ row ∈ rows, ∀ row' ∈ rows, row.schemaName = row'.schemaName →
    row.relationName = row'.relationName → row.relationFields = row'.relationFields

/-- The rows of a name, in their order. -/
def rowsOf (rows : List CatalogRow) (name : String) : List CatalogRow :=
  rows.filter fun row => row.qualifiedName = name

/-- The relation has the columns of its rows, and the rest from the first of them, which is that of
a view with a valid comment. -/
def OfRows (rows : List CatalogRow) (relation : CatalogRelation) : Prop :=
  ∃ first contract, (rowsOf rows relation.qualifiedName).head? = some first ∧
    first.relationKind = "v" ∧ parseViewComment first.relationComment = .ok contract ∧
    relation = first.relation contract ((rowsOf rows relation.qualifiedName).map CatalogRow.column)

/-- The relations are those of the rows. -/
structure Grouped (rows : List CatalogRow) (relations : List CatalogRelation) : Prop where
  nodup : (relations.map (·.qualifiedName)).Nodup
  covers : ∀ row ∈ rows, row.qualifiedName ∈ relations.map (·.qualifiedName)
  each : ∀ relation ∈ relations, OfRows rows relation

variable {rows : List CatalogRow} {relations relations' : List CatalogRelation} {row : CatalogRow}
  {relation : CatalogRelation}

theorem rowsOf_concat {name : String} : rowsOf (rows ++ [row]) name =
    rowsOf rows name ++ if row.qualifiedName = name then [row] else [] := by
  rw [rowsOf, rowsOf, List.filter_append]
  congr 1
  split
  · next h => exact List.filter_cons_of_pos (decide_eq_true h)
  · next h => exact List.filter_cons_of_neg fun hpos => h (of_decide_eq_true hpos)

/-- A row of another name says nothing about the relation. -/
theorem OfRows.other (h : OfRows rows relation)
    (hname : relation.qualifiedName ≠ row.qualifiedName) :
    OfRows (rows ++ [row]) relation := by
  unfold OfRows
  rw [rowsOf_concat, if_neg fun heq => hname heq.symm, List.append_nil]
  exact h

/-- A row of its name adds its column. -/
theorem OfRows.append (h : OfRows rows relation)
    (hname : relation.qualifiedName = row.qualifiedName) :
    OfRows (rows ++ [row]) { relation with columns := relation.columns ++ [row.column] } := by
  obtain ⟨first, contract, hfirst, hkind, hcomment, hrelation⟩ := h
  refine ⟨first, contract, ?_, hkind, hcomment, ?_⟩
  · rw [rowsOf_concat, List.head?_append, hfirst]
    rfl
  · rw [rowsOf_concat, if_pos hname.symm, List.map_append]
    conv_lhs => rw [hrelation]
    rfl

theorem appendColumn_names : (appendColumn relations row).map (·.qualifiedName) =
    relations.map (·.qualifiedName) := by
  rw [appendColumn, List.map_map]
  refine List.map_congr_left fun relation _ => ?_
  rw [Function.comp_apply]
  split <;> rfl

/-- Appending a column to the relation of its name keeps the relations those of the rows. -/
theorem appendColumn_ofRows (h : ∀ relation ∈ relations, OfRows rows relation) :
    ∀ relation ∈ appendColumn relations row, OfRows (rows ++ [row]) relation := by
  intro relation hmem
  obtain ⟨before, hbefore, rfl⟩ := List.mem_map.1 hmem
  split
  · next hname => exact (h before hbefore).append hname
  · next hname => exact (h before hbefore).other hname

/-- One row. -/
theorem Grouped.addRow (h : Grouped rows relations) (hadd : addRow relations row = .ok relations') :
    Grouped (rows ++ [row]) relations' := by
  have hcovers : ∀ row' ∈ rows, row'.qualifiedName ∈ relations.map (·.qualifiedName) := h.covers
  unfold QueryMan.addRow at hadd
  split at hadd
  · next hany =>
    cases hadd
    obtain ⟨known, hknown, hname⟩ := List.any_eq_true.1 hany
    refine ⟨?_, fun row' hrow' => ?_, appendColumn_ofRows h.each⟩
    · rw [appendColumn_names]
      exact h.nodup
    rw [appendColumn_names]
    rcases List.mem_append.1 hrow' with hrow' | hrow'
    · exact hcovers row' hrow'
    · rw [List.mem_singleton.1 hrow']
      exact List.mem_map.2 ⟨known, hknown, eq_of_beq hname⟩
  · next hany =>
    obtain ⟨_, hkind, hadd⟩ := bind_eq_ok.1 hadd
    obtain ⟨⟨contractSource, contractVersion, comment⟩, hcomment, hadd⟩ := bind_eq_ok.1 hadd
    cases hadd
    have hnew : row.qualifiedName ∉ relations.map (·.qualifiedName) := by
      intro hmem
      obtain ⟨known, hknown, hname⟩ := List.mem_map.1 hmem
      exact hany (List.any_eq_true.2 ⟨known, hknown, beq_iff_eq.2 hname⟩)
    have hnone : rowsOf rows row.qualifiedName = [] := by
      rw [rowsOf, List.filter_eq_nil_iff]
      intro row' hrow' hname
      exact hnew (of_decide_eq_true hname ▸ hcovers row' hrow')
    refine ⟨?_, fun row' hrow' => ?_, fun relation hmem => ?_⟩
    · rw [appendColumn_names, List.map_append, List.nodup_append]
      refine ⟨h.nodup, List.nodup_singleton _, fun name hname name' hname' heq => hnew ?_⟩
      have hrow : name' = row.qualifiedName := List.mem_singleton.1 hname'
      rw [← hrow, ← heq]
      exact hname
    · rw [appendColumn_names, List.map_append]
      rcases List.mem_append.1 hrow' with hrow' | hrow'
      · exact List.mem_append_left _ (hcovers row' hrow')
      · rw [List.mem_singleton.1 hrow']
        exact List.mem_append_right _ List.mem_cons_self
    · rw [appendColumn, List.map_append] at hmem
      rcases List.mem_append.1 hmem with hmem | hmem
      · exact appendColumn_ofRows h.each relation hmem
      · -- the new relation has the one column of its first row
        rw [List.map_singleton, if_pos rfl, List.mem_singleton] at hmem
        subst hmem
        refine ⟨row, (contractSource, contractVersion, comment), ?_,
          not_not.1 (raiseIf_eq_ok.1 hkind),
          hcomment, ?_⟩
        · rw [rowsOf_concat, hnone, if_pos rfl]
          rfl
        · rw [rowsOf_concat, hnone, if_pos rfl]
          rfl

/-- All rows. -/
theorem foldlM_addRow_grouped : ∀ {rest rows : List CatalogRow} {relations relations'},
    Grouped rows relations → rest.foldlM addRow relations = .ok relations' →
      Grouped (rows ++ rest) relations'
  | [], rows, relations, relations', h, hfold => by
    cases hfold
    rwa [List.append_nil]
  | row :: rest, rows, relations, relations', h, hfold => by
    rw [List.foldlM_cons] at hfold
    obtain ⟨relations₁, hadd, hfold⟩ := bind_eq_ok.1 hfold
    have hrest := foldlM_addRow_grouped (h.addRow hadd) hfold
    rwa [List.append_assoc, List.singleton_append] at hrest

theorem Grouped.perm (h : Grouped rows relations) (hperm : relations.Perm relations') :
    Grouped rows relations' where
  nodup := (hperm.map _).nodup_iff.1 h.nodup
  covers := fun row hrow => (hperm.map _).mem_iff.1 (h.covers row hrow)
  each := fun relation hmem => h.each relation (hperm.mem_iff.2 hmem)

/-- **`_rows_to_relations` groups the rows by their names**, in the order of the names. -/
theorem rowsToRelations_grouped (h : rowsToRelations rows = .ok relations) :
    Grouped rows relations ∧
      relations.Pairwise fun a b => a.qualifiedName < b.qualifiedName := by
  obtain ⟨relations₀, hfold, hsort⟩ := bind_eq_ok.1 h
  cases hsort
  have hempty : Grouped [] [] := ⟨List.nodup_nil, nofun, nofun⟩
  have hgrouped₀ : Grouped ([] ++ rows) relations₀ := foldlM_addRow_grouped hempty hfold
  have hgrouped := hgrouped₀.perm (List.mergeSort_perm relations₀ fun a b =>
    decide (a.qualifiedName ≤ b.qualifiedName)).symm
  refine ⟨hgrouped, ?_⟩
  have hsorted :
      (relations₀.mergeSort fun a b => decide (a.qualifiedName ≤ b.qualifiedName)).Pairwise
      fun a b => decide (a.qualifiedName ≤ b.qualifiedName) = true := List.pairwise_mergeSort
    (fun a b c hab hbc => decide_eq_true ((of_decide_eq_true hab).trans (of_decide_eq_true hbc)))
    (fun a b => by simpa using le_total a.qualifiedName b.qualifiedName) relations₀
  have hdistinct := List.pairwise_map.1 hgrouped.nodup
  exact hsorted.imp₂ (fun a b hle hne => lt_of_le_of_ne (of_decide_eq_true hle) hne) hdistinct

/-! ## Dotted names -/

/-- A dotted name has one reading whose first part has no dot. -/
theorem dotted_inj {s₁ s₂ r₁ r₂ : List Char} (h₁ : '.' ∉ s₁) (h₂ : '.' ∉ s₂)
    (h : s₁ ++ '.' :: r₁ = s₂ ++ '.' :: r₂) : s₁ = s₂ ∧ r₁ = r₂ := by
  induction s₁ generalizing s₂ with
  | nil =>
    cases s₂ with
    | nil => exact ⟨rfl, (List.cons.inj h).2⟩
    | cons c s₂ =>
      obtain ⟨rfl, -⟩ := List.cons.inj h
      exact absurd List.mem_cons_self h₂
  | cons c s₁ ih =>
    cases s₂ with
    | nil =>
      obtain ⟨rfl, -⟩ := List.cons.inj h
      exact absurd List.mem_cons_self h₁
    | cons d s₂ =>
      obtain ⟨rfl, htail⟩ := List.cons.inj h
      obtain ⟨rfl, rfl⟩ := ih (fun hm => h₁ (List.mem_cons_of_mem _ hm))
        (fun hm => h₂ (List.mem_cons_of_mem _ hm)) htail
      exact ⟨rfl, rfl⟩

theorem dotted_toList (schema relation : String) :
    (schema ++ "." ++ relation).toList = schema.toList ++ '.' :: relation.toList := by
  simp

/-- Rows whose schemas have no dot have the same dotted name exactly if they are of one relation. -/
theorem CatalogRow.qualifiedName_inj {row row' : CatalogRow} (hdot : '.' ∉ row.schemaName.toList)
    (hdot' : '.' ∉ row'.schemaName.toList) : row.qualifiedName = row'.qualifiedName ↔
      row.schemaName = row'.schemaName ∧ row.relationName = row'.relationName := by
  constructor
  · intro h
    have hlists := congrArg String.toList h
    rw [qualifiedName, qualifiedName, dotted_toList, dotted_toList] at hlists
    obtain ⟨hschema, hname⟩ := dotted_inj hdot hdot' hlists
    exact ⟨String.toList_inj.1 hschema, String.toList_inj.1 hname⟩
  · rintro ⟨hschema, hname⟩
    rw [qualifiedName, qualifiedName, hschema, hname]

end QueryMan
