import QueryMan.GuardedQuery.Relations
import QueryMan.Metadata.CatalogRows
import QueryMan.Metadata.Load

/-!
# Complete snapshots

`load` asks for one row more than the budget allows. If the database answers with the first rows of
the eligible ones, up to that number, then a snapshot is built of all of them: it partitions them by
their relations, and a truncated answer is always noticed.
-/

namespace QueryMan.PostgresCatalog

open Coro Python

/-! ## Eligible rows -/

/-- The rows that `CATALOG_QUERY` would yield without its `LIMIT`, in their order. -/
structure EligibleRows where
  rows : List CatalogRow
  /-- the schemas are identifiers of the manifest -/
  dotFree : ∀ row ∈ rows, '.' ∉ row.schemaName.toList
  sameFields : SameFields rows

/-- The database answers the catalog query with the first eligible rows; the state is the limit of
the query that was sent. -/
def databaseWorld (eligible : EligibleRows) : World (Option Nat) Ret ServiceExc where
  allowed := fun limit o r => world.allowed () o r ∧
    match o, r with
    | .fetchRows, .ok (rows : List CatalogRow) => ∃ n ∈ limit, rows = eligible.rows.take n
    | _, _ => True
  next := fun limit o _ =>
    match o with
    | .send (.catalogQuery _ _ n) => some n
    | _ => limit

/-! ## What a snapshot says of the rows -/

/-- The row is of the relation. -/
def IsRowOf (relation : CatalogRelation) (row : CatalogRow) : Prop :=
  row.schemaName = relation.schema ∧ row.relationName = relation.name

instance (relation : CatalogRelation) : DecidablePred (IsRowOf relation) :=
  fun _ => inferInstanceAs (Decidable (_ ∧ _))

/-- The snapshot is that of all eligible rows. -/
structure Complete (source : SourceProfile) (eligible : EligibleRows) (snapshot : CatalogSnapshot) :
    Prop where
  increasing : snapshot.relations.Pairwise fun a b => a.qualifiedName < b.qualifiedName
  /-- every row is of one relation -/
  partition :
    (snapshot.relations.flatMap fun relation => eligible.rows.filter (IsRowOf relation)).Perm
    eligible.rows
  /-- and becomes one column of it, in the order of the rows -/
  columns : ∀ relation ∈ snapshot.relations,
    relation.columns = (eligible.rows.filter (IsRowOf relation)).map CatalogRow.column
  /-- the rest of a relation is read from any of its rows -/
  described : ∀ relation ∈ snapshot.relations, (∃ row ∈ eligible.rows, IsRowOf relation row) ∧
    ∀ row ∈ eligible.rows, IsRowOf relation row → ∃ contract,
      parseViewComment row.relationComment = .ok contract ∧
        relation = row.relation contract relation.columns
  views : ∀ row ∈ eligible.rows, row.relationKind = "v" ∧ row.typeKind ≠ some "d"
  /-- the limits of the budget -/
  columnLimit : eligible.rows.length ≤ source.budget.maxMetadataColumns
  relationLimit : snapshot.relations.length ≤ source.budget.maxMetadataRelations
  perRelationLimit : ∀ relation ∈ snapshot.relations,
    relation.columns.length ≤ source.budget.maxColumnsPerRelation

/-! ## The partition -/

/-- The members of a list, by a key that takes one of these values. -/
theorem flatMap_filter_perm {α κ : Type} [DecidableEq κ] {f : α → κ} {keys : List κ} {l : List α}
    (hnodup : keys.Nodup) (hcovers : ∀ a ∈ l, f a ∈ keys) :
    (keys.flatMap fun key => l.filter fun a => f a = key).Perm l := by
  induction keys generalizing l with
  | nil =>
    cases l with
    | nil => exact .nil
    | cons a l => exact absurd (hcovers a List.mem_cons_self) List.not_mem_nil
  | cons key keys ih =>
    obtain ⟨hkey, hkeys⟩ := List.nodup_cons.1 hnodup
    have hrest : ∀ a ∈ l.filter fun a => !decide (f a = key), f a ∈ keys := by
      intro a ha
      obtain ⟨hmem, hne⟩ := List.mem_filter.1 ha
      refine (List.mem_cons.1 (hcovers a hmem)).resolve_left fun heq => ?_
      rw [decide_eq_true heq] at hne
      cases hne
    have hsame : (keys.flatMap fun key' => l.filter fun a => f a = key') =
        keys.flatMap fun key' =>
          (l.filter fun a => !decide (f a = key)).filter fun a => f a = key' := by
      refine List.flatMap_congr fun key' hkey' => ?_
      rw [List.filter_filter]
      refine List.filter_congr fun a _ => ?_
      by_cases heq : f a = key'
      · have hne : f a ≠ key := fun h => hkey (h ▸ heq ▸ hkey')
        simp [heq, heq ▸ hne]
      · simp [heq]
    rw [List.flatMap_cons, hsame]
    exact ((ih hkeys hrest).append_left _).trans (List.filter_append_perm _ l)

section

variable {source : SourceProfile} {eligible : EligibleRows} {snapshot : CatalogSnapshot}
  {relations : List CatalogRelation}

/-- The relation of a row has its schema and its name. -/
theorem isRowOf_iff (h : Grouped eligible.rows relations) {relation : CatalogRelation}
    (hmem : relation ∈ relations) {row : CatalogRow} (hrow : row ∈ eligible.rows) :
    IsRowOf relation row ↔ row.qualifiedName = relation.qualifiedName := by
  obtain ⟨first, contract, hfirst, -, -, hrelation⟩ := h.each relation hmem
  have hfirst' : first ∈ eligible.rows :=
    (List.mem_filter.1 (List.mem_of_head? hfirst)).1
  have hnames : relation.schema = first.schemaName ∧ relation.name = first.relationName ∧
      relation.qualifiedName = first.qualifiedName := by
    rw [hrelation]
    exact ⟨rfl, rfl, rfl⟩
  rw [IsRowOf, hnames.1, hnames.2.1, hnames.2.2]
  exact (CatalogRow.qualifiedName_inj (eligible.dotFree row hrow)
    (eligible.dotFree first hfirst')).symm

/-- The rows of a relation are those of its name. -/
theorem filter_isRowOf (h : Grouped eligible.rows relations) {relation : CatalogRelation}
    (hmem : relation ∈ relations) :
    eligible.rows.filter (IsRowOf relation) = rowsOf eligible.rows relation.qualifiedName := by
  refine List.filter_congr fun row hrow => ?_
  rw [decide_eq_decide]
  exact isRowOf_iff h hmem hrow

theorem rejectIf_eq_ok {c : Prop} [Decidable c] {message : String} {u : Unit}
    (h : rejectIf c message = .ok u) : ¬ c :=
  raiseIf_eq_ok.1 h

/-- The checks of a load, of all eligible rows. -/
theorem complete_of_checks (hlimit : eligible.rows.length ≤ source.budget.maxMetadataColumns)
    (hdomain : ∀ row ∈ eligible.rows, row.typeKind ≠ some "d")
    (h : toSnapshot source eligible.rows = .ok snapshot) : Complete source eligible snapshot := by
  obtain ⟨relations, hrelations, h⟩ := bind_eq_ok.1 h
  obtain ⟨_, hcount, h⟩ := bind_eq_ok.1 h
  obtain ⟨_, hcolumns, h⟩ := bind_eq_ok.1 h
  cases h
  obtain ⟨hgrouped, hincreasing⟩ := rowsToRelations_grouped (mapError_eq_ok.1 hrelations)
  have hdescribed : ∀ relation ∈ relations, (∃ row ∈ eligible.rows, IsRowOf relation row) ∧
      ∀ row ∈ eligible.rows, IsRowOf relation row → row.relationKind = "v" ∧ ∃ contract,
        parseViewComment row.relationComment = .ok contract ∧
          relation = row.relation contract relation.columns := by
    intro relation hmem
    obtain ⟨first, contract, hfirst, hkind, hcomment, hrelation⟩ := hgrouped.each relation hmem
    obtain ⟨hfirst', hname⟩ := List.mem_filter.1 (List.mem_of_head? hfirst)
    have hof :
        IsRowOf relation first := (isRowOf_iff hgrouped hmem hfirst').2 (of_decide_eq_true hname)
    refine ⟨⟨first, hfirst', hof⟩, fun row hrow hrowOf => ?_⟩
    have hschema := hof.1.trans hrowOf.1.symm
    have hrelationName := hof.2.trans hrowOf.2.symm
    have hfields := eligible.sameFields first hfirst' row hrow hschema hrelationName
    simp only [CatalogRow.relationFields, Prod.mk.injEq] at hfields
    obtain ⟨hkind', hcomment', hhash, hinvoker, hbarrier⟩ := hfields
    refine ⟨hkind' ▸ hkind, contract, hcomment' ▸ hcomment, ?_⟩
    conv_lhs => rw [hrelation]
    conv_rhs => rw [hrelation]
    simp only [CatalogRow.relation, CatalogRow.qualifiedName, hschema, hrelationName,
      hhash, hinvoker,
      hbarrier]
  refine ⟨hincreasing, ?_, fun relation hmem => ?_, fun relation hmem => ?_,
    fun row hrow => ?_, hlimit,
    not_lt.1 (rejectIf_eq_ok hcount), fun relation hmem => ?_⟩
  · have hnames : (relations.flatMap fun relation => eligible.rows.filter (IsRowOf relation)) =
        (relations.map (·.qualifiedName)).flatMap fun name =>
          eligible.rows.filter fun row => row.qualifiedName = name := by
      rw [List.flatMap_map]
      exact List.flatMap_congr fun relation hmem => filter_isRowOf hgrouped hmem
    rw [hnames]
    exact flatMap_filter_perm hgrouped.nodup hgrouped.covers
  · obtain ⟨first, contract, -, -, -, hrelation⟩ := hgrouped.each relation hmem
    rw [filter_isRowOf hgrouped hmem]
    conv_lhs => rw [hrelation]
    rfl
  · exact ⟨(hdescribed relation hmem).1, fun row hrow hof =>
      ((hdescribed relation hmem).2 row hrow hof).2⟩
  · obtain ⟨relation, hmem, hname⟩ := List.mem_map.1 (hgrouped.covers row hrow)
    have hof := (isRowOf_iff hgrouped hmem hrow).2 hname.symm
    exact ⟨((hdescribed relation hmem).2 row hrow hof).1, hdomain row hrow⟩
  · exact not_lt.1 fun hexceeds => rejectIf_eq_ok hcolumns ⟨relation, hmem, hexceeds⟩

/-! ## The load -/

/-- What the transaction reads are all eligible rows: one row more than allowed would have been
noticed. -/
theorem readRows_complete {limit limit' : Option Nat} {rows : List CatalogRow}
    (h : Run (databaseWorld eligible) limit (readRows source) limit' (.ok rows)) :
    rows = eligible.rows ∧ eligible.rows.length ≤ source.budget.maxMetadataColumns ∧
      ∀ row ∈ eligible.rows, row.typeKind ≠ some "d" := by
  obtain ⟨_, limit₁, -, h⟩ := run_bind_ok.1 h
  obtain ⟨_, limit₂, hsend, h⟩ := run_bind_ok.1 h
  obtain ⟨rows', limit₃, hfetch, h⟩ := run_bind_ok.1 h
  obtain ⟨_, _, hlimit, h⟩ := run_bind_ok.1 h
  obtain ⟨_, _, hdomain, h⟩ := run_bind_ok.1 h
  obtain ⟨_, _, -, h⟩ := run_bind_ok.1 h
  have hrows := (run_pure.1 h).2
  cases hrows
  obtain ⟨-, rfl⟩ := run_perform.1 hsend
  obtain ⟨⟨-, n, hn, htake⟩, -⟩ := run_perform.1 hfetch
  obtain rfl := Option.some.inj hn
  have hlength := rejectIf_eq_ok (run_lift.1 hlimit).2.symm
  have hkinds := rejectIf_eq_ok (run_lift.1 hdomain).2.symm
  rw [htake, List.length_take] at hlength
  have hall : eligible.rows.length ≤ source.budget.maxMetadataColumns := by omega
  have heq : rows = eligible.rows := htake.trans (List.take_of_length_le (by omega))
  rw [heq] at hkinds
  exact ⟨heq, hall, fun row hrow hkind => hkinds ⟨row, hrow, hkind⟩⟩

/-- The handler of the transaction does not return. -/
theorem rollbackAndRaise_not_ok {α : Type} {a : α} {e : ServiceExc} {limit limit' : Option Nat} :
    ¬ Run (databaseWorld eligible) limit (rollbackAndRaise e) limit' (.ok a) := by
  intro h
  rw [rollbackAndRaise] at h
  split at h
  · cases (run_throw.1 h).2
  · obtain ⟨_, _, -, hrethrow⟩ := run_bind_ok.1 h
    cases (run_throw.1 hrethrow).2

/-- **A load gives a snapshot of all eligible rows or raises**, for every budget and in whatever way
its awaits end. -/
theorem load_complete_or_raises (eligible : EligibleRows) (source : SourceProfile)
    (limit limit' : Option Nat) (r : Except ServiceExc CatalogSnapshot)
    (h : Run (databaseWorld eligible) limit (load source) limit' r) :
    (∃ e, r = .error e) ∨ ∃ snapshot, r = .ok snapshot ∧ Complete source eligible snapshot := by
  cases r with
  | error e => exact .inl ⟨e, rfl⟩
  | ok snapshot =>
    obtain ⟨_, _, -, hleased⟩ := run_bind_ok.1 h
    obtain ⟨_, _, -, hread⟩ := run_bind_ok.1 hleased
    obtain ⟨rows, _, hlease, hchecks⟩ := run_bind_ok.1 hread
    have hsnapshot := (run_lift.1 hchecks).2
    obtain ⟨rows', _, hbody, ⟨-, heq⟩ | ⟨_, -, heq⟩⟩ | ⟨_, _, -, ⟨-, heq⟩ | ⟨_, -, heq⟩⟩ :=
      run_exitWith.1 hlease
    · cases heq
      obtain ⟨_, _, -, htry⟩ := run_bind_ok.1 hbody
      obtain ⟨result, hrun, heq⟩ | ⟨e, _, -, hhandler⟩ := run_tryCatch.1 htry
      · cases heq
        obtain ⟨rfl, hlimit, hdomain⟩ := readRows_complete hrun
        exact .inr ⟨snapshot, rfl, complete_of_checks hlimit hdomain hsnapshot.symm⟩
      · exact absurd hhandler rollbackAndRaise_not_ok
    · cases heq
    · cases heq
    · cases heq

end

/-! ### Two views with interleaved rows -/

/-- The catalog row of a column of a view. -/
def viewRow (relationName : String) (ordinal : Int) (columnName : String) : CatalogRow :=
  { DottedView.row with
    relationName := relationName, ordinal := ordinal, columnName := columnName }

/-- The relation that the rows of a view are read as. -/
def viewRelation (relationName : String) (columns : List (Int × String)) : CatalogRelation :=
  (viewRow relationName 1 "id").relation (some "demo", some 1, some "Orders.")
    (columns.map fun column => (viewRow relationName column.1 column.2).column)

/-- The rows of two views, which come by turns. -/
def interleavedRows : EligibleRows where
  rows := [viewRow "stock" 1 "id", viewRow "orders" 1 "id", viewRow "stock" 2 "amount",
    viewRow "orders" 2 "total"]
  dotFree := by decide
  sameFields := by
    unfold SameFields
    decide

/-- The answers of a database without failures. -/
def plainAnswer (limit : Option Nat) : (o : Op) → Except ServiceExc (Ret o)
  | .hasPool => .ok true
  | .connectionInfo => .ok ⟨180000, some "UTF8", some "UTF8", "utf-8", false⟩
  | .fetchPolicyRow => .ok (some [("read_only", some true)])
  | .fetchRows =>
    match limit with
    | some n => .ok (interleavedRows.rows.take n)
    | none => .error (.ofExc .interfaceError)
  | .lockPool | .openPool | .storePool | .leaseConnection | .returnConnection _ | .closeConnection
  | .send _ | .rollback => .ok ()

theorem plainAnswer_allowed (limit : Option Nat) (o : Op) :
    (databaseWorld interleavedRows).allowed limit o (plainAnswer limit o) := by
  cases o with
  | fetchRows =>
    cases limit with
    | none => exact ⟨⟨.interfaceError, rfl, rfl⟩, trivial⟩
    | some n => exact ⟨trivial, n, rfl, rfl⟩
  | _ => exact ⟨trivial, trivial⟩

theorem toSnapshot_interleaved : toSnapshot DottedView.source interleavedRows.rows =
    .ok ⟨[viewRelation "orders" [(1, "id"), (2, "total")],
      viewRelation "stock" [(1, "id"), (2, "amount")]]⟩ := by
  have hfold : interleavedRows.rows.foldlM addRow [] =
      .ok [viewRelation "stock" [(1, "id"), (2, "amount")],
        viewRelation "orders" [(1, "id"), (2, "total")]] := by decide
  have horder : ¬ (viewRelation "stock" [(1, "id"), (2, "amount")]).qualifiedName ≤
      (viewRelation "orders" [(1, "id"), (2, "total")]).qualifiedName := by decide
  have hbuilt : rowsToRelations interleavedRows.rows =
      .ok [viewRelation "orders" [(1, "id"), (2, "total")],
        viewRelation "stock" [(1, "id"), (2, "amount")]] := by
    rw [rowsToRelations, hfold]
    refine congrArg Except.ok ?_
    simp [List.mergeSort, List.MergeSort.Internal.splitInTwo, horder]
  rw [toSnapshot, hbuilt]
  rfl

theorem load_complete_or_raises_interleaved : ∃ (limit : Option Nat) (snapshot : CatalogSnapshot),
    Run (databaseWorld interleavedRows) none (load DottedView.source) limit (.ok snapshot) ∧
      snapshot.relations = [viewRelation "orders" [(1, "id"), (2, "total")],
        viewRelation "stock" [(1, "id"), (2, "amount")]] ∧
      Complete DottedView.source interleavedRows snapshot := by
  have hrun := run_play plainAnswer_allowed (load DottedView.source) none
  have hresult :
      (play (databaseWorld interleavedRows) plainAnswer (load DottedView.source) none).2 =
      .ok _ := toSnapshot_interleaved
  rw [hresult] at hrun
  obtain ⟨_, heq⟩ | ⟨snapshot, heq, hcomplete⟩ := load_complete_or_raises _ _ _ _ _ hrun
  · cases heq
  · cases heq
    exact ⟨_, _, hrun, rfl, hcomplete⟩

end QueryMan.PostgresCatalog
