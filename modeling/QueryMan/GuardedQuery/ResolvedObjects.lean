import QueryMan.Errors
import QueryMan.GuardedQuery.SqlValidation

/-!
# The live object policy

`_validate_resolved_objects` of `guarded_query/query.py`: the names that the validator recorded are
looked up in the catalog of the session, and execution goes on only if each of them has a visible
candidate and only safe ones. The two catalog queries are modelled on the rows they join; a query
answers with one row for each name, which is safe if all its candidates are.
-/

namespace QueryMan

open Python

/-- A row of `pg_proc`, with its namespace and what the session may do with it. -/
structure Routine where
  name : String
  namespace_ : String
  volatility : Char
  securityDefiner : Bool
  visible : Bool
  executable : Bool
  deriving DecidableEq, Repr

/-- A row of `pg_operator`, with the routine that implements it, if there is one. -/
structure OperatorRow where
  name : String
  namespace_ : String
  visible : Bool
  implementation : Option Routine
  deriving DecidableEq, Repr

/-- The catalog as the session sees it. -/
structure LiveCatalog where
  routines : List Routine
  operators : List OperatorRow

/-- A row of a policy query. -/
structure PolicyRow where
  objectName : String
  isSafe : Bool
  deriving DecidableEq, Repr

/-- `GROUP BY` the name, with `bool_and` of the safety of the candidates. -/
def groupByName (candidates : List PolicyRow) : List PolicyRow :=
  (candidates.map PolicyRow.objectName).dedup.map fun name =>
    ⟨name, (candidates.filter fun row => row.objectName = name).all PolicyRow.isSafe⟩

/-- The conditions that `_FUNCTION_POLICY_QUERY` puts on a candidate. -/
def Routine.isSafe (routine : Routine) : Bool :=
  routine.namespace_ == "pg_catalog" && routine.volatility != 'v' && !routine.securityDefiner &&
    routine.executable

/-- The visible routines of a name. -/
def LiveCatalog.candidates (catalog : LiveCatalog) (name : String) : List Routine :=
  catalog.routines.filter fun routine => routine.visible && routine.name == name

/-- `_FUNCTION_POLICY_QUERY`. -/
def LiveCatalog.functionPolicy (catalog : LiveCatalog) (names : List String) : List PolicyRow :=
  groupByName <| (catalog.routines.filter fun routine =>
    routine.visible && names.contains routine.name).map fun routine =>
      ⟨routine.name, routine.isSafe⟩

/-- `_OPERATOR_POLICY_QUERY`: an operator without an implementation joins no row. -/
def LiveCatalog.operatorPolicy (catalog : LiveCatalog) (names : List String) : List PolicyRow :=
  groupByName <| catalog.operators.filterMap fun operator =>
    operator.implementation.bind fun routine =>
      if operator.visible && names.contains operator.name then
        some ⟨operator.name, operator.namespace_ == "pg_catalog" && routine.isSafe⟩
      else none

/-- `{str(row["object_name"]) for row in rows if row["is_safe"]}`. -/
def safeNames (rows : List PolicyRow) : Finset String :=
  ((rows.filter PolicyRow.isSafe).map PolicyRow.objectName).toFinset

/-- `name.removeprefix(start)`. -/
def removePrefix (start name : String) : String :=
  if start.toList.isPrefixOf name.toList then String.ofList
    (name.toList.drop start.length) else name

/-- The function names that are looked up. -/
def ValidatedSql.functionNames (validated : ValidatedSql) : Finset String :=
  (validated.functions.map (removePrefix "pg_catalog.")).toFinset

/-- The operator names that are looked up. -/
def ValidatedSql.operatorNames (validated : ValidatedSql) : Finset String :=
  validated.operators.toFinset

/-- `_validate_resolved_objects`, with the queries answered from a catalog. -/
def validateResolvedObjects (catalog : LiveCatalog) (validated : ValidatedSql) :
    Except AppError Unit := do
  let functions := validated.functionNames
  let operators := validated.operatorNames
  raiseIf (functions ≠ ∅ ∧
      safeNames (catalog.functionPolicy (sorted functions)) ≠ functions)
    (AppError.queryRejected "QUERY_RESOLVED_FUNCTION_NOT_ALLOWED" none)
  raiseIf (operators ≠ ∅ ∧
      safeNames (catalog.operatorPolicy (sorted operators)) ≠ operators)
    (AppError.queryRejected "QUERY_RESOLVED_OPERATOR_NOT_ALLOWED" none)

/-! ## What a safe name has -/

/-- A name is safe in the groups exactly if it has a candidate and only safe ones. -/
theorem mem_safeNames_groupByName {candidates : List PolicyRow} {name : String} :
    name ∈ safeNames (groupByName candidates) ↔
      (∃ row ∈ candidates, row.objectName = name) ∧
        ∀ row ∈ candidates, row.objectName = name → row.isSafe = true := by
  simp only [safeNames, groupByName, List.mem_toFinset, List.mem_map, List.mem_filter,
    List.mem_dedup]
  constructor
  · rintro ⟨row, ⟨⟨name', ⟨row', hmem, rfl⟩, rfl⟩, hsafe⟩, rfl⟩
    refine ⟨⟨row', hmem, rfl⟩, fun row hrow hname => ?_⟩
    exact List.all_eq_true.1 hsafe row (List.mem_filter.2 ⟨hrow, decide_eq_true hname⟩)
  · rintro ⟨⟨row, hmem, rfl⟩, hall⟩
    refine ⟨_, ⟨⟨row.objectName, ⟨row, hmem, rfl⟩, rfl⟩, ?_⟩, rfl⟩
    refine List.all_eq_true.2 fun row' hrow' => ?_
    obtain ⟨hrow', hname⟩ := List.mem_filter.1 hrow'
    exact hall row' hrow' (of_decide_eq_true hname)

/-- What the function policy asks of a name that is looked up. -/
theorem mem_safeNames_functionPolicy {catalog : LiveCatalog} {names : List String} {name : String}
    (hmem : name ∈ names) :
    name ∈ safeNames (catalog.functionPolicy names) ↔
      (∃ routine, routine ∈ catalog.candidates name) ∧
        ∀ routine ∈ catalog.candidates name, routine.isSafe = true := by
  rw [LiveCatalog.functionPolicy, mem_safeNames_groupByName]
  simp only [List.mem_map, List.mem_filter, LiveCatalog.candidates, Bool.and_eq_true,
    beq_iff_eq, List.contains_iff_mem]
  constructor
  · rintro ⟨⟨row, ⟨routine, ⟨hroutine, hvisible, -⟩, rfl⟩, hname⟩, hall⟩
    refine ⟨⟨routine, hroutine, hvisible, hname⟩, ?_⟩
    rintro routine' ⟨hroutine', hvisible', hname'⟩
    exact hall _ ⟨routine', ⟨hroutine', hvisible', hname' ▸ hmem⟩, rfl⟩ hname'
  · rintro ⟨⟨routine, hroutine, hvisible, hname⟩, hall⟩
    refine ⟨⟨_, ⟨routine, ⟨hroutine, hvisible, hname ▸ hmem⟩, rfl⟩, hname⟩, ?_⟩
    rintro _ ⟨routine', ⟨hroutine', hvisible', -⟩, rfl⟩ hname'
    exact hall routine' ⟨hroutine', hvisible', hname'⟩

/-- The visible operators of a name that an implementation belongs to. -/
def LiveCatalog.operatorCandidates (catalog : LiveCatalog) (name : String) :
    List (OperatorRow × Routine) :=
  catalog.operators.filterMap fun operator =>
    operator.implementation.bind fun routine =>
      if operator.visible && operator.name == name then some (operator, routine) else none

/-- The conditions that `_OPERATOR_POLICY_QUERY` puts on a candidate. -/
def isSafeOperator (candidate : OperatorRow × Routine) : Bool :=
  candidate.1.namespace_ == "pg_catalog" && candidate.2.isSafe

/-- What a candidate of a name is. -/
theorem mem_operatorCandidates {catalog : LiveCatalog} {name : String}
    {candidate : OperatorRow × Routine} :
    candidate ∈ catalog.operatorCandidates name ↔
      candidate.1 ∈ catalog.operators ∧ candidate.1.implementation = some candidate.2 ∧
        candidate.1.visible = true ∧ candidate.1.name = name := by
  obtain ⟨operator, routine⟩ := candidate
  simp only [LiveCatalog.operatorCandidates, List.mem_filterMap, Option.bind_eq_some_iff,
    Option.ite_none_right_eq_some, Bool.and_eq_true, beq_iff_eq, Option.some.injEq, Prod.mk.injEq]
  constructor
  · rintro ⟨operator', hmem, routine', himpl, ⟨hvisible, hname⟩, rfl, rfl⟩
    exact ⟨hmem, himpl, hvisible, hname⟩
  · rintro ⟨hmem, himpl, hvisible, hname⟩
    exact ⟨operator, hmem, routine, himpl, ⟨hvisible, hname⟩, rfl, rfl⟩

/-- What the operator policy asks of a name that is looked up. -/
theorem mem_safeNames_operatorPolicy {catalog : LiveCatalog} {names : List String} {name : String}
    (hmem : name ∈ names) :
    name ∈ safeNames (catalog.operatorPolicy names) ↔
      (∃ candidate, candidate ∈ catalog.operatorCandidates name) ∧
        ∀ candidate ∈ catalog.operatorCandidates name, isSafeOperator candidate = true := by
  have hrow : ∀ row : PolicyRow, row.objectName = name →
      (row ∈ (catalog.operators.filterMap fun operator =>
          operator.implementation.bind fun routine =>
            if operator.visible && names.contains operator.name then
              some ⟨operator.name, operator.namespace_ == "pg_catalog" && routine.isSafe⟩
            else none) ↔
        ∃ candidate ∈ catalog.operatorCandidates name, row.isSafe = isSafeOperator candidate) := by
    rintro ⟨objectName, isSafe⟩ rfl
    simp only [List.mem_filterMap, Option.bind_eq_some_iff, Option.ite_none_right_eq_some,
      Bool.and_eq_true, List.contains_iff_mem, Option.some.injEq, PolicyRow.mk.injEq,
      mem_operatorCandidates]
    constructor
    · rintro ⟨operator, hoperator, routine, himpl, ⟨hvisible, -⟩, hname, rfl⟩
      exact ⟨(operator, routine), ⟨hoperator, himpl, hvisible, hname⟩, rfl⟩
    · rintro ⟨⟨operator, routine⟩, ⟨hoperator, himpl, hvisible, rfl⟩, rfl⟩
      exact ⟨operator, hoperator, routine, himpl, ⟨hvisible, hmem⟩, rfl, rfl⟩
  rw [LiveCatalog.operatorPolicy, mem_safeNames_groupByName]
  constructor
  · rintro ⟨⟨row, hmem', hname⟩, hall⟩
    obtain ⟨candidate, hcandidate, -⟩ := (hrow row hname).1 hmem'
    refine ⟨⟨candidate, hcandidate⟩, fun candidate' hcandidate' => ?_⟩
    exact hall ⟨name, isSafeOperator candidate'⟩
      ((hrow _ rfl).2 ⟨candidate', hcandidate', rfl⟩) rfl
  · rintro ⟨⟨candidate, hcandidate⟩, hall⟩
    refine ⟨⟨⟨name, _⟩, (hrow _ rfl).2 ⟨candidate, hcandidate, rfl⟩, rfl⟩, ?_⟩
    intro row hmem' hname
    obtain ⟨candidate', hcandidate', hsafe⟩ := (hrow row hname).1 hmem'
    rw [hsafe]
    exact hall candidate' hcandidate'

/-- The prefix is removed once. -/
theorem removePrefix_append (start name : String) : removePrefix start (start ++ name) = name := by
  have hprefix : start.toList.isPrefixOf (start ++ name).toList = true := by
    rw [List.isPrefixOf_iff_prefix, String.toList_append]
    exact List.prefix_append _ _
  rw [removePrefix, if_pos hprefix, String.toList_append, ← String.length_toList, List.drop_left,
    String.ofList_toList]

/-- A function that is recorded passes the live policy only if it has a visible candidate of its
name and only safe ones. -/
theorem candidates_of_validateResolvedObjects {catalog : LiveCatalog} {validated : ValidatedSql}
    {name : String} (hname : "pg_catalog." ++ name ∈ validated.functions)
    (h : validateResolvedObjects catalog validated = .ok ()) :
    (∃ routine, routine ∈ catalog.candidates name) ∧
      ∀ routine ∈ catalog.candidates name, routine.isSafe = true := by
  have hmem : name ∈ validated.functionNames := by
    rw [ValidatedSql.functionNames, List.mem_toFinset, List.mem_map]
    exact ⟨_, hname, removePrefix_append _ _⟩
  obtain ⟨_, hfunctions, -⟩ := bind_eq_ok.1 h
  rw [raiseIf_eq_ok] at hfunctions
  have hsafe : safeNames (catalog.functionPolicy (sorted validated.functionNames)) =
      validated.functionNames := by
    by_contra hne
    exact hfunctions ⟨Finset.ne_empty_of_mem hmem, hne⟩
  have hsorted : name ∈ sorted validated.functionNames := by
    rw [mem_sorted]
    exact hmem
  refine (mem_safeNames_functionPolicy hsorted).1 ?_
  rw [hsafe]
  exact hmem

end QueryMan
