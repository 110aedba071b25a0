import QueryMan.Python.Checks
import QueryMan.SourceCatalog.Models

/-!
# The source registry

The checks that `_Budget` of `source_catalog/registry.py` makes of a budget, and `SourceRegistry`,
whose sources carry the proof that their budgets passed them.
-/

namespace QueryMan

open Python

/-- A field of `_Budget` with its bounds `ge` and `le`. -/
structure BudgetField where
  name : String
  value : BudgetProfile → Nat
  ge : Nat
  le : Nat

/-- The bounded fields of `_Budget`, in their order. -/
def budgetFields : List BudgetField :=
  [⟨"metadata_statement_timeout_ms", (·.metadataStatementTimeoutMs), 100, 30000⟩,
    ⟨"query_statement_timeout_ms", (·.queryStatementTimeoutMs), 100, 60000⟩,
    ⟨"query_transaction_timeout_ms", (·.queryTransactionTimeoutMs), 100, 300000⟩,
    ⟨"query_queue_timeout_ms", (·.queryQueueTimeoutMs), 1, 60000⟩,
    ⟨"lock_timeout_ms", (·.lockTimeoutMs), 1, 10000⟩,
    ⟨"work_mem_kb", (·.workMemKb), 64, 65536⟩,
    ⟨"temp_file_limit_kb", (·.tempFileLimitKb), 0, 1048576⟩,
    ⟨"max_parallel_workers_per_gather", (·.maxParallelWorkersPerGather), 0, 4⟩,
    ⟨"max_pool_size", (·.maxPoolSize), 1, 20⟩,
    ⟨"max_concurrent_queries", (·.maxConcurrentQueries), 1, 20⟩,
    ⟨"max_metadata_relations", (·.maxMetadataRelations), 1, 10000⟩,
    ⟨"max_metadata_columns", (·.maxMetadataColumns), 1, 100000⟩,
    ⟨"max_columns_per_relation", (·.maxColumnsPerRelation), 1, 1600⟩,
    ⟨"max_context_columns_per_relation", (·.maxContextColumnsPerRelation), 1, 200⟩,
    ⟨"max_metadata_response_bytes", (·.maxMetadataResponseBytes), 1024, 104857600⟩,
    ⟨"max_result_rows", (·.maxResultRows), 1, 100000⟩,
    ⟨"max_result_bytes", (·.maxResultBytes), 1024, 104857600⟩,
    ⟨"max_sql_bytes", (·.maxSqlBytes), 1024, 10485760⟩,
    ⟨"max_plan_total_cost", (·.maxPlanTotalCost), 1, 2147483647⟩,
    ⟨"max_plan_rows", (·.maxPlanRows), 1, 2147483647⟩,
    ⟨"max_plan_nodes", (·.maxPlanNodes), 1, 100000⟩]

/-- What a budget is rejected for: the fields out of their bounds, or the message of the model
validator, which runs only after all fields passed. -/
inductive BudgetError where
  | outOfBounds (fields : List String)
  | valueError (message : String)
  deriving DecidableEq, Repr

/-- The value is within the bounds of its field. -/
def BudgetField.Holds (field : BudgetField) (budget : BudgetProfile) : Prop :=
  field.ge ≤ field.value budget ∧ field.value budget ≤ field.le

instance (field : BudgetField) (budget : BudgetProfile) : Decidable (field.Holds budget) :=
  inferInstanceAs (Decidable (_ ∧ _))

/-- `require_pool_capacity_for_admitted_queries`. -/
def requirePoolCapacityForAdmittedQueries (budget : BudgetProfile) : Except BudgetError Unit :=
  raiseIf (budget.maxConcurrentQueries > budget.maxPoolSize)
    (BudgetError.valueError "max_concurrent_queries must be less than or equal to max_pool_size")

/-- The validation of `_Budget`. -/
def validateBudget (budget : BudgetProfile) : Except BudgetError Unit := do
  let outOfBounds := budgetFields.filter fun field => ¬ field.Holds budget
  raiseIf (outOfBounds ≠ []) (BudgetError.outOfBounds (outOfBounds.map (·.name)))
  requirePoolCapacityForAdmittedQueries budget

theorem validateBudget_ok {budget : BudgetProfile} :
    validateBudget budget = .ok () ↔
      (∀ field ∈ budgetFields, field.Holds budget) ∧
        budget.maxConcurrentQueries ≤ budget.maxPoolSize := by
  unfold validateBudget requirePoolCapacityForAdmittedQueries
  rw [bind_eq_ok]
  constructor
  · rintro ⟨_, hfields, hcapacity⟩
    rw [raiseIf_eq_ok, not_not] at hfields
    rw [raiseIf_eq_ok, not_lt] at hcapacity
    refine ⟨fun field hmem => ?_, hcapacity⟩
    by_contra hno
    refine List.not_mem_nil (a := field) (hfields ▸ List.mem_filter.2 ⟨hmem, ?_⟩)
    exact decide_eq_true hno
  · rintro ⟨hfields, hcapacity⟩
    refine ⟨(), ?_, ?_⟩
    · rw [raiseIf_eq_ok, not_not, List.filter_eq_nil_iff]
      intro field hmem hno
      exact of_decide_eq_true hno (hfields field hmem)
    · rw [raiseIf_eq_ok, not_lt]
      exact hcapacity

/-- `SourceRegistry`: its sources, in the order in which they were loaded, with accepted budgets. -/
structure SourceRegistry where
  sources : List SourceProfile
  accepted : ∀ source ∈ sources, validateBudget source.budget = .ok ()

namespace SourceRegistry

variable {registry : SourceRegistry} {sourceId : String} {source : SourceProfile}

/-- `get`: of two sources with one id the dictionary keeps the later. -/
def get (registry : SourceRegistry) (sourceId : String) : Option SourceProfile :=
  registry.sources.reverse.find? fun source => source.sourceId = sourceId

/-- `source_ids`. -/
def sourceIds (registry : SourceRegistry) : List String :=
  (registry.sources.map (·.sourceId)).dedup

theorem sourceId_of_get (h : registry.get sourceId = some source) : source.sourceId = sourceId := by
  have hfound := List.find?_some h
  exact of_decide_eq_true hfound

theorem mem_of_get (h : registry.get sourceId = some source) : source ∈ registry.sources :=
  List.mem_reverse.1 (List.mem_of_find?_eq_some h)

/-- A registered source has a connection for every query it admits. -/
theorem capacity_of_get (h : registry.get sourceId = some source) :
    source.budget.maxConcurrentQueries ≤ source.budget.maxPoolSize :=
  (validateBudget_ok.1 (registry.accepted source (mem_of_get h))).2

end SourceRegistry

end QueryMan
