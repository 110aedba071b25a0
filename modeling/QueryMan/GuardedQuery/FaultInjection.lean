import QueryMan.GuardedQuery.ExecutorWorld

/-!
# Fault injection

Runs of `execute` in which everything succeeds but for given faults, as the tests of the executor
inject them: at each operation a fault may be raised in place of the answer.
-/

namespace QueryMan.PostgresQueryExecutor

open Coro

variable {Row : Type}

/-- A connection that passes the policy check of a source without encryption. -/
def plainConnection : ConnectionInfo :=
  ⟨180001, some "UTF8", some "UTF8", "utf-8", false⟩

/-- A plan of one node, as `EXPLAIN` answers it. -/
def oneNodePlan : List (String × PlanValue) :=
  [("QUERY PLAN", .list [.dict [("Plan", .dict [("Total Cost", .int 1), ("Plan Rows", .int 1)])]])]

/-- The answers when nothing fails: one column and no rows. -/
def smoothAnswer (live : LiveCatalog) (log : Log Row) : (o : Op) → Ret Row o
  | .currentTask => true
  | .uuid4 => "00000000-0000-4000-8000-000000000000"
  | .monotonic => (0 : ℚ)
  | .lockActive _ => ()
  | .accepting => true
  | .addInflight => ()
  | .discardInflight => ()
  | .semaphore _ _ => ()
  | .acquireSemaphore _ _ => ()
  | .releaseSemaphore _ => ()
  | .increment _ _ => ()
  | .observe _ _ _ => ()
  | .setSourceQueryHealth _ _ => ()
  | .hasPool _ => true
  | .lockPool => ()
  | .openPool _ _ _ => ()
  | .storePool _ => ()
  | .enterTimeout _ => ()
  | .exitTimeout =>
    decide ((timeoutAfter log).state = .expiring ∧ (timeoutAfter log).cancelling = 0)
  | .leaseConnection _ _ => ()
  | .returnConnection _ => ()
  | .connectionInfo => plainConnection
  | .closeConnection => ()
  | .addActive _ => ()
  | .popActive _ => ()
  | .cancelReasonShutdown _ => false
  | .send (.fetch _) => ([] : List Row)
  | .send .beginTransaction => ()
  | .send .timeZone => ()
  | .send (.sessionSettings _) => ()
  | .send .sessionPolicy => ()
  | .send (.objectPolicy _ _) => ()
  | .send (.explain _) => ()
  | .send (.declare _) => ()
  | .send .closeCursor => ()
  | .send .commit => ()
  | .fetchPolicyRow => some [("read_only", some true)]
  | .fetchObjects kind names => objectPolicy live kind names
  | .fetchPlan => some oneNodePlan
  | .openCursor => ()
  | .description => some [⟨some "n", some 23⟩]
  | .cancelSafe => ()
  | .rollback => ()

/-- The answers when the given faults are raised. -/
def injected (live : LiveCatalog) (fault : Log Row → Op → Option Exc) (log : Log Row) (o : Op) :
    Except Exc (Ret Row o) :=
  match fault log o with
  | some e => .error e
  | none => .ok (smoothAnswer live log o)

/-- A fault that the world allows where it is raised. -/
def PossibleFaults (fault : Log Row → Op → Option Exc) : Prop :=
  ∀ log o, ∀ e ∈ fault log o,
    o.canRaise e = true ∧ (e.byDeadline = true → (timeoutAfter log).state = .entered)

/-- Possible faults make possible answers. -/
theorem injected_allowed {live : LiveCatalog} {fault : Log Row → Op → Option Exc}
    (hfault : PossibleFaults fault) (log : Log Row) (o : Op) :
    (world Row live).allowed log o (injected live fault log o) := by
  rw [injected]
  cases hraise : fault log o with
  | some e => exact hfault log o e hraise
  | none =>
    change answers live log o (smoothAnswer live log o)
    cases o <;> trivial

/-- The run with the given faults. -/
def playWith {α : Type} (live : LiveCatalog) (fault : Log Row → Op → Option Exc) (p : Exec Row α) :
    Log Row × Except Exc α :=
  play (world Row live) (injected live fault) p []

/-- A run with possible faults is a run. -/
theorem run_playWith {α : Type} {live : LiveCatalog} {fault : Log Row → Op → Option Exc}
    (hfault : PossibleFaults fault) (p : Exec Row α) :
    Run (world Row live) [] p (playWith live fault p).1 (playWith live fault p).2 :=
  run_play (injected_allowed hfault) p []

/-! ## A call -/

/-- A budget with room for one row of a few bytes. -/
def smallBudget : BudgetProfile where
  name := "small"
  version := 2
  metadataStatementTimeoutMs := 1000
  queryStatementTimeoutMs := 1000
  queryTransactionTimeoutMs := 2000
  queryQueueTimeoutMs := 500
  lockTimeoutMs := 100
  workMemKb := 4096
  tempFileLimitKb := 1024
  maxParallelWorkersPerGather := 0
  jitEnabled := false
  maxPoolSize := 1
  maxConcurrentQueries := 1
  maxMetadataRelations := 10
  maxMetadataColumns := 10
  maxColumnsPerRelation := 10
  maxContextColumnsPerRelation := 10
  maxMetadataResponseBytes := 1000
  maxResultRows := 1
  maxResultBytes := 100
  maxSqlBytes := 1000
  maxPlanTotalCost := 100
  maxPlanRows := 100
  maxPlanNodes := 10

/-- A source on an unencrypted connection. -/
def plainSource : SourceProfile where
  sourceId := "cave"
  name := "Cave"
  description := "A source without encryption."
  sslmode := .disable
  allowedSchemas := []
  allowedRelationKinds := ["view"]
  viewContractVersion := 1
  budget := smallBudget

/-- A catalog without rows. -/
def emptyLive : LiveCatalog :=
  ⟨[], []⟩

/-- What the validator records of `SELECT 1`. -/
def selectOneValidated : ValidatedSql where
  fingerprint := "f"
  relations := []
  functions := []
  operators := []

/-- A call with `SELECT 1`. -/
def selectOne : Exec String (Response String) :=
  execute (fun row => .ok (row, row.length)) plainSource "SELECT 1" "revision" selectOneValidated
    (some "q")

/-- No faults. -/
def noFault (_ : Log Row) (_ : Op) : Option Exc := none

theorem possible_noFault : @PossibleFaults Row noFault := by
  intro log o e he
  cases he

end QueryMan.PostgresQueryExecutor
