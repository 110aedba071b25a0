import QueryMan.Coro.Tasks
import QueryMan.GuardedQuery.ExecutorWorld
import QueryMan.SourceCatalog.Registry

/-!
# The tasks of an executor

Any number of calls of `execute` and of `stop_accepting`, `drain` and `close` on one
`PostgresQueryExecutor`. They share its attributes, the semaphores and the connections of its pools
(`Executor`), and lose their turn only where the source awaits something that can suspend: taking
`_active_lock` never does, since its sections contain no await.

Every await may return, raise or be cancelled. What the semaphore, the pool and the cancellation do
is their documented behaviour: a permit is only there while the semaphore's value is positive, a
pool hands out a connection that nobody has leased, and leaving the block of a lease gives the
connection back however it ends.
-/

namespace QueryMan.PostgresQueryExecutor

open Coro
open Python (toFloat)

/-! ## The shared state -/

/-- A connection of the pool of a source. -/
structure Connection where
  sourceId : String
  number : Nat
  deriving DecidableEq, Repr

/-- `_ActiveQuery`; its `cancel_reason` is kept in `Executor.reasons`. -/
structure ActiveQuery where
  connection : Connection
  task : Nat
  deriving DecidableEq, Repr

/-- `asyncio.Semaphore`: the value it was created with, and its value now. -/
structure Semaphore where
  limit : Nat
  value : Nat
  deriving DecidableEq, Repr

/-- What a shutdown has seen and asked for: the tasks in flight and the leases when it last read
`_inflight`, whether the grace had expired then, the tasks it has cancelled since, and the
connections it has called `cancel_safe` on. -/
structure Expiry where
  inflight : Finset Nat
  leases : Nat → Option Connection
  expired : Bool
  cancelled : Finset Nat
  cancelSafe : List Connection

/-- A call of `cancel_safe` that has not ended, with the tasks that were in flight for the shutdown
that made it. -/
structure PendingCancel where
  connection : Connection
  inflight : Finset Nat
  deriving DecidableEq

/-- The executor with what its environment keeps for it. A call of `execute` is known by its task.
-/
structure Executor where
  /-- `_accepting` -/
  accepting : Bool
  /-- `_inflight` -/
  inflight : Finset Nat
  /-- `_active` -/
  active : AList fun _ : String => ActiveQuery
  /-- `_semaphores` -/
  semaphores : String → Option Semaphore
  /-- the keys of `_pools` -/
  pools : List String
  /-- the calls whose record has the `cancel_reason` `shutdown` -/
  reasons : Finset Nat
  /-- the calls that hold a permit of a source -/
  permits : String → Finset Nat
  /-- the connection that a call has leased -/
  leases : Nat → Option Connection
  /-- how many permits a call has acquired and released -/
  acquired : Nat → Nat
  released : Nat → Nat
  /-- what each shutdown has seen and asked for -/
  expiries : Nat → Option Expiry
  pending : List PendingCancel

/-- `PostgresQueryExecutor()`. -/
def Executor.initial : Executor where
  accepting := true
  inflight := ∅
  active := ∅
  semaphores := fun _ => none
  pools := []
  reasons := ∅
  permits := fun _ => ∅
  leases := fun _ => none
  acquired := fun _ => 0
  released := fun _ => 0
  expiries := fun _ => none
  pending := []

/-! ## Shutdown -/

/-- The operations of `stop_accepting`, `drain` and `close`. -/
inductive ShutdownOp where
  /-- `self._accepting = False` -/
  | stopAccepting
  /-- `self._accepting` -/
  | accepting
  | increment (name : String) (value : Nat)
  /-- `time.monotonic()` -/
  | monotonic
  /-- `time.monotonic() >= deadline` -/
  | deadlineReached (deadline : ℚ)
  /-- `async with self._active_lock` -/
  | lockActive
  /-- `list(self._inflight)` -/
  | inflight
  /-- `list(self._active.values())` -/
  | active
  /-- `asyncio.sleep` -/
  | sleep (seconds : ℚ)
  /-- `task.cancel()` -/
  | cancelTask (task : Nat)
  /-- `if query.cancel_reason is None: query.cancel_reason = "shutdown"` -/
  | setCancelReason (query : ActiveQuery)
  /-- `asyncio.gather` of the calls of `cancel_safe`: they start, and they have all ended -/
  | startCancelSafe (connections : List Connection)
  | joinCancelSafe
  /-- `asyncio.wait(tasks, timeout=1)`, with the tasks that are pending after it -/
  | waitTasks (tasks : List Nat)
  /-- the iteration over `self._pools.values()`: the next pool, if the size is still the same -/
  | nextPool (size index : Nat)
  /-- `pool.close()` -/
  | closePool (sourceId : String)
  /-- `len(self._pools)`, and `self._pools.clear()` -/
  | poolCount
  | clearPools
  deriving DecidableEq

/-- What they answer with. -/
def ShutdownRet : ShutdownOp → Type
  | .accepting | .deadlineReached _ => Bool
  | .monotonic => ℚ
  | .inflight | .waitTasks _ => List Nat
  | .active => List ActiveQuery
  | .nextPool _ _ => Option String
  | .poolCount => Nat
  | _ => Unit

/-- The programs of a shutdown. -/
abbrev Shutdown (α : Type) : Type := Prog ShutdownRet Exc α

namespace Shutdown

/-- Call an operation. -/
def perform (o : ShutdownOp) : Shutdown (ShutdownRet o) :=
  Prog.perform o

/-- `stop_accepting`. -/
def stopAccepting : Shutdown Unit :=
  perform .stopAccepting

/-- `for task in tasks: task.cancel()`. -/
def cancelTasks : List Nat → Shutdown Unit
  | [] => pure ()
  | task :: tasks => do
    perform (.cancelTask task)
    cancelTasks tasks

/-- The loop that sets the reasons. -/
def setCancelReasons : List ActiveQuery → Shutdown Unit
  | [] => pure ()
  | query :: queries => do
    perform (.setCancelReason query)
    setCancelReasons queries

/-- `_cancel_inflight`. -/
def cancelInflight (inflight : List Nat) (active : List ActiveQuery) : Shutdown Unit := do
  let activeTasks := active.map (·.task)
  cancelTasks (inflight.filter (· ∉ activeTasks))
  setCancelReasons active
  perform (.startCancelSafe (active.map (·.connection)))
  perform .joinCancelSafe
  let pending : List Nat ← perform (.waitTasks inflight)
  cancelTasks pending
  if pending = [] then pure ()
  else do
    let _ : List Nat ← perform (.waitTasks pending)
    pure ()

/-- The loop of `drain`. Time ends it: the fuel bounds its turns, and every finite run of the loop
is a run with enough fuel. -/
def drainLoop : Nat → ℚ → Shutdown Unit
  | 0, _ => pure ()
  | fuel + 1, deadline => do
    perform .lockActive
    let inflight : List Nat ← perform .inflight
    let active : List ActiveQuery ← perform .active
    if inflight = [] then perform (.increment "shutdown_drained" 1)
    else do
      let reached : Bool ← perform (.deadlineReached deadline)
      if reached then do
        cancelInflight inflight active
        perform (.increment "shutdown_forced_cancel" inflight.length)
      else do
        let now : ℚ ← perform .monotonic
        perform (.sleep (min (toFloat (1 / 100)) (max 0 (toFloat (deadline - now)))))
        drainLoop fuel deadline

/-- `drain`. -/
def drain (fuel graceMs : Nat) : Shutdown Unit := do
  stopAccepting
  perform (.increment "shutdown_started" 1)
  let now : ℚ ← perform .monotonic
  drainLoop fuel (toFloat (now + toFloat (graceMs / 1000)))

/-- `for pool in self._pools.values(): await pool.close()`, from an index on. -/
def closePools (size : Nat) : Nat → Shutdown Unit
  | 0 => do
    let _ : Option String ← perform (.nextPool size size)
    pure ()
  | left + 1 => do
    let pool : Option String ← perform (.nextPool size (size - (left + 1)))
    match pool with
    | none => pure ()
    | some sourceId => do
      perform (.closePool sourceId)
      closePools size left

/-- What `close` does about the calls in flight. -/
def closeInflight (fuel : Nat) : Shutdown Unit := do
  let accepting : Bool ← perform .accepting
  if accepting then drain fuel 0
  else do
    perform .lockActive
    let inflight : List Nat ← perform .inflight
    let active : List ActiveQuery ← perform .active
    if inflight = [] then pure () else cancelInflight inflight active

/-- `close`. -/
def close (fuel : Nat) : Shutdown Unit := do
  closeInflight fuel
  let size : Nat ← perform .poolCount
  closePools size size
  perform .clearPools

end Shutdown

/-! ## Steps -/

/-- The operations of a call that can suspend it. -/
def Op.suspends : Op → Bool
  | .acquireSemaphore _ _ | .lockPool | .openPool _ _ _ | .leaseConnection _ _ => true
  | .returnConnection _ | .closeConnection | .send _ | .fetchPolicyRow | .fetchObjects _ _ => true
  | .fetchPlan | .cancelSafe | .rollback => true
  | _ => false

/-- The operations of a shutdown that can suspend it. -/
def ShutdownOp.suspends : ShutdownOp → Bool
  | .sleep _ | .joinCancelSafe | .waitTasks _ | .closePool _ => true
  | _ => false

namespace Executor

/-- `self._semaphores.setdefault`. -/
def setdefault (s : Executor) (sourceId : String) (limit : Nat) : Executor :=
  match s.semaphores sourceId with
  | some _ => s
  | none => { s with semaphores := Function.update s.semaphores sourceId (some ⟨limit, limit⟩) }

/-- A call has got a permit. -/
def acquire (s : Executor) (n : Nat) (sourceId : String) (sem : Semaphore) : Executor :=
  { s with
    semaphores := Function.update s.semaphores sourceId (some { sem with value := sem.value - 1 })
    permits := Function.update s.permits sourceId (insert n (s.permits sourceId))
    acquired := Function.update s.acquired n (s.acquired n + 1) }

/-- `semaphore.release()`. -/
def release (s : Executor) (n : Nat) (sourceId : String) : Executor :=
  { s with
    semaphores := Function.update s.semaphores sourceId
      ((s.semaphores sourceId).map fun sem => { sem with value := sem.value + 1 })
    permits := Function.update s.permits sourceId ((s.permits sourceId).erase n)
    released := Function.update s.released n (s.released n + 1) }

/-- The lease of a call. -/
def setLease (s : Executor) (n : Nat) (connection : Option Connection) : Executor :=
  { s with leases := Function.update s.leases n connection }

/-- `self._active[query_id] = _ActiveQuery(connection, task)`. -/
def register (s : Executor) (n : Nat) (queryId : String) (connection : Connection) : Executor :=
  { s with
    active := s.active.insert queryId ⟨connection, n⟩
    reasons := s.reasons.erase n }

/-- A change of what a shutdown has seen and asked for. -/
def updateExpiry (s : Executor) (k : Nat) (f : Expiry → Expiry) : Executor :=
  { s with expiries := Function.update s.expiries k ((s.expiries k).map f) }

/-- `list(self._inflight)` begins a new record of the shutdown. -/
def observeInflight (s : Executor) (k : Nat) : Executor :=
  { s with expiries := Function.update s.expiries k (some ⟨s.inflight, s.leases, false, ∅, []⟩) }

/-- The calls of `cancel_safe` start. -/
def startCancelSafe (s : Executor) (k : Nat) (connections : List Connection) : Executor :=
  { s.updateExpiry k fun x => { x with cancelSafe := connections } with
    pending := s.pending ++ connections.map fun connection =>
      ⟨connection, ((s.expiries k).map (·.inflight)).getD ∅⟩ }

end Executor

/-- What an operation of the call `n` answers and does. -/
def callStep {Row : Type} (n : Nat) (s : Executor) (o : Op) (r : Except Exc (Ret Row o))
    (s' : Executor) : Prop :=
  match o, r with
  | .returnConnection _, _ => s' = s.setLease n none
  | o, .error e => o.canRaise e = true ∧ (e.isCancelled = true → o.suspends = true) ∧ s' = s
  | .accepting, .ok accepting => accepting = s.accepting ∧ s' = s
  | .addInflight, .ok _ => s' = { s with inflight := insert n s.inflight }
  | .discardInflight, .ok _ => s' = { s with inflight := s.inflight.erase n }
  | .semaphore sourceId limit, .ok _ => s' = s.setdefault sourceId limit
  | .acquireSemaphore sourceId _, .ok _ =>
    ∃ sem, s.semaphores sourceId = some sem ∧ 0 < sem.value ∧ s' = s.acquire n sourceId sem
  | .releaseSemaphore sourceId, .ok _ => s' = s.release n sourceId
  | .hasPool sourceId, .ok existing => existing = decide (sourceId ∈ s.pools) ∧ s' = s
  | .storePool sourceId, .ok _ => s' = { s with pools := s.pools ++ [sourceId] }
  | .leaseConnection sourceId _, .ok _ =>
    ∃ connection : Connection, connection.sourceId = sourceId ∧
      (∀ m, s.leases m ≠ some connection) ∧ s' = s.setLease n (some connection)
  | .addActive queryId, .ok _ =>
    ∃ connection, s.leases n = some connection ∧ s' = s.register n queryId connection
  | .popActive queryId, .ok _ => s' = { s with active := s.active.erase queryId }
  | .cancelReasonShutdown _, .ok shutdown => (shutdown = true → n ∈ s.reasons) ∧ s' = s
  | _, .ok _ => s' = s

/-- What an operation of the shutdown `k` answers and does. -/
def shutdownStep (k : Nat) (s : Executor) (o : ShutdownOp) (r : Except Exc (ShutdownRet o))
    (s' : Executor) : Prop :=
  match o, r with
  | .nextPool size _, .error e =>
    e = .runtimeError "dictionary changed size during iteration" ∧ s.pools.length ≠ size ∧ s' = s
  | o, .error e => o.suspends = true ∧ (e.isCancelled = true ∨ ∃ id, o = .closePool id) ∧ s' = s
  | .stopAccepting, .ok _ => s' = { s with accepting := false }
  | .accepting, .ok accepting => accepting = s.accepting ∧ s' = s
  | .deadlineReached _, .ok reached => s' = s.updateExpiry k fun x => { x with expired := reached }
  | .inflight, .ok (inflight : List Nat) =>
    (∀ n, n ∈ inflight ↔ n ∈ s.inflight) ∧ s' = s.observeInflight k
  | .active, .ok active => active = s.active.entries.map (·.2) ∧ s' = s
  | .cancelTask task, .ok _ =>
    s' = s.updateExpiry k fun x => { x with cancelled := insert task x.cancelled }
  | .setCancelReason query, .ok _ => s' = { s with reasons := insert query.task s.reasons }
  | .startCancelSafe connections, .ok _ => s' = s.startCancelSafe k connections
  | .waitTasks tasks, .ok (pending : List Nat) => pending ⊆ tasks ∧ s' = s
  | .nextPool size index, .ok pool => s.pools.length = size ∧ pool = s.pools[index]? ∧ s' = s
  | .poolCount, .ok size => size = s.pools.length ∧ s' = s
  | .clearPools, .ok _ => s' = { s with pools := [] }
  | _, .ok _ => s' = s

/-- Between the turns, a pending call of `cancel_safe` ends. -/
def cancelSafeEnds (s s' : Executor) : Prop :=
  ∃ before x after, s.pending = before ++ x :: after ∧ s' = { s with pending := before ++ after }

/-! ## The system -/

/-- The tasks: the calls of `execute`, and those of the shutdown methods. -/
inductive TaskId where
  | call (n : Nat)
  | shutdown (k : Nat)
  deriving DecidableEq

/-- The operations of a task. -/
abbrev TaskOp : TaskId → Type
  | .call _ => Op
  | .shutdown _ => ShutdownOp

/-- What they answer with. -/
abbrev TaskRet (Row : Type) : (i : TaskId) → TaskOp i → Type
  | .call _ => Ret Row
  | .shutdown _ => ShutdownRet

/-- What a task returns. -/
abbrev TaskResult (Json : Type) : TaskId → Type
  | .call _ => Response Json
  | .shutdown _ => Unit

/-- The programs that a task may run: `execute` for a registered source, and the shutdown methods.
-/
def starts {Row Json : Type} (registry : SourceRegistry) (encodeRow : RowEncoder Row Json) :
    (i : TaskId) → Prog (TaskRet Row i) Exc (TaskResult Json i) → Prop
  | .call _, p => ∃ sourceId source sql metadataRevision validated queryId,
    registry.get sourceId = some source ∧
      p = execute encodeRow source sql metadataRevision validated queryId
  | .shutdown _, p => ∃ fuel graceMs,
    p = Shutdown.stopAccepting ∨ p = Shutdown.drain fuel graceMs ∨ p = Shutdown.close fuel

/-- One executor with all its tasks. -/
def system {Row Json : Type} (registry : SourceRegistry) (encodeRow : RowEncoder Row Json) :
    System TaskId Executor (TaskRet Row) Exc (TaskResult Json) where
  starts := starts registry encodeRow
  suspends
    | .call _ => Op.suspends
    | .shutdown _ => ShutdownOp.suspends
  step
    | .call n => callStep n
    | .shutdown k => shutdownStep k
  env := cancelSafeEnds

/-- A configuration of the tasks. -/
abbrev Tasks (Row Json : Type) : Type := Config Executor (TaskRet Row) Exc (TaskResult Json)

/-- The configurations that can be reached from a new executor. -/
abbrev Reachable {Row Json : Type} (registry : SourceRegistry) (encodeRow : RowEncoder Row Json) :
    Tasks Row Json → Prop :=
  (system registry encodeRow).Reachable .initial

end QueryMan.PostgresQueryExecutor
