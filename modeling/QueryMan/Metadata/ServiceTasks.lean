import QueryMan.Coro.Tasks
import QueryMan.GuardedQuery.Executor
import QueryMan.Metadata.Sections

/-!
# The calls of the metadata service

Any number of calls of `get_context` and `get_published` on one `MetadataService`, and of
`QueryService.query`, which calls `get_published` and then the executor. They share the locks of the
sources and the states that the sections read and write (`Shared`), and lose their turn only where
the source awaits: taking the lock of a source, loading its catalog, executing a query. Every await
may return, raise or be cancelled, and a lock that is free is given to any of the calls that wait
for it.

What has become of the calls is kept in the shared state: the sections of each source in their
order, the responses, and the calls of the executor.
-/

namespace QueryMan.ServiceTasks

open Coro MetadataService

/-! ## Calls -/

/-- The arguments of `QueryService.query`. -/
structure QueryRequest where
  sourceId : String
  sql : String
  metadataRevision : String
  sqlPolicyRevision : String
  queryId : Option String
  deriving DecidableEq, Repr

/-- A call, known by its number and its arguments. -/
inductive TaskId where
  | context (n : Nat) (sourceId : String)
  | published (n : Nat) (sourceId : String)
  | query (n : Nat) (request : QueryRequest)
  deriving DecidableEq, Repr

/-- The source that a call is about. -/
def TaskId.sourceId : TaskId → String
  | .context _ sourceId | .published _ sourceId => sourceId
  | .query _ request => request.sourceId

/-- The arguments of `execute`. -/
structure ExecuteCall where
  source : SourceProfile
  sql : String
  metadataRevision : String
  validated : ValidatedSql
  queryId : Option String

/-- What `QueryService.query` returns. -/
structure QueryResponse where
  response : PostgresQueryExecutor.Response Python.Json
  sqlPolicyRevision : String

/-! ## Operations -/

/-- The operations of a call. -/
inductive Op where
  /-- the call begins -/
  | begin
  /-- `self._refresh_locks.setdefault(source_id, asyncio.Lock())` -/
  | refreshLock (sourceId : String)
  /-- the two ends of `async with lock`; at its end, what the section gives -/
  | lock (sourceId : String) (lock : Nat)
  | unlock (sourceId : String) (lock : Nat) (result : Except ServiceExc (PreparedMetadata × Bool))
  /-- an operation of the section -/
  | inSection (sourceId : String) (lock : Nat) (o : SectionOp)
  /-- `operations.increment` -/
  | increment (name sourceId : String)
  /-- the response of `get_context` -/
  | respond (response : ContextResponse)
  /-- `self._executor.execute` -/
  | execute (call : ExecuteCall)

/-- What an operation answers with. -/
def Ret : Op → Type
  | .refreshLock _ => Nat
  | .inSection _ _ o => SectionRet o
  | .execute _ => PostgresQueryExecutor.Response Python.Json
  | _ => Unit

/-- The operations that can suspend a call. -/
def Op.suspends : Op → Bool
  | .lock _ _ | .execute _ => true
  | .inSection _ _ (.catalog o) => o.suspends
  | _ => false

/-- The programs of a call. -/
abbrev Call (α : Type) : Type := Prog Ret ServiceExc α

/-- Call an operation. -/
def perform (o : Op) : Call (Ret o) :=
  Prog.perform o

/-! ## The functions of the source -/

section

variable (service : MetadataService)

/-- `_get_prepared`. -/
def getPrepared (source : SourceProfile) : Call (PreparedMetadata × Bool) := do
  let lock : Nat ← perform (.refreshLock source.sourceId)
  perform (.lock source.sourceId lock)
  ((service.lockedSection source).interpret fun o =>
      perform (.inSection source.sourceId lock o)).finallyWith
    fun result => perform (.unlock source.sourceId lock result)

/-- `get_context`. -/
def getContext (sourceId : String) : Call ContextResponse :=
  match service.registry.get sourceId with
  | none => throw .sourceNotFound
  | some source => do
    let prepared : PreparedMetadata × Bool ← getPrepared service source
    let response : ContextResponse ←
      .lift (contextResponse service.sha256 source prepared.1 prepared.2)
    perform (.respond response)
    pure response

/-- `get_published`. -/
def getPublished (sourceId : String) : Call PreparedMetadata :=
  match service.registry.get sourceId with
  | none => throw .sourceNotFound
  | some source => do
    let prepared : PreparedMetadata × Bool ← getPrepared service source
    pure prepared.1

/-- `except MetadataUnavailableError` of `query`. -/
def metadataUnavailable (e : ServiceExc) : Call PreparedMetadata :=
  match e with
  | .metadataUnavailable _ (some (.exc .readerSessionPolicyError)) =>
    throw (.ofExc (.app .queryUnavailable))
  | e => throw e

variable (parser : SqlParser)

/-- The arguments of `validate_sql`. -/
def sqlLimits (source : SourceProfile) (published : PreparedMetadata) : SqlLimits where
  allowedRelations := published.snapshot.relations.map (·.qualifiedName)
  maxSqlBytes := source.budget.maxSqlBytes

/-- What `query` does with the published snapshot. -/
def queryPublished (source : SourceProfile) (request : QueryRequest)
    (published : PreparedMetadata) :
    Call QueryResponse :=
  if request.metadataRevision ≠ published.revision ∨
      request.sqlPolicyRevision ≠ sqlPolicyRevision service.sha256 then do
    perform (.increment "query_revision_rejected" source.sourceId)
    throw .revisionMismatch
  else
    match validateSql parser (sqlLimits source published) request.sql with
    | .error error => do
      perform (.increment "query_rejected" source.sourceId)
      throw (.ofExc (.app (.queryRejected error.code error.rejectedConstruct)))
    | .ok validated => do
      let response : PostgresQueryExecutor.Response Python.Json ← perform (.execute
        { source := source
          sql := request.sql
          metadataRevision := published.revision
          validated := validated
          queryId := request.queryId })
      pure ⟨response, sqlPolicyRevision service.sha256⟩

/-- `QueryService.query`; its registry is that of the metadata service. -/
def query (request : QueryRequest) : Call QueryResponse :=
  match service.registry.get request.sourceId with
  | none => throw .sourceNotFound
  | some source => do
    let published : PreparedMetadata ←
      (getPublished service request.sourceId).tryCatch metadataUnavailable
    queryPublished service parser source request published

end

/-! ## The shared state -/

/-- Who holds a lock, with the state of the source when the lock was taken and what has happened
since. -/
structure Holder where
  task : TaskId
  before : SourceState
  history : List (Exchange SectionRet ServiceExc)

/-- A call of the executor. -/
structure Execution where
  task : TaskId
  call : ExecuteCall

/-- The service with what has become of its calls. -/
structure Shared where
  /-- the calls that have begun -/
  begun : List TaskId
  /-- `_refresh_locks` -/
  refreshLocks : String → Option Nat
  /-- how many locks there are -/
  created : Nat
  /-- who holds a lock -/
  holders : Nat → Option Holder
  /-- `_cache` and `_view_structure_signatures` of each source, with the rest of its state -/
  sources : String → SourceState
  /-- the calls that have taken the lock of a source, in their order -/
  acquired : String → List TaskId
  /-- the sections of a source that have ended, in their order -/
  sections : String → List (SectionRecord TaskId)
  responses : List ContextResponse
  executions : List Execution

/-- A new service. -/
def Shared.initial : Shared where
  begun := []
  refreshLocks := fun _ => none
  created := 0
  holders := fun _ => none
  sources := fun _ => .initial
  acquired := fun _ => []
  sections := fun _ => []
  responses := []
  executions := []

namespace Shared

/-- `setdefault` stores a new lock. -/
def newLock (s : Shared) (sourceId : String) : Shared :=
  { s with
    refreshLocks := Function.update s.refreshLocks sourceId (some s.created)
    created := s.created + 1 }

/-- A call takes the lock of a source. -/
def acquire (s : Shared) (i : TaskId) (sourceId : String) (lock : Nat) : Shared :=
  { s with
    holders := Function.update s.holders lock (some ⟨i, s.sources sourceId, []⟩)
    acquired := Function.update s.acquired sourceId (s.acquired sourceId ++ [i]) }

/-- The holder of a lock performs an operation of its section. -/
def advance (s : Shared) (sourceId : String) (lock : Nat) (holder : Holder) (state : SourceState)
    (exchange : Exchange SectionRet ServiceExc) : Shared :=
  { s with
    sources := Function.update s.sources sourceId state
    holders := Function.update s.holders lock
      (some { holder with history := holder.history ++ [exchange] }) }

/-- The record of a section that ends. -/
def recordOf (s : Shared) (sourceId : String) (holder : Holder)
    (result : Except ServiceExc (PreparedMetadata × Bool)) : SectionRecord TaskId where
  task := holder.task
  before := holder.before
  history := holder.history
  result := result
  after := s.sources sourceId

/-- The holder of a lock releases it. -/
def release (s : Shared) (sourceId : String) (lock : Nat) (holder : Holder)
    (result : Except ServiceExc (PreparedMetadata × Bool)) : Shared :=
  { s with
    holders := Function.update s.holders lock none
    sections := Function.update s.sections sourceId
      (s.sections sourceId ++ [s.recordOf sourceId holder result]) }

end Shared

/-! ## Steps -/

variable (service : MetadataService) (parser : SqlParser)

/-- What an operation of the call `i` answers and does. A call has its number for itself, and an
await other than that of the lock may raise anything. -/
def step (i : TaskId) (s : Shared) (o : Op) (r : Except ServiceExc (Ret o)) (s' : Shared) : Prop :=
  match o, r with
  | .inSection sourceId lock o, r =>
    ∃ holder, s.holders lock = some holder ∧
      service.sectionWorld.allowed (s.sources sourceId) o r ∧
      s' = s.advance sourceId lock holder
        (service.sectionWorld.next (s.sources sourceId) o r) ⟨o, r⟩
  | .lock _ _, .error e => (∃ x : Exc, e = .ofExc x ∧ x.isCancelled = true) ∧ s' = s
  | .execute call, .error e =>
    (∃ x, e = .ofExc x) ∧ s' = { s with executions := s.executions ++ [⟨i, call⟩] }
  | _, .error _ => False
  | .begin, .ok _ => i ∉ s.begun ∧ s' = { s with begun := s.begun ++ [i] }
  | .refreshLock sourceId, .ok (lock : Nat) =>
    match s.refreshLocks sourceId with
    | some existing => lock = existing ∧ s' = s
    | none => lock = s.created ∧ s' = s.newLock sourceId
  | .lock sourceId lock, .ok _ => s.holders lock = none ∧ s' = s.acquire i sourceId lock
  | .unlock sourceId lock result, .ok _ =>
    ∃ holder, s.holders lock = some holder ∧ s' = s.release sourceId lock holder result
  | .increment _ _, .ok _ => s' = s
  | .respond response, .ok _ => s' = { s with responses := s.responses ++ [response] }
  | .execute call, .ok _ => s' = { s with executions := s.executions ++ [⟨i, call⟩] }

/-- `setdefault` answers the lock that is stored, or stores a new one. -/
theorem step_refreshLock (i : TaskId) {s s' : Shared} {sourceId : String} {lock : Nat}
    (h : step service i s (.refreshLock sourceId) (.ok lock) s') :
    (s.refreshLocks sourceId = some lock ∧ s' = s) ∨
      (s.refreshLocks sourceId = none ∧ lock = s.created ∧ s' = s.newLock sourceId) := by
  unfold step at h
  dsimp only at h
  split at h
  · next existing hexisting =>
    obtain ⟨rfl, rfl⟩ := h
    exact .inl ⟨hexisting, rfl⟩
  · next hnone => exact .inr ⟨hnone, h⟩

/-- What a call returns. -/
abbrev TaskResult : TaskId → Type
  | .context _ _ => ContextResponse
  | .published _ _ => PreparedMetadata
  | .query _ _ => QueryResponse

/-- The program of a call, after its begin. -/
def program : (i : TaskId) → Prog Ret ServiceExc (TaskResult i)
  | .context _ sourceId => getContext service sourceId
  | .published _ sourceId => getPublished service sourceId
  | .query _ request => query service parser request

/-- The service with all its calls. -/
def system : System TaskId Shared (fun _ => Ret) ServiceExc TaskResult where
  starts := fun i p => p = (perform .begin >>= fun _ => program service parser i)
  suspends := fun _ => Op.suspends
  step := step service
  env := fun _ _ => False

end QueryMan.ServiceTasks
