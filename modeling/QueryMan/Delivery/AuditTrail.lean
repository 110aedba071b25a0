import QueryMan.Coro.Tasks
import QueryMan.Delivery.Gateway
import QueryMan.GuardedQuery.Relations

/-!
# The audit trail of the gateway

Any number of calls of the gateway take turns and write audit records. Those of a query id are the
start of one query and, once this has ended, its end. While no call has the turn, the queries that
have a start and no end are those that wait for the query service (`auditTrail_complete`). What the
query executor logs itself is not a record of the gateway.
-/

namespace QueryMan.GatewayService

open Coro
open ServiceTasks (QueryRequest QueryResponse)

/-! ## The calls -/

/-- A call, known by its number and its arguments. -/
inductive TaskId where
  | context (n : Nat) (caller : CallerContext) (sourceId : String)
  | query (n : Nat) (caller : CallerContext) (request : QueryRequest)
  deriving DecidableEq

/-- What a call returns. -/
def TaskResult : TaskId → Type
  | .context .. => ContextResponse
  | .query .. => QueryResponse

/-- The body of a call. -/
def body (registry : SourceRegistry) (names : Names) : (i : TaskId) → Call (TaskResult i)
  | .context _ caller sourceId => getContext registry caller sourceId
  | .query _ caller request => query registry names caller request

/-- What the calls share: the audit records of the gateway, with the query ids that were given out,
and the last one that each call was given. -/
structure Shared where
  audit : List LogRecord
  issued : List String
  running : TaskId → Option String

/-- Before the first call. -/
def Shared.initial : Shared :=
  ⟨[], [], fun _ => none⟩

/-- What an operation answers and does. The services answer anything, and `uuid4` does not repeat
itself. -/
def step (i : TaskId) (s : Shared) : (o : Op) → Except ServiceExc (Ret o) → Shared → Prop
  | .uuid4, r, s' => ∃ id : String, id ∉ s.issued ∧ r = .ok id ∧
      s' = { s with issued := id :: s.issued, running := Function.update s.running i (some id) }
  | .log record, r, s' => r = .ok () ∧ s' = { s with audit := s.audit ++ [record] }
  | .increment _ _, r, s' => r = .ok () ∧ s' = s
  | .query _, _, s' => s' = s
  | .getContext _, _, s' => s' = s

/-- The calls of the gateway. -/
def system (registry : SourceRegistry) (names : Names) :
    System TaskId Shared (fun _ => Ret) ServiceExc TaskResult where
  starts := fun i p => p = body registry names i
  suspends := fun _ => Op.suspends
  step := step
  env := fun _ _ => False

/-! ## The trail of a query id -/

/-- The text of a field. -/
def textField (key : String) (record : LogRecord) : Option String :=
  match record.extra.lookup key with
  | some (.str text) => some text
  | _ => none

/-- The records of a query id. -/
def Shared.trail (s : Shared) (queryId : String) : List LogRecord :=
  s.audit.filter fun record => textField "query_id" record == some queryId

@[simp] theorem queryId_deniedRecord {caller : CallerContext} {operation : String} :
    textField "query_id" (deniedRecord caller operation) = none :=
  rfl

@[simp] theorem sourceId_deniedRecord {caller : CallerContext} {operation : String} :
    textField "source_id" (deniedRecord caller operation) = none :=
  rfl

section Fields
variable {names : Names} {caller : CallerContext} {queryId sourceId : String}

@[simp] theorem queryId_startedRecord :
    textField "query_id" (startedRecord caller queryId sourceId) = some queryId :=
  rfl

@[simp] theorem sourceId_startedRecord :
    textField "source_id" (startedRecord caller queryId sourceId) = some sourceId :=
  rfl

/-- A record of an end has the two ids. -/
theorem fields_endedRecord {r : Except ServiceExc QueryResponse} :
    textField "query_id" (endedRecord names caller queryId sourceId r) = some queryId ∧
      textField "source_id" (endedRecord names caller queryId sourceId r) = some sourceId := by
  cases r with
  | ok result => exact ⟨rfl, rfl⟩
  | error e =>
    rw [endedRecord, failedRecord]
    split
    · exact ⟨rfl, rfl⟩
    · split <;> exact ⟨rfl, rfl⟩

end Fields

/-! ## The contract -/

/-- The query has a start and no end. -/
def Shared.Open (s : Shared) (caller : CallerContext) (queryId sourceId : String) : Prop :=
  s.trail queryId = [startedRecord caller queryId sourceId]

/-- The query has a start, and an end that says how it ended. -/
def Shared.Closed (names : Names) (s : Shared) (caller : CallerContext) (queryId sourceId : String)
    (r : Except ServiceExc QueryResponse) : Prop :=
  s.trail queryId =
    [startedRecord caller queryId sourceId, endedRecord names caller queryId sourceId r]

/-- The last query of a call has ended. -/
def Shared.Settled (names : Names) (s : Shared) (i : TaskId) : Prop :=
  ∀ queryId, s.running i = some queryId →
    ∃ caller sourceId r, s.Closed names caller queryId sourceId r

/-- The invariant of the log. -/
structure LogInv (registry : SourceRegistry) (names : Names) (s : Shared) : Prop where
  issued : ∀ i queryId, s.running i = some queryId → queryId ∈ s.issued
  own : ∀ i j queryId, s.running i = some queryId → s.running j = some queryId → i = j
  empty : ∀ queryId, queryId ∉ s.issued → s.trail queryId = []
  trail : ∀ queryId, s.trail queryId = [] ∨ ∃ caller sourceId,
    (s.Open caller queryId sourceId ∧ ∃ i, s.running i = some queryId) ∨
      ∃ r, s.Closed names caller queryId sourceId r
  /-- only sources of the registry are named -/
  registered : ∀ record ∈ s.audit, ∀ sourceId, textField "source_id" record = some sourceId →
    (registry.get sourceId).isSome

/-- What a call relies on: the query that it has open is its own. -/
structure Rely (i : TaskId) (s s' : Shared) : Prop where
  running : s'.running i = s.running i
  trail : ∀ queryId, s.running i = some queryId → s'.trail queryId = s.trail queryId

/-- What a call must find where it performs an operation. -/
def gate (registry : SourceRegistry) (names : Names) (i : TaskId) (s : Shared) : Op → Prop
  | .increment _ sourceId => (registry.get sourceId).isSome
  | .uuid4 => s.Settled names i
  | .log record =>
    (∃ caller operation, record = deniedRecord caller operation) ∨
      ∃ caller queryId sourceId, s.running i = some queryId ∧ (registry.get sourceId).isSome ∧
        ((record = startedRecord caller queryId sourceId ∧ s.trail queryId = []) ∨
          ∃ r, record = endedRecord names caller queryId sourceId r ∧
            s.Open caller queryId sourceId)
  | .query request => ∃ n caller call queryId, i = .query n caller call ∧
      request = { call with queryId := some queryId } ∧ s.running i = some queryId ∧
      (registry.get request.sourceId).isSome ∧ s.Open caller queryId request.sourceId
  | .getContext sourceId => (∃ n caller, i = .context n caller sourceId) ∧
      (registry.get sourceId).isSome ∧ s.Settled names i

/-- How a call ends: a source that is not registered was denied, and the end of a query is that of
its trail. -/
def Ended (registry : SourceRegistry) (names : Names) :
    (i : TaskId) → Except ServiceExc (TaskResult i) → Shared → Prop
  | .context _ caller sourceId, r, s =>
    (registry.get sourceId = none ∧ r = .error .sourceNotFound ∧
      deniedRecord caller "get_context" ∈ s.audit) ∨ (registry.get sourceId).isSome
  | .query _ caller request, r, s =>
    (registry.get request.sourceId = none ∧ r = .error .sourceNotFound ∧
      deniedRecord caller "query" ∈ s.audit) ∨
      ∃ queryId, s.Closed names caller queryId request.sourceId r

/-- The contract. -/
def contract (registry : SourceRegistry) (names : Names) : Contract (system registry names) where
  inv := LogInv registry names
  rely := Rely
  gate := gate registry names
  idle := fun i s => s.Settled names i
  returned := fun i a s => s.Settled names i ∧ Ended registry names i (.ok a) s
  raised := fun i e s => s.Settled names i ∧ Ended registry names i (.error e) s

/-! ## What a record leaves -/

section
variable {registry : SourceRegistry} {names : Names} {s s' s'' : Shared} {i j : TaskId}
  {record : LogRecord} {caller : CallerContext} {queryId sourceId : String}

/-- The log with one more record. -/
def Shared.write (s : Shared) (record : LogRecord) : Shared :=
  { s with audit := s.audit ++ [record] }

theorem trail_write_of_ne (h : textField "query_id" record ≠ some queryId) :
    (s.write record).trail queryId = s.trail queryId := by
  show (s.audit ++ [record]).filter _ = s.audit.filter _
  simp [h]

theorem trail_write (h : textField "query_id" record = some queryId) :
    (s.write record).trail queryId = s.trail queryId ++ [record] := by
  show (s.audit ++ [record]).filter _ = s.audit.filter _ ++ [record]
  simp [h]

theorem LogInv.registered_write (h : LogInv registry names s)
    (hrecord : ∀ sourceId, textField "source_id" record = some sourceId →
      (registry.get sourceId).isSome) :
    ∀ r ∈ (s.write record).audit, ∀ sourceId, textField "source_id" r = some sourceId →
      (registry.get sourceId).isSome := by
  intro r hr sourceId hsource
  rcases List.mem_append.1 hr with hr | hr
  · exact h.registered r hr sourceId hsource
  · obtain rfl := List.mem_singleton.1 hr
    exact hrecord sourceId hsource

/-- A record without a query id. -/
theorem LogInv.write_denied {operation : String} (h : LogInv registry names s) :
    LogInv registry names (s.write (deniedRecord caller operation)) := by
  have htrail : ∀ queryId, (s.write (deniedRecord caller operation)).trail queryId =
      s.trail queryId := fun queryId => trail_write_of_ne (by simp)
  refine ⟨h.issued, h.own, fun queryId hno => ?_, fun queryId => ?_, h.registered_write (by simp)⟩
  · rw [htrail]
    exact h.empty queryId hno
  · simp only [Shared.Open, Shared.Closed, htrail]
    exact h.trail queryId

/-- A record about the open query of a call. -/
theorem LogInv.write_own (h : LogInv registry names s) (hrunning : s.running i = some queryId)
    (hid : textField "query_id" record = some queryId)
    (hsource : textField "source_id" record = some sourceId)
    (hregistered : (registry.get sourceId).isSome)
    (htrail : ∃ caller, (s.write record).Open caller queryId sourceId ∨
      ∃ r, (s.write record).Closed names caller queryId sourceId r) :
    LogInv registry names (s.write record) := by
  have hother : ∀ id, id ≠ queryId → (s.write record).trail id = s.trail id := by
    intro id hne
    refine trail_write_of_ne ?_
    rw [hid]
    exact fun heq => hne (Option.some.inj heq).symm
  refine ⟨h.issued, h.own, fun id hno => ?_, fun id => ?_, h.registered_write ?_⟩
  · have hne : id ≠ queryId := by
      rintro rfl
      exact hno (h.issued i _ hrunning)
    rw [hother id hne]
    exact h.empty id hno
  · by_cases heq : id = queryId
    · subst heq
      obtain ⟨caller, hopen | hclosed⟩ := htrail
      · exact .inr ⟨caller, sourceId, .inl ⟨hopen, i, hrunning⟩⟩
      · exact .inr ⟨caller, sourceId, .inr hclosed⟩
    · simp only [Shared.Open, Shared.Closed, hother id heq]
      exact h.trail id
  · intro sourceId' hsource'
    obtain rfl := Option.some.inj (hsource.symm.trans hsource')
    exact hregistered

/-- A record about an open query leaves the queries of the other calls. -/
theorem rely_write (h : LogInv registry names s)
    (hid : ∀ id, textField "query_id" record = some id → s.running i = some id) (hne : j ≠ i) :
    Rely j s (s.write record) := by
  refine ⟨rfl, fun id hrunning => trail_write_of_ne fun heq => ?_⟩
  exact hne (h.own j i id hrunning (hid id heq))

theorem Rely.refl (i : TaskId) (s : Shared) : Rely i s s :=
  ⟨rfl, fun _ _ => rfl⟩

theorem Rely.trans (h : Rely i s s') (h' : Rely i s' s'') : Rely i s s'' := by
  refine ⟨h'.running.trans h.running, fun id hrunning => ?_⟩
  exact (h'.trail id (h.running.trans hrunning)).trans (h.trail id hrunning)

theorem Rely.settled (h : Rely i s s') (hsettled : s.Settled names i) : s'.Settled names i := by
  intro id hrunning
  rw [h.running] at hrunning
  obtain ⟨caller, sourceId, r, hclosed⟩ := hsettled id hrunning
  exact ⟨caller, sourceId, r, (h.trail id hrunning).trans hclosed⟩

/-- A new query id. -/
theorem LogInv.issue (h : LogInv registry names s) (hsettled : s.Settled names i)
    (hfresh : queryId ∉ s.issued) :
    LogInv registry names { s with
      issued := queryId :: s.issued
      running := Function.update s.running i (some queryId) } := by
  have hrunning : ∀ j id, Function.update s.running i (some queryId) j = some id →
      (j = i ∧ id = queryId) ∨ (j ≠ i ∧ s.running j = some id) := by
    intro j id hj
    by_cases hne : j = i
    · subst hne
      rw [Function.update_self] at hj
      exact .inl ⟨rfl, (Option.some.inj hj).symm⟩
    · rw [Function.update_of_ne hne] at hj
      exact .inr ⟨hne, hj⟩
  refine ⟨fun j id hj => ?_, fun j k id hj hk => ?_, fun id hno => ?_, fun id => ?_, h.registered⟩
  · rcases hrunning j id hj with ⟨-, rfl⟩ | ⟨-, hj⟩
    · exact List.mem_cons_self
    · exact List.mem_cons_of_mem _ (h.issued j id hj)
  · rcases hrunning j id hj with ⟨rfl, rfl⟩ | ⟨-, hj'⟩
    · rcases hrunning k id hk with ⟨rfl, -⟩ | ⟨-, hk⟩
      · rfl
      · exact absurd (h.issued k id hk) hfresh
    · rcases hrunning k id hk with ⟨-, rfl⟩ | ⟨-, hk'⟩
      · exact absurd (h.issued j id hj') hfresh
      · exact h.own j k id hj' hk'
  · exact h.empty id fun hmem => hno (List.mem_cons_of_mem _ hmem)
  · rcases h.trail id with hnone | ⟨caller, sourceId, ⟨hopen, j, hj⟩ | hclosed⟩
    · exact .inl hnone
    · refine .inr ⟨caller, sourceId, .inl ⟨hopen, j, ?_⟩⟩
      -- the call itself has no open query
      have hne : j ≠ i := by
        rintro rfl
        obtain ⟨caller', sourceId', r, hclosed⟩ := hsettled id hj
        have hlength := congrArg List.length (hopen.symm.trans hclosed)
        cases hlength
      show Function.update s.running i (some queryId) j = some id
      rw [Function.update_of_ne hne]
      exact hj
    · exact .inr ⟨caller, sourceId, .inr hclosed⟩

theorem rely_issue (hne : j ≠ i) {issued : List String} :
    Rely j s { s with issued := issued, running := Function.update s.running i (some queryId) } :=
  ⟨Function.update_of_ne hne .., fun _ _ => rfl⟩

/-- **Every operation keeps the log**, and leaves the queries of the other calls. -/
theorem guarantee {o : Op} {r : Except ServiceExc (Ret o)} (h : LogInv registry names s)
    (hgate : gate registry names i s o) (hstep : step i s o r s') :
    LogInv registry names s' ∧ ∀ j, j ≠ i → Rely j s s' := by
  cases o with
  | increment name sourceId =>
    obtain ⟨-, rfl⟩ := hstep
    exact ⟨h, fun j _ => .refl j _⟩
  | uuid4 =>
    obtain ⟨id, hfresh, -, rfl⟩ := hstep
    exact ⟨h.issue hgate hfresh, fun j hne => rely_issue hne⟩
  | log record =>
    obtain ⟨-, rfl⟩ := hstep
    show LogInv registry names (s.write record) ∧ ∀ j, j ≠ i → Rely j s (s.write record)
    rcases hgate with ⟨caller, operation, rfl⟩
      | ⟨caller, id, sourceId, hrunning, hregistered, hcase⟩
    · exact ⟨h.write_denied, fun j hne => rely_write (i := i) h (by simp) hne⟩
    · have hids : textField "query_id" record = some id ∧
          textField "source_id" record = some sourceId := by
        rcases hcase with ⟨rfl, -⟩ | ⟨outcome, rfl, -⟩
        · exact ⟨rfl, rfl⟩
        · exact fields_endedRecord
      refine ⟨h.write_own hrunning hids.1 hids.2 hregistered ⟨caller, ?_⟩,
        fun j hne => rely_write h (fun id' hid' => ?_) hne⟩
      · rcases hcase with ⟨rfl, hempty⟩ | ⟨outcome, rfl, hopen⟩
        · exact .inl ((trail_write hids.1).trans (by rw [hempty]; rfl))
        · exact .inr ⟨outcome, (trail_write hids.1).trans (by rw [hopen]; rfl)⟩
      · rw [hids.1] at hid'
        exact hrunning.trans hid'
  | query request =>
    obtain rfl := hstep
    exact ⟨h, fun j _ => .refl j _⟩
  | getContext sourceId =>
    obtain rfl := hstep
    exact ⟨h, fun j _ => .refl j _⟩

end

/-! ## The calls meet the contract -/

section
variable {registry : SourceRegistry} {names : Names} {i : TaskId} {caller : CallerContext}
  {queryId sourceId : String}

/-- The call has the query id, and no record of it is written. -/
def Shared.Fresh (s : Shared) (i : TaskId) (queryId : String) : Prop :=
  s.running i = some queryId ∧ s.trail queryId = []

/-- The call has the query open. -/
def Shared.Running (s : Shared) (i : TaskId) (caller : CallerContext) (queryId sourceId : String) :
    Prop :=
  s.running i = some queryId ∧ s.Open caller queryId sourceId

/-- The query of the call has ended. -/
def Shared.Over (names : Names) (s : Shared) (i : TaskId) (caller : CallerContext)
    (queryId sourceId : String) (r : Except ServiceExc QueryResponse) : Prop :=
  s.running i = some queryId ∧ s.Closed names caller queryId sourceId r

theorem Shared.Over.settled {s : Shared} {r : Except ServiceExc QueryResponse}
    (h : s.Over names i caller queryId sourceId r) : s.Settled names i := by
  intro id hid
  obtain rfl := Option.some.inj (h.1.symm.trans hid)
  exact ⟨caller, sourceId, r, h.2⟩

variable {P : Shared → Prop} {E : ServiceExc → Shared → Prop}

/-- A source that is not registered is denied. -/
theorem safe_requireSource {operation : String} :
    SafeTriple ((contract registry names).view i) (fun s => s.Settled names i)
      (requireSource registry caller sourceId operation)
      (fun _ s => (registry.get sourceId).isSome ∧ s.Settled names i)
      fun e s => s.Settled names i ∧ registry.get sourceId = none ∧ e = .sourceNotFound ∧
        deniedRecord caller operation ∈ s.audit := by
  refine SafeTriple.ite (fun hsome => ?_) fun hnone => ?_
  · exact SafeTriple.pure.weaken_pre fun s hs => ⟨hsome, hs⟩
  · refine SafeTriple.bind (Q := fun _ s => s.Settled names i ∧
      deniedRecord caller operation ∈ s.audit) (Contract.perform_now rfl fun s hinv hs =>
        ?_) fun _ s hs => ?_
    · refine ⟨.inl ⟨caller, operation, rfl⟩, ?_⟩
      rintro r s' ⟨rfl, rfl⟩
      refine ⟨fun id hid => ?_, List.mem_append_right _ (List.mem_singleton.2 rfl)⟩
      obtain ⟨caller', sourceId', outcome, hclosed⟩ := hs id hid
      exact ⟨caller', sourceId', outcome, (trail_write_of_ne (by simp)).trans hclosed⟩
    · exact ⟨hs.1, Option.not_isSome_iff_eq_none.1 hnone, rfl, hs.2⟩

theorem safe_uuid4 :
    SafeTriple ((contract registry names).view i)
      (fun s => (registry.get sourceId).isSome ∧ s.Settled names i) (perform .uuid4)
      (fun id s => (registry.get sourceId).isSome ∧ s.Fresh i id) E := by
  refine Contract.perform_now rfl fun s hinv hs => ⟨hs.2, ?_⟩
  rintro r s' ⟨id, hfresh, rfl, rfl⟩
  exact ⟨hs.1, Function.update_self .., hinv.empty id hfresh⟩

theorem safe_started :
    SafeTriple ((contract registry names).view i)
      (fun s => (registry.get sourceId).isSome ∧ s.Fresh i queryId)
      (perform (.log (startedRecord caller queryId sourceId)))
      (fun _ s => (registry.get sourceId).isSome ∧ s.Running i caller queryId sourceId) E := by
  refine Contract.perform_now rfl fun s hinv hs => ?_
  obtain ⟨hregistered, hrunning, hempty⟩ := hs
  refine ⟨.inr ⟨caller, queryId, sourceId, hrunning, hregistered, .inl ⟨rfl, hempty⟩⟩, ?_⟩
  rintro r s' ⟨rfl, rfl⟩
  refine ⟨hregistered, hrunning, (trail_write queryId_startedRecord).trans ?_⟩
  rw [hempty]
  rfl

theorem safe_ended {r : Except ServiceExc QueryResponse} :
    SafeTriple ((contract registry names).view i)
      (fun s => (registry.get sourceId).isSome ∧ s.Running i caller queryId sourceId)
      (perform (.log (endedRecord names caller queryId sourceId r)))
      (fun _ s => s.Over names i caller queryId sourceId r) E := by
  refine Contract.perform_now rfl fun s hinv hs => ?_
  obtain ⟨hregistered, hrunning, hopen⟩ := hs
  refine ⟨.inr ⟨caller, queryId, sourceId, hrunning, hregistered, .inr ⟨r, rfl, hopen⟩⟩, ?_⟩
  rintro r' s' ⟨rfl, rfl⟩
  refine ⟨hrunning, (trail_write fields_endedRecord.1).trans ?_⟩
  rw [show s.trail queryId = _ from hopen]
  rfl

/-- The query that a call has open stays open while it waits. -/
theorem safe_query {n : Nat} {call : QueryRequest} :
    SafeTriple ((contract registry names).view (.query n caller call))
      (fun s => (registry.get call.sourceId).isSome ∧
        s.Running (.query n caller call) caller queryId call.sourceId)
      (perform (.query { call with queryId := some queryId }))
      (fun _ s => (registry.get call.sourceId).isSome ∧
        s.Running (.query n caller call) caller queryId call.sourceId)
      fun _ s => (registry.get call.sourceId).isSome ∧
        s.Running (.query n caller call) caller queryId call.sourceId := by
  refine Contract.perform_await rfl fun s s₁ _ hs hrely => ?_
  obtain ⟨hregistered, hrunning, hopen⟩ := hs
  have hstays : s₁.Running (.query n caller call) caller queryId call.sourceId :=
    ⟨hrely.running.trans hrunning, (hrely.trail queryId hrunning).trans hopen⟩
  refine ⟨⟨n, caller, call, queryId, rfl, rfl, hstays.1, hregistered, hstays.2⟩, ?_⟩
  intro r s' hstep
  obtain rfl : s' = s₁ := hstep
  cases r with
  | ok result => exact ⟨hregistered, hstays⟩
  | error e => exact ⟨hregistered, hstays⟩

/-- `query`. -/
theorem meets_query {n : Nat} {request : QueryRequest} :
    SafeTriple ((contract registry names).view (.query n caller request))
      (fun s => s.Settled names (.query n caller request))
      (query registry names caller request)
      (fun a s => s.Settled names (.query n caller request) ∧
        Ended registry names (.query n caller request) (.ok a) s)
      fun e s => s.Settled names (.query n caller request) ∧
        Ended registry names (.query n caller request) (.error e) s := by
  have hover : ∀ (s : Shared) (queryId : String) (r : Except ServiceExc QueryResponse),
      s.Over names (.query n caller request) caller queryId request.sourceId r →
      s.Settled names (.query n caller request) ∧
        Ended registry names (.query n caller request) r s :=
    fun s queryId r h => ⟨h.settled, .inr ⟨queryId, h.2⟩⟩
  refine SafeTriple.bind (safe_requireSource.weaken_exc ?_) fun _ => ?_
  · rintro e s ⟨hsettled, hnone, rfl, hdenied⟩
    exact ⟨hsettled, .inl ⟨hnone, rfl, hdenied⟩⟩
  refine SafeTriple.bind (Q := fun _ s => (registry.get request.sourceId).isSome ∧
    s.Settled names (.query n caller request))
      (Contract.perform_now rfl fun s hinv hs => ⟨hs.1, ?_⟩)
    fun _ => ?_
  · rintro r s' ⟨rfl, rfl⟩
    exact hs
  refine SafeTriple.bind safe_uuid4 fun queryId => ?_
  refine SafeTriple.bind safe_started fun _ => ?_
  refine SafeTriple.bind (SafeTriple.tryCatch safe_query fun e => ?_) fun result => ?_
  · refine SafeTriple.bind (safe_ended (r := .error e)) fun _ s hs => ?_
    exact hover s queryId _ hs
  · refine SafeTriple.bind (safe_ended (r := .ok result)) fun _ s hs => ?_
    exact hover s queryId _ hs

/-- `get_context`. -/
theorem meets_getContext {n : Nat} :
    SafeTriple ((contract registry names).view (.context n caller sourceId))
      (fun s => s.Settled names (.context n caller sourceId)) (getContext registry caller sourceId)
      (fun a s => s.Settled names (.context n caller sourceId) ∧
        Ended registry names (.context n caller sourceId) (.ok a) s)
      fun e s => s.Settled names (.context n caller sourceId) ∧
        Ended registry names (.context n caller sourceId) (.error e) s := by
  refine SafeTriple.bind (safe_requireSource.weaken_exc ?_) fun _ => ?_
  · rintro e s ⟨hsettled, hnone, rfl, hdenied⟩
    exact ⟨hsettled, .inl ⟨hnone, rfl, hdenied⟩⟩
  refine Contract.perform_await rfl fun s s₁ _ hs hrely => ?_
  have hsettled := hrely.settled hs.2
  refine ⟨⟨⟨n, caller, rfl⟩, hs.1, hsettled⟩, fun r s' hstep => ?_⟩
  obtain rfl : s' = s₁ := hstep
  cases r with
  | ok response => exact ⟨hsettled, .inr hs.1⟩
  | error e => exact ⟨hsettled, .inr hs.1⟩

/-- The contract has its laws. -/
theorem lawful : (contract registry names).Lawful where
  rely_refl := Rely.refl
  rely_trans := fun _ _ _ _ h h' => h.trans h'
  guarantee := fun _ _ _ _ _ hinv hgate hstep => guarantee hinv hgate hstep
  env_guarantee := fun _ _ _ h => h.elim
  idle_stable := fun _ _ _ h hsettled => h.settled hsettled
  meets := by
    intro i p s hstart _ hidle
    obtain rfl : p = body registry names i := hstart
    cases i with
    | context n caller sourceId => exact meets_getContext s hidle
    | query n caller request => exact meets_query s hidle
  idle_of_returned := fun _ _ _ h => h.1
  idle_of_raised := fun _ _ _ h => h.1

theorem logInv_initial : LogInv registry names .initial where
  issued := nofun
  own := nofun
  empty := fun _ _ => rfl
  trail := fun _ => .inl rfl
  registered := fun _ h => absurd h List.not_mem_nil

end

/-! ## The trail -/

/-- A configuration of the calls. -/
abbrev Calls : Type :=
  Config Shared (fun _ : TaskId => Ret) ServiceExc TaskResult

/-- The call waits for the query service. -/
def Waits (c : Calls) (n : Nat) (caller : CallerContext) (request : QueryRequest)
    (queryId : String) : Prop :=
  ∃ k, c.tasks (.query n caller request) =
    some (.call (.query { request with queryId := some queryId }) k)

/-- What the audit log says of the calls. -/
structure AuditTrail (registry : SourceRegistry) (names : Names) (c : Calls) : Prop where
  /-- the records of a query id are the start of one query, and its end -/
  trail : ∀ queryId, c.shared.trail queryId = [] ∨ ∃ caller sourceId,
    c.shared.Open caller queryId sourceId ∨ ∃ r, c.shared.Closed names caller queryId sourceId r
  /-- a query that waits for the query service was recorded -/
  recorded : ∀ n caller request queryId, Waits c n caller request queryId →
    c.shared.Open caller queryId request.sourceId
  /-- the starts without an end are those of the queries that wait -/
  pending : c.turn = none → ∀ queryId record, c.shared.trail queryId = [record] ↔
    ∃ n caller request, Waits c n caller request queryId ∧
      record = startedRecord caller queryId request.sourceId
  /-- a call that ends was recorded as it ends -/
  ended : ∀ i r, c.turn = some i → c.tasks i = some (.done r) → Ended registry names i r c.shared
  /-- a source that is not registered is not named, and no service is asked about it -/
  registered : ∀ record ∈ c.shared.audit, ∀ sourceId,
    textField "source_id" record = some sourceId → (registry.get sourceId).isSome
  served : ∀ n caller sourceId k, c.tasks (.context n caller sourceId) =
    some (.call (.getContext sourceId) k) → (registry.get sourceId).isSome

section
variable {registry : SourceRegistry} {names : Names} {c : Calls}

theorem open_of_waits (h : (contract registry names).Kept c) {n : Nat} {caller : CallerContext}
    {request : QueryRequest} {queryId : String} (hwaits : Waits c n caller request queryId) :
    c.shared.Open caller queryId request.sourceId := by
  obtain ⟨k, htask⟩ := hwaits
  obtain ⟨n', caller', call, id, hi, hrequest, -, -, hopen⟩ := (h.act lawful htask).1
  cases hi
  obtain rfl := Option.some.inj (congrArg QueryRequest.queryId hrequest)
  exact hopen

/-- The query that a call has open is the one that it waits with. -/
theorem waits_of_open (h : (contract registry names).Kept c) (hturn : c.turn = none) {i : TaskId}
    {queryId : String} (hrunning : c.shared.running i = some queryId) {record : LogRecord}
    (htrail : c.shared.trail queryId = [record]) :
    ∃ n caller request, Waits c n caller request queryId ∧
      record = startedRecord caller queryId request.sourceId := by
  have hopen : ¬ c.shared.Settled names i := by
    intro hsettled
    obtain ⟨caller, sourceId, r, hclosed⟩ := hsettled queryId hrunning
    cases congrArg List.length (htrail.symm.trans hclosed)
  cases htask : c.tasks i with
  | none => exact absurd (h.idle i htask) hopen
  | some p =>
    obtain ⟨hsuspended, -⟩ := h.waiting i p htask (by simp [hturn])
    cases p with
    | done r => cases hsuspended
    | call o k =>
      have hgate := (h.act lawful htask).1
      cases o with
      | query request =>
        obtain ⟨n, caller, call, id, rfl, rfl, hid, -, hstart⟩ := hgate
        obtain rfl := Option.some.inj (hrunning.symm.trans hid)
        refine ⟨n, caller, call, ⟨k, htask⟩, ?_⟩
        exact List.singleton_injective (htrail.symm.trans hstart)
      | getContext sourceId => exact absurd hgate.2.2 hopen
      | increment name sourceId => cases hsuspended
      | uuid4 => cases hsuspended
      | log record => cases hsuspended

/-- **The audit trail is complete**: whatever the services do and however the calls take turns, each
query is recorded where it starts and where it ends, under an id of its own and with one caller and
source, before the query service is asked, and as it ends for its caller. -/
theorem auditTrail_complete (h : (system registry names).Reachable .initial c) :
    AuditTrail registry names c := by
  have hkept : (contract registry names).Kept c :=
    Contract.kept lawful logInv_initial (fun _ _ => nofun) h
  have hinv : LogInv registry names c.shared := hkept.inv
  refine ⟨fun queryId => ?_, fun n caller request queryId => open_of_waits hkept,
    fun hturn queryId record => ⟨fun htrail => ?_, ?_⟩, fun i r hturn htask => ?_,
    hinv.registered, fun n caller sourceId k htask => ?_⟩
  · rcases hinv.trail queryId with hnone | ⟨caller, sourceId, ⟨hopen, -⟩ | hclosed⟩
    · exact .inl hnone
    · exact .inr ⟨caller, sourceId, .inl hopen⟩
    · exact .inr ⟨caller, sourceId, .inr hclosed⟩
  · rcases hinv.trail queryId with hnone | ⟨caller, sourceId, ⟨-, i, hrunning⟩ | ⟨r, hclosed⟩⟩
    · cases htrail.symm.trans hnone
    · exact waits_of_open hkept hturn hrunning htrail
    · cases congrArg List.length (htrail.symm.trans hclosed)
  · rintro ⟨n, caller, request, hwaits, rfl⟩
    exact open_of_waits hkept hwaits
  · have hpost := hkept.finish hturn htask
    cases r with
    | ok a => exact hpost.2
    | error e => exact hpost.2
  · exact (hkept.act lawful htask).1.2.1

end

/-! ### One query -/

namespace OneQuery

theorem accepted : ∀ source ∈ [DottedView.source], validateBudget source.budget = .ok () := by
  decide

/-- A registry of one source. -/
def registry : SourceRegistry :=
  ⟨[DottedView.source], accepted⟩

def names : Names where
  float := fun _ => ⟨"1.0", by decide, by decide, by decide⟩
  exceptionType := fun _ => "ValueError"

def caller : CallerContext :=
  ⟨"agent", "tenant", false⟩

def request : QueryRequest :=
  ⟨"demo", "SELECT 1", "revision", "policy", none⟩

/-- The query waits for the query service. -/
theorem reachable_waiting : ∃ c : Calls, (system registry names).Reachable .initial c ∧
    c.turn = none ∧ Waits c 0 caller request "id" := by
  have h₀ : (system registry names).Reachable .initial _ :=
    .step .initial (.start (i := .query 0 caller request) rfl rfl rfl)
  have h₁ := System.Reachable.act h₀ (i := .query 0 caller request) rfl (.inr rfl) (.ok ()) _
    ⟨rfl, rfl⟩
  have h₂ := System.Reachable.act h₁ (i := .query 0 caller request) rfl (.inr rfl)
    (.ok (show String from "id")) _ ⟨"id", List.not_mem_nil, rfl, rfl⟩
  have h₃ := System.Reachable.act h₂ (i := .query 0 caller request) rfl (.inr rfl) (.ok ()) _
    ⟨rfl, rfl⟩
  exact ⟨_, h₃, rfl, _, rfl⟩

end OneQuery

theorem auditTrail_complete_oneQuery :
    ∃ c : Calls, Waits c 0 OneQuery.caller OneQuery.request "id" ∧
      AuditTrail OneQuery.registry OneQuery.names c := by
  obtain ⟨c, hreach, -, hwaits⟩ := OneQuery.reachable_waiting
  exact ⟨c, hwaits, auditTrail_complete hreach⟩

end QueryMan.GatewayService
