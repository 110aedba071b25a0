import QueryMan.Coro.History
import QueryMan.GuardedQuery.CheckFailures
import QueryMan.GuardedQuery.FaultInjection
import QueryMan.Runtime.Startup

/-!
# What an execution counts

The calls of `increment` and `observe` that a run of `execute` makes, whatever fails and whenever it
is cancelled. They tell how the execution ended (`execution_accounts`): a response was counted as
one success with its own measurements, each public error was counted once and under its own name,
and only what is cancelled, or refused by a process that shuts down, is left uncounted.
-/

namespace QueryMan.PostgresQueryExecutor

open Coro

section
variable {Row Json α β : Type}

/-- The counting call of an operation. -/
def Op.counting : Op → Option OperationsCall
  | .increment name sourceId => some (.increment name (some sourceId) 1)
  | .observe name value sourceId => some (.observe name value (some sourceId))
  | _ => none

/-- The counting calls of a run, in their order. -/
def countings (log : Log Row) : List OperationsCall :=
  log.filterMap fun event => event.1.counting

@[simp] theorem countings_concat (log : Log Row) (event : Event Row) :
    countings (log ++ [event]) = countings log ++ event.1.counting.toList := by
  rw [countings, List.filterMap_append, countings]
  cases h : event.1.counting <;> simp [h]

/-! ## The accounts -/

/-- One increment. -/
def once (sourceId name : String) : List OperationsCall :=
  [.increment name (some sourceId) 1]

/-- What an execution counts when it has its permit. -/
def started (sourceId : String) (queueMs : Int) : List OperationsCall :=
  .observe "query_queue_ms" queueMs (some sourceId) :: once sourceId "query_execution_started"

/-- What an execution counts when it has its response. -/
def succeeded (sourceId : String) (elapsedMs : Int) (truncated : Bool) : List OperationsCall :=
  once sourceId "query_execution_succeeded" ++
    .observe "query_elapsed_ms" elapsedMs (some sourceId) ::
      if truncated then once sourceId "query_truncated" else []

/-- What was counted of an execution between its start and its end. -/
inductive Begun (sourceId : String) : List OperationsCall → Prop
  | nothing : Begun sourceId []
  | invalid : Begun sourceId (once sourceId "query_invalid")
  | succeeded (elapsedMs : Int) (truncated : Bool) :
    Begun sourceId (succeeded sourceId elapsedMs truncated)

/-- What was counted of an execution that has not ended: nothing while it waits for its permit. -/
inductive Underway (sourceId : String) : List OperationsCall → Prop
  | waiting : Underway sourceId []
  | running {m : List OperationsCall} (queueMs : Int) (h : Begun sourceId m) :
    Underway sourceId (started sourceId queueMs ++ m)

/-- What an execution counts, by its result; `refused` says that the process shuts down. -/
inductive Accounts (sourceId : String) (refused : Prop) :
    Except Exc (Response Json) → List OperationsCall → Prop
  | answered (response : Response Json) :
    Accounts sourceId refused (.ok response)
      (started sourceId response.queueMs ++
        succeeded sourceId response.elapsedMs response.truncated)
  | overloaded :
    Accounts sourceId refused (.error (.app .queryOverloaded))
      (once sourceId "query_queue_rejected")
  | rejected (queueMs : Int) (reasonCode : String) (construct : Option String) :
    Accounts sourceId refused (.error (.app (.queryRejected reasonCode construct)))
      (started sourceId queueMs ++ once sourceId "query_rejected")
  | invalid (queueMs : Int) (reasonCode : String) :
    Accounts sourceId refused (.error (.app (.queryInvalid reasonCode)))
      (started sourceId queueMs ++ once sourceId "query_invalid")
  | timedOut {m : List OperationsCall} (queueMs : Int) (name : String) (h : Begun sourceId m)
    (hname : name ∈ ["query_timeout", "query_shutdown_cancelled"]) :
    Accounts sourceId refused (.error (.app .queryTimeout))
      (started sourceId queueMs ++ (m ++ once sourceId name))
  | unavailable {m : List OperationsCall} (queueMs : Int) (name : String) (h : Begun sourceId m)
    (hname : name ∈ ["query_failed", "query_pool_exhausted"]) :
    Accounts sourceId refused (.error (.app .queryUnavailable))
      (started sourceId queueMs ++ (m ++ once sourceId name))
  /-- refused, or cancelled by the shutdown -/
  | closed {m : List OperationsCall} (h : Underway sourceId m) (hrefused : refused) :
    Accounts sourceId refused (.error (.app .queryUnavailable)) m
  | interrupted {e : Exc} {m : List OperationsCall} (h : Underway sourceId m)
    (he : e.isCancelled = true) :
    Accounts sourceId refused (.error e) (m ++ once sourceId "query_interrupted")
  /-- cancelled before it was admitted -/
  | unadmitted {e : Exc} (he : e.isCancelled = true) : Accounts sourceId refused (.error e) []
  /-- cancelled when it had ended -/
  | late {e : Exc} {r : Except Exc (Response Json)} {m : List OperationsCall}
    (h : Accounts sourceId refused r m) (he : e.isCancelled = true) :
    Accounts sourceId refused (.error e) m

theorem Accounts.mono {sourceId : String} {refused refused' : Prop}
    {r : Except Exc (Response Json)} {m : List OperationsCall} (h : Accounts sourceId refused r m)
    (himp : refused → refused') : Accounts sourceId refused' r m := by
  induction h with
  | answered response => exact .answered response
  | overloaded => exact .overloaded
  | rejected queueMs reasonCode construct => exact .rejected queueMs reasonCode construct
  | invalid queueMs reasonCode => exact .invalid queueMs reasonCode
  | timedOut queueMs name h hname => exact .timedOut queueMs name h hname
  | unavailable queueMs name h hname => exact .unavailable queueMs name h hname
  | closed h hrefused => exact .closed h (himp hrefused)
  | interrupted h he => exact .interrupted h he
  | unadmitted he => exact .unadmitted he
  | late _ he ih => exact .late ih he

/-- The process was found to shut down, or the call ran in no task. -/
def Refused (log : Log Row) : Prop :=
  ⟨.currentTask, .ok false⟩ ∈ log ∨ ⟨.accepting, .ok false⟩ ∈ log

/-! ## Exceptions on their way -/

/-- An exception that is none of the gateway's own. -/
def IsPlain (e : Exc) : Prop :=
  ∀ error, e ≠ .app error

/-- An exception of a query that was checked. -/
def IsRefusal (e : Exc) : Prop :=
  ∀ error, e = .app error → ∃ reasonCode construct, error = .queryRejected reasonCode construct

theorem IsPlain.isRefusal {e : Exc} (h : IsPlain e) : IsRefusal e :=
  fun error heq => absurd heq (h error)

theorem isRefusal_of_check {e : Exc} (h : e.isCheckFailure = true) : IsRefusal e := by
  intro error heq
  subst heq
  cases error with
  | queryRejected reasonCode construct => exact ⟨reasonCode, construct, rfl⟩
  | _ => cases h

/-- What was counted of an execution whose exception has not met the `except` clauses. -/
inductive Raised (sourceId : String) (e : Exc) : List OperationsCall → Prop
  | nothing (h : IsRefusal e) : Raised sourceId e []
  | invalid (h : ∀ error, e = .app error → ∃ reasonCode, error = .queryInvalid reasonCode) :
    Raised sourceId e (once sourceId "query_invalid")
  | succeeded (elapsedMs : Int) (truncated : Bool) (h : IsPlain e) :
    Raised sourceId e (succeeded sourceId elapsedMs truncated)

theorem Raised.begun {sourceId : String} {e : Exc} {m : List OperationsCall}
    (h : Raised sourceId e m) : Begun sourceId m := by
  cases h with
  | nothing => exact .nothing
  | invalid => exact .invalid
  | succeeded elapsedMs truncated => exact .succeeded elapsedMs truncated

/-- An error of the gateway's own is a rejection, or was counted as invalid. -/
theorem Raised.of_app {sourceId : String} {error : AppError} {m : List OperationsCall}
    (h : Raised sourceId (.app error) m) :
    (∃ reasonCode construct, error = .queryRejected reasonCode construct ∧ m = []) ∨
      ∃ reasonCode, error = .queryInvalid reasonCode ∧ m = once sourceId "query_invalid" := by
  cases h with
  | nothing h =>
    obtain ⟨reasonCode, construct, heq⟩ := h error rfl
    exact .inl ⟨reasonCode, construct, heq, rfl⟩
  | invalid h =>
    obtain ⟨reasonCode, heq⟩ := h error rfl
    exact .inr ⟨reasonCode, heq, rfl⟩
  | succeeded _ _ h => exact absurd rfl (h error)

/-- A plain exception may take the place of any other one. -/
theorem Raised.replace {sourceId : String} {e e' : Exc} {m : List OperationsCall}
    (h : Raised sourceId e m) (he' : IsPlain e') : Raised sourceId e' m := by
  cases h with
  | nothing => exact .nothing he'.isRefusal
  | invalid => exact .invalid fun error heq => absurd heq (he' error)
  | succeeded elapsedMs truncated => exact .succeeded elapsedMs truncated he'

/-- What was counted of an execution whose exception has passed the `except` clauses. -/
inductive Reported (sourceId : String) : Exc → List OperationsCall → Prop
  | cancelled {e : Exc} {m : List OperationsCall} (he : e.isCancelled = true)
    (h : Begun sourceId m) : Reported sourceId e m
  | rejected (reasonCode : String) (construct : Option String) :
    Reported sourceId (.app (.queryRejected reasonCode construct)) (once sourceId "query_rejected")
  | invalid (reasonCode : String) :
    Reported sourceId (.app (.queryInvalid reasonCode)) (once sourceId "query_invalid")
  | timedOut {m : List OperationsCall} (name : String) (h : Begun sourceId m)
    (hname : name ∈ ["query_timeout", "query_shutdown_cancelled"]) :
    Reported sourceId (.app .queryTimeout) (m ++ once sourceId name)
  | unavailable {m : List OperationsCall} (name : String) (h : Begun sourceId m)
    (hname : name ∈ ["query_failed", "query_pool_exhausted"]) :
    Reported sourceId (.app .queryUnavailable) (m ++ once sourceId name)

/-! ## Steps -/

/-- The world in which an await raises none of the gateway's own errors. -/
abbrev driverWorld (Row : Type) (live : LiveCatalog) : World (Log Row) (Ret Row) Exc :=
  (world Row live).restrict fun _ _ r => ∀ e, r = .error e → IsPlain e

/-- Operations that count nothing keep the fact. -/
def Quiet (P : Log Row → Prop) : Prop :=
  ∀ log (event : Event Row), event.1.counting = none → P log → P (log ++ [event])

theorem quiet_countings {P : List OperationsCall → Prop} :
    Quiet fun log : Log Row => P (countings log) := by
  intro log event hevent h
  rw [countings_concat, hevent]
  simpa using h

/-- An operation that counts nothing leaves what was counted. -/
theorem quiet_eq (counted : List OperationsCall) :
    Quiet fun log : Log Row => countings log = counted :=
  quiet_countings (P := fun counted' => counted' = counted)

variable {live : LiveCatalog} {P : Log Row → Prop} {X Y : Exc → Prop} {p : Exec Row α}

theorem uncounted_spec (hP : Quiet P) {o : Op} (ho : o.counting = none) :
    Triple (driverWorld Row live) P (perform o) (fun _ => P)
      fun e log => (IsPlain e ∧ o.canRaise e = true) ∧ P log :=
  perform_spec (fun log a h _ => hP log ⟨o, .ok a⟩ ho h) fun log e h hallowed =>
    ⟨⟨hallowed.2 e rfl, hallowed.1.1⟩, hP log ⟨o, .error e⟩ ho h⟩

/-- An operation of the process itself does not raise. -/
theorem sure_spec (hP : Quiet P) {o : Op} (ho : o.counting = none)
    (hraise : ∀ e, o.canRaise e = false) {E : Exc → Log Row → Prop} :
    Triple (driverWorld Row live) P (perform o) (fun _ => P) E :=
  (uncounted_spec hP ho).weaken_exc fun e _ h => by
    rw [hraise e] at h
    cases h.1.2

/-- Waiting for a lock can only be cancelled. -/
theorem lock_spec (hP : Quiet P) (part : ActiveSection) :
    Triple (driverWorld Row live) P (perform (.lockActive part)) (fun _ => P)
      fun e log => e.isCancelled = true ∧ P log :=
  (uncounted_spec hP rfl).weaken_exc fun _ _ h => ⟨h.1.2, h.2⟩

theorem count_spec {m : List OperationsCall} {o : Op} {call : OperationsCall}
    (ho : o.counting = some call) (hraise : ∀ e, o.canRaise e = false)
    {E : Exc → Log Row → Prop} :
    Triple (driverWorld Row live) (fun log => countings log = m) (perform o)
      (fun _ log => countings log = m ++ [call]) E :=
  perform_spec (fun log a h _ => by
      show countings (log ++ [⟨o, .ok a⟩]) = _
      rw [countings_concat, h, ho]
      rfl) fun log e _ hallowed => by
    have hcan : o.canRaise e = true := hallowed.1.1
    rw [hraise e] at hcan
    cases hcan

/-- A program that counts nothing and raises an exception of a kind. -/
def Silent (live : LiveCatalog) (X : Exc → Prop) (p : Exec Row α) : Prop :=
  ∀ P : Log Row → Prop, Quiet P →
    Triple (driverWorld Row live) P p (fun _ => P) fun e log => X e ∧ P log

namespace Silent

theorem perform {o : Op} (ho : o.counting = none) :
    Silent live IsPlain (perform o : Exec Row (Ret Row o)) :=
  fun _ hP => (uncounted_spec hP ho).weaken_exc fun _ _ h => ⟨h.1.1, h.2⟩

theorem weaken (hp : Silent live X p) (h : ∀ e, X e → Y e) : Silent live Y p :=
  fun P hP => (hp P hP).weaken_exc fun e _ hlog => ⟨h e hlog.1, hlog.2⟩

theorem pure {a : α} : Silent live X (Pure.pure a : Exec Row α) :=
  fun _ _ => Triple.pure.weaken_pre fun _ h => h

theorem throw {e : Exc} (h : X e) : Silent live X (throw e : Exec Row α) :=
  fun _ _ => Triple.throw.weaken_pre fun _ hlog => ⟨h, hlog⟩

theorem lift {c : Except Exc α} (h : ∀ e, c = .error e → X e) :
    Silent live X (.lift c : Exec Row α) := by
  cases c with
  | ok a => exact .pure
  | error e => exact .throw (h e rfl)

theorem bind {f : α → Exec Row β} (hp : Silent live X p) (hf : ∀ a, Silent live X (f a)) :
    Silent live X (p >>= f) :=
  fun P hP => (hp P hP).bind fun a => hf a P hP

theorem ite {c : Prop} [Decidable c] {q : Exec Row α} (hp : Silent live X p)
    (hq : Silent live X q) : Silent live X (if c then p else q) := by
  split
  · exact hp
  · exact hq

theorem tryCatch {handler : Exc → Exec Row α} (hp : Silent live X p)
    (hh : ∀ e, X e → Silent live Y (handler e)) : Silent live Y (p.tryCatch handler) :=
  fun P hP => Triple.tryCatch (hp P hP) fun e => Triple.of_fact fun he => hh e he P hP

theorem quietly {p : Exec Row Unit} (hp : Silent live X p) : Silent live X (quietly p) :=
  hp.tryCatch fun _ he => .ite (.throw he) .pure

end Silent

/-! ## The transaction -/

/-- The exception left what was counted behind a start. -/
def RaisedAfter (sourceId : String) (start : List OperationsCall) (e : Exc) (log : Log Row) :
    Prop :=
  ∃ m, countings log = start ++ m ∧ Raised sourceId e m

theorem quiet_raisedAfter {sourceId : String} {start : List OperationsCall} {e : Exc} :
    Quiet (RaisedAfter sourceId start e : Log Row → Prop) :=
  quiet_countings (P := fun counted => ∃ m, counted = start ++ m ∧ Raised sourceId e m)

theorem RaisedAfter.replace {sourceId : String} {start : List OperationsCall} {e e' : Exc}
    {log : Log Row} (h : RaisedAfter sourceId start e log) (he' : IsPlain e') :
    RaisedAfter sourceId start e' log := by
  obtain ⟨m, hm, hraised⟩ := h
  exact ⟨m, hm, hraised.replace he'⟩

/-- A refusal before anything else is counted. -/
theorem raisedAfter_nothing {sourceId : String} {start : List OperationsCall} {e : Exc}
    {log : Log Row} (he : IsRefusal e) (h : countings log = start) :
    RaisedAfter sourceId start e log :=
  ⟨[], by rw [h, List.append_nil], .nothing he⟩

variable {source : SourceProfile} {encodeRow : RowEncoder Row Json}
  {sql metadataRevision queryId : String} {validated : ValidatedSql} {queueMs : Int}
  {start : List OperationsCall} {e : Exc}

/-- A silent program before anything else is counted. -/
theorem Silent.before (hp : Silent live X p) (h : ∀ e, X e → IsRefusal e) :
    Triple (driverWorld Row live) (fun log => countings log = start) p
      (fun _ log => countings log = start) (RaisedAfter source.sourceId start) :=
  (hp _ (quiet_eq start)).weaken_exc fun e _ hlog =>
    raisedAfter_nothing (h e hlog.1) hlog.2

/-- A silent program of a handler. -/
theorem Silent.behind {p : Exec Row α} (hp : Silent live IsPlain p) :
    Triple (driverWorld Row live) (RaisedAfter source.sourceId start e) p
      (fun _ => RaisedAfter source.sourceId start e) (RaisedAfter source.sourceId start) :=
  (hp _ quiet_raisedAfter).weaken_exc fun _ _ hlog => hlog.2.replace hlog.1

/-- A handler passes its exception on. -/
theorem rethrow_raised {Q : α → Log Row → Prop} :
    Triple (driverWorld Row live) (RaisedAfter source.sourceId start e) (throw e : Exec Row α) Q
      (RaisedAfter source.sourceId start) :=
  Triple.throw.weaken_pre fun _ h => h

/-- The handler around the caller's SQL counts what it blames on the caller. -/
theorem reraiseForUserSql_raised {Q : α → Log Row → Prop} (he : IsRefusal e) :
    Triple (driverWorld Row live) (fun log => countings log = start)
      (reraiseForUserSql source.sourceId e) Q (RaisedAfter source.sourceId start) := by
  have hthrow : Triple (driverWorld Row live) (fun log => countings log = start)
      (throw e : Exec Row α) Q (RaisedAfter source.sourceId start) :=
    Triple.throw.weaken_pre fun _ h => raisedAfter_nothing he h
  refine .ite (fun _ => ?_) fun _ => hthrow
  refine Triple.bind (Q := fun _ log => countings log = start) ?_ fun _ => hthrow
  unfold raiseQueryInvalidForUserSql
  split
  · exact Triple.pure.weaken_pre fun _ h => h
  · next reasonCode _ =>
    refine Triple.bind (count_spec rfl fun _ => rfl) fun _ => Triple.throw.weaken_pre fun _ h => ?_
    exact ⟨_, h, .invalid fun error heq => ⟨reasonCode, (Exc.app.inj heq).symm⟩⟩

theorem explainPlan_raised :
    Triple (driverWorld Row live) (fun log => countings log = start)
      (explainPlan source sql : Exec Row PlanSummary) (fun _ log => countings log = start)
      (RaisedAfter source.sourceId start) := by
  have hexplain : Silent live IsPlain
      (do send (.explain sql); perform .fetchPlan : Exec Row (Ret Row .fetchPlan)) :=
    .bind (.perform rfl) fun _ => .perform rfl
  have hchecks : ∀ {γ : Type} {c : Except Exc γ}, ChecksOnly c →
      Triple (driverWorld Row live) (fun log => countings log = start) (.lift c : Exec Row γ)
        (fun _ log => countings log = start) (RaisedAfter source.sourceId start) :=
    fun h => (Silent.lift h).before fun _ => isRefusal_of_check
  refine Triple.bind (Triple.tryCatch
    (hexplain _ (quiet_eq start))
    fun e => Triple.of_fact fun he => reraiseForUserSql_raised he.isRefusal) fun _ => ?_
  refine Triple.bind (hchecks (checks_extractPlan.bind fun _ => checks_summarizePlan)) fun _ => ?_
  exact Triple.bind (hchecks checks_admitPlan) fun _ => Triple.pure.weaken_pre fun _ h => h

theorem prepare_raised :
    Triple (driverWorld Row live) (fun log => countings log = start)
      (prepare source sql validated queryId : Exec Row PlanSummary)
      (fun _ log => countings log = start) (RaisedAfter source.sourceId start) := by
  have hsend : ∀ statement, Silent live IsRefusal (send statement : Exec Row _) :=
    fun _ => (Silent.perform rfl).weaken fun _ he => he.isRefusal
  have hpolicy : Silent live IsRefusal (requireReaderSessionPolicy : Exec Row Unit) :=
    (hsend _).bind fun _ => ((Silent.perform rfl).weaken fun _ he => he.isRefusal).bind fun _ =>
      .ite .pure (.throw nofun)
  have hnames : ∀ {kind names reasonCode}, Silent live IsRefusal
      (validateResolvedNames kind names reasonCode : Exec Row Unit) :=
    .ite .pure <| (hsend _).bind fun _ =>
      ((Silent.perform rfl).weaken fun _ he => he.isRefusal).bind fun _ =>
        .ite .pure (.throw fun error heq => ⟨_, _, (Exc.app.inj heq).symm⟩)
  have hbefore : ∀ {γ : Type} {p : Exec Row γ}, Silent live IsRefusal p →
      Triple (driverWorld Row live) (fun log => countings log = start) p
        (fun _ log => countings log = start) (RaisedAfter source.sourceId start) :=
    fun hp => hp.before fun _ he => he
  exact (hbefore (hsend _)).bind fun _ => (hbefore (hsend _)).bind fun _ =>
    (hbefore (hsend _)).bind fun _ => (hbefore hpolicy).bind fun _ =>
      (hbefore (hnames.bind fun _ => hnames)).bind fun _ => explainPlan_raised

theorem readResult_raised :
    Triple (driverWorld Row live) (fun log => countings log = start)
      (readResult encodeRow source sql) (fun _ log => countings log = start)
      (RaisedAfter source.sourceId start) := by
  have hperform : ∀ {o : Op}, o.counting = none →
      Silent live IsRefusal (perform o : Exec Row (Ret Row o)) :=
    fun ho => (Silent.perform ho).weaken fun _ he => he.isRefusal
  have hchecks : ∀ {γ : Type} {c : Except Exc γ}, ChecksOnly c →
      Silent live IsRefusal (.lift c : Exec Row γ) :=
    fun h => .lift fun e heq => isRefusal_of_check (h e heq)
  have hloop : ∀ {fuel fetched},
      Silent live IsRefusal (fetchLoop encodeRow source.budget fuel fetched) := by
    intro fuel
    induction fuel with
    | zero => exact .pure
    | succ fuel ih =>
      exact .ite .pure <| .bind (hperform rfl) fun _ =>
        .ite .pure <| .bind (hchecks checks_addBatch) fun _ => ih
  have hread : Silent live IsRefusal (readCursor encodeRow source sql) :=
    .bind (hperform rfl) fun _ => .bind (hperform rfl) fun _ =>
      .bind (hchecks checks_checkDescription) fun _ => .bind hloop fun _ => .pure
  have hclose : Silent live IsPlain (quietly (send .closeCursor) : Exec Row Unit) :=
    .quietly (.perform rfl)
  refine Triple.bind ((hperform rfl).before fun _ he => he) fun _ => Triple.tryFinally
    (Triple.tryCatch (hread _ (quiet_eq start))
      fun e => Triple.of_fact fun he => reraiseForUserSql_raised he) (fun _ => ?_) fun e => ?_
  · exact hclose.before fun _ he => he.isRefusal
  · exact hclose.behind

/-- The `except` blocks count nothing. -/
theorem cleanUp_raised {Q : α → Log Row → Prop} (e : Exc) :
    Triple (driverWorld Row live) (RaisedAfter source.sourceId start e) (cleanUp e) Q
      (RaisedAfter source.sourceId start) := by
  have hrollback : Silent live IsPlain (rollbackQuietly : Exec Row Unit) :=
    .quietly (.perform rfl)
  exact .ite (fun _ => (Silent.perform rfl).behind.bind fun _ =>
    hrollback.behind.bind fun _ => rethrow_raised) fun _ =>
      hrollback.behind.bind fun _ => rethrow_raised

/-- What a response was counted with. -/
def Counted (source : SourceProfile) (start : List OperationsCall) (queueMs : Int)
    (response : Response Json) (log : Log Row) : Prop :=
  response.queueMs = queueMs ∧
    countings log = start ++ succeeded source.sourceId response.elapsedMs response.truncated

theorem respond_counted {startedAt : ℚ} {outcome : PlanSummary × List String × Fetched Json} :
    Triple (driverWorld Row live) (fun log => countings log = start)
      (respond source metadataRevision validated queueMs queryId startedAt outcome)
      (Counted source start queueMs) (RaisedAfter source.sourceId start) := by
  refine Triple.bind (sure_spec (quiet_eq start) rfl fun _ => rfl) fun now => ?_
  refine Triple.bind (count_spec rfl fun _ => rfl) fun _ =>
    Triple.bind (count_spec rfl fun _ => rfl) fun _ => ?_
  refine Triple.bind (Q := fun _ log => countings log = start ++ succeeded source.sourceId
    (milliseconds startedAt now) outcome.2.2.truncated) ?_ fun _ =>
      Triple.pure.weaken_pre fun _ h => ⟨rfl, h⟩
  unfold incrementIf succeeded
  split
  · refine (count_spec rfl fun _ => rfl).weaken_post fun _ log h => ?_
    simpa [once] using h
  · exact Triple.pure.weaken_pre fun log h => by simpa [once] using h

theorem executeConnection_counted :
    Triple (driverWorld Row live) (fun log => countings log = start)
      (executeConnection encodeRow source sql metadataRevision validated queueMs queryId)
      (Counted source start queueMs) (RaisedAfter source.sourceId start) := by
  have hquiet : ∀ {o : Op}, o.counting = none →
      Triple (driverWorld Row live) (fun log => countings log = start) (perform o)
        (fun _ log => countings log = start) (RaisedAfter source.sourceId start) :=
    fun ho => (Silent.perform ho).before fun _ he => he.isRefusal
  have htransaction : Triple (driverWorld Row live) (fun log => countings log = start)
      (runTransaction encodeRow source sql validated queryId) (fun _ log => countings log = start)
      (RaisedAfter source.sourceId start) :=
    prepare_raised.bind fun _ => readResult_raised.bind fun _ => (hquiet rfl).bind fun _ =>
      (hquiet rfl).bind fun _ => Triple.pure.weaken_pre fun _ h => h
  exact (hquiet rfl).bind fun _ => (Triple.tryCatch htransaction cleanUp_raised).bind fun _ =>
    respond_counted

/-! ## The layers around the transaction -/

/-- A response that was counted, and an exception of what follows. -/
theorem Counted.raised {response : Response Json} {log : Log Row}
    (h : Counted source start queueMs response log) (he : IsPlain e) :
    RaisedAfter source.sourceId start e log :=
  ⟨_, h.2, .succeeded _ _ he⟩

theorem quiet_counted {response : Response Json} :
    Quiet (Counted source start queueMs response : Log Row → Prop) :=
  quiet_countings (P := fun counted => response.queueMs = queueMs ∧
    counted = start ++ succeeded source.sourceId response.elapsedMs response.truncated)

/-- A silent program behind a response. -/
theorem Silent.after {p : Exec Row α} {response : Response Json} (hp : Silent live IsPlain p) :
    Triple (driverWorld Row live) (Counted source start queueMs response) p
      (fun _ => Counted source start queueMs response) (RaisedAfter source.sourceId start) :=
  (hp _ quiet_counted).weaken_exc fun _ _ hlog => hlog.2.raised hlog.1

theorem useConnection_counted :
    Triple (driverWorld Row live) (fun log => countings log = start)
      (useConnection encodeRow source sql metadataRevision validated queueMs queryId)
      (Counted source start queueMs) (RaisedAfter source.sourceId start) := by
  have hcheck : Silent live IsPlain (checkConnection source : Exec Row Unit) := by
    refine Silent.tryCatch (X := IsPlain) ?_ fun e he => ?_
    · refine .bind (.perform rfl) fun info => .lift fun e heq => ?_
      rw [readerSessionPolicyError_of_connectionPolicy heq]
      nofun
    · exact .ite (.bind (.quietly (.perform rfl)) fun _ => .throw he) (.throw he)
  have hfinal : Silent live IsPlain
      (do perform (.lockActive .deregister); perform (.popActive queryId) : Exec Row Unit) :=
    .bind (.perform rfl) fun _ => .perform rfl
  have hbefore : ∀ {γ : Type} {p : Exec Row γ}, Silent live IsPlain p →
      Triple (driverWorld Row live) (fun log => countings log = start) p
        (fun _ log => countings log = start) (RaisedAfter source.sourceId start) :=
    fun hp => hp.before fun _ he => he.isRefusal
  exact (hbefore hcheck).bind fun _ => (hbefore (.perform rfl)).bind fun _ =>
    (hbefore (.perform rfl)).bind fun _ => Triple.tryFinally executeConnection_counted
      (fun _ => hfinal.after) fun _ => hfinal.behind

theorem executePermitted_counted :
    Triple (driverWorld Row live) (fun log => countings log = start)
      (executePermitted encodeRow source sql metadataRevision validated queueMs queryId)
      (Counted source start queueMs) (RaisedAfter source.sourceId start) := by
  have hpool : Silent live IsPlain (getPool source : Exec Row Unit) :=
    .bind (.perform rfl) fun (_ : Bool) => .ite .pure <| .bind (.perform rfl) fun _ =>
      .bind (.perform rfl) fun (_ : Bool) => .ite .pure <| .bind (.perform rfl) fun _ =>
        .perform rfl
  have hexit : ∀ raised : Option Exc, Silent live IsPlain (do
      let expired : Bool ← perform .exitTimeout
      if expired && raised.any Exc.isCancelled then throw .timeoutError else Pure.pure () :
        Exec Row Unit) :=
    fun raised => .bind (.perform rfl) fun (_ : Bool) => .ite (.throw nofun) .pure
  have hbefore : ∀ {γ : Type} {p : Exec Row γ}, Silent live IsPlain p →
      Triple (driverWorld Row live) (fun log => countings log = start) p
        (fun _ log => countings log = start) (RaisedAfter source.sourceId start) :=
    fun hp => hp.before fun _ he => he.isRefusal
  refine (hbefore hpool).bind fun _ => (hbefore (.perform rfl)).bind fun _ => ?_
  refine Triple.exitWith ((hbefore (.perform rfl)).bind fun _ =>
    Triple.exitWith useConnection_counted (fun _ => (Silent.perform rfl).after)
      fun _ => (Silent.perform rfl).behind) (fun _ => (hexit none).after)
    fun e => (hexit (some e)).behind

/-- The exception has passed the `except` clauses. -/
def ReportedAfter (sourceId : String) (start : List OperationsCall) (e : Exc) (log : Log Row) :
    Prop :=
  ∃ m, countings log = start ++ m ∧ Reported sourceId e m

/-- **The ladder of `except` clauses counts each failure once**, under its own name. -/
theorem mapFailure_reported {Q : α → Log Row → Prop} (e : Exc) :
    Triple (driverWorld Row live) (RaisedAfter source.sourceId start e)
      (mapFailure source queryId e) Q (ReportedAfter source.sourceId start) := by
  refine Triple.of_forall fun m => ?_
  refine Triple.weaken_pre (P := fun log => Raised source.sourceId e m ∧
    countings log = start ++ m) ?_ fun _ h => ⟨h.2, h.1⟩
  refine Triple.of_fact fun hraised => ?_
  have hbegun := hraised.begun
  have hquiet : ∀ {P : List OperationsCall → Prop} {o : Op}, o.counting = none →
      (∀ e, o.canRaise e = false) → Triple (driverWorld Row live) (fun log => P (countings log))
        (perform o) (fun _ log => P (countings log)) (ReportedAfter source.sourceId start) :=
    fun ho hraise => sure_spec quiet_countings ho hraise
  have hcount : ∀ {name : String}, Triple (driverWorld Row live)
      (fun log => countings log = start ++ m) (increment name source.sourceId)
      (fun _ log => countings log = start ++ (m ++ once source.sourceId name))
      (ReportedAfter source.sourceId start) :=
    (count_spec rfl fun _ => rfl).weaken_post fun _ _ h => h.trans (List.append_assoc _ _ _)
  have hthrow : ∀ {e' : Exc} {m' : List OperationsCall}, Reported source.sourceId e' m' →
      Triple (driverWorld Row live) (fun log => countings log = start ++ m')
        (throw e' : Exec Row α) Q (ReportedAfter source.sourceId start) :=
    fun h => Triple.throw.weaken_pre fun _ hlog => ⟨_, hlog, h⟩
  have hunavailable : ∀ {name : String}, name ∈ ["query_failed", "query_pool_exhausted"] →
      Triple (driverWorld Row live)
        (fun log => countings log = start ++ (m ++ once source.sourceId name)) (do
          setSourceQueryHealth source.sourceId .unavailable
          throw (.app .queryUnavailable) : Exec Row α) Q (ReportedAfter source.sourceId start) :=
    fun hname => (hquiet (P := (· = _)) rfl fun _ => rfl).bind fun _ =>
      hthrow (.unavailable _ hbegun hname)
  unfold mapFailure
  split
  · exact hthrow (.cancelled rfl hbegun)
  · exact hcount.bind fun _ => hunavailable (by decide)
  · exact hcount.bind fun _ => hthrow (.timedOut _ hbegun (by decide))
  · refine (hquiet (P := (· = _)) rfl fun _ => rfl).bind fun (shutdown : Bool) => ?_
    refine hcount.bind fun _ => hthrow (.timedOut _ hbegun ?_)
    cases shutdown <;> decide
  · exact hcount.bind fun _ => hunavailable (by decide)
  · exact hcount.bind fun _ => hunavailable (by decide)
  · exact hcount.bind fun _ => hunavailable (by decide)
  · next reasonCode construct =>
    rcases hraised.of_app with ⟨_, _, -, rfl⟩ | ⟨_, heq, -⟩
    · exact hcount.bind fun _ => hthrow (.rejected reasonCode construct)
    · cases heq
  · next reasonCode =>
    rcases hraised.of_app with ⟨_, _, heq, -⟩ | ⟨_, -, rfl⟩
    · cases heq
    · exact hthrow (.invalid reasonCode)
  · rcases hraised.of_app with ⟨_, _, heq, -⟩ | ⟨_, heq, -⟩ <;> cases heq
  · rcases hraised.of_app with ⟨_, _, heq, -⟩ | ⟨_, heq, -⟩ <;> cases heq
  · exact hcount.bind fun _ => hthrow (.unavailable _ hbegun (by decide))

/-! ## Admission -/

/-- How `_execute_admitted` raises. -/
inductive Admitted (sourceId : String) : Exc → List OperationsCall → Prop
  | waiting {e : Exc} (he : e.isCancelled = true) : Admitted sourceId e []
  | overloaded :
    Admitted sourceId (.app .queryOverloaded) (once sourceId "query_queue_rejected")
  | reported {e : Exc} {m : List OperationsCall} (queueMs : Int) (h : Reported sourceId e m) :
    Admitted sourceId e (started sourceId queueMs ++ m)

theorem executeAdmitted_counted :
    Triple (driverWorld Row live) (fun log => countings log = [])
      (executeAdmitted encodeRow source sql metadataRevision validated queryId)
      (fun response log => countings log = started source.sourceId response.queueMs ++
        succeeded source.sourceId response.elapsedMs response.truncated)
      fun e log => Admitted source.sourceId e (countings log) := by
  have hsure : ∀ {m : List OperationsCall} {o : Op}, o.counting = none →
      (∀ e, o.canRaise e = false) → Triple (driverWorld Row live) (fun log => countings log = m)
        (perform o) (fun _ log => countings log = m)
        fun e log => Admitted source.sourceId e (countings log) :=
    fun {m} _ ho hraise => sure_spec (quiet_eq m) ho hraise
  have hpermit : Triple (driverWorld Row live) (fun log => countings log = [])
      (acquirePermit source : Exec Row Unit) (fun _ log => countings log = [])
      fun e log => Admitted source.sourceId e (countings log) := by
    refine Triple.tryCatch (uncounted_spec (quiet_eq []) rfl)
      fun e => Triple.of_fact fun he => .ite (fun _ => ?_) fun hne => ?_
    · exact Triple.bind (count_spec rfl fun _ => rfl) fun _ =>
        Triple.throw.weaken_pre fun log h => by
          rw [h]
          exact .overloaded
    · refine Triple.throw.weaken_pre fun log h => ?_
      have hcan : (e.isCancelled || decide (e = .timeoutError)) = true := he.2
      rw [decide_eq_false hne, Bool.or_false] at hcan
      rw [h]
      exact .waiting hcan
  refine (hsure rfl fun _ => rfl).bind fun _ => (hsure rfl fun _ => rfl).bind fun queuedAt => ?_
  refine hpermit.bind fun _ => (hsure rfl fun _ => rfl).bind fun now => ?_
  refine Triple.bind (count_spec rfl fun _ => rfl) fun _ =>
    Triple.bind (count_spec rfl fun _ => rfl) fun _ => ?_
  refine Triple.tryFinally
    (Triple.tryCatch executePermitted_counted fun e => mapFailure_reported e) (fun response => ?_)
    fun e => ?_
  · refine Triple.weaken_post (Q := fun _ => Counted source _ _ response)
      (sure_spec quiet_counted rfl fun _ => rfl) fun _ log h => ?_
    rw [h.2, h.1]
    rfl
  · refine Triple.weaken_post (sure_spec (quiet_countings (P := fun counted =>
      ∃ m, counted = _ ++ m ∧ Reported source.sourceId e m)) rfl fun _ => rfl) fun _ log h => ?_
    obtain ⟨m, hm, hreported⟩ := h
    rw [hm]
    exact .reported _ hreported

/-- The accounts of a run. -/
def Accounted (sourceId : String) (r : Except Exc (Response Json)) (log : Log Row) : Prop :=
  Accounts sourceId (Refused log) r (countings log)

theorem quiet_accounted {sourceId : String} {r : Except Exc (Response Json)} :
    Quiet (Accounted sourceId r : Log Row → Prop) := by
  intro log event hevent h
  rw [Accounted, countings_concat, hevent]
  simp only [Option.toList_none, List.append_nil]
  exact h.mono fun hrefused =>
    hrefused.imp (List.mem_append_left _) (List.mem_append_left _)

/-- What was counted of an execution that is cancelled. -/
theorem Admitted.underway {sourceId : String} {e : Exc} {m : List OperationsCall}
    (h : Admitted sourceId e m) (he : e.isCancelled = true) : Underway sourceId m := by
  cases h with
  | waiting => exact .waiting
  | overloaded => cases he
  | reported queueMs h =>
    cases h with
    | cancelled _ hbegun => exact .running queueMs hbegun
    | _ => cases he

theorem Admitted.accounts {sourceId : String} {refused : Prop} {e : Exc}
    {m : List OperationsCall} (h : Admitted sourceId e m) (he : e.isCancelled = false) :
    Accounts sourceId refused (.error e : Except Exc (Response Json)) m := by
  cases h with
  | waiting hcancelled => rw [he] at hcancelled; cases hcancelled
  | overloaded => exact .overloaded
  | reported queueMs h =>
    cases h with
    | cancelled hcancelled => rw [he] at hcancelled; cases hcancelled
    | rejected reasonCode construct => exact .rejected queueMs reasonCode construct
    | invalid reasonCode => exact .invalid queueMs reasonCode
    | timedOut name hbegun hname => exact .timedOut queueMs name hbegun hname
    | unavailable name hbegun hname => exact .unavailable queueMs name hbegun hname

/-- A process that shuts down refuses what reads it. -/
theorem accepting_spec (hP : Quiet P) {E : Exc → Log Row → Prop} :
    Triple (driverWorld Row live) P (perform .accepting)
      (fun (accepting : Bool) log => P log ∧ (accepting = false → Refused log)) E := by
  refine perform_spec (fun log accepting h _ => ⟨?_, fun hfalse => ?_⟩) fun log e _ hallowed => ?_
  · exact hP log ⟨.accepting, .ok accepting⟩ rfl h
  · subst hfalse
    exact .inr (List.mem_append_right _ (List.mem_singleton.2 rfl))
  · cases hallowed.1.1

theorem mapInterruption_accounted {Q : Response Json → Log Row → Prop} (e : Exc) :
    Triple (driverWorld Row live) (fun log => Admitted source.sourceId e (countings log))
      (mapInterruption source e) Q fun e log =>
        Accounted source.sourceId (.error e : Except Exc (Response Json)) log := by
  refine .ite (fun hcancelled => ?_) fun hne => ?_
  · refine Triple.bind ((accepting_spec quiet_countings).weaken_pre fun log h =>
      h.underway hcancelled) fun (accepting : Bool) => .ite (fun _ => ?_) fun hclosed => ?_
    · refine Triple.of_forall (P := fun m log => Underway source.sourceId m ∧ countings log = m)
        (fun m => Triple.of_fact fun hunderway => ?_) |>.weaken_pre fun log h => ⟨_, h.1, rfl⟩
      refine Triple.bind (count_spec rfl fun _ => rfl) fun _ =>
        Triple.throw.weaken_pre fun log h => ?_
      rw [Accounted, h]
      exact .interrupted hunderway hcancelled
    · exact Triple.throw.weaken_pre fun log h =>
        .closed h.1 (h.2 (by simpa using hclosed))
  · exact Triple.throw.weaken_pre fun log h => h.accounts (by simpa using hne)

theorem admitTask_accounted :
    Triple (driverWorld Row live) (fun log => countings log = []) (admitTask : Exec Row Unit)
      (fun _ log => countings log = [])
      fun e => Accounted source.sourceId (.error e : Except Exc (Response Json)) := by
  refine Triple.bind ((lock_spec (quiet_eq []) _).weaken_exc fun e log h => ?_) fun _ => ?_
  · rw [Accounted, h.2]
    exact .unadmitted h.1
  refine Triple.bind (accepting_spec (quiet_eq []))
    fun (accepting : Bool) => .ite (fun _ => ?_) fun hclosed => ?_
  · exact (sure_spec (quiet_eq []) rfl fun _ => rfl).weaken_pre fun _ h => h.1
  · refine Triple.throw.weaken_pre fun log h => ?_
    rw [Accounted, h.1]
    exact .closed .waiting (h.2 (by simpa using hclosed))

theorem execute_accounted {requestedId : Option String} :
    Triple (driverWorld Row live) (fun log => countings log = [])
      (execute encodeRow source sql metadataRevision validated requestedId)
      (fun response => Accounted source.sourceId (.ok response))
      fun e => Accounted source.sourceId (.error e : Except Exc (Response Json)) := by
  have hid : Triple (driverWorld Row live) (fun log => countings log = [])
      (effectiveQueryId requestedId : Exec Row String) (fun _ log => countings log = [])
      fun e => Accounted source.sourceId (.error e : Except Exc (Response Json)) :=
    .ite (fun _ => sure_spec (quiet_eq []) rfl fun _ => rfl) fun _ =>
      Triple.pure.weaken_pre fun _ h => h
  have hretire : ∀ r : Except Exc (Response Json), Triple (driverWorld Row live)
      (Accounted source.sourceId r)
      (do perform (.lockActive .retire); perform .discardInflight : Exec Row Unit)
      (fun _ => Accounted source.sourceId r)
      fun e => Accounted source.sourceId (.error e : Except Exc (Response Json)) := fun r =>
    Triple.bind ((lock_spec quiet_accounted _).weaken_exc fun _ _ h => .late h.2 h.1) fun _ =>
      sure_spec quiet_accounted rfl fun _ => rfl
  refine Triple.bind (Q := fun (task : Bool) log =>
    countings log = [] ∧ (task = false → Refused log)) ?_
    fun (task : Bool) => .ite (fun _ => ?_) fun htask => ?_
  · refine perform_spec (fun log task h _ => ⟨?_, fun hfalse => ?_⟩) fun log e _ hallowed => ?_
    · exact quiet_eq [] log ⟨.currentTask, .ok task⟩ rfl h
    · subst hfalse
      exact .inl (List.mem_append_right _ (List.mem_singleton.2 rfl))
    · cases hallowed.1.1
  · refine Triple.weaken_pre (hid.bind fun effectiveId => admitTask_accounted.bind fun _ => ?_)
      fun _ h => h.1
    refine Triple.tryFinally (Triple.tryCatch executeAdmitted_counted
      mapInterruption_accounted) (fun response => ?_) fun e => hretire (.error e)
    refine (hretire (.ok response)).weaken_pre fun log h => ?_
    rw [Accounted, h]
    exact .answered response
  · refine Triple.throw.weaken_pre fun log h => ?_
    rw [Accounted, h.1]
    exact .closed .waiting (h.2 (by simpa using htask))

/-- **Every execution is accounted for**: in each run of `execute` in which the awaits raise none of
the gateway's own errors, the calls of `increment` and `observe` tell how it ended. -/
theorem execution_accounts {requestedId : Option String} {log : Log Row}
    {result : Except Exc (Response Json)}
    (hrun : Run (world Row live) []
      (execute encodeRow source sql metadataRevision validated requestedId) log result)
    (hplain : ∀ event ∈ log, ∀ error, raisedBy event ≠ some (.app error)) :
    Accounts source.sourceId (Refused log) result (countings log) := by
  obtain ⟨history, hmakes, hallows⟩ := run_iff_history.1 hrun
  have hlog : log = history := hallows.eq_append fun _ _ _ => rfl
  subst hlog
  have hdriver : Run (driverWorld Row live) []
      (execute encodeRow source sql metadataRevision validated requestedId) log result := by
    refine run_iff_history.2 ⟨log, hmakes, hallows.restrict ?_⟩
    intro before o answer rest t heq _ e hraised error happ
    subst hraised happ
    exact hplain ⟨o, .error (.app error)⟩ (by rw [heq]; simp) error rfl
  have hpost := execute_accounted [] log result rfl hdriver
  cases result with
  | ok response => exact hpost
  | error e => exact hpost

end

/-- The run of `SELECT 1` without faults. -/
theorem execution_accounts_selectOne :
    Accounts "cave" (Refused (playWith emptyLive noFault selectOne).1)
      (playWith emptyLive noFault selectOne).2
      (countings (playWith emptyLive noFault selectOne).1) := by
  have hnone : ((playWith emptyLive noFault selectOne).1.all
      fun event => (raisedBy event).isNone) = true := by
    decide +kernel
  refine execution_accounts (run_playWith possible_noFault selectOne)
    fun event hevent error hraised => ?_
  have hevent' := List.all_eq_true.1 hnone event hevent
  rw [hraised] at hevent'
  cases hevent'

end QueryMan.PostgresQueryExecutor
