import QueryMan.Coro.History
import QueryMan.GuardedQuery.CheckFailures
import QueryMan.GuardedQuery.QueryHealth

/-!
# Which phase a database error comes from

Runs of `execute` in which one database call raises. `execute` answers `QueryInvalidError` exactly
if the call was one of those in which PostgreSQL answers the caller's SQL and the SQLSTATE is in the
table (`queryInvalid_iff_callerSql`): on its way through the handlers the exception is `Marked` with
the phase that it came from.
-/

namespace QueryMan.PostgresQueryExecutor

open Coro

/-- The awaited calls of the driver and of its pool. -/
def Op.isDatabaseCall : Op → Bool
  | .openPool _ _ _ | .leaseConnection _ _ | .returnConnection _ | .closeConnection => true
  | .send _ | .fetchPolicyRow | .fetchObjects _ _ | .fetchPlan | .cancelSafe | .rollback => true
  | _ => false

/-- `psycopg.Error`: a `DatabaseError` or an `InterfaceError`. -/
def isDriverError : Exc → Bool
  | .poolTimeout | .database _ | .interfaceError => true
  | _ => false

/-- The event is an exception. -/
def raises {Row : Type} (event : Event Row) : Bool :=
  (raisedBy event).isSome

section

variable {Row Json α : Type}

/-! ## Runs with one database error -/

/-- The condition on a step: what raises is a database call, it raises `e`, and nothing has raised
before. -/
def OneFault (e : Exc) (log : Log Row) (o : Op) (r : Except Exc (Ret Row o)) : Prop :=
  ∀ e', r = .error e' → e' = e ∧ o.isDatabaseCall = true ∧ log.filter raises = []

/-- The world of such runs. -/
abbrev faultWorld (Row : Type) (live : LiveCatalog) (e : Exc) : World (Log Row) (Ret Row) Exc :=
  (world Row live).restrict (OneFault e)

/-- A run in which one database call raises is a run of that world. -/
theorem run_faultWorld {live : LiveCatalog} {p : Exec Row α} {log : Log Row} {result : Except Exc α}
    {o : Op} {e : Exc} (hrun : Run (world Row live) [] p log result)
    (hfault : log.filter raises = [⟨o, .error e⟩]) (hcall : o.isDatabaseCall = true) :
    Run (faultWorld Row live e) [] p log result := by
  obtain ⟨history, hmakes, hallows⟩ := run_iff_history.1 hrun
  have hlog : log = history := hallows.eq_append fun _ _ _ => rfl
  refine run_iff_history.2 ⟨history, hmakes, hallows.restrict ?_⟩
  rintro before o' _ rest t rfl hbefore e' rfl
  have ht : t = before := hbefore.eq_append fun _ _ _ => rfl
  subst ht hlog
  rw [List.filter_append, List.filter_cons_of_pos rfl, List.append_eq_singleton_iff] at hfault
  rcases hfault with ⟨hnone, hthis⟩ | ⟨-, hnone⟩
  · cases (List.cons.inj hthis).1
    exact ⟨rfl, hcall, hnone⟩
  · cases hnone

/-- An operation on the caller's SQL has raised. -/
def FaultedSql (log : Log Row) : Prop :=
  ∃ event ∈ log, event.1.isCallerSql = true ∧ raises event = true

theorem faultedSql_concat {log : Log Row} {o : Op} {r : Except Exc (Ret Row o)} :
    FaultedSql (log ++ [⟨o, r⟩]) ↔
      FaultedSql log ∨ o.isCallerSql = true ∧ raises (⟨o, r⟩ : Event Row) = true := by
  constructor
  · rintro ⟨event, hmem, hevent⟩
    rcases List.mem_append.1 hmem with hmem | hmem
    · exact .inl ⟨event, hmem, hevent⟩
    · rcases List.mem_singleton.1 hmem with rfl
      exact .inr hevent
  · rintro (⟨event, hmem, hevent⟩ | hevent)
    · exact ⟨event, List.mem_append_left _ hmem, hevent⟩
    · exact ⟨_, List.mem_append_right _ List.mem_cons_self, hevent⟩

theorem not_faultedSql_of_none {log : Log Row} (h : log.filter raises = []) : ¬ FaultedSql log := by
  rintro ⟨event, hmem, -, hraises⟩
  exact List.filter_eq_nil_iff.1 h event hmem hraises

/-- At the end of such a run: whether the call was one on the caller's SQL. -/
theorem faultedSql_iff {log : Log Row} {o : Op} {e : Exc}
    (hfault : log.filter raises = [⟨o, .error e⟩]) : FaultedSql log ↔ o.isCallerSql = true := by
  have hmem : ∀ event, event ∈ log ∧ raises event = true ↔ event = ⟨o, .error e⟩ := by
    intro event
    rw [← List.mem_filter, hfault, List.mem_singleton]
  constructor
  · rintro ⟨event, hevent, hsql, hraises⟩
    rw [(hmem event).1 ⟨hevent, hraises⟩] at hsql
    exact hsql
  · intro hsql
    obtain ⟨hevent, hraises⟩ := (hmem _).2 rfl
    exact ⟨_, hevent, hsql, hraises⟩

/-! ## Marked exceptions -/

/-- An exception outside the phases of the caller's SQL: it is `QueryInvalidError` exactly if the
database error came from one of them and has a reason. -/
def Marked (e : Exc) (x : Exc) (log : Log Row) : Prop :=
  ∀ reason, x = .app (.queryInvalid reason) ↔
    FaultedSql log ∧ queryInvalidReason e = some reason

/-- An exception inside such a phase: the database error of an operation on the caller's SQL, or one
of the checks. -/
def Bare (e : Exc) (x : Exc) (log : Log Row) : Prop :=
  (x = e ∧ FaultedSql log) ∨ (x.isCheckFailure = true ∧ ¬ FaultedSql log)

/-- `QueryInvalidError`. -/
def isQueryInvalid : Exc → Bool
  | .app (.queryInvalid _) => true
  | _ => false

theorem ne_queryInvalid {x : Exc} (h : isQueryInvalid x = false) (reason : String) :
    x ≠ .app (.queryInvalid reason) := by
  rintro rfl
  cases h

theorem not_queryInvalid_of_driver {x : Exc} (h : isDriverError x = true) :
    isQueryInvalid x = false := by
  cases x <;> first | rfl | cases h

theorem not_queryInvalid_of_check {x : Exc} (h : x.isCheckFailure = true) :
    isQueryInvalid x = false := by
  cases x with
  | app error => cases error <;> first | rfl | cases h
  | _ => rfl

theorem not_database_of_check {x : Exc} (h : x.isCheckFailure = true) :
    x.isDatabaseError = false := by
  cases x <;> first | rfl | cases h

variable {e x y : Exc} {log : Log Row}

/-- Without an error of the caller's SQL any other exception is marked. -/
theorem marked_of_not_faultedSql (hx : isQueryInvalid x = false) (h : ¬ FaultedSql log) :
    Marked e x log :=
  fun reason => iff_of_false (ne_queryInvalid hx reason) fun hfaulted => h hfaulted.1

/-- An error without a reason is marked, wherever it came from. -/
theorem marked_of_no_reason (hx : isQueryInvalid x = false) (h : queryInvalidReason e = none) :
    Marked e x log := by
  refine fun reason => iff_of_false (ne_queryInvalid hx reason) fun hfaulted => ?_
  rw [h] at hfaulted
  cases hfaulted.2

/-- A handler may put another exception in its place, but for `QueryInvalidError`. -/
theorem Marked.replace (h : Marked e x log) (hx : isQueryInvalid x = false)
    (hy : isQueryInvalid y = false) : Marked e y log :=
  fun reason => iff_of_false (ne_queryInvalid hy reason) fun hfaulted =>
    ne_queryInvalid hx reason ((h reason).2 hfaulted)

/-! ## Steps -/

/-- Operations other than those on the caller's SQL keep the fact. -/
def Steady (P : Log Row → Prop) : Prop :=
  ∀ log (event : Event Row), event.1.isCallerSql = false → P log → P (log ++ [event])

theorem faultedSql_concat_other {event : Event Row} (h : event.1.isCallerSql = false) :
    FaultedSql (log ++ [event]) ↔ FaultedSql log := by
  rw [faultedSql_concat, h]
  exact or_iff_left fun hsql => Bool.false_ne_true hsql.1

theorem steady_calm : Steady fun log : Log Row => ¬ FaultedSql log := by
  intro log event hsql h hfaulted
  exact h ((faultedSql_concat_other hsql).1 hfaulted)

theorem steady_marked : @Steady Row (Marked e x) := by
  intro log event hsql h reason
  rw [faultedSql_concat_other hsql]
  exact h reason

/-- A program that goes on from `P`, or raises a marked exception. -/
def Through (live : LiveCatalog) (e : Exc) (P : Log Row → Prop) (p : Exec Row α) : Prop :=
  Triple (faultWorld Row live e) P p (fun _ => P) (Marked e)

/-- Calm programs and handlers go on from these. -/
structure Passage (e : Exc) (P : Log Row → Prop) : Prop where
  driver : isDriverError e = true
  steady : Steady P

variable {live : LiveCatalog} {P : Log Row → Prop}

/-- What is not on the caller's SQL keeps the fact, and raises in a calm state only. -/
theorem Passage.perform_spec (h : Passage e P) {o : Op} (hsql : o.isCallerSql = false) :
    Triple (faultWorld Row live e) P (perform o) (fun _ => P)
      fun x log => P log ∧ x = e ∧ ¬ FaultedSql log := by
  refine PostgresQueryExecutor.perform_spec (fun log a hP _ => h.steady log ⟨o, .ok a⟩ hsql hP)
    fun log x hP hallowed => ?_
  obtain ⟨rfl, -, hnone⟩ := hallowed.2 x rfl
  refine ⟨h.steady log _ hsql hP, rfl, ?_⟩
  exact steady_calm log ⟨o, .error x⟩ hsql (not_faultedSql_of_none hnone)

namespace Through

variable {p : Exec Row α} {β : Type} {f : α → Exec Row β}

theorem perform (h : Passage e P) {o : Op} (hsql : o.isCallerSql = false) :
    Through live e P (perform o : Exec Row (Ret Row o)) :=
  (h.perform_spec hsql).weaken_exc fun _ _ ⟨_, hx, hcalm⟩ =>
    marked_of_not_faultedSql (hx ▸ not_queryInvalid_of_driver h.driver) hcalm

theorem pure {a : α} : Through live e P (Pure.pure a : Exec Row α) :=
  Triple.pure.weaken_pre fun _ h => h

theorem throw (h : ∀ log, P log → Marked e x log) : Through live e P (throw x : Exec Row α) :=
  Triple.throw.weaken_pre h

theorem bind (hp : Through live e P p) (hf : ∀ a, Through live e P (f a)) :
    Through live e P (p >>= f) :=
  Triple.bind hp hf

theorem ite {c : Prop} [Decidable c] {q : Exec Row α} (hp : c → Through live e P p)
    (hq : ¬ c → Through live e P q) : Through live e P (if c then p else q) :=
  Triple.ite hp hq

/-- `try: … except Exception: pass`. -/
theorem quietly (h : Passage e P) {p : Exec Row Unit}
    (hp : Triple (faultWorld Row live e) P p (fun _ => P)
      fun x log => P log ∧ x = e ∧ ¬ FaultedSql log) : Through live e P (quietly p) := by
  refine Triple.tryCatch hp fun x => .ite (fun _ => ?_) fun _ => ?_
  · exact Triple.throw.weaken_pre fun _ ⟨_, hx, hcalm⟩ =>
      marked_of_not_faultedSql (hx ▸ not_queryInvalid_of_driver h.driver) hcalm
  · exact Triple.pure.weaken_pre fun _ hlog => hlog.1

end Through

/-- A program that goes on from a calm state. -/
theorem passage_calm (he : isDriverError e = true) :
    Passage e fun log : Log Row => ¬ FaultedSql log :=
  ⟨he, steady_calm⟩

/-- A handler of a marked exception. -/
theorem passage_marked (he : isDriverError e = true) : @Passage Row e (Marked e x) :=
  ⟨he, steady_marked⟩

/-- A handler passes its exception on. -/
theorem rethrow_marked {Q : α → Log Row → Prop} :
    Triple (faultWorld Row live e) (Marked e x) (throw x : Exec Row α) Q (Marked e) :=
  Triple.throw.weaken_pre fun _ h => h

/-- A handler puts another exception in its place. -/
theorem replace_marked {Q : α → Log Row → Prop} (hx : isQueryInvalid x = false)
    (hy : isQueryInvalid y = false) :
    Triple (faultWorld Row live e) (Marked e x) (throw y : Exec Row α) Q (Marked e) :=
  Triple.throw.weaken_pre fun _ h => h.replace hx hy

/-! ## The phases of the caller's SQL -/

/-- A program inside such a phase. -/
def InPhase (live : LiveCatalog) (e : Exc) (p : Exec Row α) : Prop :=
  Triple (faultWorld Row live e) (fun log => ¬ FaultedSql log) p (fun _ log => ¬ FaultedSql log)
    (Bare e)

/-- PostgreSQL answers the caller's SQL. -/
theorem InPhase.callerSql {o : Op} (hsql : o.isCallerSql = true) :
    InPhase live e (perform o : Exec Row (Ret Row o)) := by
  refine PostgresQueryExecutor.perform_spec (fun log a hcalm _ hfaulted => ?_)
    fun log x hcalm hallowed => ?_
  · rcases faultedSql_concat.1 hfaulted with hfaulted | ⟨-, hraises⟩
    · exact hcalm hfaulted
    · cases hraises
  · obtain ⟨rfl, -, -⟩ := hallowed.2 x rfl
    exact .inl ⟨rfl, faultedSql_concat.2 (.inr ⟨hsql, rfl⟩)⟩

/-- Reading an attribute of the cursor does not raise. -/
theorem InPhase.attribute {o : Op} (hsql : o.isCallerSql = false)
    (hcall : o.isDatabaseCall = false) :
    InPhase live e (perform o : Exec Row (Ret Row o)) := by
  refine PostgresQueryExecutor.perform_spec
    (fun log a hcalm _ => steady_calm log ⟨o, .ok a⟩ hsql hcalm)
    fun log x _ hallowed => ?_
  obtain ⟨-, hraised, -⟩ := hallowed.2 x rfl
  rw [hcall] at hraised
  cases hraised

theorem InPhase.bind {β : Type} {p : Exec Row α} {f : α → Exec Row β} (hp : InPhase live e p)
    (hf : ∀ a, InPhase live e (f a)) : InPhase live e (p >>= f) :=
  Triple.bind hp hf

theorem InPhase.pure {a : α} : InPhase live e (Pure.pure a : Exec Row α) :=
  Triple.pure.weaken_pre fun _ h => h

theorem InPhase.checks {c : Except Exc α} (h : ChecksOnly c) :
    InPhase live e (.lift c : Exec Row α) := by
  cases c with
  | ok a => exact .pure
  | error x => exact Triple.throw.weaken_pre fun _ hcalm => .inr ⟨h x rfl, hcalm⟩

theorem InPhase.ite {c : Prop} [Decidable c] {p q : Exec Row α} (hp : InPhase live e p)
    (hq : InPhase live e q) : InPhase live e (if c then p else q) :=
  Triple.ite (fun _ => hp) fun _ => hq

theorem steady_bare : @Steady Row (Bare e x) := by
  intro log event hsql h
  rw [Bare, faultedSql_concat_other hsql]
  exact h

/-- A database error of the caller's SQL is no other than the one that was raised. -/
theorem Bare.of_database (h : Bare e x log) (hx : x.isDatabaseError = true) :
    x = e ∧ FaultedSql log := by
  refine h.resolve_right fun ⟨hcheck, _⟩ => ?_
  rw [not_database_of_check hcheck] at hx
  cases hx

/-- **The handler around the caller's SQL marks the exception.** -/
theorem reraiseForUserSql_marked (he : isDriverError e = true) {Q : α → Log Row → Prop}
    (sourceId : String) (x : Exc) :
    Triple (faultWorld Row live e) (Bare e x) (reraiseForUserSql sourceId x) Q (Marked e) := by
  have hplain := not_queryInvalid_of_driver he
  refine .ite (fun hdatabase => ?_) fun hother => ?_
  · refine Triple.bind (Q := fun _ log => Bare e x log ∧ queryInvalidReason x = none) ?_ fun _ =>
      Triple.throw.weaken_pre fun log ⟨hbare, hreason⟩ => ?_
    · unfold raiseQueryInvalidForUserSql
      split
      · next hreason => exact Triple.pure.weaken_pre fun log h => ⟨h, hreason⟩
      · next reason hreason =>
        refine Triple.bind (Through.perform ⟨he, steady_bare⟩ rfl) fun _ =>
          Triple.throw.weaken_pre fun log h reason' => ?_
        obtain ⟨rfl, hfaulted⟩ := h.of_database hdatabase
        rw [hreason]
        exact ⟨fun heq => ⟨hfaulted, by cases heq; rfl⟩, fun ⟨_, heq⟩ => by cases heq; rfl⟩
    · obtain ⟨rfl, -⟩ := hbare.of_database hdatabase
      exact marked_of_no_reason hplain hreason
  · refine Triple.throw.weaken_pre fun log h => ?_
    rcases h with ⟨rfl, -⟩ | ⟨hcheck, hcalm⟩
    · refine marked_of_no_reason hplain ?_
      cases x with
      | database error => exact absurd rfl hother
      | _ => rfl
    · exact marked_of_not_faultedSql (not_queryInvalid_of_check hcheck) hcalm

/-! ## The transaction -/

variable {source : SourceProfile} {encodeRow : RowEncoder Row Json}
  {sql metadataRevision queryId : String} {validated : ValidatedSql} {queueMs : Int}

section

variable (he : isDriverError e = true)

include he

/-- Outside the phases of the caller's SQL. -/
theorem through_calm {o : Op} (hsql : o.isCallerSql = false) :
    Through live e (fun log => ¬ FaultedSql log) (perform o : Exec Row (Ret Row o)) :=
  .perform (passage_calm he) hsql

/-- What a handler calls. -/
theorem through_marked {o : Op} (hsql : o.isCallerSql = false) :
    Through live e (Marked e x) (perform o : Exec Row (Ret Row o)) :=
  .perform (passage_marked he) hsql

omit he in
/-- The checks outside the phases. -/
theorem through_checks {c : Except Exc α} (h : ∀ x, c = .error x → isQueryInvalid x = false) :
    Through live e (fun log => ¬ FaultedSql log) (.lift c : Exec Row α) := by
  cases c with
  | ok a => exact .pure
  | error x => exact .throw fun _ hcalm => marked_of_not_faultedSql (h x rfl) hcalm

theorem explainPlan_through :
    Through live e (fun log => ¬ FaultedSql log)
      (explainPlan source sql : Exec Row PlanSummary) := by
  refine Through.bind (Triple.tryCatch (InPhase.bind (.callerSql rfl) fun _ => .callerSql rfl)
    (reraiseForUserSql_marked he _)) fun _ => ?_
  refine Through.bind (through_checks fun x hx => not_queryInvalid_of_check
    ((checks_extractPlan.bind fun _ => checks_summarizePlan) x hx)) fun _ => ?_
  exact Through.bind (through_checks fun x hx => not_queryInvalid_of_check (checks_admitPlan x hx))
    fun _ => .pure

theorem prepare_through :
    Through live e (fun log => ¬ FaultedSql log)
      (prepare source sql validated queryId : Exec Row PlanSummary) := by
  have hpolicy : Through live e (fun log => ¬ FaultedSql log)
      (requireReaderSessionPolicy : Exec Row Unit) :=
    Through.bind (through_calm he rfl) fun _ => Through.bind (through_calm he rfl) fun _ =>
      .ite (fun _ => .pure) fun _ => .throw fun _ => marked_of_not_faultedSql rfl
  have hnames : ∀ {kind names reasonCode}, Through live e (fun log => ¬ FaultedSql log)
      (validateResolvedNames kind names reasonCode : Exec Row Unit) :=
    .ite (fun _ => .pure) fun _ => Through.bind (through_calm he rfl) fun _ =>
      Through.bind (through_calm he rfl) fun _ =>
        .ite (fun _ => .pure) fun _ => .throw fun _ => marked_of_not_faultedSql rfl
  exact Through.bind (through_calm he rfl) fun _ => Through.bind (through_calm he rfl) fun _ =>
    Through.bind (through_calm he rfl) fun _ => hpolicy.bind fun _ =>
      (hnames.bind fun _ => hnames).bind fun _ => explainPlan_through he

theorem readResult_through :
    Through live e (fun log => ¬ FaultedSql log) (readResult encodeRow source sql) := by
  have hloop : ∀ {fuel fetched},
      InPhase live e (fetchLoop encodeRow source.budget fuel fetched) := by
    intro fuel
    induction fuel with
    | zero => exact .pure
    | succ fuel ih =>
      exact InPhase.ite .pure <| InPhase.bind (.callerSql rfl) fun _ =>
        InPhase.ite .pure <| InPhase.bind (.checks checks_addBatch) fun _ => ih
  have hread : InPhase live e (readCursor encodeRow source sql) :=
    InPhase.bind (.callerSql rfl) fun _ => InPhase.bind (.attribute rfl rfl) fun _ =>
      .bind (.checks checks_checkDescription) fun _ => hloop.bind fun _ => .pure
  refine Through.bind (through_calm he rfl) fun _ => Triple.tryFinally
    (hread.tryCatch (reraiseForUserSql_marked he _)) (fun _ => ?_) fun x => ?_
  · exact Through.quietly (passage_calm he) ((passage_calm he).perform_spec rfl)
  · exact Through.quietly (passage_marked he) ((passage_marked he).perform_spec rfl)

/-- The `except` blocks pass a marked exception on. -/
theorem cleanUp_marked {Q : α → Log Row → Prop} (x : Exc) :
    Triple (faultWorld Row live e) (Marked e x) (cleanUp x) Q (Marked e) := by
  have hrollback : Through live e (Marked e x) (rollbackQuietly : Exec Row Unit) :=
    .quietly (passage_marked he) ((passage_marked he).perform_spec rfl)
  exact .ite (fun _ => Triple.bind (through_marked he rfl) fun _ =>
    Triple.bind hrollback fun _ => rethrow_marked) fun _ =>
      Triple.bind hrollback fun _ => rethrow_marked

theorem executeConnection_through :
    Through live e (fun log => ¬ FaultedSql log)
      (executeConnection encodeRow source sql metadataRevision validated queueMs queryId) := by
  have htransaction : Through live e (fun log => ¬ FaultedSql log)
      (runTransaction encodeRow source sql validated queryId) :=
    Through.bind (prepare_through he) fun _ => Through.bind (readResult_through he) fun _ =>
      Through.bind (through_calm he rfl) fun _ => Through.bind (through_calm he rfl) fun _ => .pure
  refine Through.bind (through_calm he rfl) fun _ => ?_
  refine Through.bind (Triple.tryCatch htransaction (cleanUp_marked he)) fun outcome => ?_
  exact Through.bind (through_calm he rfl) fun _ => Through.bind (through_calm he rfl) fun _ =>
    Through.bind (through_calm he rfl) fun _ => Through.bind (.ite (fun _ => through_calm he rfl)
      fun _ => .pure) fun _ => .pure

/-! ## The layers around the transaction -/

theorem useConnection_through :
    Through live e (fun log => ¬ FaultedSql log)
      (useConnection encodeRow source sql metadataRevision validated queueMs queryId) := by
  have hcheck : Through live e (fun log => ¬ FaultedSql log)
      (checkConnection source : Exec Row Unit) := by
    refine Triple.tryCatch (E := Marked e) ?_ fun x => ?_
    · refine Through.bind (through_calm he rfl) fun info => through_checks fun x hx => ?_
      rw [readerSessionPolicyError_of_connectionPolicy hx]
      rfl
    · have hclose :
        Through live e (Marked e x) (quietly (perform .closeConnection) : Exec Row Unit) :=
        .quietly (passage_marked he) ((passage_marked he).perform_spec rfl)
      exact .ite (fun _ => Triple.bind hclose fun _ => rethrow_marked) fun _ => rethrow_marked
  refine hcheck.bind fun _ => Through.bind (through_calm he rfl) fun _ =>
    Through.bind (through_calm he rfl) fun _ => ?_
  refine Triple.tryFinally (executeConnection_through he) (fun _ => ?_) fun x => ?_
  · exact Through.bind (through_calm he rfl) fun _ => through_calm he rfl
  · exact Through.bind (through_marked he rfl) fun _ => through_marked he rfl

theorem executePermitted_through :
    Through live e (fun log => ¬ FaultedSql log)
      (executePermitted encodeRow source sql metadataRevision validated queueMs queryId) := by
  have hpool : Through live e (fun log => ¬ FaultedSql log) (getPool source : Exec Row Unit) :=
    Through.bind (through_calm he rfl) fun (_ : Bool) => .ite (fun _ => .pure) fun _ =>
      Through.bind (through_calm he rfl) fun _ =>
        Through.bind (through_calm he rfl) fun (_ : Bool) =>
        .ite (fun _ => .pure) fun _ => Through.bind (through_calm he rfl) fun _ =>
          through_calm he rfl
  refine hpool.bind fun _ => Through.bind (through_calm he rfl) fun _ => ?_
  refine Triple.exitWith (Through.bind (through_calm he rfl) fun _ => Triple.exitWith
    (useConnection_through he) (fun _ => through_calm he rfl) fun _ => through_marked he rfl)
    (fun _ => ?_) fun x => ?_
  · exact Through.bind (through_calm he rfl) fun (expired : Bool) =>
      .ite (fun _ => .throw fun _ => marked_of_not_faultedSql rfl) fun _ => .pure
  · refine Through.bind (through_marked he rfl) fun (expired : Bool) =>
      .ite (fun hyes => ?_) fun _ => .pure
    -- the timeout takes the place of a cancellation
    have hcancelled : x.isCancelled = true := (Bool.and_eq_true_iff.1 hyes).2
    refine replace_marked ?_ rfl
    cases x <;> first | rfl | cases hcancelled

/-- The ladder of `except` clauses passes `QueryInvalidError` on and makes none. -/
theorem mapFailure_marked {Q : α → Log Row → Prop} (x : Exc) :
    Triple (faultWorld Row live e) (Marked e x) (mapFailure source queryId x) Q (Marked e) := by
  have hcount : ∀ {o : Op} {k : Ret Row o → Exec Row α}, o.isCallerSql = false →
      (∀ a, Triple (faultWorld Row live e) (Marked e x) (k a) Q (Marked e)) →
      Triple (faultWorld Row live e) (Marked e x) (perform o >>= k) Q (Marked e) :=
    fun hsql hk => Triple.bind (through_marked he hsql) hk
  unfold mapFailure
  split
  · exact rethrow_marked
  · exact hcount rfl fun _ => hcount rfl fun _ => replace_marked rfl rfl
  · exact hcount rfl fun _ => replace_marked rfl rfl
  · exact hcount rfl fun _ => hcount rfl fun _ => replace_marked rfl rfl
  · exact hcount rfl fun _ => hcount rfl fun _ => replace_marked rfl rfl
  · exact hcount rfl fun _ => hcount rfl fun _ => replace_marked rfl rfl
  · exact hcount rfl fun _ => hcount rfl fun _ => replace_marked rfl rfl
  · exact hcount rfl fun _ => rethrow_marked
  · exact rethrow_marked
  · exact rethrow_marked
  · exact rethrow_marked
  · next hinvalid _ _ =>
    refine hcount rfl fun _ => replace_marked ?_ rfl
    cases x with
    | app error =>
      cases error with
      | queryInvalid reason => exact absurd rfl (hinvalid reason)
      | _ => rfl
    | _ => rfl

theorem executeAdmitted_through :
    Through live e (fun log => ¬ FaultedSql log)
      (executeAdmitted encodeRow source sql metadataRevision validated queryId) := by
  have hpermit : Through live e (fun log => ¬ FaultedSql log)
      (acquirePermit source : Exec Row Unit) := by
    refine Triple.tryCatch (E := Marked e) (through_calm he rfl) fun x =>
      .ite (fun htimeout => ?_) fun _ => rethrow_marked
    exact Triple.bind (through_marked he rfl) fun _ => replace_marked (htimeout ▸ rfl) rfl
  refine Through.bind (through_calm he rfl) fun _ =>
    Through.bind (through_calm he rfl) fun queuedAt => ?_
  refine hpermit.bind fun _ => Through.bind (through_calm he rfl) fun now => ?_
  refine Through.bind (through_calm he rfl) fun _ => Through.bind (through_calm he rfl) fun _ => ?_
  exact Triple.tryFinally (Triple.tryCatch (executePermitted_through he) (mapFailure_marked he))
    (fun _ => through_calm he rfl) fun _ => through_marked he rfl

/-- The whole call. -/
theorem execute_through {requestedId : Option String} :
    Through live e (fun log => ¬ FaultedSql log)
      (execute encodeRow source sql metadataRevision validated requestedId) := by
  have hadmit : Through live e (fun log => ¬ FaultedSql log) (admitTask : Exec Row Unit) :=
    Through.bind (through_calm he rfl) fun _ => Through.bind (through_calm he rfl) fun (_ : Bool) =>
      .ite (fun _ => through_calm he rfl) fun _ => .throw fun _ => marked_of_not_faultedSql rfl
  have hinterrupt : ∀ x, Triple (faultWorld Row live e) (Marked e x)
      (mapInterruption source x : Exec Row (Response Json)) (fun _ log => ¬ FaultedSql log)
      (Marked e) := by
    refine fun x => .ite (fun hcancelled => ?_) fun _ => rethrow_marked
    refine Triple.bind (through_marked he rfl) fun (accepting : Bool) =>
      .ite (fun _ => ?_) fun _ => ?_
    · exact Triple.bind (through_marked he rfl) fun _ => rethrow_marked
    · refine replace_marked ?_ rfl
      cases x <;> first | rfl | cases hcancelled
  refine Through.bind (through_calm he rfl) fun (_ : Bool) => .ite (fun _ => ?_) fun _ =>
    .throw fun _ => marked_of_not_faultedSql rfl
  refine Through.bind (.ite (fun _ => through_calm he rfl) fun _ => .pure) fun effectiveId =>
    hadmit.bind fun _ => ?_
  refine Triple.tryFinally (Triple.tryCatch (executeAdmitted_through he) hinterrupt) (fun _ => ?_)
    fun x => ?_
  · exact Through.bind (through_calm he rfl) fun _ => through_calm he rfl
  · exact Through.bind (through_marked he rfl) fun _ => through_marked he rfl

end

/-- **Errors by phase and SQLSTATE**: a run in which one database call raises ends with
`QueryInvalidError` exactly if the call was one on the caller's SQL and the table has a reason for
the SQLSTATE, and with that reason. -/
theorem queryInvalid_iff_phase {requestedId : Option String} {result : Except Exc (Response Json)}
    {o : Op}
    (hrun : Run (world Row live) []
      (execute encodeRow source sql metadataRevision validated requestedId) log result)
    (hfault : log.filter raises = [⟨o, .error e⟩]) (hcall : o.isDatabaseCall = true)
    (he : isDriverError e = true) (reason : String) :
    result = .error (.app (.queryInvalid reason)) ↔
      o.isCallerSql = true ∧ queryInvalidReason e = some reason := by
  have hpost := execute_through he [] log result (fun ⟨_, hmem, _⟩ => List.not_mem_nil hmem)
    (run_faultWorld hrun hfault hcall)
  cases result with
  | ok response =>
    have hcalm : ¬ FaultedSql log := hpost
    rw [faultedSql_iff hfault] at hcalm
    exact iff_of_false (fun h => by cases h) fun h => hcalm h.1
  | error x =>
    have hmarked : Marked e x log := hpost
    rw [← faultedSql_iff hfault, ← hmarked reason]
    exact ⟨Except.error.inj, congrArg _⟩

end

end QueryMan.PostgresQueryExecutor
