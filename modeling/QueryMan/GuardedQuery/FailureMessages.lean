import QueryMan.Coro.Alike
import QueryMan.GuardedQuery.FailurePhase

/-!
# The messages of exceptions

`execute` looks at the class and the SQLSTATE of an exception and never at its message: it is blind
to what `Exc.withoutMessage` forgets. Together with the phases of `FailurePhase` this says how
database failures are classified (`databaseFailure_classified`).
-/

namespace QueryMan

/-- An exception without its message. -/
def Exc.withoutMessage : Exc → Exc
  | database error => database { error with message := "" }
  | runtimeError _ => runtimeError ""
  | e => e

/-- Two exceptions that differ in their message only. -/
inductive Exc.SameButMessage : Exc → Exc → Prop where
  | refl (e : Exc) : SameButMessage e e
  | database (cls : DatabaseErrorClass) (sqlstate : Option String) (message message' : String) :
      SameButMessage (database ⟨cls, sqlstate, message⟩) (database ⟨cls, sqlstate, message'⟩)
  | runtimeError (message message' : String) :
      SameButMessage (runtimeError message) (runtimeError message')

theorem Exc.sameButMessage_of_eq {e e' : Exc} (h : e.withoutMessage = e'.withoutMessage) :
    SameButMessage e e' := by
  cases e with
  | database error =>
    cases e' with
    | database error' =>
      obtain ⟨cls, sqlstate, message⟩ := error
      obtain ⟨cls', sqlstate', message'⟩ := error'
      cases h
      exact .database cls sqlstate message message'
    | _ => cases h
  | runtimeError message =>
    cases e' with
    | runtimeError message' => exact .runtimeError message message'
    | _ => cases h
  | _ =>
    cases e' with
    | database error' => cases h
    | runtimeError message' => cases h
    | _ => cases h <;> exact .refl _

/-- Whether the exception of a block is a cancellation. -/
theorem Exc.any_isCancelled_withoutMessage (raised : Option Exc) :
    (raised.map withoutMessage).any isCancelled = raised.any isCancelled := by
  cases raised with
  | none => rfl
  | some e => cases e <;> rfl

namespace PostgresQueryExecutor

open Coro

section

variable {Row Json α : Type}

/-- The programs differ in the messages of their exceptions only. -/
abbrev SameButMessages (p p' : Exec Row α) : Prop :=
  p.Alike Exc.withoutMessage p'

/-- The program does not look at the messages. -/
def Blind (p : Exec Row α) : Prop :=
  SameButMessages p p

namespace Blind

variable {β : Type} {p : Exec Row α} {f : α → Exec Row β}

theorem perform (o : Op) : Blind (perform o : Exec Row (Ret Row o)) :=
  Prog.Alike.perform o

theorem pure (a : α) : Blind (Pure.pure a : Exec Row α) :=
  Prog.Alike.pure a

theorem lift (r : Except Exc α) : Blind (.lift r : Exec Row α) :=
  Prog.Alike.lift r

theorem throw (e : Exc) : Blind (throw e : Exec Row α) :=
  Prog.Alike.throw rfl

theorem bind (hp : Blind p) (hf : ∀ a, Blind (f a)) : Blind (p >>= f) :=
  Prog.Alike.bind hp hf

theorem ite {c : Prop} [Decidable c] {q : Exec Row α} (hp : Blind p) (hq : Blind q) :
    Blind (if c then p else q) :=
  Prog.Alike.ite hp hq

theorem tryFinally {final : Exec Row Unit} (hp : Blind p) (hfinal : Blind final) :
    Blind (p.tryFinally final) :=
  Prog.Alike.tryFinally hp hfinal

/-- The handler is blind too. -/
theorem tryCatch {h : Exc → Exec Row α} (hp : Blind p)
    (hh : ∀ e e', e.SameButMessage e' → SameButMessages (h e) (h e')) : Blind (p.tryCatch h) :=
  Prog.Alike.tryCatch hp fun e e' heq => hh e e' (Exc.sameButMessage_of_eq heq)

end Blind

/-! ## The handlers -/

/-- A handler that raises the exception again. -/
theorem throw_blind {e e' : Exc} (h : e.SameButMessage e') :
    SameButMessages (throw e : Exec Row α) (throw e') := by
  refine Prog.Alike.throw ?_
  cases h <;> rfl

theorem quietly_blind {p : Exec Row Unit} (hp : Blind p) : Blind (quietly p) := by
  refine hp.tryCatch fun e e' h => ?_
  cases h with
  | refl e => exact .ite (.throw rfl) (.pure ())
  | database | runtimeError => exact .pure ()

/-- The reason depends on the SQLSTATE. -/
theorem raiseQueryInvalidForUserSql_blind (sourceId : String) {e e' : Exc}
    (h : e.SameButMessage e') :
    SameButMessages (raiseQueryInvalidForUserSql e sourceId : Exec Row Unit)
      (raiseQueryInvalidForUserSql e' sourceId) := by
  have hreason : queryInvalidReason e = queryInvalidReason e' := by
    cases h <;> rfl
  unfold raiseQueryInvalidForUserSql
  rw [hreason]
  split
  · exact Blind.pure ()
  · exact Blind.bind (.perform _) fun _ => .throw _

theorem reraiseForUserSql_blind (sourceId : String) (e e' : Exc) (h : e.SameButMessage e') :
    SameButMessages (reraiseForUserSql sourceId e : Exec Row α)
      (reraiseForUserSql sourceId e') := by
  have hdatabase : e.isDatabaseError = e'.isDatabaseError := by
    cases h <;> rfl
  unfold reraiseForUserSql
  rw [hdatabase]
  exact .ite (Prog.Alike.bind (raiseQueryInvalidForUserSql_blind sourceId h) fun _ =>
    throw_blind h) (throw_blind h)

theorem cleanUp_blind (e e' : Exc) (h : e.SameButMessage e') :
    SameButMessages (cleanUp e : Exec Row α) (cleanUp e') := by
  have hcancelled : e.isCancelled = e'.isCancelled := by
    cases h <;> rfl
  have hrollback : Blind (rollbackQuietly : Exec Row Unit) := quietly_blind (.perform _)
  unfold cleanUp
  rw [hcancelled]
  exact .ite
    (Prog.Alike.bind (.perform _) fun _ => Prog.Alike.bind hrollback fun _ => throw_blind h)
    (Prog.Alike.bind hrollback fun _ => throw_blind h)

/-- The ladder of `except` clauses goes by the class of the exception. -/
theorem mapFailure_blind {source : SourceProfile} {queryId : String} (e e' : Exc)
    (h : e.SameButMessage e') :
    SameButMessages (mapFailure source queryId e : Exec Row α) (mapFailure source queryId e') := by
  have hone : ∀ {o : Op} {error : AppError},
      Blind (perform o >>= fun _ => throw (.app error) : Exec Row α) :=
    Blind.bind (.perform _) fun _ => .throw _
  have htwo : ∀ {o o' : Op} {error : AppError},
      Blind (perform o >>= fun _ => perform o' >>= fun _ => throw (.app error) : Exec Row α) :=
    Blind.bind (.perform _) fun _ => hone
  cases h with
  | refl e =>
    unfold mapFailure
    split
    · exact Blind.throw _
    · exact htwo
    · exact hone
    · exact Blind.bind (.perform _) fun _ => hone
    · exact htwo
    · exact htwo
    · exact htwo
    · exact hone
    · exact Blind.throw _
    · exact Blind.throw _
    · exact Blind.throw _
    · exact hone
  | database cls sqlstate message message' =>
    cases cls with
    | queryCanceled => exact Blind.bind (.perform _) fun _ => hone
    | operationalError => exact htwo
    | _ => exact hone
  | runtimeError message message' => exact hone

theorem mapInterruption_blind {source : SourceProfile} (e e' : Exc) (h : e.SameButMessage e') :
    SameButMessages (mapInterruption source e : Exec Row α) (mapInterruption source e') := by
  have hcancelled : e.isCancelled = e'.isCancelled := by
    cases h <;> rfl
  unfold mapInterruption
  rw [hcancelled]
  refine .ite (Prog.Alike.bind (.perform _) fun (accepting : Bool) => .ite ?_ (.throw rfl))
    (throw_blind h)
  exact Prog.Alike.bind (.perform _) fun _ => throw_blind h

/-! ## The call -/

variable {source : SourceProfile} {encodeRow : RowEncoder Row Json}
  {sql metadataRevision queryId : String} {validated : ValidatedSql} {queueMs : Int}

theorem prepare_blind :
    Blind (prepare source sql validated queryId : Exec Row PlanSummary) := by
  have hpolicy : Blind (requireReaderSessionPolicy : Exec Row Unit) :=
    Blind.bind (.perform _) fun _ => Blind.bind (.perform _) fun _ => Blind.ite (.pure _) (.throw _)
  have hnames : ∀ {kind names reasonCode},
      Blind (validateResolvedNames kind names reasonCode : Exec Row Unit) :=
    Blind.ite (.pure _) <| Blind.bind (.perform _) fun _ => Blind.bind (.perform _) fun _ =>
      Blind.ite (.pure _) (.throw _)
  have hexplain : Blind (explainPlan source sql : Exec Row PlanSummary) :=
    Blind.bind (Blind.tryCatch (Blind.bind (.perform _) fun _ => .perform _)
      (reraiseForUserSql_blind _)) fun _ => Blind.bind (.lift _) fun _ => Blind.bind (.lift _)
        fun _ => .pure _
  exact Blind.bind (.perform _) fun _ => Blind.bind (.perform _) fun _ =>
    Blind.bind (.perform _) fun _ => hpolicy.bind fun _ =>
      (hnames.bind fun _ => hnames).bind fun _ => hexplain

theorem readResult_blind : Blind (readResult encodeRow source sql) := by
  have hloop : ∀ {fuel fetched}, Blind (fetchLoop encodeRow source.budget fuel fetched) := by
    intro fuel
    induction fuel with
    | zero => exact .pure _
    | succ fuel ih =>
      exact Blind.ite (.pure _) <| Blind.bind (.perform _) fun _ => Blind.ite (.pure _) <|
        Blind.bind (.lift _) fun _ => ih
  have hread : Blind (readCursor encodeRow source sql) :=
    Blind.bind (.perform _) fun _ => Blind.bind (.perform _) fun _ => Blind.bind (.lift _) fun _ =>
      hloop.bind fun _ => .pure _
  exact Blind.bind (.perform _) fun _ => Blind.tryFinally
    (hread.tryCatch (reraiseForUserSql_blind _)) (quietly_blind (.perform _))

theorem executeConnection_blind :
    Blind (executeConnection encodeRow source sql metadataRevision validated queueMs queryId) := by
  have htransaction : Blind (runTransaction encodeRow source sql validated queryId) :=
    prepare_blind.bind fun _ => readResult_blind.bind fun _ => Blind.bind (.perform _) fun _ =>
      Blind.bind (.perform _) fun _ => .pure _
  refine Blind.bind (.perform _) fun _ => (htransaction.tryCatch cleanUp_blind).bind fun _ => ?_
  exact Blind.bind (.perform _) fun _ => Blind.bind (.perform _) fun _ =>
    Blind.bind (.perform _) fun _ => Blind.bind (Blind.ite (.perform _) (.pure _)) fun _ => .pure _

theorem useConnection_blind :
    Blind (useConnection encodeRow source sql metadataRevision validated queueMs queryId) := by
  have hcheck : Blind (checkConnection source : Exec Row Unit) := by
    refine Blind.tryCatch (Blind.bind (.perform _) fun _ => .lift _) fun e e' h => ?_
    cases h with
    | refl e =>
      exact Blind.ite (Blind.bind (quietly_blind (.perform _)) fun _ => .throw _) (.throw _)
    | database | runtimeError => exact .throw rfl
  exact hcheck.bind fun _ => Blind.bind (.perform _) fun _ => Blind.bind (.perform _) fun _ =>
    executeConnection_blind.tryFinally (Blind.bind (.perform _) fun _ => .perform _)

theorem executePermitted_blind :
    Blind (executePermitted encodeRow source sql metadataRevision validated queueMs queryId) := by
  have hpool : Blind (getPool source : Exec Row Unit) :=
    Blind.bind (.perform _) fun (_ : Bool) =>
      Blind.ite (.pure _) <| Blind.bind (.perform _) fun _ =>
      Blind.bind (.perform _) fun (_ : Bool) => Blind.ite (.pure _) <|
        Blind.bind (.perform _) fun _ => .perform _
  refine hpool.bind fun _ => Blind.bind (.perform _) fun _ => Prog.Alike.exitWith
    (Blind.bind (.perform _) fun _ => Prog.Alike.exitWith useConnection_blind ?_) ?_
  · intro raised raised' h
    have hsome : raised.isSome = raised'.isSome := by
      rw [← Option.isSome_map, h, Option.isSome_map]
    rw [hsome]
    exact .perform _
  · intro raised raised' h
    have hcancelled : raised.any Exc.isCancelled = raised'.any Exc.isCancelled := by
      rw [← Exc.any_isCancelled_withoutMessage, h, Exc.any_isCancelled_withoutMessage]
    rw [hcancelled]
    exact Prog.Alike.bind (.perform _) fun (expired : Bool) => .ite (.throw rfl) (.pure ())

theorem executeAdmitted_blind :
    Blind (executeAdmitted encodeRow source sql metadataRevision validated queryId) := by
  have hpermit : Blind (acquirePermit source : Exec Row Unit) := by
    refine Blind.tryCatch (.perform _) fun e e' h => ?_
    cases h with
    | refl e => exact Blind.ite (Blind.bind (.perform _) fun _ => .throw _) (.throw _)
    | database | runtimeError => exact .throw rfl
  refine Blind.bind (.perform _) fun _ => Blind.bind (.perform _) fun _ => hpermit.bind fun _ => ?_
  refine Blind.bind (.perform _) fun _ => Blind.bind (.perform _) fun _ =>
    Blind.bind (.perform _) fun _ => ?_
  exact Blind.tryFinally (executePermitted_blind.tryCatch mapFailure_blind) (.perform _)

/-- **`execute` does not look at the messages of exceptions.** -/
theorem execute_blind {requestedId : Option String} :
    Blind (execute encodeRow source sql metadataRevision validated requestedId) := by
  have hadmit : Blind (admitTask : Exec Row Unit) :=
    Blind.bind (.perform _) fun _ => Blind.bind (.perform _) fun (_ : Bool) =>
      Blind.ite (.perform _) (.throw _)
  refine Blind.bind (.perform _) fun (_ : Bool) => Blind.ite ?_ (.throw _)
  refine Blind.bind (Blind.ite (.perform _) (.pure _)) fun _ => hadmit.bind fun _ => ?_
  exact Blind.tryFinally (executeAdmitted_blind.tryCatch mapInterruption_blind)
    (Blind.bind (.perform _) fun _ => .perform _)

/-! ## Two runs -/

/-- The exceptions that two runs meet differ in their messages only: an operation that both call
after the same operations with the same answers, up to messages, is answered the same, up to
messages. -/
def DifferOnlyInMessages (log log' : Log Row) : Prop :=
  AnswersAlike Exc.withoutMessage log log'

/-- What the caller of the API is told: `status_code`, `code`, `message` and `details`. -/
def publicError (result : Except Exc α) :
    Option (Nat × String × String × List (String × String)) :=
  match result with
  | .error (.app error) => some (error.statusCode, error.code, error.message, error.details)
  | _ => none

/-- The public error does not show the message of an exception. -/
theorem publicError_withoutMessage (result : Except Exc α) :
    publicError (result.mapError Exc.withoutMessage) = publicError result := by
  cases result with
  | ok a => rfl
  | error e => cases e <;> rfl

/-- The writes depend on the operations alone. -/
theorem operationsAfter_congr {log log' : Log Row} (h : log.map Sigma.fst = log'.map Sigma.fst)
    (operations : OperationalState) :
    operationsAfter operations log = operationsAfter operations log' := by
  have hfold : ∀ log : Log Row, operationsAfter operations log =
      (log.map Sigma.fst).foldl (fun operations o => o.applyTo operations) operations :=
    fun log => by rw [List.foldl_map]; rfl
  rw [hfold, hfold, h]

/-- Two runs of the call whose exceptions differ in their messages only. -/
theorem sameOutcome_of_differOnlyInMessages {live live' : LiveCatalog} {requestedId : Option String}
    {log log' : Log Row} {result result' : Except Exc (Response Json)}
    (hrun : Run (world Row live) []
      (execute encodeRow source sql metadataRevision validated requestedId) log result)
    (hrun' : Run (world Row live') []
      (execute encodeRow source sql metadataRevision validated requestedId) log' result')
    (hdiffer : DifferOnlyInMessages log log') :
    publicError result = publicError result' ∧
      ∀ operations, operationsAfter operations log = operationsAfter operations log' := by
  obtain ⟨history, hmakes, hallows⟩ := run_iff_history.1 hrun
  obtain ⟨history', hmakes', hallows'⟩ := run_iff_history.1 hrun'
  have hlog : log = history := hallows.eq_append fun _ _ _ => rfl
  have hlog' : log' = history' := hallows'.eq_append fun _ _ _ => rfl
  subst hlog hlog'
  obtain ⟨hsame, hend⟩ := execute_blind.makes hmakes hmakes' hdiffer
  constructor
  · rw [← publicError_withoutMessage result, hend, publicError_withoutMessage]
  · refine operationsAfter_congr ?_
    have hfst : ∀ log : Log Row,
        (log.map (Exchange.mapError Exc.withoutMessage)).map Sigma.fst = log.map Sigma.fst :=
      fun log => List.map_map
    rw [← hfst, hsame, hfst]

end

/-- **Database failures are classified by phase and SQLSTATE only.** If one database call of a run
raises, the run ends with `QueryInvalidError` exactly if the call was `EXPLAIN` or its fetch, or the
cursor's `execute` or `fetchmany`, and the table has a reason for the SQLSTATE, which is the reason
given. Another run whose exceptions differ in their messages only ends with the same public error,
the same counters and the same health. -/
theorem databaseFailure_classified {Row Json : Type} (live : LiveCatalog)
    (encodeRow : RowEncoder Row Json) (source : SourceProfile) (sql metadataRevision : String)
    (validated : ValidatedSql) (queryId : Option String) {log : Log Row}
    {result : Except Exc (Response Json)}
    (hrun : Run (world Row live) []
      (execute encodeRow source sql metadataRevision validated queryId) log result) :
    (∀ o e, log.filter raises = [⟨o, .error e⟩] → o.isDatabaseCall = true → isDriverError e = true →
      ∀ reason, result = .error (.app (.queryInvalid reason)) ↔
        o.isCallerSql = true ∧ queryInvalidReason e = some reason) ∧
    ∀ log' result', Run (world Row live) []
        (execute encodeRow source sql metadataRevision validated queryId) log' result' →
      DifferOnlyInMessages log log' →
        publicError result = publicError result' ∧
          ∀ operations, operationsAfter operations log = operationsAfter operations log' :=
  ⟨fun _ _ hfault hcall he => queryInvalid_iff_phase hrun hfault hcall he,
    fun _ _ hrun' => sameOutcome_of_differOnlyInMessages hrun hrun'⟩

/-! ## Division by zero -/

/-- The one exception of a run, by its operation. -/
theorem filter_raises_of_map {Row : Type} {log : Log Row} {o : Op} {e : Exc}
    (h : (log.filter raises).map (fun event => (event.1, raisedBy event)) = [(o, some e)]) :
    log.filter raises = [⟨o, .error e⟩] := by
  obtain ⟨event, hevent, hpair⟩ := List.map_eq_singleton_iff.1 h
  rw [hevent]
  obtain ⟨o', r⟩ := event
  cases r with
  | ok a => cases hpair
  | error e' =>
    cases hpair
    rfl

/-- The timeout does not look at messages. -/
theorem timeoutAfter_withoutMessage {Row : Type} (log : Log Row) :
    timeoutAfter (log.map (Exchange.mapError Exc.withoutMessage)) = timeoutAfter log := by
  have hstep : ∀ (timeout : Timeout) (event : Event Row),
      timeout.advance (Exchange.mapError Exc.withoutMessage event) = timeout.advance event := by
    rintro timeout ⟨o, r⟩
    have hanswered : timeout.answered (r.mapError Exc.withoutMessage) = timeout.answered r := by
      cases r with
      | ok a => rfl
      | error e => cases e <;> rfl
    cases o <;> first | rfl | exact hanswered
  have hfold : ∀ timeout : Timeout,
      (log.map (Exchange.mapError Exc.withoutMessage)).foldl Timeout.advance timeout =
        log.foldl Timeout.advance timeout := by
    intro timeout
    rw [List.foldl_map]
    exact congrArg (fun step => log.foldl step timeout) (funext₂ hstep)
  exact hfold _

/-- PostgreSQL answers an operation with an error: two runs with two messages. -/
theorem serverAnswers_alike {Row : Type} {live : LiveCatalog} {o : Op}
    {sqlstate message message' : String} {log log' : Log Row}
    (h : log.map (Exchange.mapError Exc.withoutMessage) =
      log'.map (Exchange.mapError Exc.withoutMessage)) (o' : Op) :
    (injected live (serverAnswers o sqlstate message) log o').mapError Exc.withoutMessage =
      (injected live (serverAnswers o sqlstate message') log' o').mapError Exc.withoutMessage := by
  have htimeout : timeoutAfter log = timeoutAfter log' := by
    rw [← timeoutAfter_withoutMessage, h, timeoutAfter_withoutMessage]
  have hsmooth : smoothAnswer live log o' = smoothAnswer live log' o' := by
    cases o' with
    | exitTimeout => exact congrArg (fun timeout : Timeout =>
        decide (timeout.state = .expiring ∧ timeout.cancelling = 0)) htimeout
    | send statement => cases statement <;> rfl
    | _ => rfl
  unfold injected serverAnswers
  split
  · next e heq =>
    split at heq
    · next ho =>
      cases heq
      rw [if_pos ho]
      rfl
    · cases heq
  · next heq =>
    split at heq
    · cases heq
    · next ho =>
      rw [if_neg ho, hsmooth]

/-- The run `divisionByZero` with another message. -/
def divisionByZeroTranslated : Log String × Except Exc (Response String) :=
  play (callerWorld String emptyLive plainSource)
    (injected emptyLive (serverAnswers (.send (.fetch 2)) "22012" "Division durch Null"))
      selectOne []

/-- Division by zero, told in two languages. -/
theorem databaseFailure_classified_divisionByZero :
    (divisionByZero.2 = .error (.app (.queryInvalid "QUERY_DIVISION_BY_ZERO")) ↔
      (Op.send (.fetch 2)).isCallerSql = true ∧
        queryInvalidReason (serverError "22012" "division by zero") =
          some "QUERY_DIVISION_BY_ZERO") ∧
    publicError divisionByZero.2 = publicError divisionByZeroTranslated.2 ∧
      ∀ operations, operationsAfter operations divisionByZero.1 =
        operationsAfter operations divisionByZeroTranslated.1 := by
  have hallowed : ∀ message, ∀ (log : Log String) (o : Op),
      (callerWorld String emptyLive plainSource).allowed log o
        (injected emptyLive (serverAnswers (.send (.fetch 2)) "22012" message) log o) :=
    fun _ => serverAnswers_allowed (fun _ => rfl) rfl (.inl (by decide))
  have hrun := (run_play (hallowed "division by zero") selectOne []).of_restrict
  have hrun' := (run_play (hallowed "Division durch Null") selectOne []).of_restrict
  have hfault : divisionByZero.1.filter raises =
      [⟨.send (.fetch 2), .error (serverError "22012" "division by zero")⟩] :=
    filter_raises_of_map (by decide +kernel)
  have hdiffer : DifferOnlyInMessages divisionByZero.1 divisionByZeroTranslated.1 :=
    answersAlike_of_map_eq <| Prog.Alike.play (fun _ _ _ => rfl) (fun _ _ _ => rfl)
      (fun _ _ o h => serverAnswers_alike h o) execute_blind rfl
  obtain ⟨hphase, hmessages⟩ := databaseFailure_classified emptyLive _ plainSource "SELECT 1"
    "revision" selectOneValidated (some "q") hrun
  exact ⟨hphase _ _ hfault rfl rfl _, hmessages _ _ hrun' hdiffer⟩

end PostgresQueryExecutor

end QueryMan
