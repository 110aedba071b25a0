import QueryMan.GuardedQuery.FaultInjection

/-!
# The execution gates

Whatever the awaits of `execute` answer, the statements on the leased connection keep to one script,
and each of them finds the checks before it passed (`execute_gates`). The proof follows the program:
the log of a point in it is described by what has been sent (`SentIn`) and by the checks that have
passed, and each operation takes one description to the next.
-/

namespace QueryMan.PostgresQueryExecutor

open Coro

section

variable {Row : Type}

/-! ## The script -/

/-- The policy query for the names of one kind, if there are any. -/
def objectQueries (kind : ObjectKind) (names : Finset String) : List Statement :=
  if names = ∅ then [] else [.objectPolicy kind (sorted names)]

/-- The statements up to `EXPLAIN`. -/
def opening (source : SourceProfile) (sql : String) (validated : ValidatedSql) (queryId : String) :
    List Statement :=
  .beginTransaction :: .timeZone :: .sessionSettings (sessionSettingValues source queryId) ::
    .sessionPolicy ::
    (objectQueries .function validated.functionNames ++
      (objectQueries .operator validated.operatorNames ++ [.explain sql]))

/-- The statements of a query that fetches batches of the given sizes. -/
def script (source : SourceProfile) (sql : String) (validated : ValidatedSql) (queryId : String)
    (sizes : List Nat) : List Statement :=
  opening source sql validated queryId ++
    (.declare sql :: (sizes.map .fetch ++ [.closeCursor, .commit]))

/-! ## The gates -/

/-- The connection policy check of the leased connection passed. -/
def ConnectionChecked (source : SourceProfile) (log : Log Row) : Prop :=
  ∃ info, ⟨.connectionInfo, .ok info⟩ ∈ log ∧
    requireReaderConnectionPolicy info source.sslmode = .ok ()

/-- The session policy row was all true. -/
def SessionPolicyPassed (log : Log Row) : Prop :=
  ∃ policy : SessionPolicyRow, ⟨.fetchPolicyRow, .ok (some policy)⟩ ∈ log ∧ policy ≠ [] ∧
    ∀ column ∈ policy, column.2 = some true

/-- Every function and operator that the validator recorded has a visible candidate of its name in
the catalog, and only safe ones. -/
structure NamesSafe (live : LiveCatalog) (validated : ValidatedSql) : Prop where
  functions : ∀ name ∈ validated.functionNames,
    (∃ routine, routine ∈ live.candidates name) ∧
      ∀ routine ∈ live.candidates name, routine.isSafe = true
  operators : ∀ name ∈ validated.operatorNames,
    (∃ candidate, candidate ∈ live.operatorCandidates name) ∧
      ∀ candidate ∈ live.operatorCandidates name, isSafeOperator candidate = true

/-- The summary is within the three limits. -/
structure WithinPlanLimits (budget : BudgetProfile) (plan : PlanSummary) : Prop where
  totalCost : plan.totalCost ≤ budget.maxPlanTotalCost
  maxRows : plan.maxRows ≤ budget.maxPlanRows
  nodeCount : plan.nodeCount ≤ budget.maxPlanNodes

/-- The plan that `EXPLAIN` answered was summarised, and the summary was within the limits. -/
def PlanAdmitted (source : SourceProfile) (log : Log Row) : Prop :=
  ∃ planRow plan, ⟨.fetchPlan, .ok planRow⟩ ∈ log ∧
    (extractPlan planRow >>= summarizePlan) = .ok plan ∧ WithinPlanLimits source.budget plan

/-- The result columns had distinct names and approved types. -/
def ColumnsFit (log : Log Row) : Prop :=
  ∃ description names, ⟨.description, .ok description⟩ ∈ log ∧
    ColumnsApproved (description.getD []) names

/-- What must have happened before a statement is sent. -/
def Statement.gate (live : LiveCatalog) (source : SourceProfile) (validated : ValidatedSql)
    (before : Log Row) : Statement → Prop
  | .explain _ => SessionPolicyPassed before ∧ NamesSafe live validated
  | .declare _ => PlanAdmitted source before
  | .fetch _ => ColumnsFit before
  | _ => True

/-- Nothing is sent before the connection policy check passed, and no statement before its own
gate. -/
def gate (live : LiveCatalog) (source : SourceProfile) (validated : ValidatedSql) (before : Log Row)
    (event : Event Row) : Prop :=
  ∀ statement ∈ event.1.statement,
    ConnectionChecked source before ∧ statement.gate live source validated before

theorem stable_connectionChecked (source : SourceProfile) :
    @Stable Row (ConnectionChecked source) :=
  fun _ _ ⟨info, hmem, hinfo⟩ => ⟨info, List.mem_append_left _ hmem, hinfo⟩

theorem stable_sessionPolicyPassed : @Stable Row SessionPolicyPassed :=
  fun _ _ ⟨policy, hmem, hpolicy⟩ => ⟨policy, List.mem_append_left _ hmem, hpolicy⟩

theorem stable_planAdmitted (source : SourceProfile) :
    @Stable Row (PlanAdmitted source) :=
  fun _ _ ⟨planRow, plan, hmem, hplan⟩ => ⟨planRow, plan, List.mem_append_left _ hmem, hplan⟩

theorem stable_columnsFit : @Stable Row ColumnsFit :=
  fun _ _ ⟨description, names, hmem, hfit⟩ =>
    ⟨description, names, List.mem_append_left _ hmem, hfit⟩

/-! ## Where a run stands -/

/-- What has been sent is of the given form, and every statement of it met its gate. -/
def SentIn (live : LiveCatalog) (source : SourceProfile) (validated : ValidatedSql)
    (form : List Statement → Prop) (log : Log Row) : Prop :=
  form (sent log) ∧ Guarded (gate live source validated) log

end

section

variable {Row Json α : Type} {live : LiveCatalog} {source : SourceProfile}
  {validated : ValidatedSql}
  {sql queryId : String} {form form' : List Statement → Prop} {F : Log Row → Prop}

theorem SentIn.mono {log : Log Row} (h : SentIn live source validated form log)
    (himp : ∀ statements, form statements → form' statements) :
    SentIn live source validated form' log :=
  ⟨himp _ h.1, h.2⟩

/-- An operation that sends nothing changes nothing that was sent. -/
theorem SentIn.concat_quiet {log : Log Row} {event : Event Row}
    (hquiet : event.1.statement = none) (h : SentIn live source validated form log) :
    SentIn live source validated form (log ++ [event]) := by
  refine ⟨?_, guarded_concat.2 ⟨h.2, fun statement hstatement => ?_⟩⟩
  · rw [sent_concat, hquiet, Option.toList_none, List.append_nil]
    exact h.1
  · rw [hquiet] at hstatement
    cases hstatement

/-- A statement whose gate is met is added to what was sent. -/
theorem SentIn.concat_send {log : Log Row} {statement : Statement}
    {r : Except Exc (Ret Row (.send statement))}
    (hconnection : ConnectionChecked source log)
    (hgate : statement.gate live source validated log)
    (hform : ∀ statements, form statements → form' (statements ++ [statement]))
    (h : SentIn live source validated form log) :
    SentIn live source validated form' (log ++ [⟨.send statement, r⟩]) := by
  refine ⟨?_, guarded_concat.2 ⟨h.2, fun statement' hstatement => ?_⟩⟩
  · rw [sent_concat]
    exact hform _ h.1
  · cases hstatement
    exact ⟨hconnection, hgate⟩

/-- An operation that sends nothing: the facts and what was sent stay, and an answer is known. -/
theorem learn_spec {o : Op} (hquiet : o.statement = none) (hF : Stable F) :
    Triple (world Row live) (fun log => F log ∧ SentIn live source validated form log) (perform o)
      (fun a log => ⟨o, .ok a⟩ ∈ log ∧ F log ∧ SentIn live source validated form log)
      fun _ log => F log ∧ SentIn live source validated form log :=
  perform_spec
    (fun log _ h _ =>
      ⟨List.mem_append_right _ List.mem_cons_self, hF log _ h.1, h.2.concat_quiet hquiet⟩)
    fun log _ h _ => ⟨hF log _ h.1, h.2.concat_quiet hquiet⟩

/-- An operation that sends nothing, when its answer does not matter. -/
theorem quiet_spec {o : Op} (hquiet : o.statement = none) (hF : Stable F) :
    Keeps (world Row live) (fun log => F log ∧ SentIn live source validated form log) (perform o) :=
  (learn_spec hquiet hF).weaken_post fun _ _ h => h.2

/-- A statement: its gate must be among the facts. -/
theorem send_spec {statement : Statement} (hF : Stable F)
    (hgate : ∀ log, F log → ConnectionChecked source log ∧ statement.gate live source validated log)
    (hform : ∀ statements, form statements → form' (statements ++ [statement])) :
    Triple (world Row live) (fun log => F log ∧ SentIn live source validated form log)
      (send statement)
      (fun _ log => Answered statement log ∧ F log ∧ SentIn live source validated form' log)
      fun _ log => F log ∧ SentIn live source validated form' log :=
  perform_spec
    (fun log answer h _ =>
      ⟨⟨answer, List.mem_append_right _ List.mem_cons_self⟩, hF log _ h.1,
        h.2.concat_send (hgate log h.1).1 (hgate log h.1).2 hform⟩)
    fun log _ h _ => ⟨hF log _ h.1, h.2.concat_send (hgate log h.1).1 (hgate log h.1).2 hform⟩

/-! ## Up to the admission of the plan -/

/-- What is left of the opening. -/
def Remaining (source : SourceProfile) (sql : String) (validated : ValidatedSql) (queryId : String)
    (rest : List Statement) (statements : List Statement) : Prop :=
  statements ++ rest = opening source sql validated queryId

/-- A beginning of a script. -/
def InScript (source : SourceProfile) (sql : String) (validated : ValidatedSql)
    (statements : List Statement) : Prop :=
  ∃ queryId sizes, statements <+: script source sql validated queryId sizes

/-- What is promised of every run. -/
abbrev Safe (live : LiveCatalog) (source : SourceProfile) (sql : String)
    (validated : ValidatedSql) :
    Log Row → Prop :=
  SentIn live source validated (InScript source sql validated)

theorem inScript_of_remaining {rest statements : List Statement}
    (h : Remaining source sql validated queryId rest statements) :
    InScript source sql validated statements := by
  refine ⟨queryId, [], ?_⟩
  rw [script, ← h, List.append_assoc]
  exact List.prefix_append _ _

/-- The next statement of the opening. -/
theorem send_next {statement : Statement} {rest : List Statement} (hF : Stable F)
    (hgate : ∀ log, F log →
      ConnectionChecked source log ∧ statement.gate live source validated log) :
    Triple (world Row live)
      (fun log => F log ∧ SentIn live source validated
        (Remaining source sql validated queryId (statement :: rest)) log)
      (send statement)
      (fun _ log => F log ∧ SentIn live source validated
        (Remaining source sql validated queryId rest) log)
      fun _ => Safe live source sql validated := by
  refine (send_spec hF hgate fun statements h => ?_).conseq (fun _ h => h) (fun _ _ h => h.2)
    fun _ _ h => h.2.mono fun _ => inScript_of_remaining
  rw [Remaining, List.append_assoc]
  exact h

/-- An answer between two statements of the opening. -/
theorem learn_next {o : Op} {rest : List Statement} (hquiet : o.statement = none) (hF : Stable F) :
    Triple (world Row live)
      (fun log => F log ∧ SentIn live source validated
        (Remaining source sql validated queryId rest) log)
      (perform o)
      (fun a log => ⟨o, .ok a⟩ ∈ log ∧ F log ∧ SentIn live source validated
        (Remaining source sql validated queryId rest) log)
      fun _ => Safe live source sql validated :=
  (learn_spec hquiet hF).weaken_exc fun _ _ h => h.2.mono fun _ => inScript_of_remaining

/-- A session policy row that holds is all true. -/
theorem sessionPolicyHolds_eq_true {policy : Option SessionPolicyRow}
    (h : sessionPolicyHolds policy = true) :
    ∃ row, policy = some row ∧ row ≠ [] ∧ ∀ column ∈ row, column.2 = some true := by
  match policy, h with
  | some (column :: columns), h =>
    refine ⟨column :: columns, rfl, List.cons_ne_nil _ _, fun column' hmem => ?_⟩
    exact beq_iff_eq.1 (List.all_eq_true.1 h column' hmem)

theorem requireReaderSessionPolicy_spec {rest : List Statement} :
    Triple (world Row live)
      (fun log => ConnectionChecked source log ∧ SentIn live source validated
        (Remaining source sql validated queryId (.sessionPolicy :: rest)) log)
      requireReaderSessionPolicy
      (fun _ log => (SessionPolicyPassed log ∧ ConnectionChecked source log) ∧
        SentIn live source validated (Remaining source sql validated queryId rest) log)
      fun _ => Safe live source sql validated := by
  refine Triple.bind
    (send_next (stable_connectionChecked source) fun _ h => ⟨h, trivial⟩) fun _ => ?_
  refine (learn_next rfl (stable_connectionChecked source)).bind fun policy => ?_
  refine .ite (fun hholds => ?_) fun _ => ?_
  · obtain ⟨row, rfl, hrow⟩ := sessionPolicyHolds_eq_true hholds
    exact Triple.pure.weaken_pre fun _ h => ⟨⟨⟨row, h.1, hrow⟩, h.2.1⟩, h.2.2⟩
  · exact Triple.throw.weaken_pre fun _ h => h.2.2.mono fun _ => inScript_of_remaining

/-- The names of a kind are all among the safe ones of the catalog. -/
def LookedUpSafe (live : LiveCatalog) (kind : ObjectKind) (names : Finset String) : Prop :=
  ∀ name ∈ names, name ∈ safeNames (objectPolicy live kind (sorted names))

theorem fetchObjects_next {kind : ObjectKind} {names : List String} {rest : List Statement}
    (hF : Stable F) :
    Triple (world Row live)
      (fun log => F log ∧ SentIn live source validated
        (Remaining source sql validated queryId rest) log)
      (perform (.fetchObjects kind names))
      (fun (rows : List PolicyRow) log => rows = objectPolicy live kind names ∧ F log ∧
        SentIn live source validated (Remaining source sql validated queryId rest) log)
      fun _ => Safe live source sql validated :=
  perform_spec (fun log _ h hrows => ⟨hrows, hF log _ h.1, h.2.concat_quiet rfl⟩)
    fun _ _ h _ => (h.2.mono fun _ => inScript_of_remaining).concat_quiet rfl

/-- One half of the object policy. -/
theorem validateResolvedNames_spec {kind : ObjectKind} {names : Finset String} {reasonCode : String}
    {rest : List Statement} (hF : Stable F)
    (hconnection : ∀ log, F log → ConnectionChecked source log) :
    Triple (world Row live)
      (fun log => F log ∧ SentIn live source validated
        (Remaining source sql validated queryId (objectQueries kind names ++ rest)) log)
      (validateResolvedNames kind names reasonCode)
      (fun _ log => LookedUpSafe live kind names ∧ F log ∧
        SentIn live source validated (Remaining source sql validated queryId rest) log)
      fun _ => Safe live source sql validated := by
  rw [validateResolvedNames, objectQueries]
  refine .ite (fun hempty => ?_) fun hne => ?_
  · rw [if_pos hempty, hempty]
    exact Triple.pure.weaken_pre fun _ h =>
      ⟨fun name hmem => absurd hmem (Finset.notMem_empty name), h⟩
  · rw [if_neg hne]
    refine Triple.bind (send_next hF fun log h => ⟨hconnection log h, trivial⟩) fun _ => ?_
    refine (fetchObjects_next hF).bind fun rows => .of_fact fun hrows => ?_
    subst hrows
    refine .ite (fun hsafe => ?_) fun _ => ?_
    · exact Triple.pure.weaken_pre fun _ h => ⟨fun name hmem => hsafe.symm ▸ hmem, h⟩
    · exact Triple.throw.weaken_pre fun _ h => h.2.mono fun _ => inScript_of_remaining

/-- What the two halves found, in terms of candidates. -/
theorem namesSafe_of_lookedUpSafe
    (hfunctions : LookedUpSafe live .function validated.functionNames)
    (hoperators : LookedUpSafe live .operator validated.operatorNames) :
    NamesSafe live validated where
  functions := fun name hmem =>
    (mem_safeNames_functionPolicy (mem_sorted.2 hmem)).1 (hfunctions name hmem)
  operators := fun name hmem =>
    (mem_safeNames_operatorPolicy (mem_sorted.2 hmem)).1 (hoperators name hmem)

theorem validateResolvedObjects_spec {rest : List Statement} (hF : Stable F)
    (hconnection : ∀ log, F log → ConnectionChecked source log) :
    Triple (world Row live)
      (fun log => F log ∧ SentIn live source validated
        (Remaining source sql validated queryId
          (objectQueries .function validated.functionNames ++
            (objectQueries .operator validated.operatorNames ++ rest))) log)
      (validateResolvedObjects validated)
      (fun _ log => NamesSafe live validated ∧ F log ∧
        SentIn live source validated (Remaining source sql validated queryId rest) log)
      fun _ => Safe live source sql validated := by
  refine (validateResolvedNames_spec hF hconnection).bind fun _ => .of_fact fun hfunctions => ?_
  refine (validateResolvedNames_spec hF hconnection).weaken_post fun _ _ h => ?_
  exact ⟨namesSafe_of_lookedUpSafe hfunctions h.1, h.2⟩

/-- Operations that send nothing keep what is promised. -/
theorem keeps_sentIn {o : Op} (hquiet : o.statement = none) :
    Keeps (world Row live) (SentIn live source validated form) (perform o) :=
  .perform fun _ _ h _ => h.concat_quiet hquiet

theorem admitPlan_eq_ok {plan : PlanSummary} (h : admitPlan source plan = .ok ()) :
    WithinPlanLimits source.budget plan := by
  rw [admitPlan] at h
  split at h
  · cases h
  · next hcost =>
    split at h
    · cases h
    · next hrows =>
      split at h
      · cases h
      · next hnodes => exact ⟨not_lt.1 hcost, not_lt.1 hrows, not_lt.1 hnodes⟩

/-- `EXPLAIN` is sent behind its gate, and its plan is admitted. -/
theorem explainPlan_spec (hF : Stable F)
    (hgate : ∀ log, F log → ConnectionChecked source log ∧ SessionPolicyPassed log ∧
      NamesSafe live validated) :
    Triple (world Row live)
      (fun log => F log ∧ SentIn live source validated
        (Remaining source sql validated queryId [.explain sql]) log)
      (explainPlan source sql)
      (fun _ log => PlanAdmitted source log ∧ F log ∧
        SentIn live source validated (Remaining source sql validated queryId []) log)
      fun _ => Safe live source sql validated := by
  refine Triple.bind (Triple.tryCatch (Triple.bind (send_next hF hgate) fun _ =>
    learn_next rfl hF) fun _ => reraiseForUserSql_spec (fun _ _ => keeps_sentIn rfl) _ _)
    fun planRow => ?_
  cases hplan : extractPlan planRow >>= summarizePlan with
  | error e =>
    exact Triple.done_error.weaken_pre fun _ h => h.2.2.mono fun _ => inScript_of_remaining
  | ok plan =>
    rw [Prog.lift_ok_bind]
    cases hadmit : admitPlan source plan with
    | error e =>
      exact Triple.done_error.weaken_pre fun _ h => h.2.2.mono fun _ => inScript_of_remaining
    | ok _ =>
      refine Triple.done_ok.weaken_pre fun _ h => ⟨⟨planRow, plan, h.1, hplan, ?_⟩, h.2⟩
      exact admitPlan_eq_ok hadmit

/-- All statements before the cursor, with their gates. -/
theorem prepare_spec :
    Triple (world Row live)
      (fun log => ConnectionChecked source log ∧ SentIn live source validated (· = []) log)
      (prepare source sql validated queryId)
      (fun _ log => (PlanAdmitted source log ∧ ConnectionChecked source log) ∧
        SentIn live source validated (Remaining source sql validated queryId []) log)
      fun _ => Safe live source sql validated := by
  have hchecked : @Stable Row (ConnectionChecked source) := stable_connectionChecked source
  have hstart : ∀ statements, statements = [] → Remaining source sql validated queryId
      (opening source sql validated queryId) statements := by
    rintro statements rfl
    rfl
  refine Triple.weaken_pre (P := fun log => ConnectionChecked source log ∧
    SentIn live source validated (Remaining source sql validated queryId
      (opening source sql validated queryId)) log) ?_ fun _ h => ⟨h.1, h.2.mono hstart⟩
  refine Triple.bind (send_next hchecked fun _ h => ⟨h, trivial⟩) fun _ => ?_
  refine Triple.bind (send_next hchecked fun _ h => ⟨h, trivial⟩) fun _ => ?_
  refine Triple.bind (send_next hchecked fun _ h => ⟨h, trivial⟩) fun _ => ?_
  refine Triple.bind requireReaderSessionPolicy_spec fun _ => ?_
  have hpassed := stable_sessionPolicyPassed.and hchecked
  refine Triple.bind (validateResolvedObjects_spec hpassed fun _ h => h.2) fun _ =>
    .of_fact fun hnames => ?_
  refine (explainPlan_spec hpassed fun _ h => ⟨h.2, h.1, hnames⟩).weaken_post fun _ _ h => ?_
  exact ⟨⟨h.1, h.2.1.2⟩, h.2.2⟩

/-! ## The cursor -/

/-- The opening, the cursor and some fetches. -/
def Reading (source : SourceProfile) (sql : String) (validated : ValidatedSql) (queryId : String)
    (statements : List Statement) : Prop :=
  ∃ sizes : List Nat,
    statements = opening source sql validated queryId ++ .declare sql :: sizes.map .fetch

/-- The same, with the cursor closed. -/
def CursorClosed (source : SourceProfile) (sql : String) (validated : ValidatedSql)
    (queryId : String) (statements : List Statement) : Prop :=
  ∃ sizes : List Nat, statements = opening source sql validated queryId ++
    .declare sql :: (sizes.map .fetch ++ [.closeCursor])

theorem reading_of_remaining {statements : List Statement}
    (h : Remaining source sql validated queryId [] statements) :
    Reading source sql validated queryId (statements ++ [.declare sql]) := by
  rw [Remaining, List.append_nil] at h
  rw [h]
  exact ⟨[], rfl⟩

theorem Reading.fetch {statements : List Statement} (size : Nat)
    (h : Reading source sql validated queryId statements) :
    Reading source sql validated queryId (statements ++ [.fetch size]) := by
  obtain ⟨sizes, rfl⟩ := h
  refine ⟨sizes ++ [size], ?_⟩
  rw [List.map_append, List.append_assoc]
  rfl

theorem Reading.close {statements : List Statement}
    (h : Reading source sql validated queryId statements) :
    CursorClosed source sql validated queryId (statements ++ [.closeCursor]) := by
  obtain ⟨sizes, rfl⟩ := h
  refine ⟨sizes, ?_⟩
  rw [List.append_assoc]
  rfl

theorem inScript_of_cursorClosed {statements : List Statement}
    (h : CursorClosed source sql validated queryId statements) :
    InScript source sql validated statements := by
  obtain ⟨sizes, rfl⟩ := h
  refine ⟨queryId, sizes, [.commit], ?_⟩
  rw [script, List.append_assoc, List.cons_append, List.append_assoc]
  rfl

theorem CursorClosed.commit {statements : List Statement}
    (h : CursorClosed source sql validated queryId statements) :
    InScript source sql validated (statements ++ [.commit]) := by
  obtain ⟨sizes, rfl⟩ := h
  refine ⟨queryId, sizes, [], ?_⟩
  rw [script, List.append_nil, List.append_assoc, List.cons_append, List.append_assoc]
  rfl

/-- The fetch loop only fetches. -/
theorem fetchLoop_spec {encodeRow : RowEncoder Row Json} {fuel : Nat} {fetched : Fetched Json}
    (hF : Stable F) (hgate : ∀ log, F log → ConnectionChecked source log ∧ ColumnsFit log) :
    Keeps (world Row live)
      (fun log => F log ∧ SentIn live source validated (Reading source sql validated queryId) log)
      (fetchLoop encodeRow source.budget fuel fetched) := by
  induction fuel generalizing fetched with
  | zero => exact .pure
  | succ fuel ih =>
    rw [fetchLoop]
    refine .ite .pure (.bind ?_ fun batch => .ite .pure (.bind .lift fun _ => ih))
    refine (send_spec hF hgate fun _ h => h.fetch _).weaken_post fun _ _ h => h.2

/-- The SQL on the cursor, the checks of its columns and the fetches. -/
theorem readCursor_spec {encodeRow : RowEncoder Row Json} (hF : Stable F)
    (hgate : ∀ log, F log → ConnectionChecked source log ∧ PlanAdmitted source log) :
    Triple (world Row live)
      (fun log => F log ∧ SentIn live source validated
        (Remaining source sql validated queryId []) log)
      (readCursor encodeRow source sql)
      (fun _ log => F log ∧ SentIn live source validated
        (Reading source sql validated queryId) log)
      fun _ log => F log ∧ SentIn live source validated
        (Reading source sql validated queryId) log := by
  refine Triple.bind ((send_spec hF hgate fun _ h => reading_of_remaining h).weaken_post
    fun _ _ h => h.2) fun _ => ?_
  refine Triple.bind (learn_spec rfl hF) fun description => ?_
  cases hcheck : checkDescription description with
  | error e => exact Triple.done_error.weaken_pre fun _ h => h.2
  | ok columns =>
    rw [Prog.lift_ok_bind]
    refine Triple.bind (Triple.conseq
      (fetchLoop_spec (stable_columnsFit.and hF) fun log h => ⟨(hgate log h.2).1, h.1⟩)
      (fun log h =>
        ⟨⟨⟨description, columns, h.1, columnsApproved_of_checkDescription hcheck⟩, h.2.1⟩,
        h.2.2⟩) (fun _ _ h => h) fun _ _ h => ⟨h.1.2, h.2⟩) fun fetched => ?_
    exact Triple.pure.weaken_pre fun _ h => ⟨h.1.2, h.2⟩

/-- The cursor is closed in any case. -/
theorem readResult_spec {encodeRow : RowEncoder Row Json} (hF : Stable F)
    (hgate : ∀ log, F log → ConnectionChecked source log ∧ PlanAdmitted source log) :
    Triple (world Row live)
      (fun log => F log ∧ SentIn live source validated
        (Remaining source sql validated queryId []) log)
      (readResult encodeRow source sql)
      (fun _ log => F log ∧ SentIn live source validated
        (CursorClosed source sql validated queryId) log)
      fun _ => Safe live source sql validated := by
  refine Triple.bind ((learn_next rfl hF).weaken_post fun _ _ h => h.2) fun _ => ?_
  have hclose : Triple (world Row live)
      (fun log => F log ∧ SentIn live source validated (Reading source sql validated queryId) log)
      (quietly (send .closeCursor))
      (fun _ log => F log ∧ SentIn live source validated
        (CursorClosed source sql validated queryId) log)
      fun _ log => F log ∧ SentIn live source validated
        (CursorClosed source sql validated queryId) log :=
    quietly_spec <| Triple.weaken_post (send_spec hF (fun log h => ⟨(hgate log h).1, trivial⟩)
      fun _ h => h.close) fun _ _ h => h.2
  have hsafe : ∀ log, F log ∧ SentIn live source validated
      (CursorClosed source sql validated queryId) log → Safe live source sql validated log :=
    fun _ h => h.2.mono fun _ => inScript_of_cursorClosed
  refine Triple.tryFinally (Triple.tryCatch (readCursor_spec hF hgate) fun _ =>
    reraiseForUserSql_spec (fun _ _ => quiet_spec rfl hF) _ _) (fun _ => ?_) fun _ => ?_
  · exact hclose.weaken_exc fun _ => hsafe
  · exact hclose.conseq (fun _ h => h) (fun _ => hsafe) fun _ => hsafe

/-! ## The transaction -/

/-- The transaction ends with an answered `COMMIT`, or within its script. -/
theorem runTransaction_spec {encodeRow : RowEncoder Row Json} :
    Triple (world Row live)
      (fun log => ConnectionChecked source log ∧ SentIn live source validated (· = []) log)
      (runTransaction encodeRow source sql validated queryId)
      (fun _ log => Answered .commit log ∧ Safe live source sql validated log)
      fun _ => Safe live source sql validated := by
  have hchecked : @Stable Row (ConnectionChecked source) := stable_connectionChecked source
  refine Triple.bind prepare_spec fun plan => ?_
  refine Triple.bind (readResult_spec ((stable_planAdmitted source).and hchecked)
    fun _ h => ⟨h.2, h.1⟩) ?_
  rintro ⟨columns, fetched⟩
  have hcommit : Triple (world Row live)
      (fun log => ConnectionChecked source log ∧
        SentIn live source validated (CursorClosed source sql validated queryId) log)
      (send .commit) (fun _ log => Answered .commit log ∧ Safe live source sql validated log)
      fun _ => Safe live source sql validated :=
    Triple.conseq (send_spec hchecked (fun _ h => ⟨h, trivial⟩) fun _ h => h.commit)
      (fun _ h => h) (fun _ _ h => ⟨h.1, h.2.2⟩) fun _ _ h => h.2
  refine Triple.bind (hcommit.weaken_pre fun _ h => ⟨h.1.2, h.2⟩) fun _ => ?_
  refine Triple.bind
    ((quiet_spec rfl (stable_answered .commit)).weaken_exc fun _ _ h => h.2) fun _ => ?_
  exact Triple.pure.weaken_pre fun _ h => h

/-- The `except` blocks send nothing but `cancel_safe` and `rollback`, and raise again. -/
theorem cleanUp_safe {Q : α → Log Row → Prop} (e : Exc) :
    Triple (world Row live) (Safe live source sql validated) (cleanUp e) Q
      fun _ => Safe live source sql validated := by
  have hrollback : Keeps (world Row live) (Safe live source sql validated) rollbackQuietly :=
    quietly_spec (keeps_sentIn rfl)
  refine .ite (fun _ => ?_) fun _ => Triple.bind hrollback fun _ => throw_spec e
  exact Triple.bind (keeps_sentIn rfl) fun _ => Triple.bind hrollback fun _ => throw_spec e

/-- `_execute_connection` returns only after `COMMIT`. -/
theorem executeConnection_spec {encodeRow : RowEncoder Row Json} {metadataRevision : String}
    {queueMs : Int} :
    Triple (world Row live)
      (fun log => ConnectionChecked source log ∧ SentIn live source validated (· = []) log)
      (executeConnection encodeRow source sql metadataRevision validated queueMs queryId)
      (fun _ log => Answered .commit log ∧ Safe live source sql validated log)
      fun _ => Safe live source sql validated := by
  have hnil : ∀ statements, statements = [] → InScript source sql validated statements := by
    rintro statements rfl
    exact ⟨queryId, [], List.nil_prefix⟩
  refine Triple.bind ((quiet_spec rfl (stable_connectionChecked source)).weaken_exc
    fun _ _ h => h.2.mono hnil) fun startedAt => ?_
  refine Triple.bind (Triple.tryCatch runTransaction_spec cleanUp_safe) fun outcome => ?_
  have hquiet : ∀ {o : Op}, o.statement = none → Keeps (world Row live)
      (fun log => Answered .commit log ∧ Safe live source sql validated log) (perform o) :=
    fun ho => quiet_spec ho (stable_answered .commit)
  refine Triple.weaken_exc
    (E := fun _ log => Answered .commit log ∧ Safe live source sql validated log)
    ?_ fun _ _ h => h.2
  refine Keeps.bind (hquiet rfl) fun now => Keeps.bind (hquiet rfl) fun _ =>
    Keeps.bind (hquiet rfl) fun _ => Keeps.bind (.ite (hquiet rfl) .pure) fun _ => Keeps.pure

/-! ## Around the transaction -/

/-- A connection that is used has passed its check. -/
theorem checkConnection_spec :
    Triple (world Row live) (SentIn live source validated (· = [])) (checkConnection source)
      (fun _ log => ConnectionChecked source log ∧ SentIn live source validated (· = []) log)
      fun _ => SentIn live source validated (· = []) := by
  refine Triple.tryCatch (E := fun _ => SentIn live source validated (· = [])) ?_ fun e => ?_
  · refine Triple.bind (perform_spec (o := .connectionInfo) (Q := fun info log =>
      ⟨.connectionInfo, .ok info⟩ ∈ log ∧ SentIn live source validated (· = []) log)
      (fun log info h _ => ⟨List.mem_append_right _ List.mem_cons_self, h.concat_quiet rfl⟩)
      fun log e h _ => h.concat_quiet rfl) fun info => ?_
    cases hinfo : requireReaderConnectionPolicy info source.sslmode with
    | error e => exact Triple.done_error.weaken_pre fun _ h => h.2
    | ok _ => exact Triple.done_ok.weaken_pre fun _ h => ⟨⟨info, h.1, hinfo⟩, h.2⟩
  · refine .ite (fun _ => ?_) fun _ => throw_spec e
    exact Triple.bind (quietly_spec (keeps_sentIn rfl)) fun _ => throw_spec e

/-- What is promised when a call returns. -/
abbrev Committed (live : LiveCatalog) (source : SourceProfile) (sql : String)
    (validated : ValidatedSql) (log : Log Row) : Prop :=
  Answered .commit log ∧ Safe live source sql validated log

theorem safe_of_idle {log : Log Row} (h : SentIn live source validated (· = []) log) :
    Safe live source sql validated log :=
  h.mono fun statements hnil => ⟨"", [], by rw [hnil]; exact List.nil_prefix⟩

/-- The three descriptions that the layers around a connection keep. -/
theorem layers_gates :
    Layers (world Row live) (SentIn live source validated (· = []))
      (Committed live source sql validated) (Safe live source sql validated) where
  idle_keeps := fun _ ho => keeps_sentIn ho
  finished_keeps := fun _ ho => quiet_spec ho (stable_answered .commit)
  failed_keeps := fun _ ho => keeps_sentIn ho
  failed_of_idle := fun _ => safe_of_idle
  failed_of_finished := fun _ h => h.2

/-- The lease of a connection: checked, registered, used and deregistered. -/
theorem useConnection_spec {encodeRow : RowEncoder Row Json} {metadataRevision : String}
    {queueMs : Int} :
    Triple (world Row live) (SentIn live source validated (· = []))
      (useConnection encodeRow source sql metadataRevision validated queueMs queryId)
      (fun _ => Committed live source sql validated) fun _ => Safe live source sql validated := by
  have hquiet : ∀ {o : Op}, o.statement = none → Triple (world Row live)
      (fun log => ConnectionChecked source log ∧ SentIn live source validated (· = []) log)
      (perform o)
      (fun _ log => ConnectionChecked source log ∧ SentIn live source validated (· = []) log)
      fun _ => Safe live source sql validated :=
    fun ho => (quiet_spec ho (stable_connectionChecked source)).weaken_exc
      fun _ _ h => safe_of_idle h.2
  refine Triple.bind (checkConnection_spec.weaken_exc fun _ _ => safe_of_idle) fun _ => ?_
  refine Triple.bind (hquiet rfl) fun _ => Triple.bind (hquiet rfl) fun _ => ?_
  exact layers_gates.around executeConnection_spec fun _ hI _ =>
    (hI _ rfl).bind fun _ => hI _ rfl

end

/-- **Execution gates are never skipped.** In every run of `execute`, whatever its awaits answer,
the statements that are sent on the leased connection are the beginning of one script; none is sent
before the connection policy check passed, no `EXPLAIN` before the policy row was all true and every
recorded name had a visible candidate and only safe ones, no cursor before the plan was within its
limits and no fetch before the columns were distinct and approved; and only a run whose `COMMIT` was
answered returns a response. -/
theorem execute_gates {Row Json : Type} (live : LiveCatalog) (encodeRow : RowEncoder Row Json)
    (source : SourceProfile) (sql metadataRevision : String) (validated : ValidatedSql)
    (queryId : Option String) {log : Log Row} {result : Except Exc (Response Json)}
    (hrun : Run (world Row live) []
      (execute encodeRow source sql metadataRevision validated queryId) log result) :
    (∃ effectiveId sizes, sent log <+: script source sql validated effectiveId sizes) ∧
      Guarded (gate live source validated) log ∧
      ∀ response, result = .ok response → Answered .commit log := by
  have hpost :=
    (layers_gates.execute fun _ _ => useConnection_spec) [] log result ⟨rfl, guarded_nil⟩ hrun
  cases result with
  | ok response => exact ⟨hpost.2.1, hpost.2.2, fun _ _ => hpost.1⟩
  | error e => exact ⟨hpost.1, hpost.2, nofun⟩

/-- The run of `SELECT 1` without faults: it keeps to the script and returns after `COMMIT`. -/
theorem execute_gates_selectOne :
    (∃ effectiveId sizes, sent (playWith emptyLive noFault selectOne).1 <+:
        script plainSource "SELECT 1" selectOneValidated effectiveId sizes) ∧
      Guarded (gate emptyLive plainSource selectOneValidated)
        (playWith emptyLive noFault selectOne).1 ∧
      Answered .commit (playWith emptyLive noFault selectOne).1 := by
  obtain ⟨hscript, hgates, hcommit⟩ := execute_gates emptyLive _ plainSource "SELECT 1" "revision"
    selectOneValidated (some "q") (run_playWith possible_noFault selectOne)
  have hreturns : (playWith emptyLive noFault selectOne).2.toOption.isSome = true := by
    decide +kernel
  cases hresult : (playWith emptyLive noFault selectOne).2 with
  | ok response => exact ⟨hscript, hgates, hcommit response hresult⟩
  | error e =>
    rw [hresult] at hreturns
    cases hreturns

end QueryMan.PostgresQueryExecutor
