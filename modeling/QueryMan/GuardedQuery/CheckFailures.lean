import QueryMan.GuardedQuery.Executor

/-!
# What the checks of a query raise

The checks between the database calls (of the plan, of the result's columns and of its rows) raise
a rejection, a `RuntimeError`, a `ResultEncodingError` or an exception of the encoder, and nothing
else (`ChecksOnly`): no database error, and none of the other errors of the gateway.
-/

namespace QueryMan

/-- The exceptions of the checks. -/
def Exc.isCheckFailure : Exc → Bool
  | runtimeError _ | resultEncodingError | other | app (.queryRejected ..) => true
  | _ => false

namespace PostgresQueryExecutor

/-- A computation that raises nothing else. -/
def ChecksOnly {α : Type} (x : Except Exc α) : Prop :=
  ∀ e, x = .error e → e.isCheckFailure = true

section

variable {Row Json α : Type}

theorem ChecksOnly.bind {β : Type} {x : Except Exc α} {f : α → Except Exc β} (hx : ChecksOnly x)
    (hf : ∀ a, ChecksOnly (f a)) : ChecksOnly (x >>= f) := by
  intro e he
  cases x with
  | ok a => exact hf a e he
  | error e' =>
    cases he
    exact hx _ rfl

theorem checks_ok {a : α} : ChecksOnly (.ok a) :=
  fun _ h => by cases h

theorem checks_error {e : Exc} (he : e.isCheckFailure = true) :
    ChecksOnly (.error e : Except Exc α) := by
  rintro e' heq
  cases heq
  exact he

/-! ## The plan -/

theorem checks_nonNegativeNumber {node : List (String × PlanValue)} {key : String} :
    ChecksOnly (nonNegativeNumber node key) := by
  have hfloat : ∀ n : Int, ChecksOnly (floatOfInt n) := by
    intro n
    unfold floatOfInt
    dsimp only
    split
    · exact checks_error rfl
    · exact checks_ok
  have hcheck : ∀ number : ℚ,
      ChecksOnly (if number < 0 then .error invalidEstimate else .ok number : Except Exc ℚ) := by
    intro number
    split
    · exact checks_error rfl
    · exact checks_ok
  unfold nonNegativeNumber
  dsimp only
  split
  · refine (hfloat _).bind fun value => ?_
    cases value with
    | finite number => exact hcheck number
    | _ => exact checks_error rfl
  · next value _ =>
    cases value with
    | finite number => exact hcheck number
    | _ => exact checks_error rfl
  · exact checks_error rfl

theorem checks_childPlans {node : List (String × PlanValue)} : ChecksOnly (childPlans node) := by
  unfold childPlans
  split
  · exact checks_ok
  · split
    · exact checks_ok
    · exact checks_error rfl
  · exact checks_error rfl

theorem checks_summarizeLoop {fuel : Nat} {pending : List (List (String × PlanValue))}
    {nodeCount : Nat} {maxRows : Int} :
    ChecksOnly (summarizeLoop fuel pending nodeCount maxRows) := by
  induction fuel generalizing pending nodeCount maxRows with
  | zero =>
    cases pending with
    | nil => exact checks_ok
    | cons node pending => exact checks_error rfl
  | succ fuel ih =>
    cases pending with
    | nil => exact checks_ok
    | cons node pending =>
      exact checks_nonNegativeNumber.bind fun _ => checks_childPlans.bind fun _ => ih

theorem checks_extractPlan {row : Option (List (String × PlanValue))} :
    ChecksOnly (extractPlan row) := by
  unfold extractPlan
  split
  · exact checks_error rfl
  · exact checks_error rfl
  · split
    · split
      · exact checks_ok
      · exact checks_error rfl
    · exact checks_error rfl

theorem checks_summarizePlan {root : List (String × PlanValue)} : ChecksOnly (summarizePlan root) :=
  checks_summarizeLoop.bind fun _ => checks_nonNegativeNumber.bind fun _ => checks_ok

theorem checks_admitPlan {source : SourceProfile} {plan : PlanSummary} :
    ChecksOnly (admitPlan source plan) := by
  unfold admitPlan
  split
  · exact checks_error rfl
  · split
    · exact checks_error rfl
    · split
      · exact checks_error rfl
      · exact checks_ok

/-! ## The result -/

theorem checks_checkDescription {description : Option (List ResultColumn)} :
    ChecksOnly (checkDescription description) := by
  have hnames : ∀ columns, ChecksOnly (columnNames columns) := by
    intro columns
    induction columns with
    | nil => exact checks_ok
    | cons column columns ih =>
      obtain ⟨name, typeCode⟩ := column
      cases name with
      | none => exact checks_error rfl
      | some name => exact ih.bind fun _ => checks_ok
  have hoids : ∀ oids, ChecksOnly (requireSupportedResultOids oids) := by
    intro oids
    unfold requireSupportedResultOids
    split
    · exact checks_error rfl
    · exact checks_ok
  refine (hnames _).bind fun columns => ChecksOnly.bind ?_ fun _ =>
    (hoids _).bind fun _ => checks_ok
  unfold Python.raiseIf
  split
  · exact checks_error rfl
  · exact checks_ok

theorem checks_addBatch {encodeRow : RowEncoder Row Json} {budget : BudgetProfile}
    {batch : List Row} {fetched : Fetched Json} :
    ChecksOnly (addBatch encodeRow budget batch fetched) := by
  induction batch generalizing fetched with
  | nil => exact checks_ok
  | cons row batch ih =>
    rw [addBatch]
    split
    · exact checks_ok
    · split
      · next failure _ => cases failure <;> exact checks_error rfl
      · dsimp only
        generalize (if fetched.rows.isEmpty = true then 0 else 1) = separatorBytes
        split
        · exact checks_ok
        · exact ih

end

end PostgresQueryExecutor

end QueryMan
