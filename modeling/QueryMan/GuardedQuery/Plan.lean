import Mathlib.Algebra.Order.Floor.Defs
import Mathlib.Data.Nat.Size
import Mathlib.Data.Rat.Floor
import QueryMan.GuardedQuery.Failures
import QueryMan.SourceCatalog.Models

/-!
# Plan admission

`_extract_plan`, `_summarize_plan`, `_non_negative_number` and `_admit_plan` of
`guarded_query/query.py`: the JSON document that `EXPLAIN` answers, the summary of its nodes and the
three limits.
-/

namespace QueryMan

/-- A Python `float`: a rational of the format, an infinity or a NaN. -/
inductive PyFloat where
  | finite (value : ℚ)
  | infinity (negative : Bool)
  | nan
  deriving DecidableEq

/-- A value of a decoded JSON document. -/
inductive PlanValue where
  | null
  | bool (value : Bool)
  | int (value : Int)
  | float (value : PyFloat)
  | str (value : String)
  | list (items : List PlanValue)
  | dict (entries : List (String × PlanValue))

/-- `dict.get` of the entries of an object. -/
def PlanValue.get (entries : List (String × PlanValue)) (key : String) : Option PlanValue :=
  entries.lookup key

/-- `PlanSummary`. -/
structure PlanSummary where
  totalCost : ℚ
  maxRows : Int
  nodeCount : Nat
  deriving DecidableEq

/-- The natural number at the multiples of `2 ^ k`, with ties to the even one. -/
def roundToMultiple (k n : Nat) : Nat :=
  let quotient := n / 2 ^ k
  let twice := 2 * (n % 2 ^ k)
  if twice > 2 ^ k ∨ (twice = 2 ^ k ∧ quotient % 2 = 1) then (quotient + 1) * 2 ^ k
  else quotient * 2 ^ k

/-- `float(value)` of an `int`: rounded to 53 bits, and an `OverflowError` beyond the format. -/
def floatOfInt (n : Int) : Except Exc PyFloat :=
  let rounded := roundToMultiple (n.natAbs.size - 53) n.natAbs
  if rounded ≥ 2 ^ 1024 then .error .other
  else .ok (.finite (if n < 0 then -(rounded : ℚ) else rounded))

/-- The error of `_non_negative_number`. -/
def invalidEstimate : Exc :=
  .runtimeError "EXPLAIN returned an invalid numeric estimate"

/-- `_non_negative_number`. -/
def nonNegativeNumber (node : List (String × PlanValue)) (key : String) : Except Exc ℚ :=
  let check : PyFloat → Except Exc ℚ
    | .finite number => if number < 0 then .error invalidEstimate else .ok number
    | _ => .error invalidEstimate
  match PlanValue.get node key with
  | some (.int value) => floatOfInt value >>= check
  | some (.float value) => check value
  | _ => .error invalidEstimate

/-- `_extract_plan`: the row is the dictionary of the columns. -/
def extractPlan (row : Option (List (String × PlanValue))) :
    Except Exc (List (String × PlanValue)) :=
  match row with
  | none | some [] => .error (.runtimeError "EXPLAIN returned no plan")
  | some ((_, payload) :: _) =>
    match payload with
    | .list (.dict first :: _) =>
      match PlanValue.get first "Plan" with
      | some (.dict plan) => .ok plan
      | _ => .error (.runtimeError "EXPLAIN returned an invalid root plan")
    | _ => .error (.runtimeError "EXPLAIN returned an invalid plan")

/-- The objects among the items, if all of them are objects. -/
def dicts : List PlanValue → Option (List (List (String × PlanValue)))
  | [] => some []
  | .dict entries :: items => (dicts items).map (entries :: ·)
  | _ :: _ => none

/-- The children of a node. -/
def childPlans (node : List (String × PlanValue)) :
    Except Exc (List (List (String × PlanValue))) :=
  match PlanValue.get node "Plans" with
  | none => .ok []
  | some (.list items) =>
    match dicts items with
    | some children => .ok children
    | none => .error (.runtimeError "EXPLAIN returned invalid child plans")
  | some _ => .error (.runtimeError "EXPLAIN returned invalid child plans")

mutual
/-- The number of objects in a value. -/
def PlanValue.objects : PlanValue → Nat
  | .list items => objectsOfList items
  | .dict entries => objectsOfEntries entries + 1
  | _ => 0

/-- `PlanValue.objects` of the items. -/
def objectsOfList : List PlanValue → Nat
  | [] => 0
  | item :: items => item.objects + objectsOfList items

/-- `PlanValue.objects` of the entries. -/
def objectsOfEntries : List (String × PlanValue) → Nat
  | [] => 0
  | (_, value) :: entries => value.objects + objectsOfEntries entries
end

/-- The loop of `_summarize_plan`: the stack, the node count and the largest estimate. -/
def summarizeLoop : Nat → List (List (String × PlanValue)) → Nat → Int → Except Exc (Nat × Int)
  | _, [], nodeCount, maxRows => .ok (nodeCount, maxRows)
  | 0, _ :: _, _, _ => .error .other
  | fuel + 1, node :: pending, nodeCount, maxRows => do
    let rows ← nonNegativeNumber node "Plan Rows"
    let children ← childPlans node
    summarizeLoop fuel (children.reverse ++ pending) (nodeCount + 1) (max maxRows ⌊rows⌋)

/-- `_summarize_plan`. Each turn takes one object off the stack, so that there are at most as many
turns as objects. -/
def summarizePlan (root : List (String × PlanValue)) : Except Exc PlanSummary := do
  let (nodeCount, maxRows) ← summarizeLoop (PlanValue.objects (.dict root)) [root] 0 0
  let totalCost ← nonNegativeNumber root "Total Cost"
  pure ⟨totalCost, maxRows, nodeCount⟩

/-- `_admit_plan`. -/
def admitPlan (source : SourceProfile) (plan : PlanSummary) : Except Exc Unit :=
  if plan.totalCost > source.budget.maxPlanTotalCost then
    .error (.app (.queryRejected "QUERY_PLAN_COST_EXCEEDED" none))
  else if plan.maxRows > source.budget.maxPlanRows then
    .error (.app (.queryRejected "QUERY_PLAN_ROWS_EXCEEDED" none))
  else if plan.nodeCount > source.budget.maxPlanNodes then
    .error (.app (.queryRejected "QUERY_PLAN_NODES_EXCEEDED" none))
  else .ok ()

/-! ## Termination -/

/-- The number of objects on a stack. -/
def stackObjects (pending : List (List (String × PlanValue))) : Nat :=
  (pending.map fun node => PlanValue.objects (.dict node)).sum

/-- An entry has no more objects than the entries. -/
theorem objects_le_of_get {node : List (String × PlanValue)} {key : String} {value : PlanValue}
    (h : PlanValue.get node key = some value) : value.objects ≤ objectsOfEntries node := by
  induction node with
  | nil => cases h
  | cons entry node ih =>
    obtain ⟨key', value'⟩ := entry
    rw [PlanValue.get, List.lookup_cons] at h
    rw [objectsOfEntries]
    cases hkey : key == key' with
    | true =>
      rw [hkey] at h
      cases h
      exact Nat.le_add_right _ _
    | false =>
      rw [hkey] at h
      exact (ih h).trans (Nat.le_add_left _ _)

/-- The objects of a list are on the stack afterwards. -/
theorem stackObjects_of_dicts {items : List PlanValue}
    {children : List (List (String × PlanValue))} (h : dicts items = some children) :
    stackObjects children = objectsOfList items := by
  induction items generalizing children with
  | nil =>
    cases h
    rfl
  | cons item items ih =>
    cases item with
    | dict entries =>
      rw [dicts, Option.map_eq_some_iff] at h
      obtain ⟨rest, hrest, rfl⟩ := h
      rw [objectsOfList, ← ih hrest]
      simp [stackObjects]
    | null | bool | int | float | str | list => cases h

/-- The children of a node have fewer objects than the node. -/
theorem stackObjects_childPlans {node : List (String × PlanValue)}
    {children : List (List (String × PlanValue))} (h : childPlans node = .ok children) :
    stackObjects children < PlanValue.objects (.dict node) := by
  rw [PlanValue.objects]
  refine Nat.lt_succ_of_le ?_
  rw [childPlans] at h
  split at h
  · cases h
    exact Nat.zero_le _
  · next items hget =>
    split at h
    · next children' hdicts =>
      cases h
      rw [stackObjects_of_dicts hdicts]
      have hle := objects_le_of_get hget
      rwa [PlanValue.objects] at hle
    · cases h
  · cases h

/-- **The walk ends by itself**: from the number of objects on, more fuel changes nothing. -/
theorem summarizeLoop_fuel {fuel : Nat} {pending : List (List (String × PlanValue))}
    (hfuel : stackObjects pending ≤ fuel) (extra nodeCount : Nat) (maxRows : Int) :
    summarizeLoop (fuel + extra) pending nodeCount maxRows =
      summarizeLoop fuel pending nodeCount maxRows := by
  induction fuel generalizing pending nodeCount maxRows with
  | zero =>
    cases pending with
    | nil => cases extra <;> rfl
    | cons node pending =>
      simp only [stackObjects, List.map_cons, List.sum_cons, PlanValue.objects] at hfuel
      omega
  | succ fuel ih =>
    cases pending with
    | nil =>
      rw [Nat.succ_add]
      rfl
    | cons node pending =>
      rw [Nat.succ_add, summarizeLoop, summarizeLoop]
      cases nonNegativeNumber node "Plan Rows" with
      | error e => rfl
      | ok rows =>
        cases hchildren : childPlans node with
        | error e => rfl
        | ok children =>
          refine ih ?_ _ _
          have hlt := stackObjects_childPlans hchildren
          simp only [stackObjects, List.map_cons, List.sum_cons, List.map_append,
            List.map_reverse, List.sum_append, List.sum_reverse] at hfuel hlt ⊢
          omega

end QueryMan
