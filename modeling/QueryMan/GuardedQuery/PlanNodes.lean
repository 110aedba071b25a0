import Mathlib.Order.Bounds.Basic
import QueryMan.GuardedQuery.Plan
import QueryMan.Python.Checks

/-!
# The nodes of a plan

What `_summarize_plan` says of a plan as a tree: the stack visits every node below `Plans` once, at
any depth and in whatever order, so that the summary is the root's cost, the largest row estimate
and the number of nodes. An estimate is the `float` of the number in the document: an `int` above
`2 ^ 53` is rounded to the nearest one.
-/

namespace QueryMan

open PlanValue (get)
open Python

/-! ## Estimates -/

/-- `float(value)` of a natural number, where it does not overflow. -/
def nearestFloat (n : Nat) : Nat :=
  roundToMultiple (n.size - 53) n

/-- The estimate that a value of the document gives: it is there, a number and no `bool`, finite as
a `float`, and not negative. -/
def estimate : Option PlanValue → Option ℚ
  | some (.int value) =>
    if 0 ≤ value ∧ nearestFloat value.natAbs < 2 ^ 1024 then some (nearestFloat value.natAbs : ℚ)
    else none
  | some (.float (.finite value)) => if 0 ≤ value then some value else none
  | _ => none

/-- The float of a positive number is positive. -/
theorem nearestFloat_pos {n : Nat} (h : 0 < n) : 0 < nearestFloat n := by
  have hsize : 2 ^ (n.size - 53) ≤ n := by
    have hlow : 2 ^ (n.size - 1) ≤ n := Nat.lt_size.1 (Nat.sub_lt (Nat.size_pos.2 h) Nat.one_pos)
    exact (Nat.pow_le_pow_right (by decide) (by omega)).trans hlow
  have hquotient : 0 < n / 2 ^ (n.size - 53) := Nat.div_pos hsize (Nat.two_pow_pos _)
  unfold nearestFloat roundToMultiple
  dsimp only
  split
  · exact Nat.mul_pos (Nat.succ_pos _) (Nat.two_pow_pos _)
  · exact Nat.mul_pos hquotient (Nat.two_pow_pos _)

/-- Up to `2 ^ 53` an integer is its own float. -/
theorem nearestFloat_of_le {n : Nat} (h : n ≤ 2 ^ 53) : nearestFloat n = n := by
  rcases h.eq_or_lt with rfl | hlt
  · decide +kernel
  · have hsize : n.size - 53 = 0 := Nat.sub_eq_zero_of_le (Nat.size_le.2 hlt)
    unfold nearestFloat roundToMultiple
    rw [hsize]
    simp [Nat.mod_one]

/-- A larger integer keeps a float of that size. -/
theorem le_nearestFloat {n : Nat} (h : 2 ^ 53 ≤ n) : 2 ^ 53 ≤ nearestFloat n := by
  have hsize : 53 < n.size := Nat.lt_size.2 h
  have hlow : 2 ^ (n.size - 1) ≤ n := Nat.lt_size.1 (Nat.sub_lt (by omega) Nat.one_pos)
  have hquotient : 2 ^ 52 ≤ n / 2 ^ (n.size - 53) := by
    rw [Nat.le_div_iff_mul_le (Nat.two_pow_pos _), ← Nat.pow_add]
    exact (Nat.pow_le_pow_right (by decide) (by omega)).trans hlow
  have hfloor : 2 ^ 53 ≤ n / 2 ^ (n.size - 53) * 2 ^ (n.size - 53) :=
    calc 2 ^ 53 ≤ 2 ^ 52 * 2 ^ (n.size - 53) := by
          rw [← Nat.pow_add]
          exact Nat.pow_le_pow_right (by decide) (by omega)
      _ ≤ _ := Nat.mul_le_mul_right _ hquotient
  unfold nearestFloat roundToMultiple
  dsimp only
  split
  · exact hfloor.trans (Nat.mul_le_mul_right _ (Nat.le_succ _))
  · exact hfloor

/-- **Rounding does not let a number through**: below `2 ^ 53` a limit holds of the float exactly if
it holds of the integer. -/
theorem nearestFloat_le_iff {n limit : Nat} (h : limit < 2 ^ 53) :
    nearestFloat n ≤ limit ↔ n ≤ limit := by
  rcases Nat.le_total n (2 ^ 53) with hsmall | hlarge
  · rw [nearestFloat_of_le hsmall]
  · have hfloat := le_nearestFloat hlarge
    exact iff_of_false (by omega) (by omega)

theorem floatOfInt_eq (value : Int) :
    floatOfInt value =
      if nearestFloat value.natAbs ≥ 2 ^ 1024 then .error .other
      else .ok (.finite (if value < 0 then -(nearestFloat value.natAbs : ℚ)
        else nearestFloat value.natAbs)) := rfl

theorem estimate_int (value : Int) :
    estimate (some (.int value)) =
      if 0 ≤ value ∧ nearestFloat value.natAbs < 2 ^ 1024 then some (nearestFloat value.natAbs : ℚ)
      else none := rfl

/-- `_non_negative_number` gives the estimate, and raises if there is none. -/
theorem nonNegativeNumber_eq_ok {node : List (String × PlanValue)} {key : String} {number : ℚ} :
    nonNegativeNumber node key = .ok number ↔ estimate (get node key) = some number := by
  have hcheck : ∀ value : ℚ, (if value < 0 then .error invalidEstimate else .ok value :
      Except Exc ℚ) = .ok number ↔ (if 0 ≤ value then some value else none) = some number := by
    intro value
    by_cases hvalue : value < 0
    · rw [if_pos hvalue, if_neg (not_le.2 hvalue)]
      exact iff_of_false (fun h => by cases h) fun h => by cases h
    · rw [if_neg hvalue, if_pos (not_lt.1 hvalue)]
      exact ⟨fun h => by cases h; rfl, fun h => by cases h; rfl⟩
  unfold nonNegativeNumber
  dsimp only
  split
  · next value hvalue =>
    rw [hvalue, floatOfInt_eq, estimate_int]
    by_cases hrange : nearestFloat value.natAbs ≥ 2 ^ 1024
    · rw [if_pos hrange, if_neg fun h => absurd hrange (not_le.2 h.2)]
      exact iff_of_false (fun h => by cases h) fun h => by cases h
    rw [if_neg hrange]
    change (if (if value < 0 then _ else _) < (0 : ℚ) then _ else _) = _ ↔ _
    by_cases hnegative : value < 0
    · -- a negative integer has a negative float
      have hpos : (0 : ℚ) < nearestFloat value.natAbs :=
        Nat.cast_pos.2 (nearestFloat_pos (Int.natAbs_pos.2 hnegative.ne))
      rw [if_pos hnegative, if_pos (neg_lt_zero.2 hpos),
        if_neg fun h => absurd hnegative (not_lt.2 h.1)]
      exact iff_of_false (fun h => by cases h) fun h => by cases h
    · rw [if_neg hnegative, if_neg (not_lt.2 (Nat.cast_nonneg _)),
        if_pos ⟨not_lt.1 hnegative, not_le.1 hrange⟩]
      exact ⟨fun h => by cases h; rfl, fun h => by cases h; rfl⟩
  · next value hvalue =>
    rw [hvalue]
    cases value with
    | finite value => exact hcheck value
    | infinity | nan => exact iff_of_false (fun h => by cases h) fun h => by cases h
  · next hint hfloat =>
    refine iff_of_false (fun h => by cases h) fun h => ?_
    unfold estimate at h
    split at h
    · next value hvalue => exact hint value hvalue
    · next value hvalue => exact hfloat _ hvalue
    · cases h

/-! ## Nodes -/

/-- The entries of a node. -/
abbrev PlanNode : Type := List (String × PlanValue)

mutual
/-- The nodes of a plan: an object, and the nodes below it. -/
def PlanValue.nodes : PlanValue → List PlanNode
  | .dict node => node :: nodesBelow node
  | _ => []

/-- The nodes below an object: those of the items of its `Plans`. -/
def nodesBelow : PlanNode → List PlanNode
  | [] => []
  | (key, value) :: node => if key = "Plans" then value.itemNodes else nodesBelow node

/-- The nodes of the items of a list. -/
def PlanValue.itemNodes : PlanValue → List PlanNode
  | .list items => nodesOfItems items
  | _ => []

/-- `PlanValue.itemNodes` of the items. -/
def nodesOfItems : List PlanValue → List PlanNode
  | [] => []
  | item :: items => item.nodes ++ nodesOfItems items
end

/-- All nodes of a plan. -/
def planNodes (root : PlanNode) : List PlanNode :=
  root :: nodesBelow root

/-- `Plans` is missing, or a list of objects. -/
def PlansValid : Option PlanValue → Prop
  | none => True
  | some (.list items) => ∀ item ∈ items, ∃ node, item = .dict node
  | some _ => False

/-- The node has an estimate of its rows, and its children are objects. -/
structure ValidNode (node : PlanNode) : Prop where
  rows : (estimate (get node "Plan Rows")).isSome = true
  plans : PlansValid (get node "Plans")

/-- The integer part of the estimate of the rows. -/
def integerRows (node : PlanNode) : Int :=
  ⌊(estimate (get node "Plan Rows")).getD 0⌋

/-- The integer parts of all nodes. -/
def nodeRows (nodes : List PlanNode) : Set Int :=
  {rows | ∃ node ∈ nodes, integerRows node = rows}

theorem nodesOfItems_eq (items : List PlanValue) :
    nodesOfItems items = items.flatMap PlanValue.nodes := by
  induction items with
  | nil => rfl
  | cons item items ih => rw [nodesOfItems, List.flatMap_cons, ih]

theorem nodesBelow_eq (node : PlanNode) :
    nodesBelow node = (get node "Plans").elim [] PlanValue.itemNodes := by
  induction node with
  | nil => rfl
  | cons entry node ih =>
    obtain ⟨key, value⟩ := entry
    rw [nodesBelow, PlanValue.get, List.lookup_cons]
    by_cases hkey : key = "Plans"
    · rw [if_pos hkey, hkey, beq_self_eq_true]
      rfl
    · rw [if_neg hkey, beq_eq_false_iff_ne.2 (Ne.symm hkey)]
      exact ih

/-- The objects among the items are all the items. -/
theorem dicts_eq_some {items : List PlanValue} {children : List PlanNode} :
    dicts items = some children ↔ items = children.map PlanValue.dict := by
  induction items generalizing children with
  | nil =>
    cases children with
    | nil => exact iff_of_true rfl rfl
    | cons child children => exact iff_of_false (fun h => by cases h) fun h => by cases h
  | cons item items ih =>
    cases item with
    | dict node =>
      rw [dicts, Option.map_eq_some_iff]
      constructor
      · rintro ⟨rest, hrest, rfl⟩
        rw [List.map_cons, ← ih.1 hrest]
      · intro h
        cases children with
        | nil => cases h
        | cons child children =>
          rw [List.map_cons] at h
          injection h with hchild hrest
          injection hchild with hchild
          exact ⟨children, ih.2 hrest, by rw [hchild]⟩
    | null | bool | int | float | str | list =>
      refine iff_of_false (fun h => by cases h) fun h => ?_
      cases children <;> cases h

/-- The children that the loop takes from a node have the nodes below it. -/
theorem nodesBelow_of_childPlans {node : PlanNode} {children : List PlanNode}
    (h : childPlans node = .ok children) :
    PlansValid (get node "Plans") ∧ nodesBelow node = children.flatMap planNodes := by
  rw [nodesBelow_eq]
  unfold childPlans at h
  split at h
  · next hnone =>
    cases h
    rw [hnone]
    exact ⟨trivial, rfl⟩
  · next items hitems =>
    split at h
    · next children' hdicts =>
      cases h
      rw [dicts_eq_some] at hdicts
      rw [hitems, hdicts]
      refine ⟨fun item hitem => ?_, ?_⟩
      · obtain ⟨child, -, rfl⟩ := List.mem_map.1 hitem
        exact ⟨child, rfl⟩
      · change nodesOfItems _ = _
        rw [nodesOfItems_eq, List.flatMap_map]
        rfl
    · cases h
  · cases h

/-- A list of objects gives the loop its children. -/
theorem exists_childPlans {node : PlanNode} (h : PlansValid (get node "Plans")) :
    ∃ children, childPlans node = .ok children := by
  unfold childPlans
  split
  · exact ⟨[], rfl⟩
  · next items hitems =>
    rw [hitems] at h
    have hdicts : ∃ children, dicts items = some children := by
      have hall : ∀ item ∈ items, ∃ node, item = .dict node := h
      clear h hitems
      induction items with
      | nil => exact ⟨[], rfl⟩
      | cons item items ih =>
        obtain ⟨child, rfl⟩ := hall item List.mem_cons_self
        obtain ⟨rest, hrest⟩ := ih fun item' hitem => hall item' (List.mem_cons_of_mem _ hitem)
        exact ⟨child :: rest, by rw [dicts, hrest]; rfl⟩
    obtain ⟨children, hdicts⟩ := hdicts
    rw [hdicts]
    exact ⟨children, rfl⟩
  · next value hlist hvalue =>
    rw [hvalue] at h
    cases value with
    | list items => exact absurd rfl (hlist items)
    | _ => exact h.elim

/-! ## The loop -/

/-- The nodes of a stack. -/
def stackNodes (pending : List PlanNode) : List PlanNode :=
  pending.flatMap planNodes

/-- One turn: the node on the top gives way to its children. -/
theorem stackNodes_turn {node : PlanNode} {pending children : List PlanNode}
    (h : childPlans node = .ok children) :
    (stackNodes (node :: pending)).Perm (node :: stackNodes (children.reverse ++ pending)) := by
  have hchildren : (stackNodes children.reverse).Perm (nodesBelow node) := by
    rw [(nodesBelow_of_childPlans h).2]
    exact (List.reverse_perm children).flatMap_right _
  unfold stackNodes
  rw [List.flatMap_cons, List.flatMap_append, planNodes, List.cons_append]
  exact (hchildren.symm.append_right _).cons _

theorem nodeRows_perm {nodes nodes' : List PlanNode} (h : nodes.Perm nodes') :
    nodeRows nodes = nodeRows nodes' :=
  Set.ext fun _ => exists_congr fun _ => and_congr_left fun _ => h.mem_iff

theorem nodeRows_cons (node : PlanNode) (nodes : List PlanNode) :
    nodeRows (node :: nodes) = insert (integerRows node) (nodeRows nodes) := by
  ext rows
  simp [nodeRows, eq_comm]

/-- The largest of a set with the larger of two. -/
theorem isGreatest_insert_max {a b greatest : Int} {rest : Set Int}
    (h : IsGreatest (insert (max a b) rest) greatest) :
    IsGreatest (insert a (insert b rest)) greatest := by
  obtain ⟨hmem, hupper⟩ := h
  have hmax : max a b ≤ greatest := hupper (Set.mem_insert _ _)
  refine ⟨?_, ?_⟩
  · rcases hmem with rfl | hmem
    · rcases max_choice a b with hmax | hmax
      · exact .inl hmax
      · exact .inr (.inl hmax)
    · exact .inr (.inr hmem)
  · rintro rows (rfl | rfl | hrows)
    · exact (le_max_left _ _).trans hmax
    · exact (le_max_right _ _).trans hmax
    · exact hupper (.inr hrows)

/-- What the loop returns: it has seen every node of the stack, all of them valid. -/
theorem summarizeLoop_sound {fuel : Nat} {pending : List PlanNode} {nodeCount nodeCount' : Nat}
    {maxRows maxRows' : Int}
    (h : summarizeLoop fuel pending nodeCount maxRows = .ok (nodeCount', maxRows')) :
    (∀ node ∈ stackNodes pending, ValidNode node) ∧
      nodeCount' = nodeCount + (stackNodes pending).length ∧
      IsGreatest (insert maxRows (nodeRows (stackNodes pending))) maxRows' := by
  induction fuel generalizing pending nodeCount maxRows with
  | zero =>
    cases pending with
    | nil =>
      cases h
      exact ⟨fun _ hnode => absurd hnode List.not_mem_nil, rfl, by simp [nodeRows, stackNodes]⟩
    | cons node pending => cases h
  | succ fuel ih =>
    cases pending with
    | nil =>
      cases h
      exact ⟨fun _ hnode => absurd hnode List.not_mem_nil, rfl, by simp [nodeRows, stackNodes]⟩
    | cons node pending =>
      obtain ⟨rows, hrows, h⟩ := bind_eq_ok.1 h
      obtain ⟨children, hchildren, h⟩ := bind_eq_ok.1 h
      obtain ⟨hvalid, hcount, hgreatest⟩ := ih h
      have hturn : (stackNodes (node :: pending)).Perm _ := stackNodes_turn hchildren
      have hestimate := nonNegativeNumber_eq_ok.1 hrows
      have hinteger : integerRows node = ⌊rows⌋ := by rw [integerRows, hestimate]; rfl
      refine ⟨fun node' hnode => ?_, ?_, ?_⟩
      · rcases List.mem_cons.1 (hturn.mem_iff.1 hnode) with rfl | hnode
        · exact ⟨by rw [hestimate]; rfl, (nodesBelow_of_childPlans hchildren).1⟩
        · exact hvalid node' hnode
      · rw [hcount, hturn.length_eq, List.length_cons]
        omega
      · rw [nodeRows_perm hturn, nodeRows_cons, hinteger]
        exact isGreatest_insert_max hgreatest

/-- With a turn for every object the loop returns, if all nodes are valid. -/
theorem summarizeLoop_complete {fuel : Nat} {pending : List PlanNode}
    (hfuel : stackObjects pending ≤ fuel) (hvalid : ∀ node ∈ stackNodes pending, ValidNode node)
    (nodeCount : Nat) (maxRows : Int) :
    ∃ summary, summarizeLoop fuel pending nodeCount maxRows = .ok summary := by
  induction fuel generalizing pending nodeCount maxRows with
  | zero =>
    cases pending with
    | nil => exact ⟨_, rfl⟩
    | cons node pending =>
      simp only [stackObjects, List.map_cons, List.sum_cons, PlanValue.objects] at hfuel
      omega
  | succ fuel ih =>
    cases pending with
    | nil => exact ⟨_, rfl⟩
    | cons node pending =>
      have hnode : ValidNode node :=
        hvalid node (List.mem_flatMap.2 ⟨node, List.mem_cons_self, List.mem_cons_self⟩)
      obtain ⟨rows, hrows⟩ := Option.isSome_iff_exists.1 hnode.rows
      obtain ⟨children, hchildren⟩ := exists_childPlans hnode.plans
      have hlt := stackObjects_childPlans hchildren
      have hobjects : stackObjects (children.reverse ++ pending) ≤ fuel := by
        simp only [stackObjects, List.map_cons, List.sum_cons, List.map_append,
          List.map_reverse, List.sum_append, List.sum_reverse] at hfuel hlt ⊢
        omega
      obtain ⟨summary, hsummary⟩ := ih hobjects
        (fun node' hmem => hvalid node' ((stackNodes_turn hchildren).mem_iff.2 (.tail _ hmem)))
        (nodeCount + 1) (max maxRows ⌊rows⌋)
      refine ⟨summary, bind_eq_ok.2 ⟨rows, nonNegativeNumber_eq_ok.2 hrows, ?_⟩⟩
      exact bind_eq_ok.2 ⟨children, hchildren, hsummary⟩

/-! ## The summary -/

theorem estimate_nonneg {value : Option PlanValue} {number : ℚ} (h : estimate value = some number) :
    0 ≤ number := by
  unfold estimate at h
  split at h
  · split at h
    · cases h
      exact Nat.cast_nonneg _
    · cases h
  · split at h
    · next hvalue =>
      cases h
      exact hvalue
    · cases h
  · cases h

theorem integerRows_nonneg (node : PlanNode) : 0 ≤ integerRows node := by
  refine Int.floor_nonneg.2 ?_
  cases hrows : estimate (get node "Plan Rows") with
  | none => exact le_rfl
  | some number => exact estimate_nonneg hrows

/-- The running maximum starts at zero, which no node is below. -/
theorem isGreatest_of_insert_zero {root : PlanNode} {greatest : Int}
    (h : IsGreatest (insert 0 (nodeRows (planNodes root))) greatest) :
    IsGreatest (nodeRows (planNodes root)) greatest := by
  refine ⟨?_, fun rows hrows => h.2 (.inr hrows)⟩
  have hroot : integerRows root ∈ nodeRows (planNodes root) := ⟨root, List.mem_cons_self, rfl⟩
  rcases h.1 with hzero | hmem
  · have hle : integerRows root ≤ greatest := h.2 (.inr hroot)
    have heq : integerRows root = greatest := le_antisymm hle (hzero ▸ integerRows_nonneg root)
    exact heq ▸ hroot
  · exact hmem

/-- What a returned summary says. -/
theorem summarizePlan_sound {root : PlanNode} {summary : PlanSummary}
    (h : summarizePlan root = .ok summary) :
    (∀ node ∈ planNodes root, ValidNode node) ∧
      estimate (get root "Total Cost") = some summary.totalCost ∧
      IsGreatest (nodeRows (planNodes root)) summary.maxRows ∧
      summary.nodeCount = (planNodes root).length := by
  have hstack : stackNodes [root] = planNodes root := List.append_nil _
  obtain ⟨⟨nodeCount, maxRows⟩, hloop, h⟩ := bind_eq_ok.1 h
  obtain ⟨totalCost, hcost, h⟩ := bind_eq_ok.1 h
  cases h
  obtain ⟨hvalid, hcount, hgreatest⟩ := summarizeLoop_sound hloop
  rw [hstack] at hvalid hcount hgreatest
  refine ⟨hvalid, nonNegativeNumber_eq_ok.1 hcost, isGreatest_of_insert_zero hgreatest, ?_⟩
  rw [hcount, Nat.zero_add]

/-- A valid plan has a summary. -/
theorem exists_summary {root : PlanNode} (hvalid : ∀ node ∈ planNodes root, ValidNode node)
    {cost : ℚ} (hcost : estimate (get root "Total Cost") = some cost) :
    ∃ summary, summarizePlan root = .ok summary := by
  have hstack : stackNodes [root] = planNodes root := List.append_nil _
  rw [← hstack] at hvalid
  obtain ⟨⟨nodeCount, maxRows⟩, hloop⟩ :=
    @summarizeLoop_complete (PlanValue.objects (.dict root)) [root] (by simp [stackObjects])
      hvalid 0 0
  exact ⟨_, bind_eq_ok.2 ⟨_, hloop, bind_eq_ok.2 ⟨_, nonNegativeNumber_eq_ok.2 hcost, rfl⟩⟩⟩

/-- What `_summarize_plan` returns, and when. -/
theorem summarizePlan_eq_ok {root : PlanNode} {summary : PlanSummary} :
    summarizePlan root = .ok summary ↔
      (∀ node ∈ planNodes root, ValidNode node) ∧
        estimate (get root "Total Cost") = some summary.totalCost ∧
        IsGreatest (nodeRows (planNodes root)) summary.maxRows ∧
        summary.nodeCount = (planNodes root).length := by
  refine ⟨summarizePlan_sound, fun ⟨hvalid, hcost, hgreatest, hcount⟩ => ?_⟩
  obtain ⟨⟨totalCost, maxRows, nodeCount⟩, hsummary⟩ := exists_summary hvalid hcost
  obtain ⟨-, hcost', hgreatest', hcount'⟩ := summarizePlan_sound hsummary
  rw [hsummary]
  obtain ⟨totalCost', maxRows', nodeCount'⟩ := summary
  cases hcost.symm.trans hcost'
  cases hgreatest.unique hgreatest'
  cases hcount.trans hcount'.symm
  rfl

/-- `_summarize_plan` raises if a node is not valid, or the cost is not, and not else. -/
theorem summarizePlan_eq_error {root : PlanNode} :
    (∃ e, summarizePlan root = .error e) ↔
      (∃ node ∈ planNodes root, ¬ ValidNode node) ∨ estimate (get root "Total Cost") = none := by
  constructor
  · rintro ⟨e, herror⟩
    by_contra hno
    push Not at hno
    obtain ⟨cost, hcost⟩ := Option.ne_none_iff_exists'.1 hno.2
    obtain ⟨summary, hsummary⟩ := exists_summary hno.1 hcost
    rw [hsummary] at herror
    cases herror
  · intro hinvalid
    cases hresult : summarizePlan root with
    | error e => exact ⟨e, rfl⟩
    | ok summary =>
      obtain ⟨hvalid, hcost, -, -⟩ := summarizePlan_sound hresult
      rcases hinvalid with ⟨node, hnode, hno⟩ | hnone
      · exact absurd (hvalid node hnode) hno
      · rw [hnone] at hcost
        cases hcost

/-! ## Admission -/

/-- The limits hold of every node. -/
theorem admitPlan_eq_ok {source : SourceProfile} {plan : PlanSummary} :
    admitPlan source plan = .ok () ↔
      plan.totalCost ≤ source.budget.maxPlanTotalCost ∧
        plan.maxRows ≤ source.budget.maxPlanRows ∧ plan.nodeCount ≤ source.budget.maxPlanNodes := by
  unfold admitPlan
  split
  · next h => exact iff_of_false (fun h => by cases h) fun hall => absurd h (not_lt.2 hall.1)
  next hcost =>
  split
  · next h => exact iff_of_false (fun h => by cases h) fun hall => absurd h (not_lt.2 hall.2.1)
  next hrows =>
  split
  · next h => exact iff_of_false (fun h => by cases h) fun hall => absurd h (not_lt.2 hall.2.2)
  next hnodes => exact iff_of_true rfl ⟨not_lt.1 hcost, not_lt.1 hrows, not_lt.1 hnodes⟩

/-- A plan passes the gate if it is valid and within the limits at every node. -/
theorem admitted_iff {root : PlanNode} {source : SourceProfile} :
    (summarizePlan root >>= admitPlan source) = .ok () ↔
      (∀ node ∈ planNodes root, ValidNode node ∧ integerRows node ≤ source.budget.maxPlanRows) ∧
        (∃ cost ∈ estimate (get root "Total Cost"), cost ≤ source.budget.maxPlanTotalCost) ∧
        (planNodes root).length ≤ source.budget.maxPlanNodes := by
  rw [bind_eq_ok]
  constructor
  · rintro ⟨summary, hsummary, hadmit⟩
    obtain ⟨hvalid, hcost, hgreatest, hcount⟩ := summarizePlan_sound hsummary
    obtain ⟨hcostLimit, hrowsLimit, hnodesLimit⟩ := admitPlan_eq_ok.1 hadmit
    refine ⟨fun node hnode => ⟨hvalid node hnode, ?_⟩, ⟨_, hcost, hcostLimit⟩, hcount ▸ hnodesLimit⟩
    exact (hgreatest.2 ⟨node, hnode, rfl⟩).trans hrowsLimit
  · rintro ⟨hnodes, ⟨cost, hcost, hcostLimit⟩, hlength⟩
    obtain ⟨summary, hsummary⟩ := exists_summary (fun node hnode => (hnodes node hnode).1) hcost
    obtain ⟨-, hcost', hgreatest, hcount⟩ := summarizePlan_sound hsummary
    refine ⟨summary, hsummary, admitPlan_eq_ok.2 ⟨?_, ?_, hcount ▸ hlength⟩⟩
    · cases hcost.symm.trans hcost'
      exact hcostLimit
    · obtain ⟨node, hnode, hrows⟩ := hgreatest.1
      exact hrows ▸ (hnodes node hnode).2

/-! ## The order of the children -/

/-- The same value with the items of its lists in other orders, at any depth. -/
inductive Reordered : PlanValue → PlanValue → Prop where
  | items {items items' : List PlanValue} (h : items.Perm items') :
      Reordered (.list items) (.list items')
  | item {before after : List PlanValue} {value value' : PlanValue} (h : Reordered value value') :
      Reordered (.list (before ++ value :: after)) (.list (before ++ value' :: after))
  | entry {before after : PlanNode} {key : String} {value value' : PlanValue}
      (h : Reordered value value') :
      Reordered (.dict (before ++ (key, value) :: after)) (.dict (before ++ (key, value') :: after))
  | trans {value value' value'' : PlanValue} (h : Reordered value value')
      (h' : Reordered value' value'') : Reordered value value''

/-- What a summary takes from a node. -/
def nodeData (node : PlanNode) : Option ℚ × Prop :=
  (estimate (get node "Plan Rows"), PlansValid (get node "Plans"))

/-- The entry of an object. -/
def PlanValue.field : PlanValue → String → Option PlanValue
  | .dict node, key => get node key
  | _, _ => none

/-- Two values that a summary cannot tell apart. -/
structure SameSummary (value value' : PlanValue) : Prop where
  number : estimate (some value) = estimate (some value')
  plans : PlansValid (some value) ↔ PlansValid (some value')
  isDict : (∃ node, value = .dict node) ↔ ∃ node, value' = .dict node
  fields : ∀ key, estimate (value.field key) = estimate (value'.field key)
  nodes : (value.nodes.map nodeData).Perm (value'.nodes.map nodeData)
  itemNodes : (value.itemNodes.map nodeData).Perm (value'.itemNodes.map nodeData)

/-- An entry that changes is found, or another one is. -/
theorem get_entry (before after : PlanNode) (key key' : String) (value value' : PlanValue) :
    (get (before ++ (key, value) :: after) key' = some value ∧
      get (before ++ (key, value') :: after) key' = some value') ∨
    get (before ++ (key, value) :: after) key' = get (before ++ (key, value') :: after) key' := by
  induction before with
  | nil =>
    by_cases hkey : key' = key
    · left
      simp [PlanValue.get, hkey]
    · right
      simp [PlanValue.get, List.lookup_cons, beq_eq_false_iff_ne.2 hkey]
  | cons entry before ih =>
    obtain ⟨key'', value''⟩ := entry
    simp only [PlanValue.get, List.cons_append, List.lookup_cons] at ih ⊢
    cases key' == key'' with
    | true => exact .inr rfl
    | false => exact ih

theorem Reordered.sameSummary {value value' : PlanValue} (h : Reordered value value') :
    SameSummary value value' := by
  induction h with
  | @items items items' hperm =>
    refine ⟨rfl, forall_congr' fun item => ?_, ?_, fun _ => rfl, .refl _, ?_⟩
    · rw [hperm.mem_iff]
    · exact iff_of_false (fun ⟨_, h⟩ => by cases h) fun ⟨_, h⟩ => by cases h
    · change ((nodesOfItems items).map nodeData).Perm ((nodesOfItems items').map nodeData)
      rw [nodesOfItems_eq, nodesOfItems_eq]
      exact (hperm.flatMap_right _).map _
  | @item before after value value' _ ih =>
    refine ⟨rfl, ?_, ?_, fun _ => rfl, .refl _, ?_⟩
    · change (∀ item ∈ _, _) ↔ ∀ item ∈ _, _
      rw [List.forall_mem_append, List.forall_mem_append, List.forall_mem_cons,
        List.forall_mem_cons, ih.isDict]
    · exact iff_of_false (fun ⟨_, h⟩ => by cases h) fun ⟨_, h⟩ => by cases h
    · change ((nodesOfItems _).map nodeData).Perm ((nodesOfItems _).map nodeData)
      rw [nodesOfItems_eq, nodesOfItems_eq]
      simp only [List.flatMap_append, List.flatMap_cons, List.map_append]
      exact ((ih.nodes.append_right _).append_left _)
  | @entry before after key value value' _ ih =>
    have hestimate : ∀ key', estimate (get (before ++ (key, value) :: after) key') =
        estimate (get (before ++ (key, value') :: after) key') := by
      intro key'
      rcases get_entry before after key key' value value' with ⟨hv, hv'⟩ | heq
      · rw [hv, hv', ih.number]
      · rw [heq]
    refine ⟨rfl, Iff.rfl, ?_, hestimate, ?_, .refl _⟩
    · exact iff_of_true ⟨_, rfl⟩ ⟨_, rfl⟩
    · have hplans : PlansValid (get (before ++ (key, value) :: after) "Plans") =
          PlansValid (get (before ++ (key, value') :: after) "Plans") := by
        rcases get_entry before after key "Plans" value value' with ⟨hv, hv'⟩ | heq
        · rw [hv, hv']
          exact propext ih.plans
        · rw [heq]
      have hbelow : ((nodesBelow (before ++ (key, value) :: after)).map nodeData).Perm
          ((nodesBelow (before ++ (key, value') :: after)).map nodeData) := by
        rw [nodesBelow_eq, nodesBelow_eq]
        rcases get_entry before after key "Plans" value value' with ⟨hv, hv'⟩ | heq
        · rw [hv, hv']
          exact ih.itemNodes
        · rw [heq]
      change (nodeData _ :: _).Perm (nodeData _ :: _)
      rw [nodeData, nodeData, hestimate, hplans]
      exact hbelow.cons _
  | trans _ _ ih ih' =>
    exact ⟨ih.number.trans ih'.number, ih.plans.trans ih'.plans, ih.isDict.trans ih'.isDict,
      fun key => (ih.fields key).trans (ih'.fields key), ih.nodes.trans ih'.nodes,
      ih.itemNodes.trans ih'.itemNodes⟩

/-- The set of the row estimates, by what the summary takes. -/
theorem nodeRows_eq (nodes : List PlanNode) :
    nodeRows nodes = {rows | ∃ data ∈ nodes.map nodeData, ⌊data.1.getD 0⌋ = rows} := by
  ext rows
  simp [nodeRows, integerRows, nodeData]

/-- **The summary does not depend on the order of the children.** -/
theorem summarizePlan_reordered {root root' : PlanNode} (h : Reordered (.dict root) (.dict root'))
    (summary : PlanSummary) :
    summarizePlan root = .ok summary ↔ summarizePlan root' = .ok summary := by
  have hsame := h.sameSummary
  have hperm : ((planNodes root).map nodeData).Perm ((planNodes root').map nodeData) := hsame.nodes
  have hcost : estimate (get root "Total Cost") = estimate (get root' "Total Cost") :=
    hsame.fields "Total Cost"
  have hvalid : ∀ nodes : List PlanNode, (∀ node ∈ nodes, ValidNode node) ↔
      ∀ data ∈ nodes.map nodeData, data.1.isSome = true ∧ data.2 := by
    intro nodes
    rw [List.forall_mem_map]
    exact forall₂_congr fun node _ => ⟨fun h => ⟨h.rows, h.plans⟩, fun h => ⟨h.1, h.2⟩⟩
  have hlength : (planNodes root).length = (planNodes root').length := by
    rw [← List.length_map nodeData, hperm.length_eq, List.length_map]
  have hrows : nodeRows (planNodes root) = nodeRows (planNodes root') := by
    rw [nodeRows_eq, nodeRows_eq]
    exact Set.ext fun rows => exists_congr fun data => and_congr_left fun _ => hperm.mem_iff
  rw [summarizePlan_eq_ok, summarizePlan_eq_ok, hvalid, hvalid, hcost, hlength, hrows]
  simp only [hperm.mem_iff]

/-! ## The whole -/

/-- The estimate of an integer: exact up to `2 ^ 53`, and beyond it on the same side of any limit
below. -/
theorem integerRows_int {node : PlanNode} {rows : Int} (hvalid : ValidNode node)
    (h : get node "Plan Rows" = some (.int rows)) :
    (rows ≤ 2 ^ 53 → integerRows node = rows) ∧
      ∀ limit : Nat, limit < 2 ^ 53 → (integerRows node ≤ limit ↔ rows ≤ limit) := by
  have hsome := hvalid.rows
  rw [h, estimate_int] at hsome
  split at hsome
  · next hrange =>
    obtain ⟨n, rfl⟩ := Int.eq_ofNat_of_zero_le hrange.1
    have hrows : integerRows node = (nearestFloat n : Int) := by
      rw [integerRows, h, estimate_int, if_pos hrange, Option.getD_some, Int.floor_natCast]
      rfl
    rw [hrows]
    refine ⟨fun hle => ?_, fun limit hlimit => ?_⟩
    · rw [nearestFloat_of_le (by exact_mod_cast hle)]
    · rw [Int.ofNat_le, Int.ofNat_le]
      exact nearestFloat_le_iff hlimit
  · cases hsome

/-- **Plan admission sees every node.** For every plan `_summarize_plan` ends, with as many turns as
the plan has objects; it returns the root's cost, the largest integer part of an estimate of a node
and the number of nodes, whatever the order of the children; it raises exactly if some node has no
valid estimate or no list of objects as its `Plans`, or the root has no valid cost; and a plan is
admitted exactly if the cost, the estimate of every node and the number of nodes are within the
limits. Integers up to `2 ^ 53` are their own estimates, and above it they are compared as such. -/
theorem summarizePlan_sees_every_node (root : PlanNode) :
    (∀ summary, summarizePlan root = .ok summary ↔
      (∀ node ∈ planNodes root, ValidNode node) ∧
        estimate (get root "Total Cost") = some summary.totalCost ∧
        IsGreatest (nodeRows (planNodes root)) summary.maxRows ∧
        summary.nodeCount = (planNodes root).length) ∧
    ((∃ e, summarizePlan root = .error e) ↔
      (∃ node ∈ planNodes root, ¬ ValidNode node) ∨ estimate (get root "Total Cost") = none) ∧
    (∀ extra, summarizeLoop (PlanValue.objects (.dict root) + extra) [root] 0 0 =
      summarizeLoop (PlanValue.objects (.dict root)) [root] 0 0) ∧
    (∀ root', Reordered (.dict root) (.dict root') → ∀ summary,
      summarizePlan root = .ok summary ↔ summarizePlan root' = .ok summary) ∧
    (∀ source, (summarizePlan root >>= admitPlan source) = .ok () ↔
      (∀ node ∈ planNodes root, ValidNode node ∧ integerRows node ≤ source.budget.maxPlanRows) ∧
        (∃ cost ∈ estimate (get root "Total Cost"), cost ≤ source.budget.maxPlanTotalCost) ∧
        (planNodes root).length ≤ source.budget.maxPlanNodes) ∧
    ∀ node ∈ planNodes root, ValidNode node → ∀ rows, get node "Plan Rows" = some (.int rows) →
      (rows ≤ 2 ^ 53 → integerRows node = rows) ∧
        ∀ limit : Nat, limit < 2 ^ 53 → (integerRows node ≤ limit ↔ rows ≤ limit) :=
  ⟨fun _ => summarizePlan_eq_ok, summarizePlan_eq_error,
    fun extra => summarizeLoop_fuel (by simp [stackObjects]) extra 0 0,
    fun _ h => summarizePlan_reordered h, fun _ => admitted_iff,
    fun _ _ hvalid _ h => integerRows_int hvalid h⟩

/-- A node without children. -/
def leafPlan (rows : Int) : PlanNode :=
  [("Total Cost", .int 10), ("Plan Rows", .int rows)]

/-- A root with these children. -/
def nestedPlan (children : List PlanValue) : PlanNode :=
  [("Total Cost", .float (.finite (169 / 4))), ("Plan Rows", .int 2), ("Plans", .list children)]

/-- The two orders of the children of a plan. -/
theorem summarizePlan_sees_every_node_nested :
    summarizePlan
      (nestedPlan [.dict (leafPlan 100), .dict (("Plans", .list [.dict (leafPlan 300)]) ::
      leafPlan 5)]) = .ok ⟨169 / 4, 300, 4⟩ ↔
    summarizePlan (nestedPlan [.dict (("Plans", .list [.dict (leafPlan 300)]) :: leafPlan 5),
      .dict (leafPlan 100)]) = .ok ⟨169 / 4, 300, 4⟩ :=
  (summarizePlan_sees_every_node _).2.2.2.1 _
    (@Reordered.entry [_, _] [] "Plans" _ _ (.items (.swap _ _ []))) _

/-- **An integer above `2 ^ 53` is rounded**: the largest estimate is not the integer of the
document. -/
theorem roundedRows :
    get [("Total Cost", .int 1), ("Plan Rows", .int 9007199254740993)] "Plan Rows" =
        some (.int 9007199254740993) ∧
      summarizePlan [("Total Cost", .int 1), ("Plan Rows", .int 9007199254740993)] =
        .ok ⟨1, 9007199254740992, 1⟩ := by
  refine ⟨rfl, ?_⟩
  decide +kernel

end QueryMan
