import Mathlib.Data.List.Sort
import Mathlib.Data.Prod.Lex
import Mathlib.Data.String.Basic
import QueryMan.Python.Dict
import QueryMan.Runtime.Startup

/-!
# The operational snapshot

`OperationalState` of `runtime/operations.py` with its dictionaries, and `snapshot`, which
`/metrics` and `/admin/health` show. A metric is shown exactly if something was added to it since it
was last cleared, with the sum of what was added; a total is a `float`, and the sum itself up to
`2 ^ 53`. The sources are those of the abstract `OperationalState`, which the dictionaries refine
(`Refines`). The snapshot does not depend on the order in which keys were inserted, nor, as long as
the totals are exact, on how the tasks that count took turns.
-/

namespace QueryMan

open Python

/-- The key of a metric: its name and its source. -/
abbrev MetricKey : Type :=
  String × Option String

/-- The value of a metric: a counter is an `int`, and a total a `float`. -/
inductive MetricValue where
  | int (value : Int)
  | float (value : ℚ)
  deriving DecidableEq, Repr

/-- A metric of a snapshot. -/
structure Metric where
  name : String
  sourceId : Option String
  value : MetricValue
  deriving DecidableEq, Repr

/-- What `snapshot` shows. -/
@[ext]
structure Snapshot where
  accepting : Bool
  sources : List (String × Health)
  metrics : List Metric
  deriving DecidableEq, Repr

/-- `OperationalState` with its dictionaries. The values that are observed are whole milliseconds.
-/
structure OperationalStore where
  counters : List (MetricKey × Int)
  totals : List (MetricKey × ℚ)
  sourceMetadataHealth : List (String × Health)
  sourceQueryHealth : List (String × Health)
  activeSources : Option (List String)
  accepting : Bool

/-- The values of a `defaultdict` of metrics: its default, and what `+=` makes of a value. -/
structure Adder (V : Type) where
  zero : V
  add : V → Int → V

/-- `defaultdict(int)`. -/
def intAdder : Adder Int :=
  ⟨0, (· + ·)⟩

/-- `defaultdict(float)`. -/
def floatAdder : Adder ℚ :=
  ⟨0, addFloat⟩

/-- What values add up to, one after the other. -/
def Adder.total {V : Type} (adder : Adder V) (values : List Int) : V :=
  values.foldl adder.add adder.zero

/-- `items[key] += value`. -/
def Adder.addItem {V : Type} (adder : Adder V) (key : MetricKey) (value : Int)
    (items : List (MetricKey × V)) : List (MetricKey × V) :=
  setItem id key (adder.add ((items.lookup key).getD adder.zero) value) items

/-- The metrics that `reconcile_sources` keeps. -/
def keepsMetric (active : List String) (key : MetricKey) : Bool :=
  match key.2 with
  | none => true
  | some sourceId => decide (sourceId ∈ active)

namespace OperationalStore

/-- `reset`, and `__init__`. -/
def initial : OperationalStore where
  counters := []
  totals := []
  sourceMetadataHealth := []
  sourceQueryHealth := []
  activeSources := none
  accepting := true

/-- `increment`. -/
def increment (s : OperationalStore) (name : String) (sourceId : Option String) (value : Int) :
    OperationalStore :=
  { s with counters := intAdder.addItem (name, sourceId) value s.counters }

/-- `observe`. -/
def observe (s : OperationalStore) (name : String) (value : Int) (sourceId : Option String) :
    OperationalStore :=
  { s with
    counters := intAdder.addItem (name ++ "_count", sourceId) 1 s.counters
    totals := floatAdder.addItem (name ++ "_sum", sourceId) value s.totals }

/-- The early return of both health setters. -/
def isInactive (s : OperationalStore) (sourceId : String) : Bool :=
  match s.activeSources with
  | some active => decide (sourceId ∉ active)
  | none => false

/-- `set_source_health`. -/
def setSourceHealth (s : OperationalStore) (sourceId : String) (status : Health) :
    OperationalStore :=
  if s.isInactive sourceId then s
  else { s with sourceMetadataHealth := setItem id sourceId status s.sourceMetadataHealth }

/-- `set_source_query_health`. -/
def setSourceQueryHealth (s : OperationalStore) (sourceId : String) (status : Health) :
    OperationalStore :=
  if s.isInactive sourceId then s
  else { s with sourceQueryHealth := setItem id sourceId status s.sourceQueryHealth }

/-- A health map that `reconcile_sources` makes. -/
def reconcileHealth (health : List (String × Health)) (default : Health) (active : List String) :
    List (String × Health) :=
  dictOf id (active.map fun sourceId => (sourceId, (health.lookup sourceId).getD default))

/-- `reconcile_sources`; `active` is the set in the order in which it is iterated. -/
def reconcileSources (s : OperationalStore) (active : List String) : OperationalStore :=
  { s with
    activeSources := some active
    sourceMetadataHealth := reconcileHealth s.sourceMetadataHealth .initializing active
    sourceQueryHealth := reconcileHealth s.sourceQueryHealth .healthy active
    counters := s.counters.filter fun item => keepsMetric active item.1
    totals := s.totals.filter fun item => keepsMetric active item.1 }

/-- `set_accepting`. -/
def setAccepting (s : OperationalStore) (accepting : Bool) : OperationalStore :=
  { s with accepting := accepting }

/-- `_aggregate_source_status`. -/
def aggregateSourceStatus (s : OperationalStore) (sourceId : String) : Health :=
  let metadata := s.sourceMetadataHealth.lookup sourceId
  let query := s.sourceQueryHealth.lookup sourceId
  if metadata = some .unavailable ∨ query = some .unavailable then .unavailable
  else if metadata = some .stale then .stale
  else if metadata = some .initializing ∨ query = some .initializing then .initializing
  else .healthy

/-- The keys of both health maps. -/
def sourceIds (s : OperationalStore) : List String :=
  s.sourceMetadataHealth.map (·.1) ∪ s.sourceQueryHealth.map (·.1)

/-- `_aggregate_source_health`. -/
def aggregateSourceHealth (s : OperationalStore) : List (String × Health) :=
  s.sourceIds.map fun sourceId => (sourceId, s.aggregateSourceStatus sourceId)

end OperationalStore

/-- The key by which `snapshot` sorts the metrics. -/
def sortKey (key : MetricKey) : String ×ₗ String :=
  toLex (key.1, key.2.getD "")

/-- The metrics of a dictionary. -/
def metricsOf {V : Type} (shown : V → MetricValue) (items : List (MetricKey × V)) : List Metric :=
  (items.mergeSort fun a b => sortKey a.1 ≤ sortKey b.1).map fun item =>
    ⟨item.1.1, item.1.2, shown item.2⟩

/-- `snapshot`. The sources have distinct ids, so that sorting their items never compares words. -/
def OperationalStore.snapshot (s : OperationalStore) : Snapshot where
  accepting := s.accepting
  sources := s.aggregateSourceHealth.mergeSort fun a b => a.1 ≤ b.1
  metrics := metricsOf .int s.counters ++ metricsOf .float s.totals

/-! ## Runs -/

/-- A write to the operational state. -/
inductive OperationsWrite where
  | reset
  | reconcileSources (active : List String)
  | call (call : OperationsCall)

/-- The source that a write names. -/
def OperationsWrite.sourceId : OperationsWrite → Option String
  | .call c => c.sourceId
  | .reset | .reconcileSources _ => none

namespace OperationalStore

/-- What a call does to the dictionaries. -/
def call (s : OperationalStore) : OperationsCall → OperationalStore
  | .increment name sourceId value => s.increment name sourceId value
  | .observe name value sourceId => s.observe name value sourceId
  | .setSourceHealth sourceId status => s.setSourceHealth sourceId status
  | .setSourceQueryHealth sourceId status => s.setSourceQueryHealth sourceId status
  | .setAccepting accepting => s.setAccepting accepting

/-- What a write does to the dictionaries. -/
def write (s : OperationalStore) : OperationsWrite → OperationalStore
  | .reset => initial
  | .reconcileSources active => s.reconcileSources active
  | .call call => s.call call

/-- The dictionaries behind writes. -/
def run (writes : List OperationsWrite) : OperationalStore :=
  writes.foldl write initial

end OperationalStore

namespace OperationalState

/-- What a write does to the state. -/
def write (s : OperationalState) : OperationsWrite → OperationalState
  | .reset => initial
  | .reconcileSources active => s.reconcileSources active
  | .call call => s.call call

/-- The state behind writes. -/
def run (writes : List OperationsWrite) : OperationalState :=
  writes.foldl write initial

end OperationalState

/-- What a call adds to a counter. -/
def counted : OperationsCall → Option (MetricKey × Int)
  | .increment name sourceId value => some ((name, sourceId), value)
  | .observe name _ sourceId => some ((name ++ "_count", sourceId), 1)
  | _ => none

/-- What a call adds to a total. -/
def totalled : OperationsCall → Option (MetricKey × Int)
  | .observe name value sourceId => some ((name ++ "_sum", sourceId), value)
  | _ => none

/-- What a call adds to a metric. -/
def addedBy (contribution : OperationsCall → Option (MetricKey × Int)) (key : MetricKey)
    (call : OperationsCall) : List Int :=
  match contribution call with
  | some (key', value) => if key = key' then [value] else []
  | none => []

/-- What was added to a metric since it was last cleared. -/
def added (contribution : OperationsCall → Option (MetricKey × Int)) (key : MetricKey)
    (writes : List OperationsWrite) : List Int :=
  writes.foldl
    (fun values write =>
      match write with
      | .reset => []
      | .reconcileSources active => if keepsMetric active key then values else []
      | .call call => values ++ addedBy contribution key call) []

/-! ## What a dictionary of metrics holds -/

/-- A dictionary of metrics holds the totals of what was added, under the keys to which something
was added. -/
structure Sums {V : Type} (adder : Adder V) (items : List (MetricKey × V))
    (values : MetricKey → List Int) : Prop where
  distinct : DistinctKeys id items
  lookup : ∀ key,
    items.lookup key = if values key = [] then none else some (adder.total (values key))

/-- A call on a dictionary of metrics. -/
def Adder.contribute {V : Type} (adder : Adder V) :
    Option (MetricKey × Int) → List (MetricKey × V) → List (MetricKey × V)
  | some (key, value), items => adder.addItem key value items
  | none, items => items

section
variable {V : Type} {adder : Adder V} {items : List (MetricKey × V)} {values : MetricKey → List Int}

theorem Sums.addItem (h : Sums adder items values) (key : MetricKey) (value : Int) :
    Sums adder (adder.addItem key value items)
      fun key' => values key' ++ if key' = key then [value] else [] where
  distinct := h.distinct.setItem
  lookup := fun key' => by
    rw [Adder.addItem, lookup_setItem]
    by_cases hkey : key' = key
    · subst hkey
      by_cases hnil : values key' = [] <;> simp [h.lookup, hnil, Adder.total]
    · simp [hkey, h.lookup]

theorem Sums.filter (h : Sums adder items values) (active : List String) :
    Sums adder (items.filter fun item => keepsMetric active item.1)
      fun key => if keepsMetric active key then values key else [] where
  distinct := List.Pairwise.filter _ h.distinct
  lookup := fun key => by
    rw [lookup_filter_key, h.lookup]
    by_cases hkeeps : keepsMetric active key <;> simp [hkeeps]

end

section
variable {contribution : OperationsCall → Option (MetricKey × Int)}

theorem added_concat (key : MetricKey) (writes : List OperationsWrite) (w : OperationsWrite) :
    added contribution key (writes ++ [w]) =
      match w with
      | .reset => []
      | .reconcileSources active =>
        if keepsMetric active key then added contribution key writes else []
      | .call call => added contribution key writes ++ addedBy contribution key call := by
  rw [added, List.foldl_append]
  rfl

theorem added_calls (key : MetricKey) (writes : List OperationsWrite) (l : List OperationsCall) :
    added contribution key (writes ++ l.map .call) =
      added contribution key writes ++ l.flatMap (addedBy contribution key) := by
  induction l using List.reverseRecOn with
  | nil => simp
  | append_singleton l call ih =>
    rw [List.map_append, List.map_singleton, ← List.append_assoc, added_concat, ih]
    simp [List.append_assoc]

theorem Sums.contribute {V : Type} {adder : Adder V} {items : List (MetricKey × V)}
    {values : MetricKey → List Int} (h : Sums adder items values) (call : OperationsCall) :
    Sums adder (adder.contribute (contribution call) items)
      fun key => values key ++ addedBy contribution key call := by
  unfold addedBy
  cases contribution call with
  | none => simpa [Adder.contribute] using h
  | some added => exact h.addItem added.1 added.2

/-- **A dictionary of metrics over a run**. -/
theorem sums_run {V : Type} {adder : Adder V} {select : OperationalStore → List (MetricKey × V)}
    (hinitial : select .initial = [])
    (hreconcile : ∀ s active, select (s.reconcileSources active) =
      (select s).filter fun item => keepsMetric active item.1)
    (hcall : ∀ s call, select (s.call call) = adder.contribute (contribution call) (select s))
    (writes : List OperationsWrite) :
    Sums adder (select (.run writes)) fun key => added contribution key writes := by
  have hempty : Sums adder (select .initial) fun _ => [] := by
    rw [hinitial]
    exact ⟨List.Pairwise.nil, fun _ => rfl⟩
  induction writes using List.reverseRecOn with
  | nil => exact hempty
  | append_singleton writes w ih =>
    have hrun : OperationalStore.run (writes ++ [w]) = (OperationalStore.run writes).write w := by
      rw [OperationalStore.run, List.foldl_append]
      rfl
    simp only [hrun, added_concat]
    cases w with
    | reset => exact hempty
    | reconcileSources active =>
      rw [OperationalStore.write, hreconcile]
      exact ih.filter active
    | call call =>
      rw [OperationalStore.write, hcall]
      exact ih.contribute call

end

theorem sums_counters (writes : List OperationsWrite) :
    Sums intAdder (OperationalStore.run writes).counters fun key => added counted key writes := by
  refine sums_run rfl (fun _ _ => rfl) (fun s call => ?_) writes
  cases call with
  | setSourceHealth sourceId status =>
    show (s.setSourceHealth sourceId status).counters = s.counters
    unfold OperationalStore.setSourceHealth
    split <;> rfl
  | setSourceQueryHealth sourceId status =>
    show (s.setSourceQueryHealth sourceId status).counters = s.counters
    unfold OperationalStore.setSourceQueryHealth
    split <;> rfl
  | _ => rfl

theorem sums_totals (writes : List OperationsWrite) :
    Sums floatAdder (OperationalStore.run writes).totals
      fun key => added totalled key writes := by
  refine sums_run rfl (fun _ _ => rfl) (fun s call => ?_) writes
  cases call with
  | setSourceHealth sourceId status =>
    show (s.setSourceHealth sourceId status).totals = s.totals
    unfold OperationalStore.setSourceHealth
    split <;> rfl
  | setSourceQueryHealth sourceId status =>
    show (s.setSourceQueryHealth sourceId status).totals = s.totals
    unfold OperationalStore.setSourceQueryHealth
    split <;> rfl
  | _ => rfl

/-! ## What a snapshot lists -/

/-- The key of a metric. -/
def Metric.key (m : Metric) : MetricKey :=
  (m.name, m.sourceId)

/-- A list of metrics in increasing order, with those to which something was added. -/
structure Lists (total : List Int → MetricValue) (metrics : List Metric)
    (values : MetricKey → List Int) : Prop where
  increasing : metrics.Pairwise fun m m' => sortKey m.key < sortKey m'.key
  shown : ∀ m, m ∈ metrics ↔ values m.key ≠ [] ∧ m.value = total (values m.key)

/-- Keys are told apart by what they are sorted by, if no source has an empty id. -/
theorem sortKey_inj {key key' : MetricKey} (h : key.2 ≠ some "") (h' : key'.2 ≠ some "")
    (heq : sortKey key = sortKey key') : key = key' := by
  obtain ⟨name, sourceId⟩ := key
  obtain ⟨name', sourceId'⟩ := key'
  obtain ⟨hname, hsource⟩ := Prod.mk.inj (toLex_inj.1 heq)
  dsimp only at h h' hname hsource
  cases sourceId with
  | none =>
    cases sourceId' with
    | none => rw [hname]
    | some id' => exact absurd (congrArg some hsource.symm) h'
  | some id =>
    cases sourceId' with
    | none => exact absurd (congrArg some hsource) h
    | some id' =>
      have hid : id = id' := hsource
      rw [hname, hid]

theorem lists_metricsOf {V : Type} {adder : Adder V} {shown : V → MetricValue}
    {items : List (MetricKey × V)} {values : MetricKey → List Int} (h : Sums adder items values)
    (hids : ∀ key, values key ≠ [] → key.2 ≠ some "") :
    Lists (fun values => shown (adder.total values)) (metricsOf shown items) values := by
  have hitem : ∀ key value, (key, value) ∈ items ↔
      values key ≠ [] ∧ value = adder.total (values key) := fun key value => by
    rw [mem_iff_lookup h.distinct, h.lookup]
    by_cases hnil : values key = [] <;> simp [hnil, eq_comm]
  have hkeys : (items.map fun item => sortKey item.1).Nodup := by
    refine List.pairwise_map.2 (h.distinct.imp_of_mem fun {item item'} hmem hmem' hne heq => ?_)
    exact hne (sortKey_inj (hids item.1 ((hitem item.1 item.2).1 hmem).1)
      (hids item'.1 ((hitem item'.1 item'.2).1 hmem').1) heq)
  refine ⟨List.pairwise_map.2 (pairwise_lt_mergeSort hkeys), fun m => ?_⟩
  rw [metricsOf, List.mem_map]
  constructor
  · intro hmem
    obtain ⟨item, hmem, rfl⟩ := hmem
    obtain ⟨hadded, hvalue⟩ := (hitem item.1 item.2).1 (List.mem_mergeSort.1 hmem)
    exact ⟨hadded, congrArg shown hvalue⟩
  · intro hshown
    obtain ⟨hadded, hvalue⟩ := hshown
    refine ⟨(m.key, adder.total (values m.key)),
      List.mem_mergeSort.2 ((hitem m.key _).2 ⟨hadded, rfl⟩), ?_⟩
    rw [← hvalue]
    rfl

/-- What was added determines the list. -/
theorem Lists.unique {total : List Int → MetricValue} {metrics metrics' : List Metric}
    {values values' : MetricKey → List Int} (h : Lists total metrics values)
    (h' : Lists total metrics' values') (hperm : ∀ key, (values key).Perm (values' key))
    (htotal : ∀ key, total (values key) = total (values' key)) : metrics = metrics' := by
  refine eq_of_increasing h.increasing h'.increasing fun m => ?_
  rw [h.shown, h'.shown, htotal, Ne, Ne, ← List.length_eq_zero_iff,
    ← List.length_eq_zero_iff, (hperm m.key).length_eq]

/-- Nothing is added for a source that no write names. -/
theorem source_of_added {contribution : OperationsCall → Option (MetricKey × Int)}
    (hsource : ∀ call key value, contribution call = some (key, value) → key.2 = call.sourceId)
    {sourceId : Option String} {writes : List OperationsWrite}
    (h : ∀ w ∈ writes, w.sourceId ≠ sourceId) {key : MetricKey} (hkey : key.2 = sourceId) :
    added contribution key writes = [] := by
  induction writes using List.reverseRecOn with
  | nil => rfl
  | append_singleton writes w ih =>
    have hwrites : added contribution key writes = [] :=
      ih fun w' hw' => h w' (List.mem_append_left _ hw')
    have hlast := h w (List.mem_append_right _ (List.mem_singleton.2 rfl))
    rw [added_concat]
    cases w with
    | reset => rfl
    | reconcileSources active =>
      dsimp only
      rw [hwrites, ite_self]
    | call call =>
      dsimp only
      rw [hwrites, addedBy, List.nil_append]
      cases hadded : contribution call with
      | none => rfl
      | some added =>
        have hcall := hsource call added.1 added.2 hadded
        refine if_neg fun heq => hlast ?_
        rw [← hkey, heq, hcall]
        rfl

theorem source_of_counted (call : OperationsCall) (key : MetricKey) (value : Int)
    (h : counted call = some (key, value)) : key.2 = call.sourceId := by
  cases call with
  | increment | observe =>
    cases h
    rfl
  | _ => cases h

theorem source_of_totalled (call : OperationsCall) (key : MetricKey) (value : Int)
    (h : totalled call = some (key, value)) : key.2 = call.sourceId := by
  cases call with
  | observe =>
    cases h
    rfl
  | _ => cases h

/-! ## The dictionaries refine the state -/

/-- The dictionaries of a state. -/
structure Refines (store : OperationalStore) (state : OperationalState) : Prop where
  distinctMetadata : DistinctKeys id store.sourceMetadataHealth
  distinctQuery : DistinctKeys id store.sourceQueryHealth
  metadata : ∀ sourceId,
    store.sourceMetadataHealth.lookup sourceId = state.sourceMetadataHealth.lookup sourceId
  query : ∀ sourceId,
    store.sourceQueryHealth.lookup sourceId = state.sourceQueryHealth.lookup sourceId
  active : state.activeSources = store.activeSources.map List.toFinset
  accepting : store.accepting = state.accepting
  counters : ∀ name sourceId,
    (store.counters.lookup (name, sourceId)).getD 0 = state.counters name sourceId
  totals : ∀ name sourceId,
    (store.totals.lookup (name, sourceId)).getD 0 = state.totals name sourceId

section
variable {store : OperationalStore} {state : OperationalState}

theorem refines_initial : Refines .initial .initial where
  distinctMetadata := List.Pairwise.nil
  distinctQuery := List.Pairwise.nil
  metadata := fun _ => rfl
  query := fun _ => rfl
  active := rfl
  accepting := rfl
  counters := fun _ _ => rfl
  totals := fun _ _ => rfl

theorem getD_lookup_addItem {V : Type} (adder : Adder V) (key key' : MetricKey) (value : Int)
    (items : List (MetricKey × V)) :
    ((adder.addItem key value items).lookup key').getD adder.zero =
      if key' = key then adder.add ((items.lookup key').getD adder.zero) value
      else (items.lookup key').getD adder.zero := by
  rw [Adder.addItem, lookup_setItem]
  by_cases hkey : key' = key <;> simp [hkey]

theorem Refines.increment (h : Refines store state) (name : String) (sourceId : Option String)
    (value : Int) :
    Refines (store.increment name sourceId value) (state.increment name sourceId value) :=
  { h with
    counters := fun name' sourceId' => by
      refine (getD_lookup_addItem intAdder _ _ _ _).trans ?_
      show (if _ then (store.counters.lookup _).getD 0 + _ else (store.counters.lookup _).getD 0) =
        if _ then _ else _
      rw [h.counters]
      simp only [Prod.mk_inj] }

theorem Refines.observe (h : Refines store state) (name : String) (value : Int)
    (sourceId : Option String) :
    Refines (store.observe name value sourceId) (state.observe name value sourceId) :=
  { h with
    counters := (h.increment (name ++ "_count") sourceId 1).counters
    totals := fun name' sourceId' => by
      refine (getD_lookup_addItem floatAdder _ _ _ _).trans ?_
      show (if _ then addFloat ((store.totals.lookup _).getD 0) _
        else (store.totals.lookup _).getD 0) = if _ then _ else _
      rw [h.totals]
      simp only [Prod.mk_inj] }

theorem Refines.isInactive (h : Refines store state) (sourceId : String) :
    state.isInactive sourceId = store.isInactive sourceId := by
  rw [OperationalState.isInactive, h.active, OperationalStore.isInactive]
  cases store.activeSources with
  | none => rfl
  | some active => simp

/-- A write to a health map. -/
theorem lookup_insert_eq (health : HealthMap) (sourceId sourceId' : String) (status : Health) :
    (health.insert sourceId status).lookup sourceId' =
      if sourceId' = sourceId then some status else health.lookup sourceId' := by
  by_cases hid : sourceId' = sourceId
  · rw [if_pos hid, hid, AList.lookup_insert]
  · rw [if_neg hid, AList.lookup_insert_ne hid]

theorem Refines.setSourceHealth (h : Refines store state) (sourceId : String) (status : Health) :
    Refines (store.setSourceHealth sourceId status) (state.setSourceHealth sourceId status) := by
  rw [OperationalStore.setSourceHealth, OperationalState.setSourceHealth, h.isInactive]
  split
  · exact h
  · exact { h with
      distinctMetadata := h.distinctMetadata.setItem
      metadata := fun sourceId' => by
        rw [lookup_setItem, lookup_insert_eq, h.metadata] }

theorem Refines.setSourceQueryHealth (h : Refines store state) (sourceId : String)
    (status : Health) :
    Refines (store.setSourceQueryHealth sourceId status)
      (state.setSourceQueryHealth sourceId status) := by
  rw [OperationalStore.setSourceQueryHealth, OperationalState.setSourceQueryHealth, h.isInactive]
  split
  · exact h
  · exact { h with
      distinctQuery := h.distinctQuery.setItem
      query := fun sourceId' => by
        rw [lookup_setItem, lookup_insert_eq, h.query] }

/-- A health map behind `reconcile_sources`. -/
theorem lookup_reconcileHealth (health : HealthMap) (default : Health) (active : List String)
    (sourceId : String) :
    (OperationalState.reconcileHealth health default active).lookup sourceId =
      if sourceId ∈ active then some ((health.lookup sourceId).getD default) else none := by
  unfold OperationalState.reconcileHealth
  induction active using List.reverseRecOn with
  | nil => rfl
  | append_singleton active last ih =>
    rw [List.foldl_append, List.foldl_cons, List.foldl_nil, lookup_insert_eq, ih]
    by_cases hid : sourceId = last
    · subst hid
      simp
    · simp [hid]

theorem Refines.reconcileSources (h : Refines store state) (active : List String) :
    Refines (store.reconcileSources active) (state.reconcileSources active) where
  distinctMetadata := distinctKeys_dictOf _ _
  distinctQuery := distinctKeys_dictOf _ _
  metadata := fun sourceId => by
    show (dictOf id _).lookup sourceId = _
    rw [lookup_dictOf_map, h.metadata]
    exact (lookup_reconcileHealth _ _ active sourceId).symm
  query := fun sourceId => by
    show (dictOf id _).lookup sourceId = _
    rw [lookup_dictOf_map, h.query]
    exact (lookup_reconcileHealth _ _ active sourceId).symm
  active := rfl
  accepting := h.accepting
  counters := fun name sourceId => by
    show ((store.counters.filter fun item => keepsMetric active item.1).lookup _).getD 0 = _
    rw [lookup_filter_key]
    cases sourceId with
    | none => exact h.counters name none
    | some id =>
      by_cases hid : id ∈ active
      · simpa [keepsMetric, OperationalState.reconcileSources, hid] using h.counters name (some id)
      · simp [keepsMetric, OperationalState.reconcileSources, hid]
  totals := fun name sourceId => by
    show ((store.totals.filter fun item => keepsMetric active item.1).lookup _).getD 0 = _
    rw [lookup_filter_key]
    cases sourceId with
    | none => exact h.totals name none
    | some id =>
      by_cases hid : id ∈ active
      · simpa [keepsMetric, OperationalState.reconcileSources, hid] using h.totals name (some id)
      · simp [keepsMetric, OperationalState.reconcileSources, hid]

theorem Refines.call (h : Refines store state) (c : OperationsCall) :
    Refines (store.call c) (state.call c) := by
  cases c with
  | increment name sourceId value => exact h.increment name sourceId value
  | observe name value sourceId => exact h.observe name value sourceId
  | setSourceHealth sourceId status => exact h.setSourceHealth sourceId status
  | setSourceQueryHealth sourceId status => exact h.setSourceQueryHealth sourceId status
  | setAccepting accepting => exact { h with accepting := rfl }

/-- **The dictionaries refine the state** over every run. -/
theorem refines_run (writes : List OperationsWrite) :
    Refines (OperationalStore.run writes) (OperationalState.run writes) := by
  unfold OperationalStore.run OperationalState.run
  induction writes using List.reverseRecOn with
  | nil => exact refines_initial
  | append_singleton writes w ih =>
    rw [List.foldl_append, List.foldl_append]
    cases w with
    | reset => exact refines_initial
    | reconcileSources active => exact ih.reconcileSources active
    | call c => exact ih.call c

/-! ## The sources of a snapshot -/

theorem Refines.aggregateSourceStatus (h : Refines store state) (sourceId : String) :
    store.aggregateSourceStatus sourceId = state.aggregateSourceStatus sourceId := by
  rw [OperationalStore.aggregateSourceStatus, OperationalState.aggregateSourceStatus, h.metadata,
    h.query]

theorem Refines.mem_sourceIds (h : Refines store state) (sourceId : String) :
    sourceId ∈ store.sourceIds ↔ state.Tracked sourceId := by
  have hkeys : ∀ {items : List (String × Health)} {health : HealthMap}, DistinctKeys id items →
      (∀ sourceId, items.lookup sourceId = health.lookup sourceId) →
        (sourceId ∈ items.map (·.1) ↔ sourceId ∈ health) := by
    intro items health hdistinct hlookup
    rw [← AList.lookup_isSome, ← hlookup, Option.isSome_iff_exists, List.mem_map]
    constructor
    · intro hmem
      obtain ⟨item, hmem, rfl⟩ := hmem
      exact ⟨item.2, (mem_iff_lookup hdistinct).1 hmem⟩
    · intro hsome
      obtain ⟨status, hstatus⟩ := hsome
      exact ⟨(sourceId, status), (mem_iff_lookup hdistinct).2 hstatus, rfl⟩
  rw [OperationalStore.sourceIds, List.mem_union_iff, hkeys h.distinctMetadata h.metadata,
    hkeys h.distinctQuery h.query]
  rfl

/-- The sources are those of the state. -/
theorem Refines.mem_sources (h : Refines store state) (sourceId : String) (status : Health) :
    (sourceId, status) ∈ store.snapshot.sources ↔
      state.Tracked sourceId ∧ status = state.aggregateSourceStatus sourceId := by
  show (sourceId, status) ∈ store.aggregateSourceHealth.mergeSort _ ↔ _
  rw [List.mem_mergeSort, OperationalStore.aggregateSourceHealth, List.mem_map,
    ← h.mem_sourceIds, ← h.aggregateSourceStatus]
  constructor
  · intro hmem
    obtain ⟨sourceId', hmem, heq⟩ := hmem
    cases heq
    exact ⟨hmem, rfl⟩
  · intro hmem
    obtain ⟨hmem, rfl⟩ := hmem
    exact ⟨sourceId, hmem, rfl⟩

/-- The sources are sorted by their ids. -/
theorem Refines.sources_increasing (h : Refines store state) :
    store.snapshot.sources.Pairwise fun a b => a.1 < b.1 := by
  refine pairwise_lt_mergeSort ?_
  rw [OperationalStore.aggregateSourceHealth, List.map_map]
  show (store.sourceIds.map id).Nodup
  rw [List.map_id]
  exact List.Nodup.union _ (List.pairwise_map.2 h.distinctQuery)

end

/-! ## The snapshot of a run -/

/-- What a snapshot shows of a run. -/
structure Snapshot.Shows (snapshot : Snapshot) (writes : List OperationsWrite) : Prop where
  accepting : snapshot.accepting = (OperationalState.run writes).accepting
  /-- each source once, with its status -/
  increasing : snapshot.sources.Pairwise fun a b => a.1 < b.1
  sources : ∀ sourceId status, (sourceId, status) ∈ snapshot.sources ↔
    (OperationalState.run writes).Tracked sourceId ∧
      status = (OperationalState.run writes).aggregateSourceStatus sourceId
  /-- each metric once, with the sum of what was added -/
  metrics : ∃ counters totals, snapshot.metrics = counters ++ totals ∧
    Lists (fun values => .int values.sum) counters (fun key => added counted key writes) ∧
    Lists (fun values => .float (floatSum values)) totals (fun key => added totalled key writes)
  /-- a total is exact as long as it cannot have passed `2 ^ 53` -/
  exact : ∀ key, magnitude (added totalled key writes) ≤ 2 ^ 53 →
    floatSum (added totalled key writes) = (added totalled key writes).sum

theorem lists_counters {writes : List OperationsWrite}
    (h : ∀ w ∈ writes, w.sourceId ≠ some "") :
    Lists (fun values => .int values.sum) (metricsOf .int (OperationalStore.run writes).counters)
      fun key => added counted key writes := by
  have htotal : ∀ values : List Int, intAdder.total values = values.sum :=
    fun values => List.sum_eq_foldl.symm
  simp only [← htotal]
  exact lists_metricsOf (sums_counters writes) fun _ hadded hkey =>
    hadded (source_of_added source_of_counted h hkey)

theorem lists_totals {writes : List OperationsWrite} (h : ∀ w ∈ writes, w.sourceId ≠ some "") :
    Lists (fun values => .float (floatSum values))
      (metricsOf .float (OperationalStore.run writes).totals)
      fun key => added totalled key writes :=
  lists_metricsOf (sums_totals writes) fun _ hadded hkey =>
    hadded (source_of_added source_of_totalled h hkey)

/-- **A snapshot shows what was written**: after any writes, each metric to which something was
added since it was last cleared, with the sum, up to the rounding of the totals above `2 ^ 53`, and
each source that is tracked, with its status; all in increasing order, and nothing else. -/
theorem snapshot_shows {writes : List OperationsWrite}
    (h : ∀ w ∈ writes, w.sourceId ≠ some "") :
    (OperationalStore.run writes).snapshot.Shows writes where
  accepting := (refines_run writes).accepting
  increasing := (refines_run writes).sources_increasing
  sources := (refines_run writes).mem_sources
  metrics := ⟨_, _, rfl, lists_counters h, lists_totals h⟩
  exact := fun _ hmagnitude => floatSum_eq_sum hmagnitude

/-! ## Interleavings -/

/-- A call that counts. -/
def OperationsCall.counts : OperationsCall → Bool
  | .increment .. | .observe .. => true
  | _ => false

theorem counted_of_not_counts (c : OperationsCall) (h : c.counts = false) : counted c = none := by
  cases c with
  | increment | observe => cases h
  | _ => rfl

theorem totalled_of_not_counts (c : OperationsCall) (h : c.counts = false) :
    totalled c = none := by
  cases c with
  | observe => cases h
  | _ => rfl

/-- The other calls for a source, or for none, in their order. -/
def settings (sourceId : Option String) (l : List OperationsCall) : List OperationsCall :=
  l.filter fun call => !call.counts && decide (call.sourceId = sourceId)

/-- What a call leaves as the query word of a source. -/
def queryWord (sourceId : String) (word : Option Health) : OperationsCall → Option Health
  | .setSourceQueryHealth id status => if id = sourceId then some status else word
  | _ => word

/-- What a call leaves of whether the process accepts. -/
def acceptingWord (accepting : Bool) : OperationsCall → Bool
  | .setAccepting accepting' => accepting'
  | _ => accepting

/-- Calls that leave a word alone may be dropped. -/
theorem foldl_settings {β : Type} {word : β → OperationsCall → β} {sourceId : Option String}
    (h : ∀ b call, call.counts = true ∨ call.sourceId ≠ sourceId → word b call = b)
    (l : List OperationsCall) (b : β) : (settings sourceId l).foldl word b = l.foldl word b := by
  induction l generalizing b with
  | nil => rfl
  | cons call l ih =>
    rw [settings, List.filter_cons]
    split
    · exact ih (word b call)
    · next hcall =>
      have hneutral : word b call = b := by
        refine h b call ?_
        by_cases hcounts : call.counts = true
        · exact .inl hcounts
        · exact .inr fun heq => hcall (by simp [hcounts, heq])
      rw [List.foldl_cons, hneutral]
      exact ih b

namespace OperationalState

/-- No call changes which sources are registered. -/
theorem isInactive_call (s : OperationalState) (c : OperationsCall) (sourceId : String) :
    (s.call c).isInactive sourceId = s.isInactive sourceId := by
  have hactive : (s.call c).activeSources = s.activeSources := by
    cases c with
    | setSourceHealth id status =>
      rw [call, setSourceHealth]
      split <;> rfl
    | setSourceQueryHealth id status =>
      rw [call, setSourceQueryHealth]
      split <;> rfl
    | _ => rfl
  rw [isInactive, isInactive, hactive]

theorem lookup_metadata_call (s : OperationalState) (c : OperationsCall) (sourceId : String) :
    (s.call c).sourceMetadataHealth.lookup sourceId =
      if s.isInactive sourceId then s.sourceMetadataHealth.lookup sourceId
      else metadataWord sourceId (s.sourceMetadataHealth.lookup sourceId) c := by
  cases c with
  | setSourceHealth id status =>
    rw [call, setSourceHealth, metadataWord]
    by_cases hid : id = sourceId
    · subst hid
      by_cases hinactive : s.isInactive id <;> simp [hinactive]
    · by_cases hinactive : s.isInactive id <;> simp [hinactive, hid, Ne.symm hid]
  | setSourceQueryHealth id status =>
    have hsame : (s.call (.setSourceQueryHealth id status)).sourceMetadataHealth =
        s.sourceMetadataHealth := by
      rw [call, setSourceQueryHealth]
      split <;> rfl
    rw [hsame]
    exact (ite_self _).symm
  | _ => exact (ite_self _).symm

theorem lookup_query_call (s : OperationalState) (c : OperationsCall) (sourceId : String) :
    (s.call c).sourceQueryHealth.lookup sourceId =
      if s.isInactive sourceId then s.sourceQueryHealth.lookup sourceId
      else queryWord sourceId (s.sourceQueryHealth.lookup sourceId) c := by
  cases c with
  | setSourceQueryHealth id status =>
    rw [call, setSourceQueryHealth, queryWord]
    by_cases hid : id = sourceId
    · subst hid
      by_cases hinactive : s.isInactive id <;> simp [hinactive]
    · by_cases hinactive : s.isInactive id <;> simp [hinactive, hid, Ne.symm hid]
  | setSourceHealth id status =>
    have hsame : (s.call (.setSourceHealth id status)).sourceQueryHealth =
        s.sourceQueryHealth := by
      rw [call, setSourceHealth]
      split <;> rfl
    rw [hsame]
    exact (ite_self _).symm
  | _ => exact (ite_self _).symm

section
variable {select : OperationalState → HealthMap}
  {word : String → Option Health → OperationsCall → Option Health}

/-- A word of a source behind calls. -/
theorem lookup_words
    (hstep : ∀ s c sourceId, (select (s.call c)).lookup sourceId =
      if s.isInactive sourceId then (select s).lookup sourceId
      else word sourceId ((select s).lookup sourceId) c)
    (s : OperationalState) (l : List OperationsCall) (sourceId : String) :
    (select (s.calls l)).lookup sourceId =
      if s.isInactive sourceId then (select s).lookup sourceId
      else l.foldl (word sourceId) ((select s).lookup sourceId) := by
  induction l generalizing s with
  | nil => exact (ite_self _).symm
  | cons c l ih =>
    refine (ih (s.call c)).trans ?_
    rw [isInactive_call, hstep, List.foldl_cons]
    by_cases hinactive : s.isInactive sourceId <;> simp [hinactive]

/-- The order between the calls of different sources does not matter to a word. -/
theorem lookup_interleaving
    (hstep : ∀ s c sourceId, (select (s.call c)).lookup sourceId =
      if s.isInactive sourceId then (select s).lookup sourceId
      else word sourceId ((select s).lookup sourceId) c)
    (hneutral : ∀ sourceId b c, c.counts = true ∨ c.sourceId ≠ some sourceId →
      word sourceId b c = b)
    {l l' : List OperationsCall}
    (hsettings : ∀ sourceId, settings sourceId l = settings sourceId l')
    (s : OperationalState) (sourceId : String) :
    (select (s.calls l)).lookup sourceId = (select (s.calls l')).lookup sourceId := by
  rw [lookup_words hstep, lookup_words hstep, ← foldl_settings (hneutral sourceId) l,
    ← foldl_settings (hneutral sourceId) l', hsettings]

end

theorem accepting_calls (s : OperationalState) (l : List OperationsCall) :
    (s.calls l).accepting = l.foldl acceptingWord s.accepting := by
  induction l generalizing s with
  | nil => rfl
  | cons c l ih =>
    have hcall : (s.call c).accepting = acceptingWord s.accepting c := by
      cases c with
      | setSourceHealth id status =>
        rw [call, setSourceHealth]
        split <;> rfl
      | setSourceQueryHealth id status =>
        rw [call, setSourceQueryHealth]
        split <;> rfl
      | _ => rfl
    rw [List.foldl_cons, ← hcall]
    exact ih (s.call c)

theorem run_calls (writes : List OperationsWrite) (l : List OperationsCall) :
    run (writes ++ l.map .call) = (run writes).calls l := by
  rw [run, List.foldl_append, List.foldl_map]
  rfl

end OperationalState

theorem metadataWord_neutral (sourceId : String) (word : Option Health) (c : OperationsCall)
    (h : c.counts = true ∨ c.sourceId ≠ some sourceId) :
    OperationalState.metadataWord sourceId word c = word := by
  cases c with
  | setSourceHealth id status =>
    rw [OperationalState.metadataWord]
    exact if_neg fun heq =>
      h.elim (absurd · Bool.false_ne_true) fun hne => hne (congrArg some heq)
  | _ => rfl

theorem queryWord_neutral (sourceId : String) (word : Option Health) (c : OperationsCall)
    (h : c.counts = true ∨ c.sourceId ≠ some sourceId) : queryWord sourceId word c = word := by
  cases c with
  | setSourceQueryHealth id status =>
    rw [queryWord]
    exact if_neg fun heq =>
      h.elim (absurd · Bool.false_ne_true) fun hne => hne (congrArg some heq)
  | _ => rfl

theorem acceptingWord_neutral (accepting : Bool) (c : OperationsCall)
    (h : c.counts = true ∨ c.sourceId ≠ none) : acceptingWord accepting c = accepting := by
  cases c with
  | setAccepting accepting' => exact h.elim nofun fun hne => absurd rfl hne
  | _ => rfl

section
variable {l l' : List OperationsCall}

/-- What is added does not depend on the order of the calls. -/
theorem added_interleaving {contribution : OperationsCall → Option (MetricKey × Int)}
    (hcounts : ∀ c, c.counts = false → contribution c = none)
    (hperm : (l.filter (·.counts)).Perm (l'.filter (·.counts))) (key : MetricKey)
    (writes : List OperationsWrite) :
    (added contribution key (writes ++ l.map .call)).Perm
      (added contribution key (writes ++ l'.map .call)) := by
  have hfilter : ∀ l : List OperationsCall,
      (l.filter (·.counts)).flatMap (addedBy contribution key) =
        l.flatMap (addedBy contribution key) := by
    intro l
    induction l with
    | nil => rfl
    | cons c l ih =>
      by_cases hc : c.counts = true
      · rw [List.filter_cons_of_pos hc, List.flatMap_cons, List.flatMap_cons, ih]
      · rw [List.filter_cons_of_neg hc, List.flatMap_cons, ih, addedBy,
          hcounts c (by simpa using hc), List.nil_append]
  rw [added_calls, added_calls, ← hfilter l, ← hfilter l']
  exact (hperm.flatMap_right _).append_left _

theorem mem_of_interleaving (hperm : (l.filter (·.counts)).Perm (l'.filter (·.counts)))
    (hsettings : ∀ sourceId, settings sourceId l = settings sourceId l') {c : OperationsCall}
    (hc : c ∈ l') : c ∈ l := by
  by_cases hcounts : c.counts = true
  · have hmem : c ∈ l.filter (·.counts) := hperm.mem_iff.2 (List.mem_filter.2 ⟨hc, hcounts⟩)
    exact (List.mem_filter.1 hmem).1
  · have hmem : c ∈ settings c.sourceId l := by
      rw [hsettings]
      exact List.mem_filter.2 ⟨hc, by simp [hcounts]⟩
    exact (List.mem_filter.1 hmem).1

/-- **The snapshot does not depend on how the tasks took turns**: calls that count may come in any
order as long as no total can have passed `2 ^ 53`, and the other calls may be interleaved in any
way that keeps those for one source in their order. -/
theorem snapshot_interleaving {writes : List OperationsWrite}
    (hwrites : ∀ w ∈ writes, w.sourceId ≠ some "") (hl : ∀ c ∈ l, c.sourceId ≠ some "")
    (hexact : ∀ key, magnitude (added totalled key (writes ++ l.map .call)) ≤ 2 ^ 53)
    (hperm : (l.filter (·.counts)).Perm (l'.filter (·.counts)))
    (hsettings : ∀ sourceId, settings sourceId l = settings sourceId l') :
    (OperationalStore.run (writes ++ l.map .call)).snapshot =
      (OperationalStore.run (writes ++ l'.map .call)).snapshot := by
  have hids : ∀ {l : List OperationsCall}, (∀ c ∈ l, c.sourceId ≠ some "") →
      ∀ w ∈ writes ++ l.map .call, w.sourceId ≠ some "" := by
    intro l hl w hw
    rcases List.mem_append.1 hw with hw | hw
    · exact hwrites w hw
    · obtain ⟨c, hc, rfl⟩ := List.mem_map.1 hw
      exact hl c hc
  have hids' := hids fun c hc => hl c (mem_of_interleaving hperm hsettings hc)
  have hrefines := refines_run (writes ++ l.map .call)
  have hrefines' := refines_run (writes ++ l'.map .call)
  rw [OperationalState.run_calls] at hrefines hrefines'
  have hmetadata := OperationalState.lookup_interleaving OperationalState.lookup_metadata_call
    metadataWord_neutral hsettings (OperationalState.run writes)
  have hquery := OperationalState.lookup_interleaving OperationalState.lookup_query_call
    queryWord_neutral hsettings (OperationalState.run writes)
  refine Snapshot.ext ?_ ?_ ?_
  · show (OperationalStore.run _).accepting = (OperationalStore.run _).accepting
    rw [hrefines.accepting, hrefines'.accepting, OperationalState.accepting_calls,
      OperationalState.accepting_calls, ← foldl_settings acceptingWord_neutral l,
      ← foldl_settings acceptingWord_neutral l', hsettings]
  · refine eq_of_increasing hrefines.sources_increasing hrefines'.sources_increasing
      fun source => ?_
    rw [hrefines.mem_sources, hrefines'.mem_sources]
    simp only [OperationalState.Tracked, OperationalState.aggregateSourceStatus,
      ← AList.lookup_isSome, hmetadata, hquery]
  · have hcounted := fun key => added_interleaving counted_of_not_counts hperm key writes
    have htotalled := fun key => added_interleaving totalled_of_not_counts hperm key writes
    have hcounters := (lists_counters (hids hl)).unique (lists_counters hids') hcounted
      fun key => congrArg MetricValue.int (hcounted key).sum_eq
    have htotals := (lists_totals (hids hl)).unique (lists_totals hids') htotalled
      fun key => congrArg MetricValue.float (floatSum_perm (hexact key) (htotalled key))
    show metricsOf _ _ ++ metricsOf _ _ = metricsOf _ _ ++ metricsOf _ _
    rw [hcounters, htotals]

end

/-! ### Two sources -/

/-- The writes of a new process with two sources. -/
def twoSources : List OperationsWrite :=
  [.reset, .reconcileSources ["orders", "stock"]]

/-- A query that waits for its turn, and one that is rejected. -/
def twoQueries : List OperationsCall :=
  [.setSourceHealth "orders" .healthy, .increment "query_rejected" (some "orders") 1,
    .setSourceHealth "stock" .stale, .observe "query_queue_ms" 3 (some "stock"),
    .observe "query_queue_ms" 4 (some "stock")]

/-- The same calls in another order. -/
def twoQueriesTurned : List OperationsCall :=
  [.observe "query_queue_ms" 4 (some "stock"), .setSourceHealth "stock" .stale,
    .observe "query_queue_ms" 3 (some "stock"), .setSourceHealth "orders" .healthy,
    .increment "query_rejected" (some "orders") 1]

/-- The snapshot with the rejected query, and with the two waits of three and four milliseconds. -/
theorem snapshot_shows_twoSources :
    (OperationalStore.run (twoSources ++ twoQueries.map .call)).snapshot.Shows
      (twoSources ++ twoQueries.map .call) ∧
    [⟨"query_queue_ms_count", some "stock", .int 2⟩, ⟨"query_rejected", some "orders", .int 1⟩,
      ⟨"query_queue_ms_sum", some "stock", .float 7⟩] ⊆
        (OperationalStore.run (twoSources ++ twoQueries.map .call)).snapshot.metrics := by
  have hshows := @snapshot_shows (twoSources ++ twoQueries.map .call) (by decide)
  obtain ⟨counters, totals, hmetrics, hcounters, htotals⟩ := hshows.metrics
  refine ⟨hshows, fun m hm => ?_⟩
  rw [hmetrics, List.mem_append, hcounters.shown, htotals.shown]
  revert m
  decide +kernel

/-- The waits of one source and the rejected query of the other in another order. -/
theorem snapshot_interleaving_twoSources :
    (OperationalStore.run (twoSources ++ twoQueries.map .call)).snapshot =
      (OperationalStore.run (twoSources ++ twoQueriesTurned.map .call)).snapshot := by
  refine snapshot_interleaving (by decide) (by decide) (fun key => ?_) (by decide)
    fun sourceId => ?_
  · -- only one total is written
    have hadded : added totalled key (twoSources ++ twoQueries.map .call) =
        if key = ("query_queue_ms_sum", some "stock") then [3, 4] else [] := by
      by_cases hkey : key = ("query_queue_ms_sum", some "stock")
      · subst hkey
        decide
      · rw [added_calls, if_neg hkey]
        simp [twoQueries, addedBy, totalled, hkey, added, twoSources]
    rw [hadded]
    split <;> decide
  · by_cases horders : sourceId = some "orders"
    · subst horders
      decide
    by_cases hstock : sourceId = some "stock"
    · subst hstock
      decide
    simp [settings, twoQueries, twoQueriesTurned, OperationsCall.counts, OperationsCall.sourceId,
      Ne.symm horders, Ne.symm hstock]

end QueryMan
