import Mathlib.Data.List.AList
import Mathlib.Data.Finset.Dedup
import QueryMan.Python.Float

/-!
# Operational state

`OperationalState` of `runtime/operations.py`: counters, totals and the two health maps, and the
public status aggregated from them. The lock serialises the methods, so each is one function on the
state.
-/

namespace QueryMan

open Python

/-- The health words of a source. -/
inductive Health where
  | initializing
  | healthy
  | stale
  | unavailable
  deriving DecidableEq, Repr

/-- What `public_status` answers. -/
inductive PublicStatus where
  | shuttingDown
  | initializing
  | unavailable
  | degraded
  | ready
  deriving DecidableEq, Repr

/-- A health map, from source ids. -/
abbrev HealthMap := AList fun _ : String => Health

/-- `OperationalState`. A counter or total that was never written is zero; the values that are
observed are whole milliseconds, and a total is a `float`. -/
structure OperationalState where
  counters : String → Option String → Int
  totals : String → Option String → ℚ
  sourceMetadataHealth : HealthMap
  sourceQueryHealth : HealthMap
  activeSources : Option (Finset String)
  accepting : Bool

namespace OperationalState

/-- `reset`, and the state of a new process. -/
def initial : OperationalState where
  counters := fun _ _ => 0
  totals := fun _ _ => 0
  sourceMetadataHealth := ∅
  sourceQueryHealth := ∅
  activeSources := none
  accepting := true

/-- `increment`. -/
def increment (s : OperationalState) (name : String) (sourceId : Option String)
    (value : Int) : OperationalState :=
  { s with counters := fun n i => if n = name ∧ i = sourceId then s.counters n i + value
                                  else s.counters n i }

/-- `observe`. -/
def observe (s : OperationalState) (name : String) (value : Int) (sourceId : Option String) :
    OperationalState :=
  { s.increment (name ++ "_count") sourceId 1 with
    totals := fun n i => if n = name ++ "_sum" ∧ i = sourceId then addFloat (s.totals n i) value
                         else s.totals n i }

/-- The early return of both health setters: the source is not among the registered ones. -/
def isInactive (s : OperationalState) (sourceId : String) : Bool :=
  match s.activeSources with
  | some active => decide (sourceId ∉ active)
  | none => false

/-- `set_source_health`. -/
def setSourceHealth (s : OperationalState) (sourceId : String) (status : Health) :
    OperationalState :=
  if s.isInactive sourceId then s
  else { s with sourceMetadataHealth := s.sourceMetadataHealth.insert sourceId status }

/-- `set_source_query_health`. -/
def setSourceQueryHealth (s : OperationalState) (sourceId : String) (status : Health) :
    OperationalState :=
  if s.isInactive sourceId then s
  else { s with sourceQueryHealth := s.sourceQueryHealth.insert sourceId status }

/-- The rebuilt health map of `reconcile_sources`: each registered source keeps its word. -/
def reconcileHealth (health : HealthMap) (default : Health) (sourceIds : List String) : HealthMap :=
  sourceIds.foldl (fun acc id => acc.insert id ((health.lookup id).getD default)) ∅

/-- `reconcile_sources`. -/
def reconcileSources (s : OperationalState) (sourceIds : List String) : OperationalState :=
  let keeps (i : Option String) : Bool :=
    match i with
    | none => true
    | some id => decide (id ∈ sourceIds)
  { s with
    activeSources := some sourceIds.toFinset
    sourceMetadataHealth := reconcileHealth s.sourceMetadataHealth .initializing sourceIds
    sourceQueryHealth := reconcileHealth s.sourceQueryHealth .healthy sourceIds
    counters := fun n i => if keeps i then s.counters n i else 0
    totals := fun n i => if keeps i then s.totals n i else 0 }

/-- `set_accepting`. -/
def setAccepting (s : OperationalState) (accepting : Bool) : OperationalState :=
  { s with accepting := accepting }

/-- `_aggregate_source_status`. -/
def aggregateSourceStatus (s : OperationalState) (sourceId : String) : Health :=
  let metadata := s.sourceMetadataHealth.lookup sourceId
  let query := s.sourceQueryHealth.lookup sourceId
  if metadata = some .unavailable ∨ query = some .unavailable then .unavailable
  else if metadata = some .stale then .stale
  else if metadata = some .initializing ∨ query = some .initializing then .initializing
  else .healthy

/-- `_aggregate_source_health`, as the list of its values. -/
def aggregateSourceHealth (s : OperationalState) : List Health :=
  (s.sourceMetadataHealth.keys ∪ s.sourceQueryHealth.keys).map s.aggregateSourceStatus

/-- `public_status`. -/
def publicStatus (s : OperationalState) : PublicStatus :=
  if ¬ s.accepting then .shuttingDown
  else
    let health := s.aggregateSourceHealth
    if health = [] then
      if s.activeSources = none then .initializing else .unavailable
    else if ¬ health.any fun h => h = .healthy ∨ h = .stale then
      if health.all (· = .initializing) then .initializing else .unavailable
    else if health.any (· ≠ .healthy) then .degraded
    else .ready

/-! ## What the writers leave unchanged -/

@[simp] theorem increment_sourceQueryHealth (s : OperationalState) (n : String)
    (i : Option String) (v : Int) :
    (s.increment n i v).sourceQueryHealth = s.sourceQueryHealth := rfl

@[simp] theorem observe_sourceQueryHealth (s : OperationalState) (n : String) (v : Int)
    (i : Option String) : (s.observe n v i).sourceQueryHealth = s.sourceQueryHealth := rfl

/-- Counting does not move the public status. -/
@[simp] theorem publicStatus_increment (s : OperationalState) (n : String) (i : Option String)
    (v : Int) : (s.increment n i v).publicStatus = s.publicStatus := rfl

/-- Observing a value does not move the public status. -/
@[simp] theorem publicStatus_observe (s : OperationalState) (n : String) (v : Int)
    (i : Option String) : (s.observe n v i).publicStatus = s.publicStatus := rfl

/-- The public status depends on the health words of the sources only. -/
theorem publicStatus_congr {s s' : OperationalState} (haccepting : s'.accepting = s.accepting)
    (hactive : s'.activeSources = s.activeSources)
    (hhealth : s'.aggregateSourceHealth.Perm s.aggregateSourceHealth) :
    s'.publicStatus = s.publicStatus := by
  have hnil : s'.aggregateSourceHealth = [] ↔ s.aggregateSourceHealth = [] :=
    ⟨fun h => List.Perm.nil_eq (h ▸ hhealth) ▸ rfl, fun h => List.Perm.eq_nil (h ▸ hhealth)⟩
  have hany : ∀ p, s'.aggregateSourceHealth.any p = s.aggregateSourceHealth.any p := fun p => by
    rw [Bool.eq_iff_iff, List.any_eq_true, List.any_eq_true]
    simp only [hhealth.mem_iff]
  have hall : ∀ p, s'.aggregateSourceHealth.all p = s.aggregateSourceHealth.all p := fun p => by
    rw [Bool.eq_iff_iff, List.all_eq_true, List.all_eq_true]
    simp only [hhealth.mem_iff]
  simp only [publicStatus, haccepting, hactive, hany, hall, hnil]

/-- A healthy source that is marked healthy is healthy. -/
theorem lookup_setSourceQueryHealth_healthy {s : OperationalState} {sourceId : String}
    (h : s.sourceQueryHealth.lookup sourceId = some .healthy) :
    (s.setSourceQueryHealth sourceId .healthy).sourceQueryHealth.lookup sourceId =
      some .healthy := by
  rw [setSourceQueryHealth]
  split
  · exact h
  · exact AList.lookup_insert _

/-- Marking a source healthy that is healthy does not move the public status. -/
theorem publicStatus_setSourceQueryHealth_healthy {s : OperationalState} {sourceId : String}
    (h : s.sourceQueryHealth.lookup sourceId = some .healthy) :
    (s.setSourceQueryHealth sourceId .healthy).publicStatus = s.publicStatus := by
  rw [setSourceQueryHealth]
  split
  · rfl
  have hlookup : ∀ id, (s.sourceQueryHealth.insert sourceId .healthy).lookup id =
      s.sourceQueryHealth.lookup id := fun id => by
    by_cases hid : id = sourceId
    · rw [hid, AList.lookup_insert, h]
    · rw [AList.lookup_insert_ne hid]
  have hmem : sourceId ∈ s.sourceQueryHealth.keys := by
    rw [← AList.mem_keys, ← AList.lookup_isSome, h]
    rfl
  refine publicStatus_congr rfl rfl ?_
  have hkeys :
      (s.sourceQueryHealth.insert sourceId .healthy).keys.Perm s.sourceQueryHealth.keys := by
    rw [AList.keys_insert]
    exact (List.perm_cons_erase hmem).symm
  have hstatus : ∀ id, aggregateSourceStatus
      { s with sourceQueryHealth := s.sourceQueryHealth.insert sourceId .healthy } id =
        s.aggregateSourceStatus id := fun id => by
    simp only [aggregateSourceStatus, hlookup]
  rw [aggregateSourceHealth, aggregateSourceHealth, funext hstatus]
  exact (hkeys.union_left _).map _

end OperationalState

end QueryMan
