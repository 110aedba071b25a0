import QueryMan.Runtime.Operations
import Mathlib.Data.List.Infix

/-!
# Startup and readiness

`_probe_registered_sources` of `runtime/composition.py` and the `/ready` route of `delivery/app.py`,
over the calls that the services make to the `OperationalState`.
-/

namespace QueryMan

/-- A call of a writer of `OperationalState`. -/
inductive OperationsCall where
  | increment (name : String) (sourceId : Option String) (value : Int)
  | observe (name : String) (value : Int) (sourceId : Option String)
  | setSourceHealth (sourceId : String) (status : Health)
  | setSourceQueryHealth (sourceId : String) (status : Health)
  | setAccepting (accepting : Bool)
  deriving DecidableEq

/-- The source of a call. -/
def OperationsCall.sourceId : OperationsCall → Option String
  | .increment _ sourceId _ => sourceId
  | .observe _ _ sourceId => sourceId
  | .setSourceHealth sourceId _ => some sourceId
  | .setSourceQueryHealth sourceId _ => some sourceId
  | .setAccepting _ => none

namespace OperationalState

/-- What a call does to the state. -/
def call (s : OperationalState) : OperationsCall → OperationalState
  | .increment name sourceId value => s.increment name sourceId value
  | .observe name value sourceId => s.observe name value sourceId
  | .setSourceHealth sourceId status => s.setSourceHealth sourceId status
  | .setSourceQueryHealth sourceId status => s.setSourceQueryHealth sourceId status
  | .setAccepting accepting => s.setAccepting accepting

/-- What calls do, one after the other. -/
def calls (s : OperationalState) (l : List OperationsCall) : OperationalState :=
  l.foldl call s

end OperationalState

/-! ## Probes -/

/-- How `metadata.get_published` went in a probe: the calls it made, and whether it raised or ran
into the timeout. -/
structure ProbeOutcome where
  published : List OperationsCall
  failed : Bool

/-- `probe` of `_probe_registered_sources`. -/
def probe (sourceId : String) (outcome : ProbeOutcome) : List OperationsCall :=
  outcome.published ++
    if outcome.failed then
      [.increment "startup_metadata_probe_failed" (some sourceId) 1,
        .setSourceHealth sourceId .unavailable]
    else []

/-- `_probe_registered_sources`: the probes of the registered sources, in any interleaving. -/
structure ProbeRegisteredSources (sourceIds : List String) (outcome : String → ProbeOutcome)
    (startup : List OperationsCall) : Prop where
  sources : ∀ call ∈ startup, ∃ id ∈ sourceIds, call.sourceId = some id
  probes : ∀ id ∈ sourceIds,
    startup.filter (fun call => call.sourceId = some id) = probe id (outcome id)

/-- The state that `build_app` makes for the sources of a registry. -/
def buildApp (sourceIds : List String) : OperationalState :=
  OperationalState.initial.reconcileSources sourceIds

/-- The `/ready` route: its status code and its status. -/
def readiness (s : OperationalState) : Nat × PublicStatus :=
  let status := s.publicStatus
  (if status = .ready ∨ status = .degraded then 200 else 503, status)

/-! ## Usable sources -/

namespace OperationalState

/-- A source counts as usable: its metadata is fresh or stale, and queries have not marked it. -/
def Usable (s : OperationalState) (sourceId : String) : Prop :=
  s.sourceMetadataHealth.lookup sourceId ≠ some .unavailable ∧
    s.sourceQueryHealth.lookup sourceId ≠ some .unavailable ∧
      (s.sourceMetadataHealth.lookup sourceId = some .stale ∨
        s.sourceMetadataHealth.lookup sourceId ≠ some .initializing ∧
          s.sourceQueryHealth.lookup sourceId ≠ some .initializing)

instance (s : OperationalState) (sourceId : String) : Decidable (s.Usable sourceId) :=
  inferInstanceAs (Decidable (_ ∧ _ ∧ _))

theorem aggregateSourceStatus_usable (s : OperationalState) (sourceId : String) :
    (s.aggregateSourceStatus sourceId = .healthy ∨ s.aggregateSourceStatus sourceId = .stale) ↔
      s.Usable sourceId := by
  unfold aggregateSourceStatus Usable
  dsimp only
  split
  · next h =>
    refine iff_of_false (by decide) fun husable => ?_
    exact h.elim husable.1 husable.2.1
  · next h =>
    rw [not_or] at h
    split
    · next hstale => exact iff_of_true (.inr rfl) ⟨h.1, h.2, .inl hstale⟩
    · next hstale =>
      split
      · next hinit =>
        refine iff_of_false (by decide) fun husable => ?_
        obtain hstale' | ⟨hmetadata, hquery⟩ := husable.2.2
        · exact hstale hstale'
        · exact hinit.elim hmetadata hquery
      · next hinit =>
        rw [not_or] at hinit
        exact iff_of_true (.inl rfl) ⟨h.1, h.2, .inr hinit⟩

/-- A source that appears in one of the health maps. -/
def Tracked (s : OperationalState) (sourceId : String) : Prop :=
  sourceId ∈ s.sourceMetadataHealth ∨ sourceId ∈ s.sourceQueryHealth

theorem mem_aggregateSourceHealth {s : OperationalState} {status : Health} :
    status ∈ s.aggregateSourceHealth ↔
      ∃ id, s.Tracked id ∧ s.aggregateSourceStatus id = status := by
  rw [aggregateSourceHealth, List.mem_map]
  simp only [List.mem_union_iff, AList.mem_keys, Tracked]

theorem publicStatus_serving (s : OperationalState) :
    (s.publicStatus = .ready ∨ s.publicStatus = .degraded) ↔
      s.accepting = true ∧ ∃ status ∈ s.aggregateSourceHealth, status = .healthy ∨
        status = .stale := by
  have hany : (∃ status ∈ s.aggregateSourceHealth, status = .healthy ∨ status = .stale) ↔
      s.aggregateSourceHealth.any (fun h => h = .healthy ∨ h = .stale) = true := by
    rw [List.any_eq_true]
    simp only [decide_eq_true_eq]
  rw [hany]
  unfold publicStatus
  dsimp only
  generalize s.aggregateSourceHealth = health
  by_cases haccepting : s.accepting = true
  · rw [if_neg (not_not.2 haccepting)]
    by_cases hnil : health = []
    · rw [if_pos hnil, hnil]
      refine iff_of_false ?_ nofun
      split <;> decide
    · rw [if_neg hnil]
      by_cases husable : health.any (fun h => h = .healthy ∨ h = .stale) = true
      · rw [if_neg (not_not.2 husable)]
        refine iff_of_true ?_ ⟨haccepting, husable⟩
        split
        · exact .inr rfl
        · exact .inl rfl
      · rw [if_pos husable]
        refine iff_of_false ?_ fun h => husable h.2
        split <;> decide
  · rw [if_pos haccepting]
    exact iff_of_false (by decide) fun h => haccepting h.1

/-- **Readiness**: the process answers 200 exactly when it accepts and one of its sources is usable.
-/
theorem readiness_eq_ok (s : OperationalState) :
    (readiness s).1 = 200 ↔ s.accepting = true ∧ ∃ id, s.Tracked id ∧ s.Usable id := by
  have hcode : (readiness s).1 = 200 ↔ s.publicStatus = .ready ∨ s.publicStatus = .degraded := by
    unfold readiness
    dsimp only
    split
    · next h => exact iff_of_true rfl h
    · next h => exact iff_of_false (by decide) h
  rw [hcode, publicStatus_serving]
  refine and_congr_right' ⟨?_, ?_⟩
  · rintro ⟨status, hmem, h⟩
    obtain ⟨id, htracked, rfl⟩ := mem_aggregateSourceHealth.1 hmem
    exact ⟨id, htracked, (s.aggregateSourceStatus_usable id).1 h⟩
  · rintro ⟨id, htracked, h⟩
    exact ⟨_, mem_aggregateSourceHealth.2 ⟨id, htracked, rfl⟩,
      (s.aggregateSourceStatus_usable id).2 h⟩

/-! ## Registered sources -/

/-- The health maps hold the registered sources. -/
structure Registered (s : OperationalState) (sourceIds : List String) : Prop where
  active : s.activeSources = some sourceIds.toFinset
  metadata : ∀ id, id ∈ s.sourceMetadataHealth ↔ id ∈ sourceIds
  query : ∀ id, id ∈ s.sourceQueryHealth ↔ id ∈ sourceIds

variable {s : OperationalState} {sourceIds : List String}

theorem Registered.tracked (h : s.Registered sourceIds) (id : String) :
    s.Tracked id ↔ id ∈ sourceIds := by
  rw [Tracked, h.metadata, h.query, or_self]

theorem mem_reconcileHealth (health : HealthMap) (default : Health) (id : String) :
    id ∈ reconcileHealth health default sourceIds ↔ id ∈ sourceIds := by
  have hfold : ∀ (l : List String) (acc : HealthMap),
      id ∈ l.foldl (fun acc id => acc.insert id ((health.lookup id).getD default)) acc ↔
        id ∈ l ∨ id ∈ acc := by
    intro l
    induction l with
    | nil => exact fun acc => ⟨.inr, fun h => h.resolve_left List.not_mem_nil⟩
    | cons head l ih =>
      intro acc
      rw [List.foldl_cons, ih, AList.mem_insert, List.mem_cons]
      tauto
  rw [reconcileHealth, hfold]
  exact ⟨fun h => h.resolve_right (AList.notMem_empty _), .inl⟩

/-- A new process tracks the sources of its registry. -/
theorem registered_buildApp (sourceIds : List String) :
    (buildApp sourceIds).Registered sourceIds where
  active := rfl
  metadata := mem_reconcileHealth _ _
  query := mem_reconcileHealth _ _

theorem Registered.isInactive (h : s.Registered sourceIds) (id : String) :
    s.isInactive id = true ↔ id ∉ sourceIds := by
  rw [OperationalState.isInactive, h.active, decide_eq_true_eq, List.mem_toFinset]

/-- No call changes which sources are tracked. -/
theorem Registered.call (h : s.Registered sourceIds) (call : OperationsCall) :
    (s.call call).Registered sourceIds := by
  cases call with
  | increment name sourceId value => exact ⟨h.active, h.metadata, h.query⟩
  | observe name value sourceId => exact ⟨h.active, h.metadata, h.query⟩
  | setAccepting accepting => exact ⟨h.active, h.metadata, h.query⟩
  | setSourceHealth sourceId status =>
    rw [OperationalState.call, setSourceHealth]
    split
    · exact h
    · next hactive =>
      rw [h.isInactive, not_not] at hactive
      refine ⟨h.active, fun id => ?_, h.query⟩
      rw [AList.mem_insert, h.metadata]
      exact ⟨fun hid => hid.elim (fun heq => heq ▸ hactive) fun hid => hid, .inr⟩
  | setSourceQueryHealth sourceId status =>
    rw [OperationalState.call, setSourceQueryHealth]
    split
    · exact h
    · next hactive =>
      rw [h.isInactive, not_not] at hactive
      refine ⟨h.active, h.metadata, fun id => ?_⟩
      rw [AList.mem_insert, h.query]
      exact ⟨fun hid => hid.elim (fun heq => heq ▸ hactive) fun hid => hid, .inr⟩

theorem Registered.calls (h : s.Registered sourceIds) (l : List OperationsCall) :
    (s.calls l).Registered sourceIds := by
  induction l generalizing s with
  | nil => exact h
  | cons call l ih => exact ih (h.call call)

/-! ## The metadata word of a source -/

/-- What a call leaves as the metadata word of a source. -/
def metadataWord (sourceId : String) (word : Option Health) : OperationsCall → Option Health
  | .setSourceHealth id status => if id = sourceId then some status else word
  | _ => word

theorem lookup_call (h : s.Registered sourceIds) {sourceId : String} (hmem : sourceId ∈ sourceIds)
    (call : OperationsCall) :
    (s.call call).sourceMetadataHealth.lookup sourceId =
      metadataWord sourceId (s.sourceMetadataHealth.lookup sourceId) call := by
  cases call with
  | setSourceHealth id status =>
    rw [OperationalState.call, setSourceHealth, metadataWord]
    by_cases hid : id = sourceId
    · subst hid
      rw [if_neg (mt (h.isInactive id).1 (not_not.2 hmem)), if_pos rfl]
      exact AList.lookup_insert _
    · rw [if_neg hid]
      split
      · rfl
      · exact AList.lookup_insert_ne (Ne.symm hid)
  | setSourceQueryHealth id status =>
    rw [OperationalState.call, setSourceQueryHealth]
    split <;> rfl
  | _ => rfl

theorem lookup_calls (h : s.Registered sourceIds) {sourceId : String} (hmem : sourceId ∈ sourceIds)
    (l : List OperationsCall) :
    (s.calls l).sourceMetadataHealth.lookup sourceId =
      l.foldl (metadataWord sourceId) (s.sourceMetadataHealth.lookup sourceId) := by
  induction l generalizing s with
  | nil => rfl
  | cons call l ih =>
    rw [List.foldl_cons, ← lookup_call h hmem call]
    exact ih (h.call call)

/-- The calls of the other sources do not change the metadata word of a source. -/
theorem foldl_metadataWord_filter (sourceId : String) (word : Option Health)
    (l : List OperationsCall) :
    (l.filter fun call => call.sourceId = some sourceId).foldl (metadataWord sourceId) word =
      l.foldl (metadataWord sourceId) word := by
  induction l generalizing word with
  | nil => rfl
  | cons call l ih =>
    rw [List.foldl_cons]
    by_cases hcall : call.sourceId = some sourceId
    · rw [List.filter_cons_of_pos (by simpa using hcall), List.foldl_cons, ih]
    · rw [List.filter_cons_of_neg (by simpa using hcall), ih]
      have hword : metadataWord sourceId word call = word := by
        cases call with
        | setSourceHealth id status => exact if_neg fun heq => hcall (congrArg some heq)
        | _ => rfl
      rw [hword]

/-- A call that does not admit a source: a failed refresh marks it unavailable. -/
def NotAdmitting (sourceId : String) (call : OperationsCall) : Prop :=
  ∀ status, call = .setSourceHealth sourceId status → status = .unavailable

theorem foldl_metadataWord_unavailable {sourceId : String} {l : List OperationsCall}
    (h : ∀ call ∈ l, NotAdmitting sourceId call) :
    l.foldl (metadataWord sourceId) (some .unavailable) = some .unavailable := by
  induction l with
  | nil => rfl
  | cons call l ih =>
    rw [List.forall_mem_cons] at h
    have hword : metadataWord sourceId (some .unavailable) call = some .unavailable := by
      cases call with
      | setSourceHealth id status =>
        rw [metadataWord]
        split
        · next heq => rw [h.1 status (by rw [heq])]
        · rfl
      | _ => rfl
    rw [List.foldl_cons, hword]
    exact ih h.2

end OperationalState

/-! ## Readiness after startup -/

open OperationalState

section Ready

variable {sourceIds : List String} {outcome : String → ProbeOutcome} {startup : List OperationsCall}

/-- A source whose probe failed starts out unavailable. -/
theorem lookup_startup (hstartup : ProbeRegisteredSources sourceIds outcome startup)
    {sourceId : String} (hmem : sourceId ∈ sourceIds) (hfailed : (outcome sourceId).failed = true) :
    ((buildApp sourceIds).calls startup).sourceMetadataHealth.lookup sourceId =
      some .unavailable := by
  rw [lookup_calls (registered_buildApp sourceIds) hmem, ← foldl_metadataWord_filter,
    hstartup.probes sourceId hmem, probe, if_pos hfailed, List.foldl_append]
  simp only [List.foldl_cons, List.foldl_nil, metadataWord, if_pos]

/-- A source whose probe failed is not usable until it is admitted. -/
theorem not_usable_of_failed (hstartup : ProbeRegisteredSources sourceIds outcome startup)
    {sourceId : String} (hmem : sourceId ∈ sourceIds) (hfailed : (outcome sourceId).failed = true)
    {later : List OperationsCall} (hlater : ∀ call ∈ later, NotAdmitting sourceId call) :
    ¬ (((buildApp sourceIds).calls startup).calls later).Usable sourceId := by
  intro husable
  refine husable.1 ?_
  rw [lookup_calls ((registered_buildApp sourceIds).calls startup) hmem,
    lookup_startup hstartup hmem hfailed, foldl_metadataWord_unavailable hlater]

/-- **Readiness after a failed admission**: as long as the source is not admitted, `/ready` answers
200 at no time exactly when at no time another registered source is usable. -/
theorem not_ready_iff (hstartup : ProbeRegisteredSources sourceIds outcome startup)
    {sourceId : String} (hmem : sourceId ∈ sourceIds) (hfailed : (outcome sourceId).failed = true)
    {later : List OperationsCall} (hlater : ∀ call ∈ later, NotAdmitting sourceId call) :
    (∀ seen, seen <+: later →
        (readiness (((buildApp sourceIds).calls startup).calls seen)).1 ≠ 200) ↔
      ∀ seen, seen <+: later → (((buildApp sourceIds).calls startup).calls seen).accepting = true →
        ∀ id ∈ sourceIds, id ≠ sourceId →
          ¬ (((buildApp sourceIds).calls startup).calls seen).Usable id := by
  refine forall_congr' fun seen => forall_congr' fun hseen => ?_
  have hnot := not_usable_of_failed hstartup hmem hfailed fun call hcall =>
    hlater call (hseen.subset hcall)
  have hregistered := ((registered_buildApp sourceIds).calls startup).calls seen
  rw [Ne, readiness_eq_ok, not_and]
  refine imp_congr_right fun _ => ?_
  constructor
  · intro h id hid _ husable
    exact h ⟨id, (hregistered.tracked id).2 hid, husable⟩
  · rintro h ⟨id, htracked, husable⟩
    refine h id ((hregistered.tracked id).1 htracked) ?_ husable
    rintro rfl
    exact hnot husable

/-! ### Two sources -/

/-- One source is admitted, the other is rejected. -/
def oneRejected (sourceId : String) : ProbeOutcome :=
  if sourceId = "admitted" then
    { published := [.increment "metadata_refresh_started" (some "admitted") 1,
        .increment "metadata_refresh_succeeded" (some "admitted") 1,
        .setSourceHealth "admitted" .healthy]
      failed := false }
  else
    { published := [.increment "metadata_refresh_started" (some "rejected") 1,
        .increment "metadata_refresh_failed" (some "rejected") 1,
        .setSourceHealth "rejected" .unavailable]
      failed := true }

/-- The probes of both sources, one after the other. -/
def oneRejectedStartup : List OperationsCall :=
  probe "admitted" (oneRejected "admitted") ++ probe "rejected" (oneRejected "rejected")

theorem oneRejected_probes :
    ProbeRegisteredSources ["admitted", "rejected"] oneRejected oneRejectedStartup where
  sources := by decide
  probes := by decide

/-- With one of two sources admitted, `/ready` answers 200. -/
theorem not_ready_iff_degraded :
    ProbeRegisteredSources ["admitted", "rejected"] oneRejected oneRejectedStartup ∧
      (oneRejected "rejected").failed = true ∧
      readiness ((buildApp ["admitted", "rejected"]).calls oneRejectedStartup) = (200, .degraded) :=
  ⟨oneRejected_probes, rfl, by decide⟩

/-- Both sources are rejected. -/
def bothRejected (sourceId : String) : ProbeOutcome :=
  { published := [.increment "metadata_refresh_failed" (some sourceId) 1,
      .setSourceHealth sourceId .unavailable]
    failed := true }

theorem bothRejected_probes : ProbeRegisteredSources ["admitted", "rejected"] bothRejected
    (probe "rejected" (bothRejected "rejected") ++
      probe "admitted" (bothRejected "admitted")) where
  sources := by decide
  probes := by decide

/-- A second attempt at either source fails, and a query marks the other one healthy. -/
def failingAgain : List OperationsCall :=
  [.setSourceHealth "rejected" .unavailable, .setSourceHealth "admitted" .unavailable,
    .setSourceQueryHealth "admitted" .healthy]

/-- `/ready` does not answer 200 while both sources fail, and does as soon as the other one is
admitted. -/
theorem not_ready_iff_later :
    (∀ seen, seen <+: failingAgain →
      (readiness (((buildApp ["admitted", "rejected"]).calls
        (probe "rejected" (bothRejected "rejected") ++
          probe "admitted" (bothRejected "admitted"))).calls seen)).1 ≠ 200) ∧
    ¬ ∀ seen, seen <+: failingAgain ++ [.setSourceHealth "admitted" .healthy] →
      (readiness (((buildApp ["admitted", "rejected"]).calls
        (probe "rejected" (bothRejected "rejected") ++
          probe "admitted" (bothRejected "admitted"))).calls seen)).1 ≠ 200 := by
  have hmem : "rejected" ∈ ["admitted", "rejected"] := by decide
  constructor
  · refine (not_ready_iff bothRejected_probes hmem rfl
      (by unfold NotAdmitting; simp [failingAgain])).2 fun seen hseen _ => ?_
    have hall : ∀ seen ∈ failingAgain.inits, ∀ id ∈ ["admitted", "rejected"], id ≠ "rejected" →
        ¬ (((buildApp ["admitted", "rejected"]).calls
          (probe "rejected" (bothRejected "rejected") ++
            probe "admitted" (bothRejected "admitted"))).calls seen).Usable id := by decide
    exact hall seen ((List.mem_inits ..).2 hseen)
  · intro hnever
    have hlater : ∀ call ∈ failingAgain ++ [.setSourceHealth "admitted" .healthy],
        NotAdmitting "rejected" call := by
      unfold NotAdmitting
      simp [failingAgain]
    exact (not_ready_iff bothRejected_probes hmem rfl hlater).1 hnever _ (List.prefix_refl _)
      (by decide) "admitted" (by decide) (by decide) (by decide)

end Ready

end QueryMan
