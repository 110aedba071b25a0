import QueryMan.GuardedQuery.FaultInjection
import QueryMan.GuardedQuery.Shutdown
import Mathlib.Data.Set.Card
import Mathlib.Logic.Relation

/-!
# Admission and shutdown

What holds in every configuration that the tasks of an executor can reach, whatever their awaits do:
permits, leases, `_active` and `_inflight` are conserved (`admission_conserved`), and a shutdown
admits nothing and forgets nobody (`shutdown_safe`).
-/

namespace QueryMan.PostgresQueryExecutor

open Coro

section

variable {Row Json : Type} {registry : SourceRegistry} {encodeRow : RowEncoder Row Json}
  {c c' : Tasks Row Json}

/-! ## Where the tasks are -/

/-- A call that waits is in flight. -/
theorem mem_inflight_of_waiting (h : Reachable registry encodeRow c) {n : Nat}
    {p : Prog (Ret Row) Exc (Response Json)} (htask : c.tasks (.call n) = some p)
    (hturn : c.turn ≠ some (.call n)) : n ∈ c.shared.inflight := by
  have hkept := kept_of_reachable h
  have hsuspended := (hkept.waiting (.call n) p htask hturn).1
  cases p with
  | done r => cases hsuspended
  | call o k => exact (hkept.act contract_lawful htask).1.1 hsuspended

/-- A shutdown that has no turn is settled. -/
theorem settled_of_waiting (h : Reachable registry encodeRow c) {k : Nat}
    (hturn : c.turn ≠ some (.shutdown k)) : Settled k c.shared := by
  have hkept := kept_of_reachable h
  cases htask : c.tasks (.shutdown k) with
  | none => exact hkept.idle (.shutdown k) htask
  | some p =>
    have hsuspended := (hkept.waiting (.shutdown k) p htask hturn).1
    cases p with
    | done r => cases hsuspended
    | call o k' => exact (hkept.act contract_lawful htask).1.1 hsuspended

/-- A task whose next operation keeps the turn has it. -/
theorem turn_of_not_suspended (h : Reachable registry encodeRow c) {i : TaskId}
    {p : Prog (TaskRet Row i) Exc (TaskResult Json i)} (htask : c.tasks i = some p)
    (hp : p.suspended ((system registry encodeRow).suspends i) = false) : c.turn = some i := by
  by_contra hturn
  exact Bool.noConfusion (hp.symm.trans ((kept_of_reachable h).waiting i p htask hturn).1)

/-! ## Conservation -/

/-- The connections of a source that are leased. -/
def leasedConnections (s : Executor) (sourceId : String) : Set Connection :=
  {connection | connection.sourceId = sourceId ∧ ∃ n, s.leases n = some connection}

/-- The resources of admission in a configuration. -/
structure AdmissionConserved (registry : SourceRegistry) (c : Tasks Row Json) : Prop where
  /-- the calls that hold a permit -/
  permits : ∀ sourceId source, registry.get sourceId = some source →
    (c.shared.permits sourceId).card ≤ source.budget.maxConcurrentQueries
  /-- the connections that are leased -/
  leases : ∀ sourceId, (leasedConnections c.shared sourceId).encard ≤
    (c.shared.permits sourceId).card
  poolSize : ∀ sourceId source, registry.get sourceId = some source →
    (leasedConnections c.shared sourceId).encard ≤ source.budget.maxPoolSize
  /-- a call holds one permit at a time; it has released the others, once each, and at its end all
  -/
  onePermit : ∀ n sourceId sourceId', n ∈ c.shared.permits sourceId →
    n ∈ c.shared.permits sourceId' → sourceId = sourceId'
  releasedHeld : ∀ n sourceId, n ∈ c.shared.permits sourceId →
    c.shared.acquired n = c.shared.released n + 1
  releasedFree : ∀ n, (∀ sourceId, n ∉ c.shared.permits sourceId) →
    c.shared.acquired n = c.shared.released n
  releasedEnded : ∀ n, c.tasks (.call n) = none → c.shared.acquired n = c.shared.released n
  /-- the registered queries are in flight -/
  active : ∀ queryId query, c.shared.active.lookup queryId = some query →
    query.task ∈ c.shared.inflight
  /-- without a call in progress everything is back -/
  restored : (∀ n, c.tasks (.call n) = none) →
    c.shared.inflight = ∅ ∧ c.shared.active = ∅ ∧ (∀ sourceId, c.shared.permits sourceId = ∅) ∧
      ∀ sourceId sem, c.shared.semaphores sourceId = some sem → sem.value = sem.limit

/-- A dictionary without keys is empty. -/
theorem active_eq_empty {active : AList fun _ : String => ActiveQuery}
    (h : ∀ id query, active.lookup id ≠ some query) : active = ∅ := by
  refine AList.ext ?_
  rw [AList.empty_entries, List.eq_nil_iff_forall_not_mem]
  exact fun ⟨id, query⟩ hmem => h id query (AList.mem_lookup_iff.2 hmem)

/-- **Admission resources are conserved** in every configuration that the tasks of an executor can
reach: no source has more calls with a permit than it allows, nor more leased connections than
permits; every permit is released once; the registered queries are in flight; and when no call is in
progress, everything is back. -/
theorem admission_conserved (h : Reachable registry encodeRow c) :
    AdmissionConserved registry c := by
  have hkept := kept_of_reachable h
  have hinv : Conserved registry c.shared := hkept.inv
  have hended : ∀ n, c.tasks (.call n) = none → ∀ sourceId, n ∉ c.shared.permits sourceId :=
    fun n hn sid hmem => hkept.idle (.call n) hn (hinv.permit_inflight n sid hmem)
  have hpermits : ∀ sourceId source, registry.get sourceId = some source →
      (c.shared.permits sourceId).card ≤ source.budget.maxConcurrentQueries := by
    intro sourceId source hsource
    cases hsem : c.shared.semaphores sourceId with
    | none =>
      rw [hinv.noSemaphore sourceId hsem]
      exact Nat.zero_le _
    | some sem =>
      obtain ⟨⟨source', hsource', hlimit⟩, hcount⟩ := hinv.semaphore sourceId sem hsem
      obtain rfl := Option.some.inj (hsource'.symm.trans hsource)
      omega
  have hleases : ∀ sourceId, (leasedConnections c.shared sourceId).encard ≤
      (c.shared.permits sourceId).card := by
    intro sourceId
    have hsub : leasedConnections c.shared sourceId ⊆
        (fun n => (c.shared.leases n).getD ⟨"", 0⟩) '' (c.shared.permits sourceId : Set Nat) := by
      rintro connection ⟨rfl, n, hlease⟩
      refine ⟨n, hinv.lease_permit n connection hlease, ?_⟩
      change (c.shared.leases n).getD _ = connection
      rw [hlease]
      rfl
    calc (leasedConnections c.shared sourceId).encard
        ≤ _ := Set.encard_le_encard hsub
      _ ≤ (c.shared.permits sourceId : Set Nat).encard := Set.encard_image_le _ _
      _ = (c.shared.permits sourceId).card := Set.encard_coe_eq_coe_finsetCard _
  refine ⟨hpermits, hleases, fun sourceId source hsource => ?_, hinv.onePermit, hinv.held,
    hinv.returned, fun n hn => hinv.returned n (hended n hn), fun queryId query hquery => ?_,
    fun hnone => ?_⟩
  · refine (hleases sourceId).trans (Nat.cast_le.2 ?_)
    exact (hpermits sourceId source hsource).trans (SourceRegistry.capacity_of_get hsource)
  · exact hinv.permit_inflight _ _ (hinv.lease_permit _ _ (hinv.active_lease queryId query hquery))
  · have hinflight : c.shared.inflight = ∅ :=
      Finset.eq_empty_of_forall_notMem fun n => hkept.idle (.call n) (hnone n)
    have hempty : ∀ sourceId, c.shared.permits sourceId = ∅ := fun sid =>
      Finset.eq_empty_of_forall_notMem fun n => hended n (hnone n) sid
    refine ⟨hinflight, active_eq_empty fun id query hquery => ?_, hempty, fun sid sem hsem => ?_⟩
    · have hlease := hinv.lease_permit _ _ (hinv.active_lease id query hquery)
      rw [hempty] at hlease
      exact Finset.notMem_empty _ hlease
    · have hcount := (hinv.semaphore sid sem hsem).2
      rw [hempty sid] at hcount
      exact hcount

/-! ### A call with a permit -/

/-- The plain source within the ranges of a registered budget. -/
def registeredSource : SourceProfile :=
  { plainSource with
    budget := { smallBudget with
      maxMetadataResponseBytes := 1024
      maxResultBytes := 1024
      maxSqlBytes := 1024 } }

/-- A registry of one source. -/
def caveRegistry : SourceRegistry :=
  ⟨[registeredSource], by decide⟩

/-- Rows that are their own encoding. -/
def plainEncoder : RowEncoder String String :=
  fun row => .ok (row, row.length)

/-- A call with `SELECT 1` on the registered source. -/
def registeredCall : Exec String (Response String) :=
  execute plainEncoder registeredSource "SELECT 1" "revision" selectOneValidated (some "q")

theorem registeredCall_starts :
    (system caveRegistry plainEncoder).starts (.call 0) registeredCall :=
  ⟨"cave", registeredSource, "SELECT 1", "revision", selectOneValidated, some "q", rfl, rfl⟩

/-- The call waits for the semaphore of its source, whose only permit is free. -/
theorem reachable_waiting : ∃ (c : Tasks String String) (timeout : Nat)
    (k : Except Exc Unit → Prog (Ret String) Exc (Response String)),
    Reachable caveRegistry plainEncoder c ∧ c.turn = none ∧ c.tasks (.shutdown 0) = none ∧
      c.tasks (.call 0) = some (.call (.acquireSemaphore "cave" timeout) k) ∧
      c.shared = { Executor.initial.setdefault "cave" 1 with inflight := {0} } := by
  have h₀ : Reachable caveRegistry plainEncoder _ :=
    .step .initial (.start rfl rfl registeredCall_starts)
  have h₁ := System.Reachable.act h₀ (i := .call 0) rfl (.inr rfl) (.ok true) _ rfl
  have h₂ := System.Reachable.act h₁ (i := .call 0) rfl (.inr rfl) (.ok ()) _ rfl
  have h₃ := System.Reachable.act h₂ (i := .call 0) rfl (.inr rfl) (.ok true) _ ⟨rfl, rfl⟩
  have h₄ := System.Reachable.act h₃ (i := .call 0) rfl (.inr rfl) (.ok ()) _ rfl
  have h₅ := System.Reachable.act h₄ (i := .call 0) rfl (.inr rfl) (.ok ()) _ rfl
  have h₆ := System.Reachable.act h₅ (i := .call 0) rfl (.inr rfl) (.ok (0 : ℚ)) _ rfl
  exact ⟨_, _, _, h₆, rfl, rfl, rfl, rfl⟩

theorem admission_conserved_permit : ∃ c : Tasks String String,
    Reachable caveRegistry plainEncoder c ∧ c.shared.permits "cave" = {0} ∧
      AdmissionConserved caveRegistry c := by
  obtain ⟨c, timeout, k, h, hturn, -, htask, hshared⟩ := reachable_waiting
  have hacquired := System.Reachable.act h (i := .call 0) htask (.inl hturn) (.ok ()) _
    ⟨⟨1, 1⟩, by rw [hshared]; rfl, by decide, rfl⟩
  refine ⟨_, hacquired, ?_, admission_conserved hacquired⟩
  change (c.shared.acquire 0 "cave" ⟨1, 1⟩).permits "cave" = {0}
  rw [hshared]
  rfl

/-! ## Shutdown -/

/-- The steps from one configuration to a later one. -/
abbrev Later (registry : SourceRegistry) (encodeRow : RowEncoder Row Json) :
    Tasks Row Json → Tasks Row Json → Prop :=
  Relation.ReflTransGen (system registry encodeRow).Step

/-- What a shutdown promises in a configuration. -/
structure ShutdownSafe (registry : SourceRegistry) (encodeRow : RowEncoder Row Json)
    (c : Tasks Row Json) : Prop where
  /-- once the executor does not accept queries, no call is added to those in flight -/
  admitsNothing : c.shared.accepting = false → ∀ c', Later registry encodeRow c c' →
    c'.shared.accepting = false ∧ c'.shared.inflight ⊆ c.shared.inflight
  /-- a drained executor is recorded only where no call runs, and none is admitted later -/
  drained : ∀ k value next,
    c.tasks (.shutdown k) = some (.call (.increment "shutdown_drained" value) next) →
    (∀ n, c.tasks (.call n) = none) ∧
      ∀ c', Later registry encodeRow c c' → c'.shared.inflight = ∅
  /-- when the grace has expired, nobody that was in flight is skipped -/
  skipsNobody : ∀ k x, c.turn ≠ some (.shutdown k) → c.shared.expiries k = some x →
    x.expired = true → x.Covered
  /-- a connection on which `cancel_safe` is called is leased by nobody else -/
  cancelsNoOther : ∀ x ∈ c.shared.pending, ∀ n, c.shared.leases n = some x.connection →
    n ∈ x.inflight
  /-- a call that ends after acceptance was switched off returns or raises an `AppError` -/
  noRawCancellation : ∀ n r, c.tasks (.call n) = some (.done r) → c.shared.accepting = false →
    (∃ response, r = .ok response) ∨ ∃ error, r = .error (.app error)

/-- One step: without acceptance nothing is admitted. -/
theorem step_admitsNothing (h : Reachable registry encodeRow c)
    (haccepting : c.shared.accepting = false) (hstep : (system registry encodeRow).Step c c') :
    c'.shared.accepting = false ∧ c'.shared.inflight ⊆ c.shared.inflight := by
  have hkept := kept_of_reachable h
  cases hstep with
  | start hfree hnew hstarts => exact ⟨haccepting, Finset.Subset.refl _⟩
  | @act i o k r s' hturn htask hstep =>
    obtain ⟨hgate, -⟩ := hkept.act contract_lawful htask
    cases i with
    | call n =>
      refine ⟨(callStep_shutdown (k := 0) hstep).accepting haccepting, callStep_inflight ?_ hstep⟩
      rintro rfl
      exact Bool.noConfusion (haccepting.symm.trans hgate.2)
    | shutdown j =>
      change s'.accepting = false ∧ s'.inflight ⊆ c.shared.inflight
      rcases shutdownStep_cases hstep with rfl | rfl | ⟨f, rfl⟩ | rfl | ⟨reasons, rfl⟩ |
        ⟨connections, -, rfl⟩ | ⟨pools, rfl⟩
      all_goals exact ⟨by first | exact haccepting | rfl, Finset.Subset.refl _⟩
  | finish hturn htask => exact ⟨haccepting, Finset.Subset.refl _⟩
  | env hfree hstep =>
    obtain ⟨before, x, after, -, rfl⟩ := hstep
    exact ⟨haccepting, Finset.Subset.refl _⟩

/-- A run: without acceptance nothing is admitted. -/
theorem later_admitsNothing (h : Reachable registry encodeRow c)
    (haccepting : c.shared.accepting = false) (hlater : Later registry encodeRow c c') :
    Reachable registry encodeRow c' ∧ c'.shared.accepting = false ∧
      c'.shared.inflight ⊆ c.shared.inflight := by
  induction hlater with
  | refl => exact ⟨h, haccepting, Finset.Subset.refl _⟩
  | tail _ hstep ih =>
    obtain ⟨hreach, haccepting', hsub⟩ := ih
    obtain ⟨haccepting'', hsub'⟩ := step_admitsNothing hreach haccepting' hstep
    exact ⟨hreach.step hstep, haccepting'', hsub'.trans hsub⟩

/-- **Shutdown admits nothing and forgets nobody** in every configuration that the tasks of an
executor can reach: without acceptance no call joins those in flight; a drained executor is recorded
only where no call runs; when the grace has expired, every task that was in flight is cancelled or
has `cancel_safe` called on its own connection, and no other query loses its connection; and a call
that ends without acceptance raises no raw cancellation. -/
theorem shutdown_safe (h : Reachable registry encodeRow c) : ShutdownSafe registry encodeRow c := by
  have hkept := kept_of_reachable h
  have hinv : Conserved registry c.shared := hkept.inv
  refine ⟨fun haccepting c' hlater => (later_admitsNothing h haccepting hlater).2,
    fun k value next htask => ?_, fun k x hturn => settled_of_waiting h hturn x,
    fun x hx n hlease => ?_, fun n r htask haccepting => ?_⟩
  · obtain ⟨-, hgate⟩ := (hkept.act contract_lawful htask).1
    obtain ⟨haccepting, hempty⟩ := hgate rfl
    have hturn : c.turn = some (.shutdown k) := turn_of_not_suspended h htask rfl
    refine ⟨fun n => ?_, fun c' hlater => ?_⟩
    · cases hcall : c.tasks (.call n) with
      | none => rfl
      | some p =>
        have hother : c.turn ≠ some (.call n) := by
          rw [hturn]
          exact nofun
        have hin := mem_inflight_of_waiting h hcall hother
        rw [hempty] at hin
        exact absurd hin (Finset.notMem_empty n)
    · have hsub := (later_admitsNothing h haccepting hlater).2.2
      rw [hempty] at hsub
      exact Finset.subset_empty.1 hsub
  · exact (hinv.pending x hx).2 (hinv.permit_inflight _ _ (hinv.lease_permit _ _ hlease))
  · have hpost := hkept.finish (turn_of_not_suspended h htask rfl) htask
    cases r with
    | ok response => exact .inl ⟨response, rfl⟩
    | error e =>
      obtain ⟨error, rfl⟩ := hpost.2.resolve_right fun hcancelled =>
        Bool.noConfusion (haccepting.symm.trans hcancelled.2)
      exact .inr ⟨error, rfl⟩

theorem shutdown_safe_expired : ∃ (c : Tasks String String) (x : Expiry),
    Reachable caveRegistry plainEncoder c ∧ c.turn ≠ some (.shutdown 0) ∧
      c.shared.expiries 0 = some x ∧ x.expired = true ∧ x.inflight = {0} ∧
      ShutdownSafe caveRegistry plainEncoder c := by
  obtain ⟨c, -, -, h, hturn, hnew, -, hshared⟩ := reachable_waiting
  have hinflight : ∀ n, n ∈ [0] ↔ n ∈ c.shared.inflight := by
    rw [hshared]
    exact fun n => List.mem_singleton.trans Finset.mem_singleton.symm
  have hactive : [] = c.shared.active.entries.map (·.2) := by
    rw [hshared]
    rfl
  have h₀ := h.step (.start hturn hnew ⟨1, 0, .inr (.inl rfl)⟩)
  have h₁ := System.Reachable.act h₀ (i := .shutdown 0) rfl (.inr rfl) (.ok ()) _ rfl
  have h₂ := System.Reachable.act h₁ (i := .shutdown 0) rfl (.inr rfl) (.ok ()) _ rfl
  have h₃ := System.Reachable.act h₂ (i := .shutdown 0) rfl (.inr rfl) (.ok (0 : ℚ)) _ rfl
  have h₄ := System.Reachable.act h₃ (i := .shutdown 0) rfl (.inr rfl) (.ok ()) _ rfl
  have h₅ := System.Reachable.act h₄ (i := .shutdown 0) rfl (.inr rfl) (.ok [0]) _ ⟨hinflight, rfl⟩
  have h₆ := System.Reachable.act h₅ (i := .shutdown 0) rfl (.inr rfl) (.ok []) _ ⟨hactive, rfl⟩
  have h₇ := System.Reachable.act h₆ (i := .shutdown 0) rfl (.inr rfl) (.ok true) _ rfl
  have h₈ := System.Reachable.act h₇ (i := .shutdown 0) rfl (.inr rfl) (.ok ()) _ rfl
  have h₉ := System.Reachable.act h₈ (i := .shutdown 0) rfl (.inr rfl) (.ok ()) _ rfl
  exact ⟨_, _, h₉, nofun, rfl, rfl, congrArg Executor.inflight hshared, shutdown_safe h₉⟩

end

end QueryMan.PostgresQueryExecutor
