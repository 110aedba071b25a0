import QueryMan.GuardedQuery.ExecutorTasks

/-!
# The contract of the executor's tasks

What the calls of `execute` and of the shutdown methods rely on and owe each other. The invariant
`Conserved` ties the semaphores, the leases and `_active` to the calls that hold them; each
operation has a gate that says what its task must hold, and `execute_meets` and `shutdown_meets`
show that the programs keep to the gates in whatever way their awaits end.
-/

namespace QueryMan.PostgresQueryExecutor

open Coro

/-! ## The invariant -/

/-- The resources of an executor, with who holds them. -/
structure Conserved (registry : SourceRegistry) (s : Executor) : Prop where
  /-- a semaphore has the limit of its source, and counts the permits that are not held -/
  semaphore : ∀ sourceId sem, s.semaphores sourceId = some sem →
    (∃ source, registry.get sourceId = some source ∧
      sem.limit = source.budget.maxConcurrentQueries) ∧
    sem.value + (s.permits sourceId).card = sem.limit
  noSemaphore : ∀ sourceId, s.semaphores sourceId = none → s.permits sourceId = ∅
  onePermit : ∀ n sourceId sourceId', n ∈ s.permits sourceId → n ∈ s.permits sourceId' →
    sourceId = sourceId'
  permit_inflight : ∀ n sourceId, n ∈ s.permits sourceId → n ∈ s.inflight
  lease_permit : ∀ n connection, s.leases n = some connection →
    n ∈ s.permits connection.sourceId
  lease_unique : ∀ n m connection, s.leases n = some connection → s.leases m = some connection →
    n = m
  active_lease : ∀ queryId query, s.active.lookup queryId = some query →
    s.leases query.task = some query.connection
  /-- every permit is released once, or not yet -/
  returned : ∀ n, (∀ sourceId, n ∉ s.permits sourceId) → s.acquired n = s.released n
  held : ∀ n sourceId, n ∈ s.permits sourceId → s.acquired n = s.released n + 1
  /-- a pending `cancel_safe` knows all calls in flight -/
  pending : ∀ x ∈ s.pending, s.accepting = false ∧ s.inflight ⊆ x.inflight

/-- No record of the call is registered. -/
def Unregistered (n : Nat) (s : Executor) : Prop :=
  ∀ queryId query, s.active.lookup queryId = some query → query.task ≠ n

section

variable {registry : SourceRegistry} {s : Executor} {n : Nat} {sourceId : String}

theorem conserved_initial : Conserved registry .initial where
  semaphore := nofun
  noSemaphore := fun _ _ => rfl
  onePermit := fun _ _ _ h => absurd h (Finset.notMem_empty _)
  permit_inflight := fun _ _ h => absurd h (Finset.notMem_empty _)
  lease_permit := nofun
  lease_unique := nofun
  active_lease := fun queryId query h => by
    rw [Executor.initial, AList.lookup_empty] at h
    cases h
  returned := fun _ _ => rfl
  held := fun _ _ h => absurd h (Finset.notMem_empty _)
  pending := fun _ h => absurd h List.not_mem_nil

theorem Conserved.addInflight (h : Conserved registry s) (haccepting : s.accepting = true) :
    Conserved registry { s with inflight := insert n s.inflight } where
  semaphore := h.semaphore
  noSemaphore := h.noSemaphore
  onePermit := h.onePermit
  permit_inflight := fun m sid hm => Finset.mem_insert_of_mem (h.permit_inflight m sid hm)
  lease_permit := h.lease_permit
  lease_unique := h.lease_unique
  active_lease := h.active_lease
  returned := h.returned
  held := h.held
  pending := fun x hx => Bool.noConfusion (haccepting.symm.trans (h.pending x hx).1)

theorem Conserved.discardInflight (h : Conserved registry s) (hno : ∀ sid, n ∉ s.permits sid) :
    Conserved registry { s with inflight := s.inflight.erase n } where
  semaphore := h.semaphore
  noSemaphore := h.noSemaphore
  onePermit := h.onePermit
  permit_inflight := fun m sid hm => Finset.mem_erase.2
    ⟨fun heq => hno sid (heq ▸ hm), h.permit_inflight m sid hm⟩
  lease_permit := h.lease_permit
  lease_unique := h.lease_unique
  active_lease := h.active_lease
  returned := h.returned
  held := h.held
  pending := fun x hx => ⟨(h.pending x hx).1, (Finset.erase_subset n _).trans (h.pending x hx).2⟩

/-- A new semaphore has all its permits. -/
theorem Conserved.setdefault {source : SourceProfile} (h : Conserved registry s)
    (hsource : registry.get sourceId = some source) :
    Conserved registry (s.setdefault sourceId source.budget.maxConcurrentQueries) := by
  rw [Executor.setdefault]
  split
  · exact h
  · next hnone =>
    refine { h with semaphore := fun sid sem hsem => ?_, noSemaphore := fun sid hsem => ?_ }
    · change Function.update s.semaphores sourceId _ sid = some sem at hsem
      by_cases hsid : sid = sourceId
      · subst hsid
        rw [Function.update_self] at hsem
        cases hsem
        refine ⟨⟨source, hsource, rfl⟩, ?_⟩
        change source.budget.maxConcurrentQueries + (s.permits sid).card = _
        rw [h.noSemaphore sid hnone]
        rfl
      · rw [Function.update_of_ne hsid] at hsem
        exact h.semaphore sid sem hsem
    · change Function.update s.semaphores sourceId _ sid = none at hsem
      by_cases hsid : sid = sourceId
      · subst hsid
        rw [Function.update_self] at hsem
        cases hsem
      · rw [Function.update_of_ne hsid] at hsem
        exact h.noSemaphore sid hsem

/-- The permits of a source after an update. -/
theorem mem_update_permits {permits : String → Finset Nat} {calls : Finset Nat} {m : Nat}
    {sid : String} : m ∈ Function.update permits sourceId calls sid ↔
      if sid = sourceId then m ∈ calls else m ∈ permits sid := by
  by_cases hsid : sid = sourceId
  · subst hsid
    rw [Function.update_self, if_pos rfl]
  · rw [Function.update_of_ne hsid, if_neg hsid]

theorem Conserved.acquire {sem : Semaphore} (h : Conserved registry s)
    (hsem : s.semaphores sourceId = some sem) (hvalue : 0 < sem.value) (hin : n ∈ s.inflight)
    (hno : ∀ sid, n ∉ s.permits sid) : Conserved registry (s.acquire n sourceId sem) := by
  have hmem : ∀ m sid, m ∈ (s.acquire n sourceId sem).permits sid ↔
      m ∈ s.permits sid ∨ (m = n ∧ sid = sourceId) := by
    intro m sid
    change m ∈ Function.update s.permits sourceId (insert n (s.permits sourceId)) sid ↔ _
    rw [mem_update_permits]
    split
    · next hsid => rw [Finset.mem_insert, hsid, or_comm, and_iff_left rfl]
    · next hsid => rw [or_iff_left fun hand => hsid hand.2]
  refine { h with
    semaphore := fun sid sem' hsem' => ?_
    noSemaphore := fun sid hnone => ?_
    onePermit := fun m sid sid' hm hm' => ?_
    permit_inflight := fun m sid hm => ?_
    lease_permit := fun m c hc => (hmem _ _).2 (.inl (h.lease_permit m c hc))
    returned := fun m hm => ?_
    held := fun m sid hm => ?_ }
  · change Function.update s.semaphores sourceId _ sid = some sem' at hsem'
    change _ ∧ sem'.value + (Function.update s.permits sourceId _ sid).card = sem'.limit
    by_cases hsid : sid = sourceId
    · subst hsid
      rw [Function.update_self] at hsem' ⊢
      cases hsem'
      obtain ⟨hlimit, hcount⟩ := h.semaphore sid sem hsem
      refine ⟨hlimit, ?_⟩
      rw [Finset.card_insert_of_notMem (hno sid)]
      change sem.value - 1 + _ = sem.limit
      omega
    · rw [Function.update_of_ne hsid] at hsem' ⊢
      exact h.semaphore sid sem' hsem'
  · change Function.update s.semaphores sourceId _ sid = none at hnone
    by_cases hsid : sid = sourceId
    · subst hsid
      rw [Function.update_self] at hnone
      cases hnone
    · rw [Function.update_of_ne hsid] at hnone
      change Function.update s.permits sourceId _ sid = ∅
      rw [Function.update_of_ne hsid]
      exact h.noSemaphore sid hnone
  · rcases (hmem _ _).1 hm with hold | ⟨rfl, rfl⟩ <;>
      rcases (hmem _ _).1 hm' with hold' | ⟨heq, rfl⟩
    · exact h.onePermit m sid sid' hold hold'
    · exact absurd (heq ▸ hold) (hno sid)
    · exact absurd hold' (hno sid')
    · rfl
  · rcases (hmem _ _).1 hm with hm | ⟨rfl, -⟩
    · exact h.permit_inflight m sid hm
    · exact hin
  · have hne : m ≠ n := fun heq => hm sourceId ((hmem _ _).2 (.inr ⟨heq, rfl⟩))
    change Function.update s.acquired n _ m = _
    rw [Function.update_of_ne hne]
    exact h.returned m fun sid hsid => hm sid ((hmem _ _).2 (.inl hsid))
  · change Function.update s.acquired n _ m = _
    by_cases hne : m = n
    · subst hne
      rw [Function.update_self]
      exact congrArg (· + 1) (h.returned m hno)
    · rw [Function.update_of_ne hne]
      exact h.held m sid (((hmem _ _).1 hm).resolve_right fun hand => hne hand.1)

theorem Conserved.release (h : Conserved registry s) (hheld : n ∈ s.permits sourceId)
    (hlease : s.leases n = none) : Conserved registry (s.release n sourceId) := by
  have hmem : ∀ m sid, m ∈ (s.release n sourceId).permits sid ↔ m ∈ s.permits sid ∧ m ≠ n := by
    intro m sid
    change m ∈ Function.update s.permits sourceId ((s.permits sourceId).erase n) sid ↔ _
    rw [mem_update_permits]
    split
    · next hsid => rw [Finset.mem_erase, hsid, and_comm]
    · next hsid =>
      refine (and_iff_left_of_imp fun hm heq => ?_).symm
      exact hsid (h.onePermit n sid sourceId (heq ▸ hm) hheld)
  refine { h with
    semaphore := fun sid sem' hsem' => ?_
    noSemaphore := fun sid hnone => ?_
    onePermit := fun m sid sid' hm hm' =>
      h.onePermit m sid sid' ((hmem _ _).1 hm).1 ((hmem _ _).1 hm').1
    permit_inflight := fun m sid hm => h.permit_inflight m sid ((hmem _ _).1 hm).1
    lease_permit := fun m c hc => (hmem _ _).2 ⟨h.lease_permit m c hc, fun heq => ?_⟩
    returned := fun m hm => ?_
    held := fun m sid hm => ?_ }
  · change Function.update s.semaphores sourceId _ sid = some sem' at hsem'
    change _ ∧ sem'.value + (Function.update s.permits sourceId _ sid).card = sem'.limit
    by_cases hsid : sid = sourceId
    · subst hsid
      rw [Function.update_self] at hsem' ⊢
      obtain ⟨sem, hsem, rfl⟩ := Option.map_eq_some_iff.1 hsem'
      obtain ⟨hlimit, hcount⟩ := h.semaphore sid sem hsem
      refine ⟨hlimit, ?_⟩
      have hcard := Finset.card_erase_add_one hheld
      change sem.value + 1 + _ = sem.limit
      omega
    · rw [Function.update_of_ne hsid] at hsem' ⊢
      exact h.semaphore sid sem' hsem'
  · change Function.update s.semaphores sourceId _ sid = none at hnone
    change Function.update s.permits sourceId _ sid = ∅
    by_cases hsid : sid = sourceId
    · subst hsid
      rw [Function.update_self, Option.map_eq_none_iff] at hnone
      rw [Function.update_self, h.noSemaphore sid hnone]
      rfl
    · rw [Function.update_of_ne hsid] at hnone ⊢
      exact h.noSemaphore sid hnone
  · subst heq
    have hc : s.leases m = some c := hc
    rw [hlease] at hc
    cases hc
  · change s.acquired m = Function.update s.released n _ m
    by_cases hne : m = n
    · subst hne
      rw [Function.update_self]
      exact h.held m sourceId hheld
    · rw [Function.update_of_ne hne]
      exact h.returned m fun sid hsid => hm sid ((hmem _ _).2 ⟨hsid, hne⟩)
  · obtain ⟨hm, hne⟩ := (hmem _ _).1 hm
    change s.acquired m = Function.update s.released n _ m + 1
    rw [Function.update_of_ne hne]
    exact h.held m sid hm

theorem Conserved.lease {connection : Connection} (h : Conserved registry s)
    (hheld : n ∈ s.permits connection.sourceId) (hfree : ∀ m, s.leases m ≠ some connection)
    (hnone : s.leases n = none) : Conserved registry (s.setLease n (some connection)) := by
  have hlease : ∀ m c, (s.setLease n (some connection)).leases m = some c ↔
      s.leases m = some c ∨ (m = n ∧ c = connection) := by
    intro m c
    change Function.update s.leases n _ m = some c ↔ _
    by_cases hne : m = n
    · subst hne
      rw [Function.update_self, hnone, Option.some_inj]
      simp [eq_comm]
    · rw [Function.update_of_ne hne, or_iff_left fun hand => hne hand.1]
  refine { h with
    lease_permit := fun m c hc => ?_
    lease_unique := fun m m' c hc hc' => ?_
    active_lease := fun queryId query hquery => (hlease _ _).2 (.inl (h.active_lease _ _ hquery)) }
  · rcases (hlease _ _).1 hc with hc | ⟨rfl, rfl⟩
    · exact h.lease_permit m c hc
    · exact hheld
  · rcases (hlease _ _).1 hc with hold | ⟨rfl, rfl⟩ <;>
      rcases (hlease _ _).1 hc' with hold' | ⟨rfl, heq⟩
    · exact h.lease_unique m m' c hold hold'
    · exact absurd (heq ▸ hold) (hfree m)
    · exact absurd hold' (hfree m')
    · rfl

theorem Conserved.giveBack (h : Conserved registry s) (hno : Unregistered n s) :
    Conserved registry (s.setLease n none) := by
  have hlease : ∀ m c, (s.setLease n none).leases m = some c → m ≠ n ∧ s.leases m = some c := by
    intro m c hc
    change Function.update s.leases n none m = some c at hc
    by_cases hne : m = n
    · subst hne
      rw [Function.update_self] at hc
      cases hc
    · rw [Function.update_of_ne hne] at hc
      exact ⟨hne, hc⟩
  refine { h with
    lease_permit := fun m c hc => h.lease_permit m c (hlease m c hc).2
    lease_unique := fun m m' c hc hc' => h.lease_unique m m' c (hlease m c hc).2 (hlease m' c hc').2
    active_lease := fun queryId query hquery => ?_ }
  change Function.update s.leases n none query.task = _
  rw [Function.update_of_ne (hno queryId query hquery)]
  exact h.active_lease queryId query hquery

theorem Conserved.register {queryId : String} {connection : Connection} (h : Conserved registry s)
    (hlease : s.leases n = some connection) :
    Conserved registry (s.register n queryId connection) := by
  refine { h with active_lease := fun id query hquery => ?_ }
  change (s.active.insert queryId ⟨connection, n⟩).lookup id = some query at hquery
  by_cases hid : id = queryId
  · subst hid
    rw [AList.lookup_insert] at hquery
    cases hquery
    exact hlease
  · rw [AList.lookup_insert_ne hid] at hquery
    exact h.active_lease id query hquery

/-- What is left after an entry is removed was there before. -/
theorem lookup_of_erase {active : AList fun _ : String => ActiveQuery} {queryId id : String}
    {query : ActiveQuery} (h : (active.erase queryId).lookup id = some query) :
    id ≠ queryId ∧ active.lookup id = some query := by
  have hne : id ≠ queryId := by
    rintro rfl
    rw [AList.lookup_erase] at h
    cases h
  rw [AList.lookup_erase_ne hne] at h
  exact ⟨hne, h⟩

theorem Conserved.popActive {queryId : String} (h : Conserved registry s) :
    Conserved registry { s with active := s.active.erase queryId } :=
  { h with active_lease :=
    fun id query hquery => h.active_lease id query (lookup_of_erase hquery).2 }

end

/-! ## The contract -/

/-- What the others leave a call of `execute`. -/
structure CallUntouched (n : Nat) (s s' : Executor) : Prop where
  inflight : n ∈ s'.inflight ↔ n ∈ s.inflight
  permits : ∀ sourceId, n ∈ s'.permits sourceId ↔ n ∈ s.permits sourceId
  leases : s'.leases n = s.leases n
  active : ∀ queryId query, s'.active.lookup queryId = some query → query.task = n →
    s.active.lookup queryId = some query

/-- What the others leave a shutdown. -/
structure ShutdownUntouched (k : Nat) (s s' : Executor) : Prop where
  accepting : s.accepting = false → s'.accepting = false
  expiries : s'.expiries k = s.expiries k

/-- What a task relies on. -/
def untouched : TaskId → Executor → Executor → Prop
  | .call n => CallUntouched n
  | .shutdown k => ShutdownUntouched k

/-- What a call must hold for an operation. -/
def callGate (registry : SourceRegistry) (n : Nat) (s : Executor) : Op → Prop
  | .semaphore sourceId limit => ∃ source, registry.get sourceId = some source ∧
    limit = source.budget.maxConcurrentQueries
  | .addInflight => s.accepting = true
  | .discardInflight => ∀ sourceId, n ∉ s.permits sourceId
  | .acquireSemaphore _ _ => ∀ sourceId, n ∉ s.permits sourceId
  | .releaseSemaphore sourceId => n ∈ s.permits sourceId ∧ s.leases n = none
  | .leaseConnection sourceId _ => n ∈ s.permits sourceId ∧ s.leases n = none
  | .returnConnection _ => s.leases n ≠ none ∧ Unregistered n s
  | .addActive _ => s.leases n ≠ none
  | _ => True

/-- Every task that was in flight is cancelled, or `cancel_safe` is called on the connection that it
had leased. -/
def Expiry.Covered (x : Expiry) : Prop :=
  ∀ n ∈ x.inflight, n ∈ x.cancelled ∨ ∃ connection ∈ x.cancelSafe, x.leases n = some connection

/-- A shutdown whose grace has expired has covered the tasks that it saw then. -/
def Settled (k : Nat) (s : Executor) : Prop :=
  ∀ x, s.expiries k = some x → x.expired = true → x.Covered

/-- What a shutdown must know for an operation. -/
def shutdownGate (k : Nat) (s : Executor) : ShutdownOp → Prop
  | .increment name _ => name = "shutdown_drained" → s.accepting = false ∧ s.inflight = ∅
  | .startCancelSafe _ => s.accepting = false ∧
    ∃ x, s.expiries k = some x ∧ s.inflight ⊆ x.inflight
  | _ => True

/-- The gates: a call is suspended only while it is in flight, and a shutdown only when it is
settled. -/
def taskGate (registry : SourceRegistry) : (i : TaskId) → Executor → TaskOp i → Prop
  | .call n, s, o => (o.suspends = true → n ∈ s.inflight) ∧ callGate registry n s o
  | .shutdown k, s, o => (o.suspends = true → Settled k s) ∧ shutdownGate k s o

/-- What holds of a task that is not running. -/
def taskIdle : TaskId → Executor → Prop
  | .call n, s => n ∉ s.inflight
  | .shutdown k, s => Settled k s

/-- What a call may raise: an `AppError`, or its cancellation while the executor accepts queries. -/
def Proper (s : Executor) (e : Exc) : Prop :=
  (∃ error, e = .app error) ∨ (e.isCancelled = true ∧ s.accepting = true)

/-- What holds when a task raises. -/
def taskRaised : TaskId → Exc → Executor → Prop
  | .call n, e, s => n ∉ s.inflight ∧ Proper s e
  | .shutdown k, _, s => Settled k s

/-- The contract. -/
def contract {Row Json : Type} (registry : SourceRegistry) (encodeRow : RowEncoder Row Json) :
    Contract (system registry encodeRow) where
  inv := Conserved registry
  rely := untouched
  gate := taskGate registry
  idle := taskIdle
  returned := fun i _ => taskIdle i
  raised := taskRaised

section

variable {registry : SourceRegistry} {s s' s'' : Executor} {n m k : Nat}

theorem CallUntouched.refl : CallUntouched n s s :=
  ⟨Iff.rfl, fun _ => Iff.rfl, rfl, fun _ _ h _ => h⟩

theorem CallUntouched.trans (h : CallUntouched n s s') (h' : CallUntouched n s' s'') :
    CallUntouched n s s'' :=
  ⟨h'.inflight.trans h.inflight, fun sid => (h'.permits sid).trans (h.permits sid),
    h'.leases.trans h.leases,
    fun id query hquery htask => h.active id query (h'.active id query hquery htask) htask⟩

theorem ShutdownUntouched.refl : ShutdownUntouched k s s :=
  ⟨fun h => h, rfl⟩

theorem ShutdownUntouched.trans (h : ShutdownUntouched k s s') (h' : ShutdownUntouched k s' s'') :
    ShutdownUntouched k s s'' :=
  ⟨fun haccepting => h'.accepting (h.accepting haccepting), h'.expiries.trans h.expiries⟩

/-- A state that differs in nothing that a call can hold. -/
theorem CallUntouched.of_eq (hinflight : s'.inflight = s.inflight)
    (hpermits : s'.permits = s.permits)
    (hleases : s'.leases = s.leases) (hactive : s'.active = s.active) : CallUntouched n s s' := by
  refine ⟨?_, fun sid => ?_, ?_, fun id query hquery _ => ?_⟩
  · rw [hinflight]
  · rw [hpermits]
  · rw [hleases]
  · rw [← hactive]
    exact hquery

/-! ## What a call does to the others -/

/-- The operations that take, give back or register nothing. -/
def Op.isNeutral : Op → Bool
  | .addInflight | .discardInflight | .semaphore _ _ | .acquireSemaphore _ _ => false
  | .releaseSemaphore _ | .leaseConnection _ _ | .returnConnection _ => false
  | .addActive _ | .popActive _ => false
  | _ => true

variable {Row : Type} {o : Op}

/-- A neutral operation changes the pools at most. -/
theorem callStep_neutral {r : Except Exc (Ret Row o)} (ho : o.isNeutral = true)
    (h : callStep n s o r s') : s' = s ∨ ∃ pools, s' = { s with pools := pools } := by
  cases o <;> first
    | (cases ho; done)
    | (cases r with
      | error e => exact .inl h.2.2
      | ok a => first
        | exact .inl h
        | exact .inl h.2
        | exact .inr ⟨_, h⟩)

/-- An exception changes nothing, but that the lease is given back at the end of its block. -/
theorem callStep_error (Row : Type) (n : Nat) {e : Exc}
    (ho : ∀ raised, o ≠ .returnConnection raised)
    (h : callStep n s o (.error e : Except Exc (Ret Row o)) s') :
    o.canRaise e = true ∧ (e.isCancelled = true → o.suspends = true) ∧ s' = s := by
  cases o <;> first
    | exact absurd rfl (ho _)
    | exact h

/-- What an operation of a call can do to the executor. -/
inductive CallEffect (n : Nat) (s : Executor) : Op → Executor → Prop where
  | nothing (o : Op) : CallEffect n s o s
  | pools (o : Op) (pools : List String) : CallEffect n s o { s with pools := pools }
  | addInflight : CallEffect n s .addInflight { s with inflight := insert n s.inflight }
  | discardInflight : CallEffect n s .discardInflight { s with inflight := s.inflight.erase n }
  | setdefault (sourceId : String) (limit : Nat) :
      CallEffect n s (.semaphore sourceId limit) (s.setdefault sourceId limit)
  | acquire (sourceId : String) (timeoutMs : Nat) (sem : Semaphore)
      (hsem : s.semaphores sourceId = some sem) (hvalue : 0 < sem.value) :
      CallEffect n s (.acquireSemaphore sourceId timeoutMs) (s.acquire n sourceId sem)
  | release (sourceId : String) :
      CallEffect n s (.releaseSemaphore sourceId) (s.release n sourceId)
  | lease (timeoutMs : Nat) (connection : Connection) (hfree : ∀ m, s.leases m ≠ some connection) :
      CallEffect n s (.leaseConnection connection.sourceId timeoutMs)
        (s.setLease n (some connection))
  | giveBack (raised : Bool) : CallEffect n s (.returnConnection raised) (s.setLease n none)
  | register (queryId : String) (connection : Connection)
      (hlease : s.leases n = some connection) :
      CallEffect n s (.addActive queryId) (s.register n queryId connection)
  | popActive (queryId : String) :
      CallEffect n s (.popActive queryId) { s with active := s.active.erase queryId }

theorem callStep_effect {r : Except Exc (Ret Row o)} (h : callStep n s o r s') :
    CallEffect n s o s' := by
  by_cases hneutral : o.isNeutral = true
  · rcases callStep_neutral hneutral h with rfl | ⟨pools, rfl⟩
    · exact .nothing _
    · exact .pools _ _
  by_cases hreturn : ∃ raised, o = .returnConnection raised
  · obtain ⟨raised, rfl⟩ := hreturn
    have hs : s' = s.setLease n none := by
      cases r <;> exact h
    subst hs
    exact .giveBack raised
  cases r with
  | error e =>
    obtain ⟨-, -, rfl⟩ := callStep_error Row n (fun raised heq => hreturn ⟨raised, heq⟩) h
    exact .nothing _
  | ok a =>
    cases o with
    | addInflight => exact h ▸ .addInflight
    | discardInflight => exact h ▸ .discardInflight
    | semaphore sourceId limit => exact h ▸ .setdefault sourceId limit
    | acquireSemaphore sourceId timeoutMs =>
      obtain ⟨sem, hsem, hvalue, rfl⟩ := h
      exact .acquire sourceId timeoutMs sem hsem hvalue
    | releaseSemaphore sourceId => exact h ▸ .release sourceId
    | leaseConnection sourceId timeoutMs =>
      obtain ⟨connection, rfl, hfree, rfl⟩ := h
      exact .lease timeoutMs connection hfree
    | addActive queryId =>
      obtain ⟨connection, hlease, rfl⟩ := h
      exact .register queryId connection hlease
    | popActive queryId => exact h ▸ .popActive queryId
    | returnConnection raised => exact absurd ⟨raised, rfl⟩ hreturn
    | _ => exact absurd rfl hneutral

/-- What a call does is of no concern to a shutdown. -/
theorem callStep_shutdown {r : Except Exc (Ret Row o)} (h : callStep n s o r s') :
    ShutdownUntouched k s s' := by
  cases callStep_effect h with
  | setdefault sourceId limit =>
    rw [Executor.setdefault]
    split <;> exact ⟨fun h => h, rfl⟩
  | _ => exact ⟨fun h => h, rfl⟩

/-- Only an admission adds to the calls in flight. -/
theorem callStep_inflight {r : Except Exc (Ret Row o)} (ho : o ≠ .addInflight)
    (h : callStep n s o r s') : s'.inflight ⊆ s.inflight := by
  cases callStep_effect h with
  | addInflight => exact absurd rfl ho
  | discardInflight => exact Finset.erase_subset _ _
  | setdefault sourceId limit =>
    rw [Executor.setdefault]
    split <;> exact Finset.Subset.refl _
  | _ => exact Finset.Subset.refl _

/-- The permits of another call are not touched by an update for this one. -/
theorem permits_untouched {calls : Finset Nat} {sourceId : String}
    (h : m ∈ calls ↔ m ∈ s.permits sourceId) (sid : String) :
    m ∈ Function.update s.permits sourceId calls sid ↔ m ∈ s.permits sid := by
  rw [mem_update_permits]
  split
  · next hsid => rw [hsid, h]
  · exact Iff.rfl

theorem untouched_setLease {connection : Option Connection} (hne : m ≠ n) :
    CallUntouched m s (s.setLease n connection) :=
  ⟨Iff.rfl, fun _ => Iff.rfl, Function.update_of_ne hne .., fun _ _ h _ => h⟩

/-- **What a call does keeps the invariant and leaves the other calls what they have.** -/
theorem callStep_guarantee {r : Except Exc (Ret Row o)} (hinv : Conserved registry s)
    (hgate : (o.suspends = true → n ∈ s.inflight) ∧ callGate registry n s o)
    (h : callStep n s o r s') :
    Conserved registry s' ∧ ∀ m, m ≠ n → CallUntouched m s s' := by
  cases callStep_effect h with
  | nothing => exact ⟨hinv, fun _ _ => .refl⟩
  | pools o pools => exact ⟨{ hinv with }, fun _ _ => .of_eq rfl rfl rfl rfl⟩
  | addInflight =>
    refine ⟨hinv.addInflight hgate.2, fun m hne => ⟨?_, fun _ => Iff.rfl, rfl, fun _ _ h _ => h⟩⟩
    exact Finset.mem_insert.trans (or_iff_right hne)
  | discardInflight =>
    refine ⟨hinv.discardInflight hgate.2, fun m hne =>
      ⟨?_, fun _ => Iff.rfl, rfl, fun _ _ h _ => h⟩⟩
    exact Finset.mem_erase.trans (and_iff_right hne)
  | setdefault sourceId limit =>
    obtain ⟨source, hsource, rfl⟩ := hgate.2
    refine ⟨hinv.setdefault hsource, fun m _ => ?_⟩
    rw [Executor.setdefault]
    split <;> exact .of_eq rfl rfl rfl rfl
  | acquire sourceId timeoutMs sem hsem hvalue =>
    refine ⟨hinv.acquire hsem hvalue (hgate.1 rfl) hgate.2, fun m hne =>
      ⟨Iff.rfl, permits_untouched ?_, rfl, fun _ _ h _ => h⟩⟩
    exact Finset.mem_insert.trans (or_iff_right hne)
  | release sourceId =>
    refine ⟨hinv.release hgate.2.1 hgate.2.2, fun m hne =>
      ⟨Iff.rfl, permits_untouched ?_, rfl, fun _ _ h _ => h⟩⟩
    exact Finset.mem_erase.trans (and_iff_right hne)
  | lease timeoutMs connection hfree =>
    exact ⟨hinv.lease hgate.2.1 hfree hgate.2.2, fun m hne => untouched_setLease hne⟩
  | giveBack raised => exact ⟨hinv.giveBack hgate.2.2, fun _ hne => untouched_setLease hne⟩
  | register queryId connection hlease =>
    refine ⟨hinv.register hlease, fun m hne =>
      ⟨Iff.rfl, fun _ => Iff.rfl, rfl, fun id query hquery htask => ?_⟩⟩
    change (s.active.insert queryId ⟨connection, n⟩).lookup id = some query at hquery
    by_cases hid : id = queryId
    · subst hid
      rw [AList.lookup_insert] at hquery
      cases hquery
      exact absurd htask.symm hne
    · rw [AList.lookup_insert_ne hid] at hquery
      exact hquery
  | popActive queryId =>
    exact ⟨hinv.popActive, fun m _ =>
      ⟨Iff.rfl, fun _ => Iff.rfl, rfl, fun _ _ hquery _ => (lookup_of_erase hquery).2⟩⟩

/-! ## What a shutdown does to the others -/

/-- The operations of a shutdown that change the executor. -/
theorem shutdownStep_cases {o : ShutdownOp} {r : Except Exc (ShutdownRet o)}
    (h : shutdownStep k s o r s') :
    s' = s ∨ s' = { s with accepting := false } ∨ (∃ f, s' = s.updateExpiry k f) ∨
      s' = s.observeInflight k ∨ (∃ reasons, s' = { s with reasons := reasons }) ∨
      (∃ connections, o = .startCancelSafe connections ∧ s' = s.startCancelSafe k connections) ∨
      ∃ pools, s' = { s with pools := pools } := by
  cases r with
  | error e => cases o <;> exact .inl h.2.2
  | ok a =>
    cases o with
    | stopAccepting => exact .inr (.inl h)
    | accepting => exact .inl h.2
    | deadlineReached deadline => exact .inr (.inr (.inl ⟨_, h⟩))
    | inflight => exact .inr (.inr (.inr (.inl h.2)))
    | active => exact .inl h.2
    | cancelTask task => exact .inr (.inr (.inl ⟨_, h⟩))
    | setCancelReason query => exact .inr (.inr (.inr (.inr (.inl ⟨_, h⟩))))
    | startCancelSafe connections => exact .inr (.inr (.inr (.inr (.inr (.inl ⟨_, rfl, h⟩)))))
    | waitTasks tasks => exact .inl h.2
    | nextPool size index => exact .inl h.2.2
    | poolCount => exact .inl h.2
    | clearPools => exact .inr (.inr (.inr (.inr (.inr (.inr ⟨_, h⟩)))))
    | _ => exact .inl h

/-- The records of another shutdown. -/
theorem shutdown_untouched {expiries : Nat → Option Expiry} {x : Option Expiry} {j : Nat}
    (hne : j ≠ k) (h : expiries = Function.update s.expiries k x) : expiries j = s.expiries j := by
  rw [h, Function.update_of_ne hne]

/-- **What a shutdown does keeps the invariant and leaves the calls what they have.** -/
theorem shutdownStep_guarantee {o : ShutdownOp} {r : Except Exc (ShutdownRet o)}
    (hinv : Conserved registry s) (hgate : shutdownGate k s o) (h : shutdownStep k s o r s') :
    Conserved registry s' ∧ (∀ n, CallUntouched n s s') ∧
      ∀ j, j ≠ k → ShutdownUntouched j s s' := by
  rcases shutdownStep_cases h with rfl | rfl | ⟨f, rfl⟩ | rfl | ⟨reasons, rfl⟩ |
    ⟨connections, rfl, rfl⟩ | ⟨pools, rfl⟩
  · exact ⟨hinv, fun _ => .refl, fun _ _ => .refl⟩
  · exact ⟨{ hinv with pending := fun x hx => ⟨rfl, (hinv.pending x hx).2⟩ },
      fun _ => .of_eq rfl rfl rfl rfl, fun _ _ => ⟨fun _ => rfl, rfl⟩⟩
  · exact ⟨{ hinv with }, fun _ => .of_eq rfl rfl rfl rfl,
      fun _ hne => ⟨fun h => h, shutdown_untouched hne rfl⟩⟩
  · exact ⟨{ hinv with }, fun _ => .of_eq rfl rfl rfl rfl,
      fun _ hne => ⟨fun h => h, shutdown_untouched hne rfl⟩⟩
  · exact ⟨{ hinv with }, fun _ => .of_eq rfl rfl rfl rfl, fun _ _ => ⟨fun h => h, rfl⟩⟩
  · obtain ⟨haccepting, x, hx, hsub⟩ := hgate
    refine ⟨{ hinv with pending := fun y hy => ?_ }, fun _ => .of_eq rfl rfl rfl rfl,
      fun _ hne => ⟨fun h => h, shutdown_untouched hne rfl⟩⟩
    rcases List.mem_append.1 hy with hy | hy
    · exact hinv.pending y hy
    · obtain ⟨connection, -, rfl⟩ := List.mem_map.1 hy
      refine ⟨haccepting, ?_⟩
      rw [hx]
      exact hsub
  · exact ⟨{ hinv with }, fun _ => .of_eq rfl rfl rfl rfl, fun _ _ => ⟨fun h => h, rfl⟩⟩

/-- A pending `cancel_safe` that ends is forgotten. -/
theorem cancelSafeEnds_guarantee (hinv : Conserved registry s) (h : cancelSafeEnds s s') :
    Conserved registry s' ∧ ∀ i, untouched i s s' := by
  obtain ⟨before, x, after, hpending, rfl⟩ := h
  refine ⟨{ hinv with pending := fun y hy => hinv.pending y ?_ }, fun i => ?_⟩
  · rw [hpending]
    rcases List.mem_append.1 hy with hy | hy
    · exact List.mem_append_left _ hy
    · exact List.mem_append_right _ (List.mem_cons_of_mem _ hy)
  · cases i with
    | call n => exact CallUntouched.of_eq rfl rfl rfl rfl
    | shutdown k => exact ⟨fun h => h, rfl⟩

end

end QueryMan.PostgresQueryExecutor
