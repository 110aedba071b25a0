import QueryMan.GuardedQuery.ExecutorContract

/-!
# Calls keep the contract

`execute` passes through four states: it is in flight, it holds a permit, it has leased a
connection, and its record is registered. Each context manager and `finally` takes it from one to
the next and back, in whatever way the part inside ends, and every other operation leaves it where
it is (`execute_meets`).
-/

namespace QueryMan.PostgresQueryExecutor

open Coro

/-! ## The states of a call -/

/-- The call is in flight and holds no permit. -/
def InFlight (n : Nat) (s : Executor) : Prop :=
  n ∈ s.inflight ∧ ∀ sourceId, n ∉ s.permits sourceId

/-- The call holds a permit and has leased no connection. -/
def Permitted (n : Nat) (sourceId : String) (s : Executor) : Prop :=
  n ∈ s.permits sourceId ∧ s.leases n = none

/-- The call has leased a connection of the source. -/
def Leasing (n : Nat) (sourceId : String) (s : Executor) : Prop :=
  ∃ connection, s.leases n = some connection ∧ connection.sourceId = sourceId

/-- The call has leased a connection, and no record of it is registered. -/
def Leased (n : Nat) (sourceId : String) (s : Executor) : Prop :=
  Leasing n sourceId s ∧ Unregistered n s

/-- The call has leased a connection, and its record is registered under its query id at most. -/
def Registered (n : Nat) (sourceId queryId : String) (s : Executor) : Prop :=
  Leasing n sourceId s ∧
    ∀ id query, s.active.lookup id = some query → query.task = n → id = queryId

section

variable {registry : SourceRegistry} {s : Executor} {n : Nat} {sourceId queryId : String}

/-- What the others do does not take the call out of a state. -/
def CallStable (n : Nat) (A : Executor → Prop) : Prop :=
  ∀ s s', CallUntouched n s s' → A s → A s'

theorem stable_notInflight : CallStable n fun s => n ∉ s.inflight :=
  fun _ _ h hno hin => hno (h.inflight.1 hin)

theorem stable_inFlight : CallStable n (InFlight n) :=
  fun _ _ h hs => ⟨h.inflight.2 hs.1, fun sid hsid => hs.2 sid ((h.permits sid).1 hsid)⟩

theorem stable_permitted : CallStable n (Permitted n sourceId) :=
  fun _ _ h hs => ⟨(h.permits sourceId).2 hs.1, h.leases.trans hs.2⟩

theorem stable_leasing : CallStable n (Leasing n sourceId) :=
  fun _ _ h ⟨connection, hlease, hsource⟩ => ⟨connection, h.leases.trans hlease, hsource⟩

theorem stable_leased : CallStable n (Leased n sourceId) :=
  fun s s' h hs => ⟨stable_leasing s s' h hs.1, fun id query hquery htask =>
    hs.2 id query (h.active id query hquery htask) htask⟩

theorem stable_registered : CallStable n (Registered n sourceId queryId) :=
  fun s s' h hs => ⟨stable_leasing s s' h hs.1, fun id query hquery htask =>
    hs.2 id query (h.active id query hquery htask) htask⟩

theorem Leasing.mem_permits (h : Leasing n sourceId s) (hinv : Conserved registry s) :
    n ∈ s.permits sourceId := by
  obtain ⟨connection, hlease, rfl⟩ := h
  exact hinv.lease_permit n connection hlease

theorem Leasing.mem_inflight (h : Leasing n sourceId s) (hinv : Conserved registry s) :
    n ∈ s.inflight :=
  hinv.permit_inflight n sourceId (h.mem_permits hinv)

theorem Leasing.ne_none (h : Leasing n sourceId s) : s.leases n ≠ none := by
  obtain ⟨connection, hlease, -⟩ := h
  rw [hlease]
  exact nofun

/-- A state in which the call is in flight. -/
def InFlightIn (registry : SourceRegistry) (n : Nat) (A : Executor → Prop) : Prop :=
  ∀ s, Conserved registry s → A s → n ∈ s.inflight

/-! ## Operations -/

/-- How a call sees the executor. -/
abbrev callView (Row : Type) (registry : SourceRegistry) (n : Nat) :
    View Executor (Ret Row) Exc where
  resumes := fun s o s₁ =>
    Conserved registry s₁ ∧ if o.suspends then CallUntouched n s s₁ else s₁ = s
  gate := fun s o => (o.suspends = true → n ∈ s.inflight) ∧ callGate registry n s o
  step := callStep n

variable {Row : Type} {A : Executor → Prop}

/-- A stable state is there when the operation is performed. -/
theorem CallStable.resumes {o : Op} {s₁ : Executor} (hA : CallStable n A) (hs : A s)
    (h : (callView Row registry n).resumes s o s₁) : Conserved registry s₁ ∧ A s₁ := by
  refine ⟨h.1, ?_⟩
  have hmoved := h.2
  split at hmoved
  · exact hA s s₁ hmoved hs
  · exact hmoved ▸ hs

/-- A neutral operation leaves the call where it is. -/
theorem neutral_keeps {o : Op} (ho : o.isNeutral = true) (hA : CallStable n A)
    (hin : o.suspends = true → InFlightIn registry n A) :
    SafeKeeps (callView Row registry n) A (perform o) := by
  refine .perform fun s s₁ hs hresumes => ?_
  obtain ⟨hinv, hs₁⟩ := hA.resumes hs hresumes
  refine ⟨⟨fun hsuspends => hin hsuspends s₁ hinv hs₁, ?_⟩, fun r s' hstep => ?_⟩
  · cases o <;> trivial
  · have hs' : A s' := by
      rcases callStep_neutral ho hstep with rfl | ⟨pools, rfl⟩
      · exact hs₁
      · exact hA s₁ _ (.of_eq rfl rfl rfl rfl) hs₁
    cases r <;> exact hs'

/-- An operation that cannot raise here: what it could raise is a cancellation, and it does not
suspend. -/
def Op.IsLocal (o : Op) : Prop :=
  o.suspends = false ∧ ∀ e, o.canRaise e = true → e.isCancelled = true

/-- A local operation is performed in the state in which the call reaches it, and returns. -/
theorem local_step {o : Op} {P : Executor → Prop} {Q : Ret Row o → Executor → Prop}
    {E : Exc → Executor → Prop} (ho : o.IsLocal)
    (hgate : ∀ s, Conserved registry s → P s → callGate registry n s o)
    (hstep : ∀ s a s', Conserved registry s → P s → callStep n s o (.ok a) s' → Q a s') :
    SafeTriple (callView Row registry n) P (perform o) Q E := by
  refine .perform fun s s₁ hs ⟨hinv, hsame⟩ => ?_
  rw [if_neg (Bool.eq_false_iff.1 ho.1)] at hsame
  subst hsame
  refine ⟨⟨fun hsuspends => Bool.noConfusion (ho.1.symm.trans hsuspends), hgate s₁ hinv hs⟩,
    fun r s' h => ?_⟩
  cases r with
  | ok a => exact hstep s₁ a s' hinv hs h
  | error e =>
    have hreturn : ∀ raised, o ≠ .returnConnection raised := by
      rintro raised rfl
      cases ho.1
    obtain ⟨hraise, hsuspends, -⟩ := callStep_error Row n hreturn h
    exact Bool.noConfusion (ho.1.symm.trans (hsuspends (ho.2 e hraise)))

/-- A local operation that changes nothing. -/
theorem still_spec {o : Op} {P : Executor → Prop} {E : Exc → Executor → Prop} (ho : o.IsLocal)
    (hgate : ∀ s, callGate registry n s o)
    (hstill : ∀ s a s', @callStep Row n s o (.ok a) s' → s' = s) :
    SafeTriple (callView Row registry n) P (perform o) (fun _ => P) E :=
  local_step ho (fun s _ _ => hgate s) fun s a s' _ hs h => hstill s a s' h ▸ hs

theorem isLocal_increment {name sourceId : String} : (Op.increment name sourceId).IsLocal :=
  ⟨rfl, fun _ h => by cases h⟩

theorem isLocal_lockActive {part : ActiveSection} : (Op.lockActive part).IsLocal :=
  ⟨rfl, fun _ h => h⟩

/-- Counting changes nothing here. -/
theorem increment_spec {P : Executor → Prop} {E : Exc → Executor → Prop} {name sourceId : String} :
    SafeTriple (callView Row registry n) P (increment name sourceId) (fun _ => P) E :=
  still_spec isLocal_increment (fun _ => trivial) fun _ _ _ h => h

/-- Taking the lock changes nothing here. -/
theorem lockActive_spec {P : Executor → Prop} {E : Exc → Executor → Prop} {part : ActiveSection} :
    SafeTriple (callView Row registry n) P (perform (.lockActive part)) (fun _ => P) E :=
  still_spec isLocal_lockActive (fun _ => trivial) fun _ _ _ h => h

end

section

variable {Row Json : Type} {V : View Executor (Ret Row) Exc} {I : Executor → Prop}
  {source : SourceProfile} {encodeRow : RowEncoder Row Json} {sql metadataRevision : String}
  {validated : ValidatedSql} {queueMs : Int} {queryId : String}

/-! ## The parts that leave the call where it is -/

/-- What every neutral operation keeps. -/
def KeptByNeutral (V : View Executor (Ret Row) Exc) (I : Executor → Prop) : Prop :=
  ∀ o : Op, o.isNeutral = true → SafeKeeps V I (perform o)

theorem quietly_safe {p : Exec Row Unit} (hp : SafeKeeps V I p) : SafeKeeps V I (quietly p) :=
  hp.tryCatch fun _ => .ite .throw .pure

theorem reraiseForUserSql_safe {α : Type} (h : KeptByNeutral V I) (sourceId : String) (e : Exc) :
    SafeKeeps V I (reraiseForUserSql sourceId e : Exec Row α) := by
  refine .ite (SafeKeeps.bind ?_ fun _ => .throw) .throw
  unfold raiseQueryInvalidForUserSql
  split
  · exact .pure
  · exact (h _ rfl).bind fun _ => .throw

/-- The block of `_execute_connection` and what follows it. -/
theorem executeConnection_safe (h : KeptByNeutral V I) :
    SafeKeeps V I
      (executeConnection encodeRow source sql metadataRevision validated queueMs queryId) := by
  have hnames : ∀ {kind names reasonCode},
      SafeKeeps V I (validateResolvedNames kind names reasonCode : Exec Row Unit) :=
    .ite .pure <| (h _ rfl).bind fun _ => (h _ rfl).bind fun _ => .ite .pure .throw
  have hpolicy : SafeKeeps V I (requireReaderSessionPolicy : Exec Row Unit) :=
    (h _ rfl).bind fun _ => (h _ rfl).bind fun _ => .ite .pure .throw
  have hexplain : SafeKeeps V I (explainPlan source sql : Exec Row PlanSummary) :=
    (SafeKeeps.tryCatch ((h _ rfl).bind fun _ => h _ rfl) fun e =>
      reraiseForUserSql_safe h _ e).bind
      fun _ => .bind .lift fun _ => .bind .lift fun _ => .pure
  have hprepare : SafeKeeps V I (prepare source sql validated queryId : Exec Row PlanSummary) :=
    (h _ rfl).bind fun _ => (h _ rfl).bind fun _ => (h _ rfl).bind fun _ => hpolicy.bind fun _ =>
      (hnames.bind fun _ => hnames).bind fun _ => hexplain
  have hloop : ∀ {fuel fetched},
      SafeKeeps V I (fetchLoop encodeRow source.budget fuel fetched) := by
    intro fuel
    induction fuel with
    | zero => exact .pure
    | succ fuel ih =>
      exact .ite .pure <| (h _ rfl).bind fun _ => .ite .pure <| .bind .lift fun _ => ih
  have hread : SafeKeeps V I (readResult encodeRow source sql) := by
    refine (h _ rfl).bind fun _ => SafeKeeps.tryFinally (SafeKeeps.tryCatch ?_ fun e =>
      reraiseForUserSql_safe h _ e) (quietly_safe (h _ rfl))
    exact (h _ rfl).bind fun _ =>
      (h _ rfl).bind fun _ => .bind .lift fun _ => hloop.bind fun _ => .pure
  have htransaction : SafeKeeps V I (runTransaction encodeRow source sql validated queryId) :=
    hprepare.bind fun _ => hread.bind fun _ => (h _ rfl).bind fun _ => (h _ rfl).bind fun _ => .pure
  have hcleanUp :
      ∀ e, SafeKeeps V I (cleanUp e : Exec Row (PlanSummary × List String × Fetched Json)) :=
    fun e => .ite ((h _ rfl).bind fun _ => (quietly_safe (h _ rfl)).bind fun _ => .throw) <|
      (quietly_safe (h _ rfl)).bind fun _ => .throw
  refine (h _ rfl).bind fun _ => (htransaction.tryCatch hcleanUp).bind fun _ => ?_
  exact (h _ rfl).bind fun _ => (h _ rfl).bind fun _ => (h _ rfl).bind fun _ =>
    (SafeKeeps.ite (h _ rfl) .pure).bind fun _ => .pure

theorem checkConnection_safe (h : KeptByNeutral V I) :
    SafeKeeps V I (checkConnection source : Exec Row Unit) :=
  SafeKeeps.tryCatch ((h _ rfl).bind fun _ => .lift) fun _ =>
    .ite ((quietly_safe (h _ rfl)).bind fun _ => .throw) .throw

theorem getPool_safe (h : KeptByNeutral V I) : SafeKeeps V I (getPool source : Exec Row Unit) :=
  (h _ rfl).bind fun (_ : Bool) => .ite .pure <| (h _ rfl).bind fun _ =>
    (h _ rfl).bind fun (_ : Bool) => .ite .pure <| (h _ rfl).bind fun _ => h _ rfl

end

section

variable {registry : SourceRegistry} {n : Nat} {Row Json : Type} {source : SourceProfile}
  {encodeRow : RowEncoder Row Json} {sql metadataRevision queryId : String}
  {validated : ValidatedSql} {queueMs : Int}

/-! ## From state to state -/

theorem inFlightIn_leasing {sourceId : String} {A : Executor → Prop}
    (h : ∀ s, A s → Leasing n sourceId s) : InFlightIn registry n A :=
  fun s hinv hs => (h s hs).mem_inflight hinv

/-- The record of the call is registered while the connection is used. -/
theorem useConnection_meets :
    SafeKeeps (callView Row registry n) (Leased n source.sourceId)
      (useConnection encodeRow source sql metadataRevision validated queueMs queryId) := by
  have hleased : KeptByNeutral (callView Row registry n) (Leased n source.sourceId) := fun o ho =>
    neutral_keeps ho stable_leased fun _ => inFlightIn_leasing fun _ h => h.1
  have hregistered :
      KeptByNeutral (callView Row registry n) (Registered n source.sourceId queryId) :=
    fun o ho => neutral_keeps ho stable_registered fun _ => inFlightIn_leasing fun _ h => h.1
  have hadd : SafeTriple (callView Row registry n) (Leased n source.sourceId)
      (perform (.addActive queryId) : Exec Row Unit)
      (fun _ => Registered n source.sourceId queryId) fun _ => Leased n source.sourceId := by
    refine local_step ⟨rfl, fun _ h => by cases h⟩ (fun s _ hs => hs.1.ne_none)
      fun s _ s' _ hs hstep => ?_
    obtain ⟨connection, hlease, rfl⟩ := hstep
    refine ⟨hs.1, fun id query hquery htask => ?_⟩
    by_contra hid
    refine hs.2 id query ?_ htask
    change (s.active.insert queryId ⟨connection, n⟩).lookup id = some query at hquery
    rwa [AList.lookup_insert_ne hid] at hquery
  have hpop : ∀ {E}, SafeTriple (callView Row registry n) (Registered n source.sourceId queryId)
      (perform (.popActive queryId) : Exec Row Unit) (fun _ => Leased n source.sourceId) E := by
    intro E
    refine local_step ⟨rfl, fun _ h => by cases h⟩ (fun _ _ _ => trivial)
      fun s _ s' _ hs hstep => ?_
    subst hstep
    refine ⟨hs.1, fun id query hquery htask => ?_⟩
    obtain ⟨hne, hquery⟩ := lookup_of_erase hquery
    exact hne (hs.2 id query hquery htask)
  refine SafeTriple.bind (checkConnection_safe hleased) fun _ => ?_
  refine SafeTriple.bind (hleased _ rfl) fun _ => SafeTriple.bind hadd fun _ => ?_
  refine SafeTriple.tryFinally (executeConnection_safe hregistered) (fun _ => ?_) fun _ => ?_
  · exact SafeTriple.bind lockActive_spec fun _ => hpop
  · exact SafeTriple.bind lockActive_spec fun _ => hpop

/-- The connection is given back at the end of the block, however it ends. -/
theorem withConnection_meets {α : Type} {p : Exec Row α}
    (hp : SafeKeeps (callView Row registry n) (Leased n source.sourceId) p) :
    SafeKeeps (callView Row registry n) (Permitted n source.sourceId)
      (withConnection source p) := by
  have hlease : SafeTriple (callView Row registry n) (Permitted n source.sourceId)
      (perform (.leaseConnection source.sourceId source.budget.queryQueueTimeoutMs) : Exec Row Unit)
      (fun _ => Leased n source.sourceId) fun _ => Permitted n source.sourceId := by
    refine .perform fun s s₁ hs hresumes => ?_
    obtain ⟨hinv, hs₁⟩ := stable_permitted.resumes hs hresumes
    refine ⟨⟨fun _ => hinv.permit_inflight n _ hs₁.1, hs₁⟩, fun r s' hstep => ?_⟩
    cases r with
    | ok a =>
      obtain ⟨connection, hsource, -, rfl⟩ := hstep
      refine ⟨⟨connection, Function.update_self .., hsource⟩, fun id query hquery htask => ?_⟩
      have hactive := hinv.active_lease id query hquery
      rw [htask, hs₁.2] at hactive
      cases hactive
    | error e =>
      obtain ⟨-, -, rfl⟩ := callStep_error Row n (o := .leaseConnection _ _) nofun hstep
      exact hs₁
  have hreturn : ∀ raised, SafeTriple (callView Row registry n) (Leased n source.sourceId)
      (perform (.returnConnection raised) : Exec Row Unit)
      (fun _ => Permitted n source.sourceId) fun _ => Permitted n source.sourceId := by
    intro raised
    refine .perform fun s s₁ hs hresumes => ?_
    obtain ⟨hinv, hs₁⟩ := stable_leased.resumes hs hresumes
    refine ⟨⟨fun _ => hs₁.1.mem_inflight hinv, hs₁.1.ne_none, hs₁.2⟩, fun r s' hstep => ?_⟩
    have hs' : s' = s₁.setLease n none := by
      cases r <;> exact hstep
    subst hs'
    have hpermitted : Permitted n source.sourceId (s₁.setLease n none) :=
      ⟨hs₁.1.mem_permits hinv, Function.update_self ..⟩
    cases r <;> exact hpermitted
  exact SafeTriple.bind hlease fun _ =>
    SafeTriple.exitWith hp (fun _ => hreturn _) fun _ => hreturn _

/-- What the ladder of `except` clauses lets through. -/
def Mapped (e : Exc) : Prop :=
  e.isCancelled = true ∨ ∃ error, e = .app error

/-- The ladder only counts, marks the health and raises. -/
theorem mapFailure_meets {α : Type} {A : Executor → Prop} {Q : α → Executor → Prop} (e : Exc) :
    SafeTriple (callView Row registry n) A (mapFailure source queryId e) Q
      fun e' s => A s ∧ Mapped e' := by
  have hthrow : ∀ {error}, SafeTriple (callView Row registry n) A
      (throw (.app error) : Exec Row α) Q fun e' s => A s ∧ Mapped e' :=
    SafeTriple.throw.weaken_pre fun _ hs => ⟨hs, .inr ⟨_, rfl⟩⟩
  have hhealth : ∀ {status}, SafeTriple (callView Row registry n) A
      (setSourceQueryHealth source.sourceId status) (fun _ => A) fun e' s => A s ∧ Mapped e' :=
    still_spec ⟨rfl, fun _ h => by cases h⟩ (fun _ => trivial) fun _ _ _ h => h
  unfold mapFailure
  split
  · exact SafeTriple.throw.weaken_pre fun _ hs => ⟨hs, .inl rfl⟩
  · exact .bind increment_spec fun _ => .bind hhealth fun _ => hthrow
  · exact .bind increment_spec fun _ => hthrow
  · refine .bind (still_spec ⟨rfl, fun _ h => by cases h⟩ (fun _ => trivial)
      fun _ _ _ h => h.2) fun (_ : Bool) => .bind increment_spec fun _ => hthrow
  · exact .bind increment_spec fun _ => .bind hhealth fun _ => hthrow
  · exact .bind increment_spec fun _ => .bind hhealth fun _ => hthrow
  · exact .bind increment_spec fun _ => .bind hhealth fun _ => hthrow
  · exact .bind increment_spec fun _ => hthrow
  · exact hthrow
  · exact hthrow
  · exact hthrow
  · exact .bind increment_spec fun _ => hthrow

/-- What a call does with its permit. -/
theorem executePermitted_meets :
    SafeKeeps (callView Row registry n) (Permitted n source.sourceId)
      (executePermitted encodeRow source sql metadataRevision validated queueMs queryId) := by
  have hpermitted : KeptByNeutral (callView Row registry n) (Permitted n source.sourceId) :=
    fun o ho => neutral_keeps ho stable_permitted fun _ s hinv hs => hinv.permit_inflight n _ hs.1
  refine SafeKeeps.bind (getPool_safe hpermitted) fun _ =>
    SafeKeeps.bind (hpermitted _ rfl) fun _ => ?_
  refine SafeKeeps.exitWith (withConnection_meets useConnection_meets) fun _ => ?_
  exact (hpermitted _ rfl).bind fun (_ : Bool) => .ite .throw .pure

/-- The permit is acquired before and released after, however the part inside ends. -/
theorem executeAdmitted_meets (hsource : registry.get source.sourceId = some source) :
    SafeTriple (callView Row registry n) (InFlight n)
      (executeAdmitted encodeRow source sql metadataRevision validated queryId)
      (fun _ => InFlight n) fun e s => InFlight n s ∧ Mapped e := by
  have hacquire : SafeTriple (callView Row registry n) (InFlight n)
      (perform
        (.acquireSemaphore source.sourceId source.budget.queryQueueTimeoutMs) : Exec Row Unit)
      (fun _ => Permitted n source.sourceId)
      fun e s => InFlight n s ∧ (e.isCancelled = true ∨ e = .timeoutError) := by
    refine .perform fun s s₁ hs hresumes => ?_
    obtain ⟨hinv, hs₁⟩ := stable_inFlight.resumes hs hresumes
    refine ⟨⟨fun _ => hs₁.1, hs₁.2⟩, fun r s' hstep => ?_⟩
    cases r with
    | ok a =>
      obtain ⟨sem, -, -, rfl⟩ := hstep
      refine ⟨mem_update_permits.2 ?_, ?_⟩
      · rw [if_pos rfl]
        exact Finset.mem_insert_self _ _
      · rw [Option.eq_none_iff_forall_ne_some]
        exact fun connection hlease => hs₁.2 _ (hinv.lease_permit n connection hlease)
    | error e =>
      obtain ⟨hraise, -, rfl⟩ := callStep_error Row n (o := .acquireSemaphore _ _) nofun hstep
      refine ⟨hs₁, ?_⟩
      rcases Bool.or_eq_true_iff.1 hraise with he | he
      · exact .inl he
      · exact .inr (of_decide_eq_true he)
  have hpermit : SafeTriple (callView Row registry n) (InFlight n)
      (acquirePermit source : Exec Row Unit) (fun _ => Permitted n source.sourceId)
      fun e s => InFlight n s ∧ Mapped e := by
    refine hacquire.tryCatch fun e => .ite (fun _ => ?_) fun hne => ?_
    · refine .bind (increment_spec.weaken_pre fun s hs => hs.1) fun _ => ?_
      exact SafeTriple.throw.weaken_pre fun _ hs => ⟨hs, .inr ⟨_, rfl⟩⟩
    · exact SafeTriple.throw.weaken_pre fun _ hs => ⟨hs.1, .inl (hs.2.resolve_right hne)⟩
  have hrelease : ∀ {E}, SafeTriple (callView Row registry n) (Permitted n source.sourceId)
      (perform (.releaseSemaphore source.sourceId) : Exec Row Unit) (fun _ => InFlight n) E := by
    intro E
    refine local_step ⟨rfl, fun _ h => by cases h⟩ (fun _ _ hs => hs) fun s _ s' hinv hs hstep => ?_
    subst hstep
    refine ⟨hinv.permit_inflight n _ hs.1, fun sid hmem => ?_⟩
    rw [Executor.release, mem_update_permits] at hmem
    split at hmem
    · exact Finset.notMem_erase _ _ hmem
    · next hsid => exact hsid (hinv.onePermit n _ _ hmem hs.1)
  have hcounts : ∀ {o : Op} {A : Executor → Prop} {E}, o.IsLocal → (∀ s, callGate registry n s o) →
      (∀ s a s', @callStep Row n s o (.ok a) s' → s' = s) →
      SafeTriple (callView Row registry n) A (perform o) (fun _ => A) E :=
    fun ho hgate hstill => still_spec ho hgate hstill
  refine .bind (Q := fun _ => InFlight n) ?_ fun _ => ?_
  · refine local_step ⟨rfl, fun _ h => by cases h⟩ (fun _ _ _ => ⟨source, hsource, rfl⟩)
      fun s _ s' _ hs hstep => ?_
    subst hstep
    rw [Executor.setdefault]
    split <;> exact hs
  refine .bind (hcounts ⟨rfl, fun _ h => by cases h⟩ (fun _ => trivial) fun _ _ _ h => h)
    fun queuedAt => .bind hpermit fun _ => ?_
  refine .bind
    (hcounts ⟨rfl, fun _ h => by cases h⟩ (fun _ => trivial) fun _ _ _ h => h) fun now => ?_
  refine .bind
    (hcounts ⟨rfl, fun _ h => by cases h⟩ (fun _ => trivial) fun _ _ _ h => h) fun _ => ?_
  refine .bind increment_spec fun _ => ?_
  exact SafeTriple.tryFinally (SafeTriple.tryCatch executePermitted_meets mapFailure_meets)
    (fun _ => hrelease) fun _ => hrelease.frame_fact

/-- **A call keeps the contract**: at its end it is no longer in flight, and what it raises is
proper. -/
theorem execute_meets {requestedId : Option String}
    (hsource : registry.get source.sourceId = some source) :
    SafeTriple (callView Row registry n) (fun s => n ∉ s.inflight)
      (execute encodeRow source sql metadataRevision validated requestedId)
      (fun _ s => n ∉ s.inflight) fun e s => n ∉ s.inflight ∧ Proper s e := by
  have hthrow : ∀ {α : Type} {Q : α → Executor → Prop} {error}, SafeTriple (callView Row registry n)
      (fun s => n ∉ s.inflight) (throw (.app error) : Exec Row α) Q
      fun e s => n ∉ s.inflight ∧ Proper s e :=
    SafeTriple.throw.weaken_pre fun _ hs => ⟨hs, .inl ⟨_, rfl⟩⟩
  have hadmit : SafeTriple (callView Row registry n) (fun s => n ∉ s.inflight)
      (admitTask : Exec Row Unit) (fun _ => InFlight n) fun e s => n ∉ s.inflight ∧ Proper s e := by
    refine .bind lockActive_spec fun _ => ?_
    refine .bind (Q := fun (accepting : Bool) s => accepting = s.accepting ∧ n ∉ s.inflight)
      (local_step ⟨rfl, fun _ h => by cases h⟩ (fun _ _ _ => trivial)
        fun s a s' _ hs hstep => hstep.2 ▸ ⟨hstep.1, hs⟩) fun (accepting : Bool) => ?_
    refine .ite (fun haccepting => ?_) fun _ => hthrow.weaken_pre fun _ hs => hs.2
    refine local_step ⟨rfl, fun _ h => by cases h⟩ (fun s _ hs => hs.1.symm.trans haccepting)
      fun s _ s' hinv hs hstep => ?_
    subst hstep
    exact ⟨Finset.mem_insert_self _ _, fun sid hmem => hs.2 (hinv.permit_inflight n sid hmem)⟩
  have hinterrupt : ∀ e, SafeTriple (callView Row registry n)
      (fun s => InFlight n s ∧ Mapped e) (mapInterruption source e : Exec Row (Response Json))
      (fun _ => InFlight n) fun e s => InFlight n s ∧ Proper s e := by
    intro e
    refine .ite (fun he => ?_) fun he => SafeTriple.throw.weaken_pre fun s hs =>
      ⟨hs.1, .inl (hs.2.resolve_left he)⟩
    refine .bind (Q := fun (accepting : Bool) s => accepting = s.accepting ∧ InFlight n s)
      (local_step ⟨rfl, fun _ h => by cases h⟩ (fun _ _ _ => trivial)
        fun s a s' _ hs hstep => hstep.2 ▸ ⟨hstep.1, hs.1⟩) fun (accepting : Bool) => ?_
    refine .ite (fun haccepting => ?_) fun _ => SafeTriple.throw.weaken_pre fun s hs =>
      ⟨hs.2, .inl ⟨_, rfl⟩⟩
    -- the task keeps its turn, so that what it has read is still so when it raises
    refine .bind increment_spec fun _ => SafeTriple.throw.weaken_pre fun s hs =>
      ⟨hs.2, .inr ⟨he, hs.1.symm.trans haccepting⟩⟩
  have hdiscard :
      ∀ {φ : Executor → Prop} {E}, (∀ s, φ s → φ { s with inflight := s.inflight.erase n }) →
      SafeTriple (callView Row registry n) (fun s => InFlight n s ∧ φ s) (do
        perform (.lockActive .retire)
        perform .discardInflight) (fun _ s => n ∉ s.inflight ∧ φ s) E := by
    intro φ E hφ
    refine .bind lockActive_spec fun _ => ?_
    refine local_step ⟨rfl, fun _ h => by cases h⟩
      (fun _ _ hs => hs.1.2) fun s _ s' _ hs hstep => ?_
    subst hstep
    exact ⟨Finset.notMem_erase _ _, hφ s hs.2⟩
  have hstill : ∀ {o : Op} {E}, o.IsLocal → (∀ s, callGate registry n s o) →
      (∀ s a s', @callStep Row n s o (.ok a) s' → s' = s) →
      SafeTriple (callView Row registry n) (fun s => n ∉ s.inflight) (perform o)
        (fun _ s => n ∉ s.inflight) E :=
    fun ho hgate hsame => still_spec ho hgate hsame
  refine .bind (hstill ⟨rfl, fun _ h => by cases h⟩ (fun _ => trivial) fun _ _ _ h => h)
    fun (task : Bool) => .ite (fun _ => ?_) fun _ => hthrow
  refine .bind (.ite (fun _ => hstill ⟨rfl, fun _ h => by cases h⟩ (fun _ => trivial)
    fun _ _ _ h => h) fun _ => SafeTriple.pure.weaken_pre fun _ h => h) fun effectiveId => ?_
  refine .bind hadmit fun _ => ?_
  refine SafeTriple.tryFinally ((executeAdmitted_meets hsource).tryCatch hinterrupt) (fun _ => ?_)
    fun e => hdiscard fun s hs => hs
  exact (hdiscard (φ := fun _ => True) fun _ _ => trivial).conseq (fun s hs => ⟨hs, trivial⟩)
    (fun _ _ hs => hs.1) fun _ _ h => h

end

end QueryMan.PostgresQueryExecutor
