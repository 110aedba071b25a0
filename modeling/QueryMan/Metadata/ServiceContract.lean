import QueryMan.Metadata.ServiceTasks

/-!
# The contract of the service's calls

What the calls rely on and owe each other. The lock of a source is one lock, whoever asks for it
first, so that a call that holds it has the state of the source for itself. `SharedInv` says that
the sections of a source are those of a sequence (`Sections`), up to the state in which the lock was
last taken.
-/

namespace QueryMan.ServiceTasks

open Coro MetadataService

variable {service : MetadataService} {parser : SqlParser} {s s' s'' : Shared} {i j : TaskId}
  {sourceId : String} {lock : Nat}

/-! ## The invariant -/

namespace Shared

/-- Who holds the lock of a source. -/
def holderOf (s : Shared) (sourceId : String) : Option Holder :=
  (s.refreshLocks sourceId).bind s.holders

/-- The state of a source when its last section had ended. -/
def settled (s : Shared) (sourceId : String) : SourceState :=
  match s.holderOf sourceId with
  | some holder => holder.before
  | none => s.sources sourceId

/-- The call holds the lock of the source. -/
structure Holds (s : Shared) (sourceId : String) (lock : Nat) (holder : Holder) : Prop where
  isLock : s.refreshLocks sourceId = some lock
  holder : s.holders lock = some holder

/-- The call holds no lock. -/
def HoldsNothing (s : Shared) (i : TaskId) : Prop :=
  ∀ lock holder, s.holders lock = some holder → holder.task ≠ i

/-- The call has a section that ended so. -/
def Served (s : Shared) (sourceId : String) (i : TaskId)
    (result : Except ServiceExc (PreparedMetadata × Bool)) : Prop :=
  ∃ record ∈ s.sections sourceId, record.task = i ∧ record.result = result

/-- The last section of the source was that of the call, it ended so, and nobody is in another. -/
structure JustServed (s : Shared) (sourceId : String) (i : TaskId)
    (result : Except ServiceExc (PreparedMetadata × Bool)) : Prop where
  free : s.holderOf sourceId = none
  last : ∃ earlier record, s.sections sourceId = earlier ++ [record] ∧ record.task = i ∧
    record.result = result

theorem JustServed.served {result : Except ServiceExc (PreparedMetadata × Bool)}
    (h : s.JustServed sourceId i result) : s.Served sourceId i result := by
  obtain ⟨earlier, record, hsections, htask, hresult⟩ := h.last
  refine ⟨record, ?_, htask, hresult⟩
  rw [hsections]
  exact List.mem_append_right _ List.mem_cons_self

theorem holderOf_eq_some {holder : Holder} :
    s.holderOf sourceId = some holder ↔ ∃ lock, s.Holds sourceId lock holder := by
  rw [holderOf, Option.bind_eq_some_iff]
  exact ⟨fun ⟨lock, hlock, hholder⟩ => ⟨lock, hlock, hholder⟩,
    fun ⟨lock, h⟩ => ⟨lock, h.isLock, h.holder⟩⟩

end Shared

/-- The executor may be called so by a call of `query`: its `get_published` gave a snapshot of the
two revisions of the request, and the SQL was validated against it. -/
structure Authorised (service : MetadataService) (parser : SqlParser) (s : Shared) (i : TaskId)
    (call : ExecuteCall) (request : QueryRequest) (published : PreparedMetadata) : Prop where
  source : service.registry.get request.sourceId = some call.source
  served : ∃ stale, s.Served request.sourceId i (.ok (published, stale))
  revision : request.metadataRevision = published.revision
  policy : request.sqlPolicyRevision = sqlPolicyRevision service.sha256
  validated : validateSql parser (sqlLimits call.source published) request.sql = .ok call.validated
  passed : call.sql = request.sql ∧ call.metadataRevision = published.revision ∧
    call.queryId = request.queryId

/-- The call is a call of `query` that may call the executor so. -/
def MayExecute (service : MetadataService) (parser : SqlParser) (s : Shared) (i : TaskId)
    (call : ExecuteCall) : Prop :=
  ∃ n request published, i = .query n request ∧
    Authorised service parser s i call request published

/-- The response is that of a section of its source. -/
def Responded (service : MetadataService) (s : Shared) (response : ContextResponse) : Prop :=
  ∃ source, service.registry.get response.sourceId = some source ∧
    ∃ i value stale, s.Served response.sourceId i (.ok (value, stale)) ∧
      contextResponse service.sha256 source value stale = .ok response

/-- The invariant of the shared state. -/
structure SharedInv (service : MetadataService) (parser : SqlParser) (s : Shared) : Prop where
  /-- a lock belongs to one source -/
  oneSource : ∀ sourceId sourceId' lock, s.refreshLocks sourceId = some lock →
    s.refreshLocks sourceId' = some lock → sourceId = sourceId'
  lock_lt : ∀ sourceId lock, s.refreshLocks sourceId = some lock → lock < s.created
  held_lt : ∀ lock holder, s.holders lock = some holder → lock < s.created
  /-- the sections of a source follow each other -/
  sections : ∀ sourceId source, service.registry.get sourceId = some source →
    Sections service source (s.sections sourceId) (s.settled sourceId)
  /-- the lock of a source was taken for them, and for the section that is running -/
  acquired : ∀ sourceId, s.acquired sourceId =
    (s.sections sourceId).map (·.task) ++ ((s.holderOf sourceId).map (·.task)).toList
  nodup : ∀ sourceId, (s.acquired sourceId).Nodup
  begun : ∀ sourceId, s.acquired sourceId ⊆ s.begun
  /-- by calls about it -/
  about : ∀ sourceId, ∀ i ∈ s.acquired sourceId, i.sourceId = sourceId
  responses : ∀ response ∈ s.responses, Responded service s response
  executions : ∀ execution ∈ s.executions,
    MayExecute service parser s execution.task execution.call

theorem sharedInv_initial : SharedInv service parser .initial where
  oneSource := nofun
  lock_lt := nofun
  held_lt := fun _ _ hheld => absurd hheld (by simp [Shared.initial])
  sections := fun _ _ _ => .nil
  acquired := fun _ => rfl
  nodup := fun _ => .nil
  begun := fun _ _ h => h
  about := nofun
  responses := nofun
  executions := fun _ hmem => absurd hmem List.not_mem_nil

/-! ## The contract -/

/-- What a call relies on. -/
structure Rely (i : TaskId) (s s' : Shared) : Prop where
  begun : s.begun ⊆ s'.begun
  locks : ∀ sourceId lock, s.refreshLocks sourceId = some lock →
    s'.refreshLocks sourceId = some lock
  /-- the lock that it holds, and with it the state of the source -/
  held : ∀ sourceId lock holder, s.Holds sourceId lock holder → holder.task = i →
    s'.holders lock = some holder ∧ s'.sources sourceId = s.sources sourceId
  /-- the others do not take a lock for it -/
  free : ∀ lock holder, s'.holders lock = some holder → holder.task = i →
    s.holders lock = some holder
  acquired : ∀ sourceId, i ∈ s'.acquired sourceId → i ∈ s.acquired sourceId
  sections : ∀ sourceId, s.sections sourceId <+: s'.sections sourceId

/-- What a call must find where it performs an operation. -/
def gate (service : MetadataService) (parser : SqlParser) (i : TaskId) (s : Shared) : Op → Prop
  | .lock sourceId lock =>
    s.refreshLocks sourceId = some lock ∧ i ∈ s.begun ∧ i ∉ s.acquired sourceId ∧
      i.sourceId = sourceId
  | .inSection sourceId lock _ => ∃ holder, s.Holds sourceId lock holder ∧ holder.task = i
  | .unlock sourceId lock result => ∃ source holder,
    service.registry.get sourceId = some source ∧ s.Holds sourceId lock holder ∧ holder.task = i ∧
      (s.recordOf sourceId holder result).Sound service source
  | .respond response => Responded service s response
  | .execute call => MayExecute service parser s i call
  | _ => True

/-- How a call of `get_context` or `get_published` ends: the source is not registered, the call was
cancelled while it waited for the lock, or it answers from its section, which was the last one. -/
def Outcome {α : Type} (service : MetadataService) (sourceId : String) (i : TaskId) (s : Shared)
    (answer : SourceProfile → Except ServiceExc (PreparedMetadata × Bool) → Except ServiceExc α)
    (r : Except ServiceExc α) : Prop :=
  match service.registry.get sourceId with
  | none => r = .error .sourceNotFound
  | some source =>
    (∃ e, r = .error e ∧ e.isCancelled = true ∧ i ∉ s.acquired sourceId) ∨
      ∃ result, s.JustServed sourceId i result ∧ r = answer source result

/-- What `get_context` answers from its section. -/
def contextAnswer (service : MetadataService) (source : SourceProfile)
    (result : Except ServiceExc (PreparedMetadata × Bool)) : Except ServiceExc ContextResponse := do
  let prepared ← result
  contextResponse service.sha256 source prepared.1 prepared.2

/-- What `get_published` answers from its section. -/
def publishedAnswer (result : Except ServiceExc (PreparedMetadata × Bool)) :
    Except ServiceExc PreparedMetadata := do
  let prepared ← result
  pure prepared.1

/-- How a call ends. -/
def Ended (service : MetadataService) :
    (i : TaskId) → Except ServiceExc (TaskResult i) → Shared → Prop
  | .context n sourceId, r, s =>
    Outcome service sourceId (.context n sourceId) s (contextAnswer service) r
  | .published n sourceId, r, s =>
    Outcome service sourceId (.published n sourceId) s (fun _ => publishedAnswer) r
  | .query _ _, _, _ => True

/-- The contract. -/
def contract (service : MetadataService) (parser : SqlParser) :
    Contract (system service parser) where
  inv := SharedInv service parser
  rely := Rely
  gate := gate service parser
  idle := fun i s => s.HoldsNothing i
  returned := fun i a s => s.HoldsNothing i ∧ Ended service i (.ok a) s
  raised := fun i e s => s.HoldsNothing i ∧ Ended service i (.error e) s

/-! ## What the operations keep -/

section Keeps

variable {state : SourceState} {holder : Holder} {exchange : Exchange SectionRet ServiceExc}
  {result : Except ServiceExc (PreparedMetadata × Bool)} {source : SourceProfile}

theorem Shared.Served.mono (h : s.Served sourceId i result)
    (hsections : s.sections sourceId <+: s'.sections sourceId) : s'.Served sourceId i result :=
  h.imp fun _ ⟨hmem, h⟩ => ⟨hsections.subset hmem, h⟩

theorem Responded.mono {response : ContextResponse} (h : Responded service s response)
    (hsections : ∀ sourceId, s.sections sourceId <+: s'.sections sourceId) :
    Responded service s' response := by
  obtain ⟨source, hsource, i, value, stale, hserved, hresponse⟩ := h
  exact ⟨source, hsource, i, value, stale, hserved.mono (hsections _), hresponse⟩

theorem MayExecute.mono {call : ExecuteCall} (h : MayExecute service parser s i call)
    (hsections : ∀ sourceId, s.sections sourceId <+: s'.sections sourceId) :
    MayExecute service parser s' i call := by
  obtain ⟨n, request, published, hi, hauthorised⟩ := h
  exact ⟨n, request, published, hi, { hauthorised with
    served := hauthorised.served.imp fun _ hserved => hserved.mono (hsections _) }⟩

/-- Who holds the locks after a change of one of them. -/
theorem SharedInv.holderOf_update (h : SharedInv service parser s)
    (hlock : s.refreshLocks sourceId = some lock) {x : Option Holder}
    (hlocks : s'.refreshLocks = s.refreshLocks)
    (hholders : s'.holders = Function.update s.holders lock x) (sid : String) :
    s'.holderOf sid = if sid = sourceId then x else s.holderOf sid := by
  rw [Shared.holderOf, hlocks, hholders]
  split
  · next hsid =>
    rw [hsid, hlock]
    exact Function.update_self ..
  · next hsid =>
    rw [Shared.holderOf]
    cases hother : s.refreshLocks sid with
    | none => rfl
    | some lock' =>
      have hne : lock' ≠ lock := fun heq => hsid (h.oneSource _ _ _ (heq ▸ hother) hlock)
      exact Function.update_of_ne hne ..

/-- What the service has recorded beside its sections may grow. -/
theorem SharedInv.record (h : SharedInv service parser s) {begun : List TaskId}
    {responses : List ContextResponse} {executions : List Execution} (hbegun : s.begun ⊆ begun)
    (hresponses : ∀ response ∈ responses, Responded service s response)
    (hexecutions : ∀ execution ∈ executions,
      MayExecute service parser s execution.task execution.call) :
    SharedInv service parser
      { s with begun := begun, responses := responses, executions := executions } :=
  { h with
    begun := fun sid _ hmem => hbegun (h.begun sid hmem)
    responses := hresponses
    executions := fun execution hmem =>
      (hexecutions execution hmem).mono fun _ => List.prefix_rfl }

/-- A new lock is free. -/
theorem SharedInv.newLock (h : SharedInv service parser s)
    (hnone : s.refreshLocks sourceId = none) :
    SharedInv service parser (s.newLock sourceId) := by
  have hlocks : ∀ sid lock, (s.newLock sourceId).refreshLocks sid = some lock →
      (sid = sourceId ∧ lock = s.created) ∨ s.refreshLocks sid = some lock := by
    intro sid lock hlock
    change Function.update s.refreshLocks sourceId (some s.created) sid = some lock at hlock
    by_cases hsid : sid = sourceId
    · subst hsid
      rw [Function.update_self] at hlock
      exact .inl ⟨rfl, (Option.some.inj hlock).symm⟩
    · rw [Function.update_of_ne hsid] at hlock
      exact .inr hlock
  have hholder : ∀ sid, (s.newLock sourceId).holderOf sid = s.holderOf sid := by
    intro sid
    change (Function.update s.refreshLocks sourceId (some s.created) sid).bind s.holders = _
    by_cases hsid : sid = sourceId
    · subst hsid
      rw [Function.update_self, Shared.holderOf, hnone]
      exact Option.eq_none_iff_forall_not_mem.2 fun holder hmem =>
        absurd (h.held_lt _ _ hmem) (lt_irrefl _)
    · rw [Function.update_of_ne hsid]
      rfl
  have hsettled : ∀ sid, (s.newLock sourceId).settled sid = s.settled sid := by
    intro sid
    rw [Shared.settled, hholder]
    rfl
  refine { h with
    oneSource := fun sid sid' lock hlock hlock' => ?_
    lock_lt := fun sid lock hlock => ?_
    held_lt := fun lock holder hheld => (h.held_lt lock holder hheld).trans (Nat.lt_succ_self _)
    executions := fun execution hmem =>
      (h.executions execution hmem).mono fun _ => List.prefix_rfl
    sections := fun sid source hsource => ?_
    acquired := fun sid => ?_ }
  · rcases hlocks sid lock hlock with ⟨rfl, rfl⟩ | hold
    · rcases hlocks sid' _ hlock' with ⟨rfl, -⟩ | hold'
      · rfl
      · exact absurd (h.lock_lt _ _ hold') (lt_irrefl _)
    · rcases hlocks sid' lock hlock' with ⟨rfl, rfl⟩ | hold'
      · exact absurd (h.lock_lt _ _ hold) (lt_irrefl _)
      · exact h.oneSource sid sid' lock hold hold'
  · rcases hlocks sid lock hlock with ⟨-, rfl⟩ | hold
    · exact Nat.lt_succ_self _
    · exact (h.lock_lt sid lock hold).trans (Nat.lt_succ_self _)
  · rw [hsettled]
    exact h.sections sid source hsource
  · rw [hholder]
    exact h.acquired sid

/-- A call takes a lock: the section starts from the state that the last one left. -/
theorem SharedInv.acquire (h : SharedInv service parser s)
    (hlock : s.refreshLocks sourceId = some lock) (hfree : s.holders lock = none)
    (hbegun : i ∈ s.begun) (hnew : i ∉ s.acquired sourceId) (habout : i.sourceId = sourceId) :
    SharedInv service parser (s.acquire i sourceId lock) := by
  have hholder : ∀ sid, (s.acquire i sourceId lock).holderOf sid =
      if sid = sourceId then some ⟨i, s.sources sourceId, []⟩ else s.holderOf sid :=
    h.holderOf_update hlock rfl rfl
  have hfree' : s.holderOf sourceId = none := by
    rw [Shared.holderOf, hlock]
    exact hfree
  have hsettled : ∀ sid, (s.acquire i sourceId lock).settled sid = s.settled sid := by
    intro sid
    rw [Shared.settled, hholder]
    by_cases hsid : sid = sourceId
    · subst hsid
      rw [if_pos rfl, Shared.settled, hfree']
    · rw [if_neg hsid]
      rfl
  have hacquired : ∀ sid, (s.acquire i sourceId lock).acquired sid =
      if sid = sourceId then s.acquired sourceId ++ [i] else s.acquired sid := by
    intro sid
    change Function.update s.acquired sourceId (s.acquired sourceId ++ [i]) sid = _
    rw [Function.update_apply]
  refine { h with
    executions := fun execution hmem =>
      (h.executions execution hmem).mono fun _ => List.prefix_rfl
    held_lt := fun lock' holder hheld => ?_
    sections := fun sid source hsource => ?_
    acquired := fun sid => ?_
    nodup := fun sid => ?_
    begun := fun sid => ?_
    about := fun sid => ?_ }
  · by_cases hne : lock' = lock
    · rw [hne]
      exact h.lock_lt _ _ hlock
    · exact h.held_lt lock' holder ((Function.update_of_ne hne ..).symm.trans hheld)
  · rw [hsettled]
    exact h.sections sid source hsource
  · rw [hacquired, hholder]
    by_cases hsid : sid = sourceId
    · subst hsid
      rw [if_pos rfl, if_pos rfl, h.acquired, hfree', Option.map_none, Option.toList_none,
        List.append_nil]
      rfl
    · rw [if_neg hsid, if_neg hsid]
      exact h.acquired sid
  · rw [hacquired]
    split
    · exact List.nodup_append_comm.1 (List.nodup_cons.2 ⟨hnew, h.nodup sourceId⟩)
    · exact h.nodup sid
  · rw [hacquired]
    split
    · exact List.append_subset.2 ⟨h.begun sourceId, List.cons_subset.2 ⟨hbegun, List.nil_subset _⟩⟩
    · exact h.begun sid
  · rw [hacquired]
    split
    · next hsid =>
      intro j hj
      rcases List.mem_append.1 hj with hj | hj
      · exact hsid ▸ h.about sourceId j hj
      · rw [List.mem_singleton.1 hj, habout, hsid]
    · exact h.about sid

/-- The section of a holder goes on: the sections before it stay. -/
theorem SharedInv.advance (h : SharedInv service parser s) (hholds : s.Holds sourceId lock holder) :
    SharedInv service parser (s.advance sourceId lock holder state exchange) := by
  have hholder : ∀ sid, (s.advance sourceId lock holder state exchange).holderOf sid =
      if sid = sourceId then some { holder with history := holder.history ++ [exchange] }
      else s.holderOf sid :=
    h.holderOf_update hholds.isLock rfl rfl
  have hheld : s.holderOf sourceId = some holder :=
    Shared.holderOf_eq_some.2 ⟨lock, hholds⟩
  have hsettled : ∀ sid,
      (s.advance sourceId lock holder state exchange).settled sid = s.settled sid := by
    intro sid
    rw [Shared.settled, hholder, Shared.settled]
    by_cases hsid : sid = sourceId
    · subst hsid
      rw [if_pos rfl, hheld]
    · rw [if_neg hsid]
      cases s.holderOf sid with
      | some holder' => rfl
      | none => exact Function.update_of_ne hsid ..
  refine { h with
    executions := fun execution hmem =>
      (h.executions execution hmem).mono fun _ => List.prefix_rfl
    held_lt := fun lock' holder' hheld' => ?_
    sections := fun sid source hsource => ?_
    acquired := fun sid => ?_ }
  · by_cases hne : lock' = lock
    · rw [hne]
      exact h.lock_lt _ _ hholds.isLock
    · exact h.held_lt lock' holder' ((Function.update_of_ne hne ..).symm.trans hheld')
  · rw [hsettled]
    exact h.sections sid source hsource
  · rw [hholder]
    by_cases hsid : sid = sourceId
    · subst hsid
      rw [if_pos rfl]
      exact (h.acquired sid).trans (by rw [hheld]; rfl)
    · rw [if_neg hsid]
      exact h.acquired sid

/-- A section ends: it is the next one of its source. -/
theorem SharedInv.release (h : SharedInv service parser s)
    (hsource : service.registry.get sourceId = some source) (hholds : s.Holds sourceId lock holder)
    (hsound : (s.recordOf sourceId holder result).Sound service source) :
    SharedInv service parser (s.release sourceId lock holder result) := by
  have hholder : ∀ sid, (s.release sourceId lock holder result).holderOf sid =
      if sid = sourceId then none else s.holderOf sid :=
    h.holderOf_update hholds.isLock rfl rfl
  have hheld : s.holderOf sourceId = some holder :=
    Shared.holderOf_eq_some.2 ⟨lock, hholds⟩
  have hsections : ∀ sid, (s.release sourceId lock holder result).sections sid =
      if sid = sourceId then s.sections sourceId ++ [s.recordOf sourceId holder result]
      else s.sections sid := fun sid => Function.update_apply ..
  have hprefix : ∀ sid,
      s.sections sid <+: (s.release sourceId lock holder result).sections sid := by
    intro sid
    rw [hsections]
    split
    · next hsid => exact hsid ▸ List.prefix_append ..
    · exact List.prefix_rfl
  refine { h with
    held_lt := fun lock' holder' hheld' => ?_
    sections := fun sid source' hsource' => ?_
    acquired := fun sid => ?_
    responses := fun response hmem => (h.responses response hmem).mono hprefix
    executions := fun execution hmem => (h.executions execution hmem).mono hprefix }
  · change Function.update s.holders lock none lock' = some holder' at hheld'
    by_cases hne : lock' = lock
    · rw [hne, Function.update_self] at hheld'
      cases hheld'
    · exact h.held_lt lock' holder' ((Function.update_of_ne hne ..).symm.trans hheld')
  · rw [hsections, Shared.settled, hholder]
    by_cases hsid : sid = sourceId
    · subst hsid
      cases hsource.symm.trans hsource'
      rw [if_pos rfl, if_pos rfl]
      have hbefore := h.sections sid source hsource
      rw [Shared.settled, hheld] at hbefore
      exact .concat hbefore hsound
    · rw [if_neg hsid, if_neg hsid]
      exact h.sections sid source' hsource'
  · rw [hsections, hholder]
    by_cases hsid : sid = sourceId
    · subst hsid
      rw [if_pos rfl, if_pos rfl, List.map_append, Option.map_none, Option.toList_none,
        List.append_nil]
      exact (h.acquired sid).trans (by rw [hheld]; rfl)
    · rw [if_neg hsid, if_neg hsid]
      exact h.acquired sid

end Keeps

/-! ## What the others rely on -/

namespace Rely

theorem refl (i : TaskId) (s : Shared) : Rely i s s where
  begun := List.Subset.refl _
  locks := fun _ _ h => h
  held := fun _ _ _ h _ => ⟨h.holder, rfl⟩
  free := fun _ _ h _ => h
  acquired := fun _ h => h
  sections := fun _ => List.prefix_rfl

theorem trans (h : Rely i s s') (h' : Rely i s' s'') : Rely i s s'' where
  begun := fun _ hmem => h'.begun (h.begun hmem)
  locks := fun sid lock hlock => h'.locks sid lock (h.locks sid lock hlock)
  held := fun sid lock holder hholds htask => by
    obtain ⟨hholder, hstate⟩ := h.held sid lock holder hholds htask
    obtain ⟨hholder', hstate'⟩ :=
      h'.held sid lock holder ⟨h.locks sid lock hholds.isLock, hholder⟩ htask
    exact ⟨hholder', hstate'.trans hstate⟩
  free := fun lock holder hholder htask =>
    h.free lock holder (h'.free lock holder hholder htask) htask
  acquired := fun sid hmem => h.acquired sid (h'.acquired sid hmem)
  sections := fun sid => (h.sections sid).trans (h'.sections sid)

/-- A call that does not change the locks, the states and the sections. -/
theorem of_record {begun : List TaskId} {responses : List ContextResponse}
    {executions : List Execution} (hbegun : s.begun ⊆ begun) :
    Rely j s { s with begun := begun, responses := responses, executions := executions } where
  begun := hbegun
  locks := fun _ _ h => h
  held := fun _ _ _ h _ => ⟨h.holder, rfl⟩
  free := fun _ _ h _ => h
  acquired := fun _ h => h
  sections := fun _ => List.prefix_rfl

theorem of_newLock (hnone : s.refreshLocks sourceId = none) : Rely j s (s.newLock sourceId) where
  begun := List.Subset.refl _
  locks := fun sid lock hlock => by
    have hne : sid ≠ sourceId := by
      rintro rfl
      cases hlock.symm.trans hnone
    exact (Function.update_of_ne hne ..).trans hlock
  held := fun _ _ _ h _ => ⟨h.holder, rfl⟩
  free := fun _ _ h _ => h
  acquired := fun _ h => h
  sections := fun _ => List.prefix_rfl

theorem of_acquire (hfree : s.holders lock = none) (hne : j ≠ i) :
    Rely j s (s.acquire i sourceId lock) where
  begun := List.Subset.refl _
  locks := fun _ _ h => h
  held := fun sid lock' holder h _ => by
    have hlock : lock' ≠ lock := by
      rintro rfl
      cases h.holder.symm.trans hfree
    exact ⟨(Function.update_of_ne hlock ..).trans h.holder, rfl⟩
  free := fun lock' holder hholder htask => by
    change Function.update s.holders lock _ lock' = some holder at hholder
    by_cases hlock : lock' = lock
    · rw [hlock, Function.update_self] at hholder
      cases hholder
      exact absurd htask hne.symm
    · rwa [Function.update_of_ne hlock] at hholder
  acquired := fun sid hmem => by
    change j ∈ Function.update s.acquired sourceId _ sid at hmem
    by_cases hsid : sid = sourceId
    · subst hsid
      rw [Function.update_self] at hmem
      rcases List.mem_append.1 hmem with hmem | hmem
      · exact hmem
      · exact absurd (List.mem_singleton.1 hmem) hne
    · rwa [Function.update_of_ne hsid] at hmem
  sections := fun _ => List.prefix_rfl

/-- The section of a holder changes its own lock and its own source. -/
theorem of_section {holder : Holder} (holder' : Option Holder) (state : SourceState)
    {sections : List (SectionRecord TaskId)} (hholds : s.Holds sourceId lock holder)
    (hne : holder.task ≠ j) (hsame : ∀ x ∈ holder', x.task = holder.task)
    (hsections : s.sections sourceId <+: sections) :
    Rely j s { s with
      holders := Function.update s.holders lock holder'
      sources := Function.update s.sources sourceId state
      sections := Function.update s.sections sourceId sections } where
  begun := List.Subset.refl _
  locks := fun _ _ h => h
  held := fun sid lock' x h htask => by
    have hlock : lock' ≠ lock := by
      rintro rfl
      cases h.holder.symm.trans hholds.holder
      exact hne htask
    have hsid : sid ≠ sourceId := by
      rintro rfl
      exact hlock (Option.some.inj (h.isLock.symm.trans hholds.isLock))
    exact ⟨(Function.update_of_ne hlock ..).trans h.holder, Function.update_of_ne hsid ..⟩
  free := fun lock' x hx htask => by
    change Function.update s.holders lock holder' lock' = some x at hx
    by_cases hlock : lock' = lock
    · rw [hlock, Function.update_self] at hx
      exact absurd ((hsame x hx).symm.trans htask) hne
    · rwa [Function.update_of_ne hlock] at hx
  acquired := fun _ h => h
  sections := fun sid => by
    change s.sections sid <+: Function.update s.sections sourceId sections sid
    by_cases hsid : sid = sourceId
    · rw [hsid, Function.update_self]
      exact hsections
    · rw [Function.update_of_ne hsid]

theorem of_advance {holder : Holder} {state : SourceState}
    {exchange : Exchange SectionRet ServiceExc}
    (hholds : s.Holds sourceId lock holder) (hne : holder.task ≠ j) :
    Rely j s (s.advance sourceId lock holder state exchange) := by
  have h :=
    of_section (some { holder with history := holder.history ++ [exchange] }) state hholds hne
    (fun _ hx => by cases hx; rfl) (List.prefix_refl (s.sections sourceId))
  rwa [Function.update_eq_self] at h

theorem of_release {holder : Holder} {result : Except ServiceExc (PreparedMetadata × Bool)}
    (hholds : s.Holds sourceId lock holder) (hne : holder.task ≠ j) :
    Rely j s (s.release sourceId lock holder result) := by
  have h := of_section none (s.sources sourceId) hholds hne nofun
    (List.prefix_append (s.sections sourceId) [s.recordOf sourceId holder result])
  rwa [Function.update_eq_self sourceId s.sources] at h

end Rely

/-- **Every operation within its gate keeps the invariant, and leaves what the others rely on.** -/
theorem guarantee {o : Op} {r : Except ServiceExc (Ret o)} (h : SharedInv service parser s)
    (hgate : gate service parser i s o) (hstep : step service i s o r s') :
    SharedInv service parser s' ∧ ∀ j, j ≠ i → Rely j s s' := by
  have hsame : s' = s → SharedInv service parser s' ∧ ∀ j, j ≠ i → Rely j s s' := by
    rintro rfl
    exact ⟨h, fun j _ => .refl j _⟩
  have hexecute : ∀ call, MayExecute service parser s i call →
      s' = { s with executions := s.executions ++ [⟨i, call⟩] } →
      SharedInv service parser s' ∧ ∀ j, j ≠ i → Rely j s s' := by
    rintro call hmay rfl
    refine ⟨h.record (List.Subset.refl _) h.responses fun execution hmem => ?_,
      fun j _ => .of_record (List.Subset.refl _)⟩
    rcases List.mem_append.1 hmem with hmem | hmem
    · exact h.executions execution hmem
    · obtain rfl := List.mem_singleton.1 hmem
      exact hmay
  cases o with
  | inSection sid lock o =>
    obtain ⟨holder, hholds, rfl⟩ := hgate
    obtain ⟨holder', hholder, -, rfl⟩ := hstep
    cases hholder.symm.trans hholds.holder
    exact ⟨h.advance hholds, fun j hne => .of_advance hholds hne.symm⟩
  | begin =>
    cases r with
    | error e => exact hstep.elim
    | ok a =>
      obtain ⟨-, rfl⟩ := hstep
      exact ⟨h.record (List.subset_append_left ..) h.responses h.executions,
        fun j _ => .of_record (List.subset_append_left ..)⟩
  | refreshLock sid =>
    cases r with
    | error e => exact hstep.elim
    | ok lock =>
      obtain ⟨-, heq⟩ | ⟨hlock, -, rfl⟩ := step_refreshLock service i hstep
      · exact hsame heq
      · exact ⟨h.newLock hlock, fun j _ => .of_newLock hlock⟩
  | lock sid lock =>
    cases r with
    | error e => exact hsame hstep.2
    | ok a =>
      obtain ⟨hlock, hbegun, hnew, habout⟩ := hgate
      obtain ⟨hfree, rfl⟩ := hstep
      exact ⟨h.acquire hlock hfree hbegun hnew habout, fun j hne => .of_acquire hfree hne⟩
  | unlock sid lock result =>
    cases r with
    | error e => exact hstep.elim
    | ok a =>
      obtain ⟨source, holder, hsource, hholds, rfl, hsound⟩ := hgate
      obtain ⟨holder', hholder, rfl⟩ := hstep
      cases hholder.symm.trans hholds.holder
      exact ⟨h.release hsource hholds hsound, fun j hne => .of_release hholds hne.symm⟩
  | increment name sid =>
    cases r with
    | error e => exact hstep.elim
    | ok a => exact hsame hstep
  | respond response =>
    cases r with
    | error e => exact hstep.elim
    | ok a =>
      cases hstep
      refine ⟨h.record (List.Subset.refl _) (fun response' hmem => ?_) h.executions,
        fun j _ => .of_record (List.Subset.refl _)⟩
      rcases List.mem_append.1 hmem with hmem | hmem
      · exact h.responses response' hmem
      · obtain rfl := List.mem_singleton.1 hmem
        exact hgate
  | execute call =>
    cases r with
    | error e => exact hexecute call hgate hstep.2
    | ok a => exact hexecute call hgate hstep

end QueryMan.ServiceTasks
