import QueryMan.Coro.Solo
import QueryMan.Metadata.SectionRuns
import QueryMan.Metadata.ServiceRuns

/-!
# Calls that run alone

What the calls of the metadata service can do at least. A call that nobody disturbs comes to the
lock of its source (`solo_enter`), makes any run of its section (`solo_fromLock`) and answers from
it; a call that waits for the lock does the same later, when others have had it, or is cancelled.
-/

namespace QueryMan.ServiceTasks

open Coro MetadataService

variable {service : MetadataService} {parser : SqlParser} {source : SourceProfile} {s : Shared}
  {i : TaskId} {lock : Nat} {record : SectionRecord TaskId}

/-! ## The way to the lock -/

namespace Shared

/-- A call has begun. -/
def begins (s : Shared) (i : TaskId) : Shared :=
  { s with begun := s.begun ++ [i] }

/-- The lock of a source, old or new. -/
def lockOf (s : Shared) (sourceId : String) : Nat :=
  (s.refreshLocks sourceId).getD s.created

/-- The source has a lock. -/
def withLock (s : Shared) (sourceId : String) : Shared :=
  match s.refreshLocks sourceId with
  | some _ => s
  | none => s.newLock sourceId

/-- A call has begun and come to the lock of its source. -/
def entered (s : Shared) (i : TaskId) (sourceId : String) : Shared :=
  (s.begins i).withLock sourceId

/-- What a section leaves that has the lock from its start to its end. -/
def served (s : Shared) (sourceId : String) (record : SectionRecord TaskId) : Shared :=
  { s with
    sources := Function.update s.sources sourceId record.after
    acquired := Function.update s.acquired sourceId (s.acquired sourceId ++ [record.task])
    sections := Function.update s.sections sourceId (s.sections sourceId ++ [record]) }

/-- Nobody is in a section of the source: these have ended, and this is what they have left. -/
structure AtRest (s : Shared) (sourceId : String) (records : List (SectionRecord TaskId))
    (state : SourceState) : Prop where
  free : s.holders (s.lockOf sourceId) = none
  sections : s.sections sourceId = records
  state : s.sources sourceId = state

variable {sourceId : String} {records : List (SectionRecord TaskId)} {state : SourceState}

theorem atRest_initial : initial.AtRest sourceId [] .initial :=
  ⟨rfl, rfl, rfl⟩

/-- A call that comes to the lock changes nothing else. -/
theorem withLock_eq (s : Shared) (sourceId : String) :
    ∃ locks created, s.withLock sourceId =
      { s with refreshLocks := locks, created := created } ∧
        (s.withLock sourceId).lockOf sourceId = s.lockOf sourceId := by
  unfold withLock lockOf
  cases hlock : s.refreshLocks sourceId with
  | some lock => exact ⟨s.refreshLocks, s.created, rfl, by dsimp only; rw [hlock]⟩
  | none =>
    refine ⟨_, _, rfl, ?_⟩
    dsimp only [newLock]
    rw [Function.update_self]
    rfl

theorem lockOf_entered (s : Shared) (i : TaskId) (sourceId : String) :
    (s.entered i sourceId).lockOf sourceId = s.lockOf sourceId := by
  obtain ⟨locks, created, -, hlock⟩ := withLock_eq (s.begins i) sourceId
  exact hlock

/-- The call finds the lock of a source at rest free. -/
theorem AtRest.entered_free (h : s.AtRest sourceId records state) (i : TaskId) :
    (s.entered i sourceId).holders (s.lockOf sourceId) = none := by
  obtain ⟨locks, created, heq, -⟩ := withLock_eq (s.begins i) sourceId
  rw [Shared.entered, heq]
  exact h.free

theorem AtRest.entered (h : s.AtRest sourceId records state) (i : TaskId) :
    (s.entered i sourceId).AtRest sourceId records state := by
  obtain ⟨locks, created, heq, hlock⟩ := withLock_eq (s.begins i) sourceId
  refine ⟨?_, ?_, ?_⟩
  · rw [Shared.entered, hlock, heq]
    exact h.free
  · rw [Shared.entered, heq]
    exact h.sections
  · rw [Shared.entered, heq]
    exact h.state

/-- Nobody holds the lock of the source. -/
theorem AtRest.holderOf (h : s.AtRest sourceId records state) : s.holderOf sourceId = none := by
  have hfree := h.free
  rw [lockOf] at hfree
  rw [Shared.holderOf]
  cases hlock : s.refreshLocks sourceId with
  | none => rfl
  | some lock =>
    rw [hlock] at hfree
    exact hfree

/-- What the last section has left. -/
theorem AtRest.settled (h : s.AtRest sourceId records state) : s.settled sourceId = state := by
  rw [Shared.settled, h.holderOf]
  exact h.state

theorem begun_entered (s : Shared) (i : TaskId) (sourceId : String) :
    (s.entered i sourceId).begun = s.begun ++ [i] := by
  obtain ⟨locks, created, heq, -⟩ := withLock_eq (s.begins i) sourceId
  rw [Shared.entered, heq]
  rfl

theorem AtRest.served (h : s.AtRest sourceId records record.before) :
    (s.served sourceId record).AtRest sourceId (records ++ [record]) record.after where
  free := h.free
  sections := (Function.update_self ..).trans (congrArg (· ++ [record]) h.sections)
  state := Function.update_self ..

end Shared

/-- A call performs an operation. -/
theorem solo_perform (o : Op) (r : Except ServiceExc (Ret o)) {s' : Shared}
    (hstep : step service i s o r s') :
    (system service parser).Solo i s (perform o) s' (.done r) :=
  System.Solo.perform (S := system service parser) hstep

/-- `setdefault` answers the lock of the source. -/
theorem solo_refreshLock (s : Shared) (sourceId : String) :
    (system service parser).Solo i s (perform (.refreshLock sourceId)) (s.withLock sourceId)
      (.done (.ok (s.lockOf sourceId : Nat))) := by
  refine solo_perform (.refreshLock sourceId) (.ok (s.lockOf sourceId : Nat)) ?_
  unfold step Shared.withLock Shared.lockOf
  dsimp only
  split
  · next existing hexisting =>
    rw [hexisting]
    exact ⟨rfl, rfl⟩
  · next hnone =>
    rw [hnone]
    exact ⟨rfl, rfl⟩

/-- `_get_prepared` from `async with lock` on. -/
def fromLock (service : MetadataService) (source : SourceProfile) (lock : Nat) :
    Call (PreparedMetadata × Bool) := do
  perform (.lock source.sourceId lock)
  ((service.lockedSection source).interpret fun o =>
      perform (.inSection source.sourceId lock o)).finallyWith
    fun result => perform (.unlock source.sourceId lock result)

/-! ## A section -/

section
variable (s i lock) (source : SourceProfile)

/-- The state in a section of the call `i`: its source, and what has happened since it has the lock.
-/
def Shared.inside (t : SourceState × List (Exchange SectionRet ServiceExc)) : Shared :=
  { s.acquire i source.sourceId lock with
    sources := Function.update s.sources source.sourceId t.1
    holders := Function.update s.holders lock (some ⟨i, s.sources source.sourceId, t.2⟩) }

variable {s i lock source}

/-- What an operation of the section changes of its source is all that is seen of it. -/
theorem Shared.inside_advance {t t' : SourceState × List (Exchange SectionRet ServiceExc)}
    {x : Exchange SectionRet ServiceExc} (h : t'.2 = t.2 ++ [x]) :
    (s.inside i lock source t).advance source.sourceId lock
        ⟨i, s.sources source.sourceId, t.2⟩ t'.1 x =
      s.inside i lock source t' := by
  have hsources : Function.update (s.inside i lock source t).sources source.sourceId t'.1 =
      Function.update s.sources source.sourceId t'.1 := Function.update_idem ..
  have hholders : ∀ holder, Function.update (s.inside i lock source t).holders lock holder =
      Function.update s.holders lock holder := fun _ => Function.update_idem ..
  rw [Shared.advance, hsources, hholders, ← h]
  rfl

/-- An operation of the section. -/
theorem solo_inSection {t : SourceState × List (Exchange SectionRet ServiceExc)} {o : SectionOp}
    {r : Except ServiceExc (SectionRet o)} (h : service.sectionWorld.allowed t.1 o r) :
    (system service parser).Solo i (s.inside i lock source t)
      (perform (.inSection source.sourceId lock o))
      (s.inside i lock source (service.sectionWorld.logged.next t o r)) (.done r) := by
  have hsource : (s.inside i lock source t).sources source.sourceId = t.1 :=
    Function.update_self ..
  refine solo_perform (.inSection source.sourceId lock o) r ⟨_, Function.update_self .., ?_, ?_⟩
  · rw [hsource]
    exact h
  · rw [hsource]
    exact (Shared.inside_advance rfl).symm

/-- **A call may make any run of its section**, once it has the lock. -/
theorem solo_fromLock (parser : SqlParser) (hfree : s.holders lock = none)
    (hbefore : record.before = s.sources source.sourceId) (hsound : record.Sound service source) :
    (system service parser).Solo record.task s (fromLock service source lock)
      (s.served source.sourceId record) (.done record.result) := by
  have hacquired : s.acquire record.task source.sourceId lock =
      s.inside record.task lock source (record.before, []) := by
    rw [Shared.inside, hbefore, Function.update_eq_self]
    rfl
  have hallows : service.sectionWorld.Allows record.before record.history record.after :=
    hsound.allows
  have hrun : Run service.sectionWorld.logged (record.before, []) (service.lockedSection source)
      (record.after, [] ++ record.history) record.result :=
    run_logged_of_history hsound.makes hallows
  have hsection := System.Solo.interpret (S := system service parser) (i := record.task)
    (s.inside record.task lock source) (fun t o r h => solo_inSection h) hrun
  refine .bind (solo_perform (.lock source.sourceId lock) (.ok ()) ⟨hfree, rfl⟩) ?_
  rw [hacquired]
  refine .finallyWith hsection (solo_perform (.unlock source.sourceId lock record.result) (.ok ())
    ⟨_, Function.update_self .., ?_⟩)
  have hholders : Function.update (s.inside record.task lock source (record.after,
      [] ++ record.history)).holders lock none = s.holders :=
    (Function.update_idem ..).trans (Function.update_eq_self_iff.2 hfree.symm)
  have hafter : (s.inside record.task lock source (record.after, [] ++ record.history)).sources
      source.sourceId = record.after := Function.update_self ..
  rw [Shared.release, hholders, Shared.recordOf, hafter, ← hbefore]
  rfl

end

/-! ## Calls -/

/-- What a call has still to do when it is about to take its lock. -/
def callFromLock (service : MetadataService) (parser : SqlParser) (source : SourceProfile)
    (lock : Nat) : (i : TaskId) → Prog Ret ServiceExc (TaskResult i)
  | .context _ _ => do
    let prepared : PreparedMetadata × Bool ← fromLock service source lock
    let response : ContextResponse ←
      .lift (contextResponse service.sha256 source prepared.1 prepared.2)
    perform (.respond response)
    pure response
  | .published _ _ => do
    let prepared : PreparedMetadata × Bool ← fromLock service source lock
    pure prepared.1
  | .query _ request => do
    let published : PreparedMetadata ← Prog.tryCatch metadataUnavailable (do
      let prepared : PreparedMetadata × Bool ← fromLock service source lock
      pure prepared.1)
    queryPublished service parser source request published

/-- `_get_prepared` comes to its lock. -/
theorem solo_getPrepared (s : Shared) (source : SourceProfile) :
    (system service parser).Solo i s (getPrepared service source) (s.withLock source.sourceId)
      (fromLock service source (s.lockOf source.sourceId)) :=
  .bind (solo_refreshLock s source.sourceId) (.refl ..)

/-- **A new call comes to the lock of its source.** -/
theorem solo_enter (hnew : i ∉ s.begun) (hsource : service.registry.get i.sourceId = some source) :
    (system service parser).Solo i s (perform .begin >>= fun _ => program service parser i)
      (s.entered i source.sourceId)
      (callFromLock service parser source (s.lockOf source.sourceId) i) := by
  refine .bind (solo_perform .begin (.ok ()) ⟨hnew, rfl⟩) ?_
  have hprepared : (system service parser).Solo i (s.begins i) (getPrepared service source)
      (s.entered i source.sourceId) (fromLock service source (s.lockOf source.sourceId)) :=
    solo_getPrepared ..
  cases i with
  | context n sourceId =>
    change service.registry.get sourceId = some source at hsource
    rw [program, getContext, hsource]
    exact hprepared.around (K := fun p => p >>= _) fun _ _ => rfl
  | published n sourceId =>
    change service.registry.get sourceId = some source at hsource
    rw [program, getPublished, hsource]
    exact hprepared.around (K := fun p => p >>= _) fun _ _ => rfl
  | query n request =>
    change service.registry.get request.sourceId = some source at hsource
    rw [program, query, hsource]
    dsimp only
    rw [getPublished, hsource]
    exact hprepared.around (K := fun p => (p >>= _).tryCatch metadataUnavailable >>= _)
      fun _ _ => rfl

/-- A call that is cancelled while it waits for its lock. -/
theorem solo_cancelled (x : Exc) (hx : x.isCancelled = true) (n : Nat) (sourceId : String) :
    (system service parser).Solo (.published n sourceId) s
      (callFromLock service parser source lock (.published n sourceId)) s
      (.done (.error (.ofExc x))) :=
  .bind_error (.bind_error
    (solo_perform (.lock source.sourceId lock) (.error (.ofExc x)) ⟨⟨x, rfl, hx⟩, rfl⟩))

section
variable (hfree : s.holders lock = none) (hbefore : record.before = s.sources source.sourceId)
  (hsound : record.Sound service source)
include hfree hbefore hsound

/-- A call of `get_published` answers from its section. -/
theorem solo_published {n : Nat} {sourceId : String} (htask : record.task = .published n sourceId) :
    (system service parser).Solo (.published n sourceId) s
      (callFromLock service parser source lock (.published n sourceId))
      (s.served source.sourceId record) (.done (publishedAnswer record.result)) := by
  have hsection := htask ▸ solo_fromLock parser hfree hbefore hsound
  have hcall := hsection.around
    (K := fun p : Call (PreparedMetadata × Bool) => p >>= fun prepared => pure prepared.1)
    fun _ _ => rfl
  cases hresult : record.result with
  | ok prepared =>
    rw [hresult] at hcall
    exact hcall
  | error e =>
    rw [hresult] at hcall
    exact hcall

/-- A call of `get_context` whose section returns. -/
theorem solo_context {n : Nat} {sourceId : String} {prepared : PreparedMetadata × Bool}
    {response : ContextResponse} (htask : record.task = .context n sourceId)
    (hresult : record.result = .ok prepared)
    (hresponse : contextResponse service.sha256 source prepared.1 prepared.2 = .ok response) :
    (system service parser).Solo (.context n sourceId) s
      (callFromLock service parser source lock (.context n sourceId))
      { s.served source.sourceId record with responses := s.responses ++ [response] }
      (.done (.ok response)) := by
  have hsection := htask ▸ solo_fromLock parser hfree hbefore hsound
  rw [hresult] at hsection
  refine .bind hsection ?_
  dsimp only
  rw [hresponse]
  have hrespond : (system service parser).Solo (.context n sourceId)
      (s.served source.sourceId record) (perform (.respond response))
      { s.served source.sourceId record with responses := s.responses ++ [response] }
      (.done (.ok ())) := solo_perform (.respond response) (.ok ()) rfl
  exact hrespond.around (K := fun p => p >>= fun _ => pure response) fun _ _ => rfl

/-- A call of `query` whose section returns, with both revisions and accepted SQL. -/
theorem solo_query {n : Nat} {request : QueryRequest} {published : PreparedMetadata} {stale : Bool}
    {validated : ValidatedSql} (htask : record.task = .query n request)
    (hresult : record.result = .ok (published, stale))
    (hrevision : request.metadataRevision = published.revision)
    (hpolicy : request.sqlPolicyRevision = sqlPolicyRevision service.sha256)
    (hvalidated : validateSql parser (sqlLimits source published) request.sql = .ok validated)
    (response : PostgresQueryExecutor.Response Python.Json) :
    (system service parser).Solo (.query n request) s
      (callFromLock service parser source lock (.query n request))
      { s.served source.sourceId record with
        executions := s.executions ++ [⟨.query n request,
          ⟨source, request.sql, published.revision, validated, request.queryId⟩⟩] }
      (.done (.ok ⟨response, sqlPolicyRevision service.sha256⟩)) := by
  have hsection := htask ▸ solo_fromLock parser hfree hbefore hsound
  rw [hresult] at hsection
  refine .bind (.tryCatch (.bind hsection (.refl ..))) ?_
  rw [queryPublished, if_neg (not_or.2 ⟨not_not.2 hrevision, not_not.2 hpolicy⟩), hvalidated]
  exact .bind (solo_perform (.execute _) (.ok response) rfl) (.refl ..)

end

end QueryMan.ServiceTasks
