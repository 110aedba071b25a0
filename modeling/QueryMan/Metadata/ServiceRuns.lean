import QueryMan.Metadata.ServiceContract

/-!
# The service keeps to its contract

Every call of the service meets its contract, in whatever way its awaits end (`contract_lawful`), so
that the contract holds in every configuration that the calls can reach: the sections of a source
follow each other, an operation finds its gate open, and a call that ends answers from its own
section.
-/

namespace QueryMan.ServiceTasks

open Coro MetadataService

variable {service : MetadataService} {parser : SqlParser} {s s' : Shared} {i : TaskId}
  {sourceId : String} {lock : Nat}

/-! ## The calls keep to the contract -/

/-- The call has begun, and has not taken the lock of the source yet. -/
structure Waiting (i : TaskId) (sourceId : String) (s : Shared) : Prop where
  holdsNothing : s.HoldsNothing i
  begun : i ∈ s.begun
  new : i ∉ s.acquired sourceId
  about : i.sourceId = sourceId

theorem Shared.HoldsNothing.rely (h : s.HoldsNothing i) (hrely : Rely i s s') : s'.HoldsNothing i :=
  fun lock holder hholder htask => h lock holder (hrely.free lock holder hholder htask) htask

theorem Waiting.rely (h : Waiting i sourceId s) (hrely : Rely i s s') : Waiting i sourceId s' where
  holdsNothing := h.holdsNothing.rely hrely
  begun := hrely.begun h.begun
  new := fun hmem => h.new (hrely.acquired sourceId hmem)
  about := h.about

/-- The call is in its section: it holds the lock of the source, and no other. -/
structure Owns (i : TaskId) (sourceId : String) (lock : Nat) (before : SourceState) (s : Shared) :
    Prop where
  holds : ∃ history, s.Holds sourceId lock ⟨i, before, history⟩
  only : ∀ lock' holder, s.holders lock' = some holder → holder.task = i → lock' = lock

/-- What the section of a call sees: the state of its source, and its own history. -/
def seen (sourceId : String) (lock : Nat) (s : Shared) :
    SourceState × List (Exchange SectionRet ServiceExc) :=
  (s.sources sourceId, ((s.holders lock).map (·.history)).getD [])

theorem Owns.rely {before : SourceState} (h : Owns i sourceId lock before s) (hrely : Rely i s s') :
    Owns i sourceId lock before s' ∧ seen sourceId lock s' = seen sourceId lock s := by
  obtain ⟨history, hholds⟩ := h.holds
  obtain ⟨hholder, hstate⟩ := hrely.held sourceId lock _ hholds rfl
  refine ⟨⟨⟨history, hrely.locks _ _ hholds.isLock, hholder⟩,
    fun lock' holder hholder' htask => ?_⟩,
    ?_⟩
  · exact h.only lock' holder (hrely.free lock' holder hholder' htask) htask
  · rw [seen, seen, hholder, hstate, hholds.holder]

section Meets

variable {before : SourceState} {source : SourceProfile}

/-- Where a call goes on, what it relies on has been kept. -/
theorem rely_of_resumes {o : Op} (h : ((contract service parser).view i).resumes s o s') :
    Rely i s s' := by
  obtain ⟨-, hresumes⟩ := h
  split at hresumes
  · exact hresumes
  · exact hresumes ▸ .refl i s

/-- An operation of a section. -/
theorem inSection_meets (o : SectionOp) (h : Owns i sourceId lock before s) :
    (perform (.inSection sourceId lock o)).Safe ((contract service parser).view i)
      (fun a => Carried service.sectionWorld.logged (Owns i sourceId lock before)
        (seen sourceId lock) (seen sourceId lock s) o (.ok a))
      (fun e => Carried service.sectionWorld.logged (Owns i sourceId lock before)
        (seen sourceId lock) (seen sourceId lock s) o (.error e)) s := by
  have hstep : ∀ s₁ r s₂, Owns i sourceId lock before s₁ →
      seen sourceId lock s₁ = seen sourceId lock s →
      step service i s₁ (.inSection sourceId lock o) r s₂ →
      Carried service.sectionWorld.logged (Owns i sourceId lock before) (seen sourceId lock)
        (seen sourceId lock s) o r s₂ := by
    rintro s₁ r s₂ howns hseen ⟨holder, hholder, hallowed, rfl⟩
    obtain ⟨history, hholds⟩ := howns.holds
    cases hholder.symm.trans hholds.holder
    rw [← hseen]
    have hself : (s₁.advance sourceId lock ⟨i, before, history⟩
        (service.sectionWorld.next (s₁.sources sourceId) o r) ⟨o, r⟩).holders lock =
          some ⟨i, before, history ++ [⟨o, r⟩]⟩ := Function.update_self ..
    refine ⟨⟨⟨_, hholds.isLock, hself⟩, fun lock' holder' hholder' htask => ?_⟩, hallowed, ?_⟩
    · by_contra hne
      exact hne
        (howns.only lock' holder' ((Function.update_of_ne hne ..).symm.trans hholder') htask)
    · rw [seen, seen, hself, hholds.holder]
      exact Prod.ext (Function.update_self ..) rfl
  intro s₁ hresumes
  obtain ⟨howns, hseen⟩ := h.rely (rely_of_resumes hresumes)
  obtain ⟨history, hholds⟩ := howns.holds
  refine ⟨⟨_, hholds, rfl⟩, fun r s₂ hr => ?_⟩
  have hcarried := hstep s₁ r s₂ howns hseen hr
  cases r <;> exact hcarried

/-- The end of a section: the call has no lock any more, and its section is recorded. -/
theorem unlock_meets {result : Except ServiceExc (PreparedMetadata × Bool)}
    (hsource : service.registry.get sourceId = some source) (howns : Owns i sourceId lock before s)
    (hrun : Run service.sectionWorld.logged (before, []) (service.lockedSection source)
      (seen sourceId lock s) result) :
    (perform (.unlock sourceId lock result)).Safe ((contract service parser).view i)
      (fun _ s' => s'.HoldsNothing i ∧ s'.JustServed sourceId i result) (fun _ _ => False) s := by
  rintro s₁ ⟨-, rfl⟩
  obtain ⟨history, hholds⟩ := howns.holds
  obtain ⟨history', heq, hmakes, hallows⟩ := run_logged hrun
  rw [seen, hholds.holder, List.nil_append] at heq
  cases heq
  refine ⟨⟨source, _, hsource, hholds, rfl, hmakes, hallows⟩, fun r s' hstep => ?_⟩
  cases r with
  | error e => exact hstep.elim
  | ok a =>
    obtain ⟨holder, hholder, rfl⟩ := hstep
    cases hholder.symm.trans hholds.holder
    refine ⟨fun lock' holder hholder' htask => ?_, ?_, s₁.sections sourceId,
      s₁.recordOf sourceId ⟨i, before, history⟩ result, ?_, rfl, rfl⟩
    · change Function.update s₁.holders lock none lock' = some holder at hholder'
      by_cases hne : lock' = lock
      · rw [hne, Function.update_self] at hholder'
        cases hholder'
      · rw [Function.update_of_ne hne] at hholder'
        exact hne (howns.only lock' holder hholder' htask)
    · rw [Shared.holderOf, show (s₁.release sourceId lock ⟨i, before, history⟩ result).refreshLocks
        sourceId = some lock from hholds.isLock]
      exact Function.update_self ..
    · exact Function.update_self ..

/-- **A call of `_get_prepared` answers from one section**, or is cancelled while it waits. -/
theorem getPrepared_meets (parser : SqlParser) (i : TaskId)
    (hsource : service.registry.get sourceId = some source) :
    SafeTriple ((contract service parser).view i) (Waiting i sourceId) (getPrepared service source)
      (fun value s => s.HoldsNothing i ∧ s.JustServed sourceId i (.ok value))
      (fun e s => s.HoldsNothing i ∧
        (s.JustServed sourceId i (.error e) ∨ e.isCancelled = true ∧ i ∉ s.acquired sourceId)) := by
  obtain rfl := SourceRegistry.sourceId_of_get hsource
  have hrefresh : SafeTriple ((contract service parser).view i) (Waiting i source.sourceId)
      (perform (.refreshLock source.sourceId))
      (fun (lock : Nat) s => Waiting i source.sourceId s ∧
        s.refreshLocks source.sourceId = some lock)
      (fun e s => s.HoldsNothing i ∧
        (s.JustServed source.sourceId i (.error e) ∨
          e.isCancelled = true ∧ i ∉ s.acquired source.sourceId)) := by
    refine .perform fun s s₁ hwaiting hresumes => ⟨trivial, fun r s' hstep => ?_⟩
    have hwaiting₁ := hwaiting.rely (rely_of_resumes hresumes)
    cases r with
    | error e => exact hstep.elim
    | ok lock =>
      obtain ⟨hexisting, rfl⟩ | ⟨hnone, rfl, rfl⟩ := step_refreshLock service i hstep
      · exact ⟨hwaiting₁, hexisting⟩
      · exact ⟨hwaiting₁.rely (.of_newLock hnone), Function.update_self ..⟩
  have hlock : ∀ lock, SafeTriple ((contract service parser).view i)
      (fun s => Waiting i source.sourceId s ∧ s.refreshLocks source.sourceId = some lock)
      (perform (.lock source.sourceId lock))
      (fun _ s => ∃ before, Owns i source.sourceId lock before s ∧
        seen source.sourceId lock s = (before, []))
      (fun e s => s.HoldsNothing i ∧
        (s.JustServed source.sourceId i (.error e) ∨
          e.isCancelled = true ∧ i ∉ s.acquired source.sourceId)) := by
    refine fun lock => .perform fun s s₁ ⟨hwaiting, hisLock⟩ hresumes => ?_
    have hrely := rely_of_resumes hresumes
    have hwaiting₁ := hwaiting.rely hrely
    have hisLock₁ := hrely.locks _ _ hisLock
    refine ⟨⟨hisLock₁, hwaiting₁.begun, hwaiting₁.new, hwaiting₁.about⟩, fun r s' hstep => ?_⟩
    cases r with
    | error e =>
      obtain ⟨⟨x, rfl, hcancelled⟩, rfl⟩ := hstep
      exact ⟨hwaiting₁.holdsNothing, .inr ⟨hcancelled, hwaiting₁.new⟩⟩
    | ok a =>
      obtain ⟨hfree, rfl⟩ := hstep
      have hself : (s₁.acquire i source.sourceId lock).holders lock =
          some ⟨i, s₁.sources source.sourceId, []⟩ := Function.update_self ..
      refine ⟨s₁.sources
        source.sourceId, ⟨⟨[], hisLock₁, hself⟩, fun lock' holder hholder htask => ?_⟩,
        ?_⟩
      · by_contra hne
        have hholder₁ : s₁.holders lock' = some holder :=
          (Function.update_of_ne hne ..).symm.trans hholder
        exact hwaiting₁.holdsNothing lock' holder hholder₁ htask
      · rw [seen, hself]
        rfl
  refine hrefresh.bind fun lock => (hlock lock).bind fun _ => ?_
  rintro s ⟨before, howns, hseen⟩
  refine Prog.Safe.finallyWith ?_
  refine (Prog.Safe.interpret (fun o s h => inSection_meets o h) _ howns).mono
    (fun value s' h => ?_) fun e s' h => ?_
  · rw [hseen] at h
    exact (unlock_meets hsource h.1 h.2).mono (fun _ _ h => h) fun _ _ h => h.elim
  · rw [hseen] at h
    exact (unlock_meets hsource h.1 h.2).mono (fun _ _ h => ⟨h.1, .inl h.2⟩) fun _ _ h => h.elim

/-- A call answers from its section. -/
theorem outcome_of_justServed {α : Type} {r : Except ServiceExc α}
    {answer : SourceProfile → Except ServiceExc (PreparedMetadata × Bool) → Except ServiceExc α}
    {result : Except ServiceExc (PreparedMetadata × Bool)}
    (hsource : service.registry.get sourceId = some source) (h : s.JustServed sourceId i result)
    (hr : r = answer source result) : Outcome service sourceId i s answer r := by
  rw [Outcome, hsource]
  exact .inr ⟨result, h, hr⟩

/-- The source is not registered. -/
theorem outcome_of_notFound {α : Type}
    {answer : SourceProfile → Except ServiceExc (PreparedMetadata × Bool) → Except ServiceExc α}
    (hsource : service.registry.get sourceId = none) :
    Outcome service sourceId i s answer (.error .sourceNotFound) := by
  rw [Outcome, hsource]

/-- How a call may raise before it has an answer of its section. -/
theorem outcome_of_raised {α : Type} {e : ServiceExc}
    (answer : SourceProfile → Except ServiceExc (PreparedMetadata × Bool) → Except ServiceExc α)
    (hanswer : ∀ source e, answer source (.error e) = .error e)
    (hsource : service.registry.get sourceId = some source)
    (h : s.JustServed sourceId i (.error e) ∨ e.isCancelled = true ∧ i ∉ s.acquired sourceId) :
    Outcome service sourceId i s answer (.error e) := by
  rcases h with hserved | ⟨hcancelled, hnew⟩
  · exact outcome_of_justServed hsource hserved (hanswer source e).symm
  · rw [Outcome, hsource]
    exact .inl ⟨e, rfl, hcancelled, hnew⟩

theorem getContext_meets : SafeTriple ((contract service parser).view i) (Waiting i sourceId)
    (getContext service sourceId)
    (fun response s => s.HoldsNothing i ∧
      Outcome service sourceId i s (contextAnswer service) (.ok response))
    (fun e s => s.HoldsNothing i ∧
      Outcome service sourceId i s (contextAnswer service) (.error e)) := by
  rw [getContext]
  cases hsource : service.registry.get sourceId with
  | none =>
    exact SafeTriple.throw.weaken_pre fun s h => ⟨h.holdsNothing, outcome_of_notFound hsource⟩
  | some source =>
    have hprepared := (getPrepared_meets parser i hsource).weaken_exc fun e s h =>
      And.intro h.1 (outcome_of_raised (contextAnswer service) (fun _ _ => rfl) hsource h.2)
    refine hprepared.bind fun prepared => ?_
    cases hresponse : contextResponse service.sha256 source prepared.1 prepared.2 with
    | error e =>
      have hanswer : contextAnswer service source (.ok prepared) = .error e := by
        rw [contextAnswer]
        exact Python.bind_eq_error.2 (.inr ⟨prepared, rfl, hresponse⟩)
      exact fun s h => ⟨h.1, outcome_of_justServed hsource h.2 hanswer.symm⟩
    | ok response =>
      rintro s ⟨hnothing, hserved⟩ s₁ ⟨-, rfl⟩
      have hid : response.sourceId = sourceId := by
        rw [contextResponse_eq_ok hresponse]
        exact SourceRegistry.sourceId_of_get hsource
      have hanswer : contextAnswer service source (.ok prepared) = .ok response := by
        rw [contextAnswer]
        exact Python.bind_eq_ok.2 ⟨prepared, rfl, hresponse⟩
      refine ⟨⟨source, hid ▸ hsource, i, prepared.1, prepared.2, hid ▸ hserved.served, hresponse⟩,
        fun r s' hstep => ?_⟩
      cases r with
      | error e => exact hstep.elim
      | ok a =>
        cases hstep
        exact ⟨hnothing, outcome_of_justServed hsource ⟨hserved.free, hserved.last⟩ hanswer.symm⟩

theorem getPublished_meets : SafeTriple ((contract service parser).view i) (Waiting i sourceId)
    (getPublished service sourceId)
    (fun value s => s.HoldsNothing i ∧
      Outcome service sourceId i s (fun _ => publishedAnswer) (.ok value))
    (fun e s => s.HoldsNothing i ∧
      Outcome service sourceId i s (fun _ => publishedAnswer) (.error e)) := by
  rw [getPublished]
  cases hsource : service.registry.get sourceId with
  | none =>
    exact SafeTriple.throw.weaken_pre fun s h => ⟨h.holdsNothing, outcome_of_notFound hsource⟩
  | some source =>
    have hprepared := (getPrepared_meets parser i hsource).weaken_exc fun e s h =>
      And.intro h.1 (outcome_of_raised (fun _ => publishedAnswer) (fun _ _ => rfl) hsource h.2)
    exact hprepared.bind fun prepared s h => ⟨h.1, outcome_of_justServed hsource h.2 rfl⟩

/-- What `query` does with the published snapshot, if it is that of its section. -/
theorem queryPublished_meets {n : Nat} {request : QueryRequest} {published : PreparedMetadata}
    (hsource : service.registry.get request.sourceId = some source) :
    SafeTriple ((contract service parser).view (.query n request))
      (fun s => s.HoldsNothing (.query n request) ∧
        ∃ stale, s.Served request.sourceId (.query n request) (.ok (published, stale)))
      (queryPublished service parser source request published)
      (fun _ s => s.HoldsNothing (.query n request))
      (fun _ s => s.HoldsNothing (.query n request)) := by
  have hincrement : ∀ name e, SafeTriple ((contract service parser).view (.query n request))
      (fun s => s.HoldsNothing (.query n request) ∧
        ∃ stale, s.Served request.sourceId (.query n request) (.ok (published, stale)))
      (perform (.increment name source.sourceId) >>= fun _ => throw e : Call QueryResponse)
      (fun _ s => s.HoldsNothing (.query n request))
      (fun _ s => s.HoldsNothing (.query n request)) := by
    rintro name e s ⟨hnothing, -⟩ s₁ ⟨-, rfl⟩
    refine ⟨trivial, fun r s' hstep => ?_⟩
    cases r with
    | error e => exact hstep.elim
    | ok a =>
      cases hstep
      exact hnothing
  rw [queryPublished]
  refine .ite (fun _ => hincrement _ _) fun hrevisions => ?_
  obtain ⟨hrevision, hpolicy⟩ := not_or.1 hrevisions
  cases hvalidated : validateSql parser (sqlLimits source published) request.sql with
  | error error => exact hincrement _ _
  | ok validated =>
    refine .bind (Q := fun _ s => s.HoldsNothing (.query n request))
      (.perform fun s s₁ ⟨hnothing, hserved⟩ hresumes => ?_) fun _ _ hnothing => hnothing
    have hrely := rely_of_resumes hresumes
    have hnothing₁ := hnothing.rely hrely
    refine ⟨⟨n, request, published, rfl, hsource,
      hserved.imp fun _ h => h.mono (hrely.sections _), not_not.1 hrevision, not_not.1 hpolicy,
      hvalidated, rfl, rfl, rfl⟩, fun r s' hstep => ?_⟩
    cases r with
    | error e =>
      obtain ⟨-, rfl⟩ := hstep
      exact hnothing₁
    | ok a =>
      cases hstep
      exact hnothing₁

theorem query_meets {n : Nat} {request : QueryRequest} :
    SafeTriple ((contract service parser).view (.query n request))
      (Waiting (.query n request) request.sourceId) (query service parser request)
      (fun _ s => s.HoldsNothing (.query n request))
      (fun _ s => s.HoldsNothing (.query n request)) := by
  rw [query]
  cases hsource : service.registry.get request.sourceId with
  | none => exact SafeTriple.throw.weaken_pre fun s h => h.holdsNothing
  | some source =>
    refine .bind (.tryCatch getPublished_meets fun e => ?_) fun published =>
      (queryPublished_meets hsource).weaken_pre fun s h => ⟨h.1, ?_⟩
    · unfold metadataUnavailable
      split
      · exact fun s h => h.1
      · exact fun s h => h.1
    · have houtcome := h.2
      rw [Outcome, hsource] at houtcome
      obtain ⟨_, heq, -⟩ | ⟨result, hserved, heq⟩ := houtcome
      · cases heq
      · cases result with
        | error e => cases heq
        | ok prepared =>
          cases heq
          exact ⟨prepared.2, hserved.served⟩

/-- **Every call keeps to the contract.** -/
theorem program_meets (i : TaskId) {s : Shared} (hinv : SharedInv service parser s)
    (hidle : s.HoldsNothing i) :
    (contract service parser).Meets i (perform .begin >>= fun _ => program service parser i) s := by
  rintro s₁ ⟨hinv₁, rfl⟩
  refine ⟨trivial, fun r s' hstep => ?_⟩
  cases r with
  | error e => exact hstep.elim
  | ok a =>
    obtain ⟨hnew, rfl⟩ := hstep
    have hwaiting : Waiting i i.sourceId { s₁ with begun := s₁.begun ++ [i] } :=
      ⟨hidle, List.mem_append_right _ List.mem_cons_self,
        fun hmem => hnew (hinv₁.begun i.sourceId hmem), rfl⟩
    cases i with
    | context n sourceId => exact getContext_meets _ hwaiting
    | published n sourceId => exact getPublished_meets _ hwaiting
    | query n request =>
      exact (query_meets _ hwaiting).mono (fun _ _ h => ⟨h, trivial⟩) fun _ _ h => ⟨h, trivial⟩

theorem contract_lawful : (contract service parser).Lawful where
  rely_refl := Rely.refl
  rely_trans := fun _ _ _ _ h h' => h.trans h'
  guarantee := fun _ _ _ _ _ h hgate hstep => ServiceTasks.guarantee h hgate hstep
  env_guarantee := fun _ _ _ h => h.elim
  idle_stable := fun _ _ _ hrely h => h.rely hrely
  meets := fun i p s hstarts hinv hidle => by
    cases hstarts
    exact program_meets i hinv hidle
  idle_of_returned := fun _ _ _ h => h.1
  idle_of_raised := fun _ _ _ h => h.1

end Meets

/-! ## Reachable configurations -/

/-- A configuration of the service. -/
abbrev Calls : Type :=
  Config Shared (fun _ : TaskId => Ret) ServiceExc TaskResult

/-- The configurations that the calls of a new service can reach. -/
abbrev Reachable (service : MetadataService) (parser : SqlParser) (c : Calls) : Prop :=
  (system service parser).Reachable .initial c

/-- The call is about to end so. -/
def Ends (c : Calls) (i : TaskId) (r : Except ServiceExc (TaskResult i)) : Prop :=
  c.turn = some i ∧ c.tasks i = some (.done r)

section

variable {c : Calls}

theorem kept_of_reachable (h : Reachable service parser c) : (contract service parser).Kept c :=
  Contract.kept contract_lawful sharedInv_initial
    (fun _ _ _ hheld => absurd hheld (by simp [Shared.initial])) h

theorem inv_of_reachable (h : Reachable service parser c) : SharedInv service parser c.shared :=
  (kept_of_reachable h).inv

/-- A call that is about to perform an operation finds its gate open. -/
theorem gate_of_reachable (h : Reachable service parser c) {o : Op}
    {k : Except ServiceExc (Ret o) → Prog Ret ServiceExc (TaskResult i)}
    (htask : c.tasks i = some (.call o k)) : gate service parser i c.shared o :=
  ((kept_of_reachable h).act contract_lawful htask).1

/-- A call ends as the contract says. -/
theorem ended_of_reachable (h : Reachable service parser c) {r : Except ServiceExc (TaskResult i)}
    (hends : Ends c i r) : Ended service i r c.shared := by
  have hpost := (kept_of_reachable h).finish hends.1 hends.2
  cases r with
  | ok a => exact hpost.2
  | error e => exact hpost.2

/-- The sections of a registered source follow each other. -/
theorem sections_of_reachable (h : Reachable service parser c) {source : SourceProfile}
    (hsource : service.registry.get sourceId = some source) :
    Sections service source (c.shared.sections sourceId) (c.shared.settled sourceId) :=
  (inv_of_reachable h).sections sourceId source hsource

/-- A call of a registered source answers from its own section, or is cancelled before it has one.
-/
def AnswersFrom {α : Type} (c : Calls) (sourceId : String) (i : TaskId)
    (answer : Except ServiceExc (PreparedMetadata × Bool) → Except ServiceExc α)
    (r : Except ServiceExc α) : Prop :=
  (∃ e, r = .error e ∧ e.isCancelled = true ∧ i ∉ c.shared.acquired sourceId) ∨
    ∃ record ∈ c.shared.sections sourceId, record.task = i ∧ r = answer record.result

theorem answersFrom_of_outcome {α : Type} {source : SourceProfile}
    {answer : SourceProfile → Except ServiceExc (PreparedMetadata × Bool) → Except ServiceExc α}
    {r : Except ServiceExc α} (hsource : service.registry.get sourceId = some source)
    (h : Outcome service sourceId i c.shared answer r) :
    AnswersFrom c sourceId i (answer source) r := by
  rw [Outcome, hsource] at h
  obtain hcancelled | ⟨result, hserved, heq⟩ := h
  · exact .inl hcancelled
  · obtain ⟨record, hmem, htask, rfl⟩ := hserved.served
    exact .inr ⟨record, hmem, htask, heq⟩

theorem context_answers (h : Reachable service parser c) {source : SourceProfile} {n : Nat}
    {r : Except ServiceExc ContextResponse} (hsource : service.registry.get sourceId = some source)
    (hends : Ends c (.context n sourceId) r) :
    AnswersFrom c sourceId (.context n sourceId) (contextAnswer service source) r :=
  answersFrom_of_outcome hsource (ended_of_reachable h hends)

theorem published_answers (h : Reachable service parser c) {source : SourceProfile} {n : Nat}
    {r : Except ServiceExc PreparedMetadata} (hsource : service.registry.get sourceId = some source)
    (hends : Ends c (.published n sourceId) r) :
    AnswersFrom c sourceId (.published n sourceId) publishedAnswer r :=
  answersFrom_of_outcome hsource (ended_of_reachable h hends)

end

end QueryMan.ServiceTasks
