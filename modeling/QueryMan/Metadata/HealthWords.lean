import QueryMan.Coro.Observer
import QueryMan.Metadata.Availability
import QueryMan.Metadata.Linearizable

/-!
# Health words

The metadata health of a source is an observer of the service: its sections write it, and nothing of
the service reads it. What a section leaves is the word of its result; between two sections the word
is that of the last one that was not cancelled.
-/

namespace QueryMan

open Coro MetadataService ServiceTasks

variable {ι : Type} {service : MetadataService} {parser : SqlParser} {source : SourceProfile}
  {s s' : SourceState} {result : Except ServiceExc (PreparedMetadata × Bool)}

/-! ## The word of a result -/

/-- The health word of what a section gives; a cancelled section has none. -/
def resultWord : Except ServiceExc (PreparedMetadata × Bool) → Option Health
  | .ok (_, false) => some .healthy
  | .ok (_, true) => some .stale
  | .error (.metadataUnavailable _ _) => some .unavailable
  | .error _ => none

/-- A cancelled section has no word. -/
theorem resultWord_of_cancelled {e : ServiceExc} (h : e.isCancelled = true) :
    resultWord (.error e) = none := by
  cases e with
  | metadataUnavailable violations cause => cases h
  | _ => rfl

/-- One section leaves the word of its result, and the word before it if it was cancelled. -/
theorem health_of_step (h : service.SectionStep source s s' result) :
    s'.health = (resultWord result).or s.health := by
  cases h with
  | cancelled _ _ hcancelled =>
    rw [resultWord_of_cancelled hcancelled]
    rfl
  | _ => rfl

/-- The word of the last section that has one. -/
def lastWord (records : List (SectionRecord ι)) : Option Health :=
  (records.filterMap fun record => resultWord record.result).getLast?

theorem lastWord_concat (records : List (SectionRecord ι)) (record : SectionRecord ι) :
    lastWord (records ++ [record]) = (resultWord record.result).or (lastWord records) := by
  rw [lastWord, lastWord, List.filterMap_append, List.filterMap_cons, List.filterMap_nil]
  cases resultWord record.result with
  | none => simp
  | some word => simp

/-- After any sections the word is the last one. -/
theorem Sections.health {records : List (SectionRecord ι)} (h : Sections service source records s) :
    s.health = lastWord records := by
  induction h with
  | nil => rfl
  | @concat records record _ hsound ih =>
    rw [health_of_step hsound.step, ih, lastWord_concat]

/-! ## The operational state -/

/-- What a call of the service does to the operational state. -/
def watchOperations (o : Op) (_ : Except ServiceExc (Ret o)) (ops : OperationalState) :
    OperationalState :=
  match o with
  | .inSection sourceId _ (.setSourceHealth status) => ops.setSourceHealth sourceId status
  | .inSection sourceId _ (.increment name) => ops.increment name (some sourceId) 1
  | .increment name sourceId => ops.increment name (some sourceId) 1
  | _ => ops

/-- What the rest of the process does to it: it leaves the metadata health and the registered
sources. -/
def OthersMove (ops ops' : OperationalState) : Prop :=
  ops'.sourceMetadataHealth = ops.sourceMetadataHealth ∧ ops'.activeSources = ops.activeSources

/-- The service with the operational state of its process. -/
def operatedSystem (service : MetadataService) (parser : SqlParser) :
    System TaskId (Shared × OperationalState) (fun _ => Ret) ServiceExc TaskResult :=
  (system service parser).observe (fun _ => watchOperations) OthersMove

/-- A configuration of the service with the operational state. -/
abbrev OperatedCalls : Type :=
  Config (Shared × OperationalState) (fun _ : TaskId => Ret) ServiceExc TaskResult

/-- The recorded metadata health of a source. -/
def OperatedCalls.word (c : OperatedCalls) (sourceId : String) : Option Health :=
  c.shared.2.sourceMetadataHealth.lookup sourceId

/-- Where only the sections write, the recorded health is that of the source. -/
structure WordRecorded (ops₀ : OperationalState) (x : Shared × OperationalState) : Prop where
  active : x.2.activeSources = ops₀.activeSources
  word : ∀ sourceId, ops₀.isInactive sourceId = false →
    x.2.sourceMetadataHealth.lookup sourceId =
      (x.1.sources sourceId).health.or (ops₀.sourceMetadataHealth.lookup sourceId)

/-- Only a health mark of a section changes the health of a source. -/
theorem health_of_next {o : SectionOp} {r : Except ServiceExc (SectionRet o)}
    (ho : ∀ status, o ≠ .setSourceHealth status) :
    (service.sectionWorld.next s o r).health = s.health := by
  cases o with
  | setSourceHealth status => exact absurd rfl (ho status)
  | now => cases r <;> rfl
  | _ => rfl

/-- Only a section changes the state of a source. -/
theorem sources_of_step {i : TaskId} {shared shared' : Shared} {o : Op}
    {r : Except ServiceExc (Ret o)}
    (ho : ∀ sourceId lock o', o ≠ .inSection sourceId lock o')
    (h : ServiceTasks.step service i shared o r shared') : shared'.sources = shared.sources := by
  cases o with
  | inSection sourceId lock o' => exact absurd rfl (ho sourceId lock o')
  | begin =>
    cases r with
    | error e => exact h.elim
    | ok a =>
      obtain ⟨-, rfl⟩ := h
      rfl
  | refreshLock sourceId =>
    cases r with
    | error e => exact h.elim
    | ok lock => obtain ⟨-, rfl⟩ | ⟨-, -, rfl⟩ := step_refreshLock service i h <;> rfl
  | lock sourceId lock =>
    cases r <;> obtain ⟨-, rfl⟩ := h <;> rfl
  | unlock sourceId lock result =>
    cases r with
    | error e => exact h.elim
    | ok a =>
      obtain ⟨holder, -, rfl⟩ := h
      rfl
  | increment name sourceId =>
    cases r with
    | error e => exact h.elim
    | ok a =>
      cases h
      rfl
  | respond response =>
    cases r with
    | error e => exact h.elim
    | ok a =>
      cases h
      rfl
  | execute call =>
    cases r with
    | error e =>
      obtain ⟨-, rfl⟩ := h
      rfl
    | ok a =>
      cases h
      rfl

/-- A mark of a registered source is recorded. -/
theorem lookup_setSourceHealth {ops : OperationalState} {sourceId : String} {status : Health}
    (hactive : ops.isInactive sourceId = false) :
    (ops.setSourceHealth sourceId status).sourceMetadataHealth.lookup sourceId = some status := by
  rw [OperationalState.setSourceHealth, hactive, if_neg Bool.false_ne_true]
  exact AList.lookup_insert _

theorem lookup_setSourceHealth_ne {ops : OperationalState} {sourceId id : String} {status : Health}
    (hne : id ≠ sourceId) : (ops.setSourceHealth sourceId status).sourceMetadataHealth.lookup id =
      ops.sourceMetadataHealth.lookup id := by
  rw [OperationalState.setSourceHealth]
  split
  · rfl
  · exact AList.lookup_insert_ne hne

theorem setSourceHealth_activeSources (ops : OperationalState) (sourceId : String)
    (status : Health) :
    (ops.setSourceHealth sourceId status).activeSources = ops.activeSources := by
  rw [OperationalState.setSourceHealth]
  split <;> rfl

/-- Every other operation leaves the metadata health and the registered sources. -/
theorem watchOperations_words (o : Op) (r : Except ServiceExc (Ret o)) (ops : OperationalState)
    (ho : ∀ sourceId lock status, o ≠ .inSection sourceId lock (.setSourceHealth status)) :
    (watchOperations o r ops).sourceMetadataHealth = ops.sourceMetadataHealth ∧
      (watchOperations o r ops).activeSources = ops.activeSources := by
  cases o with
  | inSection sourceId lock o' =>
    cases o' with
    | setSourceHealth status => exact absurd rfl (ho sourceId lock status)
    | _ => exact ⟨rfl, rfl⟩
  | _ => exact ⟨rfl, rfl⟩

variable {ops₀ : OperationalState}

theorem WordRecorded.isInactive {x : Shared × OperationalState} (h : WordRecorded ops₀ x)
    (sourceId : String) : x.2.isInactive sourceId = ops₀.isInactive sourceId := by
  rw [OperationalState.isInactive, OperationalState.isInactive, h.active]

/-- One operation: what is recorded is the health of the sources. -/
theorem wordRecorded_step {i : TaskId} {x x' : Shared × OperationalState} {o : Op}
    {r : Except ServiceExc (Ret o)} (h : WordRecorded ops₀ x)
    (hstep : (operatedSystem service parser).step i x o r x') : WordRecorded ops₀ x' := by
  obtain ⟨shared, ops⟩ := x
  obtain ⟨shared', ops'⟩ := x'
  obtain ⟨hstep, rfl⟩ : ServiceTasks.step service i shared o r shared' ∧
    ops' = watchOperations o r ops := hstep
  by_cases ho : ∃ sourceId lock o', o = .inSection sourceId lock o'
  · obtain ⟨sourceId, lock, o', rfl⟩ := ho
    obtain ⟨holder, -, -, rfl⟩ := hstep
    have hsources : ∀ id, ((shared.advance sourceId lock holder
        (service.sectionWorld.next (shared.sources sourceId) o' r) ⟨o', r⟩).sources id) =
        if id = sourceId then service.sectionWorld.next (shared.sources sourceId) o' r
        else shared.sources id := fun id => Function.update_apply ..
    by_cases hmark : ∃ status, o' = .setSourceHealth status
    · obtain ⟨status, rfl⟩ := hmark
      refine ⟨(setSourceHealth_activeSources ..).trans h.active, fun id hid => ?_⟩
      change (ops.setSourceHealth sourceId status).sourceMetadataHealth.lookup id = _
      rw [hsources]
      by_cases heq : id = sourceId
      · subst heq
        rw [lookup_setSourceHealth ((h.isInactive id).trans hid), if_pos rfl]
        rfl
      · rw [if_neg heq, lookup_setSourceHealth_ne heq]
        exact h.word id hid
    · have hhealth : ∀ id, ((shared.advance sourceId lock holder
          (service.sectionWorld.next (shared.sources sourceId) o' r) ⟨o', r⟩).sources id).health =
          (shared.sources id).health := by
        intro id
        rw [hsources]
        split
        · next hid =>
          rw [hid]
          exact health_of_next fun status heq => hmark ⟨status, heq⟩
        · rfl
      obtain ⟨hwords, hactive⟩ := watchOperations_words (.inSection sourceId lock o') r ops
        fun sid lock' status heq => hmark ⟨status, by cases heq; rfl⟩
      refine ⟨hactive.trans h.active, fun id hid => ?_⟩
      change (watchOperations _ _ ops).sourceMetadataHealth.lookup id = _
      rw [hwords, hhealth]
      exact h.word id hid
  · have hsources :=
      sources_of_step (fun sourceId lock o' heq => ho ⟨sourceId, lock, o', heq⟩) hstep
    obtain ⟨hwords, hactive⟩ := watchOperations_words o r ops
      fun sid lock status heq => ho ⟨sid, lock, _, heq⟩
    refine ⟨hactive.trans h.active, fun id hid => ?_⟩
    change (watchOperations _ _ ops).sourceMetadataHealth.lookup id = _
    rw [hwords, hsources]
    exact h.word id hid

/-! ## The calls -/

/-- The configurations that the calls of a new service can reach, from an operational state. -/
abbrev OperatedReachable (service : MetadataService) (parser : SqlParser) (ops₀ : OperationalState)
    (c : OperatedCalls) : Prop :=
  (operatedSystem service parser).Reachable (.initial, ops₀) c

variable {c : OperatedCalls} {sourceId : String}

theorem wordRecorded_of_reachable (h : OperatedReachable service parser ops₀ c) :
    WordRecorded ops₀ c.shared := by
  refine h.invariant ⟨rfl, fun _ _ => rfl⟩ (fun _ _ _ _ _ hrecorded => wordRecorded_step hrecorded)
    fun x x' hrecorded hmove => ?_
  rcases hmove with ⟨hnever, -⟩ | ⟨hsame, hwords, hactive⟩
  · exact hnever.elim
  · refine ⟨hactive.trans hrecorded.active, fun id hid => ?_⟩
    rw [hwords, hsame]
    exact hrecorded.word id hid

/-- While nobody is in a section of a source, its word is that of the last section that has one. -/
theorem word_of_free (h : OperatedReachable service parser ops₀ c)
    (hactive : ops₀.isInactive sourceId = false)
    (hsource : service.registry.get sourceId = some source)
    (hfree : c.shared.1.holderOf sourceId = none) :
    c.word sourceId = (lastWord (c.shared.1.sections sourceId)).or
      (ops₀.sourceMetadataHealth.lookup sourceId) := by
  have hsections := sections_of_reachable h.of_observe hsource
  have hsettled : c.unobserved.shared.settled sourceId = c.shared.1.sources sourceId := by
    change c.shared.1.settled sourceId = _
    rw [Shared.settled, hfree]
  rw [OperatedCalls.word, (wordRecorded_of_reachable h).word sourceId hactive, ← hsettled,
    hsections.health]
  rfl

/-- What the word says of a request that returned or raised, by the section that it answers from. -/
structure RequestTold {α : Type} (word : Option Health)
    (result : Except ServiceExc (PreparedMetadata × Bool)) (r : Except ServiceExc α) : Prop where
  healthy : word = some .healthy ↔ ∃ value a, result = .ok (value, false) ∧ r = .ok a
  stale : word = some .stale ↔ ∃ value a, result = .ok (value, true) ∧ r = .ok a
  unavailable : word = some .unavailable ↔
    ∃ violations cause, r = .error (.metadataUnavailable violations cause)

theorem requestTold_of_answer {α : Type}
    {answer : Except ServiceExc (PreparedMetadata × Bool) → Except ServiceExc α}
    (herror : ∀ e, answer (.error e) = .error e)
    (hok : ∀ prepared, result = .ok prepared → ∃ a, answer (.ok prepared) = .ok a) :
    RequestTold (resultWord result) result (answer result) := by
  cases result with
  | ok prepared =>
    obtain ⟨a, ha⟩ := hok prepared rfl
    obtain ⟨value, stale⟩ := prepared
    rw [ha]
    cases stale <;> constructor <;> simp [resultWord]
  | error e =>
    rw [herror]
    cases e <;> constructor <;> simp [resultWord]

/-- A request of a source has completed: it was cancelled, or the recorded word says what it
obtained from the last section of the source, which was its own. -/
def Told {α : Type} (c : OperatedCalls) (sourceId : String) (i : TaskId)
    (answer : Except ServiceExc (PreparedMetadata × Bool) → Except ServiceExc α)
    (r : Except ServiceExc α) : Prop :=
  (∃ e, r = .error e ∧ e.isCancelled = true) ∨
    ∃ result, c.shared.1.JustServed sourceId i result ∧ r = answer result ∧
      RequestTold (c.word sourceId) result r

/-- What the recorded health of a source says. -/
structure HealthTruthful (service : MetadataService) (parser : SqlParser) (source : SourceProfile)
    (ops₀ : OperationalState) (c : OperatedCalls) (sourceId : String) : Prop where
  /-- after a request that was not cancelled, it says what the request obtained -/
  context : ∀ n r, Ends c.unobserved (.context n sourceId) r →
    Told c sourceId (.context n sourceId) (contextAnswer service source) r
  published : ∀ n r, Ends c.unobserved (.published n sourceId) r →
    Told c sourceId (.published n sourceId) publishedAnswer r
  /-- between the sections of the source it is the word of the last one that was not cancelled -/
  settled : c.shared.1.holderOf sourceId = none →
    c.word sourceId = (lastWord (c.shared.1.sections sourceId)).or
      (ops₀.sourceMetadataHealth.lookup sourceId)
  /-- these sections are of requests for the source -/
  about : ∀ record ∈ c.shared.1.sections sourceId, record.task.sourceId = sourceId
  /-- and those that were cancelled have no word -/
  cancelled : ∀ record ∈ c.shared.1.sections sourceId, record.completed = false →
    resultWord record.result = none
  /-- no operation of a request for another source changes it -/
  others : ∀ (i : TaskId) (o : Op) k r s', c.tasks i = some (.call o k) → i.sourceId ≠ sourceId →
    (operatedSystem service parser).step i c.shared o r s' →
      s'.2.sourceMetadataHealth.lookup sourceId = c.word sourceId

/-- A request that has just been served, and was not cancelled, finds its own word. -/
theorem word_of_justServed (h : OperatedReachable service parser ops₀ c)
    (hactive : ops₀.isInactive sourceId = false)
    (hsource : service.registry.get sourceId = some source)
    {i : TaskId} (hserved : c.shared.1.JustServed sourceId i result)
    (hword : (resultWord result).isSome = true) : c.word sourceId = resultWord result := by
  obtain ⟨earlier, record, hsections, -, rfl⟩ := hserved.last
  obtain ⟨word, hword⟩ := Option.isSome_iff_exists.1 hword
  rw [word_of_free h hactive hsource hserved.free, hsections, lastWord_concat, hword]
  rfl

/-- What a section gives has a word, unless it was cancelled. -/
theorem resultWord_isSome (h : service.SectionStep source s s' result) :
    (resultWord result).isSome = true ∨ ∃ e, result = .error e ∧ e.isCancelled = true := by
  cases h with
  | cancelled _ _ hcancelled => exact .inr ⟨_, rfl, hcancelled⟩
  | _ => exact .inl rfl

/-- A call that ends was cancelled, or finds its own word. -/
theorem told_of_outcome {α : Type} {i : TaskId} {r : Except ServiceExc α}
    {answer : SourceProfile → Except ServiceExc (PreparedMetadata × Bool) → Except ServiceExc α}
    (h : OperatedReachable service parser ops₀ c) (hactive : ops₀.isInactive sourceId = false)
    (hsource : service.registry.get sourceId = some source)
    (herror : ∀ e, answer source (.error e) = .error e)
    (hok : ∀ record ∈ c.shared.1.sections sourceId, ∀ prepared, record.result = .ok prepared →
      ∃ a, answer source (.ok prepared) = .ok a)
    (houtcome : Outcome service sourceId i c.shared.1 answer r) :
    Told c sourceId i (answer source) r := by
  rw [Outcome, hsource] at houtcome
  obtain ⟨e, rfl, hcancelled, -⟩ | ⟨result, hserved, rfl⟩ := houtcome
  · exact .inl ⟨e, rfl, hcancelled⟩
  · obtain ⟨record, hmem, -, hresult⟩ := hserved.served
    obtain ⟨-, -, -, hsound, -⟩ := (sections_of_reachable h.of_observe hsource).of_mem hmem
    rcases resultWord_isSome hsound.step with hword | ⟨e, he, hcancelled⟩
    · refine .inr ⟨result, hserved, rfl, ?_⟩
      rw [word_of_justServed h hactive hsource hserved (hresult ▸ hword)]
      exact requestTold_of_answer herror fun prepared hprepared =>
        hok record hmem prepared (hresult.trans hprepared)
    · rw [← hresult, he, herror]
      exact .inl ⟨e, rfl, hcancelled⟩

/-- **Metadata health tells the truth**, in every configuration that the calls of a service can
reach, with all its sources registered as active: after a request that was not cancelled the
recorded word of its source is `healthy` exactly if it obtained a fresh snapshot, `stale` exactly if
it obtained a stale one, and `unavailable` exactly if it raised `MetadataUnavailableError`;
cancelled requests and requests for other sources leave it. -/
theorem health_tells_truth (h : OperatedReachable service parser ops₀ c)
    (hactive : ∀ id source, service.registry.get id = some source → ops₀.isInactive id = false)
    (hsource : service.registry.get sourceId = some source) :
    HealthTruthful service parser source ops₀ c sourceId := by
  have hreach := h.of_observe
  have hinv := inv_of_reachable hreach
  have hactive' := hactive sourceId source hsource
  have hsections := sections_of_reachable hreach hsource
  refine ⟨fun n r hends => ?_, fun n r hends => ?_, word_of_free h hactive' hsource,
    fun record hmem => ?_, fun record hmem hcompleted => ?_,
      fun i o k r s' htask hother hstep => ?_⟩
  · refine told_of_outcome h hactive' hsource (fun _ => rfl)
      (fun record hmem prepared hresult => ?_)
      (ended_of_reachable hreach hends)
    obtain ⟨response, hresponse⟩ := (hsections.loaded hmem hresult).response
    exact ⟨_, Python.bind_eq_ok.2 ⟨prepared, rfl, contextResponse_stale hresponse prepared.2⟩⟩
  · exact told_of_outcome h hactive' hsource (fun _ => rfl)
      (fun _ _ prepared _ => ⟨prepared.1, rfl⟩)
      (ended_of_reachable hreach hends)
  · refine hinv.about sourceId record.task ?_
    rw [hinv.acquired]
    exact List.mem_append_left _ (List.mem_map_of_mem hmem)
  · cases hresult : record.result with
    | ok prepared =>
      rw [SectionRecord.completed, hresult] at hcompleted
      cases hcompleted
    | error e =>
      exact resultWord_of_cancelled (SectionRecord.isCancelled_of_not_completed hresult hcompleted)
  · obtain ⟨-, hops⟩ := hstep
    rw [hops, OperatedCalls.word]
    by_cases ho : ∃ id lock status, o = .inSection id lock (.setSourceHealth status)
    · obtain ⟨id, lock, status, rfl⟩ := ho
      obtain ⟨holder, hholds, rfl⟩ := gate_of_reachable hreach htask
      refine lookup_setSourceHealth_ne fun heq => hother ?_
      rw [heq]
      refine hinv.about id holder.task ?_
      rw [hinv.acquired, Shared.holderOf_eq_some.2 ⟨lock, hholds⟩]
      exact List.mem_append_right _ List.mem_cons_self
    · rw [(watchOperations_words o r _ fun id lock status heq => ho ⟨id, lock, status, heq⟩).1]

/-- The operational state of a process that serves the one source `demo`. -/
def demoOperations : OperationalState :=
  OperationalState.initial.reconcileSources ["demo"]

/-- A request answers with a stale snapshot, and the word of its source is `stale`. -/
theorem health_tells_truth_stale : ∃ (c : OperatedCalls) (response : ContextResponse),
    OperatedReachable Demo.service Demo.parser demoOperations c ∧ response.stale = true ∧
      Ends c.unobserved (.context 3 "demo") (.ok response) ∧ c.word "demo" = some .stale ∧
      HealthTruthful Demo.service Demo.parser DottedView.source demoOperations c "demo" := by
  obtain ⟨d⟩ := Demo.histories
  obtain ⟨c, h, hrest, hends⟩ := d.stale
  obtain ⟨ops, hobserved⟩ := h.observed demoOperations
  have hactive : ∀ id source, Demo.service.registry.get id = some source →
      demoOperations.isInactive id = false := by
    intro id source hsource
    rw [← SourceRegistry.sourceId_of_get hsource,
      List.mem_singleton.1 (SourceRegistry.mem_of_get hsource)]
    decide
  have htruth : HealthTruthful Demo.service Demo.parser DottedView.source demoOperations _ "demo" :=
    health_tells_truth hobserved hactive Demo.registered
  refine ⟨_, _, hobserved, rfl, hends, ?_, htruth⟩
  rw [htruth.settled hrest.holderOf]
  change (lastWord (c.shared.sections "demo")).or _ = _
  rw [hrest.sections]
  rfl

end QueryMan
