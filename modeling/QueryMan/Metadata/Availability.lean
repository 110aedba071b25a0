import QueryMan.Metadata.CallSequences

/-!
# Availability

`/meta` and `/query` see the same availability of a source. `get_context` and `get_published` run
the same section, which is determined by the state it starts from, the clock and the answers of the
catalog; and what a section returns can always be rendered, since a fresh and a stale response have
the same size.
-/

namespace QueryMan

open Coro Python MetadataService ServiceTasks

variable {ι κ : Type} {service : MetadataService} {parser : SqlParser} {source : SourceProfile}
  {s : SourceState} {value : PreparedMetadata}

/-! ## One section -/

/-- The operations of a section that are not determined by its state: those of the catalog, and the
clock. -/
def SectionOp.isInput : SectionOp → Bool
  | .catalog _ | .now => true
  | _ => false

/-- The clock values and the answers of the catalog in a section. -/
def SectionRecord.inputs (record : SectionRecord ι) : List (Exchange SectionRet ServiceExc) :=
  record.history.filter fun exchange => SectionOp.isInput exchange.1

/-- Every other operation answers from the state. -/
theorem sectionWorld_determined (s : SourceState) (o : SectionOp)
    (answer answer' : Except ServiceExc (SectionRet o)) (hinput : SectionOp.isInput o = false)
    (h : service.sectionWorld.allowed s o answer) (h' : service.sectionWorld.allowed s o answer') :
    answer = answer' := by
  cases o with
  | catalog o => cases hinput
  | now => cases hinput
  | cacheGet | acceptedSignature version | sha256 text =>
    cases answer with
    | error e => exact h.elim
    | ok a =>
      cases answer' with
      | error e => exact h'.elim
      | ok a' => exact congrArg Except.ok (Eq.trans h (Eq.symm h'))
  | _ =>
    cases answer with
    | error e => exact h.elim
    | ok a =>
      cases answer' with
      | error e => exact h'.elim
      | ok a' => rfl

/-- **A section is determined** by the state that it starts from, the clock and the catalog. -/
theorem section_determined {record : SectionRecord ι} {record' : SectionRecord κ}
    (h : record.Sound service source) (h' : record'.Sound service source)
    (hbefore : record'.before = record.before) (hinputs : record'.inputs = record.inputs) :
    record'.result = record.result ∧ record'.after = record.after := by
  obtain ⟨-, hresult, hafter⟩ := makes_unique sectionWorld_determined h'.makes
    (hbefore ▸ h'.allows) h.makes h.allows hinputs
  exact ⟨hresult, hafter⟩

/-! ## The two calls -/

/-- A call of `get_context` and a call of `get_published` end alike: both return, with the same
revision, or both raise the same error. -/
inductive EndAlike :
    Except ServiceExc ContextResponse → Except ServiceExc PreparedMetadata → Prop where
  | returned {response : ContextResponse} {value : PreparedMetadata}
      (h : response.metadataRevision = value.revision) : EndAlike (.ok response) (.ok value)
  | raised (e : ServiceExc) : EndAlike (.error e) (.error e)

/-- What the two calls answer from one section. -/
theorem endAlike_of_result {result : Except ServiceExc (PreparedMetadata × Bool)}
    (hrendered : ∀ value stale, result = .ok (value, stale) →
      ∃ response, contextResponse service.sha256 source value false = .ok response) :
    EndAlike (contextAnswer service source result) (publishedAnswer result) := by
  cases result with
  | error e => exact .raised e
  | ok prepared =>
    obtain ⟨value, stale⟩ := prepared
    obtain ⟨response, hresponse⟩ := hrendered value stale rfl
    have hanswer : contextAnswer service source (.ok (value, stale)) =
        .ok (projection service.sha256 source value stale) := by
      rw [contextAnswer]
      exact bind_eq_ok.2 ⟨_, rfl, contextResponse_stale hresponse stale⟩
    rw [hanswer]
    exact .returned rfl

/-- The two calls of a source, in two configurations that the calls of a service can reach. -/
structure SameAvailability (service : MetadataService) (source : SourceProfile) (c c' : Calls)
    (sourceId : String) : Prop where
  /-- from the same state, with the same clock and the same answers of the catalog, they leave the
  same state -/
  state : ∀ n m, ∀ record ∈ c.shared.sections sourceId, ∀ record' ∈ c'.shared.sections sourceId,
    record.task = .context n sourceId → record'.task = .published m sourceId →
      record'.before = record.before → record'.inputs = record.inputs → record'.after = record.after
  /-- and end alike -/
  answer : ∀ n m r r', Ends c (.context n sourceId) r → Ends c' (.published m sourceId) r' →
    ∀ record ∈ c.shared.sections sourceId, ∀ record' ∈ c'.shared.sections sourceId,
      record.task = .context n sourceId → record'.task = .published m sourceId →
        record'.before = record.before → record'.inputs = record.inputs → EndAlike r r'
  /-- what has been admitted can be rendered, fresh or stale -/
  rendered : ∀ x ∈ (c.shared.settled sourceId).loads, ∀ stale, ∃ response,
    contextResponse service.sha256 source x.1 stale = .ok response

/-- A call that has a section of its source answers from it. -/
theorem answers_own_section {α : Type} {c : Calls} {sourceId : String} {i : TaskId}
    {answer : Except ServiceExc (PreparedMetadata × Bool) → Except ServiceExc α}
    {r : Except ServiceExc α} (h : Reachable service parser c)
    (hanswers : AnswersFrom c sourceId i answer r) {record : SectionRecord TaskId}
    (hmem : record ∈ c.shared.sections sourceId) (htask : record.task = i) :
    r = answer record.result := by
  have hinv := inv_of_reachable h
  have hacquired := hinv.acquired sourceId
  have hin : i ∈ c.shared.acquired sourceId := by
    rw [hacquired]
    exact List.mem_append_left _ (List.mem_map.2 ⟨record, hmem, htask⟩)
  obtain ⟨e, -, -, hnot⟩ | ⟨own, hown, howntask, heq⟩ := hanswers
  · exact absurd hin hnot
  · have hnodup : ((c.shared.sections sourceId).map (·.task)).Nodup := by
      have hall := hinv.nodup sourceId
      rw [hacquired] at hall
      exact (List.nodup_append.1 hall).1
    rw [heq, List.inj_on_of_nodup_map hnodup hown hmem (howntask.trans htask.symm)]

/-- **The two paths agree on availability**, in any two configurations that the calls of a service
can reach: a call of `get_context` and a call of `get_published` that start from the same state of
the source, with the same clock and the same answers of the catalog, leave the same state, and both
return the same revision or both raise the same error. What has been admitted never fails the byte
limit later. A source that is not registered is not found by either. -/
theorem context_published_agree {c c' : Calls} (h : Reachable service parser c)
    (h' : Reachable service parser c') (sourceId : String) :
    (∀ source, service.registry.get sourceId = some source →
      SameAvailability service source c c' sourceId) ∧
    (service.registry.get sourceId = none →
      (∀ n r, Ends c (.context n sourceId) r → r = .error .sourceNotFound) ∧
      ∀ m r, Ends c' (.published m sourceId) r → r = .error .sourceNotFound) := by
  refine ⟨fun source hsource => ?_, fun hnone => ⟨fun n r hends => ?_, fun m r hends => ?_⟩⟩
  · have hsections := sections_of_reachable h hsource
    have hsections' := sections_of_reachable h' hsource
    refine ⟨fun n m record hmem record' hmem' _ _ hbefore hinputs => ?_,
      fun n m r r' hends hends' record hmem record' hmem' htask htask' hbefore hinputs => ?_,
      fun x hx stale => ?_⟩
    · obtain ⟨-, -, -, hsound, -⟩ := hsections.of_mem hmem
      obtain ⟨-, -, -, hsound', -⟩ := hsections'.of_mem hmem'
      exact (section_determined hsound hsound' hbefore hinputs).2
    · obtain ⟨-, -, -, hsound, -⟩ := hsections.of_mem hmem
      obtain ⟨-, -, -, hsound', -⟩ := hsections'.of_mem hmem'
      have hresult := (section_determined hsound hsound' hbefore hinputs).1
      rw [answers_own_section h (context_answers h hsource hends) hmem htask,
        answers_own_section h' (published_answers h' hsource hends') hmem' htask', hresult]
      exact endAlike_of_result fun value stale hvalue => (hsections.loaded hmem hvalue).response
    · obtain ⟨response, hresponse⟩ := (hsections.inv.loaded x hx).response
      exact ⟨_, contextResponse_stale hresponse stale⟩
  · have hended := ended_of_reachable h hends
    rwa [Ended, Outcome, hnone] at hended
  · have hended := ended_of_reachable h' hends
    rwa [Ended, Outcome, hnone] at hended

/-- From one state with a cached snapshot, `get_context` answers with it, and so does
`get_published`. -/
theorem context_published_agree_stale : ∃ (c c' : Calls) (response : ContextResponse)
    (value : PreparedMetadata) (record record' : SectionRecord TaskId),
    Reachable Demo.service Demo.parser c ∧ Reachable Demo.service Demo.parser c' ∧
    record ∈ c.shared.sections "demo" ∧ record' ∈ c'.shared.sections "demo" ∧
    record'.before = record.before ∧ record'.inputs = record.inputs ∧
    record.before.cache.isSome = true ∧ record'.after = record.after ∧
    Ends c (.context 3 "demo") (.ok response) ∧ Ends c' (.published 3 "demo") (.ok value) ∧
    EndAlike (.ok response) (.ok value) ∧
    (c.shared.settled "demo").loads ≠ [] ∧
    SameAvailability Demo.service DottedView.source c c' "demo" := by
  obtain ⟨d⟩ := Demo.histories
  obtain ⟨c, h, hrest, hends⟩ := d.stale
  obtain ⟨c', h', hsections', hends'⟩ := d.stalePublished
  have hagree : SameAvailability Demo.service DottedView.source c c' "demo" :=
    (context_published_agree h h' "demo").1 _ Demo.registered
  have hmem : d.backedOff.record (.context 3 "demo") ∈ c.shared.sections "demo" := by
    rw [hrest.sections]
    exact List.mem_of_mem_getLast? rfl
  have hmem' : d.backedOff.record (.published 3 "demo") ∈ c'.shared.sections "demo" := by
    rw [hsections']
    exact List.mem_of_mem_getLast? rfl
  have hloads : (c.shared.settled "demo").loads ≠ [] := by
    rw [hrest.settled]
    exact List.cons_ne_nil _ _
  exact ⟨c, c', _, _, _, _, h, h', hmem, hmem', rfl, rfl, rfl,
    hagree.state 3 3 _ hmem _ hmem' rfl rfl rfl rfl, hends, hends',
    hagree.answer 3 3 _ _ hends hends' _ hmem _ hmem' rfl rfl rfl rfl, hloads, hagree⟩

end QueryMan
