import QueryMan.Metadata.CallSequences

/-!
# Rejected catalogs

A refresh that rejects drops what is cached, and nothing but an admission stores again. So after a
rejection a section has nothing to serve until a refresh passes the full validation.
-/

namespace QueryMan

open Coro MetadataService ServiceTasks

variable {service : MetadataService} {parser : SqlParser} {source : SourceProfile}
  {s s' : SourceState} {result : Except ServiceExc (PreparedMetadata × Bool)}

/-- How a section ends for a source whose catalog was rejected: its own refresh passes the full
validation, or it raises `MetadataUnavailableError`, or it is cancelled. -/
inductive AfterRejection (service : MetadataService) (source : SourceProfile) (s s' : SourceState) :
    Except ServiceExc (PreparedMetadata × Bool) → Prop where
  | admitted {snapshot : CatalogSnapshot} (h : service.Admissible source s.signatures snapshot)
      (hlast : s'.lastDecided = some (.admitted (service.prepare source snapshot))) :
      AfterRejection service source s s' (.ok (service.prepare source snapshot, false))
  | unavailable (violations : List String) (cause : Option LoadFailure) :
      AfterRejection service source s s' (.error (.metadataUnavailable violations cause))
  | cancelled {e : ServiceExc} (h : e.isCancelled = true) :
      AfterRejection service source s s' (.error e)

/-- One section: after a rejection there is nothing that it could serve. -/
theorem afterRejection_of_step (hbefore : s.Inv service source)
    (hrejected : s.lastDecided = some .rejected) (h : service.SectionStep source s s' result) :
    AfterRejection service source s s' result := by
  have hnone : s.cache = none := hbefore.latched hrejected
  cases h with
  | fresh hcache => cases hnone.symm.trans hcache
  | backOff hcache => cases hnone.symm.trans hcache
  | backOffExpired hcache => cases hnone.symm.trans hcache
  | transient _ _ hcache => cases hnone.symm.trans hcache
  | @admitted snapshot now loadedAt _ _ _ _ hadmissible =>
    have hlast : (s.attempt (.admitted (service.prepare source snapshot))).lastDecided =
        some (.admitted (service.prepare source snapshot)) := SourceState.lastDecided_attempt
    exact .admitted hadmissible hlast
  | rejected => exact .unavailable _ _
  | transientExpired => exact .unavailable _ _
  | cancelled _ _ hcancelled => exact .cancelled hcancelled

/-- How a refresh ends with an exception: whether it is recorded as a rejection depends on the class
of the exception alone. -/
theorem outcomeOf_rejected {e : ServiceExc} : outcomeOf (.error e) = .rejected ↔
    e.isMetadataUnavailable = true ∨ e.policyRejection.isSome = true := by
  cases e with
  | load failure =>
    cases failure with
    | exc x =>
        cases x <;> simp [outcomeOf, ServiceExc.isCancelled, ServiceExc.isMetadataUnavailable,
        ServiceExc.policyRejection, Exc.isCancelled]
    | catalogValidation error => simp [outcomeOf, ServiceExc.isCancelled,
        ServiceExc.isMetadataUnavailable, ServiceExc.policyRejection]
  | metadataUnavailable violations cause =>
    simp [outcomeOf, ServiceExc.isCancelled, ServiceExc.isMetadataUnavailable]
  | sourceNotFound | revisionMismatch => simp [outcomeOf, ServiceExc.isCancelled,
      ServiceExc.isMetadataUnavailable, ServiceExc.policyRejection]

/-- What a rejection means for the later requests of a source. -/
structure RejectionLatched (service : MetadataService) (source : SourceProfile) (c : Calls)
    (sourceId : String) : Prop where
  /-- a refresh is a rejection by the class of its exception -/
  classified : ∀ e, outcomeOf (.error e) = .rejected ↔
    e.isMetadataUnavailable = true ∨ e.policyRejection.isSome = true
  /-- an exception in the transaction of a load keeps its class, also if the rollback fails -/
  keepsClass : ∀ e r, Run PostgresCatalog.world ()
    ((PostgresCatalog.rollbackAndRaise e : PostgresCatalog.Load (List CatalogRow)).exitWith
      PostgresCatalog.leaveConnection) () r → r = .error e ∨ ∃ e', r = .error e' ∧
        e'.isCancelled = true
  /-- if the last refresh that was admitted or rejected was rejected, nothing is served -/
  unavailable : ∀ record ∈ c.shared.sections sourceId, record.before.lastDecided = some .rejected →
    AfterRejection service source record.before record.after record.result
  /-- the calls answer from their own sections -/
  context : ∀ n r, Ends c (.context n sourceId) r →
    AnswersFrom c sourceId (.context n sourceId) (contextAnswer service source) r
  published : ∀ n r, Ends c (.published n sourceId) r →
    AnswersFrom c sourceId (.published n sourceId) publishedAnswer r

/-- **A rejected catalog is never served again**, in every configuration that the calls of a service
can reach: until a refresh passes the full validation, every request of the source raises
`MetadataUnavailableError` or is cancelled, whatever else happens in between. -/
theorem rejection_latched {c : Calls} {sourceId : String} (h : Reachable service parser c)
    (hsource : service.registry.get sourceId = some source) :
    RejectionLatched service source c sourceId where
  classified := fun _ => outcomeOf_rejected
  keepsClass := fun _ _ hrun => PostgresCatalog.transaction_keeps hrun
  unavailable := fun record hmem hrejected => by
    obtain ⟨earlier, -, hearlier, hsound, -⟩ := (sections_of_reachable h hsource).of_mem hmem
    exact afterRejection_of_step hearlier.inv hrejected hsound.step
  context := fun _ _ hends => context_answers h hsource hends
  published := fun _ _ hends => published_answers h hsource hends

/-- A catalog is rejected although a snapshot was cached, and the next request fails. -/
theorem rejection_latched_later : ∃ (c : Calls) (rejected later : SectionRecord TaskId),
    Reachable Demo.service Demo.parser c ∧ rejected ∈ c.shared.sections "demo" ∧
    rejected.before.cache.isSome = true ∧ later ∈ c.shared.sections "demo" ∧
    later.before.lastDecided = some .rejected ∧
    AfterRejection Demo.service DottedView.source later.before later.after later.result ∧
    ∃ cause, Ends c (.published 6 "demo") (.error (.metadataUnavailable [] (some cause))) ∧
      AnswersFrom c "demo" (.published 6 "demo") publishedAnswer
        (.error (.metadataUnavailable [] (some cause))) := by
  obtain ⟨d⟩ := Demo.histories
  obtain ⟨c, h, hrest, hends⟩ := d.drift
  have hlatched : RejectionLatched Demo.service DottedView.source c "demo" :=
    rejection_latched h Demo.registered
  have hrejected : d.rejected.record (.published 5 "demo") ∈ c.shared.sections "demo" := by
    rw [hrest.sections]
    exact List.mem_append_right _
      (List.mem_cons_of_mem _ (List.mem_cons_of_mem _ List.mem_cons_self))
  have hlater : d.unavailable.record (.published 6 "demo") ∈ c.shared.sections "demo" := by
    rw [hrest.sections]
    exact List.mem_append_right _ (List.mem_of_mem_getLast? rfl)
  have hdecided : Demo.rejected.lastDecided = some .rejected :=
    @SourceState.lastDecided_attempt Demo.backedOff .rejected
  exact ⟨c, _, _, h, hrejected, rfl, hlater, hdecided, hlatched.unavailable _ hlater hdecided, _,
    hends, hlatched.published _ _ hends⟩

end QueryMan
