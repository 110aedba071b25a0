import QueryMan.Metadata.CallSequences

/-!
# Bounded staleness

How old a snapshot is that the service returns. The age is counted from the load of the snapshot to
the reading of the clock by which the section decided to return it.
-/

namespace QueryMan

open Coro MetadataService ServiceTasks

variable {ι : Type} {service : MetadataService} {parser : SqlParser} {source : SourceProfile}
  {record : SectionRecord ι} {value : PreparedMetadata} {stale : Bool}

/-- A section returns a snapshot that was loaded at one time and decided on at another. -/
structure BoundedAge (service : MetadataService) (record : SectionRecord ι)
    (value : PreparedMetadata)
    (stale : Bool) (loadedAt decidedAt : Int) : Prop where
  /-- the section has read the clock last when it decided -/
  decided : record.after.now = some decidedAt
  /-- the snapshot is that of the latest load, which was the most recent successful refresh -/
  latest : record.after.loads.getLast? = some (value, loadedAt)
  successful : (record.after.attempts.filter (·.isAdmitted)).getLast? = some (.admitted value)
  /-- a fresh snapshot was loaded by this section, or has not expired -/
  fresh : stale = false → record.after.loads = record.before.loads ++ [(value, loadedAt)] ∨
    decidedAt < loadedAt + service.cacheTtlMs
  /-- a stale snapshot is not too old, and the last refresh that was not cancelled has failed -/
  stale : stale = true → decidedAt - loadedAt ≤ service.maxStaleMs ∧
    record.after.lastCompleted = some .transient
  age : decidedAt - loadedAt ≤ max service.cacheTtlMs service.maxStaleMs

/-- One section: what it returns is bounded by the clock. -/
theorem boundedAge_of_step (hbefore : record.before.Inv service source)
    (hstep : service.SectionStep source record.before record.after (.ok (value, stale))) :
    ∃ loadedAt decidedAt, BoundedAge service record value stale loadedAt decidedAt := by
  obtain ⟨task, before, history, result, after⟩ := record
  change before.Inv service source at hbefore
  change service.SectionStep source before after _ at hstep
  have hafter : after.Inv service source := hbefore.step hstep
  have hsuccessful : ∀ loadedAt, after.loads.getLast? = some (value, loadedAt) →
      (after.attempts.filter (·.isAdmitted)).getLast? = some (.admitted value) := by
    intro loadedAt hlatest
    rw [hafter.recorded, List.getLast?_map, hlatest]
    rfl
  cases hstep with
  | @fresh n entry now hcache hnow hfresh =>
    obtain ⟨hlatest, hexpires⟩ := hbefore.cached n entry hcache
    have hage : now < entry.loadedAt + service.cacheTtlMs := hexpires ▸ hfresh
    exact ⟨entry.loadedAt, now, rfl, hlatest, hsuccessful _ hlatest, fun _ => .inr hage, nofun,
      by omega⟩
  | @backOff n entry now hcache hnow hexpired hwait hage =>
    obtain ⟨hlatest, -⟩ := hbefore.cached n entry hcache
    -- the entry has expired and is not due: only a failure sets these two apart
    have hfailed : before.lastCompleted = some .transient :=
      (hbefore.backedOff n entry hcache).resolve_left fun heq => by omega
    exact ⟨entry.loadedAt, now, rfl, hlatest, hsuccessful _ hlatest, nofun, fun _ =>
      ⟨hage, hfailed⟩,
      by omega⟩
  | @admitted snapshot now loadedAt =>
    have hlatest : (before.loads ++ [(service.prepare source snapshot, loadedAt)]).getLast? =
        some (service.prepare source snapshot, loadedAt) := List.getLast?_concat ..
    exact ⟨loadedAt, loadedAt, rfl, hlatest, hsuccessful _ hlatest, fun _ => .inl rfl, nofun,
      by omega⟩
  | @transient n entry now failedAt hnow hdue hcache hfailed hage =>
    obtain ⟨hlatest, -⟩ := hbefore.cached n entry hcache
    have hlast : (before.attempt .transient).lastCompleted = some .transient :=
      SourceState.lastCompleted_attempt
    exact ⟨entry.loadedAt, failedAt, rfl, hlatest, hsuccessful _ hlatest, nofun,
      fun _ => ⟨hage, hlast⟩, by omega⟩

/-- **Every snapshot that is returned has a bounded age**, in every configuration that the calls of
a service can reach: a section returns the snapshot of the most recent successful refresh; as fresh
only if it has just loaded it or the snapshot has not expired; as stale only if it is not too old
and the last refresh that was not cancelled failed transiently. The calls of `get_context` and
`get_published` return what their section did. -/
theorem staleness_bounded {c : Calls} {sourceId : String} (h : Reachable service parser c)
    (hsource : service.registry.get sourceId = some source) :
    (∀ record ∈ c.shared.sections sourceId, ∀ value stale, record.result = .ok (value, stale) →
      ∃ loadedAt decidedAt, BoundedAge service record value stale loadedAt decidedAt) ∧
    (∀ n value, Ends c (.published n sourceId) (.ok value) →
      ∃ record ∈ c.shared.sections sourceId, record.task = .published n sourceId ∧
        ∃ stale, record.result = .ok (value, stale)) ∧
    ∀ n response, Ends c (.context n sourceId) (.ok response) →
      ∃ record ∈ c.shared.sections sourceId, record.task = .context n sourceId ∧
        ∃ value, record.result = .ok (value, response.stale) ∧
          response = projection service.sha256 source value response.stale := by
  refine ⟨fun record hmem value stale hresult => ?_, fun n value hends => ?_,
    fun n response hends => ?_⟩
  · obtain ⟨earlier, -, hearlier, hsound, -⟩ := (sections_of_reachable h hsource).of_mem hmem
    exact boundedAge_of_step hearlier.inv (hresult ▸ hsound.step)
  · obtain ⟨_, heq, -⟩ | ⟨record, hmem, htask, heq⟩ := published_answers h hsource hends
    · cases heq
    · obtain ⟨prepared, hresult, hvalue⟩ := Python.bind_eq_ok.1 heq.symm
      cases hvalue
      exact ⟨record, hmem, htask, prepared.2, hresult⟩
  · obtain ⟨_, heq, -⟩ | ⟨record, hmem, htask, heq⟩ := context_answers h hsource hends
    · cases heq
    · obtain ⟨prepared, hresult, hresponse⟩ := Python.bind_eq_ok.1 heq.symm
      have hprojection := contextResponse_eq_ok hresponse
      have hstale : response.stale = prepared.2 := by rw [hprojection]; rfl
      rw [hstale]
      exact ⟨record, hmem, htask, prepared.1, hresult, hprojection⟩

/-- A snapshot is returned fresh, and after its refresh has failed it is returned stale. -/
theorem staleness_bounded_stale : ∃ (c : Calls) (fresh stale : SectionRecord TaskId),
    Reachable Demo.service Demo.parser c ∧ fresh ∈ c.shared.sections "demo" ∧
    stale ∈ c.shared.sections "demo" ∧
    (∃ loadedAt decidedAt,
      BoundedAge Demo.service fresh Demo.prepared false loadedAt decidedAt) ∧
    (∃ loadedAt decidedAt,
      BoundedAge Demo.service stale Demo.prepared true loadedAt decidedAt) ∧
    ∃ response : ContextResponse, response.stale = true ∧
      Ends c (.context 3 "demo") (.ok response) ∧
      ∃ record ∈ c.shared.sections "demo", record.task = .context 3 "demo" ∧
        ∃ value, record.result = .ok (value, true) ∧
          response = projection Demo.service.sha256 DottedView.source value true := by
  obtain ⟨d⟩ := Demo.histories
  obtain ⟨c, h, hrest, hends⟩ := d.stale
  obtain ⟨hbounded, -, hcontext⟩ := staleness_bounded h Demo.registered
  have hfresh : d.admitted.record (.context 0 "demo") ∈ c.shared.sections "demo" := by
    rw [hrest.sections]
    exact List.mem_cons_self
  have hstale : d.failed.record (.published 4 "demo") ∈ c.shared.sections "demo" := by
    rw [hrest.sections]
    exact List.mem_append_right _ List.mem_cons_self
  exact ⟨c, _, _, h, hfresh, hstale, hbounded _ hfresh _ _ rfl, hbounded _ hstale _ _ rfl, _, rfl,
    hends, hcontext _ _ hends⟩

end QueryMan
