import QueryMan.GuardedQuery.Relations
import QueryMan.Metadata.SoloCalls
import QueryMan.Python.TableDigest

/-!
# Sequences of calls

Calls one after the other, and calls that wait meanwhile: whatever sequence of sections a source can
have, calls can make it (`reachable_of_sections`). A run with an admitted snapshot, a cancelled
refresh, a failed one, a stale response and a rejected catalog shows what the results about the
service are about.
-/

namespace QueryMan.ServiceTasks

open Coro MetadataService

section

variable {service : MetadataService} {parser : SqlParser} {source : SourceProfile} {i : TaskId}
  {lock : Nat} {record : SectionRecord TaskId} {records : List (SectionRecord TaskId)}
  {state : SourceState} {begun : List TaskId} {c : Calls}

/-! ## At rest -/

/-- No call has the turn, the source is at rest, and only these calls have begun. -/
structure Quiet (service : MetadataService) (parser : SqlParser) (sourceId : String)
    (records : List (SectionRecord TaskId)) (state : SourceState)
    (begun : List TaskId) (c : Calls) :
    Prop where
  reachable : Reachable service parser c
  turn : c.turn = none
  started : c.shared.begun = begun
  new : ∀ i, i ∉ begun → c.tasks i = none
  rest : c.shared.AtRest sourceId records state

theorem quiet_initial (sourceId : String) :
    Quiet service parser sourceId [] .initial [] ⟨.initial, fun _ => none, none⟩ :=
  ⟨.initial, rfl, rfl, fun _ _ => rfl, Shared.atRest_initial⟩

section
variable (h : Quiet service parser source.sourceId records state begun c)
  (hsource : service.registry.get i.sourceId = some source) (hnew : i ∉ begun)
include h hsource hnew

/-- A new call may run alone from its start on. -/
theorem Quiet.solo {s' : Shared} {p : Prog Ret ServiceExc (TaskResult i)}
    (hcall : (system service parser).Solo i (c.shared.entered i source.sourceId)
      (callFromLock service parser source (c.shared.lockOf source.sourceId) i) s' p) :
    (system service parser).Solo i c.shared (perform .begin >>= fun _ => program service parser i)
      s' p :=
  (solo_enter (h.started ▸ hnew) hsource).trans hcall

/-- A new call that runs alone and is at its end. -/
theorem Quiet.ends {s' : Shared} {r : Except ServiceExc (TaskResult i)}
    (hcall : (system service parser).Solo i (c.shared.entered i source.sourceId)
      (callFromLock service parser source (c.shared.lockOf source.sourceId) i) s' (.done r)) :
    Reachable service parser ((system service parser).put c i s' (.done r)) ∧
      Ends ((system service parser).put c i s' (.done r)) i r :=
  ⟨h.reachable.soloStart h.turn (h.new i hnew) rfl (h.solo hsource hnew hcall), rfl,
    System.put_self⟩

/-- A new call that has its section and has ended, with what it leaves of the shared state. -/
theorem Quiet.call {s' : Shared} {r : Except ServiceExc (TaskResult i)}
    (hcall : (system service parser).Solo i (c.shared.entered i source.sourceId)
      (callFromLock service parser source (c.shared.lockOf source.sourceId) i) s' (.done r))
    (hbegun : s'.begun = (c.shared.entered i source.sourceId).begun)
    (hrest : s'.AtRest source.sourceId (records ++ [record]) record.after) :
    Quiet service parser source.sourceId (records ++ [record]) record.after (begun ++ [i])
      { c with shared := s' } where
  reachable := h.reachable.alone h.turn (h.new i hnew) rfl (h.solo hsource hnew hcall)
  turn := h.turn
  started := by
    change s'.begun = _
    rw [hbegun, Shared.begun_entered, h.started]
  new := fun j hj => h.new j fun hmem => hj (List.mem_append_left _ hmem)
  rest := hrest

end

/-- A call of `get_published` after the others. -/
theorem Quiet.published (record : SectionRecord TaskId) {n : Nat} {sourceId : String}
    (h : Quiet service parser source.sourceId records record.before begun c)
    (hsource : service.registry.get sourceId = some source)
    (hnew : .published n sourceId ∉ begun) (hsound : record.Sound service source)
    (htask : record.task = .published n sourceId) :
    Quiet service parser source.sourceId (records ++ [record]) record.after
      (begun ++ [.published n sourceId])
      { c with
        shared := (c.shared.entered (.published n sourceId) source.sourceId).served source.sourceId
          record } :=
  h.call (i := .published n sourceId) hsource hnew
    (solo_published (h.rest.entered_free _) (h.rest.entered _).state.symm hsound htask) rfl
    (h.rest.entered _).served

/-- The same call, at its end. -/
theorem Quiet.published_ends (record : SectionRecord TaskId) {n : Nat} {sourceId : String}
    (h : Quiet service parser source.sourceId records record.before begun c)
    (hsource : service.registry.get sourceId = some source)
    (hnew : .published n sourceId ∉ begun) (hsound : record.Sound service source)
    (htask : record.task = .published n sourceId) :
    ∃ c', Reachable service parser c' ∧
      c'.shared.AtRest source.sourceId (records ++ [record]) record.after ∧
      Ends c' (.published n sourceId) (publishedAnswer record.result) := by
  have hends := h.ends (i := .published n sourceId) hsource hnew
    (solo_published (h.rest.entered_free _) (h.rest.entered _).state.symm hsound htask)
  exact ⟨_, hends.1, (h.rest.entered _).served, hends.2⟩

/-- A call of `get_context` after the others, whose section returns. -/
theorem Quiet.context (record : SectionRecord TaskId) {n : Nat} {sourceId : String}
    {prepared : PreparedMetadata × Bool}
    {response : ContextResponse}
    (h : Quiet service parser source.sourceId records record.before begun c)
    (hsource : service.registry.get sourceId = some source)
    (hnew : .context n sourceId ∉ begun) (hsound : record.Sound service source)
    (htask : record.task = .context n sourceId) (hresult : record.result = .ok prepared)
    (hresponse : contextResponse service.sha256 source prepared.1 prepared.2 = .ok response) :
    Quiet service parser source.sourceId (records ++ [record]) record.after
      (begun ++ [.context n sourceId])
      { c with
        shared := { (c.shared.entered (.context n sourceId) source.sourceId).served source.sourceId
            record with
          responses := (c.shared.entered (.context n sourceId) source.sourceId).responses ++
            [response] } } :=
  h.call (i := .context n sourceId) hsource hnew
    (solo_context (h.rest.entered_free _) (h.rest.entered _).state.symm hsound htask hresult
      hresponse) rfl ⟨(h.rest.entered _).served.free, (h.rest.entered _).served.sections,
        (h.rest.entered _).served.state⟩

/-- A call of `query` after the others, whose section returns and which is executed. -/
theorem Quiet.query (record : SectionRecord TaskId) {n : Nat} {request : QueryRequest}
    {published : PreparedMetadata} {stale : Bool} {validated : ValidatedSql}
    (h : Quiet service parser source.sourceId records record.before begun c)
    (hsource : service.registry.get request.sourceId = some source)
    (hnew : .query n request ∉ begun) (hsound : record.Sound service source)
    (htask : record.task = .query n request) (hresult : record.result = .ok (published, stale))
    (hrevision : request.metadataRevision = published.revision)
    (hpolicy : request.sqlPolicyRevision = sqlPolicyRevision service.sha256)
    (hvalidated : validateSql parser (sqlLimits source published) request.sql = .ok validated)
    (response : PostgresQueryExecutor.Response Python.Json) :
    Quiet service parser source.sourceId (records ++ [record]) record.after
      (begun ++ [.query n request])
      { c with
        shared := { (c.shared.entered (.query n request) source.sourceId).served source.sourceId
            record with
          executions := (c.shared.entered (.query n request) source.sourceId).executions ++
            [⟨.query n request,
              ⟨source, request.sql, published.revision, validated, request.queryId⟩⟩] } } :=
  h.call (i := .query n request) hsource hnew
    (solo_query (h.rest.entered_free _) (h.rest.entered _).state.symm hsound htask hresult hrevision
      hpolicy hvalidated response) rfl ⟨(h.rest.entered _).served.free,
        (h.rest.entered _).served.sections, (h.rest.entered _).served.state⟩

/-- A new call waits for the lock. -/
theorem Quiet.waits (h : Quiet service parser source.sourceId records state begun c)
    (hsource : service.registry.get i.sourceId = some source) (hnew : i ∉ begun) :
    Quiet service parser source.sourceId records state (begun ++ [i])
      ((system service parser).put c i (c.shared.entered i source.sourceId)
        (callFromLock service parser source (c.shared.lockOf source.sourceId) i)) where
  reachable := h.reachable.soloStart h.turn (h.new i hnew) rfl
    (solo_enter (h.started ▸ hnew) hsource)
  turn := by
    cases i <;> rfl
  started := by
    change (c.shared.entered i source.sourceId).begun = _
    rw [Shared.begun_entered, h.started]
  new := fun j hj => by
    have hne : j ≠ i := fun heq => hj (heq ▸ List.mem_append_right _ List.mem_cons_self)
    rw [System.put_of_ne hne]
    exact h.new j fun hmem => hj (List.mem_append_left _ hmem)
  rest := h.rest.entered i

/-- What a call does first when it is about to take its lock, and once it has it. -/
theorem callFromLock_eq (i : TaskId) : ∃ k k',
    callFromLock service parser source lock i = .call (.lock source.sourceId lock) k ∧
      k (.ok ()) = .call (.inSection source.sourceId lock .cacheGet) k' := by
  cases i <;> exact ⟨_, _, rfl, rfl⟩

/-- A new call takes the lock and is in its section, while the others stay where they are. -/
theorem Quiet.acquires (h : Quiet service parser source.sourceId records state begun c)
    (hsource : service.registry.get i.sourceId = some source) (hnew : i ∉ begun) :
    ∃ (c' : Calls) (k : _), Reachable service parser c' ∧
      c'.shared.sections source.sourceId = records ∧
      c'.tasks i = some (.call (.inSection source.sourceId (c.shared.lockOf source.sourceId)
        .cacheGet) k) ∧ ∀ j ≠ i, c'.tasks j = c.tasks j := by
  have hwaits := h.waits hsource hnew
  obtain ⟨k, k', hlock, hinside⟩ := @callFromLock_eq service parser source
    (c.shared.lockOf source.sourceId) i
  rw [hlock] at hwaits
  have htakes := hwaits.reachable.act System.put_self (.inl hwaits.turn) (.ok ()) _
    ⟨h.rest.entered_free i, rfl⟩
  rw [hinside, System.put_put] at htakes
  exact ⟨_, k', htakes, hwaits.rest.sections, System.put_self, fun j hj => System.put_of_ne hj⟩

/-- A call that waited goes on alone to its end. -/
theorem Quiet.resumes (h : Quiet service parser source.sourceId records state begun c)
    (htask : c.tasks i = some (callFromLock service parser source lock i)) {s' : Shared}
    {r : Except ServiceExc (TaskResult i)}
    (hcall : (system service parser).Solo i c.shared (callFromLock service parser source lock i) s'
      (.done r)) :
    Reachable service parser ((system service parser).put c i s' (.done r)) ∧
      Ends ((system service parser).put c i s' (.done r)) i r := by
  obtain ⟨k, -, hlock, -⟩ := @callFromLock_eq service parser source lock i
  rw [hlock] at htask hcall
  exact ⟨h.reachable.resume h.turn htask rfl hcall, rfl, System.put_self⟩

/-- **Every sequence of sections is one that calls can make.** -/
theorem reachable_of_sections {sourceId : String}
    (hsource : service.registry.get sourceId = some source)
    (h : Sections service source records state) (hnodup : (records.map (·.task)).Nodup)
    (hcalls : ∀ record ∈ records, ∃ n, record.task = .published n sourceId) :
    ∃ c, Quiet service parser source.sourceId records state (records.map (·.task)) c := by
  induction h with
  | nil => exact ⟨_, quiet_initial source.sourceId⟩
  | @concat records record _ hsound ih =>
    rw [List.map_append] at hnodup ⊢
    obtain ⟨c, hquiet⟩ := ih (List.nodup_append.1 hnodup).1 fun r hr =>
      hcalls r (List.mem_append_left _ hr)
    obtain ⟨n, htask⟩ := hcalls record (List.mem_append_right _ List.mem_cons_self)
    have hnew : .published n sourceId ∉ records.map (·.task) := by
      intro hmem
      refine (List.nodup_append.1 hnodup).2.2 _ hmem record.task ?_ htask.symm
      exact List.mem_singleton_self _
    rw [List.map_singleton, htask]
    exact ⟨_, hquiet.published record hsource hnew hsound htask⟩

end

/-! ## A run -/

namespace Demo

open Python PostgresCatalog

/-- The row of the view after its column has got another type. -/
def driftedRow : CatalogRow :=
  { DottedView.row with dataType := "integer" }

/-- The relation that it is read as. -/
def driftedRelation : CatalogRelation :=
  { DottedView.relation with columns := [⟨"id", "\"id\"", 1, "integer", "unknown", none⟩] }

/-- The snapshot that is admitted. -/
def snapshot : CatalogSnapshot :=
  ⟨[DottedView.relation]⟩

/-- The snapshot that is rejected. -/
def drifted : CatalogSnapshot :=
  ⟨[driftedRelation]⟩

/-- The texts that are hashed. -/
def texts : List String :=
  [structureText snapshot, revisionText DottedView.source snapshot, structureText drifted,
    sqlPolicyValue.dumps]

/-- A service with one source. -/
def service : MetadataService where
  registry := ⟨[DottedView.source], by decide⟩
  cacheTtlMs := 30000
  maxStaleMs := 300000
  refreshRetryMs := 5000
  sha256 := tableDigest texts

/-- The admitted snapshot with its revision. -/
def prepared : PreparedMetadata :=
  service.prepare DottedView.source snapshot

/-- The source is registered. -/
theorem registered : service.registry.get "demo" = some DottedView.source := rfl

theorem snapshot_ok : toSnapshot DottedView.source [DottedView.row] = .ok snapshot := by
  have hbuilt : rowsToRelations [DottedView.row] = .ok [DottedView.relation] :=
    DottedView.snapshot.built
  rw [toSnapshot, hbuilt]
  rfl

theorem drifted_ok : toSnapshot DottedView.source [driftedRow] = .ok drifted := by
  have hfold : [driftedRow].foldlM addRow [] = .ok [driftedRelation] := by decide
  have hbuilt : rowsToRelations [driftedRow] = .ok [driftedRelation] := by
    rw [rowsToRelations, hfold]
    exact congrArg Except.ok (List.mergeSort_singleton _)
  rw [toSnapshot, hbuilt]
  rfl

theorem issues : validateSnapshot DottedView.source snapshot = [] := by decide

/-- The structures of the two snapshots differ, and so do their signatures. -/
theorem signature_ne : service.signature snapshot ≠ service.signature drifted := by
  intro h
  have htext : structureText snapshot = structureText drifted :=
    tableDigest_inj (by decide) (List.mem_cons_of_mem _ (List.mem_cons_of_mem _ List.mem_cons_self))
      ((String.append_right_inj _).1 h)
  have hsame := sameStructure_of_text_eq htext
  rw [CatalogSnapshot.SameStructure] at hsame
  exact absurd hsame (by decide)

theorem canLoad_snapshot : CanLoad DottedView.source (.ok snapshot) := by
  rw [← snapshot_ok]
  exact canLoad_rows (by decide) (by decide)

theorem canLoad_drifted : CanLoad DottedView.source (.ok drifted) := by
  rw [← drifted_ok]
  exact canLoad_rows (by decide) (by decide)

theorem digest_length (text : String) : (digest service.sha256 text).length = 71 := by
  rw [digest, String.length_append]
  change 7 + (tableDigest texts text).length = 71
  rw [tableDigest_length]

theorem capabilities_size : (Json.object [("functions", sortedNames defaultAllowedFunctions),
    ("cast_types", sortedNames defaultAllowedTypes),
    ("unqualified_cast_types", sortedNames defaultAllowedUnqualifiedTypes)]).size ≤ 40000 := by
  have hnames : ∀ names ∈ [defaultAllowedFunctions, defaultAllowedTypes,
      defaultAllowedUnqualifiedTypes], (sortedNames names).size ≤ 11000 := by
    intro names hmem
    have hshort : ∀ names ∈ [defaultAllowedFunctions, defaultAllowedTypes,
        defaultAllowedUnqualifiedTypes],
        names.length ≤ 75 ∧ ∀ name ∈ names, name.length ≤ 23 := by decide +kernel
    obtain ⟨hcount, hlength⟩ := hshort names hmem
    have hsize := sortedNames_size_le hlength
    omega
  refine (Json.size_object_le (m := 22) (n := 11000) ?_).trans (by decide)
  simp only [List.forall_mem_cons]
  exact ⟨⟨by decide, hnames _ (by simp)⟩, ⟨by decide, hnames _ (by simp)⟩,
    ⟨by decide, hnames _ (by simp)⟩, List.forall_mem_nil _⟩

theorem relation_size : (toRelationResponse 50 DottedView.relation).value.size ≤ 2000 := by
  have hcolumns : orderedColumns DottedView.relation = DottedView.relation.columns :=
    List.mergeSort_singleton _
  rw [toRelationResponse, hcolumns]
  decide +kernel

/-- The response fits. -/
theorem response_fresh : contextResponse service.sha256 DottedView.source prepared false =
    .ok (projection service.sha256 DottedView.source prepared false) := by
  have hdigest : ∀ text, (Json.str (digest service.sha256 text)).size ≤ 428 := by
    intro text
    have hstr := Json.size_str_le (digest service.sha256 text)
    rwa [digest_length] at hstr
  have hrelations : (projection service.sha256 DottedView.source prepared false).relations =
      [toRelationResponse 50 DottedView.relation] :=
    congrArg (List.map (toRelationResponse 50)) (List.mergeSort_singleton DottedView.relation)
  have harray : (Json.array ([toRelationResponse 50 DottedView.relation].map
      RelationResponse.value)).size ≤ 2003 :=
    Json.size_array_le (n := 2000) (List.forall_mem_singleton.2 relation_size)
  refine contextResponse_of_size_le ?_
  rw [ContextResponse.value, hrelations]
  refine (Json.size_object_le (m := 22) (n := 40000) ?_).trans (by decide)
  simp only [List.forall_mem_cons]
  refine ⟨⟨by decide, by decide⟩, ⟨by decide, by decide⟩, ⟨by decide, by decide⟩, ⟨by decide, ?_⟩,
    ⟨by decide, ?_⟩, ⟨by decide, ?_⟩,
    ⟨by decide, capabilities_size⟩, ⟨by decide, harray.trans (by decide)⟩, ⟨by decide, ?_⟩,
    List.forall_mem_nil _⟩
  · exact (hdigest _).trans (by decide)
  · exact (hdigest _).trans (by decide)
  · rw [ContextResponse.snapshotStatus_size]
    decide
  · cases (projection service.sha256 DottedView.source prepared false).truncated <;> decide

/-! ### The sections -/

/-- The entry of the cache. -/
def entry : CacheEntry where
  value := prepared
  loadedAt := 0
  expiresAt := 0 + service.cacheTtlMs
  nextRefreshAt := 0 + service.cacheTtlMs

/-- The snapshot has been admitted. -/
def admitted : SourceState :=
  service.admitted DottedView.source .initial snapshot 0

/-- It has been served. -/
def served : SourceState :=
  admitted.report admitted.cache 1000 .healthy

/-- A refresh has been cancelled. -/
def cancelled : SourceState :=
  { served.attempt .cancelled with now := some 30000 }

/-- A refresh has failed. -/
def failed : SourceState :=
  (cancelled.attempt .transient).report
    (some (0, { entry with nextRefreshAt := 31000 + service.refreshRetryMs })) 31000 .stale

/-- The snapshot has been served while no refresh was due. -/
def backedOff : SourceState :=
  failed.report failed.cache 32000 .stale

/-- The drifted snapshot has been rejected. -/
def rejected : SourceState :=
  { backedOff.attempt .rejected with
    hashed := backedOff.hashed ++ [structureText drifted] }.report none 40000 .unavailable

/-- A further refresh has failed. -/
def unavailable : SourceState :=
  (rejected.attempt .transient).report none 41000 .unavailable

/-- What is wrong with the drifted snapshot. -/
def driftIssues : List String :=
  validateSnapshot DottedView.source drifted ++
    structureIssues (some (service.signature snapshot)) (service.signature drifted)

theorem pinned : backedOff.signatures DottedView.source.viewContractVersion =
    some (service.signature snapshot) := by
  have hsignatures : backedOff.signatures =
      Function.update (fun _ => none) 1 (some (service.signature snapshot)) := rfl
  rw [hsignatures]
  exact Function.update_self ..

/-- What has been hashed is in the table. -/
theorem hashed_subset : {text | text ∈ unavailable.hashed} ⊆ {text | text ∈ texts} := by
  intro text hmem
  have hhashed : unavailable.hashed = [structureText snapshot,
      revisionText DottedView.source snapshot, structureText drifted] := rfl
  rw [Set.mem_ofPred_eq, hhashed] at hmem
  exact List.mem_append_left [sqlPolicyValue.dumps] hmem

theorem cancelled_hashed_subset : {text | text ∈ cancelled.hashed} ⊆ {text | text ∈ texts} :=
  fun _ hmem => hashed_subset (List.mem_append_left [structureText drifted] hmem)

theorem isTransient : IsTransient (.exc .interfaceError) :=
  ⟨rfl, rfl⟩

/-- The refresh of an entry that has expired is due. -/
theorem due_of_expired {n : Nat} {entry : CacheEntry} {now : Int} (hexpired : entry.expiresAt ≤ now)
    (hnext : entry.nextRefreshAt ≤ now) : Due (some (n, entry)) now := by
  intro cached hcached
  cases hcached
  exact ⟨hexpired, hnext⟩

theorem run_admitted : Run service.sectionWorld .initial (service.lockedSection DottedView.source)
    admitted (.ok (prepared, false)) :=
  lockedSection_admits (nofun : SourceState.initial.Ticks 0) nofun le_rfl canLoad_snapshot
    ⟨issues, nofun, _, response_fresh⟩

theorem run_served : Run service.sectionWorld admitted (service.lockedSection DottedView.source)
    served (.ok (prepared, false)) := by
  have hnow : admitted.Ticks 1000 := ticks_of_now rfl (by decide)
  have hcache : admitted.cache = some (0, entry) := rfl
  exact lockedSection_fresh hcache hnow (by decide)

theorem run_cancelled : Run service.sectionWorld served (service.lockedSection DottedView.source)
    cancelled (.error (.ofExc (.cancelled .caller))) := by
  have hnow : served.Ticks 30000 := ticks_of_now rfl (by decide)
  have hdue : Due (some (0, entry)) 30000 := due_of_expired (by decide) (by decide)
  exact lockedSection_cancelled hnow hdue (canLoad_raises _ _) rfl

theorem run_failed : Run service.sectionWorld cancelled (service.lockedSection DottedView.source)
    failed (.ok (prepared, true)) := by
  have hnow : cancelled.Ticks 31000 := ticks_of_now rfl (by decide)
  have hcache : cancelled.cache = some (0, entry) := rfl
  have hdue : Due (some (0, entry)) 31000 := due_of_expired (by decide) (by decide)
  exact lockedSection_stale hcache hnow hdue (canLoad_raises _ _) isTransient le_rfl (by decide)

theorem run_backedOff : Run service.sectionWorld failed (service.lockedSection DottedView.source)
    backedOff (.ok (prepared, true)) := by
  have hnow : failed.Ticks 32000 := ticks_of_now rfl (by decide)
  have hcache : failed.cache =
      some (0, { entry with nextRefreshAt := 31000 + service.refreshRetryMs }) := rfl
  exact lockedSection_backOff hcache hnow (by decide) (by decide) (by decide)

theorem run_rejected : Run service.sectionWorld backedOff (service.lockedSection DottedView.source)
    rejected (.error (.metadataUnavailable driftIssues none)) := by
  have hnow : backedOff.Ticks 40000 := ticks_of_now rfl (by decide)
  have hdue : Due backedOff.cache 40000 := due_of_expired (by decide) (by decide)
  have hissues : validateSnapshot DottedView.source drifted ++
      structureIssues (backedOff.signatures DottedView.source.viewContractVersion)
        (digest service.sha256 (structureText drifted)) = driftIssues := by
    rw [pinned]
    rfl
  refine lockedSection_rejects hnow hdue canLoad_drifted hissues fun hnone => ?_
  exact signature_ne (structureIssues_eq_nil.1 (List.append_eq_nil_iff.1 hnone).2 _ rfl)

theorem run_unavailable : Run service.sectionWorld rejected
    (service.lockedSection DottedView.source) unavailable
    (.error (.metadataUnavailable [] (some (.exc .interfaceError)))) := by
  have hnow : rejected.Ticks 41000 := ticks_of_now rfl (by decide)
  exact lockedSection_unavailable rfl hnow (canLoad_raises _ _) isTransient le_rfl

/-! ### The calls -/

/-- Histories of these sections. -/
structure Histories where
  admitted : SectionHistory service DottedView.source .initial admitted (.ok (prepared, false))
  served : SectionHistory service DottedView.source Demo.admitted served (.ok (prepared, false))
  cancelled : SectionHistory service DottedView.source Demo.served cancelled
    (.error (.ofExc (.cancelled .caller)))
  failed : SectionHistory service DottedView.source Demo.cancelled failed (.ok (prepared, true))
  backedOff : SectionHistory service DottedView.source Demo.failed backedOff (.ok (prepared, true))
  rejected : SectionHistory service DottedView.source Demo.backedOff rejected
    (.error (.metadataUnavailable driftIssues none))
  unavailable : SectionHistory service DottedView.source Demo.rejected unavailable
    (.error (.metadataUnavailable [] (some (.exc .interfaceError))))

theorem histories : Nonempty Histories := by
  obtain ⟨admitted⟩ := sectionHistory_of_run run_admitted
  obtain ⟨served⟩ := sectionHistory_of_run run_served
  obtain ⟨cancelled⟩ := sectionHistory_of_run run_cancelled
  obtain ⟨failed⟩ := sectionHistory_of_run run_failed
  obtain ⟨backedOff⟩ := sectionHistory_of_run run_backedOff
  obtain ⟨rejected⟩ := sectionHistory_of_run run_rejected
  obtain ⟨unavailable⟩ := sectionHistory_of_run run_unavailable
  exact ⟨⟨admitted, served, cancelled, failed, backedOff, rejected, unavailable⟩⟩

/-- The parser that reads `SELECT FROM public."x.y"`. -/
def parser : SqlParser :=
  fixedParser (selectFrom "public" "x.y")

/-- A request with the revisions of the response. -/
def request : QueryRequest where
  sourceId := "demo"
  sql := "SELECT FROM public.\"x.y\""
  metadataRevision := prepared.revision
  sqlPolicyRevision := sqlPolicyRevision service.sha256
  queryId := none

/-- The answer of the executor. -/
def answer : PostgresQueryExecutor.Response Json where
  queryId := "q"
  metadataRevision := prepared.revision
  fingerprint := "5a0f"
  columns := []
  rows := []
  rowCount := 0
  resultBytes := 2
  truncated := false
  queueMs := 0
  elapsedMs := 1
  planSummary := ⟨1, 1, 1⟩

/-- The calls before the first stale response: a request of the context, a query with its revision,
and a request that is cancelled in its load. -/
def begun : List TaskId :=
  [.context 0 "demo", .query 1 request, .published 2 "demo"]

/-- The sections of these calls. -/
def Histories.records (d : Histories) : List (SectionRecord TaskId) :=
  [d.admitted.record (.context 0 "demo"), d.served.record (.query 1 request),
    d.cancelled.record (.published 2 "demo")]

theorem validated : ∃ validated,
    validateSql parser (sqlLimits DottedView.source prepared) request.sql = .ok validated :=
  validateSql_selectFrom (by decide) (by decide) (by decide) (by decide)

theorem Histories.run (d : Histories) : ∃ c validated,
    Quiet service parser "demo" d.records Demo.cancelled begun c ∧
      c.shared.responses = [projection service.sha256 DottedView.source prepared false] ∧
      validateSql parser (sqlLimits DottedView.source prepared) request.sql = .ok validated ∧
      c.shared.executions = [⟨.query 1 request,
        ⟨DottedView.source, request.sql, prepared.revision, validated, none⟩⟩] := by
  obtain ⟨validated, hvalidated⟩ := validated
  have h₀ := @quiet_initial service parser "demo"
  have h₁ := Quiet.context (d.admitted.record (.context 0 "demo")) h₀ registered (by decide)
    (d.admitted.sound _) rfl rfl response_fresh
  have h₂ := Quiet.query (d.served.record (.query 1 request)) h₁ registered (by decide)
    (d.served.sound _) rfl rfl rfl rfl hvalidated answer
  have h₃ := Quiet.published (d.cancelled.record (.published 2 "demo")) h₂ registered (by decide)
    (d.cancelled.sound _) rfl
  exact ⟨_, validated, h₃, rfl, hvalidated, rfl⟩

/-- A call is in its section, and another one waits for the lock. -/
theorem Histories.loading (d : Histories) : ∃ (c : Calls) (lock : Nat) (k : _),
    Reachable service parser c ∧ c.shared.sections "demo" = d.records ∧
      c.tasks (.published 4 "demo") = some (.call (.inSection "demo" lock .cacheGet) k) ∧
      c.tasks (.context 3 "demo") =
        some (callFromLock service parser DottedView.source lock (.context 3 "demo")) := by
  obtain ⟨c, -, h, -⟩ := d.run
  have hwaits := h.waits (i := .context 3 "demo") registered (by decide)
  obtain ⟨c', k, hreach, hsections, hloads, hothers⟩ :=
    hwaits.acquires (i := .published 4 "demo") registered (by decide)
  have hwaiting := (hothers (.context 3 "demo") (by decide)).trans System.put_self
  rw [← Shared.lockOf_entered c.shared (.context 3 "demo")] at hwaiting
  exact ⟨c', _, k, hreach, hsections, hloads, hwaiting⟩

/-- A call that waits for the lock is cancelled. -/
theorem Histories.waiting (d : Histories) : ∃ c, Reachable service parser c ∧
    c.shared.sections "demo" = d.records ∧
    Ends c (.published 4 "demo") (.error (.ofExc (.cancelled .caller))) := by
  obtain ⟨c, -, h, -⟩ := d.run
  have hwaits := h.waits (i := .context 3 "demo") registered (by decide)
  have hcancelled := hwaits.ends (i := .published 4 "demo") registered (by decide)
    (solo_cancelled (.cancelled .caller) rfl 4 "demo")
  exact ⟨_, hcancelled.1, (hwaits.rest.entered _).sections, hcancelled.2⟩

/-- The call that waited answers with the stale snapshot, after the refresh of another has failed.
-/
theorem Histories.stale (d : Histories) : ∃ c, Reachable service parser c ∧
    c.shared.AtRest "demo" (d.records ++ [d.failed.record (.published 4 "demo"),
      d.backedOff.record (.context 3 "demo")]) Demo.backedOff ∧
    Ends c (.context 3 "demo")
      (.ok (projection service.sha256 DottedView.source prepared true)) := by
  obtain ⟨c, -, h, -⟩ := d.run
  have hwaits := h.waits (i := .context 3 "demo") registered (by decide)
  have hfailed := hwaits.published (d.failed.record (.published 4 "demo")) registered (by decide)
    (d.failed.sound _) rfl
  have hlock : (((c.shared.entered (.context 3 "demo") "demo").entered (.published 4 "demo")
      "demo").served "demo" (d.failed.record (.published 4 "demo"))).lockOf "demo" =
      c.shared.lockOf "demo" :=
    (Shared.lockOf_entered ..).trans (Shared.lockOf_entered ..)
  have hfree := (congrArg _ hlock.symm).trans hfailed.rest.free
  have hends :=
    hfailed.resumes (Function.update_self ..) (solo_context hfree hfailed.rest.state.symm
    (d.backedOff.sound (.context 3 "demo")) rfl rfl (contextResponse_stale response_fresh true))
  obtain ⟨hlockFree, hsections, hstate⟩ :=
    @Shared.AtRest.served _ (d.backedOff.record (.context 3 "demo")) _ _ hfailed.rest
  exact ⟨_, hends.1, ⟨hlockFree, hsections, hstate⟩, hends.2⟩

/-- A call of `get_published` has the section of that call. -/
theorem Histories.stalePublished (d : Histories) : ∃ c, Reachable service parser c ∧
    c.shared.sections "demo" = d.records ++ [d.failed.record (.published 4 "demo"),
      d.backedOff.record (.published 3 "demo")] ∧
    Ends c (.published 3 "demo") (.ok prepared) := by
  obtain ⟨c, -, h, -⟩ := d.run
  have hfailed := h.published (d.failed.record (.published 4 "demo")) registered (by decide)
    (d.failed.sound _) rfl
  obtain ⟨c', hreach, hrest, hends⟩ := hfailed.published_ends
    (d.backedOff.record (.published 3 "demo")) registered (by decide) (d.backedOff.sound _) rfl
  exact ⟨c', hreach, hrest.sections, hends⟩

/-- The drifted snapshot is rejected, and the next call finds nothing to serve. -/
theorem Histories.drift (d : Histories) : ∃ c, Reachable service parser c ∧
    c.shared.AtRest "demo" (d.records ++ [d.failed.record (.published 4 "demo"),
      d.backedOff.record (.context 3 "demo"), d.rejected.record (.published 5 "demo"),
      d.unavailable.record (.published 6 "demo")]) Demo.unavailable ∧
    Ends c (.published 6 "demo")
      (.error (.metadataUnavailable [] (some (.exc .interfaceError)))) := by
  obtain ⟨c, -, h, -⟩ := d.run
  have h₄ := h.published (d.failed.record (.published 4 "demo")) registered (by decide)
    (d.failed.sound _) rfl
  have h₃ := h₄.context (d.backedOff.record (.context 3 "demo")) registered (by decide)
    (d.backedOff.sound _) rfl rfl (contextResponse_stale response_fresh true)
  have h₅ := h₃.published (d.rejected.record (.published 5 "demo")) registered (by decide)
    (d.rejected.sound _) rfl
  obtain ⟨c', hreach, hrest, hends⟩ := h₅.published_ends
    (d.unavailable.record (.published 6 "demo")) registered (by decide) (d.unavailable.sound _) rfl
  exact ⟨c', hreach, hrest, hends⟩

end Demo

end QueryMan.ServiceTasks
