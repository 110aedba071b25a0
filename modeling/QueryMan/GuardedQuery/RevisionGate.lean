import QueryMan.GuardedQuery.NodeGate
import QueryMan.Metadata.RevisionIdentity
import QueryMan.Metadata.CallSequences

/-!
# The revision gate

A query runs only against the catalog that its author saw. `/meta` projects one snapshot and `query`
validates against another, possibly loaded at another time; the revision that both carry is the
digest of a text that identifies the published contract (`revisionText_eq_iff`), and with it the
names of the relations, from which the projection and the allowlist take theirs.
-/

namespace QueryMan

open Coro PostgresCatalog MetadataService ServiceTasks

variable {service : MetadataService} {parser : SqlParser} {source : SourceProfile}

/-- The qualified names of a snapshot are made of its schemas and names. -/
theorem PostgresCatalog.Built.qualifiedNames {snapshot : CatalogSnapshot} (h : Built snapshot) :
    snapshot.relations.map (·.qualifiedName) =
      (snapshot.relations.map fun relation => (relation.schema, relation.name)).map
        fun name => name.1 ++ "." ++ name.2 := by
  rw [List.map_map]
  exact List.map_congr_left fun relation hmem => h.qualifiedName relation hmem

/-- Admitted snapshots of one revision have the same qualified names, as far as the hash is
injective on the texts that it was applied to. -/
theorem qualifiedNames_of_revision {s : SourceState} {value value' : PreparedMetadata}
    (hsha : Set.InjOn service.sha256 {text | text ∈ s.hashed}) (h : s.Loaded service source value)
    (h' : s.Loaded service source value') (hrevision : value.revision = value'.revision) :
    (value.snapshot.relations.map (·.qualifiedName)).Perm
      (value'.snapshot.relations.map (·.qualifiedName)) := by
  rw [h.revision, h'.revision] at hrevision
  have htext : revisionText source value.snapshot = revisionText source value'.snapshot :=
    digest_inj hsha h.revisionHashed h'.revisionHashed hrevision
  rw [h.built.qualifiedNames, h'.built.qualifiedNames]
  exact (names_perm (revisionText_eq_iff.1 htext).2).map _

/-- What a call of the executor by `query` runs against: the snapshot that its own `get_published`
gave, which is admitted and of the revision of the request. -/
structure RunsAgainst (service : MetadataService) (parser : SqlParser) (c : Calls) (i : TaskId)
    (call : ExecuteCall) (request : QueryRequest) (published : PreparedMetadata) : Prop where
  /-- both revisions of the request are current, and the SQL is validated against the relations of
  the snapshot -/
  authorised : Authorised service parser c.shared i call request published
  admitted : (c.shared.settled request.sourceId).Loaded service call.source published
  /-- every response of the source with that revision lists every relation of the SQL -/
  listed : Set.InjOn service.sha256 {text | text ∈ (c.shared.settled request.sourceId).hashed} →
    ∀ response ∈ c.shared.responses, response.sourceId = request.sourceId →
      response.metadataRevision = request.metadataRevision →
        call.validated.relations ⊆ response.relations.map (·.name)

/-- What may be executed, in a configuration that the calls can reach, runs against an admitted
snapshot. -/
theorem runsAgainst_of_mayExecute {c : Calls} {i : TaskId} {call : ExecuteCall}
    (h : Reachable service parser c) (hexecute : MayExecute service parser c.shared i call) :
    ∃ n request published, i = .query n request ∧
      RunsAgainst service parser c i call request published := by
  obtain ⟨n, request, published, hi, hauthorised⟩ := hexecute
  have hsections := sections_of_reachable h hauthorised.source
  obtain ⟨stale, record, hmem, -, hresult⟩ := hauthorised.served
  have hpublished := hsections.loaded hmem hresult
  refine ⟨n, request, published, hi, hauthorised, hpublished, ?_⟩
  intro hsha response hresponse hsourceId hrevision name hname
  obtain ⟨source, hsource, _, value, _, ⟨record', hmem', -, hresult'⟩, hcontext⟩ :=
    (inv_of_reachable h).responses response hresponse
  rw [hsourceId] at hsource hmem'
  obtain rfl := Option.some.inj (hauthorised.source.symm.trans hsource)
  have hseen := hsections.loaded hmem' hresult'
  have hprojection := contextResponse_eq_ok hcontext
  have hvalue : value.revision = published.revision := by
    rw [← hauthorised.revision, ← hrevision, hprojection]
    rfl
  have hnames := qualifiedNames_of_revision hsha hpublished hseen hvalue.symm
  have hallowed : name ∈ published.snapshot.relations.map (·.qualifiedName) :=
    validateSql_relations hauthorised.validated hname
  rw [hprojection]
  exact mem_projection_relations.2 (hnames.subset hallowed)

/-- **A query runs only against the catalog that its author saw**, in every configuration that the
calls of a service can reach. The executor has been called, and is about to be called, by calls of
`query` alone whose own `get_published` gave an admitted snapshot of both revisions of the request,
and with SQL that was validated against the relations of this snapshot; each of them is listed in
every response of the source with the same revision. -/
theorem query_runs_against_seen {c : Calls} (h : Reachable service parser c) :
    (∀ execution ∈ c.shared.executions, ∃ n request published, execution.task = .query n request ∧
      RunsAgainst service parser c execution.task execution.call request published) ∧
    ∀ i call k, c.tasks i = some (.call (.execute call) k) →
      ∃ n request published, i = .query n request ∧
        RunsAgainst service parser c i call request published :=
  ⟨fun execution hmem =>
    runsAgainst_of_mayExecute h ((inv_of_reachable h).executions execution hmem),
    fun _ _ _ htask => runsAgainst_of_mayExecute h (gate_of_reachable h htask)⟩

/-- A response is sent, and a query with its revision is executed. -/
theorem query_runs_against_seen_executed : ∃ (c : Calls) (response : ContextResponse)
    (execution : Execution) (request : QueryRequest) (published : PreparedMetadata),
    Reachable Demo.service Demo.parser c ∧ response ∈ c.shared.responses ∧
    execution ∈ c.shared.executions ∧ response.metadataRevision = request.metadataRevision ∧
    RunsAgainst Demo.service Demo.parser c execution.task execution.call request published ∧
    execution.call.validated.relations ⊆ response.relations.map (·.name) := by
  obtain ⟨d⟩ := Demo.histories
  obtain ⟨c, validated, h, hresponses, -, hexecutions⟩ := d.run
  have hresponse : projection Demo.service.sha256 DottedView.source Demo.prepared false ∈
      c.shared.responses := by
    rw [hresponses]
    exact List.mem_cons_self
  have hexecution : ⟨.query 1 Demo.request, ⟨DottedView.source, Demo.request.sql,
      Demo.prepared.revision, validated, none⟩⟩ ∈ c.shared.executions := by
    rw [hexecutions]
    exact List.mem_cons_self
  obtain ⟨n, request, published, htask, hruns⟩ :=
    (query_runs_against_seen h.reachable).1 _ hexecution
  cases htask
  have hsha : Set.InjOn Demo.service.sha256 {text | text ∈ (c.shared.settled "demo").hashed} := by
    rw [h.rest.settled]
    exact (Python.tableDigest_injOn (by decide)).mono Demo.cancelled_hashed_subset
  exact ⟨c, _, _, _, published, h.reachable, hresponse, hexecution, rfl, hruns,
    hruns.listed hsha _ hresponse rfl rfl⟩

end QueryMan
