import QueryMan.Metadata.CallSequences

/-!
# Pinned structure

The structure of the views of a source is fixed by the first snapshot that is admitted: its
signature is pinned, a snapshot with another signature is not admissible, and a signature determines
the structure as far as the hash is injective on the texts that it was applied to.
-/

namespace QueryMan

open Coro MetadataService ServiceTasks

variable {service : MetadataService} {parser : SqlParser} {source : SourceProfile}
  {s s' : SourceState} {result : Except ServiceExc (PreparedMetadata × Bool)}

/-- One section: if it admits nothing, it pins nothing. -/
theorem signatures_of_step (h : service.SectionStep source s s' result)
    (hloads : s'.loads = s.loads) :
    s'.signatures = s.signatures := by
  cases h with
  | admitted =>
    have hlength := congrArg List.length hloads
    rw [MetadataService.admitted, List.length_append] at hlength
    exact absurd hlength (Nat.succ_ne_self _)
  | _ => rfl

/-- Snapshots with the same signature have the same structure. -/
theorem sameStructure_of_signature {texts : List String} {catalog catalog' : CatalogSnapshot}
    (hsha : Set.InjOn service.sha256 {text | text ∈ texts}) (hmem : structureText catalog ∈ texts)
    (hmem' : structureText catalog' ∈ texts)
    (h : service.signature catalog = service.signature catalog') : catalog.SameStructure catalog' :=
  sameStructure_of_text_eq (digest_inj hsha hmem hmem' h)

/-- What is fixed of the structure of a source. -/
structure StructurePinned (service : MetadataService) (source : SourceProfile) (c : Calls)
    (sourceId : String) : Prop where
  /-- all snapshots that were returned have the same structure -/
  sameStructure : Set.InjOn service.sha256 {text | text ∈ (c.shared.settled sourceId).hashed} →
    ∀ record ∈ c.shared.sections sourceId, ∀ record' ∈ c.shared.sections sourceId,
      ∀ value stale value' stale', record.result = .ok (value, stale) →
        record'.result = .ok (value', stale') → value.snapshot.SameStructure value'.snapshot
  /-- a snapshot that was returned passes all rules and the byte limit, and its signature is pinned
  -/
  returned : ∀ record ∈ c.shared.sections sourceId, ∀ value stale,
    record.result = .ok (value, stale) → validateSnapshot source value.snapshot = [] ∧
      (∃ response, contextResponse service.sha256 source value false = .ok response) ∧
      (c.shared.settled sourceId).signatures source.viewContractVersion =
        some (service.signature value.snapshot)
  /-- a candidate is admitted or rejected by the rules, the pinned signature and the byte limit
  alone, and if it is rejected nothing is pinned or cached -/
  verdict :
    ∀ s s' snapshot r, Run service.sectionWorld s (service.admitSnapshot source snapshot) s' r →
    (service.Admissible source s.signatures snapshot ∧ r = .ok (service.prepare source snapshot)) ∨
      (¬ service.Admissible source s.signatures snapshot ∧ s'.signatures = s.signatures ∧
        s'.cache = s.cache ∧ ∃ violations, r = .error (.metadataUnavailable violations none))
  /-- a request that admits nothing leaves what is pinned, and with it the verdict on every
  candidate -/
  unaffected : ∀ record ∈ c.shared.sections sourceId, record.after.loads = record.before.loads →
    record.after.signatures = record.before.signatures ∧ ∀ snapshot,
      service.Admissible source record.after.signatures snapshot ↔
        service.Admissible source record.before.signatures snapshot
  /-- a signature that is pinned stays -/
  stays : ∀ record ∈ c.shared.sections sourceId, ∀ version signature,
    record.before.signatures version = some signature →
      record.after.signatures version = some signature ∧
        (c.shared.settled sourceId).signatures version = some signature

/-- **The structure of the views is pinned**, in every configuration that the calls of a service can
reach: whatever is returned for a source has one structure, and no candidate that is rejected, no
failure and no cancellation changes what is pinned. -/
theorem structure_pinned {c : Calls} {sourceId : String} (h : Reachable service parser c)
    (hsource : service.registry.get sourceId = some source) :
    StructurePinned service source c sourceId := by
  have hsections := sections_of_reachable h hsource
  refine ⟨fun hsha record hmem record' hmem' value stale value' stale' hresult hresult' => ?_,
    fun record hmem value stale hresult => ?_, fun s s' snapshot r hrun => ?_,
    fun record hmem hloads => ?_, fun record hmem version signature hpinned => ?_⟩
  · have hloaded := hsections.loaded hmem hresult
    have hloaded' := hsections.loaded hmem' hresult'
    exact sameStructure_of_signature hsha hloaded.structureHashed hloaded'.structureHashed
      (Option.some.inj (hloaded.pinned.symm.trans hloaded'.pinned))
  · have hloaded := hsections.loaded hmem hresult
    exact ⟨hloaded.issues, hloaded.response, hloaded.pinned⟩
  · obtain ⟨hadmissible, _, -, -, rfl⟩ | ⟨hno, violations, texts, status, rfl, rfl⟩ :=
      run_admitSnapshot hrun
    · exact .inl ⟨hadmissible, rfl⟩
    · exact .inr ⟨hno, rfl, rfl, violations, rfl⟩
  · obtain ⟨-, -, -, hsound, -⟩ := hsections.of_mem hmem
    have hsame := signatures_of_step hsound.step hloads
    exact ⟨hsame, fun snapshot => by rw [hsame]⟩
  · obtain ⟨-, -, -, hsound, hextends⟩ := hsections.of_mem hmem
    have hafter := (SourceState.extends_of_step hsound.step).signatures version signature hpinned
    exact ⟨hafter, hextends.signatures version signature hafter⟩

/-- A snapshot is returned fresh and stale, and then one of another structure is rejected. -/
theorem structure_pinned_drift : ∃ (c : Calls) (fresh stale rejected : SectionRecord TaskId),
    Reachable Demo.service Demo.parser c ∧ fresh ∈ c.shared.sections "demo" ∧
    stale ∈ c.shared.sections "demo" ∧ rejected ∈ c.shared.sections "demo" ∧
    fresh.result = .ok (Demo.prepared, false) ∧ stale.result = .ok (Demo.prepared, true) ∧
    Demo.prepared.snapshot.SameStructure Demo.prepared.snapshot ∧
    (c.shared.settled "demo").signatures 1 = some (Demo.service.signature Demo.snapshot) ∧
    ¬ Demo.service.Admissible DottedView.source rejected.before.signatures Demo.drifted ∧
    rejected.after.signatures = rejected.before.signatures ∧
    StructurePinned Demo.service DottedView.source c "demo" := by
  obtain ⟨d⟩ := Demo.histories
  obtain ⟨c, h, hrest, -⟩ := d.drift
  have hpinned : StructurePinned Demo.service DottedView.source c "demo" :=
    structure_pinned h Demo.registered
  have hfresh : d.admitted.record (.context 0 "demo") ∈ c.shared.sections "demo" := by
    rw [hrest.sections]
    exact List.mem_cons_self
  have hstale : d.failed.record (.published 4 "demo") ∈ c.shared.sections "demo" := by
    rw [hrest.sections]
    exact List.mem_append_right _ List.mem_cons_self
  have hrejected : d.rejected.record (.published 5 "demo") ∈ c.shared.sections "demo" := by
    rw [hrest.sections]
    exact List.mem_append_right _
      (List.mem_cons_of_mem _ (List.mem_cons_of_mem _ List.mem_cons_self))
  have hsha : Set.InjOn Demo.service.sha256 {text | text ∈ (c.shared.settled "demo").hashed} := by
    rw [hrest.settled]
    exact (Python.tableDigest_injOn (by decide)).mono Demo.hashed_subset
  refine ⟨c, _, _, _, h, hfresh, hstale, hrejected, rfl, rfl, ?_, ?_, ?_, ?_, hpinned⟩
  · exact hpinned.sameStructure hsha _ hfresh _ hstale _ _ _ _ rfl rfl
  · exact (hpinned.returned _ hfresh _ _ rfl).2.2
  · exact fun hadmissible => Demo.signature_ne (hadmissible.pinned _ Demo.pinned)
  · exact (hpinned.unaffected _ hrejected rfl).1

end QueryMan
