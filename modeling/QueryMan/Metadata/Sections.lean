import QueryMan.Metadata.Section

/-!
# The sections of a source

A source is served by one section after the other, each from the state that the one before it left
(`Sections`). What has been loaded, hashed and pinned stays (`SourceState.Extends`), and between two
sections the state keeps `SourceState.Inv`: what is cached is the latest load, what is backed off
has failed, and what was rejected is no longer cached.
-/

namespace QueryMan

open Coro PostgresCatalog MetadataService

/-! ## Records -/

/-- A section that has ended, of a task. -/
structure SectionRecord (ι : Type) where
  task : ι
  before : SourceState
  history : List (Exchange SectionRet ServiceExc)
  result : Except ServiceExc (PreparedMetadata × Bool)
  after : SourceState

variable {ι : Type} {service : MetadataService} {source : SourceProfile} {s s' s'' : SourceState}
  {records : List (SectionRecord ι)} {record : SectionRecord ι}
  {result : Except ServiceExc (PreparedMetadata × Bool)}

/-- The record is of a run of the section: the program makes the history, and the world allows it.
-/
structure SectionRecord.Sound (service : MetadataService) (source : SourceProfile)
    (record : SectionRecord ι) : Prop where
  makes : (service.lockedSection source).Makes record.history record.result
  allows : service.sectionWorld.Allows record.before record.history record.after

theorem SectionRecord.Sound.step (h : record.Sound service source) :
    service.SectionStep source record.before record.after record.result :=
  sectionStep_of_run (run_iff_history.2 ⟨record.history, h.makes, h.allows⟩)

/-- The sections of a source from its initial state on, and the state that they leave. -/
inductive Sections (service : MetadataService) (source : SourceProfile) :
    List (SectionRecord ι) → SourceState → Prop where
  | nil : Sections service source [] .initial
  | concat {records : List (SectionRecord ι)} {record : SectionRecord ι}
      (h : Sections service source records record.before) (hsound : record.Sound service source) :
      Sections service source (records ++ [record]) record.after

/-! ## What stays -/

/-- What has been loaded, hashed and pinned in `s` is so in `s'`. -/
structure SourceState.Extends (s s' : SourceState) : Prop where
  loads : s.loads <+: s'.loads
  hashed : s.hashed <+: s'.hashed
  signatures : ∀ version signature, s.signatures version = some signature →
    s'.signatures version = some signature

namespace SourceState

theorem Extends.refl (s : SourceState) : s.Extends s :=
  ⟨List.prefix_rfl, List.prefix_rfl, fun _ _ h => h⟩

theorem Extends.trans (h : s.Extends s') (h' : s'.Extends s'') : s.Extends s'' :=
  ⟨h.loads.trans h'.loads, h.hashed.trans h'.hashed,
    fun version signature hs => h'.signatures version signature (h.signatures version signature hs)⟩

/-- Pinning a signature that was pinned already, if any was, keeps all of them. -/
theorem signatures_update {version : Nat} {signature : String}
    (h : ∀ pinned ∈ s.signatures version, pinned = signature) :
    ∀ v pinned, s.signatures v = some pinned →
      Function.update s.signatures version (some signature) v = some pinned := by
  intro v pinned hpinned
  by_cases hv : v = version
  · subst hv
    rw [Function.update_self, h pinned hpinned]
  · rw [Function.update_of_ne hv, hpinned]

/-- A section keeps what was loaded, hashed and pinned. -/
theorem extends_of_step (h : service.SectionStep source s s' result) : s.Extends s' := by
  cases h with
  | admitted _ _ _ _ hadmissible =>
    exact ⟨List.prefix_append .., List.prefix_append .., signatures_update hadmissible.pinned⟩
  | rejected _ _ hhashed => exact ⟨List.prefix_rfl, hhashed, fun _ _ h => h⟩
  | _ => exact ⟨List.prefix_rfl, List.prefix_rfl, fun _ _ h => h⟩

/-! ## The invariant -/

/-- How the last refresh that was not cancelled ended. -/
def lastCompleted (s : SourceState) : Option RefreshOutcome :=
  (s.attempts.filter fun outcome => outcome ≠ .cancelled).getLast?

/-- How the last refresh ended that was decided: admitted or rejected. -/
def lastDecided (s : SourceState) : Option RefreshOutcome :=
  (s.attempts.filter fun outcome => outcome ≠ .cancelled ∧ outcome ≠ .transient).getLast?

/-- A snapshot that has been admitted: it passes the rules and the byte limit, its revision and its
signature are the digests of texts that were hashed, and its signature is pinned. -/
structure Loaded (service : MetadataService) (source : SourceProfile) (s : SourceState)
    (value : PreparedMetadata) : Prop where
  revision : value = service.prepare source value.snapshot
  built : Built value.snapshot
  issues : validateSnapshot source value.snapshot = []
  response : ∃ response, contextResponse service.sha256 source value false = .ok response
  pinned : s.signatures source.viewContractVersion = some (service.signature value.snapshot)
  structureHashed : structureText value.snapshot ∈ s.hashed
  revisionHashed : revisionText source value.snapshot ∈ s.hashed

theorem Loaded.extends {value : PreparedMetadata} (h : s.Loaded service source value)
    (hextends : s.Extends s') : s'.Loaded service source value where
  revision := h.revision
  built := h.built
  issues := h.issues
  response := h.response
  pinned := hextends.signatures _ _ h.pinned
  structureHashed := hextends.hashed.subset h.structureHashed
  revisionHashed := hextends.hashed.subset h.revisionHashed

/-- What holds between two sections. -/
structure Inv (service : MetadataService) (source : SourceProfile) (s : SourceState) : Prop where
  /-- the cached snapshot is that of the latest load, and expires by its age -/
  cached : ∀ n entry, s.cache = some (n, entry) →
    s.loads.getLast? = some (entry.value, entry.loadedAt) ∧
      entry.expiresAt = entry.loadedAt + service.cacheTtlMs
  /-- its refresh is due when it expires, unless the last one that was not cancelled has failed -/
  backedOff : ∀ n entry, s.cache = some (n, entry) →
    entry.nextRefreshAt = entry.expiresAt ∨ s.lastCompleted = some .transient
  /-- after a rejection nothing is cached -/
  latched : s.lastDecided = some .rejected → s.cache = none
  /-- the loads are the successful refreshes -/
  recorded : s.attempts.filter (·.isAdmitted) = s.loads.map fun x => .admitted x.1
  /-- what was loaded has been admitted -/
  loaded : ∀ x ∈ s.loads, s.Loaded service source x.1

theorem inv_initial : Inv service source .initial where
  cached := nofun
  backedOff := nofun
  latched := nofun
  recorded := rfl
  loaded := nofun

/-- The last one of a kind, after one more. -/
theorem getLast?_filter_concat {α : Type} {p : α → Bool} {l : List α} {x : α} :
    ((l ++ [x]).filter p).getLast? = if p x then some x else (l.filter p).getLast? := by
  rw [List.filter_append]
  split
  · next h => rw [List.filter_cons_of_pos h, List.filter_nil, List.getLast?_concat]
  · next h => rw [List.filter_cons_of_neg h, List.filter_nil, List.append_nil]

theorem lastCompleted_attempt {outcome : RefreshOutcome} :
    (s.attempt outcome).lastCompleted =
      if outcome = .cancelled then s.lastCompleted else some outcome := by
  rw [lastCompleted, attempt, getLast?_filter_concat, lastCompleted]
  by_cases h : outcome = .cancelled
  · rw [if_pos h, if_neg (by simp [h])]
  · rw [if_neg h, if_pos (decide_eq_true h)]

theorem lastDecided_attempt {outcome : RefreshOutcome} :
    (s.attempt outcome).lastDecided =
      if outcome = .cancelled ∨ outcome = .transient then s.lastDecided else some outcome := by
  rw [lastDecided, attempt, getLast?_filter_concat, lastDecided]
  by_cases h : outcome = .cancelled ∨ outcome = .transient
  · rw [if_pos h, if_neg (fun hpos => not_or.2 (of_decide_eq_true hpos) h)]
  · rw [if_neg h, if_pos (decide_eq_true (not_or.1 h))]

/-- **A section keeps the invariant.** -/
theorem Inv.step (h : s.Inv service source) (hstep : service.SectionStep source s s' result) :
    s'.Inv service source := by
  have hloaded : ∀ x ∈ s.loads, s'.Loaded service source x.1 :=
    fun x hx => (h.loaded x hx).extends (extends_of_step hstep)
  have hfailed : ∀ outcome : RefreshOutcome, outcome.isAdmitted = false →
      (s.attempt outcome).attempts.filter (·.isAdmitted) = s.loads.map fun x => .admitted x.1 := by
    intro outcome hno
    rw [attempt, List.filter_append, List.filter_cons_of_neg (Bool.eq_false_iff.1 hno),
      List.filter_nil, List.append_nil, h.recorded]
  cases hstep with
  | fresh | backOff | backOffExpired =>
      exact ⟨h.cached, h.backedOff, h.latched, h.recorded, hloaded⟩
  | @admitted snapshot now loadedAt _ _ _ hbuilt hadmissible =>
    refine ⟨fun n entry hcache => ?_, fun n entry hcache => ?_, fun hrejected => ?_, ?_,
      fun x hx => ?_⟩
    · cases hcache
      exact ⟨List.getLast?_concat .., rfl⟩
    · cases hcache
      exact .inl rfl
    · have hlast : (s.attempt (.admitted (service.prepare source snapshot))).lastDecided =
          some .rejected := hrejected
      rw [lastDecided_attempt] at hlast
      cases hlast
    · rw [MetadataService.admitted, List.filter_append, h.recorded, List.map_append]
      rfl
    · rcases List.mem_append.1 hx with hx | hx
      · exact hloaded x hx
      · obtain rfl := List.mem_singleton.1 hx
        exact ⟨rfl, hbuilt, hadmissible.issues, hadmissible.response, Function.update_self ..,
          by simp [MetadataService.admitted, prepare], by simp [MetadataService.admitted, prepare]⟩
  | rejected =>
    refine ⟨fun n entry hcache => ?_, fun n entry hcache => ?_,
      fun _ => rfl, hfailed _ rfl, hloaded⟩
    · cases hcache
    · cases hcache
  | @transient n entry now failedAt _ _ hcache =>
    obtain ⟨hlatest, hexpires⟩ := h.cached n entry hcache
    refine ⟨fun n' entry' hcache' => ?_, fun n' entry' hcache' => ?_, fun hrejected => ?_,
      hfailed _ rfl, hloaded⟩
    · cases hcache'
      exact ⟨hlatest, hexpires⟩
    · exact .inr lastCompleted_attempt
    · have hlast : (s.attempt .transient).lastDecided = some .rejected := hrejected
      rw [lastDecided_attempt, if_pos (.inr rfl)] at hlast
      cases (h.latched hlast).symm.trans hcache
  | transientExpired =>
    refine ⟨h.cached, fun _ _ _ => .inr lastCompleted_attempt, fun hrejected => ?_, hfailed _ rfl,
      hloaded⟩
    have hlast : (s.attempt .transient).lastDecided = some .rejected := hrejected
    rw [lastDecided_attempt, if_pos (.inr rfl)] at hlast
    exact h.latched hlast
  | cancelled =>
    refine ⟨h.cached, fun n entry hcache => ?_, fun hrejected => ?_, hfailed _ rfl, hloaded⟩
    · refine (h.backedOff n entry hcache).imp_right fun hlast => ?_
      exact lastCompleted_attempt.trans hlast
    · have hlast : (s.attempt .cancelled).lastDecided = some .rejected := hrejected
      rw [lastDecided_attempt, if_pos (.inl rfl)] at hlast
      exact h.latched hlast

end SourceState

/-- What a section returns is what was loaded last. -/
theorem SourceState.latest_of_step {value : PreparedMetadata} {stale : Bool}
    (h : s.Inv service source) (hstep : service.SectionStep source s s' (.ok (value, stale))) :
    ∃ loadedAt, s'.loads.getLast? = some (value, loadedAt) := by
  cases hstep with
  | fresh hcache | backOff hcache => exact ⟨_, (h.cached _ _ hcache).1⟩
  | admitted => exact ⟨_, List.getLast?_concat ..⟩
  | transient _ _ hcache => exact ⟨_, (h.cached _ _ hcache).1⟩

/-! ## Over all sections -/

/-- **Between two sections the invariant holds.** -/
theorem Sections.inv (h : Sections service source records s) : s.Inv service source := by
  induction h with
  | nil => exact SourceState.inv_initial
  | concat _ hsound ih => exact ih.step hsound.step

/-- Where a section stands among all: it starts from what the earlier ones have left, and what it
leaves stays. -/
theorem Sections.of_mem (h : Sections service source records s) (hmem : record ∈ records) :
    ∃ earlier, earlier ++ [record] <+: records ∧ Sections service source earlier record.before ∧
      record.Sound service source ∧ record.after.Extends s := by
  induction h with
  | nil => exact nomatch hmem
  | @concat records last hrecords hsound ih =>
    rcases List.mem_append.1 hmem with hmem | hmem
    · obtain ⟨earlier, hprefix, hearlier, hrecord, hextends⟩ := ih hmem
      exact ⟨earlier, hprefix.trans (List.prefix_append ..), hearlier, hrecord,
        hextends.trans (SourceState.extends_of_step hsound.step)⟩
    · obtain rfl := List.mem_singleton.1 hmem
      exact ⟨records, List.prefix_rfl, hrecords, hsound, .refl _⟩

/-- What a section has returned has been admitted. -/
theorem Sections.loaded (h : Sections service source records s) (hmem : record ∈ records)
    {value : PreparedMetadata} {stale : Bool} (hresult : record.result = .ok (value, stale)) :
    s.Loaded service source value := by
  obtain ⟨earlier, -, hearlier, hsound, hextends⟩ := h.of_mem hmem
  have hstep := hsound.step
  obtain ⟨loadedAt, hlatest⟩ := SourceState.latest_of_step hearlier.inv (hresult ▸ hstep)
  have hloaded := (hearlier.inv.step hstep).loaded _ (List.mem_of_getLast? hlatest)
  exact hloaded.extends hextends

end QueryMan
