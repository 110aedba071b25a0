import QueryMan.Coro.History
import QueryMan.Metadata.Service

/-!
# What a section does

`SectionStep` says what one section of `_get_prepared` can do to the state of its source and what it
gives back, without the program: it serves the cache, or it refreshes and the refresh ends in one of
the ways of `RefreshOutcome`. Every run of the program is such a step (`sectionStep_of_run`).
-/

namespace QueryMan

open Coro PostgresCatalog

/-! ## The abstract step -/

/-- The clock may read `t`. -/
def SourceState.Ticks (s : SourceState) (t : Int) : Prop :=
  ∀ before ∈ s.now, before ≤ t

/-- What a section does other than storing an admitted snapshot: it reads the clock, keeps or drops
what is cached, and reports a health word. -/
def SourceState.report (s : SourceState) (cache : Option (Nat × CacheEntry)) (now : Int)
    (status : Health) : SourceState :=
  { s with cache := cache, now := some now, health := some status }

/-- A refresh has ended. -/
def SourceState.attempt (s : SourceState) (outcome : RefreshOutcome) : SourceState :=
  { s with attempts := s.attempts ++ [outcome] }

/-- A refresh is due: the cache has no entry, or one that has expired and is not backed off. -/
def Due (cache : Option (Nat × CacheEntry)) (t : Int) : Prop :=
  ∀ cached ∈ cache, cached.2.expiresAt ≤ t ∧ cached.2.nextRefreshAt ≤ t

namespace MetadataService

variable (service : MetadataService) (source : SourceProfile)

/-- The snapshot with its revision. -/
def prepare (snapshot : CatalogSnapshot) : PreparedMetadata where
  snapshot := snapshot
  revision := digest service.sha256 (revisionText source snapshot)

/-- The signature of a snapshot. -/
def signature (snapshot : CatalogSnapshot) : String :=
  digest service.sha256 (structureText snapshot)

/-- A snapshot passes the full validation, with these pinned signatures. -/
structure Admissible (pinned : Nat → Option String) (snapshot : CatalogSnapshot) : Prop where
  /-- the rules of `_validate_snapshot` -/
  issues : validateSnapshot source snapshot = []
  /-- the pinned structure -/
  pinned : ∀ signature ∈ pinned source.viewContractVersion, signature = service.signature snapshot
  /-- the byte limit -/
  response : ∃ response,
    contextResponse service.sha256 source (service.prepare source snapshot) false = .ok response

/-- Why a refresh rejects, with the violations and the cause of its exception. -/
inductive Rejection (pinned : Nat → Option String) : List String → Option LoadFailure → Prop where
  /-- the snapshot does not pass the full validation -/
  | snapshot {snapshot : CatalogSnapshot} {violations : List String} (hbuilt : Built snapshot)
      (hno : ¬ service.Admissible source pinned snapshot) : Rejection pinned violations none
  /-- the load rejects the catalog -/
  | load {failure : LoadFailure} (h : (ServiceExc.load failure).policyRejection = some failure) :
      Rejection pinned [] (some failure)

/-- The state after the admission of a snapshot. -/
def admitted (s : SourceState) (snapshot : CatalogSnapshot) (loadedAt : Int) : SourceState where
  cache := some (s.entries,
    { value := service.prepare source snapshot
      loadedAt := loadedAt
      expiresAt := loadedAt + service.cacheTtlMs
      nextRefreshAt := loadedAt + service.cacheTtlMs })
  entries := s.entries + 1
  signatures :=
    Function.update s.signatures source.viewContractVersion (some (service.signature snapshot))
  health := some .healthy
  now := some loadedAt
  loads := s.loads ++ [(service.prepare source snapshot, loadedAt)]
  attempts := s.attempts ++ [.admitted (service.prepare source snapshot)]
  hashed := s.hashed ++ [structureText snapshot, revisionText source snapshot]

/-- One section. -/
inductive SectionStep (s : SourceState) :
    SourceState → Except ServiceExc (PreparedMetadata × Bool) →
    Prop where
  /-- the cached snapshot has not expired -/
  | fresh {n : Nat} {entry : CacheEntry} {now : Int} (hcache : s.cache = some (n, entry))
      (hnow : s.Ticks now) (hfresh : now < entry.expiresAt) :
      SectionStep s (s.report s.cache now .healthy) (.ok (entry.value, false))
  /-- it has expired, its next refresh is not due yet, and it is not too old -/
  | backOff {n : Nat} {entry : CacheEntry} {now : Int} (hcache : s.cache = some (n, entry))
      (hnow : s.Ticks now) (hexpired : entry.expiresAt ≤ now) (hwait : now < entry.nextRefreshAt)
      (hage : now - entry.loadedAt ≤ service.maxStaleMs) :
      SectionStep s (s.report s.cache now .stale) (.ok (entry.value, true))
  /-- the same, but it is too old -/
  | backOffExpired {n : Nat} {entry : CacheEntry} {now : Int} (hcache : s.cache = some (n, entry))
      (hnow : s.Ticks now) (hexpired : entry.expiresAt ≤ now) (hwait : now < entry.nextRefreshAt)
      (hage : service.maxStaleMs < now - entry.loadedAt) :
      SectionStep s (s.report s.cache now .unavailable) (.error (.metadataUnavailable [] none))
  /-- a refresh admits a snapshot -/
  | admitted {snapshot : CatalogSnapshot} {now loadedAt : Int} (hnow : s.Ticks now)
      (hdue : Due s.cache now) (hloaded : now ≤ loadedAt) (hbuilt : Built snapshot)
      (hadmissible : service.Admissible source s.signatures snapshot) :
      SectionStep s (service.admitted source s snapshot loadedAt)
        (.ok (service.prepare source snapshot, false))
  /-- a refresh rejects, which drops the cached snapshot -/
  | rejected {violations : List String} {cause : Option LoadFailure} {hashed : List String}
      {now : Int} (hnow : s.Ticks now) (hdue : Due s.cache now) (hhashed : s.hashed <+: hashed)
      (hrejects : service.Rejection source s.signatures violations cause) :
      SectionStep s ({ s.attempt .rejected with hashed := hashed }.report none now .unavailable)
        (.error (.metadataUnavailable violations cause))
  /-- a refresh fails otherwise, and the cached snapshot is not too old -/
  | transient {n : Nat} {entry : CacheEntry} {now failedAt : Int} (hnow : s.Ticks now)
      (hdue : Due s.cache now) (hcache : s.cache = some (n, entry)) (hfailed : now ≤ failedAt)
      (hage : failedAt - entry.loadedAt ≤ service.maxStaleMs) :
      SectionStep s
        ((s.attempt .transient).report
          (some (n, { entry with nextRefreshAt := failedAt + service.refreshRetryMs }))
            failedAt .stale)
        (.ok (entry.value, true))
  /-- the same, but there is no cached snapshot, or it is too old -/
  | transientExpired {failure : LoadFailure} {now failedAt : Int} (hnow : s.Ticks now)
      (hdue : Due s.cache now) (hfailed : now ≤ failedAt)
      (hage : ∀ cached ∈ s.cache, service.maxStaleMs < failedAt - cached.2.loadedAt)
      (hfailure : (ServiceExc.load failure).policyRejection = none) :
      SectionStep s ((s.attempt .transient).report s.cache failedAt .unavailable)
        (.error (.metadataUnavailable [] (some failure)))
  /-- a refresh is cancelled -/
  | cancelled {e : ServiceExc} {now : Int} (hnow : s.Ticks now) (hdue : Due s.cache now)
      (hcancelled : e.isCancelled = true) :
      SectionStep s { s.attempt .cancelled with now := some now } (.error e)

/-! ## Runs of the parts -/

variable {service source} {s s' : SourceState} {α : Type} {r : Except ServiceExc α}

/-- An operation of the section itself returns. -/
theorem run_perform_bind (o : SectionOp) {f : SectionRet o → Section α}
    (ho : ∀ o', o ≠ .catalog o') (h : Run service.sectionWorld s (perform o >>= f) s' r) :
    ∃ a, service.sectionWorld.allowed s o (.ok a) ∧
      Run service.sectionWorld (service.sectionWorld.next s o (.ok a)) (f a) s' r := by
  obtain ⟨a, s₁, hperform, hrest⟩ | ⟨e, hperform, -⟩ := run_bind.1 h
  · obtain ⟨hallowed, rfl⟩ := run_perform.1 hperform
    exact ⟨a, hallowed, hrest⟩
  · obtain ⟨hallowed, -⟩ := run_perform.1 hperform
    cases o with
    | catalog o' => exact absurd rfl (ho o')
    | _ => exact hallowed.elim

/-- `self._now()`. -/
theorem run_now {f : Int → Section α} (h : Run service.sectionWorld s (perform .now >>= f) s' r) :
    ∃ now, s.Ticks now ∧ Run service.sectionWorld { s with now := some now } (f now) s' r :=
  run_perform_bind .now nofun h

/-- `self._cache.get(source_id)`. -/
theorem run_cacheGet {f : Option (Nat × CacheEntry) → Section α}
    (h : Run service.sectionWorld s (perform .cacheGet >>= f) s' r) :
    Run service.sectionWorld s (f s.cache) s' r := by
  obtain ⟨cached, rfl, hrest⟩ := run_perform_bind .cacheGet nofun h
  exact hrest

/-- `self._view_structure_signatures.get(signature_key)`. -/
theorem run_acceptedSignature {version : Nat} {f : Option String → Section α}
    (h : Run service.sectionWorld s (perform (.acceptedSignature version) >>= f) s' r) :
    Run service.sectionWorld s (f (s.signatures version)) s' r := by
  obtain ⟨accepted, rfl, hrest⟩ := run_perform_bind (.acceptedSignature version) nofun h
  exact hrest

theorem run_report {counters : List String} {status : Health} {f : Unit → Section α}
    (h : Run service.sectionWorld s (report counters status >>= f) s' r) :
    Run service.sectionWorld { s with health := some status } (f ()) s' r := by
  induction counters with
  | nil =>
    obtain ⟨⟨⟩, -, hrest⟩ := run_perform_bind (.setSourceHealth status) nofun h
    exact hrest
  | cons name counters ih =>
    obtain ⟨⟨⟩, -, hrest⟩ := run_perform_bind (.increment name) nofun (run_bind_assoc.1 h)
    exact ih hrest

theorem run_createDigest {text : String} {f : String → Section α}
    (h : Run service.sectionWorld s (createDigest text >>= f) s' r) :
    Run service.sectionWorld { s with hashed := s.hashed ++ [text] }
      (f (digest service.sha256 text)) s' r := by
  obtain ⟨hash, rfl, hrest⟩ := run_perform_bind (.sha256 text) nofun (run_bind_assoc.1 h)
  exact hrest

theorem run_cacheValue {value : PreparedMetadata} {f : Unit → Section α}
    (h : Run service.sectionWorld s (service.cacheValue value >>= f) s' r) :
    ∃ loadedAt, s.Ticks loadedAt ∧ Run service.sectionWorld
      { s with
        now := some loadedAt
        cache := some (s.entries,
          { value := value
            loadedAt := loadedAt
            expiresAt := loadedAt + service.cacheTtlMs
            nextRefreshAt := loadedAt + service.cacheTtlMs })
        entries := s.entries + 1
        loads := s.loads ++ [(value, loadedAt)] } (f ()) s' r := by
  obtain ⟨loadedAt, hticks, hstore⟩ := run_now (run_bind_assoc.1 h)
  obtain ⟨⟨⟩, -, hrest⟩ := run_perform_bind (.storeEntry _) nofun hstore
  exact ⟨loadedAt, hticks, hrest⟩

/-- A load leaves the state of the source, and gives a snapshot or raises. -/
theorem run_loadCatalog {r : Except ServiceExc CatalogSnapshot}
    (h : Run service.sectionWorld s (loadCatalog source) s' r) :
    s' = s ∧ Run world () (PostgresCatalog.load source) () r := by
  have hinterpret : ∀ p : Load CatalogSnapshot,
      Run service.sectionWorld s (p.interpret fun o => perform (.catalog o)) s' r →
        s' = s ∧ Run world () p () r := by
    intro p
    induction p with
    | done x =>
      intro hrun
      obtain ⟨rfl, rfl⟩ := run_done.1 hrun
      exact ⟨rfl, .done _ _⟩
    | call o k ih =>
      intro hrun
      obtain ⟨answer, s₁, hperform, hrest⟩ := run_bindResult.1 hrun
      obtain ⟨hallowed, rfl⟩ := run_perform.1 hperform
      obtain ⟨rfl, hload⟩ := ih answer hrest
      exact ⟨rfl, .call hallowed hload⟩
  exact hinterpret _ h

/-! ## Admission -/

theorem structureIssues_eq_nil {accepted : Option String} {signature : String} :
    structureIssues accepted signature = [] ↔ ∀ pinned ∈ accepted, pinned = signature := by
  cases accepted with
  | none => exact ⟨fun _ => nofun, fun _ => if_neg fun h => h.1 rfl⟩
  | some pinned =>
    constructor
    · intro h accepted haccepted
      cases haccepted
      by_contra hne
      have hissue : some pinned ≠ none ∧ some pinned ≠ some signature :=
        ⟨nofun, fun heq => hne (Option.some.inj heq)⟩
      rw [structureIssues, if_pos hissue] at h
      cases h
    · intro h
      exact if_neg fun hissue => hissue.2 (congrArg some (h pinned rfl))

/-- **The verdict on a snapshot is its admissibility.** An admission pins the signature and stores
the entry; a rejection leaves both maps. -/
theorem run_admitSnapshot {snapshot : CatalogSnapshot} {r : Except ServiceExc PreparedMetadata}
    (h : Run service.sectionWorld s (service.admitSnapshot source snapshot) s' r) :
    (service.Admissible source s.signatures snapshot ∧ ∃ loadedAt, s.Ticks loadedAt ∧
        s' = { service.admitted source s snapshot loadedAt with attempts := s.attempts } ∧
        r = .ok (service.prepare source snapshot)) ∨
      (¬ service.Admissible source s.signatures snapshot ∧ ∃ violations texts status,
        s' = { s with hashed := s.hashed ++ texts, health := status } ∧
        r = .error (.metadataUnavailable violations none)) := by
  have hsigned := run_createDigest h
  have hchecked := run_acceptedSignature hsigned
  dsimp only at hchecked
  split at hchecked
  · next hissues =>
    have hraised := run_report hchecked
    obtain ⟨rfl, rfl⟩ := run_throw.1 hraised
    refine .inr ⟨fun hadmissible => hissues ?_, _, [structureText snapshot], _, rfl, rfl⟩
    rw [hadmissible.issues, List.nil_append]
    exact structureIssues_eq_nil.2 hadmissible.pinned
  · next hissues =>
    obtain ⟨hvalid, hstructure⟩ := List.append_eq_nil_iff.1 (not_not.1 hissues)
    have hpinned := structureIssues_eq_nil.1 hstructure
    have hrevised := run_createDigest hchecked
    have hhashed : s.hashed ++ [structureText snapshot] ++ [revisionText source snapshot] =
        s.hashed ++ [structureText snapshot, revisionText source snapshot] := List.append_assoc ..
    obtain ⟨response, s₁, hlift, hpublish⟩ | ⟨e, hlift, rfl⟩ := run_bind.1 hrevised
    · obtain ⟨rfl, hresponse⟩ := run_lift.1 hlift
      obtain ⟨⟨⟩, -, hpinned'⟩ := run_perform_bind (.setSignature _ _) nofun hpublish
      obtain ⟨loadedAt, hticks, hstored⟩ := run_cacheValue hpinned'
      have hreported := run_report hstored
      obtain ⟨rfl, rfl⟩ := run_pure.1 hreported
      refine .inl ⟨⟨hvalid, hpinned, response, hresponse.symm⟩, loadedAt, hticks, ?_, rfl⟩
      rw [admitted, ← hhashed]
      rfl
    · obtain ⟨rfl, hresponse⟩ := run_lift.1 hlift
      have heq := contextResponse_eq_error hresponse.symm
      subst heq
      refine .inr ⟨fun hadmissible => ?_, _, [structureText snapshot, revisionText source snapshot],
        s.health, ?_, rfl⟩
      · obtain ⟨response, hok⟩ := hadmissible.response
        exact nomatch hresponse.trans hok
      · rw [← hhashed]

/-- A refresh: its end, before the record of it. -/
theorem run_loadAndValidate {r : Except ServiceExc PreparedMetadata}
    (h : Run service.sectionWorld s (service.loadAndValidate source) s' r) :
    (∃ snapshot loadedAt, Built snapshot ∧ service.Admissible source s.signatures snapshot ∧
        s.Ticks loadedAt ∧
        s' = { service.admitted source s snapshot loadedAt with attempts := s.attempts } ∧
        r = .ok (service.prepare source snapshot)) ∨
      (∃ snapshot violations texts status, Built snapshot ∧
        ¬ service.Admissible source s.signatures snapshot ∧
        s' = { s with hashed := s.hashed ++ texts, health := status } ∧
        r = .error (.metadataUnavailable violations none)) ∨
      ∃ failure, s' = s ∧ r = .error (.load failure) := by
  obtain ⟨⟨⟩, -, hstarted⟩ := run_perform_bind (.increment _) nofun h
  obtain ⟨snapshot, s₁, hload, hadmit⟩ | ⟨e, hload, rfl⟩ := run_bind.1 hstarted
  · obtain ⟨rfl, hrun⟩ := run_loadCatalog hload
    have hbuilt := load_built hrun
    obtain ⟨hadmissible, loadedAt, hrest⟩ | ⟨hno, violations, texts, status, hrest⟩ :=
      run_admitSnapshot hadmit
    · exact .inl ⟨snapshot, loadedAt, hbuilt, hadmissible, hrest⟩
    · exact .inr (.inl ⟨snapshot, violations, texts, status, hbuilt, hno, hrest⟩)
  · obtain ⟨rfl, hrun⟩ := run_loadCatalog hload
    obtain ⟨failure, rfl⟩ := load_raises source () () _ trivial hrun
    exact .inr (.inr ⟨failure, rfl, rfl⟩)

/-- A refresh with the record of its end. -/
theorem run_recordedRefresh {r : Except ServiceExc PreparedMetadata}
    (h : Run service.sectionWorld s (service.recordedRefresh source) s' r) :
    ∃ s₁, Run service.sectionWorld s (service.loadAndValidate source) s₁ r ∧
      s' = { s₁ with attempts := s₁.attempts ++ [outcomeOf r] } := by
  obtain ⟨x, s₁, hrefresh, hfinal⟩ := run_bindResult.1 h
  obtain ⟨⟨⟩, -, hrest⟩ := run_perform_bind (.refreshEnded (outcomeOf x)) nofun hfinal
  obtain ⟨rfl, rfl⟩ := run_lift.1 hrest
  exact ⟨s₁, hrefresh, rfl⟩

/-! ## Refinement -/

/-- A failure that is not a rejection: the cached snapshot is served, or is too old. -/
theorem run_serveStale {cached : Option (Nat × CacheEntry)} {failure : LoadFailure}
    {r : Except ServiceExc (PreparedMetadata × Bool)}
    (h : Run service.sectionWorld s (service.serveStale cached (.load failure)) s' r)
    (hcached : s.cache = cached) :
    ∃ failedAt, s.Ticks failedAt ∧
      ((∃ n entry, cached = some (n, entry) ∧ failedAt - entry.loadedAt ≤ service.maxStaleMs ∧
          s' =
            s.report (some (n, { entry with nextRefreshAt := failedAt + service.refreshRetryMs }))
            failedAt .stale ∧
          r = .ok (entry.value, true)) ∨
        ((∀ x ∈ cached, service.maxStaleMs < failedAt - x.2.loadedAt) ∧
          s' = s.report cached failedAt .unavailable ∧
          r = .error (.metadataUnavailable [] (some failure)))) := by
  subst hcached
  obtain ⟨failedAt, hticks, hrest⟩ := run_now h
  refine ⟨failedAt, hticks, ?_⟩
  cases hcache : s.cache with
  | none =>
    rw [hcache] at hrest
    have hreported := run_report hrest
    obtain ⟨rfl, rfl⟩ := run_throw.1 hreported
    exact .inr ⟨nofun, rfl, rfl⟩
  | some cached =>
    obtain ⟨n, entry⟩ := cached
    rw [hcache] at hrest
    dsimp only at hrest
    split at hrest
    · next hage =>
      obtain ⟨⟨⟩, -, hmarked⟩ := run_perform_bind (.setNextRefreshAt n _) nofun hrest
      have hreported := run_report hmarked
      obtain ⟨rfl, rfl⟩ := run_pure.1 hreported
      refine .inl ⟨n, entry, rfl, hage, ?_, rfl⟩
      have hset : setNextRefreshAt (some (n, entry)) n (failedAt + service.refreshRetryMs) =
          some (n, { entry with nextRefreshAt := failedAt + service.refreshRetryMs }) :=
        congrArg some (if_pos rfl)
      rw [SourceState.report, ← hset]
      rfl
    · next hage =>
      have hreported := run_report hrest
      obtain ⟨rfl, rfl⟩ := run_throw.1 hreported
      refine .inr ⟨fun x hx => ?_, rfl, rfl⟩
      cases hx
      exact not_le.1 hage

/-- A policy rejection drops the cached snapshot. -/
theorem run_rejected {counters : List String} {e : ServiceExc}
    {r : Except ServiceExc (PreparedMetadata × Bool)}
    (h : Run service.sectionWorld s
      (perform .cachePop >>= fun _ => report counters .unavailable >>= fun _ => throw e) s' r) :
    s' = { s with cache := none, health := some .unavailable } ∧ r = .error e := by
  obtain ⟨⟨⟩, -, hpopped⟩ := run_perform_bind .cachePop nofun h
  have hreported := run_report hpopped
  obtain ⟨rfl, rfl⟩ := run_throw.1 hreported
  exact ⟨rfl, rfl⟩

/-- The handlers, after a failure of the load. -/
theorem refreshStep_of_failure {failure : LoadFailure} {now : Int}
    {r : Except ServiceExc (PreparedMetadata × Bool)} (hnow : s.Ticks now) (hdue : Due s.cache now)
    (h : Run service.sectionWorld
      { s.attempt (outcomeOf (.error (.load failure))) with now := some now }
      (service.refreshRaised s.cache (.load failure)) s' r) :
    service.SectionStep source s s' r := by
  rw [refreshRaised] at h
  split at h
  · next hcancelled =>
    obtain ⟨rfl, rfl⟩ := run_throw.1 h
    rw [outcomeOf, if_pos hcancelled]
    exact .cancelled hnow hdue hcancelled
  · next hcancelled =>
    have hoften : outcomeOf (.error (.load failure)) =
        if (ServiceExc.load failure).policyRejection.isSome then .rejected else .transient := by
      rw [outcomeOf, if_neg hcancelled]
      rfl
    have hno : ¬ (ServiceExc.load failure).isMetadataUnavailable = true := Bool.false_ne_true
    rw [if_neg hno, hoften] at h
    cases hpolicy : (ServiceExc.load failure).policyRejection with
    | some error =>
      rw [hpolicy] at h
      obtain ⟨rfl, rfl⟩ := run_rejected h
      obtain rfl := ServiceExc.eq_of_policyRejection hpolicy
      exact .rejected hnow hdue List.prefix_rfl (.load hpolicy)
    | none =>
      rw [hpolicy] at h
      obtain ⟨failedAt, hfailed, ⟨n, entry, hcache, hage, rfl, rfl⟩ | ⟨hage, rfl, rfl⟩⟩ :=
        run_serveStale h rfl
      · exact .transient hnow hdue hcache (hfailed now rfl) hage
      · exact .transientExpired hnow hdue (hfailed now rfl) hage hpolicy

/-- A refresh is a step of a section. -/
theorem sectionStep_of_refresh {now : Int} {r : Except ServiceExc (PreparedMetadata × Bool)}
    (hnow : s.Ticks now) (hdue : Due s.cache now)
    (h : Run service.sectionWorld { s with now := some now }
      (service.refresh source s.cache) s' r) :
    service.SectionStep source s s' r := by
  obtain ⟨result, htry, rfl⟩ | ⟨e, s₁, htry, hhandler⟩ := run_tryCatch.1 h
  · obtain ⟨value, s₁, hrefresh, hpure⟩ | ⟨e, -, heq⟩ := run_bind.1 htry
    · obtain ⟨rfl, heq⟩ := run_pure.1 hpure
      cases heq
      obtain ⟨s₂, hload, rfl⟩ := run_recordedRefresh hrefresh
      obtain ⟨snapshot, loadedAt, hbuilt, hadmissible, hticks, rfl, hvalue⟩ |
        ⟨_, _, _, _, -, -, -, heq⟩ | ⟨_, -, heq⟩ := run_loadAndValidate hload
      · cases hvalue
        exact .admitted hnow hdue (hticks now rfl) hbuilt hadmissible
      · cases heq
      · cases heq
    · cases heq
  · obtain ⟨value, s₂, -, hpure⟩ | ⟨e', hrefresh, heq⟩ := run_bind.1 htry
    · cases (run_pure.1 hpure).2
    · cases heq
      obtain ⟨s₂, hload, rfl⟩ := run_recordedRefresh hrefresh
      obtain ⟨_, _, -, -, -, -, heq⟩
        | ⟨snapshot, violations, texts, status, hbuilt, hno, rfl, heq⟩ |
        ⟨failure, rfl, heq⟩ := run_loadAndValidate hload
      · cases heq
      · cases heq
        obtain ⟨rfl, rfl⟩ := run_rejected hhandler
        exact .rejected hnow hdue (List.prefix_append ..) (.snapshot hbuilt hno)
      · cases heq
        exact refreshStep_of_failure hnow hdue hhandler

/-- A section that backs off. -/
theorem sectionStep_of_backOff {n : Nat} {entry : CacheEntry} {now : Int}
    {r : Except ServiceExc (PreparedMetadata × Bool)} (hcache : s.cache = some (n, entry))
    (hnow : s.Ticks now) (hexpired : entry.expiresAt ≤ now) (hwait : now < entry.nextRefreshAt)
    (h : Run service.sectionWorld { s with now := some now } (service.backOff entry now) s' r) :
    service.SectionStep source s s' r := by
  rw [backOff] at h
  split at h
  · next hage =>
    obtain ⟨⟨⟩, -, hcounted⟩ := run_perform_bind (.increment _) nofun (run_bind_assoc.1 h)
    have hreported := run_report hcounted
    obtain ⟨rfl, rfl⟩ := run_pure.1 hreported
    exact .backOff hcache hnow hexpired hwait hage
  · next hage =>
    have hreported := run_report h
    obtain ⟨rfl, rfl⟩ := run_throw.1 hreported
    exact .backOffExpired hcache hnow hexpired hwait (not_le.1 hage)

/-- **Every run of a section is a step.** -/
theorem sectionStep_of_run {r : Except ServiceExc (PreparedMetadata × Bool)}
    (h : Run service.sectionWorld s (service.lockedSection source) s' r) :
    service.SectionStep source s s' r := by
  obtain ⟨now, hnow, hserve⟩ := run_now (run_cacheGet h)
  have hrefresh : Due s.cache now → Run service.sectionWorld { s with now := some now }
      (service.refresh source s.cache) s' r → service.SectionStep source s s' r :=
    sectionStep_of_refresh hnow
  cases hcache : s.cache with
  | none =>
    rw [hcache] at hserve hrefresh
    exact hrefresh nofun hserve
  | some cached =>
    obtain ⟨n, entry⟩ := cached
    rw [hcache] at hserve hrefresh
    dsimp only at hserve
    split at hserve
    · next hfresh =>
      have hreported := run_report hserve
      obtain ⟨rfl, rfl⟩ := run_pure.1 hreported
      rw [← hcache]
      exact .fresh hcache hnow hfresh
    · next hexpired =>
      split at hserve
      · next hwait =>
        rw [← hcache] at hserve
        exact sectionStep_of_backOff hcache hnow (not_lt.1 hexpired) hwait hserve
      · next hwait =>
        refine hrefresh (fun cached h => ?_) hserve
        cases h
        exact ⟨not_lt.1 hexpired, not_lt.1 hwait⟩

end MetadataService

end QueryMan
