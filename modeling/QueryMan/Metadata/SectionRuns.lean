import QueryMan.Metadata.Sections

/-!
# What a section can do

The converse of `sectionStep_of_run`: from any state, with any reading of the clock that does not go
back and with any way in which a load of the catalog can end, there is a run of the section that
ends as `SectionStep` says. A load can fail with any exception (`canLoad_raises`), and give the
snapshot of any rows (`canLoad_rows`).
-/

namespace QueryMan

open Coro PostgresCatalog

/-! ## Loads -/

namespace PostgresCatalog

/-- A load of the catalog can end so. -/
def CanLoad (source : SourceProfile) (x : Except ServiceExc CatalogSnapshot) : Prop :=
  Run world () (load source) () x

variable {source : SourceProfile}

/-- An operation of a load returns. -/
theorem perform_run (o : Op) (a : Ret o) : Run world () (perform o) () (.ok a) :=
  .call (r := .ok a) trivial (.done ..)

/-- One part of a load after the other. -/
theorem bind_run {α β : Type} {p : Load α} {f : α → Load β} {a : α} {r : Except ServiceExc β}
    (hfirst : Run world () p () (.ok a)) (hrest : Run world () (f a) () r) :
    Run world () (p >>= f) () r :=
  run_bind.2 (.inl ⟨a, (), hfirst, hrest⟩)

/-- A load can fail with any exception, when it leases its connection. -/
theorem canLoad_raises (source : SourceProfile) (x : Exc) : CanLoad source (.error (.ofExc x)) := by
  have hlease : Run world () (perform .leaseConnection) () (.error (.ofExc x)) :=
    run_perform.2 ⟨⟨x, rfl, rfl⟩, rfl⟩
  exact bind_run (bind_run (perform_run .hasPool true) (.done ..))
    (run_bind.2 (.inr ⟨_, hlease, rfl⟩))

/-- A connection to a supported server, with or without TLS as the source asks for. -/
def supportedConnection (source : SourceProfile) : ConnectionInfo where
  serverVersion := 180000
  serverEncoding := some "UTF8"
  clientEncoding := some "UTF8"
  encoding := "utf-8"
  sslInUse := decide (source.sslmode ≠ .disable)

theorem requireReaderConnectionPolicy_supported :
    requireReaderConnectionPolicy (supportedConnection source) source.sslmode = .ok () := by
  unfold requireReaderConnectionPolicy supportedConnection
  dsimp only
  rw [if_neg (by decide), if_neg (not_not.2 rfl)]

/-- The connection policy is kept. -/
theorem requireCatalogConnectionPolicy_run :
    Run world () (requireCatalogConnectionPolicy source) () (.ok ()) := by
  refine run_tryCatch.2 (.inl ⟨(), ?_, rfl⟩)
  refine bind_run (perform_run .connectionInfo (supportedConnection source)) (run_lift.2 ⟨rfl, ?_⟩)
  rw [requireReaderConnectionPolicy_supported]
  rfl

/-- The transaction begins, and its session keeps the session policy. -/
theorem beginCatalogTransaction_run :
    Run world () (beginCatalogTransaction source) () (.ok ()) := by
  have hsettings := bind_run (perform_run (.send .timeZone) ())
    (f := fun _ => send (.sessionSettings (sessionSettingValues source)))
    (perform_run (.send (.sessionSettings (sessionSettingValues source))) ())
  have hpolicy : Run world () requireReaderSessionPolicy () (.ok ()) :=
    bind_run (perform_run (.send .sessionPolicy) ())
      (bind_run (perform_run .fetchPolicyRow (some [("read_only", some true)])) (.done ..))
  refine bind_run (perform_run (.send .beginTransaction) ()) (bind_run (a := ()) ?_ hpolicy)
  exact run_tryCatch.2 (.inl ⟨(), hsettings, rfl⟩)

/-- What is not rejected. -/
theorem rejectIf_run {c : Prop} [Decidable c] {message : String} (h : ¬ c) :
    Run world () (.lift (rejectIf c message) : Load Unit) () (.ok ()) :=
  run_lift.2 ⟨rfl, (if_neg h).symm⟩

/-- A load can give the snapshot of any rows within the limits. -/
theorem canLoad_rows {rows : List CatalogRow}
    (hlimit : rows.length ≤ source.budget.maxMetadataColumns)
    (hdomain : ∀ row ∈ rows, row.typeKind ≠ some "d") :
    CanLoad source (toSnapshot source rows) := by
  have hread : Run world () (readRows source) () (.ok rows) := by
    refine bind_run beginCatalogTransaction_run (bind_run (perform_run (.send _) ()) ?_)
    refine bind_run (perform_run .fetchRows rows) (bind_run (rejectIf_run (not_lt.2 hlimit)) ?_)
    refine bind_run (rejectIf_run fun ⟨row, hmem, hkind⟩ => hdomain row hmem hkind) ?_
    exact bind_run (perform_run (.send .commit) ()) (.done ..)
  have hbody : Run world () (do
      requireCatalogConnectionPolicy source
      (readRows source).tryCatch rollbackAndRaise) () (.ok rows) :=
    bind_run requireCatalogConnectionPolicy_run (run_tryCatch.2 (.inl ⟨rows, hread, rfl⟩))
  have hleased : Run world () (Prog.exitWith (do
      requireCatalogConnectionPolicy source
      (readRows source).tryCatch rollbackAndRaise) leaveConnection) () (.ok rows) :=
    run_exitWith.2 (.inl ⟨rows, (), hbody, .inl ⟨perform_run (.returnConnection false) (), rfl⟩⟩)
  refine bind_run (bind_run (perform_run .hasPool true) (.done ..)) ?_
  exact bind_run (perform_run .leaseConnection ()) (bind_run hleased (.done ..))

end PostgresCatalog

namespace MetadataService

variable {service : MetadataService} {source : SourceProfile} {s s' : SourceState} {α : Type}
  {r : Except ServiceExc α} {snapshot : CatalogSnapshot}

/-! ## The parts -/

/-- An operation of the section returns, and the section goes on. -/
theorem perform_run (o : SectionOp) {f : SectionRet o → Section α} {a : SectionRet o}
    (hallowed : service.sectionWorld.allowed s o (.ok a))
    (h : Run service.sectionWorld (service.sectionWorld.next s o (.ok a)) (f a) s' r) :
    Run service.sectionWorld s (perform o >>= f) s' r :=
  .call hallowed h

/-- The cached entry is read. -/
theorem cacheGet_run {f : Option (Nat × CacheEntry) → Section α}
    (h : Run service.sectionWorld s (f s.cache) s' r) :
    Run service.sectionWorld s (perform .cacheGet >>= f) s' r :=
  perform_run .cacheGet rfl h

/-- The clock is read. -/
theorem now_run {now : Int} {f : Int → Section α} (hnow : s.Ticks now)
    (h : Run service.sectionWorld { s with now := some now } (f now) s' r) :
    Run service.sectionWorld s (perform .now >>= f) s' r :=
  perform_run .now hnow h

/-- The clock may be read once more. -/
theorem ticks_of_now {now later : Int} (hnow : s.now = some now) (h : now ≤ later) :
    s.Ticks later := by
  intro before hbefore
  rw [hnow] at hbefore
  cases hbefore
  exact h

/-- The pinned signature is read. -/
theorem acceptedSignature_run {version : Nat} {f : Option String → Section α}
    (h : Run service.sectionWorld s (f (s.signatures version)) s' r) :
    Run service.sectionWorld s (perform (.acceptedSignature version) >>= f) s' r :=
  perform_run (.acceptedSignature version) rfl h

/-- A report, and what follows it. -/
theorem report_run {counters : List String} {status : Health} {f : Unit → Section α}
    (h : Run service.sectionWorld { s with health := some status } (f ()) s' r) :
    Run service.sectionWorld s (report counters status >>= f) s' r := by
  induction counters with
  | nil => exact perform_run (.setSourceHealth status) trivial h
  | cons name counters ih =>
    exact run_bind_assoc.2 (perform_run (a := ()) (.increment name) trivial ih)

/-- A digest, and what follows it. -/
theorem createDigest_run {text : String} {f : String → Section α}
    (h : Run service.sectionWorld { s with hashed := s.hashed ++ [text] }
      (f (digest service.sha256 text)) s' r) :
    Run service.sectionWorld s (createDigest text >>= f) s' r :=
  run_bind_assoc.2 (perform_run (.sha256 text) rfl h)

/-- The load leaves the state of the source. -/
theorem loadCatalog_run {x : Except ServiceExc CatalogSnapshot} (h : CanLoad source x) :
    Run service.sectionWorld s (loadCatalog source) s x := by
  have hinterpret : ∀ p : Load CatalogSnapshot, Run world () p () x →
      Run service.sectionWorld s (p.interpret fun o => perform (.catalog o)) s x := by
    intro p
    induction p with
    | done x' =>
      intro hrun
      obtain ⟨-, rfl⟩ := run_done.1 hrun
      exact .done _ _
    | call o k ih =>
      intro hrun
      obtain ⟨answer, hallowed, hrest⟩ := run_call.1 hrun
      exact run_bindResult.2 ⟨answer, s, run_perform.2 ⟨hallowed, rfl⟩, ih answer hrest⟩
  exact hinterpret _ h

/-! ## The verdict -/

/-- An admissible snapshot is admitted. -/
theorem admitSnapshot_run {loadedAt : Int}
    (hadmissible : service.Admissible source s.signatures snapshot) (hticks : s.Ticks loadedAt) :
    Run service.sectionWorld s (service.admitSnapshot source snapshot)
      { service.admitted source s snapshot loadedAt with attempts := s.attempts }
      (.ok (service.prepare source snapshot)) := by
  have hissues : validateSnapshot source snapshot ++
      structureIssues (s.signatures source.viewContractVersion)
        (digest service.sha256 (structureText snapshot)) = [] :=
    List.append_eq_nil_iff.2 ⟨hadmissible.issues, structureIssues_eq_nil.2 hadmissible.pinned⟩
  obtain ⟨response, hresponse⟩ := hadmissible.response
  have hhashed : s.hashed ++ [structureText snapshot] ++ [revisionText source snapshot] =
      s.hashed ++ [structureText snapshot, revisionText source snapshot] := List.append_assoc ..
  refine createDigest_run (acceptedSignature_run ?_)
  dsimp only
  rw [if_neg (not_not.2 hissues)]
  refine createDigest_run (run_bind.2 (.inl ⟨response, _, run_lift.2 ⟨rfl, hresponse.symm⟩, ?_⟩))
  refine perform_run (a := ()) (.setSignature _ _) trivial (run_bind_assoc.2 ?_)
  refine now_run hticks (perform_run (a := ()) (.storeEntry _) trivial (report_run ?_))
  refine run_pure.2 ⟨?_, rfl⟩
  rw [admitted, ← hhashed]
  rfl

/-- A snapshot with issues is rejected. -/
theorem admitSnapshot_rejects {issues : List String}
    (hissues : validateSnapshot source snapshot ++
      structureIssues (s.signatures source.viewContractVersion)
        (digest service.sha256 (structureText snapshot)) = issues) (hne : issues ≠ []) :
    Run service.sectionWorld s (service.admitSnapshot source snapshot)
      { s with hashed := s.hashed ++ [structureText snapshot], health := some .unavailable }
      (.error (.metadataUnavailable issues none)) := by
  subst hissues
  refine createDigest_run (acceptedSignature_run ?_)
  dsimp only
  rw [if_pos hne]
  exact report_run (run_throw.2 ⟨rfl, rfl⟩)

/-! ## A refresh -/

/-- A load that returns, and the verdict on what it returns. -/
theorem loadAndValidate_run {r : Except ServiceExc PreparedMetadata}
    (hload : CanLoad source (.ok snapshot))
    (h : Run service.sectionWorld s (service.admitSnapshot source snapshot) s' r) :
    Run service.sectionWorld s (service.loadAndValidate source) s' r :=
  perform_run (a := ()) (.increment _) trivial
    (run_bind.2 (.inl ⟨snapshot, s, loadCatalog_run hload, h⟩))

/-- A load that raises. -/
theorem loadAndValidate_raises {e : ServiceExc} (hload : CanLoad source (.error e)) :
    Run service.sectionWorld s (service.loadAndValidate source) s (.error e) :=
  perform_run (a := ()) (.increment _) trivial (run_bind.2 (.inr ⟨e, loadCatalog_run hload, rfl⟩))

/-- The end of a refresh is recorded. -/
theorem recordedRefresh_run {r : Except ServiceExc PreparedMetadata}
    (h : Run service.sectionWorld s (service.loadAndValidate source) s' r) :
    Run service.sectionWorld s (service.recordedRefresh source) (s'.attempt (outcomeOf r)) r :=
  run_bindResult.2 ⟨r, s', h,
    perform_run (a := ()) (.refreshEnded (outcomeOf r)) trivial (run_lift.2 ⟨rfl, rfl⟩)⟩

/-- A refresh that succeeds. -/
theorem refresh_run (cached : Option (Nat × CacheEntry)) {value : PreparedMetadata}
    (h : Run service.sectionWorld s (service.loadAndValidate source) s' (.ok value)) :
    Run service.sectionWorld s (service.refresh source cached)
      (s'.attempt (.admitted value)) (.ok (value, false)) :=
  run_tryCatch.2 (.inl ⟨(value, false),
    run_bind.2 (.inl ⟨value, _, recordedRefresh_run h, run_pure.2 ⟨rfl, rfl⟩⟩), rfl⟩)

/-- A refresh that raises, and its handlers. -/
theorem refresh_raises {cached : Option (Nat × CacheEntry)} {e : ServiceExc} {s'' : SourceState}
    {r : Except ServiceExc (PreparedMetadata × Bool)}
    (h : Run service.sectionWorld s (service.loadAndValidate source) s' (.error e))
    (hhandled : Run service.sectionWorld (s'.attempt (outcomeOf (.error e)))
      (service.refreshRaised cached e) s'' r) :
    Run service.sectionWorld s (service.refresh source cached) s'' r :=
  run_tryCatch.2 (.inr ⟨e, _, run_bind.2 (.inr ⟨e, recordedRefresh_run h, rfl⟩), hhandled⟩)

/-! ## Sections -/

/-- A history of a section that starts and ends so. -/
def SectionHistory (service : MetadataService) (source : SourceProfile) (s s' : SourceState)
    (result : Except ServiceExc (PreparedMetadata × Bool)) : Type :=
  { history : List (Exchange SectionRet ServiceExc) //
    (service.lockedSection source).Makes history result ∧
      service.sectionWorld.Allows s history s' }

/-- The record of a task that has made it. -/
def SectionHistory.record {ι : Type} {result : Except ServiceExc (PreparedMetadata × Bool)}
    (h : SectionHistory service source s s' result) (task : ι) : SectionRecord ι :=
  ⟨task, s, h.1, result, s'⟩

theorem SectionHistory.sound {ι : Type} {result : Except ServiceExc (PreparedMetadata × Bool)}
    (h : SectionHistory service source s s' result) (task : ι) :
    (h.record task).Sound service source :=
  ⟨h.2.1, h.2.2⟩

/-- Every run of the section has one. -/
theorem sectionHistory_of_run {result : Except ServiceExc (PreparedMetadata × Bool)}
    (h : Run service.sectionWorld s (service.lockedSection source) s' result) :
    Nonempty (SectionHistory service source s s' result) :=
  (run_iff_history.1 h).elim fun history hhistory => ⟨⟨history, hhistory⟩⟩

section
variable {n : Nat} {entry : CacheEntry} {now : Int}

/-- A section with a cached snapshot that has not expired. -/
theorem lockedSection_fresh (hcache : s.cache = some (n, entry)) (hnow : s.Ticks now)
    (hfresh : now < entry.expiresAt) :
    Run service.sectionWorld s (service.lockedSection source) (s.report s.cache now .healthy)
      (.ok (entry.value, false)) := by
  refine cacheGet_run (now_run hnow ?_)
  rw [hcache]
  dsimp only
  rw [if_pos hfresh]
  exact report_run (run_pure.2 ⟨rfl, rfl⟩)

/-- A section with one that has expired and is backed off. -/
theorem lockedSection_backOff (hcache : s.cache = some (n, entry)) (hnow : s.Ticks now)
    (hexpired : entry.expiresAt ≤ now) (hwait : now < entry.nextRefreshAt)
    (hage : now - entry.loadedAt ≤ service.maxStaleMs) :
    Run service.sectionWorld s (service.lockedSection source) (s.report s.cache now .stale)
      (.ok (entry.value, true)) := by
  refine cacheGet_run (now_run hnow ?_)
  rw [hcache]
  dsimp only
  rw [if_neg (not_lt.2 hexpired), if_pos hwait, backOff, if_pos hage]
  exact report_run (run_pure.2 ⟨rfl, rfl⟩)

/-- A section whose refresh is due. -/
theorem lockedSection_refresh {r : Except ServiceExc (PreparedMetadata × Bool)} (hnow : s.Ticks now)
    (hdue : Due s.cache now)
    (h : Run service.sectionWorld { s with now := some now }
      (service.refresh source s.cache) s' r) :
    Run service.sectionWorld s (service.lockedSection source) s' r := by
  refine cacheGet_run (now_run hnow ?_)
  cases hcache : s.cache with
  | none =>
    rw [hcache] at h
    exact h
  | some cached =>
    obtain ⟨n, entry⟩ := cached
    obtain ⟨hexpires, hnext⟩ := hdue (n, entry) hcache
    rw [hcache] at h
    dsimp only
    rw [if_neg (not_lt.2 hexpires), if_neg (not_lt.2 hnext)]
    exact h

/-- A section that admits what it loads. -/
theorem lockedSection_admits {loadedAt : Int} (hnow : s.Ticks now) (hdue : Due s.cache now)
    (hloaded : now ≤ loadedAt) (hload : CanLoad source (.ok snapshot))
    (hadmissible : service.Admissible source s.signatures snapshot) :
    Run service.sectionWorld s (service.lockedSection source)
      (service.admitted source s snapshot loadedAt)
      (.ok (service.prepare source snapshot, false)) := by
  have hadmits : Run service.sectionWorld { s with now := some now }
      (service.admitSnapshot source snapshot) _ _ :=
    admitSnapshot_run hadmissible (ticks_of_now rfl hloaded)
  have hrefresh := refresh_run s.cache (loadAndValidate_run hload hadmits)
  exact lockedSection_refresh hnow hdue hrefresh

/-- A section that rejects what it loads. -/
theorem lockedSection_rejects {issues : List String} (hnow : s.Ticks now) (hdue : Due s.cache now)
    (hload : CanLoad source (.ok snapshot))
    (hissues : validateSnapshot source snapshot ++
      structureIssues (s.signatures source.viewContractVersion)
        (digest service.sha256 (structureText snapshot)) = issues) (hne : issues ≠ []) :
    Run service.sectionWorld s (service.lockedSection source)
      ({ s.attempt .rejected with hashed := s.hashed ++ [structureText snapshot] }.report none now
        .unavailable)
      (.error (.metadataUnavailable issues none)) := by
  refine lockedSection_refresh hnow hdue
    (refresh_raises (loadAndValidate_run hload (admitSnapshot_rejects hissues hne)) ?_)
  exact perform_run (a := ()) .cachePop trivial (report_run (run_throw.2 ⟨rfl, rfl⟩))

/-- A section whose load is cancelled. -/
theorem lockedSection_cancelled {e : ServiceExc} (hnow : s.Ticks now) (hdue : Due s.cache now)
    (hload : CanLoad source (.error e)) (hcancelled : e.isCancelled = true) :
    Run service.sectionWorld s (service.lockedSection source)
      { s.attempt .cancelled with now := some now } (.error e) := by
  have houtcome : outcomeOf (.error e) = .cancelled := if_pos hcancelled
  refine lockedSection_refresh hnow hdue (refresh_raises (loadAndValidate_raises hload) ?_)
  rw [refreshRaised, if_pos hcancelled, houtcome]
  exact run_throw.2 ⟨rfl, rfl⟩

variable {failure : LoadFailure} {failedAt : Int}

/-- The failure is neither a cancellation nor a rejection. -/
structure IsTransient (failure : LoadFailure) : Prop where
  notCancelled : (ServiceExc.load failure).isCancelled = false
  notRejected : (ServiceExc.load failure).policyRejection = none

/-- The handlers, after such a failure. -/
theorem refreshRaised_transient {cached : Option (Nat × CacheEntry)} (h : IsTransient failure) :
    service.refreshRaised cached (.load failure) = service.serveStale cached (.load failure) := by
  have hno : ¬ (ServiceExc.load failure).isMetadataUnavailable = true := Bool.false_ne_true
  unfold refreshRaised
  rw [if_neg (Bool.eq_false_iff.1 h.notCancelled), if_neg hno]
  rw [h.notRejected]

theorem outcomeOf_transient (h : IsTransient failure) :
    outcomeOf (.error (.load failure)) = .transient := by
  have hno : ¬ (ServiceExc.load failure).isMetadataUnavailable = true := Bool.false_ne_true
  rw [outcomeOf, if_neg (Bool.eq_false_iff.1 h.notCancelled), if_neg hno, h.notRejected]
  rfl

/-- A section whose load fails, while the cached snapshot is not too old. -/
theorem lockedSection_stale (hcache : s.cache = some (n, entry)) (hnow : s.Ticks now)
    (hdue : Due s.cache now) (hload : CanLoad source (.error (.load failure)))
    (hfailure : IsTransient failure) (hfailed : now ≤ failedAt)
    (hage : failedAt - entry.loadedAt ≤ service.maxStaleMs) :
    Run service.sectionWorld s (service.lockedSection source)
      ((s.attempt .transient).report
        (some (n, { entry with nextRefreshAt := failedAt + service.refreshRetryMs }))
          failedAt .stale)
      (.ok (entry.value, true)) := by
  refine lockedSection_refresh hnow hdue (refresh_raises (loadAndValidate_raises hload) ?_)
  rw [refreshRaised_transient hfailure, outcomeOf_transient hfailure, hcache]
  refine now_run (ticks_of_now rfl hfailed) ?_
  dsimp only
  rw [if_pos hage]
  refine perform_run (a := ()) (.setNextRefreshAt n _) trivial (report_run (run_pure.2 ⟨?_, rfl⟩))
  have hset : setNextRefreshAt (some (n, entry)) n (failedAt + service.refreshRetryMs) =
      some (n, { entry with nextRefreshAt := failedAt + service.refreshRetryMs }) :=
    congrArg some (if_pos rfl)
  rw [SourceState.report, ← hset, ← hcache]
  rfl

/-- A section whose load fails, while nothing is cached. -/
theorem lockedSection_unavailable (hcache : s.cache = none) (hnow : s.Ticks now)
    (hload : CanLoad source (.error (.load failure))) (hfailure : IsTransient failure)
    (hfailed : now ≤ failedAt) :
    Run service.sectionWorld s (service.lockedSection source)
      ((s.attempt .transient).report none failedAt .unavailable)
      (.error (.metadataUnavailable [] (some failure))) := by
  have hdue : Due s.cache now := by
    rw [hcache]
    exact nofun
  refine lockedSection_refresh hnow hdue (refresh_raises (loadAndValidate_raises hload) ?_)
  rw [refreshRaised_transient hfailure, outcomeOf_transient hfailure, hcache]
  refine now_run (ticks_of_now rfl hfailed) (report_run (run_throw.2 ⟨?_, rfl⟩))
  rw [SourceState.report, ← hcache]
  rfl

end

end MetadataService

end QueryMan
