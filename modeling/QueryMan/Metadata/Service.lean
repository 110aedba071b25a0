import QueryMan.Metadata.Load
import QueryMan.Runtime.Operations
import QueryMan.SourceCatalog.Registry

/-!
# The metadata service

`MetadataService` of `metadata/service.py`: the section of `_get_prepared` that runs under the lock
of its source, with `_load_and_validate` and the load of the catalog inside it. The state of a
source is what the section reads and writes, with a record of its refreshes (`SourceState`).
-/

namespace QueryMan

open Coro

/-! ## State -/

/-- `_CacheEntry`. -/
structure CacheEntry where
  value : PreparedMetadata
  loadedAt : Int
  expiresAt : Int
  nextRefreshAt : Int
  deriving DecidableEq, Repr

/-- How a refresh ended: with an admitted snapshot, with a policy rejection, with another exception,
or cancelled. -/
inductive RefreshOutcome where
  | admitted (value : PreparedMetadata)
  | rejected
  | transient
  | cancelled
  deriving DecidableEq, Repr

/-- The refresh was successful. -/
def RefreshOutcome.isAdmitted : RefreshOutcome → Bool
  | .admitted _ => true
  | _ => false

/-- What the service keeps for a source, and what has become of its refreshes. An entry of the cache
has a number, since a section may keep it and change it. -/
structure SourceState where
  /-- the entry of `_cache` -/
  cache : Option (Nat × CacheEntry)
  /-- how many entries there have been -/
  entries : Nat
  /-- `_view_structure_signatures`, by the version of the view contract -/
  signatures : Nat → Option String
  /-- the last health word -/
  health : Option Health
  /-- the last reading of the clock -/
  now : Option Int
  /-- the admitted snapshots with their load times -/
  loads : List (PreparedMetadata × Int)
  /-- how the refreshes ended -/
  attempts : List RefreshOutcome
  /-- the texts that were hashed -/
  hashed : List String

/-- The state of a source that nobody has asked for yet. -/
def SourceState.initial : SourceState where
  cache := none
  entries := 0
  signatures := fun _ => none
  health := none
  now := none
  loads := []
  attempts := []
  hashed := []

/-- `MetadataService`; `sha256` is the hexadecimal digest of the UTF-8 bytes of a text. -/
structure MetadataService where
  registry : SourceRegistry
  cacheTtlMs : Nat
  maxStaleMs : Nat
  refreshRetryMs : Nat
  sha256 : String → String

/-! ## Operations of a section -/

namespace MetadataService

/-- The operations of a section. -/
inductive SectionOp where
  /-- an operation of `self._catalog.load` -/
  | catalog (o : PostgresCatalog.Op)
  /-- `self._cache.get(source_id)` -/
  | cacheGet
  /-- `self._now()` -/
  | now
  /-- `operations.set_source_health` -/
  | setSourceHealth (status : Health)
  /-- `operations.increment` -/
  | increment (name : String)
  /-- `self._cache.pop(source_id, None)` -/
  | cachePop
  /-- `cached.next_refresh_at = …` -/
  | setNextRefreshAt (entry : Nat) (time : Int)
  /-- the reads and writes of `self._view_structure_signatures` -/
  | acceptedSignature (version : Nat)
  | setSignature (version : Nat) (signature : String)
  /-- `self._cache[source_id] = …` -/
  | storeEntry (entry : CacheEntry)
  /-- `hashlib.sha256(text.encode()).hexdigest()` -/
  | sha256 (text : String)
  /-- the end of a refresh, for the record -/
  | refreshEnded (outcome : RefreshOutcome)
  deriving DecidableEq

/-- What an operation answers with. -/
def SectionRet : SectionOp → Type
  | .catalog o => PostgresCatalog.Ret o
  | .cacheGet => Option (Nat × CacheEntry)
  | .now => Int
  | .acceptedSignature _ => Option String
  | .sha256 _ => String
  | _ => Unit

/-- The programs of a section. -/
abbrev Section (α : Type) : Type := Prog SectionRet ServiceExc α

/-- Call an operation. -/
def perform (o : SectionOp) : Section (SectionRet o) :=
  Prog.perform o

/-! ## The functions of the source -/

/-- `operations.increment` and `operations.set_source_health`, one after the other. -/
def report (counters : List String) (status : Health) : Section Unit :=
  match counters with
  | [] => perform (.setSourceHealth status)
  | name :: counters => do
    perform (.increment name)
    report counters status

/-- `create_view_structure_signature` and `create_metadata_revision`: the digest of a text. -/
def createDigest (text : String) : Section String := do
  let hash : String ← perform (.sha256 text)
  pure ("sha256:" ++ hash)

variable (service : MetadataService) (source : SourceProfile)

/-- `_cache_value`. -/
def cacheValue (value : PreparedMetadata) : Section Unit := do
  let loadedAt : Int ← perform .now
  perform (.storeEntry
    { value := value
      loadedAt := loadedAt
      expiresAt := loadedAt + service.cacheTtlMs
      nextRefreshAt := loadedAt + service.cacheTtlMs })

/-- The issue that `_load_and_validate` adds. -/
def structureIssues (acceptedSignature : Option String) (structureSignature : String) :
    List String :=
  if acceptedSignature ≠ none ∧ acceptedSignature ≠ some structureSignature then
    ["View structure changed without a view contract version change."]
  else []

/-- What `_load_and_validate` does with a snapshot without issues. -/
def publish (snapshot : CatalogSnapshot) (structureSignature : String) :
    Section PreparedMetadata := do
  let revision : String ← createDigest (revisionText source snapshot)
  let candidate : PreparedMetadata := ⟨snapshot, revision⟩
  let _response : ContextResponse ← .lift (contextResponse service.sha256 source candidate false)
  perform (.setSignature source.viewContractVersion structureSignature)
  service.cacheValue candidate
  report ["metadata_refresh_succeeded"] .healthy
  pure candidate

/-- What `_load_and_validate` does with the snapshot that it has loaded. -/
def admitSnapshot (snapshot : CatalogSnapshot) : Section PreparedMetadata := do
  let structureSignature : String ← createDigest (structureText snapshot)
  let acceptedSignature : Option String ← perform (.acceptedSignature source.viewContractVersion)
  let issues :=
    validateSnapshot source snapshot ++ structureIssues acceptedSignature structureSignature
  if issues ≠ [] then do
    report ["metadata_validation_rejected"] .unavailable
    throw (.metadataUnavailable issues none)
  else service.publish source snapshot structureSignature

/-- `self._catalog.load`. -/
def loadCatalog : Section CatalogSnapshot :=
  (PostgresCatalog.load source).interpret fun o => perform (.catalog o)

/-- `_load_and_validate`. -/
def loadAndValidate : Section PreparedMetadata := do
  perform (.increment "metadata_refresh_started")
  let snapshot : CatalogSnapshot ← loadCatalog source
  service.admitSnapshot source snapshot

/-- How a refresh ended. -/
def outcomeOf : Except ServiceExc PreparedMetadata → RefreshOutcome
  | .ok value => .admitted value
  | .error e =>
    if e.isCancelled then .cancelled
    else if e.isMetadataUnavailable then .rejected
    else if e.policyRejection.isSome then .rejected
    else .transient

/-- `_load_and_validate`, with the record of its end. -/
def recordedRefresh : Section PreparedMetadata :=
  (service.loadAndValidate source).finallyWith fun r => perform (.refreshEnded (outcomeOf r))

/-- `except Exception` of `_get_prepared`. -/
def serveStale (cached : Option (Nat × CacheEntry)) (e : ServiceExc) :
    Section (PreparedMetadata × Bool) := do
  let failedAt : Int ← perform .now
  match cached with
  | some (n, entry) =>
    if failedAt - entry.loadedAt ≤ service.maxStaleMs then do
      perform (.setNextRefreshAt n (failedAt + service.refreshRetryMs))
      report ["metadata_refresh_failed", "metadata_stale_served"] .stale
      pure (entry.value, true)
    else do
      report ["metadata_refresh_failed"] .unavailable
      throw (.metadataUnavailable [] e.failure)
  | none => do
    report ["metadata_refresh_failed"] .unavailable
    throw (.metadataUnavailable [] e.failure)

/-- The handlers of `_get_prepared`, in their order; a cancellation passes them all. -/
def refreshRaised (cached : Option (Nat × CacheEntry)) (e : ServiceExc) :
    Section (PreparedMetadata × Bool) :=
  if e.isCancelled then throw e
  else if e.isMetadataUnavailable then do
    perform .cachePop
    report [] .unavailable
    throw e
  else
    match e.policyRejection with
    | some error => do
      perform .cachePop
      report ["metadata_refresh_failed"] .unavailable
      throw (.metadataUnavailable [] (some error))
    | none => service.serveStale cached e

/-- The `try` statement of `_get_prepared`. -/
def refresh (cached : Option (Nat × CacheEntry)) : Section (PreparedMetadata × Bool) :=
  Prog.tryCatch (service.refreshRaised cached) (do
    let value : PreparedMetadata ← service.recordedRefresh source
    pure (value, false))

/-- What `_get_prepared` does with an expired entry whose next refresh is not due yet. -/
def backOff (entry : CacheEntry) (now : Int) : Section (PreparedMetadata × Bool) :=
  if now - entry.loadedAt ≤ service.maxStaleMs then do
    report ["metadata_stale_served"] .stale
    pure (entry.value, true)
  else do
    report [] .unavailable
    throw (.metadataUnavailable [] none)

/-- `_get_prepared`, under the lock of the source. -/
def lockedSection : Section (PreparedMetadata × Bool) := do
  let cached : Option (Nat × CacheEntry) ← perform .cacheGet
  let now : Int ← perform .now
  match cached with
  | some (n, entry) =>
    if entry.expiresAt > now then do
      report [] .healthy
      pure (entry.value, false)
    else if entry.nextRefreshAt > now then service.backOff entry now
    else service.refresh source (some (n, entry))
  | none => service.refresh source none

/-! ## The world of a section -/

/-- `cached.next_refresh_at = …`: the cache sees it if the entry is still in it. -/
def setNextRefreshAt (cache : Option (Nat × CacheEntry)) (n : Nat) (time : Int) :
    Option (Nat × CacheEntry) :=
  cache.map fun cached =>
    if cached.1 = n then (n, { cached.2 with nextRefreshAt := time }) else cached

/-- The world of a section: its own operations answer from the state, the clock does not go back,
and the database answers as it likes. -/
def sectionWorld : World SourceState SectionRet ServiceExc where
  allowed := fun s o r =>
    match o, r with
    | .catalog o, r => PostgresCatalog.world.allowed () o r
    | _, .error _ => False
    | .cacheGet, .ok cached => cached = s.cache
    | .now, .ok (now : Int) => ∀ before ∈ s.now, before ≤ now
    | .acceptedSignature version, .ok signature => signature = s.signatures version
    | .sha256 text, .ok hash => hash = service.sha256 text
    | _, .ok _ => True
  next := fun s o r =>
    match o, r with
    | .now, .ok (now : Int) => { s with now := some now }
    | .setSourceHealth status, _ => { s with health := some status }
    | .cachePop, _ => { s with cache := none }
    | .setNextRefreshAt n time, _ => { s with cache := setNextRefreshAt s.cache n time }
    | .setSignature version signature, _ =>
      { s with signatures := Function.update s.signatures version (some signature) }
    | .storeEntry entry, _ =>
      { s with
        cache := some (s.entries, entry)
        entries := s.entries + 1
        loads := s.loads ++ [(entry.value, entry.loadedAt)] }
    | .sha256 text, _ => { s with hashed := s.hashed ++ [text] }
    | .refreshEnded outcome, _ => { s with attempts := s.attempts ++ [outcome] }
    | _, _ => s

end MetadataService

end QueryMan
