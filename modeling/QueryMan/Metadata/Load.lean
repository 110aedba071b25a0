import QueryMan.Coro.Sequential
import QueryMan.Metadata.Response
import QueryMan.SourceCatalog.ReaderPolicy

/-!
# Loading the catalog

`PostgresCatalog.load` of `metadata/catalog.py` with all it calls, as a program over its awaits,
each of which may return, raise or be cancelled. The world of a load has no state: what the database
answers is free.
-/

namespace QueryMan.PostgresCatalog

open Coro Python

/-! ## Operations -/

/-- The statements of a load on its leased connection. -/
inductive Statement where
  /-- `BEGIN TRANSACTION ISOLATION LEVEL REPEATABLE READ READ ONLY` -/
  | beginTransaction
  /-- `READER_SESSION_TIMEZONE_SETTER` -/
  | timeZone
  /-- `_CATALOG_SESSION_SETTINGS` with its parameters -/
  | sessionSettings (values : List String)
  /-- `_READER_SESSION_POLICY_QUERY` -/
  | sessionPolicy
  /-- `CATALOG_QUERY` with its parameters -/
  | catalogQuery (schemas kinds : List String) (limit : Nat)
  /-- `COMMIT` -/
  | commit
  deriving DecidableEq, Repr

/-- The operations of the environment. -/
inductive Op where
  /-- `self._pools.get(source_id) is not None` -/
  | hasPool
  /-- `async with self._pool_lock` -/
  | lockPool
  /-- `AsyncConnectionPool(...)` and `pool.open()` -/
  | openPool
  | storePool
  /-- the two ends of `pool.connection`; at its end, whether the block raised -/
  | leaseConnection
  | returnConnection (raised : Bool)
  /-- the reads of `require_reader_connection_policy` -/
  | connectionInfo
  /-- `connection.close()` -/
  | closeConnection
  | send (statement : Statement)
  /-- `cursor.fetchone()` of the session policy query -/
  | fetchPolicyRow
  /-- `cursor.fetchall()` of the catalog query -/
  | fetchRows
  /-- `connection.rollback()` -/
  | rollback
  deriving DecidableEq, Repr

/-- What an operation answers with. -/
def Ret : Op → Type
  | .hasPool => Bool
  | .connectionInfo => ConnectionInfo
  | .fetchPolicyRow => Option SessionPolicyRow
  | .fetchRows => List CatalogRow
  | _ => Unit

/-- The programs of a load. -/
abbrev Load (α : Type) : Type := Prog Ret ServiceExc α

/-- The exceptions that an operation can raise. The end of a lease only logs what goes wrong after
the block has raised. -/
def Op.canRaise : Op → Exc → Bool
  | .hasPool, _ | .storePool, _ => false
  | .lockPool, e | .returnConnection true, e => e.isCancelled
  | .connectionInfo, e => !e.isCancelled
  | _, _ => true

/-- The operations that await. -/
def Op.suspends : Op → Bool
  | .hasPool | .storePool | .connectionInfo => false
  | _ => true

/-- The world of a load. -/
def world : World Unit Ret ServiceExc where
  allowed := fun _ o r =>
    match r with
    | .ok _ => True
    | .error e => ∃ x, e = .ofExc x ∧ o.canRaise x = true
  next := fun _ _ _ => ()

/-- Call an operation. -/
def perform (o : Op) : Load (Ret o) :=
  Prog.perform o

/-- Send a statement. -/
def send (statement : Statement) : Load Unit :=
  perform (.send statement)

/-! ## The functions of the source -/

/-- `_require_catalog_connection_policy`. -/
def requireCatalogConnectionPolicy (source : SourceProfile) : Load Unit :=
  Prog.tryCatch
    (fun e =>
      if e = .ofExc .readerSessionPolicyError then do
        (perform .closeConnection).tryCatch fun e' => if e'.isCancelled then throw e' else pure ()
        throw e
      else throw e)
    (do
      let info : ConnectionInfo ← perform .connectionInfo
      .lift ((requireReaderConnectionPolicy info source.sslmode).mapError .ofExc))

/-- `require_reader_session_policy`. -/
def requireReaderSessionPolicy : Load Unit := do
  send .sessionPolicy
  let policy : Option SessionPolicyRow ← perform .fetchPolicyRow
  if sessionPolicyHolds policy then pure () else throw (.ofExc .readerSessionPolicyError)

/-- The parameters of `_CATALOG_SESSION_SETTINGS`. -/
def sessionSettingValues (source : SourceProfile) : List String :=
  [toString source.budget.metadataStatementTimeoutMs ++ "ms",
    toString source.budget.lockTimeoutMs ++ "ms"] ++ readerSessionBudgetValues source

/-- `_begin_catalog_transaction`. -/
def beginCatalogTransaction (source : SourceProfile) : Load Unit := do
  send .beginTransaction
  Prog.tryCatch
    (fun e => if e.isCancelled then throw e else throw (.ofExc .readerSessionPolicyError))
    (do
      send .timeZone
      send (.sessionSettings (sessionSettingValues source)))
  requireReaderSessionPolicy

/-- `raise _CatalogValidationError(message)`, if the condition holds. -/
def rejectIf (c : Prop) [Decidable c] (message : String) : Except ServiceExc Unit :=
  raiseIf c (ServiceExc.load (.catalogValidation ⟨message⟩))

/-- `_require_supported_catalog_types`. -/
def requireSupportedCatalogTypes (rows : List CatalogRow) : Except ServiceExc Unit :=
  rejectIf (∃ row ∈ rows, row.typeKind = some "d") "Catalog contains an unsupported domain column"

/-- The block inside the inner `try` of `load`. -/
def readRows (source : SourceProfile) : Load (List CatalogRow) := do
  beginCatalogTransaction source
  send (.catalogQuery (source.allowedSchemas.map Identifier.text) ["v"]
    (source.budget.maxMetadataColumns + 1))
  let rows : List CatalogRow ← perform .fetchRows
  .lift (rejectIf (rows.length > source.budget.maxMetadataColumns) "Catalog column limit exceeded")
  .lift (requireSupportedCatalogTypes rows)
  send .commit
  pure rows

/-- `except Exception as error` of `load`: an exception of the rollback is only the context. -/
def rollbackAndRaise {α : Type} (e : ServiceExc) : Load α :=
  if e.isCancelled then throw e
  else do
    (perform .rollback).tryCatch fun e' => if e'.isCancelled then throw e' else throw e
    throw e

/-- `_get_pool`. -/
def getPool : Load Unit := do
  let existing : Bool ← perform .hasPool
  if existing then pure ()
  else do
    perform .lockPool
    let existing : Bool ← perform .hasPool
    if existing then pure ()
    else do
      perform .openPool
      perform .storePool

/-- The end of `async with pool.connection()`. -/
def leaveConnection (raised : Option ServiceExc) : Load Unit :=
  perform (.returnConnection raised.isSome)

/-- The checks of `load` after the transaction. -/
def toSnapshot (source : SourceProfile) (rows : List CatalogRow) :
    Except ServiceExc CatalogSnapshot := do
  let relations ← (rowsToRelations rows).mapError fun error => .load (.catalogValidation error)
  rejectIf (relations.length > source.budget.maxMetadataRelations) "Catalog relation limit exceeded"
  rejectIf (∃ relation ∈ relations, relation.columns.length > source.budget.maxColumnsPerRelation)
    "Catalog per-relation column limit exceeded"
  pure ⟨relations⟩

/-- `load`. -/
def load (source : SourceProfile) : Load CatalogSnapshot := do
  getPool
  perform .leaseConnection
  let rows ← Prog.exitWith
    (do
      requireCatalogConnectionPolicy source
      (readRows source).tryCatch rollbackAndRaise)
    leaveConnection
  .lift (toSnapshot source rows)

/-! ## What a load gives -/

/-- The relations of a snapshot are those of the rows of a catalog. -/
def Built (snapshot : CatalogSnapshot) : Prop :=
  ∃ rows, rowsToRelations rows = .ok snapshot.relations

theorem toSnapshot_built {source : SourceProfile} {rows : List CatalogRow}
    {snapshot : CatalogSnapshot}
    (h : toSnapshot source rows = .ok snapshot) : Built snapshot := by
  obtain ⟨relations, hrelations, h⟩ := bind_eq_ok.1 h
  obtain ⟨-, -, h⟩ := bind_eq_ok.1 h
  obtain ⟨-, -, h⟩ := bind_eq_ok.1 h
  cases h
  exact ⟨rows, mapError_eq_ok.1 hrelations⟩

/-- Every snapshot of a load is built of rows. -/
theorem load_built {source : SourceProfile} {s s' : Unit} {snapshot : CatalogSnapshot}
    (h : Run world s (load source) s' (.ok snapshot)) : Built snapshot := by
  obtain ⟨_, _, -, hleased⟩ := run_bind_ok.1 h
  obtain ⟨_, _, -, hread⟩ := run_bind_ok.1 hleased
  obtain ⟨rows, _, -, hchecks⟩ := run_bind_ok.1 hread
  exact toSnapshot_built (run_lift.1 hchecks).2.symm

/-- The qualified name of every relation of a snapshot is its dotted name. -/
theorem Built.qualifiedName {snapshot : CatalogSnapshot} (h : Built snapshot) :
    ∀ relation ∈ snapshot.relations,
      relation.qualifiedName = relation.schema ++ "." ++ relation.name := by
  obtain ⟨rows, hrows⟩ := h
  intro relation hmem
  obtain ⟨row, -, hschema, hname, hqualified⟩ := rowsToRelations_from hrows relation hmem
  rw [hqualified, hschema, hname, CatalogRow.qualifiedName]

/-! ## What a load raises -/

/-- The exception is one of an await, or rejects the catalog. -/
def IsLoadFailure (e : ServiceExc) : Prop :=
  ∃ failure, e = .load failure

theorem perform_raises (o : Op) : OnlyRaises world IsLoadFailure (perform o) :=
  .perform fun _ _ ⟨x, heq, _⟩ => ⟨.exc x, heq⟩

theorem rejectIf_eq_error {c : Prop} [Decidable c] {message : String} {e : ServiceExc}
    (h : rejectIf c message = .error e) : IsLoadFailure e := by
  rw [rejectIf, raiseIf] at h
  split at h
  · cases h
    exact ⟨_, rfl⟩
  · cases h

theorem requireSupportedCatalogTypes_eq_error {rows : List CatalogRow} {e : ServiceExc}
    (h : requireSupportedCatalogTypes rows = .error e) : IsLoadFailure e :=
  rejectIf_eq_error h

theorem requireCatalogConnectionPolicy_raises (source : SourceProfile) :
    OnlyRaises world IsLoadFailure (requireCatalogConnectionPolicy source) := by
  have hchecked : ∀ info : ConnectionInfo, OnlyRaises world IsLoadFailure
      (.lift ((requireReaderConnectionPolicy info source.sslmode).mapError .ofExc)) := by
    intro info
    refine .lift fun e h => ?_
    cases hinfo : requireReaderConnectionPolicy info source.sslmode with
    | ok _ =>
      rw [hinfo] at h
      cases h
    | error e' =>
      rw [hinfo] at h
      cases h
      exact ⟨_, rfl⟩
  refine .tryCatch ((perform_raises _).bind hchecked) fun e he => .ite ?_ (.throw he)
  refine .bind (.tryCatch (perform_raises _) fun e' he' => .ite (.throw he') .pure) fun _ => ?_
  exact .throw he

theorem requireReaderSessionPolicy_raises :
    OnlyRaises world IsLoadFailure requireReaderSessionPolicy :=
  (perform_raises _).bind fun _ => (perform_raises _).bind fun _ => .ite .pure (.throw ⟨_, rfl⟩)

theorem beginCatalogTransaction_raises (source : SourceProfile) :
    OnlyRaises world IsLoadFailure (beginCatalogTransaction source) := by
  refine (perform_raises _).bind fun _ => .bind ?_ fun _ => requireReaderSessionPolicy_raises
  exact .tryCatch ((perform_raises _).bind fun _ => perform_raises _) fun e he =>
    .ite (.throw he) (.throw ⟨_, rfl⟩)

theorem readRows_raises (source : SourceProfile) :
    OnlyRaises world IsLoadFailure (readRows source) := by
  refine (beginCatalogTransaction_raises source).bind fun _ => (perform_raises _).bind fun _ => ?_
  refine (perform_raises _).bind fun rows =>
    .bind (.lift fun _ h => rejectIf_eq_error h) fun _ => ?_
  refine .bind (.lift fun _ h => requireSupportedCatalogTypes_eq_error h) fun _ => ?_
  exact (perform_raises _).bind fun _ => .pure

theorem rollbackAndRaise_raises {α : Type} {e : ServiceExc} (he : IsLoadFailure e) :
    OnlyRaises world IsLoadFailure (rollbackAndRaise e : Load α) := by
  refine .ite (.throw he) (.bind ?_ fun _ => .throw he)
  exact .tryCatch (perform_raises _) fun e' he' => .ite (.throw he') (.throw he)

theorem getPool_raises : OnlyRaises world IsLoadFailure getPool := by
  refine (perform_raises _).bind fun (existing : Bool) => .ite .pure ?_
  refine (perform_raises _).bind fun _ => (perform_raises _).bind fun (existing : Bool) =>
    .ite .pure ?_
  exact (perform_raises _).bind fun _ => perform_raises _

theorem toSnapshot_eq_error {source : SourceProfile} {rows : List CatalogRow} {e : ServiceExc}
    (h : toSnapshot source rows = .error e) : IsLoadFailure e := by
  obtain hrows | ⟨relations, -, hchecks⟩ := bind_eq_error.1 h
  · cases hrelations : rowsToRelations rows with
    | ok relations =>
      rw [hrelations] at hrows
      cases hrows
    | error error =>
      rw [hrelations] at hrows
      cases hrows
      exact ⟨_, rfl⟩
  · obtain hlimit | ⟨_, -, hlimit⟩ := bind_eq_error.1 hchecks
    · exact rejectIf_eq_error hlimit
    · obtain hcolumns | ⟨_, -, hpure⟩ := bind_eq_error.1 hlimit
      · exact rejectIf_eq_error hcolumns
      · cases hpure

/-- **A load raises an exception of an await, or rejects the catalog.** -/
theorem load_raises (source : SourceProfile) : OnlyRaises world IsLoadFailure (load source) := by
  refine getPool_raises.bind fun _ => (perform_raises _).bind fun _ => .bind ?_ fun _ =>
    .lift fun _ h => toSnapshot_eq_error h
  refine .exitWith ?_ fun _ => perform_raises _
  exact (requireCatalogConnectionPolicy_raises source).bind fun _ =>
    .tryCatch (readRows_raises source) fun _ he => rollbackAndRaise_raises he

/-! ## Rejections -/

/-- What the rollback keeps: only a cancellation takes the place of the exception. -/
theorem rollbackAndRaise_keeps {α : Type} {e : ServiceExc} {s s' : Unit} {r : Except ServiceExc α}
    (h : Run world s (rollbackAndRaise e) s' r) :
    r = .error e ∨ ∃ e', r = .error e' ∧ e'.isCancelled = true := by
  rw [rollbackAndRaise] at h
  split at h
  · exact .inl (run_throw.1 h).2
  · obtain ⟨_, _, -, hrethrow⟩ | ⟨e', hrollback, rfl⟩ := run_bind.1 h
    · exact .inl (run_throw.1 hrethrow).2
    · obtain ⟨_, -, heq⟩ | ⟨e'', _, -, hhandler⟩ := run_tryCatch.1 hrollback
      · cases heq
      · split at hhandler
        · next hcancelled =>
          obtain ⟨-, heq⟩ := run_throw.1 hhandler
          cases heq
          exact .inr ⟨e', rfl, hcancelled⟩
        · obtain ⟨-, heq⟩ := run_throw.1 hhandler
          cases heq
          exact .inl rfl

/-- The end of a lease after an exception: only a cancellation takes its place. -/
theorem leaveConnection_keeps {e e' : ServiceExc} {s s' : Unit}
    (h : Run world s (leaveConnection (some e)) s' (.error e')) : e'.isCancelled = true := by
  obtain ⟨⟨x, rfl, hcancelled⟩, -⟩ := run_perform.1 h
  exact hcancelled

/-- **An exception in the transaction keeps its class** through the rollback, whether that fails or
not, and through the end of the lease: only a cancellation takes its place. -/
theorem transaction_keeps {e : ServiceExc} {s s' : Unit} {r : Except ServiceExc (List CatalogRow)}
    (h : Run world s ((rollbackAndRaise e).exitWith leaveConnection) s' r) :
    r = .error e ∨ ∃ e', r = .error e' ∧ e'.isCancelled = true := by
  obtain ⟨rows, s₁, hrollback, -⟩ | ⟨e', s₁, hrollback, hexit⟩ := run_exitWith.1 h
  · obtain heq | ⟨_, heq, -⟩ := rollbackAndRaise_keeps hrollback <;> cases heq
  · have hkept : e' = e ∨ e'.isCancelled = true := by
      obtain heq | ⟨_, heq, hcancelled⟩ := rollbackAndRaise_keeps hrollback
      · cases heq
        exact .inl rfl
      · cases heq
        exact .inr hcancelled
    obtain ⟨-, rfl⟩ | ⟨e'', hleave, rfl⟩ := hexit
    · exact hkept.imp (fun heq => by rw [heq]) fun hcancelled => ⟨e', rfl, hcancelled⟩
    · exact .inr ⟨e'', rfl, leaveConnection_keeps hleave⟩

end QueryMan.PostgresCatalog
