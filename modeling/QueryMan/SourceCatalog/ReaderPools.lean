import Mathlib.Algebra.BigOperators.Group.List.Basic
import Mathlib.Algebra.Order.BigOperators.Group.List
import QueryMan.Coro.KeyedCache
import QueryMan.SourceCatalog.Load
import QueryMan.SourceCatalog.ReaderPolicy

/-!
# Connection pools

`reader_connection_kwargs` of `source_catalog/reader_policy.py`, and `_get_pool` of the query
executor and of the catalog, which create a pool for each source on demand (`Coro.KeyedCache`). Over
any interleaving each of the two opens one pool for a source, with the connection and the size of
that source (`sourcePools`).
-/

namespace QueryMan

open Coro

/-! ## The pools of a source -/

/-- A value of the connection parameters. -/
inductive ConnectionValue where
  | str (s : String)
  | int (i : Nat)
  | bool (b : Bool)
  deriving DecidableEq, Repr

/-- The words of `SSLMode`. -/
def SSLMode.word : SSLMode → String
  | .disable => "disable"
  | .require => "require"
  | .verifyFull => "verify-full"

/-- The parameters of an authentication. -/
def ResolvedAuthentication.parameters : ResolvedAuthentication → List (String × ConnectionValue)
  | .password text => [("password", .str text)]
  | .clientCertificate root certificate key =>
    [("sslrootcert", .str root.text), ("sslcert", .str certificate.text), ("sslkey", .str key.text)]

/-- `reader_connection_kwargs`. -/
def readerConnectionKwargs (source : ResolvedSource) (applicationName : String) :
    List (String × ConnectionValue) :=
  let connection := source.connection
  [("host", .str connection.host), ("port", .int connection.port),
    ("dbname", .str connection.database.text), ("user", .str connection.user.text),
    ("sslmode", .str connection.sslmode.word), ("gssencmode", .str "disable"),
    ("application_name", .str applicationName), ("connect_timeout", .int 2),
    ("client_encoding", .str readerClientEncoding)] ++ connection.authentication.parameters

/-- The arguments of `AsyncConnectionPool`, without the `row_factory` that all its connections
share. -/
structure PoolSettings where
  kwargs : List (String × ConnectionValue)
  minSize : Nat
  maxSize : Nat
  timeoutMs : Nat
  maxIdleSeconds : Nat
  deriving DecidableEq, Repr

/-- The two classes that have pools. -/
inductive PoolOwner where
  | postgresQueryExecutor
  | postgresCatalog
  deriving DecidableEq, Repr

/-- The pool that `_get_pool` creates for a source. -/
def PoolOwner.settings (source : ResolvedSource) : PoolOwner → PoolSettings
  | .postgresQueryExecutor =>
    { kwargs := readerConnectionKwargs source ("query-man-query:" ++ source.profile.sourceId) ++
        [("autocommit", .bool true)]
      minSize := 0
      maxSize := source.profile.budget.maxPoolSize
      timeoutMs := source.profile.budget.queryQueueTimeoutMs
      maxIdleSeconds := 10 }
  | .postgresCatalog =>
    { kwargs := readerConnectionKwargs source ("query-man-meta:" ++ source.profile.sourceId) ++
        [("autocommit", .bool true)]
      minSize := 0
      maxSize := 1
      timeoutMs := 2000
      maxIdleSeconds := 10 }

/-! ## Getting a pool -/

/-- `_get_pool`; to create a pool is to call `AsyncConnectionPool` and to await its `open`. -/
def getPool (source : ResolvedSource) : Prog (@KeyedCache.Ret ResolvedSource) Exc Nat :=
  KeyedCache.get source

/-- The id of a source. -/
def ResolvedSource.id (source : ResolvedSource) : String :=
  source.profile.sourceId

/-- The calls of `_get_pool` of one of the classes, for the sources of a registry. -/
abbrev poolSystem (sources : List ResolvedSource) :
    System (KeyedCache.TaskId String) (KeyedCache.Cache ResolvedSource String)
      (fun _ => @KeyedCache.Ret ResolvedSource) Exc fun _ => Nat :=
  KeyedCache.system ResolvedSource.id (· ∈ sources)

/-- A configuration of the calls. -/
abbrev PoolTasks : Type :=
  KeyedCache.Tasks ResolvedSource String Exc

/-- The pools that were opened. -/
def opened (owner : PoolOwner) (c : PoolTasks) : List PoolSettings :=
  c.shared.created.map fun source => owner.settings source

/-- What holds of the pools of the sources. -/
structure SourcePools (owner : PoolOwner) (sources : List ResolvedSource) (c : PoolTasks) :
    Prop where
  /-- a source has at most one pool -/
  one : (c.shared.created.map (·.id)).Nodup ∧ ∀ source ∈ c.shared.created, source ∈ sources
  /-- a call gets the pool of its source -/
  answered : ∀ n sourceId r, c.turn = some (n, sourceId) →
    c.tasks (n, sourceId) = some (.done (.ok r)) →
      ∃ source ∈ sources, source.id = sourceId ∧ (opened owner c)[r]? = some (owner.settings source)
  /-- no pool is lost, and the lock is held only while a pool is opened -/
  kept : c.turn = none → ∀ r source, c.shared.created[r]? = some source →
    c.shared.stored source.id = some r
  lock : c.turn = none → ∀ i, c.shared.holder = some i →
    ∃ source k, c.tasks i = some (.call (.create source) k)
  /-- the connections are at most those that the sources have together -/
  capacity : ((opened owner c).map (·.maxSize)).sum ≤
    (sources.map fun source => (owner.settings source).maxSize).sum

/-- **One pool for a source**, in every interleaving of the calls and whatever fails or is
cancelled. -/
theorem sourcePools {owner : PoolOwner} {sources : List ResolvedSource} {c : PoolTasks}
    (h : (poolSystem sources).Reachable .initial c) : SourcePools owner sources c := by
  obtain ⟨honce, hsources⟩ := KeyedCache.once h
  refine ⟨⟨honce.once, hsources⟩, fun n sourceId r hturn htask => ?_, honce.stored, honce.lock, ?_⟩
  · obtain ⟨source, hcreated, hid⟩ := honce.answered _ r hturn htask
    refine ⟨source, hsources source (List.mem_of_getElem? hcreated), hid, ?_⟩
    rw [opened, List.getElem?_map, hcreated]
    rfl
  · have hnodup : c.shared.created.Nodup := honce.once.of_map _
    have hsub : c.shared.created.Subperm sources := hnodup.subperm hsources
    obtain ⟨l, hperm, hsublist⟩ := hsub
    rw [opened, List.map_map]
    calc (c.shared.created.map _).sum = (l.map _).sum := (hperm.map _).sum_eq.symm
      _ ≤ (sources.map _).sum := (hsublist.map _).sum_le_sum fun _ _ => Nat.zero_le _

/-! ### Two calls for one source -/

/-- One call opens the pool while another one waits for the lock, and both get this pool. -/
theorem reachable_shared (source : ResolvedSource) : ∃ c c' : PoolTasks,
    ((poolSystem [source]).Reachable .initial c ∧ c.turn = some (0, source.id) ∧
      c.tasks (0, source.id) = some (.done (.ok (0 : Nat))) ∧
      (c.tasks (1, source.id)).isSome = true) ∧
    (poolSystem [source]).Reachable .initial c' ∧ c'.turn = some (1, source.id) ∧
      c'.tasks (1, source.id) = some (.done (.ok (0 : Nat))) ∧ c'.shared.created = [source] := by
  have hstarts : ∀ n : Nat, (poolSystem [source]).starts (n, source.id) (getPool source) :=
    fun n => ⟨source, List.mem_singleton.2 rfl, rfl, rfl⟩
  have hne : ((1, source.id) : KeyedCache.TaskId String) ≠ (0, source.id) := by simp
  have hlocks : (poolSystem [source]).Solo (0, source.id) .initial (getPool source)
      { KeyedCache.Cache.initial with holder := some (0, source.id) }
      (KeyedCache.fromCreate source) :=
    (KeyedCache.solo_misses rfl).trans (KeyedCache.solo_locks rfl rfl)
  have hopens := System.Reachable.soloStart .initial rfl rfl (hstarts 0) hlocks
  have hwaits := hopens.soloStart rfl (System.put_of_ne hne) (hstarts 1)
    (KeyedCache.solo_misses rfl)
  have hopened := hwaits.resume rfl ((System.put_of_ne hne.symm).trans System.put_self) rfl
    KeyedCache.solo_creates
  have hended := hopened.step (.finish rfl System.put_self)
  have hshared := hended.resume (i := (1, source.id)) rfl ?_ rfl
    (KeyedCache.solo_finds (a := source) rfl (Function.update_self ..))
  · refine ⟨_, _, ⟨hopened, rfl, System.put_self, ?_⟩, hshared, rfl, System.put_self, rfl⟩
    rw [System.put_of_ne hne, System.put_self]
    rfl
  · dsimp only
    rw [Function.update_of_ne hne, System.put_of_ne hne, System.put_self]

/-- Two calls for the source of a directory with one package get the one pool that is opened. -/
theorem sourcePools_orders : ∃ (source : ResolvedSource) (c c' : PoolTasks),
    loadRegistry OnePackage.readers OnePackage.deployment = .ok [source] ∧
    (c.turn = some (0, source.id) ∧ c.tasks (0, source.id) = some (.done (.ok (0 : Nat))) ∧
      (c.tasks (1, source.id)).isSome = true ∧
      SourcePools .postgresQueryExecutor [source] c) ∧
    c'.turn = some (1, source.id) ∧ c'.tasks (1, source.id) = some (.done (.ok (0 : Nat))) ∧
      opened .postgresQueryExecutor c' = [PoolOwner.postgresQueryExecutor.settings source] ∧
      SourcePools .postgresQueryExecutor [source] c' := by
  obtain ⟨source, hload⟩ := OnePackage.exists_sources
  obtain ⟨c, c', ⟨hreach, hturn, hopened, hwaits⟩, hreach', hturn', hshared, hcreated⟩ :=
    reachable_shared source
  have hone : opened .postgresQueryExecutor c' =
      [PoolOwner.postgresQueryExecutor.settings source] := by
    rw [opened, hcreated]
    rfl
  exact ⟨source, c, c', hload, ⟨hturn, hopened, hwaits, sourcePools hreach⟩, hturn', hshared, hone,
    sourcePools hreach'⟩

end QueryMan
