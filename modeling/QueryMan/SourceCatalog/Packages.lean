import QueryMan.Metadata.ViewMarker
import QueryMan.Python.CaseFold
import QueryMan.Python.Text
import QueryMan.Runtime.Config
import QueryMan.SourceCatalog.Manifests

/-!
# Source packages

How `source_catalog/registry.py` makes a source of a package: the checks of its directory, and
`_resolve_source`, which reads the database profile, the budget and the environment variables that
the manifest names. Each function has a lemma that says all there is to know of a successful run.
-/

namespace QueryMan

open Python

/-! ## The file system -/

/-- A name in a package directory, as `Path` tells: `is_file` follows links. -/
structure PackageFile where
  name : String
  isSymlink : Bool
  isFile : Bool
  deriving DecidableEq, Repr

/-- A composed YAML file: what reading it raised, or its document, if there is one. -/
abbrev Composed := Except Raised (Option ((size : Nat) × Yaml.Document size))

/-- A name in the source directory: what `Path` tells of it, and what is found below it. -/
structure SourceEntry where
  name : String
  isSymlink : Bool
  isDir : Bool
  /-- the text of `resolve()` -/
  resolved : String
  /-- `iterdir()`, or the text of the `OSError` -/
  files : Except String (List PackageFile)
  /-- `source.yaml` -/
  manifest : Composed

/-- The source directory. -/
structure SourceDirectory where
  path : Path
  /-- the text of `resolve()` -/
  resolved : String
  /-- `iterdir()`, or the text of the `OSError` -/
  entries : Except String (List SourceEntry)

/-! ## Errors -/

/-- The `RegistryConfigurationError`s of the registry itself. -/
inductive RegistryConfigurationError where
  | cannotRead (path : Path) (error : String)
  | noSourceDirectories (resolved : String)
  | unexpectedEntry (resolved : String)
  | packageFiles (path : Path)
  | sourceIdMismatch (manifest : Path) (name : String)
  | notBelowConfig (manifest : Path)
  | migrationReference (manifest : Path)
  | unknownBudget (manifest : Path) (budget : String)
  | unknownDatabase (manifest : Path) (database : String)
  | invalidHost (manifest : Path)
  | invalidPort (manifest : Path)
  | duplicates (manifest : Path) (kind : String)
  | systemSchema (manifest : Path) (schema : String)
  | passwordOutsideTest (manifest : Path)
  | missingVariable (manifest : Path) (variableName : String)
  deriving DecidableEq, Repr

/-- The text of the error. -/
def RegistryConfigurationError.message : RegistryConfigurationError → String
  | cannotRead path error => "Cannot read " ++ path.text ++ ": " ++ error
  | noSourceDirectories resolved => "No source directories found in " ++ resolved
  | unexpectedEntry resolved => "Unexpected source entry: " ++ resolved
  | packageFiles path => path.text ++ " must contain exactly source.yaml and views.sql"
  | sourceIdMismatch manifest name =>
    manifest.text ++ " source_id must match directory name " ++ name
  | notBelowConfig manifest => manifest.text ++ " source package must be below config"
  | migrationReference manifest =>
    manifest.text ++ " database_migration_ref must reference sibling views.sql"
  | unknownBudget manifest budget =>
    manifest.text ++ " references unknown budget profile: " ++ budget
  | unknownDatabase manifest database =>
    manifest.text ++ " references unknown database profile: " ++ database
  | invalidHost manifest => manifest.text ++ " resolved an invalid host"
  | invalidPort manifest => manifest.text ++ " resolved an invalid port"
  | duplicates manifest kind => manifest.text ++ " contains duplicate " ++ kind
  | systemSchema manifest schema =>
    manifest.text ++ " cannot publish PostgreSQL system schema: " ++ schema
  | passwordOutsideTest manifest =>
    manifest.text ++ " password authentication is allowed only for test sources"
  | missingVariable manifest variableName =>
    manifest.text ++ " requires environment variable " ++ variableName

/-- What leaves `SourceRegistry.load`. -/
inductive RegistryFailure where
  | configuration (error : RegistryConfigurationError)
  | parse (failure : ParseFailure)
  deriving DecidableEq, Repr

/-- A value, or what leaves `SourceRegistry.load`. -/
abbrev RegistryLoading := Except RegistryFailure

/-- `raise RegistryConfigurationError` under a condition. -/
def require (accepted : Prop) [Decidable accepted] (error : RegistryConfigurationError) :
    RegistryLoading Unit :=
  raiseIf (¬ accepted) (RegistryFailure.configuration error)

theorem require_eq_ok {accepted : Prop} [Decidable accepted] {error : RegistryConfigurationError}
    {u : Unit} : require accepted error = .ok u ↔ accepted := by
  rw [require, raiseIf_eq_ok, not_not]

/-- The value of `get`, unless it is `None`. -/
def found {α : Type} (value : Option α) (error : RegistryConfigurationError) : RegistryLoading α :=
  match value with
  | some a => .ok a
  | none => .error (.configuration error)

theorem found_eq_ok {α : Type} {value : Option α} {error : RegistryConfigurationError} {a : α} :
    found value error = .ok a ↔ value = some a := by
  cases value with
  | none => simp [found]
  | some b => simp [found]

/-! ## The package -/

/-- `_require_source_package`. -/
def requireSourcePackage (sourcePath : Path) (entry : SourceEntry) : RegistryLoading Unit :=
  match entry.files with
  | .error error => .error (.configuration (.cannotRead sourcePath error))
  | .ok sourceFiles =>
    require ((sourceFiles.map (·.name)).toFinset = {"source.yaml", "views.sql"} ∧
      ¬ sourceFiles.any fun file => file.isSymlink || !file.isFile) (.packageFiles sourcePath)

/-- The package has its two files, and nothing else. -/
structure SourceEntry.IsPackage (entry : SourceEntry) (sourceFiles : List PackageFile) : Prop where
  files : entry.files = .ok sourceFiles
  names : (sourceFiles.map (·.name)).toFinset = {"source.yaml", "views.sql"}
  regular : ∀ file ∈ sourceFiles, file.isSymlink = false ∧ file.isFile = true

theorem requireSourcePackage_eq_ok {sourcePath : Path} {entry : SourceEntry} {u : Unit} :
    requireSourcePackage sourcePath entry = .ok u ↔
      ∃ sourceFiles, entry.IsPackage sourceFiles := by
  unfold requireSourcePackage
  constructor
  · intro h
    split at h
    · cases h
    · next sourceFiles hfiles =>
      obtain ⟨hnames, hregular⟩ := require_eq_ok.1 h
      refine ⟨sourceFiles, hfiles, hnames, fun file hfile => ?_⟩
      simp only [List.any_eq_true, not_exists, not_and] at hregular
      simpa using hregular file hfile
  · rintro ⟨sourceFiles, hfiles, hnames, hregular⟩
    rw [hfiles]
    refine require_eq_ok.2 ⟨hnames, ?_⟩
    simp only [List.any_eq_true, not_exists, not_and]
    intro file hfile
    simp [hregular file hfile]

/-- The index of the last `config` among the parts of a path. -/
def configIndex (parts : List String) : Option Nat :=
  (parts.zipIdx.filter fun part => part.1 = "config").getLast?.map (·.2)

/-- `_require_sibling_view_reference`. -/
def requireSiblingViewReference (sourcePath : Path) (parsed : SourceFile) (manifestPath : Path) :
    RegistryLoading Unit := do
  let index ← found (configIndex sourcePath.parts) (.notBelowConfig manifestPath)
  let expected := PurePosixPath.ofSegments (sourcePath.parts.drop index ++ ["views.sql"])
  require (PurePosixPath.ofText parsed.provenance.databaseMigrationRef = expected)
    (.migrationReference manifestPath)

/-- A slug is a name of a directory. -/
theorem Slug.isSegment (slug : Slug) : IsSegment slug.text := by
  refine ⟨?_, ?_, fun hslash => ?_⟩
  · intro heq
    exact absurd (heq ▸ slug.matchesPattern) (by decide)
  · intro heq
    exact absurd (heq ▸ slug.matchesPattern) (by decide)
  · rcases (isSlug_iff.1 slug.matchesPattern).mem hslash with heq | hchar
    · exact absurd heq (by decide)
    · exact absurd hchar (by decide)

/-- The last `config` is one of the parts. -/
theorem configIndex_eq_some {parts : List String} {index : Nat}
    (h : configIndex parts = some index) :
    parts[index]? = some "config" := by
  obtain ⟨part, hlast, rfl⟩ := Option.map_eq_some_iff.1 h
  obtain ⟨hmem, hconfig⟩ := List.mem_filter.1 (List.mem_of_getLast? hlast)
  rw [← of_decide_eq_true hconfig]
  exact List.mem_zipIdx_iff_getElem?.1 hmem

/-- **The reference of an accepted manifest is its sibling**: the path of `views.sql` in the
directory of the source, from `config` on. -/
theorem reference_of_requireSiblingViewReference {directory manifestPath : Path} {name : String}
    {parsed : SourceFile} {u : Unit} (hname : IsSegment name)
    (h : requireSiblingViewReference (directory.join name) parsed manifestPath = .ok u) :
    (PurePosixPath.ofText parsed.provenance.databaseMigrationRef).root = "" ∧
      (PurePosixPath.ofText parsed.provenance.databaseMigrationRef).tail.head? = some "config" ∧
      [name, "views.sql"] <:+
        (PurePosixPath.ofText parsed.provenance.databaseMigrationRef).tail := by
  unfold requireSiblingViewReference at h
  obtain ⟨index, hindex, h⟩ := bind_eq_ok.1 h
  have hconfig := configIndex_eq_some (found_eq_ok.1 hindex)
  have hreference := require_eq_ok.1 h
  have htail : (directory.join name).tail = directory.tail ++ [name] :=
    PurePosixPath.join_tail hname
  have hsegment : IsSegment "config" := by
    unfold IsSegment
    decide
  obtain ⟨k, hk, hdrop⟩ := PurePosixPath.exists_drop_tail hsegment hconfig
  have hle : k ≤ directory.tail.length := by
    have hlt := (List.getElem?_eq_some_iff.1 hk).1
    rw [htail, List.length_append, List.length_singleton] at hlt
    omega
  have hviews : IsSegment "views.sql" := by
    unfold IsSegment
    decide
  have hsegments : ∀ segment ∈ (directory.join name).tail.drop k ++ ["views.sql"],
      IsSegment segment := by
    intro segment hmem
    rcases List.mem_append.1 hmem with hmem | hmem
    · exact (directory.join name).isSegment segment (List.mem_of_mem_drop hmem)
    · rw [List.mem_singleton.1 hmem]
      exact hviews
  rw [hreference, hdrop, PurePosixPath.ofSegments_root (by simp) hsegments,
    PurePosixPath.ofSegments_tail (by simp) hsegments]
  refine ⟨rfl, ?_, ?_⟩
  · rw [List.head?_append, List.head?_drop, hk]
    rfl
  · rw [htail, List.drop_append_of_le_length hle, List.append_assoc]
    exact List.suffix_append _ _

/-! ## Resolving a source -/

/-- `_is_forbidden_schema`. -/
def isForbiddenSchema (schema : String) : Bool :=
  let normalized := casefold schema
  normalized = "information_schema" || "pg_".toList.isPrefixOf normalized.toList

/-- `host` of `_resolve_source`: the environment variable, if there is one and it is set. -/
def resolvedHost (database : DatabaseProfile) (environment : Environment) : String :=
  match database.hostEnv.bind environment with
  | none => database.host
  | some rawHost => strip rawHost

/-- An item of a host list: it has no white space around it, and is no path of a socket. -/
def isHostItem (rawItem : String) : Bool :=
  let item := strip rawItem
  item ≠ "" && item = rawItem && item.toList.head? ≠ some '/' && item.toList.head? ≠ some '@'

/-- The check of a resolved host. -/
def isValidHost (host : String) : Bool :=
  host ≠ "" && decide (host.length ≤ 253) && (split ',' host).all isHostItem

/-- A host by itself: a name without white space around it and without commas, and no socket. -/
structure IsHost (host : String) : Prop where
  nonempty : host ≠ ""
  stripped : strip host = host
  single : ',' ∉ host.toList
  noSocket : host.toList.head? ≠ some '/' ∧ host.toList.head? ≠ some '@'

/-- A valid host is a list of hosts. -/
theorem hosts_of_isValidHost {host : String} (h : isValidHost host = true) :
    host.length ≤ 253 ∧
      ∃ hosts, hosts ≠ [] ∧ (∀ item ∈ hosts, IsHost item) ∧ host = joinWith ',' hosts := by
  simp only [isValidHost, Bool.and_eq_true, List.all_eq_true, decide_eq_true_eq] at h
  obtain ⟨⟨-, hlength⟩, hitems⟩ := h
  refine ⟨hlength, split ',' host, ?_, fun item hmem => ?_, (joinWith_split ',' host).symm⟩
  · rw [split, Ne, List.map_eq_nil_iff]
    exact List.splitOn_ne_nil _ _
  · have hitem := hitems item hmem
    simp only [isHostItem, Bool.and_eq_true, decide_eq_true_eq] at hitem
    obtain ⟨⟨⟨hne, heq⟩, hslash⟩, hat⟩ := hitem
    rw [heq] at hne hslash hat
    exact ⟨hne, heq, notMem_of_mem_split hmem, hslash, hat⟩

/-- `port` of `_resolve_source`, or `None` for the `ValueError` of `int`. -/
def resolvedPort (parseInt : String → Option Int) (database : DatabaseProfile)
    (environment : Environment) : Option Int :=
  match database.portEnv.bind environment with
  | none => some database.port
  | some rawPort => parseInt rawPort

/-- `_require_unique`. -/
def requireUnique (path : Path) (kind : String) (values : List String) : RegistryLoading Unit :=
  require values.Nodup (.duplicates path kind)

/-- `DatabaseAuthentication`. -/
inductive ResolvedAuthentication where
  | password (password : String)
  | clientCertificate (rootCertificate clientCertificate clientKey : Path)
  deriving DecidableEq, Repr

/-- The certificates of a database profile, below the credential directory. -/
def certificates (credentialDirectory : Path) (databaseProfile : String) :
    ResolvedAuthentication :=
  let certificateDirectory := credentialDirectory.join databaseProfile
  .clientCertificate (certificateDirectory.join "ca.crt") (certificateDirectory.join "client.crt")
    (certificateDirectory.join "client.key")

/-- `authentication` of `_resolve_source`: a password is read for test sources only. -/
def resolveAuthentication (parsed : SourceFile) (database : DatabaseProfile)
    (credentialDirectory : Path) (environment : Environment) (path : Path) :
    RegistryLoading ResolvedAuthentication :=
  match database.authentication with
  | .password passwordEnv => do
    require (parsed.provenance.environment = .test) (.passwordOutsideTest path)
    let password ← found ((environment passwordEnv).filter (· ≠ ""))
      (.missingVariable path passwordEnv)
    pure (.password password)
  | .clientCertificate => pure (certificates credentialDirectory parsed.databaseProfile.text)

/-- `ResolvedConnection`. -/
structure ResolvedConnection where
  databaseProfile : String
  host : String
  port : Nat
  database : Identifier
  user : Identifier
  sslmode : SSLMode
  authentication : ResolvedAuthentication

/-- A whole `SourceProfile`: what the query and the metadata paths read of it, and the rest. -/
structure ResolvedSource where
  profile : SourceProfile
  connection : ResolvedConnection
  provenance : Provenance

/-- The `SourceProfile` that `_resolve_source` builds. -/
def SourceFile.profile (parsed : SourceFile) (budget : BudgetProfile) (database : DatabaseProfile)
    (host : String) (port : Nat) (authentication : ResolvedAuthentication) : ResolvedSource where
  profile :=
    { sourceId := parsed.sourceId.text
      name := parsed.name
      description := parsed.description
      sslmode := database.sslmode
      allowedSchemas := parsed.allowedSchemas
      allowedRelationKinds := ["view"]
      viewContractVersion := parsed.viewContractVersion.toNat
      budget := budget }
  connection :=
    { databaseProfile := parsed.databaseProfile.text
      host := host
      port := port
      database := database.database
      user := parsed.readerUser
      sslmode := database.sslmode
      authentication := authentication }
  provenance := parsed.provenance

/-- The profile of a name in a database file. -/
def databaseOf (databases : List (Slug × DatabaseProfile)) (name : String) :
    Option DatabaseProfile :=
  (databases.find? fun item => item.1.text = name).map (·.2)

/-- `_resolve_source`. -/
def resolveSource (parseInt : String → Option Int) (parsed : SourceFile)
    (budgets : List (String × BudgetProfile)) (databases : List (Slug × DatabaseProfile))
    (credentialDirectory : Path) (environment : Environment) (path : Path) :
    RegistryLoading ResolvedSource := do
  let budget ← found (budgets.lookup parsed.budgetProfile.text)
    (.unknownBudget path parsed.budgetProfile.text)
  let database ← found (databaseOf databases parsed.databaseProfile.text)
    (.unknownDatabase path parsed.databaseProfile.text)
  let host := resolvedHost database environment
  require (isValidHost host = true) (.invalidHost path)
  let port ← found (resolvedPort parseInt database environment) (.invalidPort path)
  require (1 ≤ port ∧ port ≤ 65535) (.invalidPort path)
  requireUnique path "allowed_schemas" (parsed.allowedSchemas.map (·.text))
  parsed.allowedSchemas.forM fun schema =>
    require (isForbiddenSchema schema.text = false) (.systemSchema path schema.text)
  let authentication ← resolveAuthentication parsed database credentialDirectory environment path
  pure (parsed.profile budget database host port.toNat authentication)

/-- All that `_resolve_source` has found out when it returns. -/
structure Resolution (parseInt : String → Option Int) (parsed : SourceFile)
    (budgets : List (String × BudgetProfile)) (databases : List (Slug × DatabaseProfile))
    (credentialDirectory : Path) (environment : Environment) (path : Path)
    (source : ResolvedSource) where
  budget : BudgetProfile
  database : DatabaseProfile
  port : Int
  authentication : ResolvedAuthentication
  budgetFound : budgets.lookup parsed.budgetProfile.text = some budget
  databaseFound : databaseOf databases parsed.databaseProfile.text = some database
  validHost : isValidHost (resolvedHost database environment) = true
  portFound : resolvedPort parseInt database environment = some port
  validPort : 1 ≤ port ∧ port ≤ 65535
  uniqueSchemas : (parsed.allowedSchemas.map (·.text)).Nodup
  noSystemSchema : ∀ schema ∈ parsed.allowedSchemas, isForbiddenSchema schema.text = false
  authenticated :
    resolveAuthentication parsed database credentialDirectory environment path = .ok authentication
  built : source = parsed.profile budget database (resolvedHost database environment) port.toNat
    authentication

variable {parseInt : String → Option Int} {parsed : SourceFile}
  {budgets : List (String × BudgetProfile)} {databases : List (Slug × DatabaseProfile)}
  {credentialDirectory : Path} {environment : Environment} {path : Path}

theorem resolveSource_eq_ok {source : ResolvedSource} :
    resolveSource parseInt parsed budgets databases credentialDirectory environment path =
        .ok source ↔
      Nonempty (Resolution parseInt parsed budgets databases credentialDirectory environment path
        source) := by
  unfold resolveSource requireUnique
  simp only [bind_eq_ok, found_eq_ok, require_eq_ok, forM_eq_ok, pure_eq_ok]
  constructor
  · rintro ⟨budget, hbudget, database, hdatabase, _, hhost, port, hport, _, hrange, _, hunique, _,
      hschemas, authentication, hauthentication, rfl⟩
    exact ⟨budget, database, port, authentication, hbudget, hdatabase, hhost, hport,
      hrange, hunique,
      hschemas, hauthentication, rfl⟩
  · rintro ⟨r⟩
    exact ⟨r.budget, r.budgetFound, r.database, r.databaseFound, (), r.validHost,
      r.port, r.portFound,
      (), r.validPort, (), r.uniqueSchemas, (), r.noSystemSchema, r.authentication, r.authenticated,
      r.built.symm⟩

/-- A resolved password is set, and belongs to a test source. -/
theorem resolveAuthentication_password {database : DatabaseProfile} {password : String}
    (h : resolveAuthentication parsed database credentialDirectory environment path =
      .ok (.password password)) :
    parsed.provenance.environment = .test ∧ password ≠ "" := by
  unfold resolveAuthentication at h
  split at h
  · obtain ⟨_, htest, h⟩ := bind_eq_ok.1 h
    obtain ⟨_, hpassword, h⟩ := bind_eq_ok.1 h
    cases pure_eq_ok.1 h
    obtain ⟨-, hset⟩ := Option.filter_eq_some_iff.1 (found_eq_ok.1 hpassword)
    exact ⟨require_eq_ok.1 htest, of_decide_eq_true hset⟩
  · cases h

/-- Without a password there are the certificates of the database profile. -/
theorem resolveAuthentication_certificates {database : DatabaseProfile}
    {authentication : ResolvedAuthentication}
    (h : resolveAuthentication parsed database credentialDirectory environment path =
      .ok authentication) (hno : ∀ password, authentication ≠ .password password) :
    database.authentication = .clientCertificate ∧
      authentication = certificates credentialDirectory parsed.databaseProfile.text := by
  unfold resolveAuthentication at h
  split at h
  · obtain ⟨_, -, h⟩ := bind_eq_ok.1 h
    obtain ⟨password, -, h⟩ := bind_eq_ok.1 h
    exact absurd (pure_eq_ok.1 h).symm (hno password)
  · next hcertificate => exact ⟨hcertificate, (pure_eq_ok.1 h).symm⟩

/-! ## The variables that count -/

/-- A variable that a source of the environment reads for the database profile. -/
def DatabaseProfile.Reads (database : DatabaseProfile) (sourceEnvironment : SourceEnvironment)
    (variableName : String) : Prop :=
  database.hostEnv = some variableName ∨ database.portEnv = some variableName ∨
    database.authentication = .password variableName ∧ sourceEnvironment = .test

/-- `_resolve_source` reads no other variable. -/
theorem resolveSource_congr {environment' : Environment}
    (h : ∀ database, databaseOf databases parsed.databaseProfile.text = some database →
      ∀ variableName, database.Reads parsed.provenance.environment variableName →
        environment' variableName = environment variableName) :
    resolveSource parseInt parsed budgets databases credentialDirectory environment' path =
      resolveSource parseInt parsed budgets databases credentialDirectory environment path := by
  unfold resolveSource
  refine bind_congr_of_ok fun budget _ => bind_congr_of_ok fun database hdatabase => ?_
  have hreads := h database (found_eq_ok.1 hdatabase)
  have hset : ∀ {name : Option String}, (∀ variableName, name = some variableName →
      environment' variableName = environment variableName) →
      name.bind environment' = name.bind environment := by
    intro name hname
    cases name with
    | none => rfl
    | some variableName => exact hname variableName rfl
  have hhost : resolvedHost database environment' = resolvedHost database environment := by
    rw [resolvedHost, resolvedHost, hset fun v hv => hreads v (.inl hv)]
  have hport : resolvedPort parseInt database environment' =
      resolvedPort parseInt database environment := by
    rw [resolvedPort, resolvedPort, hset fun v hv => hreads v (.inr (.inl hv))]
  have hauthentication :
      resolveAuthentication parsed database credentialDirectory environment' path =
        resolveAuthentication parsed database credentialDirectory environment path := by
    unfold resolveAuthentication
    split
    · next passwordEnv hpassword =>
      refine bind_congr_of_ok fun _ htest => ?_
      rw [hreads passwordEnv (.inr (.inr ⟨hpassword, require_eq_ok.1 htest⟩))]
    · rfl
  rw [hhost, hport, hauthentication]

end QueryMan
