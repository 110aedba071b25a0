import QueryMan.Python.Dict
import QueryMan.SourceCatalog.Packages

/-!
# Loading the registry

`SourceRegistry.load` and `SourceRegistry.list`. What startup serves is exactly what the source
directory holds: one bad package rejects the whole directory, and every source of a loaded registry
meets the startup contract. Of the environment only the variables count that the database profiles
name.
-/

namespace QueryMan

open Python
open Python.Pydantic (Lax Checked)
open Python.Yaml (ScalarConstructors)

/-- A YAML file. -/
structure ConfigurationFile where
  path : Path
  composed : Composed

/-- The arguments of `SourceRegistry.load`, with what is found at their paths. -/
structure Deployment where
  sourceDirectory : SourceDirectory
  budgetFile : ConfigurationFile
  databaseFile : ConfigurationFile
  credentialDirectory : Path
  environment : Environment

/-- What the libraries make of texts and values: the constructors of YAML scalars, the lax mode of
the models, and `int`, which reads the digits of all scripts. -/
structure Readers where
  loader : ScalarConstructors
  lax : Lax
  parseInt : String → Option Int

section
variable (readers : Readers) (deployment : Deployment)

/-- `load_budget_profiles` of the budget file. -/
def Deployment.budgets : RegistryLoading (List (String × BudgetProfile)) :=
  (loadBudgetProfiles readers.loader readers.lax deployment.budgetFile.path.text
    deployment.budgetFile.composed).mapError .parse

/-- The profiles of the database file. -/
def Deployment.databases : RegistryLoading (List (Slug × DatabaseProfile)) := do
  let file ← (parseModel readers.loader deployment.databaseFile.path.text
    deployment.databaseFile.composed (DatabaseFile.modelValidate readers.lax)).mapError .parse
  pure file.profiles

/-- `sorted(source_directory.iterdir())`. -/
def SourceDirectory.sorted (directory : SourceDirectory) : RegistryLoading (List SourceEntry) :=
  match directory.entries with
  | .error error => .error (.configuration (.cannotRead directory.path error))
  | .ok entries => .ok (entries.mergeSort fun a b => a.name ≤ b.name)

/-- One turn of the loop of `SourceRegistry.load`. -/
def loadSource (budgets : List (String × BudgetProfile))
    (databases : List (Slug × DatabaseProfile)) (entry : SourceEntry) :
    RegistryLoading ResolvedSource := do
  let sourcePath := deployment.sourceDirectory.path.join entry.name
  require (entry.isSymlink = false ∧ entry.isDir = true) (.unexpectedEntry entry.resolved)
  requireSourcePackage sourcePath entry
  let manifestPath := sourcePath.join "source.yaml"
  let parsed ← (parseModel readers.loader manifestPath.text entry.manifest
    (SourceFile.modelValidate readers.lax)).mapError .parse
  require (entry.name = parsed.sourceId.text) (.sourceIdMismatch manifestPath entry.name)
  requireSiblingViewReference sourcePath parsed manifestPath
  resolveSource readers.parseInt parsed budgets databases deployment.credentialDirectory
    deployment.environment manifestPath

/-- `SourceRegistry.load`: its sources, in their order. -/
def loadRegistry : RegistryLoading (List ResolvedSource) := do
  let budgets ← deployment.budgets readers
  let databases ← deployment.databases readers
  let sourcePaths ← deployment.sourceDirectory.sorted
  require (sourcePaths ≠ []) (.noSourceDirectories deployment.sourceDirectory.resolved)
  sourcePaths.mapM (loadSource readers deployment budgets databases)

end

/-! ## The startup contract -/

/-- What startup guarantees of a source. -/
structure StartupContract (deployment : Deployment) (source : ResolvedSource) : Prop where
  sourceId : isSlug source.profile.sourceId.toList = true
  /-- the reference is the `views.sql` of the package itself -/
  reference : (PurePosixPath.ofText source.provenance.databaseMigrationRef).root = "" ∧
    (PurePosixPath.ofText source.provenance.databaseMigrationRef).tail.head? = some "config" ∧
    [source.profile.sourceId, "views.sql"] <:+
      (PurePosixPath.ofText source.provenance.databaseMigrationRef).tail
  budget : validateBudget source.profile.budget = .ok ()
  schemas : source.profile.allowedSchemas ≠ [] ∧ source.profile.allowedSchemas.length ≤ 20
  uniqueSchemas : (source.profile.allowedSchemas.map (·.text)).Nodup
  noSystemSchema : ∀ schema ∈ source.profile.allowedSchemas, isForbiddenSchema schema.text = false
  relationKinds : source.profile.allowedRelationKinds = ["view"]
  viewContract : 1 ≤ source.profile.viewContractVersion
  host : source.connection.host.length ≤ 253 ∧ ∃ hosts, hosts ≠ [] ∧
    (∀ host ∈ hosts, IsHost host) ∧ source.connection.host = joinWith ',' hosts
  port : 1 ≤ source.connection.port ∧ source.connection.port ≤ 65535
  sslmode : source.profile.sslmode = source.connection.sslmode
  /-- passwords are for tests -/
  password : ∀ password, source.connection.authentication = .password password →
    source.provenance.environment = .test ∧ password ≠ ""
  /-- all other sources are verified, with the certificates of their database profile -/
  certificates : (∀ password, source.connection.authentication ≠ .password password) →
    source.connection.sslmode = .verifyFull ∧
      source.connection.authentication =
        QueryMan.certificates deployment.credentialDirectory source.connection.databaseProfile

/-! ## The files -/

section
variable {readers : Readers} {deployment : Deployment}

/-- What the manifest model says of a source file. -/
theorem bounds_of_sourceFile {lax : Lax} {value : Yaml.Data} {parsed : SourceFile}
    (h : SourceFile.modelValidate lax value = .valid parsed) :
    (parsed.allowedSchemas ≠ [] ∧ parsed.allowedSchemas.length ≤ 20) ∧
      1 ≤ parsed.viewContractVersion := by
  obtain ⟨hparsed, -⟩ := Checked.require_eq_valid.1 h
  obtain ⟨hparsed, -⟩ := Checked.require_eq_valid.1 hparsed
  obtain ⟨pairs, -, hfields⟩ := Pydantic.model_eq_valid hparsed
  -- the fields are taken apart from the last one to the list of schemas
  obtain ⟨_, _, hfields, -, _⟩ := Checked.seq_eq_valid.1 hfields
  obtain ⟨_, version, hfields, hversion, _⟩ := Checked.seq_eq_valid.1 hfields
  obtain ⟨_, _, hfields, -, _⟩ := Checked.seq_eq_valid.1 hfields
  obtain ⟨_, schemas, hfields, hschemas, _⟩ := Checked.seq_eq_valid.1 hfields
  repeat obtain ⟨_, _, hfields, -, _⟩ := Checked.seq_eq_valid.1 hfields
  have hmk := Checked.valid.inj hfields
  subst_vars
  obtain ⟨_, -, hversion⟩ := Pydantic.field_eq_valid.1 hversion
  obtain ⟨_, -, hschemas⟩ := Pydantic.field_eq_valid.1 hschemas
  obtain ⟨-, hversion⟩ := Checked.require_eq_valid.1 hversion
  have hlength := Pydantic.length_of_list hschemas
  refine ⟨⟨?_, hlength.2⟩, of_decide_eq_true hversion⟩
  exact List.ne_nil_of_length_pos hlength.1

/-- Every database profile with a client certificate verifies the server. -/
theorem verifyFull_of_databases {databases : List (Slug × DatabaseProfile)}
    (h : deployment.databases readers = .ok databases) {item : Slug × DatabaseProfile}
    (hitem : item ∈ databases) (hcertificate : item.2.authentication = .clientCertificate) :
    item.2.sslmode = .verifyFull := by
  obtain ⟨file, hfile, heq⟩ := bind_eq_ok.1 h
  rw [← pure_eq_ok.1 heq] at hitem
  obtain ⟨value, hvalue⟩ := validate_of_parseModel (mapError_eq_ok.1 hfile)
  obtain ⟨hvalue, -⟩ := Checked.require_eq_valid.1 hvalue
  obtain ⟨hparsed, -⟩ := Checked.require_eq_valid.1 hvalue
  obtain ⟨pairs, -, hfields⟩ := Pydantic.model_eq_valid hparsed
  obtain ⟨version, profiles, -, hprofiles, rfl⟩ := Checked.map_seq_eq_valid.1 hfields
  obtain ⟨_, -, hdict⟩ := Pydantic.field_eq_valid.1 hprofiles
  obtain ⟨_, hprofile⟩ := Pydantic.validated_of_dict hdict hitem
  obtain ⟨-, htls⟩ := Checked.require_eq_valid.1 hprofile
  simpa [requireVerifiedTlsForClientCertificates, hcertificate] using htls

/-- Every budget of the budget file is accepted. -/
theorem validateBudget_of_budgets {budgets : List (String × BudgetProfile)}
    (h : deployment.budgets readers = .ok budgets) :
    ∀ item ∈ budgets, validateBudget item.2 = .ok () :=
  validateBudget_of_load readers.loader (mapError_eq_ok.1 h)

/-- Every profile that is found by its name is a value of the database file. -/
theorem mem_of_databaseOf {databases : List (Slug × DatabaseProfile)} {name : String}
    {database : DatabaseProfile} (h : databaseOf databases name = some database) :
    ∃ item ∈ databases, item.2 = database := by
  obtain ⟨item, hitem, rfl⟩ := Option.map_eq_some_iff.1 h
  exact ⟨item, List.mem_of_find?_eq_some hitem, rfl⟩

/-- Every budget that is found by its name is a value of the budget file. -/
theorem mem_of_lookup {budgets : List (String × BudgetProfile)} {name : String}
    {budget : BudgetProfile} (h : budgets.lookup name = some budget) :
    ∃ item ∈ budgets, item.2 = budget := by
  induction budgets with
  | nil => cases h
  | cons item budgets ih =>
    rw [List.lookup_cons] at h
    split at h
    · exact ⟨item, List.mem_cons_self, Option.some.inj h⟩
    · obtain ⟨item', hmem, heq⟩ := ih h
      exact ⟨item', List.mem_cons_of_mem _ hmem, heq⟩

/-! ## One source -/

/-- All that a turn of the loop has found out of its entry. -/
structure Loaded (readers : Readers) (deployment : Deployment)
    (budgets : List (String × BudgetProfile)) (databases : List (Slug × DatabaseProfile))
    (entry : SourceEntry) (source : ResolvedSource) where
  parsed : SourceFile
  directory : entry.isSymlink = false ∧ entry.isDir = true
  package : ∃ sourceFiles, entry.IsPackage sourceFiles
  manifest : parseModel readers.loader
    ((deployment.sourceDirectory.path.join entry.name).join "source.yaml").text entry.manifest
    (SourceFile.modelValidate readers.lax) = .ok parsed
  named : entry.name = parsed.sourceId.text
  reference : requireSiblingViewReference (deployment.sourceDirectory.path.join entry.name) parsed
    ((deployment.sourceDirectory.path.join entry.name).join "source.yaml") = .ok ()
  resolution : Nonempty (Resolution readers.parseInt parsed budgets databases
    deployment.credentialDirectory deployment.environment
    ((deployment.sourceDirectory.path.join entry.name).join "source.yaml") source)

variable {budgets : List (String × BudgetProfile)} {databases : List (Slug × DatabaseProfile)}
  {entry : SourceEntry} {source : ResolvedSource}

theorem loaded_of_loadSource
    (h : loadSource readers deployment budgets databases entry = .ok source) :
    Nonempty (Loaded readers deployment budgets databases entry source) := by
  unfold loadSource at h
  simp only [bind_eq_ok, require_eq_ok, requireSourcePackage_eq_ok, mapError_eq_ok,
    resolveSource_eq_ok] at h
  obtain ⟨_, hdirectory, _, hpackage, parsed, hparsed, _, hnamed, _, hreference, hresolution⟩ := h
  exact ⟨parsed, hdirectory, hpackage, hparsed, hnamed, hreference, hresolution⟩

theorem Loaded.sourceId_eq (h : Loaded readers deployment budgets databases entry source) :
    source.profile.sourceId = entry.name := by
  obtain ⟨r⟩ := h.resolution
  exact (congrArg (fun source => source.profile.sourceId) r.built).trans h.named.symm

/-- A loaded source meets the startup contract. -/
theorem Loaded.startupContract (h : Loaded readers deployment budgets databases entry source)
    (hbudgets : deployment.budgets readers = .ok budgets)
    (hdatabases : deployment.databases readers = .ok databases) :
    StartupContract deployment source := by
  obtain ⟨r⟩ := h.resolution
  obtain ⟨value, hvalue⟩ := validate_of_parseModel h.manifest
  obtain ⟨hschemas, hcontract⟩ := bounds_of_sourceFile hvalue
  obtain ⟨hport, hport'⟩ := r.validPort
  rw [r.built]
  refine
    { sourceId := h.parsed.sourceId.matchesPattern
      reference := ?_
      budget := ?_
      schemas := hschemas
      uniqueSchemas := r.uniqueSchemas
      noSystemSchema := r.noSystemSchema
      relationKinds := rfl
      viewContract := ?_
      host := hosts_of_isValidHost r.validHost
      port := ?_
      sslmode := rfl
      password := fun password heq =>
        resolveAuthentication_password (r.authenticated.trans (congrArg Except.ok heq))
      certificates := fun hno => ?_ }
  · have hreference := h.reference
    rw [h.named] at hreference
    exact reference_of_requireSiblingViewReference h.parsed.sourceId.isSegment hreference
  · obtain ⟨item, hitem, heq⟩ := mem_of_lookup r.budgetFound
    exact heq ▸ validateBudget_of_budgets hbudgets item hitem
  · change 1 ≤ h.parsed.viewContractVersion.toNat
    omega
  · change 1 ≤ r.port.toNat ∧ r.port.toNat ≤ 65535
    omega
  · obtain ⟨hcertificate, heq⟩ := resolveAuthentication_certificates r.authenticated hno
    obtain ⟨item, hitem, hdatabase⟩ := mem_of_databaseOf r.databaseFound
    rw [← hdatabase] at hcertificate
    refine ⟨?_, heq⟩
    change r.database.sslmode = .verifyFull
    rw [← hdatabase]
    exact verifyFull_of_databases hdatabases hitem hcertificate

/-- What a successful load went through. -/
theorem loadRegistry_eq_ok {sources : List ResolvedSource} :
    loadRegistry readers deployment = .ok sources ↔
      ∃ budgets databases entries, deployment.budgets readers = .ok budgets ∧
        deployment.databases readers = .ok databases ∧
        deployment.sourceDirectory.entries = .ok entries ∧ entries ≠ [] ∧
        List.Forall₂
          (fun entry source => loadSource readers deployment budgets databases entry = .ok source)
          (entries.mergeSort fun a b => a.name ≤ b.name) sources := by
  unfold loadRegistry SourceDirectory.sorted
  simp only [bind_eq_ok, require_eq_ok, mapM_eq_ok]
  constructor
  · rintro ⟨budgets, hbudgets, databases, hdatabases, sorted, hsorted, _, hne, hall⟩
    split at hsorted
    · cases hsorted
    · next entries hentries =>
      cases hsorted
      refine ⟨budgets, databases, entries, hbudgets, hdatabases, hentries, ?_, hall⟩
      rintro rfl
      exact hne List.mergeSort_nil
  · rintro ⟨budgets, databases, entries, hbudgets, hdatabases, hentries, hne, hall⟩
    refine ⟨budgets, hbudgets, databases, hdatabases, _, by rw [hentries], (), ?_, hall⟩
    intro hnil
    have hlength : (entries.mergeSort fun a b => a.name ≤ b.name).length = entries.length :=
      List.length_mergeSort entries
    rw [hnil] at hlength
    exact hne (List.length_eq_zero_iff.1 hlength.symm)

/-- **Startup contract**: every source of a loaded registry meets it. -/
theorem startupContract_of_load {sources : List ResolvedSource}
    (h : loadRegistry readers deployment = .ok sources) {source : ResolvedSource}
    (hsource : source ∈ sources) : StartupContract deployment source := by
  obtain ⟨budgets, databases, entries, hbudgets, hdatabases, -, -, hall⟩ := loadRegistry_eq_ok.1 h
  obtain ⟨entry, -, hload⟩ := exists_of_mem_mapM (mapM_eq_ok.2 hall) hsource
  obtain ⟨hloaded⟩ := loaded_of_loadSource hload
  exact hloaded.startupContract hbudgets hdatabases

/-! ## The inventory -/

/-- An item of `SourceRegistry.list`. -/
structure SourceListing where
  sourceId : String
  name : String
  description : String
  deriving DecidableEq, Repr

/-- What `list` shows of a source. -/
def SourceProfile.listing (source : SourceProfile) : SourceListing :=
  ⟨source.sourceId, source.name, source.description⟩

/-- `SourceRegistry.list`: the values of the dictionary of the sources, by their ids. -/
def SourceRegistry.list (registry : SourceRegistry) : List SourceListing :=
  let sources := dictOf id (registry.sources.map fun source => (source.sourceId, source))
  (sources.map fun item => item.2.listing).mergeSort fun a b => a.sourceId ≤ b.sourceId

/-- The registry of a successful load. -/
def registryOf {sources : List ResolvedSource} (h : loadRegistry readers deployment = .ok sources) :
    SourceRegistry where
  sources := sources.map (·.profile)
  accepted := fun source hsource => by
    obtain ⟨resolved, hresolved, rfl⟩ := List.mem_map.1 hsource
    exact (startupContract_of_load h hresolved).budget

/-- The ids of the sources are the names of the entries. -/
theorem sourceIds_of_forall₂ {entries : List SourceEntry} {sources : List ResolvedSource}
    (h : List.Forall₂
      (fun entry source => loadSource readers deployment budgets databases entry = .ok source)
      entries sources) :
    sources.map (·.profile.sourceId) = entries.map (·.name) := by
  induction h with
  | nil => rfl
  | cons hload _ ih =>
    obtain ⟨hloaded⟩ := loaded_of_loadSource hload
    rw [List.map_cons, List.map_cons, ih, hloaded.sourceId_eq]

/-- `get`, `list` and `source_ids` of sources with increasing ids. -/
theorem SourceRegistry.list_eq {registry : SourceRegistry}
    (h : registry.sources.Pairwise fun a b => a.sourceId < b.sourceId) :
    registry.list = registry.sources.map SourceProfile.listing ∧
      ∀ source ∈ registry.sources, registry.get source.sourceId = some source := by
  have hdistinct : DistinctKeys id (registry.sources.map fun source => (source.sourceId, source)) :=
    List.pairwise_map.2 (h.imp fun hlt => hlt.ne)
  constructor
  · unfold list
    dsimp only
    rw [dictOf_eq_self hdistinct, List.map_map]
    exact List.mergeSort_of_pairwise
      (List.pairwise_map.2 (h.imp fun hlt => decide_eq_true hlt.le))
  · intro source hsource
    have hfound : (registry.get source.sourceId).isSome :=
      List.find?_isSome.2 ⟨source, List.mem_reverse.2 hsource, decide_eq_true rfl⟩
    obtain ⟨source', hsource'⟩ := Option.isSome_iff_exists.1 hfound
    have hnodup : (registry.sources.map (·.sourceId)).Nodup :=
      List.pairwise_map.2 (h.imp fun hlt => hlt.ne)
    rw [hsource', List.inj_on_of_nodup_map hnodup (mem_of_get hsource') hsource
      (sourceId_of_get hsource')]

/-- **The startup inventory** is what the source directory holds. A registry that loads has one
source for each entry, in the order of their names, and each entry is a directory with the two files
of a package; `list` shows the sources in this order, and `get` finds each. -/
theorem inventory_of_load {sources : List ResolvedSource} {entries : List SourceEntry}
    (hentries : deployment.sourceDirectory.entries = .ok entries)
    (hnames : (entries.map (·.name)).Nodup) (h : loadRegistry readers deployment = .ok sources) :
    (sources.map (·.profile.sourceId)).Perm (entries.map (·.name)) ∧
      (sources.map (·.profile.sourceId)).Pairwise (· < ·) ∧
      (∀ entry ∈ entries, entry.isSymlink = false ∧ entry.isDir = true ∧
        ∃ sourceFiles, entry.IsPackage sourceFiles) ∧
      (registryOf h).list = sources.map (·.profile.listing) ∧
      ∀ source ∈ sources, (registryOf h).get source.profile.sourceId = some source.profile := by
  obtain ⟨budgets, databases, entries', -, -, hentries', -, hall⟩ := loadRegistry_eq_ok.1 h
  cases hentries.symm.trans hentries'
  have hids := sourceIds_of_forall₂ hall
  have hperm := List.mergeSort_perm entries fun a b => decide (a.name ≤ b.name)
  have hincreasing : (sources.map (·.profile.sourceId)).Pairwise (· < ·) := by
    rw [hids]
    exact List.pairwise_map.2 (pairwise_lt_mergeSort hnames)
  have hregistry : (registryOf h).sources.Pairwise fun a b => a.sourceId < b.sourceId :=
    List.pairwise_map.2 (List.pairwise_map.1 hincreasing)
  obtain ⟨hlist, hget⟩ := SourceRegistry.list_eq hregistry
  refine ⟨hids ▸ hperm.map _, hincreasing, fun entry hentry => ?_, ?_, fun source hsource => ?_⟩
  · obtain ⟨source, -, hload⟩ :=
      exists_mapM_of_mem (mapM_eq_ok.2 hall) (List.mem_mergeSort.2 hentry)
    obtain ⟨hloaded⟩ := loaded_of_loadSource hload
    exact ⟨hloaded.directory.1, hloaded.directory.2, hloaded.package⟩
  · rw [hlist]
    exact List.map_map
  · exact hget _ (List.mem_map_of_mem hsource)

/-- The order in which the directory is listed does not count. -/
theorem loadRegistry_perm {entries entries' : List SourceEntry}
    (hentries : deployment.sourceDirectory.entries = .ok entries)
    (hnames : (entries.map (·.name)).Nodup) (hperm : entries.Perm entries') :
    loadRegistry readers
        { deployment with
          sourceDirectory := { deployment.sourceDirectory with entries := .ok entries' } } =
      loadRegistry readers deployment := by
  have hsorted : (entries.mergeSort fun a b => a.name ≤ b.name) =
      entries'.mergeSort fun a b => a.name ≤ b.name :=
    mergeSort_key_congr hperm hnames
  have hload : ∀ budgets databases, loadSource readers
      { deployment with
        sourceDirectory := { deployment.sourceDirectory with entries := .ok entries' } }
      budgets databases = loadSource readers deployment budgets databases := fun _ _ => rfl
  unfold loadRegistry SourceDirectory.sorted
  simp only [hentries, hload, ← hsorted]
  rfl

/-! ## The environment -/

/-- A variable that some source of the directory reads: that of the host or the port of its database
profile, or of the password, for a test source. -/
def Deployment.Reads (readers : Readers) (deployment : Deployment) (variableName : String) : Prop :=
  ∃ databases entries entry parsed database, deployment.databases readers = .ok databases ∧
    deployment.sourceDirectory.entries = .ok entries ∧ entry ∈ entries ∧
    parseModel readers.loader
      ((deployment.sourceDirectory.path.join entry.name).join "source.yaml").text entry.manifest
      (SourceFile.modelValidate readers.lax) = .ok parsed ∧
    databaseOf databases parsed.databaseProfile.text = some database ∧
    database.Reads parsed.provenance.environment variableName

/-- **Only the variables that the sources name count**: environments that agree on them load the
same registry, or fail with the same error. The password of a database profile is not among them
unless a test source uses it. -/
theorem loadRegistry_congr {environment' : Environment}
    (h : ∀ variableName, deployment.Reads readers variableName →
      environment' variableName = deployment.environment variableName) :
    loadRegistry readers { deployment with environment := environment' } =
      loadRegistry readers deployment := by
  unfold loadRegistry
  refine bind_congr_of_ok fun budgets _ => bind_congr_of_ok fun databases hdatabases =>
    bind_congr_of_ok fun sorted hsorted => bind_congr_of_ok fun _ _ =>
      mapM_congr fun entry hentry => ?_
  obtain ⟨entries, hentries, hmem⟩ : ∃ entries,
      deployment.sourceDirectory.entries = .ok entries ∧ entry ∈ entries := by
    change deployment.sourceDirectory.sorted = .ok sorted at hsorted
    unfold SourceDirectory.sorted at hsorted
    split at hsorted
    · cases hsorted
    · next entries hentries =>
      cases hsorted
      exact ⟨entries, hentries, List.mem_mergeSort.1 hentry⟩
  unfold loadSource
  refine bind_congr_of_ok fun _ _ => bind_congr_of_ok fun _ _ =>
    bind_congr_of_ok fun parsed hparsed =>
    bind_congr_of_ok fun _ _ => bind_congr_of_ok fun _ _ =>
      resolveSource_congr fun database hdatabase
      variableName hreads => h variableName ?_
  exact ⟨databases, entries, entry, parsed, database, hdatabases, hentries, hmem,
    mapError_eq_ok.1 hparsed, hdatabase, hreads⟩

end

/-! ## A directory with one package, and one with two -/

namespace OnePackage

open Python.Yaml (Document Node)

/-- The constructors of the tags `str`, `int` and `bool`. -/
def scalars : ScalarConstructors where
  scalar tag text :=
    if tag = Yaml.strTag then .ok (.str text)
    else if tag = "tag:yaml.org,2002:bool" then .ok (.bool (text = "true"))
    else if text.toList.all Char.isDigit then .ok (.int (Nat.ofDigitChars 10 text.toList 0))
    else .error .yamlError
  asKey value := value

/-- No value is converted, and no text is a number. -/
def readers : Readers where
  loader := scalars
  lax := ⟨fun _ => .error "int_type", fun _ => .error "string_type", fun _ => .error "list_type"⟩
  parseInt _ := none

/-- A document of as many nodes. -/
def document (size : Nat) [NeZero size] (nodes : List (Node (Fin size))) : Composed :=
  .ok (some ⟨size, { root := 0, node := fun r => nodes.getD r (.scalar Yaml.strTag "") }⟩)

/-- A mapping of the nodes from the first on: each key is followed by its value. -/
def mapping {size : Nat} [NeZero size] (first length : Nat) : Node (Fin size) :=
  .mapping Yaml.mapTag ((List.range length).map fun i =>
    (Fin.ofNat size (first + 2 * i), Fin.ofNat size (first + 2 * i + 1)))

def text {size : Nat} (s : String) : Node (Fin size) :=
  .scalar Yaml.strTag s

def number {size : Nat} (s : String) : Node (Fin size) :=
  .scalar "tag:yaml.org,2002:int" s

/-- `config/budget-profiles.yaml`. -/
def budgetFile : ConfigurationFile where
  path := .ofText "config/budget-profiles.yaml"
  composed := document 51
    [mapping 1 2, text "version", number "2", text "profiles", mapping 5 1,
      text "interactive", mapping 7 22,
      text "metadata_statement_timeout_ms", number "2000",
      text "query_statement_timeout_ms", number "5000",
      text "query_transaction_timeout_ms", number "8000",
      text "query_queue_timeout_ms", number "1000",
      text "lock_timeout_ms", number "250",
      text "work_mem_kb", number "8192",
      text "temp_file_limit_kb", number "65536",
      text "max_parallel_workers_per_gather", number "0",
      text "jit_enabled", .scalar "tag:yaml.org,2002:bool" "false",
      text "max_pool_size", number "2",
      text "max_concurrent_queries", number "2",
      text "max_metadata_relations", number "200",
      text "max_metadata_columns", number "5000",
      text "max_columns_per_relation", number "300",
      text "max_context_columns_per_relation", number "40",
      text "max_metadata_response_bytes", number "1048576",
      text "max_result_rows", number "1000",
      text "max_result_bytes", number "1048576",
      text "max_sql_bytes", number "100000",
      text "max_plan_total_cost", number "100000",
      text "max_plan_rows", number "1000000",
      text "max_plan_nodes", number "100"]

/-- A database that is reached with a client certificate, at a host that a variable names. -/
def databaseFile : ConfigurationFile where
  path := .ofText "config/database-profiles.yaml"
  composed := document 21
    [mapping 1 2, text "version", number "1", text "profiles", mapping 5 1,
      text "main", mapping 7 6,
      text "host", text "db.internal", text "host_env", text "MAIN_HOST",
      text "port", number "5432", text "database", text "shop",
      text "sslmode", text "verify-full", text "authentication", mapping 19 1,
      text "type", text "client-certificate"]

/-- The package of a production source. -/
def package (sourceId name : String) : SourceEntry where
  name := sourceId
  isSymlink := false
  isDir := true
  resolved := "/srv/config/sources/" ++ sourceId
  files := .ok [⟨"source.yaml", false, true⟩, ⟨"views.sql", false, true⟩]
  manifest := document 31
    [mapping 1 11, text "version", number "6", text "source_id", text sourceId,
      text "name", text name, text "description", text "A source of the shop",
      text "provenance", mapping 23 3, text "database_profile", text "main",
      text "reader_user", text "reader", text "allowed_schemas", .sequence Yaml.seqTag [29],
      text "allowed_relation_kinds", .sequence Yaml.seqTag [30],
      text "view_contract_version", number "1", text "budget_profile", text "interactive",
      text "owner", text "shop-team", text "environment", text "production",
      text "database_migration_ref", text ("config/sources/" ++ sourceId ++ "/views.sql"),
      text "reporting", text "view"]

/-- A deployment, in an environment that sets the host. -/
def deploymentOf (entries : List SourceEntry) : Deployment where
  sourceDirectory := ⟨.ofText "/srv/config/sources", "/srv/config/sources", .ok entries⟩
  budgetFile := budgetFile
  databaseFile := databaseFile
  credentialDirectory := .ofText "/run/secrets/databases"
  environment := fun name => if name = "MAIN_HOST" then some "db-1,db-2" else none

/-- The deployment of one source. -/
def deployment : Deployment :=
  deploymentOf [package "orders" "Orders"]

/-- The deployment of two, which the directory lists in the other order. -/
def twoPackages : Deployment :=
  deploymentOf [package "stock" "Stock", package "orders" "Orders"]

/-- The profiles of the two files. -/
def budgets : List (String × BudgetProfile) :=
  ((deployment.budgets readers).toOption).getD []

def databases : List (Slug × DatabaseProfile) :=
  ((deployment.databases readers).toOption).getD []

theorem ok_of_isSome {ε α : Type} {x : Except ε α} (h : x.toOption.isSome = true) (default : α) :
    x = .ok (x.toOption.getD default) := by
  cases x with
  | error e => cases h
  | ok a => rfl

/-- The packages load. -/
theorem exists_source {sourceId name : String}
    (h : (loadSource readers deployment budgets databases
      (package sourceId name)).toOption.isSome = true) :
    ∃ source, loadSource readers deployment budgets databases (package sourceId name) =
      .ok source := by
  cases hload : loadSource readers deployment budgets databases (package sourceId name) with
  | error e => rw [hload] at h; cases h
  | ok source => exact ⟨source, rfl⟩

theorem exists_orders : ∃ source,
    loadSource readers deployment budgets databases (package "orders" "Orders") = .ok source :=
  exists_source (by decide +kernel)

theorem exists_stock : ∃ source,
    loadSource readers deployment budgets databases (package "stock" "Stock") = .ok source :=
  exists_source (by decide +kernel)

theorem budgets_eq : deployment.budgets readers = .ok budgets :=
  ok_of_isSome (by decide +kernel) []

theorem databases_eq : deployment.databases readers = .ok databases :=
  ok_of_isSome (by decide +kernel) []

/-- The directory loads. -/
theorem exists_sources : ∃ source, loadRegistry readers deployment = .ok [source] := by
  obtain ⟨source, hsource⟩ := exists_orders
  refine ⟨source, loadRegistry_eq_ok.2 ⟨budgets, databases, [package "orders" "Orders"], budgets_eq,
    databases_eq, rfl, List.cons_ne_nil _ _, ?_⟩⟩
  rw [List.mergeSort_singleton]
  exact .cons hsource .nil

/-- The directory with two packages loads, the sources in the order of their names. -/
theorem exists_twoSources : ∃ orders stock,
    loadRegistry readers twoPackages = .ok [orders, stock] := by
  obtain ⟨orders, horders⟩ := exists_orders
  obtain ⟨stock, hstock⟩ := exists_stock
  refine ⟨orders, stock, loadRegistry_eq_ok.2 ⟨budgets, databases,
    [package "stock" "Stock", package "orders" "Orders"], budgets_eq, databases_eq, rfl,
    List.cons_ne_nil _ _, ?_⟩⟩
  have horder : ¬ (package "stock" "Stock").name ≤ (package "orders" "Orders").name := by decide
  have hsorted : ([package "stock" "Stock", package "orders" "Orders"].mergeSort
      fun a b => a.name ≤ b.name) = [package "orders" "Orders", package "stock" "Stock"] := by
    simp [List.mergeSort, List.MergeSort.Internal.splitInTwo, horder]
  rw [hsorted]
  exact .cons horders (.cons hstock .nil)

/-- The same with one more variable. -/
def withPassword : Environment :=
  fun name => if name = "MAIN_PASSWORD" then some "secret" else deployment.environment name

/-- The database profile reads the variable of its host only. -/
theorem eq_of_reads {variableName : String} (h : deployment.Reads readers variableName) :
    variableName = "MAIN_HOST" := by
  obtain ⟨databases', entries, entry', parsed, database, hdatabases, -, -, -,
    hdatabase, hreads⟩ := h
  cases databases_eq.symm.trans hdatabases
  have hprofiles : ∀ item ∈ databases, item.2.hostEnv = some "MAIN_HOST" ∧ item.2.portEnv = none ∧
      item.2.authentication = .clientCertificate := by decide +kernel
  obtain ⟨item, hitem, rfl⟩ := mem_of_databaseOf hdatabase
  obtain ⟨hhost, hport, hauthentication⟩ := hprofiles item hitem
  rcases hreads with hname | hname | ⟨hname, -⟩
  · rw [hhost] at hname
    exact (Option.some.inj hname).symm
  · rw [hport] at hname
    cases hname
  · rw [hauthentication] at hname
    cases hname

end OnePackage

open OnePackage

theorem startupContract_of_load_orders :
    ∃ source, loadRegistry readers deployment = .ok [source] ∧
      StartupContract deployment source := by
  obtain ⟨source, hload⟩ := exists_sources
  exact ⟨source, hload, startupContract_of_load hload List.mem_cons_self⟩

/-- Two packages, listed by their ids and each found by its own. -/
theorem inventory_of_load_orders : ∃ (orders stock : ResolvedSource)
    (h : loadRegistry readers twoPackages = .ok [orders, stock]),
    [orders.profile.sourceId, stock.profile.sourceId].Perm ["stock", "orders"] ∧
      orders.profile.sourceId < stock.profile.sourceId ∧
      (∀ entry ∈ [package "stock" "Stock", package "orders" "Orders"], ∃ sourceFiles,
        entry.IsPackage sourceFiles) ∧
      (registryOf h).list = [orders.profile.listing, stock.profile.listing] ∧
      (registryOf h).get orders.profile.sourceId = some orders.profile ∧
      (registryOf h).get stock.profile.sourceId = some stock.profile := by
  obtain ⟨orders, stock, hload⟩ := exists_twoSources
  have hentries : twoPackages.sourceDirectory.entries =
    .ok [package "stock" "Stock", package "orders" "Orders"] := rfl
  obtain ⟨hperm, hincreasing, hpackages, hlist, hget⟩ :=
    inventory_of_load hentries (by decide) hload
  exact ⟨orders, stock, hload, hperm, List.rel_of_pairwise_cons hincreasing List.mem_cons_self,
    fun entry hmem => (hpackages entry hmem).2.2, hlist, hget _ List.mem_cons_self,
    hget _ (List.mem_cons_of_mem _ List.mem_cons_self)⟩

theorem loadRegistry_congr_password :
    loadRegistry readers { deployment with environment := withPassword } =
      loadRegistry readers deployment := by
  refine loadRegistry_congr fun variableName hreads => ?_
  rw [eq_of_reads hreads]
  decide

end QueryMan
