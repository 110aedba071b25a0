import QueryMan.Metadata.Catalog
import QueryMan.Python.Pydantic
import QueryMan.SourceCatalog.Registry

/-!
# Configuration files

The models of `source_catalog/registry.py` that its YAML files are validated by, and `_parse_model`.
What a pattern accepts carries the proof of it.
-/

namespace QueryMan

open Python Python.Pydantic
open Python.Yaml (Data Document Failure Scalar ScalarConstructors)

/-! ## Annotated types -/

/-- `Identifier`. -/
def identifier (lax : Lax) (value : Data) : Checked Identifier :=
  (str lax 0 63 value).andThen fun s =>
    if h : isIdentifier s = true then .valid ⟨s, h⟩ else Checked.issue "string_pattern_mismatch"

/-- A name that matches `STABLE_SLUG_PATTERN`. -/
structure Slug where
  text : String
  matchesPattern : isSlug text.toList = true

/-- `StableSlug`. -/
def stableSlug (lax : Lax) (value : Data) : Checked Slug :=
  (str lax 0 80 value).andThen fun s =>
    if h : isSlug s.toList = true then .valid ⟨s, h⟩ else Checked.issue "string_pattern_mismatch"

/-- `^[A-Za-z_][A-Za-z0-9_]*$`. -/
def isEnvironmentVariableName (s : String) : Bool :=
  match s.toList with
  | [] => false
  | c :: rest => isIdentifierStart c && rest.all fun c => isIdentifierPart c && c != '$'

/-- `EnvironmentVariableName`. -/
def environmentVariableName (lax : Lax) (value : Data) : Checked String :=
  pattern isEnvironmentVariableName (str lax 0 128 value)

/-- `ShortText`. -/
def shortText (lax : Lax) : Data → Checked String :=
  str lax 1 200

/-- `Description`. -/
def descriptionText (lax : Lax) : Data → Checked String :=
  str lax 1 2000

/-- `DatabaseMigrationRef`. -/
def databaseMigrationRef (lax : Lax) : Data → Checked String :=
  str lax 1 255

/-! ## `_BudgetFile` -/

/-- The bounds `ge` and `le` of a field of `_Budget`. -/
def budgetBounds (name : String) : Nat × Nat :=
  ((budgetFields.find? fun f => f.name = name).map fun f => (f.ge, f.le)).getD (0, 0)

/-- A bounded field of `_Budget`. -/
def budgetInt (lax : Lax) (name : String) (pairs : List (Scalar × Data)) : Checked Nat :=
  let bounds := budgetBounds name
  field name (fun value => within bounds.1 bounds.2 (int lax value)) pairs

/-- The names of the fields of `_Budget`. -/
def budgetNames : List String :=
  "jit_enabled" :: budgetFields.map (·.name)

/-- `_Budget`, as a profile without its name and version. -/
def budget (lax : Lax) (value : Data) : Checked BudgetProfile :=
  let parsed := model budgetNames (fun pairs =>
    BudgetProfile.mk "" 0 <$> budgetInt lax "metadata_statement_timeout_ms" pairs
      <*> budgetInt lax "query_statement_timeout_ms" pairs
      <*> budgetInt lax "query_transaction_timeout_ms" pairs
      <*> budgetInt lax "query_queue_timeout_ms" pairs
      <*> budgetInt lax "lock_timeout_ms" pairs
      <*> budgetInt lax "work_mem_kb" pairs
      <*> budgetInt lax "temp_file_limit_kb" pairs
      <*> budgetInt lax "max_parallel_workers_per_gather" pairs
      <*> field "jit_enabled" strictBool pairs
      <*> budgetInt lax "max_pool_size" pairs
      <*> budgetInt lax "max_concurrent_queries" pairs
      <*> budgetInt lax "max_metadata_relations" pairs
      <*> budgetInt lax "max_metadata_columns" pairs
      <*> budgetInt lax "max_columns_per_relation" pairs
      <*> budgetInt lax "max_context_columns_per_relation" pairs
      <*> budgetInt lax "max_metadata_response_bytes" pairs
      <*> budgetInt lax "max_result_rows" pairs
      <*> budgetInt lax "max_result_bytes" pairs
      <*> budgetInt lax "max_sql_bytes" pairs
      <*> budgetInt lax "max_plan_total_cost" pairs
      <*> budgetInt lax "max_plan_rows" pairs
      <*> budgetInt lax "max_plan_nodes" pairs) value
  parsed.require (fun profile => profile.maxConcurrentQueries ≤ profile.maxPoolSize)
    "max_concurrent_queries must be less than or equal to max_pool_size"

/-- A field that is read by its name is within its bounds. -/
theorem budgetInt_eq_valid {lax : Lax} {f : BudgetField} (hf : f ∈ budgetFields)
    {pairs : List (Scalar × Data)} {n : Nat} (h : budgetInt lax f.name pairs = .valid n) :
    f.ge ≤ n ∧ n ≤ f.le := by
  have hbounds : ∀ f ∈ budgetFields, budgetBounds f.name = (f.ge, f.le) := by
    simp only [budgetFields, List.forall_mem_cons]
    refine ⟨rfl, rfl, rfl, rfl, rfl, rfl, rfl, rfl, rfl, rfl, rfl, rfl, rfl, rfl, rfl, rfl, rfl,
      rfl, rfl, rfl, rfl, fun _ h => absurd h List.not_mem_nil⟩
  obtain ⟨value, -, hvalue⟩ := field_eq_valid.1 h
  have hwithin := within_eq_valid hvalue
  rw [hbounds f hf] at hwithin
  exact hwithin

/-- **An accepted budget passes the checks of the registry.** -/
theorem validateBudget_of_budget {lax : Lax} {value : Data} {profile : BudgetProfile}
    (h : budget lax value = .valid profile) : validateBudget profile = .ok () := by
  obtain ⟨hparsed, hcapacity⟩ := Checked.require_eq_valid.1 h
  obtain ⟨pairs, -, hfields⟩ := model_eq_valid hparsed
  refine validateBudget_ok.2 ⟨?_, of_decide_eq_true hcapacity⟩
  -- one application after the other is taken apart, and the profile is put together again
  repeat obtain ⟨_, _, hfields, _, _⟩ := Checked.seq_eq_valid.1 hfields
  have hmk := Checked.valid.inj hfields
  subst_vars
  intro f hf
  have hmem := hf
  simp only [budgetFields, List.mem_cons, List.not_mem_nil, or_false] at hf
  rcases hf with rfl | rfl | rfl | rfl | rfl | rfl | rfl | rfl | rfl | rfl | rfl | rfl | rfl | rfl |
    rfl | rfl | rfl | rfl | rfl | rfl | rfl
  all_goals exact budgetInt_eq_valid hmem ‹_›

/-- Name and version are not checked. -/
theorem validateBudget_named (name : String) (version : Nat) (profile : BudgetProfile) :
    validateBudget { profile with name := name, version := version } = validateBudget profile :=
  rfl

/-- `_BudgetFile`. -/
structure BudgetFile where
  version : Int
  profiles : List (Identifier × BudgetProfile)

/-- `_BudgetFile.model_validate`. -/
def BudgetFile.modelValidate (lax : Lax) (value : Data) : Checked BudgetFile :=
  let parsed := model ["version", "profiles"] (fun pairs =>
    BudgetFile.mk <$> field "version" strictInt pairs
      <*> field "profiles" (dict (·.text) (identifier lax) (budget lax)) pairs) value
  parsed.require (fun file => file.version = 2) "version must be 2"

/-! ## `_DatabaseFile` -/

/-- `_PasswordAuthentication | _ClientCertificateAuthentication`. -/
inductive Authentication where
  | password (passwordEnv : String)
  | clientCertificate
  deriving DecidableEq, Repr

/-- The union, by its `type`. -/
def authentication (lax : Lax) : Data → Checked Authentication :=
  taggedUnion "type"
    [("password", model ["type", "password_env"] fun pairs =>
        (fun _ passwordEnv => Authentication.password passwordEnv) <$>
          field "type" (literal [("password", ())]) pairs <*>
          field "password_env" (environmentVariableName lax) pairs),
      ("client-certificate", model ["type"] fun pairs =>
        (fun _ => Authentication.clientCertificate) <$>
          field "type" (literal [("client-certificate", ())]) pairs)]

/-- `_DatabaseProfile`. -/
structure DatabaseProfile where
  host : String
  hostEnv : Option String
  port : Nat
  portEnv : Option String
  database : Identifier
  sslmode : SSLMode
  authentication : Authentication

/-- `require_verified_tls_for_client_certificates`. -/
def requireVerifiedTlsForClientCertificates (profile : DatabaseProfile) : Bool :=
  !(profile.authentication = .clientCertificate && profile.sslmode ≠ .verifyFull)

/-- The words of `SSLMode`. -/
def sslmodeWords : List (String × SSLMode) :=
  [("disable", .disable), ("require", .require), ("verify-full", .verifyFull)]

/-- `_DatabaseProfile.model_validate`. -/
def databaseProfile (lax : Lax) (value : Data) : Checked DatabaseProfile :=
  let parsed := model ["host", "host_env", "port", "port_env", "database", "sslmode",
      "authentication"] (fun pairs =>
    DatabaseProfile.mk <$> field "host" (str lax 1 253) pairs
      <*> fieldOrNone "host_env" (optional (environmentVariableName lax)) pairs
      <*> field "port" (fun value => within 1 65535 (int lax value)) pairs
      <*> fieldOrNone "port_env" (optional (environmentVariableName lax)) pairs
      <*> field "database" (identifier lax) pairs
      <*> field "sslmode" (literal sslmodeWords) pairs
      <*> field "authentication" (authentication lax) pairs) value
  parsed.require requireVerifiedTlsForClientCertificates
    "client-certificate authentication requires sslmode verify-full"

/-- `_DatabaseFile`. -/
structure DatabaseFile where
  version : Int
  profiles : List (Slug × DatabaseProfile)

/-- `_DatabaseFile.model_validate`. -/
def DatabaseFile.modelValidate (lax : Lax) (value : Data) : Checked DatabaseFile :=
  let parsed := model ["version", "profiles"] (fun pairs =>
    DatabaseFile.mk <$> field "version" strictInt pairs
      <*> field "profiles" (dict (·.text) (stableSlug lax) (databaseProfile lax)) pairs) value
  (parsed.require (fun file => file.version = 1) "version must be 1").require
    (fun file => !file.profiles.isEmpty) "profiles must not be empty"

/-! ## `_SourceFile` -/

/-- `SourceEnvironment`. -/
inductive SourceEnvironment where
  | production
  | staging
  | development
  | test
  deriving DecidableEq, Repr

/-- `_Provenance`. -/
structure Provenance where
  owner : Slug
  environment : SourceEnvironment
  databaseMigrationRef : String

/-- `reject_ascii_control_characters`. -/
def rejectAsciiControlCharacters (validate : Data → Checked String) : Data → Checked String
  | .scalar (.str s) =>
    if s.toList.any fun c => c.toNat < 32 || c.toNat = 127 then
      Checked.issue "database_migration_ref cannot contain ASCII control characters"
    else validate (.scalar (.str s))
  | value => validate value

/-- `_Provenance.model_validate`. -/
def provenance (lax : Lax) : Data → Checked Provenance :=
  model ["owner", "environment", "database_migration_ref"] fun pairs =>
    Provenance.mk <$> field "owner" (stableSlug lax) pairs
      <*> field "environment" (literal [("production", .production), ("staging", .staging),
        ("development", .development), ("test", .test)]) pairs
      <*> field "database_migration_ref"
        (rejectAsciiControlCharacters (databaseMigrationRef lax)) pairs

/-- `_SourceFile`. -/
structure SourceFile where
  version : Int
  sourceId : Slug
  name : String
  description : String
  provenance : Provenance
  databaseProfile : Slug
  readerUser : Identifier
  allowedSchemas : List Identifier
  allowedRelationKinds : List String
  viewContractVersion : Int
  budgetProfile : Identifier

/-- `_SourceFile.model_validate`. -/
def SourceFile.modelValidate (lax : Lax) (value : Data) : Checked SourceFile :=
  let parsed := model ["version", "source_id", "name", "description", "provenance",
      "database_profile", "reader_user", "allowed_schemas", "allowed_relation_kinds",
      "view_contract_version", "budget_profile"] (fun pairs =>
    SourceFile.mk <$> field "version" strictInt pairs
      <*> field "source_id" (stableSlug lax) pairs
      <*> field "name" (shortText lax) pairs
      <*> field "description" (descriptionText lax) pairs
      <*> field "provenance" (QueryMan.provenance lax) pairs
      <*> field "database_profile" (stableSlug lax) pairs
      <*> field "reader_user" (identifier lax) pairs
      <*> field "allowed_schemas" (list lax 1 20 (identifier lax)) pairs
      <*> field "allowed_relation_kinds" (list lax 1 1 (literal [("view", "view")])) pairs
      <*> field "view_contract_version"
        (fun value => (strictInt value).require (fun i => 1 ≤ i) "greater_than_equal") pairs
      <*> field "budget_profile" (identifier lax) pairs) value
  (parsed.require (fun file => file.version = 6) "version must be 6").require
    (fun file => file.allowedRelationKinds = ["view"])
    "allowed_relation_kinds must be exactly [view]"

/-! ## `_parse_model` -/

/-- What reading a file and constructing its document raises. -/
inductive Raised where
  | osError
  | yamlError
  | other
  deriving DecidableEq, Repr

/-- The error that a `RegistryConfigurationError` of `_parse_model` is raised from. -/
inductive ConfigurationCause where
  | osError
  | yamlError
  | validationError (issues : List Issue)
  deriving DecidableEq, Repr

/-- What leaves `_parse_model`: the error that names the file, or an exception that it lets pass. -/
inductive ParseFailure where
  | registryConfigurationError (path : String) (error : ConfigurationCause)
  | other
  deriving DecidableEq, Repr

/-- The models look no deeper than the `type` of the authentication of a database profile. -/
def manifestDepth : Nat := 5

/-- The exceptions of the constructors. -/
def Raised.ofFailure : Failure → Raised
  | .yamlError => .yamlError
  | .other => .other

section
variable {α : Type} (loader : ScalarConstructors)

/-- `yaml.safe_load` of a composed file, which may have no document. -/
def safeLoad (composed : Except Raised (Option ((size : Nat) × Document size))) :
    Except Raised Data :=
  match composed with
  | .error raised => .error raised
  | .ok none => .ok (.scalar .null)
  | .ok (some ⟨_, doc⟩) => (doc.construct loader manifestDepth).mapError Raised.ofFailure

/-- A validated model, or the error that names the file. -/
def validated (path : String) : Checked α → Except ParseFailure α
  | .valid parsed => .ok parsed
  | .invalid issues => .error (.registryConfigurationError path (.validationError issues))

/-- `_parse_model`. -/
def parseModel (path : String)
    (composed : Except Raised (Option ((size : Nat) × Document size)))
    (modelValidate : Data → Checked α) : Except ParseFailure α :=
  match safeLoad loader composed with
  | .error .osError => .error (.registryConfigurationError path .osError)
  | .error .yamlError => .error (.registryConfigurationError path .yamlError)
  | .error .other => .error .other
  | .ok value => validated path (modelValidate value)

variable {loader} in
/-- A parsed model has been validated. -/
theorem validate_of_parseModel {path : String}
    {composed : Except Raised (Option ((size : Nat) × Document size))}
    {modelValidate : Data → Checked α} {parsed : α}
    (h : parseModel loader path composed modelValidate = .ok parsed) :
    ∃ value, modelValidate value = .valid parsed := by
  unfold parseModel at h
  split at h
  · cases h
  · cases h
  · cases h
  · next value _ =>
    refine ⟨value, ?_⟩
    cases hvalue : modelValidate value with
    | valid parsed' =>
      rw [hvalue] at h
      rw [Except.ok.inj h]
    | invalid issues =>
      rw [hvalue] at h
      cases h

/-- `load_budget_profiles`. -/
def loadBudgetProfiles (lax : Lax) (path : String)
    (composed : Except Raised (Option ((size : Nat) × Document size))) :
    Except ParseFailure (List (String × BudgetProfile)) := do
  let parsed ← parseModel loader path composed (BudgetFile.modelValidate lax)
  pure (parsed.profiles.map fun (name, profile) =>
    (name.text, { profile with name := name.text, version := parsed.version.toNat }))

/-- **Every loaded budget passes the checks of the registry.** -/
theorem validateBudget_of_load {lax : Lax} {path : String}
    {composed : Except Raised (Option ((size : Nat) × Document size))}
    {profiles : List (String × BudgetProfile)}
    (h : loadBudgetProfiles loader lax path composed = .ok profiles) :
    ∀ p ∈ profiles, validateBudget p.2 = .ok () := by
  obtain ⟨file, hfile, heq⟩ := bind_eq_ok.1 h
  rw [← pure_eq_ok.1 heq]
  intro p hp
  obtain ⟨⟨name, profile⟩, hmem, rfl⟩ := List.mem_map.1 hp
  obtain ⟨value, hvalue⟩ := validate_of_parseModel hfile
  obtain ⟨hparsed, -⟩ := Checked.require_eq_valid.1 hvalue
  obtain ⟨pairs, -, hfields⟩ := model_eq_valid hparsed
  obtain ⟨version, entries, -, hentries, rfl⟩ := Checked.map_seq_eq_valid.1 hfields
  obtain ⟨dictValue, -, hdict⟩ := field_eq_valid.1 hentries
  obtain ⟨value', hbudget⟩ := validated_of_dict hdict hmem
  exact (validateBudget_named name.text version.toNat profile).trans
    (validateBudget_of_budget hbudget)

end

end QueryMan
