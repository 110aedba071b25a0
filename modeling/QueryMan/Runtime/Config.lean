import QueryMan.Python.CaseFold
import QueryMan.Python.Checks
import QueryMan.Python.IpAddress
import QueryMan.Python.Text

/-!
# Runtime configuration

`runtime/config.py`: the environment variables, their bounds and the cross-field checks of
`load_runtime_config`. The text-to-integer conversion of the settings library is the parameter
`parseInt`; the settings it fills are read by alias first and by field name second
(`populate_by_name`).
-/

namespace QueryMan

open Python

/-- An environment mapping. -/
abbrev Environment := String → Option String

/-- A `pathlib.Path`, whose file system is asked elsewhere. -/
abbrev Path := PurePosixPath

/-- `_RETIRED_SOURCE_AUTHORITY_SETTINGS`. -/
def retiredSourceAuthoritySettings : List String :=
  ["QUERY_MAN_SOURCE_MODE", "QUERY_MAN_CONTROL_DSN", "QUERY_MAN_SOURCE_ENCRYPTION_KEY",
    "QUERY_MAN_REPLICA_ID", "QUERY_MAN_SOURCE_RELOAD_INTERVAL_MS"]

/-- The `ValueError`s of `load_runtime_config`. `invalid` is the wrapped validation error, with the
settings it names. -/
inductive ConfigurationError where
  | retiredSettings (settings : List String)
  | invalid (settings : List String)
  | twoAuthorities
  | missingAuthentication
  deriving DecidableEq, Repr

/-- The text of the error; what the settings library adds to an `invalid` one is its own. -/
def ConfigurationError.message : ConfigurationError → String
  | retiredSettings settings =>
    "Git-reviewed source packages are the only source authority; remove: " ++
      ", ".intercalate settings
  | invalid _ => "Invalid runtime configuration: "
  | twoAuthorities =>
    "Configure exactly one of QUERY_MAN_API_TOKEN or QUERY_MAN_ACCESS_POLICY_FILE"
  | missingAuthentication =>
    "QUERY_MAN_API_TOKEN or QUERY_MAN_ACCESS_POLICY_FILE is required when " ++
      "QUERY_MAN_HOST is not loopback"

/-! ## The settings model -/

/-- A setting is read under its alias, else under its field name. -/
def setting (env : Environment) (key name : String) : Option String :=
  (env key).orElse fun _ => env name

/-- A `str` field with a default: a given text must pass `valid`. -/
def textField (valid : String → Bool) (default : String) (env : Environment)
    (key name : String) : Except String String :=
  match setting env key name with
  | none => .ok default
  | some value => if valid value then .ok value else .error key

/-- A `str | None` field with default `None`. -/
def optionalTextField (valid : String → Bool) (env : Environment) (key name : String) :
    Except String (Option String) :=
  match setting env key name with
  | none => .ok none
  | some value => if valid value then .ok (some value) else .error key

/-- An `int` field with a default and inclusive bounds. -/
def intField (parseInt : String → Option Int) (low high default : Int) (env : Environment)
    (key name : String) : Except String Int :=
  match setting env key name with
  | none => .ok default
  | some value =>
    match parseInt value with
    | some i => if low ≤ i ∧ i ≤ high then .ok i else .error key
    | none => .error key

/-- The levels `valid_log_level` allows. -/
def allowedLogLevels : List String :=
  ["critical", "fatal", "error", "warning", "warn", "info", "debug"]

/-- `value.lower()`, as far as the allowed levels can tell. -/
def lowerAscii (value : String) : String :=
  String.ofList (value.toList.map Char.toLower)

/-- `_Environment`. -/
structure ParsedEnvironment where
  host : String
  port : Int
  logLevel : String
  apiToken : Option String
  sourceDir : Option String
  budgetFile : Option String
  databaseFile : Option String
  databaseCredentialDirectory : String
  accessPolicyFile : Option String
  cacheTtlMs : Int
  maxStaleMs : Int
  retryDelayMs : Int
  shutdownGraceMs : Int
  deriving DecidableEq, Repr

/-- The setting a failed field names. -/
def failedSetting {α : Type} : Except String α → Option String
  | .ok _ => none
  | .error s => some s

/-- `_Environment.model_validate`. Every field is checked before the error is raised. -/
def ParsedEnvironment.validate (parseInt : String → Option Int) (env : Environment) :
    Except ConfigurationError ParsedEnvironment := do
  let host := textField (fun s => 1 ≤ s.length) "127.0.0.1" env "QUERY_MAN_HOST" "host"
  let port := intField parseInt 1 65535 3000 env "QUERY_MAN_PORT" "port"
  let logLevel := textField (fun s => lowerAscii s ∈ allowedLogLevels) "info" env
    "QUERY_MAN_LOG_LEVEL" "log_level"
  let apiToken := optionalTextField (fun s => 32 ≤ s.length ∧ s.length ≤ 512) env
    "QUERY_MAN_API_TOKEN" "api_token"
  let sourceDir := optionalTextField (fun _ => true) env "QUERY_MAN_SOURCE_DIR" "source_dir"
  let budgetFile := optionalTextField (fun _ => true) env "QUERY_MAN_BUDGET_FILE" "budget_file"
  let databaseFile :=
    optionalTextField (fun _ => true) env "QUERY_MAN_DATABASE_FILE" "database_file"
  let databaseCredentialDirectory :=
    textField (fun s => 1 ≤ s.length ∧ (PurePosixPath.ofText s).isAbsolute)
      "/run/secrets/query-man/databases" env "QUERY_MAN_DATABASE_CREDENTIAL_DIRECTORY"
      "database_credential_directory"
  let accessPolicyFile :=
    optionalTextField (fun _ => true) env "QUERY_MAN_ACCESS_POLICY_FILE" "access_policy_file"
  let cacheTtlMs := intField parseInt 0 3600000 30000 env
    "QUERY_MAN_METADATA_CACHE_TTL_MS" "cache_ttl_ms"
  let maxStaleMs := intField parseInt 0 86400000 300000 env
    "QUERY_MAN_METADATA_MAX_STALE_MS" "max_stale_ms"
  let retryDelayMs := intField parseInt 100 300000 5000 env
    "QUERY_MAN_METADATA_RETRY_DELAY_MS" "retry_delay_ms"
  let shutdownGraceMs := intField parseInt 0 300000 10000 env
    "QUERY_MAN_SHUTDOWN_GRACE_MS" "shutdown_grace_ms"
  let failed := [failedSetting host, failedSetting port, failedSetting logLevel,
    failedSetting apiToken, failedSetting sourceDir, failedSetting budgetFile,
    failedSetting databaseFile, failedSetting databaseCredentialDirectory,
    failedSetting accessPolicyFile, failedSetting cacheTtlMs, failedSetting maxStaleMs,
    failedSetting retryDelayMs, failedSetting shutdownGraceMs].reduceOption
  let checked {α : Type} (field : Except String α) : Except ConfigurationError α :=
    field.mapError fun _ => .invalid failed
  return {
    host := ← checked host
    port := ← checked port
    logLevel := lowerAscii (← checked logLevel)
    apiToken := ← checked apiToken
    sourceDir := ← checked sourceDir
    budgetFile := ← checked budgetFile
    databaseFile := ← checked databaseFile
    databaseCredentialDirectory := ← checked databaseCredentialDirectory
    accessPolicyFile := ← checked accessPolicyFile
    cacheTtlMs := ← checked cacheTtlMs
    maxStaleMs := ← checked maxStaleMs
    retryDelayMs := ← checked retryDelayMs
    shutdownGraceMs := ← checked shutdownGraceMs }

/-! ## The runtime configuration -/

/-- `RuntimeConfig`. -/
structure RuntimeConfig where
  host : String
  port : Int
  logLevel : String
  apiToken : Option String
  sourceDirectory : Path
  budgetFile : Path
  databaseFile : Path
  databaseCredentialDirectory : Path
  accessPolicyFile : Option Path
  metadataCacheTtlMs : Int
  metadataMaxStaleMs : Int
  metadataRetryDelayMs : Int
  shutdownGraceMs : Int
  deriving DecidableEq, Repr

/-- `_is_loopback`. -/
def isLoopback (host : String) : Bool :=
  if casefold host = "localhost" then true
  else (ipIsLoopback host).getD false

/-- `values.pop(name)` for each of the names set to the empty text. -/
def dropEmpty (names : List String) (values : Environment) : Environment :=
  fun name => if name ∈ names ∧ values name = some "" then none else values name

/-- `Path(value) if value else default`: the empty text counts as no value. -/
def pathOr (default : Path) : Option String → Path
  | some value => if value ≠ "" then .ofText value else default
  | none => default

/-- `load_runtime_config`, from the environment and the resolved root directory. -/
def loadRuntimeConfig (parseInt : String → Option Int) (environment : Environment)
    (root : Path) : Except ConfigurationError RuntimeConfig := do
  let retired := retiredSourceAuthoritySettings.filter fun name => (environment name).isSome
  raiseIf (retired ≠ []) (ConfigurationError.retiredSettings retired)
  let values := dropEmpty ["QUERY_MAN_API_TOKEN"] environment
  let parsed ← ParsedEnvironment.validate parseInt values
  raiseIf (parsed.apiToken.isSome ∧ parsed.accessPolicyFile.isSome)
    ConfigurationError.twoAuthorities
  raiseIf (¬ isLoopback parsed.host ∧ parsed.apiToken.isNone ∧ parsed.accessPolicyFile.isNone)
    ConfigurationError.missingAuthentication
  let config := root.join "config"
  return {
    host := parsed.host
    port := parsed.port
    logLevel := parsed.logLevel
    apiToken := parsed.apiToken
    sourceDirectory := pathOr (config.join "sources") parsed.sourceDir
    budgetFile := pathOr (config.join "budget-profiles.yaml") parsed.budgetFile
    databaseFile := pathOr (config.join "database-profiles.yaml") parsed.databaseFile
    databaseCredentialDirectory := .ofText parsed.databaseCredentialDirectory
    -- an empty setting is a given authority above, and no authority from here on
    accessPolicyFile := parsed.accessPolicyFile.bind fun value =>
      if value ≠ "" then some (.ofText value) else none
    metadataCacheTtlMs := parsed.cacheTtlMs
    metadataMaxStaleMs := parsed.maxStaleMs
    metadataRetryDelayMs := parsed.retryDelayMs
    shutdownGraceMs := parsed.shutdownGraceMs }

/-! ## Which authority an accepted environment configures -/

/-- The `QUERY_MAN_ACCESS_POLICY_FILE` setting of an environment. -/
def accessPolicySetting (env : Environment) : Option String :=
  setting env "QUERY_MAN_ACCESS_POLICY_FILE" "access_policy_file"

/-- The empty API token that `load_runtime_config` drops is no access-policy setting. -/
theorem accessPolicySetting_dropEmpty (env : Environment) :
    accessPolicySetting (dropEmpty ["QUERY_MAN_API_TOKEN"] env) = accessPolicySetting env := by
  simp [accessPolicySetting, setting, dropEmpty]

/-- The access-policy field of an accepted environment is its setting, unchecked. -/
theorem ParsedEnvironment.validate_accessPolicyFile {parseInt : String → Option Int}
    {env : Environment} {parsed : ParsedEnvironment}
    (h : ParsedEnvironment.validate parseInt env = .ok parsed) :
    parsed.accessPolicyFile = accessPolicySetting env := by
  simp only [validate, bind_eq_ok, mapError_eq_ok] at h
  obtain ⟨_, _, _, _, _, _, _, _, _, _, _, _, _, _, _, _, policyFile, hpolicy, _, _, _, _, _, _,
    _, _, h⟩ := h
  cases h
  unfold optionalTextField at hpolicy
  unfold accessPolicySetting
  split at hpolicy
  · next hnone => rw [hnone]; exact (Except.ok.inj hpolicy).symm
  · next value hsome => rw [hsome]; exact (Except.ok.inj hpolicy).symm

/-- An accepted environment off loopback configures an authority, except when its access-policy
setting is the empty text: that one passes both cross-field checks and is then dropped. -/
theorem loadRuntimeConfig_authority {parseInt : String → Option Int} {environment : Environment}
    {root : Path} {config : RuntimeConfig}
    (h : loadRuntimeConfig parseInt environment root = .ok config)
    (hhost : isLoopback config.host = false) :
    (config.accessPolicyFile.isSome ∨ config.apiToken.isSome) ↔
      accessPolicySetting environment ≠ some "" := by
  simp only [loadRuntimeConfig, bind_eq_ok, raiseIf_eq_ok, pure_eq_ok] at h
  obtain ⟨-, -, parsed, hparsed, -, htwo, -, hmissing, rfl⟩ := h
  have hpolicy : parsed.accessPolicyFile = accessPolicySetting environment := by
    rw [parsed.validate_accessPolicyFile hparsed, accessPolicySetting_dropEmpty]
  rw [← hpolicy]
  dsimp only at hhost ⊢
  cases hfile : parsed.accessPolicyFile with
  | none =>
    have : parsed.apiToken ≠ none := by
      intro htoken
      simp [hhost, htoken, hfile] at hmissing
    simpa [Option.isSome_iff_ne_none] using this
  | some value =>
    have : parsed.apiToken = none := by
      cases htoken : parsed.apiToken with
      | none => rfl
      | some token => simp [htoken, hfile] at htwo
    simp [this]

end QueryMan
