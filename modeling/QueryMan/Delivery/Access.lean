import QueryMan.Python.Value
import QueryMan.Runtime.Config

/-!
# Callers and credentials

`delivery/access.py`. `readPolicy` stands for `yaml.safe_load` and the typing of its fields;
the patterns, lengths and cross-field checks of the policy file are `PolicyFile.valid`. `digest` is
SHA-256 of the UTF-8 text.
-/

namespace QueryMan

open Python

/-- `CallerContext`. -/
structure CallerContext where
  callerId : String
  tenantId : String
  operator : Bool := false
  deriving DecidableEq, Repr

/-- `_Credential`. -/
structure Credential (Digest : Type) where
  tokenDigest : Digest
  caller : CallerContext

/-- `_Caller`. -/
structure Caller where
  callerId : String
  tenantId : String
  tokenEnv : String
  operator : Bool
  deriving DecidableEq, Repr

/-- `_PolicyFile`. -/
structure PolicyFile where
  version : Int
  callers : List Caller
  deriving DecidableEq, Repr

/-- `AccessPolicyConfigurationError`, by its cause. -/
inductive AccessPolicyError where
  | invalidFile (path : Path)
  | tokenLength (tokenEnv : String)
  | duplicateToken
  deriving DecidableEq, Repr

/-- A character of `[A-Za-z]`. -/
def isAsciiLetter (c : Char) : Bool :=
  ('a' ≤ c ∧ c ≤ 'z') ∨ ('A' ≤ c ∧ c ≤ 'Z')

/-- A character of `[0-9]`. -/
def isAsciiDigit (c : Char) : Bool :=
  '0' ≤ c ∧ c ≤ '9'

/-- `first rest{0,n}`: the patterns of identifiers. -/
def matchesWord (first rest : Char → Bool) (n : Nat) (s : String) : Bool :=
  match s.toList with
  | [] => false
  | c :: cs => first c && cs.all rest && decide (cs.length ≤ n)

/-- The `Identifier` of `delivery/access.py`: `^[A-Za-z][A-Za-z0-9_-]{0,79}$`. -/
def isCallerIdentifier (s : String) : Bool :=
  matchesWord isAsciiLetter
    (fun c => isAsciiLetter c || isAsciiDigit c || c == '_' || c == '-') 79 s

/-- `EnvironmentName`: `^[A-Z][A-Z0-9_]{0,127}$`. -/
def isEnvironmentName (s : String) : Bool :=
  matchesWord (fun c => 'A' ≤ c ∧ c ≤ 'Z')
    (fun c => ('A' ≤ c ∧ c ≤ 'Z') || isAsciiDigit c || c == '_') 127 s

/-- The field checks of `_Caller`. -/
def Caller.valid (c : Caller) : Bool :=
  isCallerIdentifier c.callerId && isCallerIdentifier c.tenantId && isEnvironmentName c.tokenEnv

/-- The field checks of `_PolicyFile` and its validator `valid_policy`. -/
def PolicyFile.valid (f : PolicyFile) : Bool :=
  f.callers.all Caller.valid && decide (1 ≤ f.callers.length ∧ f.callers.length ≤ 1000) &&
    decide (f.version = 2) && decide (f.callers.map Caller.callerId).Nodup &&
    decide (f.callers.map Caller.tokenEnv).Nodup

section
variable {Digest : Type} [DecidableEq Digest] (digest : String → Digest)

/-- `AccessPolicy`. -/
structure AccessPolicy (Digest : Type) where
  credentials : List (Credential Digest)
  anonymous : Option CallerContext := none

/-- `AccessPolicy.local`. -/
def AccessPolicy.localPolicy (Digest : Type) : AccessPolicy Digest where
  credentials := []
  anonymous := some { callerId := "local-development", tenantId := "local-development" }

/-- The caller of `AccessPolicy.legacy`. -/
def legacyCaller : CallerContext :=
  { callerId := "legacy-api-token", tenantId := "default" }

/-- `AccessPolicy.legacy`. -/
def AccessPolicy.legacy (token : String) : AccessPolicy Digest where
  credentials := [⟨digest token, legacyCaller⟩]

/-- The context of a configured caller. -/
def Caller.context (c : Caller) : CallerContext :=
  { callerId := c.callerId, tenantId := c.tenantId, operator := c.operator }

/-- `values.get(token_env, "")`. -/
def Caller.token (environment : Environment) (c : Caller) : String :=
  (environment c.tokenEnv).getD ""

/-- One turn of the loop of `AccessPolicy.load`. The digests seen are those of the credentials. -/
def addCredential (environment : Environment) (credentials : List (Credential Digest))
    (configured : Caller) : Except AccessPolicyError (List (Credential Digest)) := do
  let token := configured.token environment
  raiseIf (¬ (32 ≤ token.length ∧ token.length ≤ 512))
    (AccessPolicyError.tokenLength configured.tokenEnv)
  raiseIf (digest token ∈ credentials.map Credential.tokenDigest) AccessPolicyError.duplicateToken
  return credentials ++ [⟨digest token, configured.context⟩]

/-- `AccessPolicy.load`. -/
def AccessPolicy.load (readPolicy : Path → Except String PolicyFile) (environment : Environment)
    (path : Path) : Except AccessPolicyError (AccessPolicy Digest) :=
  match readPolicy path with
  | .error _ => throw (.invalidFile path)
  | .ok parsed => do
    raiseIf (¬ parsed.valid) (AccessPolicyError.invalidFile path)
    let credentials ← parsed.callers.foldlM (addCredential digest environment) []
    return { credentials }

/-- `AccessPolicy.authenticate`: the last credential that matches answers. -/
def AccessPolicy.authenticate (policy : AccessPolicy Digest) (token : Option String) :
    Option CallerContext :=
  match token with
  | none => policy.anonymous
  | some token =>
    if ¬ (32 ≤ token.length ∧ token.length ≤ 512) then none
    else
      policy.credentials.foldl
        (fun matched credential =>
          if digest token = credential.tokenDigest then some credential.caller else matched)
        none

/-- The authority that `build_app` selects from the configuration. -/
def selectAccessPolicy (readPolicy : Path → Except String PolicyFile) (environment : Environment)
    (config : RuntimeConfig) : Except AccessPolicyError (AccessPolicy Digest) :=
  match config.accessPolicyFile, config.apiToken with
  | some path, _ => AccessPolicy.load digest readPolicy environment path
  | none, some token => .ok (.legacy digest token)
  | none, none => .ok (.localPolicy Digest)

/-! ## What a policy can answer -/

/-- `token` is the token that the configuration gives to `caller`. -/
inductive ConfiguredToken (readPolicy : Path → Except String PolicyFile)
    (environment : Environment) (config : RuntimeConfig) : CallerContext → String → Prop where
  | legacy {token : String} (hfile : config.accessPolicyFile = none)
      (htoken : config.apiToken = some token) :
      ConfiguredToken readPolicy environment config legacyCaller token
  | file {path : Path} {file : PolicyFile} {caller : Caller}
      (hfile : config.accessPolicyFile = some path) (hread : readPolicy path = .ok file)
      (hmem : caller ∈ file.callers) :
      ConfiguredToken readPolicy environment config caller.context (caller.token environment)

variable {digest}

/-- The scan over the credentials answers with one of them, or with what it started from. -/
theorem foldl_matched {token : String} {credentials : List (Credential Digest)}
    {start : Option CallerContext} {caller : CallerContext}
    (h : credentials.foldl
      (fun matched credential =>
        if digest token = credential.tokenDigest then some credential.caller else matched)
      start = some caller) :
    start = some caller ∨
      ∃ c ∈ credentials, c.tokenDigest = digest token ∧ c.caller = caller := by
  induction credentials generalizing start with
  | nil => exact .inl h
  | cons c rest ih =>
    rcases ih h with h | ⟨c', hc', h⟩
    · dsimp only at h
      split at h
      · next heq => exact .inr ⟨c, .head _, heq.symm, Option.some.inj h⟩
      · exact .inl h
    · exact .inr ⟨c', .tail _ hc', h⟩

/-- A token that a policy without an anonymous caller accepts has the digest of a credential. -/
theorem AccessPolicy.authenticate_some {policy : AccessPolicy Digest}
    (hanon : policy.anonymous = none) {token : Option String} {caller : CallerContext}
    (h : policy.authenticate digest token = some caller) :
    ∃ t, token = some t ∧
      ∃ c ∈ policy.credentials, c.tokenDigest = digest t ∧ c.caller = caller := by
  cases token with
  | none => rw [authenticate, hanon] at h; cases h
  | some t =>
    refine ⟨t, rfl, ?_⟩
    rw [authenticate] at h
    split at h
    · cases h
    · exact (foldl_matched h).resolve_left nofun

/-- The credentials that the loop of `AccessPolicy.load` ends with are those it started with and
one for each configured caller. -/
theorem foldlM_addCredential_mem {environment : Environment} {callers : List Caller}
    {start result : List (Credential Digest)}
    (h : callers.foldlM (addCredential digest environment) start = .ok result) :
    ∀ c ∈ result, c ∈ start ∨
      ∃ caller ∈ callers, c = ⟨digest (caller.token environment), caller.context⟩ := by
  induction callers generalizing start with
  | nil =>
    cases h
    exact fun c hc => .inl hc
  | cons caller rest ih =>
    rw [List.foldlM_cons, bind_eq_ok] at h
    obtain ⟨next, hadd, h⟩ := h
    simp only [addCredential, bind_eq_ok, pure_eq_ok] at hadd
    obtain ⟨-, -, -, -, rfl⟩ := hadd
    intro c hc
    rcases ih h c hc with hmem | ⟨caller', hmem, rfl⟩
    · rw [List.mem_append, List.mem_singleton] at hmem
      rcases hmem with hmem | rfl
      · exact .inl hmem
      · exact .inr ⟨caller, .head _, rfl⟩
    · exact .inr ⟨caller', .tail _ hmem, rfl⟩

/-- A loaded policy has no anonymous caller, and each of its credentials is a configured one. -/
theorem AccessPolicy.load_ok {readPolicy : Path → Except String PolicyFile}
    {environment : Environment} {path : Path} {policy : AccessPolicy Digest}
    (h : AccessPolicy.load digest readPolicy environment path = .ok policy) :
    policy.anonymous = none ∧
      ∃ file, readPolicy path = .ok file ∧ ∀ c ∈ policy.credentials,
        ∃ caller ∈ file.callers, c = ⟨digest (caller.token environment), caller.context⟩ := by
  unfold AccessPolicy.load at h
  split at h
  · cases h
  · next file hread =>
    simp only [bind_eq_ok, pure_eq_ok] at h
    obtain ⟨-, -, credentials, hfold, rfl⟩ := h
    exact ⟨rfl, file, hread, fun c hc =>
      (foldlM_addCredential_mem hfold c hc).resolve_left List.not_mem_nil⟩

end

end QueryMan
