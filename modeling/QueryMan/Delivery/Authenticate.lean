import QueryMan.Delivery.Access
import QueryMan.Python.TableDigest
import QueryMan.Runtime.Operations

/-!
# The authenticate middleware

The HTTP middleware of `delivery/app.py`, and who it lets in under the access policy that
`build_app` selects. Off loopback a request is refused or attributed to a caller whose token it
presents, unless the access-policy setting is the empty text: `load_runtime_config` counts that
setting as an authority, and the configuration it builds has none. A token is presented by a text of
its digest, since the policy compares nothing else.
-/

namespace QueryMan

open Python

/-- `_bearer_token` of a header value. -/
def bearerToken (authorization : String) : Option String :=
  match authorization.toList with
  | 'B' :: 'e' :: 'a' :: 'r' :: 'e' :: 'r' :: ' ' :: token =>
    if token = [] ∨ token.any isSpace then none else some (String.ofList token)
  | _ => none

/-- What the middleware reads of a request. -/
structure Request where
  method : String
  path : String
  authorizations : List String

/-- The one bearer token of the request has the digest of this token. -/
def Request.Presents {Digest : Type} (digest : String → Digest) (request : Request)
    (token : String) : Prop :=
  ∃ presented, request.authorizations = ["Bearer " ++ presented] ∧ digest presented = digest token

/-- It is the token, if no other text has its digest. -/
theorem Request.Presents.authorizations {Digest : Type} {digest : String → Digest}
    {request : Request} {token : String} (h : request.Presents digest token)
    (hdigest : ∀ other, digest other = digest token → other = token) :
    request.authorizations = ["Bearer " ++ token] := by
  obtain ⟨presented, hheader, heq⟩ := h
  rw [hheader, hdigest presented heq]

/-- How the middleware answers. `forward` calls the next handler, with the caller it attributes the
request to; the status requests are forwarded without one. -/
inductive AuthOutcome where
  | serviceShuttingDown
  | unauthorized
  | forward (caller : Option CallerContext)
  deriving DecidableEq, Repr

/-- The paths that need no caller. -/
def publicPaths : List String := ["/health", "/ready"]

section
variable {Digest : Type} [DecidableEq Digest] (digest : String → Digest)

/-- `authenticate`. -/
def authenticate (policy : AccessPolicy Digest) (operations : OperationalState)
    (request : Request) : AuthOutcome :=
  if operations.publicStatus = .shuttingDown ∧ request.path ∉ publicPaths then .serviceShuttingDown
  else if request.path ∉ publicPaths then
    let received := match request.authorizations with
      | [authorization] => bearerToken authorization
      | _ => none
    let caller := if request.authorizations.length ≤ 1 then
        policy.authenticate digest received
      else none
    match caller with
    | none => .unauthorized
    | some caller => .forward (some caller)
  else .forward none

variable {digest}

/-- The token of a header value follows `Bearer `. -/
theorem bearerToken_some {authorization token : String}
    (h : bearerToken authorization = some token) :
    authorization = "Bearer " ++ token := by
  unfold bearerToken at h
  split at h
  · next token' heq =>
    split at h
    · cases h
    · obtain rfl := Option.some.inj h
      simp [← String.toList_inj, heq]
  · cases h

/-- The middleware attributes a request off the public paths only to a caller that the policy
answers for the one token the request carries, or for no token. -/
theorem authenticate_forward {policy : AccessPolicy Digest} {operations : OperationalState}
    {request : Request} {caller : Option CallerContext} (hpath : request.path ∉ publicPaths)
    (h : authenticate digest policy operations request = .forward caller) :
    ∃ c received, caller = some c ∧ policy.authenticate digest received = some c ∧
      ∀ t, received = some t → request.authorizations = ["Bearer " ++ t] := by
  unfold authenticate at h
  split at h
  · cases h
  · dsimp only at h
    split at h
    · cases h
    · next c hc =>
      split at hc
      · refine ⟨c, _, (AuthOutcome.forward.inj h).symm, hc, fun t ht => ?_⟩
        split at ht
        · next authorization heq => rw [heq, bearerToken_some ht]
        · cases ht
      · cases hc

/-- Off loopback: every request outside the public paths is refused, or attributed to a caller whose
configured token it presents; and the policy has no anonymous caller. -/
def NoAnonymousAccess (digest : String → Digest) (readPolicy : Path → Except String PolicyFile)
    (environment : Environment) (config : RuntimeConfig) : Prop :=
  ∀ policy, selectAccessPolicy digest readPolicy environment config = .ok policy →
    policy.anonymous = none ∧
    ∀ (operations : OperationalState) (request : Request), request.path ∉ publicPaths →
      ∀ caller, authenticate digest policy operations request = .forward caller →
        ∃ c token, caller = some c ∧ ConfiguredToken readPolicy environment config c token ∧
          request.Presents digest token

/-- A configuration with an authority lets nobody in without a token. -/
theorem noAnonymousAccess_of_authority {readPolicy : Path → Except String PolicyFile}
    {environment : Environment} {config : RuntimeConfig}
    (hauth : config.accessPolicyFile.isSome ∨ config.apiToken.isSome) :
    NoAnonymousAccess digest readPolicy environment config := by
  intro policy hsel
  -- every credential of the selected policy is a configured one
  have key : policy.anonymous = none ∧ ∀ c ∈ policy.credentials,
      ∃ token, c.tokenDigest = digest token ∧
        ConfiguredToken readPolicy environment config c.caller token := by
    unfold selectAccessPolicy at hsel
    cases hfile : config.accessPolicyFile with
    | some path =>
      rw [hfile] at hsel
      obtain ⟨hanon, file, hread, hcreds⟩ := AccessPolicy.load_ok hsel
      refine ⟨hanon, fun c hc => ?_⟩
      obtain ⟨caller, hmem, rfl⟩ := hcreds c hc
      exact ⟨_, rfl, .file hfile hread hmem⟩
    | none =>
      cases htoken : config.apiToken with
      | some token =>
        rw [hfile, htoken] at hsel
        cases hsel
        refine ⟨rfl, fun c hc => ?_⟩
        cases List.mem_singleton.1 hc
        exact ⟨token, rfl, .legacy hfile htoken⟩
      | none => simp [hfile, htoken] at hauth
  obtain ⟨hanon, hcreds⟩ := key
  refine ⟨hanon, fun operations request hpath caller hfwd => ?_⟩
  obtain ⟨c, received, rfl, hcaller, hpresented⟩ := authenticate_forward hpath hfwd
  obtain ⟨t, rfl, cred, hmem, hdig, rfl⟩ := AccessPolicy.authenticate_some hanon hcaller
  obtain ⟨token, htoken, hconf⟩ := hcreds cred hmem
  exact ⟨cred.caller, token, rfl, hconf, t, hpresented t rfl, hdig.symm.trans htoken⟩

/-- Without an authority the anonymous policy is selected. -/
theorem not_noAnonymousAccess_of_no_authority {readPolicy : Path → Except String PolicyFile}
    {environment : Environment} {config : RuntimeConfig} (hfile : config.accessPolicyFile = none)
    (htoken : config.apiToken = none) :
    ¬ NoAnonymousAccess digest readPolicy environment config := by
  intro h
  have hsel : selectAccessPolicy digest readPolicy environment config
      = .ok (.localPolicy Digest) := by
    simp [selectAccessPolicy, hfile, htoken]
  exact nomatch (h _ hsel).1

/-- **No anonymous access off loopback**, exactly when the access-policy setting is not the empty
text. `osEnviron` is where the loaded policy finds its tokens. -/
theorem noAnonymousAccess_iff {parseInt : String → Option Int}
    {environment osEnviron : Environment} {root : Path} {config : RuntimeConfig}
    {readPolicy : Path → Except String PolicyFile}
    (h : loadRuntimeConfig parseInt environment root = .ok config)
    (hhost : isLoopback config.host = false) :
    NoAnonymousAccess digest readPolicy osEnviron config ↔
      accessPolicySetting environment ≠ some "" := by
  rw [← loadRuntimeConfig_authority h hhost]
  constructor
  · intro hno
    by_contra hauth
    rw [not_or, Bool.not_eq_true, Option.isSome_eq_false_iff, Option.isNone_iff_eq_none,
      Bool.not_eq_true, Option.isSome_eq_false_iff, Option.isNone_iff_eq_none] at hauth
    exact not_noAnonymousAccess_of_no_authority hauth.1 hauth.2 hno
  · exact noAnonymousAccess_of_authority

end

/-! ## Two environments bound to all interfaces -/

namespace AuthorityFixture

/-- Bound to all interfaces, with one more setting. -/
def environment (name value : String) : Environment := fun n =>
  if n = "QUERY_MAN_HOST" then some "0.0.0.0" else if n = name then some value else none

/-- The configuration that either environment loads. -/
def config (apiToken : Option String) : RuntimeConfig where
  host := "0.0.0.0"
  port := 3000
  logLevel := "info"
  apiToken := apiToken
  sourceDirectory := .ofText "/srv/config/sources"
  budgetFile := .ofText "/srv/config/budget-profiles.yaml"
  databaseFile := .ofText "/srv/config/database-profiles.yaml"
  databaseCredentialDirectory := .ofText "/run/secrets/query-man/databases"
  accessPolicyFile := none
  metadataCacheTtlMs := 30000
  metadataMaxStaleMs := 300000
  metadataRetryDelayMs := 5000
  shutdownGraceMs := 10000

/-- No policy file is there to read. -/
def noFiles : Path → Except String PolicyFile := fun _ => .error "no such file"

/-- The token of the setting. -/
def token : String := "0123456789abcdef0123456789abcdef"

end AuthorityFixture

open AuthorityFixture in
/-- Where the API token is the authority, whoever is let in carries it. -/
theorem noAnonymousAccess_iff_apiToken :
    NoAnonymousAccess (tableDigest [token]) noFiles (fun _ => none) (config (some token)) ∧
      ∀ request : Request, request.Presents (tableDigest [token]) token →
        request.authorizations = ["Bearer " ++ token] := by
  have hload : loadRuntimeConfig (fun _ => none) (environment "QUERY_MAN_API_TOKEN" token)
      (.ofText "/srv") = .ok (config (some token)) := by decide +kernel
  have hset : accessPolicySetting (environment "QUERY_MAN_API_TOKEN" token) ≠ some "" := by decide
  refine ⟨(noAnonymousAccess_iff hload (by decide)).2 hset, fun request hpresents => ?_⟩
  exact hpresents.authorizations fun other h =>
    tableDigest_inj (by decide) (List.mem_singleton.2 rfl) h

open AuthorityFixture in
/-- **An empty access-policy setting opens the gateway.** The environment is accepted off loopback,
and a request without a token is attributed to the local-development caller. -/
theorem emptyAccessPolicySetting_anonymous :
    loadRuntimeConfig (fun _ => none) (environment "QUERY_MAN_ACCESS_POLICY_FILE" "")
      (.ofText "/srv") = .ok (config none) ∧
    isLoopback (config none).host = false ∧
    ¬ NoAnonymousAccess (tableDigest [token]) noFiles (fun _ => none) (config none) ∧
    authenticate (tableDigest [token]) (.localPolicy String) .initial ⟨"POST", "/query", []⟩
      = .forward (some { callerId := "local-development", tenantId := "local-development" }) := by
  refine ⟨by decide +kernel, by decide, ?_, by decide⟩
  intro h
  exact nomatch (h _ rfl).1

end QueryMan
