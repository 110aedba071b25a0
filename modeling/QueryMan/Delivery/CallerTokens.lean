import QueryMan.Delivery.Authenticate

/-!
# The tokens of the callers

A caller's token is checked for its length when the configuration is loaded (`AccessPolicy.load`, or
the settings model for `AccessPolicy.legacy`), and for spaces when a request carries it
(`_bearer_token`). A token with a space passes the first check and never the second, so its caller
is configured and shut out: `callers_authenticate_iff`.
-/

namespace QueryMan

open Python

/-! ## The tokens of a configuration -/

/-- The policy file gives this token to this caller. -/
def PolicyFile.Configures (file : PolicyFile) (environment : Environment) (caller : CallerContext)
    (token : String) : Prop :=
  ∃ configured ∈ file.callers, configured.context = caller ∧ configured.token environment = token

/-- The API token is that of the one caller. -/
def LegacyConfigures (apiToken : String) (caller : CallerContext) (token : String) : Prop :=
  caller = legacyCaller ∧ token = apiToken

/-- A text that the settings model accepts is valid. -/
theorem optionalTextField_valid {valid : String → Bool} {env : Environment}
    {key name value : String}
    (h : optionalTextField valid env key name = .ok (some value)) : valid value = true := by
  unfold optionalTextField at h
  split at h
  · cases h
  · split at h
    · next hvalid =>
      cases h
      exact hvalid
    · cases h

/-- The API token of an accepted environment has a valid length. -/
theorem ParsedEnvironment.validate_apiToken {parseInt : String → Option Int} {env : Environment}
    {parsed : ParsedEnvironment} (h : ParsedEnvironment.validate parseInt env = .ok parsed)
    {token : String} (htoken : parsed.apiToken = some token) :
    32 ≤ token.length ∧ token.length ≤ 512 := by
  simp only [validate, bind_eq_ok, mapError_eq_ok] at h
  obtain ⟨_, _, _, _, _, _, apiToken, hfield, _, _, _, _, _, _, _, _, _, _, _, _, _, _, _, _,
    _, _, h⟩ := h
  cases h
  dsimp only at htoken
  subst htoken
  exact of_decide_eq_true (optionalTextField_valid hfield)

theorem loadRuntimeConfig_apiToken {parseInt : String → Option Int} {environment : Environment}
    {root : Path} {config : RuntimeConfig}
    (h : loadRuntimeConfig parseInt environment root = .ok config) {token : String}
    (htoken : config.apiToken = some token) : 32 ≤ token.length ∧ token.length ≤ 512 := by
  simp only [loadRuntimeConfig, bind_eq_ok, raiseIf_eq_ok, pure_eq_ok] at h
  obtain ⟨-, -, parsed, hparsed, -, -, -, -, rfl⟩ := h
  exact parsed.validate_apiToken hparsed htoken

section
variable {Digest : Type} [DecidableEq Digest] (digest : String → Digest)

/-- A policy that the start-up accepts, with the token that it takes from each caller. -/
inductive AcceptedPolicy : AccessPolicy Digest → (CallerContext → String → Prop) → Prop where
  | load {readPolicy : Path → Except String PolicyFile} {environment : Environment} {path : Path}
      {policy : AccessPolicy Digest} {file : PolicyFile} (hread : readPolicy path = .ok file)
      (hload : AccessPolicy.load digest readPolicy environment path = .ok policy) :
      AcceptedPolicy policy (file.Configures environment)
  | legacy {parseInt : String → Option Int} {environment : Environment} {root : Path}
      {config : RuntimeConfig} {token : String}
      (hload : loadRuntimeConfig parseInt environment root = .ok config)
      (htoken : config.apiToken = some token) :
      AcceptedPolicy (.legacy digest token) (LegacyConfigures token)

/-- What an accepted policy holds: a credential for each caller, each with a digest of its own, and
nobody without one. -/
structure Issued (policy : AccessPolicy Digest) (configured : CallerContext → String → Prop) :
    Prop where
  anonymous : policy.anonymous = none
  issued : ∀ caller token, configured caller token → ⟨digest token, caller⟩ ∈ policy.credentials
  owned : ∀ credential ∈ policy.credentials,
    ∃ token, configured credential.caller token ∧ credential.tokenDigest = digest token
  distinct : (policy.credentials.map Credential.tokenDigest).Nodup
  length : ∀ caller token, configured caller token → 32 ≤ token.length ∧ token.length ≤ 512

variable {digest}

/-- The loop of `AccessPolicy.load` adds the credentials of the callers, in their order, and keeps
their digests apart. -/
theorem foldlM_addCredential_eq {environment : Environment} {callers : List Caller}
    {start result : List (Credential Digest)}
    (h : callers.foldlM (addCredential digest environment) start = .ok result) :
    result = start ++ callers.map (fun caller =>
        ⟨digest (caller.token environment), caller.context⟩) ∧
      (∀ caller ∈ callers, 32 ≤ (caller.token environment).length ∧
        (caller.token environment).length ≤ 512) ∧
      ((start.map Credential.tokenDigest).Nodup → (result.map Credential.tokenDigest).Nodup) := by
  induction callers generalizing start with
  | nil =>
    cases h
    exact ⟨(List.append_nil _).symm, fun caller hmem => absurd hmem List.not_mem_nil, id⟩
  | cons caller rest ih =>
    rw [List.foldlM_cons, bind_eq_ok] at h
    obtain ⟨next, hadd, h⟩ := h
    simp only [addCredential, bind_eq_ok, raiseIf_eq_ok, pure_eq_ok] at hadd
    obtain ⟨-, hlength, -, hfresh, rfl⟩ := hadd
    obtain ⟨hresult, hlengths, hnodup⟩ := ih h
    refine ⟨?_, List.forall_mem_cons.2 ⟨not_not.1 hlength, hlengths⟩, fun hstart => hnodup ?_⟩
    · rw [hresult, List.append_assoc, List.singleton_append, List.map_cons]
    · rw [List.map_append, List.map_singleton, ← List.concat_eq_append]
      exact hstart.concat hfresh

/-- Every accepted policy is so. -/
theorem AcceptedPolicy.issued {policy : AccessPolicy Digest}
    {configured : CallerContext → String → Prop} (h : AcceptedPolicy digest policy configured) :
    Issued digest policy configured := by
  cases h with
  | @load readPolicy environment path _ file hread hload =>
    simp only [AccessPolicy.load, hread, bind_eq_ok, pure_eq_ok] at hload
    obtain ⟨-, -, credentials, hfold, rfl⟩ := hload
    obtain ⟨hcredentials, hlengths, hnodup⟩ := foldlM_addCredential_eq hfold
    rw [List.nil_append] at hcredentials
    refine ⟨rfl, ?_, ?_, hnodup List.nodup_nil, ?_⟩
    · rintro caller token ⟨member, hmem, rfl, rfl⟩
      rw [hcredentials]
      exact List.mem_map_of_mem hmem
    · intro credential hmem
      rw [hcredentials] at hmem
      obtain ⟨member, hmember, rfl⟩ := List.mem_map.1 hmem
      exact ⟨_, ⟨member, hmember, rfl, rfl⟩, rfl⟩
    · rintro caller token ⟨member, hmem, rfl, rfl⟩
      exact hlengths member hmem
  | @legacy parseInt environment root config token hload htoken =>
    refine ⟨rfl, ?_, ?_, List.nodup_singleton _, ?_⟩
    · rintro caller other ⟨rfl, rfl⟩
      exact List.mem_singleton.2 rfl
    · intro credential hmem
      rw [List.mem_singleton.1 hmem]
      exact ⟨token, ⟨rfl, rfl⟩, rfl⟩
    · rintro caller other ⟨rfl, rfl⟩
      exact loadRuntimeConfig_apiToken hload htoken

/-! ## The caller of a request -/

/-- The scan over credentials with different digests answers with the caller of the matching one. -/
theorem foldl_matched_eq {token : String} {credentials : List (Credential Digest)}
    {credential : Credential Digest} (hmem : credential ∈ credentials)
    (hdigest : digest token = credential.tokenDigest)
    (hnodup : (credentials.map Credential.tokenDigest).Nodup) (start : Option CallerContext) :
    credentials.foldl
      (fun matched credential =>
        if digest token = credential.tokenDigest then some credential.caller else matched)
      start = some credential.caller := by
  obtain ⟨before, after, rfl⟩ := List.append_of_mem hmem
  rw [List.map_append, List.map_cons] at hnodup
  have hafter : ∀ other ∈ after, digest token ≠ other.tokenDigest := by
    intro other hother heq
    have hnotin := (List.nodup_cons.1 (List.nodup_append.1 hnodup).2.1).1
    exact hnotin (hdigest ▸ heq ▸ List.mem_map_of_mem hother)
  rw [List.foldl_append, List.foldl_cons, if_pos hdigest]
  -- no credential behind it matches, so the answer stays
  clear hmem hnodup
  induction after with
  | nil => rfl
  | cons other after ih =>
    rw [List.foldl_cons, if_neg (hafter other List.mem_cons_self)]
    exact ih fun c hc => hafter c (List.mem_cons_of_mem _ hc)

/-- A configured token is answered with its caller. -/
theorem Issued.authenticate {policy : AccessPolicy Digest}
    {configured : CallerContext → String → Prop} (h : Issued digest policy configured)
    {caller : CallerContext} {token : String} (hconfigured : configured caller token) :
    policy.authenticate digest (some token) = some caller := by
  unfold AccessPolicy.authenticate
  dsimp only
  rw [if_neg (not_not.2 (h.length caller token hconfigured))]
  exact foldl_matched_eq (h.issued caller token hconfigured) rfl h.distinct none

/-- What follows `Bearer ` is read as a token exactly if it has no space. -/
theorem bearerToken_bearer (token : String) (hne : token ≠ "") :
    bearerToken ("Bearer " ++ token) = if token.toList.any isSpace then none else some token := by
  have hlist : ("Bearer " ++ token).toList =
      'B' :: 'e' :: 'a' :: 'r' :: 'e' :: 'r' :: ' ' :: token.toList := by
    rw [String.toList_append]
    rfl
  have hnil : token.toList ≠ [] := fun hnil => hne (String.toList_eq_nil_iff.1 hnil)
  unfold bearerToken
  rw [hlist]
  simp only [hnil, false_or, String.ofList_toList]

/-- The middleware asks the request for its caller: the service is not shutting down, and the path
is none of the status paths. -/
def AsksForCaller (operations : OperationalState) (request : Request) : Prop :=
  operations.publicStatus ≠ .shuttingDown ∧ request.path ∉ publicPaths

/-- A request with one authorization header is attributed to the caller of its token. -/
theorem authenticate_single {policy : AccessPolicy Digest} {operations : OperationalState}
    {request : Request} (hasks : AsksForCaller operations request) {authorization : String}
    (hheader : request.authorizations = [authorization]) {caller : Option CallerContext}
    (hcaller : policy.authenticate digest (bearerToken authorization) = caller) :
    authenticate digest policy operations request =
      caller.elim .unauthorized fun caller => .forward (some caller) := by
  unfold authenticate
  rw [if_neg fun hdown => hasks.1 hdown.1, if_pos hasks.2]
  dsimp only
  simp only [hheader, List.length_singleton, le_refl, if_pos, hcaller]
  cases caller <;> rfl

end

/-! ## Callers and their tokens -/

section
variable {Digest : Type} [DecidableEq Digest] (digest : String → Digest)

/-- Every configured caller can authenticate, and only as itself. -/
structure CallersAuthenticate (policy : AccessPolicy Digest)
    (configured : CallerContext → String → Prop) : Prop where
  /-- A request with the token of a caller is attributed to that caller. -/
  admitted : ∀ operations request, AsksForCaller operations request →
    ∀ caller token, configured caller token → request.authorizations = ["Bearer " ++ token] →
      authenticate digest policy operations request = .forward (some caller)
  /-- A request is attributed only to a caller whose token it carries. -/
  itself : ∀ operations request caller,
    authenticate digest policy operations request = .forward (some caller) →
      ∃ token, configured caller token ∧ request.authorizations = ["Bearer " ++ token]

variable {digest}

/-- **A configured caller can authenticate, and only as itself, exactly if no token has a space.**
No other text has the digest of a token. -/
theorem callers_authenticate_iff {policy : AccessPolicy Digest}
    {configured : CallerContext → String → Prop} (h : AcceptedPolicy digest policy configured)
    (hdigest : ∀ caller token, configured caller token →
      ∀ other, digest other = digest token → other = token) :
    CallersAuthenticate digest policy configured ↔
      ∀ caller token, configured caller token → token.toList.any isSpace = false := by
  have hissued : Issued digest policy configured := h.issued
  have hne : ∀ caller token, configured caller token → token ≠ "" := by
    rintro caller token hconfigured rfl
    exact absurd (hissued.length caller "" hconfigured).1 (by decide)
  constructor
  · -- a token with a space is none for the middleware, and no caller is anonymous
    intro hcallers caller token hconfigured
    by_contra hspace
    rw [Bool.not_eq_false] at hspace
    have hasks : AsksForCaller .initial ⟨"POST", "/query", ["Bearer " ++ token]⟩ :=
      ⟨by decide, (by decide : "/query" ∉ publicPaths)⟩
    have hforward := hcallers.admitted .initial _ hasks caller token hconfigured rfl
    have hnone : policy.authenticate digest (bearerToken ("Bearer " ++ token)) = none := by
      rw [bearerToken_bearer token (hne caller token hconfigured), if_pos hspace]
      exact hissued.anonymous
    rw [authenticate_single hasks rfl hnone] at hforward
    cases hforward
  · intro hspaces
    refine ⟨?_, ?_⟩
    · intro operations request hasks caller token hconfigured hheader
      have hcaller :
          policy.authenticate digest (bearerToken ("Bearer " ++ token)) = some caller := by
        rw [bearerToken_bearer token (hne caller token hconfigured),
          if_neg (Bool.eq_false_iff.1 (hspaces caller token hconfigured))]
        exact hissued.authenticate hconfigured
      exact authenticate_single hasks hheader hcaller
    · intro operations request caller hforward
      have hpath : request.path ∉ publicPaths := by
        intro hpublic
        simp [authenticate, hpublic] at hforward
      obtain ⟨_, received, hsome, hcaller, hpresented⟩ := authenticate_forward hpath hforward
      cases hsome
      obtain ⟨t, rfl, credential, hmem, hdig, rfl⟩ :=
        AccessPolicy.authenticate_some hissued.anonymous hcaller
      obtain ⟨token, hconfigured, htoken⟩ := hissued.owned credential hmem
      cases hdigest _ token hconfigured t (hdig.symm.trans htoken)
      exact ⟨t, hconfigured, hpresented t rfl⟩

end

namespace AnalystFixture

/-- The one caller of the policy file. -/
def caller : Caller where
  callerId := "analyst"
  tenantId := "engineering"
  tokenEnv := "ANALYST_TOKEN"
  operator := false

/-- The policy file. -/
def file : PolicyFile :=
  ⟨2, [caller]⟩

/-- The token of the caller is set in the environment. -/
def environment (token : String) : Environment := fun name =>
  if name = "ANALYST_TOKEN" then some token else none

/-- The policy that is loaded. -/
def policy (token : String) : AccessPolicy String where
  credentials := [⟨tableDigest [token] token, caller.context⟩]

/-- A token without a space. -/
def plainToken : String := "0123456789abcdef0123456789abcdef"

/-- A token with a space. -/
def spacedToken : String := "0123456789abcdef 0123456789abcdef"

end AnalystFixture

open AnalystFixture in
/-- A token without a space lets its caller in. -/
theorem callers_authenticate_iff_analyst :
    CallersAuthenticate (tableDigest [plainToken]) (policy plainToken)
      (file.Configures (environment plainToken)) := by
  have haccepted : AcceptedPolicy (tableDigest [plainToken]) (policy plainToken)
      (file.Configures (environment plainToken)) :=
    @AcceptedPolicy.load _ _ _ (fun _ => .ok file) _ (.ofText "/srv/access-policy.yaml") _ _ rfl rfl
  have hconfigured : ∀ c token, file.Configures (environment plainToken) c token →
      token = plainToken := by
    rintro _ token ⟨c, hmem, -, hset⟩
    rw [List.mem_singleton.1 hmem] at hset
    exact hset.symm.trans (by decide)
  refine (callers_authenticate_iff haccepted fun c token h other heq => ?_).2 fun c token h => ?_
  · rw [hconfigured c token h] at heq ⊢
    exact tableDigest_inj (by decide) (List.mem_singleton.2 rfl) heq
  · rw [hconfigured c token h]
    decide

open AnalystFixture in
/-- **A token with a space is accepted at the start, and refused in every request.** -/
theorem spacedToken_refused :
    AccessPolicy.load (tableDigest [spacedToken]) (fun _ => .ok file) (environment spacedToken)
        (.ofText "/srv/access-policy.yaml") = .ok (policy spacedToken) ∧
    authenticate (tableDigest [spacedToken]) (policy spacedToken) .initial
        ⟨"POST", "/query", ["Bearer " ++ spacedToken]⟩ = .unauthorized ∧
    ¬ CallersAuthenticate (tableDigest [spacedToken]) (policy spacedToken)
        (file.Configures (environment spacedToken)) := by
  have hrefused : authenticate (tableDigest [spacedToken]) (policy spacedToken) .initial
      ⟨"POST", "/query", ["Bearer " ++ spacedToken]⟩ = .unauthorized := by decide
  refine ⟨rfl, hrefused, fun hcallers => ?_⟩
  have hforward := hcallers.admitted .initial ⟨"POST", "/query", ["Bearer " ++ spacedToken]⟩
    ⟨by decide, by decide⟩ caller.context spacedToken
      ⟨caller, List.mem_singleton.2 rfl, rfl, rfl⟩ rfl
  rw [hrefused] at hforward
  cases hforward

end QueryMan
