import QueryMan.Delivery.CallerTokens
import QueryMan.Runtime.Redact
import Mathlib.Data.List.TakeWhile

/-!
# Redacted tokens

What `redact` makes of `Bearer ` and a token. The server accepts every token without spaces;
`_BEARER` takes the longest part of it that its character class matches, and leaves what stands
behind. So all tokens look the same in a log exactly if they are made of the characters of the class
(`tokens_redacted_iff`).
-/

namespace QueryMan

open Python

/-! ## Tokens and texts -/

/-- What the server can accept as a token: `_bearer_token` reads it, and `AccessPolicy.authenticate`
goes on to compare it. -/
def IsToken (token : String) : Prop :=
  bearerToken ("Bearer " ++ token) = some token ∧ 32 ≤ token.length ∧ token.length ≤ 512

/-- The token is made of characters that `_BEARER` matches. -/
def IsPlainToken (token : String) : Prop :=
  token.toList.all isTokenChar = true

/-- The text holds no secret that `redact` knows. -/
def Secretless (isWord : Char → Bool) (text : String) : Prop :=
  bearer.NoMatch text.toList ∧ (secretAssignment isWord).NoMatch text.toList ∧
    sqlLiteral.NoMatch text.toList

/-- The tokens cannot be told from each other in any redacted text that says no secret but the token
behind `Bearer `. -/
def TokensRedacted (isWord : Char → Bool) (tokens : Set String) : Prop :=
  ∀ t₁ ∈ tokens, ∀ t₂ ∈ tokens, ∀ before after : String,
    Secretless isWord (before ++ "Bearer ") → Secretless isWord after →
      redact isWord (before ++ "Bearer " ++ t₁ ++ after) =
        redact isWord (before ++ "Bearer " ++ t₂ ++ after)

theorem IsToken.spaceless {token : String} (h : IsToken token) :
    ∀ c ∈ token.toList, isSpace c = false := by
  have hne : token ≠ "" := by
    rintro rfl
    exact absurd h.2.1 (by decide)
  have hread := h.1
  rw [bearerToken_bearer token hne] at hread
  split at hread
  · cases hread
  · next hspace =>
    rw [List.any_eq_true] at hspace
    intro c hc
    exact Bool.eq_false_iff.2 fun hc' => hspace ⟨c, hc, hc'⟩

theorem IsToken.ne_nil {token : String} (h : IsToken token) : token.toList ≠ [] := by
  intro hnil
  have hlength := h.2.1
  rw [← String.length_toList, hnil] at hlength
  exact absurd hlength (by decide)

/-! ## What `_BEARER` takes -/

/-- What stands behind `Bearer ` says nothing of what is found before it: the `B` follows no space
that a token could follow, or is the token. -/
theorem dropToken_stop (behind more more' : List Char)
    (h : dropToken (behind ++ 'B' :: more) = none) :
    dropToken (behind ++ 'B' :: more') = none := by
  cases behind with
  | nil => rfl
  | cons c behind =>
    rw [List.cons_append, dropToken] at h ⊢
    split
    · next hspace =>
      rw [if_pos hspace] at h
      dsimp only at h ⊢
      rw [dropWhile_append_stop (by decide)] at h ⊢
      cases hvalue : behind.dropWhile isSpace with
      | nil =>
        rw [hvalue] at h
        cases h
      | cons d value =>
        rw [hvalue, List.cons_append, List.takeWhile_cons] at h
        rw [List.cons_append, List.takeWhile_cons]
        split
        · next htoken =>
          rw [if_pos htoken, if_neg (List.cons_ne_nil _ _)] at h
          cases h
        · rfl
    · rfl

theorem bearerAt_stop {prev : Option Char} {cs more more' : List Char} (hne : cs ≠ [])
    (h : bearerAt prev (cs ++ 'B' :: more) = none) : bearerAt prev (cs ++ 'B' :: more') = none := by
  -- `B` is only the first letter of the word
  have hword : ∀ more, takeWord "bearer".toList (cs ++ 'B' :: more) =
      (takeWord "bearer".toList cs).map fun m => (m.1, m.2 ++ 'B' :: more) := by
    intro more
    obtain ⟨c, cs, rfl⟩ := List.exists_cons_of_ne_nil hne
    have hletters : ("earer".toList.all fun letter => !matchesLetter letter 'B') = true := by decide
    have hrest : takeWord "earer".toList (cs ++ 'B' :: more) =
        (takeWord "earer".toList cs).map fun m => (m.1, m.2 ++ 'B' :: more) :=
      takeWord_append_stop
        (fun letter hmem => by simpa using List.all_eq_true.1 hletters letter hmem)
        cs more
    change takeWord ('b' :: "earer".toList) (c :: (cs ++ 'B' :: more)) =
      (takeWord ('b' :: "earer".toList) (c :: cs)).map _
    rw [takeWord, takeWord, hrest]
    split
    · rw [Option.map_map, Option.map_map]
      rfl
    · rfl
  unfold bearerAt at h ⊢
  rw [hword] at h ⊢
  cases htake : takeWord "bearer".toList cs with
  | none => rfl
  | some m =>
    rw [htake] at h
    simp only [Option.map_some, Option.bind_eq_bind, Option.bind_some] at h ⊢
    cases hdrop : dropToken (m.2 ++ 'B' :: more) with
    | none =>
      rw [dropToken_stop _ _ _ hdrop]
      rfl
    | some rest =>
      rw [hdrop] at h
      cases h

theorem bearerAt_other (prev : Option Char) {c : Char} (h : matchesLetter 'b' c = false)
    (cs : List Char) : bearerAt prev (c :: cs) = none := by
  have htake : takeWord ('b' :: "earer".toList) (c :: cs) = none := if_neg (Bool.eq_false_iff.1 h)
  change (takeWord ('b' :: "earer".toList) (c :: cs)).bind _ = none
  rw [htake]
  rfl

/-- Without spaces no token follows. -/
theorem bearerAt_spaceless (prev : Option Char) {cs : List Char} (h : ∀ c ∈ cs, isSpace c = false) :
    bearerAt prev cs = none := by
  unfold bearerAt
  cases htake : takeWord "bearer".toList cs with
  | none => rfl
  | some m =>
    obtain ⟨hcs, -⟩ := takeWord_eq_some htake
    have hdrop : dropToken m.2 = none := by
      cases hrest : m.2 with
      | nil => rfl
      | cons c rest =>
        have hmem : c ∈ cs := by
          rw [hcs, hrest]
          exact List.mem_append_right _ List.mem_cons_self
        rw [dropToken, h c hmem]
        rfl
    simp only [Option.bind_eq_bind, Option.bind_some, hdrop]
    rfl

theorem bearer_spaceless {cs : List Char} (h : ∀ c ∈ cs, isSpace c = false) : bearer.sub cs = cs :=
  Pattern.NoMatch.subAt_eq fun prev _ hs =>
    bearerAt_spaceless prev fun c hc => h c (hs.subset hc)

/-- What is behind `Bearer `: a token is taken as far as the class goes. -/
theorem bearerAt_bearer (prev : Option Char) {value : List Char}
    (hvalue : value.head?.all fun c => !isSpace c) :
    bearerAt prev ("Bearer ".toList ++ value) =
      if value.takeWhile isTokenChar = [] then none
      else some ("Bearer [REDACTED]".toList, value.dropWhile isTokenChar) := by
  have hspaces : value.dropWhile isSpace = value := by
    cases value with
    | nil => rfl
    | cons c value =>
      have hc : isSpace c = false := by simpa using hvalue
      exact List.dropWhile_cons_of_neg (Bool.eq_false_iff.1 hc)
  have hdrop : dropToken (' ' :: value) =
      if value.takeWhile isTokenChar = [] then none else some (value.dropWhile isTokenChar) := by
    rw [dropToken, if_pos (by decide), hspaces]
  have htake : takeWord "bearer".toList ("Bearer ".toList ++ value) =
      some ("Bearer".toList, ' ' :: value) := rfl
  unfold bearerAt
  rw [htake]
  simp only [Option.bind_eq_bind, Option.bind_some, hdrop]
  split <;> rfl

/-- A plain token is replaced, whatever it is. -/
theorem bearer_plain {token : String} (htoken : IsToken token) (hplain : IsPlainToken token)
    {before after : List Char} (hbefore : bearer.NoMatch (before ++ "Bearer ".toList)) :
    bearer.sub (before ++ "Bearer ".toList ++ token.toList ++ after) =
      before ++ "Bearer [REDACTED]".toList ++ bearer.sub (after.dropWhile isTokenChar) := by
  have hall : ∀ c ∈ token.toList, isTokenChar c = true := List.all_eq_true.1 hplain
  obtain ⟨c, cs, hcs⟩ := List.exists_cons_of_ne_nil htoken.ne_nil
  have hc : isTokenChar c = true := hall c (hcs ▸ List.mem_cons_self)
  have hspace : isSpace c = false := htoken.spaceless c (hcs ▸ List.mem_cons_self)
  have hdrop : (token.toList ++ after).dropWhile isTokenChar = after.dropWhile isTokenChar :=
    List.dropWhile_append_of_pos hall
  -- nothing is found before the token, since nothing is found before `Bearer `
  have hnone : ∀ prev s, s <:+ before → s ≠ [] →
      bearerAt prev (s ++ ("Bearer ".toList ++ (token.toList ++ after))) = none := by
    intro prev s hs hne
    have hmatch : bearerAt prev (s ++ 'B' :: "earer ".toList) = none :=
      hbefore prev _ (List.suffix_append_inj_of_length_eq rfl |>.2 ⟨hs, rfl⟩)
    exact bearerAt_stop hne hmatch
  have hhit : bearerAt (before.getLast?.or none) ("Bearer ".toList ++ (token.toList ++ after)) =
      some ("Bearer [REDACTED]".toList, after.dropWhile isTokenChar) := by
    rw [bearerAt_bearer _ (by rw [hcs]; simpa using hspace), hdrop, if_neg]
    rw [hcs, List.cons_append, List.takeWhile_cons_of_pos hc]
    exact List.cons_ne_nil _ _
  rw [List.append_assoc, List.append_assoc, Pattern.sub, Pattern.subAt_skip hnone,
    Pattern.subAt_of_some hhit, bearer_subAt, List.append_assoc]

/-- Behind `Bearer ` alone, the class takes the characters of the token up to the first that is not
in it. -/
theorem bearer_token {token : String} (htoken : IsToken token) :
    bearer.sub ("Bearer ".toList ++ token.toList) =
      if token.toList.takeWhile isTokenChar = [] then "Bearer ".toList ++ token.toList
      else "Bearer [REDACTED]".toList ++ token.toList.dropWhile isTokenChar := by
  have hhead : token.toList.head?.all fun c => !isSpace c := by
    obtain ⟨c, cs, hcs⟩ := List.exists_cons_of_ne_nil htoken.ne_nil
    rw [hcs]
    simpa using htoken.spaceless c (hcs ▸ List.mem_cons_self)
  have hmatch := bearerAt_bearer none hhead
  split
  · next hnone =>
    rw [if_pos hnone] at hmatch
    have hskip : bearer.subAt none ("Bearer ".toList ++ token.toList) =
        "Bearer ".toList ++ bearer.subAt (some ' ') token.toList := by
      refine Pattern.subAt_skip (fun prev s hs hne => ?_) none
      rcases List.suffix_cons_iff.1 hs with hall | htail
      · rw [hall]
        exact hmatch
      · obtain ⟨c, s, rfl⟩ := List.exists_cons_of_ne_nil hne
        have hletters : ("earer ".toList.all fun c => !matchesLetter 'b' c) = true := by decide
        have hc := List.all_eq_true.1 hletters c (htail.subset List.mem_cons_self)
        exact bearerAt_other prev (by simpa using hc) _
    rw [Pattern.sub, hskip, bearer_subAt, bearer_spaceless htoken.spaceless]
  · next hsome =>
    rw [if_neg hsome] at hmatch
    have hrest : ∀ c ∈ token.toList.dropWhile isTokenChar, isSpace c = false := fun c hc =>
      htoken.spaceless c ((List.dropWhile_suffix _).subset hc)
    rw [Pattern.sub, Pattern.subAt_of_some hmatch, bearer_subAt, bearer_spaceless hrest]

/-! ## What the other patterns leave -/

theorem secretAssignment_eq_or_mem (isWord : Char → Bool) (cs : List Char) :
    (secretAssignment isWord).sub cs = cs ∨ '=' ∈ (secretAssignment isWord).sub cs := by
  refine Pattern.subAt_eq_or_mem fun prev cs new rest h => ?_
  obtain ⟨-, name, -, taken, behind, -, -, rfl⟩ := secretAt_eq_some h
  exact List.mem_append_right _ (by decide)

theorem sqlLiteral_eq_or_mem (cs : List Char) :
    sqlLiteral.sub cs = cs ∨ '\'' ∈ sqlLiteral.sub cs := by
  refine Pattern.subAt_eq_or_mem fun prev cs new rest h => ?_
  change literalAt prev cs = some (new, rest) at h
  unfold literalAt at h
  split at h
  · obtain ⟨rest', -, h⟩ := Option.map_eq_some_iff.1 h
    cases h
    exact by decide
  · cases h

/-- A text without the name of a secret is left by `_SECRET_ASSIGNMENT`. -/
theorem secretAssignment_noMatch (isWord : Char → Bool) {cs : List Char}
    (h : (cs.tails.all fun s => secretNames.all fun name =>
      (takeWord name.toList s).isNone) = true) :
    (secretAssignment isWord).NoMatch cs := by
  intro prev s hs
  have hnone := List.all_eq_true.1 (List.all_eq_true.1 h s ((List.mem_tails _ _).2 hs))
  cases hmatch : secretAt isWord prev s with
  | none => exact hmatch
  | some m =>
    obtain ⟨-, name, hname, taken, behind, htake, -, -⟩ := secretAt_eq_some hmatch
    have hisNone := hnone name hname
    rw [htake] at hisNone
    cases hisNone

/-- The other two patterns do not look at the character before. -/
theorem bearer_noMatch {cs : List Char}
    (h : (cs.tails.all fun s => (bearerAt none s).isNone) = true) :
    bearer.NoMatch cs := fun _ s hs =>
  Option.isNone_iff_eq_none.1 (List.all_eq_true.1 h s ((List.mem_tails _ _).2 hs))

theorem sqlLiteral_noMatch {cs : List Char}
    (h : (cs.tails.all fun s => (literalAt none s).isNone) = true) : sqlLiteral.NoMatch cs :=
  fun _ s hs => Option.isNone_iff_eq_none.1 (List.all_eq_true.1 h s ((List.mem_tails _ _).2 hs))

theorem secretless_empty (isWord : Char → Bool) : Secretless isWord "" :=
  ⟨bearer_noMatch (by decide), secretAssignment_noMatch isWord (by decide),
    sqlLiteral_noMatch (by decide)⟩

theorem secretless_bearer (isWord : Char → Bool) : Secretless isWord ("" ++ "Bearer ") :=
  ⟨bearer_noMatch (by decide), secretAssignment_noMatch isWord (by decide),
    sqlLiteral_noMatch (by decide)⟩

/-- A text without `=` and quotes is what was there before the last two patterns. -/
theorem eq_of_redacted {isWord : Char → Bool} {cs out : List Char} (hsign : '=' ∉ out)
    (hquote : '\'' ∉ out) (h : sqlLiteral.sub ((secretAssignment isWord).sub cs) = out) :
    cs = out := by
  have hsecret : (secretAssignment isWord).sub cs = out :=
    (sqlLiteral_eq_or_mem _).elim (fun hsame => hsame.symm.trans h)
      fun hmem => absurd (h ▸ hmem) hquote
  exact (secretAssignment_eq_or_mem isWord cs).elim (fun hsame => hsame.symm.trans hsecret)
    fun hmem => absurd (hsecret ▸ hmem) hsign

/-- Alone, a plain token leaves the replacement, and no other does. -/
theorem redact_bearer (isWord : Char → Bool) {token : String} (htoken : IsToken token) :
    redact isWord ("" ++ "Bearer " ++ token ++ "") = "Bearer [REDACTED]" ↔ IsPlainToken token := by
  have hlist : ("" ++ "Bearer " ++ token ++ "").toList = "Bearer ".toList ++ token.toList := by simp
  rw [redact, hlist, bearer_token htoken]
  constructor
  · intro h
    have hout := congrArg String.toList h
    rw [String.toList_ofList] at hout
    replace hout := eq_of_redacted (by decide) (by decide) hout
    split at hout
    · -- the token itself would have to be the text of the replacement, which is too short
      have hlength := congrArg List.length hout
      rw [List.length_append, String.length_toList] at hlength
      have hshort : 32 ≤ token.length := htoken.2.1
      exact absurd hlength (by change ¬ 7 + token.length = 17; omega)
    · have hrest : token.toList.dropWhile isTokenChar = [] :=
        List.append_right_eq_self.1 hout
      exact List.all_eq_true.2 (List.dropWhile_eq_nil_iff.1 hrest)
  · intro hplain
    have hall : ∀ c ∈ token.toList, isTokenChar c = true := List.all_eq_true.1 hplain
    have hrest : token.toList.dropWhile isTokenChar = [] := List.dropWhile_eq_nil_iff.2 hall
    obtain ⟨c, cs, hcs⟩ := List.exists_cons_of_ne_nil htoken.ne_nil
    have hsome : token.toList.takeWhile isTokenChar ≠ [] := by
      rw [hcs, List.takeWhile_cons_of_pos (hall c (hcs ▸ List.mem_cons_self))]
      exact List.cons_ne_nil _ _
    rw [if_neg hsome, hrest, List.append_nil]
    have hsecret : (secretAssignment isWord).NoMatch "Bearer [REDACTED]".toList :=
      secretAssignment_noMatch isWord (by decide)
    have hliteral : sqlLiteral.NoMatch "Bearer [REDACTED]".toList := sqlLiteral_noMatch (by decide)
    rw [Pattern.sub, Pattern.sub, hsecret.subAt_eq, hliteral.subAt_eq, String.ofList_toList]

/-! ## Tokens in a log -/

/-- **Every accepted token is redacted, exactly if `_BEARER` knows all its characters.** Among
tokens one of which is plain, no two can be told apart in any redacted text exactly if all are
plain. -/
theorem tokens_redacted_iff (isWord : Char → Bool) {tokens : Set String}
    (htokens : ∀ token ∈ tokens, IsToken token) (hplain : ∃ token ∈ tokens, IsPlainToken token) :
    TokensRedacted isWord tokens ↔ ∀ token ∈ tokens, IsPlainToken token := by
  constructor
  · -- alone in a text, a token must leave what the plain one leaves
    intro hredacted token hmem
    obtain ⟨plain, hplainMem, hplain⟩ := hplain
    have hsame := hredacted token hmem plain hplainMem "" "" (secretless_bearer isWord)
      (secretless_empty isWord)
    rw [(redact_bearer isWord (htokens plain hplainMem)).2 hplain] at hsame
    exact (redact_bearer isWord (htokens token hmem)).1 hsame
  · intro hall t₁ h₁ t₂ h₂ before after hbefore hafter
    have hnone : bearer.NoMatch (before.toList ++ "Bearer ".toList) := by
      rw [← String.toList_append]
      exact hbefore.1
    have hpassed : ∀ token ∈ tokens, bearer.sub (before ++ "Bearer " ++ token ++ after).toList =
        before.toList ++ "Bearer [REDACTED]".toList ++
          bearer.sub (after.toList.dropWhile isTokenChar) := by
      intro token hmem
      rw [String.toList_append, String.toList_append, String.toList_append]
      exact bearer_plain (htokens token hmem) (hall token hmem) hnone
    rw [redact, redact, hpassed t₁ h₁, hpassed t₂ h₂]

/-- Tokens of letters and digits look the same. -/
theorem tokens_redacted_iff_hex : TokensRedacted (fun c => c.isAlphanum || c == '_')
    {"0123456789abcdef0123456789abcdef", "fedcba9876543210fedcba9876543210"} := by
  have htokens : ∀ token ∈ ({"0123456789abcdef0123456789abcdef",
      "fedcba9876543210fedcba9876543210"} : Set String), IsToken token ∧ IsPlainToken token := by
    rintro token (rfl | rfl)
    · exact ⟨⟨by decide, by decide, by decide⟩,
        (by decide : "0123456789abcdef0123456789abcdef".toList.all isTokenChar = true)⟩
    · exact ⟨⟨by decide, by decide, by decide⟩,
        (by decide : "fedcba9876543210fedcba9876543210".toList.all isTokenChar = true)⟩
  have hplain := fun token hmem => (htokens token hmem).2
  exact (tokens_redacted_iff _ (fun token hmem => (htokens token hmem).1)
    ⟨_, .inl rfl, hplain _ (.inl rfl)⟩).2 hplain

/-- **An accepted token stays in the log behind its first character that `_BEARER` does not know.**
-/
theorem markedToken_logged :
    IsToken "0123456789abcdef!my-private-words" ∧ IsToken "0123456789abcdef0123456789abcdef" ∧
      redact (fun c => c.isAlphanum || c == '_') "Bearer 0123456789abcdef!my-private-words" =
        "Bearer [REDACTED]!my-private-words" ∧
      redact (fun c => c.isAlphanum || c == '_') "Bearer 0123456789abcdef0123456789abcdef" =
        "Bearer [REDACTED]" ∧
      ¬ TokensRedacted (fun c => c.isAlphanum || c == '_') {token | IsToken token} := by
  have hmarked : IsToken "0123456789abcdef!my-private-words" := ⟨by decide, by decide, by decide⟩
  have hplain : IsToken "0123456789abcdef0123456789abcdef" := ⟨by decide, by decide, by decide⟩
  refine ⟨hmarked, hplain, by decide, by decide, fun hredacted => ?_⟩
  have hempty : Secretless (fun c => c.isAlphanum || c == '_') "" := secretless_empty _
  have hsame := hredacted _ hmarked _ hplain "" "" (secretless_bearer _) hempty
  exact absurd hsame (by decide)

end QueryMan
