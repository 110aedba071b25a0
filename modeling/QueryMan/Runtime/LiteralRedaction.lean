import QueryMan.Runtime.Redact

/-!
# Redacted literals

What `redact` makes of the SQL literals of a message. A secret assignment that takes the quote
behind it turns the literals inside out. Where none does, the literals leave no trace
(`Outside.redact_message`).
-/

namespace QueryMan

open Python

/-- A statement about all characters of a message is decided by going through the message. -/
local instance (priority := high) decidableForallMem_message {p : Char → Prop} [DecidablePred p]
    (cs : List Char) : Decidable (∀ c ∈ cs, p c) :=
  List.decidableBAll p cs

/-! ## Messages with literals -/

/-- The body of a literal as it is written, with its quotes doubled. -/
def doubled (body : List Char) : List Char :=
  body.flatMap fun c => if c = '\'' then ['\'', '\''] else [c]

/-- Literals as they are written, each with the text behind it. -/
def literals : List (List Char × List Char) → List Char
  | [] => []
  | (body, piece) :: rest => '\'' :: body ++ '\'' :: piece ++ literals rest

/-- The text of a message outside its literals: what stands before the first, and behind each. -/
structure Outside where
  first : String
  rest : List String
  first_quoteless : '\'' ∉ first.toList
  rest_quoteless : ∀ piece ∈ rest, '\'' ∉ piece.toList

namespace Outside

/-- The literals with the given bodies, each with the text behind it. -/
def parts : List String → (ℕ → String) → List (List Char × List Char)
  | [], _ => []
  | piece :: rest, bodies =>
    (doubled (bodies 0).toList, piece.toList) :: parts rest fun n => bodies (n + 1)

/-- The message with the given literal bodies. -/
def message (outside : Outside) (bodies : ℕ → String) : String :=
  String.ofList (outside.first.toList ++ literals (parts outside.rest bodies))

end Outside

/-! ## The three substitutions -/

/-- The bearer tokens of a message are replaced piece by piece. -/
theorem bearer_literals (first : List Char) (l : List (List Char × List Char)) :
    bearer.sub (first ++ literals l) =
      bearer.sub first ++ literals (l.map (Prod.map bearer.sub bearer.sub)) := by
  induction l generalizing first with
  | nil =>
    rw [List.map_nil, literals, List.append_nil, List.append_nil]
  | cons part l ih =>
    obtain ⟨body, piece⟩ := part
    rw [literals, List.append_assoc, List.cons_append, bearer_append_quote, List.cons_append,
      bearer_append_quote, ih]
    simp only [List.map_cons, Prod.map_apply, literals, List.cons_append, List.append_assoc]

section Secrets

variable (isWord : Char → Bool)

/-- No secret assignment of a piece of text takes the quote behind the piece. -/
def LeavesQuote (prev : Option Char) (piece : List Char) : Prop :=
  ∃ out prev', (secretAssignment isWord).Scan prev (piece ++ ['\'']) out prev' ['\'']

/-- No secret assignment takes a quote that opens or closes a literal. -/
def LeavesQuotes : Option Char → List Char → List (List Char × List Char) → Prop
  | _, _, [] => True
  | prev, first, (body, piece) :: rest =>
    LeavesQuote isWord prev first ∧ LeavesQuote isWord (some '\'') body ∧
      LeavesQuotes (some '\'') piece rest

/-- A piece of text that a quote follows, without its secrets. -/
def secretPiece (prev : Option Char) (piece : List Char) : List Char :=
  ((secretAssignment isWord).subAt prev (piece ++ ['\''])).dropLast

/-- The text of a message outside its literals, without its secrets. -/
def secretPieces : Option Char → List Char → List (List Char) → List (List Char)
  | prev, first, [] => [(secretAssignment isWord).subAt prev first]
  | prev, first, piece :: rest =>
    secretPiece isWord prev first :: secretPieces (some '\'') piece rest

end Secrets

/-- The redacted literals, each with the text behind it: literals with nothing between them are one.
-/
def hiddenLiterals : List (List Char) → List Char
  | [] => []
  | piece :: rest =>
    if piece = [] ∧ rest ≠ [] then hiddenLiterals rest
    else "'[REDACTED]'".toList ++ piece ++ hiddenLiterals rest

/-- The text outside the literals decides what is logged of them. -/
def Outside.redacted (isWord : Char → Bool) (outside : Outside) : String :=
  match secretPieces isWord none (bearer.sub outside.first.toList)
    (outside.rest.map fun piece => bearer.sub piece.toList) with
  | [] => ""
  | first :: rest => String.ofList (first ++ hiddenLiterals rest)

/-! ## Quotes in pairs -/

/-- The quotes of a text come in pairs; the flag tells that the first of a pair has been read. -/
def Paired : Bool → List Char → Prop
  | opened, [] => opened = false
  | false, c :: cs => if c = '\'' then Paired true cs else Paired false cs
  | true, c :: cs => c = '\'' ∧ Paired false cs

theorem paired_of_quoteless {cs : List Char} (h : '\'' ∉ cs) : Paired false cs := by
  induction cs with
  | nil => rfl
  | cons c cs ih =>
    rw [List.mem_cons, not_or] at h
    rw [Paired, if_neg (Ne.symm h.1)]
    exact ih h.2

theorem paired_append {opened : Bool} {cs more : List Char} (hcs : Paired opened cs)
    (hmore : Paired false more) : Paired opened (cs ++ more) := by
  induction cs generalizing opened with
  | nil =>
    cases opened with
    | false => exact hmore
    | true => cases hcs
  | cons c cs ih =>
    cases opened with
    | false =>
      rw [List.cons_append, Paired]
      rw [Paired] at hcs
      split
      · next hc => exact ih (by rwa [if_pos hc] at hcs)
      · next hc => exact ih (by rwa [if_neg hc] at hcs)
    | true => exact ⟨hcs.1, ih hcs.2⟩

theorem paired_doubled (body : List Char) : Paired false (doubled body) := by
  induction body with
  | nil => rfl
  | cons c body ih =>
    rw [doubled, List.flatMap_cons]
    refine paired_append ?_ ih
    split
    · exact ⟨rfl, rfl⟩
    · next hc => exact paired_of_quoteless (by simpa using Ne.symm hc)

theorem paired_cases {cs : List Char} (h : Paired false cs) :
    cs = [] ∨ (∃ c rest, c ≠ '\'' ∧ cs = c :: rest ∧ Paired false rest) ∨
      ∃ rest, cs = '\'' :: '\'' :: rest ∧ Paired false rest := by
  cases cs with
  | nil => exact .inl rfl
  | cons c cs =>
    rw [Paired] at h
    split at h
    · next hc =>
      cases cs with
      | nil => cases h
      | cons d cs => exact .inr (.inr ⟨cs, by rw [hc, h.1], h.2⟩)
    · next hc => exact .inr (.inl ⟨c, cs, hc, rfl, h⟩)

/-- Behind a cut that no quote follows, the quotes come in pairs again. -/
theorem paired_of_append {opened : Bool} {cs more : List Char} (h : Paired opened (cs ++ more))
    (hmore : more.head? ≠ some '\'') : Paired false more := by
  induction cs generalizing opened with
  | nil =>
    cases opened with
    | false => exact h
    | true =>
      cases more with
      | nil => cases h
      | cons c more => exact absurd (congrArg some h.1) hmore
  | cons c cs ih =>
    cases opened with
    | false =>
      rw [List.cons_append, Paired] at h
      split at h
      · exact ih h
      · exact ih h
    | true => exact ih h.2

/-- A text without quotes in front of pairs. -/
theorem paired_of_quoteless_append {opened : Bool} {cs more : List Char} (hcs : '\'' ∉ cs)
    (h : Paired opened (cs ++ more)) : (cs ≠ [] → opened = false) ∧ Paired opened more := by
  induction cs with
  | nil => exact ⟨fun hne => absurd rfl hne, h⟩
  | cons c cs ih =>
    rw [List.mem_cons, not_or] at hcs
    cases opened with
    | false =>
      rw [List.cons_append, Paired, if_neg (Ne.symm hcs.1)] at h
      exact ⟨fun _ => rfl, (ih hcs.2 h).2⟩
    | true => exact absurd h.1.symm hcs.1

theorem paired_dropWhile {opened : Bool} {cs : List Char} {test : Char → Bool}
    (htest : test '\'' = false) (h : Paired opened cs) : Paired opened (cs.dropWhile test) := by
  have hquoteless : '\'' ∉ cs.takeWhile test := fun hmem =>
    absurd ((List.all_eq_true.1 (List.all_takeWhile (p := test) (l := cs))) _ hmem)
      (by rw [htest]; exact Bool.false_ne_true)
  rw [← List.takeWhile_append_dropWhile (p := test) (l := cs)] at h
  exact (paired_of_quoteless_append hquoteless h).2

/-! ### Words -/

theorem takeWord_quoteless {word cs taken rest : List Char}
    (hword : ∀ letter ∈ word, matchesLetter letter '\'' = false)
    (h : takeWord word cs = some (taken, rest)) : '\'' ∉ taken := by
  induction word generalizing cs taken with
  | nil =>
    cases h
    exact List.not_mem_nil
  | cons letter word ih =>
    cases cs with
    | nil => cases h
    | cons c cs =>
      rw [List.forall_mem_cons] at hword
      rw [takeWord] at h
      split at h
      · next hc =>
        obtain ⟨m, hm, heq⟩ := Option.map_eq_some_iff.1 h
        cases heq
        rw [List.mem_cons, not_or]
        refine ⟨fun hquote => ?_, ih hword.2 hm⟩
        rw [← hquote, hword.1] at hc
        exact Bool.false_ne_true hc
      · cases h

/-- Behind a word the quotes still come in pairs. -/
theorem paired_takeWord {opened : Bool} {word cs taken rest : List Char} (hne : word ≠ [])
    (hword : ∀ letter ∈ word, matchesLetter letter '\'' = false)
    (h : takeWord word cs = some (taken, rest)) (hcs : Paired opened cs) :
    opened = false ∧ Paired false rest := by
  obtain ⟨hsplit, hlength⟩ := takeWord_eq_some h
  rw [hsplit] at hcs
  obtain ⟨hopened, hrest⟩ := paired_of_quoteless_append (takeWord_quoteless hword h) hcs
  have htaken : taken ≠ [] := by
    intro hnil
    rw [hnil] at hlength
    exact hne (List.length_eq_zero_iff.1 hlength.symm)
  rw [hopened htaken] at hrest
  exact ⟨hopened htaken, hrest⟩

/-! ## The first substitution -/

theorem dropToken_paired {behind rest : List Char} (h : dropToken behind = some rest)
    (hbehind : Paired false behind) : Paired false rest := by
  cases behind with
  | nil => cases h
  | cons c behind =>
    rw [dropToken] at h
    split at h
    · next hspace =>
      have hc : c ≠ '\'' := by
        rintro rfl
        exact absurd hspace (by decide)
      rw [Paired, if_neg hc] at hbehind
      dsimp only at h
      split at h
      · cases h
      · cases h
        exact paired_dropWhile (by decide) (paired_dropWhile (by decide) hbehind)
    · cases h

theorem bearerAt_paired {opened : Bool} {cs new rest : List Char}
    (prev : Option Char) (h : bearerAt prev cs = some (new, rest)) (hcs : Paired opened cs) :
    opened = false ∧ '\'' ∉ new ∧ Paired false rest := by
  obtain ⟨⟨taken, behind⟩, htake, h⟩ := Option.bind_eq_some_iff.1 h
  obtain ⟨rest', htoken, h⟩ := Option.bind_eq_some_iff.1 h
  cases h
  obtain ⟨hopened, hbehind⟩ := paired_takeWord (by decide) (by decide) htake hcs
  exact ⟨hopened, by decide, dropToken_paired htoken hbehind⟩

/-- The quotes of a literal come in pairs when its bearer tokens are replaced. -/
theorem paired_bearer {opened : Bool} {prev : Option Char} {cs : List Char} (h : Paired opened cs) :
    Paired opened (bearer.subAt prev cs) := by
  obtain ⟨prev', hscan⟩ := Pattern.exists_scan bearer prev cs
  revert hscan
  generalize bearer.subAt prev cs = out
  generalize hend : ([] : List Char) = last
  intro hscan
  induction hscan generalizing opened with
  | done =>
    subst hend
    exact h
  | @skip _ _ c cs out _ _ _ ih =>
    cases opened with
    | false =>
      rw [Paired] at h ⊢
      split
      · next hc => exact ih (by rwa [if_pos hc] at h) hend
      · next hc => exact ih (by rwa [if_neg hc] at h) hend
    | true => exact ⟨h.1, ih h.2 hend⟩
  | @hit prev _ _ _ _ _ _ hmatch _ ih =>
    obtain ⟨rfl, hnew, hrest⟩ := bearerAt_paired prev hmatch h
    exact paired_append (paired_of_quoteless hnew) (ih hrest hend)

theorem quoteless_bearer {cs : List Char} (h : '\'' ∉ cs) : '\'' ∉ bearer.sub cs := by
  have hall : ∀ c ∈ bearer.sub cs, c ≠ '\'' := by
    refine Pattern.forall_mem_subAt
      (fun c hc heq => h (heq ▸ hc)) fun prev cs new rest _ hmatch => ?_
    obtain ⟨⟨taken, behind⟩, -, hmatch⟩ := Option.bind_eq_some_iff.1 hmatch
    obtain ⟨rest', -, hmatch⟩ := Option.bind_eq_some_iff.1 hmatch
    cases hmatch
    decide
  exact fun hmem => hall _ hmem rfl

/-! ## The second substitution -/

section Secrets

variable {isWord : Char → Bool}

theorem secretNames_quoteless :
    ∀ name ∈ secretNames, name.toList ≠ [] ∧
      ∀ letter ∈ name.toList, matchesLetter letter '\'' = false := by
  decide

theorem assignmentSign_paired {behind value : List Char} (h : assignmentSign behind = some value)
    (hbehind : Paired false behind) : Paired false value := by
  have hspaces : Paired false (behind.dropWhile isSpace) := paired_dropWhile (by decide) hbehind
  rw [assignmentSign] at h
  split at h
  · cases h
  · next c rest hrest =>
    rw [hrest] at hspaces
    split at h
    · next hc =>
      cases h
      have hne : c ≠ '\'' := by
        rintro rfl
        exact absurd hc (by decide)
      rw [Paired, if_neg hne] at hspaces
      exact paired_dropWhile (by decide) hspaces
    · cases h

/-- The head of a secret has no quotes. -/
theorem secretHead_paired {opened : Bool} {prev : Option Char} {cs new value : List Char}
    (h : secretHead isWord prev cs = some (new, value)) (hcs : Paired opened cs) :
    opened = false ∧ '\'' ∉ new ∧ Paired false value := by
  rw [secretHead] at h
  split at h
  · cases h
  · obtain ⟨name, hname, h⟩ := List.exists_of_findSome?_eq_some h
    obtain ⟨⟨taken, behind⟩, htake, h⟩ := Option.bind_eq_some_iff.1 h
    obtain ⟨value', hsign, h⟩ := Option.bind_eq_some_iff.1 h
    split at h
    · cases h
      obtain ⟨hne, hletters⟩ := secretNames_quoteless name hname
      obtain ⟨hopened, hbehind⟩ := paired_takeWord hne hletters htake hcs
      have hnew : '\'' ∉ taken ++ "=[REDACTED]".toList := by
        rw [List.mem_append, not_or]
        exact ⟨takeWord_quoteless hletters htake, by decide⟩
      exact ⟨hopened, hnew, assignmentSign_paired hsign hbehind⟩
    · cases h

/-- Behind the value of a secret the quotes come in pairs again. -/
theorem paired_dropValue {value : List Char} (h : Paired false value) :
    Paired false (value.dropWhile isValueChar) := by
  rw [← List.takeWhile_append_dropWhile (p := isValueChar) (l := value)] at h
  refine paired_of_append h fun hhead => ?_
  have hnot := List.head?_dropWhile_not isValueChar value
  rw [hhead] at hnot
  exact absurd hnot (by decide)

theorem scan_nil {p : Pattern} {prev prev' : Option Char} {out rest : List Char}
    (h : p.Scan prev [] out prev' rest) : rest = [] := by
  generalize hcs : ([] : List Char) = cs at h
  cases h with
  | done => rfl
  | skip => cases hcs
  | hit hmatch =>
    subst hcs
    cases Pattern.matchAt_nil.symm.trans hmatch

/-- **A scan that leaves the quote** behind a piece of text leaves it whatever follows, and keeps
the quotes of the piece. -/
theorem scan_of_leaves {prev prev' : Option Char} {piece out : List Char}
    (h : (secretAssignment isWord).Scan prev (piece ++ ['\'']) out prev' ['\'']) :
    (∀ more, (secretAssignment isWord).Scan prev (piece ++ '\'' :: more) out prev' ('\'' :: more)) ∧
      (∀ opened, Paired opened piece → Paired opened out) ∧ ('\'' ∉ piece → '\'' ∉ out) := by
  generalize hcs : piece ++ ['\''] = cs at h
  generalize hend : ['\''] = rest at h
  induction h generalizing piece with
  | done prev cs =>
    subst hend
    rw [List.append_left_eq_self] at hcs
    subst hcs
    exact ⟨fun _ => .done _ _, fun _ hpaired => hpaired, fun h => h⟩
  | @skip prev _ c cs out rest hmatch hscan ih =>
    cases piece with
    | nil =>
      cases hcs
      exact absurd (hend.trans (scan_nil hscan)) (List.cons_ne_nil _ _)
    | cons d piece =>
      cases hcs
      obtain ⟨hmore, hpaired, hquoteless⟩ := ih rfl hend
      have hnone : secretHead isWord prev (c :: piece) = none :=
        Option.map_eq_none_iff.1 ((secretAt_quote isWord prev (c :: piece) []).symm.trans hmatch)
      refine ⟨fun more => .skip ?_ (hmore more), fun opened h => ?_, fun h => ?_⟩
      · have hquote := secretAt_quote isWord prev (c :: piece) more
        rw [hnone] at hquote
        exact hquote
      · cases opened with
        | false =>
          rw [Paired] at h ⊢
          split
          · next hc => exact hpaired true (by rwa [if_pos hc] at h)
          · next hc => exact hpaired false (by rwa [if_neg hc] at h)
        | true => exact ⟨h.1, hpaired false h.2⟩
      · rw [List.mem_cons, not_or] at h ⊢
        exact ⟨h.1, hquoteless h.2⟩
  | @hit prev _ _ new cs' out rest hmatch hscan ih =>
    subst hcs
    obtain ⟨consumed, -, hsplit⟩ := (secretAssignment isWord).consumes _ _ _ _ hmatch
    obtain ⟨⟨new', value⟩, hhead, hvalue⟩ :=
      Option.map_eq_some_iff.1 ((secretAt_quote isWord prev piece []).symm.trans hmatch)
    dsimp only at hvalue
    -- The value of the secret ends before the quote.
    rw [List.dropWhile_append] at hvalue
    split at hvalue
    · cases hvalue
      exact absurd (hend.trans (scan_nil hscan)) (List.cons_ne_nil _ _)
    · next hrest =>
      cases hvalue
      obtain ⟨hmore, hpaired, hquoteless⟩ := ih rfl hend
      refine ⟨fun more => ?_, fun opened h => ?_, fun h => ?_⟩
      · have hquote : (secretAssignment isWord).matchAt prev (piece ++ '\'' :: more) =
            some (new, value.dropWhile isValueChar ++ '\'' :: more) := by
          refine (secretAt_quote isWord prev piece more).trans ?_
          rw [hhead, Option.map_some, List.dropWhile_append, if_neg hrest]
        refine .hit hquote ?_
        have hscan := hmore more
        rwa [Pattern.lastBefore_append] at hscan ⊢
      · obtain ⟨rfl, hnew, hbehind⟩ := secretHead_paired hhead h
        exact paired_append (paired_of_quoteless hnew) (hpaired false (paired_dropValue hbehind))
      · rw [← List.append_assoc] at hsplit
        rw [List.append_cancel_right hsplit] at h hhead
        rw [List.mem_append, not_or] at h
        obtain ⟨-, hnew, -⟩ :=
          secretHead_paired hhead (paired_of_quoteless (by rwa [List.mem_append, not_or]))
        rw [List.mem_append, not_or]
        exact ⟨hnew, hquoteless h.2⟩

theorem secretAt_cons_quote (prev : Option Char) (more : List Char) :
    secretAt isWord prev ('\'' :: more) = none := by
  have hhead : secretHead isWord prev [] = none := by
    unfold secretHead
    split <;> rfl
  exact (secretAt_quote isWord prev [] more).trans (congrArg _ hhead)

/-- What the scan of a piece of text writes up to the quote behind it. -/
theorem secretPiece_eq {prev prev' : Option Char} {piece out : List Char}
    (h : (secretAssignment isWord).Scan prev (piece ++ ['\'']) out prev' ['\'']) :
    secretPiece isWord prev piece = out := by
  have hquote : (secretAssignment isWord).matchAt prev' ['\''] = none :=
    secretAt_cons_quote prev' []
  rw [secretPiece, Pattern.subAt_of_scan h, Pattern.subAt_of_none hquote, Pattern.subAt_nil,
    List.dropLast_concat]

/-- A piece of text whose quote stays is scanned on its own. -/
theorem secret_append_quote {prev : Option Char} {piece : List Char}
    (h : LeavesQuote isWord prev piece) (more : List Char) :
    (secretAssignment isWord).subAt prev (piece ++ '\'' :: more) =
      secretPiece isWord prev piece ++ '\'' ::
        (secretAssignment isWord).subAt (some '\'') more := by
  obtain ⟨out, prev', hscan⟩ := h
  have hquote : (secretAssignment isWord).matchAt prev' ('\'' :: more) = none :=
    secretAt_cons_quote prev' more
  rw [Pattern.subAt_of_scan ((scan_of_leaves hscan).1 more), Pattern.subAt_of_none hquote,
    secretPiece_eq hscan]

theorem secretPiece_paired {prev : Option Char} {body : List Char}
    (h : LeavesQuote isWord prev body) (hbody : Paired false body) :
    Paired false (secretPiece isWord prev body) := by
  obtain ⟨out, prev', hscan⟩ := h
  rw [secretPiece_eq hscan]
  exact (scan_of_leaves hscan).2.1 false hbody

theorem secretPiece_quoteless {prev : Option Char} {piece : List Char}
    (h : LeavesQuote isWord prev piece) (hpiece : '\'' ∉ piece) :
    '\'' ∉ secretPiece isWord prev piece := by
  obtain ⟨out, prev', hscan⟩ := h
  rw [secretPiece_eq hscan]
  exact (scan_of_leaves hscan).2.2 hpiece

theorem quoteless_secret {prev : Option Char} {cs : List Char} (h : '\'' ∉ cs) :
    '\'' ∉ (secretAssignment isWord).subAt prev cs := by
  have hall : ∀ c ∈ (secretAssignment isWord).subAt prev cs, c ≠ '\'' := by
    refine Pattern.forall_mem_subAt
      (fun c hc heq => h (heq ▸ hc)) fun prev cs new rest hcs hmatch => ?_
    obtain ⟨-, name, -, taken, behind, htake, -, rfl⟩ := secretAt_eq_some hmatch
    rw [List.forall_mem_append]
    refine ⟨fun c hc => hcs c ?_, by decide⟩
    rw [(takeWord_eq_some htake).1]
    exact List.mem_append_left _ hc
  exact fun hmem => hall _ hmem rfl

/-- **The secrets of a message** whose quotes stay: the literals are still literals, and the text
outside them decides what stands outside. -/
theorem secret_literals {prev : Option Char} {first : List Char} {l : List (List Char × List Char)}
    (h : LeavesQuotes isWord prev first l) (hfirst : '\'' ∉ first)
    (hl : ∀ part ∈ l, Paired false part.1 ∧ '\'' ∉ part.2) :
    ∃ first' l', (secretAssignment isWord).subAt prev (first ++ literals l) =
      first' ++ literals l' ∧
      first' :: l'.map Prod.snd = secretPieces isWord prev first (l.map Prod.snd) ∧
      '\'' ∉ first' ∧ ∀ part ∈ l', Paired false part.1 ∧ '\'' ∉ part.2 := by
  induction l generalizing prev first with
  | nil =>
    refine ⟨_, [], ?_, rfl, quoteless_secret hfirst, nofun⟩
    rw [literals, List.append_nil, List.append_nil]
  | cons part l ih =>
    obtain ⟨body, piece⟩ := part
    obtain ⟨hleaves, hbody, hrest⟩ := h
    rw [List.forall_mem_cons] at hl
    obtain ⟨piece', l', hsub, hpieces, hpiece', hl'⟩ := ih hrest hl.1.2 hl.2
    refine ⟨secretPiece isWord prev first, (secretPiece isWord (some '\'') body, piece') :: l',
      ?_, ?_, secretPiece_quoteless hleaves hfirst, ?_⟩
    · rw [literals, List.append_assoc, List.cons_append, secret_append_quote hleaves,
        List.cons_append, secret_append_quote hbody, hsub]
      simp only [literals, List.cons_append, List.append_assoc]
    · rw [List.map_cons, List.map_cons, secretPieces, hpieces]
    · rw [List.forall_mem_cons]
      exact ⟨⟨secretPiece_paired hbody hl.1.1, hpiece'⟩, hl'⟩

end Secrets

/-! ## The third substitution -/

/-- The character before says nothing to `_SQL_LITERAL`. -/
theorem sqlLiteral_subAt (prev : Option Char) (cs : List Char) :
    sqlLiteral.subAt prev cs = sqlLiteral.sub cs := by
  cases cs <;> rfl

theorem sqlLiteral_append {piece : List Char} (h : '\'' ∉ piece) (more : List Char) :
    sqlLiteral.sub (piece ++ more) = piece ++ sqlLiteral.sub more := by
  induction piece with
  | nil => rfl
  | cons c piece ih =>
    rw [List.mem_cons, not_or] at h
    have hnone : sqlLiteral.matchAt none (c :: (piece ++ more)) = none := by
      change literalAt none (c :: (piece ++ more)) = none
      unfold literalAt
      split
      · next heq => exact absurd (List.cons.inj heq).1.symm h.1
      · rfl
    rw [List.cons_append, Pattern.sub, Pattern.subAt_of_none hnone, sqlLiteral_subAt, ih h.2,
      List.cons_append]

/-- What stands behind a literal, when literals with nothing between them are one. -/
def behindLiteral : List Char → List (List Char × List Char) → List Char
  | [], (_, piece) :: rest => behindLiteral piece rest
  | piece, rest => piece ++ literals rest

theorem literalEnd_cons {c : Char} (hc : c ≠ '\'') (cs : List Char) :
    literalEnd (c :: cs) = literalEnd cs := by
  rw [literalEnd]
  · exact fun _ h _ => hc h
  · exact hc

/-- Where the quotes come in pairs, no literal ends. -/
theorem literalEnd_append {body more rest : List Char} (hbody : Paired false body)
    (h : literalEnd more = some rest) : literalEnd (body ++ more) = some rest := by
  induction hn : body.length using Nat.strong_induction_on generalizing body with
  | _ n ih =>
    subst hn
    obtain rfl | ⟨c, behind, hc, rfl, hbehind⟩ | ⟨behind, rfl, hbehind⟩ := paired_cases hbody
    · exact h
    · rw [List.cons_append, literalEnd_cons hc]
      exact ih behind.length (Nat.lt_succ_self _) hbehind rfl
    · have hend := ih behind.length (Nat.lt_add_of_pos_right Nat.two_pos) hbehind rfl
      rw [List.cons_append, List.cons_append, literalEnd, hend]
      rfl

theorem literalEnd_last {c : Char} (hc : c ≠ '\'') (cs : List Char) :
    literalEnd ('\'' :: c :: cs) = some (c :: cs) := by
  rw [literalEnd]
  rintro rest h
  exact hc (List.cons.inj h).1

/-- A literal ends at its closing quote, unless the next one follows at once. -/
theorem literalEnd_quote {piece : List Char} {l : List (List Char × List Char)}
    (hpiece : '\'' ∉ piece)
    (hl : ∀ part ∈ l, Paired false part.1 ∧ '\'' ∉ part.2) :
    literalEnd ('\'' :: (piece ++ literals l)) = some (behindLiteral piece l) := by
  induction l generalizing piece with
  | nil =>
    cases piece with
    | nil => rfl
    | cons c piece =>
      rw [List.mem_cons, not_or] at hpiece
      exact literalEnd_last (Ne.symm hpiece.1) _
  | cons part l ih =>
    obtain ⟨body, piece'⟩ := part
    rw [List.forall_mem_cons] at hl
    cases piece with
    | nil =>
      have hend := literalEnd_append hl.1.1 (ih hl.1.2 hl.2)
      rw [List.nil_append, literals, List.append_assoc, List.cons_append,
        List.cons_append, literalEnd,
        hend]
      rfl
    | cons c piece =>
      rw [List.mem_cons, not_or] at hpiece
      exact literalEnd_last (Ne.symm hpiece.1) _

/-- **The literals of a message** leave no trace when their quotes come in pairs. -/
theorem sqlLiteral_literals {l : List (List Char × List Char)}
    (hl : ∀ part ∈ l, Paired false part.1 ∧ '\'' ∉ part.2) :
    sqlLiteral.sub (literals l) = hiddenLiterals (l.map Prod.snd) := by
  have hhead : ∀ body piece l, Paired false body → '\'' ∉ piece →
      (∀ part ∈ l, Paired false part.1 ∧ '\'' ∉ part.2) →
      sqlLiteral.sub (literals ((body, piece) :: l)) =
        "'[REDACTED]'".toList ++ sqlLiteral.sub (behindLiteral piece l) := by
    intro body piece l hbody hpiece hl
    have hmatch : sqlLiteral.matchAt none (literals ((body, piece) :: l)) =
        some ("'[REDACTED]'".toList, behindLiteral piece l) := by
      have hend := literalEnd_append hbody (literalEnd_quote hpiece hl)
      rw [literals, List.append_assoc, List.cons_append, List.cons_append]
      change (literalEnd _).map _ = _
      rw [hend]
      rfl
    rw [Pattern.sub, Pattern.subAt_of_some hmatch, sqlLiteral_subAt]
  have hbehind : ∀ l piece, '\'' ∉ piece → (∀ part ∈ l, Paired false part.1 ∧ '\'' ∉ part.2) →
      "'[REDACTED]'".toList ++ sqlLiteral.sub (behindLiteral piece l) =
        hiddenLiterals (piece :: l.map Prod.snd) := by
    intro l
    induction l with
    | nil =>
      intro piece hpiece _
      have hlast : behindLiteral piece [] = piece ++ literals [] := by
        cases piece <;> rfl
      rw [hlast, sqlLiteral_append hpiece, hiddenLiterals,
        if_neg fun h => h.2 rfl, List.append_assoc]
      rfl
    | cons part l ih =>
      intro piece hpiece hl
      obtain ⟨body', piece'⟩ := part
      rw [List.forall_mem_cons] at hl
      cases piece with
      | nil =>
        rw [behindLiteral, ih piece' hl.1.2 hl.2, List.map_cons, hiddenLiterals.eq_2 [],
          if_pos ⟨rfl, List.cons_ne_nil _ _⟩]
      | cons c piece =>
        have hpiece' : behindLiteral (c :: piece) ((body', piece') :: l) =
            (c :: piece) ++ literals ((body', piece') :: l) := rfl
        rw [hpiece', sqlLiteral_append hpiece, hhead _ _ _ hl.1.1 hl.1.2 hl.2,
          ih piece' hl.1.2 hl.2, hiddenLiterals.eq_2 (c :: piece),
          if_neg fun h => List.cons_ne_nil _ _ h.1, List.append_assoc]
        rfl
  cases l with
  | nil => rfl
  | cons part l =>
    obtain ⟨body, piece⟩ := part
    rw [List.forall_mem_cons] at hl
    rw [hhead _ _ _ hl.1.1 hl.1.2 hl.2, hbehind l piece hl.1.2 hl.2]
    rfl

/-! ## Messages -/

namespace Outside

variable {isWord : Char → Bool} {outside : Outside} {bodies : ℕ → String}

/-- Once the bearer tokens are replaced, no secret assignment of the message takes a quote that
opens or closes a literal. -/
def KeepsLiterals (isWord : Char → Bool) (outside : Outside) (bodies : ℕ → String) : Prop :=
  LeavesQuotes isWord none (bearer.sub outside.first.toList)
    ((parts outside.rest bodies).map (Prod.map bearer.sub bearer.sub))

theorem parts_map_snd (rest : List String) (bodies : ℕ → String) :
    (parts rest bodies).map Prod.snd = rest.map String.toList := by
  induction rest generalizing bodies with
  | nil => rfl
  | cons piece rest ih => rw [parts, List.map_cons, List.map_cons, ih]

theorem forall_mem_parts {rest : List String} (hrest : ∀ piece ∈ rest, '\'' ∉ piece.toList)
    (bodies : ℕ → String) :
    ∀ part ∈ parts rest bodies, Paired false part.1 ∧ '\'' ∉ part.2 := by
  induction rest generalizing bodies with
  | nil => exact nofun
  | cons piece rest ih =>
    rw [List.forall_mem_cons] at hrest
    rw [parts, List.forall_mem_cons]
    exact ⟨⟨paired_doubled _, hrest.1⟩, ih hrest.2 _⟩

/-- **Redacted literals leave no trace** where the secrets leave the literals: what is logged is
decided by the text outside them. -/
theorem redact_message (h : outside.KeepsLiterals isWord bodies) :
    redact isWord (outside.message bodies) = outside.redacted isWord := by
  have hparts : ∀ part ∈ (parts outside.rest bodies).map (Prod.map bearer.sub bearer.sub),
      Paired false part.1 ∧ '\'' ∉ part.2 := by
    intro part hmem
    obtain ⟨part', hmem', rfl⟩ := List.mem_map.1 hmem
    obtain ⟨hbody, hpiece⟩ := forall_mem_parts outside.rest_quoteless bodies part' hmem'
    exact ⟨paired_bearer hbody, quoteless_bearer hpiece⟩
  obtain ⟨first', l', hsub, hpieces, hfirst', hl'⟩ :=
    secret_literals h (quoteless_bearer outside.first_quoteless) hparts
  have hsnd : ((parts outside.rest bodies).map (Prod.map bearer.sub bearer.sub)).map Prod.snd =
      outside.rest.map fun piece => bearer.sub piece.toList := by
    have hpieces := congrArg (List.map bearer.sub) (parts_map_snd outside.rest bodies)
    rw [List.map_map] at hpieces ⊢
    rw [List.map_map] at hpieces
    exact hpieces
  rw [hsnd] at hpieces
  have hsecret : (secretAssignment isWord).sub (bearer.sub (outside.message bodies).toList) =
      first' ++ literals l' := by
    rw [message, String.toList_ofList, bearer_literals]
    exact hsub
  rw [redact, hsecret, sqlLiteral_append hfirst', sqlLiteral_literals hl', redacted, ← hpieces]

end Outside

/-! ## One quote too many -/

section Parity

theorem literalEnd_count {cs rest : List Char} (h : literalEnd cs = some rest) :
    cs.count '\'' % 2 = (rest.count '\'' + 1) % 2 := by
  fun_induction literalEnd cs with
  | case1 => cases h
  | case2 cs ih =>
    rw [List.count_cons_self, List.count_cons_self]
    rcases Option.or_eq_some_iff.1 h with h | ⟨-, h⟩
    · have := ih h
      omega
    · cases h
      rw [List.count_cons_self]
  | case3 cs =>
    cases h
    rw [List.count_cons_self]
  | case4 c cs _ hc ih =>
    rw [List.count_cons_of_ne hc]
    exact ih h

/-- The third substitution takes and gives quotes in pairs. -/
theorem sqlLiteral_count (cs : List Char) :
    (sqlLiteral.sub cs).count '\'' % 2 = cs.count '\'' % 2 := by
  obtain ⟨prev', hscan⟩ := Pattern.exists_scan sqlLiteral none cs
  change sqlLiteral.Scan none cs (sqlLiteral.sub cs) prev' [] at hscan
  generalize sqlLiteral.sub cs = out, (none : Option Char) = prev at hscan
  generalize hend : ([] : List Char) = last at hscan
  induction hscan with
  | done =>
    rw [← hend]
  | @skip _ _ c _ _ _ _ _ ih =>
    have := ih hend
    rw [List.count_cons, List.count_cons]
    omega
  | @hit prev _ cs new cs' out _ hmatch _ ih =>
    have hrest := ih hend
    change literalAt prev cs = _ at hmatch
    unfold literalAt at hmatch
    split at hmatch
    · obtain ⟨rest, hlast, heq⟩ := Option.map_eq_some_iff.1 hmatch
      obtain ⟨rfl, rfl⟩ := Prod.mk.inj heq
      have hcount := literalEnd_count hlast
      have htwo : ("'[REDACTED]'".toList).count '\'' = 2 := by decide
      rw [List.count_append, htwo, List.count_cons_self]
      omega
    · cases hmatch

variable {isWord : Char → Bool}

/-- No match of `_SECRET_ASSIGNMENT` sees what stands behind a quote and a space. -/
theorem secret_append_space (prev : Option Char) (cs more : List Char) :
    (secretAssignment isWord).subAt prev (cs ++ '\'' :: ' ' :: more) =
      (secretAssignment isWord).subAt prev (cs ++ ['\'']) ++
        ' ' :: (secretAssignment isWord).subAt (some ' ') more := by
  have hlocal : ∀ prev cs', cs' <:+ cs ++ ['\''] → cs' ≠ [] →
      (secretAssignment isWord).matchAt prev (cs' ++ ' ' :: more) =
        ((secretAssignment isWord).matchAt prev cs').map fun m => (m.1, m.2 ++ ' ' :: more) := by
    intro prev cs' hsuffix hne
    obtain rfl | ⟨cs', rfl, -⟩ := List.suffix_concat_iff.1 hsuffix
    · exact absurd rfl hne
    · rw [List.append_assoc]
      refine (secretAt_quote isWord prev cs' (' ' :: more)).trans ?_
      refine Eq.trans ?_ (congrArg _ (secretAt_quote isWord prev cs' [])).symm
      rw [Option.map_map]
      refine congrArg (fun f => Option.map f _) (funext fun m => ?_)
      have hstop := @dropWhile_append_stop isValueChar ' ' (by decide) (m.2 ++ ['\'']) more
      rw [List.append_assoc] at hstop
      exact congrArg _ hstop
  have hspace : ∀ prev, (secretAssignment isWord).matchAt prev (' ' :: more) = none := by
    intro prev
    change secretAt isWord prev (' ' :: more) = none
    unfold secretAt
    split <;> rfl
  have hcut := Pattern.subAt_append hlocal prev
  rw [List.append_assoc, Pattern.subAt_of_none (hspace _)] at hcut
  exact hcut

/-- A secret that takes the quote behind it. -/
theorem secret_taken (hspace : isWord ' ' = false) (more : List Char) :
    secretAt isWord (some ' ') ("token=x".toList ++ '\'' :: more) =
      some ("token=[REDACTED]".toList, more.dropWhile isValueChar) := by
  have hhead :
      secretHead isWord (some ' ') "token=x".toList = some ("token=[REDACTED]".toList, ['x']) := by
    rw [secretHead, Option.any_some, hspace]
    rfl
  rw [secretAt_quote, hhead]
  rfl

/-- The two ways on behind the space differ in a quote. -/
theorem secret_count (hspace : isWord ' ' = false) {cs : List Char} (hcs : '\'' ∉ cs) :
    ((secretAssignment isWord).subAt (some ' ') ('\'' :: cs)).count '\'' = 1 ∧
      ((secretAssignment isWord).subAt (some ' ') ("token=x".toList ++ '\'' :: cs)).count
        '\'' = 0 := by
  have hquote : (secretAssignment isWord).matchAt (some ' ') ('\'' :: cs) = none :=
    secretAt_cons_quote _ _
  have htaken : (secretAssignment isWord).matchAt (some ' ') ("token=x".toList ++ '\'' :: cs) =
      some ("token=[REDACTED]".toList, cs.dropWhile isValueChar) :=
    secret_taken hspace cs
  have hrest : '\'' ∉ cs.dropWhile isValueChar := fun hmem =>
    hcs ((List.dropWhile_suffix _).subset hmem)
  constructor
  · rw [Pattern.subAt_of_none hquote, List.count_cons_self,
      List.count_eq_zero_of_not_mem (quoteless_secret hcs)]
  · rw [Pattern.subAt_of_some htaken, List.count_append,
      List.count_eq_zero_of_not_mem (quoteless_secret hrest)]
    decide

end Parity

namespace Outside

variable {isWord : Char → Bool}

/-- Empty literals but the last one. -/
def onlyLast (count : ℕ) (body : String) (n : ℕ) : String :=
  if n + 1 = count then body else ""

theorem literals_onlyLast {rest : List String} (hne : rest ≠ [])
    (hrest : ∀ piece ∈ rest, '\'' ∉ piece.toList) :
    ∃ before last, '\'' ∉ last ∧ ∀ body : String, '\'' ∉ body.toList →
      literals (parts rest (onlyLast rest.length body)) =
        before ++ '\'' :: body.toList ++ '\'' :: last := by
  have hbody : ∀ body : List Char, '\'' ∉ body → doubled body = body := by
    intro body hbody
    induction body with
    | nil => rfl
    | cons c body ih =>
      rw [List.mem_cons, not_or] at hbody
      rw [doubled, List.flatMap_cons, if_neg (Ne.symm hbody.1)]
      exact congrArg (List.cons c) (ih hbody.2)
  induction rest with
  | nil => exact absurd rfl hne
  | cons piece rest ih =>
    rw [List.forall_mem_cons] at hrest
    cases rest with
    | nil =>
      refine ⟨[], piece.toList, hrest.1, fun body hquoteless => ?_⟩
      have hfirst : onlyLast [piece].length body 0 = body := rfl
      rw [parts, literals, hfirst, hbody _ hquoteless, parts, literals, List.append_nil]
      rfl
    | cons piece' rest =>
      obtain ⟨before, last, hlast, heq⟩ := ih (List.cons_ne_nil _ _) hrest.2
      refine ⟨'\'' :: '\'' :: piece.toList ++ before, last, hlast, fun body hquoteless => ?_⟩
      have hshift : (fun n => onlyLast (piece :: piece' :: rest).length body (n + 1)) =
          onlyLast (piece' :: rest).length body := by
        funext n
        simp only [onlyLast, List.length_cons, Nat.add_right_cancel_iff]
      have hempty : onlyLast (piece :: piece' :: rest).length body 0 = "" :=
        if_neg (by simp)
      rw [parts, literals, hempty, hshift, heq body hquoteless]
      simp only [List.append_assoc, List.cons_append]
      rfl

/-- The quotes of the redacted message, when the body of its last literal starts with a space. -/
theorem redact_count {outside : Outside} {before last : List Char} {bodies : ℕ → String}
    (body : List Char) (hparts : literals (parts outside.rest bodies) =
      before ++ '\'' :: (' ' :: body) ++ '\'' :: last)
    (hbody : bearer.sub (' ' :: body) = ' ' :: body) :
    (redact isWord (outside.message bodies)).toList.count '\'' % 2 =
      (((secretAssignment isWord).subAt none
          (bearer.sub (outside.first.toList ++ before) ++ ['\''])).count '\'' +
        ((secretAssignment isWord).subAt (some ' ') (body ++ '\'' :: bearer.sub last)).count
          '\'') % 2 := by
  have hbearer : bearer.sub (outside.message bodies).toList =
      bearer.sub (outside.first.toList ++ before) ++
        '\'' :: ' ' :: (body ++ '\'' :: bearer.sub last) := by
    rw [message, String.toList_ofList, hparts, List.append_assoc, ← List.append_assoc,
      List.cons_append, bearer_append_quote, bearer_append_quote, hbody]
    rfl
  rw [redact, String.toList_ofList, sqlLiteral_count, hbearer, Pattern.sub, secret_append_space,
    List.count_append, List.count_cons_of_ne (by decide)]

/-- Two bodies of the last literal, of which the second hides the closing quote from the third
substitution. -/
theorem redact_ne (hspace : isWord ' ' = false) {outside : Outside} (hne : outside.rest ≠ []) :
    redact isWord (outside.message (onlyLast outside.rest.length " ")) ≠
      redact isWord (outside.message (onlyLast outside.rest.length " token=x")) := by
  obtain ⟨before, last, hlast, heq⟩ := literals_onlyLast hne outside.rest_quoteless
  obtain ⟨hkept, htaken⟩ := secret_count hspace (quoteless_bearer hlast)
  intro hredact
  have hcount := congrArg (fun value => value.toList.count '\'' % 2) hredact
  rw [redact_count [] (heq " " (by decide)) (by decide),
    redact_count "token=x".toList (heq " token=x" (by decide)) (by decide), htaken,
    List.nil_append, hkept] at hcount
  omega

end Outside

/-! ## Logs without literals -/

namespace Outside

/-- **Literals and the log**: the log forgets the bodies of the literals of a message for the
messages without literals only. Where no secret assignment takes a quote of a literal, it forgets
them. -/
theorem literals_logged (isWord : Char → Bool) (hspace : isWord ' ' = false) (outside : Outside) :
    ((∀ bodies bodies', redact isWord (outside.message bodies) =
        redact isWord (outside.message bodies')) ↔ outside.rest = []) ∧
      ∀ bodies bodies', outside.KeepsLiterals isWord bodies → outside.KeepsLiterals isWord bodies' →
        redact isWord (outside.message bodies) = redact isWord (outside.message bodies') := by
  refine ⟨⟨fun hsame => ?_, fun hnil bodies bodies' => ?_⟩, fun bodies bodies' h h' => ?_⟩
  · by_contra hne
    exact redact_ne hspace hne (hsame _ _)
  · rw [message, message, hnil]
    rfl
  · rw [redact_message h, redact_message h']

/-- The word characters of ASCII. -/
def asciiWord (c : Char) : Bool :=
  c.isAlphanum || c = '_'

/-- A message with a secret in a literal. -/
def quotedSecret : Outside where
  first := "password="
  rest := [""]
  first_quoteless := by decide
  rest_quoteless := by decide

/-- The value of a secret ends at a space, also in a literal. -/
theorem literals_logged_secret :
    redact asciiWord (quotedSecret.message fun _ => "a b") = "password=[REDACTED] b'" ∧
      redact asciiWord (quotedSecret.message fun _ => "a c") = "password=[REDACTED] c'" ∧
      redact asciiWord (quotedSecret.message fun _ => "a b") ≠
        redact asciiWord (quotedSecret.message fun _ => "a c") := by
  decide

/-- A message whose literal no secret reaches. -/
def quotedName : Outside where
  first := "x "
  rest := [" y"]
  first_quoteless := by decide
  rest_quoteless := by decide

theorem literals_logged_name :
    redact asciiWord (quotedName.message fun _ => "a") =
      redact asciiWord (quotedName.message fun _ => "b") :=
  (literals_logged asciiWord (by decide) quotedName).2 _ _
    ⟨⟨_, _, .skip rfl (.skip rfl (.done _ _))⟩, ⟨_, _, .skip rfl (.done _ _)⟩, trivial⟩
    ⟨⟨_, _, .skip rfl (.skip rfl (.done _ _))⟩, ⟨_, _, .skip rfl (.done _ _)⟩, trivial⟩

end Outside

end QueryMan
