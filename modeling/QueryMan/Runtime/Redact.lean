import QueryMan.Python.Substitute
import QueryMan.Python.Value

/-!
# Redaction

`redact` of `runtime/operations.py` with its three patterns, and what it makes of the SQL literals
of a message.
-/

namespace QueryMan

open Python

/-- A statement about all characters of a text is decided by going through the text. -/
local instance (priority := high) decidableForallMem {p : Char → Prop} [DecidablePred p]
    (cs : List Char) : Decidable (∀ c ∈ cs, p c) :=
  List.decidableBAll p cs

/-! ## Characters -/

/-- The characters that a letter of a pattern matches when case is ignored. -/
def matchesLetter (letter c : Char) : Bool :=
  c = letter || c = letter.toUpper || (letter = 's' && c.toNat = 0x17f) ||
    (letter = 'k' && c.toNat = 0x212a) ||
    (letter = 'i' && (c.toNat = 0x130 || c.toNat = 0x131))

/-- `[A-Za-z0-9._~+/=-]` when case is ignored. -/
def isTokenChar (c : Char) : Bool :=
  c.isAlphanum || c ∈ ['.', '_', '~', '+', '/', '=', '-'] ||
    c.toNat ∈ [0x130, 0x131, 0x17f, 0x212a]

/-- `[^\s,;]`. -/
def isValueChar (c : Char) : Bool :=
  !isSpace c && c != ',' && c != ';'

/-- A word at the start of a text: the characters that match it, and the text behind them. -/
def takeWord : List Char → List Char → Option (List Char × List Char)
  | [], cs => some ([], cs)
  | _ :: _, [] => none
  | letter :: word, c :: cs =>
    if matchesLetter letter c then (takeWord word cs).map fun m => (c :: m.1, m.2) else none

theorem takeWord_eq_some {word cs taken rest : List Char}
    (h : takeWord word cs = some (taken, rest)) :
    cs = taken ++ rest ∧ taken.length = word.length := by
  induction word generalizing cs taken with
  | nil =>
    cases h
    exact ⟨rfl, rfl⟩
  | cons letter word ih =>
    cases cs with
    | nil => cases h
    | cons c cs =>
      rw [takeWord] at h
      split at h
      · obtain ⟨m, hm, heq⟩ := Option.map_eq_some_iff.1 h
        cases heq
        obtain ⟨hcs, hlength⟩ := ih hm
        exact ⟨by rw [hcs]; rfl, by rw [List.length_cons, List.length_cons, hlength]⟩
      · cases h

/-! ## Patterns -/

/-- What follows `bearer`: spaces, then a token. -/
def dropToken (cs : List Char) : Option (List Char) :=
  match cs with
  | [] => none
  | c :: rest =>
    if isSpace c then
      let value := rest.dropWhile isSpace
      if value.takeWhile isTokenChar = [] then none else some (value.dropWhile isTokenChar)
    else none

/-- `_BEARER`, with its replacement. -/
def bearerAt (_ : Option Char) (cs : List Char) : Option (List Char × List Char) := do
  let (_, rest) ← takeWord "bearer".toList cs
  let rest ← dropToken rest
  pure ("Bearer [REDACTED]".toList, rest)

/-- `=` or `:` between spaces. -/
def assignmentSign (cs : List Char) : Option (List Char) :=
  match cs.dropWhile isSpace with
  | [] => none
  | c :: rest => if c = '=' ∨ c = ':' then some (rest.dropWhile isSpace) else none

/-- The value of a secret. -/
def dropValue (cs : List Char) : Option (List Char) :=
  if cs.takeWhile isValueChar = [] then none else some (cs.dropWhile isValueChar)

/-- What follows the name of a secret. -/
def secretValue (cs : List Char) : Option (List Char) :=
  (assignmentSign cs).bind dropValue

/-- The names of secrets, in the order of the pattern. -/
def secretNames : List String :=
  ["password", "credential", "token", "secret"]

/-- `_SECRET_ASSIGNMENT`, with its replacement. The names start with a word character, so that `\b`
asks for the character before. -/
def secretAt (isWord : Char → Bool) (prev : Option Char) (cs : List Char) :
    Option (List Char × List Char) :=
  if prev.any isWord then none
  else secretNames.findSome? fun name => do
    let (taken, rest) ← takeWord name.toList cs
    let rest ← secretValue rest
    pure (taken ++ "=[REDACTED]".toList, rest)

/-- The end of `_SQL_LITERAL` behind the opening quote: a doubled quote goes on, unless no quote
follows that could end the literal. -/
def literalEnd : List Char → Option (List Char)
  | [] => none
  | '\'' :: '\'' :: rest => (literalEnd rest).or (some ('\'' :: rest))
  | '\'' :: rest => some rest
  | _ :: rest => literalEnd rest

/-- `_SQL_LITERAL`, with its replacement. -/
def literalAt (_ : Option Char) (cs : List Char) : Option (List Char × List Char) :=
  match cs with
  | '\'' :: rest => (literalEnd rest).map fun rest => ("'[REDACTED]'".toList, rest)
  | _ => none

/-! ### Every match takes a character -/

theorem dropToken_suffix {cs rest : List Char} (h : dropToken cs = some rest) : rest <:+ cs := by
  cases cs with
  | nil => cases h
  | cons c cs =>
    rw [dropToken] at h
    split at h
    · dsimp only at h
      split at h
      · cases h
      · cases h
        exact ((List.dropWhile_suffix _).trans (List.dropWhile_suffix _)).trans
          (List.suffix_cons _ _)
    · cases h

theorem secretValue_suffix {cs rest : List Char} (h : secretValue cs = some rest) :
    rest <:+ cs := by
  obtain ⟨value, hsign, hvalue⟩ := Option.bind_eq_some_iff.1 h
  have hrest : rest <:+ value := by
    rw [dropValue] at hvalue
    split at hvalue
    · cases hvalue
    · cases hvalue
      exact List.dropWhile_suffix _
  refine hrest.trans ?_
  have hspaces : cs.dropWhile isSpace <:+ cs := List.dropWhile_suffix _
  rw [assignmentSign] at hsign
  split at hsign
  · cases hsign
  · next c behind hcs =>
    rw [hcs] at hspaces
    split at hsign
    · cases hsign
      exact ((List.dropWhile_suffix _).trans (List.suffix_cons _ _)).trans hspaces
    · cases hsign

/-- A word and what follows it. -/
theorem consumes_word {word cs taken rest rest' : List Char} (hword : word ≠ [])
    (htake : takeWord word cs = some (taken, rest)) (hrest : rest' <:+ rest) :
    ∃ consumed, consumed ≠ [] ∧ cs = consumed ++ rest' := by
  obtain ⟨hcs, hlength⟩ := takeWord_eq_some htake
  obtain ⟨more, hmore⟩ := hrest
  refine ⟨taken ++ more, fun hnil => ?_, by rw [hcs, ← hmore, List.append_assoc]⟩
  rw [(List.append_eq_nil_iff.1 hnil).1] at hlength
  exact hword (List.length_eq_zero_iff.1 hlength.symm)

/-- `_BEARER.sub`. -/
def bearer : Pattern where
  matchAt := bearerAt
  consumes := by
    intro prev cs new rest h
    obtain ⟨⟨taken, behind⟩, htake, h⟩ := Option.bind_eq_some_iff.1 h
    obtain ⟨rest', htoken, h⟩ := Option.bind_eq_some_iff.1 h
    cases h
    exact consumes_word (by decide) htake (dropToken_suffix htoken)

theorem secretAt_eq_some {isWord : Char → Bool} {prev : Option Char} {cs new rest : List Char}
    (h : secretAt isWord prev cs = some (new, rest)) :
    prev.any isWord = false ∧ ∃ name ∈ secretNames, ∃ taken behind,
      takeWord name.toList cs = some (taken, behind) ∧ secretValue behind = some rest ∧
        new = taken ++ "=[REDACTED]".toList := by
  rw [secretAt] at h
  split at h
  · cases h
  · next hprev =>
    refine ⟨Bool.eq_false_iff.2 hprev, ?_⟩
    obtain ⟨name, hname, h⟩ := List.exists_of_findSome?_eq_some h
    obtain ⟨⟨taken, behind⟩, htake, h⟩ := Option.bind_eq_some_iff.1 h
    obtain ⟨rest', hvalue, h⟩ := Option.bind_eq_some_iff.1 h
    cases h
    exact ⟨name, hname, taken, behind, htake, hvalue, rfl⟩

/-- `_SECRET_ASSIGNMENT.sub`. -/
def secretAssignment (isWord : Char → Bool) : Pattern where
  matchAt := secretAt isWord
  consumes := by
    intro prev cs new rest h
    obtain ⟨-, name, hname, taken, behind, htake, hvalue, -⟩ := secretAt_eq_some h
    have hword : ∀ name ∈ secretNames, name.toList ≠ [] := by decide
    exact consumes_word (hword name hname) htake (secretValue_suffix hvalue)

theorem literalEnd_suffix {cs rest : List Char} (h : literalEnd cs = some rest) : rest <:+ cs := by
  fun_induction literalEnd cs with
  | case1 => cases h
  | case2 cs ih =>
    rcases Option.or_eq_some_iff.1 h with h | ⟨-, h⟩
    · exact (ih h).trans ((List.suffix_cons _ _).trans (List.suffix_cons _ _))
    · cases h
      exact List.suffix_cons _ _
  | case3 cs =>
    cases h
    exact List.suffix_cons _ _
  | case4 c cs _ _ ih => exact (ih h).trans (List.suffix_cons _ _)

/-- `_SQL_LITERAL.sub`. -/
def sqlLiteral : Pattern where
  matchAt := literalAt
  consumes := by
    intro prev cs new rest h
    unfold literalAt at h
    split at h
    · next cs =>
      obtain ⟨rest', hend, h⟩ := Option.map_eq_some_iff.1 h
      cases h
      obtain ⟨more, hmore⟩ := literalEnd_suffix hend
      exact ⟨'\'' :: more, List.cons_ne_nil _ _, by rw [← hmore]; rfl⟩
    · cases h

/-- `redact`; `isWord` tells the characters of `\w`, the letters and digits of all scripts. -/
def redact (isWord : Char → Bool) (value : String) : String :=
  String.ofList (sqlLiteral.sub ((secretAssignment isWord).sub (bearer.sub value.toList)))

/-! ## What stops a match -/

section

variable {test : Char → Bool} {c : Char}

theorem dropWhile_append_stop (h : test c = false) (cs more : List Char) :
    (cs ++ c :: more).dropWhile test = cs.dropWhile test ++ c :: more := by
  induction cs with
  | nil => exact List.dropWhile_cons_of_neg (by rw [h]; exact Bool.false_ne_true)
  | cons d cs ih =>
    rw [List.cons_append, List.dropWhile_cons, List.dropWhile_cons]
    split
    · exact ih
    · rfl

theorem takeWhile_append_stop (h : test c = false) (cs more : List Char) :
    (cs ++ c :: more).takeWhile test = cs.takeWhile test := by
  induction cs with
  | nil => exact List.takeWhile_cons_of_neg (by rw [h]; exact Bool.false_ne_true)
  | cons d cs ih =>
    rw [List.cons_append, List.takeWhile_cons, List.takeWhile_cons, ih]

theorem takeWord_append_stop {word : List Char}
    (h : ∀ letter ∈ word, matchesLetter letter c = false)
    (cs more : List Char) :
    takeWord word (cs ++ c :: more) = (takeWord word cs).map fun m => (m.1, m.2 ++ c :: more) := by
  induction word generalizing cs with
  | nil => rfl
  | cons letter word ih =>
    rw [List.forall_mem_cons] at h
    cases cs with
    | nil =>
      have hstop : takeWord (letter :: word) (c :: more) = none :=
        if_neg (Bool.eq_false_iff.1 h.1)
      exact hstop
    | cons d cs =>
      rw [List.cons_append, takeWord, takeWord]
      split
      · rw [ih h.2, Option.map_map, Option.map_map]
        rfl
      · rfl

end

/-! ### Quotes -/

/-- No match of `_BEARER` sees a quote. -/
theorem bearerAt_quote (prev : Option Char) (cs more : List Char) :
    bearerAt prev (cs ++ '\'' :: more) =
      (bearerAt prev cs).map fun m => (m.1, m.2 ++ '\'' :: more) := by
  have htoken : ∀ behind, dropToken (behind ++ '\'' :: more) =
      (dropToken behind).map fun rest => rest ++ '\'' :: more := by
    intro behind
    cases behind with
    | nil => rfl
    | cons c behind =>
      rw [List.cons_append, dropToken, dropToken]
      split
      · dsimp only
        rw [dropWhile_append_stop (by decide), takeWhile_append_stop (by decide),
          dropWhile_append_stop (by decide)]
        split <;> rfl
      · rfl
  unfold bearerAt
  rw [takeWord_append_stop (by decide)]
  cases takeWord "bearer".toList cs with
  | none => rfl
  | some m =>
    simp only [Option.map_some, Option.bind_eq_bind, Option.bind_some, htoken]
    cases dropToken m.2 <;> rfl

/-- The character before says nothing to `_BEARER`. -/
theorem bearer_subAt (prev : Option Char) (cs : List Char) :
    bearer.subAt prev cs = bearer.sub cs := by
  cases cs <;> rfl

theorem bearer_append_quote (cs more : List Char) :
    bearer.sub (cs ++ '\'' :: more) = bearer.sub cs ++ '\'' :: bearer.sub more := by
  have hquote : bearer.matchAt (cs.getLast?.or none) ('\'' :: more) = none :=
    bearerAt_quote none [] more
  rw [Pattern.sub, Pattern.subAt_append fun prev cs' _ _ => bearerAt_quote prev cs' more,
    Pattern.subAt_of_none hquote, bearer_subAt, bearer_subAt]

theorem findSome?_congr {α β : Type} {f g : α → Option β} {l : List α} (h : ∀ a ∈ l, f a = g a) :
    l.findSome? f = l.findSome? g := by
  induction l with
  | nil => rfl
  | cons a l ih =>
    rw [List.forall_mem_cons] at h
    rw [List.findSome?_cons, List.findSome?_cons, h.1, ih h.2]

/-- The name and the sign of a secret in front of a value, of which a quote is a part. -/
def secretHead (isWord : Char → Bool) (prev : Option Char) (cs : List Char) :
    Option (List Char × List Char) :=
  if prev.any isWord then none
  else secretNames.findSome? fun name => do
    let (taken, rest) ← takeWord name.toList cs
    let value ← assignmentSign rest
    if value.head?.all isValueChar then pure (taken ++ "=[REDACTED]".toList, value) else none

/-- A match of `_SECRET_ASSIGNMENT` starts before a quote, and its value may go on behind it. -/
theorem secretAt_quote (isWord : Char → Bool) (prev : Option Char) (cs more : List Char) :
    secretAt isWord prev (cs ++ '\'' :: more) =
      (secretHead isWord prev cs).map fun m =>
        (m.1, (m.2 ++ '\'' :: more).dropWhile isValueChar) := by
  have hsign : ∀ behind, assignmentSign (behind ++ '\'' :: more) =
      (assignmentSign behind).map fun value => value ++ '\'' :: more := by
    intro behind
    rw [assignmentSign, assignmentSign, dropWhile_append_stop (by decide)]
    cases behind.dropWhile isSpace with
    | nil => rfl
    | cons c behind =>
      rw [List.cons_append]
      dsimp only
      rw [dropWhile_append_stop (by decide)]
      split <;> rfl
  have hvalue : ∀ value, dropValue (value ++ '\'' :: more) =
      if value.head?.all isValueChar then some ((value ++ '\'' :: more).dropWhile isValueChar)
      else none := by
    intro value
    rw [dropValue]
    cases value with
    | nil => rfl
    | cons c value =>
      rw [List.cons_append, List.takeWhile_cons, List.head?_cons, Option.all_some]
      split <;> rfl
  have hnames :
      ∀ name ∈ secretNames, ∀ letter ∈ name.toList, matchesLetter letter '\'' = false := by
    decide
  unfold secretAt secretHead
  split
  · rfl
  · rw [List.map_findSome?]
    refine findSome?_congr fun name hname => ?_
    rw [takeWord_append_stop (hnames name hname), Function.comp_apply]
    cases takeWord name.toList cs with
    | none => rfl
    | some m =>
      simp only [Option.map_some, Option.bind_eq_bind, Option.bind_some, secretValue, hsign]
      cases assignmentSign m.2 with
      | none => rfl
      | some value =>
        simp only [Option.map_some, Option.bind_some, hvalue]
        split <;> rfl

end QueryMan
