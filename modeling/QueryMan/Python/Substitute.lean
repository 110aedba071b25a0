import Mathlib.Data.List.Basic
import Mathlib.Data.List.Infix

/-!
# Substitution of patterns

`re.sub` for patterns that are given by what they match at a position: the text is scanned from the
left, and where the pattern matches, the match is replaced and the scan goes on behind it
(`Pattern.sub`). A `Pattern.Scan` is a part of such a scan. A text can be cut in two where no match
of the first part sees the second (`Pattern.subAt_append`).
-/

namespace Python

/-- A pattern with its replacement. At a position, with the character before it, `matchAt` gives the
text that replaces the match and the text behind it. No match is empty. -/
structure Pattern where
  matchAt : Option Char → List Char → Option (List Char × List Char)
  consumes : ∀ prev cs new rest, matchAt prev cs = some (new, rest) →
    ∃ consumed, consumed ≠ [] ∧ cs = consumed ++ rest

namespace Pattern

variable (p : Pattern)

/-- The character before the rest of a text. -/
def lastBefore (cs rest : List Char) : Option Char :=
  (cs.take (cs.length - rest.length)).getLast?

/-- The substitution from a position on, with as many steps as the fuel allows. -/
def subFrom : Nat → Option Char → List Char → List Char
  | 0, _, cs => cs
  | _ + 1, _, [] => []
  | fuel + 1, prev, c :: cs =>
    match p.matchAt prev (c :: cs) with
    | some (new, rest) => new ++ subFrom fuel (lastBefore (c :: cs) rest) rest
    | none => c :: subFrom fuel (some c) cs

/-- The substitution from a position on: a step takes a character at least. -/
def subAt (prev : Option Char) (cs : List Char) : List Char :=
  p.subFrom cs.length prev cs

/-- `pattern.sub(replacement, text)`. -/
def sub (cs : List Char) : List Char :=
  p.subAt none cs

variable {p} {prev : Option Char} {c : Char} {cs new rest : List Char}

theorem length_lt (h : p.matchAt prev cs = some (new, rest)) : rest.length < cs.length := by
  obtain ⟨consumed, hne, rfl⟩ := p.consumes _ _ _ _ h
  rw [List.length_append]
  have hpos := List.length_pos_iff.2 hne
  omega

@[simp] theorem matchAt_nil : p.matchAt prev [] = none := by
  cases h : p.matchAt prev [] with
  | none => rfl
  | some m => exact absurd (length_lt h) (Nat.not_lt_zero _)

theorem subFrom_nil (fuel : Nat) : p.subFrom fuel prev [] = [] := by
  cases fuel <;> rfl

/-- More fuel than characters changes nothing. -/
theorem subFrom_eq {fuel : Nat} (h : cs.length ≤ fuel) :
    p.subFrom fuel prev cs = p.subAt prev cs := by
  unfold subAt
  suffices heq :
    ∀ m n, cs.length ≤ m → cs.length ≤ n → p.subFrom m prev cs = p.subFrom n prev cs from
    heq _ _ h le_rfl
  clear h
  intro m n hm hn
  induction m generalizing n prev cs with
  | zero =>
    rw [List.length_eq_zero_iff.1 (Nat.le_zero.1 hm), subFrom_nil, subFrom_nil]
  | succ m ih =>
    cases cs with
    | nil => rw [subFrom_nil, subFrom_nil]
    | cons c cs =>
      obtain ⟨n, rfl⟩ := Nat.exists_eq_add_one_of_ne_zero (Nat.ne_zero_of_lt hn)
      rw [List.length_cons] at hm hn
      rw [subFrom, subFrom]
      cases hmatch : p.matchAt prev (c :: cs) with
      | none => exact congrArg _ (ih n (by omega) (by omega))
      | some m' =>
        obtain ⟨new, rest⟩ := m'
        have hlt := length_lt hmatch
        rw [List.length_cons] at hlt
        exact congrArg _ (ih n (by omega) (by omega))

@[simp] theorem subAt_nil : p.subAt prev [] = [] :=
  subFrom_nil _

/-- Where nothing matches, the scan goes on behind the character. -/
theorem subAt_of_none (h : p.matchAt prev (c :: cs) = none) :
    p.subAt prev (c :: cs) = c :: p.subAt (some c) cs := by
  rw [subAt, List.length_cons, subFrom, h]
  rfl

/-- A match is replaced, and the scan goes on behind it. -/
theorem subAt_of_some (h : p.matchAt prev cs = some (new, rest)) :
    p.subAt prev cs = new ++ p.subAt (lastBefore cs rest) rest := by
  cases cs with
  | nil => cases matchAt_nil.symm.trans h
  | cons c cs =>
    have hlt := length_lt h
    rw [List.length_cons] at hlt
    rw [subAt, List.length_cons, subFrom, h]
    exact congrArg _ (subFrom_eq (by omega))

/-! ## Where nothing matches -/

/-- Where no match starts in the first part, it stays, and the scan goes on behind it. -/
theorem subAt_skip {more : List Char}
    (hnone : ∀ prev s, s <:+ cs → s ≠ [] → p.matchAt prev (s ++ more) = none) (prev : Option Char) :
    p.subAt prev (cs ++ more) = cs ++ p.subAt (cs.getLast?.or prev) more := by
  induction cs generalizing prev with
  | nil => rfl
  | cons c cs ih =>
    have hhere : p.matchAt prev (c :: (cs ++ more)) = none :=
      hnone prev (c :: cs) (List.suffix_refl _) (List.cons_ne_nil _ _)
    have hrest := ih (fun prev s hs => hnone prev s (hs.trans (List.suffix_cons _ _))) (some c)
    rw [List.cons_append, subAt_of_none hhere, hrest, List.cons_append]
    cases cs <;> rfl

/-- No match of the pattern starts in the text. -/
def NoMatch (p : Pattern) (cs : List Char) : Prop :=
  ∀ prev s, s <:+ cs → p.matchAt prev s = none

/-- A text without a match stays as it is. -/
theorem NoMatch.subAt_eq (hnone : p.NoMatch cs) : p.subAt prev cs = cs := by
  have hskip := @subAt_skip p cs []
    (fun prev s hs _ => by rw [List.append_nil]; exact hnone prev s hs) prev
  rwa [List.append_nil, subAt_nil, List.append_nil] at hskip

/-- A substitution changes nothing, or shows a character that all its replacements have. -/
theorem subAt_eq_or_mem {d : Char}
    (hnew : ∀ prev cs new rest, p.matchAt prev cs = some (new, rest) → d ∈ new) :
    p.subAt prev cs = cs ∨ d ∈ p.subAt prev cs := by
  induction cs generalizing prev with
  | nil => exact .inl subAt_nil
  | cons c cs ih =>
    cases hmatch : p.matchAt prev (c :: cs) with
    | none =>
      rw [subAt_of_none hmatch]
      rcases @ih (some c) with hsame | hmem
      · exact .inl (congrArg _ hsame)
      · exact .inr (List.mem_cons_of_mem _ hmem)
    | some m =>
      obtain ⟨new, rest⟩ := m
      rw [subAt_of_some hmatch]
      exact .inr (List.mem_append_left _ (hnew _ _ _ _ hmatch))

/-! ## Parts of a scan -/

/-- A part of a scan: what it writes, and where it arrives, with the character before. -/
inductive Scan (p : Pattern) :
    Option Char → List Char → List Char → Option Char → List Char → Prop where
  | done (prev : Option Char) (cs : List Char) : Scan p prev cs [] prev cs
  | skip {prev prev' : Option Char} {c : Char} {cs out rest : List Char}
      (hmatch : p.matchAt prev (c :: cs) = none) (h : Scan p (some c) cs out prev' rest) :
      Scan p prev (c :: cs) (c :: out) prev' rest
  | hit {prev prev' : Option Char} {cs new cs' out rest : List Char}
      (hmatch : p.matchAt prev cs = some (new, cs'))
      (h : Scan p (lastBefore cs cs') cs' out prev' rest) :
      Scan p prev cs (new ++ out) prev' rest

/-- The substitution is what a part of the scan writes, and the substitution from there on. -/
theorem subAt_of_scan {prev' : Option Char} {out : List Char} (h : p.Scan prev cs out prev' rest) :
    p.subAt prev cs = out ++ p.subAt prev' rest := by
  induction h with
  | done => rfl
  | skip hmatch _ ih => rw [subAt_of_none hmatch, ih, List.cons_append]
  | hit hmatch _ ih => rw [subAt_of_some hmatch, ih, List.append_assoc]

/-- The whole substitution is a scan to the end. -/
theorem exists_scan (p : Pattern) (prev : Option Char) (cs : List Char) :
    ∃ prev', p.Scan prev cs (p.subAt prev cs) prev' [] := by
  induction hn : cs.length using Nat.strong_induction_on generalizing cs prev with
  | _ n ih =>
    subst hn
    cases cs with
    | nil =>
      rw [subAt_nil]
      exact ⟨prev, .done _ _⟩
    | cons c cs =>
      cases hmatch : p.matchAt prev (c :: cs) with
      | none =>
        obtain ⟨prev', hscan⟩ := ih cs.length (Nat.lt_succ_self _) (some c) cs rfl
        rw [subAt_of_none hmatch]
        exact ⟨prev', .skip hmatch hscan⟩
      | some m =>
        obtain ⟨new, rest⟩ := m
        obtain ⟨prev', hscan⟩ := ih rest.length (length_lt hmatch) _ rest rfl
        rw [subAt_of_some hmatch]
        exact ⟨prev', .hit hmatch hscan⟩

/-- What every replacement and every character of the text has, the result has. -/
theorem forall_mem_subAt {P : Char → Prop} (hcs : ∀ c ∈ cs, P c)
    (hnew : ∀ prev cs new rest, (∀ c ∈ cs, P c) → p.matchAt prev cs = some (new, rest) →
      ∀ c ∈ new, P c) : ∀ c ∈ p.subAt prev cs, P c := by
  obtain ⟨prev', hscan⟩ := exists_scan p prev cs
  revert hscan
  generalize p.subAt prev cs = out
  generalize hend : ([] : List Char) = last
  intro hscan
  induction hscan with
  | done => exact nofun
  | skip _ _ ih =>
    rw [List.forall_mem_cons] at hcs ⊢
    exact ⟨hcs.1, ih hcs.2 hend⟩
  | hit hmatch _ ih =>
    obtain ⟨consumed, -, hsplit⟩ := p.consumes _ _ _ _ hmatch
    rw [List.forall_mem_append]
    refine ⟨hnew _ _ _ _ hcs hmatch, ih (fun c hc => hcs c ?_) hend⟩
    rw [hsplit]
    exact List.mem_append_right _ hc

theorem lastBefore_append (cs rest more : List Char) :
    lastBefore (cs ++ more) (rest ++ more) = lastBefore cs rest := by
  unfold lastBefore
  rw [List.length_append, List.length_append, Nat.add_sub_add_right,
    List.take_append_of_le_length (Nat.sub_le _ _)]

theorem lastBefore_self_append (consumed rest : List Char) :
    lastBefore (consumed ++ rest) rest = consumed.getLast? := by
  unfold lastBefore
  rw [List.length_append, Nat.add_sub_cancel, List.take_left]

/-- **A cut**: where no match of the first part sees the second, the parts are scanned one by one.
-/
theorem subAt_append {cs more : List Char}
    (hlocal : ∀ prev cs', cs' <:+ cs → cs' ≠ [] →
      p.matchAt prev (cs' ++ more) = (p.matchAt prev cs').map fun m => (m.1, m.2 ++ more))
    (prev : Option Char) :
    p.subAt prev (cs ++ more) = p.subAt prev cs ++ p.subAt (cs.getLast?.or prev) more := by
  induction hn : cs.length using Nat.strong_induction_on generalizing cs prev with
  | _ n ih =>
    subst hn
    cases cs with
    | nil => rfl
    | cons c cs =>
      have hmatch := hlocal prev (c :: cs) (List.suffix_refl _) (List.cons_ne_nil _ _)
      cases hc : p.matchAt prev (c :: cs) with
      | none =>
        rw [hc] at hmatch
        have hnone : p.matchAt prev (c :: (cs ++ more)) = none := hmatch
        rw [subAt_of_none hc, List.cons_append, subAt_of_none hnone, List.cons_append,
          ih cs.length (Nat.lt_succ_self _)
            (fun prev cs' hsuffix => hlocal prev cs' (hsuffix.trans (List.suffix_cons _ _))) _ rfl]
        cases cs <;> rfl
      | some m =>
        obtain ⟨new, rest⟩ := m
        rw [hc] at hmatch
        obtain ⟨consumed, hne, hsplit⟩ := p.consumes _ _ _ _ hc
        have hsuffix : rest <:+ c :: cs := ⟨consumed, hsplit.symm⟩
        rw [subAt_of_some hc, subAt_of_some hmatch, lastBefore_append,
          ih rest.length (length_lt hc)
            (fun prev cs' hs => hlocal prev cs' (hs.trans hsuffix)) _ rfl, List.append_assoc]
        have hlast : (c :: cs).getLast?.or prev = rest.getLast?.or (lastBefore (c :: cs) rest) := by
          rw [hsplit, lastBefore_self_append, List.getLast?_append]
          cases hconsumed : consumed.getLast? with
          | none => exact absurd (List.getLast?_eq_none_iff.1 hconsumed) hne
          | some d => cases rest.getLast? <;> rfl
        rw [hlast]

end Pattern

end Python
