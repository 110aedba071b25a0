import QueryMan.Python.Digits

/-!
# Decimals

The finite numbers of `decimal.Decimal` and their text: plain, unless the exponent is positive or
the number is below a millionth, where `str` writes it in scientific notation.
-/

namespace Python

/-- A finite `Decimal`: `_sign`, the number that `_int` is the text of, and `_exp`. -/
structure Decimal where
  negative : Bool
  coefficient : Nat
  exponent : Int
  deriving DecidableEq, Repr

namespace Decimal

/-- `_int`. -/
def digits (d : Decimal) : List Char :=
  Nat.toDigits 10 d.coefficient

/-- The digits with the point behind the first `dotplace` of them. -/
def mantissa (digits : List Char) (dotplace : Int) : List Char :=
  if dotplace ≤ 0 then '0' :: '.' :: (List.replicate (-dotplace).toNat '0' ++ digits)
  else if dotplace ≥ digits.length then
    digits ++ List.replicate (dotplace.toNat - digits.length) '0'
  else digits.take dotplace.toNat ++ '.' :: digits.drop dotplace.toNat

/-- `"%+d" % n`. -/
def signedChars (n : Int) : List Char :=
  (if n < 0 then '-' else '+') :: Nat.toDigits 10 n.natAbs

/-- The sign of a text. -/
def signChars (negative : Bool) : List Char :=
  if negative then ['-'] else []

/-- `Decimal.__str__`. -/
def str (d : Decimal) : List Char :=
  let leftdigits := d.exponent + d.digits.length
  let dotplace := if d.exponent ≤ 0 ∧ leftdigits > -6 then leftdigits else 1
  signChars d.negative ++ mantissa d.digits dotplace ++
    if leftdigits = dotplace then [] else 'E' :: signedChars (leftdigits - dotplace)

/-- The plain text of a natural number with `scale` of its digits behind the point. -/
def plainDigits (coefficient scale : Nat) : List Char :=
  Nat.toDigits 10 (coefficient / 10 ^ scale) ++
    if scale = 0 then [] else '.' :: fixedDigits scale coefficient

/-- The plain text of a decimal. -/
def plain (negative : Bool) (coefficient scale : Nat) : List Char :=
  signChars negative ++ plainDigits coefficient scale

/-- The mantissa without an exponent is the plain text. -/
theorem mantissa_eq_plainDigits (coefficient scale : Nat) :
    mantissa (Nat.toDigits 10 coefficient) ((Nat.toDigits 10 coefficient).length - scale) =
      plainDigits coefficient scale := by
  have hpos : 0 < (Nat.toDigits 10 coefficient).length := Nat.length_toDigits_pos
  unfold mantissa plainDigits
  by_cases hsmall : (Nat.toDigits 10 coefficient).length ≤ scale
  · -- all digits are behind the point
    have hlt : coefficient < 10 ^ scale :=
      Nat.lt_of_lt_of_le ((Nat.length_toDigits_le_iff (b := 10) (by decide) hpos).1 (Nat.le_refl _))
        (Nat.pow_le_pow_right (by decide) hsmall)
    rw [if_pos (by omega), Nat.div_eq_of_lt hlt, Nat.toDigits_zero, if_neg (by omega),
      fixedDigits_eq_replicate_append hsmall, show (-((Nat.toDigits 10 coefficient).length -
        (scale : Int))).toNat = scale - (Nat.toDigits 10 coefficient).length by omega]
    rfl
  rw [if_neg (by omega)]
  by_cases hzero : scale = 0
  · subst hzero
    rw [if_pos (by omega), if_pos rfl, List.append_nil, Nat.pow_zero, Nat.div_one]
    simp
  · have hsplit := toDigits_eq_append_fixedDigits (Nat.lt_of_not_le hsmall)
    have hlength : (Nat.toDigits 10 (coefficient / 10 ^ scale)).length =
        ((Nat.toDigits 10 coefficient).length - (scale : Int)).toNat := by
      have hsum := congrArg List.length hsplit
      rw [List.length_append, fixedDigits_length] at hsum
      omega
    rw [if_neg (by omega), if_neg hzero, ← hlength]
    rw [hsplit, List.take_left, List.drop_left]

/-- `str` of a number with digits behind the point is plain, as long as it is not too small. -/
theorem str_eq_plain {negative : Bool} {coefficient scale : Nat}
    (h : scale < (Nat.toDigits 10 coefficient).length + 6) :
    str ⟨negative, coefficient, -scale⟩ = plain negative coefficient scale := by
  unfold str digits plain
  dsimp only
  rw [if_pos ⟨by omega, by omega⟩, if_pos rfl, List.append_nil, Int.add_comm, ← Int.sub_eq_add_neg,
    mantissa_eq_plainDigits]

/-- A smaller one is written with an exponent. -/
theorem str_eq_scientific {negative : Bool} {coefficient scale : Nat}
    (h : (Nat.toDigits 10 coefficient).length + 6 ≤ scale) :
    str ⟨negative, coefficient, -scale⟩ =
      signChars negative ++ mantissa (Nat.toDigits 10 coefficient) 1 ++
        'E' :: '-' :: Nat.toDigits 10 (scale + 1 - (Nat.toDigits 10 coefficient).length) := by
  unfold str digits signedChars
  dsimp only
  rw [if_neg (by omega), if_neg (by omega), if_pos (by omega)]
  congr 4
  omega

theorem plainDigits_mem {coefficient scale : Nat} {c : Char}
    (h : c ∈ plainDigits coefficient scale) : c.isDigit = true ∨ c = '.' := by
  rcases List.mem_append.1 h with h | h
  · exact .inl (Nat.isDigit_of_mem_toDigits (by decide) (by decide) h)
  · split at h
    · exact absurd h List.not_mem_nil
    · rcases List.mem_cons.1 h with h | h
      · exact .inr h
      · exact .inl (fixedDigits_isDigit h)

/-- A plain text has no exponent. -/
theorem exponent_notMem_plain {negative : Bool} {coefficient scale : Nat} :
    'E' ∉ plain negative coefficient scale := by
  intro h
  rcases List.mem_append.1 h with h | h
  · cases negative <;> revert h <;> decide
  · exact absurd (plainDigits_mem h) (by decide)

/-- **`str` is plain down to a millionth**: the text is plain exactly if there are fewer digits
behind the point than the coefficient has and six more. -/
theorem str_eq_plain_iff {negative : Bool} {coefficient scale : Nat} :
    str ⟨negative, coefficient, -scale⟩ = plain negative coefficient scale ↔
      scale < (Nat.toDigits 10 coefficient).length + 6 := by
  refine ⟨fun h => ?_, str_eq_plain⟩
  by_contra hlarge
  rw [str_eq_scientific (Nat.le_of_not_lt hlarge)] at h
  have hmem : 'E' ∈ plain negative coefficient scale := by
    rw [← h]
    exact List.mem_append_right _ List.mem_cons_self
  exact exponent_notMem_plain hmem

/-! ## Reading a decimal -/

/-- A text read as a sign, digits with a point, and an exponent after `E-`: the coefficient and the
number of digits behind the point. -/
def read (text : List Char) : Bool × Nat × Nat :=
  let negative := text.head? = some '-'
  let unsigned := if negative then text.tail else text
  let number := unsigned.takeWhile (· ≠ 'E')
  (negative, Nat.ofDigitChars 10 (number.filter (· ≠ '.')) 0,
    (number.dropWhile (· ≠ '.')).tail.length +
      Nat.ofDigitChars 10 ((unsigned.dropWhile (· ≠ 'E')).drop 2) 0)

/-- Digits with a point before the last of them, if there are any. -/
def pointed (whole fraction : List Char) : List Char :=
  whole ++ if fraction = [] then [] else '.' :: fraction

theorem plainDigits_eq_pointed (coefficient scale : Nat) :
    plainDigits coefficient scale =
      pointed (Nat.toDigits 10 (coefficient / 10 ^ scale)) (fixedDigits scale coefficient) := by
  unfold plainDigits pointed
  cases scale with
  | zero => rfl
  | succ scale =>
    have hne : fixedDigits (scale + 1) coefficient ≠ [] := List.concat_ne_nil _ _
    rw [if_neg (Nat.succ_ne_zero _), if_neg hne]

theorem mantissa_one (c : Char) (digits : List Char) :
    mantissa (c :: digits) 1 = pointed [c] digits := by
  unfold mantissa pointed
  rw [if_neg (by decide)]
  cases digits with
  | nil => rfl
  | cons c' digits =>
    rw [if_neg (by simp only [List.length_cons]; omega), if_neg (List.cons_ne_nil _ _)]
    rfl

/-- Up to a character that the text before it does not have. -/
theorem takeWhile_ne_append {c : Char} {before after : List Char} (hbefore : ∀ c' ∈ before, c' ≠ c)
    (hafter : ∀ c' ∈ after.head?, c' = c) :
    (before ++ after).takeWhile (· ≠ c) = before ∧ (before ++ after).dropWhile (· ≠ c) = after := by
  have hall : ∀ c' ∈ before, decide (c' ≠ c) = true := fun c' hc' => decide_eq_true (hbefore c' hc')
  rw [List.takeWhile_append_of_pos hall, List.dropWhile_append_of_pos hall]
  cases after with
  | nil => exact ⟨List.append_nil _, rfl⟩
  | cons c' after =>
    obtain rfl : c' = c := hafter c' rfl
    exact ⟨by rw [List.takeWhile_cons_of_neg (by simp), List.append_nil],
      List.dropWhile_cons_of_neg (by simp)⟩

/-- The digits of a text with a point, and those behind the point. -/
theorem pointed_digits {whole fraction : List Char} (hwhole : ∀ c ∈ whole, c ≠ '.')
    (hfraction : ∀ c ∈ fraction, c ≠ '.') :
    (pointed whole fraction).filter (· ≠ '.') = whole ++ fraction ∧
      ((pointed whole fraction).dropWhile (· ≠ '.')).tail = fraction := by
  have hkept : ∀ {digits : List Char}, (∀ c ∈ digits, c ≠ '.') →
      digits.filter (· ≠ '.') = digits :=
    fun h => List.filter_eq_self.2 fun c hc => decide_eq_true (h c hc)
  unfold pointed
  split <;> rename_i hempty
  · rw [hempty, List.append_nil, hkept hwhole]
    have hdrop : (whole ++ []).dropWhile (· ≠ '.') = [] :=
      (takeWhile_ne_append hwhole (fun c hc => by cases hc)).2
    rw [List.append_nil] at hdrop
    exact ⟨rfl, by rw [hdrop]; rfl⟩
  · refine ⟨?_, ?_⟩
    · rw [List.filter_append, hkept hwhole, List.filter_cons_of_neg (by simp), hkept hfraction]
    · rw [(takeWhile_ne_append hwhole (fun c hc => by cases hc; rfl)).2]
      rfl

/-- Reading digits with a point, and an exponent. -/
theorem read_pointed (negative : Bool) {whole fraction exponent : List Char}
    (hwhole : ∀ c ∈ whole, c.isDigit = true) (hfraction : ∀ c ∈ fraction, c.isDigit = true)
    (hne : whole ≠ []) (hexponent : ∀ c ∈ exponent.head?, c = 'E') :
    read (signChars negative ++ pointed whole fraction ++ exponent) =
      (negative, Nat.ofDigitChars 10 (whole ++ fraction) 0,
        fraction.length + Nat.ofDigitChars 10 (exponent.drop 2) 0) := by
  have hother : ∀ {c c' : Char}, c.isDigit = true → c'.isDigit = false → c ≠ c' := by
    rintro c c' hc hc' rfl
    rw [hc] at hc'
    cases hc'
  have hpointed : ∀ c ∈ pointed whole fraction, c ≠ 'E' := by
    intro c hc
    rcases List.mem_append.1 hc with hc | hc
    · exact hother (hwhole c hc) rfl
    · split at hc
      · exact absurd hc List.not_mem_nil
      · rcases List.mem_cons.1 hc with rfl | hc
        · decide
        · exact hother (hfraction c hc) rfl
  obtain ⟨hnumber, hscientific⟩ := takeWhile_ne_append hpointed hexponent
  obtain ⟨hdigits, hbehind⟩ := pointed_digits (fun c hc => hother (hwhole c hc) rfl)
    (fun c hc => hother (hfraction c hc) rfl)
  -- the sign is read off the first character, which is a digit where there is no sign
  have hunsigned : (signChars negative ++ pointed whole fraction ++ exponent).head? = some '-' ↔
      negative = true := by
    cases negative with
    | true => exact ⟨fun _ => rfl, fun _ => rfl⟩
    | false =>
      refine ⟨fun h => ?_, fun h => by cases h⟩
      cases whole with
      | nil => exact absurd rfl hne
      | cons c whole => exact absurd (Option.some.inj h) (hother (hwhole c List.mem_cons_self) rfl)
  have hrest : (if (signChars negative ++ pointed whole fraction ++ exponent).head? = some '-' then
      (signChars negative ++ pointed whole fraction ++ exponent).tail
      else signChars negative ++ pointed whole fraction ++ exponent) =
        pointed whole fraction ++ exponent := by
    cases negative with
    | true => rfl
    | false => rw [if_neg (by rw [hunsigned]; decide)]; rfl
  unfold read
  dsimp only
  simp only [hunsigned] at hrest ⊢
  rw [hrest, hnumber, hscientific, hdigits, hbehind, Bool.decide_eq_true]

/-- **Every number with digits behind the point is read back**, in either notation. -/
theorem read_str (negative : Bool) (coefficient scale : Nat) :
    read (str ⟨negative, coefficient, -scale⟩) = (negative, coefficient, scale) := by
  have hdigit : ∀ {n : Nat}, ∀ c ∈ Nat.toDigits 10 n, c.isDigit = true :=
    fun c hc => Nat.isDigit_of_mem_toDigits (by decide) (by decide) hc
  rcases Nat.lt_or_ge scale ((Nat.toDigits 10 coefficient).length + 6) with hplain | hsmall
  · rw [str_eq_plain hplain, plain, plainDigits_eq_pointed, ← List.append_nil (signChars _ ++ _),
      read_pointed negative hdigit (fun c hc => fixedDigits_isDigit hc) Nat.toDigits_ne_nil
        (fun c hc => by cases hc),
      Nat.ofDigitChars_append, Nat.ofDigitChars_ten_toDigits, ofDigitChars_fixedDigits,
      fixedDigits_length, Nat.div_add_mod]
    rfl
  · rw [str_eq_scientific hsmall]
    cases hdigits : Nat.toDigits 10 coefficient with
    | nil => exact absurd hdigits Nat.toDigits_ne_nil
    | cons c digits =>
      have hall : ∀ c' ∈ c :: digits, c'.isDigit = true := hdigits ▸ hdigit
      rw [mantissa_one, read_pointed negative
        (fun c' hc' => List.mem_singleton.1 hc' ▸ hall c List.mem_cons_self)
        (fun c' hc' => hall c' (List.mem_cons_of_mem _ hc')) (List.cons_ne_nil _ _)
        (fun c' hc' => by cases hc'; rfl)]
      rw [hdigits, List.length_cons] at hsmall
      rw [List.singleton_append, ← hdigits, Nat.ofDigitChars_ten_toDigits, hdigits,
        List.length_cons]
      change (negative, coefficient, digits.length +
        Nat.ofDigitChars 10 (Nat.toDigits 10 (scale + 1 - (digits.length + 1))) 0) = _
      rw [Nat.ofDigitChars_ten_toDigits, show digits.length + (scale + 1 - (digits.length + 1)) =
        scale by omega]

end Decimal

end Python
