import Mathlib.Algebra.Ring.Nat
import Mathlib.Data.List.Basic
import Mathlib.Tactic.Common

/-!
# Decimal digits

Decimal texts without leading zeros are the decimal texts of the numbers: `Nat.toDigits 10` and
`Nat.ofDigitChars 10` are inverse to each other on them.
-/

namespace Python

/-- A digit is the digit of its value. -/
theorem digitChar_toNat {c : Char} (h : c.isDigit = true) :
    c.toNat - 48 < 10 ∧ Nat.digitChar (c.toNat - 48) = c := by
  have hrange : 48 ≤ c.toNat ∧ c.toNat ≤ 57 := by
    simpa [Char.isDigit, UInt32.le_iff_toNat_le] using h
  refine ⟨by omega, Char.toNat_inj.1 ?_⟩
  rw [Nat.toNat_digitChar_of_lt_ten (by omega)]
  omega

/-- Digits behind a positive number. -/
theorem toDigits_append {digits : List Char} (hdigits : ∀ c ∈ digits, c.isDigit = true) {n : Nat}
    (hn : 0 < n) :
    Nat.toDigits 10 n ++ digits = Nat.toDigits 10 (Nat.ofDigitChars 10 digits n) := by
  induction digits generalizing n with
  | nil => rw [List.append_nil, Nat.ofDigitChars_nil]
  | cons c digits ih =>
    obtain ⟨hlt, hchar⟩ := digitChar_toNat (hdigits c List.mem_cons_self)
    have hone : Nat.toDigits 10 n ++ [c] = Nat.toDigits 10 (10 * n + (c.toNat - 48)) := by
      rw [← Nat.toDigits_append_toDigits (by decide) hn hlt, Nat.toDigits_of_lt_base hlt, hchar]
    calc Nat.toDigits 10 n ++ c :: digits
        = (Nat.toDigits 10 n ++ [c]) ++ digits := by rw [List.append_assoc, List.singleton_append]
      _ = Nat.toDigits 10 (10 * n + (c.toNat - 48)) ++ digits := by rw [hone]
      _ = _ := by
        rw [ih (fun c' hc' => hdigits c' (List.mem_cons_of_mem _ hc')) (by omega),
          Nat.ofDigitChars_cons]
        rfl

/-- **A text of digits that does not start with a zero is the text of its number.** -/
theorem toDigits_ofDigitChars {c : Char} {digits : List Char} (hc : c.isDigit = true)
    (hzero : c ≠ '0') (hdigits : ∀ c ∈ digits, c.isDigit = true) :
    0 < Nat.ofDigitChars 10 (c :: digits) 0 ∧
      Nat.toDigits 10 (Nat.ofDigitChars 10 (c :: digits) 0) = c :: digits := by
  obtain ⟨hlt, hchar⟩ := digitChar_toNat hc
  have hpos : 0 < c.toNat - 48 := by
    refine Nat.pos_of_ne_zero fun h => hzero ?_
    rw [← hchar, h]
    rfl
  have hwhole : Nat.toDigits 10 (Nat.ofDigitChars 10 (c :: digits) 0) = c :: digits := by
    have happend := toDigits_append hdigits hpos
    rw [Nat.toDigits_of_lt_base hlt, hchar, List.singleton_append] at happend
    rw [Nat.ofDigitChars_cons, Nat.mul_zero, Nat.zero_add]
    exact happend.symm
  refine ⟨Nat.pos_of_ne_zero fun h => ?_, hwhole⟩
  rw [h, Nat.toDigits_zero] at hwhole
  exact hzero (List.cons.inj hwhole).1.symm

/-- The text of a positive number does not start with a zero. -/
theorem head_toDigits_ne_zero {n : Nat} (hn : 0 < n) : (Nat.toDigits 10 n).head? ≠ some '0' := by
  induction n using Nat.strongRecOn with
  | ind n ih =>
    rcases Nat.lt_or_ge n 10 with hlt | hge
    · rw [Nat.toDigits_of_lt_base hlt, List.head?_cons, Ne, Option.some_inj, Nat.digitChar_eq_zero]
      exact Nat.ne_of_gt hn
    · have hpos : 0 < n / 10 := Nat.div_pos hge (by decide)
      rw [Nat.toDigits_of_base_le (by decide) hge,
        List.head?_append_of_ne_nil _ Nat.toDigits_ne_nil]
      exact ih (n / 10) (Nat.div_lt_self hn (by decide)) hpos

/-- The shape of the text of a positive number. -/
theorem toDigits_of_pos {n : Nat} (hn : 0 < n) :
    ∃ c digits, Nat.toDigits 10 n = c :: digits ∧ c.isDigit = true ∧ c ≠ '0' ∧
      ∀ c ∈ digits, c.isDigit = true := by
  have hdigit : ∀ c ∈ Nat.toDigits 10 n, c.isDigit = true :=
    fun c hc => Nat.isDigit_of_mem_toDigits (by decide) (by decide) hc
  cases hdigits : Nat.toDigits 10 n with
  | nil => exact absurd hdigits Nat.toDigits_ne_nil
  | cons c digits =>
    rw [hdigits] at hdigit
    refine ⟨c, digits, rfl, hdigit c List.mem_cons_self, ?_,
      fun c' hc' => hdigit c' (List.mem_cons_of_mem _ hc')⟩
    rintro rfl
    refine head_toDigits_ne_zero hn ?_
    rw [hdigits]
    rfl

/-! ## A fixed number of digits -/

/-- The last digits of a number, as many as the width says. -/
def fixedDigits : Nat → Nat → List Char
  | 0, _ => []
  | width + 1, n => fixedDigits width (n / 10) ++ [Nat.digitChar (n % 10)]

theorem fixedDigits_length (width n : Nat) : (fixedDigits width n).length = width := by
  induction width generalizing n with
  | zero => rfl
  | succ width ih => rw [fixedDigits, List.length_append, ih, List.length_singleton]

theorem fixedDigits_isDigit {width n : Nat} {c : Char} (h : c ∈ fixedDigits width n) :
    c.isDigit = true := by
  induction width generalizing n with
  | zero => exact absurd h List.not_mem_nil
  | succ width ih =>
    rcases List.mem_append.1 h with h | h
    · exact ih h
    · rw [List.mem_singleton.1 h, Nat.isDigit_digitChar]
      exact decide_eq_true (Nat.mod_lt n (by decide))

theorem fixedDigits_zero (width : Nat) : fixedDigits width 0 = List.replicate width '0' := by
  induction width with
  | zero => rfl
  | succ width ih => rw [fixedDigits, Nat.zero_div, ih, List.replicate_succ']; rfl

/-- A number with its last digits apart, if it has more of them. -/
theorem toDigits_eq_append_fixedDigits {width n : Nat} (h : width < (Nat.toDigits 10 n).length) :
    Nat.toDigits 10 n = Nat.toDigits 10 (n / 10 ^ width) ++ fixedDigits width n := by
  induction width generalizing n with
  | zero => rw [Nat.pow_zero, Nat.div_one, fixedDigits, List.append_nil]
  | succ width ih =>
    have hge : 10 ≤ n := by
      by_contra hlt
      rw [Nat.toDigits_of_lt_base (Nat.lt_of_not_le hlt), List.length_singleton] at h
      omega
    rw [Nat.toDigits_of_base_le (by decide) hge] at h ⊢
    rw [List.length_append, List.length_singleton] at h
    rw [ih (Nat.lt_of_succ_lt_succ h), fixedDigits, List.append_assoc, Nat.div_div_eq_div_mul,
      Nat.pow_succ']

/-- All digits of a number with zeros before them. -/
theorem fixedDigits_eq_replicate_append {width n : Nat} (h : (Nat.toDigits 10 n).length ≤ width) :
    fixedDigits width n =
      List.replicate (width - (Nat.toDigits 10 n).length) '0' ++ Nat.toDigits 10 n := by
  induction width generalizing n with
  | zero => exact absurd h (Nat.not_le_of_gt Nat.length_toDigits_pos)
  | succ width ih =>
    rcases Nat.lt_or_ge n 10 with hlt | hge
    · rw [fixedDigits, Nat.div_eq_of_lt hlt, fixedDigits_zero, Nat.mod_eq_of_lt hlt,
        Nat.toDigits_of_lt_base hlt]
      rfl
    · rw [Nat.toDigits_of_base_le (by decide) hge, List.length_append, List.length_singleton] at h ⊢
      rw [fixedDigits, ih (Nat.le_of_succ_le_succ h), List.append_assoc, Nat.add_sub_add_right]

/-- The last digits behind a number. -/
theorem ofDigitChars_fixedDigits (width n start : Nat) :
    Nat.ofDigitChars 10 (fixedDigits width n) start = 10 ^ width * start + n % 10 ^ width := by
  induction width generalizing n with
  | zero => rw [fixedDigits, Nat.ofDigitChars_nil, Nat.pow_zero, Nat.one_mul, Nat.mod_one]; rfl
  | succ width ih =>
    rw [fixedDigits, Nat.ofDigitChars_append, ih,
      Nat.ofDigitChars_cons_digitChar_of_lt_ten (Nat.mod_lt n (by decide)), Nat.ofDigitChars_nil,
      Nat.pow_succ', Nat.mod_mul]
    rw [Nat.mul_add, Nat.mul_assoc]
    omega

/-- Numbers of at most that many digits are told apart. -/
theorem fixedDigits_inj {width m n : Nat} (hm : m < 10 ^ width) (hn : n < 10 ^ width)
    (h : fixedDigits width m = fixedDigits width n) : m = n := by
  have hvalue := congrArg (Nat.ofDigitChars 10 · 0) h
  simp only [ofDigitChars_fixedDigits, Nat.mul_zero, Nat.zero_add] at hvalue
  rwa [Nat.mod_eq_of_lt hm, Nat.mod_eq_of_lt hn] at hvalue

end Python
