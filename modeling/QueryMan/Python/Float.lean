import Mathlib.Algebra.Order.Floor.Ring
import Mathlib.Data.Int.Log
import Mathlib.Data.Rat.Floor
import Mathlib.Tactic.Linarith
import Mathlib.Tactic.Positivity

/-!
# Floating-point arithmetic

The arithmetic of Python's `float`, on the rationals: a result is rounded to 53 bits, to the nearest
number and from the middle to the even one. The exponent is unbounded, so that there is neither an
overflow nor a subnormal number.
-/

namespace Python

/-! ## Rounding -/

/-- The integer nearest to a number, and the even one of two. -/
def roundHalfEven (x : ℚ) : Int :=
  let rest := x - ⌊x⌋
  if rest < 1 / 2 ∨ (rest = 1 / 2 ∧ ⌊x⌋ % 2 = 0) then ⌊x⌋ else ⌊x⌋ + 1

/-- The exponent of the last of the 53 bits of a number. -/
def lastBit (x : ℚ) : Int :=
  Int.log 2 |x| - 52

/-- The `float` nearest to a number. -/
def toFloat (x : ℚ) : ℚ :=
  roundHalfEven (x / 2 ^ lastBit x) * 2 ^ lastBit x

theorem roundHalfEven_intCast (n : Int) : roundHalfEven n = n := by
  have hrest : (n : ℚ) - ⌊(n : ℚ)⌋ < 1 / 2 := by
    rw [Int.floor_intCast, sub_self]
    norm_num
  rw [roundHalfEven, if_pos (.inl hrest), Int.floor_intCast]

/-- The nearest integer is at most a half away. -/
theorem abs_roundHalfEven_sub_le (x : ℚ) : |(roundHalfEven x : ℚ) - x| ≤ 1 / 2 := by
  have hlow : (⌊x⌋ : ℚ) ≤ x := Int.floor_le x
  have hhigh : x < ⌊x⌋ + 1 := Int.lt_floor_add_one x
  unfold roundHalfEven
  dsimp only
  split
  · next hdown =>
    have hrest : x - ⌊x⌋ ≤ 1 / 2 := hdown.elim le_of_lt fun h => le_of_eq h.1
    rw [abs_le]
    constructor <;> linarith
  · next hup =>
    have hrest : 1 / 2 ≤ x - ⌊x⌋ := not_lt.1 fun h => hup (.inl h)
    rw [Int.cast_add, Int.cast_one, abs_le]
    constructor <;> linarith

/-- The last bit counts for no more than `2 ^ -52` of the number. -/
theorem two_zpow_lastBit_le {x : ℚ} (h : x ≠ 0) : (2 : ℚ) ^ lastBit x ≤ |x| / 2 ^ 52 := by
  have hlog : (2 : ℚ) ^ Int.log 2 |x| ≤ |x| := Int.zpow_log_le_self Nat.one_lt_two (abs_pos.2 h)
  rw [lastBit, zpow_sub₀ two_ne_zero]
  exact div_le_div_of_nonneg_right hlog (by positivity)

/-- **The error of one rounding**: at most `2 ^ -53` of the number. -/
theorem abs_toFloat_sub_le (x : ℚ) : |toFloat x - x| ≤ |x| / 2 ^ 53 := by
  by_cases hx : x = 0
  · subst hx
    have hzero : roundHalfEven 0 = 0 := roundHalfEven_intCast 0
    simp [toFloat, hzero]
  have hpos : (0 : ℚ) < 2 ^ lastBit x := zpow_pos two_pos _
  have hsplit : toFloat x - x =
      (roundHalfEven (x / 2 ^ lastBit x) - x / 2 ^ lastBit x) * 2 ^ lastBit x := by
    rw [toFloat, sub_mul, div_mul_cancel₀ _ hpos.ne']
  calc |toFloat x - x|
      = |(roundHalfEven (x / 2 ^ lastBit x) : ℚ) - x / 2 ^ lastBit x| * 2 ^ lastBit x := by
        rw [hsplit, abs_mul, abs_of_pos hpos]
    _ ≤ 1 / 2 * (|x| / 2 ^ 52) :=
        mul_le_mul (abs_roundHalfEven_sub_le _) (two_zpow_lastBit_le hx) hpos.le (by norm_num)
    _ = |x| / 2 ^ 53 := by ring

/-- The float of a number exceeds it by no more than its error. -/
theorem toFloat_le {x bound : ℚ} (h : |x| ≤ bound) : toFloat x ≤ x + bound / 2 ^ 53 := by
  have herror := (abs_le.1 (abs_toFloat_sub_le x)).2
  have hbound : |x| / 2 ^ 53 ≤ bound / 2 ^ 53 := div_le_div_of_nonneg_right h (by norm_num)
  linarith

theorem abs_toFloat_le (x : ℚ) : |toFloat x| ≤ |x| + |x| / 2 ^ 53 := by
  have hsplit : toFloat x = x + (toFloat x - x) := (add_sub_cancel _ _).symm
  rw [hsplit]
  exact (abs_add_le _ _).trans (add_le_add (le_refl _) (abs_toFloat_sub_le x))

/-- Rounding keeps the sign. -/
theorem pos_of_toFloat_pos {x : ℚ} (h : 0 < toFloat x) : 0 < x := by
  by_contra hneg
  have hx : |x| = -x := abs_of_nonpos (not_lt.1 hneg)
  have herror := (abs_le.1 (abs_toFloat_sub_le x)).2
  rw [hx] at herror
  have hnonpos : x ≤ 0 := not_lt.1 hneg
  linarith

/-- **Integers up to `2 ^ 53` are floats**. -/
theorem toFloat_intCast {n : Int} (h : |n| ≤ 2 ^ 53) : toFloat n = n := by
  have hmultiple : ∃ k : Int, (n : ℚ) / 2 ^ lastBit n = k := by
    by_cases hlast : lastBit n ≤ 0
    · obtain ⟨e, he⟩ := Int.eq_ofNat_of_zero_le (neg_nonneg.2 hlast)
      refine ⟨n * 2 ^ e, ?_⟩
      rw [← neg_neg (lastBit n), he, zpow_neg, zpow_natCast, div_inv_eq_mul]
      norm_cast
    · -- only `2 ^ 53` and its negative have 54 bits
      have hlog : (53 : Int) ≤ Int.log 2 |(n : ℚ)| := by
        rw [lastBit] at hlast
        omega
      have hn : (n : ℚ) ≠ 0 := fun h0 => by
        rw [h0, abs_zero, Int.log_zero_right] at hlog
        omega
      have hle : (2 : ℚ) ^ (53 : Int) ≤ |(n : ℚ)| :=
        (Int.zpow_le_iff_le_log Nat.one_lt_two (abs_pos.2 hn)).2 hlog
      have habs : |n| = 2 ^ 53 := le_antisymm h (by exact_mod_cast hle)
      have hlast' : lastBit n = 1 := by
        have habs' : |(n : ℚ)| = (2 : ℕ) ^ (53 : Int) := by exact_mod_cast habs
        rw [lastBit, habs', Int.log_zpow Nat.one_lt_two]
        rfl
      rcases (abs_eq (by norm_num)).1 habs with rfl | rfl
      · exact ⟨2 ^ 52, by rw [hlast']; norm_num⟩
      · exact ⟨-2 ^ 52, by rw [hlast']; norm_num⟩
  obtain ⟨k, hk⟩ := hmultiple
  have hpos : (2 : ℚ) ^ lastBit n ≠ 0 := zpow_ne_zero _ two_ne_zero
  rw [toFloat, hk, roundHalfEven_intCast, ← hk, div_mul_cancel₀ _ hpos]

/-! ## Sums -/

/-- `total += value`, of a `float` and an `int`. -/
def addFloat (total : ℚ) (value : Int) : ℚ :=
  toFloat (total + toFloat value)

/-- The float to which values add up, one after the other. -/
def floatSum (values : List Int) : ℚ :=
  values.foldl addFloat 0

/-- How much values move a total at most. -/
def magnitude (values : List Int) : Int :=
  (values.map abs).sum

theorem abs_sum_le_magnitude (values : List Int) : |values.sum| ≤ magnitude values := by
  induction values with
  | nil => exact le_refl _
  | cons value values ih =>
    rw [List.sum_cons, magnitude, List.map_cons, List.sum_cons]
    exact (abs_add_le _ _).trans (add_le_add (le_refl _) ih)

theorem magnitude_nonneg (values : List Int) : 0 ≤ magnitude values :=
  (abs_nonneg _).trans (abs_sum_le_magnitude values)

/-- **A float adds up whole numbers exactly**, as long as it cannot pass `2 ^ 53`. -/
theorem floatSum_eq_sum {values : List Int} (h : magnitude values ≤ 2 ^ 53) :
    floatSum values = values.sum := by
  induction values using List.reverseRecOn with
  | nil => rfl
  | append_singleton values value ih =>
    have hsplit : magnitude (values ++ [value]) = magnitude values + |value| := by
      simp [magnitude]
    have hvalues : magnitude values ≤ 2 ^ 53 := by
      have := abs_nonneg value
      omega
    have hvalue : |value| ≤ 2 ^ 53 := by
      have := magnitude_nonneg values
      omega
    have hsum : |values.sum + value| ≤ 2 ^ 53 := by
      have htotal := abs_sum_le_magnitude (values ++ [value])
      rw [List.sum_append, List.sum_singleton] at htotal
      exact htotal.trans h
    have hcast : ((values.sum : ℚ) + (value : Int)) = ((values.sum + value : Int) : ℚ) := by
      push_cast
      rfl
    rw [floatSum, List.foldl_append, List.foldl_cons, List.foldl_nil]
    show addFloat (floatSum values) value = _
    rw [ih hvalues, addFloat, toFloat_intCast hvalue, hcast, toFloat_intCast hsum,
      List.sum_append, List.sum_singleton]

/-- Nor does the order matter then. -/
theorem floatSum_perm {values values' : List Int} (h : magnitude values ≤ 2 ^ 53)
    (hperm : values.Perm values') : floatSum values = floatSum values' := by
  have hmagnitude : magnitude values' = magnitude values := (hperm.map abs).sum_eq.symm
  rw [floatSum_eq_sum h, floatSum_eq_sum (hmagnitude.trans_le h), hperm.sum_eq]

end Python
