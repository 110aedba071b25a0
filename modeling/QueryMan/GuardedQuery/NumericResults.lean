import QueryMan.Python.Decimal
import QueryMan.GuardedQuery.BoundedResult

/-!
# Numeric results

`encode_result_value` on the finite values of PostgreSQL's `numeric`: it returns `str` of the
`Decimal`, which for values below a millionth is not the text that PostgreSQL prints.
-/

namespace QueryMan.PostgresQueryExecutor

open Python

/-- A finite `numeric`: its sign, the number that its digits are the text of, and its display scale.
There is no negative zero. -/
structure Numeric where
  negative : Bool
  coefficient : Nat
  scale : Nat
  sign_of_zero : negative = true → coefficient ≠ 0

namespace Numeric

/-- The `Decimal` that the value arrives as. -/
def toDecimal (v : Numeric) : Decimal :=
  ⟨v.negative, v.coefficient, -v.scale⟩

/-- `encode_result_value` of the `Decimal`. -/
def encode (v : Numeric) : Except EncodingFailure Json :=
  encodeResultValue (.decimal (String.ofList v.toDecimal.str))

/-- The text that PostgreSQL prints: a minus sign where there is one, digits, and for a scale above
zero a point and as many digits as the scale says. -/
def plainText (v : Numeric) : List Char :=
  Decimal.plain v.negative v.coefficient v.scale

/-- A value is its sign, coefficient and scale. -/
theorem eq_of_parts {v v' : Numeric} (h : (v.negative, v.coefficient, v.scale) =
    (v'.negative, v'.coefficient, v'.scale)) : v = v' := by
  cases v
  cases v'
  simp only [Prod.mk.injEq] at h
  obtain ⟨rfl, rfl, rfl⟩ := h
  rfl

/-- A text is encoded as itself. -/
theorem encode_eq_iff {v : Numeric} {text : List Char} :
    v.encode = .ok (.str (String.ofList text)) ↔ v.toDecimal.str = text := by
  unfold encode
  rw [encodeResultValue, Except.ok.injEq, Json.str.injEq]
  exact String.ofList_inj

/-- The encoding is the plain text of a value that is not too small for its scale. -/
theorem encode_eq_plainText_iff (v : Numeric) :
    v.encode = .ok (.str (String.ofList v.plainText)) ↔
      v.scale < (Nat.toDigits 10 v.coefficient).length + 6 :=
  encode_eq_iff.trans Decimal.str_eq_plain_iff

end Numeric

/-- **Numeric results down to a millionth keep their plain form.** A finite `numeric` is returned as
the text that PostgreSQL prints for it exactly if its scale is below the number of its digits plus
six. Whatever its scale, the returned text gives back sign, coefficient and scale, and no other
value has the same. -/
theorem numeric_plain_iff (v : Numeric) :
    (v.encode = .ok (.str (String.ofList v.plainText)) ↔
      v.scale < (Nat.toDigits 10 v.coefficient).length + 6) ∧
    (∃ text, v.encode = .ok (.str (String.ofList text)) ∧
      Decimal.read text = (v.negative, v.coefficient, v.scale)) ∧
    ∀ v' : Numeric, v'.encode = v.encode → v' = v := by
  have hread : ∀ v : Numeric, v.encode = .ok (.str (String.ofList v.toDecimal.str)) ∧
      Decimal.read v.toDecimal.str = (v.negative, v.coefficient, v.scale) :=
    fun v => ⟨Numeric.encode_eq_iff.2 rfl, Decimal.read_str v.negative v.coefficient v.scale⟩
  refine ⟨v.encode_eq_plainText_iff, ⟨_, hread v⟩, fun v' heq => ?_⟩
  -- equal encodings are the same text, which is read back as both values
  have htext : v'.toDecimal.str = v.toDecimal.str :=
    Numeric.encode_eq_iff.1 (heq.trans (hread v).1)
  refine Numeric.eq_of_parts ?_
  rw [← (hread v').2, ← (hread v).2, htext]

example : (⟨false, 123456789012345678901234567890, 10, by decide⟩ : Numeric).encode =
    .ok (.str "12345678901234567890.1234567890") :=
  Numeric.encode_eq_iff.2 (by decide +kernel)

/-- The smallest `numeric(8, 7)` above zero is returned with an exponent. -/
theorem numeric_tenMillionth :
    (⟨false, 1, 7, by decide⟩ : Numeric).encode = .ok (.str "1E-7") ∧
      String.ofList (⟨false, 1, 7, by decide⟩ : Numeric).plainText = "0.0000001" ∧
      ¬ ∀ v : Numeric, v.encode = .ok (.str (String.ofList v.plainText)) := by
  refine ⟨Numeric.encode_eq_iff.2 (by decide +kernel), by decide +kernel, fun h => ?_⟩
  have hsmall := (Numeric.encode_eq_plainText_iff ⟨false, 1, 7, by decide⟩).1 (h _)
  exact absurd hsmall (by decide)

end QueryMan.PostgresQueryExecutor
