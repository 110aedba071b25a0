import QueryMan.Python.Digits
import Mathlib.Data.Set.Function

/-!
# Digests of known texts

A concrete function in the place of a cryptographic digest: every text gets 64 digits, and the texts
of a table are told from each other and from all others. What rests on a digest that has no
collisions on the texts it is applied to can be evaluated with it.
-/

namespace Python

/-- The place of a text in the table, as 64 digits. -/
def tableDigest (table : List String) (text : String) : String :=
  String.ofList (fixedDigits 64 (table.idxOf text))

/-- Every digest has 64 characters. -/
theorem tableDigest_length (table : List String) (text : String) :
    (tableDigest table text).length = 64 := by
  rw [tableDigest, String.length_ofList, fixedDigits_length]

/-- No other text has the digest of a text of the table. -/
theorem tableDigest_inj {table : List String} {text other : String}
    (hsize : table.length < 10 ^ 64) (hmem : text ∈ table)
    (h : tableDigest table other = tableDigest table text) : other = text := by
  have hplace : table.idxOf other = table.idxOf text :=
    fixedDigits_inj (Nat.lt_of_le_of_lt List.idxOf_le_length hsize)
      (Nat.lt_of_le_of_lt List.idxOf_le_length hsize) (String.ofList_inj.1 h)
  have hother : other ∈ table := by
    rw [← List.idxOf_lt_length_iff, hplace]
    exact List.idxOf_lt_length_of_mem hmem
  exact List.idxOf_inj hother |>.1 hplace

/-- A digest tells the texts of its table apart. -/
theorem tableDigest_injOn {table : List String} (hsize : table.length < 10 ^ 64) :
    Set.InjOn (tableDigest table) {text | text ∈ table} :=
  fun _ _ _ hmem h => tableDigest_inj hsize hmem h

end Python
