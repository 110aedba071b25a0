import Mathlib.Data.List.Nodup
import QueryMan.GuardedQuery.Failures
import QueryMan.Python.Checks

/-!
# Result columns

The OID policy of `guarded_query/result_encoding.py`, and the checks that the executor makes of the
description of a result before it fetches a row.
-/

namespace QueryMan

open Python

/-- A column of a cursor description. A name that is no `str`, or an OID that is no `int`, is
`none`. -/
structure ResultColumn where
  name : Option String
  typeCode : Option Int
  deriving DecidableEq, Repr

/-- `_RESULT_OID_PAIRS`. -/
def resultOidPairs : List (String × Int) :=
  [("int8", 20), ("int2", 21), ("int4", 23), ("text", 25), ("date", 1082), ("timestamptz", 1184),
    ("numeric", 1700)]

/-- `_ALLOWED_RESULT_OIDS`. -/
def allowedResultOids : List Int :=
  resultOidPairs.map Prod.snd

/-- `_require_supported_result_oids`. -/
def requireSupportedResultOids (oids : List (Option Int)) : Except Exc Unit :=
  if oids = [] ∨ ∃ oid ∈ oids, ∀ code ∈ oid, code ∉ allowedResultOids then
    .error .resultEncodingError
  else .ok ()

/-- The names of the columns, if all of them are strings. -/
def columnNames : List ResultColumn → Except Exc (List String)
  | [] => .ok []
  | ⟨none, _⟩ :: _ => .error .resultEncodingError
  | ⟨some name, _⟩ :: columns => do
    let names ← columnNames columns
    pure (name :: names)

/-- The checks of a description, in the order in which the executor makes them. -/
def checkDescription (description : Option (List ResultColumn)) : Except Exc (List String) := do
  let resultColumns := description.getD []
  let columns ← columnNames resultColumns
  raiseIf (¬ columns.Nodup) (Exc.app (.queryRejected "QUERY_DUPLICATE_RESULT_COLUMN" none))
  requireSupportedResultOids (resultColumns.map ResultColumn.typeCode)
  pure columns

/-- The columns have distinct names, and types that are approved. -/
structure ColumnsApproved (columns : List ResultColumn) (names : List String) : Prop where
  names_eq : columns.map ResultColumn.name = names.map some
  nodup : names.Nodup
  nonempty : columns ≠ []
  approved : ∀ column ∈ columns, ∃ oid ∈ allowedResultOids, column.typeCode = some oid

theorem requireSupportedResultOids_eq_ok {oids : List (Option Int)} :
    requireSupportedResultOids oids = .ok () ↔
      oids ≠ [] ∧ ∀ oid ∈ oids, ∃ code ∈ allowedResultOids, oid = some code := by
  rw [requireSupportedResultOids]
  split
  · next h =>
    refine iff_of_false (fun h => by cases h) ?_
    rintro ⟨hne, hall⟩
    rcases h with rfl | ⟨oid, hmem, hcode⟩
    · exact hne rfl
    · obtain ⟨code, hallowed, rfl⟩ := hall oid hmem
      exact hcode code rfl hallowed
  · next h =>
    refine iff_of_true rfl ⟨fun hnil => h (.inl hnil), fun oid hmem => ?_⟩
    by_contra hno
    refine h (.inr ⟨oid, hmem, fun code hcode hallowed => ?_⟩)
    exact hno ⟨code, hallowed, hcode⟩

theorem columnNames_eq_ok {columns : List ResultColumn} {names : List String}
    (h : columnNames columns = .ok names) : columns.map ResultColumn.name = names.map some := by
  induction columns generalizing names with
  | nil =>
    cases h
    rfl
  | cons column columns ih =>
    obtain ⟨name, typeCode⟩ := column
    cases name with
    | none => cases h
    | some name =>
      obtain ⟨rest, hrest, hnames⟩ := bind_eq_ok.1 h
      cases hnames
      rw [List.map_cons, List.map_cons, ih hrest]

/-- A description that passes is approved. -/
theorem columnsApproved_of_checkDescription {description : Option (List ResultColumn)}
    {names : List String} (h : checkDescription description = .ok names) :
    ColumnsApproved (description.getD []) names := by
  obtain ⟨columns, hcolumns, h⟩ := bind_eq_ok.1 h
  obtain ⟨_, hnodup, h⟩ := bind_eq_ok.1 h
  obtain ⟨⟨⟩, hoids, h⟩ := bind_eq_ok.1 h
  cases h
  rw [requireSupportedResultOids_eq_ok] at hoids
  refine ⟨columnNames_eq_ok hcolumns, not_not.1 (raiseIf_eq_ok.1 hnodup), fun hnil => ?_,
    fun column hmem => hoids.2 _ (List.mem_map_of_mem hmem)⟩
  refine hoids.1 ?_
  rw [hnil]
  rfl

end QueryMan
