import QueryMan.GuardedQuery.NumericResults
import QueryMan.GuardedQuery.ResultEncoding
import QueryMan.Python.Calendar

/-!
# Typed results

`encode_result_value` on the rows of a result whose columns passed the checks of the executor. All
of them are encoded, and the JSON text of a result is that of its values only: a `numeric` keeps its
scale, and a `timestamptz` its instant, whatever the time zone of the session
(`resultText_eq_iff`).
-/

namespace QueryMan.PostgresQueryExecutor

open Python

/-! ## Values of a column -/

/-- The types of `_RESULT_OID_PAIRS`. -/
inductive ColumnType where
  | int8 | int2 | int4 | text | date | timestamptz | numeric
  deriving DecidableEq, Repr

/-- The OID of a type. -/
def ColumnType.oid : ColumnType → Int
  | .int8 => 20
  | .int2 => 21
  | .int4 => 23
  | .text => 25
  | .date => 1082
  | .timestamptz => 1184
  | .numeric => 1700

theorem ColumnType.oid_injective : ∀ {type type' : ColumnType}, type.oid = type'.oid → type = type'
  | type, type', h => by cases type <;> cases type' <;> first | rfl | cases h

/-- A value of `numeric`. -/
inductive NumericValue where
  | finite (v : Numeric)
  | infinity (negative : Bool)
  | nan

/-- `str` of the `Decimal` that the value arrives as. -/
def NumericValue.str : NumericValue → List Char
  | .finite v => v.toDecimal.str
  | .infinity false => ['I', 'n', 'f', 'i', 'n', 'i', 't', 'y']
  | .infinity true => ['-', 'I', 'n', 'f', 'i', 'n', 'i', 't', 'y']
  | .nan => ['N', 'a', 'N']

/-- A text that is not the one of the number read from it is no number's. -/
theorem Numeric.str_ne {text : List Char}
    (h : Decimal.str ⟨(Decimal.read text).1, (Decimal.read text).2.1,
      -(Decimal.read text).2.2⟩ ≠ text) (v : Numeric) : v.toDecimal.str ≠ text := by
  intro heq
  have hread : Decimal.read text = (v.negative, v.coefficient, v.scale) := by
    rw [← heq]
    exact Decimal.read_str v.negative v.coefficient v.scale
  rw [hread] at h
  exact h heq

/-- A finite value has no text of a special one. -/
theorem Numeric.str_ne_special (v : Numeric) :
    v.toDecimal.str ≠ (NumericValue.infinity false).str ∧
    v.toDecimal.str ≠ (NumericValue.infinity true).str ∧
    v.toDecimal.str ≠ NumericValue.nan.str := by
  refine ⟨v.str_ne ?_, v.str_ne ?_, v.str_ne ?_⟩ <;> decide +kernel

/-- **A `numeric` has a text of its own.** -/
theorem NumericValue.str_inj {v v' : NumericValue} (h : v.str = v'.str) : v = v' := by
  cases v with
  | finite v =>
    obtain ⟨hinf, hneg, hnan⟩ := v.str_ne_special
    cases v' with
    | finite v' =>
      have hread := Decimal.read_str v.negative v.coefficient v.scale
      have hread' := Decimal.read_str v'.negative v'.coefficient v'.scale
      have hparts : (v.negative, v.coefficient, v.scale) =
          (v'.negative, v'.coefficient, v'.scale) := by
        rw [← hread, ← hread']
        exact congrArg Decimal.read h
      rw [Numeric.eq_of_parts hparts]
    | infinity negative =>
      cases negative with
      | false => exact absurd h hinf
      | true => exact absurd h hneg
    | nan => exact absurd h hnan
  | infinity negative =>
    cases v' with
    | finite v' =>
      obtain ⟨hinf, hneg, hnan⟩ := v'.str_ne_special
      cases negative with
      | false => exact absurd h.symm hinf
      | true => exact absurd h.symm hneg
    | infinity negative' => cases negative <;> cases negative' <;> first | rfl | cases h
    | nan => cases negative <;> cases h
  | nan =>
    cases v' with
    | finite v' => exact absurd h.symm v'.str_ne_special.2.2
    | infinity negative => cases negative <;> cases h
    | nan => rfl

/-- What a value of a column arrives as. -/
inductive ColumnValue where
  | null
  | int (i : Int)
  | text (s : String)
  | date (d : Date)
  | timestamptz (t : AwareDateTime)
  | numeric (v : NumericValue)

namespace ColumnValue

/-- The values of the columns of a type. -/
inductive OfType : ColumnType → ColumnValue → Prop
  | null (type : ColumnType) : OfType type .null
  | int8 (i : Int) : OfType .int8 (.int i)
  | int2 (i : Int) : OfType .int2 (.int i)
  | int4 (i : Int) : OfType .int4 (.int i)
  | text (s : String) : OfType .text (.text s)
  | date (d : Date) : OfType .date (.date d)
  | timestamptz (t : AwareDateTime) : OfType .timestamptz (.timestamptz t)
  | numeric (v : NumericValue) : OfType .numeric (.numeric v)

/-- The value as the encoder sees it. -/
def toResult : ColumnValue → ResultValue
  | .null => .none
  | .int i => .int i
  | .text s => .str s
  | .date d => .date (String.ofList d.isoformat)
  | .timestamptz t => .datetime true (String.ofList t.isoformat) (String.ofList t.utcText)
  | .numeric v => .decimal (String.ofList v.str)

/-- Two values that are the same: of times, the instant counts. -/
def Same : ColumnValue → ColumnValue → Prop
  | .timestamptz t, .timestamptz t' => t.instant = t'.instant
  | v, v' => v = v'

/-- The encoded value. -/
def json : ColumnValue → Json
  | .null => .null
  | .int i => .int i
  | .text s => .str s
  | .date d => .str (String.ofList d.isoformat)
  | .timestamptz t => .str (String.ofList t.utcText)
  | .numeric v => .str (String.ofList v.str)

/-- Every value is encoded. -/
theorem encode_toResult (v : ColumnValue) : encodeResultValue v.toResult = .ok v.json := by
  cases v <;> rw [toResult, encodeResultValue, json]
  rfl

/-- **Values of one column are encoded alike exactly if they are the same.** -/
theorem json_eq_iff {type : ColumnType} {v v' : ColumnValue} (h : OfType type v)
    (h' : OfType type v') : v.json = v'.json ↔ v.Same v' := by
  cases h with
  | null => cases h' <;> simp [json, Same]
  | int8 i => cases h' <;> simp [json, Same]
  | int2 i => cases h' <;> simp [json, Same]
  | int4 i => cases h' <;> simp [json, Same]
  | text s => cases h' <;> simp [json, Same]
  | date d =>
    cases h' with
    | null => simp [json, Same]
    | date d' =>
      simp only [json, Same, Json.str.injEq, String.ofList_inj, ColumnValue.date.injEq]
      exact ⟨Date.isoformat_inj, congrArg _⟩
  | timestamptz t =>
    cases h' with
    | null => simp [json, Same]
    | timestamptz t' =>
      simp only [json, Same, Json.str.injEq, String.ofList_inj]
      exact AwareDateTime.utcText_eq_iff
  | numeric v =>
    cases h' with
    | null => simp [json, Same]
    | numeric v' =>
      simp only [json, Same, Json.str.injEq, String.ofList_inj, ColumnValue.numeric.injEq]
      exact ⟨NumericValue.str_inj, congrArg _⟩

end ColumnValue

/-! ## Rows -/

/-- A row of a result: a value for every column. -/
structure ResultRow (columns : List ResultColumn) where
  values : List ColumnValue
  typed : List.Forall₂ (fun column value => ∃ type : ColumnType,
    column.typeCode = some type.oid ∧ ColumnValue.OfType type value) columns values

namespace ResultRow

variable {columns : List ResultColumn}

/-- The dictionary that `dict_row` makes of a row. -/
def toResult (names : List String) (row : ResultRow columns) : ResultValue :=
  .mapping ((names.map some).zip (row.values.map ColumnValue.toResult))

/-- Two rows of the same values. -/
def Same (row row' : ResultRow columns) : Prop :=
  List.Forall₂ ColumnValue.Same row.values row'.values

/-- The encoded row. -/
def json (names : List String) (row : ResultRow columns) : Json :=
  .object (names.zip (row.values.map ColumnValue.json))

end ResultRow

/-- The items of a row are encoded one by one. -/
theorem encodeItems_zip (names : List String) (values : List ColumnValue) :
    encodeItems ((names.map some).zip (values.map ColumnValue.toResult)) =
      .ok (names.zip (values.map ColumnValue.json)) := by
  induction names generalizing values with
  | nil => rfl
  | cons name names ih =>
    cases values with
    | nil => rfl
    | cons value values =>
      rw [List.map_cons, List.map_cons, List.map_cons, List.zip_cons_cons, List.zip_cons_cons,
        encodeItems, ih, ColumnValue.encode_toResult]
      rfl

/-- **Every row of approved columns is encoded.** -/
theorem ResultRow.encode_toResult {columns : List ResultColumn} (names : List String)
    (row : ResultRow columns) : encodeResultValue (row.toResult names) = .ok (row.json names) := by
  have hkeys : ((names.map some).zip (row.values.map ColumnValue.toResult)).any
      (fun item => item.1.isNone) = false := by
    rw [List.any_eq_false]
    rintro ⟨key, value⟩ hmem
    obtain ⟨name, -, rfl⟩ := List.mem_map.1 (List.of_mem_zip hmem).1
    exact Bool.false_ne_true
  rw [toResult, encodeResultValue, hkeys, if_neg (by decide), encodeItems_zip]
  rfl

/-- The values of two rows, column by column. -/
theorem values_json_eq_iff {columns : List ResultColumn} {values values' : List ColumnValue}
    (h : List.Forall₂ (fun column value => ∃ type : ColumnType,
      column.typeCode = some type.oid ∧ ColumnValue.OfType type value) columns values)
    (h' : List.Forall₂ (fun column value => ∃ type : ColumnType,
      column.typeCode = some type.oid ∧ ColumnValue.OfType type value) columns values') :
    values.map ColumnValue.json = values'.map ColumnValue.json ↔
      List.Forall₂ ColumnValue.Same values values' := by
  induction h generalizing values' with
  | nil =>
    cases h'
    simp
  | cons hvalue hvalues ih =>
    cases h' with
    | cons hvalue' hvalues' =>
      obtain ⟨type, htype, hof⟩ := hvalue
      obtain ⟨type', htype', hof'⟩ := hvalue'
      obtain rfl : type = type' :=
        ColumnType.oid_injective (Option.some.inj (htype.symm.trans htype'))
      rw [List.map_cons, List.map_cons, List.cons.injEq, List.forall₂_cons,
        ColumnValue.json_eq_iff hof hof', ih hvalues']

theorem zip_eq_zip_iff {α β : Type} {names : List α} {values values' : List β}
    (h : names.length = values.length) (h' : names.length = values'.length) :
    names.zip values = names.zip values' ↔ values = values' := by
  constructor
  · intro heq
    have hsnd := congrArg (List.map Prod.snd) heq
    rwa [List.map_snd_zip (by omega), List.map_snd_zip (by omega)] at hsnd
  · intro heq
    rw [heq]

/-- Two rows are encoded alike exactly if their values are the same. -/
theorem ResultRow.json_eq_iff {columns : List ResultColumn} {names : List String}
    (hnames : columns.map ResultColumn.name = names.map some) (row row' : ResultRow columns) :
    row.json names = row'.json names ↔ row.Same row' := by
  have hlength : names.length = columns.length := by
    have hmap := congrArg List.length hnames
    rw [List.length_map, List.length_map] at hmap
    exact hmap.symm
  have hvalues : names.length = (row.values.map ColumnValue.json).length := by
    rw [List.length_map, hlength]
    exact row.typed.length_eq
  have hvalues' : names.length = (row'.values.map ColumnValue.json).length := by
    rw [List.length_map, hlength]
    exact row'.typed.length_eq
  rw [json, json, Json.object.injEq, zip_eq_zip_iff hvalues hvalues', Same]
  exact values_json_eq_iff row.typed row'.typed

/-! ## Results -/

/-- The rows of a result, encoded one after the other. -/
def encodeRows {columns : List ResultColumn} (names : List String)
    (rows : List (ResultRow columns)) : Except EncodingFailure (List Json) :=
  rows.mapM fun row => encodeResultValue (row.toResult names)

theorem encodeRows_eq {columns : List ResultColumn} (names : List String)
    (rows : List (ResultRow columns)) :
    encodeRows names rows = .ok (rows.map (ResultRow.json names)) := by
  unfold encodeRows
  induction rows with
  | nil => rfl
  | cons row rows ih =>
    rw [List.mapM_cons, ih, row.encode_toResult]
    rfl

theorem map_json_eq_iff {columns : List ResultColumn} {names : List String}
    (hnames : columns.map ResultColumn.name = names.map some)
    (rows rows' : List (ResultRow columns)) :
    rows.map (ResultRow.json names) = rows'.map (ResultRow.json names) ↔
      List.Forall₂ ResultRow.Same rows rows' := by
  induction rows generalizing rows' with
  | nil => cases rows' <;> simp
  | cons row rows ih =>
    cases rows' with
    | nil => simp
    | cons row' rows' =>
      rw [List.map_cons, List.map_cons, List.cons.injEq, List.forall₂_cons,
        ResultRow.json_eq_iff hnames, ih]

/-- **The JSON text of a result says what its values are, and nothing else.** Behind a description
that passed the checks every row is encoded, and two results have one text exactly if their rows
have the same values one by one. -/
theorem resultText_eq_iff {description : Option (List ResultColumn)} {names : List String}
    (h : checkDescription description = .ok names)
    (rows rows' : List (ResultRow (description.getD []))) :
    ∃ encoded encoded' : List Json, encodeRows names rows = .ok encoded ∧
      encodeRows names rows' = .ok encoded' ∧
      ((Json.array encoded).dumps = (Json.array encoded').dumps ↔
        List.Forall₂ ResultRow.Same rows rows') := by
  refine ⟨_, _, encodeRows_eq names rows, encodeRows_eq names rows', ?_⟩
  rw [Json.dumps_injective.eq_iff, Json.array.injEq]
  exact map_json_eq_iff (columnsApproved_of_checkDescription h).names_eq rows rows'

theorem noMinutes : 0 < 60 := by decide

theorem noMicroseconds : 0 < 1000000 := by decide

/-- An hour of the first of May 2024. -/
def mayDay (hour : Nat) (h : hour < 24) : DateTime :=
  ⟨⟨2024, 5, 1, by decide, by decide, by decide⟩, hour, 0, 0, 0, h, noMinutes, noMinutes,
    noMicroseconds⟩

theorem microseconds_mayDay (hour : Nat) (h : hour < 24) :
    (mayDay hour h).microseconds = (739007 * 86400 + hour * 3600) * 1000000 := by
  have hday : (mayDay hour h).date.toordinal = 739007 := by
    show (⟨2024, 5, 1, by decide, by decide, by decide⟩ : Date).toordinal = 739007
    decide
  rw [DateTime.microseconds, hday]
  show (739007 * 86400 + (hour * 3600 + (0 * 60 + 0))) * 1000000 + 0 = _
  omega

theorem offset_range {hour offset : Nat} (h : hour < 24) (hle : offset ≤ hour) :
    -dayMicroseconds < (offset * 3600000000 : Int) ∧
      (offset * 3600000000 : Int) < dayMicroseconds := by
  rw [dayMicroseconds]
  omega

theorem inRange_mayDay {hour offset : Nat} (h : hour < 24) (hle : offset ≤ hour) :
    0 ≤ ((mayDay hour h).microseconds - offset * 3600000000 : Int) ∧
      InRange ((mayDay hour h).microseconds - offset * 3600000000 : Int).toNat := by
  rw [microseconds_mayDay, InRange, dayMicroseconds, maxOrdinal]
  omega

/-- An hour of that day in a zone east of Greenwich. -/
def mayDayEast (hour offset : Nat) (h : hour < 24) (hle : offset ≤ hour) : AwareDateTime where
  clock := mayDay hour h
  utcoffset := offset * 3600000000
  utcoffset_range := offset_range h hle
  instant_range := inRange_mayDay h hle

/-- One column of times. -/
def timeColumns : List ResultColumn := [⟨some "at", some 1184⟩]

/-- A row with one time. -/
def timeRow (t : AwareDateTime) : ResultRow timeColumns :=
  ⟨[.timestamptz t], .cons ⟨.timestamptz, rfl, .timestamptz t⟩ .nil⟩

/-- Noon two hours east is ten o'clock in UTC. -/
theorem resultText_eq_iff_offsets : ∃ encoded encoded' : List Json,
    encodeRows ["at"] [timeRow (mayDayEast 12 2 (by decide) (by decide))] = .ok encoded ∧
    encodeRows ["at"] [timeRow (mayDayEast 10 0 (by decide) (by decide))] = .ok encoded' ∧
    (Json.array encoded).dumps = (Json.array encoded').dumps := by
  have hchecks : checkDescription (some timeColumns) = .ok ["at"] := by decide
  obtain ⟨encoded, encoded', hencoded, hencoded', htext⟩ := resultText_eq_iff hchecks
    [timeRow (mayDayEast 12 2 (by decide) (by decide))]
    [timeRow (mayDayEast 10 0 (by decide) (by decide))]
  have hinstant : (mayDayEast 12 2 (by decide) (by decide)).instant =
      (mayDayEast 10 0 (by decide) (by decide)).instant := by
    decide +kernel
  exact ⟨encoded, encoded', hencoded, hencoded', htext.2 (.cons (.cons hinstant .nil) .nil)⟩

end QueryMan.PostgresQueryExecutor
