import Mathlib.Data.List.Forall2
import Mathlib.Data.String.Basic
import QueryMan.Python.Dict
import QueryMan.Python.Json
import QueryMan.Python.Text
import QueryMan.Runtime.Redact

/-!
# Log records

`SafeJsonFormatter.format` of `runtime/operations.py`: a record becomes one object of JSON, sorted
by its keys, whose values are scalars. A line has no control characters, so that one record is one
line, and it determines the object (`lineChars_inj`): no text of a message or a field can pass for
another field. What the database driver logs is kept out of it.
-/

namespace QueryMan

open Python

/-! ## Scalars -/

/-- The characters of the text of a float. -/
def isFloatChar (c : Char) : Bool :=
  c.isDigit || c ∈ "-+.eNaIinfty".toList

/-- The text of a float: of a number with a point or an exponent, or `NaN`, `Infinity` or
`-Infinity`. -/
structure FloatText where
  text : String
  chars : text.toList.all isFloatChar = true
  starts : text.toList.head?.any (fun c => c.isDigit || c ∈ ['-', 'N', 'I']) = true
  noInteger : text.toList.any (fun c => !c.isDigit && c != '-') = true

/-- A scalar of a payload. -/
inductive LogScalar where
  | null
  | bool (b : Bool)
  | int (i : Int)
  | float (text : FloatText)
  | str (s : String)

/-- The text of a scalar. -/
def LogScalar.chars : LogScalar → List Char
  | .null => Json.null.chars
  | .bool b => (Json.bool b).chars
  | .int i => (Json.int i).chars
  | .float text => text.text.toList
  | .str s => (Json.str s).chars

/-- A field behind the first. -/
def fieldsTail : List (String × LogScalar) → List Char
  | [] => []
  | (key, value) :: fields => ',' :: (Json.quote key ++ ':' :: (value.chars ++ fieldsTail fields))

/-- `json.dumps` of a payload, with the keys in the order of the list. -/
def lineChars : List (String × LogScalar) → List Char
  | [] => ['\x7b', '\x7d']
  | (key, value) :: fields =>
    '\x7b' :: (Json.quote key ++ ':' :: (value.chars ++ (fieldsTail fields ++ ['\x7d'])))

/-! ## The formatter -/

/-- A value of `record.__dict__`: an object of another type is the text that `str` gives. -/
inductive FieldValue where
  | null
  | bool (b : Bool)
  | int (i : Int)
  | float (text : FloatText)
  | str (s : String)
  | other (text : String)

/-- A `LogRecord`, with the name of the type of its exception, and what `extra` has added to it. -/
structure LogRecord where
  name : String
  levelname : String
  message : String
  exceptionType : Option String
  extra : List (String × FieldValue)

/-- `_STRUCTURED_LOG_FIELDS`. -/
def structuredLogFields : List String :=
  ["query_id", "caller_id", "tenant_id", "source_id", "operation", "fingerprint", "error_code",
    "reason_code", "cancel_reason", "queue_ms", "elapsed_ms", "row_count", "result_bytes",
    "truncated", "plan_total_cost", "plan_max_rows", "plan_node_count", "plan_cost_limit",
    "plan_rows_limit", "plan_nodes_limit"]

/-- `_DATABASE_DEPENDENCY_LOGGER_PREFIXES`. -/
def databaseDependencyLoggerPrefixes : List String :=
  ["psycopg", "psycopg_pool"]

/-- `_is_database_dependency_logger`. -/
def isDatabaseDependencyLogger (name : String) : Bool :=
  databaseDependencyLoggerPrefixes.any fun start =>
    name = start || (start ++ ".").toList.isPrefixOf name.toList

section
variable (isWord : Char → Bool)

/-- A field of the payload: texts are redacted. -/
def FieldValue.scalar : FieldValue → LogScalar
  | .null => .null
  | .bool b => .bool b
  | .int i => .int i
  | .float text => .float text
  | .str s => .str (redact isWord s)
  | .other text => .str (redact isWord text)

/-- The payload that `format` builds; `timestamp` is the text of the time. The names of the levels
of `logging` are ASCII, where `Char.toLower` is `str.lower`. -/
def payload (timestamp : String) (record : LogRecord) : List (String × LogScalar) :=
  let databaseDependency := isDatabaseDependencyLogger record.name
  let base := [("timestamp", LogScalar.str timestamp),
    ("level", .str (record.levelname.map Char.toLower)), ("logger", .str record.name),
    ("event", .str (if databaseDependency then "database_dependency_log"
      else redact isWord record.message))]
  let exceptionType := match record.exceptionType with
    | some name => [("exception_type", LogScalar.str name)]
    | none => []
  let fields := if databaseDependency then []
    else structuredLogFields.filterMap fun field =>
      (record.extra.lookup field).map fun value => (field, value.scalar isWord)
  base ++ exceptionType ++ fields

/-- `SafeJsonFormatter.format`. -/
def format (timestamp : String) (record : LogRecord) : String :=
  String.ofList (lineChars ((payload isWord timestamp record).mergeSort fun a b => a.1 ≤ b.1))

end

/-- What `StreamHandler` writes for records, each at its time. -/
def stream (isWord : Char → Bool) (records : List (String × LogRecord)) : String :=
  joinWith '\n' (records.map (fun record => format isWord record.1 record.2) ++ [""])

/-! ## One line -/

/-- The text of a string has no control characters. -/
theorem printable_of_mem_quote {s : String} {c : Char} (h : c ∈ Json.quote s) : 0x20 ≤ c.toNat := by
  have hescape : ∀ d : Char, ∀ c ∈ Json.escapeChar d, 0x20 ≤ c.toNat := by
    intro d c hc
    have htwo : ∀ {a b : Char}, c ∈ [a, b] → 0x20 ≤ a.toNat → 0x20 ≤ b.toNat → 0x20 ≤ c.toNat := by
      intro a b hmem ha hb
      rcases List.mem_cons.1 hmem with rfl | hmem
      · exact ha
      · exact List.mem_singleton.1 hmem ▸ hb
    unfold Json.escapeChar at hc
    split_ifs at hc with _ _ _ _ _ _ _ hcontrol
    -- the escapes of two characters come first
    iterate 7 exact htwo hc (by decide) (by decide)
    · have hdigit : ∀ n < 16, 0x20 ≤ (Nat.digitChar n).toNat := by decide
      simp only [List.mem_cons, List.not_mem_nil, or_false] at hc
      rcases hc with rfl | rfl | rfl | rfl | rfl | rfl
      · decide
      · decide
      · decide
      · decide
      · exact hdigit _ (by omega)
      · exact hdigit _ (by omega)
    · rw [List.mem_singleton.1 hc]
      omega
  rcases List.mem_cons.1 h with rfl | h
  · decide
  · rcases List.mem_append.1 h with h | h
    · obtain ⟨d, -, hc⟩ := List.mem_flatMap.1 h
      exact hescape d c hc
    · rw [List.mem_singleton.1 h]
      decide

/-- The text of a scalar has no control characters. -/
theorem LogScalar.printable {value : LogScalar} {c : Char} (h : c ∈ value.chars) :
    0x20 ≤ c.toNat := by
  have hdigit : ∀ {c : Char}, c.isDigit = true → 0x20 ≤ c.toNat := by
    intro c hc
    have hrange : 48 ≤ c.toNat ∧ c.toNat ≤ 57 := by
      simpa [Char.isDigit, UInt32.le_iff_toNat_le] using hc
    omega
  have hdigits : ∀ {n : Nat}, c ∈ Nat.toDigits 10 n → 0x20 ≤ c.toNat := fun hmem =>
    hdigit (Nat.isDigit_of_mem_toDigits (by decide) (by decide) hmem)
  cases value with
  | null =>
    change c ∈ ['n', 'u', 'l', 'l'] at h
    simp only [List.mem_cons, List.not_mem_nil, or_false] at h
    rcases h with rfl | rfl | rfl | rfl <;> decide
  | bool b =>
    cases b with
    | true =>
      change c ∈ ['t', 'r', 'u', 'e'] at h
      simp only [List.mem_cons, List.not_mem_nil, or_false] at h
      rcases h with rfl | rfl | rfl | rfl <;> decide
    | false =>
      change c ∈ ['f', 'a', 'l', 's', 'e'] at h
      simp only [List.mem_cons, List.not_mem_nil, or_false] at h
      rcases h with rfl | rfl | rfl | rfl | rfl <;> decide
  | int i =>
    cases i with
    | ofNat n => exact hdigits h
    | negSucc n =>
      rcases List.mem_cons.1 h with rfl | h
      · decide
      · exact hdigits h
  | float text =>
    have hchar := List.all_eq_true.1 text.chars c h
    simp only [isFloatChar, Bool.or_eq_true, decide_eq_true_eq] at hchar
    rcases hchar with hchar | hchar
    · exact hdigit hchar
    · have hall : ("-+.eNaIinfty".toList.all fun c => 0x20 ≤ c.toNat) = true := by decide
      exact of_decide_eq_true (List.all_eq_true.1 hall c hchar)
  | str s => exact printable_of_mem_quote h

/-- A line has no control characters. -/
theorem printable_of_mem_line {fields : List (String × LogScalar)} {c : Char}
    (h : c ∈ lineChars fields) : 0x20 ≤ c.toNat := by
  have htail : ∀ {fields : List (String × LogScalar)}, c ∈ fieldsTail fields → 0x20 ≤ c.toNat := by
    intro fields
    induction fields with
    | nil => exact fun h => absurd h List.not_mem_nil
    | cons field fields ih =>
      intro h
      rw [fieldsTail, List.mem_cons, List.mem_append, List.mem_cons, List.mem_append] at h
      rcases h with rfl | h | rfl | h | h
      · decide
      · exact printable_of_mem_quote h
      · decide
      · exact LogScalar.printable h
      · exact ih h
  cases fields with
  | nil =>
    rw [lineChars, List.mem_cons, List.mem_singleton] at h
    rcases h with rfl | rfl <;> decide
  | cons field fields =>
    rw [lineChars, List.mem_cons, List.mem_append, List.mem_cons, List.mem_append, List.mem_append,
      List.mem_singleton] at h
    rcases h with rfl | h | rfl | h | h | rfl
    · decide
    · exact printable_of_mem_quote h
    · decide
    · exact LogScalar.printable h
    · exact htail h
    · decide

/-! ## A line determines its payload -/

/-- What follows a scalar in a line. -/
def AfterScalar (s : List Char) : Prop :=
  ∃ c rest, s = c :: rest ∧ (c = ',' ∨ c = '\x7d')

theorem AfterScalar.ends {s : List Char} (h : AfterScalar s) : Json.Ends s := by
  obtain ⟨c, rest, rfl, rfl | rfl⟩ := h
  · exact Json.ends_cons rfl
  · exact Json.ends_cons rfl

/-- The text of a float goes on to the end of the scalar. -/
theorem takeWhile_isFloatChar {cs s : List Char} (hcs : ∀ c ∈ cs, isFloatChar c = true)
    (hs : AfterScalar s) : (cs ++ s).takeWhile isFloatChar = cs := by
  obtain ⟨c, rest, rfl, hc⟩ := hs
  have hstop : isFloatChar c = false := by
    rcases hc with rfl | rfl <;> decide
  rw [List.takeWhile_append_of_pos hcs, List.takeWhile_cons_of_neg (by rw [hstop]; decide),
    List.append_nil]

/-- The characters of an integer. -/
theorem intChar_of_mem {i : Int} {c : Char} (h : c ∈ Json.intChars i) :
    c.isDigit = true ∨ c = '-' := by
  have hdigits : ∀ {n : Nat}, c ∈ Nat.toDigits 10 n → c.isDigit = true := fun hmem =>
    Nat.isDigit_of_mem_toDigits (by decide) (by decide) hmem
  cases i with
  | ofNat n => exact .inl (hdigits h)
  | negSucc n =>
    rcases List.mem_cons.1 h with rfl | h
    · exact .inr rfl
    · exact .inl (hdigits h)

/-- No integer is written as a float is. -/
theorem float_ne_int {text : FloatText} {i : Int} {s t : List Char} (hs : AfterScalar s)
    (ht : AfterScalar t) : text.text.toList ++ s ≠ Json.intChars i ++ t := by
  intro h
  have hint : ∀ c ∈ Json.intChars i, isFloatChar c = true := by
    intro c hc
    rcases intChar_of_mem hc with hdigit | rfl
    · rw [isFloatChar, hdigit, Bool.true_or]
    · decide
  have htext := congrArg (List.takeWhile isFloatChar) h
  rw [takeWhile_isFloatChar (List.all_eq_true.1 text.chars) hs,
    takeWhile_isFloatChar hint ht] at htext
  obtain ⟨c, hc, hno⟩ := List.any_eq_true.1 text.noInteger
  rw [htext] at hc
  rcases intChar_of_mem hc with hdigit | rfl
  · rw [hdigit] at hno
    cases hno
  · cases hno

/-- No other value is written as a float is. -/
theorem float_ne_json {text : FloatText} {v : Json} {s t : List Char} (hs : AfterScalar s)
    (ht : AfterScalar t) : text.text.toList ++ s ≠ v.chars ++ t := by
  intro h
  obtain ⟨c, rest, hv, hc⟩ := Json.kind_of_chars v
  have hkind : v.kind = 2 ∨ v.kind = 6 := by
    have hstarts := text.starts
    cases htext : text.text.toList with
    | nil =>
      rw [htext] at hstarts
      cases hstarts
    | cons d rest' =>
      rw [htext, hv] at h
      obtain rfl : d = c := (List.cons.inj h).1
      rw [htext] at hstarts
      change (d.isDigit || decide (d ∈ ['-', 'N', 'I'])) = true at hstarts
      rw [← hc]
      rcases Bool.or_eq_true_iff.1 hstarts with hdigit | hother
      · exact .inl (Json.kindOf_digit hdigit)
      · have hmem := of_decide_eq_true hother
        simp only [List.mem_cons, List.not_mem_nil, or_false] at hmem
        rcases hmem with rfl | rfl | rfl
        · exact .inl (by decide)
        · exact .inr (by decide)
        · exact .inr (by decide)
  cases v with
  | int i => exact float_ne_int hs ht h
  | null => exact hkind.elim (by decide) (by decide)
  | bool b => exact hkind.elim (fun hk => by cases hk) fun hk => by cases hk
  | str x => exact hkind.elim (fun hk => by cases hk) fun hk => by cases hk
  | array items => exact hkind.elim (fun hk => by cases hk) fun hk => by cases hk
  | object fields => exact hkind.elim (fun hk => by cases hk) fun hk => by cases hk

/-- The value of a scalar that is no float. -/
def LogScalar.json : LogScalar → Option Json
  | .null => some .null
  | .bool b => some (.bool b)
  | .int i => some (.int i)
  | .float _ => none
  | .str s => some (.str s)

/-- A scalar is a float or a value of JSON. -/
theorem LogScalar.float_or_json (value : LogScalar) :
    (∃ text, value = .float text) ∨ ∃ v, value.json = some v ∧ value.chars = v.chars := by
  cases value with
  | float text => exact .inl ⟨text, rfl⟩
  | _ => exact .inr ⟨_, rfl, rfl⟩

theorem LogScalar.json_inj {a b : LogScalar} {v : Json} (ha : a.json = some v)
    (hb : b.json = some v) : a = b := by
  cases a <;> cases ha <;> cases b <;> cases hb <;> rfl

/-- A scalar ends where its text ends. -/
theorem LogScalar.chars_inj {a b : LogScalar} {s t : List Char} (hs : AfterScalar s)
    (ht : AfterScalar t) (h : a.chars ++ s = b.chars ++ t) : a = b ∧ s = t := by
  rcases a.float_or_json with ⟨x, rfl⟩ | ⟨v, hv, ha⟩
  · rcases b.float_or_json with ⟨y, rfl⟩ | ⟨w, hw, hb⟩
    · have htext := congrArg (List.takeWhile isFloatChar) h
      rw [chars, chars, takeWhile_isFloatChar (List.all_eq_true.1 x.chars) hs,
        takeWhile_isFloatChar (List.all_eq_true.1 y.chars) ht, String.toList_inj] at htext
      obtain ⟨x, _, _, _⟩ := x
      obtain ⟨y, _, _, _⟩ := y
      obtain rfl : x = y := htext
      exact ⟨rfl, List.append_cancel_left h⟩
    · rw [hb] at h
      exact absurd h (float_ne_json hs ht)
  · rcases b.float_or_json with ⟨y, rfl⟩ | ⟨w, hw, hb⟩
    · rw [ha] at h
      exact absurd h.symm (float_ne_json ht hs)
    · rw [ha, hb] at h
      obtain ⟨rfl, hst⟩ := Json.chars_inj hs.ends ht.ends h
      exact ⟨LogScalar.json_inj hv hw, hst⟩

theorem afterScalar_fieldsTail (fields : List (String × LogScalar)) :
    AfterScalar (fieldsTail fields ++ ['\x7d']) := by
  cases fields with
  | nil => exact ⟨_, _, rfl, .inr rfl⟩
  | cons field fields => exact ⟨_, _, rfl, .inl rfl⟩

theorem fieldsTail_inj {xs ys : List (String × LogScalar)}
    (h : fieldsTail xs ++ ['\x7d'] = fieldsTail ys ++ ['\x7d']) : xs = ys := by
  induction xs generalizing ys with
  | nil =>
    cases ys with
    | nil => rfl
    | cons y ys => cases h
  | cons x xs ih =>
    cases ys with
    | nil => cases h
    | cons y ys =>
      obtain ⟨k, v⟩ := x
      obtain ⟨l, w⟩ := y
      have h' : Json.quote k ++ (':' :: (v.chars ++ (fieldsTail xs ++ ['\x7d']))) =
          Json.quote l ++ (':' :: (w.chars ++ (fieldsTail ys ++ ['\x7d']))) := by
        simpa [fieldsTail] using h
      obtain ⟨rfl, hvalue⟩ := Json.quote_inj h'
      obtain ⟨rfl, htail⟩ := LogScalar.chars_inj (afterScalar_fieldsTail xs)
        (afterScalar_fieldsTail ys) (List.tail_eq_of_cons_eq hvalue)
      rw [ih htail]

/-- A line determines its fields. -/
theorem lineChars_inj {xs ys : List (String × LogScalar)} (h : lineChars xs = lineChars ys) :
    xs = ys := by
  cases xs with
  | nil =>
    cases ys with
    | nil => rfl
    | cons y ys => cases h
  | cons x xs =>
    cases ys with
    | nil => cases h
    | cons y ys =>
      obtain ⟨k, v⟩ := x
      obtain ⟨l, w⟩ := y
      have h' : fieldsTail ((k, v) :: xs) ++ ['\x7d'] = fieldsTail ((l, w) :: ys) ++ ['\x7d'] := by
        simpa [fieldsTail] using List.tail_eq_of_cons_eq h
      exact fieldsTail_inj h'

/-! ## The log -/

section
variable (isWord : Char → Bool)

variable {isWord}

/-- The keys of a payload are distinct. -/
theorem payload_keys (timestamp : String) (record : LogRecord) :
    ((payload isWord timestamp record).map (·.1)).Nodup := by
  have hfields : ∀ fields : List String, ((fields.filterMap fun field =>
      (record.extra.lookup field).map fun value => (field, value.scalar isWord)).map (·.1)).Sublist
        fields := by
    intro fields
    induction fields with
    | nil => exact .slnil
    | cons field fields ih =>
      cases hvalue : record.extra.lookup field with
      | none =>
        rw [List.filterMap_cons_none (by rw [hvalue]; rfl)]
        exact ih.cons field
      | some value =>
        rw [List.filterMap_cons_some (b := (field, value.scalar isWord)) (by rw [hvalue]; rfl)]
        exact ih.cons_cons field
  have hsub : ((payload isWord timestamp record).map (·.1)).Sublist
      (["timestamp", "level", "logger", "event"] ++ ["exception_type"] ++ structuredLogFields) := by
    unfold payload
    dsimp only
    rw [List.map_append, List.map_append]
    refine List.Sublist.append (List.Sublist.append (.refl _) ?_) ?_
    · cases record.exceptionType with
      | none => exact List.nil_sublist _
      | some name => exact .refl _
    · split
      · exact List.nil_sublist _
      · exact hfields structuredLogFields
  exact hsub.nodup (by decide)

/-- A line has no line break in it. -/
theorem newline_notMem_format (timestamp : String) (record : LogRecord) :
    '\n' ∉ (format isWord timestamp record).toList := by
  intro h
  rw [format, String.toList_ofList] at h
  exact absurd (printable_of_mem_line h) (by decide)

/-- A line is the payload of its record. -/
theorem format_eq_iff {timestamp timestamp' : String} {record record' : LogRecord} :
    format isWord timestamp record = format isWord timestamp' record' ↔
      (payload isWord timestamp record).Perm (payload isWord timestamp' record') := by
  constructor
  · intro h
    have hsorted := lineChars_inj (String.ofList_injective h)
    have hperm := List.mergeSort_perm (payload isWord timestamp record) fun a b =>
      decide (a.1 ≤ b.1)
    rw [hsorted] at hperm
    exact hperm.symm.trans (List.mergeSort_perm _ _)
  · intro h
    have hsorted : (payload isWord timestamp record).mergeSort (fun a b => a.1 ≤ b.1) =
        (payload isWord timestamp' record').mergeSort (fun a b => a.1 ≤ b.1) :=
      mergeSort_key_congr h (payload_keys timestamp record)
    rw [format, format, hsorted]

/-- **A log is its records**: two logs are the same text exactly if they have as many records and
the payloads of these are the same, one after the other. Whatever the messages and the fields
contain, no record can pass for two, or for another one. -/
theorem stream_eq_iff (isWord : Char → Bool) (records records' : List (String × LogRecord)) :
    stream isWord records = stream isWord records' ↔
      List.Forall₂ (fun record record' =>
        (payload isWord record.1 record.2).Perm (payload isWord record'.1 record'.2))
        records records' := by
  have hlines : ∀ records : List (String × LogRecord), split '\n' (stream isWord records) =
      records.map (fun record => format isWord record.1 record.2) ++ [""] := by
    intro records
    refine split_joinWith (by simp) fun line hline => ?_
    rcases List.mem_append.1 hline with hline | hline
    · obtain ⟨record, -, rfl⟩ := List.mem_map.1 hline
      exact newline_notMem_format record.1 record.2
    · rw [List.mem_singleton.1 hline]
      exact List.not_mem_nil
  have hmap : stream isWord records = stream isWord records' ↔
      records.map (fun record => format isWord record.1 record.2) =
        records'.map (fun record => format isWord record.1 record.2) := by
    constructor
    · intro h
      have hsplit := congrArg (split '\n') h
      rwa [hlines, hlines, List.append_cancel_right_eq] at hsplit
    · intro h
      rw [stream, stream, h]
  rw [hmap, ← List.forall₂_eq_eq_eq, List.forall₂_map_left_iff, List.forall₂_map_right_iff]
  simp only [format_eq_iff]

/-- **The database driver cannot write to the log**: of a record of its loggers only the level, the
logger and the type of the exception are kept. -/
theorem format_databaseDependency {timestamp : String} {record record' : LogRecord}
    (hname : isDatabaseDependencyLogger record.name = true) (hsame : record'.name = record.name)
    (hlevel : record'.levelname = record.levelname)
    (hexception : record'.exceptionType = record.exceptionType) :
    format isWord timestamp record' = format isWord timestamp record := by
  unfold format payload
  simp only [hsame, hname, hlevel, hexception, if_true]

end

end QueryMan
