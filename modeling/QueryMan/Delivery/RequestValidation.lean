import Mathlib.Data.Nat.Digits.Defs
import QueryMan.Python.Pydantic
import QueryMan.Python.Text

/-!
# Request bodies

The payload models of `delivery/app.py`, and what a client is told of an invalid body. The details
of a validation error have at most 32 entries of bounded ASCII text, whatever the errors are
(`boundedValidationDetails_bounded`). For the two payloads they are drawn from a finite set, so that
no text of a request comes back (`payload_outcome`).
-/

namespace QueryMan.HttpApp

open Python Python.Pydantic
open Python.Yaml (Data Scalar)

/-! ## The details of an error -/

/-- A part of the location of an error. -/
inductive LocPart where
  | str (s : String)
  | int (i : Int)
  deriving DecidableEq

/-- An entry of `RequestValidationError.errors()`; a type that is no text is `none`. -/
structure RequestIssue where
  loc : List LocPart
  type : Option String
  deriving DecidableEq

/-- An entry of the details of an error response. -/
structure Detail where
  path : String
  code : String
  message : String
  deriving DecidableEq, Repr

/-- A character of a part that may be shown. -/
def isSafeChar (c : Char) : Bool :=
  c.isAlphanum || c == '_' || c == '-'

/-- A part of `safe_location`. -/
def safePart : LocPart → String
  | .int i => if 0 ≤ i ∧ i ≤ 1000000 then toString i.toNat else "value"
  | .str s =>
    if (1 ≤ s.length ∧ s.length ≤ 64) ∧ s.toList.all isSafeChar = true then s else "value"

/-- The location that an entry shows: without the body, and without the name of an extra field. -/
def shownLocation (issue : RequestIssue) : List LocPart :=
  let location := issue.loc.filter (· ≠ .str "body")
  if issue.type = some "extra_forbidden" ∧ location ≠ [] then location.dropLast ++ [.str "extra"]
  else location

/-- An entry of `_bounded_validation_details`. -/
def detail (issue : RequestIssue) : Detail where
  path :=
    let path := (joinWith '.' ((shownLocation issue).map safePart)).toList.take 256
    if path = [] then "request" else String.ofList path
  code :=
    match issue.type with
    | some type =>
      if (1 ≤ type.length ∧ type.length ≤ 64) ∧ type.toList.all (·.toNat < 128) = true then type
      else "value_error"
    | none => "value_error"
  message := "Invalid request value."

/-- `_bounded_validation_details`. -/
def boundedValidationDetails (issues : List RequestIssue) : List Detail :=
  (issues.take 32).map detail

/-! ## Bounds -/

/-- A text that a client may be shown: not empty, bounded, and of these characters. -/
def Shown (max : Nat) (accepts : Char → Bool) (s : String) : Prop :=
  s ≠ "" ∧ s.length ≤ max ∧ ∀ c ∈ s.toList, accepts c = true

/-- A character of a path. -/
def isPathChar (c : Char) : Bool :=
  isSafeChar c || c == '.'

theorem safePart_chars (part : LocPart) : ∀ c ∈ (safePart part).toList, isPathChar c = true := by
  have hvalue : ∀ c ∈ "value".toList, isPathChar c = true := List.all_eq_true.1 (by decide)
  cases part with
  | int i =>
    rw [safePart]
    split
    · intro c hc
      have hdigit : c.isDigit = true := by
        rw [show toString i.toNat = Nat.repr i.toNat from rfl, Nat.repr, String.toList_ofList] at hc
        exact Nat.isDigit_of_mem_toDigits (by decide) (by decide) hc
      simp [isPathChar, isSafeChar, Char.isAlphanum, hdigit]
    · exact hvalue
  | str s =>
    rw [safePart]
    split
    · next h =>
      intro c hc
      rw [isPathChar, List.all_eq_true.1 h.2 c hc, Bool.true_or]
    · exact hvalue

/-- The characters of joined parts. -/
theorem chars_of_joinWith {separator c : Char} {parts : List String}
    (h : c ∈ (joinWith separator parts).toList) :
    c = separator ∨ ∃ part ∈ parts, c ∈ part.toList := by
  rw [joinWith, String.toList_ofList] at h
  induction parts with
  | nil => simp at h
  | cons part parts ih =>
    cases parts with
    | nil =>
      right
      exact ⟨part, List.mem_singleton.2 rfl, by simpa using h⟩
    | cons next rest =>
      rw [List.map_cons, List.map_cons, List.intercalate_cons_cons, List.mem_append,
        List.mem_append] at h
      rcases h with (h | h) | h
      · exact .inr ⟨part, List.mem_cons_self, h⟩
      · exact .inl (List.mem_singleton.1 h)
      · rcases ih h with h | ⟨part', hpart', h⟩
        · exact .inl h
        · exact .inr ⟨part', List.mem_cons_of_mem _ hpart', h⟩

theorem shown_path (issue : RequestIssue) : Shown 256 isPathChar (detail issue).path := by
  rw [detail]
  dsimp only
  split
  · exact ⟨by decide, by decide, List.all_eq_true.1 (by decide)⟩
  · next hne =>
    refine ⟨fun heq => hne ?_, ?_, fun c hc => ?_⟩
    · rw [← String.toList_inj, String.toList_ofList] at heq
      exact heq
    · rw [String.length_ofList]
      exact List.length_take_le ..
    · rw [String.toList_ofList] at hc
      rcases chars_of_joinWith (List.mem_of_mem_take hc) with rfl | ⟨part, hpart, hc⟩
      · decide
      · obtain ⟨part, -, rfl⟩ := List.mem_map.1 hpart
        exact safePart_chars part c hc

theorem shown_code (issue : RequestIssue) :
    Shown 64 (fun c => c.toNat < 128) (detail issue).code := by
  have hdefault : Shown 64 (fun c => c.toNat < 128) "value_error" :=
    ⟨by decide, by decide, List.all_eq_true.1 (by decide)⟩
  rw [detail]
  dsimp only
  split
  · next type _ =>
    split
    · next h =>
      refine ⟨fun heq => ?_, h.1.2, fun c hc => List.all_eq_true.1 h.2 c hc⟩
      have hlength := h.1.1
      rw [heq] at hlength
      exact absurd hlength (by decide)
    · exact hdefault
  · exact hdefault

/-- **What a client is told of its request is bounded**: whatever the errors are, at most 32
entries, each with a path of 1 to 256 characters, a code of 1 to 64 ASCII characters and one
message. -/
theorem boundedValidationDetails_bounded (issues : List RequestIssue) :
    (boundedValidationDetails issues).length ≤ 32 ∧
      ∀ d ∈ boundedValidationDetails issues, Shown 256 isPathChar d.path ∧
        Shown 64 (fun c => c.toNat < 128) d.code ∧ d.message = "Invalid request value." := by
  constructor
  · rw [boundedValidationDetails, List.length_map]
    exact List.length_take_le ..
  · intro d hd
    obtain ⟨issue, -, rfl⟩ := List.mem_map.1 hd
    exact ⟨shown_path issue, shown_code issue, rfl⟩

/-! ## The payloads -/

/-- `MetadataRequest`. -/
structure MetadataRequest where
  sourceId : String
  deriving DecidableEq

/-- `QueryRequest`. -/
structure QueryRequest where
  sourceId : String
  sql : String
  metadataRevision : String
  sqlPolicyRevision : String
  deriving DecidableEq

/-- `^sha256:[a-f0-9]{64}$`. -/
def isRevision (s : String) : Bool :=
  match s.toList with
  | 's' :: 'h' :: 'a' :: '2' :: '5' :: '6' :: ':' :: digits =>
    digits.length == 64 && digits.all fun c => ('a' ≤ c ∧ c ≤ 'f') ∨ ('0' ≤ c ∧ c ≤ '9')
  | _ => false

/-- A text with a lone surrogate, such as `"\ud800"`. It is no `String`: like a float it is what
`repr` gives, which for a text starts with a quote. -/
def isSurrogateText (repr : String) : Bool :=
  repr.startsWith "'" || repr.startsWith "\""

/-- What lax mode makes of a value of JSON: only a text is a `str`, if it is Unicode. -/
def jsonLax : Lax where
  int := fun _ => .error "int_type"
  str := fun value =>
    match value with
    | .scalar (.other repr) =>
      .error (if isSurrogateText repr then "string_unicode" else "string_type")
    | _ => .error "string_type"
  list := fun _ => .error "list_type"

/-- A revision of a request. -/
def revisionText (value : Data) : Checked String :=
  let text : Checked String :=
    match value with
    | .scalar (.str s) => .valid (trim s)
    | value => converted (jsonLax.str value)
  pattern isRevision text

/-- The fields of `MetadataRequest`. -/
def metadataRequest : Data → Checked MetadataRequest :=
  model ["source_id"] fun pairs =>
    MetadataRequest.mk <$> field "source_id" (str jsonLax 1 80) pairs

/-- The fields of `QueryRequest`. -/
def queryRequest : Data → Checked QueryRequest :=
  model ["source_id", "sql", "metadata_revision", "sql_policy_revision"] fun pairs =>
    QueryRequest.mk <$> field "source_id" (str jsonLax 1 80) pairs <*>
      field "sql" (str jsonLax 1 100000) pairs <*>
      field "metadata_revision" revisionText pairs <*>
      field "sql_policy_revision" revisionText pairs

/-- The body of a request as it is read. -/
inductive RequestBody where
  /-- no body, or `null` -/
  | absent
  /-- no JSON from a position on -/
  | undecodable (position : Nat)
  /-- what fails otherwise while it is read: bytes that are no text, an integer with more digits
  than `int` converts, brackets nested too deep -/
  | unreadable
  /-- an object with its fields -/
  | object (fields : List (String × Data))
  /-- any other value -/
  | other

/-- The exceptions for an invalid body. -/
inductive BodyError where
  /-- `RequestValidationError` -/
  | requestValidation (issues : List RequestIssue)
  /-- the `HTTPException` of FastAPI with its status 400 -/
  | httpException
  deriving DecidableEq

/-- The `detail` of that exception. -/
def unreadableDetail : String := "There was an error parsing the body"

/-- An object as a dictionary. -/
def objectData (fields : List (String × Data)) : Data :=
  .dict (fields.map fun field => (.str field.1, field.2))

/-- The payload of a body, or the exception for it. -/
def payloadOf {α : Type} (validate : Data → Checked α) : RequestBody → Except BodyError α
  | .absent => .error (.requestValidation [⟨[.str "body"], some "missing"⟩])
  | .undecodable position =>
    .error (.requestValidation [⟨[.str "body", .int position], some "json_invalid"⟩])
  | .unreadable => .error .httpException
  | .other => .error (.requestValidation [⟨[.str "body"], some "model_attributes_type"⟩])
  | .object fields =>
    match validate (objectData fields) with
    | .valid payload => .ok payload
    | .invalid issues => .error (.requestValidation
        (issues.map fun i => ⟨.str "body" :: i.loc.map .str, some i.kind⟩))

/-! ## What an invalid body shows -/

/-- The names of the fields of the payloads. -/
def payloadNames : List String :=
  ["source_id", "sql", "metadata_revision", "sql_policy_revision"]

/-- The types of the errors of a field. -/
def fieldKinds : List String :=
  ["missing", "string_type", "string_unicode", "string_too_short", "string_too_long",
    "string_pattern_mismatch"]

/-- An error of a payload: of one of its fields, or of a field that it does not have. -/
def PayloadIssue (i : Issue) : Prop :=
  (∃ name ∈ payloadNames, i.loc = [name] ∧ i.kind ∈ fieldKinds) ∨
    ∃ name, i = ⟨[name], "extra_forbidden"⟩

/-- The entries that an invalid body can show. -/
def payloadDetails : List Detail :=
  (payloadNames.flatMap fun name => fieldKinds.map fun kind =>
    ⟨name, kind, "Invalid request value."⟩) ++
  [⟨"extra", "extra_forbidden", "Invalid request value."⟩,
    ⟨"request", "extra_forbidden", "Invalid request value."⟩,
    ⟨"request", "missing", "Invalid request value."⟩,
    ⟨"request", "model_attributes_type", "Invalid request value."⟩]

/-- An error of a field: at the value itself. -/
def FieldIssue (i : Issue) : Prop :=
  i.loc = [] ∧ i.kind ∈ fieldKinds

theorem all_text (accept : String → Checked String) (haccept : ∀ s, (accept s).All FieldIssue)
    (value : Data) : (match value with
      | .scalar (.str s) => accept s
      | value => converted (jsonLax.str value)).All FieldIssue := by
  have htype : (Checked.issue "string_type" : Checked String).All FieldIssue :=
    Checked.all_issue ⟨rfl, by decide⟩
  have hunicode : (Checked.issue "string_unicode" : Checked String).All FieldIssue :=
    Checked.all_issue ⟨rfl, by decide⟩
  cases value with
  | scalar value =>
    cases value with
    | str s => exact haccept s
    | other repr =>
      change (Checked.issue (if isSurrogateText repr then _ else _) : Checked String).All FieldIssue
      split
      · exact hunicode
      · exact htype
    | _ => exact htype
  | _ => exact htype

theorem all_str {minLength maxLength : Nat} {value : Data} :
    (str jsonLax minLength maxLength value).All FieldIssue :=
  (((all_text Checked.valid (fun _ => trivial) value).andThen (f := fun s => .valid (trim s))
    fun _ => trivial).require ⟨rfl, by decide⟩).require ⟨rfl, by decide⟩

theorem all_revisionText {value : Data} : (revisionText value).All FieldIssue :=
  Checked.All.require (all_text (fun s => .valid (trim s)) (fun _ => trivial) value)
    ⟨rfl, by decide⟩

theorem all_payloadField {name : String} (hname : name ∈ payloadNames)
    {validate : Data → Checked String}
    (h : ∀ value, (validate value).All FieldIssue)
    {pairs : List (Scalar × Data)} : (field name validate pairs).All PayloadIssue := by
  have hmissing : "missing" ∈ fieldKinds := by decide
  refine all_field (.inl ⟨name, hname, rfl, hmissing⟩) fun value => ?_
  have hvalue := h value
  revert hvalue
  cases validate value with
  | valid a => exact fun _ => trivial
  | invalid issues =>
    intro hissues i hi
    obtain ⟨hloc, hkind⟩ := hissues i hi
    exact .inl ⟨name, hname, congrArg _ hloc, hkind⟩

/-- The errors of a payload whose fields have errors of payloads. -/
theorem all_model {α : Type} {names : List String} {validate : List (Scalar × Data) → Checked α}
    (h : ∀ pairs, (validate pairs).All PayloadIssue) (fields : List (String × Data)) :
    (model names validate (objectData fields)).All PayloadIssue := by
  refine Checked.All.seq (h _).map ?_
  unfold forbidExtra
  extract_lets issues
  split
  · trivial
  · intro i hi
    obtain ⟨pair, hpair, hi⟩ := List.mem_filterMap.1 hi
    obtain ⟨field, -, rfl⟩ := List.mem_map.1 hpair
    change (if field.1 ∈ names then none else some _) = some i at hi
    split at hi
    · cases hi
    · exact .inr ⟨field.1, (Option.some.inj hi).symm⟩

theorem all_metadataRequest (fields : List (String × Data)) :
    (metadataRequest (objectData fields)).All PayloadIssue :=
  all_model (fun _ => (all_payloadField (by decide) fun _ => all_str).map) fields

theorem all_queryRequest (fields : List (String × Data)) :
    (queryRequest (objectData fields)).All PayloadIssue :=
  all_model (fun _ => (((all_payloadField (by decide) fun _ => all_str).map.seq
    (all_payloadField (by decide) fun _ => all_str)).seq
    (all_payloadField (by decide) fun _ => all_revisionText)).seq
    (all_payloadField (by decide) fun _ => all_revisionText)) fields

/-- The entry of an error of a payload. -/
theorem detail_mem {i : Issue} (h : PayloadIssue i) :
    detail ⟨.str "body" :: i.loc.map .str, some i.kind⟩ ∈ payloadDetails := by
  have hfields : ∀ name ∈ payloadNames, ∀ kind ∈ fieldKinds,
      detail ⟨[.str "body", .str name], some kind⟩ ∈ payloadDetails := by decide
  rcases h with ⟨name, hname, hloc, hkind⟩ | ⟨name, rfl⟩
  · rw [hloc]
    exact hfields name hname i.kind hkind
  · by_cases hbody : name = "body"
    · rw [hbody]
      decide
    · have hshown : shownLocation ⟨[.str "body", .str name], some "extra_forbidden"⟩ =
          [.str "extra"] := by
        simp [shownLocation, hbody]
      have hdetail : detail ⟨[.str "body", .str name], some "extra_forbidden"⟩ =
          detail ⟨[.str "extra"], some "extra_forbidden"⟩ := by
        rw [detail, hshown]
        rfl
      show detail ⟨[.str "body", .str name], some "extra_forbidden"⟩ ∈ payloadDetails
      rw [hdetail]
      decide

/-- The position that is shown of a body that is no JSON. -/
def shownPosition (position : Nat) : String :=
  if position ≤ 1000000 then toString position else "value"

theorem detail_position (position : Nat) :
    detail ⟨[.str "body", .int position], some "json_invalid"⟩ =
      ⟨shownPosition position, "json_invalid", "Invalid request value."⟩ := by
  have hshown : shownLocation ⟨[.str "body", .int position], some "json_invalid"⟩ =
      [.int position] := by
    simp [shownLocation]
  have hpart : safePart (.int position) = shownPosition position := by
    simp [safePart, shownPosition]
  have hjoined : (joinWith '.' [shownPosition position]).toList =
      (shownPosition position).toList := by
    simp [joinWith]
  -- a position has at most seven digits
  have hlength : (shownPosition position).toList.length ≤ 256 := by
    rw [shownPosition]
    split
    · next hle =>
      have hdigits := Nat.repr_length position 7 (by decide) (by omega)
      rw [String.length_toList]
      exact hdigits.trans (by decide)
    · decide
  have hne : (shownPosition position).toList ≠ [] := by
    rw [shownPosition]
    split
    · rw [show toString position = Nat.repr position from rfl, Nat.toList_repr]
      exact Nat.toDigits_ne_nil
    · decide
  rw [detail, hshown]
  dsimp only
  rw [List.map_singleton, hpart, hjoined, List.take_of_length_le hlength, if_neg hne,
    String.ofList_toList]
  rfl

/-- What is shown of an invalid body: entries of a finite set, and the position of a text that is no
JSON. -/
def ShowsNoText (body : RequestBody) (details : List Detail) : Prop :=
  ∀ d ∈ details, d ∈ payloadDetails ∨ ∃ position, body = .undecodable position ∧
    d = ⟨shownPosition position, "json_invalid", "Invalid request value."⟩

/-- The errors of a payload show no text. -/
theorem showsNoText_of_payloadOf {α : Type} {validate : Data → Checked α}
    (hvalidate : ∀ fields, (validate (objectData fields)).All PayloadIssue) {body : RequestBody}
    {issues : List RequestIssue}
    (h : payloadOf validate body = .error (.requestValidation issues)) :
    ShowsNoText body (boundedValidationDetails issues) := by
  intro d hd
  obtain ⟨issue, hissue, rfl⟩ := List.mem_map.1 hd
  have hmem := List.mem_of_mem_take hissue
  cases body with
  | absent =>
    cases h
    rw [List.mem_singleton.1 hmem]
    exact .inl (by decide)
  | undecodable position =>
    cases h
    rw [List.mem_singleton.1 hmem]
    exact .inr ⟨position, rfl, detail_position position⟩
  | unreadable => cases h
  | other =>
    cases h
    rw [List.mem_singleton.1 hmem]
    exact .inl (by decide)
  | object fields =>
    have hall := hvalidate fields
    rw [payloadOf] at h
    split at h
    · cases h
    · next issues' heq =>
      cases h
      rw [heq] at hall
      obtain ⟨i, hi, rfl⟩ := List.mem_map.1 hmem
      exact .inl (detail_mem (hall i hi))

/-- What the fields of a validated `MetadataRequest` are. -/
def MetadataRequest.WellFormed (payload : MetadataRequest) : Prop :=
  Trimmed payload.sourceId ∧ 1 ≤ payload.sourceId.length ∧ payload.sourceId.length ≤ 80

/-- What the fields of a validated `QueryRequest` are. -/
structure QueryRequest.WellFormed (payload : QueryRequest) : Prop where
  sourceId : Trimmed payload.sourceId ∧ 1 ≤ payload.sourceId.length ∧ payload.sourceId.length ≤ 80
  sql : Trimmed payload.sql ∧ 1 ≤ payload.sql.length ∧ payload.sql.length ≤ 100000
  revisions : isRevision payload.metadataRevision = true ∧
    isRevision payload.sqlPolicyRevision = true

/-- A validated body, or what is shown of an invalid one: the exception for one that cannot be read
has no more than its own `detail`. -/
def Outcome {α : Type} (wellFormed : α → Prop) (body : RequestBody) : Except BodyError α → Prop
  | .ok payload => wellFormed payload
  | .error (.requestValidation issues) => ShowsNoText body (boundedValidationDetails issues)
  | .error .httpException => body = .unreadable

theorem outcome_of_valid {α : Type} {validate : Data → Checked α} {wellFormed : α → Prop}
    (hvalidate : ∀ fields, (validate (objectData fields)).All PayloadIssue)
    (hvalid : ∀ value payload, validate value = .valid payload → wellFormed payload)
    (body : RequestBody) : Outcome wellFormed body (payloadOf validate body) := by
  cases h : payloadOf validate body with
  | error e =>
    cases e with
    | requestValidation issues => exact showsNoText_of_payloadOf hvalidate h
    | httpException =>
      cases body with
      | unreadable => rfl
      | object fields =>
        rw [payloadOf] at h
        split at h <;> cases h
      | _ => cases h
  | ok payload =>
    cases body with
    | object fields =>
      rw [payloadOf] at h
      split at h
      · next heq =>
        cases h
        exact hvalid _ _ heq
      · cases h
    | _ => cases h

/-- **No text of a request comes back**: a body of `POST /meta` or `POST /query` is accepted with
its fields trimmed, bounded and of their patterns, or what the client is shown is drawn from one
finite set, but for a position in a text that is no JSON. A body that fails otherwise while it is
read has one fixed answer. -/
theorem payload_outcome (body : RequestBody) :
    Outcome MetadataRequest.WellFormed body (payloadOf metadataRequest body) ∧
      Outcome QueryRequest.WellFormed body (payloadOf queryRequest body) := by
  constructor
  · refine outcome_of_valid all_metadataRequest (fun value payload h => ?_) body
    obtain ⟨pairs, -, hfields⟩ := model_eq_valid h
    obtain ⟨sourceId, hsource, rfl⟩ := Checked.map_eq_valid.1 hfields
    obtain ⟨value, -, hvalue⟩ := field_eq_valid.1 hsource
    exact str_eq_valid hvalue
  · refine outcome_of_valid all_queryRequest (fun value payload h => ?_) body
    obtain ⟨pairs, -, hfields⟩ := model_eq_valid h
    obtain ⟨_, policy, hthree, hpolicy, rfl⟩ := Checked.seq_eq_valid.1 hfields
    obtain ⟨_, revision, htwo, hrevision, rfl⟩ := Checked.seq_eq_valid.1 hthree
    obtain ⟨sourceId, sql, hsource, hsql, rfl⟩ := Checked.map_seq_eq_valid.1 htwo
    obtain ⟨source, -, hsource⟩ := field_eq_valid.1 hsource
    obtain ⟨text, -, hsql⟩ := field_eq_valid.1 hsql
    obtain ⟨_, -, hrevision⟩ := field_eq_valid.1 hrevision
    obtain ⟨_, -, hpolicy⟩ := field_eq_valid.1 hpolicy
    exact ⟨str_eq_valid hsource, str_eq_valid hsql, (Checked.require_eq_valid.1 hrevision).2,
      (Checked.require_eq_valid.1 hpolicy).2⟩

end QueryMan.HttpApp
