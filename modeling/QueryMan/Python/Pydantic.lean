import QueryMan.Python.Value
import QueryMan.Python.Yaml

/-!
# Validation by models

The part of pydantic that the configuration models use: validators of a constructed value, which
give the validated value or all errors that they find. What lax mode makes of a value of another
type is a parameter (`Lax`).
-/

namespace Python.Pydantic

open Python.Yaml

/-- An error of a `ValidationError`: its location, and its type or the message of its validator. -/
structure Issue where
  loc : List String
  kind : String
  deriving DecidableEq, Repr

/-- A validated value, or the errors. -/
inductive Checked (α : Type) where
  | valid (value : α)
  | invalid (issues : List Issue)

namespace Checked

variable {α β : Type}

/-- Parts are validated side by side, with the errors of all. -/
instance : Applicative Checked where
  pure := .valid
  seq f x :=
    match f, x () with
    | .valid f, .valid a => .valid (f a)
    | .valid _, .invalid issues | .invalid issues, .valid _ => .invalid issues
    | .invalid issues, .invalid issues' => .invalid (issues ++ issues')

/-- A check of a value that has been validated. -/
def andThen (x : Checked α) (f : α → Checked β) : Checked β :=
  match x with
  | .valid a => f a
  | .invalid issues => .invalid issues

/-- An error at the value itself. -/
def issue (kind : String) : Checked α :=
  .invalid [⟨[], kind⟩]

/-- The errors with a longer location. -/
def under (name : String) : Checked α → Checked α
  | .valid a => .valid a
  | .invalid issues => .invalid (issues.map fun i => ⟨name :: i.loc, i.kind⟩)

/-- The value that a check accepts. -/
def require (accepts : α → Bool) (kind : String) (x : Checked α) : Checked α :=
  x.andThen fun a => if accepts a then .valid a else issue kind

/-! When a validation succeeds. -/

theorem seq_eq_valid {f : Checked (α → β)} {x : Checked α} {b : β} :
    f <*> x = .valid b ↔ ∃ g a, f = .valid g ∧ x = .valid a ∧ g a = b := by
  constructor
  · intro h
    cases f with
    | invalid issues => cases x <;> cases h
    | valid g =>
      cases x with
      | invalid issues => cases h
      | valid a => exact ⟨g, a, rfl, rfl, Checked.valid.inj h⟩
  · rintro ⟨g, a, rfl, rfl, rfl⟩
    rfl

theorem map_eq_valid {g : α → β} {x : Checked α} {b : β} :
    g <$> x = .valid b ↔ ∃ a, x = .valid a ∧ g a = b := by
  constructor
  · intro h
    cases x with
    | invalid issues => cases h
    | valid a => exact ⟨a, rfl, Checked.valid.inj h⟩
  · rintro ⟨a, rfl, rfl⟩
    rfl

theorem map_seq_eq_valid {γ : Type} {g : α → β → γ} {x : Checked α} {y : Checked β} {c : γ} :
    g <$> x <*> y = .valid c ↔ ∃ a b, x = .valid a ∧ y = .valid b ∧ g a b = c := by
  rw [seq_eq_valid]
  constructor
  · rintro ⟨_, b, hmap, hy, rfl⟩
    obtain ⟨a, hx, rfl⟩ := map_eq_valid.1 hmap
    exact ⟨a, b, hx, hy, rfl⟩
  · rintro ⟨a, b, rfl, rfl, rfl⟩
    exact ⟨g a, b, rfl, rfl, rfl⟩

theorem andThen_eq_valid {x : Checked α} {f : α → Checked β} {b : β} :
    x.andThen f = .valid b ↔ ∃ a, x = .valid a ∧ f a = .valid b := by
  cases x with
  | invalid issues => simp [andThen]
  | valid a => simp [andThen]

theorem require_eq_valid {accepts : α → Bool} {kind : String} {x : Checked α} {a : α} :
    x.require accepts kind = .valid a ↔ x = .valid a ∧ accepts a = true := by
  unfold require
  rw [andThen_eq_valid]
  constructor
  · rintro ⟨a', hx, ha'⟩
    split at ha'
    · next haccepts =>
      cases ha'
      exact ⟨hx, haccepts⟩
    · cases ha'
  · rintro ⟨hx, haccepts⟩
    exact ⟨a, hx, by rw [if_pos haccepts]⟩

theorem under_eq_valid {name : String} {x : Checked α} {a : α} :
    x.under name = .valid a ↔ x = .valid a := by
  cases x with
  | invalid issues => simp [under]
  | valid a => simp [under]

/-! What the errors of a validation have in common. -/

/-- Every error has the property. -/
def All (P : Issue → Prop) : Checked α → Prop
  | .valid _ => True
  | .invalid issues => ∀ i ∈ issues, P i

variable {P : Issue → Prop}

theorem All.map {g : α → β} {x : Checked α} (h : x.All P) : (g <$> x).All P := by
  cases x with
  | valid a => trivial
  | invalid issues => exact h

theorem All.seq {f : Checked (α → β)} {x : Checked α} (hf : f.All P) (hx : x.All P) :
    (f <*> x).All P := by
  cases f with
  | valid f =>
    cases x with
    | valid a => trivial
    | invalid issues => exact hx
  | invalid issues =>
    cases x with
    | valid a => exact hf
    | invalid issues' =>
      intro i hi
      rcases List.mem_append.1 hi with hi | hi
      · exact hf i hi
      · exact hx i hi

theorem All.andThen {x : Checked α} {f : α → Checked β} (hx : x.All P) (hf : ∀ a, (f a).All P) :
    (x.andThen f).All P := by
  cases x with
  | valid a => exact hf a
  | invalid issues => exact hx

theorem all_issue {kind : String} (h : P ⟨[], kind⟩) : (issue kind : Checked α).All P := by
  intro i hi
  rw [List.mem_singleton.1 hi]
  exact h

theorem All.require {accepts : α → Bool} {kind : String} {x : Checked α} (hx : x.All P)
    (hkind : P ⟨[], kind⟩) : (x.require accepts kind).All P := by
  refine hx.andThen fun a => ?_
  split
  · trivial
  · exact all_issue hkind

theorem All.under {name : String} {x : Checked α} (h : x.All fun i => P ⟨name :: i.loc, i.kind⟩) :
    (x.under name).All P := by
  cases x with
  | valid a => trivial
  | invalid issues =>
    intro i hi
    obtain ⟨i, hmem, rfl⟩ := List.mem_map.1 hi
    exact h i hmem

end Checked

/-- What lax mode makes of a value that is no `int`, no `str` or no `list`: a value of that type, or
the type of the error. -/
structure Lax where
  int : Data → Except String Int
  str : Data → Except String String
  list : Data → Except String (List Data)

open Checked

/-- The result of a conversion. -/
def converted {α : Type} : Except String α → Checked α
  | .ok a => .valid a
  | .error kind => issue kind

/-! ## Values -/

/-- `int` with `strict=True`. -/
def strictInt : Data → Checked Int
  | .scalar (.int i) => .valid i
  | _ => issue "int_type"

/-- `bool` with `strict=True`. -/
def strictBool : Data → Checked Bool
  | .scalar (.bool b) => .valid b
  | _ => issue "bool_type"

/-- `int`. -/
def int (lax : Lax) : Data → Checked Int
  | .scalar (.int i) => .valid i
  | value => converted (lax.int value)

/-- `Field(ge=..., le=...)`. -/
def within (ge le : Nat) (x : Checked Int) : Checked Nat :=
  ((x.require (fun i : Int => i ≤ le) "less_than_equal").require (fun i : Int => ge ≤ i)
    "greater_than_equal").andThen fun i => .valid i.toNat

theorem within_eq_valid {ge le : Nat} {x : Checked Int} {n : Nat}
    (h : within ge le x = .valid n) : ge ≤ n ∧ n ≤ le := by
  obtain ⟨i, hi, hn⟩ := andThen_eq_valid.1 h
  obtain ⟨hle, hge⟩ := require_eq_valid.1 hi
  obtain ⟨-, hle⟩ := require_eq_valid.1 hle
  have hge := of_decide_eq_true hge
  have hle := of_decide_eq_true hle
  cases hn
  omega

/-- The white space that `str_strip_whitespace` takes away. -/
def isTrimmed (c : Char) : Bool :=
  isSpace c && !(0x1c ≤ c.toNat && c.toNat ≤ 0x1f)

/-- A string without the white space around it. -/
def trim (s : String) : String :=
  String.ofList ((s.toList.dropWhile isTrimmed).reverse.dropWhile isTrimmed).reverse

/-- No such white space is at either end. -/
def Trimmed (s : String) : Prop :=
  (∀ c, s.toList.head? = some c → isTrimmed c = false) ∧
    ∀ c, s.toList.getLast? = some c → isTrimmed c = false

theorem trimmed_trim (s : String) : Trimmed (trim s) := by
  have hhead : ∀ (cs : List Char) c, (cs.dropWhile isTrimmed).head? = some c →
      isTrimmed c = false := by
    intro cs c hc
    have hnot := List.head?_dropWhile_not isTrimmed cs
    rw [hc] at hnot
    exact hnot
  rw [trim, Trimmed, String.toList_ofList]
  constructor
  · intro c hc
    rw [List.head?_reverse] at hc
    -- what is left is the end of the reversed text, which ends where the trimmed text starts
    obtain ⟨before, hsuffix⟩ := List.dropWhile_suffix isTrimmed
      (l := (s.toList.dropWhile isTrimmed).reverse)
    have hlast : (s.toList.dropWhile isTrimmed).reverse.getLast? = some c := by
      rw [← hsuffix, List.getLast?_append, hc]
      rfl
    rw [List.getLast?_reverse] at hlast
    exact hhead _ c hlast
  · intro c hc
    rw [List.getLast?_reverse] at hc
    exact hhead _ c hc

/-- `str` with its bounds, in a model with `str_strip_whitespace`. -/
def str (lax : Lax) (minLength maxLength : Nat) (value : Data) : Checked String :=
  let text : Checked String :=
    match value with
    | .scalar (.str s) => .valid s
    | value => converted (lax.str value)
  let stripped : Checked String := text.andThen fun s => .valid (trim s)
  (stripped.require (fun s => s.toList.length ≤ maxLength) "string_too_long").require
    (fun s => minLength ≤ s.toList.length) "string_too_short"

/-- A validated text is trimmed and within its bounds. -/
theorem str_eq_valid {lax : Lax} {minLength maxLength : Nat} {value : Data} {s : String}
    (h : str lax minLength maxLength value = .valid s) :
    Trimmed s ∧ minLength ≤ s.toList.length ∧ s.toList.length ≤ maxLength := by
  obtain ⟨hmax, hmin⟩ := require_eq_valid.1 h
  obtain ⟨hstripped, hmax⟩ := require_eq_valid.1 hmax
  obtain ⟨text, -, heq⟩ := andThen_eq_valid.1 hstripped
  cases heq
  exact ⟨trimmed_trim text, of_decide_eq_true hmin, of_decide_eq_true hmax⟩

/-- `Field(pattern=...)`. -/
def pattern (accepts : String → Bool) (x : Checked String) : Checked String :=
  x.require accepts "string_pattern_mismatch"

/-- `Literal[...]`. -/
def literal {α : Type} (words : List (String × α)) : Data → Checked α
  | .scalar (.str s) =>
    match words.find? fun word => word.1 = s with
    | some word => .valid word.2
    | none => issue "literal_error"
  | _ => issue "literal_error"

/-- `T | None`. -/
def optional {α : Type} (validate : Data → Checked α) : Data → Checked (Option α)
  | .scalar .null => .valid none
  | value => some <$> validate value

/-- The items of a list, each validated at its index. -/
def items {α : Type} (validate : Data → Checked α) : Nat → List Data → Checked (List α)
  | _, [] => .valid []
  | i, value :: values =>
    List.cons <$> (validate value).under (toString i) <*> items validate (i + 1) values

/-- `list[T]` with its bounds. -/
def list {α : Type} (lax : Lax) (minLength maxLength : Nat) (validate : Data → Checked α)
    (value : Data) : Checked (List α) :=
  let values : Checked (List Data) :=
    match value with
    | .list values => .valid values
    | value => converted (lax.list value)
  ((values.require (fun vs => vs.length ≤ maxLength) "too_long").andThen
    (items validate 0)).require (fun vs => minLength ≤ vs.length) "too_short"

theorem length_of_items {α : Type} {validate : Data → Checked α} {i : Nat} {values : List Data}
    {as : List α} (h : items validate i values = .valid as) : as.length = values.length := by
  induction values generalizing i as with
  | nil => cases h; rfl
  | cons value values ih =>
    obtain ⟨a, rest, -, hrest, rfl⟩ := map_seq_eq_valid.1 h
    rw [List.length_cons, List.length_cons, ih hrest]

/-- A validated list is within its bounds. -/
theorem length_of_list {α : Type} {lax : Lax} {minLength maxLength : Nat}
    {validate : Data → Checked α} {value : Data} {as : List α}
    (h : list lax minLength maxLength validate value = .valid as) :
    minLength ≤ as.length ∧ as.length ≤ maxLength := by
  obtain ⟨hitems, hmin⟩ := require_eq_valid.1 h
  obtain ⟨values, hvalues, hitems⟩ := andThen_eq_valid.1 hitems
  obtain ⟨-, hmax⟩ := require_eq_valid.1 hvalues
  refine ⟨of_decide_eq_true hmin, ?_⟩
  rw [length_of_items hitems]
  exact of_decide_eq_true hmax

/-! ## Models -/

/-- A key as a part of a location. -/
def keyText : Scalar → String
  | .null => "None"
  | .bool b => if b then "True" else "False"
  | .int i => toString i
  | .str s => s
  | .other repr => repr

/-- The pairs of `dict[str, T]`. -/
def dictPairs {κ α : Type} (key : Data → Checked κ) (validate : Data → Checked α) :
    List (Scalar × Data) → Checked (List (κ × α))
  | [] => .valid []
  | (k, value) :: pairs =>
    let pair := Prod.mk <$> ((key (.scalar k)).under "[key]").under (keyText k) <*>
      (validate value).under (keyText k)
    List.cons <$> pair <*> dictPairs key validate pairs

/-- `dict[K, T]`; validated keys may have become the same. -/
def dict {κ ν α : Type} [DecidableEq ν] (text : κ → ν) (key : Data → Checked κ)
    (validate : Data → Checked α) : Data → Checked (List (κ × α))
  | .dict pairs => (dictPairs key validate pairs).andThen fun pairs => .valid (dictOf text pairs)
  | _ => issue "dict_type"

/-- Every value of a validated dictionary has been validated. -/
theorem validated_of_dict {κ ν α : Type} [DecidableEq ν] {text : κ → ν} {key : Data → Checked κ}
    {validate : Data → Checked α} {value : Data} {pairs : List (κ × α)}
    (h : dict text key validate value = .valid pairs) {pair : κ × α} (hpair : pair ∈ pairs) :
    ∃ value', validate value' = .valid pair.2 := by
  have hall : ∀ {items : List (Scalar × Data)} {pairs : List (κ × α)},
      dictPairs key validate items = .valid pairs →
        ∀ pair ∈ pairs, ∃ value', validate value' = .valid pair.2 := by
    intro items
    induction items with
    | nil =>
      intro pairs hpairs pair hpair
      cases hpairs
      exact absurd hpair List.not_mem_nil
    | cons item items ih =>
      intro pairs hpairs pair hpair
      obtain ⟨first, rest, hfirst, hrest, heq⟩ := map_seq_eq_valid.1 hpairs
      obtain ⟨k, a, -, ha, rfl⟩ := map_seq_eq_valid.1 hfirst
      rw [← heq] at hpair
      rcases List.mem_cons.1 hpair with rfl | hpair
      · exact ⟨item.2, under_eq_valid.1 ha⟩
      · exact ih hrest pair hpair
  cases value with
  | dict items =>
    obtain ⟨pairs', hpairs', heq⟩ := andThen_eq_valid.1 h
    cases heq
    obtain ⟨-, k, hmem⟩ := mem_dictOf hpair
    exact hall hpairs' (k, pair.2) hmem
  | _ => cases h

/-- The value of a key. -/
def lookup (name : String) (pairs : List (Scalar × Data)) : Option Data :=
  (pairs.find? fun pair => pair.1 = .str name).map (·.2)

/-- A required field. -/
def field {α : Type} (name : String) (validate : Data → Checked α) (pairs : List (Scalar × Data)) :
    Checked α :=
  match lookup name pairs with
  | some value => (validate value).under name
  | none => .invalid [⟨[name], "missing"⟩]

theorem field_eq_valid {α : Type} {name : String} {validate : Data → Checked α}
    {pairs : List (Scalar × Data)} {a : α} :
    field name validate pairs = .valid a ↔
      ∃ value, lookup name pairs = some value ∧ validate value = .valid a := by
  unfold field
  split
  · next value hvalue => simp [hvalue, under_eq_valid]
  · next hnone => simp [hnone]

theorem all_field {α : Type} {name : String} {validate : Data → Checked α}
    {pairs : List (Scalar × Data)} {P : Issue → Prop} (hmissing : P ⟨[name], "missing"⟩)
    (h : ∀ value, (validate value).All fun i => P ⟨name :: i.loc, i.kind⟩) :
    (field name validate pairs).All P := by
  unfold field
  split
  · exact (h _).under
  · intro i hi
    rw [List.mem_singleton.1 hi]
    exact hmissing

/-- A field that is `None` by default. -/
def fieldOrNone {α : Type} (name : String) (validate : Data → Checked (Option α))
    (pairs : List (Scalar × Data)) : Checked (Option α) :=
  match lookup name pairs with
  | some value => (validate value).under name
  | none => .valid none

/-- `extra="forbid"`. -/
def forbidExtra (names : List String) (pairs : List (Scalar × Data)) : Checked Unit :=
  let issues := pairs.filterMap fun pair =>
    match pair.1 with
    | .str name => if name ∈ names then none else some ⟨[name], "extra_forbidden"⟩
    | key => some ⟨[keyText key], "invalid_key"⟩
  if issues = [] then .valid () else .invalid issues

/-- A model with its fields, by name. -/
def model {α : Type} (names : List String) (fields : List (Scalar × Data) → Checked α) :
    Data → Checked α
  | .dict pairs => Function.const Unit <$> fields pairs <*> forbidExtra names pairs
  | _ => issue "model_type"

theorem model_eq_valid {α : Type} {names : List String} {fields : List (Scalar × Data) → Checked α}
    {value : Data} {a : α} (h : model names fields value = .valid a) :
    ∃ pairs, value = .dict pairs ∧ fields pairs = .valid a := by
  cases value with
  | dict pairs =>
    obtain ⟨_, _, hfields, -, rfl⟩ := map_seq_eq_valid.1 h
    exact ⟨pairs, rfl, hfields⟩
  | _ => cases h

/-- A union of models, told apart by a field. -/
def taggedUnion {α : Type} (discriminator : String) (models : List (String × (Data → Checked α))) :
    Data → Checked α
  | .dict pairs =>
    match lookup discriminator pairs with
    | none => issue "union_tag_not_found"
    | some (.scalar (.str tag)) =>
      match models.find? fun m => m.1 = tag with
      | some m => (m.2 (.dict pairs)).under tag
      | none => issue "union_tag_invalid"
    | some _ => issue "union_tag_invalid"
  | _ => issue "model_attributes_type"

end Python.Pydantic
