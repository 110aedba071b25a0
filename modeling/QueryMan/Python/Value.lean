import Mathlib.Data.List.Basic
import Mathlib.Data.Finset.Basic

/-!
# Nested Python values

The values a serialised syntax tree is made of: scalars, and mappings, tuples and lists nested to
any depth. `Value.get?` is `mapping.get`, `Value.truthy` the truth value, `Value.text` the text that
`str` gives. A position in a value is a path of keys and indices (`Value.at?`), and every recursion
over a value is bounded by its `Value.height`.
-/

namespace Python

/-- The characters of `str.isspace`. -/
def isSpace (c : Char) : Bool :=
  c.toNat ∈ [0x09, 0x0a, 0x0b, 0x0c, 0x0d, 0x1c, 0x1d, 0x1e, 0x1f, 0x20, 0x85, 0xa0, 0x1680,
    0x2000, 0x2001, 0x2002, 0x2003, 0x2004, 0x2005, 0x2006, 0x2007, 0x2008, 0x2009, 0x200a,
    0x2028, 0x2029, 0x202f, 0x205f, 0x3000]

/-- `s.endswith(suffix)`. -/
def endsWith (s suffix : String) : Bool :=
  decide (suffix.toList <:+ s.toList)

/-- A value of a serialised syntax tree. -/
inductive Value where
  | none
  | bool (b : Bool)
  | int (i : Int)
  | str (s : String)
  | map (fields : List (String × Value))
  | tuple (items : List Value)
  | list (items : List Value)
  deriving Repr

namespace Value

/-- `isinstance(value, Mapping)`. -/
def isMapping : Value → Bool
  | map _ => true
  | _ => false

/-- `isinstance(value, (tuple, list))`. -/
def isSequence : Value → Bool
  | tuple _ | list _ => true
  | _ => false

/-- `mapping.items()`. -/
def fields : Value → List (String × Value)
  | map fs => fs
  | _ => []

/-- The members of a tuple or a list. -/
def items : Value → List Value
  | tuple xs | list xs => xs
  | _ => []

/-- `mapping[key]`, when the key is there. -/
def get? (v : Value) (k : String) : Option Value :=
  v.fields.lookup k

/-- `mapping.get(key)`: `None` when the key is absent. -/
def get (v : Value) (k : String) : Value :=
  (v.get? k).getD none

/-- `mapping.get(key, default)`. -/
def getD (v : Value) (k : String) (default : Value) : Value :=
  (v.get? k).getD default

/-- `value == s`, for a text `s`. -/
def isStr (s : String) : Value → Bool
  | str t => t == s
  | _ => false

/-- `value is None`. -/
def isNone : Value → Bool
  | none => true
  | _ => false

/-- The truth value of an object. -/
def truthy : Value → Bool
  | none => false
  | bool b => b
  | int i => i != 0
  | str s => s != ""
  | map fs => !fs.isEmpty
  | tuple xs | list xs => !xs.isEmpty

/-- `str(value)`. The text of a container is cut down to its brackets: what a reader of the text
may use is that it starts and ends with one, so that it is no identifier. -/
def text : Value → String
  | none => "None"
  | bool true => "True"
  | bool false => "False"
  | int i => toString i
  | str s => s
  | map _ => "{}"
  | tuple _ => "()"
  | list _ => "[]"

/-! ## Height -/

mutual

/-- The number of values on the longest chain of containers, the leaf included. -/
def height : Value → Nat
  | none | bool _ | int _ | str _ => 1
  | map fs => heightFields fs + 1
  | tuple xs | list xs => heightItems xs + 1

/-- The greatest height of a field. -/
def heightFields : List (String × Value) → Nat
  | [] => 0
  | (_, v) :: rest => max v.height (heightFields rest)

/-- The greatest height of a member. -/
def heightItems : List Value → Nat
  | [] => 0
  | v :: rest => max v.height (heightItems rest)

end

theorem height_pos (v : Value) : 0 < v.height := by
  cases v <;> simp [height]

theorem height_le_heightFields {fs : List (String × Value)} {p : String × Value} (h : p ∈ fs) :
    p.2.height ≤ heightFields fs := by
  induction fs with
  | nil => cases h
  | cons q rest ih =>
    rw [heightFields]
    rcases List.mem_cons.1 h with rfl | h
    · exact le_max_left _ _
    · exact (ih h).trans (le_max_right _ _)

theorem height_le_heightItems {xs : List Value} {v : Value} (h : v ∈ xs) :
    v.height ≤ heightItems xs := by
  induction xs with
  | nil => cases h
  | cons q rest ih =>
    rw [heightItems]
    rcases List.mem_cons.1 h with rfl | h
    · exact le_max_left _ _
    · exact (ih h).trans (le_max_right _ _)

/-- A field is lower than its mapping. -/
theorem height_lt_of_mem_fields {v : Value} {p : String × Value} (h : p ∈ v.fields) :
    p.2.height < v.height := by
  cases v with
  | map fs => exact Nat.lt_succ_of_le (height_le_heightFields h)
  | none | bool | int | str | tuple | list => cases h

/-- A member is lower than its tuple or list. -/
theorem height_lt_of_mem_items {v w : Value} (h : w ∈ v.items) : w.height < v.height := by
  cases v with
  | tuple xs | list xs => exact Nat.lt_succ_of_le (height_le_heightItems h)
  | none | bool | int | str | map => cases h

theorem mem_fields_of_get? {v w : Value} {k : String} (h : v.get? k = some w) :
    (k, w) ∈ v.fields := by
  obtain ⟨l₁, l₂, heq, -⟩ := List.lookup_eq_some_iff.1 h
  rw [heq]
  exact List.mem_append_right _ List.mem_cons_self

/-! ## Nesting -/

/-- The second value is the first one, or lies below it at any depth. -/
inductive Within : Value → Value → Prop where
  | refl (v : Value) : Within v v
  | field {v w u : Value} {k : String} (hmem : (k, w) ∈ v.fields) (h : Within w u) : Within v u
  | item {v w u : Value} (hmem : w ∈ v.items) (h : Within w u) : Within v u

theorem Within.trans {v w u : Value} (h : Within v w) (h' : Within w u) : Within v u := by
  induction h with
  | refl => exact h'
  | field hmem _ ih => exact .field hmem (ih h')
  | item hmem _ ih => exact .item hmem (ih h')

theorem height_lt_of_get? {v w : Value} {k : String} (h : v.get? k = some w) :
    w.height < v.height :=
  height_lt_of_mem_fields (mem_fields_of_get? h)

/-! ## Paths -/

/-- One step down from a value. -/
inductive Step where
  | key (k : String)
  | index (i : Nat)
  deriving DecidableEq, Repr

/-- A position below a value. -/
abbrev Path := List Step

/-- The value one step below. -/
def child? (v : Value) : Step → Option Value
  | .key k => v.get? k
  | .index i => v.items[i]?

/-- The value at a position. -/
def at? (v : Value) : Path → Option Value
  | [] => some v
  | step :: rest => (v.child? step).bind fun w => w.at? rest

@[simp] theorem at?_nil (v : Value) : v.at? [] = some v := rfl

theorem at?_cons (v : Value) (step : Step) (rest : Path) :
    v.at? (step :: rest) = (v.child? step).bind fun w => w.at? rest := rfl

/-- A position below a first step lies in the value that the step leads to. -/
theorem at?_cons_eq_some {v w : Value} {step : Step} {rest : Path} :
    v.at? (step :: rest) = some w ↔ ∃ c, v.child? step = some c ∧ c.at? rest = some w := by
  rw [at?_cons, Option.bind_eq_some_iff]

/-- A position can be reached in two stages. -/
theorem at?_append (v : Value) (p q : Path) :
    v.at? (p ++ q) = (v.at? p).bind fun w => w.at? q := by
  induction p generalizing v with
  | nil => rfl
  | cons step p ih =>
    rw [List.cons_append, at?_cons, at?_cons, Option.bind_assoc]
    exact congrArg _ (funext ih)

theorem at?_append_of_eq {v w : Value} {p : Path} (h : v.at? p = some w) (q : Path) :
    v.at? (p ++ q) = w.at? q := by
  rw [at?_append, h, Option.bind_some]

/-- What is at a position lies in the value. -/
theorem within_of_at? {v w : Value} {p : Path} (h : v.at? p = some w) : v.Within w := by
  induction p generalizing v with
  | nil =>
    cases h
    exact .refl _
  | cons step p ih =>
    obtain ⟨c, hc, hw⟩ := at?_cons_eq_some.1 h
    cases step with
    | key k => exact .field (mem_fields_of_get? hc) (ih hw)
    | index i => exact .item (List.mem_of_getElem? hc) (ih hw)

/-- The mapping's keys are distinct, as those of a `dict` are. -/
def KeysNodup (v : Value) : Prop :=
  (v.fields.map Prod.fst).Nodup

/-- With distinct keys every field is the one its key finds. -/
theorem get?_of_mem_fields {v w : Value} {k : String} (hv : v.KeysNodup)
    (hmem : (k, w) ∈ v.fields) : v.get? k = some w := by
  unfold KeysNodup at hv
  unfold get?
  revert hv hmem
  generalize v.fields = fs
  intro hv hmem
  induction fs with
  | nil => cases hmem
  | cons field rest ih =>
    rw [List.map_cons, List.nodup_cons] at hv
    rcases List.mem_cons.1 hmem with rfl | hmem
    · exact List.lookup_cons_self
    · have hne : k ≠ field.1 := by
        rintro rfl
        exact hv.1 (List.mem_map.2 ⟨_, hmem, rfl⟩)
      rw [List.lookup_cons, beq_eq_false_iff_ne.2 hne]
      exact ih hv.2 hmem

end Value

end Python
