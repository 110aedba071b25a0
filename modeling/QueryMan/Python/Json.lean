import Mathlib.Data.List.Induction
import Mathlib.Data.List.Sort
import Mathlib.Data.String.Basic

/-!
# Compact JSON

`json.dumps(value, ensure_ascii=False, separators=(",", ":"))` for values without floats. The text
determines the value (`dumps_injective`): each text ends where its value ends, unless it is a number
that a digit follows. The size of an array in UTF-8 is the sum of what its members take, the
brackets and the separators (`size_array_concat`).
-/

namespace Python

/-- A value that `json.dumps` writes. -/
inductive Json where
  | null
  | bool (b : Bool)
  | int (i : Int)
  | str (s : String)
  | array (items : List Json)
  | object (fields : List (String × Json))
  deriving Repr

namespace Json

/-! ## The text -/

/-- What the encoder writes for a character of a string. -/
def escapeChar (c : Char) : List Char :=
  if c = '"' then ['\\', '"']
  else if c = '\\' then ['\\', '\\']
  else if c = '\n' then ['\\', 'n']
  else if c = '\r' then ['\\', 'r']
  else if c = '\t' then ['\\', 't']
  else if c = '\x0c' then ['\\', 'f']
  else if c = '\x08' then ['\\', 'b']
  else if c.toNat < 0x20 then
    ['\\', 'u', '0', '0', Nat.digitChar (c.toNat / 16), Nat.digitChar (c.toNat % 16)]
  else [c]

/-- A string between its quotes. -/
def quote (s : String) : List Char :=
  '"' :: (s.toList.flatMap escapeChar ++ ['"'])

/-- The digits of an integer. -/
def intChars : Int → List Char
  | .ofNat n => Nat.toDigits 10 n
  | .negSucc n => '-' :: Nat.toDigits 10 (n + 1)

mutual

/-- The characters of a value. -/
def chars : Json → List Char
  | null => ['n', 'u', 'l', 'l']
  | bool true => ['t', 'r', 'u', 'e']
  | bool false => ['f', 'a', 'l', 's', 'e']
  | int i => intChars i
  | str s => quote s
  | array [] => ['[', ']']
  | array (v :: items) => '[' :: (v.chars ++ (tailChars items ++ [']']))
  | object [] => ['\x7b', '\x7d']
  | object ((k, v) :: fields) =>
    '\x7b' :: (quote k ++ ':' :: (v.chars ++ (fieldChars fields ++ ['\x7d'])))

/-- The further members of an array. -/
def tailChars : List Json → List Char
  | [] => []
  | v :: items => ',' :: (v.chars ++ tailChars items)

/-- The further fields of an object. -/
def fieldChars : List (String × Json) → List Char
  | [] => []
  | (k, v) :: fields => ',' :: (quote k ++ ':' :: (v.chars ++ fieldChars fields))

end

/-- `json.dumps(value, ensure_ascii=False, separators=(",", ":"))`. -/
def dumps (v : Json) : String :=
  String.ofList v.chars

/-! ## Strings and numbers end by themselves -/

/-- The value of a hexadecimal digit in lower case. -/
def hexValue (c : Char) : Nat :=
  if c.toNat ≤ '9'.toNat then c.toNat - '0'.toNat else c.toNat - 'a'.toNat + 10

/-- The character that a text of a string starts with, and the rest of the text. -/
def unescape : List Char → Option (Char × List Char)
  | '\\' :: 'u' :: '0' :: '0' :: h :: l :: rest =>
    some (Char.ofNat (16 * hexValue h + hexValue l), rest)
  | '\\' :: 'n' :: rest => some ('\n', rest)
  | '\\' :: 'r' :: rest => some ('\r', rest)
  | '\\' :: 't' :: rest => some ('\t', rest)
  | '\\' :: 'f' :: rest => some ('\x0c', rest)
  | '\\' :: 'b' :: rest => some ('\x08', rest)
  | '\\' :: c :: rest => some (c, rest)
  | c :: rest => some (c, rest)
  | [] => none

theorem hexValue_digitChar : ∀ n < 16, hexValue (Nat.digitChar n) = n := by
  decide

theorem unescape_escapeChar (c : Char) (rest : List Char) :
    unescape (escapeChar c ++ rest) = some (c, rest) := by
  unfold escapeChar
  split
  · next h => rw [h]; rfl
  split
  · next h => rw [h]; rfl
  split
  · next h => rw [h]; rfl
  split
  · next h => rw [h]; rfl
  split
  · next h => rw [h]; rfl
  split
  · next h => rw [h]; rfl
  split
  · next h => rw [h]; rfl
  split
  · next hcontrol =>
    have hvalue : 16 * hexValue (Nat.digitChar (c.toNat / 16)) +
        hexValue (Nat.digitChar (c.toNat % 16)) = c.toNat := by
      rw [hexValue_digitChar _ (by omega), hexValue_digitChar _ (by omega)]
      omega
    change some (Char.ofNat _, rest) = some (c, rest)
    rw [hvalue, Char.ofNat_toNat]
  · next hbackslash _ _ _ _ _ _ =>
    rw [List.singleton_append]
    unfold unescape
    split <;> simp_all

/-- No escape starts with the quote that ends a string. -/
theorem escapeChar_ne_quote (c : Char) (s t : List Char) : escapeChar c ++ s ≠ '"' :: t := by
  intro h
  have hc : some (c, s) = some ('"', t) := by
    rw [← unescape_escapeChar c s, h]
    rfl
  cases hc
  cases h

theorem escape_inj {xs ys s t : List Char}
    (h : xs.flatMap escapeChar ++ '"' :: s = ys.flatMap escapeChar ++ '"' :: t) :
    xs = ys ∧ s = t := by
  induction xs generalizing ys with
  | nil =>
    cases ys with
    | nil => exact ⟨rfl, List.tail_eq_of_cons_eq h⟩
    | cons y ys =>
      rw [List.flatMap_cons, List.append_assoc] at h
      exact absurd h.symm (escapeChar_ne_quote y _ _)
  | cons x xs ih =>
    cases ys with
    | nil =>
      rw [List.flatMap_cons, List.append_assoc] at h
      exact absurd h (escapeChar_ne_quote x _ _)
    | cons y ys =>
      rw [List.flatMap_cons, List.flatMap_cons, List.append_assoc, List.append_assoc] at h
      have hread := congrArg unescape h
      rw [unescape_escapeChar, unescape_escapeChar] at hread
      obtain ⟨rfl, hrest⟩ := Prod.mk.inj (Option.some.inj hread)
      obtain ⟨rfl, hst⟩ := ih hrest
      exact ⟨rfl, hst⟩

/-- A quoted string ends at its closing quote. -/
theorem quote_inj {a b : String} {s t : List Char} (h : quote a ++ s = quote b ++ t) :
    a = b ∧ s = t := by
  have hbody :
      a.toList.flatMap escapeChar ++ '"' :: s = b.toList.flatMap escapeChar ++ '"' :: t := by
    simpa [quote] using h
  obtain ⟨hab, hst⟩ := escape_inj hbody
  exact ⟨String.toList_inj.1 hab, hst⟩

/-- What follows a value in a text: no digit, which would continue a number. -/
def Ends (s : List Char) : Prop :=
  ∀ c ∈ s.head?, c.isDigit = false

theorem ends_nil : Ends [] := by
  intro c h
  cases h

theorem ends_cons {c : Char} {s : List Char} (h : c.isDigit = false) : Ends (c :: s) := by
  intro d hd
  cases hd
  exact h

/-- Digits end where the text goes on without one. -/
theorem digits_inj {m n : Nat} {s t : List Char} (hs : Ends s) (ht : Ends t)
    (h : Nat.toDigits 10 m ++ s = Nat.toDigits 10 n ++ t) : m = n ∧ s = t := by
  have hsplit : ∀ (k : Nat) {u : List Char}, Ends u →
      (Nat.toDigits 10 k ++ u).takeWhile Char.isDigit = Nat.toDigits 10 k := by
    intro k u hu
    rw [List.takeWhile_append_of_pos fun c hc =>
      Nat.isDigit_of_mem_toDigits (by decide) (by decide) hc]
    cases u with
    | nil => rw [List.takeWhile_nil, List.append_nil]
    | cons c u => rw [List.takeWhile_cons_of_neg (by rw [hu c rfl]; decide), List.append_nil]
  have hdigits : Nat.toDigits 10 m = Nat.toDigits 10 n := by
    rw [← hsplit m hs, h, hsplit n ht]
  refine ⟨?_, List.append_cancel_left (hdigits ▸ h)⟩
  rw [← Nat.ofDigitChars_ten_toDigits (n := m), hdigits, Nat.ofDigitChars_ten_toDigits]

/-- The first character of a natural number is a digit. -/
theorem toDigits_head (n : Nat) : ∃ c rest, Nat.toDigits 10 n = c :: rest ∧ c.isDigit = true := by
  cases hdigits : Nat.toDigits 10 n with
  | nil => exact absurd hdigits Nat.toDigits_ne_nil
  | cons c rest =>
    refine ⟨c, rest, rfl, Nat.isDigit_of_mem_toDigits (b := 10) (n := n) (by decide) (by decide) ?_⟩
    rw [hdigits]
    exact List.mem_cons_self

theorem intChars_inj {i j : Int} {s t : List Char} (hs : Ends s) (ht : Ends t)
    (h : intChars i ++ s = intChars j ++ t) : i = j ∧ s = t := by
  cases i with
  | ofNat m =>
    cases j with
    | ofNat n =>
      obtain ⟨rfl, hst⟩ := digits_inj hs ht h
      exact ⟨rfl, hst⟩
    | negSucc n =>
      obtain ⟨c, rest, hdigits, hc⟩ := toDigits_head m
      rw [intChars, intChars, hdigits] at h
      obtain rfl : c = '-' := (List.cons.inj h).1
      cases hc
  | negSucc m =>
    cases j with
    | ofNat n =>
      obtain ⟨c, rest, hdigits, hc⟩ := toDigits_head n
      rw [intChars, intChars, hdigits] at h
      obtain rfl : '-' = c := (List.cons.inj h).1
      cases hc
    | negSucc n =>
      obtain ⟨hmn, hst⟩ := digits_inj hs ht (List.tail_eq_of_cons_eq h)
      obtain rfl := Nat.succ.inj hmn
      exact ⟨rfl, hst⟩

/-! ## The text determines the value -/

/-- The kind of a value. -/
def kind : Json → Nat
  | null => 0
  | bool _ => 1
  | int _ => 2
  | str _ => 3
  | array _ => 4
  | object _ => 5

/-- The kind of the values whose text starts with a character. -/
def kindOf (c : Char) : Nat :=
  if c = 'n' then 0
  else if c = 't' ∨ c = 'f' then 1
  else if c = '"' then 3
  else if c = '[' then 4
  else if c = '\x7b' then 5
  else if c.isDigit ∨ c = '-' then 2
  else 6

theorem kindOf_digit {c : Char} (h : c.isDigit = true) : kindOf c = 2 := by
  unfold kindOf
  split_ifs with h₁ h₂ h₃ h₄ h₅ h₆
  · rw [h₁] at h; cases h
  · rcases h₂ with h₂ | h₂ <;> rw [h₂] at h <;> cases h
  · rw [h₃] at h; cases h
  · rw [h₄] at h; cases h
  · rw [h₅] at h; cases h
  · rfl
  · exact absurd (.inl h) h₆

/-- The first character of a text tells the kind of the value. -/
theorem kind_of_chars (v : Json) : ∃ c rest, v.chars = c :: rest ∧ kindOf c = v.kind := by
  cases v with
  | null => exact ⟨_, _, rfl, rfl⟩
  | bool b => cases b <;> exact ⟨_, _, rfl, rfl⟩
  | int i =>
    cases i with
    | ofNat n =>
      obtain ⟨c, rest, hdigits, hc⟩ := toDigits_head n
      exact ⟨c, rest, hdigits, kindOf_digit hc⟩
    | negSucc n => exact ⟨_, _, rfl, rfl⟩
  | str s => exact ⟨_, _, rfl, rfl⟩
  | array items => cases items <;> exact ⟨_, _, rfl, rfl⟩
  | object fields =>
    cases fields with
    | nil => exact ⟨_, _, rfl, rfl⟩
    | cons field fields => exact ⟨_, _, rfl, rfl⟩

theorem kind_eq {a b : Json} {s t : List Char} (h : a.chars ++ s = b.chars ++ t) :
    a.kind = b.kind := by
  obtain ⟨c, rest, ha, hc⟩ := kind_of_chars a
  obtain ⟨d, rest', hb, hd⟩ := kind_of_chars b
  rw [ha, hb] at h
  rw [← hc, ← hd, (List.cons.inj h).1]

/-- No value starts with the bracket that closes an array. -/
theorem chars_ne_bracket (v : Json) (s t : List Char) : v.chars ++ s ≠ ']' :: t := by
  obtain ⟨c, rest, hv, hc⟩ := kind_of_chars v
  intro h
  rw [hv] at h
  obtain rfl : c = ']' := (List.cons.inj h).1
  cases v <;> cases hc

theorem ends_tailChars (items : List Json) (s : List Char) :
    Ends (tailChars items ++ ']' :: s) := by
  cases items <;> exact ends_cons rfl

theorem ends_fieldChars (fields : List (String × Json)) (s : List Char) :
    Ends (fieldChars fields ++ '\x7d' :: s) := by
  cases fields <;> exact ends_cons rfl

mutual

/-- A text ends where its value ends. -/
theorem chars_inj {a b : Json} {s t : List Char} (hs : Ends s) (ht : Ends t)
    (h : a.chars ++ s = b.chars ++ t) : a = b ∧ s = t := by
  have hkind := kind_eq h
  match a, b with
  | .null, .null => exact ⟨rfl, List.append_cancel_left h⟩
  | .bool x, .bool y =>
    cases x <;> cases y
    · exact ⟨rfl, List.append_cancel_left h⟩
    · cases h
    · cases h
    · exact ⟨rfl, List.append_cancel_left h⟩
  | .int i, .int j =>
    obtain ⟨rfl, hst⟩ := intChars_inj hs ht h
    exact ⟨rfl, hst⟩
  | .str x, .str y =>
    obtain ⟨rfl, hst⟩ := quote_inj h
    exact ⟨rfl, hst⟩
  | .array [], .array [] => exact ⟨rfl, List.append_cancel_left h⟩
  | .array [], .array (w :: ys) =>
    have h' : ']' :: s = w.chars ++ (tailChars ys ++ ']' :: t) := by
      simpa [chars] using h
    exact absurd h'.symm (chars_ne_bracket w _ _)
  | .array (v :: xs), .array [] =>
    have h' : v.chars ++ (tailChars xs ++ ']' :: s) = ']' :: t := by
      simpa [chars] using h
    exact absurd h' (chars_ne_bracket v _ _)
  | .array (v :: xs), .array (w :: ys) =>
    have h' : v.chars ++ (tailChars xs ++ ']' :: s) = w.chars ++ (tailChars ys ++ ']' :: t) := by
      simpa [chars] using h
    obtain ⟨rfl, htail⟩ := chars_inj (ends_tailChars xs s) (ends_tailChars ys t) h'
    obtain ⟨rfl, hst⟩ := tailChars_inj htail
    exact ⟨rfl, hst⟩
  | .object [], .object [] => exact ⟨rfl, List.append_cancel_left h⟩
  | .object [], .object ((l, w) :: ys) => cases h
  | .object ((k, v) :: xs), .object [] => cases h
  | .object ((k, v) :: xs), .object ((l, w) :: ys) =>
    have h' : quote k ++ (':' :: (v.chars ++ (fieldChars xs ++ '\x7d' :: s))) =
        quote l ++ (':' :: (w.chars ++ (fieldChars ys ++ '\x7d' :: t))) := by
      simpa [chars] using h
    obtain ⟨rfl, hvalue⟩ := quote_inj h'
    obtain ⟨rfl, htail⟩ := chars_inj (ends_fieldChars xs s) (ends_fieldChars ys t)
      (List.tail_eq_of_cons_eq hvalue)
    obtain ⟨rfl, hst⟩ := fieldChars_inj htail
    exact ⟨rfl, hst⟩

theorem tailChars_inj {xs ys : List Json} {s t : List Char}
    (h : tailChars xs ++ ']' :: s = tailChars ys ++ ']' :: t) : xs = ys ∧ s = t := by
  match xs, ys with
  | [], [] => exact ⟨rfl, List.tail_eq_of_cons_eq h⟩
  | [], w :: ys => cases h
  | v :: xs, [] => cases h
  | v :: xs, w :: ys =>
    have h' : v.chars ++ (tailChars xs ++ ']' :: s) = w.chars ++ (tailChars ys ++ ']' :: t) := by
      simpa [tailChars] using h
    obtain ⟨rfl, htail⟩ := chars_inj (ends_tailChars xs s) (ends_tailChars ys t) h'
    obtain ⟨rfl, hst⟩ := tailChars_inj htail
    exact ⟨rfl, hst⟩

theorem fieldChars_inj {xs ys : List (String × Json)} {s t : List Char}
    (h : fieldChars xs ++ '\x7d' :: s = fieldChars ys ++ '\x7d' :: t) : xs = ys ∧ s = t := by
  match xs, ys with
  | [], [] => exact ⟨rfl, List.tail_eq_of_cons_eq h⟩
  | [], (l, w) :: ys => cases h
  | (k, v) :: xs, [] => cases h
  | (k, v) :: xs, (l, w) :: ys =>
    have h' : quote k ++ (':' :: (v.chars ++ (fieldChars xs ++ '\x7d' :: s))) =
        quote l ++ (':' :: (w.chars ++ (fieldChars ys ++ '\x7d' :: t))) := by
      simpa [fieldChars] using h
    obtain ⟨rfl, hvalue⟩ := quote_inj h'
    obtain ⟨rfl, htail⟩ := chars_inj (ends_fieldChars xs s) (ends_fieldChars ys t)
      (List.tail_eq_of_cons_eq hvalue)
    obtain ⟨rfl, hst⟩ := fieldChars_inj htail
    exact ⟨rfl, hst⟩

end

/-- **A JSON text determines its value.** -/
theorem dumps_injective : Function.Injective dumps := by
  intro a b h
  have hchars : a.chars ++ [] = b.chars ++ [] := congrArg (· ++ []) (String.ofList_injective h)
  exact (chars_inj ends_nil ends_nil hchars).1

/-! ## The size of an array -/

/-- `len(json.dumps(value).encode())`. -/
def size (v : Json) : Nat :=
  v.dumps.utf8ByteSize

/-- The members of an array with their separators, without the brackets. -/
def itemChars : List Json → List Char
  | [] => []
  | v :: items => v.chars ++ tailChars items

theorem chars_array (items : List Json) :
    (array items).chars = '[' :: (itemChars items ++ [']']) := by
  cases items with
  | nil => rfl
  | cons v items => rw [chars, itemChars, List.append_assoc]

theorem tailChars_concat (items : List Json) (v : Json) :
    tailChars (items ++ [v]) = tailChars items ++ ',' :: v.chars := by
  induction items with
  | nil => simp [tailChars]
  | cons w items ih => simp [tailChars, ih]

theorem itemChars_concat (items : List Json) (v : Json) :
    itemChars (items ++ [v]) =
      itemChars items ++ ((if items.isEmpty then [] else [',']) ++ v.chars) := by
  cases items with
  | nil => simp [itemChars, tailChars]
  | cons w items => simp [itemChars, tailChars_concat]

theorem utf8ByteSize_ofList_cons (c : Char) (cs : List Char) :
    (String.ofList (c :: cs)).utf8ByteSize = c.utf8Size + (String.ofList cs).utf8ByteSize := by
  rw [← List.singleton_append, String.ofList_append, String.utf8ByteSize_append,
    ← String.singleton_eq_ofList, String.utf8ByteSize_singleton]

/-- One more member takes its own bytes, and a separator if it is not the first. -/
theorem size_array_concat (items : List Json) (v : Json) :
    (array (items ++ [v])).size =
      (array items).size + (if items.isEmpty then 0 else 1) + v.size := by
  have hsize : ∀ xs, (array xs).size = (String.ofList (itemChars xs)).utf8ByteSize + 2 := by
    intro xs
    rw [size, dumps, chars_array, utf8ByteSize_ofList_cons, String.ofList_append,
      String.utf8ByteSize_append]
    change 1 + (_ + 1) = _
    omega
  rw [hsize, hsize, itemChars_concat, String.ofList_append, String.utf8ByteSize_append,
    String.ofList_append, String.utf8ByteSize_append]
  change _ + (_ + v.size) + 2 = _
  split
  · change _ + (0 + v.size) + 2 = _
    omega
  · change _ + (1 + v.size) + 2 = _
    omega

/-! ## The size of an object -/

/-- Fields with the same keys and values of the same sizes. -/
theorem fieldChars_size {fields fields' : List (String × Json)}
    (h : List.Forall₂ (fun f g => f.1 = g.1 ∧ f.2.size = g.2.size) fields fields') :
    (String.ofList (fieldChars fields)).utf8ByteSize =
      (String.ofList (fieldChars fields')).utf8ByteSize := by
  induction h with
  | nil => rfl
  | @cons f g fields fields' hfield _ ih =>
    obtain ⟨k, v⟩ := f
    obtain ⟨k', w⟩ := g
    obtain ⟨rfl, hsize⟩ : k = k' ∧ v.size = w.size := hfield
    rw [size, size, dumps, dumps] at hsize
    rw [fieldChars, fieldChars]
    simp only [utf8ByteSize_ofList_cons, String.ofList_append,
      String.utf8ByteSize_append, hsize, ih]

/-- The size of an object depends on its keys and on the sizes of its values alone. -/
theorem size_object_congr {fields fields' : List (String × Json)}
    (h : List.Forall₂ (fun f g => f.1 = g.1 ∧ f.2.size = g.2.size) fields fields') :
    (object fields).size = (object fields').size := by
  cases h with
  | nil => rfl
  | @cons f g fields fields' hfield hrest =>
    have htail := fieldChars_size hrest
    obtain ⟨k, v⟩ := f
    obtain ⟨k', w⟩ := g
    obtain ⟨rfl, hsize⟩ : k = k' ∧ v.size = w.size := hfield
    rw [size, size, dumps, dumps] at hsize
    rw [size, size, dumps, dumps, chars, chars]
    simp only [utf8ByteSize_ofList_cons, String.ofList_append, String.utf8ByteSize_append, hsize,
      htail]

/-! ## Bounds of a size -/

/-- A character takes six bytes at most, as an escape of its code point. -/
theorem escapeChar_size_le (c : Char) : (String.ofList (escapeChar c)).utf8ByteSize ≤ 6 := by
  have hsize : c.utf8Size ≤ 4 := c.utf8Size_le_four
  have hdigit : ∀ n < 16, (Nat.digitChar n).utf8Size = 1 := by decide
  unfold escapeChar
  repeat' split
  all_goals simp only [utf8ByteSize_ofList_cons, String.ofList_nil, String.utf8ByteSize_empty]
  · decide
  · decide
  · decide
  · decide
  · decide
  · decide
  · decide
  · next hcontrol =>
    rw [hdigit _ (by omega), hdigit _ (by omega)]
    decide
  · omega

/-- The size of a string. -/
theorem size_str_le (s : String) : (str s).size ≤ 6 * s.length + 2 := by
  have hescaped : ∀ cs : List Char,
      (String.ofList (cs.flatMap escapeChar)).utf8ByteSize ≤ 6 * cs.length := by
    intro cs
    induction cs with
    | nil => exact Nat.le_refl 0
    | cons c cs ih =>
      have hc := escapeChar_size_le c
      rw [List.flatMap_cons, String.ofList_append, String.utf8ByteSize_append, List.length_cons]
      omega
  have hs := hescaped s.toList
  rw [String.length_toList] at hs
  rw [size, dumps, chars, quote, utf8ByteSize_ofList_cons, String.ofList_append,
    String.utf8ByteSize_append]
  change 1 + (_ + 1) ≤ _
  omega

/-- The size of an array whose members have a bounded size. -/
theorem size_array_le {items : List Json} {n : Nat} (h : ∀ v ∈ items, v.size ≤ n) :
    (array items).size ≤ (n + 1) * items.length + 2 := by
  induction items using List.reverseRecOn with
  | nil => exact Nat.le_refl 2
  | append_singleton items v ih =>
    have hitems := ih fun w hw => h w (List.mem_append_left _ hw)
    have hv := h v (List.mem_append_right _ List.mem_cons_self)
    rw [size_array_concat, List.length_append, List.length_singleton, Nat.mul_succ]
    split <;> omega

/-- The fields of an object, each behind a comma, take less than the object. -/
theorem fieldChars_size_le (fields : List (String × Json)) :
    (String.ofList (fieldChars fields)).utf8ByteSize ≤ (object fields).size := by
  cases fields with
  | nil => exact Nat.zero_le _
  | cons f fields =>
    obtain ⟨k, v⟩ := f
    rw [size, dumps, fieldChars, chars]
    simp only [utf8ByteSize_ofList_cons, String.ofList_append, String.utf8ByteSize_append]
    change 1 + _ ≤ 1 + (_ + (_ + (_ + (_ + 1))))
    omega

/-- One more field of an object. -/
theorem size_object_cons_le (k : String) (v : Json) (fields : List (String × Json)) :
    (object ((k, v) :: fields)).size ≤ 6 * k.length + v.size + 5 + (object fields).size := by
  have hk := size_str_le k
  have hfields := fieldChars_size_le fields
  rw [size, dumps, chars] at hk
  rw [size, dumps, chars, size, dumps]
  simp only [utf8ByteSize_ofList_cons, String.ofList_append, String.utf8ByteSize_append]
  change 1 + (_ + (1 + (_ + (_ + 1)))) ≤ _
  omega

/-- The size of an object whose keys and values have a bounded size. -/
theorem size_object_le {fields : List (String × Json)} {m n : Nat}
    (h : ∀ f ∈ fields, f.1.length ≤ m ∧ f.2.size ≤ n) :
    (object fields).size ≤ (6 * m + n + 5) * fields.length + 2 := by
  induction fields with
  | nil => exact Nat.le_refl 2
  | cons f fields ih =>
    have hfields := ih fun g hg => h g (List.mem_cons_of_mem _ hg)
    obtain ⟨hkey, hvalue⟩ := h f List.mem_cons_self
    have hcons : (object (f :: fields)).size ≤ 6 * f.1.length + f.2.size + 5 +
        (object fields).size := size_object_cons_le f.1 f.2 fields
    rw [List.length_cons, Nat.mul_succ]
    omega

end Json

end Python
