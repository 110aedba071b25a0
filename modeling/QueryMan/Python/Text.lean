import QueryMan.Python.Value

/-!
# Texts and paths

`str.strip`, `str.split` at one character, and `PurePosixPath`, which is a root and the segments
below it. A path that was split and joined again is the path itself.
-/

namespace Python

/-- `s.strip()`. -/
def strip (s : String) : String :=
  String.ofList ((s.toList.dropWhile isSpace).reverse.dropWhile isSpace).reverse

/-- `s.split(separator)`. -/
def split (separator : Char) (s : String) : List String :=
  (s.toList.splitOn separator).map String.ofList

/-- `separator.join(parts)`. -/
def joinWith (separator : Char) (parts : List String) : String :=
  String.ofList ([separator].intercalate (parts.map String.toList))

theorem joinWith_split (separator : Char) (s : String) :
    joinWith separator (split separator s) = s := by
  have hchars : (split separator s).map String.toList = s.toList.splitOn separator := by
    rw [split, List.map_map]
    exact (List.map_congr_left fun cs _ => String.toList_ofList).trans (List.map_id _)
  rw [joinWith, hchars, List.intercalate_splitOn, String.ofList_toList]

theorem split_joinWith {separator : Char} {parts : List String} (hne : parts ≠ [])
    (h : ∀ part ∈ parts, separator ∉ part.toList) :
    split separator (joinWith separator parts) = parts := by
  have hchars : ∀ cs ∈ parts.map String.toList, separator ∉ cs := by
    intro cs hcs
    obtain ⟨part, hpart, rfl⟩ := List.mem_map.1 hcs
    exact h part hpart
  rw [split, joinWith, String.toList_ofList,
    List.splitOn_intercalate separator hchars (by simpa using hne), List.map_map]
  exact (List.map_congr_left fun part _ => String.ofList_toList).trans (List.map_id _)

/-- A part contains no separator. -/
theorem notMem_of_mem_split {separator : Char} {s part : String} (h : part ∈ split separator s) :
    separator ∉ part.toList := by
  have hchars : ∀ cs : List Char, ∀ part ∈ cs.splitOn separator, separator ∉ part := by
    intro cs
    induction cs with
    | nil =>
      intro part hpart
      rw [List.splitOn_nil, List.mem_singleton] at hpart
      rw [hpart]
      exact List.not_mem_nil
    | cons c cs ih =>
      intro part hpart
      rw [List.splitOn_cons_eq_if_modifyHead] at hpart
      split at hpart
      · rcases List.mem_cons.1 hpart with rfl | hpart
        · exact List.not_mem_nil
        · exact ih part hpart
      · next hne =>
        obtain ⟨first, rest, hcs⟩ := List.exists_cons_of_ne_nil (List.splitOn_ne_nil separator cs)
        rw [hcs, List.modifyHead_cons] at hpart
        rcases List.mem_cons.1 hpart with rfl | hpart
        · rw [List.mem_cons, not_or]
          refine ⟨fun heq => hne (by simp [heq]), ih first ?_⟩
          rw [hcs]
          exact List.mem_cons_self
        · refine ih part ?_
          rw [hcs]
          exact List.mem_cons_of_mem _ hpart
  obtain ⟨cs, hcs, rfl⟩ := List.mem_map.1 h
  rw [String.toList_ofList]
  exact hchars s.toList cs hcs

/-! ## Paths -/

/-- A segment that stays where it is: it is neither empty nor `.`, and contains no slash. -/
def IsSegment (segment : String) : Prop :=
  segment ≠ "" ∧ segment ≠ "." ∧ '/' ∉ segment.toList

/-- A `PurePosixPath`, normalised as it is built: no empty segment and no `.` is kept. -/
structure PurePosixPath where
  root : String
  tail : List String
  isRoot : root ∈ ["", "/", "//"]
  isSegment : ∀ segment ∈ tail, IsSegment segment
  deriving DecidableEq, Repr

namespace PurePosixPath

/-- `posixpath.splitroot`: exactly two slashes are a root of their own. -/
def splitRoot (text : String) : String × String :=
  match text.toList with
  | '/' :: '/' :: '/' :: rest => ("/", String.ofList ('/' :: '/' :: rest))
  | '/' :: '/' :: rest => ("//", String.ofList rest)
  | '/' :: rest => ("/", String.ofList rest)
  | _ => ("", text)

theorem splitRoot_isRoot (text : String) : (splitRoot text).1 ∈ ["", "/", "//"] := by
  unfold splitRoot
  split
  all_goals simp

/-- The segments of a text. -/
def segments (text : String) : List String :=
  (split '/' text).filter fun segment => segment ≠ "" ∧ segment ≠ "."

theorem isSegment_of_mem_segments {text segment : String} (h : segment ∈ segments text) :
    IsSegment segment := by
  obtain ⟨hmem, hkept⟩ := List.mem_filter.1 h
  obtain ⟨hempty, hdot⟩ := of_decide_eq_true hkept
  exact ⟨hempty, hdot, notMem_of_mem_split hmem⟩

/-- Segments that are joined are read back. -/
theorem segments_joinWith {parts : List String} (hne : parts ≠ [])
    (h : ∀ part ∈ parts, IsSegment part) : segments (joinWith '/' parts) = parts := by
  rw [segments, split_joinWith hne fun part hmem => (h part hmem).2.2,
    List.filter_eq_self.2 fun part hmem => ?_]
  obtain ⟨hempty, hdot, -⟩ := h part hmem
  exact decide_eq_true ⟨hempty, hdot⟩

/-- `PurePosixPath(text)`. -/
def ofText (text : String) : PurePosixPath where
  root := (splitRoot text).1
  tail := segments (splitRoot text).2
  isRoot := splitRoot_isRoot text
  isSegment _ := isSegment_of_mem_segments

/-- `str(path)`. -/
def text (path : PurePosixPath) : String :=
  if path.root = "" ∧ path.tail = [] then "." else path.root ++ joinWith '/' path.tail

/-- `path.is_absolute()`. -/
def isAbsolute (path : PurePosixPath) : Bool :=
  path.root ≠ ""

/-- The segments of one path below another. -/
def append (path other : PurePosixPath) : PurePosixPath where
  root := path.root
  tail := path.tail ++ other.tail
  isRoot := path.isRoot
  isSegment segment hmem :=
    (List.mem_append.1 hmem).elim (path.isSegment segment) (other.isSegment segment)

/-- `path / segment`: an absolute one stands alone. -/
def join (path : PurePosixPath) (segment : String) : PurePosixPath :=
  if (ofText segment).isAbsolute then ofText segment else path.append (ofText segment)

/-- `path.parts`. -/
def parts (path : PurePosixPath) : List String :=
  if path.root = "" then path.tail else path.root :: path.tail

/-- `PurePosixPath(*segments)`, of segments that do not start with a slash. -/
def ofSegments (segments : List String) : PurePosixPath :=
  ofText (joinWith '/' segments)

/-- Segments have no root. -/
theorem splitRoot_joinWith {parts : List String} (hne : parts ≠ [])
    (h : ∀ part ∈ parts, IsSegment part) :
    splitRoot (joinWith '/' parts) = ("", joinWith '/' parts) := by
  obtain ⟨first, rest, rfl⟩ := List.exists_cons_of_ne_nil hne
  obtain ⟨hempty, -, hslash⟩ := h first List.mem_cons_self
  have hchars : (joinWith '/' (first :: rest)).toList.head? = first.toList.head? := by
    rw [joinWith, String.toList_ofList]
    cases rest with
    | nil => simp [List.intercalate]
    | cons second rest => cases hfirst : first.toList with
      | nil => exact absurd (String.toList_eq_nil_iff.1 hfirst) hempty
      | cons c cs => simp [List.intercalate, hfirst]
  unfold splitRoot
  split
  all_goals first
    | rfl
    | next heq =>
      rw [heq, List.head?_cons] at hchars
      exact absurd (List.mem_of_mem_head? hchars.symm) hslash

/-- Segments are the tail of the path that they are joined to. -/
theorem ofSegments_root {parts : List String} (hne : parts ≠ [])
    (h : ∀ part ∈ parts, IsSegment part) : (ofSegments parts).root = "" :=
  congrArg Prod.fst (splitRoot_joinWith hne h)

theorem ofSegments_tail {parts : List String} (hne : parts ≠ [])
    (h : ∀ part ∈ parts, IsSegment part) : (ofSegments parts).tail = parts := by
  change segments (splitRoot (joinWith '/' parts)).2 = parts
  rw [splitRoot_joinWith hne h, segments_joinWith hne h]

/-- A segment below a path. -/
theorem join_tail {path : PurePosixPath} {segment : String} (h : IsSegment segment) :
    (path.join segment).tail = path.tail ++ [segment] := by
  have hsegments : ∀ part ∈ [segment], IsSegment part := List.forall_mem_singleton.2 h
  have htext : joinWith '/' [segment] = segment := by
    simp [joinWith, List.intercalate]
  have hroot := ofSegments_root (List.cons_ne_nil segment []) hsegments
  have htail := ofSegments_tail (List.cons_ne_nil segment []) hsegments
  rw [ofSegments, htext] at hroot htail
  rw [join, if_neg (by simp [isAbsolute, hroot])]
  exact congrArg (path.tail ++ ·) htail

/-- A segment among the parts of a path is one of its tail. -/
theorem exists_drop_tail {path : PurePosixPath} {segment : String} {index : Nat}
    (hsegment : IsSegment segment) (h : path.parts[index]? = some segment) :
    ∃ k, path.tail[k]? = some segment ∧ path.parts.drop index = path.tail.drop k := by
  unfold parts at h ⊢
  split
  · next hroot =>
    rw [if_pos hroot] at h
    exact ⟨index, h, rfl⟩
  · next hroot =>
    rw [if_neg hroot] at h
    cases index with
    | zero =>
      -- the root is no segment
      rw [List.getElem?_cons_zero, Option.some_inj] at h
      have hslash : '/' ∈ path.root.toList := by
        have hmem := path.isRoot
        rw [List.mem_cons, List.mem_cons, List.mem_singleton] at hmem
        rcases hmem with hmem | hmem | hmem
        · exact absurd hmem hroot
        · rw [hmem]; decide
        · rw [hmem]; decide
      exact absurd (h ▸ hslash) hsegment.2.2
    | succ k => exact ⟨k, h, rfl⟩

end PurePosixPath

end Python
