import Mathlib.Data.List.TakeWhile
import QueryMan.Metadata.Catalog
import QueryMan.Python.Digits

/-!
# The contract marker of a view

The language that `_parse_view_comment` accepts. A comment is a marker line and a description: the
marker names a source by its slug and a contract by a positive number in decimal, and both are read
back from it (`parseViewComment_grammar`).
-/

namespace QueryMan

open Python

/-! ## Slugs and versions -/

/-- Words of lower-case letters and digits with one hyphen between them. -/
def StableSlug (slug : List Char) : Prop :=
  ∃ words : List (List Char), words ≠ [] ∧
    (∀ word ∈ words, word ≠ [] ∧ ∀ c ∈ word, isSlugChar c = true) ∧ slug = ['-'].intercalate words

/-- `[a-z0-9]+(?:-[a-z0-9]+)*` matches the slugs. -/
theorem isSlug_iff {slug : List Char} : isSlug slug = true ↔ StableSlug slug := by
  have hword : ∀ word : List Char, (word != [] && word.all isSlugChar) = true ↔
      word ≠ [] ∧ ∀ c ∈ word, isSlugChar c = true := by
    intro word
    rw [Bool.and_eq_true, bne_iff_ne, List.all_eq_true]
  rw [isSlug, List.all_eq_true]
  constructor
  · intro h
    exact ⟨slug.splitOn '-', List.splitOn_ne_nil _ _, fun word hmem => (hword word).1 (h word hmem),
      (List.intercalate_splitOn '-').symm⟩
  · rintro ⟨words, hne, hwords, rfl⟩ word hmem
    have hhyphen : ∀ word ∈ words, '-' ∉ word := fun word hmem hmem' =>
      absurd ((hwords word hmem).2 '-' hmem') (by decide)
    rw [List.splitOn_intercalate '-' hhyphen hne] at hmem
    exact (hword word).2 (hwords word hmem)

/-- The characters of a slug. -/
theorem StableSlug.mem {slug : List Char} (h : StableSlug slug) {c : Char} (hc : c ∈ slug) :
    c = '-' ∨ isSlugChar c = true := by
  obtain ⟨words, -, hwords, rfl⟩ := h
  induction words with
  | nil => exact absurd hc List.not_mem_nil
  | cons word words ih =>
    have hword : c ∈ word → isSlugChar c = true := (hwords word List.mem_cons_self).2 c
    cases words with
    | nil =>
      rw [List.intercalate_singleton] at hc
      exact .inr (hword hc)
    | cons word' words =>
      rw [List.intercalate_cons_cons, List.mem_append, List.mem_append, List.mem_singleton] at hc
      rcases hc with (hc | hc) | hc
      · exact .inr (hword hc)
      · exact .inl hc
      · exact ih (fun word' hmem => hwords word' (List.mem_cons_of_mem _ hmem)) hc

/-- `[1-9][0-9]*` matches the positive numbers, and `int` reads them. -/
theorem isVersion_iff {digits : List Char} {version : Nat} :
    isVersion digits = true ∧ decimal digits = version ↔
      1 ≤ version ∧ digits = Nat.toDigits 10 version := by
  have hall : ∀ rest : List Char, (rest.all fun d => '0' ≤ d && d ≤ '9') = true ↔
      ∀ c ∈ rest, c.isDigit = true := fun rest => List.all_eq_true
  constructor
  · rintro ⟨hversion, rfl⟩
    cases digits with
    | nil => cases hversion
    | cons c rest =>
      rw [isVersion, Bool.and_eq_true, Bool.and_eq_true, decide_eq_true_iff, decide_eq_true_iff,
        hall] at hversion
      obtain ⟨⟨hone, hnine⟩, hrest⟩ := hversion
      have hc : c.isDigit = true := Bool.and_eq_true_iff.2
        ⟨decide_eq_true (Nat.le_trans (by decide) hone), decide_eq_true hnine⟩
      obtain ⟨hpos, hdigits⟩ := toDigits_ofDigitChars hc (by rintro rfl; revert hone; decide) hrest
      exact ⟨hpos, hdigits.symm⟩
  · rintro ⟨hpos, rfl⟩
    refine ⟨?_, Nat.ofDigitChars_ten_toDigits⟩
    obtain ⟨c, rest, hdigits, hc, hzero, hrest⟩ := toDigits_of_pos hpos
    rw [hdigits, isVersion, Bool.and_eq_true, Bool.and_eq_true, decide_eq_true_iff,
      decide_eq_true_iff, hall]
    obtain ⟨hlow, hhigh⟩ := Bool.and_eq_true_iff.1 hc
    refine ⟨⟨?_, of_decide_eq_true hhigh⟩, hrest⟩
    have hne : c.toNat ≠ 48 := fun h => hzero (Char.toNat_inj.1 h)
    exact Nat.lt_of_le_of_ne (of_decide_eq_true hlow) (Ne.symm hne)

/-! ## The marker -/

/-- The marker line of a contract. -/
def markerLine (slug : String) (version : Nat) : List Char :=
  "query-man:source=".toList ++ slug.toList ++ ";view-contract=".toList ++ Nat.toDigits 10 version

theorem markerLine_eq (slug : String) (version : Nat) :
    markerLine slug version = "query-man:source=".toList ++
      (slug.toList ++ (";view-contract=".toList ++ Nat.toDigits 10 version)) := by
  unfold markerLine
  simp only [List.append_assoc]

theorem dropPrefix?_eq_some {start cs rest : List Char} :
    dropPrefix? start cs = some rest ↔ cs = start ++ rest := by
  unfold dropPrefix?
  split
  · next h =>
    obtain ⟨rest', rfl⟩ := List.isPrefixOf_iff_prefix.1 h
    rw [List.drop_left, Option.some_inj]
    exact ⟨fun h => congrArg _ h, List.append_cancel_left⟩
  · next h =>
    refine iff_of_false (fun h => by cases h) fun heq => h ?_
    exact List.isPrefixOf_iff_prefix.2 ⟨rest, heq.symm⟩

/-- The marker is matched on its own line and on no other. -/
theorem matchMarker_eq_some {line : List Char} {slug : String} {version : Nat} :
    matchMarker line = some (slug, version) ↔
      StableSlug slug.toList ∧ 1 ≤ version ∧ line = markerLine slug version := by
  constructor
  · intro h
    obtain ⟨rest, hrest, h⟩ := Option.bind_eq_some_iff.1 h
    obtain ⟨digits, hdigits, h⟩ := Option.bind_eq_some_iff.1 h
    rw [dropPrefix?_eq_some] at hrest hdigits
    split at h
    · next hmatch =>
      obtain ⟨rfl, rfl⟩ := Prod.mk.inj (Option.some.inj h)
      obtain ⟨hpos, hversion⟩ := isVersion_iff.1 ⟨hmatch.2, rfl⟩
      have hslug : (String.ofList (rest.takeWhile (· ≠ ';'))).toList = rest.takeWhile (· ≠ ';') :=
        String.toList_ofList
      refine ⟨by rw [hslug]; exact isSlug_iff.1 hmatch.1, hpos, ?_⟩
      rw [markerLine_eq, hslug, ← hversion, hrest, ← hdigits, List.takeWhile_append_dropWhile]
    · cases h
  · rintro ⟨hslug, hpos, rfl⟩
    have hsemicolon : ∀ c ∈ slug.toList, decide (c ≠ ';') = true := by
      rintro c hc
      refine decide_eq_true ?_
      rintro rfl
      exact absurd (hslug.mem hc) (by decide)
    have hdigits : isVersion (Nat.toDigits 10 version) = true ∧
        decimal (Nat.toDigits 10 version) = version := isVersion_iff.2 ⟨hpos, rfl⟩
    have hliteral : ";view-contract=".toList = ';' :: "view-contract=".toList := rfl
    have hprefix : dropPrefix? "query-man:source=".toList (markerLine slug version) =
        some (slug.toList ++ (";view-contract=".toList ++ Nat.toDigits 10 version)) :=
      dropPrefix?_eq_some.2 (markerLine_eq slug version)
    have htake : (slug.toList ++ (";view-contract=".toList ++ Nat.toDigits 10 version)).takeWhile
        (· ≠ ';') = slug.toList := by
      rw [List.takeWhile_append_of_pos hsemicolon, hliteral, List.cons_append,
        List.takeWhile_cons_of_neg (by decide), List.append_nil]
    have hdrop : (slug.toList ++ (";view-contract=".toList ++ Nat.toDigits 10 version)).dropWhile
        (· ≠ ';') = ";view-contract=".toList ++ Nat.toDigits 10 version := by
      rw [List.dropWhile_append_of_pos hsemicolon, hliteral, List.cons_append,
        List.dropWhile_cons_of_neg (by decide)]
    rw [matchMarker, hprefix, Option.bind_eq_bind, Option.bind_some, htake, hdrop,
      dropPrefix?_eq_some.2 rfl]
    dsimp only [Option.bind_some]
    rw [if_pos ⟨isSlug_iff.2 hslug, hdigits.1⟩, hdigits.2, String.ofList_toList]

/-! ## The comment -/

/-- The first line of a text and what follows its newline. -/
def SplitsAt (text line description : List Char) : Prop :=
  '\n' ∉ line ∧ text = line ++ '\n' :: description

/-- A marker has no line break. -/
theorem lineBreak_notMem_markerLine {slug : String} {version : Nat}
    (hslug : StableSlug slug.toList) :
    '\n' ∉ markerLine slug version ∧ '\r' ∉ markerLine slug version := by
  have hliteral : ∀ text : List Char, (text.all fun c => c != '\n' && c != '\r') = true →
      ∀ c ∈ text, c ≠ '\n' ∧ c ≠ '\r' := by
    intro text hall c hc
    have hboth := List.all_eq_true.1 hall c hc
    rwa [Bool.and_eq_true, bne_iff_ne, bne_iff_ne] at hboth
  have hbreak : ∀ c ∈ markerLine slug version, c ≠ '\n' ∧ c ≠ '\r' := by
    intro c hc
    rw [markerLine_eq] at hc
    rcases List.mem_append.1 hc with hc | hc
    · exact hliteral _ (by decide +kernel) c hc
    rcases List.mem_append.1 hc with hc | hc
    · have hslugChar := hslug.mem hc
      refine ⟨?_, ?_⟩ <;> (rintro rfl; exact absurd hslugChar (by decide))
    rcases List.mem_append.1 hc with hc | hc
    · exact hliteral _ (by decide +kernel) c hc
    · have hdigit := Nat.isDigit_of_mem_toDigits (by decide) (by decide) hc
      refine ⟨?_, ?_⟩ <;> (rintro rfl; cases hdigit)
  exact ⟨fun hmem => (hbreak _ hmem).1 rfl, fun hmem => (hbreak _ hmem).2 rfl⟩

/-- A line is a marker, with one carriage return or without. -/
theorem dropCarriageReturn_eq {line marker : List Char} (h : '\r' ∉ marker) :
    dropCarriageReturn line = marker ↔ line = marker ∨ line = marker ++ ['\r'] := by
  unfold dropCarriageReturn
  constructor
  · intro hline
    split at hline
    · next hlast =>
      right
      rw [← hline]
      exact (List.dropLast_append_getLast? _ hlast).symm
    · exact .inl hline
  · rintro (rfl | rfl)
    · rw [if_neg fun hlast => h (List.mem_of_getLast? hlast)]
    · rw [if_pos List.getLast?_concat, List.dropLast_concat]

/-- What the parser accepts, and what it returns. -/
theorem parseViewComment_eq_ok {comment : String}
    {contract : Option String × Option Nat × Option String} :
    parseViewComment (some comment) = .ok contract ↔
      ∃ slug version human line description, contract = (some slug, some version, some human) ∧
        SplitsAt comment.toList line description ∧
        (line = markerLine slug version ∨ line = markerLine slug version ++ ['\r']) ∧
        StableSlug slug.toList ∧ 1 ≤ version ∧
        sanitizeComment (some (String.ofList description)) = some human := by
  have hother : ∀ {line : List Char}, '\n' ∉ line → ∀ c ∈ line, decide (c ≠ '\n') = true :=
    fun hnewline c hc => decide_eq_true fun h => hnewline (h ▸ hc)
  constructor
  · intro h
    unfold parseViewComment at h
    dsimp only at h
    split at h
    · cases h
    · next slug version hmatch =>
      split at h
      · cases h
      · next human hhuman =>
        cases h
        obtain ⟨hslug, hpos, hline⟩ := matchMarker_eq_some.1 hmatch
        refine ⟨slug, version, human, _, _, rfl, ⟨?_, ?_⟩, (dropCarriageReturn_eq
          (lineBreak_notMem_markerLine hslug).2).1 hline, hslug, hpos, hhuman⟩
        · intro hmem
          have hnot := List.mem_takeWhile_imp hmem
          exact absurd hnot (by decide)
        · cases hrest : comment.toList.dropWhile (· ≠ '\n') with
          | nil =>
            rw [hrest] at hhuman
            cases hhuman
          | cons c rest =>
            have hfirst := List.head?_dropWhile_not (fun c => decide (c ≠ '\n')) comment.toList
            rw [hrest] at hfirst
            obtain rfl : c = '\n' := not_not.1 (of_decide_eq_false hfirst)
            rw [List.tail_cons, ← hrest, List.takeWhile_append_dropWhile]
  · rintro ⟨slug, version, human, line, description, rfl, ⟨hnewline, htext⟩, hline, hslug, hpos,
      hhuman⟩
    have htake : comment.toList.takeWhile (· ≠ '\n') = line := by
      rw [htext, List.takeWhile_append_of_pos (hother hnewline),
        List.takeWhile_cons_of_neg (by decide),
        List.append_nil]
    have hdrop : (comment.toList.dropWhile (· ≠ '\n')).tail = description := by
      rw [htext, List.dropWhile_append_of_pos (hother hnewline),
        List.dropWhile_cons_of_neg (by decide),
        List.tail_cons]
    have hmatch : matchMarker (dropCarriageReturn line) = some (slug, version) :=
      matchMarker_eq_some.2 ⟨hslug, hpos, (dropCarriageReturn_eq
        (lineBreak_notMem_markerLine hslug).2).2 hline⟩
    unfold parseViewComment
    dsimp only
    rw [htake, hdrop, hmatch, hhuman]
    rfl

/-- Two contracts do not share a marker. -/
theorem markerLine_inj {slug slug' : String} {version version' : Nat}
    (hslug : StableSlug slug.toList) (hslug' : StableSlug slug'.toList)
    (hpos : 1 ≤ version) (hpos' : 1 ≤ version')
    (h : markerLine slug version = markerLine slug' version') :
    slug = slug' ∧ version = version' := by
  have hmatch := matchMarker_eq_some.2 ⟨hslug, hpos, rfl⟩
  rw [h, matchMarker_eq_some.2 ⟨hslug', hpos', rfl⟩] at hmatch
  cases hmatch
  exact ⟨rfl, rfl⟩

/-- **The parser accepts exactly its grammar.** A comment is accepted exactly if the text before its
first newline, less one carriage return, is the marker of a slug and a positive number, and the text
behind it is not blank once sanitised; the slug, the number and the sanitised text are returned.
Every marker with a description, behind a newline or CR LF, is read back, and two contracts do not
share a marker. -/
theorem parseViewComment_grammar :
    (∀ (comment : String) (contract : Option String × Option Nat × Option String),
      parseViewComment (some comment) = .ok contract ↔
        ∃ slug version human line description, contract = (some slug, some version, some human) ∧
          SplitsAt comment.toList line description ∧
          (line = markerLine slug version ∨ line = markerLine slug version ++ ['\r']) ∧
          StableSlug slug.toList ∧ 1 ≤ version ∧
          sanitizeComment (some (String.ofList description)) = some human) ∧
    (∀ (slug : String) (version : Nat) (description human : String), StableSlug slug.toList →
      1 ≤ version → sanitizeComment (some description) = some human →
      ∀ newline ∈ [['\n'], ['\r', '\n']],
        parseViewComment (some (String.ofList
          (markerLine slug version ++ newline ++ description.toList))) =
          .ok (some slug, some version, some human)) ∧
    ∀ (slug slug' : String) (version version' : Nat), StableSlug slug.toList →
      StableSlug slug'.toList → 1 ≤ version → 1 ≤ version' →
      markerLine slug version = markerLine slug' version' → slug = slug' ∧ version = version' := by
  refine ⟨fun _ _ => parseViewComment_eq_ok, ?_, fun _ _ _ _ => markerLine_inj⟩
  intro slug version description human hslug hpos hhuman newline hnewline
  obtain ⟨hlf, hcr⟩ := @lineBreak_notMem_markerLine slug version hslug
  rw [← String.ofList_toList (s := description)] at hhuman
  rw [parseViewComment_eq_ok]
  simp only [List.mem_cons, List.not_mem_nil, or_false] at hnewline
  rcases hnewline with rfl | rfl
  · refine ⟨slug, version, human, markerLine slug version,
      description.toList, rfl, ⟨hlf, ?_⟩, .inl rfl,
      hslug, hpos, hhuman⟩
    rw [String.toList_ofList, List.append_assoc, List.singleton_append]
  · refine ⟨slug, version, human, markerLine slug version ++ ['\r'], description.toList, rfl,
      ⟨fun hmem => ?_, ?_⟩, .inr rfl, hslug, hpos, hhuman⟩
    · rcases List.mem_append.1 hmem with hmem | hmem
      · exact hlf hmem
      · exact absurd hmem (by decide)
    · rw [String.toList_ofList]
      simp only [List.append_assoc, List.cons_append, List.nil_append]

/-- A marker with a carriage return and a description. -/
theorem parseViewComment_grammar_queryCave :
    parseViewComment (some (String.ofList
      (markerLine "query-cave" 12 ++ ['\r', '\n'] ++ " public view\n".toList))) =
      .ok (some "query-cave", some 12, some "public view") :=
  parseViewComment_grammar.2.1 "query-cave" 12 " public view\n" "public view"
    (isSlug_iff.1 (by decide +kernel)) (by decide) (by decide +kernel) ['\r', '\n'] (by decide)

end QueryMan
