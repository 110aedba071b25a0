import QueryMan.Coro.Logic
import QueryMan.GuardedQuery.FaultInjection
import QueryMan.Python.Json
import Mathlib.Data.Seq.Basic

/-!
# Bounded results

What the fetch loop makes of a result, whatever batches the cursor hands out: the longest start of
the encoded rows within both limits (`BoundedResult`). The rows may go on for ever. The loop is
given for any batch size (`fetchLoopBy`), of which the executor's is one case.
-/

namespace QueryMan.PostgresQueryExecutor

open Coro Python
open Stream' (Seq)

/-! ## The row encoder -/

/-- A value of a result row, as far as the encoder looks at it: a `Decimal`, `datetime` or `date` is
what `str` and `isoformat` make of it, and a key that is no `str` is `none`. -/
inductive ResultValue where
  | none
  | bool (b : Bool)
  | int (i : Int)
  | str (s : String)
  | decimal (text : String)
  /-- with an offset, the second text is that of the value in UTC -/
  | datetime (hasOffset : Bool) (isoformat utcIsoformat : String)
  | date (isoformat : String)
  | mapping (items : List (Option String × ResultValue))
  /-- an object of another type -/
  | other

mutual

/-- `encode_result_value`. -/
def encodeResultValue : ResultValue → Except EncodingFailure Json
  | .none => .ok .null
  | .bool b => .ok (.bool b)
  | .int i => .ok (.int i)
  | .str s => .ok (.str s)
  | .decimal text => .ok (.str text)
  | .datetime hasOffset isoformat utcIsoformat =>
    .ok (.str (if hasOffset then utcIsoformat else isoformat))
  | .date isoformat => .ok (.str isoformat)
  | .mapping items =>
    if items.any fun item => item.1.isNone then .error .resultEncodingError
    else do
      let fields ← encodeItems items
      pure (.object fields)
  | .other => .error .resultEncodingError

/-- The items of a mapping. -/
def encodeItems : List (Option String × ResultValue) → Except EncodingFailure (List (String × Json))
  | [] => .ok []
  | (key, value) :: items => do
    let encoded ← encodeResultValue value
    let rest ← encodeItems items
    pure ((key.getD "", encoded) :: rest)

end

/-- The encoded row with the length of its compact JSON text in UTF-8. -/
def encodeRow : RowEncoder ResultValue Json := fun row => do
  let encodedRow ← encodeResultValue row
  pure (encodedRow, encodedRow.size)

/-! ## Batches -/

/-- The loop `while not truncated`, with any number in place of `_RESULT_FETCH_BATCH_ROWS`. -/
def fetchLoopBy {Row Json : Type} (batchRows : Nat) (encodeRow : RowEncoder Row Json)
    (budget : BudgetProfile) : Nat → Fetched Json → Exec Row (Fetched Json)
  | 0, fetched => pure fetched
  | fuel + 1, fetched =>
    if fetched.truncated then pure fetched
    else do
      let batch : List Row ← send (.fetch
        (min batchRows (budget.maxResultRows - fetched.rows.length + 1)))
      if batch.isEmpty then pure fetched
      else do
        let fetched' ← .lift (addBatch encodeRow budget batch fetched)
        fetchLoopBy batchRows encodeRow budget fuel fetched'

theorem fetchLoop_eq {Row Json : Type} (encodeRow : RowEncoder Row Json) (budget : BudgetProfile)
    (fuel : Nat) (fetched : Fetched Json) :
    fetchLoop encodeRow budget fuel fetched =
      fetchLoopBy resultFetchBatchRows encodeRow budget fuel fetched := by
  induction fuel generalizing fetched with
  | zero => rfl
  | succ fuel ih =>
    rw [fetchLoop, fetchLoopBy]
    simp only [ih]

/-- The rows of a result that the cursor has still to hand out, and how many it has handed out. -/
structure Cursor (Row : Type) where
  rest : Seq Row
  received : Nat

/-- A connection whose `DECLARE` opens a cursor over the given rows. `fetchmany(n)` answers with at
most `n` of the next rows, and with none only at their end; about the other operations nothing is
known. -/
def cursorWorld {Row : Type} (rows : Seq Row) : World (Cursor Row) (Ret Row) Exc where
  allowed cursor o r :=
    match o, r with
    | .send (.fetch n), .ok (batch : List Row) =>
      batch.length ≤ n ∧ batch = cursor.rest.take batch.length ∧ (batch = [] → cursor.rest = .nil)
    | .send (.fetch _), .error _ => False
    | _, _ => True
  next cursor o r :=
    match o, r with
    | .send (.declare _), .ok _ => ⟨rows, 0⟩
    | .send (.fetch _), .ok (batch : List Row) =>
      ⟨cursor.rest.drop batch.length, cursor.received + batch.length⟩
    | _, _ => cursor

/-! ## The longest start within the limits -/

/-- The encoded rows are within the limits of the budget. -/
def Fits (budget : BudgetProfile) (rows : List Json) : Prop :=
  rows.length ≤ budget.maxResultRows ∧ (Json.array rows).size ≤ budget.maxResultBytes

instance (budget : BudgetProfile) (rows : List Json) : Decidable (Fits budget rows) :=
  inferInstanceAs (Decidable (_ ∧ _))

/-- What the loop promises about a sequence of encoded rows. -/
structure BoundedResult (budget : BudgetProfile) (encoded : Seq Json) (rows : List Json)
    (resultBytes : Nat) (truncated : Bool) : Prop where
  /-- the rows are the longest start of the sequence that fits -/
  isStart : rows = encoded.take rows.length
  fits : Fits budget rows
  longest : ∀ n, Fits budget (encoded.take n) → (encoded.take n).length ≤ rows.length
  /-- the size is that of their JSON text -/
  size : resultBytes = (Json.array rows).size
  /-- the result is truncated exactly if the sequence goes on -/
  continues : truncated = true ↔ encoded.get? rows.length ≠ none

/-! ### Starts of a sequence -/

section

variable {α : Type} {s : Seq α} {n : Nat} {a : α}

theorem length_take_of_get? (h : s.get? n = some a) : (s.take n).length = n := by
  refine Seq.length_take_of_le_length fun hterminates => ?_
  exact (Seq.lt_length_iff.2 ⟨a, h⟩).le

/-- A start and the next member make the next longer start. -/
theorem take_succ_of_get? (h : s.get? n = some a) : s.take (n + 1) = s.take n ++ [a] := by
  have hlength := length_take_of_get? h
  refine List.ext_getElem? fun i => ?_
  rw [Seq.getElem?_take]
  rcases Nat.lt_trichotomy i n with hlt | rfl | hgt
  · rw [if_pos (by omega), List.getElem?_append_left (by omega), Seq.getElem?_take, if_pos hlt]
  · rw [if_pos (by omega), h, List.getElem?_append_right (by omega), hlength, Nat.sub_self]
    rfl
  · rw [if_neg (by omega), List.getElem?_eq_none]
    rw [List.length_append, hlength, List.length_singleton]
    omega

theorem take_length_take (s : Seq α) (n : Nat) : s.take (s.take n).length = s.take n := by
  refine List.ext_getElem? fun i => ?_
  have hle := Seq.length_take_le (s := s) (n := n)
  rw [Seq.getElem?_take]
  split
  · rw [Seq.getElem?_take, if_pos (by omega)]
  · next hge => rw [List.getElem?_eq_none (not_lt.1 hge)]

/-- A start that is longer than another goes through the member after it. -/
theorem take_eq_append {m : Nat} (hm : n < (s.take m).length) :
    ∃ rest, s.take m = s.take (n + 1) ++ rest := by
  refine ⟨(s.take m).drop (n + 1), ?_⟩
  have hle := Seq.length_take_le (s := s) (n := m)
  have htake : (s.take m).take (n + 1) = s.take (n + 1) := by
    refine List.ext_getElem? fun i => ?_
    rw [List.getElem?_take, Seq.getElem?_take, Seq.getElem?_take]
    split <;> simp_all
    omega
  rw [← htake, List.take_append_drop]

end

/-- More members take more bytes. -/
theorem size_array_le_append (items rest : List Json) :
    (Json.array items).size ≤ (Json.array (items ++ rest)).size := by
  induction rest using List.reverseRecOn with
  | nil => rw [List.append_nil]
  | append_singleton rest v ih =>
    rw [← List.append_assoc, Json.size_array_concat]
    omega

/-! ## What the loop collects -/

section

variable {budget : BudgetProfile} {rows : Seq ResultValue} {encoded : Seq Json}

/-- The rows that are collected so far are a start that fits. -/
structure Collected (budget : BudgetProfile) (encoded : Seq Json) (fetched : Fetched Json) :
    Prop where
  isStart : fetched.rows = encoded.take fetched.rows.length
  fits : Fits budget fetched.rows
  size : fetched.resultBytes = (Json.array fetched.rows).size
  continues : fetched.truncated = false

/-- Where the next row does not fit, the rows are the longest start. -/
theorem Collected.bounded_of_overflow {fetched : Fetched Json} {v : Json}
    (h : Collected budget encoded fetched) (hv : encoded.get? fetched.rows.length = some v)
    (hover : ¬ Fits budget (fetched.rows ++ [v])) :
    BoundedResult budget encoded fetched.rows fetched.resultBytes true := by
  refine ⟨h.isStart, h.fits, fun n hn => ?_, h.size, iff_of_true rfl (by rw [hv]; exact nofun)⟩
  by_contra hlonger
  obtain ⟨rest, hrest⟩ := take_eq_append (not_le.1 hlonger)
  rw [take_succ_of_get? hv, ← h.isStart] at hrest
  rw [hrest] at hn
  refine hover ⟨?_, (size_array_le_append _ rest).trans hn.2⟩
  have hrows := hn.1
  rw [List.length_append] at hrows
  omega

/-- Where the sequence ends, the rows are all of it. -/
theorem Collected.bounded_of_end {fetched : Fetched Json} (h : Collected budget encoded fetched)
    (hend : encoded.get? fetched.rows.length = none) :
    BoundedResult budget encoded fetched.rows fetched.resultBytes false := by
  refine ⟨h.isStart, h.fits, fun n _ => ?_, h.size, iff_of_false nofun (not_not.2 hend)⟩
  by_contra hlonger
  have hsome := List.getElem?_eq_getElem (not_le.1 hlonger)
  rw [Seq.getElem?_take, hend, ite_self] at hsome
  cases hsome

/-- One more row that fits. -/
theorem Collected.concat {fetched : Fetched Json} {v : Json} (h : Collected budget encoded fetched)
    (hv : encoded.get? fetched.rows.length = some v) (hfits : Fits budget (fetched.rows ++ [v])) :
    Collected budget encoded
      { fetched with
        rows := fetched.rows ++ [v]
        resultBytes := fetched.resultBytes +
          (if fetched.rows.isEmpty then 0 else 1) + v.size } := by
  refine ⟨?_, hfits, ?_, h.continues⟩
  · change fetched.rows ++ [v] = encoded.take (fetched.rows ++ [v]).length
    rw [List.length_append, List.length_singleton, take_succ_of_get? hv, ← h.isStart]
  · change fetched.resultBytes + _ + _ = _
    rw [Json.size_array_concat, h.size]

/-- **A batch**: all of its rows are collected, or the result is truncated where it has to be. -/
theorem addBatch_collected {batch : List ResultValue} {fetched : Fetched Json}
    (h : Collected budget encoded fetched)
    (hbatch : ∀ i row, batch[i]? = some row →
      ∃ v, encodeResultValue row = .ok v ∧ encoded.get? (fetched.rows.length + i) = some v) :
    ∃ fetched', addBatch encodeRow budget batch fetched = .ok fetched' ∧
      ((Collected budget encoded fetched' ∧
          fetched'.rows.length = fetched.rows.length + batch.length) ∨
        (fetched'.truncated = true ∧
          BoundedResult budget encoded fetched'.rows fetched'.resultBytes true)) := by
  induction batch generalizing fetched with
  | nil => exact ⟨fetched, rfl, .inl ⟨h, rfl⟩⟩
  | cons row batch ih =>
    obtain ⟨v, hencode, hv⟩ := hbatch 0 row rfl
    rw [Nat.add_zero] at hv
    have hlength : (fetched.rows ++ [v]).length = fetched.rows.length + 1 := List.length_append
    rw [addBatch]
    by_cases hlimit : fetched.rows.length ≥ budget.maxResultRows
    · rw [if_pos hlimit]
      refine ⟨_, rfl, .inr ⟨rfl, h.bounded_of_overflow hv fun hfits => ?_⟩⟩
      have hrows := hfits.1
      omega
    have hrow : encodeRow row = .ok (v, v.size) := by
      rw [encodeRow, hencode]
      rfl
    rw [if_neg hlimit, hrow]
    have hsize := Json.size_array_concat fetched.rows v
    dsimp only
    by_cases hover : fetched.resultBytes + (if fetched.rows.isEmpty then 0 else 1) + v.size >
        budget.maxResultBytes
    · rw [if_pos hover]
      refine ⟨_, rfl, .inr ⟨rfl, h.bounded_of_overflow hv fun hfits => ?_⟩⟩
      have hbytes := hfits.2
      rw [hsize, ← h.size] at hbytes
      omega
    · rw [if_neg hover]
      have hfits : Fits budget (fetched.rows ++ [v]) := by
        refine ⟨by omega, ?_⟩
        rw [hsize, ← h.size]
        omega
      obtain ⟨fetched', hadd, hend⟩ := ih (h.concat hv hfits) fun i next hnext => by
        obtain ⟨w, hw, hget⟩ := hbatch (i + 1) next hnext
        refine ⟨w, hw, ?_⟩
        change encoded.get? ((fetched.rows ++ [v]).length + i) = some w
        rw [hlength, Nat.add_assoc, Nat.add_comm 1 i]
        exact hget
      refine ⟨fetched', hadd, hend.imp_left fun hcollected => ⟨hcollected.1, ?_⟩⟩
      rw [hcollected.2]
      change (fetched.rows ++ [v]).length + batch.length = _
      rw [hlength, List.length_cons]
      omega

/-! ## The loop -/

/-- The rows encode, one by one, as the members of the other sequence. -/
def Encodes (rows : Seq ResultValue) (encoded : Seq Json) : Prop :=
  rows.map encodeResultValue = encoded.map Except.ok

theorem Encodes.get? (h : Encodes rows encoded) (n : Nat) :
    (rows.get? n).map encodeResultValue = (encoded.get? n).map Except.ok := by
  rw [← Seq.map_get?, ← Seq.map_get?, h]

theorem Encodes.of_some (h : Encodes rows encoded) {n : Nat} {row : ResultValue}
    (hrow : rows.get? n = some row) :
    ∃ v, encodeResultValue row = .ok v ∧ encoded.get? n = some v := by
  have hn := h.get? n
  rw [hrow] at hn
  cases hv : encoded.get? n with
  | none =>
    rw [hv] at hn
    cases hn
  | some v =>
    rw [hv] at hn
    exact ⟨v, Option.some.inj hn, rfl⟩

theorem Encodes.of_none (h : Encodes rows encoded) {n : Nat} (hn : rows.get? n = none) :
    encoded.get? n = none := by
  have hmap := h.get? n
  rw [hn] at hmap
  exact Option.map_eq_none_iff.1 hmap.symm

/-- The loop has ended within the promise. -/
def Ended (budget : BudgetProfile) (encoded : Seq Json) (fetched : Fetched Json)
    (cursor : Cursor ResultValue) : Prop :=
  BoundedResult budget encoded fetched.rows fetched.resultBytes fetched.truncated ∧
    cursor.received ≤ budget.maxResultRows + 1

theorem fetchLoopBy_truncated {batchRows fuel : Nat} {fetched : Fetched Json}
    (h : fetched.truncated = true) :
    fetchLoopBy batchRows encodeRow budget fuel fetched = pure fetched := by
  cases fuel with
  | zero => rfl
  | succ fuel => rw [fetchLoopBy, if_pos h]

/-- **The loop from a start on**: every batch is a step from a start that fits to a longer one, to
the end of the sequence, or to the longest start. -/
theorem fetchLoopBy_ended {declared : Seq ResultValue} (hencode : Encodes rows encoded)
    (batchRows : Nat) {fuel : Nat} {fetched : Fetched Json} (h : Collected budget encoded fetched)
    (hfuel : budget.maxResultRows < fuel + fetched.rows.length) :
    Triple (cursorWorld declared)
      (fun cursor => cursor = ⟨rows.drop fetched.rows.length, fetched.rows.length⟩)
      (fetchLoopBy batchRows encodeRow budget fuel fetched) (Ended budget encoded)
      (fun _ _ => False) := by
  induction fuel generalizing fetched with
  | zero =>
    have hrows := h.fits.1
    omega
  | succ fuel ih =>
    rw [fetchLoopBy, if_neg (by rw [h.continues]; exact Bool.false_ne_true)]
    refine Triple.bind (Q := fun (batch : List ResultValue) cursor =>
      ∃ fetched', addBatch encodeRow budget batch fetched = .ok fetched' ∧
        ((batch = [] ∧ Ended budget encoded fetched cursor) ∨
          (batch ≠ [] ∧ fetched'.truncated = true ∧ Ended budget encoded fetched' cursor) ∨
          (batch ≠ [] ∧ Collected budget encoded fetched' ∧
            fetched.rows.length < fetched'.rows.length ∧
            cursor = ⟨rows.drop fetched'.rows.length, fetched'.rows.length⟩))) ?_ ?_
    · refine Triple.perform fun cursor answer hcursor hallowed => ?_
      subst hcursor
      cases answer with
      | error e => exact hallowed
      | ok batch =>
        change List ResultValue at batch
        obtain ⟨hsize, hbatch, hend⟩ := hallowed
        have hnext : ∀ i row, batch[i]? = some row →
            rows.get? (fetched.rows.length + i) = some row := by
          intro i row hrow
          rw [hbatch, Seq.getElem?_take] at hrow
          split at hrow
          · rw [← Seq.drop_get?]
            exact hrow
          · cases hrow
        obtain ⟨fetched', hadd, hcases⟩ := addBatch_collected h fun i row hrow =>
          hencode.of_some (hnext i row hrow)
        have hreceived : fetched.rows.length + batch.length ≤ budget.maxResultRows + 1 := by
          have hrows := h.fits.1
          have hle := hsize.trans (Nat.min_le_right _ _)
          omega
        refine ⟨fetched', hadd, ?_⟩
        cases batch with
        | nil =>
          refine .inl ⟨rfl, ?_, hreceived⟩
          have hnone : rows.get? fetched.rows.length = none := by
            have hzero := congrArg (Seq.get? · 0) (hend rfl)
            simpa [Seq.drop_get?] using hzero
          rw [h.continues]
          exact h.bounded_of_end (hencode.of_none hnone)
        | cons row batch =>
          refine .inr ?_
          rcases hcases with ⟨hcollected, hlength⟩ | ⟨htruncated, hbounded⟩
          · refine .inr ⟨nofun, hcollected, ?_, ?_⟩
            · rw [hlength, List.length_cons]
              omega
            · change Cursor.mk _ _ = _
              rw [hlength, Seq.dropn_add]
          · exact .inl ⟨nofun, htruncated, htruncated ▸ hbounded, hreceived⟩
    · intro batch
      refine Triple.of_forall fun fetched' => Triple.of_fact fun hadd => ?_
      refine Triple.ite (fun hempty => ?_) fun hnonempty => ?_
      · refine Triple.pure.weaken_pre fun cursor hcursor => ?_
        rcases hcursor with ⟨-, hended⟩ | ⟨hne, -⟩ | ⟨hne, -⟩
        · exact hended
        · exact absurd (List.isEmpty_iff.1 hempty) hne
        · exact absurd (List.isEmpty_iff.1 hempty) hne
      · rw [hadd, Prog.lift_ok_bind]
        refine Triple.of_or ?_ (Triple.of_or ?_ ?_)
        · exact Triple.of_fact fun hnil => absurd (List.isEmpty_iff.2 hnil) hnonempty
        · refine Triple.of_fact fun _ => Triple.of_fact fun htruncated => ?_
          rw [fetchLoopBy_truncated htruncated]
          exact Triple.pure
        · refine Triple.of_fact fun _ => Triple.of_fact fun hcollected => ?_
          exact Triple.of_fact fun hlonger => ih hcollected (by omega)

/-- With the two brackets alone the loop starts. -/
theorem collected_empty (hbytes : 2 ≤ budget.maxResultBytes) :
    Collected budget encoded .empty :=
  ⟨Seq.take_zero.symm, ⟨Nat.zero_le _, hbytes⟩, rfl, rfl⟩

/-- From every cursor the loop has a run: the next rows answer a `fetchmany`. -/
theorem exists_run_fetchLoopBy {declared : Seq ResultValue} {batchRows : Nat}
    (hbatch : 0 < batchRows)
    (fuel : Nat) (fetched : Fetched Json) (cursor : Cursor ResultValue) :
    ∃ cursor' r, Run (cursorWorld declared) cursor
      (fetchLoopBy batchRows encodeRow budget fuel fetched) cursor' r := by
  induction fuel generalizing fetched cursor with
  | zero => exact ⟨cursor, _, .done _ _⟩
  | succ fuel ih =>
    rw [fetchLoopBy]
    split
    · exact ⟨cursor, _, .done _ _⟩
    generalize hsize : min batchRows (budget.maxResultRows - fetched.rows.length + 1) = size
    have hallowed : (cursorWorld declared).allowed cursor (.send (.fetch size))
        (.ok (cursor.rest.take size)) := by
      refine ⟨Seq.length_take_le, (take_length_take _ _).symm, fun hnil => ?_⟩
      have hzero : (cursor.rest.take size)[0]? = none := by
        rw [hnil]
        rfl
      rwa [Seq.getElem?_take, if_pos (by omega), Seq.get?_zero_eq_none] at hzero
    suffices hrun : ∃ cursor' r, Run (cursorWorld declared) _
        (if (cursor.rest.take size).isEmpty then pure fetched
          else do
            let fetched' ← .lift (addBatch encodeRow budget (cursor.rest.take size) fetched)
            fetchLoopBy batchRows encodeRow budget fuel fetched') cursor' r by
      obtain ⟨cursor', r, hrun⟩ := hrun
      exact ⟨cursor', r, .call hallowed hrun⟩
    split
    · exact ⟨_, _, .done _ _⟩
    · cases addBatch encodeRow budget (cursor.rest.take size) fetched with
      | error e => exact ⟨_, _, .done _ _⟩
      | ok fetched' => exact ih fetched' _

/-- Both limits and the sequence determine the result. -/
theorem BoundedResult.unique {r r' : List Json} {bytes bytes' : Nat} {truncated truncated' : Bool}
    (h : BoundedResult budget encoded r bytes truncated)
    (h' : BoundedResult budget encoded r' bytes' truncated') :
    r = r' ∧ bytes = bytes' ∧ truncated = truncated' := by
  have hle : r.length ≤ r'.length := by
    have hlongest := h'.longest r.length (h.isStart ▸ h.fits)
    rwa [← h.isStart] at hlongest
  have hge : r'.length ≤ r.length := by
    have hlongest := h.longest r'.length (h'.isStart ▸ h'.fits)
    rwa [← h'.isStart] at hlongest
  obtain rfl : r = r' := by
    rw [h.isStart, h'.isStart, hle.antisymm hge]
  exact ⟨rfl, h.size.trans h'.size.symm, Bool.eq_iff_iff.2 (h.continues.trans h'.continues.symm)⟩

end

/-! ## The response -/

section

variable {source : SourceProfile} {rows : Seq ResultValue} {encoded : Seq Json}

/-- The operations that move the cursor. -/
def Op.movesCursor : Op → Bool
  | .send (.fetch _) | .send (.declare _) => true
  | _ => false

/-- The other operations keep the cursor. -/
theorem keeps_perform {I : Cursor ResultValue → Prop} {o : Op} (ho : o.movesCursor = false) :
    Keeps (cursorWorld rows) I (perform o) := by
  refine Keeps.perform fun cursor r hI _ => ?_
  cases o with
  | send statement => cases statement <;> first | exact hI | cases ho
  | _ => exact hI

/-- A handler that raises in the end does not return. -/
theorem reraiseForUserSql_raises {α : Type} {Q : α → Cursor ResultValue → Prop} (sourceId : String)
    (e : Exc) :
    Triple (cursorWorld rows) (fun _ => True) (reraiseForUserSql sourceId e) Q fun _ _ => True := by
  refine Triple.ite (fun _ => ?_) fun _ =>
    Triple.throw (E := fun _ _ => True)
  exact Triple.bind (Q := fun _ _ => True) (keeps_true _) fun _ =>
      Triple.throw (E := fun _ _ => True)

theorem cleanUp_raises {α : Type} {Q : α → Cursor ResultValue → Prop} (e : Exc) :
    Triple (cursorWorld rows) (fun _ => True) (cleanUp e) Q fun _ _ => True := by
  refine Triple.ite (fun _ => ?_) fun _ => ?_
  · refine Triple.bind (Q := fun _ _ => True) (keeps_true _) fun _ => ?_
    exact Triple.bind (Q := fun _ _ => True) (keeps_true _) fun _ =>
      Triple.throw (E := fun _ _ => True)
  · exact Triple.bind (Q := fun _ _ => True) (keeps_true _) fun _ =>
      Triple.throw (E := fun _ _ => True)

/-- The cursor phase collects what the loop promises. -/
theorem readCursor_ended (hencode : Encodes rows encoded)
    (hbytes : 2 ≤ source.budget.maxResultBytes)
    (sql : String) :
    Triple (cursorWorld rows) (fun _ => True) (readCursor encodeRow source sql)
      (fun result => Ended source.budget encoded result.2) fun _ _ => True := by
  refine Triple.bind (Q := fun _ cursor => cursor = ⟨rows, 0⟩)
    (Triple.perform fun cursor r _ _ => ?_) fun _ => ?_
  · cases r with
    | ok => rfl
    | error e => trivial
  refine Triple.bind (Q := fun _ cursor => cursor = ⟨rows, 0⟩)
    ((keeps_perform rfl).weaken_exc fun _ _ _ => trivial) fun description => ?_
  refine Triple.bind (Q := fun _ cursor => cursor = ⟨rows, 0⟩)
    (Keeps.lift.weaken_exc fun _ _ _ => trivial) fun columns => ?_
  rw [fetchLoop_eq]
  refine Triple.bind (Q := fun fetched => Ended source.budget encoded fetched)
    ((fetchLoopBy_ended hencode _ (collected_empty hbytes) ?_).weaken_exc fun _ _ _ => trivial)
    fun fetched =>
      Triple.pure (Q := fun result => Ended source.budget encoded result.2)
        (a := (columns, fetched))
  exact Nat.lt_succ_self _

/-- Leaving the cursor does not move it. -/
theorem readResult_ended (hencode : Encodes rows encoded)
    (hbytes : 2 ≤ source.budget.maxResultBytes)
    (sql : String) :
    Triple (cursorWorld rows) (fun _ => True) (readResult encodeRow source sql)
      (fun result => Ended source.budget encoded result.2) fun _ _ => True := by
  refine Triple.bind (Q := fun _ _ => True) (keeps_true _) fun _ => ?_
  have hread := Triple.tryCatch (readCursor_ended hencode hbytes sql)
    (reraiseForUserSql_raises source.sourceId)
  refine hread.tryFinally (fun result => ?_) fun _ => keeps_true _
  have hclose : Keeps (cursorWorld rows) (Ended source.budget encoded result.2)
      (quietly (send .closeCursor)) :=
    Keeps.tryCatch (keeps_perform rfl) fun e => Keeps.ite Keeps.throw Keeps.pure
  exact hclose.weaken_exc fun _ _ _ => trivial

/-- The transaction. -/
theorem runTransaction_ended (hencode : Encodes rows encoded)
    (hbytes : 2 ≤ source.budget.maxResultBytes) (sql : String) (validated : ValidatedSql)
    (queryId : String) :
    Triple (cursorWorld rows) (fun _ => True)
      (runTransaction encodeRow source sql validated queryId)
      (fun outcome => Ended source.budget encoded outcome.2.2) fun _ _ => True := by
  refine Triple.bind (Q := fun _ _ => True) (keeps_true _) fun plan => ?_
  refine Triple.bind (readResult_ended hencode hbytes sql) fun ⟨columns, fetched⟩ => ?_
  refine Triple.bind (Q := fun _ => Ended source.budget encoded fetched)
    ((keeps_perform rfl).weaken_exc fun _ _ _ => trivial) fun _ => ?_
  refine Triple.bind (Q := fun _ => Ended source.budget encoded fetched)
    ((keeps_perform rfl).weaken_exc fun _ _ _ => trivial) fun _ => ?_
  exact Triple.pure (Q := fun (outcome : PlanSummary × List String × Fetched Json) =>
    Ended source.budget encoded outcome.2.2) (a := (plan, columns, fetched))

/-- A response carries what the loop has collected. -/
structure Carries (response : Response Json) (fetched : Fetched Json) : Prop where
  rows : response.rows = fetched.rows
  rowCount : response.rowCount = fetched.rows.length
  resultBytes : response.resultBytes = fetched.resultBytes
  truncated : response.truncated = fetched.truncated

/-- `_execute_connection`: its response carries what the loop promises. -/
theorem executeConnection_ended (hencode : Encodes rows encoded)
    (hbytes : 2 ≤ source.budget.maxResultBytes) (sql metadataRevision : String)
    (validated : ValidatedSql) (queueMs : Int) (queryId : String) :
    Triple (cursorWorld rows) (fun _ => True)
      (executeConnection encodeRow source sql metadataRevision validated queueMs queryId)
      (fun response cursor => ∃ fetched, Carries response fetched ∧
        Ended source.budget encoded fetched cursor) fun _ _ => True := by
  refine Triple.bind (Q := fun _ _ => True) (keeps_true _) fun startedAt => ?_
  refine Triple.bind (Triple.tryCatch (runTransaction_ended hencode hbytes sql validated queryId)
    cleanUp_raises) fun outcome => ?_
  have hkeeps : ∀ o : Op, o.movesCursor = false → Triple (cursorWorld rows)
      (Ended source.budget encoded outcome.2.2) (perform o)
      (fun _ => Ended source.budget encoded outcome.2.2) fun _ _ => True :=
    fun o ho => (keeps_perform ho).weaken_exc fun _ _ _ => trivial
  refine Triple.bind (hkeeps _ rfl) fun now => ?_
  refine Triple.bind (hkeeps _ rfl) fun _ => ?_
  refine Triple.bind (hkeeps _ rfl) fun _ => ?_
  refine Triple.bind (Q := fun _ => Ended source.budget encoded outcome.2.2)
    (Triple.ite (fun _ => hkeeps _ rfl) fun _ =>
      Triple.pure (Q := fun _ => Ended source.budget encoded outcome.2.2)) fun _ => ?_
  refine Triple.pure.weaken_pre fun cursor hended => ?_
  exact ⟨outcome.2.2, ⟨rfl, rfl, rfl, rfl⟩, hended⟩

/-- The loop ends, and in one way: with what is fetched, of at most one row beyond the limit. -/
def LoopEnds (rows : Seq ResultValue) (budget : BudgetProfile)
    (loop : Exec ResultValue (Fetched Json)) (fetched : Fetched Json) : Prop :=
  (∃ cursor r, Run (cursorWorld rows) ⟨rows, 0⟩ loop cursor r) ∧
    ∀ cursor r, Run (cursorWorld rows) ⟨rows, 0⟩ loop cursor r →
      r = .ok fetched ∧ cursor.received ≤ budget.maxResultRows + 1

/-- **Bounded results are the exact maximal prefix**: for every sequence of rows that encode, the
loop ends with the longest start within both limits, in every run, for every batch size and with any
further turns to spare; and that is what a response carries. -/
theorem boundedResults (hencode : Encodes rows encoded)
    (hbytes : 2 ≤ source.budget.maxResultBytes) :
    ∃ fetched : Fetched Json,
      BoundedResult source.budget encoded fetched.rows fetched.resultBytes fetched.truncated ∧
      (∀ fuel, source.budget.maxResultRows < fuel →
        LoopEnds rows source.budget (fetchLoop encodeRow source.budget fuel .empty) fetched) ∧
      (∀ batchRows fuel, 0 < batchRows → source.budget.maxResultRows < fuel →
        LoopEnds rows source.budget (fetchLoopBy batchRows encodeRow source.budget fuel .empty)
          fetched) ∧
      ∀ sql metadataRevision validated queueMs queryId cursor cursor' response,
        Run (cursorWorld rows) cursor
          (executeConnection encodeRow source sql metadataRevision validated queueMs
            queryId) cursor'
          (.ok response) →
        Carries response fetched ∧ cursor'.received ≤ source.budget.maxResultRows + 1 := by
  have hended : ∀ batchRows fuel cursor r, source.budget.maxResultRows < fuel →
      Run (cursorWorld rows) ⟨rows, 0⟩
        (fetchLoopBy batchRows encodeRow source.budget fuel .empty) cursor r →
      ∃ fetched, r = .ok fetched ∧ Ended source.budget encoded fetched cursor := by
    intro batchRows fuel cursor r hfuel hrun
    have hpost := fetchLoopBy_ended hencode batchRows (collected_empty hbytes) hfuel _ _ _ rfl hrun
    cases r with
    | ok fetched => exact ⟨fetched, rfl, hpost⟩
    | error e => exact hpost.elim
  obtain ⟨cursor, r, hrun⟩ : ∃ cursor r, Run (cursorWorld rows) ⟨rows, 0⟩
      (fetchLoopBy 1 encodeRow source.budget (source.budget.maxResultRows + 1) .empty) cursor r :=
    exists_run_fetchLoopBy Nat.one_pos _ _ _
  obtain ⟨⟨start, bytes, truncated⟩, -, hbounded, -⟩ := hended _ _ _ _ (Nat.lt_succ_self _) hrun
  have hsame : ∀ {fetched' : Fetched Json} {cursor : Cursor ResultValue},
      Ended source.budget encoded fetched' cursor → fetched' = ⟨start, bytes, truncated⟩ := by
    rintro ⟨start', bytes', truncated'⟩ cursor ⟨hbounded', -⟩
    obtain ⟨rfl, rfl, rfl⟩ := hbounded'.unique hbounded
    rfl
  have hloop : ∀ batchRows fuel, 0 < batchRows → source.budget.maxResultRows < fuel →
      LoopEnds rows source.budget (fetchLoopBy batchRows encodeRow source.budget fuel .empty)
        ⟨start, bytes, truncated⟩ := by
    refine fun batchRows fuel hbatch hfuel =>
      ⟨exists_run_fetchLoopBy hbatch fuel .empty ⟨rows, 0⟩, fun cursor r hrun => ?_⟩
    obtain ⟨fetched', rfl, hend⟩ := hended _ _ _ _ hfuel hrun
    exact ⟨congrArg _ (hsame hend), hend.2⟩
  refine ⟨⟨start, bytes, truncated⟩, hbounded, fun fuel hfuel => ?_, hloop, ?_⟩
  · rw [fetchLoop_eq]
    exact hloop _ _ (by decide) hfuel
  · intro sql metadataRevision validated queueMs queryId cursor cursor' response hrun
    obtain ⟨fetched', hcarries, hend⟩ := executeConnection_ended hencode hbytes sql metadataRevision
      validated queueMs queryId _ _ _ trivial hrun
    exact ⟨hsame hend ▸ hcarries, hend.2⟩

/-- One row for ever. -/
def endlessRows : Seq ResultValue :=
  ⟨fun _ => some (.mapping [(some "n", .int 1)]), fun h => by cases h⟩

/-- Its encoding. -/
def endlessEncoded : Seq Json :=
  ⟨fun _ => some (.object [("n", .int 1)]), fun h => by cases h⟩

theorem boundedResults_endless : ∃ fetched : Fetched Json,
    fetched.rows = [.object [("n", .int 1)]] ∧ fetched.truncated = true ∧
      LoopEnds endlessRows plainSource.budget (fetchLoop encodeRow plainSource.budget 2 .empty)
        fetched := by
  have hencode : Encodes endlessRows endlessEncoded := Seq.ext fun n => rfl
  obtain ⟨fetched, hbounded, hloop, -⟩ := @boundedResults plainSource _ _ hencode (by decide)
  have hlength : fetched.rows.length = 1 :=
    hbounded.fits.1.antisymm (hbounded.longest 1 (by decide +kernel))
  refine ⟨fetched, ?_, hbounded.continues.2 nofun, hloop 2 (by decide)⟩
  rw [hbounded.isStart, hlength]
  rfl

end

end QueryMan.PostgresQueryExecutor
