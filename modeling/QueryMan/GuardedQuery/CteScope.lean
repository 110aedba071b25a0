import QueryMan.GuardedQuery.NodeGate

/-!
# CTE scope

The relation pass against PostgreSQL's rules for the names of a `WITH` clause. The rules are stated
of positions (`VisibleAt`): a `SELECT` on the way to a position declares its CTEs there, and inside
the clause itself only those before the one that the position is in. `validateScopes_records` says
that the pass, which threads a growing set of names through two mutually recursive functions,
resolves every `RangeVar` that it comes to by exactly these rules, and records exactly the qualified
ones. It does not come to those in a CTE whose query is no `SELECT` (`Skipped`), and it need not:
the node pass, which comes first, refuses such a query.
-/

namespace QueryMan

open Python
open Python.Value (Path Step at?_cons_eq_some)

/-! ## The reference rules -/

/-- A `RangeVar` node. -/
def IsRangeVar (v : Value) : Prop :=
  (v.get "@").isStr "RangeVar" = true

/-- A `SelectStmt` node. -/
def IsSelect (v : Value) : Prop :=
  (v.get "@").isStr "SelectStmt" = true

/-- The name under a key, if there is one. -/
def name? (v : Value) (key : String) : Option String :=
  match v.get key with
  | .str s => some s
  | _ => none

/-- At the position `path` below the statement `sel`, a CTE called `name` is declared: inside the
`WITH` clause only by an earlier entry, elsewhere by any. -/
def DeclaredFor (sel : Value) (path : Path) (name : String) : Prop :=
  ∃ i cte, sel.at? [.key "withClause", .key "ctes", .index i] = some cte ∧
    name? cte "ctename" = some name ∧
    ∀ rest, path = .key "withClause" :: rest →
      ∃ j rest', rest = .key "ctes" :: .index j :: rest' ∧ i < j

/-- PostgreSQL's rule: a CTE is visible at a position if a `SELECT` that the position is in
declares it there. -/
def VisibleAt (t : Value) (path : Path) (name : String) : Prop :=
  ∃ above below sel, path = above ++ below ∧ t.at? above = some sel ∧ IsSelect sel ∧
    DeclaredFor sel below name

/-- The position is in the query of a CTE that is no `SELECT`. -/
def Skipped (t : Value) (path : Path) : Prop :=
  ∃ above below sel i query,
    path = above ++ .key "withClause" :: .key "ctes" :: .index i :: .key "ctequery" :: below ∧
      t.at? above = some sel ∧ IsSelect sel ∧
      sel.at? [.key "withClause", .key "ctes", .index i, .key "ctequery"] = some query ∧
      ¬ IsSelect query

/-- A `RangeVar` is resolved: it names no other database, and it is a visible CTE or a relation in
the allowlist. -/
def Resolved (p : ValidationPolicy) (visible : String → Prop) (node : Value) : Prop :=
  name? node "catalogname" = none ∧
    match name? node "schemaname" with
    | none => ∃ relation, name? node "relname" = some relation ∧ visible relation
    | some schema => ∃ relation, name? node "relname" = some relation ∧
        schema ++ "." ++ relation ∈ p.allowedRelations

/-- The text that a schema-qualified `RangeVar` is known by. -/
def Qualified (node : Value) (name : String) : Prop :=
  ∃ schema relation, name? node "schemaname" = some schema ∧
    name? node "relname" = some relation ∧ name = schema ++ "." ++ relation

/-! ## Parse trees -/

/-- An identifier field as the parser leaves it: absent, or a text that is not empty. -/
def IdentifierField (v : Value) (key : String) : Prop :=
  (v.get key).isNone = true ∨ ∃ s, s ≠ "" ∧ v.get key = .str s

/-- The tags of the statements that may be the query of a CTE. -/
def preparableTags : List String :=
  ["SelectStmt", "InsertStmt", "UpdateStmt", "DeleteStmt", "MergeStmt"]

/-- What the relation pass relies on of a node of a serialised tree: keys do not repeat, identifiers
are texts, no `RangeVar` lies in another one, and the `WITH` clause of a `SELECT` holds them only
inside the query of a CTE. -/
structure NodeGrammar (v : Value) : Prop where
  keysNodup : v.KeysNodup
  rangeVar : IsRangeVar v → IdentifierField v "catalogname" ∧ IdentifierField v "schemaname" ∧
    ∃ s, s ≠ "" ∧ v.get "relname" = .str s
  rangeVarLeaf : IsRangeVar v → ∀ step rest w, v.at? (step :: rest) = some w → ¬ IsRangeVar w
  withClause : IsSelect v → ∀ w, v.at? [.key "withClause"] = some w → ¬ IsSelect w
  ctes : IsSelect v → ∀ w, v.at? [.key "withClause", .key "ctes"] = some w → ¬ IsSelect w
  cte : IsSelect v → ∀ i w, v.at? [.key "withClause", .key "ctes", .index i] = some w →
    ¬ IsSelect w ∧ ∃ s, s ≠ "" ∧ w.get "ctename" = .str s
  ctequery : IsSelect v → ∀ i w,
    v.at? [.key "withClause", .key "ctes", .index i, .key "ctequery"] = some w →
      ∃ tag ∈ preparableTags, w.get "@" = .str tag
  onlyQueries : IsSelect v → ∀ rest w,
    v.at? (.key "withClause" :: rest) = some w → IsRangeVar w →
      ∃ i rest', rest = .key "ctes" :: .index i :: .key "ctequery" :: rest'

/-- Every node of the tree is as the grammar builds it. -/
def Grammar (t : Value) : Prop :=
  ∀ path v, t.at? path = some v → NodeGrammar v

/-- The serialised tree of one `SELECT`. -/
structure SelectTree where
  tree : Value
  isSelect : IsSelect tree
  grammar : Grammar tree

theorem Grammar.node {t : Value} (h : Grammar t) : NodeGrammar t :=
  h [] t rfl

/-- A part of a tree is as the grammar builds it. -/
theorem Grammar.below {t v : Value} {path : Path} (h : Grammar t) (hv : t.at? path = some v) :
    Grammar v := by
  intro path' w hw
  exact h (path ++ path') w (by rw [Value.at?_append_of_eq hv, hw])

theorem Grammar.child {t v : Value} {step : Step} (h : Grammar t) (hv : t.child? step = some v) :
    Grammar v :=
  h.below (show t.at? [step] = some v from at?_cons_eq_some.2 ⟨v, hv, rfl⟩)

/-! ## Visibility, one step at a time -/

/-- A position below a first step: the statement itself may declare the name, or a `SELECT` further
down. -/
theorem visibleAt_cons {t c : Value} {step : Step} {rest : Path} {name : String}
    (hc : t.child? step = some c) :
    VisibleAt t (step :: rest) name ↔
      (IsSelect t ∧ DeclaredFor t (step :: rest) name) ∨ VisibleAt c rest name := by
  constructor
  · rintro ⟨above, below, sel, hpath, hsel, htag, hdecl⟩
    cases above with
    | nil =>
      cases hsel
      cases hpath
      exact .inl ⟨htag, hdecl⟩
    | cons step' above =>
      cases hpath
      obtain ⟨c', hc', hsel⟩ := at?_cons_eq_some.1 hsel
      obtain rfl := Option.some.inj (hc.symm.trans hc')
      exact .inr ⟨above, below, sel, rfl, hsel, htag, hdecl⟩
  · rintro (⟨htag, hdecl⟩ | ⟨above, below, sel, rfl, hsel, htag, hdecl⟩)
    · exact ⟨[], _, t, rfl, rfl, htag, hdecl⟩
    · exact ⟨step :: above, below, sel, rfl, at?_cons_eq_some.2 ⟨c, hc, hsel⟩, htag, hdecl⟩

/-- Below a node that is no `SELECT` the same names are visible as in its part. -/
theorem visibleAt_cons_of_not_isSelect {t c : Value} {step : Step} {rest : Path} {name : String}
    (hc : t.child? step = some c) (ht : ¬ IsSelect t) :
    VisibleAt t (step :: rest) name ↔ VisibleAt c rest name := by
  rw [visibleAt_cons hc, or_iff_right fun h => ht h.1]

/-- A position below a first step: the statement itself may skip it, or a `SELECT` further down. -/
theorem skipped_cons {t c : Value} {step : Step} {rest : Path} (hc : t.child? step = some c) :
    Skipped t (step :: rest) ↔
      (IsSelect t ∧ ∃ i below query, step = .key "withClause" ∧
        rest = .key "ctes" :: .index i :: .key "ctequery" :: below ∧
        t.at? [.key "withClause", .key "ctes", .index i, .key "ctequery"] = some query ∧
        ¬ IsSelect query) ∨ Skipped c rest := by
  constructor
  · rintro ⟨above, below, sel, i, query, hpath, hsel, htag, hquery⟩
    cases above with
    | nil =>
      cases hsel
      cases hpath
      exact .inl ⟨htag, i, below, query, rfl, rfl, hquery⟩
    | cons step' above =>
      cases hpath
      obtain ⟨c', hc', hsel⟩ := at?_cons_eq_some.1 hsel
      obtain rfl := Option.some.inj (hc.symm.trans hc')
      exact .inr ⟨above, below, sel, i, query, rfl, hsel, htag, hquery⟩
  · rintro (⟨htag, i, below, query, rfl, rfl, hquery⟩ |
      ⟨above, below, sel, i, query, rfl, hsel, htag, hquery⟩)
    · exact ⟨[], below, t, i, query, rfl, rfl, htag, hquery⟩
    · exact ⟨step :: above, below, sel, i,
        query, rfl, at?_cons_eq_some.2 ⟨c, hc, hsel⟩, htag, hquery⟩

/-- A node that is no `SELECT` skips what its part skips. -/
theorem skipped_cons_of_not_isSelect {t c : Value} {step : Step} {rest : Path}
    (hc : t.child? step = some c) (ht : ¬ IsSelect t) :
    Skipped t (step :: rest) ↔ Skipped c rest := by
  rw [skipped_cons hc, or_iff_right fun h => ht h.1]

/-- A value does not skip itself. -/
theorem not_skipped_nil (t : Value) : ¬ Skipped t [] := by
  rintro ⟨above, below, sel, i, query, hpath, -⟩
  exact absurd (List.append_eq_nil_iff.1 hpath.symm).2 (List.cons_ne_nil _ _)

/-- The entries of the clause are found by index. -/
theorem at?_cte (sel : Value) (i : Nat) :
    sel.at? [.key "withClause", .key "ctes", .index i] = (ctesOf sel)[i]? := by
  have hget : ∀ (v : Value) (k : String) (f : Value → Option Value), f .none = none →
      ((v.get? k).bind f) = f (v.get k) := by
    intro v k f hf
    unfold Value.get
    cases v.get? k with
    | none => exact hf.symm
    | some w => rfl
  simp only [Value.at?_cons, Value.child?, Value.at?_nil]
  rw [hget _ "withClause" _ rfl, hget _ "ctes" _ rfl, Option.bind_fun_some]
  rfl

/-! ## What one part of the tree needs and adds -/

/-- The names declared by the first entries of a clause. -/
def NamedIn (ctes : List Value) (name : String) : Prop :=
  ∃ cte ∈ ctes, name? cte "ctename" = some name

/-- Every `RangeVar` below `v` that is not skipped is resolved, where the names of `outer` are
visible besides those that `v` itself declares. -/
def ScopeOk (p : ValidationPolicy) (outer : String → Prop) (v : Value) : Prop :=
  ∀ path node, v.at? path = some node → IsRangeVar node → ¬ Skipped v path →
    Resolved p (fun name => outer name ∨ VisibleAt v path name) node

/-- What these `RangeVar`s add: the texts of those that are qualified. -/
def ScopeAdds (v : Value) (k : Recorded) : Prop :=
  ∃ path node name, v.at? path = some node ∧ IsRangeVar node ∧ ¬ Skipped v path ∧
    Qualified node name ∧ k = .relation name

theorem resolved_congr {p : ValidationPolicy} {visible visible' : String → Prop} {node : Value}
    (h : ∀ name, visible name ↔ visible' name) :
    Resolved p visible node ↔ Resolved p visible' node := by
  rw [funext fun name => propext (h name)]

theorem isRangeVar_not_isSelect {v : Value} (h : IsRangeVar v) : ¬ IsSelect v := by
  unfold IsRangeVar at h
  unfold IsSelect
  cases hv : v.get "@" with
  | str s =>
    rw [hv, Value.isStr, beq_iff_eq] at h
    rw [Value.isStr, beq_iff_eq, h]
    decide
  | none | bool | int | map | tuple | list => rw [hv] at h; cases h

theorem name?_of_isNone {v : Value} {key : String} (h : (v.get key).isNone = true) :
    name? v key = none := by
  unfold name?
  split
  · next s hs => rw [hs] at h; cases h
  · rfl

theorem name?_of_str {v : Value} {key s : String} (h : v.get key = .str s) :
    name? v key = some s := by
  rw [name?, h]

/-- An identifier field is falsy without a name, or truthy with the name as its text. -/
theorem IdentifierField.view {v : Value} {key : String} (h : IdentifierField v key) :
    ((v.get key).truthy = false ∧ name? v key = none) ∨
      ((v.get key).truthy = true ∧ name? v key = some (v.get key).text) := by
  rcases h with h | ⟨s, hs, h⟩
  · refine .inl ⟨?_, name?_of_isNone h⟩
    cases hv : v.get key with
    | none => rfl
    | bool | int | str | map | tuple | list => rw [hv] at h; cases h
  · refine .inr ⟨?_, ?_⟩
    · rw [h]
      simp [Value.truthy, hs]
    · rw [name?_of_str h, h]
      rfl

/-- The text of a name that is there is the text of the field's default reading, too. -/
theorem text_getD_of_str {v : Value} {key s : String} (h : v.get key = .str s) :
    (v.getD key (.str "")).text = s := by
  unfold Value.get at h
  unfold Value.getD
  cases hv : v.get? key with
  | none => rw [hv] at h; cases h
  | some w => rw [hv] at h; cases h; rfl

/-- A `RangeVar` is checked against the names it is given, and adds its text if it is qualified. -/
theorem validateRangeVar_records (p : ValidationPolicy) {node : Value} (visible : Finset String)
    (hnode : NodeGrammar node) (htag : IsRangeVar node) :
    Records Collected.has (validateRangeVar p node visible) ()
      (Resolved p (· ∈ visible) node)
      fun k => ∃ name, Qualified node name ∧ k = .relation name := by
  obtain ⟨hcatalog, hschema, relation, -, hrel⟩ := hnode.rangeVar htag
  have hrelname := name?_of_str hrel
  unfold validateRangeVar
  dsimp only
  rw [text_getD_of_str hrel]
  refine ((Records.raiseIf _ _).seq (Records.ite (fun _ => Records.raiseIf _ _) fun _ =>
    (Records.raiseIf _ _).seq (recordRelation_records _))).congr ?_ fun _ k => ?_
  · unfold Resolved
    rcases hcatalog.view with ⟨hc, hc'⟩ | ⟨hc, hc'⟩ <;>
      rcases hschema.view with ⟨hs, hs'⟩ | ⟨hs, hs'⟩ <;> simp [hc, hc', hs, hs', hrelname]
  · unfold Qualified
    rcases hschema.view with ⟨hs, hs'⟩ | ⟨hs, hs'⟩ <;> simp [hs, hs', hrelname]

/-! ## The parts of a node -/

/-- Every part of a node is the value of a field or a member, and conversely. -/
theorem forall_child_iff {v : Value} (hv : v.KeysNodup) {Q : Value → Prop} :
    (∀ step c, v.child? step = some c → Q c) ↔
      (∀ field ∈ v.fields, Q field.2) ∧ ∀ item ∈ v.items, Q item := by
  constructor
  · intro h
    refine ⟨fun field hmem => ?_, fun item hmem => ?_⟩
    · exact h (.key field.1) field.2 (Value.get?_of_mem_fields hv hmem)
    · obtain ⟨i, hi⟩ := List.mem_iff_getElem?.1 hmem
      exact h (.index i) item hi
  · rintro ⟨hfields, hitems⟩ step c hc
    cases step with
    | key k => exact hfields (k, c) (Value.mem_fields_of_get? hc)
    | index i => exact hitems c (List.mem_of_getElem? hc)

theorem exists_child_iff {v : Value} (hv : v.KeysNodup) {Q : Value → Prop} :
    (∃ step c, v.child? step = some c ∧ Q c) ↔
      (∃ field ∈ v.fields, Q field.2) ∨ ∃ item ∈ v.items, Q item := by
  have h := forall_child_iff hv (Q := fun c => ¬ Q c)
  rw [← not_iff_not]
  push Not
  exact h

/-- A part of a node is lower than the node. -/
theorem height_lt_of_child? {v c : Value} {step : Step} (h : v.child? step = some c) :
    c.height < v.height := by
  cases step with
  | key k => exact Value.height_lt_of_get? h
  | index i => exact Value.height_lt_of_mem_items (List.mem_of_getElem? h)

/-- A node that is neither a reference nor a statement adds what its parts add. -/
theorem scopeAdds_iff_child {v : Value} (hrange : ¬ IsRangeVar v) (hselect : ¬ IsSelect v)
    (k : Recorded) : ScopeAdds v k ↔ ∃ step c, v.child? step = some c ∧ ScopeAdds c k := by
  constructor
  · rintro ⟨_ | ⟨step, path⟩, node, name, hnode, htag, hskip, hname⟩
    · cases hnode
      exact absurd htag hrange
    · obtain ⟨c, hc, hnode⟩ := at?_cons_eq_some.1 hnode
      rw [skipped_cons_of_not_isSelect hc hselect] at hskip
      exact ⟨step, c, hc, path, node, name, hnode, htag, hskip, hname⟩
  · rintro ⟨step, c, hc, path, node, name, hnode, htag, hskip, hrest⟩
    rw [← skipped_cons_of_not_isSelect hc hselect] at hskip
    exact ⟨step :: path, node, name, at?_cons_eq_some.2 ⟨c, hc, hnode⟩, htag, hskip, hrest⟩

/-- A node that is neither a reference nor a statement is in order when its parts are. -/
theorem scopeOk_iff_child {p : ValidationPolicy} {outer : String → Prop} {v : Value}
    (hrange : ¬ IsRangeVar v) (hselect : ¬ IsSelect v) :
    ScopeOk p outer v ↔ ∀ step c, v.child? step = some c → ScopeOk p outer c := by
  constructor
  · intro h step c hc path node hnode htag hskip
    rw [← skipped_cons_of_not_isSelect hc hselect] at hskip
    have hresolved := h (step :: path) node (at?_cons_eq_some.2 ⟨c, hc, hnode⟩) htag hskip
    exact (resolved_congr fun name =>
      or_congr_right (visibleAt_cons_of_not_isSelect hc hselect)).1 hresolved
  · rintro h (_ | ⟨step, path⟩) node hnode htag hskip
    · cases hnode
      exact absurd htag hrange
    · obtain ⟨c, hc, hnode⟩ := at?_cons_eq_some.1 hnode
      rw [skipped_cons_of_not_isSelect hc hselect] at hskip
      exact (resolved_congr fun name => or_congr_right
        (visibleAt_cons_of_not_isSelect hc hselect)).2 (h step c hc path node hnode htag hskip)

/-- A reference has no other reference below it. -/
theorem scopeOk_rangeVar {p : ValidationPolicy} {outer : String → Prop} {v : Value}
    (hnode : NodeGrammar v) (htag : IsRangeVar v) : ScopeOk p outer v ↔ Resolved p outer v := by
  have hvisible : ∀ name, outer name ∨ VisibleAt v [] name ↔ outer name := by
    intro name
    refine or_iff_left ?_
    rintro ⟨above, below, sel, hpath, hsel, hselect, -⟩
    obtain ⟨rfl, rfl⟩ := List.append_eq_nil_iff.1 hpath.symm
    cases hsel
    exact isRangeVar_not_isSelect htag hselect
  constructor
  · intro h
    exact (resolved_congr hvisible).1 (h [] v rfl htag (not_skipped_nil v))
  · rintro h (_ | ⟨step, path⟩) node hat hrange -
    · cases hat
      exact (resolved_congr hvisible).2 h
    · exact absurd hrange (hnode.rangeVarLeaf htag step path node hat)

theorem scopeAdds_rangeVar {v : Value} (hnode : NodeGrammar v) (htag : IsRangeVar v)
    (k : Recorded) : ScopeAdds v k ↔ ∃ name, Qualified v name ∧ k = .relation name := by
  constructor
  · rintro ⟨_ | ⟨step, path⟩, node, name, hat, hrange, -, hname⟩
    · cases hat
      exact ⟨name, hname⟩
    · exact absurd hrange (hnode.rangeVarLeaf htag step path node hat)
  · rintro ⟨name, hname⟩
    exact ⟨[], v, name, rfl, htag, not_skipped_nil v, hname⟩

/-! ## The names of a clause -/

theorem namedIn_nil (name : String) : ¬ NamedIn [] name := by
  rintro ⟨cte, hmem, -⟩
  cases hmem

/-- The names visible after a clause are the outer ones and those of its entries. -/
theorem mem_foldl_addCteName {ctes : List Value} {outer : Finset String} {name : String}
    (hnames : ∀ cte ∈ ctes, ∃ s, s ≠ "" ∧ cte.get "ctename" = .str s) :
    name ∈ ctes.foldl addCteName outer ↔ name ∈ outer ∨ NamedIn ctes name := by
  induction ctes generalizing outer with
  | nil => exact (or_iff_left (namedIn_nil name)).symm
  | cons cte ctes ih =>
    obtain ⟨s, hs, hget⟩ := hnames cte List.mem_cons_self
    have hadd : addCteName outer cte = insert s outer := by
      simp [addCteName, hget, Value.truthy, hs, Value.text]
    rw [List.foldl_cons, ih fun c hc => hnames c (List.mem_cons_of_mem _ hc), hadd,
      Finset.mem_insert]
    have hcons : NamedIn (cte :: ctes) name ↔ name = s ∨ NamedIn ctes name := by
      simp [NamedIn, name?_of_str hget, eq_comm]
    rw [hcons, or_comm (a := name = s), or_assoc]

/-- Outside its `WITH` clause a statement declares all its entries. -/
theorem declaredFor_body {sel : Value} {step : Step} {rest : Path} {name : String}
    (hstep : step ≠ .key "withClause") :
    DeclaredFor sel (step :: rest) name ↔ NamedIn (ctesOf sel) name := by
  constructor
  · rintro ⟨i, cte, hcte, hname, -⟩
    rw [at?_cte] at hcte
    exact ⟨cte, List.mem_of_getElem? hcte, hname⟩
  · rintro ⟨cte, hmem, hname⟩
    obtain ⟨i, hi⟩ := List.mem_iff_getElem?.1 hmem
    refine ⟨i, cte, (at?_cte sel i).trans hi, hname, fun rest' heq => ?_⟩
    exact absurd (List.cons.inj heq).1 hstep

/-- In the entry of index `i` a statement declares the entries before it. -/
theorem declaredFor_cte {sel : Value} {i : Nat} {rest : Path} {name : String} :
    DeclaredFor sel (.key "withClause" :: .key "ctes" :: .index i :: rest) name ↔
      NamedIn ((ctesOf sel).take i) name := by
  constructor
  · rintro ⟨j, cte, hcte, hname, hbefore⟩
    obtain ⟨i', rest', heq, hlt⟩ := hbefore _ rfl
    cases heq
    rw [at?_cte] at hcte
    refine ⟨cte, List.mem_iff_getElem?.2 ⟨j, ?_⟩, hname⟩
    rw [List.getElem?_take_of_lt hlt, hcte]
  · rintro ⟨cte, hmem, hname⟩
    obtain ⟨j, hj⟩ := List.mem_iff_getElem?.1 hmem
    have hlt : j < i := by
      by_contra hge
      rw [List.getElem?_take_eq_none (not_lt.1 hge)] at hj
      cases hj
    rw [List.getElem?_take_of_lt hlt] at hj
    refine ⟨j, cte, (at?_cte sel j).trans hj, hname, fun rest' heq => ?_⟩
    cases heq
    exact ⟨i, rest, rfl, hlt⟩

/-! ## The parts of a statement -/

theorem items_of_isSelect {v : Value} (h : IsSelect v) : v.items = [] := by
  cases v with
  | map => rfl
  | none | bool | int | str | tuple | list => cases h

/-- The query of an entry is found below the clause. -/
theorem child?_of_cte {v cte query : Value} {i : Nat} (hcte : (ctesOf v)[i]? = some cte)
    (hquery : cte.get? "ctequery" = some query) :
    ∃ with_ ctes, v.child? (.key "withClause") = some with_ ∧
      with_.child? (.key "ctes") = some ctes ∧ ctes.child? (.index i) = some cte ∧
      cte.child? (.key "ctequery") = some query := by
  rw [← at?_cte] at hcte
  obtain ⟨with_, hwith, hcte⟩ := at?_cons_eq_some.1 hcte
  obtain ⟨ctes, hctes, hcte⟩ := at?_cons_eq_some.1 hcte
  obtain ⟨cte', hcte', heq⟩ := at?_cons_eq_some.1 hcte
  cases heq
  exact ⟨with_, ctes, hwith, hctes, hcte', hquery⟩

/-- A reference below the clause lies in the query of an entry. -/
theorem rangeVar_in_clause {v node : Value} {rest : Path} (hg : Grammar v) (hs : IsSelect v)
    (hat : v.at? (.key "withClause" :: rest) = some node) (htag : IsRangeVar node) :
    ∃ i cte query path, rest = .key "ctes" :: .index i :: .key "ctequery" :: path ∧
      (ctesOf v)[i]? = some cte ∧ cte.get? "ctequery" = some query ∧
        query.at? path = some node := by
  obtain ⟨i, path, rfl⟩ := hg.node.onlyQueries hs rest node hat htag
  obtain ⟨with_, hwith, hnode⟩ := at?_cons_eq_some.1 hat
  obtain ⟨ctes, hctes, hnode⟩ := at?_cons_eq_some.1 hnode
  obtain ⟨cte, hcte, hnode⟩ := at?_cons_eq_some.1 hnode
  obtain ⟨query, hquery, hnode⟩ := at?_cons_eq_some.1 hnode
  have hentry : (ctesOf v)[i]? = some cte := by
    rw [← at?_cte]
    exact at?_cons_eq_some.2 ⟨_, hwith, at?_cons_eq_some.2 ⟨_, hctes,
      at?_cons_eq_some.2 ⟨_, hcte, rfl⟩⟩⟩
  exact ⟨i, cte, query, path, rfl, hentry, hquery, hnode⟩

/-- In the query of an entry the earlier entries are visible, and what the query declares. -/
theorem visibleAt_cte {v cte query : Value} {i : Nat} {path : Path} {name : String}
    (hg : Grammar v) (hs : IsSelect v) (hcte : (ctesOf v)[i]? = some cte)
    (hquery : cte.get? "ctequery" = some query) :
    VisibleAt v (.key "withClause" :: .key "ctes" :: .index i :: .key "ctequery" :: path) name ↔
      NamedIn ((ctesOf v).take i) name ∨ VisibleAt query path name := by
  obtain ⟨with_, ctes, hwith, hctes, hindex, hkey⟩ := child?_of_cte hcte hquery
  have hatWith : v.at? [.key "withClause"] = some with_ := at?_cons_eq_some.2 ⟨_, hwith, rfl⟩
  have hatCtes : v.at? [.key "withClause", .key "ctes"] = some ctes :=
    at?_cons_eq_some.2 ⟨_, hwith, at?_cons_eq_some.2 ⟨_, hctes, rfl⟩⟩
  have hatCte := (at?_cte v i).trans hcte
  rw [visibleAt_cons hwith, declaredFor_cte, and_iff_right hs,
    visibleAt_cons_of_not_isSelect hctes (hg.node.withClause hs _ hatWith),
    visibleAt_cons_of_not_isSelect hindex (hg.node.ctes hs _ hatCtes),
    visibleAt_cons_of_not_isSelect hkey (hg.node.cte hs _ _ hatCte).1]

/-- The query of an entry is skipped if it is no `SELECT`, and skips what it skips otherwise. -/
theorem skipped_cte {v cte query : Value} {i : Nat} {path : Path} (hg : Grammar v) (hs : IsSelect v)
    (hcte : (ctesOf v)[i]? = some cte) (hquery : cte.get? "ctequery" = some query) :
    Skipped v (.key "withClause" :: .key "ctes" :: .index i :: .key "ctequery" :: path) ↔
      ¬ IsSelect query ∨ Skipped query path := by
  obtain ⟨with_, ctes, hwith, hctes, hindex, hkey⟩ := child?_of_cte hcte hquery
  have hatWith : v.at? [.key "withClause"] = some with_ := at?_cons_eq_some.2 ⟨_, hwith, rfl⟩
  have hatCtes : v.at? [.key "withClause", .key "ctes"] = some ctes :=
    at?_cons_eq_some.2 ⟨_, hwith, at?_cons_eq_some.2 ⟨_, hctes, rfl⟩⟩
  have hatCte := (at?_cte v i).trans hcte
  have hatQuery : v.at? [.key "withClause", .key "ctes", .index i, .key "ctequery"] = some query :=
    at?_cons_eq_some.2 ⟨_, hwith, at?_cons_eq_some.2 ⟨_, hctes,
      at?_cons_eq_some.2 ⟨_, hindex, at?_cons_eq_some.2 ⟨_, hkey, rfl⟩⟩⟩⟩
  rw [skipped_cons hwith, skipped_cons_of_not_isSelect hctes (hg.node.withClause hs _ hatWith),
    skipped_cons_of_not_isSelect hindex (hg.node.ctes hs _ hatCtes),
    skipped_cons_of_not_isSelect hkey (hg.node.cte hs _ _ hatCte).1]
  refine or_congr_left ⟨?_, fun hno => ⟨hs, i, path, query, rfl, rfl, hatQuery, hno⟩⟩
  rintro ⟨-, j, below, query', -, heq, hatQuery', hno⟩
  cases heq
  obtain rfl := Option.some.inj (hatQuery.symm.trans hatQuery')
  exact hno

/-- Outside its `WITH` clause a statement skips what its fields skip. -/
theorem skipped_body {v c : Value} {k : String} {path : Path} (hc : v.get? k = some c)
    (hk : k ≠ "withClause") : Skipped v (.key k :: path) ↔ Skipped c path := by
  rw [skipped_cons (show v.child? (.key k) = some c from hc), or_iff_right]
  rintro ⟨-, i, below, query, heq, -⟩
  exact hk (Step.key.inj heq)

/-- A statement is in order when the query of each entry that is a `SELECT` is, given the names
before it, and every other field is, given all names. -/
theorem scopeOk_select {p : ValidationPolicy} {outer : String → Prop} {v : Value}
    (hg : Grammar v) (hs : IsSelect v) :
    ScopeOk p outer v ↔
      (∀ i cte query, (ctesOf v)[i]? = some cte → cte.get? "ctequery" = some query →
        IsSelect query →
          ScopeOk p (fun name => outer name ∨ NamedIn ((ctesOf v).take i) name) query) ∧
      ∀ k c, v.get? k = some c → k ≠ "withClause" →
        ScopeOk p (fun name => outer name ∨ NamedIn (ctesOf v) name) c := by
  constructor
  · intro h
    constructor
    · intro i cte query hcte hquery hselect path node hnode htag hskip
      obtain ⟨with_, ctes, hwith, hctes, hindex, hkey⟩ := child?_of_cte hcte hquery
      have hat : v.at? (.key "withClause" :: .key "ctes" :: .index i :: .key "ctequery" :: path) =
          some node :=
        at?_cons_eq_some.2 ⟨_, hwith, at?_cons_eq_some.2 ⟨_, hctes,
          at?_cons_eq_some.2 ⟨_, hindex, at?_cons_eq_some.2 ⟨_, hkey, hnode⟩⟩⟩⟩
      refine (resolved_congr fun name => ?_).1 (h _ node hat htag fun hskipped =>
        ((skipped_cte hg hs hcte hquery).1 hskipped).elim (fun hno => hno hselect) hskip)
      rw [visibleAt_cte hg hs hcte hquery, or_assoc]
    · intro k c hc hk path node hnode htag hskip
      have hat : v.at? (.key k :: path) = some node := at?_cons_eq_some.2 ⟨c, hc, hnode⟩
      rw [← skipped_body hc hk] at hskip
      refine (resolved_congr fun name => ?_).1 (h _ node hat htag hskip)
      have hchild : v.child? (.key k) = some c := hc
      rw [visibleAt_cons hchild, declaredFor_body (by simpa using hk),
        and_iff_right hs, or_assoc]
  · rintro ⟨hqueries, hbody⟩ (_ | ⟨step, path⟩) node hnode htag hskip
    · cases hnode
      exact absurd hs (isRangeVar_not_isSelect htag)
    · obtain ⟨c, hc, hnode'⟩ := at?_cons_eq_some.1 hnode
      cases step with
      | index i =>
        rw [Value.child?, items_of_isSelect hs] at hc
        cases hc
      | key k =>
        by_cases hk : k = "withClause"
        · subst hk
          obtain ⟨i, cte, query, path, rfl, hentry, hquery, hnode'⟩ :=
            rangeVar_in_clause hg hs hnode htag
          rw [skipped_cte hg hs hentry hquery, not_or, not_not] at hskip
          refine (resolved_congr fun name => ?_).1
            (hqueries i cte query hentry hquery hskip.1 path node hnode' htag hskip.2)
          rw [visibleAt_cte hg hs hentry hquery, or_assoc]
        · rw [skipped_body hc hk] at hskip
          refine (resolved_congr fun name => ?_).1 (hbody k c hc hk path node hnode' htag hskip)
          rw [visibleAt_cons hc, declaredFor_body (by simpa using hk),
            and_iff_right hs, or_assoc]

/-- A statement adds what the queries of its entries that are `SELECT`s and its other fields add. -/
theorem scopeAdds_select {v : Value} (hg : Grammar v) (hs : IsSelect v) (k : Recorded) :
    ScopeAdds v k ↔
      (∃ cte ∈ ctesOf v, ∃ query, cte.get? "ctequery" = some query ∧ IsSelect query ∧
        ScopeAdds query k) ∨
      ∃ key c, v.get? key = some c ∧ key ≠ "withClause" ∧ ScopeAdds c k := by
  constructor
  · rintro ⟨_ | ⟨step, path⟩, node, name, hat, htag, hskip, hname⟩
    · cases hat
      exact absurd hs (isRangeVar_not_isSelect htag)
    · obtain ⟨c, hc, hnode⟩ := at?_cons_eq_some.1 hat
      cases step with
      | index i =>
        rw [Value.child?, items_of_isSelect hs] at hc
        cases hc
      | key key =>
        by_cases hkey : key = "withClause"
        · subst hkey
          obtain ⟨i, cte, query, path, rfl, hentry, hquery, hnode⟩ :=
            rangeVar_in_clause hg hs hat htag
          rw [skipped_cte hg hs hentry hquery, not_or, not_not] at hskip
          exact .inl ⟨cte, List.mem_of_getElem? hentry, query, hquery, hskip.1, path, node, name,
            hnode, htag, hskip.2, hname⟩
        · rw [skipped_body hc hkey] at hskip
          exact .inr ⟨key, c, hc, hkey, path, node, name, hnode, htag, hskip, hname⟩
  · rintro (⟨cte, hmem, query, hquery, hselect, path, node, name, hnode, htag, hskip, hname⟩ |
      ⟨key, c, hc, hkey, path, node, name, hnode, htag, hskip, hname⟩)
    · obtain ⟨i, hi⟩ := List.mem_iff_getElem?.1 hmem
      obtain ⟨with_, ctes, hwith, hctes, hindex, hchild⟩ := child?_of_cte hi hquery
      refine ⟨.key "withClause" :: .key "ctes" :: .index i :: .key "ctequery" :: path, node, name,
        at?_cons_eq_some.2 ⟨_, hwith, at?_cons_eq_some.2 ⟨_, hctes, at?_cons_eq_some.2 ⟨_, hindex,
          at?_cons_eq_some.2 ⟨_, hchild, hnode⟩⟩⟩⟩, htag, ?_, hname⟩
      rw [skipped_cte hg hs hi hquery, not_or, not_not]
      exact ⟨hselect, hskip⟩
    · refine ⟨.key key :: path, node, name, at?_cons_eq_some.2 ⟨c, hc, hnode⟩, htag, ?_, hname⟩
      rwa [skipped_body hc hkey]

/-! ## The pass -/

/-- What `_validate_scoped_value` does, for all values that `depth` is enough for. -/
def ScopedValueSpec (p : ValidationPolicy) (depth : Nat) : Prop :=
  ∀ v outer, Grammar v → 2 * v.height ≤ depth →
    Records Collected.has (validateScopedValue p depth v outer) () (ScopeOk p (· ∈ outer) v)
      (ScopeAdds v)

/-- What `_validate_select_scope` does, for all statements that `depth` is enough for. -/
def SelectScopeSpec (p : ValidationPolicy) (depth : Nat) : Prop :=
  ∀ v outer, Grammar v → IsSelect v → 2 * v.height ≤ depth + 1 →
    Records Collected.has (validateSelectScope p depth v outer) () (ScopeOk p (· ∈ outer) v)
      (ScopeAdds v)

/-- One call of `_validate_scoped_value`, given what the calls below it do. -/
theorem scopedValueSpec_succ {p : ValidationPolicy} {depth : Nat} (hvalue : ScopedValueSpec p depth)
    (hselect : SelectScopeSpec p depth) : ScopedValueSpec p (depth + 1) := by
  intro v outer hg hdepth
  rw [validateScopedValue]
  split
  · next htag =>
    exact (validateRangeVar_records p outer hg.node htag).congr (scopeOk_rangeVar hg.node htag).symm
      fun _ k => (scopeAdds_rangeVar hg.node htag k).symm
  · next hrange =>
    split
    · next htag => exact hselect v outer hg htag hdepth
    · next hs =>
      have hchild : ∀ step c, v.child? step = some c →
          Records Collected.has (validateScopedValue p depth c outer) ()
            (ScopeOk p (· ∈ outer) c) (ScopeAdds c) := by
        intro step c hc
        have hlt := height_lt_of_child? hc
        exact hvalue c outer (hg.child hc) (by omega)
      obtain ⟨hfields, hitems⟩ := (forall_child_iff hg.node.keysNodup).1 hchild
      refine ((Records.forM hfields).seq (Records.forM hitems)).congr ?_ fun _ k => ?_
      · rw [scopeOk_iff_child hrange hs, forall_child_iff hg.node.keysNodup]
      · rw [scopeAdds_iff_child hrange hs, exists_child_iff hg.node.keysNodup]

/-- One entry of a `WITH` clause: its query is checked with the names before it, if it is a
`SELECT`. -/
theorem cte_records {p : ValidationPolicy} {depth : Nat} (hselect : SelectScopeSpec p depth)
    {v cte : Value} (hg : Grammar v) (hdepth : 2 * v.height ≤ depth + 2) (hmem : cte ∈ ctesOf v)
    (visible : Finset String) :
    Records Collected.has
      (do
        let query := cte.get "ctequery"
        if (query.get "@").isStr "SelectStmt" then validateSelectScope p depth query visible
        return addCteName visible cte)
      (addCteName visible cte)
      (∀ query, cte.get? "ctequery" = some query → IsSelect query → ScopeOk p (· ∈ visible) query)
      (fun k => ∃ query, cte.get? "ctequery" = some query ∧ IsSelect query ∧
        ScopeAdds query k) := by
  dsimp only
  obtain ⟨i, hi⟩ := List.mem_iff_getElem?.1 hmem
  cases hquery : cte.get? "ctequery" with
  | none =>
    have hget : cte.get "ctequery" = .none := by rw [Value.get, hquery]; rfl
    rw [hget, if_neg (by decide)]
    exact (Records.pure _).congr (by simp) fun _ _ => by simp
  | some query =>
    have hget : cte.get "ctequery" = query := by rw [Value.get, hquery]; rfl
    rw [hget]
    by_cases htag : IsSelect query
    · obtain ⟨with_, ctes, hwith, hctes, hindex, hkey⟩ := child?_of_cte hi hquery
      have hat : v.at? [.key "withClause", .key "ctes", .index i, .key "ctequery"] = some query :=
        at?_cons_eq_some.2 ⟨_, hwith, at?_cons_eq_some.2 ⟨_, hctes,
          at?_cons_eq_some.2 ⟨_, hindex, at?_cons_eq_some.2 ⟨_, hkey, rfl⟩⟩⟩⟩
      have hlt : query.height < v.height := by
        have h1 := height_lt_of_child? hwith
        have h2 := height_lt_of_child? hctes
        have h3 := height_lt_of_child? hindex
        have h4 := height_lt_of_child? hkey
        omega
      rw [if_pos (show (query.get "@").isStr "SelectStmt" = true from htag)]
      exact ((hselect query visible (hg.below hat) htag (by omega)).seq (Records.pure _)).congr
        (by simp [htag]) fun _ _ => by simp [htag]
    · rw [if_neg (show ¬ (query.get "@").isStr "SelectStmt" = true from htag)]
      exact (Records.pure _).congr (by simp [htag]) fun _ _ => by simp [htag]

/-- To split a list before an element is to name its index. -/
theorem forall_split_iff {α : Type} {l : List α} {Q : List α → α → Prop} :
    (∀ pre x post, l = pre ++ x :: post → Q pre x) ↔
      ∀ i x, l[i]? = some x → Q (l.take i) x := by
  constructor
  · intro h i x hi
    refine h _ x (l.drop (i + 1)) ?_
    obtain ⟨hlt, rfl⟩ := List.getElem?_eq_some_iff.1 hi
    rw [List.getElem_cons_drop, List.take_append_drop]
  · rintro h pre x post rfl
    have hx := h pre.length x (by simp)
    rwa [List.take_left] at hx

theorem exists_split_iff {α : Type} {l : List α} {Q : α → Prop} :
    (∃ pre x post, l = pre ++ x :: post ∧ Q x) ↔ ∃ x ∈ l, Q x := by
  constructor
  · rintro ⟨pre, x, post, rfl, hx⟩
    exact ⟨x, by simp, hx⟩
  · rintro ⟨x, hmem, hx⟩
    obtain ⟨pre, post, heq⟩ := List.append_of_mem hmem
    exact ⟨pre, x, post, heq, hx⟩

theorem scopeOk_congr {p : ValidationPolicy} {outer outer' : String → Prop} {v : Value}
    (h : ∀ name, outer name ↔ outer' name) : ScopeOk p outer v ↔ ScopeOk p outer' v := by
  rw [funext fun name => propext (h name)]

/-- One call of `_validate_select_scope`, given what the calls below it do. -/
theorem selectScopeSpec_succ {p : ValidationPolicy} {depth : Nat} (hvalue : ScopedValueSpec p depth)
    (hselect : SelectScopeSpec p depth) : SelectScopeSpec p (depth + 1) := by
  intro v outer hg hs hdepth
  have hnames : ∀ cte ∈ ctesOf v, ∃ s, s ≠ "" ∧ cte.get "ctename" = .str s := by
    intro cte hmem
    obtain ⟨i, hi⟩ := List.mem_iff_getElem?.1 hmem
    exact (hg.node.cte hs i cte ((at?_cte v i).trans hi)).2
  have hbody : ∀ visible, ∀ field ∈ v.fields,
      Records Collected.has
        (if field.1 ≠ "withClause" then validateScopedValue p depth field.2 visible else pure ()) ()
        (field.1 ≠ "withClause" → ScopeOk p (· ∈ visible) field.2)
        (fun k => field.1 ≠ "withClause" ∧ ScopeAdds field.2 k) := by
    intro visible field hmem
    have hchild : v.child? (.key field.1) = some field.2 :=
      Value.get?_of_mem_fields hg.node.keysNodup hmem
    have hlt := Value.height_lt_of_mem_fields hmem
    refine (Records.ite (fun _ => hvalue field.2 visible (hg.child hchild) (by omega)) fun _ =>
      Records.pure ()).congr ?_ fun _ _ => ?_
    · by_cases hk : field.1 = "withClause" <;> simp [hk]
    · by_cases hk : field.1 = "withClause" <;> simp [hk]
  rw [validateSelectScope]
  refine ((Records.foldlM fun visible cte hmem =>
    cte_records hselect hg hdepth hmem visible).bind (Records.forM (hbody _))).congr ?_
      fun _ k => ?_
  · rw [scopeOk_select hg hs]
    refine and_congr ?_ ⟨fun h key c hc hk => ?_, fun h field hmem hk => ?_⟩
    · rw [forall_split_iff (Q := fun pre cte => ∀ query, cte.get? "ctequery" = some query →
        IsSelect query → ScopeOk p (· ∈ pre.foldl addCteName outer) query)]
      refine forall_congr' fun i => forall_congr' fun cte => ?_
      have hscope : ∀ query, ScopeOk p (· ∈ ((ctesOf v).take i).foldl addCteName outer) query ↔
          ScopeOk p (fun name => name ∈ outer ∨ NamedIn ((ctesOf v).take i) name) query := fun _ =>
        scopeOk_congr fun name => mem_foldl_addCteName fun c hc =>
          hnames c (List.mem_of_mem_take hc)
      exact ⟨fun h query hcte hquery htag => (hscope query).1 (h hcte query hquery htag),
        fun h hcte query hquery htag => (hscope query).2 (h query hcte hquery htag)⟩
    · exact (scopeOk_congr fun name => mem_foldl_addCteName hnames).1
        (h (key, c) (Value.mem_fields_of_get? hc) hk)
    · exact (scopeOk_congr fun name => mem_foldl_addCteName hnames).2
        (h field.1 field.2 (Value.get?_of_mem_fields hg.node.keysNodup hmem) hk)
  · rw [scopeAdds_select hg hs, exists_split_iff (Q := fun cte : Value =>
      ∃ query, cte.get? "ctequery" = some query ∧ IsSelect query ∧ ScopeAdds query k)]
    refine or_congr_right ⟨?_, ?_⟩
    · rintro ⟨field, hmem, hk, hadds⟩
      exact ⟨field.1, field.2, Value.get?_of_mem_fields hg.node.keysNodup hmem, hk, hadds⟩
    · rintro ⟨key, c, hc, hk, hadds⟩
      exact ⟨(key, c), Value.mem_fields_of_get? hc, hk, hadds⟩

/-- The two functions, at every depth. -/
theorem scopeSpecs (p : ValidationPolicy) :
    ∀ depth, ScopedValueSpec p depth ∧ SelectScopeSpec p depth
  | 0 => by
    constructor
    · intro v outer _ hdepth
      have := v.height_pos
      omega
    · intro v outer _ _ hdepth
      have := v.height_pos
      omega
  | depth + 1 => by
    obtain ⟨hvalue, hselect⟩ := scopeSpecs p depth
    exact ⟨scopedValueSpec_succ hvalue hselect, selectScopeSpec_succ hvalue hselect⟩

/-- The relation pass of a statement: every reference in it that is not skipped must be resolved,
and the qualified ones are added. -/
theorem validateScopes_records (p : ValidationPolicy) (t : SelectTree) :
    Records Collected.has (validateScopes p t.tree) ()
      (∀ path node, t.tree.at? path = some node → IsRangeVar node → ¬ Skipped t.tree path →
        Resolved p (VisibleAt t.tree path) node)
      (ScopeAdds t.tree) := by
  refine ((scopeSpecs p (2 * t.tree.height)).2 t.tree ∅ t.grammar t.isSelect (by omega)).congr ?_
    fun _ _ => Iff.rfl
  refine forall_congr' fun path => forall_congr' fun node => forall_congr' fun _ =>
    forall_congr' fun _ => forall_congr' fun _ => resolved_congr fun name => ?_
  simp

/-! ## The scope rules -/

/-- The node pass approves a statement that may be the query of a CTE only if it is a `SELECT`. -/
theorem isSelect_of_approved {p : ValidationPolicy} {query : Value} {tag : String}
    (hpreparable : tag ∈ preparableTags) (htag : query.get "@" = .str tag)
    (happroved : NodeApproved p query) : IsSelect query := by
  have hnode : nodeTag query = tag := text_getD_of_str htag
  have hallowed : ∀ tag ∈ preparableTags, tag ∈ allowedNodeTags → tag = "SelectStmt" := by decide
  rw [IsSelect, htag, hallowed tag hpreparable (hnode ▸ happroved.allowed)]
  rfl

/-- In a tree that the node pass accepts nothing is skipped. -/
theorem not_skipped_of_approved {p : ValidationPolicy} {t : SelectTree}
    (h : ∀ node ∈ walkNodes t.tree, NodeApproved p node) (path : Path) : ¬ Skipped t.tree path := by
  rintro ⟨above, below, sel, i, query, -, hsel, htag, hquery, hno⟩
  obtain ⟨tag, hpreparable, hget⟩ := (t.grammar.below hsel).node.ctequery htag i query hquery
  have hwithin :
      t.tree.Within query := (Value.within_of_at? hsel).trans (Value.within_of_at? hquery)
  have hsome : (query.get? "@").isSome = true := by
    cases hnone : query.get? "@" with
    | none =>
      rw [Value.get, hnone] at hget
      cases hget
    | some => rfl
  exact hno
    (isSelect_of_approved hpreparable hget (h query (mem_walkNodes_of_within hwithin hsome)))

/-- What both passes ask of a tree, and what they record. -/
theorem validate_records (p : ValidationPolicy) (t : SelectTree) :
    Records Collected.has (validate p t.tree) ()
      ((∀ node ∈ walkNodes t.tree, NodeApproved p node) ∧
        ∀ path node, t.tree.at? path = some node → IsRangeVar node →
          Resolved p (VisibleAt t.tree path) node)
      fun k => (∃ node ∈ walkNodes t.tree, NodeRecords node k) ∨ ScopeAdds t.tree k := by
  refine ((validateNodes_records p t.tree).seq (validateScopes_records p t)).congr
    (and_congr_right fun happroved => ?_) fun _ _ => Iff.rfl
  have hskip := not_skipped_of_approved happroved
  exact ⟨fun h path node hat htag => h path node hat htag (hskip path),
    fun h path node hat htag _ => h path node hat htag⟩

/-- The relations of a result are the texts of the qualified references of its tree. -/
theorem mem_relations_iff {t : SelectTree} {parser : SqlParser} {limits : SqlLimits} {sql : String}
    {result : ValidatedSql} (hparse : parser.parse sql = some [t.tree])
    (h : validateSql parser limits sql = .ok result) (name : String) :
    name ∈ result.relations ↔
      ∃ path node, t.tree.at? path = some node ∧ IsRangeVar node ∧ Qualified node name := by
  obtain ⟨-, tree, collected, fingerprint, hparse', -, hrun, -, rfl⟩ := validateSql_eq_ok.1 h
  rw [hparse] at hparse'
  obtain rfl : t.tree = tree := by simpa using hparse'
  obtain ⟨⟨happroved, -⟩, -, hadds⟩ := (validate_records limits.policy t).inv hrun
  have hname := hadds (.relation name)
  have hnodes : ¬ ∃ node ∈ walkNodes t.tree, NodeRecords node (.relation name) := by
    rintro ⟨node, -, h⟩
    exact h
  rw [or_iff_right hnodes, Collected.has, Collected.has] at hname
  rw [Collected.result, mem_sorted, hname]
  simp only [ScopeAdds, Finset.notMem_empty, false_or, Recorded.relation.injEq]
  constructor
  · rintro ⟨path, node, name', hat, htag, -, hqualified, rfl⟩
    exact ⟨path, node, hat, htag, hqualified⟩
  · rintro ⟨path, node, hat, htag, hqualified⟩
    exact ⟨path, node, name, hat, htag, not_skipped_of_approved happroved path, hqualified, rfl⟩

/-- **CTE scope is PostgreSQL's, but for the queries of CTEs that are no `SELECT`.** On the tree of
a `SELECT` the relation pass succeeds exactly if every `RangeVar` outside such queries, at any
depth, names no other database and is either the name of a CTE visible at its position or a
qualified relation in the allowlist. The relations of a result are exactly the qualified ones of the
whole tree, since the node pass refuses such queries. -/
theorem cteScope_exact (t : SelectTree) :
    (∀ p collected,
      (∃ collected', (validateScopes p t.tree).run collected = .ok ((), collected')) ↔
        ∀ path node, t.tree.at? path = some node → IsRangeVar node → ¬ Skipped t.tree path →
          Resolved p (VisibleAt t.tree path) node) ∧
    ∀ parser limits sql result, parser.parse sql = some [t.tree] →
      validateSql parser limits sql = .ok result →
        (∀ path, ¬ Skipped t.tree path) ∧
        ∀ name, name ∈ result.relations ↔
          ∃ path node, t.tree.at? path = some node ∧ IsRangeVar node ∧ Qualified node name := by
  constructor
  · intro p collected
    have hrecords := validateScopes_records p t
    constructor
    · rintro ⟨collected', hrun⟩
      exact (hrecords.inv hrun).1
    · intro hresolved
      exact hrecords.succeeds hresolved collected
  · intro parser limits sql result hparse h
    obtain ⟨-, tree, collected, fingerprint, hparse', -, hrun, -, -⟩ := validateSql_eq_ok.1 h
    obtain rfl : t.tree = tree := by simpa using hparse.symm.trans hparse'
    obtain ⟨⟨happroved, -⟩, -, -⟩ := (validate_records limits.policy t).inv hrun
    exact ⟨not_skipped_of_approved happroved, mem_relations_iff hparse h⟩

/-! ## Checking the grammar -/

/-- No `RangeVar` lies in the value. -/
def noRangeVar (v : Value) : Bool :=
  (walkNodes v).all fun node => !(node.get "@").isStr "RangeVar"

/-- The field is absent, or a text that is not empty. -/
def identifierCheck (v : Value) (key : String) : Bool :=
  match v.get key with
  | .none => true
  | .str s => s ≠ ""
  | _ => false

/-- The field is a text that is not empty. -/
def nameCheck (v : Value) (key : String) : Bool :=
  match v.get key with
  | .str s => s ≠ ""
  | _ => false

/-- The value is neither a statement nor a reference, and its references lie under this key. -/
def holdsOnly (v : Value) (key : String) : Bool :=
  !(v.get "@").isStr "SelectStmt" && !(v.get "@").isStr "RangeVar" && v.items.isEmpty &&
    v.fields.all fun field => field.1 = key || noRangeVar field.2

/-- The value may be the query of a CTE. -/
def queryCheck (query : Value) : Bool :=
  match query.get "@" with
  | .str tag => tag ∈ preparableTags
  | _ => false

/-- The value is an entry of a `WITH` clause. -/
def cteCheck (cte : Value) : Bool :=
  holdsOnly cte "ctequery" && nameCheck cte "ctename" && (cte.get? "ctequery").all queryCheck

/-- The value is the list of the entries. -/
def ctesCheck (ctes : Value) : Bool :=
  ctes.fields.isEmpty && ctes.items.all cteCheck

/-- The value is a `WITH` clause. -/
def withCheck (clause : Value) : Bool :=
  holdsOnly clause "ctes" && (clause.get? "ctes").all ctesCheck

/-- The value is as the grammar builds it, on its own. -/
def nodeCheck (v : Value) : Bool :=
  decide (v.fields.map Prod.fst).Nodup &&
    (!(v.get "@").isStr "RangeVar" || (identifierCheck v "catalogname" &&
      identifierCheck v "schemaname" && nameCheck v "relname" &&
      v.fields.all fun field => noRangeVar field.2)) &&
    (!(v.get "@").isStr "SelectStmt" || (v.get? "withClause").all withCheck)

mutual

/-- The value is as the grammar builds it, with all that lies in it. -/
def grammarCheck : Value → Bool
  | .map fields => nodeCheck (.map fields) && fieldsCheck fields
  | .tuple items | .list items => itemsCheck items
  | _ => true

/-- So are the fields. -/
def fieldsCheck : List (String × Value) → Bool
  | [] => true
  | (_, v) :: fields => grammarCheck v && fieldsCheck fields

/-- So are the members. -/
def itemsCheck : List Value → Bool
  | [] => true
  | v :: items => grammarCheck v && itemsCheck items

end

theorem identifierCheck_sound {v : Value} {key : String} (h : identifierCheck v key = true) :
    IdentifierField v key := by
  unfold identifierCheck at h
  split at h
  · next hnone => exact .inl (by rw [hnone]; rfl)
  · next s hs => exact .inr ⟨s, of_decide_eq_true h, hs⟩
  · cases h

theorem nameCheck_sound {v : Value} {key : String} (h : nameCheck v key = true) :
    ∃ s, s ≠ "" ∧ v.get key = .str s := by
  unfold nameCheck at h
  split at h
  · next s hs => exact ⟨s, of_decide_eq_true h, hs⟩
  · cases h

theorem queryCheck_sound {query : Value} (h : queryCheck query = true) :
    ∃ tag ∈ preparableTags, query.get "@" = .str tag := by
  unfold queryCheck at h
  split at h
  · next tag htag => exact ⟨tag, of_decide_eq_true h, htag⟩
  · cases h

/-- Where no reference lies, none is found. -/
theorem not_isRangeVar_of_noRangeVar {v w : Value} {path : Path} (h : noRangeVar v = true)
    (hw : v.at? path = some w) : ¬ IsRangeVar w := by
  intro htag
  have hsome : (w.get? "@").isSome = true := by
    cases hget : w.get? "@" with
    | none => rw [IsRangeVar, Value.get, hget] at htag; cases htag
    | some => rfl
  have hno := List.all_eq_true.1 h w (mem_walkNodes_of_within (Value.within_of_at? hw) hsome)
  rw [show (w.get "@").isStr "RangeVar" = true from htag] at hno
  cases hno

/-- A reference in such a value lies under the key. -/
theorem holdsOnly_sound {v : Value} {key : String} (h : holdsOnly v key = true) :
    ¬ IsSelect v ∧ ∀ path w, v.at? path = some w → IsRangeVar w →
      ∃ rest c, path = .key key :: rest ∧ v.get? key = some c ∧ c.at? rest = some w := by
  simp only [holdsOnly, Bool.and_eq_true, Bool.not_eq_true', List.isEmpty_iff, List.all_eq_true,
    Bool.or_eq_true, decide_eq_true_eq] at h
  obtain ⟨⟨⟨hselect, hrange⟩, hitems⟩, hfields⟩ := h
  refine ⟨Bool.eq_false_iff.1 hselect, fun path w hw htag => ?_⟩
  cases path with
  | nil =>
    cases hw
    exact absurd htag (Bool.eq_false_iff.1 hrange)
  | cons step rest =>
    obtain ⟨c, hc, hbelow⟩ := at?_cons_eq_some.1 hw
    cases step with
    | index i =>
      rw [Value.child?, hitems] at hc
      cases hc
    | key k =>
      obtain heq | hno := hfields (k, c) (Value.mem_fields_of_get? hc)
      · dsimp only at heq
        subst heq
        exact ⟨rest, c, rfl, hc, hbelow⟩
      · exact absurd htag (not_isRangeVar_of_noRangeVar hno hbelow)

/-- The clause of a statement, if it has one that passes. -/
theorem withCheck_at {v w : Value} {rest : Path} (h : (v.get? "withClause").all withCheck = true)
    (hw : v.at? (.key "withClause" :: rest) = some w) :
    ∃ clause, withCheck clause = true ∧ v.get? "withClause" = some clause ∧
      clause.at? rest = some w := by
  obtain ⟨clause, hclause, hw⟩ := at?_cons_eq_some.1 hw
  rw [show v.get? "withClause" = some clause from hclause] at h
  exact ⟨clause, h, hclause, hw⟩

/-- The entries of a clause. -/
theorem ctesCheck_at {clause w : Value} {rest : Path} (h : withCheck clause = true)
    (hw : clause.at? (.key "ctes" :: rest) = some w) :
    ∃ ctes, ctesCheck ctes = true ∧ ctes.at? rest = some w := by
  obtain ⟨ctes, hctes, hw⟩ := at?_cons_eq_some.1 hw
  rw [withCheck, Bool.and_eq_true, show clause.get? "ctes" = some ctes from hctes] at h
  exact ⟨ctes, h.2, hw⟩

/-- Below the entries there is an entry. -/
theorem cteCheck_at {ctes w : Value} {step : Step} {rest : Path} (h : ctesCheck ctes = true)
    (hw : ctes.at? (step :: rest) = some w) :
    ∃ i cte, step = .index i ∧ cteCheck cte = true ∧ cte.at? rest = some w := by
  rw [ctesCheck, Bool.and_eq_true, List.isEmpty_iff, List.all_eq_true] at h
  obtain ⟨cte, hcte, hbelow⟩ := at?_cons_eq_some.1 hw
  cases step with
  | key k =>
    rw [Value.child?, Value.get?, h.1] at hcte
    cases hcte
  | index i => exact ⟨i, cte, rfl, h.2 cte (List.mem_of_getElem? hcte), hbelow⟩

/-- A list of entries has no tag. -/
theorem ctesCheck_untagged {ctes : Value} (h : ctesCheck ctes = true) : ctes.get "@" = .none := by
  rw [ctesCheck, Bool.and_eq_true, List.isEmpty_iff] at h
  rw [Value.get, Value.get?, h.1]
  rfl

/-- **What the check says of one value.** -/
theorem nodeCheck_sound {v : Value} (h : nodeCheck v = true) : NodeGrammar v := by
  rw [nodeCheck, Bool.and_eq_true, Bool.and_eq_true, Bool.or_eq_true, Bool.or_eq_true,
    Bool.not_eq_true', Bool.not_eq_true', decide_eq_true_eq] at h
  obtain ⟨⟨hkeys, hrange⟩, hselect⟩ := h
  have hreference : IsRangeVar v → identifierCheck v "catalogname" = true ∧
      identifierCheck v "schemaname" = true ∧ nameCheck v "relname" = true ∧
      ∀ field ∈ v.fields, noRangeVar field.2 = true := by
    intro htag
    have hchecked := hrange.resolve_left fun hno => absurd htag (Bool.eq_false_iff.1 hno)
    simpa only [Bool.and_eq_true, List.all_eq_true, and_assoc] using hchecked
  have hclause : IsSelect v → (v.get? "withClause").all withCheck = true :=
    fun htag => hselect.resolve_left fun hno => absurd htag (Bool.eq_false_iff.1 hno)
  refine ⟨hkeys, fun htag => ?_, fun htag step rest w hw => ?_, fun htag w hw => ?_,
    fun htag w hw => ?_, fun htag i w hw => ?_, fun htag i w hw => ?_,
      fun htag rest w hw hnode => ?_⟩
  · obtain ⟨hcatalog, hschema, hname, -⟩ := hreference htag
    exact ⟨identifierCheck_sound hcatalog, identifierCheck_sound hschema, nameCheck_sound hname⟩
  · obtain ⟨c, hc, hbelow⟩ := at?_cons_eq_some.1 hw
    cases step with
    | key k =>
      exact not_isRangeVar_of_noRangeVar
        ((hreference htag).2.2.2 (k, c) (Value.mem_fields_of_get? hc)) hbelow
    | index i =>
      cases v with
      | map => cases hc
      | none | bool | int | str | tuple | list => cases htag
  · obtain ⟨clause, hcheck, -, hw⟩ := withCheck_at (hclause htag) hw
    cases hw
    rw [withCheck, Bool.and_eq_true] at hcheck
    exact (holdsOnly_sound hcheck.1).1
  · obtain ⟨clause, hcheck, -, hw⟩ := withCheck_at (hclause htag) hw
    obtain ⟨ctes, hctes, hw⟩ := ctesCheck_at hcheck hw
    cases hw
    rw [IsSelect, ctesCheck_untagged hctes]
    decide
  · obtain ⟨clause, hcheck, -, hw⟩ := withCheck_at (hclause htag) hw
    obtain ⟨ctes, hctes, hw⟩ := ctesCheck_at hcheck hw
    obtain ⟨_, cte, -, hcte, hw⟩ := cteCheck_at hctes hw
    cases hw
    rw [cteCheck, Bool.and_eq_true, Bool.and_eq_true] at hcte
    exact ⟨(holdsOnly_sound hcte.1.1).1, nameCheck_sound hcte.1.2⟩
  · obtain ⟨clause, hcheck, -, hw⟩ := withCheck_at (hclause htag) hw
    obtain ⟨ctes, hctes, hw⟩ := ctesCheck_at hcheck hw
    obtain ⟨_, cte, -, hcte, hw⟩ := cteCheck_at hctes hw
    obtain ⟨query, hquery, hw⟩ := at?_cons_eq_some.1 hw
    cases hw
    rw [cteCheck, Bool.and_eq_true, show cte.get? "ctequery" = some w from hquery] at hcte
    exact queryCheck_sound hcte.2
  · obtain ⟨clause, hcheck, -, hw⟩ := withCheck_at (hclause htag) hw
    have hholds := hcheck
    rw [withCheck, Bool.and_eq_true] at hholds
    obtain ⟨rest, _, rfl, -, -⟩ := (holdsOnly_sound hholds.1).2 _ w hw hnode
    obtain ⟨ctes, hctes, hw⟩ := ctesCheck_at hcheck hw
    cases rest with
    | nil =>
      cases hw
      rw [IsRangeVar, ctesCheck_untagged hctes] at hnode
      cases hnode
    | cons step rest =>
      obtain ⟨i, cte, rfl, hcte, hw⟩ := cteCheck_at hctes hw
      rw [cteCheck, Bool.and_eq_true, Bool.and_eq_true] at hcte
      obtain ⟨rest, _, rfl, -, -⟩ := (holdsOnly_sound hcte.1.1).2 _ w hw hnode
      exact ⟨i, rest, rfl⟩

theorem grammarCheck_of_mem_fields {fields : List (String × Value)} {field : String × Value}
    (h : fieldsCheck fields = true) (hmem : field ∈ fields) : grammarCheck field.2 = true := by
  induction fields with
  | nil => cases hmem
  | cons head fields ih =>
    rw [fieldsCheck, Bool.and_eq_true] at h
    rcases List.mem_cons.1 hmem with rfl | hmem
    · exact h.1
    · exact ih h.2 hmem

theorem grammarCheck_of_mem_items {items : List Value} {item : Value}
    (h : itemsCheck items = true) (hmem : item ∈ items) : grammarCheck item = true := by
  induction items with
  | nil => cases hmem
  | cons head items ih =>
    rw [itemsCheck, Bool.and_eq_true] at h
    rcases List.mem_cons.1 hmem with rfl | hmem
    · exact h.1
    · exact ih h.2 hmem

/-- The check of a value covers the value itself and its parts. -/
theorem grammarCheck_cases {v : Value} (h : grammarCheck v = true) :
    nodeCheck v = true ∧ ∀ step c, v.child? step = some c → grammarCheck c = true := by
  cases v with
  | map fields =>
    rw [grammarCheck, Bool.and_eq_true] at h
    refine ⟨h.1, fun step c hc => ?_⟩
    cases step with
    | key k => exact grammarCheck_of_mem_fields h.2 (Value.mem_fields_of_get? hc)
    | index i => cases hc
  | tuple items | list items =>
    rw [grammarCheck] at h
    refine ⟨rfl, fun step c hc => ?_⟩
    cases step with
    | key k => cases hc
    | index i => exact grammarCheck_of_mem_items h (List.mem_of_getElem? hc)
  | none | bool | int | str =>
    refine ⟨rfl, fun step c hc => ?_⟩
    cases step <;> cases hc

/-- **The check is sound.** -/
theorem grammarCheck_sound {v : Value} (h : grammarCheck v = true) : Grammar v := by
  intro path w hw
  induction path generalizing v with
  | nil =>
    cases hw
    exact nodeCheck_sound (grammarCheck_cases h).1
  | cons step path ih =>
    obtain ⟨c, hc, hw⟩ := at?_cons_eq_some.1 hw
    exact ih ((grammarCheck_cases h).2 step c hc) hw

/-! ## A statement that reads one relation -/

theorem grammarCheck_selectFrom {schema relation : String} (hs : schema ≠ "") (hr : relation ≠ "") :
    grammarCheck (selectFrom schema relation) = true := by
  have hschema : identifierCheck (rangeVar schema relation) "schemaname" = true := decide_eq_true hs
  have hname : nameCheck (rangeVar schema relation) "relname" = true := decide_eq_true hr
  have hnode : nodeCheck (rangeVar schema relation) = true := by
    rw [nodeCheck, hschema, hname]
    rfl
  have hreference : grammarCheck (rangeVar schema relation) = true := by
    rw [rangeVar, grammarCheck, ← rangeVar, hnode]
    rfl
  rw [selectFrom, grammarCheck, fieldsCheck, fieldsCheck, grammarCheck, itemsCheck, hreference]
  rfl

/-- `SELECT FROM "schema"."relation"` as a tree with its grammar. -/
def selectFromTree (schema relation : String) (hs : schema ≠ "") (hr : relation ≠ "") :
    SelectTree where
  tree := selectFrom schema relation
  isSelect := rfl
  grammar := grammarCheck_sound (grammarCheck_selectFrom hs hr)

/-- The only reference of the statement is the one it is made of. -/
theorem rangeVar_of_selectFrom {schema relation : String} {path : Path} {node : Value}
    (hat : (selectFrom schema relation).at? path = some node) (htag : IsRangeVar node) :
    node = rangeVar schema relation := by
  have hsome : (node.get? "@").isSome = true := by
    cases hget : node.get? "@" with
    | none => rw [IsRangeVar, Value.get, hget] at htag; cases htag
    | some => rfl
  have hmem : node ∈ [selectFrom schema relation, rangeVar schema relation] :=
    mem_walkNodes_of_within (Value.within_of_at? hat) hsome
  simp only [List.mem_cons, List.not_mem_nil, or_false] at hmem
  rcases hmem with rfl | rfl
  · cases htag
  · rfl

/-- The statement is accepted when its text is in the allowlist. -/
theorem selectFrom_accepted {p : ValidationPolicy} {schema relation : String} (hs : schema ≠ "")
    (hr : relation ≠ "") (hallowed : schema ++ "." ++ relation ∈ p.allowedRelations)
    (collected : Collected) :
    ∃ collected', (validate p (selectFrom schema relation)).run collected =
      .ok ((), collected') := by
  refine (validate_records p (selectFromTree schema relation hs hr)).succeeds ⟨?_, ?_⟩ collected
  · have hwalk : walkNodes (selectFrom schema relation) =
        [selectFrom schema relation, rangeVar schema relation] := rfl
    intro node hmem
    rw [selectFromTree, hwalk, List.mem_cons, List.mem_singleton] at hmem
    rcases hmem with rfl | rfl
    · exact .of_select rfl rfl rfl
    · have htag : nodeTag (rangeVar schema relation) = "RangeVar" := rfl
      exact .of_tag htag (by decide)
  · intro path node hat htag
    obtain rfl := rangeVar_of_selectFrom hat htag
    exact ⟨rfl, relation, rfl, hallowed⟩

/-- A text that is read as the statement is accepted, if it is within the limits. -/
theorem validateSql_selectFrom {limits : SqlLimits} {schema relation sql : String}
    (hs : schema ≠ "") (hr : relation ≠ "")
    (hallowed : schema ++ "." ++ relation ∈ limits.allowedRelations)
    (hsql : ¬ sql.toList.all isSpace = true ∧ ¬ sql.utf8ByteSize > limits.maxSqlBytes) :
    ∃ result, validateSql (fixedParser (selectFrom schema relation)) limits sql = .ok result := by
  have hmem : schema ++ "." ++ relation ∈ limits.policy.allowedRelations :=
    List.mem_toFinset.2 hallowed
  obtain ⟨collected, hrun⟩ := selectFrom_accepted hs hr hmem ⟨∅, ∅, ∅⟩
  exact ⟨_, validateSql_of_run hrun rfl hsql⟩

/-! ## Nested and data-modifying clauses -/

/-- The tree of `SELECT FROM name`, where the name is not qualified. -/
def selectCte (name : String) : Value :=
  .map [("@", .str "SelectStmt"),
    ("fromClause", .tuple [.map [("@", .str "RangeVar"), ("relname", .str name),
      ("inh", .bool true), ("relpersistence", .str "p")]]),
    ("groupDistinct", .bool false),
    ("limitOption", enumMember "LimitOption" "LIMIT_OPTION_DEFAULT" 0),
    ("op", enumMember "SetOperation" "SETOP_NONE" 0), ("all", .bool false)]

/-- An entry of a `WITH` clause. -/
def cteEntry (name : String) (query : Value) : Value :=
  .map [("@", .str "CommonTableExpr"), ("ctename", .str name),
    ("ctematerialized", enumMember "CTEMaterialize" "CTEMaterializeDefault" 0),
    ("ctequery", query), ("cterecursive", .bool false), ("cterefcount", .int 0)]

/-- The statement with a `WITH` clause before it. -/
def addWith (ctes : List (String × Value)) (select : Value) : Value :=
  .map (select.fields ++ [("withClause", .map [("@", .str "WithClause"),
    ("ctes", .tuple (ctes.map fun cte => cteEntry cte.1 cte.2)), ("recursive", .bool false)])])

/-- The tree of `DELETE FROM "schema"."relation"`. -/
def deleteFrom (schema relation : String) : Value :=
  .map [("@", .str "DeleteStmt"), ("relation", rangeVar schema relation)]

/-- The query of `b` declares `a` again, by a query that reads the outer `a`. -/
def shadowingSql : String :=
  "WITH a AS (SELECT FROM sales.orders), " ++
    "b AS (WITH a AS (SELECT FROM a) SELECT FROM a) SELECT FROM b"

/-- The tree of that text. -/
def shadowingTree : SelectTree where
  tree := addWith
    [("a", selectFrom "sales" "orders"), ("b", addWith [("a", selectCte "a")] (selectCte "a"))]
    (selectCte "b")
  isSelect := rfl
  grammar := grammarCheck_sound (by decide)

/-- `WITH b AS (WITH a AS (SELECT FROM sales.orders) SELECT FROM a) SELECT FROM a`: the name `a` is
not visible outside the query of `b`. -/
def leakingTree : SelectTree where
  tree := addWith [("b", addWith [("a", selectFrom "sales" "orders")] (selectCte "a"))]
    (selectCte "a")
  isSelect := rfl
  grammar := grammarCheck_sound (by decide)

/-- `WITH a AS (DELETE FROM evil.t) SELECT 1`. -/
def deletingTree : SelectTree where
  tree := addWith [("a", deleteFrom "evil" "t")] (selectTarget (intConst 1))
  isSelect := rfl
  grammar := grammarCheck_sound (by decide)

/-- The limits that publish one relation. -/
def ordersLimits : SqlLimits where
  allowedRelations := ["sales.orders"]

/-- Every reference of the shadowing statement is resolved, and it reads the one relation; the
reference to the name that leaks is not. -/
theorem cteScope_exact_shadowing :
    (∃ result, validateSql (fixedParser shadowingTree.tree) ordersLimits shadowingSql = .ok result ∧
      (∀ path node, shadowingTree.tree.at? path = some node → IsRangeVar node →
        Resolved ordersLimits.policy (VisibleAt shadowingTree.tree path) node) ∧
      ∀ name, name ∈ result.relations ↔ ∃ path node,
        shadowingTree.tree.at? path = some node ∧ IsRangeVar node ∧ Qualified node name) ∧
    ¬ ∀ path node, leakingTree.tree.at? path = some node → IsRangeVar node →
      ¬ Skipped leakingTree.tree path →
        Resolved ordersLimits.policy (VisibleAt leakingTree.tree path) node := by
  constructor
  · have haccepted : accepts ordersLimits.policy shadowingTree.tree = true := by decide
    have hsql : ¬ shadowingSql.toList.all isSpace = true ∧
        ¬ shadowingSql.utf8ByteSize > ordersLimits.maxSqlBytes := by decide
    obtain ⟨result, hok⟩ := validateSql_of_accepts haccepted rfl hsql
    obtain ⟨hskip, hrelations⟩ := (cteScope_exact shadowingTree).2 _ _ _ _ rfl hok
    have hscopes : ((validateScopes ordersLimits.policy shadowingTree.tree).run
        ⟨∅, ∅, ∅⟩).isOk = true := by decide
    refine ⟨result, hok, fun path node hat htag => ?_, hrelations⟩
    cases hrun : (validateScopes ordersLimits.policy shadowingTree.tree).run ⟨∅, ∅, ∅⟩ with
    | error e =>
      rw [hrun] at hscopes
      cases hscopes
    | ok out =>
      exact ((cteScope_exact shadowingTree).1 _ _).1 ⟨out.2, hrun⟩ path node hat htag (hskip path)
  · intro hresolved
    obtain ⟨collected', hrun⟩ := ((cteScope_exact leakingTree).1 _ ⟨∅, ∅, ∅⟩).2 hresolved
    have hscopes : ((validateScopes ordersLimits.policy leakingTree.tree).run
        ⟨∅, ∅, ∅⟩).isOk = false := by decide
    rw [hrun] at hscopes
    cases hscopes

/-- **The relation pass skips a data-modifying CTE.** It succeeds on a statement with a reference
that is in no allowlist. -/
theorem deletingCte_skipped :
    (∃ collected, (validateScopes ordersLimits.policy deletingTree.tree).run ⟨∅, ∅, ∅⟩ =
      .ok ((), collected)) ∧
    ¬ ∀ path node, deletingTree.tree.at? path = some node → IsRangeVar node →
      Resolved ordersLimits.policy (VisibleAt deletingTree.tree path) node := by
  constructor
  · exact ⟨⟨∅, ∅, ∅⟩, rfl⟩
  · intro hresolved
    obtain ⟨-, relation, hrelation, hmem⟩ := hresolved
      [.key "withClause", .key "ctes", .index 0, .key "ctequery", .key "relation"]
      (rangeVar "evil" "t") rfl rfl
    cases hrelation
    exact absurd hmem (by decide)

end QueryMan
