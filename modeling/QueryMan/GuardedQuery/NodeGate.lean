import QueryMan.GuardedQuery.SqlValidation

/-!
# The node gate

What the node pass of `_ValidationPolicy.validate` accepts, node by node (`NodeApproved`), and what
it records (`NodeRecords`). `validateNodes_ok_iff` is the gate: the pass completes exactly if every
mapping that carries a tag, at any depth, is approved.
-/

namespace QueryMan

open Python

/-! ## What is recorded -/

/-- An entry of the sets that the passes collect. -/
inductive Recorded where
  | relation (name : String)
  | function (name : String)
  | operator (name : String)

/-- The entry is in its set. -/
def Collected.has (c : Collected) : Recorded → Prop
  | .relation s => s ∈ c.relations
  | .function s => s ∈ c.functions
  | .operator s => s ∈ c.operators

theorem recordRelation_records (name : String) :
    Records Collected.has (recordRelation name) () True (· = .relation name) :=
  Records.modify fun s k => by cases k <;> simp [Collected.has, or_comm]

theorem recordFunction_records (name : String) :
    Records Collected.has (recordFunction name) () True (· = .function name) :=
  Records.modify fun s k => by cases k <;> simp [Collected.has, or_comm]

theorem recordOperators_records (names : Finset String) :
    Records Collected.has (recordOperators names) () True fun k =>
      ∃ name ∈ names, k = .operator name :=
  Records.modify fun s k => by cases k <;> simp [Collected.has, or_comm]

/-! ## What a handler approves -/

/-- A call names a function that the allowlist knows by its folded name, unqualified or in
`pg_catalog`. -/
def FuncCallApproved (p : ValidationPolicy) (node : Value) : Prop :=
  ∃ name, (stringParts (node.get "funcname") = [name] ∨
      stringParts (node.get "funcname") = ["pg_catalog", name]) ∧
    casefold name ∈ p.allowedFunctions

/-- A plain `BETWEEN` is approved with both its operators; of the other kinds, those that name no
operator or one in the allowlist. -/
def AExprApproved (p : ValidationPolicy) (node : Value) : Prop :=
  if enumName node "kind" = "AEXPR_BETWEEN" then betweenApproved p node = true
  else rejectedAExprConstructs.lookup (enumName node "kind") = none ∧
    (stringParts (node.get "name") = [] ∨
      ∃ operator ∈ p.allowedOperators, stringParts (node.get "name") = [operator])

/-- A type name is absent, one of the approved unqualified ones, or in `pg_catalog`. -/
def TypeNameApproved (p : ValidationPolicy) (node : Value) : Prop :=
  stringParts (node.get "names") = [] ∨
  ∃ name, casefold name ∈ p.allowedTypes ∧
    (stringParts (node.get "names") = [name] ∧ casefold name ∈ defaultAllowedUnqualifiedTypes ∨
      stringParts (node.get "names") = ["pg_catalog", name])

/-- The node satisfies the gate: its tag is allowed, not forbidden and no other statement, and it
passes what its tag asks for. -/
structure NodeApproved (p : ValidationPolicy) (node : Value) : Prop where
  allowed : nodeTag node ∈ allowedNodeTags
  notForbidden : ∀ code, (nodeTag node, code) ∉ forbiddenNodeCodes
  statement : endsWith (nodeTag node) "Stmt" = true → nodeTag node = "SelectStmt"
  select : nodeTag node = "SelectStmt" →
    (node.get "intoClause").isNone = true ∧ (node.get "lockingClause").truthy = false
  withClause : nodeTag node = "WithClause" → (node.get "recursive").truthy = false
  valueFunction : nodeTag node = "SQLValueFunction" →
    ∃ name ∈ allowedSqlValueFunctions, ((node.get "op").get "name").isStr name = true
  collate : nodeTag node ≠ "CollateClause"
  funcCall : nodeTag node = "FuncCall" → FuncCallApproved p node
  aExpr : nodeTag node = "A_Expr" → AExprApproved p node
  typeName : nodeTag node = "TypeName" → TypeNameApproved p node

/-- What an approved node adds: the folded name of a call, and the operators of an expression. -/
def NodeRecords (node : Value) : Recorded → Prop
  | .relation _ => False
  | .function s => nodeTag node = "FuncCall" ∧
      ∃ name, (stringParts (node.get "funcname") = [name] ∨
        stringParts (node.get "funcname") = ["pg_catalog", name]) ∧
      s = "pg_catalog." ++ casefold name
  | .operator s => nodeTag node = "A_Expr" ∧
      if enumName node "kind" = "AEXPR_BETWEEN" then s = ">=" ∨ s = "<="
      else stringParts (node.get "name") = [s]

/-! ## One handler after the other -/

section Handlers
variable (p : ValidationPolicy) (node : Value)

theorem validateSelectStmt_records :
    Records Collected.has (validateSelectStmt node) ()
      ((node.get "intoClause").isNone = true ∧ (node.get "lockingClause").truthy = false)
      fun _ => False :=
  ((Records.raiseIf _ _).seq (Records.raiseIf _ _)).congr (by simp) fun _ _ => by simp

theorem validateWithClause_records :
    Records Collected.has (validateWithClause node) () ((node.get "recursive").truthy = false)
      fun _ => False :=
  (Records.raiseIf _ _).congr (by simp) fun _ _ => by simp

theorem validateSQLValueFunction_records :
    Records Collected.has (validateSQLValueFunction node) ()
      (∃ name ∈ allowedSqlValueFunctions, ((node.get "op").get "name").isStr name = true)
      fun _ => False :=
  (Records.raiseIf _ _).congr (by rw [not_not, List.any_eq_true]) fun _ _ => Iff.rfl

theorem validateCollateClause_records :
    Records Collected.has (validateCollateClause node) () False fun _ => False :=
  Records.throw _ _

/-- A call is approved by its folded name, which is what it adds. -/
theorem validateFuncCall_records :
    Records Collected.has (validateFuncCall p node) () (FuncCallApproved p node) fun k =>
      ∃ name, (stringParts (node.get "funcname") = [name] ∨
        stringParts (node.get "funcname") = ["pg_catalog", name]) ∧
      k = .function ("pg_catalog." ++ casefold name) := by
  have hgood : ∀ name : String, Records Collected.has
      (do
        raiseIf (casefold name ∉ p.allowedFunctions)
          (SqlValidationError.mk "SQL_FUNCTION_NOT_ALLOWED" "The SQL function is not approved."
            none)
        recordFunction ("pg_catalog." ++ casefold name)) ()
      (casefold name ∈ p.allowedFunctions)
      (· = .function ("pg_catalog." ++ casefold name)) := fun name =>
    ((Records.raiseIf _ _).seq (recordFunction_records _)).congr (by simp) fun _ _ => by simp
  unfold validateFuncCall FuncCallApproved
  generalize stringParts (node.get "funcname") = parts
  dsimp only
  split
  · exact (Records.throw _ _).congr (by simp) fun h => h.elim
  · next name => exact (hgood name).congr (by simp) fun _ _ => by simp
  · next schema name =>
    split
    · next hs =>
      subst hs
      exact (hgood name).congr (by simp) fun _ _ => by simp
    · next hs => exact (Records.throw _ _).congr (by simp [hs]) fun h => h.elim
  · next _ h1 h2 =>
    refine (Records.throw _ _).congr ⟨False.elim, ?_⟩ fun h => h.elim
    rintro ⟨name, h | h, -⟩
    · exact h1 name h
    · exact h2 "pg_catalog" name h

/-- A plain `BETWEEN` adds both its operators; another kind the one it names. -/
theorem validateAExpr_records :
    Records Collected.has (validateAExpr p node) () (AExprApproved p node) fun k =>
      ∃ name, k = .operator name ∧
        if enumName node "kind" = "AEXPR_BETWEEN" then name = ">=" ∨ name = "<="
        else stringParts (node.get "name") = [name] := by
  unfold validateAExpr AExprApproved
  by_cases hb : enumName node "kind" = "AEXPR_BETWEEN"
  · simp only [hb, if_true]
    exact ((Records.raiseIf _ _).seq (recordOperators_records _)).congr (by simp)
      fun _ _ => by simp [and_comm]
  · simp only [hb, if_false]
    split
    · next construct h => exact (Records.throw _ _).congr (by simp [h]) fun h => h.elim
    · next h =>
      split
      · next hp => exact (Records.pure ()).congr (by simp [h, hp]) fun _ _ => by simp [hp]
      · next operator hp =>
        exact ((Records.raiseIf _ _).seq (recordOperators_records _)).congr (by simp [h, hp])
          fun _ _ => by simp [hp, eq_comm]
      · next parts h0 h1 =>
        refine (Records.throw _ _).congr ⟨False.elim, ?_⟩ fun h => h.elim
        rintro ⟨-, h | ⟨operator, -, h⟩⟩
        · exact h0 h
        · exact h1 operator h

/-- A type name adds nothing. -/
theorem validateTypeName_records :
    Records Collected.has (validateTypeName p node) () (TypeNameApproved p node)
      fun _ => False := by
  unfold validateTypeName TypeNameApproved
  generalize stringParts (node.get "names") = parts
  dsimp only
  rcases parts.eq_nil_or_concat with rfl | ⟨pre, last, rfl⟩
  · exact (Records.pure ()).congr (by simp) fun _ _ => Iff.rfl
  · rw [List.concat_eq_append, List.getLast?_append]
    dsimp only [List.getLast?_singleton, Option.some_or]
    split
    · next h =>
      obtain ⟨hlen, hmem⟩ := h
      obtain rfl : pre = [] := by simpa using hlen
      refine (Records.raiseIf _ _).congr ?_ fun _ _ => Iff.rfl
      simp [hmem]
    · next h =>
      refine ((Records.raiseIf _ _).seq (Records.raiseIf _ _)).congr ?_ fun _ _ => by simp
      rcases pre with _ | ⟨schema, _ | ⟨_, _⟩⟩
      · have hmem : casefold last ∉ defaultAllowedUnqualifiedTypes := fun hm => h ⟨rfl, hm⟩
        simp [hmem]
      · simp [and_comm]
      · simp
end Handlers

/-! ## One node -/

/-- A key is not in an association list exactly if no entry is stored under it. -/
theorem lookup_eq_none {α β : Type} [BEq α] [LawfulBEq α] {l : List (α × β)} {k : α} :
    l.lookup k = none ↔ ∀ b, (k, b) ∉ l := by
  rw [List.lookup_eq_none_iff]
  constructor
  · intro h b hmem
    simpa using h _ hmem
  · rintro h ⟨k', b⟩ hmem
    simp only [bne_iff_ne, ne_eq]
    rintro rfl
    exact h b hmem

/-- The handler that dispatch finds checks what `NodeApproved` says of the node's tag, and adds
what `NodeRecords` says. -/
theorem handler_records (p : ValidationPolicy) (node : Value) :
    Records Collected.has (handler p (nodeTag node) node) ()
      ((nodeTag node = "SelectStmt" →
          (node.get "intoClause").isNone = true ∧ (node.get "lockingClause").truthy = false) ∧
        (nodeTag node = "WithClause" → (node.get "recursive").truthy = false) ∧
        (nodeTag node = "SQLValueFunction" →
          ∃ name ∈ allowedSqlValueFunctions, ((node.get "op").get "name").isStr name = true) ∧
        nodeTag node ≠ "CollateClause" ∧
        (nodeTag node = "FuncCall" → FuncCallApproved p node) ∧
        (nodeTag node = "A_Expr" → AExprApproved p node) ∧
        (nodeTag node = "TypeName" → TypeNameApproved p node))
      (NodeRecords node) := by
  have hadds : NodeRecords node = fun k =>
      (nodeTag node = "FuncCall" ∧ ∃ name, (stringParts (node.get "funcname") = [name] ∨
          stringParts (node.get "funcname") = ["pg_catalog", name]) ∧
        k = .function ("pg_catalog." ++ casefold name)) ∨
      (nodeTag node = "A_Expr" ∧ ∃ name, k = .operator name ∧
        if enumName node "kind" = "AEXPR_BETWEEN" then name = ">=" ∨ name = "<="
        else stringParts (node.get "name") = [name]) := by
    funext k
    cases k <;> simp [NodeRecords]
  simp only [handler, hadds]
  generalize nodeTag node = tag
  split
  · exact (validateSelectStmt_records node).congr (by simp) fun _ _ => by simp
  · exact (validateWithClause_records node).congr (by simp) fun _ _ => by simp
  · exact (validateFuncCall_records p node).congr (by simp) fun _ _ => by simp
  · exact (validateAExpr_records p node).congr (by simp) fun _ _ => by simp
  · exact (validateTypeName_records p node).congr (by simp) fun _ _ => by simp
  · exact (validateSQLValueFunction_records node).congr (by simp) fun _ _ => by simp
  · exact (validateCollateClause_records node).congr (by simp) fun _ _ => by simp
  · next h1 h2 h3 h4 h5 h6 h7 =>
    refine (Records.pure ()).congr (iff_of_true trivial ?_) fun _ _ => iff_of_false id ?_
    · exact ⟨fun h => (h1 h).elim, fun h => (h2 h).elim, fun h => (h6 h).elim, h7,
        fun h => (h3 h).elim, fun h => (h4 h).elim, fun h => (h5 h).elim⟩
    · rintro (⟨h, -⟩ | ⟨h, -⟩)
      · exact h3 h
      · exact h4 h

/-- One turn of the node pass succeeds exactly on an approved node. -/
theorem validateNode_records (p : ValidationPolicy) (node : Value) :
    Records Collected.has (validateNode p node) () (NodeApproved p node) (NodeRecords node) := by
  unfold validateNode
  dsimp only
  cases hcode : forbiddenNodeCodes.lookup (nodeTag node) with
  | some code =>
    refine ((Records.raiseIf _ _).seq (Records.throw _ _)).congr ?_ fun h => h.2.elim
    constructor
    · exact fun h => h.2.elim
    · intro h
      have hnone := lookup_eq_none.2 h.notForbidden
      rw [hcode] at hnone
      cases hnone
  | none =>
    refine ((Records.raiseIf _ _).seq ((Records.raiseIf _ _).seq (handler_records p node))).congr
      ?_ fun _ _ => by simp
    have hforbidden := lookup_eq_none.1 hcode
    constructor
    · rintro ⟨hstmt, hallowed, hselect, hwith, hvalue, hcollate, hfunc, haexpr, htype⟩
      refine ⟨not_not.1 hallowed, hforbidden, fun h => ?_, hselect, hwith, hvalue, hcollate,
        hfunc, haexpr, htype⟩
      by_contra hne
      exact hstmt ⟨h, hne⟩
    · intro h
      exact ⟨fun hs => hs.2 (h.statement hs.1), not_not.2 h.allowed, h.select, h.withClause,
        h.valueFunction, h.collate, h.funcCall, h.aExpr, h.typeName⟩

/-- The tags that are dispatched to a handler. -/
def handledTags : List String :=
  ["SelectStmt", "WithClause", "FuncCall", "A_Expr", "TypeName", "SQLValueFunction",
    "CollateClause"]

/-- A node whose tag has no handler is approved by its tag alone. -/
theorem NodeApproved.of_tag {p : ValidationPolicy} {node : Value} {tag : String}
    (htag : nodeTag node = tag)
    (h : tag ∈ allowedNodeTags ∧ forbiddenNodeCodes.lookup tag = none ∧ tag ∉ handledTags ∧
      endsWith tag "Stmt" = false) : NodeApproved p node := by
  subst htag
  obtain ⟨hallowed, hforbidden, hplain, hstmt⟩ := h
  have hne : ∀ tag ∈ handledTags, nodeTag node ≠ tag := fun tag hmem heq => hplain (heq ▸ hmem)
  exact {
    allowed := hallowed
    notForbidden := lookup_eq_none.1 hforbidden
    statement := fun h => by rw [hstmt] at h; cases h
    select := fun h => absurd h (hne _ (by decide))
    withClause := fun h => absurd h (hne _ (by decide))
    valueFunction := fun h => absurd h (hne _ (by decide))
    collate := hne _ (by decide)
    funcCall := fun h => absurd h (hne _ (by decide))
    aExpr := fun h => absurd h (hne _ (by decide))
    typeName := fun h => absurd h (hne _ (by decide)) }

/-- A plain statement is approved. -/
theorem NodeApproved.of_select {p : ValidationPolicy} {node : Value}
    (htag : nodeTag node = "SelectStmt") (hinto : (node.get "intoClause").isNone = true)
    (hlock : (node.get "lockingClause").truthy = false) : NodeApproved p node where
  allowed := by rw [htag]; decide
  notForbidden := lookup_eq_none.1 (by rw [htag]; decide)
  statement := fun _ => htag
  select := fun _ => ⟨hinto, hlock⟩
  withClause := fun h => by rw [htag] at h; exact absurd h (by decide)
  valueFunction := fun h => by rw [htag] at h; exact absurd h (by decide)
  collate := by rw [htag]; decide
  funcCall := fun h => by rw [htag] at h; exact absurd h (by decide)
  aExpr := fun h => by rw [htag] at h; exact absurd h (by decide)
  typeName := fun h => by rw [htag] at h; exact absurd h (by decide)

/-! ## The walk -/

mutual

/-- What the walk visits carries a tag and lies in the value. -/
theorem mem_walkNodes_sound {node : Value} :
    ∀ {v : Value}, node ∈ walkNodes v → v.Within node ∧ (node.get? "@").isSome = true
  | .map fs, h => by
    rw [walkNodes, List.mem_append] at h
    rcases h with h | h
    · split at h
      · next hsome =>
        obtain rfl := List.mem_singleton.1 h
        exact ⟨.refl _, hsome⟩
      · cases h
    · obtain ⟨field, hmem, hwithin, htag⟩ := mem_walkFields_sound h
      exact ⟨.field hmem hwithin, htag⟩
  | .tuple xs, h => by
    obtain ⟨item, hmem, hwithin, htag⟩ := mem_walkItems_sound h
    exact ⟨.item hmem hwithin, htag⟩
  | .list xs, h => by
    obtain ⟨item, hmem, hwithin, htag⟩ := mem_walkItems_sound h
    exact ⟨.item hmem hwithin, htag⟩

theorem mem_walkFields_sound {node : Value} :
    ∀ {fs : List (String × Value)}, node ∈ walkFields fs →
      ∃ field : String × Value, (field.1, field.2) ∈ fs ∧ field.2.Within node ∧
        (node.get? "@").isSome = true
  | (k, v) :: rest, h => by
    rw [walkFields, List.mem_append] at h
    rcases h with h | h
    · exact ⟨(k, v), List.mem_cons_self, mem_walkNodes_sound h⟩
    · obtain ⟨field, hmem, hfield⟩ := mem_walkFields_sound h
      exact ⟨field, List.mem_cons_of_mem _ hmem, hfield⟩

theorem mem_walkItems_sound {node : Value} :
    ∀ {xs : List Value}, node ∈ walkItems xs →
      ∃ item ∈ xs, item.Within node ∧ (node.get? "@").isSome = true
  | v :: rest, h => by
    rw [walkItems, List.mem_append] at h
    rcases h with h | h
    · exact ⟨v, List.mem_cons_self, mem_walkNodes_sound h⟩
    · obtain ⟨item, hmem, hitem⟩ := mem_walkItems_sound h
      exact ⟨item, List.mem_cons_of_mem _ hmem, hitem⟩

end

/-- The walk of a field is part of the walk of its mapping. -/
theorem walkNodes_subset_walkFields {fs : List (String × Value)} {k : String} {v : Value}
    (hmem : (k, v) ∈ fs) : walkNodes v ⊆ walkFields fs := by
  induction fs with
  | nil => cases hmem
  | cons field rest ih =>
    rcases List.mem_cons.1 hmem with rfl | hmem
    · exact List.subset_append_left _ _
    · exact List.Subset.trans (ih hmem) (List.subset_append_right _ _)

/-- The walk of a member is part of the walk of its tuple or list. -/
theorem walkNodes_subset_walkItems {xs : List Value} {v : Value} (hmem : v ∈ xs) :
    walkNodes v ⊆ walkItems xs := by
  induction xs with
  | nil => cases hmem
  | cons item rest ih =>
    rcases List.mem_cons.1 hmem with rfl | hmem
    · exact List.subset_append_left _ _
    · exact List.Subset.trans (ih hmem) (List.subset_append_right _ _)

/-- Nothing that carries a tag escapes the walk, whatever it is nested in. -/
theorem mem_walkNodes_of_within {v node : Value} (h : v.Within node)
    (htag : (node.get? "@").isSome = true) : node ∈ walkNodes v := by
  induction h with
  | refl v =>
    cases v with
    | map fs => rw [walkNodes, if_pos htag]; exact List.mem_cons_self
    | none | bool | int | str | tuple | list => cases htag
  | @field v w u k hmem _ ih =>
    cases v with
    | map fs =>
      rw [walkNodes]
      exact List.mem_append_right _ (walkNodes_subset_walkFields hmem (ih htag))
    | none | bool | int | str | tuple | list => cases hmem
  | @item v w u hmem _ ih =>
    cases v with
    | tuple xs | list xs => exact walkNodes_subset_walkItems hmem (ih htag)
    | none | bool | int | str | map => cases hmem

/-- The walk visits exactly the mappings that carry a tag, at any depth. -/
theorem mem_walkNodes {v node : Value} :
    node ∈ walkNodes v ↔ v.Within node ∧ (node.get? "@").isSome = true :=
  ⟨mem_walkNodes_sound, fun h => mem_walkNodes_of_within h.1 h.2⟩

/-! ## The gate -/

/-- The node pass: every tagged mapping must be approved, and each adds what it names. -/
theorem validateNodes_records (p : ValidationPolicy) (tree : Value) :
    Records Collected.has (validateNodes p tree) ()
      (∀ node ∈ walkNodes tree, NodeApproved p node)
      fun k => ∃ node ∈ walkNodes tree, NodeRecords node k :=
  Records.forM fun node _ => validateNode_records p node

/-- **The node gate.** The node pass completes exactly if every mapping that carries a tag, at any
depth, under any field and inside any list, is approved. -/
theorem validateNodes_ok_iff (p : ValidationPolicy) (tree : Value) (collected : Collected) :
    (∃ collected', (validateNodes p tree).run collected = .ok ((), collected')) ↔
      ∀ node, tree.Within node → (node.get? "@").isSome = true → NodeApproved p node := by
  have hrecords := validateNodes_records p tree
  constructor
  · rintro ⟨collected', hrun⟩ node hwithin htag
    exact (hrecords.inv hrun).1 node (mem_walkNodes.2 ⟨hwithin, htag⟩)
  · intro hall
    refine hrecords.succeeds (fun node hmem => ?_) collected
    obtain ⟨hwithin, htag⟩ := mem_walkNodes.1 hmem
    exact hall node hwithin htag

/-! ## What the relation pass keeps -/

section Scopes
variable {p : ValidationPolicy} {I : Collected → Prop}

/-- A reference keeps what recording an allowed name keeps. -/
theorem validateRangeVar_maintains (node : Value) (visible : Finset String)
    (hrecord : ∀ name ∈ p.allowedRelations, Maintains I (recordRelation name)) :
    Maintains I (validateRangeVar p node visible) := by
  unfold validateRangeVar
  refine (Maintains.raiseIf _ _).bind fun _ => Maintains.ite (Maintains.raiseIf _ _) ?_
  exact Maintains.raiseIf_bind fun hallowed => hrecord _ (not_not.1 hallowed)

/-- So does the whole relation pass. -/
theorem scopes_maintain (hrecord : ∀ name ∈ p.allowedRelations, Maintains I (recordRelation name)) :
    ∀ depth, (∀ value visible, Maintains I (validateScopedValue p depth value visible)) ∧
      ∀ node outer, Maintains I (validateSelectScope p depth node outer)
  | 0 => ⟨fun _ _ => Maintains.throw _, fun _ _ => Maintains.throw _⟩
  | depth + 1 => by
    obtain ⟨hvalue, hselect⟩ := scopes_maintain hrecord depth
    constructor
    · intro value visible
      rw [validateScopedValue]
      exact Maintains.ite (validateRangeVar_maintains value visible hrecord)
        (Maintains.ite (hselect value visible) ((Maintains.forM fun _ => hvalue _ _).bind fun _ =>
          Maintains.forM fun _ => hvalue _ _))
    · intro node outer
      rw [validateSelectScope]
      refine (Maintains.foldlM fun visible cte => ?_).bind fun visible =>
        Maintains.forM fun field => ?_
      · exact Maintains.ite ((hselect _ _).bind fun _ => Maintains.pure _) (Maintains.pure _)
      · exact Maintains.ite (hvalue _ _) (Maintains.pure _)

end Scopes

/-- The sets that the node pass fills. -/
def Collected.named (c : Collected) : Finset String × Finset String :=
  (c.functions, c.operators)

/-- The relation pass adds neither functions nor operators. -/
theorem scopes_leave (p : ValidationPolicy) (depth : Nat) (node : Value) (outer : Finset String) :
    Leaves Collected.named (validateSelectScope p depth node outer) := by
  refine leaves_iff.2 fun named => (scopes_maintain (fun name _ => ?_) depth).2 node outer
  intro s a s' h hs
  cases h
  exact hs

/-- What an accepted tree records as a relation is on the allowlist: the node pass records no
relation, and the relation pass only allowed ones. -/
theorem validate_relations {p : ValidationPolicy} {tree : Value} {collected : Collected}
    (h : (validate p tree).run ⟨∅, ∅, ∅⟩ = .ok ((), collected)) :
    collected.relations ⊆ p.allowedRelations := by
  obtain ⟨⟨⟨⟩, collected₁⟩, hnodes, hscopes⟩ := bind_eq_ok.1 h
  obtain ⟨-, -, hadds⟩ := (validateNodes_records p tree).inv hnodes
  have hrecord : ∀ name ∈ p.allowedRelations,
      Maintains (fun c => c.relations ⊆ p.allowedRelations) (recordRelation name) := by
    intro name hname s a s' hrun hs
    cases hrun
    exact Finset.insert_subset hname hs
  refine (scopes_maintain hrecord _).2 tree ∅ _ _ _ hscopes fun name hname => ?_
  rcases (hadds (.relation name)).1 hname with h | ⟨_, _, h⟩
  · exact absurd h (Finset.notMem_empty name)
  · exact h.elim

/-- What `validate` leaves in the sets of functions and operators when it accepts a tree. -/
theorem validate_named {p : ValidationPolicy} {tree : Value} {collected : Collected}
    (h : (validate p tree).run ⟨∅, ∅, ∅⟩ = .ok ((), collected)) :
    (∀ node ∈ walkNodes tree, NodeApproved p node) ∧
      (∀ name, name ∈ collected.functions ↔
        ∃ node ∈ walkNodes tree, NodeRecords node (.function name)) ∧
      ∀ name, name ∈ collected.operators ↔
        ∃ node ∈ walkNodes tree, NodeRecords node (.operator name) := by
  obtain ⟨⟨⟨⟩, collected₁⟩, hnodes, hscopes⟩ := bind_eq_ok.1 h
  obtain ⟨happroved, -, hadds⟩ := (validateNodes_records p tree).inv hnodes
  obtain ⟨hfunctions, hoperators⟩ := Prod.ext_iff.1 (scopes_leave p _ tree ∅ _ _ _ hscopes)
  dsimp only [Collected.named] at hfunctions hoperators
  refine ⟨happroved, fun name => ?_, fun name => ?_⟩
  · rw [hfunctions]
    simpa [Collected.has] using hadds (.function name)
  · rw [hoperators]
    simpa [Collected.has] using hadds (.operator name)

/-- **An accepted statement names published relations only.** -/
theorem validateSql_relations {parser : SqlParser} {limits : SqlLimits} {sql : String}
    {result : ValidatedSql} (h : validateSql parser limits sql = .ok result) :
    result.relations ⊆ limits.allowedRelations := by
  obtain ⟨-, tree, collected, fingerprint, -, -, hrun, -, rfl⟩ := validateSql_eq_ok.1 h
  intro name hname
  have hcollected : name ∈ collected.relations := mem_sorted.1 hname
  exact List.mem_toFinset.1 (validate_relations hrun hcollected)

end QueryMan
