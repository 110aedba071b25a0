import QueryMan.GuardedQuery.NodeGate

/-!
# Named operators

Three kinds of node name an operator that PostgreSQL looks up: an expression, a `SubLink` such as
`x = ANY (SELECT …)`, and the `USING` of a sort key. The node pass has a handler for the first only.
`operators_checked_iff` says when the check still covers all of them, and
`subLinkOperator_accepted` is a statement in which it does not.
-/

namespace QueryMan

open Python

/-! ## Operators of a tree -/

/-- Kinds of expression whose name is no operator. -/
def betweenKinds : List String :=
  "AEXPR_BETWEEN" :: rejectedAExprConstructs.map Prod.fst

/-- The operators that expressions of the tree name, each in its parts. -/
def exprOperators (tree : Value) : List (List String) :=
  ((walkNodes tree).filter fun node =>
      nodeTag node = "A_Expr" ∧ enumName node "kind" ∉ betweenKinds ∧
        stringParts (node.get "name") ≠ []).map
    fun node => stringParts (node.get "name")

/-- The operators that nodes with the tag name under a key, each in its parts. -/
def operatorsUnder (tag key : String) (tree : Value) : List (List String) :=
  ((walkNodes tree).filter fun node =>
      nodeTag node = tag ∧ stringParts (node.get key) ≠ []).map
    fun node => stringParts (node.get key)

/-- The operators that are named outside expressions: those of `SubLink`s and of sort keys. -/
def otherOperators (tree : Value) : List (List String) :=
  operatorsUnder "SubLink" "operName" tree ++ operatorsUnder "SortBy" "useOp" tree

/-- The operators that the tree names, anywhere that PostgreSQL looks one up. -/
def namedOperators (tree : Value) : List (List String) :=
  exprOperators tree ++ otherOperators tree

/-- The operators that a plain `BETWEEN` of the tree stands for. -/
def betweenOperators (tree : Value) : List String :=
  if (walkNodes tree).any fun node =>
      nodeTag node = "A_Expr" ∧ enumName node "kind" = "AEXPR_BETWEEN" then [">=", "<="]
  else []

theorem mem_exprOperators {tree : Value} {parts : List String} :
    parts ∈ exprOperators tree ↔ ∃ node ∈ walkNodes tree, nodeTag node = "A_Expr" ∧
      enumName node "kind" ∉ betweenKinds ∧ stringParts (node.get "name") = parts ∧ parts ≠ [] := by
  simp only [exprOperators, List.mem_map, List.mem_filter, decide_eq_true_eq]
  constructor
  · rintro ⟨node, ⟨hmem, htag, hkind, hne⟩, rfl⟩
    exact ⟨node, hmem, htag, hkind, rfl, hne⟩
  · rintro ⟨node, hmem, htag, hkind, rfl, hne⟩
    exact ⟨node, ⟨hmem, htag, hkind, hne⟩, rfl⟩

theorem mem_betweenOperators {tree : Value} {name : String} :
    name ∈ betweenOperators tree ↔ (name = ">=" ∨ name = "<=") ∧
      ∃ node ∈ walkNodes tree, nodeTag node = "A_Expr" ∧
        enumName node "kind" = "AEXPR_BETWEEN" := by
  unfold betweenOperators
  split
  · next h => simpa using fun _ => h
  · next h => simpa using fun _ => h

/-! ## What the node pass records of them -/

theorem ne_between_of_notMem {kind : String} (h : kind ∉ betweenKinds) :
    kind ≠ "AEXPR_BETWEEN" := by
  rintro rfl
  exact h List.mem_cons_self

/-- An expression that is approved and is no `BETWEEN` is of a kind that names an operator. -/
theorem AExprApproved.kind {p : ValidationPolicy} {node : Value} (h : AExprApproved p node)
    (hbetween : enumName node "kind" ≠ "AEXPR_BETWEEN") : enumName node "kind" ∉ betweenKinds := by
  rw [AExprApproved, if_neg hbetween] at h
  intro hmem
  rcases List.mem_cons.1 hmem with heq | hmem
  · exact hbetween heq
  · obtain ⟨⟨kind, construct⟩, hrejected, hkind⟩ := List.mem_map.1 hmem
    exact lookup_eq_none.1 h.1 construct (hkind ▸ hrejected)

/-- The operators recorded of an approved tree are those of its expressions and of its plain
`BETWEEN`s. -/
theorem recordedOperator_iff {p : ValidationPolicy} {tree : Value}
    (happroved : ∀ node ∈ walkNodes tree, NodeApproved p node) (name : String) :
    (∃ node ∈ walkNodes tree, NodeRecords node (.operator name)) ↔
      [name] ∈ exprOperators tree ∨ name ∈ betweenOperators tree := by
  rw [mem_exprOperators, mem_betweenOperators]
  constructor
  · rintro ⟨node, hmem, htag, hrecords⟩
    split at hrecords
    · next hkind => exact .inr ⟨hrecords, node, hmem, htag, hkind⟩
    · next hkind =>
      exact .inl ⟨node, hmem, htag, ((happroved node hmem).aExpr htag).kind hkind, hrecords,
        List.cons_ne_nil _ _⟩
  · rintro (⟨node, hmem, htag, hkind, hparts, -⟩ | ⟨hname, node, hmem, htag, hkind⟩)
    · refine ⟨node, hmem, htag, ?_⟩
      rw [if_neg (ne_between_of_notMem hkind)]
      exact hparts
    · refine ⟨node, hmem, htag, ?_⟩
      rw [if_pos hkind]
      exact hname

/-- Every operator of an expression is one name of the allowlist. -/
theorem exprOperators_allowed {p : ValidationPolicy} {tree : Value} {parts : List String}
    (happroved : ∀ node ∈ walkNodes tree, NodeApproved p node) (h : parts ∈ exprOperators tree) :
    ∃ name ∈ p.allowedOperators, parts = [name] := by
  obtain ⟨node, hmem, htag, hkind, rfl, hne⟩ := mem_exprOperators.1 h
  have hexpr := (happroved node hmem).aExpr htag
  rw [AExprApproved, if_neg (ne_between_of_notMem hkind)] at hexpr
  exact hexpr.2.resolve_left hne

/-- Both operators of a plain `BETWEEN` are in the allowlist. -/
theorem betweenOperators_allowed {p : ValidationPolicy} {tree : Value} {name : String}
    (happroved : ∀ node ∈ walkNodes tree, NodeApproved p node) (h : name ∈ betweenOperators tree) :
    name ∈ p.allowedOperators := by
  obtain ⟨hname, node, hmem, htag, hkind⟩ := mem_betweenOperators.1 h
  have hexpr := (happroved node hmem).aExpr htag
  rw [AExprApproved, if_pos hkind] at hexpr
  have hsubset : ({">=", "<="} : Finset String) ⊆ p.allowedOperators := by
    simp only [betweenApproved, Bool.and_eq_true, decide_eq_true_eq] at hexpr
    exact hexpr.2
  rcases hname with rfl | rfl
  · exact hsubset (by decide)
  · exact hsubset (by decide)

/-- What an accepted text says of its operators. -/
theorem mem_operators_iff {parser : SqlParser} {limits : SqlLimits} {sql : String} {tree : Value}
    {result : ValidatedSql} (hparse : parser.parse sql = some [tree])
    (haccepted : validateSql parser limits sql = .ok result) :
    (∀ node ∈ walkNodes tree, NodeApproved limits.policy node) ∧
      ∀ name, name ∈ result.operators ↔
        [name] ∈ exprOperators tree ∨ name ∈ betweenOperators tree := by
  obtain ⟨-, tree', collected, fingerprint, hparse', -, hrun, -, rfl⟩ :=
    validateSql_eq_ok.1 haccepted
  rw [hparse] at hparse'
  obtain rfl : tree = tree' := by simpa using hparse'
  obtain ⟨happroved, -, hoperators⟩ := validate_named hrun
  refine ⟨happroved, fun name => ?_⟩
  rw [Collected.result, mem_sorted, hoperators, recordedOperator_iff happroved]

/-! ## The check -/

/-- **Named operators are checked exactly when the expressions name them.** Of an accepted tree,
every operator that PostgreSQL will look up is one name of the allowlist, and the result lists
exactly these and the operators of each plain `BETWEEN`, if and only if every operator of a
`SubLink` or a sort key is one name that an expression of the tree names or a plain `BETWEEN` stands
for, too. -/
theorem operators_checked_iff {parser : SqlParser} {limits : SqlLimits}
    {sql : String} {tree : Value}
    {result : ValidatedSql} (hparse : parser.parse sql = some [tree])
    (haccepted : validateSql parser limits sql = .ok result) :
    ((∀ parts ∈ namedOperators tree, ∃ name ∈ limits.allowedOperators, parts = [name]) ∧
        ∀ name, name ∈ result.operators ↔
          [name] ∈ namedOperators tree ∨ name ∈ betweenOperators tree) ↔
      ∀ parts ∈ otherOperators tree,
        ∃ name, parts = [name] ∧
          ([name] ∈ exprOperators tree ∨ name ∈ betweenOperators tree) := by
  obtain ⟨happroved, hlisted⟩ := mem_operators_iff hparse haccepted
  constructor
  · rintro ⟨hallowed, hexact⟩ parts hother
    have hnamed : parts ∈ namedOperators tree := List.mem_append_right _ hother
    obtain ⟨name, -, rfl⟩ := hallowed parts hnamed
    exact ⟨name, rfl, (hlisted name).1 ((hexact name).2 (.inl hnamed))⟩
  · intro hcovered
    have hpolicy : ∀ name, [name] ∈ exprOperators tree ∨ name ∈ betweenOperators tree →
        name ∈ limits.allowedOperators := by
      rintro name (hexpr | hbetween)
      · obtain ⟨name', hmem, heq⟩ := exprOperators_allowed happroved hexpr
        obtain rfl : name = name' := by simpa using heq
        exact List.mem_toFinset.1 hmem
      · exact List.mem_toFinset.1 (betweenOperators_allowed happroved hbetween)
    constructor
    · intro parts hnamed
      rcases List.mem_append.1 hnamed with hexpr | hother
      · obtain ⟨name, hmem, rfl⟩ := exprOperators_allowed happroved hexpr
        exact ⟨name, List.mem_toFinset.1 hmem, rfl⟩
      · obtain ⟨name, rfl, hname⟩ := hcovered parts hother
        exact ⟨name, hpolicy name hname, rfl⟩
    · intro name
      rw [hlisted]
      constructor
      · rintro (hexpr | hbetween)
        · exact .inl (List.mem_append_left _ hexpr)
        · exact .inr hbetween
      · rintro (hnamed | hbetween)
        · rcases List.mem_append.1 hnamed with hexpr | hother
          · exact .inl hexpr
          · obtain ⟨name', heq, hname⟩ := hcovered [name] hother
            obtain rfl : name = name' := by simpa using heq
            exact hname
        · exact .inr hbetween

/-- The tree of `SELECT 1 = ANY (SELECT 1 = 1)`. -/
def equalAny : Value :=
  selectTarget (anySubLink (intConst 1) ["="]
    (selectTarget (opExpr (intConst 1) ["="] (intConst 1))))

/-- The condition is met where an expression names the operator of the `SubLink`, too. -/
theorem operators_checked_iff_equalAny :
    ∃ result, validateSql (fixedParser equalAny) { allowedRelations := [] }
        "SELECT 1 = ANY (SELECT 1 = 1)" = .ok result ∧
      (∀ parts ∈ namedOperators equalAny, ∃ name ∈ defaultAllowedOperators, parts = [name]) ∧
      ∀ name, name ∈ result.operators ↔
        [name] ∈ namedOperators equalAny ∨ name ∈ betweenOperators equalAny := by
  have haccepted : ∃ result, validateSql (fixedParser equalAny) { allowedRelations := [] }
      "SELECT 1 = ANY (SELECT 1 = 1)" = .ok result :=
    validateSql_of_accepts (by decide) (by decide) (by decide)
  obtain ⟨result, hok⟩ := haccepted
  refine ⟨result, hok, (operators_checked_iff rfl hok).2 ?_⟩
  have hother : otherOperators equalAny = [["="]] := by decide
  have hexpr : ["="] ∈ exprOperators equalAny := by decide
  intro parts hmem
  rw [hother, List.mem_singleton] at hmem
  exact ⟨"=", hmem, .inl hexpr⟩

/-- The tree of `SELECT 1 OPERATOR(evil.===) ANY (SELECT 1)`. -/
def evilAny : Value :=
  selectTarget (anySubLink (intConst 1) ["evil", "==="] (selectTarget (intConst 1)))

/-- A `SubLink` may name any operator of any schema: the statement is accepted, and the operator is
not among those that the live check is given. -/
theorem subLinkOperator_accepted :
    (∃ result, validateSql (fixedParser evilAny) { allowedRelations := [] }
        "SELECT 1 OPERATOR(evil.===) ANY (SELECT 1)" = .ok result ∧ result.operators = []) ∧
      ["evil", "==="] ∈ namedOperators evilAny ∧
      ¬ ∃ name ∈ defaultAllowedOperators, ["evil", "==="] = [name] := by
  have hrun : (validate (SqlLimits.policy { allowedRelations := [] }) evilAny).run ⟨∅, ∅, ∅⟩ =
      .ok ((), ⟨∅, ∅, ∅⟩) := rfl
  refine ⟨⟨_, validateSql_of_run hrun (by decide) (by decide), ?_⟩, ?_, ?_⟩
  · exact sorted_empty
  · decide
  · simp

end QueryMan
