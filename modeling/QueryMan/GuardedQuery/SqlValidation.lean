import QueryMan.Python.CaseFold
import QueryMan.Python.Checks
import QueryMan.Python.Value
import Mathlib.Data.Finset.Sort
import Mathlib.Data.String.Basic

/-!
# SQL validation

`guarded_query/sql_validation.py`: the allowlists, the node pass over the serialised syntax tree,
the relation pass that threads the visible CTE names, and `validate_sql` around them. A serialised
tree is a `Python.Value` whose mappings carry the node tag under `@`. The parser and the fingerprint
are the parameters of `validate_sql` (`SqlParser`).
-/

namespace QueryMan

open Python

/-! ## Allowlists -/

/-- `DEFAULT_ALLOWED_FUNCTIONS`. -/
def defaultAllowedFunctions : List String :=
  ["abs", "age", "array_agg", "avg", "bit_and", "bit_or", "bool_and", "bool_or", "btrim", "ceil",
    "ceiling", "char_length", "concat", "concat_ws", "corr", "count", "covar_pop", "covar_samp",
    "date_part", "date_trunc", "dense_rank", "every", "extract", "floor", "json_agg",
    "json_array_length", "json_extract_path_text", "json_object_agg", "jsonb_agg",
    "jsonb_array_length", "jsonb_build_object", "jsonb_extract_path_text", "jsonb_object_agg",
    "lag", "lead", "left", "length", "lower", "ltrim", "max", "min", "mod", "octet_length",
    "power", "position", "percentile_cont", "rank", "regr_avgx", "regr_avgy", "regr_count",
    "regr_intercept", "regr_r2", "regr_slope", "replace", "regexp_replace", "right", "row_number",
    "round", "rtrim", "split_part", "sqrt", "stddev", "stddev_pop", "stddev_samp", "string_agg",
    "substr", "substring", "sum", "to_char", "to_jsonb", "trunc", "upper", "variance", "var_pop",
    "var_samp"]

/-- `DEFAULT_ALLOWED_OPERATORS`. -/
def defaultAllowedOperators : List String :=
  ["!=", "!~", "!~*", "!~~", "!~~*", "%", "&", "*", "+", "-", "/", "<", "<<", "<=", "<>", "=",
    ">", ">=", ">>", "#>", "#>>", "^", "|", "||", "~", "~*", "~~", "~~*", "->", "->>", "#-", "@>",
    "<@", "?", "?|", "?&", "@@", "@?"]

/-- `DEFAULT_ALLOWED_TYPES`. -/
def defaultAllowedTypes : List String :=
  ["bit", "bool", "bpchar", "bytea", "date", "float4", "float8", "inet", "int2", "int4", "int8",
    "interval", "json", "jsonb", "numeric", "text", "time", "timestamp", "timestamptz", "timetz",
    "uuid", "varbit", "varchar"]

/-- `DEFAULT_ALLOWED_UNQUALIFIED_TYPES`. -/
def defaultAllowedUnqualifiedTypes : List String :=
  ["date", "text"]

/-- `_ALLOWED_SQL_VALUE_FUNCTIONS`. -/
def allowedSqlValueFunctions : List String :=
  ["SVFOP_CURRENT_DATE", "SVFOP_CURRENT_TIME", "SVFOP_CURRENT_TIME_N", "SVFOP_CURRENT_TIMESTAMP",
    "SVFOP_CURRENT_TIMESTAMP_N", "SVFOP_LOCALTIME", "SVFOP_LOCALTIME_N", "SVFOP_LOCALTIMESTAMP",
    "SVFOP_LOCALTIMESTAMP_N"]

/-- `_FORBIDDEN_NODE_CODES`. -/
def forbiddenNodeCodes : List (String × String) :=
  [("ParamRef", "SQL_PARAMETER_NOT_ALLOWED"),
    ("RangeFunction", "SQL_TABLE_FUNCTION_NOT_ALLOWED"),
    ("RangeTableFunc", "SQL_TABLE_FUNCTION_NOT_ALLOWED"),
    ("RangeTableSample", "SQL_TABLESAMPLE_NOT_ALLOWED")]

/-- `_REJECTED_A_EXPR_CONSTRUCTS`. -/
def rejectedAExprConstructs : List (String × String) :=
  [("AEXPR_NOT_BETWEEN", "NOT BETWEEN"),
    ("AEXPR_BETWEEN_SYM", "BETWEEN SYMMETRIC"),
    ("AEXPR_NOT_BETWEEN_SYM", "NOT BETWEEN SYMMETRIC")]

/-- `_ALLOWED_NODE_TAGS`. -/
def allowedNodeTags : List String :=
  ["A_ArrayExpr", "A_Const", "A_Expr", "A_Indices", "A_Indirection", "A_Star", "Alias",
    "BitString", "Boolean", "BooleanTest", "BoolExpr", "CaseExpr", "CaseWhen", "CoalesceExpr",
    "CollateClause", "ColumnRef", "CommonTableExpr", "Float", "FuncCall", "GroupingFunc",
    "GroupingSet", "Integer", "JoinExpr", "MinMaxExpr", "NamedArgExpr", "Null", "NullTest",
    "ParamRef", "RangeFunction", "RangeSubselect", "RangeTableFunc", "RangeTableSample",
    "RangeVar", "ResTarget", "RowExpr", "SelectStmt", "SortBy", "SQLValueFunction", "String",
    "SubLink", "TypeCast", "TypeName", "WindowDef", "WithClause"]

/-! ## Errors and results -/

/-- `SqlValidationError`. -/
structure SqlValidationError where
  code : String
  message : String
  rejectedConstruct : Option String := none
  deriving DecidableEq, Repr

/-- What a pass records: the sets that `_ValidationPolicy` collects. -/
structure Collected where
  relations : Finset String
  functions : Finset String
  operators : Finset String
  deriving DecidableEq

/-- `sorted` of a set of names. -/
def sorted (names : Finset String) : List String :=
  names.sort (· ≤ ·)

@[simp] theorem mem_sorted {names : Finset String} {name : String} :
    name ∈ sorted names ↔ name ∈ names :=
  Finset.mem_sort _

@[simp] theorem sorted_empty : sorted ∅ = [] :=
  Finset.sort_empty _

@[simp] theorem sorted_singleton (name : String) : sorted {name} = [name] :=
  Finset.sort_singleton _ _

/-- `ValidatedSql`; its tuples are sorted, without repetition. -/
structure ValidatedSql where
  fingerprint : String
  relations : List String
  functions : List String
  operators : List String
  deriving DecidableEq, Repr

/-- The allowlists of a `_ValidationPolicy`. -/
structure ValidationPolicy where
  allowedRelations : Finset String
  allowedFunctions : Finset String
  allowedOperators : Finset String
  allowedTypes : Finset String

/-- A check of `_ValidationPolicy`. -/
abbrev ValidationM := StateT Collected (Except SqlValidationError)

/-- `self.relations.add`. -/
def recordRelation (name : String) : ValidationM Unit :=
  modify fun c => { c with relations := insert name c.relations }

/-- `self.functions.add`. -/
def recordFunction (name : String) : ValidationM Unit :=
  modify fun c => { c with functions := insert name c.functions }

/-- `self.operators.update`. -/
def recordOperators (names : Finset String) : ValidationM Unit :=
  modify fun c => { c with operators := names ∪ c.operators }

/-! ## Node handlers -/

/-- `_string_parts`. -/
def stringParts (value : Value) : List String :=
  value.items.filterMap fun item =>
    if (item.get "@").isStr "String" then (item.get? "sval").map Value.text else none

/-- `_validate_SelectStmt`. -/
def validateSelectStmt (node : Value) : ValidationM Unit := do
  raiseIf (¬ (node.get "intoClause").isNone)
    (SqlValidationError.mk "SQL_SELECT_INTO_NOT_ALLOWED" "SELECT INTO is not allowed." none)
  raiseIf (node.get "lockingClause").truthy
    (SqlValidationError.mk "SQL_ROW_LOCK_NOT_ALLOWED" "Row locking clauses are not allowed." none)

/-- `_validate_WithClause`. -/
def validateWithClause (node : Value) : ValidationM Unit :=
  raiseIf (node.get "recursive").truthy
    (SqlValidationError.mk "SQL_RECURSIVE_CTE_NOT_ALLOWED" "Recursive CTEs are not allowed." none)

/-- `_validate_FuncCall`. -/
def validateFuncCall (p : ValidationPolicy) (node : Value) : ValidationM Unit :=
  let approve (name : String) : ValidationM Unit := do
    let function := casefold name
    raiseIf (function ∉ p.allowedFunctions)
      (SqlValidationError.mk "SQL_FUNCTION_NOT_ALLOWED" "The SQL function is not approved." none)
    recordFunction ("pg_catalog." ++ function)
  match stringParts (node.get "funcname") with
  | [] =>
    throw (SqlValidationError.mk "SQL_FUNCTION_NOT_ALLOWED" "The SQL function is not allowed." none)
  | [name] => approve name
  | [schema, name] =>
    if schema = "pg_catalog" then approve name
    else
      throw (SqlValidationError.mk "SQL_FUNCTION_SCHEMA_NOT_ALLOWED"
        "Only approved built-in functions are allowed." none)
  | _ =>
    throw (SqlValidationError.mk "SQL_FUNCTION_SCHEMA_NOT_ALLOWED"
      "Only approved built-in functions are allowed." none)

/-- The error of `_validate_A_Expr`, with the construct it rejects. -/
def operatorNotAllowed (construct : String) : SqlValidationError where
  code := "SQL_OPERATOR_NOT_ALLOWED"
  message := "The SQL operator is not approved."
  rejectedConstruct := some construct

/-- The name of the enumeration member under `key`; the empty text when there is none. -/
def enumName (node : Value) (key : String) : String :=
  ((node.get key).getD "name" (.str "")).text

/-- The operands of a `BETWEEN` and the operators that it stands for are in order. -/
def betweenApproved (p : ValidationPolicy) (node : Value) : Bool :=
  let bounds := node.get "rexpr"
  (node.get "lexpr").isMapping && bounds.isSequence && decide (bounds.items.length = 2) &&
    bounds.items.all Value.isMapping && decide ({">=", "<="} ⊆ p.allowedOperators)

/-- `_validate_A_Expr`. -/
def validateAExpr (p : ValidationPolicy) (node : Value) : ValidationM Unit :=
  let kindName := enumName node "kind"
  if kindName = "AEXPR_BETWEEN" then do
    raiseIf (¬ betweenApproved p node) (operatorNotAllowed "BETWEEN")
    recordOperators {">=", "<="}
  else
    match rejectedAExprConstructs.lookup kindName with
    | some construct => throw (operatorNotAllowed construct)
    | none =>
      match stringParts (node.get "name") with
      | [] => pure ()
      | [operator] => do
        raiseIf (operator ∉ p.allowedOperators) (operatorNotAllowed "OPERATOR")
        recordOperators {operator}
      | _ => throw (operatorNotAllowed "OPERATOR")

/-- The error of `_validate_TypeName` for a type that is not in the allowlist. -/
def typeNotApproved : SqlValidationError where
  code := "SQL_TYPE_NOT_ALLOWED"
  message := "The cast type is not approved."

/-- `_validate_TypeName`. -/
def validateTypeName (p : ValidationPolicy) (node : Value) : ValidationM Unit :=
  let parts := stringParts (node.get "names")
  match parts.getLast? with
  | none => pure ()
  | some last =>
    let typeName := casefold last
    if parts.length = 1 ∧ typeName ∈ defaultAllowedUnqualifiedTypes then
      raiseIf (typeName ∉ p.allowedTypes) typeNotApproved
    else do
      raiseIf (parts.length ≠ 2 ∨ parts.head? ≠ some "pg_catalog")
        (SqlValidationError.mk "SQL_TYPE_NOT_ALLOWED"
          "Only approved built-in cast types are allowed." none)
      raiseIf (typeName ∉ p.allowedTypes) typeNotApproved

/-- `_validate_SQLValueFunction`. -/
def validateSQLValueFunction (node : Value) : ValidationM Unit :=
  raiseIf (¬ allowedSqlValueFunctions.any fun name => ((node.get "op").get "name").isStr name)
    (SqlValidationError.mk "SQL_VALUE_FUNCTION_NOT_ALLOWED"
      "The SQL value function is not approved." none)

/-- `_validate_CollateClause`. -/
def validateCollateClause (_node : Value) : ValidationM Unit :=
  throw (SqlValidationError.mk "SQL_COLLATION_NOT_ALLOWED"
    "Explicit collations are not allowed." none)

/-- The handler that `getattr` finds for a tag. -/
def handler (p : ValidationPolicy) (tag : String) : Value → ValidationM Unit :=
  match tag with
  | "SelectStmt" => validateSelectStmt
  | "WithClause" => validateWithClause
  | "FuncCall" => validateFuncCall p
  | "A_Expr" => validateAExpr p
  | "TypeName" => validateTypeName p
  | "SQLValueFunction" => validateSQLValueFunction
  | "CollateClause" => validateCollateClause
  | _ => fun _ => pure ()

/-! ## The node pass -/

mutual

/-- `_walk_nodes`: the mappings that carry `@`, outermost first. -/
def walkNodes : Value → List Value
  | .map fs => (if ((Value.map fs).get? "@").isSome then [.map fs] else []) ++ walkFields fs
  | .tuple xs | .list xs => walkItems xs
  | .none | .bool _ | .int _ | .str _ => []

/-- `_walk_nodes` of the values of a mapping. -/
def walkFields : List (String × Value) → List Value
  | [] => []
  | (_, v) :: rest => walkNodes v ++ walkFields rest

/-- `_walk_nodes` of the members of a tuple or a list. -/
def walkItems : List Value → List Value
  | [] => []
  | v :: rest => walkNodes v ++ walkItems rest

end

/-- `str(node.get("@", ""))`. -/
def nodeTag (node : Value) : String :=
  (node.getD "@" (.str "")).text

/-- One turn of the loop of `_ValidationPolicy.validate`. -/
def validateNode (p : ValidationPolicy) (node : Value) : ValidationM Unit := do
  let tag := nodeTag node
  raiseIf (endsWith tag "Stmt" ∧ tag ≠ "SelectStmt")
    (SqlValidationError.mk "SQL_NESTED_STATEMENT_NOT_ALLOWED"
      "Only read-only SELECT statements are allowed inside CTEs." none)
  match forbiddenNodeCodes.lookup tag with
  | some code => throw (SqlValidationError.mk code "The SQL construct is not allowed." none)
  | none =>
    raiseIf (tag ∉ allowedNodeTags)
      (SqlValidationError.mk "SQL_CONSTRUCT_NOT_ALLOWED"
        "The SQL contains a construct that has not been approved." none)
    handler p tag node

/-- The node pass of `_ValidationPolicy.validate`. -/
def validateNodes (p : ValidationPolicy) (tree : Value) : ValidationM Unit :=
  (walkNodes tree).forM (validateNode p)

/-! ## The relation pass -/

/-- `_validate_range_var`. -/
def validateRangeVar (p : ValidationPolicy) (node : Value) (visibleCtes : Finset String) :
    ValidationM Unit := do
  let catalog := node.get "catalogname"
  let schema := node.get "schemaname"
  let relation := (node.getD "relname" (.str "")).text
  raiseIf catalog.truthy
    (SqlValidationError.mk "SQL_CROSS_DATABASE_REFERENCE"
      "Cross-database relation references are not allowed." none)
  if ¬ schema.truthy then
    raiseIf (relation ∉ visibleCtes)
      (SqlValidationError.mk "SQL_RELATION_MUST_BE_QUALIFIED"
        "Physical relations must use a schema-qualified name." none)
  else
    let qualified := schema.text ++ "." ++ relation
    raiseIf (qualified ∉ p.allowedRelations)
      (SqlValidationError.mk "SQL_RELATION_NOT_ALLOWED"
        "The SQL references a relation that is not published for this source." none)
    recordRelation qualified

/-- What `validate_sql` makes of a `ParseError` or a `RecursionError`. -/
def sqlParseError : SqlValidationError where
  code := "SQL_PARSE_ERROR"
  message := "SQL could not be parsed."

/-- The CTEs of a statement: the members of `withClause.ctes`. A value that is no mapping has no
fields, and one that is no tuple or list has no members. -/
def ctesOf (node : Value) : List Value :=
  ((node.get "withClause").get "ctes").items

/-- `visible.add(str(name))`, if the CTE has a name. -/
def addCteName (visible : Finset String) (cte : Value) : Finset String :=
  if (cte.get "ctename").truthy then insert (cte.get "ctename").text visible else visible

mutual

/-- `_validate_select_scope`, with `depth` bounding the calls below this one. -/
def validateSelectScope (p : ValidationPolicy) :
    (depth : Nat) → (node : Value) → (outerCtes : Finset String) → ValidationM Unit
  | 0, _, _ => throw sqlParseError
  | depth + 1, node, outerCtes => do
    let visible ← (ctesOf node).foldlM
      (fun visible cte => do
        let query := cte.get "ctequery"
        if (query.get "@").isStr "SelectStmt" then validateSelectScope p depth query visible
        return addCteName visible cte)
      outerCtes
    node.fields.forM fun field =>
      if field.1 ≠ "withClause" then validateScopedValue p depth field.2 visible else pure ()

/-- `_validate_scoped_value`, with `depth` bounding the calls below this one. -/
def validateScopedValue (p : ValidationPolicy) :
    (depth : Nat) → (value : Value) → (visibleCtes : Finset String) → ValidationM Unit
  | 0, _, _ => throw sqlParseError
  | depth + 1, value, visibleCtes =>
    let tag := value.get "@"
    if tag.isStr "RangeVar" then validateRangeVar p value visibleCtes
    else if tag.isStr "SelectStmt" then validateSelectScope p depth value visibleCtes
    else do
      value.fields.forM fun field => validateScopedValue p depth field.2 visibleCtes
      value.items.forM fun item => validateScopedValue p depth item visibleCtes

end

/-- `_validate_select_scope(tree, frozenset())`. No value below the tree needs more than two calls.
-/
def validateScopes (p : ValidationPolicy) (tree : Value) : ValidationM Unit :=
  validateSelectScope p (2 * tree.height) tree ∅

/-- `_ValidationPolicy.validate`. -/
def validate (p : ValidationPolicy) (tree : Value) : ValidationM Unit := do
  validateNodes p tree
  validateScopes p tree

/-! ## `validate_sql` -/

/-- The parser library: the serialised statements of a text, and its fingerprint. `none` is a
`ParseError` or a `RecursionError`. -/
structure SqlParser where
  parse : String → Option (List Value)
  fingerprint : String → Option String

/-- The keyword arguments of `validate_sql`. -/
structure SqlLimits where
  allowedRelations : List String
  allowedFunctions : List String := defaultAllowedFunctions
  allowedOperators : List String := defaultAllowedOperators
  allowedTypes : List String := defaultAllowedTypes
  maxSqlBytes : Nat := 100000

/-- The policy that `validate_sql` builds: function and type names are folded. -/
def SqlLimits.policy (limits : SqlLimits) : ValidationPolicy where
  allowedRelations := limits.allowedRelations.toFinset
  allowedFunctions := (limits.allowedFunctions.map casefold).toFinset
  allowedOperators := limits.allowedOperators.toFinset
  allowedTypes := (limits.allowedTypes.map casefold).toFinset

/-- `validate_sql`. -/
def validateSql (parser : SqlParser) (limits : SqlLimits) (sql : String) :
    Except SqlValidationError ValidatedSql := do
  raiseIf (sql.toList.all isSpace)
    (SqlValidationError.mk "SQL_EMPTY" "SQL must contain one read-only SELECT statement." none)
  raiseIf (sql.utf8ByteSize > limits.maxSqlBytes)
    (SqlValidationError.mk "SQL_TOO_LARGE" "SQL exceeds the configured byte limit." none)
  match parser.parse sql with
  | none => throw sqlParseError
  | some [tree] =>
    raiseIf (¬ (tree.get "@").isStr "SelectStmt")
      (SqlValidationError.mk "SQL_STATEMENT_NOT_ALLOWED"
        "Only a read-only SELECT statement is allowed." none)
    let ((), collected) ← (validate limits.policy tree).run ⟨∅, ∅, ∅⟩
    match parser.fingerprint sql with
    | none => throw sqlParseError
    | some fingerprint =>
      return {
        fingerprint := "pg_query:" ++ fingerprint
        relations := sorted collected.relations
        functions := sorted collected.functions
        operators := sorted collected.operators }
  | some _ =>
    throw (SqlValidationError.mk "SQL_MULTIPLE_STATEMENTS"
      "Exactly one SQL statement is required." none)

/-- The lists that a result is made of. -/
def Collected.result (collected : Collected) (fingerprint : String) : ValidatedSql where
  fingerprint := "pg_query:" ++ fingerprint
  relations := sorted collected.relations
  functions := sorted collected.functions
  operators := sorted collected.operators

/-- `validate_sql` accepts a text exactly if it is one `SELECT` within the byte limit whose tree
both passes accept, and returns what they collected. -/
theorem validateSql_eq_ok {parser : SqlParser} {limits : SqlLimits} {sql : String}
    {result : ValidatedSql} :
    validateSql parser limits sql = .ok result ↔
      (¬ sql.toList.all isSpace = true ∧ ¬ sql.utf8ByteSize > limits.maxSqlBytes) ∧
      ∃ tree collected fingerprint, parser.parse sql = some [tree] ∧
        (tree.get "@").isStr "SelectStmt" = true ∧
        (validate limits.policy tree).run ⟨∅, ∅, ∅⟩ = .ok ((), collected) ∧
        parser.fingerprint sql = some fingerprint ∧ result = collected.result fingerprint := by
  unfold validateSql
  simp only [bind_eq_ok, raiseIf_eq_ok, exists_and_left, exists_const, ← and_assoc]
  refine and_congr_right fun _ => ?_
  cases hparse : parser.parse sql with
  | none => simp
  | some trees =>
    rcases trees with _ | ⟨tree, _ | ⟨other, rest⟩⟩
    · simp
    · simp only [bind_eq_ok, raiseIf_eq_ok, not_not, Option.some.injEq, List.cons.injEq, and_true]
      constructor
      · rintro ⟨-, htag, ⟨⟨⟩, collected⟩, hrun, hresult⟩
        cases hprint : parser.fingerprint sql with
        | none => rw [hprint] at hresult; cases hresult
        | some fingerprint =>
          rw [hprint] at hresult
          cases hresult
          exact ⟨tree, collected, fingerprint, ⟨⟨⟨rfl, htag⟩, hrun⟩, rfl⟩, rfl⟩
      · rintro ⟨tree', collected, fingerprint, ⟨⟨⟨rfl, htag⟩, hrun⟩, hprint⟩, rfl⟩
        refine ⟨(), htag, ((), collected), hrun, ?_⟩
        rw [hprint]
        rfl
    · simp

/-! ## Serialised statements -/

/-- A serialised enumeration member. -/
def enumMember (type name : String) (value : Int) : Value :=
  .map [("#", .str type), ("name", .str name), ("value", .int value)]

/-- The reference `"schema"."relation"`. -/
def rangeVar (schema relation : String) : Value :=
  .map [("@", .str "RangeVar"), ("schemaname", .str schema), ("relname", .str relation),
    ("inh", .bool true), ("relpersistence", .str "p")]

/-- The tree of `SELECT FROM "schema"."relation"`. -/
def selectFrom (schema relation : String) : Value :=
  .map [("@", .str "SelectStmt"), ("fromClause", .tuple [rangeVar schema relation]),
    ("groupDistinct", .bool false),
    ("limitOption", enumMember "LimitOption" "LIMIT_OPTION_DEFAULT" 0),
    ("op", enumMember "SetOperation" "SETOP_NONE" 0), ("all", .bool false)]

/-- A `String` node. -/
def stringNode (s : String) : Value :=
  .map [("@", .str "String"), ("sval", .str s)]

/-- An integer constant. -/
def intConst (i : Int) : Value :=
  .map [("@", .str "A_Const"), ("isnull", .bool false),
    ("val", .map [("@", .str "Integer"), ("ival", .int i)])]

/-- The tree of `SELECT target`. -/
def selectTarget (target : Value) : Value :=
  .map [("@", .str "SelectStmt"),
    ("targetList", .tuple [.map [("@", .str "ResTarget"), ("val", target)]]),
    ("groupDistinct", .bool false),
    ("limitOption", enumMember "LimitOption" "LIMIT_OPTION_DEFAULT" 0),
    ("op", enumMember "SetOperation" "SETOP_NONE" 0), ("all", .bool false)]

/-- The tree of `left operator right`. -/
def opExpr (left : Value) (operator : List String) (right : Value) : Value :=
  .map [("@", .str "A_Expr"), ("kind", enumMember "A_Expr_Kind" "AEXPR_OP" 0),
    ("name", .tuple (operator.map stringNode)), ("lexpr", left), ("rexpr", right)]

/-- The tree of `left operator ANY (query)`. -/
def anySubLink (left : Value) (operator : List String) (query : Value) : Value :=
  .map [("@", .str "SubLink"), ("subLinkType", enumMember "SubLinkType" "ANY_SUBLINK" 2),
    ("subLinkId", .int 0), ("testexpr", left), ("operName", .tuple (operator.map stringNode)),
    ("subselect", query)]

/-- A parser that reads every text as the same statement. -/
def fixedParser (tree : Value) : SqlParser where
  parse := fun _ => some [tree]
  fingerprint := fun _ => some "5a0f"

/-- A text that is read as a tree that both passes accept is accepted, if it is within the limits.
-/
theorem validateSql_of_run {limits : SqlLimits} {tree : Value} {sql : String}
    {collected : Collected}
    (hrun : (validate limits.policy tree).run ⟨∅, ∅, ∅⟩ = .ok ((), collected))
    (htag : (tree.get "@").isStr "SelectStmt" = true)
    (hsql : ¬ sql.toList.all isSpace = true ∧ ¬ sql.utf8ByteSize > limits.maxSqlBytes) :
    validateSql (fixedParser tree) limits sql = .ok (collected.result "5a0f") :=
  validateSql_eq_ok.2 ⟨hsql, tree, collected, "5a0f", rfl, htag, hrun, rfl, rfl⟩

/-- Both passes accept the tree. -/
def accepts (p : ValidationPolicy) (tree : Value) : Bool :=
  match (validate p tree).run ⟨∅, ∅, ∅⟩ with
  | .ok _ => true
  | .error _ => false

theorem validateSql_of_accepts {limits : SqlLimits} {tree : Value} {sql : String}
    (htree : accepts limits.policy tree = true) (htag : (tree.get "@").isStr "SelectStmt" = true)
    (hsql : ¬ sql.toList.all isSpace = true ∧ ¬ sql.utf8ByteSize > limits.maxSqlBytes) :
    ∃ result, validateSql (fixedParser tree) limits sql = .ok result := by
  unfold accepts at htree
  cases hrun : (validate limits.policy tree).run ⟨∅, ∅, ∅⟩ with
  | error e => rw [hrun] at htree; cases htree
  | ok out =>
    obtain ⟨⟨⟩, collected⟩ := out
    exact ⟨_, validateSql_of_run hrun htag hsql⟩

end QueryMan
