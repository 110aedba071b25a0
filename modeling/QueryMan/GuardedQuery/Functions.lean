import QueryMan.GuardedQuery.NodeGate
import QueryMan.GuardedQuery.ResolvedObjects

/-!
# Checked and executed names

The validator compares the folded name of a function or a type with the allowlist, and the live
policy looks the folded name up; PostgreSQL resolves the name as it is written. `executedNames_iff`
says that the two agree exactly on the trees whose names are their own folding, and
`quotedAbs_accepted` is a statement on which they differ.
-/

namespace QueryMan

open Python

/-! ## Names of a tree -/

/-- The functions that the calls of a tree name, as PostgreSQL looks them up. -/
def calledFunctions (tree : Value) : List String :=
  ((walkNodes tree).filter fun node => nodeTag node = "FuncCall").filterMap fun node =>
    (stringParts (node.get "funcname")).getLast?

/-- The types that a tree names, as PostgreSQL looks them up. -/
def namedTypes (tree : Value) : List String :=
  ((walkNodes tree).filter fun node => nodeTag node = "TypeName").filterMap fun node =>
    (stringParts (node.get "names")).getLast?

theorem mem_calledFunctions {tree : Value} {name : String} :
    name ∈ calledFunctions tree ↔ ∃ node ∈ walkNodes tree, nodeTag node = "FuncCall" ∧
      (stringParts (node.get "funcname")).getLast? = some name := by
  simp [calledFunctions, and_assoc]

theorem mem_namedTypes {tree : Value} {name : String} :
    name ∈ namedTypes tree ↔ ∃ node ∈ walkNodes tree, nodeTag node = "TypeName" ∧
      (stringParts (node.get "names")).getLast? = some name := by
  simp [namedTypes, and_assoc]

/-- The name list is the name alone, or the name in `pg_catalog`. -/
def BuiltIn (parts : List String) (name : String) : Prop :=
  parts = [name] ∨ parts = ["pg_catalog", name]

theorem BuiltIn.getLast? {parts : List String} {name : String} (h : BuiltIn parts name) :
    parts.getLast? = some name := by
  rcases h with rfl | rfl <;> rfl

/-- A call whose name as it is written is in the allowlist. -/
def CallsListed (p : ValidationPolicy) (node : Value) : Prop :=
  ∃ name ∈ p.allowedFunctions, BuiltIn (stringParts (node.get "funcname")) name

/-- A type name that, as it is written, is in the allowlist. -/
def TypeListed (p : ValidationPolicy) (node : Value) : Prop :=
  stringParts (node.get "names") = [] ∨
  ∃ name ∈ p.allowedTypes,
    stringParts (node.get "names") = [name] ∧ name ∈ defaultAllowedUnqualifiedTypes ∨
      stringParts (node.get "names") = ["pg_catalog", name]

/-! ## Folded names -/

/-- The functions of an allowlist are their own folding. -/
theorem casefold_of_mem_allowedFunctions {limits : SqlLimits} {name : String}
    (h : name ∈ limits.policy.allowedFunctions) : casefold name = name := by
  obtain ⟨listed, -, rfl⟩ := List.mem_map.1 (List.mem_toFinset.1 h)
  exact casefold_casefold listed

/-- The types of an allowlist are their own folding. -/
theorem casefold_of_mem_allowedTypes {limits : SqlLimits} {name : String}
    (h : name ∈ limits.policy.allowedTypes) : casefold name = name := by
  obtain ⟨listed, -, rfl⟩ := List.mem_map.1 (List.mem_toFinset.1 h)
  exact casefold_casefold listed

/-- An approved call has one function name, in `pg_catalog` or unqualified. -/
theorem FuncCallApproved.builtIn {p : ValidationPolicy} {node : Value} {name : String}
    (h : FuncCallApproved p node)
    (hname : (stringParts (node.get "funcname")).getLast? = some name) :
    BuiltIn (stringParts (node.get "funcname")) name ∧ casefold name ∈ p.allowedFunctions := by
  obtain ⟨name', hparts, hmem⟩ := h
  have hbuiltIn : BuiltIn (stringParts (node.get "funcname")) name' := hparts
  rw [hbuiltIn.getLast?] at hname
  obtain rfl := Option.some.inj hname
  exact ⟨hbuiltIn, hmem⟩

/-- An approved call is listed exactly if its name is its own folding. -/
theorem callsListed_iff {limits : SqlLimits} {node : Value}
    (h : FuncCallApproved limits.policy node) :
    CallsListed limits.policy node ↔
      ∀ name, (stringParts (node.get "funcname")).getLast? = some name → casefold name = name := by
  constructor
  · rintro ⟨listed, hmem, hbuiltIn⟩ name hname
    rw [hbuiltIn.getLast?] at hname
    obtain rfl := Option.some.inj hname
    exact casefold_of_mem_allowedFunctions hmem
  · intro hfold
    obtain ⟨name, hparts, hmem⟩ := h
    have hbuiltIn : BuiltIn (stringParts (node.get "funcname")) name := hparts
    rw [hfold name hbuiltIn.getLast?] at hmem
    exact ⟨name, hmem, hbuiltIn⟩

/-- An approved type name is listed exactly if its name is its own folding. -/
theorem typeListed_iff {limits : SqlLimits} {node : Value}
    (h : TypeNameApproved limits.policy node) :
    TypeListed limits.policy node ↔
      ∀ name, (stringParts (node.get "names")).getLast? = some name → casefold name = name := by
  constructor
  · rintro (hnil | ⟨listed, hmem, hparts⟩) name hname
    · rw [hnil] at hname
      cases hname
    · have hlast : (stringParts (node.get "names")).getLast? = some listed := by
        rcases hparts with ⟨hparts, -⟩ | hparts <;> rw [hparts] <;> rfl
      rw [hlast] at hname
      obtain rfl := Option.some.inj hname
      exact casefold_of_mem_allowedTypes hmem
  · intro hfold
    rcases h with hnil | ⟨name, hmem, hparts⟩
    · exact .inl hnil
    · have hlast : (stringParts (node.get "names")).getLast? = some name := by
        rcases hparts with ⟨hparts, -⟩ | hparts <;> rw [hparts] <;> rfl
      rw [hfold name hlast] at hmem hparts
      exact .inr ⟨name, hmem, hparts⟩

/-! ## What is recorded -/

/-- The functions recorded of an accepted tree are the foldings of those it calls. -/
theorem mem_functions_iff {parser : SqlParser} {limits : SqlLimits} {sql : String} {tree : Value}
    {result : ValidatedSql} (hparse : parser.parse sql = some [tree])
    (haccepted : validateSql parser limits sql = .ok result) :
    (∀ node ∈ walkNodes tree, NodeApproved limits.policy node) ∧
      ∀ entry, entry ∈ result.functions ↔
        ∃ name ∈ calledFunctions tree, entry = "pg_catalog." ++ casefold name := by
  obtain ⟨-, tree', collected, fingerprint, hparse', -, hrun, -, rfl⟩ :=
    validateSql_eq_ok.1 haccepted
  rw [hparse] at hparse'
  obtain rfl : tree = tree' := by simpa using hparse'
  obtain ⟨happroved, hfunctions, -⟩ := validate_named hrun
  refine ⟨happroved, fun entry => ?_⟩
  rw [Collected.result, mem_sorted, hfunctions]
  constructor
  · rintro ⟨node, hmem, htag, name, hparts, rfl⟩
    have hbuiltIn : BuiltIn (stringParts (node.get "funcname")) name := hparts
    exact ⟨name, mem_calledFunctions.2 ⟨node, hmem, htag, hbuiltIn.getLast?⟩, rfl⟩
  · rintro ⟨name, hcalled, rfl⟩
    obtain ⟨node, hmem, htag, hlast⟩ := mem_calledFunctions.1 hcalled
    exact ⟨node, hmem, htag, name, (((happroved node hmem).funcCall htag).builtIn hlast).1, rfl⟩

/-- **The checked name is the executed name exactly when it is its own folding.** Of an accepted
tree, every call and every type name is in the allowlist as PostgreSQL looks it up, and for every
content of the catalog execution goes on only if each function called has a visible candidate of
exactly that name and only safe ones, if and only if the name of every function and type in the tree
is its own folding. -/
theorem executedNames_iff {parser : SqlParser} {limits : SqlLimits} {sql : String} {tree : Value}
    {result : ValidatedSql} (hparse : parser.parse sql = some [tree])
    (haccepted : validateSql parser limits sql = .ok result) :
    ((∀ node ∈ walkNodes tree, nodeTag node = "FuncCall" → CallsListed limits.policy node) ∧
        (∀ node ∈ walkNodes tree, nodeTag node = "TypeName" → TypeListed limits.policy node) ∧
        ∀ catalog, validateResolvedObjects catalog result = .ok () →
          ∀ name ∈ calledFunctions tree, (∃ routine, routine ∈ catalog.candidates name) ∧
            ∀ routine ∈ catalog.candidates name, routine.isSafe = true) ↔
      (∀ name ∈ calledFunctions tree, casefold name = name) ∧
        ∀ name ∈ namedTypes tree, casefold name = name := by
  obtain ⟨happroved, hrecorded⟩ := mem_functions_iff hparse haccepted
  constructor
  · rintro ⟨hcalls, htypes, -⟩
    constructor
    · intro name hname
      obtain ⟨node, hmem, htag, hlast⟩ := mem_calledFunctions.1 hname
      exact (callsListed_iff ((happroved node hmem).funcCall htag)).1 (hcalls node hmem htag) name
        hlast
    · intro name hname
      obtain ⟨node, hmem, htag, hlast⟩ := mem_namedTypes.1 hname
      exact (typeListed_iff ((happroved node hmem).typeName htag)).1 (htypes node hmem htag) name
        hlast
  · rintro ⟨hfunctions, htypes⟩
    refine ⟨fun node hmem htag => ?_, fun node hmem htag => ?_, fun catalog hlive name hname => ?_⟩
    · refine (callsListed_iff ((happroved node hmem).funcCall htag)).2 fun name hlast => ?_
      exact hfunctions name (mem_calledFunctions.2 ⟨node, hmem, htag, hlast⟩)
    · refine (typeListed_iff ((happroved node hmem).typeName htag)).2 fun name hlast => ?_
      exact htypes name (mem_namedTypes.2 ⟨node, hmem, htag, hlast⟩)
    · refine candidates_of_validateResolvedObjects ((hrecorded _).2 ⟨name, hname, ?_⟩) hlive
      rw [hfunctions name hname]

/-! ## The default allowlists -/

theorem map_casefold_of_isPlain {names : List String}
    (h : (names.all fun name => name.toList.all isPlain) = true) :
    names.map casefold = names := by
  have hfold : ∀ name ∈ names, casefold name = id name := fun name hmem =>
    casefold_of_isPlain (List.all_eq_true.1 h name hmem)
  rw [List.map_congr_left hfold, List.map_id]

/-- Folding leaves the default allowlists as they are. -/
theorem policy_default (allowedRelations : List String) :
    SqlLimits.policy { allowedRelations := allowedRelations } =
      ⟨allowedRelations.toFinset, defaultAllowedFunctions.toFinset,
        defaultAllowedOperators.toFinset, defaultAllowedTypes.toFinset⟩ := by
  have hfunctions : defaultAllowedFunctions.map casefold = defaultAllowedFunctions :=
    map_casefold_of_isPlain (by decide +kernel)
  have htypes : defaultAllowedTypes.map casefold = defaultAllowedTypes :=
    map_casefold_of_isPlain (by decide +kernel)
  rw [SqlLimits.policy, hfunctions, htypes]

/-! ## A quoted name -/

/-- The tree of `function(arguments)`. -/
def funcCall (function : List String) (arguments : List Value) : Value :=
  .map [("@", .str "FuncCall"), ("funcname", .tuple (function.map stringNode)),
    ("args", .tuple arguments), ("agg_within_group", .bool false), ("agg_star", .bool false),
    ("agg_distinct", .bool false), ("func_variadic", .bool false),
    ("funcformat", enumMember "CoercionForm" "COERCE_EXPLICIT_CALL" 0)]

/-- The tree of `SELECT abs(1)`. -/
def plainAbs : Value :=
  selectTarget (funcCall ["abs"] [intConst 1])

/-- The condition is met by an unquoted name. -/
theorem executedNames_iff_plainAbs :
    ∃ result, validateSql (fixedParser plainAbs) { allowedRelations := [] } "SELECT abs(1)" =
        .ok result ∧
      ∀ catalog, validateResolvedObjects catalog result = .ok () →
        ∀ name ∈ calledFunctions plainAbs, (∃ routine, routine ∈ catalog.candidates name) ∧
          ∀ routine ∈ catalog.candidates name, routine.isSafe = true := by
  have htree : accepts (SqlLimits.policy { allowedRelations := [] }) plainAbs = true := by
    rw [policy_default]
    decide +kernel
  have haccepted : ∃ result, validateSql (fixedParser plainAbs) { allowedRelations := [] }
      "SELECT abs(1)" = .ok result :=
    validateSql_of_accepts htree rfl (by decide)
  obtain ⟨result, hok⟩ := haccepted
  exact ⟨result, hok, ((executedNames_iff rfl hok).2 ⟨by decide +kernel, by decide⟩).2.2⟩

/-- The tree of `SELECT "ABS"(1)`. -/
def quotedAbs : Value :=
  selectTarget (funcCall ["ABS"] [intConst 1])

/-- A catalog in which `abs` is the built-in and there is no `ABS`. -/
def builtInAbs : LiveCatalog where
  routines := [⟨"abs", "pg_catalog", 'i', false, true, true⟩]
  operators := []

/-- A result that lists one function looks that function up. -/
theorem validateResolvedObjects_singleton {catalog : LiveCatalog} {name fingerprint : String}
    (h : safeNames (catalog.functionPolicy [name]) = {name}) :
    validateResolvedObjects catalog
      (Collected.result ⟨∅, {"pg_catalog." ++ name}, ∅⟩ fingerprint) = .ok () := by
  have hfunctions : (Collected.result ⟨∅, {"pg_catalog." ++ name}, ∅⟩ fingerprint).functionNames =
      {name} := by
    rw [ValidatedSql.functionNames, Collected.result, sorted_singleton, List.map_singleton,
      removePrefix_append]
    rfl
  have hoperators : (Collected.result ⟨∅, {"pg_catalog." ++ name}, ∅⟩ fingerprint).operatorNames =
      ∅ := by
    rw [ValidatedSql.operatorNames, Collected.result, sorted_empty]
    rfl
  rw [validateResolvedObjects, hfunctions, hoperators, sorted_singleton, h, raiseIf, raiseIf,
    if_neg (by simp), if_neg (by simp)]
  rfl

/-- `"ABS"` is accepted and passes the live policy on the strength of `abs`: the name that
PostgreSQL will look up is not in the allowlist and has no candidate. -/
theorem quotedAbs_accepted :
    (∃ result, validateSql (fixedParser quotedAbs) { allowedRelations := [] } "SELECT \"ABS\"(1)" =
        .ok result ∧ validateResolvedObjects builtInAbs result = .ok ()) ∧
      calledFunctions quotedAbs = ["ABS"] ∧
      "ABS" ∉ (SqlLimits.policy { allowedRelations := [] }).allowedFunctions ∧
      builtInAbs.candidates "ABS" = [] := by
  have hrun : (validate (SqlLimits.policy { allowedRelations := [] }) quotedAbs).run ⟨∅, ∅, ∅⟩ =
      .ok ((), ⟨∅, {"pg_catalog." ++ "abs"}, ∅⟩) := by
    rw [policy_default]
    decide +kernel
  have hok : validateSql (fixedParser quotedAbs) { allowedRelations := [] } "SELECT \"ABS\"(1)" =
      .ok (Collected.result ⟨∅, {"pg_catalog." ++ "abs"}, ∅⟩ "5a0f") :=
    validateSql_of_run hrun rfl (by decide)
  have hlive : safeNames (builtInAbs.functionPolicy ["abs"]) = {"abs"} := by decide
  have hfold : casefold "ABS" ≠ "ABS" := by decide +kernel
  exact ⟨⟨_, hok, validateResolvedObjects_singleton hlive⟩, by decide,
    fun hmem => hfold (casefold_of_mem_allowedFunctions hmem), by decide⟩

end QueryMan
