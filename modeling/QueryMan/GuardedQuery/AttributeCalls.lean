import QueryMan.GuardedQuery.Functions
import QueryMan.GuardedQuery.Relations

/-!
# Functions in attribute notation

In PostgreSQL `r.f` is the call `f(r)` where `r` is a `FROM` item that has no column `f`, and so is
`(e).f` for a row value `e`. The validator inspects calls written as such only. `AttributeCall` says
which functions a tree calls in attribute notation: the `FROM` items that a position sees are
resolved level by level, and the columns of a published relation are those of the snapshot. What the
snapshot does not tell, such as the columns of a subquery, is the parameter `Analysis`.
`functions_covered_iff` says when the check covers every function of the tree, and
`attributeCall_accepted` is a statement in which it does not.
-/

namespace QueryMan

open Python
open Python.Value (Step)

/-! ## `FROM` items -/

/-- What PostgreSQL's analysis finds of a tree beyond the snapshot: the name of the database, the
columns of a `FROM` item that is no published relation, by its position, and the columns of the row
value that the first `n` steps of an indirection select, if it is one. -/
structure Analysis where
  database : String
  derivedColumns : Value.Path → List String
  rowColumns : Value.Path → Nat → Option (List String)

/-- The alias of a `FROM` item. -/
def aliasName? (item : Value) : Option String :=
  name? (item.get "alias") "aliasname"

/-- The items of a `FROM` entry that can be named outside it, with their positions. A join hides its
parts behind its alias; the alias of its `USING` columns is an item of its own. -/
inductive Exposes : Value → Value.Path → Value → Prop where
  | rangeVar {v : Value} (htag : nodeTag v = "RangeVar") : Exposes v [] v
  | subselect {v : Value} (htag : nodeTag v = "RangeSubselect") : Exposes v [] v
  | join {v : Value} (htag : nodeTag v = "JoinExpr") (halias : aliasName? v ≠ none) : Exposes v [] v
  | left {v l item : Value} {path : Value.Path} (htag : nodeTag v = "JoinExpr")
      (halias : aliasName? v = none) (hl : v.get? "larg" = some l) (h : Exposes l path item) :
      Exposes v (.key "larg" :: path) item
  | right {v r item : Value} {path : Value.Path} (htag : nodeTag v = "JoinExpr")
      (halias : aliasName? v = none) (hr : v.get? "rarg" = some r) (h : Exposes r path item) :
      Exposes v (.key "rarg" :: path) item
  | usingAlias {v a : Value} (htag : nodeTag v = "JoinExpr") (halias : aliasName? v = none)
      (ha : v.get? "join_using_alias" = some a) : Exposes v [.key "join_using_alias"] a

/-- The items that a position inside a `FROM` entry sees of its own query: for a `LATERAL` subquery
those `before` it, in the condition of a join those of its two sides. The entry is at `base`. -/
inductive SeenInside : (before : Value.Path → Value → Prop) → (base : Value.Path) → Value →
    Value.Path → Value.Path → Value → Prop where
  | lateral {before : Value.Path → Value → Prop} {base rest path : Value.Path} {v item : Value}
      (htag : nodeTag v = "RangeSubselect") (hlateral : (v.get "lateral").truthy = true)
      (h : before path item) : SeenInside before base v (.key "subquery" :: rest) path item
  | left {before : Value.Path → Value → Prop} {base rest path : Value.Path} {v l item : Value}
      (htag : nodeTag v = "JoinExpr") (hl : v.get? "larg" = some l)
      (h : SeenInside before (base ++ [.key "larg"]) l rest path item) :
      SeenInside before base v (.key "larg" :: rest) path item
  | right {before : Value.Path → Value → Prop} {base rest path : Value.Path} {v l r item : Value}
      (htag : nodeTag v = "JoinExpr") (hl : v.get? "larg" = some l) (hr : v.get? "rarg" = some r)
      (h : SeenInside (fun path item => before path item ∨
          enumName v "jointype" ∈ ["JOIN_INNER", "JOIN_LEFT"] ∧
          ∃ q, path = base ++ .key "larg" :: q ∧ Exposes l q item)
        (base ++ [.key "rarg"]) r rest path item) :
      SeenInside before base v (.key "rarg" :: rest) path item
  | qualsLeft {before : Value.Path → Value → Prop} {base rest q : Value.Path} {v l item : Value}
      (htag : nodeTag v = "JoinExpr") (hl : v.get? "larg" = some l) (h : Exposes l q item) :
      SeenInside before base v (.key "quals" :: rest) (base ++ .key "larg" :: q) item
  | qualsRight {before : Value.Path → Value → Prop} {base rest q : Value.Path} {v r item : Value}
      (htag : nodeTag v = "JoinExpr") (hr : v.get? "rarg" = some r) (h : Exposes r q item) :
      SeenInside before base v (.key "quals" :: rest) (base ++ .key "rarg" :: q) item

/-- The statement at `above` has the item, in an entry of its `FROM` clause whose index satisfies
`within`. -/
def FromItem (t : Value) (above : Value.Path) (within : Nat → Prop) (path : Value.Path)
    (item : Value) : Prop :=
  ∃ i entry q, within i ∧ t.at? (above ++ [.key "fromClause", .index i]) = some entry ∧
    path = above ++ .key "fromClause" :: .index i :: q ∧ Exposes entry q item

/-- The item of the statement at `above` is seen at the position `below` it. The queries of its
`WITH` clause see none of its items. -/
def SeenAt (t : Value) (above below : Value.Path) (path : Value.Path) (item : Value) : Prop :=
  (∃ sel, t.at? above = some sel ∧ IsSelect sel) ∧
    ((∃ key rest, below = .key key :: rest ∧ key ≠ "withClause" ∧ key ≠ "fromClause" ∧
        FromItem t above (fun _ => True) path item) ∨
      ∃ i rest entry, below = .key "fromClause" :: .index i :: rest ∧
        t.at? (above ++ [.key "fromClause", .index i]) = some entry ∧
        SeenInside (FromItem t above (· < i)) (above ++ [.key "fromClause", .index i]) entry rest
          path item)

/-- The qualifier of a column reference names the item: by its alias or name, or, if it has no
alias, by its schema and name. -/
def NamedBy (analysis : Analysis) (item : Value) : List String → Prop
  | [r] => aliasName? item = some r ∨ aliasName? item = none ∧
      (IsRangeVar item ∧ name? item "relname" = some r ∨ name? item "aliasname" = some r)
  | [s, r] => aliasName? item = none ∧ IsRangeVar item ∧ name? item "schemaname" = some s ∧
      name? item "relname" = some r
  | [d, s, r] => d = analysis.database ∧ aliasName? item = none ∧ IsRangeVar item ∧
      name? item "schemaname" = some s ∧ name? item "relname" = some r
  | _ => False

/-- At the position `pos` the qualifier names the item: it does so at some level of the statements
around the position, and no item of a level further in is named by it. -/
def Refers (analysis : Analysis) (t : Value) (pos : Value.Path) (qualifier : List String)
    (path : Value.Path) (item : Value) : Prop :=
  ∃ above below, pos = above ++ below ∧ SeenAt t above below path item ∧
    NamedBy analysis item qualifier ∧
    ∀ above' below', pos = above' ++ below' → above.length < above'.length →
      ∀ path' item', SeenAt t above' below' path' item' → ¬ NamedBy analysis item' qualifier

/-- The columns of a `FROM` item: of a published relation those of the snapshot, renamed by the
item's column aliases. -/
def itemColumns {source : SourceProfile} (snapshot : PublishedSnapshot source) (analysis : Analysis)
    (path : Value.Path) (item : Value) : List String :=
  let published := snapshot.relations.find? fun relation =>
    nodeTag item = "RangeVar" ∧ name? item "schemaname" = some relation.schema ∧
      name? item "relname" = some relation.name
  match published with
  | some relation =>
    let renamed := stringParts ((item.get "alias").get "colnames")
    renamed ++ (relation.columns.map CatalogColumn.name).drop renamed.length
  | none => analysis.derivedColumns path

/-- The tree calls the function in attribute notation. -/
inductive AttributeCall {source : SourceProfile} (snapshot : PublishedSnapshot source)
    (analysis : Analysis) (t : Value) (function : String) : Prop where
  /-- `r.f`, where the `FROM` item `r` has no column `f`. -/
  | columnRef {pos path : Value.Path} {node item : Value} {qualifier : List String}
      (hat : t.at? pos = some node) (htag : nodeTag node = "ColumnRef")
      (hnames : (stringParts (node.get "fields")).length = (node.get "fields").items.length)
      (hfields : stringParts (node.get "fields") = qualifier ++ [function])
      (hrefers : Refers analysis t pos qualifier path item)
      (hcolumn : function ∉ itemColumns snapshot analysis path item)
  /-- `(e).f`, where the row value `e` has no column `f`. -/
  | indirection {pos : Value.Path} {node : Value} {n : Nat} {part : Value} {columns : List String}
      (hat : t.at? pos = some node) (htag : nodeTag node = "A_Indirection")
      (hpart : (node.get "indirection").items[n]? = some part) (hstring : nodeTag part = "String")
      (hname : name? part "sval" = some function)
      (hrow : analysis.rowColumns pos n = some columns) (hcolumn : function ∉ columns)

/-- The tree denotes a call of the function, in either notation. -/
def DenotesCall {source : SourceProfile} (snapshot : PublishedSnapshot source) (analysis : Analysis)
    (t : Value) (function : String) : Prop :=
  function ∈ calledFunctions t ∨ AttributeCall snapshot analysis t function

/-! ## The check -/

/-- A function is recorded under its own name exactly if a call of the tree folds to it. -/
theorem recorded_iff {parser : SqlParser} {limits : SqlLimits} {sql : String} {tree : Value}
    {result : ValidatedSql} (hparse : parser.parse sql = some [tree])
    (haccepted : validateSql parser limits sql = .ok result) (function : String) :
    "pg_catalog." ++ function ∈ result.functions ↔
      ∃ name ∈ calledFunctions tree, function = casefold name := by
  rw [(mem_functions_iff hparse haccepted).2]
  refine exists_congr fun name => and_congr_right fun _ => ?_
  constructor
  · intro h
    have h' := congrArg String.toList h
    simp only [String.toList_append, List.append_cancel_left_eq] at h'
    exact String.toList_inj.1 h'
  · exact fun h => congrArg _ h

/-- **Every function is covered exactly when attribute notation adds none.** Of a statement accepted
for a published snapshot, every function that it denotes is in the allowlist, is recorded and is
therefore covered by the live policy, if and only if the functions that it calls are their own
folding and it calls none in attribute notation that it does not also call as such. -/
theorem functions_covered_iff {source : SourceProfile} (snapshot : PublishedSnapshot source)
    (analysis : Analysis) {parser : SqlParser} {sql : String} {tree : Value}
    {result : ValidatedSql} (hparse : parser.parse sql = some [tree])
    (haccepted : validateSql parser snapshot.sqlLimits sql = .ok result) :
    (∀ function, DenotesCall snapshot analysis tree function →
        function ∈ snapshot.sqlLimits.policy.allowedFunctions ∧
        "pg_catalog." ++ function ∈ result.functions ∧
        ∀ catalog, validateResolvedObjects catalog result = .ok () →
          (∃ routine, routine ∈ catalog.candidates function) ∧
            ∀ routine ∈ catalog.candidates function, routine.isSafe = true) ↔
      (∀ name ∈ calledFunctions tree, casefold name = name) ∧
        ∀ function, AttributeCall snapshot analysis tree function →
          function ∈ calledFunctions tree := by
  have hrecorded := recorded_iff hparse haccepted
  constructor
  · intro h
    have hfold : ∀ name ∈ calledFunctions tree, casefold name = name := fun name hname =>
      casefold_of_mem_allowedFunctions (h name (.inl hname)).1
    refine ⟨hfold, fun function hcall => ?_⟩
    obtain ⟨name, hname, rfl⟩ := (hrecorded function).1 (h function (.inr hcall)).2.1
    rwa [hfold name hname]
  · rintro ⟨hfold, hattribute⟩ function hdenotes
    have hcalled : function ∈ calledFunctions tree := hdenotes.elim id (hattribute function)
    have hlisted : "pg_catalog." ++ function ∈ result.functions :=
      (hrecorded function).2 ⟨function, hcalled, (hfold function hcalled).symm⟩
    refine ⟨?_, hlisted, fun catalog hlive => candidates_of_validateResolvedObjects hlisted hlive⟩
    obtain ⟨node, hmem, htag, hlast⟩ := mem_calledFunctions.1 hcalled
    have happroved := (mem_functions_iff hparse haccepted).1 node hmem
    have hallowed := ((happroved.funcCall htag).builtIn hlast).2
    rwa [hfold function hcalled] at hallowed

/-! ## Two statements -/

/-- Both passes see only the allowlists of the published relations and the defaults. -/
theorem sqlLimits_policy {source : SourceProfile} (snapshot : PublishedSnapshot source) :
    snapshot.sqlLimits.policy = SqlLimits.policy
      { allowedRelations := snapshot.relations.map CatalogRelation.qualifiedName } :=
  rfl

/-- An analysis for statements without subqueries, joins and row values. -/
def plainAnalysis : Analysis where
  database := "demo"
  derivedColumns := fun _ => []
  rowColumns := fun _ _ => none

/-- A node at a position of the tree is one that the walk visits, if it has a tag. -/
theorem mem_walkNodes_of_at? {t node : Value} {pos : Value.Path} {tag : String} (hne : tag ≠ "")
    (hat : t.at? pos = some node) (htag : nodeTag node = tag) : node ∈ walkNodes t := by
  refine mem_walkNodes_of_within (Value.within_of_at? hat) ?_
  cases hget : node.get? "@" with
  | some => rfl
  | none =>
    rw [nodeTag, Value.getD, hget] at htag
    exact absurd htag.symm hne

/-- A tree without column references and indirections calls nothing in attribute notation. -/
theorem not_attributeCall {source : SourceProfile} {snapshot : PublishedSnapshot source}
    {analysis : Analysis} {t : Value} {function : String}
    (h : ∀ node ∈ walkNodes t, nodeTag node ≠ "ColumnRef" ∧ nodeTag node ≠ "A_Indirection") :
    ¬ AttributeCall snapshot analysis t function := by
  intro hcall
  cases hcall with
  | columnRef hat htag => exact (h _ (mem_walkNodes_of_at? (by decide) hat htag)).1 htag
  | indirection hat htag => exact (h _ (mem_walkNodes_of_at? (by decide) hat htag)).2 htag

/-- The condition is met by `SELECT abs(1)`. -/
theorem functions_covered_iff_plainAbs :
    ∃ result, validateSql (fixedParser plainAbs) DottedView.snapshot.sqlLimits "SELECT abs(1)" =
        .ok result ∧
      ∀ function, DenotesCall DottedView.snapshot plainAnalysis plainAbs function →
        function ∈ DottedView.snapshot.sqlLimits.policy.allowedFunctions ∧
        "pg_catalog." ++ function ∈ result.functions ∧
        ∀ catalog, validateResolvedObjects catalog result = .ok () →
          (∃ routine, routine ∈ catalog.candidates function) ∧
            ∀ routine ∈ catalog.candidates function, routine.isSafe = true := by
  have htree : accepts DottedView.snapshot.sqlLimits.policy plainAbs = true := by
    rw [sqlLimits_policy, policy_default]
    decide +kernel
  have haccepted : ∃ result, validateSql (fixedParser plainAbs) DottedView.snapshot.sqlLimits
      "SELECT abs(1)" = .ok result :=
    validateSql_of_accepts htree rfl (by decide)
  obtain ⟨result, hok⟩ := haccepted
  refine ⟨result, hok, (functions_covered_iff DottedView.snapshot plainAnalysis rfl hok).2
    ⟨by decide +kernel, fun function hcall => ?_⟩⟩
  exact absurd hcall (not_attributeCall (by decide))

/-- A column reference made of plain names. -/
def columnRef (names : List String) : Value :=
  .map [("@", .str "ColumnRef"), ("fields", .tuple (names.map stringNode))]

/-- The tree of `SELECT v.row_to_json FROM public."x.y" AS v`. -/
def rowToJson : Value :=
  .map [("@", .str "SelectStmt"),
    ("targetList",
      .tuple [.map [("@", .str "ResTarget"), ("val", columnRef ["v", "row_to_json"])]]),
    ("fromClause", .tuple [.map [("@", .str "RangeVar"), ("schemaname", .str "public"),
      ("relname", .str "x.y"), ("inh", .bool true), ("relpersistence", .str "p"),
      ("alias", .map [("@", .str "Alias"), ("aliasname", .str "v")])]]),
    ("groupDistinct", .bool false),
    ("limitOption", enumMember "LimitOption" "LIMIT_OPTION_DEFAULT" 0),
    ("op", enumMember "SetOperation" "SETOP_NONE" 0), ("all", .bool false)]

/-- The view has no column `row_to_json`, so the statement calls the function. -/
theorem rowToJson_calls :
    AttributeCall DottedView.snapshot plainAnalysis rowToJson "row_to_json" := by
  have hat : rowToJson.at? [.key "targetList", .index 0, .key "val"] =
      some (columnRef ["v", "row_to_json"]) := rfl
  have hfields : stringParts ((columnRef ["v", "row_to_json"]).get "fields") =
      ["v"] ++ ["row_to_json"] := rfl
  have hseen : SeenAt rowToJson [] [.key "targetList", .index 0, .key "val"]
      [.key "fromClause", .index 0] (((rowToJson.get "fromClause").items[0]?).getD .none) :=
    ⟨⟨rowToJson, rfl, rfl⟩,
      .inl ⟨"targetList", _, rfl, by decide, by decide, 0, _, [], trivial, rfl,
      rfl, .rangeVar rfl⟩⟩
  have hnamed : NamedBy plainAnalysis (((rowToJson.get "fromClause").items[0]?).getD .none) ["v"] :=
    Or.inl rfl
  refine .columnRef hat rfl rfl hfields ⟨[], _, rfl, hseen, hnamed, ?_⟩ (by decide)
  -- No other statement is around the reference.
  rintro above below hpos hlength path item ⟨⟨sel, hsel, hselect⟩, -⟩
  rcases above with _ | ⟨s₁, _ | ⟨s₂, _ | ⟨s₃, above⟩⟩⟩
  · cases hlength
  · cases hpos
    cases hsel
    cases hselect
  · cases hpos
    cases hsel
    cases hselect
  · simp only [List.cons_append, List.cons.injEq, List.nil_eq, List.append_eq_nil_iff] at hpos
    obtain ⟨rfl, rfl, rfl, rfl, -⟩ := hpos
    cases hsel
    cases hselect

/-- The statement is accepted, although the function that it calls is neither in the allowlist nor
recorded. -/
theorem attributeCall_accepted :
    (∃ result, validateSql (fixedParser rowToJson) DottedView.snapshot.sqlLimits
        "SELECT v.row_to_json FROM public.\"x.y\" AS v" = .ok result ∧ result.functions = []) ∧
      DenotesCall DottedView.snapshot plainAnalysis rowToJson "row_to_json" ∧
      "row_to_json" ∉ DottedView.snapshot.sqlLimits.policy.allowedFunctions := by
  have hrun : (validate DottedView.snapshot.sqlLimits.policy rowToJson).run ⟨∅, ∅, ∅⟩ =
      .ok ((), ⟨{"public.x.y"}, ∅, ∅⟩) := by
    rw [sqlLimits_policy, policy_default]
    decide +kernel
  have hok : validateSql (fixedParser rowToJson) DottedView.snapshot.sqlLimits
      "SELECT v.row_to_json FROM public.\"x.y\" AS v" =
      .ok (Collected.result ⟨{"public.x.y"}, ∅, ∅⟩ "5a0f") :=
    validateSql_of_run hrun rfl (by decide)
  have hlisted : "row_to_json" ∉ defaultAllowedFunctions := by decide
  refine ⟨⟨_, hok, sorted_empty⟩, .inr rowToJson_calls, ?_⟩
  rw [sqlLimits_policy, policy_default]
  exact fun hmem => hlisted (List.mem_toFinset.1 hmem)

end QueryMan
