import MysqlRedshift.Proxy.Router

/-!
# Which names are tables

The router takes every `tableName` node for a table. Here the same nodes are read
with SQL's binding rules: an unqualified name is *bound* when an enclosing `WITH`
introduces it, or when it is a target of a multi-table `DELETE` (or of `FOR UPDATE
OF`) and an alias of the statement's own table references; every other node names
a *base table*. A common table expression sees the ones before it, and itself under
`RECURSIVE`; the statement under the clause sees them all. Names are compared
lowercased, as the router does.
-/

namespace MysqlRedshift.Proxy.Router

open MysqlRedshift.Misc

variable (db : UnicodeDb)

mutual

/-- The aliases that a table reference introduces, without those inside a derived
table. -/
def aliases : Node → List String
  | .tableSource source asName =>
    match asName with
    | some name => [toLower db name]
    | none => aliases source
  | .join left right _ => aliases left ++ aliases right
  | _ => []

def aliasesAll : List Node → List String
  | [] => []
  | n :: ns => aliases n ++ aliasesAll ns

end

/-- Whether a name is bound, where the names of `scope` are. -/
def bound (scope : List String) (t : TableName) : Bool :=
  t.schema = "" && scope.contains (t.lower db)

mutual

/-- The `tableName` nodes in visiting order, each with whether it is bound. -/
def resolve (scope : List String) : Node → List (TableName × Bool)
  | .tableName t => [(t, bound db scope t)]
  | .tableSource source _ => resolve scope source
  | .join left right on => resolve scope left ++ resolve scope right ++ resolveAll scope on
  | .select froms fields conds lockOf =>
    resolveAll scope froms ++ resolveAll scope fields ++ resolveAll scope conds ++
      lockOf.map fun t => (t, bound db (aliasesAll db froms ++ scope) t)
  | .setOpr selects => resolveAll scope selects
  | .subquery query => resolve scope query
  | .expr args => resolveAll scope args
  | .withClause isRecursive ctes body =>
    resolveCtes isRecursive scope ctes ++
      resolve (ctes.map (fun c => toLower db c.1) ++ scope) body
  | .insert table source => resolve scope table ++ resolveAll scope source
  | .update refs rest => resolve scope refs ++ resolveAll scope rest
  | .delete targets refs rest =>
    targets.map (fun t => (t, bound db (aliases db refs ++ scope) t)) ++
      resolve scope refs ++ resolveAll scope rest
  | .other children => resolveAll scope children

def resolveAll (scope : List String) : List Node → List (TableName × Bool)
  | [] => []
  | n :: ns => resolve scope n ++ resolveAll scope ns

def resolveCtes (isRecursive : Bool) (scope : List String) :
    List (String × Node) → List (TableName × Bool)
  | [] => []
  | (name, query) :: ctes =>
    let itself := toLower db name :: scope
    resolve (if isRecursive then itself else scope) query ++ resolveCtes isRecursive itself ctes

end

/-- The base tables that statements reference. -/
def baseTables (stmts : List Node) : List TableName :=
  ((stmts.flatMap (resolve db [])).filter fun p => !p.2).map Prod.fst

/-- The references of statements to common table expressions and aliases. -/
def boundNames (stmts : List Node) : List TableName :=
  ((stmts.flatMap (resolve db [])).filter fun p => p.2).map Prod.fst

theorem map_fst_mark (p : TableName → Bool) (ts : List TableName) :
    (ts.map fun t => (t, p t)).map Prod.fst = ts := by
  rw [List.map_map]
  exact List.map_id ts

mutual

/-- Resolution only marks the nodes that the visitor meets: one case for each
constructor of the tree. -/
theorem resolve_map_fst (scope : List String) :
    ∀ n : Node, (resolve db scope n).map Prod.fst = tableNames n
  | .tableName t => rfl
  | .tableSource source _ => by
    simp only [resolve, tableNames, resolve_map_fst scope source]
  | .join left right on => by
    simp only [resolve, tableNames, List.map_append, resolve_map_fst scope left,
      resolve_map_fst scope right, resolveAll_map_fst scope on]
  | .select froms fields conds lockOf => by
    simp only [resolve, tableNames, List.map_append, map_fst_mark,
      resolveAll_map_fst scope froms, resolveAll_map_fst scope fields,
      resolveAll_map_fst scope conds]
  | .setOpr selects => by
    simp only [resolve, tableNames, resolveAll_map_fst scope selects]
  | .subquery query => by
    simp only [resolve, tableNames, resolve_map_fst scope query]
  | .expr args => by
    simp only [resolve, tableNames, resolveAll_map_fst scope args]
  | .withClause isRecursive ctes body => by
    simp only [resolve, tableNames, List.map_append, resolve_map_fst _ body,
      resolveCtes_map_fst isRecursive scope ctes]
  | .insert table source => by
    simp only [resolve, tableNames, List.map_append, resolve_map_fst scope table,
      resolveAll_map_fst scope source]
  | .update refs rest => by
    simp only [resolve, tableNames, List.map_append, resolve_map_fst scope refs,
      resolveAll_map_fst scope rest]
  | .delete targets refs rest => by
    simp only [resolve, tableNames, List.map_append, map_fst_mark,
      resolve_map_fst scope refs, resolveAll_map_fst scope rest]
  | .other children => by
    simp only [resolve, tableNames, resolveAll_map_fst scope children]

theorem resolveAll_map_fst (scope : List String) :
    ∀ ns : List Node, (resolveAll db scope ns).map Prod.fst = tableNamesAll ns
  | [] => rfl
  | n :: ns => by
    simp only [resolveAll, tableNamesAll, List.map_append, resolve_map_fst scope n,
      resolveAll_map_fst scope ns]

theorem resolveCtes_map_fst (isRecursive : Bool) (scope : List String) :
    ∀ ctes : List (String × Node),
      (resolveCtes db isRecursive scope ctes).map Prod.fst = tableNamesCtes ctes
  | [] => rfl
  | (name, query) :: ctes => by
    simp only [resolveCtes, tableNamesCtes, List.map_append, resolve_map_fst _ query,
      resolveCtes_map_fst isRecursive _ ctes]

end

/-- Every node is one or the other, so the visitor's names are those of the base
tables together with the bound ones. -/
theorem mem_tableNames_iff (stmts : List Node) (t : TableName) :
    t ∈ stmts.flatMap tableNames ↔ t ∈ baseTables db stmts ∨ t ∈ boundNames db stmts := by
  have marked : stmts.flatMap tableNames = (stmts.flatMap (resolve db [])).map Prod.fst := by
    rw [List.map_flatMap]
    exact congrArg (List.flatMap · stmts) (funext fun n => (resolve_map_fst db [] n).symm)
  rw [marked]
  simp only [baseTables, boundNames, List.mem_map, List.mem_filter]
  constructor
  · rintro ⟨⟨t, b⟩, member, rfl⟩
    cases b with
    | false => exact Or.inl ⟨(t, false), ⟨member, rfl⟩, rfl⟩
    | true => exact Or.inr ⟨(t, true), ⟨member, rfl⟩, rfl⟩
  · rintro (⟨p, ⟨member, _⟩, rfl⟩ | ⟨p, ⟨member, _⟩, rfl⟩) <;> exact ⟨p, member, rfl⟩

/-! ## Exact routing -/

/-- The routing rule of the configuration for a whitelist text and a query: whatever
order the maps are read in, Redshift is chosen exactly when every base table is
listed. -/
def RoutesExactly (parse : String → Except String (List Node)) (csv sql : String)
    (stmts : List Node) : Prop :=
  ∀ order, ((new db parse order csv).route sql).1 = .redshift ↔
    ∀ t ∈ baseTables db stmts, t.lower db ∈ whitelistOf db csv

theorem new_route_redshift_iff {parse : String → Except String (List Node)} {csv sql : String}
    {stmts : List Node} (hcsv : ∃ e ∈ splitAtChar csv ',', trimSpace (toLower db e) ≠ "")
    (hparse : parse sql = .ok stmts) (order : MapOrder) :
    ((new db parse order csv).route sql).1 = .redshift ↔
      (∀ t ∈ baseTables db stmts, t.lower db ∈ whitelistOf db csv) ∧
        ∀ t ∈ boundNames db stmts, t.lower db ∈ whitelistOf db csv := by
  have listed : whitelistOf db csv ≠ [] := by
    obtain ⟨e, member, named⟩ := hcsv
    exact List.ne_nil_of_mem ((mem_whitelistOf db csv _).mpr ⟨named, e, member, rfl⟩)
  rw [(new db parse order csv).route_redshift_iff listed hparse]
  simp only [new, mem_tableNames_iff db stmts, or_imp, forall_and]

/-- Redshift or MySQL does not depend on the order of the maps, and the rule holds
exactly when no bound name keeps a query of listed tables from Redshift: each one is
itself on the whitelist, or some base table is not. -/
theorem routesExactly_iff (parse : String → Except String (List Node)) (csv sql : String)
    (stmts : List Node) (hcsv : ∃ e ∈ splitAtChar csv ',', trimSpace (toLower db e) ≠ "")
    (hparse : parse sql = .ok stmts) :
    (∀ order order', ((new db parse order csv).route sql).1 =
      ((new db parse order' csv).route sql).1) ∧
    (RoutesExactly db parse csv sql stmts ↔
      ((∀ t ∈ baseTables db stmts, t.lower db ∈ whitelistOf db csv) →
        ∀ t ∈ boundNames db stmts, t.lower db ∈ whitelistOf db csv)) := by
  have dest := new_route_redshift_iff db hcsv hparse
  refine ⟨?_, ?_⟩
  · intro order order'
    have same := (dest order).trans (dest order').symm
    cases h : ((new db parse order csv).route sql).1 <;>
      cases h' : ((new db parse order' csv).route sql).1 <;> simp_all
  · constructor
    · intro exact base
      have sent := (exact .inserted).mpr base
      exact ((dest _).mp sent).2
    · intro harmless order
      rw [dest order]
      exact ⟨And.left, fun base => ⟨base, harmless base⟩⟩

/-- `WITH recent AS (SELECT * FROM orders) SELECT * FROM recent`. -/
def recentOrders : Node :=
  .withClause false
    [("recent", .select [.tableSource (.tableName ⟨"", "orders"⟩) none] [] [] [])]
    (.select [.tableSource (.tableName ⟨"", "recent"⟩) none] [] [] [])

/-- `SELECT * FROM Orders AS o JOIN dw.items`. -/
def ordersJoinItems : Node :=
  .select [.join (.tableSource (.tableName ⟨"", "Orders"⟩) (some "o"))
    (.tableSource (.tableName ⟨"dw", "items"⟩) none) []] [] [] []

theorem routesExactly_iff_orders :
    (∀ order order', ((new .ascii (fun _ => .ok [ordersJoinItems]) order "orders, items").route
        "SELECT * FROM Orders AS o JOIN dw.items").1 =
      ((new .ascii (fun _ => .ok [ordersJoinItems]) order' "orders, items").route
        "SELECT * FROM Orders AS o JOIN dw.items").1) ∧
    RoutesExactly .ascii (fun _ => .ok [ordersJoinItems]) "orders, items"
      "SELECT * FROM Orders AS o JOIN dw.items" [ordersJoinItems] := by
  have main := routesExactly_iff .ascii (fun _ => .ok [ordersJoinItems]) "orders, items"
    "SELECT * FROM Orders AS o JOIN dw.items" [ordersJoinItems] (by decide) rfl
  exact ⟨main.1, main.2.mpr (by decide)⟩

/-- A query over a listed table goes to MySQL because of the name of its own common
table expression. -/
theorem routesExactly_fails_recent :
    ¬ RoutesExactly .ascii (fun _ => .ok [recentOrders]) "orders"
      "WITH recent AS (SELECT * FROM orders) SELECT * FROM recent" [recentOrders] := by
  intro exact
  have sent := exact .inserted
  revert sent
  decide

end MysqlRedshift.Proxy.Router
