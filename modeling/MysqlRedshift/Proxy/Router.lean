import MysqlRedshift.Misc.Text

/-!
# Routing by table name

`proxy/internal/router/router.go`. A statement is read as the syntax tree that the
imported parser builds: one `tableName` node for every place that names a table,
whether it means a table, a common table expression or an alias. The visitor
`tableCollector` takes the lowercased names of all of them, and `route` sends the
text to Redshift when each name is on the whitelist. The iteration order of a Go
map is open, so it is a parameter (`MapOrder`).
-/

namespace MysqlRedshift.Proxy

open MysqlRedshift.Misc

/-- `ast.TableName`: `schema` is empty for an unqualified name. -/
structure TableName where
  schema : String
  name : String
  deriving DecidableEq, Repr

/-- The syntax tree of a statement, as far as it can name tables. `tableSource` is a
table or a derived table with its alias, `withClause` a statement under a `WITH`,
`delete` the multi-table form, whose targets may be aliases; `expr` and `other`
stand for expressions and for statements with no binding rule of their own. -/
inductive Node where
  | tableName (t : TableName)
  | tableSource (source : Node) (asName : Option String)
  | join (left right : Node) (on : List Node)
  | select (froms fields conds : List Node) (lockOf : List TableName)
  | setOpr (selects : List Node)
  | subquery (query : Node)
  | expr (args : List Node)
  | withClause (isRecursive : Bool) (ctes : List (String × Node)) (body : Node)
  | insert (table : Node) (source : List Node)
  | update (refs : Node) (rest : List Node)
  | delete (targets : List TableName) (refs : Node) (rest : List Node)
  | other (children : List Node)

mutual

/-- The `ast.TableName` nodes of a tree, as `Accept` visits them. -/
def tableNames : Node → List TableName
  | .tableName t => [t]
  | .tableSource source _ => tableNames source
  | .join left right on => tableNames left ++ tableNames right ++ tableNamesAll on
  | .select froms fields conds lockOf =>
    tableNamesAll froms ++ tableNamesAll fields ++ tableNamesAll conds ++ lockOf
  | .setOpr selects => tableNamesAll selects
  | .subquery query => tableNames query
  | .expr args => tableNamesAll args
  | .withClause _ ctes body => tableNamesCtes ctes ++ tableNames body
  | .insert table source => tableNames table ++ tableNamesAll source
  | .update refs rest => tableNames refs ++ tableNamesAll rest
  | .delete targets refs rest => targets ++ tableNames refs ++ tableNamesAll rest
  | .other children => tableNamesAll children

def tableNamesAll : List Node → List TableName
  | [] => []
  | n :: ns => tableNames n ++ tableNamesAll ns

def tableNamesCtes : List (String × Node) → List TableName
  | [] => []
  | (_, query) :: ctes => tableNames query ++ tableNamesCtes ctes

end

/-- `DestRedshift` and `DestMySQL`. -/
inductive Destination where
  | redshift
  | mysql
  deriving DecidableEq, Repr

/-- The order in which a `range` over a map meets its keys: some order of them all. -/
structure MapOrder where
  range : List String → List String
  perm : ∀ keys, (range keys).Perm keys

/-- The order of insertion. -/
def MapOrder.inserted : MapOrder := ⟨id, fun _ => .refl _⟩

/-- The keys of a map after `m[t] = struct{}{}`. -/
def addKey (m : List String) (t : String) : List String := m.insert t

structure Router where
  db : UnicodeDb
  whitelist : List String
  /-- `parser.Parse`, with the text of its error. -/
  parse : String → Except String (List Node)
  order : MapOrder

/-- `tn.Name.L`. -/
def TableName.lower (db : UnicodeDb) (t : TableName) : String := toLower db t.name

namespace Router

/-- The whitelist of `New`: the entries of a comma-separated text, lowercased and
trimmed, without the empty ones. -/
def whitelistOf (db : UnicodeDb) (csv : String) : List String :=
  (splitAtChar csv ',').foldl (fun m t =>
    let t := trimSpace (toLower db t)
    if t = "" then m else addKey m t) []

def new (db : UnicodeDb) (parse : String → Except String (List Node)) (order : MapOrder)
    (csv : String) : Router :=
  { db, whitelist := whitelistOf db csv, parse, order }

variable (r : Router)

/-- `tableCollector.Enter`, over the nodes that `Accept` visits. -/
def collect (tables : List String) (n : Node) : List String :=
  (tableNames n).foldl (fun tables t => addKey tables (t.lower r.db)) tables

def extractTables (sql : String) : Except String (List String) :=
  match r.parse sql with
  | .error err => .error err
  | .ok stmts => .ok (r.order.range (stmts.foldl r.collect []))

/-- The loop of `Route` over the tables. -/
def routeTables (tables : List String) : List String → Destination × List String × String
  | [] => (.redshift, tables, "all tables in whitelist -> redshift")
  | t :: ts =>
    if t ∈ r.whitelist then routeTables tables ts
    else (.mysql, tables, "table '" ++ t ++ "' not in whitelist -> mysql")

def route (sql : String) : Destination × List String × String :=
  if r.whitelist.length = 0 then (.redshift, [], "whitelist empty (all -> redshift)")
  else
    match r.extractTables sql with
    | .error err => (.redshift, [], "parse failed, falling back to redshift: " ++ err)
    | .ok tables =>
      if tables.length = 0 then (.redshift, tables, "no table referenced")
      else r.routeTables tables tables

/-! ## What `route` computes -/

theorem mem_whitelistOf (db : UnicodeDb) (csv t : String) :
    t ∈ whitelistOf db csv ↔ t ≠ "" ∧ ∃ e ∈ splitAtChar csv ',', trimSpace (toLower db e) = t := by
  have step : ∀ (entries m : List String),
      t ∈ entries.foldl (fun m t =>
        let t := trimSpace (toLower db t)
        if t = "" then m else addKey m t) m ↔
      t ∈ m ∨ t ≠ "" ∧ ∃ e ∈ entries, trimSpace (toLower db e) = t := by
    intro entries
    induction entries with
    | nil => simp
    | cons e es ih =>
      intro m
      rw [List.foldl_cons, ih]
      by_cases blank : trimSpace (toLower db e) = ""
      · simp only [blank, if_true, List.mem_cons, exists_eq_or_imp]
        constructor
        · rintro (member | ⟨named, later⟩)
          · exact Or.inl member
          · exact Or.inr ⟨named, Or.inr later⟩
        · rintro (member | ⟨named, rfl | later⟩)
          · exact Or.inl member
          · exact absurd rfl named
          · exact Or.inr ⟨named, later⟩
      · simp only [blank, if_false, addKey, List.mem_insert_iff, List.mem_cons, exists_eq_or_imp]
        constructor
        · rintro ((rfl | member) | ⟨named, later⟩)
          · exact Or.inr ⟨blank, Or.inl rfl⟩
          · exact Or.inl member
          · exact Or.inr ⟨named, Or.inr later⟩
        · rintro (member | ⟨named, rfl | later⟩)
          · exact Or.inl (Or.inr member)
          · exact Or.inl (Or.inl rfl)
          · exact Or.inr ⟨named, later⟩
  rw [whitelistOf, step]
  simp

theorem mem_collect (tables : List String) (n : Node) (t : String) :
    t ∈ r.collect tables n ↔ t ∈ tables ∨ ∃ tn ∈ tableNames n, tn.lower r.db = t := by
  unfold collect
  induction tableNames n generalizing tables with
  | nil => simp
  | cons tn tns ih =>
    rw [List.foldl_cons, ih]
    simp only [addKey, List.mem_insert_iff, List.mem_cons, exists_eq_or_imp]
    constructor
    · rintro ((rfl | member) | later)
      · exact Or.inr (Or.inl rfl)
      · exact Or.inl member
      · exact Or.inr (Or.inr later)
    · rintro (member | rfl | later)
      · exact Or.inl (Or.inr member)
      · exact Or.inl (Or.inl rfl)
      · exact Or.inr later

theorem mem_collect_all (tables : List String) (stmts : List Node) (t : String) :
    t ∈ stmts.foldl r.collect tables ↔
      t ∈ tables ∨ ∃ tn ∈ stmts.flatMap tableNames, tn.lower r.db = t := by
  induction stmts generalizing tables with
  | nil => simp
  | cons n ns ih =>
    rw [List.foldl_cons, ih, mem_collect]
    simp only [List.flatMap_cons, List.mem_append, or_and_right, exists_or, or_assoc]

/-- The collector's names are those of the tree, in whatever order. -/
theorem mem_extractTables {sql : String} {stmts : List Node} {tables : List String}
    (hparse : r.parse sql = .ok stmts) (h : r.extractTables sql = .ok tables) (t : String) :
    t ∈ tables ↔ ∃ tn ∈ stmts.flatMap tableNames, tn.lower r.db = t := by
  simp only [extractTables, hparse, Except.ok.injEq] at h
  rw [← h, (r.order.perm _).mem_iff, mem_collect_all]
  simp

theorem routeTables_redshift_iff (tables ts : List String) :
    (r.routeTables tables ts).1 = .redshift ↔ ∀ t ∈ ts, t ∈ r.whitelist := by
  induction ts with
  | nil => simp [routeTables]
  | cons t ts ih =>
    unfold routeTables
    by_cases listed : t ∈ r.whitelist
    · simp [listed, ih]
    · simp [listed]

/-- With a whitelist and a text that parses, Redshift is chosen exactly when every
name in the tree is listed, whatever it names. -/
theorem route_redshift_iff {sql : String} {stmts : List Node} (hlist : r.whitelist ≠ [])
    (hparse : r.parse sql = .ok stmts) :
    (r.route sql).1 = .redshift ↔
      ∀ tn ∈ stmts.flatMap tableNames, tn.lower r.db ∈ r.whitelist := by
  have hnonempty : ¬ r.whitelist.length = 0 := by simpa using hlist
  obtain ⟨tables, htables⟩ : ∃ tables, r.extractTables sql = .ok tables := by
    simp [extractTables, hparse]
  have names := r.mem_extractTables hparse htables
  have allListed : (∀ t ∈ tables, t ∈ r.whitelist) ↔
      ∀ tn ∈ stmts.flatMap tableNames, tn.lower r.db ∈ r.whitelist := by
    constructor
    · intro h tn member
      exact h _ ((names _).mpr ⟨tn, member, rfl⟩)
    · intro h t member
      obtain ⟨tn, inTree, rfl⟩ := (names t).mp member
      exact h tn inTree
  rw [← allListed]
  simp only [route, hnonempty, if_false, htables]
  by_cases none : tables.length = 0
  · have empty : tables = [] := List.eq_nil_of_length_eq_zero none
    simp [empty]
  · rw [if_neg none]
    exact r.routeTables_redshift_iff tables tables

end Router

end MysqlRedshift.Proxy
