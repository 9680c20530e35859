import MysqlRedshift.Agent.KnowledgeRuns
import MysqlRedshift.Misc.Like
import MysqlRedshift.Misc.Ranking

/-!
# The entries of the knowledge base

`list_entries` and `count_entries` of `agent/tools/sql_knowledge.py`, and the endpoint of
`agent/app.py` over them. A search text is put between percent signs as it is, so that
what it has of the marks of `LIKE` is read as marks. `ILIKE` lowers with the database's own
lower case, which `toLower` stands for here.
-/

namespace MysqlRedshift.Agent.Knowledge

open MysqlRedshift.Misc

/-- An entry of the list: a row without its embedding. -/
structure Entry where
  id : Nat
  mysqlSQL : String
  redshiftSQL : String
  usedRules : List String
  rowCount : Option Int
  mysqlMs : Option Int
  redshiftMs : Option Int
  compareMode : String
  source : String
  hitCount : Nat
  createdAt : Nat
  lastUsedAt : Nat
  deriving DecidableEq, Repr

/-- The arguments of `list_entries`. -/
structure ListArgs where
  limit : Int := 50
  offset : Int := 0
  search : String := ""
  deriving DecidableEq, Repr

variable {V S : Type}

/-- The selected columns. -/
def Row.entry (r : Row V) : Entry where
  id := r.id
  mysqlSQL := r.mysqlSQL
  redshiftSQL := r.redshiftSQL
  usedRules := r.usedRules
  rowCount := r.rowCount
  mysqlMs := r.mysqlMs
  redshiftMs := r.redshiftMs
  compareMode := r.compareMode
  source := r.source
  hitCount := r.hitCount
  createdAt := r.createdAt
  lastUsedAt := r.lastUsedAt

/-- `WHERE mysql_sql ILIKE '%search%' OR redshift_sql ILIKE '%search%'`, if there is a search
text. -/
def found (db : UnicodeDb) (search : String) (rows : List (Row V)) :
    Except String (List (Row V)) :=
  if search = "" then .ok rows
  else
    match likeItems (('%' :: search.toList ++ ['%']).map db.toLower) with
    | none => .error "LIKE pattern must not end with escape character"
    | some items => .ok (rows.filter fun r =>
        likeMatch items (r.mysqlSQL.toList.map db.toLower) ||
          likeMatch items (r.redshiftSQL.toList.map db.toLower))

variable (kb : Env V S)

/-- `list_entries`; `order` is what `ORDER BY last_used_at DESC` does for this query. -/
def listEntries (order : Ranking Entry.lastUsedAt) (t : Table V kb.md5) (args : ListArgs) :
    Except String (List Entry) :=
  if !kb.enabled then .ok []
  else
    match found kb.db args.search t.rows with
    | .error e => .error e
    | .ok rows => limitOffset args.limit args.offset (order.rank (rows.map Row.entry))

/-- `count_entries`. -/
def countEntries (t : Table V kb.md5) (search : String) : Except String Nat :=
  if !kb.enabled then .ok 0 else (found kb.db search t.rows).map List.length

/-- `GET /api/knowledge`: `total` and `items`, as they are before the two times are written
out. -/
def apiKnowledgeList (order : Ranking Entry.lastUsedAt) (t : Table V kb.md5) (args : ListArgs) :
    Except String (Nat × List Entry) :=
  match countEntries kb t args.search with
  | .error e => .error e
  | .ok total => (listEntries kb order t args).map (total, ·)

/-! ## What is found -/

/-- The text contains the search text, whatever the case. -/
def containsSearch (db : UnicodeDb) (search text : String) : Bool :=
  decide (search.toList.map db.toLower <:+: text.toList.map db.toLower)

/-- A row with the search text in one of its two statements. -/
def Row.mentions (db : UnicodeDb) (search : String) (r : Row V) : Bool :=
  containsSearch db search r.mysqlSQL || containsSearch db search r.redshiftSQL

/-- Whatever the table, the list without effect of its limit and the count are of the rows that
contain the search text. -/
def FindsExactly (search : String) : Prop :=
  ∀ (order : Ranking Entry.lastUsedAt) (t : Table V kb.md5) (limit : Nat),
    t.rows.length ≤ limit →
    (∃ entries, listEntries kb order t { limit, search } = .ok entries ∧
      entries.Perm ((t.rows.filter fun r => r.mentions kb.db search).map Row.entry)) ∧
    countEntries kb t search = .ok (t.rows.filter fun r => r.mentions kb.db search).length

variable {kb}

theorem found_eq {db : UnicodeDb} {search : String} (nonempty : search ≠ "")
    {items : List LikeItem}
    (parsed : likeItems (('%' :: search.toList ++ ['%']).map db.toLower) = some items)
    (rows : List (Row V)) : found db search rows = .ok (rows.filter fun r =>
      likeMatch items (r.mysqlSQL.toList.map db.toLower) ||
        likeMatch items (r.redshiftSQL.toList.map db.toLower)) := by
  rw [found, if_neg nonempty, parsed]

/-- The search pattern is never refused. -/
theorem exists_found {db : UnicodeDb} (keeps : KeepsMarks db.toLower) (search : String)
    (rows : List (Row V)) : ∃ kept, found db search rows = .ok kept ∧ kept.Sublist rows := by
  by_cases all : search = ""
  · exact ⟨rows, if_pos all, List.Sublist.refl rows⟩
  · obtain ⟨items, -, parsed⟩ := exists_searchItems keeps search.toList
    exact ⟨_, found_eq all parsed rows, List.filter_sublist⟩

/-- A count is of the rows that are found. -/
theorem countEntries_of_found (enabled : kb.enabled = true) {t : Table V kb.md5} {search : String}
    {rows : List (Row V)} (matching : found kb.db search t.rows = .ok rows) :
    countEntries kb t search = .ok rows.length := by
  rw [countEntries, enabled, matching]
  rfl

/-- A list is a part of the rows that are found, in the order of its query. -/
theorem listEntries_of_found (enabled : kb.enabled = true) {t : Table V kb.md5} {search : String}
    {rows : List (Row V)} (matching : found kb.db search t.rows = .ok rows)
    (order : Ranking Entry.lastUsedAt) (limit offset : Nat) :
    listEntries kb order t { limit, offset, search } =
      .ok (((order.rank (rows.map Row.entry)).drop offset).take limit) := by
  rw [listEntries, enabled, matching]
  exact limitOffset_nat limit offset _

/-- The endpoint answers with the number of the rows that are found, and a part of them. -/
theorem apiKnowledgeList_of_found (enabled : kb.enabled = true) {t : Table V kb.md5}
    {search : String} {rows : List (Row V)} (matching : found kb.db search t.rows = .ok rows)
    (order : Ranking Entry.lastUsedAt) (limit offset : Nat) :
    apiKnowledgeList kb order t { limit, offset, search } =
      .ok (rows.length, ((order.rank (rows.map Row.entry)).drop offset).take limit) := by
  rw [apiKnowledgeList, countEntries_of_found enabled matching]
  simp only [listEntries_of_found enabled matching]
  rfl

/-- Without marks in the search text, the rows that mention it are found. -/
theorem found_of_plain {db : UnicodeDb} (keeps : KeepsMarks db.toLower) {search : String}
    (nonempty : search ≠ "") (plain : ∀ c ∈ search.toList, isLikeMark c = false)
    (rows : List (Row V)) :
    found db search rows = .ok (rows.filter fun r => r.mentions db search) := by
  obtain ⟨items, -, parsed⟩ := exists_searchItems keeps search.toList
  have exact := (search_exact_iff keeps search.toList).mpr plain _ parsed
  have each : ∀ text : String, likeMatch (.run :: items) (text.toList.map db.toLower) =
      containsSearch db search text := by
    intro text
    rw [containsSearch, Bool.eq_iff_iff, decide_eq_true_iff]
    exact exact text.toList
  rw [found_eq nonempty parsed]
  simp only [each]
  rfl

/-- A table of one row, with the same text on both sides. -/
def oneText (kb : Env V S) (text : String) : Table V kb.md5 :=
  Table.empty.upsert { mysqlSQL := text, redshiftSQL := text } (kb.embed text) 0

/-- The row of `oneText`. -/
def oneTextRow (kb : Env V S) (text : String) : Row V :=
  Table.insertRow 1 { mysqlSQL := text, redshiftSQL := text } (kb.embed text) 0

theorem oneText_rows (kb : Env V S) (text : String) :
    (oneText kb text).rows = [oneTextRow kb text] := rfl

theorem eq_of_length_filter {α : Type} {p q : α → Bool} {a : α}
    (same : ([a].filter p).length = ([a].filter q).length) : p a = q a := by
  rw [List.filter_singleton, List.filter_singleton] at same
  cases kept : p a <;> cases kept' : q a <;> simp [kept, kept'] at same ⊢

/-- `list_entries` and `count_entries` find what contains the search text exactly when it has
no mark of `LIKE`. -/
theorem findsExactly_iff (kb : Env V S) (enabled : kb.enabled = true)
    (keeps : KeepsMarks kb.db.toLower) (search : String) (nonempty : search ≠ "") :
    FindsExactly kb search ↔ ∀ c ∈ search.toList, isLikeMark c = false := by
  constructor
  · intro exact
    rw [← search_exact_iff keeps]
    intro items parsed text
    obtain ⟨-, count⟩ := exact (.ofTies _ Entry.id) (oneText kb (String.ofList text)) 1
      (Nat.le_refl _)
    have matching := found_eq nonempty parsed (oneText kb (String.ofList text)).rows
    rw [countEntries_of_found enabled matching] at count
    have same := eq_of_length_filter (oneText_rows kb (String.ofList text) ▸ Except.ok.inj count)
    simp only [oneTextRow, Table.insertRow, Row.mentions, Bool.or_self, containsSearch,
      String.toList_ofList] at same
    rw [same, decide_eq_true_iff]
  · intro plain order t limit large
    have matching := found_of_plain keeps nonempty plain t.rows
    refine ⟨⟨_, ?_, order.perm _⟩, countEntries_of_found enabled matching⟩
    have all : (order.rank ((t.rows.filter fun r => r.mentions kb.db search).map
        Row.entry)).length ≤ limit := by
      rw [(order.perm _).length_eq, List.length_map]
      exact (List.length_filter_le ..).trans large
    refine (listEntries_of_found enabled matching order limit 0).trans ?_
    rw [List.drop_zero, List.take_of_length_le all]

theorem keepsMarks_ascii : KeepsMarks UnicodeDb.ascii.toLower := by
  intro c m mark
  change c.toLower = m ↔ c = m
  simp only [isLikeMark, Bool.or_eq_true, decide_eq_true_iff] at mark
  unfold Char.toLower
  split
  · rename_i upper
    have bounds : 65 ≤ c.toNat ∧ c.toNat ≤ 90 := upper
    constructor
    · intro same
      have value := congrArg (fun d : Char => d.val.toNat) same
      rcases mark with (rfl | rfl) | rfl <;> simp at value <;> omega
    · rintro rfl
      rcases mark with (rfl | rfl) | rfl <;> simp at bounds
  · rfl

theorem findsExactly_iff_orders : FindsExactly sameTextOnly "orders" := by
  refine (findsExactly_iff sameTextOnly rfl keepsMarks_ascii "orders" (by decide)).mpr ?_
  simp [isLikeMark]

/-- The underscore of a column name stands for any character. -/
theorem not_findsExactly_orderId : ¬ FindsExactly sameTextOnly "order_id" := by
  intro exact
  obtain ⟨-, count⟩ := exact (.ofTies _ Entry.id)
    (oneText sameTextOnly "SELECT order.id FROM orders") 1 (Nat.le_refl _)
  have differs : (countEntries sameTextOnly
      (oneText sameTextOnly "SELECT order.id FROM orders") "order_id").toOption ≠ some 0 := by
    decide +kernel
  exact differs (congrArg Except.toOption count)

end MysqlRedshift.Agent.Knowledge
