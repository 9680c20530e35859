import Mathlib.Order.Lattice
import MysqlRedshift.Misc.Keyed
import MysqlRedshift.Misc.Machine
import MysqlRedshift.Misc.Regex
import MysqlRedshift.Misc.Text

/-!
# The knowledge base

`agent/tools/sql_knowledge.py` over the table of `scripts/schema_pgvector.sql`. A save
runs as the separate transactions that `save_example` opens, each on a connection of
its own, and other saves, recalls and deletions may come in between; `Action` says
which transaction runs next and what the index answers. The embedding model, the
similarity, `md5` and the clock are parameters; similarities are compared only. What
an exception of the database or of the embedding does is `fail`: the save returns
`None`, and the table is as it was.
-/

namespace MysqlRedshift.Agent.Knowledge

open MysqlRedshift.Misc

/-- A row of `sql_knowledge`. -/
structure Row (V : Type) where
  id : Nat
  mysqlSQL : String
  redshiftSQL : String
  embedding : V
  usedRules : List String
  rowCount : Option Int
  mysqlMs : Option Int
  redshiftMs : Option Int
  compareMode : String
  source : String
  hitCount : Nat
  createdAt : Nat
  lastUsedAt : Nat
  deriving DecidableEq, Repr

/-- The arguments of `save_example`. -/
structure SaveArgs where
  mysqlSQL : String
  redshiftSQL : String
  usedRules : List String := []
  rowCount : Option Int := none
  mysqlMs : Option Int := none
  redshiftMs : Option Int := none
  compareMode : String := "strict"
  source : String := "runtime"
  deriving DecidableEq, Repr

/-- The settings and the services behind the module. -/
structure Env (V S : Type) where
  enabled : Bool
  db : UnicodeDb
  md5 : String → String
  embed : String → V
  similarity : V → V → S
  dedupThreshold : S

/-! ## Recalled examples -/

/-- An entry of the list that `retrieve_similar` returns. -/
structure Example (S : Type) where
  id : Nat
  mysqlSQL : String
  redshiftSQL : String
  similarity : S
  deriving DecidableEq, Repr

/-- `format_examples_for_prompt`; `twoPlaces` is the format `.2f`. -/
def formatExamplesForPrompt {S : Type} (twoPlaces : S → String) (examples : List (Example S)) :
    String :=
  if examples.isEmpty then ""
  else
    pyJoin "\n"
      ("以下是历史成功翻译的相似样例（供参考，请结合当前 SQL 结构独立思考）：" ::
        examples.zipIdx.map fun (ex, i) =>
          "\n示例 " ++ (i + 1).repr ++ "（相似度 " ++ twoPlaces ex.similarity ++ "）：\n" ++
            "MySQL:\n" ++ ex.mysqlSQL ++ "\n" ++ "Redshift:\n" ++ ex.redshiftSQL ++ "\n")

/-! ## The table -/

/-- The rows, in the order of their insertion, and the next value of the `id` sequence;
the primary key and the unique index on `md5(mysql_sql)` are kept. -/
structure Table (V : Type) (md5 : String → String) where
  rows : List (Row V)
  nextId : Nat
  idsBelow : ∀ r ∈ rows, r.id < nextId
  idsUnique : (rows.map Row.id).Nodup
  textsUnique : (rows.map fun r => md5 r.mysqlSQL).Nodup

namespace Table

variable {V : Type} {md5 : String → String}

def empty : Table V md5 := ⟨[], 1, by simp, by simp, by simp⟩

/-- `UPDATE .. SET hit_count=hit_count+1, last_used_at=NOW() WHERE id = ANY(ids)`, on one row. -/
def bumpRow (ids : List Nat) (now : Nat) (r : Row V) : Row V :=
  if r.id ∈ ids then { r with hitCount := r.hitCount + 1, lastUsedAt := now } else r

@[simp] theorem bumpRow_id (ids : List Nat) (now : Nat) (r : Row V) :
    (bumpRow ids now r).id = r.id := by
  unfold bumpRow; split <;> rfl

@[simp] theorem bumpRow_mysqlSQL (ids : List Nat) (now : Nat) (r : Row V) :
    (bumpRow ids now r).mysqlSQL = r.mysqlSQL := by
  unfold bumpRow; split <;> rfl

/-- A bump changes nothing but the counters. -/
theorem bumpRow_eq (ids : List Nat) (now : Nat) (r : Row V) :
    ∃ hits used, bumpRow ids now r = { r with hitCount := hits, lastUsedAt := used } := by
  unfold bumpRow
  split
  · exact ⟨_, _, rfl⟩
  · exact ⟨r.hitCount, r.lastUsedAt, rfl⟩

def bump (t : Table V md5) (ids : List Nat) (now : Nat) : Table V md5 where
  rows := t.rows.map (bumpRow ids now)
  nextId := t.nextId
  idsBelow := by
    intro r member
    obtain ⟨old, before, rfl⟩ := List.mem_map.mp member
    rw [bumpRow_id]
    exact t.idsBelow old before
  idsUnique := by
    rw [List.map_map, show Row.id ∘ bumpRow ids now = (Row.id : Row V → Nat) from
      funext (bumpRow_id ids now)]
    exact t.idsUnique
  textsUnique := by
    rw [List.map_map, show (fun r : Row V => md5 r.mysqlSQL) ∘ bumpRow ids now =
      fun r => md5 r.mysqlSQL from funext fun r => congrArg md5 (bumpRow_mysqlSQL ids now r)]
    exact t.textsUnique

/-- The row of a plain `INSERT`. -/
def insertRow (id : Nat) (args : SaveArgs) (vec : V) (now : Nat) : Row V where
  id
  mysqlSQL := args.mysqlSQL
  redshiftSQL := args.redshiftSQL
  embedding := vec
  usedRules := args.usedRules
  rowCount := args.rowCount
  mysqlMs := args.mysqlMs
  redshiftMs := args.redshiftMs
  compareMode := args.compareMode
  source := args.source
  hitCount := 0
  createdAt := now
  lastUsedAt := now

/-- `DO UPDATE SET` on the row in conflict. -/
def overwriteRow (args : SaveArgs) (vec : V) (now : Nat) (r : Row V) : Row V :=
  { r with
    redshiftSQL := args.redshiftSQL
    embedding := vec
    usedRules := args.usedRules
    rowCount := args.rowCount
    mysqlMs := args.mysqlMs
    redshiftMs := args.redshiftMs
    compareMode := args.compareMode
    source := args.source
    lastUsedAt := now }

/-- `INSERT .. ON CONFLICT (md5(mysql_sql)) DO UPDATE`. The sequence moves on a conflict too. -/
def upsert (t : Table V md5) (args : SaveArgs) (vec : V) (now : Nat) : Table V md5 where
  rows := upsertWith (fun r => md5 r.mysqlSQL) (md5 args.mysqlSQL) (overwriteRow args vec now)
    (insertRow t.nextId args vec now) t.rows
  nextId := t.nextId + 1
  idsBelow := by
    intro r member
    rcases (mem_upsertWith_iff t.textsUnique).mp member with
      ⟨before, -⟩ | ⟨old, before, -, rfl⟩ | ⟨-, rfl⟩
    · exact Nat.lt_succ_of_lt (t.idsBelow r before)
    · exact Nat.lt_succ_of_lt (t.idsBelow old before)
    · exact Nat.lt_succ_self _
  idsUnique := nodup_map_upsertWith (fun _ => rfl) t.idsUnique
    fun _ r member => Nat.ne_of_lt (t.idsBelow r member)
  textsUnique := nodup_map_upsertWith (fun _ => rfl) t.textsUnique fun absent => absent

/-- `RETURNING id`. -/
def upsertId (t : Table V md5) (args : SaveArgs) : Nat :=
  match t.rows.find? fun r => md5 r.mysqlSQL = md5 args.mysqlSQL with
  | some r => r.id
  | none => t.nextId

/-- `DELETE .. WHERE id=entry_id`. -/
def delete (t : Table V md5) (entryId : Nat) : Table V md5 where
  rows := t.rows.filter fun r => r.id ≠ entryId
  nextId := t.nextId
  idsBelow r member := t.idsBelow r (List.mem_of_mem_filter member)
  idsUnique := t.idsUnique.sublist (List.filter_sublist.map Row.id)
  textsUnique := t.textsUnique.sublist (List.filter_sublist.map _)

def row? (t : Table V md5) (id : Nat) : Option (Row V) :=
  t.rows.find? fun r => r.id = id

end Table

/-! ## `save_example` -/

/-- `MIN_REDSHIFT_SQL_LEN`. -/
def minRedshiftSQLLen : Nat := 30

/-- `^\s*(SET|SHOW|USE|BEGIN|COMMIT|ROLLBACK)\b`, whatever the case. -/
def lowValuePrefix (db : UnicodeDb) : Regex :=
  .all [.atStart, .star (.cls pyIsSpace),
    .group 1 (.oneOf
      (["SET", "SHOW", "USE", "BEGIN", "COMMIT", "ROLLBACK"].map (.text db.sameIgnoreCase))),
    .wordBoundary (pyIsWord db)]

/-- `_is_low_value`: the reason to skip a sample, if there is one. -/
def isLowValue (db : UnicodeDb) (mysqlSQL redshiftSQL : String) (rowCount : Option Int) :
    Option String :=
  let len := (pyStrip redshiftSQL).length
  if rowCount = some 0 then some "row_count=0"
  else if len < minRedshiftSQLLen then
    some ("redshift_sql too short (" ++ len.repr ++ " < " ++ minRedshiftSQLLen.repr ++ ")")
  else if (lowValuePrefix db).found mysqlSQL then some "SET/SHOW/USE/BEGIN/COMMIT/ROLLBACK"
  else none

/-- `bypass_filter`, of the argument `source`. -/
def bypassFilter (source : String) : Bool := source = "seed" || source = "import"

/-- The columns `compare_mode` and `source` take 16 characters. -/
def SaveArgs.fits (args : SaveArgs) : Bool :=
  args.compareMode.length ≤ 16 && args.source.length ≤ 16

/-- Where a save stands: the transaction that comes next, or its return value. -/
inductive Pc where
  | nearest
  | bump (existingId : Nat)
  | insert
  | done (id : Option Nat)
  deriving DecidableEq, Repr

structure Call where
  args : SaveArgs
  pc : Pc
  deriving DecidableEq, Repr

inductive Action where
  | call (i : Nat) (args : SaveArgs)
  | nearest (i : Nat) (found : Option Nat)
  | bump (i now : Nat)
  | insert (i now : Nat)
  | fail (i : Nat)
  | retrieve (ids : List Nat) (now : Nat)
  | delete (entryId : Nat)
  deriving DecidableEq, Repr

/-- What was read and written so far. -/
inductive Event where
  | looked (i : Nat)
  | wrote (args : SaveArgs)
  deriving DecidableEq, Repr

/-- The table, the saves by number, and the events, latest first. -/
structure State (V : Type) (md5 : String → String) where
  table : Table V md5
  calls : Nat → Option Call
  events : List Event

variable {V S : Type} [LinearOrder S] (kb : Env V S)

/-- The start of a save, before its first transaction. -/
def begin (args : SaveArgs) : Pc :=
  if !kb.enabled then .done none
  else if bypassFilter args.source then .insert
  else if (isLowValue kb.db args.mysqlSQL args.redshiftSQL args.rowCount).isSome then .done none
  else .nearest

/-- What follows on the answer of the index: near-duplicates are bumped. -/
def afterNearest (table : Table V kb.md5) (vec : V) : Option Nat → Option Pc
  | none => some .insert
  | some id =>
    (table.row? id).map fun r =>
      if kb.dedupThreshold ≤ kb.similarity vec r.embedding then .bump r.id else .insert

def State.moveTo (s : State V kb.md5) (i : Nat) (c : Call) (pc : Pc) : State V kb.md5 :=
  { s with calls := Function.update s.calls i (some { c with pc }) }

def step (s : State V kb.md5) : Action → Option (State V kb.md5)
  | .call i args =>
    match s.calls i with
    | none => some { s with calls := Function.update s.calls i (some ⟨args, begin kb args⟩) }
    | some _ => none
  | .nearest i found =>
    match s.calls i with
    | some ⟨args, .nearest⟩ =>
      (afterNearest kb s.table (kb.embed args.mysqlSQL) found).map fun pc =>
        { s.moveTo kb i ⟨args, .nearest⟩ pc with events := .looked i :: s.events }
    | _ => none
  | .bump i now =>
    match s.calls i with
    | some ⟨args, .bump id⟩ =>
      some { s.moveTo kb i ⟨args, .bump id⟩ (.done (some id)) with table := s.table.bump [id] now }
    | _ => none
  | .insert i now =>
    match s.calls i with
    | some ⟨args, .insert⟩ =>
      if args.fits then
        some { s.moveTo kb i ⟨args, .insert⟩ (.done (some (s.table.upsertId args))) with
          table := s.table.upsert args (kb.embed args.mysqlSQL) now
          events := .wrote args :: s.events }
      else none
    | _ => none
  | .fail i =>
    match s.calls i with
    | some ⟨_, .done _⟩ => none
    | some c => some (s.moveTo kb i c (.done none))
    | none => none
  | .retrieve ids now => some { s with table := s.table.bump ids now }
  | .delete entryId => some { s with table := s.table.delete entryId }

def machine : Machine (State V kb.md5) Action := ⟨step kb⟩

def start : State V kb.md5 := ⟨.empty, fun _ => none, []⟩

/-- What is assumed of `md5`: it tells the text of an `INSERT` from the texts in the table. -/
def DigestTells (s : State V kb.md5) : Action → Prop
  | .insert i _ => ∀ c, s.calls i = some c → ∀ r ∈ s.table.rows,
      kb.md5 r.mysqlSQL = kb.md5 c.args.mysqlSQL → r.mysqlSQL = c.args.mysqlSQL
  | _ => True

/-! ## What a step can do -/

/-- The transitions of `step`, each with what it needs. -/
inductive Trans : State V kb.md5 → Action → State V kb.md5 → Prop where
  | call {s i args} (free : s.calls i = none) :
      Trans s (.call i args)
        { s with calls := Function.update s.calls i (some ⟨args, begin kb args⟩) }
  | nearest {s i found args pc} (live : s.calls i = some ⟨args, .nearest⟩)
      (after : afterNearest kb s.table (kb.embed args.mysqlSQL) found = some pc) :
      Trans s (.nearest i found)
        { s.moveTo kb i ⟨args, .nearest⟩ pc with events := .looked i :: s.events }
  | bump {s i now args id} (live : s.calls i = some ⟨args, .bump id⟩) :
      Trans s (.bump i now)
        { s.moveTo kb i ⟨args, .bump id⟩ (.done (some id)) with table := s.table.bump [id] now }
  | insert {s i now args} (live : s.calls i = some ⟨args, .insert⟩) (fits : args.fits = true) :
      Trans s (.insert i now)
        { s.moveTo kb i ⟨args, .insert⟩ (.done (some (s.table.upsertId args))) with
          table := s.table.upsert args (kb.embed args.mysqlSQL) now
          events := .wrote args :: s.events }
  | fail {s i c} (live : s.calls i = some c) :
      Trans s (.fail i) (s.moveTo kb i c (.done none))
  | retrieve {s ids now} : Trans s (.retrieve ids now) { s with table := s.table.bump ids now }
  | delete {s entryId} : Trans s (.delete entryId) { s with table := s.table.delete entryId }

variable {kb}

theorem step_trans {s t : State V kb.md5} {a : Action} (h : step kb s a = some t) :
    Trans kb s a t := by
  cases a with
  | call i args =>
    cases free : s.calls i with
    | none =>
      simp only [step, free, Option.some.injEq] at h
      exact h ▸ .call free
    | some c => simp [step, free] at h
  | nearest i found =>
    rcases live : s.calls i with _ | ⟨args, _ | _ | _ | _⟩ <;>
      simp only [step, live, reduceCtorEq] at h
    obtain ⟨pc, after, rfl⟩ := Option.map_eq_some_iff.mp h
    exact .nearest live after
  | bump i now =>
    rcases live : s.calls i with _ | ⟨args, _ | id | _ | _⟩ <;>
      simp only [step, live, reduceCtorEq, Option.some.injEq] at h
    exact h ▸ .bump live
  | insert i now =>
    rcases live : s.calls i with _ | ⟨args, _ | _ | _ | _⟩ <;>
      simp only [step, live, reduceCtorEq] at h
    by_cases fits : args.fits = true
    · rw [if_pos fits, Option.some.injEq] at h
      exact h ▸ .insert live fits
    · rw [if_neg fits] at h
      cases h
  | fail i =>
    rcases live : s.calls i with _ | ⟨args, _ | _ | _ | _⟩ <;>
      simp only [step, live, reduceCtorEq, Option.some.injEq] at h <;> exact h ▸ .fail live
  | retrieve ids now =>
    rw [step, Option.some.injEq] at h
    exact h ▸ .retrieve
  | delete entryId =>
    rw [step, Option.some.injEq] at h
    exact h ▸ .delete

omit [LinearOrder S] in
/-- A save that does not bypass the filters begins with its search, or ends at once. -/
theorem begin_ne_insert {args : SaveArgs} (h : bypassFilter args.source = false) :
    begin kb args ≠ .insert := by
  unfold begin
  rw [h]
  split
  · simp
  · simp only [Bool.false_eq_true, if_false]
    split <;> simp

namespace Table

variable {md5 : String → String}

/-- A row of a bumped table is a row of the table, but for its counters. -/
theorem mem_bump {t : Table V md5} {ids : List Nat} {now : Nat} {r : Row V}
    (h : r ∈ (t.bump ids now).rows) :
    ∃ old ∈ t.rows, ∃ hits used, r = { old with hitCount := hits, lastUsedAt := used } := by
  obtain ⟨old, member, rfl⟩ := List.mem_map.mp h
  exact ⟨old, member, bumpRow_eq ids now old⟩

/-- A row of a table after an upsert: another text's old row, the row in conflict with
the columns of the save, or the new row. -/
theorem mem_upsert_iff {t : Table V md5} {args : SaveArgs} {vec : V} {now : Nat} {r : Row V} :
    r ∈ (t.upsert args vec now).rows ↔
      (r ∈ t.rows ∧ md5 r.mysqlSQL ≠ md5 args.mysqlSQL) ∨
      (∃ old ∈ t.rows, md5 old.mysqlSQL = md5 args.mysqlSQL ∧ r = overwriteRow args vec now old) ∨
      ((∀ old ∈ t.rows, md5 old.mysqlSQL ≠ md5 args.mysqlSQL) ∧
        r = insertRow t.nextId args vec now) :=
  mem_upsertWith_iff t.textsUnique

theorem mem_delete {t : Table V md5} {entryId : Nat} {r : Row V}
    (h : r ∈ (t.delete entryId).rows) : r ∈ t.rows :=
  List.mem_of_mem_filter h

/-- Rows are told apart by their ids. -/
theorem eq_of_id_eq {t : Table V md5} {r r' : Row V} (h : r ∈ t.rows) (h' : r' ∈ t.rows)
    (same : r.id = r'.id) : r = r' :=
  List.inj_on_of_nodup_map t.idsUnique h h' same

end Table

end MysqlRedshift.Agent.Knowledge
