import MysqlRedshift.Agent.Compare

/-!
# Queries of the console

`_run_mysql` and `_run_redshift` of `webui/app.py`: the first `MAX_ROWS` rows of a
result are shown, and all of them counted. The drivers are parameters, up to the cursor
that a statement leaves; a cursor is stepped through by `fetchmany` and `fetchall`.
-/

namespace MysqlRedshift.Webui

open MysqlRedshift.Agent (PyValue)

variable {O : Type}

/-- A cursor after `execute`: the names in its `description`, none if it is `None`, and the
rows that are still to be fetched, which only a result with columns has. -/
structure Cursor (O : Type) where
  description : List String
  rows : List (List (PyValue O))
  described : description = [] → rows = []

namespace Cursor

/-- `cur.fetchmany(size)`, and the cursor after it. -/
def fetchmany (cur : Cursor O) (size : Nat) : List (List (PyValue O)) × Cursor O :=
  (cur.rows.take size,
    { cur with
      rows := cur.rows.drop size
      described := fun none => by rw [cur.described none, List.drop_nil] })

/-- `cur.fetchall()`. -/
def fetchall (cur : Cursor O) : List (List (PyValue O)) := cur.rows

end Cursor

/-- A database behind its driver. `commit` is what leaving the `with` block of a
connection does. -/
structure Backend (O : Type) where
  connect : Except String Unit
  execute : String → Except String (Cursor O)
  commit : Except String Unit

/-- The dictionary that both functions return. -/
structure QueryResult (O : Type) where
  columns : List String
  rows : List (List (PyValue O))
  rowCount : Nat
  latencyMs : Int
  truncated : Bool

/-- `bytes.decode("utf-8", errors="replace")`, and `str()` of the types that
`_stringify` does not name, which the drivers' types do not refuse. -/
structure Texts (O : Type) where
  decode : List UInt8 → String
  str : PyValue O → String

variable (texts : Texts O)

/-- `_stringify`. -/
def stringify : PyValue O → PyValue O
  | .none => .none
  | .bytes b => .str (texts.decode b)
  | .int n => .int n
  | .float q => .float q
  | .str s => .str s
  | .bool b => .bool b
  | v => .str (texts.str v)

/-- The columns and rows of the cursor, their number, and whether some are left out. -/
def readCursor (maxRows : Nat) (cur : Cursor O) (ms : Int) : QueryResult O :=
  let cols := cur.description
  let (rowsRaw, cur) := if cols.isEmpty then ([], cur) else cur.fetchmany (maxRows + 1)
  let truncated := decide (maxRows < rowsRaw.length)
  let rowsRaw := rowsRaw.take maxRows
  let rowCount := rowsRaw.length
  { columns := cols
    rows := rowsRaw.map fun r => r.map (stringify texts)
    rowCount := if truncated then rowCount + cur.fetchall.length else rowCount
    latencyMs := ms
    truncated }

/-- `_run_mysql`, for the milliseconds that it takes. -/
def runMysql (maxRows : Nat) (ms : Int) (db : Backend O) (sql : String) :
    Except String (QueryResult O) :=
  match db.connect with
  | .error e => .error e
  | .ok () =>
    match db.execute sql with
    | .error e => .error e
    | .ok cur => .ok (readCursor texts maxRows cur ms)

/-- `_run_redshift`. -/
def runRedshift (maxRows : Nat) (ms : Int) (db : Backend O) (sql : String) :
    Except String (QueryResult O) :=
  match db.connect with
  | .error e => .error e
  | .ok () =>
    match db.execute sql with
    | .error e => .error e
    | .ok cur =>
      let result := readCursor texts maxRows cur ms
      match db.commit with
      | .error e => .error e
      | .ok () => .ok result

/-! ## What is shown and counted -/

/-- The first rows come back in their order, it is said whether there are more, and all
are counted. -/
def CountsTruly (maxRows : Nat) (cur : Cursor O) (result : Except String (QueryResult O)) : Prop :=
  ∃ out, result = .ok out ∧
    out.rows = (cur.rows.take maxRows).map (fun r => r.map (stringify texts)) ∧
    (out.truncated = true ↔ maxRows < cur.rows.length) ∧ out.rowCount = cur.rows.length

variable {texts}

/-- Whether or not the result has columns, the first rows are read from it. -/
theorem readCursor_fetched (maxRows : Nat) (cur : Cursor O) :
    (if cur.description.isEmpty then ([], cur) else cur.fetchmany (maxRows + 1)).1 =
        cur.rows.take (maxRows + 1) ∧
      (if cur.description.isEmpty then ([], cur) else cur.fetchmany (maxRows + 1)).2.rows =
        cur.rows.drop (maxRows + 1) := by
  split
  · next none =>
    have empty := cur.described (List.isEmpty_iff.mp none)
    simp [empty]
  · exact ⟨rfl, rfl⟩

theorem readCursor_rows (maxRows : Nat) (cur : Cursor O) (ms : Int) :
    (readCursor texts maxRows cur ms).rows =
      (cur.rows.take maxRows).map fun r => r.map (stringify texts) := by
  simp only [readCursor, (readCursor_fetched maxRows cur).1, List.take_take]
  rw [Nat.min_eq_left (Nat.le_succ maxRows)]

theorem readCursor_truncated (maxRows : Nat) (cur : Cursor O) (ms : Int) :
    (readCursor texts maxRows cur ms).truncated = decide (maxRows < cur.rows.length) := by
  simp only [readCursor, (readCursor_fetched maxRows cur).1, List.length_take]
  rw [decide_eq_decide]
  omega

/-- Of a result that is cut off, the row that is fetched to notice it is not counted. -/
theorem readCursor_rowCount (maxRows : Nat) (cur : Cursor O) (ms : Int) :
    (readCursor texts maxRows cur ms).rowCount =
      if maxRows < cur.rows.length then cur.rows.length - 1 else cur.rows.length := by
  simp only [readCursor, (readCursor_fetched maxRows cur).1, Cursor.fetchall,
    (readCursor_fetched maxRows cur).2, decide_eq_true_eq, List.length_take, List.length_drop]
  by_cases more : maxRows < cur.rows.length
  · rw [if_pos more, if_pos (by omega)]
    omega
  · rw [if_neg more, if_neg (by omega)]
    omega

theorem countsTruly_readCursor_iff (maxRows : Nat) (cur : Cursor O) (ms : Int) :
    CountsTruly texts maxRows cur (.ok (readCursor texts maxRows cur ms)) ↔
      cur.rows.length ≤ maxRows := by
  constructor
  · rintro ⟨out, same, -, -, counted⟩
    cases same
    rw [readCursor_rowCount] at counted
    split at counted <;> omega
  · intro few
    refine ⟨_, rfl, readCursor_rows .., ?_, ?_⟩
    · rw [readCursor_truncated, decide_eq_true_eq]
    · rw [readCursor_rowCount, if_neg (Nat.not_lt.mpr few)]

/-- Both consoles count a result truly exactly when all of its rows are shown. -/
theorem countsTruly_iff (texts : Texts O) (maxRows : Nat) (ms : Int) (db : Backend O) (sql : String)
    (cur : Cursor O) (connected : db.connect = .ok ()) (executed : db.execute sql = .ok cur)
    (committed : db.commit = .ok ()) :
    (CountsTruly texts maxRows cur (runMysql texts maxRows ms db sql) ↔
        cur.rows.length ≤ maxRows) ∧
      (CountsTruly texts maxRows cur (runRedshift texts maxRows ms db sql) ↔
        cur.rows.length ≤ maxRows) := by
  have mysql : runMysql texts maxRows ms db sql = .ok (readCursor texts maxRows cur ms) := by
    simp only [runMysql, connected, executed]
  have redshift : runRedshift texts maxRows ms db sql = .ok (readCursor texts maxRows cur ms) := by
    simp only [runRedshift, connected, executed, committed]
  rw [mysql, redshift]
  exact ⟨countsTruly_readCursor_iff .., countsTruly_readCursor_iff ..⟩

/-! ## A column of two rows -/

def plainTexts : Texts Empty := ⟨fun _ => "", fun _ => ""⟩

/-- The result of `SELECT n FROM t`. -/
def oneTwo : Cursor Empty := ⟨["n"], [[.int 1], [.int 2]], by simp⟩

def answersOneTwo : Backend Empty := ⟨.ok (), fun _ => .ok oneTwo, .ok ()⟩

theorem countsTruly_iff_oneTwo :
    CountsTruly plainTexts 500 oneTwo
        (runMysql plainTexts 500 3 answersOneTwo "SELECT n FROM t") ∧
      CountsTruly plainTexts 500 oneTwo
        (runRedshift plainTexts 500 3 answersOneTwo "SELECT n FROM t") := by
  have main := countsTruly_iff plainTexts 500 3 answersOneTwo "SELECT n FROM t" oneTwo rfl rfl rfl
  exact ⟨main.1.mpr (by decide), main.2.mpr (by decide)⟩

/-- With `MAX_ROWS` 1, two rows are counted as one. -/
theorem not_countsTruly_oneTwo :
    ¬ CountsTruly plainTexts 1 oneTwo (runMysql plainTexts 1 3 answersOneTwo "SELECT n FROM t") ∧
      ¬ CountsTruly plainTexts 1 oneTwo
        (runRedshift plainTexts 1 3 answersOneTwo "SELECT n FROM t") := by
  refine ⟨?_, ?_⟩ <;>
    (rintro ⟨out, same, -, -, counted⟩
     cases same
     revert counted
     decide)

end MysqlRedshift.Webui
