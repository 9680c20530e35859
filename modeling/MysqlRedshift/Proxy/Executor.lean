import Mathlib.Data.List.Basic

/-!
# Executors

`proxy/internal/executor/mysql.go` and `redshift.go`: both run a query through
`database/sql` and copy the columns and all rows of its cursor. What the driver
answers is a cursor (`Rows`) or an error; cells are the dynamic values that drivers
put into an `any`.
-/

namespace MysqlRedshift.Proxy

/-- Bytes of a Go string or byte slice. -/
abbrev Bytes := List UInt8

/-- `time.Time`, by its fields in the location of the connection. -/
structure Time where
  year : Int
  month : Nat
  day : Nat
  hour : Nat
  minute : Nat
  second : Nat
  nanosecond : Nat
  deriving DecidableEq, Repr

/-- A cell as an `any`: `int` and `uint` stand for the integer types of all widths,
floats are given by their bits, and `other` by the text that `%v` prints. -/
inductive Value where
  | nil
  | bytes (b : Bytes)
  | str (s : Bytes)
  | time (t : Time)
  | int (n : Int)
  | uint (n : Nat)
  | float32 (bits : UInt32)
  | float64 (bits : UInt64)
  | bool (b : Bool)
  | other (printed : Bytes)
  deriving DecidableEq, Repr

/-- `executor.Result`. -/
structure Result where
  columns : List String
  rows : List (List Value)
  deriving DecidableEq, Repr

/-- The cursor of a query: what `Columns` answers, the rows that `Next` steps
through, and the error that `Err` reports after them. -/
structure Rows where
  columns : Except String (List String)
  rows : List (List Value)
  err : Option String

/-- `rows.Scan` into one `*any` for each column. -/
def scan (cols : List String) (row : List Value) : Except String (List Value) :=
  if row.length = cols.length then .ok row
  else .error ("sql: expected " ++ row.length.repr ++ " destination arguments in Scan, not " ++
    cols.length.repr)

/-- The `for rows.Next()` loop. -/
def scanRows (cols : List String) : List (List Value) → Except String (List (List Value))
  | [] => .ok []
  | row :: rows =>
    match scan cols row with
    | .error err => .error err
    | .ok vals =>
      match scanRows cols rows with
      | .error err => .error err
      | .ok out => .ok (vals :: out)

/-- The body shared by both `ExecSelect`s, on the answer of `QueryContext`. -/
def execSelect (queried : Except String Rows) : Except String Result :=
  match queried with
  | .error err => .error err
  | .ok rows =>
    match rows.columns with
    | .error err => .error err
    | .ok cols =>
      match scanRows cols rows.rows with
      | .error err => .error err
      | .ok out =>
        match rows.err with
        | some err => .error err
        | none => .ok ⟨cols, out⟩

/-- `MySQL.ExecSelect`, for the `QueryContext` of the MySQL driver. -/
def MySQL.execSelect (queryContext : String → Except String Rows) (query : String) :
    Except String Result :=
  Proxy.execSelect (queryContext query)

/-- `Redshift.ExecSelect`, for the `QueryContext` of the pgx driver. -/
def Redshift.execSelect (queryContext : String → Except String Rows) (query : String) :
    Except String Result :=
  Proxy.execSelect (queryContext query)

theorem scanRows_ok {cols : List String} {rows : List (List Value)}
    (h : ∀ row ∈ rows, row.length = cols.length) : scanRows cols rows = .ok rows := by
  induction rows with
  | nil => rfl
  | cons row rows ih =>
    have width : row.length = cols.length := h row List.mem_cons_self
    have rest := ih fun row member => h row (List.mem_cons_of_mem _ member)
    simp [scanRows, scan, width, rest]

end MysqlRedshift.Proxy
