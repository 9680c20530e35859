import Mathlib.Data.List.Lex
import Mathlib.Data.Rat.Defs
import Mathlib.Algebra.Order.Ring.Rat
import Mathlib.Data.String.Basic
import MysqlRedshift.Agent.ImportTest
import MysqlRedshift.Misc.Pairing

/-!
# Comparison of two result sets

`tools/compare.py`. A cell is a Python value of one of the types that the two drivers
return. How a value is written as text, which is what the rows are sorted by, how a
`Decimal` is rounded to a float and when two numbers are close are parameters.
-/

namespace MysqlRedshift.Agent

open MysqlRedshift.Misc

/-- A value of a cell. A `datetime` or `date` is given by its `isoformat()`, a finite
`Decimal` or `float` by its exact value; `other` are the types that `_normalize` and `_eq`
do not name, and the numbers that are not finite. -/
inductive PyValue (O : Type) where
  | none
  | bytes (b : List UInt8)
  | str (s : String)
  | date (isoformat : String)
  | decimal (q : Rat)
  | int (n : Int)
  | bool (b : Bool)
  | float (q : Rat)
  | other (o : O)

/-- The functions that `compare` calls: `bytes.decode("utf-8", errors="replace")`,
`str.lower`, `float()` of a `Decimal`, `str()`, which can raise, and `repr()`; `isClose` is
`math.isclose(float(a), float(b), rel_tol=1e-9, abs_tol=1e-9)`, and `a == b` where `float()`
raises; and `eqOther` is `==` where one of the values is of another type. -/
structure PyText (O : Type) where
  decode : List UInt8 → String
  lower : String → String
  float : Rat → PyValue O
  str : PyValue O → Except String String
  reprStr : String → String
  repr : PyValue O → String
  isClose : PyValue O → PyValue O → Bool
  eqOther : PyValue O → PyValue O → Bool

/-- `isinstance(v, (int, float))`; `bool` is a subclass of `int`. -/
def PyValue.isNumber {O : Type} : PyValue O → Bool
  | .int _ => true
  | .bool _ => true
  | .float _ => true
  | _ => false

/-- The exact value of a number. -/
def PyValue.exact {O : Type} : PyValue O → Rat
  | .int n => n
  | .bool b => if b then 1 else 0
  | .float q => q
  | _ => 0

/-- `1e-9`. -/
def epsilon : Rat := 1 / 1000000000

/-- `math.isclose(a, b, rel_tol=1e-9, abs_tol=1e-9)`, without rounding. -/
def closeTo (a b : Rat) : Bool :=
  decide (a = b ∨ |b - a| ≤ |epsilon * b| ∨ |b - a| ≤ |epsilon * a| ∨ |b - a| ≤ epsilon)

/-- The functions on plain values, with the case and the encoding of ASCII, and with
numbers that floats have exactly. -/
def pyAscii : PyText Empty where
  decode b := String.ofList (b.map fun c => Char.ofNat c.toNat)
  lower s := String.ofList (s.toList.map fun c =>
    if c.isUpper then Char.ofNat (c.toNat + 32) else c)
  float := .float
  str
    | .none => .ok "None"
    | .str s => .ok s
    | .int n => .ok (toString n)
    | .bool b => .ok (if b then "True" else "False")
    | .float q => .ok (if q.isInt then toString q.num ++ ".0" else toString q)
    | .decimal q => .ok (toString q)
    | .date s => .ok s
    | .bytes b => .ok (toString b)
  reprStr s := "'" ++ s ++ "'"
  repr
    | .none => "None"
    | .str s => "'" ++ s ++ "'"
    | .int n => toString n
    | .bool b => if b then "True" else "False"
    | .float q => if q.isInt then toString q.num ++ ".0" else toString q
    | .decimal q => "Decimal('" ++ toString q ++ "')"
    | .date s => s
    | .bytes b => toString b
  isClose a b := closeTo a.exact b.exact
  eqOther _ _ := false

variable {O : Type} (py : PyText O)

/-- `_normalize`. With `errors="replace"` the decoding cannot raise, so the `hex()` of
its handler is never reached. -/
def PyValue.normalize : PyValue O → PyValue O
  | .none => .none
  | .bytes b => .str (pyStrip (py.decode b))
  | .str s => .str (pyStrip s)
  | .date isoformat => .str isoformat
  | .decimal q => py.float q
  | v => v

/-- `a == b` of two normalized values that are not both numbers. -/
def PyValue.plainEq : PyValue O → PyValue O → Bool
  | .str s, .str s' => s == s'
  | .other o, v => py.eqOther (.other o) v
  | v, .other o => py.eqOther v (.other o)
  | _, _ => false

/-- `_eq`. -/
def PyValue.eq (a b : PyValue O) : Bool :=
  match a.normalize py, b.normalize py with
  | .none, .none => true
  | .none, _ => false
  | _, .none => false
  | a, b => if a.isNumber && b.isNumber then py.isClose a b else PyValue.plainEq py a b

/-- A row of a result set. -/
abbrev PyRow (O : Type) := List (PyValue O)

/-- What `compare` returns. -/
structure CompareResult where
  ok : Bool
  reason : String
  diffRows : Option Nat := none
  deriving DecidableEq, Repr

/-- The `key` of the sorts. -/
def rowKey (row : PyRow O) : Except String (List String) :=
  row.mapM fun v => py.str (v.normalize py)

/-- `sorted(rows, key=key)`: the keys are computed first, row after row. -/
def sortedRows (rows : List (PyRow O)) : Except String (List (PyRow O)) := do
  let keyed ← rows.mapM fun row => do
    let key ← rowKey py row
    return (key, row)
  return (sortBy Prod.fst keyed).map Prod.snd

/-- The first cells of two rows that differ, with their place. -/
def firstUnequal : Nat → PyRow O → PyRow O → Option (Nat × PyValue O × PyValue O)
  | j, a :: rm, b :: rr => if a.eq py b then firstUnequal (j + 1) rm rr else some (j, a, b)
  | _, _, _ => none

/-- `first_diff`: the row, the column, and the two cells. -/
structure FirstDiff (O : Type) where
  row : Nat
  col : String
  my : PyValue O
  rs : PyValue O

/-- The end of `compare`, after the loop. -/
def compareVerdict (total diffCount : Nat) (firstDiff : Option (FirstDiff O)) :
    Except String CompareResult :=
  if diffCount = 0 then
    .ok { ok := true, reason := "严格一致 (" ++ toString total ++ " 行)" }
  else
    match firstDiff with
    | none => .error "cannot unpack non-iterable NoneType object"
    | some d =>
      .ok {
        ok := false
        reason := toString diffCount ++ "/" ++ toString total ++ " 行有差异；首差：行" ++
          toString d.row ++ " 列" ++ py.reprStr d.col ++ " MySQL=" ++ py.repr d.my ++
          " Redshift=" ++ py.repr d.rs
        diffRows := some diffCount }

/-- The loop of `compare` over the pairs of sorted rows, from the `i`-th on. -/
def compareLoop (colsMy : List String) (total : Nat) :
    Nat → Nat → Option (FirstDiff O) → List (PyRow O × PyRow O) → Except String CompareResult
  | _, diffCount, firstDiff, [] => compareVerdict py total diffCount firstDiff
  | i, diffCount, firstDiff, (rm, rr) :: rest =>
    if rm.length ≠ rr.length then
      .ok { ok := false, reason := "第 " ++ toString (i + 1) ++ " 行列数不一致" }
    else
      match firstUnequal py 0 rm rr with
      | none => compareLoop colsMy total (i + 1) diffCount firstDiff rest
      | some (j, a, b) =>
        match firstDiff with
        | some d => compareLoop colsMy total (i + 1) (diffCount + 1) (some d) rest
        | none =>
          match colsMy[j]? with
          | none => .error "list index out of range"
          | some col =>
            compareLoop colsMy total (i + 1) (diffCount + 1) (some ⟨i + 1, col, a, b⟩) rest

/-- `f"{cols}"` of a list of texts. -/
def reprCols (cols : List String) : String := "[" ++ pyJoin ", " (cols.map py.reprStr) ++ "]"

/-- The strict part of `compare`, on as many rows on both sides. -/
def compareStrict (rowsMy rowsRs : List (PyRow O)) (colsMy colsRs : List String) :
    Except String CompareResult :=
  if colsMy.length ≠ colsRs.length then
    .ok {
      ok := false
      reason := "列数不一致：MySQL=" ++ toString colsMy.length ++ " Redshift=" ++
        toString colsRs.length }
  else if colsMy.map py.lower ≠ colsRs.map py.lower then
    .ok {
      ok := false
      reason := "列名不一致：" ++ reprCols py colsMy ++ " vs " ++ reprCols py colsRs }
  else
    match (do return (← sortedRows py rowsMy, ← sortedRows py rowsRs) :
        Except String (List (PyRow O) × List (PyRow O))) with
    | .error e => .ok { ok := false, reason := "排序失败（可能含不可排序类型）：" ++ e }
    | .ok (sortedMy, sortedRs) =>
      compareLoop py colsMy rowsMy.length 0 0 none (sortedMy.zip sortedRs)

/-- `compare`; an exception that leaves it is given by its text. -/
def compare (rowsMy rowsRs : List (PyRow O)) (colsMy colsRs : List String)
    (mode : String := "strict") : Except String CompareResult :=
  if mode = "skipped" then
    .ok { ok := true, reason := "compare skipped by user" }
  else if rowsMy.length ≠ rowsRs.length then
    .ok {
      ok := false
      reason := "行数不一致：MySQL=" ++ toString rowsMy.length ++ " Redshift=" ++
        toString rowsRs.length
      diffRows := some (Int.natAbs (rowsMy.length - rowsRs.length)) }
  else if mode = "lenient" then
    .ok { ok := true, reason := "行数一致 (" ++ toString rowsMy.length ++ " 行)" }
  else compareStrict py rowsMy rowsRs colsMy colsRs

/-- The verdict: an exception is not a good one. -/
def accepted : Except String CompareResult → Bool
  | .ok result => result.ok
  | .error _ => false

variable (rowsMy rowsRs : List (PyRow O)) (colsMy colsRs : List String)

/-- The strict comparison answers `ok=True`. -/
def Accepts : Prop := accepted (compare py rowsMy rowsRs colsMy colsRs "strict") = true

instance : Decidable (Accepts py rowsMy rowsRs colsMy colsRs) := inferInstanceAs (Decidable (_ = _))

/-- Two rows have the same width and are equal cell by cell. -/
def RowsAgree (row row' : PyRow O) : Prop := List.Forall₂ (fun a b => a.eq py b = true) row row'

/-- Every cell of the row can be written as text. -/
def Writable (row : PyRow O) : Prop := ∃ key, rowKey py row = .ok key

/-- The text of a row that can be written. -/
def textKey (row : PyRow O) : List String :=
  match rowKey py row with
  | .ok key => key
  | .error _ => []

end MysqlRedshift.Agent
