import MysqlRedshift.Proxy.Executor

/-!
# Results on the wire

`proxy/internal/resultmap/resultmap.go`: every cell goes to the client as text or
as NULL. The construction of the result set is the wire library's
(`BuildSimpleTextResultset`), and so is a parameter, as is the text of a float.
-/

namespace MysqlRedshift.Proxy

/-- A text result set: column names, and cells that are text or NULL. -/
structure Resultset where
  fields : List String
  rows : List (List (Option Bytes))
  deriving DecidableEq, Repr

/-- `gomysql.Result`. -/
structure MySQLResult where
  status : Nat
  warnings : Nat
  insertId : Nat
  affectedRows : Nat
  resultset : Option Resultset
  deriving DecidableEq, Repr

/-- `&gomysql.Result{}`. -/
def MySQLResult.zero : MySQLResult := ⟨0, 0, 0, 0, none⟩

/-- What the mapping takes from libraries: `FormatFloat(x, 'f', -1, bitSize)` on the
bits of a float, and the builder of result sets. -/
structure WireLib where
  formatFloat : (bitSize : Nat) → UInt64 → Bytes
  buildSimpleTextResultset : List String → List (List (Option Bytes)) → Except String Resultset

/-- The bytes of an ASCII text. -/
def ascii (s : String) : Bytes := s.toList.map fun c => UInt8.ofNat c.toNat

/-- A number in decimal, filled up with zeros to a width. -/
def padded (width n : Nat) : String :=
  String.ofList (List.replicate (width - n.repr.toList.length) '0') ++ n.repr

/-- `x.Format("2006-01-02 15:04:05")`. -/
def Time.format (t : Time) : String :=
  (if t.year < 0 then "-" else "") ++ padded 4 t.year.natAbs ++ "-" ++ padded 2 t.month ++ "-" ++
    padded 2 t.day ++ " " ++ padded 2 t.hour ++ ":" ++ padded 2 t.minute ++ ":" ++
    padded 2 t.second

/-- The text of a cell, and `none` for a NULL. -/
def anyToString (lib : WireLib) : Value → Option Bytes
  | .nil => none
  | .bytes b => some b
  | .str s => some s
  | .time t => some (ascii t.format)
  | .int n => some (ascii (toString n))
  | .uint n => some (ascii n.repr)
  | .float32 bits => some (lib.formatFloat 32 bits.toUInt64)
  | .float64 bits => some (lib.formatFloat 64 bits)
  | .bool b => some (ascii (if b then "1" else "0"))
  | .other printed => some printed

def toMySQL (lib : WireLib) : Option Result → Except String MySQLResult
  | none => .ok .zero
  | some r =>
    let rows := r.rows.map fun raw => raw.map (anyToString lib)
    match lib.buildSimpleTextResultset r.columns rows with
    | .error err => .error err
    | .ok rs => .ok { MySQLResult.zero with resultset := some rs }

end MysqlRedshift.Proxy
