import MysqlRedshift.Misc.Regex
import MysqlRedshift.Misc.Text

/-!
# Dialect rules

`agent/tools/lookup_dialect_rule.py`: which rule files a query calls for, and the
text made of them. The files themselves are a parameter, `RuleFiles`.
-/

namespace MysqlRedshift.Agent

open MysqlRedshift.Misc

/-- The files under `references/`: the text of a file by its name. -/
abbrev RuleFiles := String → Option String

section

variable (db : UnicodeDb)

/-- `\b` of Python's expressions. -/
def boundary : Regex := .wordBoundary (pyIsWord db)

/-- A keyword, whatever its case. -/
def keyword (s : String) : Regex := .text db.sameIgnoreCase s

/-- `\s*`. -/
def blanks : Regex := .star (.cls pyIsSpace)

/-- `\s+`. -/
def someBlanks : Regex := .plus (.cls pyIsSpace)

/-- `\d+`. -/
def digits : Regex := .plus (.cls db.isDecimal)

/-- `\bNAME\s*\(`, for the first of the names that is there. -/
def callOf (names : List String) : Regex :=
  .all [boundary db, .oneOf (names.map (keyword db)), blanks, keyword db "("]

/-- `KEYWORD_RULES`. -/
def keywordRules : List (Regex × String) :=
  [(.all [boundary db, keyword db "dw", keyword db "."], "schema_prefix.md"),
    (keyword db "`", "backticks.md"),
    (.all [boundary db, keyword db "limit", someBlanks, digits db, blanks, keyword db ",", blanks,
      digits db], "limit_offset.md"),
    (callOf db ["IFNULL"], "ifnull.md"),
    (callOf db ["GROUP_CONCAT"], "group_concat.md"),
    (callOf db ["DATE_FORMAT"], "date_format.md"),
    (callOf db ["DATE_ADD", "DATE_SUB", "ADDDATE", "SUBDATE"], "date_arith.md"),
    (.all [boundary db, keyword db "ON", someBlanks, keyword db "DUPLICATE", someBlanks,
      keyword db "KEY"], "on_duplicate_key.md"),
    (.all [boundary db, .oneOf (["TINYINT", "MEDIUMTEXT", "DATETIME"].map (keyword db)),
      boundary db], "types.md"),
    (callOf db ["STR_TO_DATE"], "str_to_date.md"),
    (callOf db ["UNIX_TIMESTAMP", "FROM_UNIXTIME"], "unix_timestamp.md"),
    (callOf db ["CONCAT_WS"], "concat_ws.md")]

/-- `match_references`: the files of the rules that apply, each once, in their order. -/
def matchReferences (sql : String) : List String :=
  (keywordRules db).foldl
    (fun hit rule =>
      if rule.1.found sql && !hit.contains rule.2 then hit ++ [rule.2] else hit) []

def loadReference (files : RuleFiles) (fname : String) : String :=
  match files fname with
  | none => "(reference not found: " ++ fname ++ ")"
  | some text => text

def lookupDialectRule (files : RuleFiles) (sql : String) : String :=
  match matchReferences db sql with
  | [] => "no dialect rules matched; translate by general MySQL→Redshift knowledge."
  | hits =>
    pyJoin "\n\n---\n\n" (hits.map fun fn => "# Rule: " ++ fn ++ "\n\n" ++ loadReference files fn)

end

example : matchReferences .ascii "SELECT ifnull (a, 0) FROM dw.t LIMIT 2 , 3" =
    ["schema_prefix.md", "limit_offset.md", "ifnull.md"] := by decide

end MysqlRedshift.Agent
