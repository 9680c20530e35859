import MysqlRedshift.Misc.Lru
import MysqlRedshift.Misc.Regex
import MysqlRedshift.Misc.Text

/-!
# The proxy's translation cache

`proxy/internal/cache/cache.go`: the key of a query and the bounded cache behind
`Get` and `Set`. The cache keeps the Redshift text of a query under its key; the
key forgets the literals of the query, and the entry does not hold them either.
The bounded cache is the imported `lru.Cache`, met through its interface; the
hash is any function from the normalised text to a key.
-/

namespace MysqlRedshift.Proxy.Cache

open MysqlRedshift.Misc

/-! ## `normalize` and `Key` -/

/-- The `\d` of Go's expressions. -/
def isDigit (c : Char) : Bool := '0' ≤ c && c ≤ '9'

/-- The characters of words for Go's `\b`. -/
def isWord (c : Char) : Bool :=
  isDigit c || ('a' ≤ c && c ≤ 'z') || ('A' ≤ c && c ≤ 'Z') || c == '_'

/-- The `\s` of Go's expressions, which leaves out the vertical tab. -/
def isBlank (c : Char) : Bool :=
  c == '\t' || c == '\n' || c == '\x0c' || c == '\r' || c == ' '

def quote : Regex := .cls fun c => c == '\''

/-- `'(?:[^']|'')*'`. -/
def reStringLit : Regex :=
  .all [quote, .star (.alt (.cls fun c => c != '\'') (.seq quote quote)), quote]

/-- `\b\d+(\.\d+)?\b`. -/
def reNumber : Regex :=
  .all [.wordBoundary isWord, .plus (.cls isDigit),
    .opt (.group 1 (.seq (.cls fun c => c == '.') (.plus (.cls isDigit)))),
    .wordBoundary isWord]

/-- `\s+`. -/
def reWhitespc : Regex := .plus (.cls isBlank)

def normalize (db : UnicodeDb) (sql : String) : String :=
  let s := trimSpace sql
  let s := trimRight s ";"
  let s := toLower db s
  let s := reStringLit.replaceAll "?" s
  let s := reNumber.replaceAll "?" s
  reWhitespc.replaceAll " " s

/-- `Key`, for the hash `md5` (in hexadecimal). -/
def key (db : UnicodeDb) (md5 : String → String) (sql : String) : String :=
  md5 (normalize db sql)

/-- Queries that differ only in a number, in letter case or in spacing share a key. -/
example :
    normalize .ascii "SELECT *  FROM t WHERE id = 12.5;" = "select * from t where id = ?" := by
  decide

/-! ## `Cache` -/

variable {C : Type} (L : Lru C String String)

def new (size : Int) : Except String C := L.new size

def get (c : C) (key : String) : Option String × C := L.get c key

def set (c : C) (key val : String) : C := L.add c key val

end MysqlRedshift.Proxy.Cache
