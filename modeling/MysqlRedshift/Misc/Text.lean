import Mathlib.Data.List.Basic

/-!
# Text functions of the Go and Python standard libraries

Text is a `String`, worked on as its list of characters. White space is the fixed
table of each language; letter case and character classes come from a Unicode
database, which differs between the versions of the two runtimes and is therefore
a parameter (`UnicodeDb`). Nothing here assumes more of the database than a theorem
names.
-/

namespace MysqlRedshift.Misc

/-- The parts of a Unicode database that the two languages' text functions read.
`sameIgnoreCase` is the comparison of two characters under a case-insensitive
regular expression. -/
structure UnicodeDb where
  toLower : Char → Char
  toUpper : Char → List Char
  isAlnum : Char → Bool
  isDecimal : Char → Bool
  sameIgnoreCase : Char → Char → Bool

/-- A database that knows the letters and digits of ASCII only. -/
def UnicodeDb.ascii : UnicodeDb where
  toLower := Char.toLower
  toUpper := fun c => [c.toUpper]
  isAlnum := Char.isAlphanum
  isDecimal := Char.isDigit
  sameIgnoreCase := fun c d => c.toLower == d.toLower

/-- The white space of Unicode above the control characters. -/
def isWideSpace (n : Nat) : Bool :=
  n == 0x85 || n == 0xa0 || n == 0x1680 || (0x2000 ≤ n && n ≤ 0x200a) || n == 0x2028 ||
    n == 0x2029 || n == 0x202f || n == 0x205f || n == 0x3000

/-- Go `unicode.IsSpace`. -/
def goIsSpace (c : Char) : Bool :=
  (0x09 ≤ c.toNat && c.toNat ≤ 0x0d) || c.toNat == 0x20 || isWideSpace c.toNat

/-- Python `str.isspace` of one character, which also takes the four separators
from U+001C on. -/
def pyIsSpace (c : Char) : Bool :=
  (0x09 ≤ c.toNat && c.toNat ≤ 0x0d) || (0x1c ≤ c.toNat && c.toNat ≤ 0x20) || isWideSpace c.toNat

/-- The `\w` of Python's expressions. -/
def pyIsWord (db : UnicodeDb) (c : Char) : Bool := db.isAlnum c || c == '_'

/-- Cuts the longest prefix and suffix of characters in `p`. -/
def trimBoth (p : Char → Bool) (s : List Char) : List Char :=
  ((s.dropWhile p).reverse.dropWhile p).reverse

/-- Cuts the longest suffix of characters in `p`. -/
def trimEnd (p : Char → Bool) (s : List Char) : List Char :=
  (s.reverse.dropWhile p).reverse

/-- Go `strings.TrimSpace`. -/
def trimSpace (s : String) : String := String.ofList (trimBoth goIsSpace s.toList)

/-- Go `strings.TrimRight(s, cut)`. -/
def trimRight (s cut : String) : String :=
  String.ofList (trimEnd (fun c => cut.toList.contains c) s.toList)

/-- Go `strings.ToLower`. -/
def toLower (db : UnicodeDb) (s : String) : String := String.ofList (s.toList.map db.toLower)

/-- Go `strings.HasPrefix` and Python `str.startswith`. -/
def hasPrefix (s pre : String) : Bool := pre.toList.isPrefixOf s.toList

/-- Go `strings.Split(s, sep)` at a separator of one character. -/
def splitAtChar (s : String) (sep : Char) : List String :=
  (s.toList.splitOn sep).map String.ofList

/-- Python `str.strip()`. -/
def pyStrip (s : String) : String := String.ofList (trimBoth pyIsSpace s.toList)

/-- Python `str.rstrip()`. -/
def pyRstrip (s : String) : String := String.ofList (trimEnd pyIsSpace s.toList)

/-- Python `str.rstrip(cut)`. -/
def pyRstripChars (s cut : String) : String := trimRight s cut

/-- Python `str.upper()`. -/
def pyUpper (db : UnicodeDb) (s : String) : String :=
  String.ofList (s.toList.flatMap db.toUpper)

/-- Python `s[:n]`. -/
def pyTake (s : String) (n : Nat) : String := String.ofList (s.toList.take n)

/-- Python `sep.join(parts)`. -/
def pyJoin (sep : String) (parts : List String) : String := sep.intercalate parts

/-- Go `len(s)`, which counts bytes. -/
def goLen (s : String) : Nat := s.utf8ByteSize

end MysqlRedshift.Misc
