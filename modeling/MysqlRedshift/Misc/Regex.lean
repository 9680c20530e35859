import Mathlib.Data.List.Basic

/-!
# Regular expressions with ordered choice

Go's `regexp` and Python's `re` both search for the leftmost match and, among the
matches that start there, take the first one in the order in which the expression
lists them: the left branch of a choice before the right one, one more round of a
greedy repetition before stopping, and stopping first for a lazy one. `ends` lists
the ends of all matches at a place in that order; a match is the head of the list.
Zero-width tests (`\b`, `^`, `$`) are predicates on the text on both sides, because
the two languages differ in them.
-/

namespace MysqlRedshift.Misc

/-- A place in a text: what lies before it, nearest character first, what lies after
it, and the groups closed on the way here, latest first. -/
structure Cursor where
  before : List Char
  after : List Char
  groups : List (Nat × List Char)
  deriving DecidableEq, Repr

inductive Regex where
  | empty
  | cls (p : Char → Bool)
  | seq (r s : Regex)
  | alt (r s : Regex)
  | star (r : Regex)
  | starLazy (r : Regex)
  | assert (p : List Char → List Char → Bool)
  | group (n : Nat) (r : Regex)

namespace Regex

/-- The rounds of a repetition, each of which has to consume a character; `fuel`
bounds them by what is left of the text. -/
def rounds (step : Cursor → List Cursor) (greedy : Bool) : Nat → Cursor → List Cursor
  | 0, c => [c]
  | fuel + 1, c =>
    let more := (step c).flatMap fun d =>
      if d.after.length < c.after.length then rounds step greedy fuel d else []
    if greedy then more ++ [c] else c :: more

/-- The ends of the matches that start at a place, in order of preference. -/
def ends : Regex → Cursor → List Cursor
  | empty, c => [c]
  | cls p, c =>
    match c.after with
    | [] => []
    | x :: xs => if p x then [{ c with before := x :: c.before, after := xs }] else []
  | seq r s, c => (ends r c).flatMap (ends s)
  | alt r s, c => ends r c ++ ends s c
  | star r, c => rounds (ends r) true c.after.length c
  | starLazy r, c => rounds (ends r) false c.after.length c
  | assert p, c => if p c.before c.after then [c] else []
  | group n r, c => (ends r c).map fun d =>
      { d with groups := (n, c.after.take (c.after.length - d.after.length)) :: d.groups }

/-- The leftmost match at or after a place: where it starts and where it ends. -/
def searchFrom (r : Regex) (before : List Char) : List Char → Option (Cursor × Cursor)
  | [] => (ends r ⟨before, [], []⟩).head?.map fun d => (⟨before, [], []⟩, d)
  | x :: xs =>
    match (ends r ⟨before, x :: xs, []⟩).head? with
    | some d => some (⟨before, x :: xs, []⟩, d)
    | none => searchFrom r (x :: before) xs

/-- Go `FindStringIndex`, Python `re.search`. -/
def search (r : Regex) (s : String) : Option (Cursor × Cursor) :=
  searchFrom r [] s.toList

/-- Python `bool(re.search(r, s))`. -/
def found (r : Regex) (s : String) : Bool := (search r s).isSome

/-- Copies a text with `repl` in place of every match, from the left and without
overlap; `skip` characters of the match last replaced are still to be passed. It
serves expressions that match no empty text. -/
def replaceFrom (r : Regex) (repl : List Char) : Nat → List Char → List Char → List Char
  | _, _, [] => []
  | skip + 1, before, x :: xs => replaceFrom r repl skip (x :: before) xs
  | 0, before, x :: xs =>
    match (ends r ⟨before, x :: xs, []⟩).head? with
    | some d =>
      if d.after.length ≤ xs.length then
        repl ++ replaceFrom r repl (xs.length - d.after.length) (x :: before) xs
      else x :: replaceFrom r repl 0 (x :: before) xs
    | none => x :: replaceFrom r repl 0 (x :: before) xs

/-- Go `ReplaceAllString`, Python `re.sub`, with a replacement that is plain text. -/
def replaceAll (r : Regex) (repl s : String) : String :=
  String.ofList (replaceFrom r repl.toList 0 [] s.toList)

/-! ## Derived expressions -/

/-- `r+`. -/
def plus (r : Regex) : Regex := seq r (star r)

/-- `r?`. -/
def opt (r : Regex) : Regex := alt r empty

/-- The expressions one after the other. -/
def all : List Regex → Regex
  | [] => empty
  | r :: rs => seq r (all rs)

/-- The first of the expressions that matches. -/
def oneOf : List Regex → Regex
  | [] => cls fun _ => false
  | [r] => r
  | r :: rs => alt r (oneOf rs)

/-- A text, its characters compared by `same`. -/
def text (same : Char → Char → Bool) (s : String) : Regex :=
  all (s.toList.map fun x => cls (same x))

/-- `\b`, where `isWord` tells the characters of words. -/
def wordBoundary (isWord : Char → Bool) : Regex :=
  assert fun before after => (before.head?.any isWord) != (after.head?.any isWord)

/-- `^` outside multi-line mode. -/
def atStart : Regex := assert fun before _ => before.isEmpty

/-- Python's `$` outside multi-line mode: the end, or a final line break. -/
def atEnd : Regex := assert fun _ after => after.isEmpty || after == ['\n']

end Regex

end MysqlRedshift.Misc
