import Mathlib.Data.List.Basic

/-!
# The tokens of MySQL

What MySQL's lexer makes of a text, as far as tokens are told apart: words, backquoted
identifiers, and single characters. String and number literals are one placeholder, which
is what a `?` of the text stands for anyway. White space and comments are no tokens.
-/

namespace MysqlRedshift.Misc.MysqlLexer

/-- White space of the `latin1` and `utf8` tables. -/
def isSpace (c : Char) : Bool := c == ' ' || (0x09 ≤ c.toNat && c.toNat ≤ 0x0d)

def isControl (c : Char) : Bool := c.toNat < 0x20 || c.toNat == 0x7f

def isDigit (c : Char) : Bool := '0' ≤ c && c ≤ '9'

def isHexDigit (c : Char) : Bool :=
  isDigit c || ('a' ≤ c && c ≤ 'f') || ('A' ≤ c && c ≤ 'F')

/-- The characters of identifiers that need no quotes. -/
def isIdent (c : Char) : Bool :=
  isDigit c || ('a' ≤ c && c ≤ 'z') || ('A' ≤ c && c ≤ 'Z') || c == '_' || c == '$' ||
    0x80 ≤ c.toNat

inductive Token where
  /-- A keyword or an identifier without quotes. -/
  | word (s : List Char)
  /-- An identifier in backquotes. -/
  | quoted (s : List Char)
  /-- A string or number literal, or a `?`. -/
  | placeholder
  | punct (c : Char)
  /-- A string or a quoted identifier that does not end. -/
  | broken
  deriving DecidableEq, Repr

/-! ## Regions -/

/-- What is inside a string and what comes after it: a doubled quote and a character after
a backslash belong to the string, where `escapes` says that backslashes count. -/
def scanQuoted (escapes : Bool) (q : Char) : List Char → Option (List Char × List Char)
  | [] => none
  | [c] => if c == q then some ([], []) else none
  | c :: d :: cs =>
    if escapes && c == '\\' then (scanQuoted escapes q cs).map fun p => (c :: d :: p.1, p.2)
    else if c == q then
      if d == q then (scanQuoted escapes q cs).map fun p => (c :: d :: p.1, p.2)
      else some ([], d :: cs)
    else (scanQuoted escapes q (d :: cs)).map fun p => (c :: p.1, p.2)

/-- What comes after a comment `/* */`; one that does not end takes all. -/
def scanBlock : List Char → List Char
  | [] => []
  | [_] => []
  | c :: d :: cs => if c == '*' && d == '/' then cs else scanBlock (d :: cs)

/-- What comes after a comment that goes to the end of the line. -/
def scanLine (cs : List Char) : List Char := cs.dropWhile fun c => c != '\n'

/-! ## Numbers -/

/-- What comes after an exponent: a sign is part of it, digits have to follow. -/
def scanExponent : List Char → Option (List Char)
  | e :: d :: cs =>
    if e == 'e' || e == 'E' then
      if isDigit d then some (cs.dropWhile isDigit)
      else if (d == '+' || d == '-') && cs.head?.any isDigit then some (cs.dropWhile isDigit)
      else none
    else none
  | _ => none

/-- What comes after the fraction of a number, behind its point. -/
def scanFraction (cs : List Char) : List Char :=
  let rest := cs.dropWhile isDigit
  (scanExponent rest).getD rest

/-- What comes after a hexadecimal or binary number. -/
def scanRadix : List Char → Option (List Char)
  | '0' :: x :: cs =>
    let isPlace := if x == 'x' then isHexDigit else fun c => c == '0' || c == '1'
    let rest := cs.dropWhile isPlace
    if (x == 'x' || x == 'b') && cs.head?.any isPlace && !rest.head?.any isIdent then some rest
    else none
  | _ => none

/-- What comes after a number; a word can start with digits too. -/
def scanNumber (cs : List Char) : Option (List Char) :=
  let rest := cs.dropWhile isDigit
  match rest with
  | '.' :: frac => some (scanFraction frac)
  | _ =>
    match scanRadix cs with
    | some rest => some rest
    | none =>
      match scanExponent rest with
      | some rest => some rest
      | none => if rest.head?.any isIdent then none else some rest

/-! ## Tokens -/

/-- What stands immediately before: a word, or a word and a point; behind the latter
digits are a name. -/
inductive After where
  | other
  | word
  | wordPoint
  deriving DecidableEq, Repr

/-- A string, or an identifier in backquotes. -/
def lexQuoted (escapes : Bool) (token : List Char → Token) (c : Char) (cs : List Char) :
    Option Token × After × List Char :=
  match scanQuoted escapes c cs with
  | some (body, rest) => (some (token body), .other, rest)
  | none => (some .broken, .other, [])

/-- A word, or a number if it starts with a digit and is one. -/
def lexWord (after : After) (c : Char) (cs : List Char) : Option Token × After × List Char :=
  let word := (some (.word (c :: cs.takeWhile isIdent)), After.word, cs.dropWhile isIdent)
  if isDigit c && after != .wordPoint then
    match scanNumber (c :: cs) with
    | some rest => (some .placeholder, .other, rest)
    | none => word
  else word

/-- A point between names, or the beginning of a number, or neither. -/
def lexPoint (after : After) (cs : List Char) : Option Token × After × List Char :=
  if after == .word && cs.head?.any isIdent then (some (.punct '.'), .wordPoint, cs)
  else if cs.head?.any isDigit then (some .placeholder, .other, scanFraction cs)
  else (some (.punct '.'), .other, cs)

/-- A comment to the end of the line starts with two hyphens before a blank or the end. -/
def startsLine (c : Char) (cs : List Char) : Bool :=
  c == '#' ||
    c == '-' && cs.head? == some '-' && cs.tail.head?.all fun d => isSpace d || isControl d

/-- What starts at a character: its token, if it is one, and what comes after it. -/
def lexeme (after : After) (c : Char) (cs : List Char) : Option Token × After × List Char :=
  if isSpace c then (none, .other, cs)
  else if c == '\'' || c == '"' then lexQuoted true (fun _ => .placeholder) c cs
  else if c == '\x60' then lexQuoted false .quoted c cs
  else if startsLine c cs then (none, .other, scanLine cs)
  else if c == '/' && cs.head? == some '*' then (none, .other, scanBlock cs.tail)
  else if isIdent c then lexWord after c cs
  else if c == '.' then lexPoint after cs
  else if c == '?' then (some .placeholder, .other, cs)
  else (some (.punct c), .other, cs)

/-- The tokens of at most `fuel` pieces of a text. -/
def lexN : Nat → After → List Char → List Token
  | 0, _, _ => []
  | _ + 1, _, [] => []
  | fuel + 1, after, c :: cs =>
    let (token, after, rest) := lexeme after c cs
    token.toList ++ lexN fuel after rest

/-- The tokens of a text. -/
def lexFrom (after : After) (cs : List Char) : List Token := lexN cs.length after cs

def lex (s : String) : List Token := lexFrom .other s.toList

example : lex "SELECT a.1, `b c` FROM t -- x'\n WHERE k>=1.5e3 /* it's */ AND s='it\\'s'" =
    [.word "SELECT".toList, .word ['a'], .punct '.', .word ['1'], .punct ',',
      .quoted "b c".toList, .word "FROM".toList, .word ['t'], .word "WHERE".toList, .word ['k'],
      .punct '>', .punct '=', .placeholder, .word "AND".toList, .word ['s'], .punct '=',
      .placeholder] := by
  decide +kernel

/-! ## Every piece is shorter -/

theorem length_dropWhile_le (p : Char → Bool) (cs : List Char) :
    (cs.dropWhile p).length ≤ cs.length :=
  (List.dropWhile_suffix p).length_le

theorem length_scanQuoted {escapes : Bool} {q : Char} {cs : List Char}
    {found : List Char × List Char} (closed : scanQuoted escapes q cs = some found) :
    found.2.length ≤ cs.length := by
  fun_induction scanQuoted escapes q cs generalizing found with
  | case1 => cases closed
  | case2 c is_quote =>
    cases closed
    exact Nat.zero_le _
  | case3 c not_quote => cases closed
  | case4 c d cs escaped ih =>
    obtain ⟨p, inner, rfl⟩ := Option.map_eq_some_iff.mp closed
    have := ih inner
    simp only [List.length_cons]
    omega
  | case5 c d cs plain is_quote doubled ih =>
    obtain ⟨p, inner, rfl⟩ := Option.map_eq_some_iff.mp closed
    have := ih inner
    simp only [List.length_cons]
    omega
  | case6 c d cs plain is_quote single =>
    cases closed
    simp
  | case7 c d cs plain not_quote ih =>
    obtain ⟨p, inner, rfl⟩ := Option.map_eq_some_iff.mp closed
    have := ih inner
    simp only [List.length_cons] at this ⊢
    omega

theorem length_scanBlock (cs : List Char) : (scanBlock cs).length ≤ cs.length := by
  fun_induction scanBlock cs with
  | case1 => exact Nat.le_refl _
  | case2 c => exact Nat.zero_le _
  | case3 c d cs close =>
    simp only [List.length_cons]
    omega
  | case4 c d cs inside ih =>
    simp only [List.length_cons] at ih ⊢
    omega

theorem length_scanExponent {cs rest : List Char} (scanned : scanExponent cs = some rest) :
    rest.length ≤ cs.length := by
  unfold scanExponent at scanned
  split at scanned
  · next e d cs =>
    have shorter := length_dropWhile_le isDigit cs
    have : rest = cs.dropWhile isDigit := by grind
    rw [this]
    simp only [List.length_cons]
    omega
  · cases scanned

theorem length_scanFraction (cs : List Char) : (scanFraction cs).length ≤ cs.length := by
  have shorter := length_dropWhile_le isDigit cs
  rw [scanFraction]
  cases scanned : scanExponent (cs.dropWhile isDigit) with
  | none => simpa using shorter
  | some rest =>
    have := length_scanExponent scanned
    simp only [Option.getD_some]
    omega

theorem length_scanRadix {c : Char} {cs rest : List Char}
    (scanned : scanRadix (c :: cs) = some rest) : rest.length ≤ cs.length := by
  unfold scanRadix at scanned
  split at scanned
  · next x cs' same =>
    cases same
    dsimp only at scanned
    generalize (if x == 'x' then isHexDigit else fun c => c == '0' || c == '1') = isPlace at scanned
    have shorter := length_dropWhile_le isPlace cs'
    split at scanned
    · cases scanned
      simp only [List.length_cons]
      omega
    · cases scanned
  · cases scanned

theorem length_scanNumber {c : Char} {cs rest : List Char} (digit : isDigit c = true)
    (scanned : scanNumber (c :: cs) = some rest) : rest.length ≤ cs.length := by
  have drop : (c :: cs).dropWhile isDigit = cs.dropWhile isDigit := by
    rw [List.dropWhile_cons, if_pos digit]
  have shorter := length_dropWhile_le isDigit cs
  rw [scanNumber, drop] at scanned
  split at scanned
  · next frac pointed =>
    have fraction := length_scanFraction frac
    rw [pointed] at shorter
    cases scanned
    simp only [List.length_cons] at shorter
    omega
  · split at scanned
    · next radix =>
      cases scanned
      exact length_scanRadix radix
    · split at scanned
      · next exponent =>
        cases scanned
        have := length_scanExponent exponent
        omega
      · split at scanned
        · cases scanned
        · cases scanned
          exact shorter

theorem length_lexQuoted (escapes : Bool) (token : List Char → Token) (c : Char)
    (cs : List Char) : (lexQuoted escapes token c cs).2.2.length ≤ cs.length := by
  rw [lexQuoted]
  split
  · next closed => exact length_scanQuoted closed
  · exact Nat.zero_le _

theorem length_lexWord (after : After) (c : Char) (cs : List Char) :
    (lexWord after c cs).2.2.length ≤ cs.length := by
  have ident := length_dropWhile_le isIdent cs
  dsimp only [lexWord]
  split
  · next number =>
    split
    · next scanned => exact length_scanNumber (Bool.and_eq_true_iff.mp number).1 scanned
    · exact ident
  · exact ident

theorem length_lexPoint (after : After) (cs : List Char) :
    (lexPoint after cs).2.2.length ≤ cs.length := by
  rw [lexPoint]
  split
  · exact Nat.le_refl _
  · split
    · exact length_scanFraction cs
    · exact Nat.le_refl _

theorem length_lexeme (after : After) (c : Char) (cs : List Char) :
    (lexeme after c cs).2.2.length ≤ cs.length := by
  have line : (scanLine cs).length ≤ cs.length := length_dropWhile_le _ cs
  have block : (scanBlock cs.tail).length ≤ cs.length := by
    have := length_scanBlock cs.tail
    rw [List.length_tail] at this
    omega
  rw [lexeme]
  split
  · exact Nat.le_refl _
  · split
    · exact length_lexQuoted ..
    · split
      · exact length_lexQuoted ..
      · split
        · exact line
        · split
          · exact block
          · split
            · exact length_lexWord ..
            · split
              · exact length_lexPoint ..
              · split <;> exact Nat.le_refl _

/-- More fuel than there are characters makes no difference. -/
theorem lexN_stable {n m : Nat} {after : After} {cs : List Char} (le : cs.length ≤ n)
    (le' : cs.length ≤ m) : lexN n after cs = lexN m after cs := by
  induction n generalizing m after cs with
  | zero =>
    rw [List.eq_nil_of_length_eq_zero (Nat.le_zero.mp le)]
    cases m <;> rfl
  | succ n ih =>
    cases cs with
    | nil => cases m <;> rfl
    | cons c cs =>
      cases m with
      | zero => cases le'
      | succ m =>
        have shorter := length_lexeme after c cs
        simp only [List.length_cons] at le le'
        have rest : lexN n (lexeme after c cs).2.1 (lexeme after c cs).2.2 =
            lexN m (lexeme after c cs).2.1 (lexeme after c cs).2.2 := by
          apply ih <;> omega
        simp only [lexN, rest]

@[simp] theorem lexFrom_nil (after : After) : lexFrom after [] = [] := rfl

theorem lexFrom_cons (after : After) (c : Char) (cs : List Char) :
    lexFrom after (c :: cs) =
      (lexeme after c cs).1.toList ++ lexFrom (lexeme after c cs).2.1 (lexeme after c cs).2.2 := by
  have shorter := length_lexeme after c cs
  have step : lexFrom after (c :: cs) = (lexeme after c cs).1.toList ++
      lexN cs.length (lexeme after c cs).2.1 (lexeme after c cs).2.2 := rfl
  rw [step, lexN_stable shorter (Nat.le_refl _)]
  rfl

/-! ## White space and words -/

theorem lexFrom_space {after : After} {c : Char} {cs : List Char} (space : isSpace c = true) :
    lexFrom after (c :: cs) = lexFrom .other cs := by
  have skipped : lexeme after c cs = (none, .other, cs) := by simp [lexeme, space]
  rw [lexFrom_cons, skipped]
  rfl

theorem le_iff_toNat {a b : Char} : a ≤ b ↔ a.toNat ≤ b.toNat := Iff.rfl

theorem isSpace_eq_false {c : Char} (ident : isIdent c = true) : isSpace c = false := by
  have blank : c = ' ' ↔ c.toNat = 32 := (Char.toNat_inj (d := ' ')).symm
  have line : c = '_' ↔ c.toNat = 95 := (Char.toNat_inj (d := '_')).symm
  have dollar : c = '$' ↔ c.toNat = 36 := (Char.toNat_inj (d := '$')).symm
  have h0 : ('0' : Char).toNat = 48 := rfl
  have h9 : ('9' : Char).toNat = 57 := rfl
  have ha : ('a' : Char).toNat = 97 := rfl
  have hz : ('z' : Char).toNat = 122 := rfl
  have hA : ('A' : Char).toNat = 65 := rfl
  have hZ : ('Z' : Char).toNat = 90 := rfl
  simp only [isIdent, isDigit, isSpace, Bool.or_eq_true, Bool.and_eq_true, decide_eq_true_eq,
    beq_iff_eq, le_iff_toNat, blank, line, dollar, Bool.or_eq_false_iff, Bool.and_eq_false_iff,
    decide_eq_false_iff_not, beq_eq_false_iff_ne, ne_eq] at ident ⊢
  omega

theorem ne_of_isIdent {c d : Char} (ident : isIdent c = true) (special : isIdent d = false) :
    c ≠ d := by
  rintro rfl
  rw [ident] at special
  cases special

theorem lexeme_of_isIdent {after : After} {c : Char} (cs : List Char)
    (ident : isIdent c = true) : lexeme after c cs = lexWord after c cs := by
  have not_space := isSpace_eq_false ident
  have single := ne_of_isIdent ident (d := '\'') rfl
  have double := ne_of_isIdent ident (d := '"') rfl
  have back := ne_of_isIdent ident (d := '\x60') rfl
  have hash := ne_of_isIdent ident (d := '#') rfl
  have dash := ne_of_isIdent ident (d := '-') rfl
  have slash := ne_of_isIdent ident (d := '/') rfl
  simp [lexeme, startsLine, not_space, single, double, back, hash, dash, slash, ident]

theorem lexeme_word {after : After} {c : Char} (cs : List Char) (ident : isIdent c = true)
    (name : isDigit c = false ∨ after = .wordPoint) :
    lexeme after c cs =
      (some (.word (c :: cs.takeWhile isIdent)), .word, cs.dropWhile isIdent) := by
  have word : (isDigit c && after != .wordPoint) = false := by
    rcases name with digit | rfl
    · rw [digit]
      rfl
    · exact Bool.and_false _
  rw [lexeme_of_isIdent cs ident, lexWord, word]
  rfl

/-- A word goes as far as its characters do. -/
theorem lexFrom_word {after : After} {c : Char} (cs : List Char) (ident : isIdent c = true)
    (name : isDigit c = false ∨ after = .wordPoint) :
    lexFrom after (c :: cs) =
      .word (c :: cs.takeWhile isIdent) :: lexFrom .word (cs.dropWhile isIdent) := by
  rw [lexFrom_cons, lexeme_word cs ident name]
  rfl

theorem lexFrom_word_append {after : After} {w rest : List Char}
    (ident : ∀ c ∈ w, isIdent c = true) (name : w.head?.any (fun c => !isDigit c) = true) :
    lexFrom after (w ++ rest) =
      .word (w ++ rest.takeWhile isIdent) :: lexFrom .word (rest.dropWhile isIdent) := by
  cases w with
  | nil => cases name
  | cons c w =>
    have ⟨first, others⟩ := List.forall_mem_cons.mp ident
    have start : isDigit c = false := by simpa using name
    rw [List.cons_append, lexFrom_word _ first (Or.inl start), List.takeWhile_append_of_pos others,
      List.dropWhile_append_of_pos others]
    rfl

end MysqlRedshift.Misc.MysqlLexer
