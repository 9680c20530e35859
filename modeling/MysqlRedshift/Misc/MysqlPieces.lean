import Mathlib.Data.List.TakeWhile
import MysqlRedshift.Misc.MysqlLexer
import MysqlRedshift.Misc.Replaced

/-!
# The pieces of a MySQL text

What the lexer makes of a piece of known form and of the text behind it: quoted regions,
comments, numbers, words and single characters. What follows a piece matters by its first
two characters only.
-/

namespace MysqlRedshift.Misc.MysqlLexer

variable {after : After} {body rest u v w : List Char} {c q : Char} {L : List Char → Prop}

/-! ## Quoted regions -/

/-- Where a reader is between two quotes: behind a backslash, behind the first quote of a
doubled one, or neither. -/
inductive Inner where
  | plain
  | escaped
  | doubling
  deriving DecidableEq, Repr

/-- The text can stand between two quotes `q`: all quotes in it are doubled or, where
`escapes` says so, behind a backslash. -/
def inside (escapes : Bool) (q : Char) : Inner → List Char → Bool
  | at_, [] => at_ == .plain
  | .plain, c :: cs =>
    if escapes && c == '\\' then inside escapes q .escaped cs
    else if c == q then inside escapes q .doubling cs
    else inside escapes q .plain cs
  | .escaped, _ :: cs => inside escapes q .plain cs
  | .doubling, c :: cs => c == q && inside escapes q .plain cs

variable {escapes : Bool}

theorem inside_cons_other {at_ : Inner} (other : c ≠ q) (no_escape : c ≠ '\\') (cs : List Char) :
    inside escapes q at_ (c :: cs) = (at_ != .doubling && inside escapes q .plain cs) := by
  cases at_ with
  | plain => simp [inside, other, no_escape]
  | escaped => rfl
  | doubling => simp [inside, other]

theorem scanQuoted_close (no_escape : q ≠ '\\') (next : StartsOutside (· == q) rest) :
    scanQuoted escapes q (q :: rest) = some ([], rest) := by
  cases rest with
  | nil => simp [scanQuoted]
  | cons d rest =>
    have other : (d == q) = false := next
    simp [scanQuoted, no_escape, other]

/-- A quoted region is read to the quote that is followed by another character. -/
theorem scanQuoted_inside (no_escape : q ≠ '\\') (closed : inside escapes q .plain body = true)
    (next : StartsOutside (· == q) rest) :
    scanQuoted escapes q (body ++ q :: rest) = some (body, rest) := by
  have close : scanQuoted escapes q (q :: rest) = some ([], rest) :=
    scanQuoted_close no_escape next
  induction body using scanQuoted.induct escapes q with
  | case1 => exact close
  | case2 c is_quote =>
    simp [inside, eq_of_beq is_quote, no_escape] at closed
  | case3 c not_quote =>
    have plain : ¬(escapes && c == '\\') = true := by
      intro escaped
      rw [inside, if_pos escaped] at closed
      cases closed
    rw [List.singleton_append, scanQuoted, if_neg plain, if_neg not_quote, close]
    rfl
  | case4 c d cs escaped ih =>
    have closed' : inside escapes q .plain cs = true := by
      simpa only [inside, if_pos escaped] using closed
    rw [List.cons_append, List.cons_append, scanQuoted, if_pos escaped, ih closed']
    rfl
  | case5 c d cs plain is_quote doubled ih =>
    have closed' : inside escapes q .plain cs = true := by
      simpa only [inside, if_neg plain, if_pos is_quote, doubled, Bool.true_and] using closed
    rw [List.cons_append, List.cons_append, scanQuoted, if_neg plain, if_pos is_quote,
      if_pos doubled, ih closed']
    rfl
  | case6 c d cs plain is_quote single =>
    rw [inside, if_neg plain, if_pos is_quote, inside, Bool.and_eq_true] at closed
    exact absurd closed.1 single
  | case7 c d cs plain not_quote ih =>
    have closed' : inside escapes q .plain (d :: cs) = true := by
      rw [inside, if_neg plain, if_neg not_quote] at closed
      exact closed
    have later := ih closed'
    rw [List.cons_append] at later
    rw [List.cons_append, List.cons_append, scanQuoted, if_neg plain, if_neg not_quote, later]
    rfl

/-- The reader stops at the first quote that is neither doubled nor escaped. -/
theorem scanQuoted_some {cs : List Char} (closed : scanQuoted escapes q cs = some (body, rest)) :
    cs = body ++ q :: rest ∧ inside escapes q .plain body = true ∧
      StartsOutside (· == q) rest := by
  induction cs using scanQuoted.induct escapes q generalizing body with
  | case1 => cases closed
  | case2 c is_quote =>
    rw [scanQuoted, if_pos is_quote] at closed
    cases closed
    exact ⟨by rw [eq_of_beq is_quote]; rfl, rfl, rfl⟩
  | case3 c not_quote =>
    rw [scanQuoted, if_neg not_quote] at closed
    cases closed
  | case4 c d cs escaped ih =>
    rw [scanQuoted, if_pos escaped, Option.map_eq_some_iff] at closed
    obtain ⟨⟨body', rest'⟩, later, same⟩ := closed
    cases same
    obtain ⟨rfl, closed', next⟩ := ih later
    exact ⟨rfl, by rw [inside, if_pos escaped]; exact closed', next⟩
  | case5 c d cs plain is_quote doubled ih =>
    rw [scanQuoted, if_neg plain, if_pos is_quote, if_pos doubled, Option.map_eq_some_iff] at closed
    obtain ⟨⟨body', rest'⟩, later, same⟩ := closed
    cases same
    obtain ⟨rfl, closed', next⟩ := ih later
    refine ⟨rfl, ?_, next⟩
    rw [inside, if_neg plain, if_pos is_quote, inside, doubled, closed']
    rfl
  | case6 c d cs plain is_quote not_doubled =>
    rw [scanQuoted, if_neg plain, if_pos is_quote, if_neg not_doubled] at closed
    cases closed
    exact ⟨by rw [eq_of_beq is_quote]; rfl, rfl, Bool.eq_false_iff.mpr not_doubled⟩
  | case7 c d cs plain not_quote ih =>
    rw [scanQuoted, if_neg plain, if_neg not_quote, Option.map_eq_some_iff] at closed
    obtain ⟨⟨body', rest'⟩, later, same⟩ := closed
    cases same
    obtain ⟨whole, closed', next⟩ := ih later
    refine ⟨by rw [whole]; rfl, ?_, next⟩
    rw [inside, if_neg plain, if_neg not_quote]
    exact closed'

/-- A run of plain characters reads like one of them. -/
theorem inside_run {at_ : Inner} {s cs : List Char} (some_char : s ≠ [])
    (plain : ∀ x ∈ s, x ≠ q ∧ x ≠ '\\') :
    inside escapes q at_ (s ++ cs) = (at_ != .doubling && inside escapes q .plain cs) := by
  induction s generalizing at_ with
  | nil => exact absurd rfl some_char
  | cons x s ih =>
    have ⟨first, others⟩ := List.forall_mem_cons.mp plain
    rw [List.cons_append, inside_cons_other first.1 first.2]
    cases s with
    | nil => rfl
    | cons y s =>
      rw [ih (List.cons_ne_nil y s) others]
      rfl

/-- A region stays one when runs of plain characters are replaced by a plain character. -/
theorem inside_replaced {at_ : Inner} (plain : ∀ s, L s → s ≠ [] ∧ ∀ x ∈ s, x ≠ q ∧ x ≠ '\\')
    (new : c ≠ q ∧ c ≠ '\\') (replaced : Replaced L c u v)
    (closed : inside escapes q at_ u = true) : inside escapes q at_ v = true := by
  induction replaced generalizing at_ with
  | nil => exact closed
  | keep x _ ih =>
    cases at_ with
    | plain =>
      rw [inside] at closed ⊢
      split
      · next escaped =>
        rw [if_pos escaped] at closed
        exact ih closed
      · next not_escaped =>
        rw [if_neg not_escaped] at closed
        split
        · next is_quote =>
          rw [if_pos is_quote] at closed
          exact ih closed
        · next not_quote =>
          rw [if_neg not_quote] at closed
          exact ih closed
    | escaped =>
      rw [inside] at closed ⊢
      exact ih closed
    | doubling =>
      rw [inside, Bool.and_eq_true] at closed ⊢
      exact ⟨closed.1, ih closed.2⟩
  | part s inL _ ih =>
    rw [inside_run (plain s inL).1 (plain s inL).2, Bool.and_eq_true] at closed
    rw [inside_cons_other new.1 new.2, Bool.and_eq_true]
    exact ⟨closed.1, ih closed.2⟩

theorem lexFrom_quoted (token : List Char → Token) (no_escape : q ≠ '\\')
    (closed : inside escapes q .plain body = true) (next : StartsOutside (· == q) rest)
    (reads : lexeme after q (body ++ q :: rest) = lexQuoted escapes token q (body ++ q :: rest)) :
    lexFrom after (q :: (body ++ q :: rest)) = token body :: lexFrom .other rest := by
  rw [lexFrom_cons, reads, lexQuoted, scanQuoted_inside no_escape closed next]
  rfl

theorem lexFrom_string (is_quote : q = '\'' ∨ q = '"') (closed : inside true q .plain body = true)
    (next : StartsOutside (· == q) rest) :
    lexFrom after (q :: (body ++ q :: rest)) = .placeholder :: lexFrom .other rest := by
  rcases is_quote with rfl | rfl
  · exact lexFrom_quoted (fun _ => .placeholder) (by decide) closed next rfl
  · exact lexFrom_quoted (fun _ => .placeholder) (by decide) closed next rfl

theorem lexFrom_name (closed : inside false '\x60' .plain body = true)
    (next : StartsOutside (· == '\x60') rest) :
    lexFrom after ('\x60' :: (body ++ '\x60' :: rest)) = .quoted body :: lexFrom .other rest :=
  lexFrom_quoted .quoted (by decide) closed next rfl

/-! ## Comments -/

/-- No comment ends in the text. -/
def noClose : List Char → Bool
  | [] => true
  | [_] => true
  | c :: d :: cs => !(c == '*' && d == '/') && noClose (d :: cs)

theorem scanBlock_noClose (inner : noClose body = true) :
    scanBlock (body ++ '*' :: '/' :: rest) = rest := by
  fun_induction noClose body with
  | case1 => rfl
  | case2 c =>
    have step : scanBlock (c :: '*' :: '/' :: rest) = scanBlock ('*' :: '/' :: rest) := by
      rw [scanBlock, if_neg (by simp)]
    exact step
  | case3 c d cs ih =>
    obtain ⟨here, later⟩ := Bool.and_eq_true_iff.mp inner
    have goes_on : ¬(c == '*' && d == '/') = true := by
      rw [Bool.not_eq_true'] at here
      rw [here]
      exact Bool.false_ne_true
    rw [List.cons_append, List.cons_append, scanBlock, if_neg goes_on]
    exact ih later

theorem noClose_tail (inner : noClose (c :: u) = true) : noClose u = true := by
  cases u with
  | nil => rfl
  | cons d u => exact (Bool.and_eq_true_iff.mp inner).2

theorem noClose_cons (inner : noClose u = true) (open_ : c ≠ '*' ∨ u.head? ≠ some '/') :
    noClose (c :: u) = true := by
  cases u with
  | nil => rfl
  | cons d u =>
    rw [noClose, inner, Bool.and_true]
    simpa [or_iff_not_imp_left] using open_

theorem noClose_append_right {s : List Char} (inner : noClose (s ++ u) = true) :
    noClose u = true := by
  induction s with
  | nil => exact inner
  | cons x s ih => exact ih (noClose_tail inner)

/-- A comment stays open when parts of it are replaced by a character that closes none. -/
theorem noClose_replaced (new : c ≠ '*' ∧ c ≠ '/') (replaced : Replaced L c u v)
    (inner : noClose u = true) : noClose v = true := by
  induction replaced with
  | nil => rfl
  | @keep u v x later ih =>
    apply noClose_cons (ih (noClose_tail inner))
    by_cases star : x = '*'
    · -- A slash behind the star was there before.
      right
      intro slash
      cases later with
      | nil => cases slash
      | keep y _ =>
        cases slash
        rw [star] at inner
        cases inner
      | part s _ _ => exact new.2 (Option.some.inj slash)
    · exact Or.inl star
  | part s _ _ ih => exact noClose_cons (ih (noClose_append_right inner)) (Or.inl new.1)

theorem lexFrom_block (inner : noClose body = true) :
    lexFrom after ('/' :: '*' :: (body ++ '*' :: '/' :: rest)) = lexFrom .other rest := by
  have reads : lexeme after '/' ('*' :: (body ++ '*' :: '/' :: rest)) =
      (none, .other, scanBlock (body ++ '*' :: '/' :: rest)) := rfl
  rw [lexFrom_cons, reads, scanBlock_noClose inner]
  rfl

theorem startsLine_cases {cs : List Char} (starts : startsLine c cs = true) :
    c = '#' ∨ c = '-' := by
  simp only [startsLine, Bool.or_eq_true, Bool.and_eq_true, beq_iff_eq] at starts
  rcases starts with hash | ⟨⟨dash, _⟩, _⟩
  · exact Or.inl hash
  · exact Or.inr dash

theorem lexeme_line {cs : List Char} (starts : startsLine c cs = true) :
    lexeme after c cs = (none, .other, scanLine cs) := by
  rcases startsLine_cases starts with rfl | rfl
  · rfl
  · have reads : lexeme after '-' cs = if startsLine '-' cs then (none, .other, scanLine cs)
        else (some (.punct '-'), .other, cs) := rfl
    rw [reads, if_pos starts]

theorem lexFrom_line {cs : List Char} (starts : startsLine c cs = true) :
    lexFrom after (c :: cs) = lexFrom .other (scanLine cs) := by
  rw [lexFrom_cons, lexeme_line starts]
  rfl

theorem scanLine_append (within : '\n' ∉ u) (v : List Char) : scanLine (u ++ v) = scanLine v := by
  apply List.dropWhile_append_of_pos
  intro x member
  rw [bne_iff_ne]
  rintro rfl
  exact within member

theorem lexFrom_lastLine {cs : List Char} (starts : startsLine c cs = true) (last : '\n' ∉ cs) :
    lexFrom after (c :: cs) = [] := by
  have all := scanLine_append last []
  rw [List.append_nil] at all
  rw [lexFrom_line starts, all]
  rfl

/-! ## White space -/

theorem lexFrom_spaces (spaces : w.all isSpace = true) (rest : List Char) :
    lexFrom .other (w ++ rest) = lexFrom .other rest := by
  induction w with
  | nil => rfl
  | cons c w ih =>
    rw [List.all_cons, Bool.and_eq_true] at spaces
    rw [List.cons_append, lexFrom_space spaces.1, ih spaces.2]

theorem lexFrom_blanks (some_char : w ≠ []) (spaces : w.all isSpace = true) (rest : List Char) :
    lexFrom after (w ++ rest) = lexFrom .other rest := by
  cases w with
  | nil => exact absurd rfl some_char
  | cons c w =>
    rw [List.all_cons, Bool.and_eq_true] at spaces
    rw [List.cons_append, lexFrom_space spaces.1, lexFrom_spaces spaces.2]

/-! ## Numbers -/

section

variable {ds es : List Char} {cs : List Char}

theorem isIdent_of_isDigit (digit : isDigit c = true) : isIdent c = true := by
  rw [isIdent, digit]
  rfl

theorem isIdent_of_eq_or {a b : Char} (first : isIdent a = true) (second : isIdent b = true)
    (either : (c == a || c == b) = true) : isIdent c = true := by
  rcases Bool.or_eq_true_iff.mp either with same | same
  · rw [eq_of_beq same]
    exact first
  · rw [eq_of_beq same]
    exact second

theorem scanRadix_eq_none (next : StartsOutside (fun x => x == 'x' || x == 'b') cs) :
    scanRadix (c :: cs) = none := by
  unfold scanRadix
  split
  · next x cs' same =>
    cases same
    have other : (x == 'x' || x == 'b') = false := next
    simp [other]
  · rfl

theorem scanExponent_eq_none (next : StartsOutside (fun x => x == 'e' || x == 'E') cs) :
    scanExponent cs = none := by
  unfold scanExponent
  split
  · next e d cs' =>
    have other : (e == 'e' || e == 'E') = false := next
    simp [other]
  · rfl

/-- A number of digits only has no letter behind its first digit. -/
theorem scanRadix_digits (some_char : ds ≠ []) (digits : ds.all isDigit = true)
    (next : StartsOutside (fun x => x == 'x' || x == 'b') rest) :
    scanRadix (ds ++ rest) = none := by
  cases ds with
  | nil => exact absurd rfl some_char
  | cons c ds =>
    apply scanRadix_eq_none
    cases ds with
    | nil => exact next
    | cons d ds =>
      simp only [List.all_cons, Bool.and_eq_true] at digits
      have digit := digits.2.1
      show (d == 'x' || d == 'b') = false
      rw [Bool.or_eq_false_iff, beq_eq_false_iff_ne, beq_eq_false_iff_ne]
      constructor
      · rintro rfl
        cases digit
      · rintro rfl
        cases digit

/-- What a text of digits up to `rest` is, if no point follows. -/
def scanSuffix (cs rest : List Char) : Option (List Char) :=
  match scanRadix cs with
  | some rest => some rest
  | none =>
    match scanExponent rest with
    | some rest => some rest
    | none => if rest.head?.any isIdent then none else some rest

theorem scanNumber_of_no_point (run : cs.dropWhile isDigit = rest)
    (no_point : StartsOutside (· == '.') rest) : scanNumber cs = scanSuffix cs rest := by
  obtain ⟨number, suffix⟩ : ∃ number, number = scanSuffix cs rest := ⟨_, rfl⟩
  rw [← suffix]
  unfold scanNumber
  rw [run]
  dsimp only
  split
  · cases no_point
  · rw [suffix]
    rfl

theorem scanNumber_int (some_char : ds ≠ []) (digits : ds.all isDigit = true)
    (next : StartsOutside (fun x => isIdent x || x == '.') rest) :
    scanNumber (ds ++ rest) = some rest := by
  have no_ident : StartsOutside isIdent rest := next.mono fun x ident => by rw [ident]; rfl
  have no_radix := scanRadix_digits some_char digits
    (no_ident.mono fun _ => isIdent_of_eq_or rfl rfl)
  have no_exponent := scanExponent_eq_none (no_ident.mono fun _ => isIdent_of_eq_or rfl rfl)
  have last : rest.head?.any isIdent = false := no_ident
  have run := dropWhile_append_of_startsOutside digits
    (no_ident.mono fun x => isIdent_of_isDigit)
  rw [scanNumber_of_no_point run (next.mono fun x point => by rw [point]; exact Bool.or_true _)]
  simp only [scanSuffix, no_radix, no_exponent, last, Bool.false_eq_true, if_false]

theorem scanFraction_digits (digits : es.all isDigit = true)
    (next : StartsOutside (fun x => isDigit x || (x == 'e' || x == 'E')) rest) :
    scanFraction (es ++ rest) = rest := by
  have no_digit : StartsOutside isDigit rest := next.mono fun x digit => by rw [digit]; rfl
  have no_exponent := scanExponent_eq_none
    (next.mono fun x letter => by rw [letter]; exact Bool.or_true _)
  rw [scanFraction, dropWhile_append_of_startsOutside digits no_digit]
  simp only [no_exponent, Option.getD_none]

theorem scanNumber_decimal (digits : ds.all isDigit = true) (places : es.all isDigit = true)
    (next : StartsOutside (fun x => isDigit x || (x == 'e' || x == 'E')) rest) :
    scanNumber (ds ++ '.' :: (es ++ rest)) = some rest := by
  have run := dropWhile_append_of_startsOutside (m := '.' :: (es ++ rest)) digits rfl
  unfold scanNumber
  rw [run]
  exact congrArg some (scanFraction_digits places next)

theorem scanNumber_exponent (some_char : ds ≠ []) (digits : ds.all isDigit = true)
    (letter : c = 'e' ∨ c = 'E') (some_char' : es ≠ []) (places : es.all isDigit = true)
    (next : StartsOutside isDigit rest) : scanNumber (ds ++ c :: (es ++ rest)) = some rest := by
  have no_digit : StartsOutside isDigit (c :: (es ++ rest)) := by
    rcases letter with rfl | rfl
    · rfl
    · rfl
  have no_point : StartsOutside (· == '.') (c :: (es ++ rest)) := by
    rcases letter with rfl | rfl
    · rfl
    · rfl
  have no_letter : StartsOutside (fun x => x == 'x' || x == 'b') (c :: (es ++ rest)) := by
    rcases letter with rfl | rfl
    · rfl
    · rfl
  have no_radix := scanRadix_digits some_char digits no_letter
  have is_exponent : (c == 'e' || c == 'E') = true := by
    rcases letter with rfl | rfl
    · rfl
    · rfl
  rw [scanNumber_of_no_point (dropWhile_append_of_startsOutside digits no_digit) no_point]
  cases es with
  | nil => exact absurd rfl some_char'
  | cons d es =>
    rw [List.all_cons, Bool.and_eq_true] at places
    rw [List.cons_append] at no_radix ⊢
    have end_ := dropWhile_append_of_startsOutside places.2 next
    simp only [scanSuffix, no_radix, scanExponent, is_exponent, places.1, if_true, end_]

/-- The digits of a hexadecimal or binary number, behind its letter. -/
def isPlace (x : Char) : Char → Bool :=
  if x == 'x' then isHexDigit else fun c => c == '0' || c == '1'

theorem isHexDigit_of_isPlace {x : Char} (place : isPlace x c = true) : isHexDigit c = true := by
  unfold isPlace at place
  split at place
  · exact place
  · rcases Bool.or_eq_true_iff.mp place with same | same
    · rw [eq_of_beq same]
      rfl
    · rw [eq_of_beq same]
      rfl

/-- The letters of hexadecimal digits are letters of their case. -/
theorem isHexDigit_cases (hex : isHexDigit c = true) :
    isDigit c = true ∨ ('a' ≤ c ∧ c ≤ 'z') ∨ ('A' ≤ c ∧ c ≤ 'Z') := by
  simp only [isHexDigit, Bool.or_eq_true, Bool.and_eq_true, decide_eq_true_eq] at hex
  rcases hex with (digit | ⟨low, high⟩) | ⟨low, high⟩
  · exact Or.inl digit
  · exact Or.inr (Or.inl ⟨low, Char.le_trans high (by decide)⟩)
  · exact Or.inr (Or.inr ⟨low, Char.le_trans high (by decide)⟩)

theorem isIdent_of_isPlace {x : Char} (place : isPlace x c = true) : isIdent c = true := by
  rcases isHexDigit_cases (isHexDigit_of_isPlace place) with digit | lower | upper
  · exact isIdent_of_isDigit digit
  · simp [isIdent, lower]
  · simp [isIdent, upper]

theorem scanRadix_eq (x : Char) (cs : List Char) : scanRadix ('0' :: x :: cs) =
    if (x == 'x' || x == 'b') && cs.head?.any (isPlace x) &&
      !(cs.dropWhile (isPlace x)).head?.any isIdent then some (cs.dropWhile (isPlace x))
    else none := rfl

theorem scanNumber_radix {x : Char} (letter : x = 'x' ∨ x = 'b') (some_char : es ≠ [])
    (places : es.all (isPlace x) = true) (next : StartsOutside isIdent rest) :
    scanNumber ('0' :: x :: (es ++ rest)) = some rest := by
  have is_radix : (x == 'x' || x == 'b') = true := by
    rcases letter with rfl | rfl
    · rfl
    · rfl
  have run : ('0' :: x :: (es ++ rest)).dropWhile isDigit = x :: (es ++ rest) := by
    rcases letter with rfl | rfl
    · rfl
    · rfl
  have no_point : StartsOutside (· == '.') (x :: (es ++ rest)) := by
    rcases letter with rfl | rfl
    · rfl
    · rfl
  have end_ := dropWhile_append_of_startsOutside places
    (next.mono fun _ => isIdent_of_isPlace)
  have last : rest.head?.any isIdent = false := next
  have first : (es ++ rest).head?.any (isPlace x) = true := by
    cases es with
    | nil => exact absurd rfl some_char
    | cons d es => exact (Bool.and_eq_true_iff.mp places).1
  rw [scanNumber_of_no_point run no_point]
  simp only [scanSuffix, scanRadix_eq, is_radix, first, end_, last, Bool.not_false, Bool.and_self,
    if_true]

theorem lexFrom_number (first : w.head?.any isDigit = true) (name : after ≠ .wordPoint)
    (scanned : scanNumber (w ++ rest) = some rest) :
    lexFrom after (w ++ rest) = .placeholder :: lexFrom .other rest := by
  cases w with
  | nil => cases first
  | cons c w =>
    have digit : isDigit c = true := first
    have number : (isDigit c && after != .wordPoint) = true := by
      rw [digit, Bool.true_and, bne_iff_ne]
      exact name
    rw [List.cons_append] at scanned ⊢
    rw [lexFrom_cons, lexeme_of_isIdent _ (isIdent_of_isDigit digit), lexWord, number]
    simp only [scanned, if_true]
    rfl

end

/-! ## Words and single characters -/

theorem lexFrom_name_run (some_char : w ≠ []) (ident : w.all isIdent = true)
    (name : StartsOutside isDigit w ∨ after = .wordPoint ∨ scanNumber (w ++ rest) = none)
    (next : StartsOutside isIdent rest) :
    lexFrom after (w ++ rest) = .word w :: lexFrom .word rest := by
  cases w with
  | nil => exact absurd rfl some_char
  | cons c w =>
    rw [List.all_cons, Bool.and_eq_true] at ident
    have word : lexeme after c (w ++ rest) = (some (.word (c :: (w ++ rest).takeWhile isIdent)),
        .word, (w ++ rest).dropWhile isIdent) := by
      rcases name with no_digit | point | no_number
      · exact lexeme_word _ ident.1 (Or.inl no_digit)
      · exact lexeme_word _ ident.1 (Or.inr point)
      · rw [List.cons_append] at no_number
        rw [lexeme_of_isIdent _ ident.1, lexWord]
        simp only [no_number, ite_self]
    rw [List.cons_append, lexFrom_cons, word, takeWhile_append_of_startsOutside ident.2 next,
      dropWhile_append_of_startsOutside ident.2 next]
    rfl

/-- Behind a word a point and a further word are a name of a name, whatever it starts with. -/
theorem lexFrom_member (some_char : w ≠ []) (ident : w.all isIdent = true)
    (next : StartsOutside isIdent rest) :
    lexFrom .word ('.' :: (w ++ rest)) = .punct '.' :: .word w :: lexFrom .word rest := by
  have first : (w ++ rest).head?.any isIdent = true := by
    cases w with
    | nil => exact absurd rfl some_char
    | cons c w => exact (Bool.and_eq_true_iff.mp ident).1
  have point : lexeme .word '.' (w ++ rest) = (some (.punct '.'), .wordPoint, w ++ rest) := by
    have reads : lexeme .word '.' (w ++ rest) = lexPoint .word (w ++ rest) := rfl
    rw [reads, lexPoint, first]
    rfl
  rw [lexFrom_cons, point, lexFrom_name_run some_char ident (Or.inr (Or.inl rfl)) next]
  rfl

theorem lexFrom_dot (no_name : after = .word → StartsOutside isIdent rest)
    (no_digit : StartsOutside isDigit rest) :
    lexFrom after ('.' :: rest) = .punct '.' :: lexFrom .other rest := by
  have reads : lexeme after '.' rest = lexPoint after rest := rfl
  have point : lexPoint after rest = (some (.punct '.'), .other, rest) := by
    have not_name : (after == .word && rest.head?.any isIdent) = false := by
      by_cases word : after = .word
      · have last : rest.head?.any isIdent = false := no_name word
        rw [last, Bool.and_false]
      · rw [beq_eq_false_iff_ne.mpr word, Bool.false_and]
    have last : rest.head?.any isDigit = false := no_digit
    simp only [lexPoint, not_name, last, Bool.false_eq_true, if_false]
  rw [lexFrom_cons, reads, point]
  rfl

/-- The characters that no region, word or number begins with, but a comment may. -/
def isMark (c : Char) : Bool :=
  !(isSpace c || isIdent c || c == '\'' || c == '"' || c == '\x60' || c == '.')

def markToken (c : Char) : Token := if c == '?' then .placeholder else .punct c

theorem lexFrom_mark (mark : isMark c = true) (no_line : startsLine c rest = false)
    (no_block : c = '/' → StartsOutside (· == '*') rest) :
    lexFrom after (c :: rest) = markToken c :: lexFrom .other rest := by
  have block : (c == '/' && rest.head? == some '*') = false := by
    by_cases slash : c = '/'
    · have other := no_block slash
      cases rest with
      | nil => rw [List.head?_nil]; exact Bool.and_false _
      | cons d rest =>
        have star : (d == '*') = false := other
        rw [List.head?_cons, Bool.and_eq_false_iff]
        right
        simpa using star
    · rw [beq_eq_false_iff_ne.mpr slash, Bool.false_and]
  simp only [isMark, Bool.not_eq_true', Bool.or_eq_false_iff] at mark
  obtain ⟨⟨⟨⟨⟨space, ident⟩, single⟩, double⟩, back⟩, point⟩ := mark
  have token : lexeme after c rest = (some (markToken c), .other, rest) := by
    unfold lexeme
    simp only [space, single, double, back, no_line, block, ident, point, Bool.or_self,
      Bool.false_eq_true, if_false, markToken]
    split
    · rfl
    · rfl
  rw [lexFrom_cons, token]
  rfl

/-! ## What follows a piece -/

/-- The first characters of the second text are those of the first, up to a `?`, a `;` or
white space; white space stands at the end of the first text or in place of its own. -/
inductive Seen : List Char → List Char → Prop where
  | nil : Seen [] []
  | keep {u v : List Char} (c : Char) (later : Seen u v) : Seen (c :: u) (c :: v)
  | mark {u v : List Char} {c : Char} (is_mark : c = '?' ∨ c = ';') : Seen u (c :: v)
  | space {u v : List Char} {c : Char} (new : isSpace c = true)
      (old : u.head?.all isSpace = true) : Seen u (c :: v)

theorem Seen.trans (first : Seen u v) (second : Seen v w) : Seen u w := by
  induction second generalizing u with
  | nil => exact first
  | keep c _ ih =>
    cases first with
    | keep _ later => exact .keep c (ih later)
    | mark is_mark => exact .mark is_mark
    | space new old => exact .space new old
  | mark is_mark => exact .mark is_mark
  | space new old =>
    apply Seen.space new
    cases first with
    | nil => rfl
    | keep c _ => exact old
    | mark is_mark =>
      rcases is_mark with rfl | rfl
      · cases old
      · cases old
    | space _ old' => exact old'

theorem Seen.of_replaced (parts : ∀ s, L s → s ≠ [] ∧
      (c = '?' ∨ isSpace c = true ∧ s.head?.all isSpace = true))
    (replaced : Replaced L c u v) : Seen u v := by
  induction replaced with
  | nil => exact .nil
  | keep x _ ih => exact .keep x ih
  | part s inL _ _ =>
    obtain ⟨some_char, mark | ⟨new, old⟩⟩ := parts s inL
    · exact .mark (Or.inl mark)
    · cases s with
      | nil => exact absurd rfl some_char
      | cons x s => exact .space new old

theorem Seen.append (tail : v.head?.all (fun c => c == ';' || isSpace c) = true) (u : List Char) :
    Seen u (u ++ v) := by
  induction u with
  | nil =>
    cases v with
    | nil => exact .nil
    | cons c v =>
      rcases Bool.or_eq_true_iff.mp tail with semicolon | space
      · exact .mark (Or.inr (eq_of_beq semicolon))
      · exact .space space rfl
  | cons c u ih => exact .keep c ih

theorem Seen.startsOutside {p : Char → Bool} (seen : Seen u v) (outside : StartsOutside p u)
    (marks : p '?' = false ∧ p ';' = false) (spaces : ∀ c, isSpace c = true → p c = false) :
    StartsOutside p v := by
  cases seen with
  | nil => rfl
  | keep c _ => exact outside
  | mark is_mark =>
    rcases is_mark with rfl | rfl
    · exact marks.1
    · exact marks.2
  | space new _ => exact spaces _ new

/-- No comment starts where none started. -/
theorem Seen.no_line (seen : Seen u v) (no_line : startsLine c u = false) :
    startsLine c v = false := by
  simp only [startsLine, Bool.or_eq_false_iff] at no_line ⊢
  refine ⟨no_line.1, ?_⟩
  by_cases dashes : c = '-' ∧ v.head? = some '-'
  · obtain ⟨rfl, first⟩ := dashes
    obtain ⟨v, rfl⟩ : ∃ v', v = '-' :: v' := by
      cases v with
      | nil => cases first
      | cons d v => exact ⟨v, by rw [Option.some.inj first]⟩
    cases seen with
    | mark is_mark => rcases is_mark with same | same <;> cases same
    | space new _ => cases new
    | @keep u _ _ later =>
      have stays : u.head?.all (fun d => isSpace d || isControl d) = false := no_line.2
      show v.head?.all (fun d => isSpace d || isControl d) = false
      cases later with
      | nil => exact stays
      | keep d _ => exact stays
      | mark is_mark =>
        rcases is_mark with rfl | rfl
        · rfl
        · rfl
      | space _ old =>
        cases u with
        | nil => cases stays
        | cons d u =>
          have space : isSpace d = true := old
          have other : (isSpace d || isControl d) = false := stays
          rw [space] at other
          cases other
  · by_cases dash : c = '-'
    · have other : (v.head? == some '-') = false :=
        beq_eq_false_iff_ne.mpr fun first => dashes ⟨dash, first⟩
      rw [other, Bool.and_false, Bool.false_and]
    · rw [beq_eq_false_iff_ne.mpr dash, Bool.false_and, Bool.false_and]

theorem scanRadix_append (next : StartsOutside isIdent u) (w : List Char) :
    scanRadix (w ++ u) = (scanRadix w).map (· ++ u) := by
  have no_letter : StartsOutside (fun x => x == 'x' || x == 'b') u :=
    next.mono fun _ => isIdent_of_eq_or rfl rfl
  match w with
  | [] =>
    cases u with
    | nil => rfl
    | cons c u =>
      have zero : c ≠ '0' := by
        rintro rfl
        cases next
      unfold scanRadix
      split
      · next same => exact absurd (List.cons.inj same).1 zero
      · rfl
  | [c] =>
    have alone : scanRadix [c] = none := by
      unfold scanRadix
      split
      · next same => cases same
      · rfl
    rw [alone]
    exact scanRadix_eq_none no_letter
  | c :: x :: cs =>
    by_cases zero : c = '0'
    · subst zero
      have no_place : StartsOutside (isPlace x) u := next.mono fun _ => isIdent_of_isPlace
      rw [List.cons_append, List.cons_append, scanRadix_eq, scanRadix_eq,
        dropWhile_append_outside no_place, any_head?_append no_place, any_head?_append next]
      split
      · rfl
      · rfl
    · have other : ∀ cs, scanRadix (c :: cs) = none := by
        intro cs
        unfold scanRadix
        split
        · next same => exact absurd (List.cons.inj same).1 zero
        · rfl
      rw [List.cons_append, other, other]
      rfl

theorem scanSuffix_eq_none_iff {cs : List Char} : scanSuffix cs rest = none ↔
    scanRadix cs = none ∧ scanExponent rest = none ∧ rest.head?.any isIdent = true := by
  unfold scanSuffix
  cases radix : scanRadix cs with
  | some _ => simp
  | none =>
    cases exponent : scanExponent rest with
    | some _ => simp
    | none => simp

theorem Seen.no_exponent (seen : Seen u v) (next : StartsOutside isIdent v)
    (ident : w.all isIdent = true) (nothing : scanExponent (c :: (w ++ u)) = none) :
    scanExponent (c :: (w ++ v)) = none := by
  by_cases letter : (c == 'e' || c == 'E') = true
  · cases w with
    | nil =>
      -- The sign and the digit of an exponent are both seen.
      cases v with
      | nil => rfl
      | cons d v =>
        have no_digit : isDigit d = false := by
          cases digit : isDigit d with
          | false => rfl
          | true => exact absurd (isIdent_of_isDigit digit) (by simpa [StartsOutside] using next)
        by_cases sign : (d == '+' || d == '-') = true ∧ v.head?.any isDigit = true
        · exfalso
          obtain ⟨sign, digit⟩ := sign
          cases seen with
          | mark is_mark =>
            rcases is_mark with rfl | rfl
            · cases sign
            · cases sign
          | space new _ =>
            rcases Bool.or_eq_true_iff.mp sign with same | same
            · rw [eq_of_beq same] at new
              cases new
            · rw [eq_of_beq same] at new
              cases new
          | @keep u _ _ later =>
            have digit' : u.head?.any isDigit = true := by
              cases later with
              | nil => exact digit
              | keep e _ => exact digit
              | mark is_mark =>
                rcases is_mark with rfl | rfl
                · cases digit
                · cases digit
              | space new _ =>
                have ident := isSpace_eq_false (isIdent_of_isDigit digit)
                rw [new] at ident
                cases ident
            simp [scanExponent, letter, no_digit, sign, digit'] at nothing
        · have no_sign : ((d == '+' || d == '-') && v.head?.any isDigit) = false := by
            rw [Bool.eq_false_iff]
            exact fun both => sign (Bool.and_eq_true_iff.mp both)
          simp only [List.nil_append, scanExponent, letter, no_digit, no_sign,
            Bool.false_eq_true, if_false, if_true]
    | cons d w =>
      rw [List.all_cons, Bool.and_eq_true] at ident
      have no_sign : (d == '+' || d == '-') = false := by
        rw [Bool.or_eq_false_iff, beq_eq_false_iff_ne, beq_eq_false_iff_ne]
        exact ⟨ne_of_isIdent ident.1 rfl, ne_of_isIdent ident.1 rfl⟩
      cases digit : isDigit d with
      | true => simp [scanExponent, letter, digit] at nothing
      | false => simp [scanExponent, digit, no_sign]
  · exact scanExponent_eq_none (Bool.eq_false_iff.mpr letter)

/-- A word that starts with digits and is no number stays none. -/
theorem Seen.no_number (seen : Seen u v) (ident : w.all isIdent = true)
    (letter : w.all isDigit = false) (next : StartsOutside isIdent u)
    (nothing : scanNumber (w ++ u) = none) : scanNumber (w ++ v) = none := by
  have next' : StartsOutside isIdent v :=
    seen.startsOutside next ⟨rfl, rfl⟩ fun c space => by
      cases ident : isIdent c with
      | false => rfl
      | true => rw [isSpace_eq_false ident] at space; cases space
  obtain ⟨c, w', run⟩ : ∃ c w', w.dropWhile isDigit = c :: w' := by
    cases run : w.dropWhile isDigit with
    | nil =>
      rw [List.dropWhile_eq_nil_iff] at run
      rw [List.all_eq_true.mpr run] at letter
      cases letter
    | cons c w' => exact ⟨c, w', rfl⟩
  have part : c :: w' <:+ w := run ▸ List.dropWhile_suffix isDigit
  have ⟨first, others⟩ := List.forall_mem_cons.mp fun x member =>
    List.all_eq_true.mp ident x (part.subset member)
  have suffix : ∀ t, StartsOutside isIdent t →
      scanNumber (w ++ t) = scanSuffix (w ++ t) (c :: (w' ++ t)) := by
    intro t outside
    apply scanNumber_of_no_point
    · rw [dropWhile_append_outside (outside.mono fun _ => isIdent_of_isDigit), run]
      rfl
    · exact beq_eq_false_iff_ne.mpr (ne_of_isIdent first rfl)
  rw [suffix u next, scanSuffix_eq_none_iff, scanRadix_append next,
    Option.map_eq_none_iff] at nothing
  rw [suffix v next', scanSuffix_eq_none_iff, scanRadix_append next', Option.map_eq_none_iff]
  exact ⟨nothing.1, seen.no_exponent next' (List.all_eq_true.mpr others) nothing.2.1, first⟩

end MysqlRedshift.Misc.MysqlLexer
