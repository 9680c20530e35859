import MysqlRedshift.Proxy.Passes

/-!
# Texts that the passes leave alone

The three replacements of `normalize` know nothing of strings, names and comments. A text
made of pieces that they keep, or make others of the same tokens, has the tokens of its
normalised text, and the semicolons that were cut off are tokens behind it.
-/

namespace MysqlRedshift.Proxy.Cache

open MysqlRedshift.Misc
open MysqlRedshift.Misc.MysqlLexer (After Token Seen inside noClose isSpace isIdent isPlace
  isMark markToken startsLine scanNumber scanLine lexFrom isControl)

variable {a a' : After} {w rest rest' s : List Char} {toks : List Token} {c : Char}

/-! ## Pieces that the passes keep apart -/

/-- `w` is a piece of a text that goes on with `rest`, with its tokens: one that the passes
keep or make another of the same tokens. Regions of strings in single quotes, white space
and comments to the end of the text are left to `Pieces`. -/
inductive Piece : After → List Char → List Char → List Token → After → Prop where
  /-- A string in double quotes; what becomes of numbers and blanks in it is no matter. -/
  | dquoted {a : After} {body rest : List Char} (closed : inside true '"' .plain body = true)
      (next : StartsOutside (· == '"') rest) :
      Piece a ('"' :: (body ++ ['"'])) rest [.placeholder] .other
  /-- A name in backquotes, without a number and with single blanks only. -/
  | name {a : After} {body rest : List Char} (closed : inside false '\x60' .plain body = true)
      (free : numberFree false body = true) (single : singleBlanks body = true)
      (next : StartsOutside (· == '\x60') rest) :
      Piece a ('\x60' :: (body ++ ['\x60'])) rest [.quoted body] .other
  /-- A comment with an end. -/
  | block {a : After} {body rest : List Char} (inner : noClose body = true) :
      Piece a ('/' :: '*' :: (body ++ ['*', '/'])) rest [] .other
  /-- A word, none of whose runs of word characters is made of digits. -/
  | word {a : After} {w rest : List Char} (some_char : w ≠ []) (ident : w.all isIdent = true)
      (free : numberFree false w = true)
      (name : StartsOutside isDigit w ∨ scanNumber (w ++ rest) = none)
      (next : StartsOutside isIdent rest) : Piece a w rest [.word w] .word
  /-- A name behind the point of another, which may start with digits. -/
  | member {w rest : List Char} (some_char : w ≠ []) (ident : w.all isIdent = true)
      (free : numberFree false w = true) (next : StartsOutside isIdent rest) :
      Piece .word ('.' :: w) rest [.punct '.', .word w] .word
  | int {a : After} {ds rest : List Char} (name : a ≠ .wordPoint) (some_char : ds ≠ [])
      (digits : ds.all isDigit = true)
      (next : StartsOutside (fun c => isIdent c || c == '.') rest) :
      Piece a ds rest [.placeholder] .other
  | decimal {a : After} {ds es rest : List Char} (name : a ≠ .wordPoint) (some_char : ds ≠ [])
      (digits : ds.all isDigit = true) (some_char' : es ≠ []) (places : es.all isDigit = true)
      (next : StartsOutside isWord rest) :
      Piece a (ds ++ '.' :: es) rest [.placeholder] .other
  /-- An exponent without a sign; such numbers are kept. -/
  | exponent {a : After} {ds es rest : List Char} {c : Char} (name : a ≠ .wordPoint)
      (some_char : ds ≠ []) (digits : ds.all isDigit = true) (letter : c = 'e' ∨ c = 'E')
      (some_char' : es ≠ []) (places : es.all isDigit = true)
      (next : StartsOutside isDigit rest) :
      Piece a (ds ++ c :: es) rest [.placeholder] .other
  /-- A hexadecimal or binary number. -/
  | radix {a : After} {es rest : List Char} {c : Char} (name : a ≠ .wordPoint)
      (letter : c = 'x' ∨ c = 'b') (some_char : es ≠ []) (places : es.all (isPlace c) = true)
      (next : StartsOutside isIdent rest) :
      Piece a ('0' :: c :: es) rest [.placeholder] .other
  /-- A point that begins neither a name nor a number. -/
  | dot {a : After} {rest : List Char} (no_name : a = .word → StartsOutside isIdent rest)
      (no_digit : StartsOutside isDigit rest) : Piece a ['.'] rest [.punct '.'] .other
  | mark {a : After} {rest : List Char} {c : Char} (mark : isMark c = true)
      (no_line : startsLine c rest = false) (no_block : c = '/' → StartsOutside (· == '*') rest) :
      Piece a [c] rest [markToken c] .other

/-- A text, behind what `after` says, that the passes do not change the tokens of. Single
quotes are those of strings, or one is alone and no other follows it. -/
inductive Pieces : After → List Char → Prop where
  | done {a : After} : Pieces a []
  /-- A comment to the end of the text. -/
  | hash {a : After} {cs : List Char} (last : '\n' ∉ cs) (lone : Lone cs []) :
      Pieces a ('#' :: cs)
  | dashes {a : After} {c : Char} {cs : List Char} (blank : (isSpace c || isControl c) = true)
      (last : '\n' ∉ c :: cs) (lone : Lone (c :: cs) []) : Pieces a ('-' :: '-' :: c :: cs)
  | space {a : After} {w rest : List Char} (some_char : w ≠ []) (spaces : w.all isSpace = true)
      (next : StartsOutside isSpace rest) (later : Pieces .other rest) : Pieces a (w ++ rest)
  /-- A string that ends at the same quote whether backslashes count or not. -/
  | string {a : After} {body rest : List Char} (closed : inside true '\'' .plain body = true)
      (closed' : inside false '\'' .plain body = true) (next : StartsOutside (· == '\'') rest)
      (later : Pieces .other rest) : Pieces a ('\'' :: (body ++ '\'' :: rest))
  | piece {a a' : After} {w rest : List Char} {toks : List Token}
      (piece : Piece a w rest toks a') (lone : Lone w rest) (later : Pieces a' rest) :
      Pieces a (w ++ rest)

theorem isWord_of_digit_or_e (either : (isDigit c || (c == 'e' || c == 'E')) = true) :
    isWord c = true := by
  rcases Bool.or_eq_true_iff.mp either with digit | letter
  · exact isWord_of_isDigit digit
  · rcases Bool.or_eq_true_iff.mp letter with same | same
    · rw [eq_of_beq same]
      rfl
    · rw [eq_of_beq same]
      rfl

/-- What the passes put in place of literals. -/
theorem Piece.placeholder : Piece a ['?'] rest [.placeholder] .other :=
  .mark rfl rfl fun slash => absurd slash (by decide)

theorem Piece.lex (piece : Piece a w rest toks a') :
    lexFrom a (w ++ rest) = toks ++ lexFrom a' rest := by
  cases piece with
  | dquoted closed next =>
    simpa using MysqlLexer.lexFrom_string (Or.inr rfl) closed next
  | name closed free single next =>
    simpa using MysqlLexer.lexFrom_name closed next
  | block inner =>
    simpa using MysqlLexer.lexFrom_block inner
  | word some_char ident free name next =>
    exact MysqlLexer.lexFrom_name_run some_char ident (name.imp_right Or.inr) next
  | member some_char ident free next => exact MysqlLexer.lexFrom_member some_char ident next
  | int name some_char digits next =>
    have first : w.head?.any isDigit = true := by
      simpa using any_head?_of_all some_char digits []
    exact MysqlLexer.lexFrom_number first name (MysqlLexer.scanNumber_int some_char digits next)
  | decimal name some_char digits some_char' places next =>
    refine MysqlLexer.lexFrom_number (any_head?_of_all some_char digits _) name ?_
    rw [List.append_assoc]
    exact MysqlLexer.scanNumber_decimal digits places (next.mono fun _ => isWord_of_digit_or_e)
  | exponent name some_char digits letter some_char' places next =>
    refine MysqlLexer.lexFrom_number (any_head?_of_all some_char digits _) name ?_
    rw [List.append_assoc]
    exact MysqlLexer.scanNumber_exponent some_char digits letter some_char' places next
  | radix name letter some_char places next =>
    exact MysqlLexer.lexFrom_number rfl name
      (MysqlLexer.scanNumber_radix letter some_char places next)
  | dot no_name no_digit => exact MysqlLexer.lexFrom_dot no_name no_digit
  | mark mark no_line no_block => exact MysqlLexer.lexFrom_mark mark no_line no_block

theorem ne_of_isSpace {d : Char} (space : isSpace c = true) (other : isSpace d = false) :
    (c == d) = false := by
  rw [beq_eq_false_iff_ne]
  rintro rfl
  rw [space] at other
  cases other

/-- White space belongs to no class of characters of words. -/
theorem outside_of_isSpace {p : Char → Bool} (ident : ∀ c, p c = true → isIdent c = true)
    (space : isSpace c = true) : p c = false := by
  rw [Bool.eq_false_iff]
  intro inside
  rw [MysqlLexer.isSpace_eq_false (ident c inside)] at space
  cases space

theorem isIdent_of_isWord (word : isWord c = true) : isIdent c = true := by
  simp only [isWord, Bool.or_eq_true] at word
  rcases word with ((digit | lower) | upper) | line
  · exact MysqlLexer.isIdent_of_isDigit digit
  · simp only [isIdent, lower, Bool.or_true, Bool.true_or]
  · simp only [isIdent, upper, Bool.or_true, Bool.true_or]
  · simp only [isIdent, line, Bool.or_true, Bool.true_or]

theorem letter_of_numberFree (some_char : w ≠ []) (free : numberFree false w = true) :
    w.all isDigit = false := by
  rw [Bool.eq_false_iff]
  intro digits
  cases w with
  | nil => exact some_char rfl
  | cons x w =>
    rw [List.all_cons, Bool.and_eq_true] at digits
    have run : w.dropWhile isDigit = [] :=
      List.dropWhile_eq_nil_iff.mpr (List.all_eq_true.mp digits.2)
    rw [numberFree, run, digits.1] at free
    cases free

/-- A piece stays one when a reader sees no more behind it. -/
theorem Piece.seen (piece : Piece a w rest toks a') (seen : Seen rest rest') :
    Piece a w rest' toks a' := by
  have ident : StartsOutside isIdent rest → StartsOutside isIdent rest' :=
    fun next => seen.startsOutside next ⟨rfl, rfl⟩ fun _ => outside_of_isSpace fun _ => id
  have digit : StartsOutside isDigit rest → StartsOutside isDigit rest' :=
    fun next => seen.startsOutside next ⟨rfl, rfl⟩ fun _ =>
      outside_of_isSpace fun _ => MysqlLexer.isIdent_of_isDigit
  cases piece with
  | dquoted closed next =>
    exact .dquoted closed
      (seen.startsOutside next ⟨rfl, rfl⟩ fun _ space => ne_of_isSpace space rfl)
  | name closed free single next =>
    exact .name closed free single
      (seen.startsOutside next ⟨rfl, rfl⟩ fun _ space => ne_of_isSpace space rfl)
  | block inner => exact .block inner
  | word some_char all free name next =>
    refine .word some_char all free ?_ (ident next)
    rcases name with no_digit | no_number
    · exact Or.inl no_digit
    · exact Or.inr (seen.no_number all (letter_of_numberFree some_char free) next no_number)
  | member some_char all free next => exact .member some_char all free (ident next)
  | int name some_char digits next =>
    refine .int name some_char digits (seen.startsOutside next ⟨rfl, rfl⟩ fun c space => ?_)
    rw [outside_of_isSpace (fun _ => id) space, ne_of_isSpace space rfl]
    rfl
  | decimal name some_char digits some_char' places next =>
    exact .decimal name some_char digits some_char' places
      (seen.startsOutside next ⟨rfl, rfl⟩ fun _ => outside_of_isSpace fun _ => isIdent_of_isWord)
  | exponent name some_char digits letter some_char' places next =>
    exact .exponent name some_char digits letter some_char' places (digit next)
  | radix name letter some_char places next =>
    exact .radix name letter some_char places (ident next)
  | dot no_name no_digit => exact .dot (fun word => ident (no_name word)) (digit no_digit)
  | mark mark no_line no_block =>
    refine .mark mark (seen.no_line no_line) fun slash => ?_
    exact seen.startsOutside (no_block slash) ⟨rfl, rfl⟩ fun _ space => ne_of_isSpace space rfl

theorem isWord_of_isPlace {d : Char} (place : isPlace d c = true) : isWord c = true := by
  rcases MysqlLexer.isHexDigit_cases (MysqlLexer.isHexDigit_of_isPlace place) with
    digit | lower | upper
  · exact isWord_of_isDigit digit
  · simp [isWord, lower]
  · simp [isWord, upper]

theorem not_isBlank_of_isIdent (ident : isIdent c = true) : isBlank c = false :=
  outside_mono (fun _ => isSpace_of_isBlank) (MysqlLexer.isSpace_eq_false ident)

theorem not_isBlank_of_word (all : w.all isIdent = true) : ∀ x ∈ w, isBlank x = false :=
  fun x member => not_isBlank_of_isIdent (List.all_eq_true.mp all x member)

theorem all_isIdent_of_word (all : w.all isWord = true) : w.all isIdent = true := by
  rw [List.all_eq_true] at all ⊢
  exact fun x member => isIdent_of_isWord (all x member)

section

variable {p b r : List Char}

/-- A piece without numbers whose white space is kept is kept. -/
theorem Piece.kept (piece : Piece a w rest toks a') (lone : Lone w rest)
    (free : numberFree false w = true)
    (spacing : ∀ r rest, blanks r (w ++ rest) = w ++ blanks (w.reverse ++ r) rest)
    (next : StartsOutside isDigit rest ∨ StartsOutside isWord (w.reverse ++ b)) :
    ∃ w' p' b' r', (∀ rest', Seen rest rest' → Piece a w' rest' toks a') ∧
      (StartsOutside isDigit rest ∨ StartsOutside isWord b') ∧
      passes p b r (w ++ rest) = w' ++ passes p' b' r' rest :=
  ⟨w, _, _, _, fun _ => piece.seen, next, passes_kept lone free spacing⟩

/-- A piece of characters of words that holds no number is kept. -/
theorem Piece.kept_word (piece : Piece a w rest toks a') (lone : Lone w rest)
    (free : numberFree false w = true) (all : w.all isIdent = true)
    (next : StartsOutside isDigit rest) :
    ∃ w' p' b' r', (∀ rest', Seen rest rest' → Piece a w' rest' toks a') ∧
      (StartsOutside isDigit rest ∨ StartsOutside isWord b') ∧
      passes p b r (w ++ rest) = w' ++ passes p' b' r' rest :=
  piece.kept lone free (fun _ => blanks_outside (not_isBlank_of_word all)) (Or.inl next)

/-- The blanks of a quoted name are kept where each of them stands alone. -/
theorem blanks_name {body : List Char} (single : singleBlanks body = true) (r rest : List Char) :
    blanks r ('\x60' :: (body ++ ['\x60']) ++ rest) =
      '\x60' :: (body ++ ['\x60']) ++
        blanks (('\x60' :: (body ++ ['\x60'])).reverse ++ r) rest := by
  have behind : StartsOutside isBlank (['\x60'] ++ rest) := rfl
  have front : ∀ x ∈ ['\x60'], isBlank x = false := by simp [isBlank]
  have spell : '\x60' :: (body ++ ['\x60']) ++ rest =
      ['\x60'] ++ (body ++ (['\x60'] ++ rest)) := by
    simp
  rw [spell, blanks_outside front, blanks_single single behind, blanks_outside front]
  simp only [List.append_assoc, List.cons_append, List.nil_append, List.reverse_cons,
    List.reverse_append, List.reverse_nil]

/-- Digits at a fresh place are behind no word. -/
theorem outside_of_fresh {ds t : List Char} (some_char : ds ≠ []) (digits : ds.all isDigit = true)
    (fresh : StartsOutside isDigit (ds ++ t) ∨ StartsOutside isWord b) : StartsOutside isWord b :=
  fresh.resolve_left fun no_digit =>
    Bool.false_ne_true (no_digit.symm.trans (any_head?_of_all some_char digits t))

/-- The passes make a piece one of the same tokens and go on behind it. -/
theorem Piece.passes (piece : Piece a w rest toks a') (lone : Lone w rest)
    (fresh : StartsOutside isDigit w ∨ StartsOutside isWord b) :
    ∃ w' p' b' r', (∀ rest', Seen rest rest' → Piece a w' rest' toks a') ∧
      (StartsOutside isDigit rest ∨ StartsOutside isWord b') ∧
      passes p b r (w ++ rest) = w' ++ passes p' b' r' rest := by
  cases id piece with
  | @dquoted _ body _ closed next =>
    obtain ⟨u, v, numerals, runs, r', whole⟩ := passes_region (p := p) (b := b) (r := r)
      (o := ['"']) (e := ['"']) rfl (List.cons_ne_nil _ _) rfl lone
    have closed' := inside_passes numerals runs (by decide) closed
    refine ⟨'"' :: (v ++ ['"']), _, _, r', fun _ => (Piece.dquoted closed' next).seen,
      Or.inr ?_, whole⟩
    rw [List.singleton_append, List.reverse_cons, List.reverse_append]
    rfl
  | @name _ body _ closed free single next =>
    have no_number : numberFree false ('\x60' :: (body ++ ['\x60'])) = true :=
      numberFree_append (u := ['\x60']) rfl (numberFree_append free rfl)
    have last : StartsOutside isWord (('\x60' :: (body ++ ['\x60'])).reverse ++ b) := by
      rw [List.reverse_cons, List.reverse_append]
      rfl
    exact piece.kept lone no_number (blanks_name single) (Or.inr last)
  | @block _ body _ inner =>
    obtain ⟨u, v, numerals, runs, r', whole⟩ := passes_region (p := p) (b := b) (r := r)
      (o := ['/', '*']) (e := ['*', '/']) rfl (List.cons_ne_nil _ _) rfl lone
    have inner' := MysqlLexer.noClose_replaced (by decide) runs
      (MysqlLexer.noClose_replaced (by decide) numerals inner)
    refine ⟨'/' :: '*' :: (v ++ ['*', '/']), _, _, r', fun _ _ => .block inner', Or.inr ?_, whole⟩
    rw [List.reverse_append, List.reverse_append]
    rfl
  | word some_char all free name next =>
    exact piece.kept_word lone free all (next.mono fun _ => MysqlLexer.isIdent_of_isDigit)
  | member some_char all free next =>
    have no_number : numberFree false ('.' :: _) = true := numberFree_append (u := ['.']) rfl free
    refine piece.kept lone no_number (fun _ => blanks_outside ?_) (Or.inl ?_)
    · exact List.forall_mem_cons.mpr ⟨rfl, not_isBlank_of_word all⟩
    · exact next.mono fun _ => MysqlLexer.isIdent_of_isDigit
  | int name some_char digits next =>
    rw [← List.append_nil w] at fresh
    have outside := outside_of_fresh some_char digits fresh
    refine ⟨['?'], _, _, _, fun _ _ => .placeholder, Or.inl ?_,
      passes_number lone fun t seen => ?_⟩
    · exact next.mono fun c digit => by rw [MysqlLexer.isIdent_of_isDigit digit]; rfl
    · apply numbers_int outside some_char digits
      have next' : StartsOutside (fun c => isWord c || c == '.') rest :=
        next.mono fun c either => by
          rcases Bool.or_eq_true_iff.mp either with word | point
          · rw [isIdent_of_isWord word]
            rfl
          · rw [point, Bool.or_true]
      refine seen.startsOutside next' ⟨rfl, rfl⟩ fun c space => ?_
      rw [outside_of_isSpace (fun _ => isIdent_of_isWord) space, ne_of_isSpace space rfl]
      rfl
  | @decimal _ ds es _ name some_char digits some_char' places next =>
    have outside := outside_of_fresh some_char digits fresh
    refine ⟨['?'], _, _, _, fun _ _ => .placeholder, Or.inl ?_,
      passes_number lone fun t seen => ?_⟩
    · exact next.mono fun _ => isWord_of_isDigit
    · rw [List.append_assoc]
      exact numbers_decimal outside some_char digits some_char' places
        (seen.startsOutside next ⟨rfl, rfl⟩ fun _ => outside_of_isSpace fun _ => isIdent_of_isWord)
  | @exponent _ ds es _ c name some_char digits letter some_char' places next =>
    have is_letter : isWord c = true ∧ isDigit c = false := by
      rcases letter with rfl | rfl
      · exact ⟨rfl, rfl⟩
      · exact ⟨rfl, rfl⟩
    have word : (ds ++ c :: es).all isWord = true := by
      rw [List.all_append, List.all_cons, all_isWord_of_digits digits, is_letter.1,
        all_isWord_of_digits places]
      rfl
    have free := numberFree_digits digits is_letter (all_isWord_of_digits places)
    exact piece.kept_word lone free (all_isIdent_of_word word) next
  | @radix _ es _ c name letter some_char places next =>
    have is_letter : isWord c = true ∧ isDigit c = false := by
      rcases letter with rfl | rfl
      · exact ⟨rfl, rfl⟩
      · exact ⟨rfl, rfl⟩
    have word : es.all isWord = true := by
      rw [List.all_eq_true] at places ⊢
      exact fun x member => isWord_of_isPlace (places x member)
    have zero : ['0'].all isDigit = true := rfl
    have free := numberFree_digits zero is_letter word
    have all : ('0' :: c :: es).all isWord = true := by
      rw [List.all_cons, List.all_cons, is_letter.1, word]
      rfl
    exact piece.kept_word lone free (all_isIdent_of_word all)
      (next.mono fun _ => MysqlLexer.isIdent_of_isDigit)
  | dot no_name no_digit =>
    refine piece.kept lone rfl (fun _ => blanks_outside ?_) (Or.inl no_digit)
    exact List.forall_mem_singleton.mpr rfl
  | @mark _ _ c mark no_line no_block =>
    simp only [isMark, Bool.not_eq_true', Bool.or_eq_false_iff] at mark
    have no_word : isWord c = false := outside_mono (fun _ => isIdent_of_isWord) mark.1.1.1.1.2
    have no_digit : isDigit c = false := outside_mono (fun _ => isWord_of_isDigit) no_word
    have no_blank : isBlank c = false := outside_mono (fun _ => isSpace_of_isBlank) mark.1.1.1.1.1
    refine piece.kept lone (numberFree_of_no_digit false (List.forall_mem_singleton.mpr no_digit))
      (fun _ => blanks_outside (List.forall_mem_singleton.mpr no_blank)) (Or.inr no_word)

/-- A text whose quotes are all alone loses its numbers and its spacing, nothing else. -/
theorem passes_lone (lone : Lone s []) (p b r : List Char) :
    ∃ u, Replaced IsNumeral '?' s u ∧ Replaced IsRun ' ' u (passes p b r s) := by
  have kept : strings p s = s := by
    have whole : strings p (s ++ []) = s ++ [] := strings_lone lone
    rwa [List.append_nil] at whole
  refine ⟨numbers b s, replaced_numbers b s, ?_⟩
  rw [passes, kept]
  exact replaced_blanks r _

theorem not_mem_newline {u v : List Char} (numerals : Replaced IsNumeral '?' s u)
    (runs : Replaced IsRun ' ' u v) (last : '\n' ∉ s) : '\n' ∉ v := by
  intro member
  rcases runs.mem member with old | same
  · rcases numerals.mem old with old | same
    · exact last old
    · cases same
  · cases same

theorem not_control_of_isDigit (digit : isDigit c = true) :
    (isSpace c || isControl c) = false := by
  have no_space := MysqlLexer.isSpace_eq_false (MysqlLexer.isIdent_of_isDigit digit)
  have ⟨low, high⟩ := Bool.and_eq_true_iff.mp digit
  have low : 48 ≤ c.toNat := of_decide_eq_true low
  have high : c.toNat ≤ 57 := of_decide_eq_true high
  rw [no_space, Bool.false_or, isControl, Bool.or_eq_false_iff, decide_eq_false_iff_not,
    beq_eq_false_iff_ne]
  omega

theorem lexFrom_passes_hash {cs : List Char} (last : '\n' ∉ cs) (lone : Lone cs []) :
    lexFrom a (passes p b r ('#' :: cs)) = [] := by
  have whole : passes p b r (['#'] ++ cs) = ['#'] ++ passes _ _ _ cs :=
    passes_plain (by decide) (List.forall_mem_singleton.mpr rfl) (List.forall_mem_singleton.mpr rfl)
  obtain ⟨u, numerals, runs⟩ := passes_lone lone (['#'].reverse ++ p) (['#'].reverse ++ b)
    (['#'].reverse ++ r)
  rw [List.singleton_append] at whole
  rw [whole]
  exact MysqlLexer.lexFrom_lastLine rfl (not_mem_newline numerals runs last)

/-- The blank that makes a comment of two hyphens stays a blank. -/
theorem lexFrom_passes_dashes {cs : List Char} (blank : (isSpace c || isControl c) = true)
    (last : '\n' ∉ c :: cs) (lone : Lone (c :: cs) []) :
    lexFrom a (passes p b r ('-' :: '-' :: c :: cs)) = [] := by
  have whole : passes p b r (['-', '-'] ++ c :: cs) = ['-', '-'] ++ passes _ _ _ (c :: cs) :=
    passes_plain (by decide) (List.forall_mem_cons.mpr ⟨rfl, List.forall_mem_singleton.mpr rfl⟩)
      (List.forall_mem_cons.mpr ⟨rfl, List.forall_mem_singleton.mpr rfl⟩)
  obtain ⟨u, numerals, runs⟩ := passes_lone lone (['-', '-'].reverse ++ p)
    (['-', '-'].reverse ++ b) (['-', '-'].reverse ++ r)
  generalize passes (['-', '-'].reverse ++ p) (['-', '-'].reverse ++ b) (['-', '-'].reverse ++ r)
    (c :: cs) = v at whole runs
  have starts : startsLine '-' ('-' :: v) = true := by
    show v.head?.all (fun d => isSpace d || isControl d) = true
    rcases numerals.cons_cases with ⟨u', rfl, _⟩ | ⟨t, _, _, split, numeral, _⟩
    · rcases runs.cons_cases with ⟨v', rfl, _⟩ | ⟨_, _, v', _, _, rfl, _⟩
      · exact blank
      · rfl
    · have digit : isDigit c = true := by
        cases t with
        | nil => exact absurd rfl (isNumeral_ne_nil numeral)
        | cons x t =>
          obtain ⟨rfl, _⟩ := List.cons.inj split
          exact numeral.1
      rw [not_control_of_isDigit digit] at blank
      cases blank
  have newline : '\n' ∉ '-' :: v := by
    intro member
    rcases List.mem_cons.mp member with same | later
    · cases same
    · exact not_mem_newline numerals runs last later
  show lexFrom a (passes p b r (['-', '-'] ++ c :: cs)) = []
  rw [whole]
  exact MysqlLexer.lexFrom_lastLine starts newline

/-- White space stays white space. -/
theorem passes_space (some_char : w ≠ []) (spaces : w.all isSpace = true)
    (next : StartsOutside isSpace rest) (p b r : List Char) :
    ∃ w' r', w' ≠ [] ∧ w'.all isSpace = true ∧ passes p b r (w ++ rest) =
      w' ++ passes (w.reverse ++ p) (w.reverse ++ b) r' rest := by
  have inside := List.all_eq_true.mp spaces
  have no_quote : '\'' ∉ w := fun member => by cases inside _ member
  have no_digit : ∀ x ∈ w, isDigit x = false := fun x member =>
    outside_of_isSpace (fun _ => MysqlLexer.isIdent_of_isDigit) (inside x member)
  have no_blank : StartsOutside isBlank rest := next.mono fun _ => isSpace_of_isBlank
  have no_blank' := startsOutside_strings no_blank rfl (w.reverse ++ p)
  have no_blank'' := startsOutside_numbers no_blank' rfl (w.reverse ++ b)
  obtain ⟨w', runs, whole⟩ := blanks_region r w no_blank''
  refine ⟨w', w.reverse ++ r, ?_, runs.all spaces rfl, ?_⟩
  · rintro rfl
    cases w with
    | nil => exact some_char rfl
    | cons x w =>
      rcases runs.cons_cases with ⟨_, same, _⟩ | ⟨_, _, _, _, _, same, _⟩
      · cases same
      · cases same
  · rw [passes, strings_outside no_quote, numbers_free (numberFree_of_no_digit _ no_digit), whole]
    rfl

theorem passes_string {body : List Char} (closed : inside false '\'' .plain body = true)
    (next : StartsOutside (· == '\'') rest) (p b r : List Char) :
    ∃ p', passes p b r ('\'' :: (body ++ '\'' :: rest)) =
      '?' :: passes p' ('?' :: b) ('?' :: r) rest := by
  have number : ∀ t, numbers b (['?'] ++ t) = ['?'] ++ numbers ('?' :: b) t :=
    numbers_free (numberFree_of_no_digit _ (List.forall_mem_singleton.mpr rfl))
  have blank : ∀ t, blanks r (['?'] ++ t) = ['?'] ++ blanks ('?' :: r) t :=
    blanks_outside (List.forall_mem_singleton.mpr rfl)
  refine ⟨('\'' :: (body ++ ['\''])).reverse ++ p, ?_⟩
  rw [passes, strings_literal closed next]
  exact (congrArg (blanks r) (number _)).trans (blank _)

/-- The passes change no token of a text of such pieces. -/
theorem Pieces.lexFrom_passes (pieces : Pieces a s)
    (fresh : StartsOutside isDigit s ∨ StartsOutside isWord b) :
    lexFrom a (passes p b r s) = lexFrom a s := by
  induction pieces generalizing p b r with
  | done => rfl
  | hash last lone =>
    rw [lexFrom_passes_hash last lone, MysqlLexer.lexFrom_lastLine rfl last]
  | @dashes a c cs blank last lone =>
    have starts : startsLine '-' ('-' :: c :: cs) = true := blank
    have newline : '\n' ∉ '-' :: c :: cs := by simpa using last
    rw [lexFrom_passes_dashes blank last lone, MysqlLexer.lexFrom_lastLine starts newline]
  | @space a w rest some_char spaces next later ih =>
    obtain ⟨w', r', some_char', spaces', whole⟩ := passes_space some_char spaces next p b r
    have behind : StartsOutside isWord (w.reverse ++ b) :=
      startsOutside_of_all (mt List.reverse_eq_nil_iff.mp some_char)
        (List.all_reverse.trans spaces) (fun _ => outside_of_isSpace fun _ => isIdent_of_isWord) b
    rw [whole, MysqlLexer.lexFrom_blanks some_char' spaces', ih (Or.inr behind),
      MysqlLexer.lexFrom_blanks some_char spaces]
  | @string a body rest closed closed' next later ih =>
    obtain ⟨p', whole⟩ := passes_string closed' next p b r
    have mark : lexFrom a ('?' :: passes p' ('?' :: b) ('?' :: r) rest) =
        .placeholder :: lexFrom .other (passes p' ('?' :: b) ('?' :: r) rest) :=
      Piece.placeholder.lex
    have behind : StartsOutside isWord ('?' :: b) := rfl
    rw [whole, mark, ih (Or.inr behind), MysqlLexer.lexFrom_string (Or.inl rfl) closed next]
  | @piece a a' w rest toks piece lone later ih =>
    obtain ⟨w', p', b', r', read, fresh', whole⟩ :=
      piece.passes lone (fresh.imp_left startsOutside_of_append)
    rw [whole, (read _ (seen_passes p' b' r' rest)).lex, ih fresh', piece.lex]

end

/-! ## What follows a text -/

/-- A text that begins with a semicolon or white space follows such pieces as it stands,
unless a comment takes it. -/
theorem Pieces.lexFrom_append {t : List Char} (pieces : Pieces a s)
    (tail : t.head?.all (fun c => c == ';' || isSpace c) = true)
    (own : ∀ a, lexFrom a t = toks) (line : lexFrom .other (scanLine t) = []) :
    lexFrom a (s ++ t) = lexFrom a s ++ toks ∨ lexFrom a (s ++ t) = lexFrom a s := by
  induction pieces with
  | done => exact Or.inl (own _)
  | @hash a cs last lone =>
    right
    rw [MysqlLexer.lexFrom_lastLine rfl last, List.cons_append, MysqlLexer.lexFrom_line rfl,
      MysqlLexer.scanLine_append last, line]
  | @dashes a c cs blank last lone =>
    right
    have starts : startsLine '-' ('-' :: c :: cs) = true := blank
    have starts' : startsLine '-' ('-' :: c :: cs ++ t) = true := blank
    have newline : '\n' ∉ '-' :: c :: cs := by simpa using last
    rw [MysqlLexer.lexFrom_lastLine starts newline, List.cons_append,
      MysqlLexer.lexFrom_line starts', MysqlLexer.scanLine_append newline, line]
  | @space a w rest some_char spaces next later ih =>
    rw [List.append_assoc, MysqlLexer.lexFrom_blanks some_char spaces,
      MysqlLexer.lexFrom_blanks some_char spaces]
    exact ih
  | @string a body rest closed closed' next later ih =>
    have next' : StartsOutside (· == '\'') (rest ++ t) :=
      (Seen.append tail rest).startsOutside next ⟨rfl, rfl⟩ fun _ space => ne_of_isSpace space rfl
    rw [List.cons_append, List.append_assoc, List.cons_append,
      MysqlLexer.lexFrom_string (Or.inl rfl) closed next',
      MysqlLexer.lexFrom_string (Or.inl rfl) closed next]
    exact ih.imp (congrArg (Token.placeholder :: ·)) (congrArg (Token.placeholder :: ·))
  | @piece a a' w rest toks' piece lone later ih =>
    rw [List.append_assoc, (piece.seen (Seen.append tail rest)).lex, piece.lex, List.append_assoc]
    exact ih.imp (congrArg (toks' ++ ·)) (congrArg (toks' ++ ·))

theorem lexFrom_semicolons (spaces : w.all isSpace = true) (a : After) (k : Nat) :
    lexFrom a (List.replicate k ';' ++ w) = List.replicate k (.punct ';') := by
  induction k generalizing a with
  | zero =>
    cases w with
    | nil => rfl
    | cons x w =>
      have blank : lexFrom a (x :: w ++ []) = lexFrom .other [] :=
        MysqlLexer.lexFrom_blanks (List.cons_ne_nil x w) spaces []
      rwa [List.append_nil] at blank
  | succ k ih =>
    have mark : lexFrom a (';' :: (List.replicate k ';' ++ w)) =
        .punct ';' :: lexFrom .other (List.replicate k ';' ++ w) :=
      MysqlLexer.lexFrom_mark rfl rfl fun slash => absurd slash (by decide)
    rw [List.replicate_succ, List.cons_append, mark, ih, List.replicate_succ]

/-- Semicolons behind such pieces are tokens, or in a comment. -/
theorem Pieces.lexFrom_semicolons (pieces : Pieces a s) (spaces : w.all isSpace = true)
    (k : Nat) : ∃ j, lexFrom a (s ++ (List.replicate k ';' ++ w)) =
      lexFrom a s ++ List.replicate j (.punct ';') := by
  have tail : (List.replicate k ';' ++ w).head?.all (fun c => c == ';' || isSpace c) = true := by
    cases k with
    | succ k => rfl
    | zero =>
      cases w with
      | nil => rfl
      | cons x w =>
        show (x == ';' || isSpace x) = true
        rw [(Bool.and_eq_true_iff.mp spaces).1, Bool.or_true]
  have line : lexFrom .other (scanLine (List.replicate k ';' ++ w)) = [] := by
    have no_newline : '\n' ∉ List.replicate k ';' := fun member => by
      cases (List.mem_replicate.mp member).2
    have spaces' : (scanLine w).all isSpace = true := by
      rw [List.all_eq_true] at spaces ⊢
      exact fun x member => spaces x ((List.dropWhile_suffix _).subset member)
    rw [MysqlLexer.scanLine_append no_newline]
    exact Cache.lexFrom_semicolons spaces' .other 0
  have own := fun a => Cache.lexFrom_semicolons spaces a k
  rcases pieces.lexFrom_append tail own line with kept | taken
  · exact ⟨k, kept⟩
  · refine ⟨0, ?_⟩
    rw [taken, List.replicate_zero, List.append_nil]

end MysqlRedshift.Proxy.Cache
