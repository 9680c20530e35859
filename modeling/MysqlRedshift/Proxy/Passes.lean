import MysqlRedshift.Misc.MysqlPieces
import MysqlRedshift.Proxy.Cache

/-!
# The passes of `normalize`

What each of the three replacements makes of a part of a text: where it keeps the part,
where it puts its character in its place, and that it works on the rest as if the part
were not there.
-/

namespace MysqlRedshift.Proxy.Cache

open MysqlRedshift.Misc
open MysqlRedshift.Misc.Regex (Takes NoneBefore ends mem_ends_all_cons mem_ends_all_nil
  mem_ends_assert mem_ends_cls mem_ends_plus_cls mem_ends_seq head?_ends mem_ends_opt mem_ends_group
  consumed_of_mem_ends head?_ends_seq head?_ends_opt head?_ends_group head?_rounds_more
  head?_rounds_stop head?_plus_cls replaceFrom replaceFrom_append replaceFrom_match
  replaceFrom_outside replaceFrom_region replaced_replaceFrom)

variable {before body rest u v w : List Char} {c d : Char}

/-- The pass that takes string literals out, behind `before`. -/
def strings (before s : List Char) : List Char := replaceFrom reStringLit ['?'] 0 before s

/-- The pass that takes numbers out. -/
def numbers (before s : List Char) : List Char := replaceFrom reNumber ['?'] 0 before s

/-- The pass that makes white space single. -/
def blanks (before s : List Char) : List Char := replaceFrom reWhitespc [' '] 0 before s

theorem toList_normalize (db : UnicodeDb) (sql : String) : (normalize db sql).toList =
    blanks [] (numbers [] (strings [] (toLower db (trimRight (trimSpace sql) ";")).toList)) := by
  simp only [normalize, Regex.replaceAll, String.toList_ofList]
  rfl

/-! ## String literals -/

/-- A string literal begins with a quote and ends with another. -/
def IsLiteral (w : List Char) : Prop := ∃ t, w = '\'' :: t ∧ '\'' ∈ t

/-- A match ends with a quote of its own. -/
theorem takes_reStringLit_closed : Takes reStringLit fun w => ∃ t, w = '\'' :: (t ++ ['\'']) := by
  rintro ⟨before, after, groups⟩ d member
  obtain ⟨e, first, member⟩ := mem_ends_all_cons.mp member
  obtain ⟨x, rest, rfl, is_quote, rfl⟩ := mem_ends_cls.mp first
  obtain ⟨e, inner, member⟩ := mem_ends_all_cons.mp member
  obtain ⟨t, split, _⟩ := consumed_of_mem_ends inner
  obtain ⟨f, last, member⟩ := mem_ends_all_cons.mp member
  obtain ⟨y, rest', after_eq, is_quote', rfl⟩ := mem_ends_cls.mp last
  obtain rfl := mem_ends_all_nil.mp member
  obtain rfl := eq_of_beq is_quote
  obtain rfl := eq_of_beq is_quote'
  have whole : rest = t ++ '\'' :: rest' := by
    rw [← after_eq]
    exact split
  exact ⟨'\'' :: (t ++ ['\'']), by simp [whole], t, rfl⟩

theorem takes_reStringLit : Takes reStringLit IsLiteral := by
  intro c d member
  obtain ⟨w, split, t, rfl⟩ := takes_reStringLit_closed c d member
  exact ⟨_, split, t ++ ['\''], rfl, List.mem_append_right t List.mem_cons_self⟩

theorem isLiteral_ne_nil (literal : IsLiteral w) : w ≠ [] := by
  obtain ⟨t, rfl, _⟩ := literal
  exact List.cons_ne_nil _ _

/-- No quote of the part is followed by another, in the part or behind it. -/
def Lone (w rest : List Char) : Prop :=
  ∀ early late, w = early ++ '\'' :: late → '\'' ∉ late ++ rest

theorem lone_of_not_mem (no_quote : '\'' ∉ w) : Lone w rest := by
  rintro early late rfl
  exact absurd (List.mem_append_right early List.mem_cons_self) no_quote

/-- Lone quotes are kept, with all around them. -/
theorem strings_lone (lone : Lone w rest) :
    strings before (w ++ rest) = w ++ strings (w.reverse ++ before) rest := by
  apply replaceFrom_append
  intro early late split short
  apply List.eq_nil_iff_forall_not_mem.mpr
  intro d member
  obtain ⟨m, late_eq, t, rfl, closed⟩ := takes_reStringLit _ d member
  simp only at late_eq
  rcases List.append_eq_append_iff.mp split with ⟨a, rfl, rfl⟩ | ⟨a, rfl, rfl⟩
  · simp only [List.length_append] at short
    omega
  · cases a with
    | nil => simp at short
    | cons x a =>
      obtain ⟨rfl, tail_eq⟩ := List.cons.inj late_eq
      have tail_eq : a ++ rest = t ++ d.after := tail_eq
      apply lone early a rfl
      rw [tail_eq]
      exact List.mem_append_left _ closed

theorem strings_outside (no_quote : '\'' ∉ w) (rest : List Char) :
    strings before (w ++ rest) = w ++ strings (w.reverse ++ before) rest :=
  strings_lone (lone_of_not_mem no_quote)

/-- What is between the quotes, a character other than a quote or two quotes a round. -/
def literalRound : Regex := .alt (.cls fun c => c != '\'') (.seq quote quote)

theorem ends_literalRound_plain (other : c ≠ '\'') :
    (ends literalRound ⟨before, c :: rest, []⟩).head? = some ⟨c :: before, rest, []⟩ := by
  simp [literalRound, ends, other]

theorem ends_literalRound_doubled :
    (ends literalRound ⟨before, '\'' :: '\'' :: rest, []⟩).head? =
      some ⟨'\'' :: '\'' :: before, rest, []⟩ := by
  simp [literalRound, quote, ends]

theorem ends_literalRound_stop (next : StartsOutside (· == '\'') rest) :
    ends literalRound ⟨before, '\'' :: rest, []⟩ = [] := by
  cases rest with
  | nil => rfl
  | cons d rest =>
    have other : (d == '\'') = false := next
    simp [literalRound, quote, ends, beq_eq_false_iff_ne.mp other]

/-- The rounds go to the quote that is followed by another character. -/
theorem head?_rounds_literal (closed : MysqlLexer.inside false '\'' .plain body = true)
    (next : StartsOutside (· == '\'') rest) (before : List Char) {fuel : Nat}
    (enough : body.length ≤ fuel) :
    (Regex.rounds (ends literalRound) true fuel ⟨before, body ++ '\'' :: rest, []⟩).head? =
      some ⟨body.reverse ++ before, '\'' :: rest, []⟩ := by
  induction fuel generalizing body before with
  | zero =>
    rw [List.eq_nil_of_length_eq_zero (Nat.le_zero.mp enough)]
    rfl
  | succ fuel ih =>
    cases body with
    | nil => exact head?_rounds_stop (ends_literalRound_stop next)
    | cons x body =>
      rw [List.length_cons] at enough
      by_cases is_quote : x = '\''
      · subst is_quote
        cases body with
        | nil => cases closed
        | cons y body =>
          have ⟨doubled, closed'⟩ : (y == '\'') = true ∧
              MysqlLexer.inside false '\'' .plain body = true := Bool.and_eq_true_iff.mp closed
          obtain rfl := eq_of_beq doubled
          rw [List.length_cons] at enough
          have later := ih closed' ('\'' :: '\'' :: before) (by omega)
          rw [List.reverse_cons, List.reverse_cons, List.append_assoc, List.append_assoc]
          refine head?_rounds_more ends_literalRound_doubled ?_ later
          show (body ++ '\'' :: rest).length < (body ++ '\'' :: rest).length + 1 + 1
          omega
      · have closed' : MysqlLexer.inside false '\'' .plain body = true := by
          simpa [MysqlLexer.inside, is_quote] using closed
        have later := ih closed' (x :: before) (by omega)
        rw [List.reverse_cons, List.append_assoc]
        exact head?_rounds_more (ends_literalRound_plain is_quote) (Nat.lt_succ_self _) later

/-- A string literal is replaced as a whole. -/
theorem strings_literal (closed : MysqlLexer.inside false '\'' .plain body = true)
    (next : StartsOutside (· == '\'') rest) :
    strings before ('\'' :: (body ++ '\'' :: rest)) =
      '?' :: strings (('\'' :: (body ++ ['\''])).reverse ++ before) rest := by
  have enough : body.length ≤ (body ++ '\'' :: rest).length := by
    rw [List.length_append]
    omega
  have found : (ends reStringLit ⟨before, '\'' :: ((body ++ ['\'']) ++ rest), []⟩).head? =
      some ⟨'\'' :: (body.reverse ++ '\'' :: before), rest, []⟩ := by
    rw [List.append_assoc]
    refine head?_ends_seq (e := ⟨'\'' :: before, body ++ '\'' :: rest, []⟩) rfl ?_
    refine head?_ends_seq (e := ⟨body.reverse ++ '\'' :: before, '\'' :: rest, []⟩) ?_ rfl
    exact head?_rounds_literal closed next _ enough
  have replaced : strings before ('\'' :: ((body ++ ['\'']) ++ rest)) =
      '?' :: strings (('\'' :: (body ++ ['\''])).reverse ++ before) rest :=
    replaceFrom_match found rfl
  rw [List.append_assoc] at replaced
  exact replaced

/-! ## Numbers -/

theorem isWord_of_isDigit (digit : isDigit c = true) : isWord c = true := by
  rw [isWord, digit]
  rfl

/-- A match begins with a digit and has digits and points only. -/
def IsNumeral (w : List Char) : Prop :=
  w.head?.any isDigit = true ∧ w.all (fun c => isDigit c || c == '.') = true

theorem isNumeral_ne_nil (numeral : IsNumeral w) : w ≠ [] := by
  rintro rfl
  cases numeral.1

theorem all_isWord_of_digits {ds : List Char} (digits : ds.all isDigit = true) :
    ds.all isWord = true := by
  rw [List.all_eq_true] at digits ⊢
  exact fun x member => isWord_of_isDigit (digits x member)

theorem inWord_behind {ds : List Char} (some_char : ds ≠ []) (digits : ds.all isDigit = true) :
    (ds.reverse ++ before).head?.any isWord = true :=
  any_head?_of_all (mt List.reverse_eq_nil_iff.mp some_char)
    (List.all_reverse.trans (all_isWord_of_digits digits)) before

/-- Digits end where no word goes on. -/
theorem outside_of_boundary {ds : List Char} (some_char : ds ≠ []) (digits : ds.all isDigit = true)
    (boundary : ((ds.reverse ++ before).head?.any isWord != rest.head?.any isWord) = true) :
    rest.head?.any isWord = false := by
  rw [inWord_behind some_char digits] at boundary
  simpa using boundary

/-- What a match of a number is: digits between two ends of words, and places if a point
and digits follow. -/
theorem mem_ends_reNumber {after : List Char} {groups : List (Nat × List Char)} {d : Cursor}
    (member : d ∈ ends reNumber ⟨before, after, groups⟩) :
    ∃ ds rest, after = ds ++ rest ∧ ds ≠ [] ∧ ds.all isDigit = true ∧
      before.head?.any isWord = false ∧ rest.head?.any isWord = false ∧
      d.after.head?.any isWord = false ∧
      (d.after = rest ∨ ∃ es, es.all isDigit = true ∧ rest = '.' :: (es ++ d.after)) := by
  obtain ⟨e, start, member⟩ := mem_ends_all_cons.mp member
  obtain ⟨boundary, rfl⟩ := mem_ends_assert.mp start
  obtain ⟨e, first, member⟩ := mem_ends_all_cons.mp member
  obtain ⟨ds, rest, rfl, some_char, digits, rfl⟩ := mem_ends_plus_cls.mp first
  obtain ⟨e, places, member⟩ := mem_ends_all_cons.mp member
  obtain ⟨f, last, end_⟩ := mem_ends_all_cons.mp member
  obtain rfl := mem_ends_all_nil.mp end_
  obtain ⟨boundary', rfl⟩ := mem_ends_assert.mp last
  have outside : before.head?.any isWord = false := by
    rw [any_head?_of_all some_char (all_isWord_of_digits digits) rest] at boundary
    simpa using boundary
  refine ⟨ds, rest, rfl, some_char, digits, outside, ?_⟩
  rcases mem_ends_opt.mp places with grouped | rfl
  · obtain ⟨g, inner, rfl⟩ := mem_ends_group.mp grouped
    obtain ⟨g', point, more⟩ := mem_ends_seq.mp inner
    obtain ⟨y, t, rfl, is_point, rfl⟩ := mem_ends_cls.mp point
    obtain ⟨es, rest', rfl, some_char', digits', rfl⟩ := mem_ends_plus_cls.mp more
    obtain rfl := eq_of_beq is_point
    exact ⟨rfl, outside_of_boundary some_char' digits' boundary', Or.inr ⟨es, digits', rfl⟩⟩
  · have outside' := outside_of_boundary some_char digits boundary'
    exact ⟨outside', outside', Or.inl rfl⟩

theorem takes_reNumber : Takes reNumber IsNumeral := by
  intro c d member
  obtain ⟨ds, rest, split, some_char, digits, _, _, _, ending⟩ := mem_ends_reNumber member
  have first := any_head?_of_all some_char digits
  have places : ∀ es : List Char, es.all isDigit = true →
      es.all (fun c => isDigit c || c == '.') = true := by
    intro es all
    rw [List.all_eq_true] at all ⊢
    intro x member
    rw [all x member]
    rfl
  rcases ending with rfl | ⟨es, all, rfl⟩
  · refine ⟨ds, split, ?_, places ds digits⟩
    have starts := first []
    rwa [List.append_nil] at starts
  · refine ⟨ds ++ '.' :: es, ?_, first _, ?_⟩
    · rw [split, List.append_assoc]
      rfl
    · rw [List.all_append, places ds digits, List.all_cons, places es all]
      rfl

/-- No run of word characters in the text is made of digits only. -/
def numberFree : Bool → List Char → Bool
  | _, [] => true
  | inWord, x :: xs =>
    (inWord || !isDigit x || (xs.dropWhile isDigit).head?.any isWord) && numberFree (isWord x) xs

theorem ends_reNumber_eq_nil {x : Char} {xs : List Char}
    (free : before.head?.any isWord = true ∨ isDigit x = false ∨
      (xs.dropWhile isDigit).head?.any isWord = true) :
    ends reNumber ⟨before, x :: xs, []⟩ = [] := by
  apply List.eq_nil_iff_forall_not_mem.mpr
  intro d member
  obtain ⟨ds, rest, split, some_char, digits, outside, outside', _⟩ := mem_ends_reNumber member
  cases ds with
  | nil => exact some_char rfl
  | cons y ds =>
    obtain ⟨rfl, rfl⟩ := List.cons.inj split
    rw [List.all_cons, Bool.and_eq_true] at digits
    have end_ : StartsOutside isDigit rest := StartsOutside.mono outside' fun _ => isWord_of_isDigit
    rcases free with inWord | no_digit | goes_on
    · exact Bool.false_ne_true (outside.symm.trans inWord)
    · exact Bool.false_ne_true (no_digit.symm.trans digits.1)
    · have run : (ds ++ rest).dropWhile isDigit = rest :=
        dropWhile_append_of_startsOutside digits.2 end_
      have goes_on : ((ds ++ rest).dropWhile isDigit).head?.any isWord = true := goes_on
      rw [run] at goes_on
      exact Bool.false_ne_true (outside'.symm.trans goes_on)

/-- Digits that a word character follows are no number in a longer text either. -/
theorem goes_on_append (goes_on : (w.dropWhile isDigit).head?.any isWord = true)
    (rest : List Char) : ((w ++ rest).dropWhile isDigit).head?.any isWord = true := by
  cases run : w.dropWhile isDigit with
  | nil =>
    rw [run] at goes_on
    cases goes_on
  | cons y t =>
    rw [run] at goes_on
    rw [List.dropWhile_append, run]
    exact goes_on

/-- A text without a number is kept, whatever follows it. -/
theorem numbers_free (free : numberFree (before.head?.any isWord) w = true) (rest : List Char) :
    numbers before (w ++ rest) = w ++ numbers (w.reverse ++ before) rest := by
  induction w generalizing before with
  | nil => rfl
  | cons x w ih =>
    rw [numberFree, Bool.and_eq_true] at free
    have nothing : ends reNumber ⟨before, x :: (w ++ rest), []⟩ = [] := by
      apply ends_reNumber_eq_nil
      have here := free.1
      rw [Bool.or_eq_true, Bool.or_eq_true, Bool.not_eq_true'] at here
      rcases here with (inWord | no_digit) | goes_on
      · exact Or.inl inWord
      · exact Or.inr (Or.inl no_digit)
      · exact Or.inr (Or.inr (goes_on_append goes_on rest))
    have later : numbers (x :: before) (w ++ rest) = w ++ _ := ih free.2
    rw [List.cons_append, List.reverse_cons, List.append_assoc]
    exact (Regex.replaceFrom_none nothing).trans (congrArg (x :: ·) later)

theorem numberFree_of_no_digit (inWord : Bool) (no_digit : ∀ x ∈ w, isDigit x = false) :
    numberFree inWord w = true := by
  induction w generalizing inWord with
  | nil => rfl
  | cons x w ih =>
    have ⟨here, later⟩ := List.forall_mem_cons.mp no_digit
    rw [numberFree, here, ih _ later, Bool.not_false, Bool.or_true, Bool.true_or]
    rfl

theorem numberFree_of_inWord (word : w.all isWord = true) : numberFree true w = true := by
  induction w with
  | nil => rfl
  | cons x w ih =>
    rw [List.all_cons, Bool.and_eq_true] at word
    rw [numberFree, word.1, ih word.2]
    rfl

/-- A word that starts with digits goes on with a letter. -/
theorem numberFree_digits {ds : List Char} (digits : ds.all isDigit = true)
    (letter : isWord c = true ∧ isDigit c = false) (word : w.all isWord = true) :
    numberFree false (ds ++ c :: w) = true := by
  cases ds with
  | nil => rw [List.nil_append, numberFree, letter.1, letter.2, numberFree_of_inWord word]; rfl
  | cons x ds =>
    rw [List.all_cons, Bool.and_eq_true] at digits
    have run : (ds ++ c :: w).dropWhile isDigit = c :: w :=
      dropWhile_append_of_startsOutside digits.2 letter.2
    have later : (ds ++ c :: w).all isWord = true := by
      rw [List.all_append, List.all_cons, letter.1, word, Bool.and_true, Bool.and_true,
        List.all_eq_true]
      exact fun y member => isWord_of_isDigit (List.all_eq_true.mp digits.2 y member)
    rw [List.cons_append, numberFree, run, isWord_of_isDigit digits.1, numberFree_of_inWord later,
      List.head?_cons, Option.any_some, letter.1]
    simp

theorem head?_ends_boundary {after : List Char} {groups : List (Nat × List Char)}
    (boundary : (before.head?.any isWord != after.head?.any isWord) = true) :
    (ends (.wordBoundary isWord) ⟨before, after, groups⟩).head? =
      some ⟨before, after, groups⟩ := by
  simp only [Regex.wordBoundary, ends, boundary, if_true, List.head?_cons]

section

variable {ds es : List Char} (outside : before.head?.any isWord = false) (some_char : ds ≠ [])
  (digits : ds.all isDigit = true)

include outside some_char digits

/-- A match begins at the first of some digits, behind no word, and reads them all. -/
theorem head?_ends_reNumber {d : Cursor} (end_ : StartsOutside isDigit rest)
    (suffix : (ends (.all [.opt (.group 1 (.seq (.cls fun c => c == '.') (.plus (.cls isDigit)))),
      .wordBoundary isWord]) ⟨ds.reverse ++ before, rest, []⟩).head? = some d) :
    (ends reNumber ⟨before, ds ++ rest, []⟩).head? = some d := by
  have inWord := any_head?_of_all some_char (all_isWord_of_digits digits) rest
  have start : (before.head?.any isWord != (ds ++ rest).head?.any isWord) = true := by
    rw [outside, inWord]
    rfl
  refine head?_ends_seq (head?_ends_boundary start) ?_
  exact head?_ends_seq (head?_plus_cls some_char digits end_) suffix

theorem numbers_int (next : StartsOutside (fun c => isWord c || c == '.') rest) :
    numbers before (ds ++ rest) = '?' :: numbers (ds.reverse ++ before) rest := by
  have no_word : rest.head?.any isWord = false := next.mono fun c word => by rw [word]; rfl
  have end_ : StartsOutside isDigit rest := StartsOutside.mono no_word fun _ => isWord_of_isDigit
  have places : (ends (.opt (.group 1 (.seq (.cls fun c => c == '.') (.plus (.cls isDigit)))))
      ⟨ds.reverse ++ before, rest, []⟩).head? = some ⟨ds.reverse ++ before, rest, []⟩ := by
    cases rest with
    | nil => rfl
    | cons c rest =>
      have other : (c == '.') = false := (Bool.or_eq_false_iff.mp next).2
      simp [Regex.opt, ends, beq_eq_false_iff_ne.mp other]
  have boundary : ((ds.reverse ++ before).head?.any isWord != rest.head?.any isWord) = true := by
    rw [inWord_behind some_char digits, no_word]
    rfl
  have found := head?_ends_reNumber outside some_char digits end_
    (head?_ends_seq places (head?_ends_seq (head?_ends_boundary boundary) rfl))
  cases ds with
  | nil => exact absurd rfl some_char
  | cons x ds => exact replaceFrom_match found rfl

/-- The point is left behind digits where no places end with a word. -/
theorem numbers_point (places : es.all isDigit = true) (end_ : StartsOutside isDigit rest)
    (no_places : es = [] ∨ rest.head?.any isWord = true) :
    numbers before (ds ++ '.' :: (es ++ rest)) =
      '?' :: numbers (ds.reverse ++ before) ('.' :: (es ++ rest)) := by
  have pointed : StartsOutside isDigit ('.' :: (es ++ rest)) := rfl
  have boundary : ((ds.reverse ++ before).head?.any isWord !=
      ('.' :: (es ++ rest)).head?.any isWord) = true := by
    rw [inWord_behind some_char digits]
    rfl
  have found := head?_ends_reNumber outside some_char digits pointed (head?_ends
    (mem_ends_all_cons.mpr ⟨_, mem_ends_opt.mpr (Or.inr rfl),
      mem_ends_all_cons.mpr ⟨_, mem_ends_assert.mpr ⟨boundary, rfl⟩, mem_ends_all_nil.mpr rfl⟩⟩)
    ?_)
  · cases ds with
    | nil => exact absurd rfl some_char
    | cons x ds => exact replaceFrom_match found rfl
  · intro e member
    obtain ⟨f, group, member⟩ := mem_ends_all_cons.mp member
    obtain ⟨g, last, end_'⟩ := mem_ends_all_cons.mp member
    obtain rfl := mem_ends_all_nil.mp end_'
    obtain ⟨boundary', rfl⟩ := mem_ends_assert.mp last
    rcases mem_ends_opt.mp group with grouped | rfl
    · -- The digits behind the point are the places, and a word goes on behind them.
      obtain ⟨g, inner, rfl⟩ := mem_ends_group.mp grouped
      obtain ⟨g', point, more⟩ := mem_ends_seq.mp inner
      obtain ⟨y, t, same, _, rfl⟩ := mem_ends_cls.mp point
      obtain ⟨rfl, rfl⟩ := List.cons.inj same
      obtain ⟨es', rest', split, some_char', digits', rfl⟩ := mem_ends_plus_cls.mp more
      have outside' : rest'.head?.any isWord = false :=
        outside_of_boundary some_char' digits' boundary'
      obtain ⟨rfl, rfl⟩ := run_unique places digits' end_
        (StartsOutside.mono outside' fun _ => isWord_of_isDigit) split
      rcases no_places with nothing | inWord
      · exact absurd nothing some_char'
      · exact absurd (outside'.symm.trans inWord) Bool.false_ne_true
    · rfl

theorem numbers_decimal (some_char' : es ≠ []) (places : es.all isDigit = true)
    (next : StartsOutside isWord rest) : numbers before (ds ++ '.' :: (es ++ rest)) =
      '?' :: numbers ((ds ++ '.' :: es).reverse ++ before) rest := by
  have end_ : StartsOutside isDigit rest := next.mono fun _ => isWord_of_isDigit
  have fraction : (ends (.seq (.cls fun c => c == '.') (.plus (.cls isDigit)))
      ⟨ds.reverse ++ before, '.' :: (es ++ rest), []⟩).head? =
        some ⟨es.reverse ++ '.' :: (ds.reverse ++ before), rest, []⟩ :=
    head?_ends_seq rfl (head?_plus_cls some_char' places end_)
  obtain ⟨groups, grouped⟩ := head?_ends_group (n := 1) fraction
  have boundary : ((es.reverse ++ '.' :: (ds.reverse ++ before)).head?.any isWord !=
      rest.head?.any isWord) = true := by
    have no_word : rest.head?.any isWord = false := next
    rw [inWord_behind some_char' places, no_word]
    rfl
  have pointed : StartsOutside isDigit ('.' :: (es ++ rest)) := rfl
  have found := head?_ends_reNumber outside some_char digits pointed
    (head?_ends_seq (head?_ends_opt grouped) (head?_ends_seq (head?_ends_boundary boundary) rfl))
  have whole : ds ++ '.' :: (es ++ rest) = (ds ++ '.' :: es) ++ rest := by simp
  rw [whole] at found ⊢
  cases ds with
  | nil => exact absurd rfl some_char
  | cons x ds => exact replaceFrom_match found rfl

end

theorem numbers_region (before w : List Char)
    (next : StartsOutside (fun c => isDigit c || c == '.') rest) :
    ∃ w', Replaced IsNumeral '?' w w' ∧
      numbers before (w ++ rest) = w' ++ numbers (w.reverse ++ before) rest :=
  replaceFrom_region takes_reNumber (fun _ => isNumeral_ne_nil) (fun _ numeral => numeral.2) _ _ _
    next

/-! ## White space -/

/-- A match is a run of blanks. -/
def IsRun (w : List Char) : Prop := w ≠ [] ∧ w.all isBlank = true

theorem takes_reWhitespc : Takes reWhitespc IsRun := by
  intro c d member
  obtain ⟨w, rest, split, some_char, all, rfl⟩ := mem_ends_plus_cls.mp member
  exact ⟨w, split, some_char, all⟩

theorem isRun_first (run : IsRun w) : w.head?.any isBlank = true := by
  cases w with
  | nil => exact absurd rfl run.1
  | cons x w => exact (Bool.and_eq_true_iff.mp run.2).1

theorem blanks_outside (no_blank : ∀ x ∈ w, isBlank x = false) (rest : List Char) :
    blanks before (w ++ rest) = w ++ blanks (w.reverse ++ before) rest :=
  replaceFrom_outside takes_reWhitespc (fun _ => isRun_first) _ _ no_blank rest

theorem blanks_region (before w : List Char) (next : StartsOutside isBlank rest) :
    ∃ w', Replaced IsRun ' ' w w' ∧
      blanks before (w ++ rest) = w' ++ blanks (w.reverse ++ before) rest :=
  replaceFrom_region takes_reWhitespc (fun _ run => run.1) (fun _ run => run.2) _ _ _ next

/-- White space is single blanks only. -/
def singleBlanks : List Char → Bool
  | [] => true
  | c :: cs => (!isBlank c || (c == ' ' && !cs.head?.any isBlank)) && singleBlanks cs

theorem Replaced.eq_of_singleBlanks (replaced : Replaced IsRun ' ' u v)
    (single : singleBlanks u = true) : v = u := by
  induction replaced with
  | nil => rfl
  | keep x _ ih =>
    rw [singleBlanks, Bool.and_eq_true] at single
    rw [ih single.2]
  | @part u v s run _ ih =>
    obtain ⟨some_char, all⟩ := run
    cases s with
    | nil => exact absurd rfl some_char
    | cons x s =>
      rw [List.all_cons, Bool.and_eq_true] at all
      rw [List.cons_append, singleBlanks, all.1, Bool.not_true, Bool.false_or] at single
      obtain ⟨here, single'⟩ := Bool.and_eq_true_iff.mp single
      obtain ⟨is_space, alone⟩ := Bool.and_eq_true_iff.mp here
      cases s with
      | nil => rw [eq_of_beq is_space, ih single']; rfl
      | cons y s =>
        have blank : isBlank y = true := (Bool.and_eq_true_iff.mp all.2).1
        rw [List.cons_append, List.head?_cons, Option.any_some, blank] at alone
        cases alone

theorem blanks_single (single : singleBlanks w = true) (next : StartsOutside isBlank rest) :
    blanks before (w ++ rest) = w ++ blanks (w.reverse ++ before) rest := by
  obtain ⟨w', replaced, whole⟩ := blanks_region before w next
  rw [whole, Replaced.eq_of_singleBlanks replaced single]

/-! ## The passes together -/

/-- The three passes one after the other, each behind what it has read already. -/
def passes (p b r s : List Char) : List Char := blanks r (numbers b (strings p s))

theorem replaced_strings (p s : List Char) : Replaced IsLiteral '?' s (strings p s) :=
  replaced_replaceFrom takes_reStringLit (fun _ => isLiteral_ne_nil) ..

theorem replaced_numbers (b s : List Char) : Replaced IsNumeral '?' s (numbers b s) :=
  replaced_replaceFrom takes_reNumber (fun _ => isNumeral_ne_nil) ..

/-- A mark in front does not make a text begin in a class that has none. -/
theorem startsOutside_strings {q : Char → Bool} {s : List Char} (outside : StartsOutside q s)
    (mark : q '?' = false) (p : List Char) : StartsOutside q (strings p s) :=
  (replaced_strings p s).startsOutside outside (fun _ => isLiteral_ne_nil) fun _ _ _ => mark

theorem startsOutside_numbers {q : Char → Bool} {s : List Char} (outside : StartsOutside q s)
    (mark : q '?' = false) (b : List Char) : StartsOutside q (numbers b s) :=
  (replaced_numbers b s).startsOutside outside (fun _ => isNumeral_ne_nil) fun _ _ _ => mark

theorem replaced_blanks (r s : List Char) : Replaced IsRun ' ' s (blanks r s) :=
  replaced_replaceFrom takes_reWhitespc (fun _ run => run.1) ..

theorem isSpace_of_isBlank (blank : isBlank c = true) : MysqlLexer.isSpace c = true := by
  simp only [isBlank, Bool.or_eq_true, beq_iff_eq] at blank
  rcases blank with (((rfl | rfl) | rfl) | rfl) | rfl
  all_goals rfl

theorem seen_strings (p s : List Char) : MysqlLexer.Seen s (strings p s) :=
  .of_replaced (fun _ literal => ⟨isLiteral_ne_nil literal, Or.inl rfl⟩) (replaced_strings p s)

/-- A reader sees no more in a text after the passes than before. -/
theorem seen_passes (p b r s : List Char) : MysqlLexer.Seen s (passes p b r s) := by
  have numerals : MysqlLexer.Seen (strings p s) (numbers b (strings p s)) :=
    .of_replaced (fun w numeral => ⟨isNumeral_ne_nil numeral, Or.inl rfl⟩) (replaced_numbers b _)
  refine ((seen_strings p s).trans numerals).trans (.of_replaced ?_ (replaced_blanks r _))
  rintro w ⟨some_char, all⟩
  refine ⟨some_char, Or.inr ⟨rfl, ?_⟩⟩
  cases w with
  | nil => rfl
  | cons x w => exact isSpace_of_isBlank (Bool.and_eq_true_iff.mp all).1

theorem numberFree_mono {inWord : Bool} (free : numberFree false w = true) :
    numberFree inWord w = true := by
  cases w with
  | nil => rfl
  | cons x w =>
    cases inWord with
    | false => exact free
    | true => exact (Bool.and_eq_true_iff.mp free).2

theorem numberFree_append {inWord : Bool} (first : numberFree inWord u = true)
    (second : numberFree false v = true) : numberFree inWord (u ++ v) = true := by
  induction u generalizing inWord with
  | nil => exact numberFree_mono second
  | cons x u ih =>
    rw [numberFree, Bool.and_eq_true] at first
    rw [List.cons_append, numberFree, ih first.2, Bool.and_true, Bool.or_eq_true]
    exact (Bool.or_eq_true_iff.mp first.1).imp_right fun goes_on => goes_on_append goes_on v

/-- A part without numbers whose white space is kept goes through all passes. -/
theorem passes_kept {p b r : List Char} (lone : Lone w rest) (free : numberFree false w = true)
    (kept : ∀ r rest, blanks r (w ++ rest) = w ++ blanks (w.reverse ++ r) rest) :
    passes p b r (w ++ rest) =
      w ++ passes (w.reverse ++ p) (w.reverse ++ b) (w.reverse ++ r) rest := by
  rw [passes, strings_lone lone, numbers_free (numberFree_mono free), kept]
  rfl

/-- A part of plain characters goes through all passes. -/
theorem passes_plain {p b r : List Char} (no_quote : '\'' ∉ w)
    (no_digit : ∀ x ∈ w, isDigit x = false) (no_blank : ∀ x ∈ w, isBlank x = false) :
    passes p b r (w ++ rest) =
      w ++ passes (w.reverse ++ p) (w.reverse ++ b) (w.reverse ++ r) rest :=
  passes_kept (lone_of_not_mem no_quote) (numberFree_of_no_digit false no_digit)
    fun _ => blanks_outside no_blank

/-- The characters that no pass reads. -/
def isPlain (c : Char) : Bool := !(isDigit c || c == '.' || isBlank c)

theorem isPlain_iff :
    isPlain c = true ↔ isDigit c = false ∧ (c == '.') = false ∧ isBlank c = false := by
  rw [isPlain, Bool.not_eq_true', Bool.or_eq_false_iff, Bool.or_eq_false_iff, and_assoc]

/-- A part between plain characters loses its numbers and its spacing, nothing else. -/
theorem passes_region {p b r o e : List Char} (open_ : o.all isPlain = true)
    (some_char : e ≠ []) (close : e.all isPlain = true) (lone : Lone (o ++ (body ++ e)) rest) :
    ∃ u v, Replaced IsNumeral '?' body u ∧ Replaced IsRun ' ' u v ∧
      ∃ r', passes p b r ((o ++ (body ++ e)) ++ rest) = (o ++ (v ++ e)) ++
        passes ((o ++ (body ++ e)).reverse ++ p) ((o ++ (body ++ e)).reverse ++ b) r' rest := by
  have plain : ∀ t : List Char, t.all isPlain = true → ∀ x ∈ t, isDigit x = false ∧
      (x == '.') = false ∧ isBlank x = false :=
    fun t all x member => isPlain_iff.mp (List.all_eq_true.mp all x member)
  have free : ∀ t : List Char, t.all isPlain = true → numberFree false t = true :=
    fun t all => numberFree_of_no_digit false fun x member => (plain t all x member).1
  obtain ⟨x, e, rfl⟩ : ∃ x e', e = x :: e' := List.exists_cons_of_ne_nil some_char
  have first := plain _ close x List.mem_cons_self
  generalize behind : strings ((o ++ (body ++ x :: e)).reverse ++ p) rest = t
  have number_end : StartsOutside (fun c => isDigit c || c == '.') ((x :: e) ++ t) := by
    show (isDigit x || x == '.') = false
    rw [first.1, first.2.1]
    rfl
  obtain ⟨u, numerals, number_eq⟩ := numbers_region (o.reverse ++ b) body number_end
  generalize behind' : numbers ((o ++ (body ++ x :: e)).reverse ++ b) t = t'
  have blank_end : StartsOutside isBlank ((x :: e) ++ t') := first.2.2
  obtain ⟨v, runs, blank_eq⟩ := blanks_region (o.reverse ++ r) u blank_end
  refine ⟨u, v, numerals, runs, (x :: e).reverse ++ (u.reverse ++ (o.reverse ++ r)), ?_⟩
  have number_step : numbers b ((o ++ (body ++ x :: e)) ++ t) = o ++ (u ++ (x :: e ++ t')) := by
    rw [List.append_assoc, List.append_assoc, numbers_free (numberFree_mono (free o open_)),
      number_eq, numbers_free (numberFree_mono (free _ close)), ← behind']
    simp only [List.reverse_append, List.append_assoc]
  have blank_step : blanks r (o ++ (u ++ (x :: e ++ t'))) = (o ++ (v ++ x :: e)) ++
      blanks ((x :: e).reverse ++ (u.reverse ++ (o.reverse ++ r))) t' := by
    rw [blanks_outside (fun y member => (plain o open_ y member).2.2), blank_eq,
      blanks_outside (fun y member => (plain _ close y member).2.2)]
    simp only [List.append_assoc]
  rw [passes, strings_lone lone, behind, number_step, blank_step, passes, behind, behind']

/-- A part that the second pass replaces goes through the first, and its mark through the
third. -/
theorem passes_number {p b r : List Char} (lone : Lone w rest)
    (number : ∀ t, MysqlLexer.Seen rest t →
      numbers b (w ++ t) = '?' :: numbers (w.reverse ++ b) t) :
    passes p b r (w ++ rest) =
      ['?'] ++ passes (w.reverse ++ p) (w.reverse ++ b) ('?' :: r) rest := by
  have mark : ∀ t, blanks r (['?'] ++ t) = ['?'] ++ blanks ('?' :: r) t :=
    blanks_outside (List.forall_mem_singleton.mpr rfl)
  rw [passes, strings_lone lone, number _ (seen_strings _ _)]
  exact mark _

/-- What the second and third pass leave of the inside of a string is the inside of one. -/
theorem inside_passes {q : Char} (numerals : Replaced IsNumeral '?' body u)
    (runs : Replaced IsRun ' ' u v) (special : isPlain q = true ∧ q ≠ '?' ∧ q ≠ ' ')
    (closed : MysqlLexer.inside true q .plain body = true) :
    MysqlLexer.inside true q .plain v = true := by
  obtain ⟨plain, not_mark, not_blank⟩ := special
  have ⟨no_digit, no_point, no_blank⟩ := isPlain_iff.mp plain
  refine MysqlLexer.inside_replaced ?_ ⟨Ne.symm not_blank, by decide⟩ runs
    (MysqlLexer.inside_replaced ?_ ⟨Ne.symm not_mark, by decide⟩ numerals closed)
  · intro w run
    refine ⟨run.1, fun x member => ?_⟩
    have blank := List.all_eq_true.mp run.2 x member
    constructor
    · rintro rfl
      rw [blank] at no_blank
      cases no_blank
    · rintro rfl
      cases blank
  · intro w numeral
    refine ⟨isNumeral_ne_nil numeral, fun x member => ?_⟩
    have number := List.all_eq_true.mp numeral.2 x member
    constructor
    · rintro rfl
      rw [no_digit, no_point] at number
      cases number
    · rintro rfl
      cases number

end MysqlRedshift.Proxy.Cache
