import MysqlRedshift.Misc.RegexLocal
import MysqlRedshift.Proxy.Shapes

/-!
# Spellings of a query

Two texts spell one query when they differ in letter case, in white space, in the semicolons
at the end and in the values of literals (`Equivalent`), and what the passes of `normalize`
make of two such texts. Neither the comments nor the other quotes of MySQL are read here:
what they hold is taken for plain text.
-/

namespace MysqlRedshift.Proxy.Cache

open MysqlRedshift.Misc
open MysqlRedshift.Misc.MysqlLexer (scanQuoted)

/-! ## Literals and gaps -/

/-- An unsigned integer, or a decimal number with a point in front of, behind or among its
digits. -/
structure Number where
  whole : List Char
  places : Option (List Char)
  digits : (whole ++ places.getD []).all isDigit = true
  some_digit : whole ++ places.getD [] ≠ []

def Number.text (n : Number) : List Char := n.whole ++ n.places.elim [] ('.' :: ·)

/-- The characters of names and numbers, and the point. -/
def isTight (c : Char) : Bool := (MysqlLexer.isIdent c || c == '.') && !goIsSpace c

/-- The text `u` is all that the text `u ++ s` has of `p` in front. -/
structure Stretch (p : Char → Bool) (u s : List Char) : Prop where
  some_char : u ≠ []
  all : u.all p = true
  next : StartsOutside p s

/-- The second text is the first with other white space in the gaps and other numbers and
strings. Corresponding gaps are related by `gap`, corresponding numbers by `form`, which is
told whether a letter follows them immediately, as in `1.5from`. Digits that are part of a
name are no number, nor is a run with two points. -/
inductive Respelt (gap : List Char → List Char → Prop) (form : Bool → Number → Number → Prop) :
    List Char → List Char → Prop where
  | nil : Respelt gap form [] []
  | spaces {u u' s s' : List Char} (here : Stretch goIsSpace u s)
      (here' : Stretch goIsSpace u' s') (alike : gap u u') (later : Respelt gap form s s') :
      Respelt gap form (u ++ s) (u' ++ s')
  | string {body body' t t' s s' : List Char} (closed : scanQuoted false '\'' t = some (body, s))
      (closed' : scanQuoted false '\'' t' = some (body', s')) (later : Respelt gap form s s') :
      Respelt gap form ('\'' :: t) ('\'' :: t')
  /-- A string that does not end is kept, and all behind it. -/
  | broken {t : List Char} (open_ : scanQuoted false '\'' t = none) :
      Respelt gap form ('\'' :: t) ('\'' :: t)
  | number {n n' : Number} {w s s' : List Char} (tight : w.all isTight = true)
      (apart : StartsOutside (fun c => isDigit c || c == '.') w)
      (int : n.places = none → w = []) (int' : n'.places = none → w = [])
      (next : StartsOutside isTight s) (next' : StartsOutside isTight s')
      (alike : form (w.head?.any isWord) n n') (later : Respelt gap form s s') :
      Respelt gap form (n.text ++ (w ++ s)) (n'.text ++ (w ++ s'))
  | name {w s s' : List Char} (here : Stretch isTight w s) (here' : Stretch isTight w s')
      (later : Respelt gap form s s') : Respelt gap form (w ++ s) (w ++ s')
  | mark {c : Char} {s s' : List Char} (tight : isTight c = false) (space : goIsSpace c = false)
      (plain : c ≠ '\'') (later : Respelt gap form s s') : Respelt gap form (c :: s) (c :: s')

/-! ## The ends of a query -/

/-- The characters of the end of a query. -/
def isEnd (c : Char) : Bool := goIsSpace c || c == ';'

/-- A text without the white space in front and the white space and semicolons at the end. -/
def core (x : List Char) : List Char := trimEnd isEnd (x.dropWhile goIsSpace)

/-- The white space and semicolons at the end. -/
def ending (x : List Char) : List Char := ((x.dropWhile goIsSpace).reverse.takeWhile isEnd).reverse

/-- Two spellings of one query, both in lower case. -/
def Equivalent (db : UnicodeDb) (q q' : String) : Prop :=
  Respelt (fun _ _ => True) (fun _ _ _ => True) (core (toLower db q).toList)
    (core (toLower db q').toList)

/-! ## Spellings of one key -/

/-- A text with every stretch of blanks made one blank. The vertical tab and the white space
above ASCII stay. -/
def squeeze : List Char → List Char
  | [] => []
  | c :: cs =>
    if !isBlank c then c :: squeeze cs
    else if cs.head?.any isBlank then squeeze cs
    else ' ' :: squeeze cs

/-- Two gaps that differ in blanks only. -/
def SameGap (u u' : List Char) : Prop := squeeze u = squeeze u'

/-- Two numbers with digits on the same sides of the point, where an integer has them on both,
and with the same places if a letter follows. -/
structure SameForm (letter : Bool) (n n' : Number) : Prop where
  front : n.whole = [] ↔ n'.whole = []
  back : n.places = some [] ↔ n'.places = some []
  places : letter = true → n.places = n'.places

/-- No white space stands before a semicolon at the end. -/
def Tidy (x : List Char) : Prop := ((ending x).dropWhile (· == ';')).all goIsSpace = true

instance (x : List Char) : Decidable (Tidy x) := inferInstanceAs (Decidable (_ = true))

/-- Two spellings that `normalize` makes one. -/
structure Alike (db : UnicodeDb) (q q' : String) : Prop where
  tidy : Tidy (toLower db q).toList
  tidy' : Tidy (toLower db q').toList
  respelt : Respelt SameGap SameForm (core (toLower db q).toList) (core (toLower db q').toList)

/-! ## Passes part by part -/

section

variable {before before' s s' t u v w : List Char} {c : Char}

theorem not_goIsSpace_of_isWord (word : isWord c = true) : goIsSpace c = false := by
  have range : 48 ≤ c.toNat ∧ c.toNat ≤ 122 := by
    have value : c.val.toNat = c.toNat := rfl
    have bounds : '0'.val.toNat = 48 ∧ '9'.val.toNat = 57 ∧ 'a'.val.toNat = 97 ∧
        'z'.val.toNat = 122 ∧ 'A'.val.toNat = 65 ∧ 'Z'.val.toNat = 90 ∧ '_'.toNat = 95 := by
      decide
    simp only [isWord, isDigit, Bool.or_eq_true, Bool.and_eq_true, decide_eq_true_eq,
      Char.le_def, UInt32.le_iff_toNat_le, beq_iff_eq, ← Char.toNat_inj] at word
    omega
  simp only [goIsSpace, isWideSpace, Bool.or_eq_false_iff, Bool.and_eq_false_iff,
    decide_eq_false_iff_not, beq_eq_false_iff_ne]
  omega

theorem not_isWord_of_goIsSpace (space : goIsSpace c = true) : isWord c = false := by
  rw [Bool.eq_false_iff]
  intro word
  rw [not_goIsSpace_of_isWord word] at space
  cases space

theorem isTight_of_isWord (word : isWord c = true) : isTight c = true := by
  rw [isTight, isIdent_of_isWord word, not_goIsSpace_of_isWord word]
  rfl

theorem isTight_of_isDigit (digit : isDigit c = true) : isTight c = true :=
  isTight_of_isWord (isWord_of_isDigit digit)

theorem goIsSpace_of_isBlank (blank : isBlank c = true) : goIsSpace c = true := by
  simp only [isBlank, Bool.or_eq_true, beq_iff_eq] at blank
  rcases blank with (((rfl | rfl) | rfl) | rfl) | rfl
  all_goals rfl

theorem not_isBlank_of_isTight (tight : isTight c = true) : isBlank c = false := by
  refine outside_mono (fun _ => goIsSpace_of_isBlank) ?_
  rw [isTight, Bool.and_eq_true, Bool.not_eq_true'] at tight
  exact tight.2

theorem local_reStringLit (p : Char → Bool) : Regex.Local p (fun _ => true) reStringLit := by
  simp [Regex.Local, reStringLit, quote, Regex.all]

theorem local_reWhitespc (p : Char → Bool) : Regex.Local p isBlank reWhitespc := by
  simp [Regex.Local, reWhitespc, Regex.plus]

/-- A boundary tells the end from a text that begins with no tight character no more than
from a text that begins with no character of words. -/
theorem local_reNumber : Regex.Local isWord isTight reNumber := by
  have boundary : Regex.Local isWord isTight (.wordBoundary isWord) := by
    intro before before' after rest same outside
    have last : StartsOutside isWord rest := outside.mono fun _ => isTight_of_isWord
    have here : (after ++ rest).head?.any isWord = after.head?.any isWord :=
      any_head?_append last after
    simp only [same, here]
  have digits : Regex.Local isWord isTight (.plus (.cls isDigit)) :=
    ⟨fun _ => isTight_of_isDigit, fun _ => isTight_of_isDigit⟩
  have point : Regex.Local isWord isTight (.cls fun c => c == '.') := by
    intro c is_point
    rw [eq_of_beq is_point]
    rfl
  exact ⟨boundary, digits, ⟨⟨point, digits⟩, trivial⟩, boundary, trivial⟩

theorem strings_before (before before' s : List Char) : strings before s = strings before' s :=
  Regex.replaceFrom_before (local_reStringLit fun _ => false) ['?'] (by simp)

theorem numbers_before (same : before.head?.any isWord = before'.head?.any isWord)
    (s : List Char) : numbers before s = numbers before' s :=
  Regex.replaceFrom_before local_reNumber ['?'] same

/-- Where no number goes on, what is before makes no difference. -/
theorem numbers_apart (next : StartsOutside isDigit s) : numbers before s = numbers [] s := by
  cases s with
  | nil => rfl
  | cons c s =>
    have alone : ∀ before, numbers before (c :: s) = c :: numbers (c :: before) s :=
      fun before => numbers_free (numberFree_of_no_digit _ (List.forall_mem_singleton.mpr next)) s
    have same : numbers (c :: before) s = numbers [c] s := numbers_before (by rfl) s
    rw [alone before, alone [], same]

/-- A run of tight characters has its numbers to itself. -/
theorem numbers_tight (next : StartsOutside isTight t) (w : List Char) :
    numbers [] (w ++ t) = numbers [] w ++ numbers [] t := by
  have apart : StartsOutside isDigit t := next.mono fun _ => isTight_of_isDigit
  have whole : numbers [] (w ++ t) = numbers [] w ++ numbers (w.reverse ++ []) t :=
    Regex.replaceFrom_local local_reNumber next ['?'] rfl
  rw [whole, numbers_apart apart]

theorem blanks_before (before before' s : List Char) : blanks before s = blanks before' s :=
  Regex.replaceFrom_before (local_reWhitespc fun _ => false) [' '] (by simp)

theorem blanks_part (next : StartsOutside isBlank t) (w : List Char) :
    blanks [] (w ++ t) = blanks [] w ++ blanks [] t := by
  have whole : blanks [] (w ++ t) = blanks [] w ++ blanks (w.reverse ++ []) t :=
    Regex.replaceFrom_local (local_reWhitespc fun _ => false) next [' '] rfl
  rw [whole, blanks_before (w.reverse ++ []) []]

/-! ## Blanks -/

theorem squeeze_outside (no_blank : isBlank c = false) (s : List Char) :
    squeeze (c :: s) = c :: squeeze s := by
  rw [squeeze, no_blank]
  rfl

/-- A stretch of blanks becomes one. -/
theorem squeeze_run (some_char : u ≠ []) (all : u.all isBlank = true)
    (next : StartsOutside isBlank t) : squeeze (u ++ t) = ' ' :: squeeze t := by
  induction u with
  | nil => exact absurd rfl some_char
  | cons c u ih =>
    rw [List.all_cons, Bool.and_eq_true] at all
    rw [List.cons_append, squeeze, all.1]
    by_cases last : u = []
    · have alone : ([] ++ t).head?.any isBlank = false := next
      rw [last, alone]
      rfl
    · rw [any_head?_of_all last all.2 t]
      exact ih last all.2

theorem blanks_run (some_char : u ≠ []) (all : u.all isBlank = true)
    (next : StartsOutside isBlank t) : blanks before (u ++ t) = ' ' :: blanks before t := by
  cases u with
  | nil => exact absurd rfl some_char
  | cons c u =>
    have found : (Regex.ends reWhitespc ⟨before, c :: u ++ t, []⟩).head? =
        some ⟨(c :: u).reverse ++ before, t, []⟩ :=
      Regex.head?_plus_cls some_char all next
    have replaced : blanks before (c :: (u ++ t)) =
        ' ' :: blanks ((c :: u).reverse ++ before) t :=
      Regex.replaceFrom_match found rfl
    rw [List.cons_append, replaced, blanks_before _ before]

/-- A text that begins with a blank begins with a stretch of them. -/
theorem exists_run (p : Char → Bool) (s : List Char) :
    ∃ u t, s = u ++ t ∧ u.all p = true ∧ StartsOutside p t ∧
      (s.head?.any p = true → u ≠ []) := by
  refine ⟨s.takeWhile p, s.dropWhile p, List.takeWhile_append_dropWhile.symm,
    List.all_takeWhile, startsOutside_dropWhile p s, ?_⟩
  intro first
  cases s with
  | nil => cases first
  | cons c s =>
    have inside : p c = true := first
    rw [List.takeWhile_cons_of_pos inside]
    exact List.cons_ne_nil _ _

/-- What the last pass makes of a text. -/
theorem blanks_eq_squeeze (before s : List Char) : blanks before s = squeeze s := by
  induction h : s.length using Nat.strongRecOn generalizing s with
  | ind n ih =>
    subst h
    obtain ⟨u, t, rfl, all, next, _⟩ := exists_run isBlank s
    by_cases nothing : u = []
    · subst nothing
      cases t with
      | nil => rfl
      | cons c t =>
        have alone : blanks before ([c] ++ t) = [c] ++ blanks (c :: before) t :=
          blanks_outside (List.forall_mem_singleton.mpr next) t
        have later := ih t.length (Nat.lt_succ_self _) t rfl
        rw [List.nil_append, squeeze_outside next, ← later, blanks_before before (c :: before) t]
        exact alone
    · have shorter : t.length < (u ++ t).length := by
        have := List.length_pos_iff.mpr nothing
        rw [List.length_append]
        omega
      rw [blanks_run nothing all next, squeeze_run nothing all next, ih t.length shorter t rfl]

/-! ## Pieces of a query -/

/-- The passes leave the first character, or put their mark or a blank in its place. -/
theorem startsOutside_passes {p : Char → Bool} (outside : StartsOutside p s)
    (mark : p '?' = false) (blank : ∀ u, IsRun u → StartsOutside p u → p ' ' = false) :
    StartsOutside p (passes [] [] [] s) := by
  have first := startsOutside_strings outside mark []
  have second := startsOutside_numbers first mark []
  exact (replaced_blanks [] _).startsOutside second (fun _ run => run.1) blank

/-- A stretch of white space stays white space. -/
theorem run_startsInside (run : IsRun u) : ¬ StartsOutside goIsSpace u := by
  intro outside
  have first := isRun_first run
  rw [show u.head?.any isBlank = false from outside.mono fun _ => goIsSpace_of_isBlank] at first
  cases first

/-- Behind no word the passes do not depend on what is before. -/
theorem passes_before {p b r : List Char} (outside : StartsOutside isWord b) (s : List Char) :
    passes p b r s = passes [] [] [] s := by
  have second : numbers b (strings [] s) = numbers [] (strings [] s) :=
    numbers_before (by exact outside) _
  rw [passes, strings_before p [], second, blanks_before r []]
  rfl

theorem passes_mark (tight : isTight c = false) (space : goIsSpace c = false) (plain : c ≠ '\'')
    (s : List Char) : passes [] [] [] (c :: s) = c :: passes [] [] [] s := by
  have no_word : isWord c = false := outside_mono (fun _ => isTight_of_isWord) tight
  have no_blank : isBlank c = false := outside_mono (fun _ => goIsSpace_of_isBlank) space
  have kept : passes [] [] [] ([c] ++ s) = [c] ++ passes [c] [c] [c] s :=
    passes_plain (by simpa using Ne.symm plain)
      (List.forall_mem_singleton.mpr (outside_mono (fun _ => isWord_of_isDigit) no_word))
      (List.forall_mem_singleton.mpr no_blank)
  rw [passes_before (b := [c]) no_word] at kept
  exact kept

theorem passes_literal {body : List Char} (closed : scanQuoted false '\'' t = some (body, s)) :
    passes [] [] [] ('\'' :: t) = '?' :: passes [] [] [] s := by
  obtain ⟨rfl, inner, next⟩ := MysqlLexer.scanQuoted_some closed
  obtain ⟨p', whole⟩ := passes_string inner next [] [] []
  rw [whole, passes_before (b := ['?']) rfl]

theorem passes_spaces (here : Stretch goIsSpace u s) :
    passes [] [] [] (u ++ s) = squeeze u ++ passes [] [] [] s := by
  have each : ∀ x ∈ u, goIsSpace x = true := List.all_eq_true.mp here.all
  have no_quote : '\'' ∉ u := fun member => Bool.false_ne_true (each _ member)
  have no_word : ∀ x ∈ u, isWord x = false := fun x member =>
    not_isWord_of_goIsSpace (each x member)
  have no_digit : ∀ x ∈ u, isDigit x = false := fun x member =>
    outside_mono (fun _ => isWord_of_isDigit) (no_word x member)
  have behind : (u.reverse ++ []).head?.any isWord = ([] : List Char).head?.any isWord := by
    rw [List.append_nil]
    exact endsOutside_iff_reverse.mp (endsOutside_of_all here.all fun _ => not_isWord_of_goIsSpace)
  have no_blank : StartsOutside isBlank s := here.next.mono fun _ => goIsSpace_of_isBlank
  have next := startsOutside_numbers (startsOutside_strings no_blank rfl []) rfl []
  rw [passes, strings_outside no_quote, strings_before _ [],
    numbers_free (numberFree_of_no_digit _ no_digit), numbers_before behind, blanks_part next,
    blanks_eq_squeeze]
  rfl

/-- The numbers of a run of tight characters do not depend on what follows. -/
theorem passes_tight (tight : w.all isTight = true) (next : StartsOutside isTight s) :
    passes [] [] [] (w ++ s) = numbers [] w ++ passes [] [] [] s := by
  have each : ∀ x ∈ w, isTight x = true := List.all_eq_true.mp tight
  have no_quote : '\'' ∉ w := fun member => Bool.false_ne_true (each _ member)
  have no_blank : ∀ x ∈ numbers [] w, isBlank x = false := by
    intro x member
    rcases (replaced_numbers [] w).mem member with old | rfl
    · exact not_isBlank_of_isTight (each x old)
    · rfl
  have next' : StartsOutside isTight (strings [] s) := startsOutside_strings next rfl []
  rw [passes, strings_outside no_quote, strings_before _ [], numbers_tight next',
    blanks_outside no_blank, blanks_before _ []]
  rfl

/-! ## Numbers -/

theorem Number.all_whole (n : Number) : n.whole.all isDigit = true := by
  have all := n.digits
  rw [List.all_append, Bool.and_eq_true] at all
  exact all.1

theorem Number.all_places (n : Number) {es : List Char} (places : n.places = some es) :
    es.all isDigit = true := by
  have all := n.digits
  rw [List.all_append, Bool.and_eq_true, places] at all
  exact all.2

/-- What the second pass makes of a number; `letter` tells whether a letter follows it. -/
def Number.masked (letter : Bool) (n : Number) : List Char :=
  match n.places with
  | none => ['?']
  | some [] => ['?', '.']
  | some (e :: es) =>
    if letter then (if n.whole.isEmpty then [] else ['?']) ++ '.' :: e :: es
    else if n.whole.isEmpty then ['.', '?']
    else ['?']

theorem numbers_dot (before s : List Char) :
    numbers before ('.' :: s) = '.' :: numbers ['.'] s := by
  have kept : numbers before ('.' :: s) = '.' :: numbers ('.' :: before) s :=
    numbers_free (numberFree_of_no_digit _ (List.forall_mem_singleton.mpr rfl)) s
  have same : numbers ('.' :: before) s = numbers ['.'] s := numbers_before (by rfl) s
  rw [kept, same]

/-- Digits that a letter follows are kept. -/
theorem numbers_letter (outside : StartsOutside isWord before) (digits : u.all isDigit = true)
    (apart : StartsOutside isDigit w) (letter : w.head?.any isWord = true) :
    numbers before (u ++ w) = u ++ numbers [] w := by
  cases w with
  | nil => cases letter
  | cons c w =>
    have free : numberFree (before.head?.any isWord) (u ++ [c]) = true := by
      rw [show before.head?.any isWord = false from outside]
      exact numberFree_digits digits ⟨letter, apart⟩ rfl
    have kept := numbers_free free w
    have kept' : numbers [] (c :: w) = c :: numbers [c] w :=
      numbers_free (numberFree_of_no_digit _ (List.forall_mem_singleton.mpr apart)) w
    have same : numbers ((u ++ [c]).reverse ++ before) w = numbers [c] w :=
      numbers_before (by simp) w
    rw [same, List.append_assoc, List.append_assoc] at kept
    rw [kept']
    exact kept

theorem no_digit_of_apart (apart : StartsOutside (fun c => isDigit c || c == '.') w) :
    StartsOutside isDigit w :=
  apart.mono fun c digit => by rw [digit]; rfl

/-- Places are a number of their own behind the point, if they are not kept. -/
theorem numbers_places (digits : u.all isDigit = true) (some_char : u ≠ [])
    (apart : StartsOutside (fun c => isDigit c || c == '.') w) :
    numbers ['.'] (u ++ w) = (if w.head?.any isWord then u else ['?']) ++ numbers [] w := by
  have no_digit := no_digit_of_apart apart
  cases letter : w.head?.any isWord with
  | true => exact numbers_letter rfl digits no_digit letter
  | false =>
    have next : StartsOutside (fun c => isWord c || c == '.') w := by
      cases w with
      | nil => rfl
      | cons c w =>
        have no_point : (c == '.') = false := (Bool.or_eq_false_iff.mp apart).2
        exact Bool.or_eq_false_iff.mpr ⟨letter, no_point⟩
    rw [numbers_int rfl some_char digits next, numbers_apart no_digit]
    rfl

/-- What is left of a number and the rest of its run. -/
theorem numbers_number {n : Number} (apart : StartsOutside (fun c => isDigit c || c == '.') w)
    (int : n.places = none → w = []) :
    numbers [] (n.text ++ w) = n.masked (w.head?.any isWord) ++ numbers [] w := by
  have no_digit := no_digit_of_apart apart
  have digits := n.all_whole
  have some_digit := n.some_digit
  rw [Number.text, Number.masked]
  cases places : n.places with
  | none =>
    rw [places, Option.getD_none, List.append_nil] at some_digit
    have alone : numbers [] (n.whole ++ []) = '?' :: numbers (n.whole.reverse ++ []) [] :=
      numbers_int (by rfl) some_digit digits rfl
    rw [int places, Option.elim_none, List.append_nil, alone]
    rfl
  | some es =>
    have digits' := n.all_places places
    rw [places, Option.getD_some] at some_digit
    rw [Option.elim_some, List.append_assoc, List.cons_append]
    cases es with
    | nil =>
      rw [List.append_nil] at some_digit
      rw [numbers_point rfl some_digit digits digits' no_digit (Or.inl rfl), numbers_dot,
        List.nil_append, numbers_apart no_digit]
      rfl
    | cons e es =>
      have some_char : e :: es ≠ [] := List.cons_ne_nil _ _
      by_cases nothing : n.whole = []
      · rw [nothing, List.nil_append, numbers_dot, numbers_places digits' some_char apart]
        cases w.head?.any isWord with
        | true => rfl
        | false => rfl
      · have full : n.whole.isEmpty = false := by simpa using nothing
        cases letter : w.head?.any isWord with
        | true =>
          rw [numbers_point rfl nothing digits digits' no_digit (Or.inr letter), numbers_dot,
            numbers_places digits' some_char apart, letter, full]
          rfl
        | false =>
          rw [numbers_decimal rfl nothing digits some_char digits' letter, numbers_apart no_digit,
            full]
          rfl

end

end MysqlRedshift.Proxy.Cache
