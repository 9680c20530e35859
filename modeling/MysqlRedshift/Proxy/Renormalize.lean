import MysqlRedshift.Proxy.Spellings

/-!
# Normalising again

The passes have nothing left to do in a text that they have gone through: at most one quote
is in it, no number, and its blanks are alone.
-/

namespace MysqlRedshift.Proxy.Cache

open MysqlRedshift.Misc
open MysqlRedshift.Misc.Regex (mem_ends_all_cons mem_ends_all_nil mem_ends_assert mem_ends_cls
  mem_ends_opt mem_ends_plus_cls mem_ends_star_cls replaceFrom_induction replaceFrom_none
  rounds_subset)

variable {before s t u w : List Char} {c x : Char} {xs : List Char}

/-! ## Quotes -/

/-- A quote that another follows begins a match. -/
theorem ends_reStringLit_ne_nil (closed : '\'' ∈ t) :
    Regex.ends reStringLit ⟨before, '\'' :: t, []⟩ ≠ [] := by
  obtain ⟨u, v, rfl, first⟩ := List.eq_append_cons_of_mem closed
  have plain : u.all (fun c => c != '\'') = true := by
    rw [List.all_eq_true]
    intro c member
    rw [bne_iff_ne]
    rintro rfl
    exact first member
  have inner : (⟨u.reverse ++ '\'' :: before, '\'' :: v, []⟩ : Cursor) ∈
      Regex.ends (.star literalRound) ⟨'\'' :: before, u ++ '\'' :: v, []⟩ :=
    rounds_subset (fun _ => List.subset_append_left _ _) _
      (mem_ends_star_cls.mpr ⟨u, _, rfl, plain, rfl⟩)
  have whole : (⟨'\'' :: (u.reverse ++ '\'' :: before), v, []⟩ : Cursor) ∈
      Regex.ends reStringLit ⟨before, '\'' :: (u ++ '\'' :: v), []⟩ :=
    mem_ends_all_cons.mpr ⟨_, mem_ends_cls.mpr ⟨'\'', _, rfl, rfl, rfl⟩,
      mem_ends_all_cons.mpr ⟨_, inner,
        mem_ends_all_cons.mpr ⟨_, mem_ends_cls.mpr ⟨'\'', v, rfl, rfl, rfl⟩,
          mem_ends_all_nil.mpr rfl⟩⟩⟩
  exact List.ne_nil_of_mem whole

/-- At most one quote is left. -/
theorem count_strings (before s : List Char) : (strings before s).count '\'' ≤ 1 := by
  induction before, s using replaceFrom_induction takes_reStringLit fun _ => isLiteral_ne_nil with
  | nil before => exact Nat.zero_le _
  | kept before x xs nothing ih =>
    have kept : strings before (x :: xs) = x :: strings (x :: before) xs := replaceFrom_none nothing
    rw [kept]
    by_cases is_quote : x = '\''
    · subst is_quote
      have alone : '\'' ∉ xs := fun member => ends_reStringLit_ne_nil member nothing
      have later := (replaced_strings ('\'' :: before) xs).count_le (x := '\'') (by decide)
      rw [List.count_eq_zero_of_not_mem alone] at later
      rw [List.count_cons_self]
      omega
    · rw [List.count_cons_of_ne is_quote]
      exact ih
  | taken before x w rest d literal member ends_at replaced ih =>
    have mark : strings before (x :: w ++ rest) = '?' :: strings _ rest := replaced ['?']
    rw [mark, List.count_cons_of_ne (by decide)]
    exact ih

theorem lone_of_count_le (once : w.count '\'' ≤ 1) : Lone w [] := by
  rintro early late rfl member
  rw [List.append_nil] at member
  have more := List.count_pos_iff.mpr member
  rw [List.count_append, List.count_cons_self] at once
  omega

/-! ## Numbers -/

/-- Digits behind no word and before none begin a match. -/
theorem ends_reNumber_ne_nil (outside : before.head?.any isWord = false) (digit : isDigit c = true)
    (stops : (s.dropWhile isDigit).head?.any isWord = false) :
    Regex.ends reNumber ⟨before, c :: s, []⟩ ≠ [] := by
  have split : c :: s = (c :: s.takeWhile isDigit) ++ s.dropWhile isDigit := by
    rw [List.cons_append, List.takeWhile_append_dropWhile]
  have some_char : c :: s.takeWhile isDigit ≠ [] := List.cons_ne_nil _ _
  have digits : (c :: s.takeWhile isDigit).all isDigit = true := by
    rw [List.all_cons, digit, List.all_takeWhile]
    rfl
  have start : (before.head?.any isWord != (c :: s).head?.any isWord) = true := by
    rw [outside, List.head?_cons, Option.any_some, isWord_of_isDigit digit]
    rfl
  have boundary : (((c :: s.takeWhile isDigit).reverse ++ before).head?.any isWord !=
      (s.dropWhile isDigit).head?.any isWord) = true := by
    rw [inWord_behind some_char digits, stops]
    rfl
  exact List.ne_nil_of_mem (mem_ends_all_cons.mpr ⟨_, mem_ends_assert.mpr ⟨start, rfl⟩,
    mem_ends_all_cons.mpr ⟨_, mem_ends_plus_cls.mpr ⟨_, _, split, some_char, digits, rfl⟩,
      mem_ends_all_cons.mpr ⟨_, mem_ends_opt.mpr (Or.inr rfl),
        mem_ends_all_cons.mpr ⟨_, mem_ends_assert.mpr ⟨boundary, rfl⟩,
          mem_ends_all_nil.mpr rfl⟩⟩⟩⟩)

/-- Digits of a word go on as before. -/
theorem goes_on_numbers (inWord : before.head?.any isWord = true)
    (goes_on : (s.dropWhile isDigit).head?.any isWord = true) :
    ((numbers before s).dropWhile isDigit).head?.any isWord = true := by
  obtain ⟨u, t, rfl, digits, next, _⟩ := exists_run isDigit s
  rw [dropWhile_append_of_startsOutside digits next] at goes_on
  cases t with
  | nil => cases goes_on
  | cons c t =>
    have word : isWord c = true := goes_on
    have free : numberFree (before.head?.any isWord) (u ++ [c]) = true := by
      rw [inWord]
      apply numberFree_of_inWord
      rw [List.all_append, all_isWord_of_digits digits, List.all_cons, word]
      rfl
    have kept := numbers_free free t
    rw [List.append_assoc, List.append_assoc] at kept
    have whole : numbers before (u ++ c :: t) = u ++ ([c] ++ _) := kept
    rw [whole, dropWhile_append_of_startsOutside digits (by exact next)]
    exact word

theorem numberFree_apart {inWord : Bool} (next : StartsOutside isDigit w)
    (free : numberFree inWord w = true) : numberFree false w = true := by
  cases w with
  | nil => rfl
  | cons c w =>
    rw [numberFree, Bool.and_eq_true] at free
    have no_digit : isDigit c = false := next
    rw [numberFree, free.2, no_digit]
    rfl

/-- No number is left. -/
theorem numberFree_numbers (before s : List Char) :
    numberFree (before.head?.any isWord) (numbers before s) = true := by
  induction before, s using replaceFrom_induction takes_reNumber fun _ => isNumeral_ne_nil with
  | nil before => rfl
  | kept before x xs nothing ih =>
    have kept : numbers before (x :: xs) = x :: numbers (x :: before) xs := replaceFrom_none nothing
    have later : numberFree (isWord x) (numbers (x :: before) xs) = true := ih
    rw [kept, numberFree, later, Bool.and_true, Bool.or_eq_true, Bool.or_eq_true,
      Bool.not_eq_true']
    by_cases inWord : before.head?.any isWord = true
    · exact Or.inl (Or.inl inWord)
    by_cases digit : isDigit x = true
    · have behind : (x :: before).head?.any isWord = true := isWord_of_isDigit digit
      right
      apply goes_on_numbers behind
      by_contra stops
      exact ends_reNumber_ne_nil (Bool.eq_false_iff.mpr inWord) digit
        (Bool.eq_false_iff.mpr stops) nothing
    · exact Or.inl (Or.inr (Bool.eq_false_iff.mpr digit))
  | taken before x w rest d numeral member ends_at replaced ih =>
    have mark : numbers before (x :: w ++ rest) = '?' :: numbers _ rest := replaced ['?']
    obtain ⟨_, _, _, _, _, _, _, outside, _⟩ := mem_ends_reNumber member
    rw [ends_at] at outside
    have next : StartsOutside isDigit (numbers ((x :: w).reverse ++ before) rest) :=
      startsOutside_numbers (StartsOutside.mono outside fun _ => isWord_of_isDigit) rfl _
    rw [mark, numberFree, show isWord '?' = false from rfl, numberFree_apart next ih]
    simp [isDigit]

/-! ## Blanks -/

theorem head?_squeeze (s : List Char) :
    (squeeze s).head?.any isBlank = s.head?.any isBlank := by
  induction s using squeeze.induct with
  | case1 => rfl
  | case2 c cs no_blank ih => rw [squeeze, if_pos no_blank]; rfl
  | case3 c cs blank more ih =>
    have blank' : isBlank c = true := by simpa using blank
    rw [squeeze, if_neg blank, if_pos more, ih, more]
    exact blank'.symm
  | case4 c cs blank last ih =>
    have blank' : isBlank c = true := by simpa using blank
    rw [squeeze, if_neg blank, if_neg last]
    exact blank'.symm

/-- The blanks left are alone. -/
theorem singleBlanks_squeeze (s : List Char) : singleBlanks (squeeze s) = true := by
  induction s using squeeze.induct with
  | case1 => rfl
  | case2 c cs no_blank ih => rw [squeeze, if_pos no_blank, singleBlanks, ih, no_blank]; rfl
  | case3 c cs blank more ih => rw [squeeze, if_neg blank, if_pos more, ih]
  | case4 c cs blank last ih =>
    rw [squeeze, if_neg blank, if_neg last, singleBlanks, ih, head?_squeeze,
      Bool.eq_false_iff.mpr last]
    rfl

theorem goes_on_squeeze (s : List Char) :
    ((squeeze s).dropWhile isDigit).head?.any isWord =
      (s.dropWhile isDigit).head?.any isWord := by
  have first {c : Char} (blank : isBlank c = true) (t : List Char) :
      ((c :: t).dropWhile isDigit).head?.any isWord = false := by
    have no_word : isWord c = false := not_isWord_of_goIsSpace (goIsSpace_of_isBlank blank)
    have no_digit : isDigit c = false := outside_mono (fun _ => isWord_of_isDigit) no_word
    rw [List.dropWhile_cons, no_digit]
    exact no_word
  induction s using squeeze.induct with
  | case1 => rfl
  | case2 c cs no_blank ih =>
    rw [squeeze, if_pos no_blank, List.dropWhile_cons, List.dropWhile_cons]
    split
    · exact ih
    · rfl
  | case3 c cs blank more ih =>
    rw [squeeze, if_neg blank, if_pos more, ih, first (by simpa using blank)]
    cases cs with
    | nil => rfl
    | cons d cs => exact first more cs
  | case4 c cs blank last ih =>
    rw [squeeze, if_neg blank, if_neg last, first rfl, first (by simpa using blank)]

/-- Where no number is, none is among single blanks. -/
theorem numberFree_squeeze {inWord : Bool} (free : numberFree inWord s = true) :
    numberFree inWord (squeeze s) = true := by
  have outside {c : Char} (blank : ¬(!isBlank c) = true) : isWord c = false :=
    not_isWord_of_goIsSpace (goIsSpace_of_isBlank (by simpa using blank))
  induction s using squeeze.induct generalizing inWord with
  | case1 => rfl
  | case2 c cs no_blank ih =>
    rw [numberFree, Bool.and_eq_true] at free
    rw [squeeze, if_pos no_blank, numberFree, goes_on_squeeze, free.1, ih free.2]
    rfl
  | case3 c cs blank more ih =>
    rw [numberFree, Bool.and_eq_true, outside blank] at free
    rw [squeeze, if_neg blank, if_pos more]
    exact numberFree_mono (ih free.2)
  | case4 c cs blank last ih =>
    rw [numberFree, Bool.and_eq_true, outside blank] at free
    rw [squeeze, if_neg blank, if_neg last, numberFree, show isWord ' ' = false from rfl, ih free.2]
    simp [isDigit]

/-! ## The passes again -/

/-- The passes change nothing in what they leave. -/
theorem passes_passes (s : List Char) :
    passes [] [] [] (passes [] [] [] s) = passes [] [] [] s := by
  have once : (passes [] [] [] s).count '\'' ≤ 1 := by
    have second := (replaced_numbers [] (strings [] s)).count_le (x := '\'') (by decide)
    have third := (replaced_blanks [] (numbers [] (strings [] s))).count_le (x := '\'') (by decide)
    exact (third.trans second).trans (count_strings [] s)
  have squeezed : passes [] [] [] s = squeeze (numbers [] (strings [] s)) := blanks_eq_squeeze _ _
  have free : numberFree false (passes [] [] [] s) = true := by
    rw [squeezed]
    exact numberFree_squeeze (numberFree_numbers [] _)
  have single : singleBlanks (passes [] [] [] s) = true := by
    rw [squeezed]
    exact singleBlanks_squeeze _
  generalize passes [] [] [] s = t at *
  have first : strings [] (t ++ []) = t ++ [] := strings_lone (lone_of_count_le once)
  have second : numbers [] (t ++ []) = t ++ [] := numbers_free (by exact free) []
  have third : blanks [] (t ++ []) = t ++ [] := blanks_single single rfl
  rw [List.append_nil] at first second third
  rw [passes, first, second, third]

/-- The passes do not make a text longer. -/
theorem length_passes_le (s : List Char) : (passes [] [] [] s).length ≤ s.length := by
  have first := (replaced_strings [] s).length_le fun _ => isLiteral_ne_nil
  have second := (replaced_numbers [] (strings [] s)).length_le fun _ => isNumeral_ne_nil
  have third := (replaced_blanks [] (numbers [] (strings [] s))).length_le fun _ run => run.1
  exact (third.trans second).trans first

end MysqlRedshift.Proxy.Cache
