import MysqlRedshift.Proxy.Renormalize

/-!
# Spellings and keys

Which spellings of a query share its key. The passes make one text of two spellings exactly
if the gaps and the numbers correspond as `SameGap` and `SameForm` say, and they leave such a
text as it is when it is normalised again; the trimming before them is complete when the end
of the query is tidy.
-/

namespace MysqlRedshift.Proxy.Cache

open MysqlRedshift.Misc
open MysqlRedshift.Misc.MysqlLexer (scanQuoted)

variable {s s' u v w x y : List Char} {before : List Char} {c : Char} {n n' : Number}

/-! ## Corresponding numbers -/

theorem Number.whole_ne_nil (n : Number) (point : n.places = some []) : n.whole ≠ [] := by
  have some_digit := n.some_digit
  rwa [point, Option.getD_some, List.append_nil] at some_digit

/-- A number with a point that no letter follows, by its ends. -/
theorem Number.masked_false (n : Number) : n.masked false =
    if n.whole = [] then ['.', '?'] else if n.places = some [] then ['?', '.'] else ['?'] := by
  have some_digit := n.some_digit
  rw [Number.masked]
  cases places : n.places with
  | none =>
    rw [places, Option.getD_none, List.append_nil] at some_digit
    rw [if_neg some_digit, if_neg (Option.some_ne_none _).symm]
  | some es =>
    cases es with
    | nil => rw [if_neg (n.whole_ne_nil places), if_pos rfl]
    | cons e es => simp

/-- A number that a letter follows keeps its places. -/
theorem Number.masked_true {es : List Char} (places : n.places = some es) : n.masked true =
    (if n.whole = [] then [] else ['?']) ++ '.' :: es := by
  rw [Number.masked, places]
  cases es with
  | nil =>
    rw [if_neg (n.whole_ne_nil places)]
    rfl
  | cons e es => simp

/-- A number begins with a point before and after. -/
theorem Number.head?_masked (n : Number) (letter : Bool) (x : List Char) :
    (n.masked letter ++ x).head? = some (if n.whole = [] then '.' else '?') := by
  cases letter with
  | false =>
    rw [n.masked_false]
    by_cases front : n.whole = []
    · simp [front]
    · by_cases back : n.places = some []
      · simp [front, back]
      · simp [front, back]
  | true =>
    cases places : n.places with
    | none =>
      have some_digit := n.some_digit
      rw [places, Option.getD_none, List.append_nil] at some_digit
      rw [Number.masked, places, if_neg some_digit]
      rfl
    | some es =>
      rw [n.masked_true places]
      by_cases front : n.whole = []
      · simp [front]
      · simp [front]

theorem SameForm.masked_eq {letter : Bool} (same : SameForm letter n n') :
    n.masked letter = n'.masked letter := by
  cases letter with
  | false => simp only [Number.masked_false, same.front, same.back]
  | true =>
    have equal := same.places rfl
    cases places : n.places with
    | none => rw [Number.masked, Number.masked, ← equal, places]
    | some es =>
      rw [Number.masked_true places, Number.masked_true (equal.symm.trans places)]
      simp only [same.front]

theorem whole_eq_nil_iff {letter : Bool} (same : n.masked letter ++ x = n'.masked letter ++ y) :
    n.whole = [] ↔ n'.whole = [] := by
  have heads := congrArg List.head? same
  rw [n.head?_masked, n'.head?_masked] at heads
  by_cases first : n.whole = []
  · by_cases first' : n'.whole = []
    · exact iff_of_true first first'
    · simp [first, first'] at heads
  · by_cases first' : n'.whole = []
    · simp [first, first'] at heads
    · exact iff_of_false first first'

/-- Where no digit follows, the places of two numbers are told apart from what follows. -/
theorem masked_true_inj {es es' : List Char} (places : n.places = some es)
    (places' : n'.places = some es') (next : StartsOutside isDigit x)
    (next' : StartsOutside isDigit y) (same : n.masked true ++ x = n'.masked true ++ y) :
    SameForm true n n' ∧ x = y := by
  have front := whole_eq_nil_iff same
  have lead : (if n.whole = [] then [] else ['?']) = if n'.whole = [] then [] else ['?'] := by
    simp only [front]
  rw [n.masked_true places, n'.masked_true places', lead, List.append_assoc,
    List.append_assoc] at same
  have behind : es ++ x = es' ++ y := (List.cons.inj (List.append_cancel_left same)).2
  obtain ⟨rfl, rfl⟩ := run_unique (n.all_places places) (n'.all_places places') next next' behind
  exact ⟨⟨front, by rw [places, places'], fun _ => by rw [places, places']⟩, rfl⟩

/-- Where no point follows, a point at the end of a number is its own. -/
theorem masked_false_inj (next : StartsOutside (· == '.') x) (next' : StartsOutside (· == '.') y)
    (same : n.masked false ++ x = n'.masked false ++ y) : SameForm false n n' ∧ x = y := by
  have front := whole_eq_nil_iff same
  have no_point {z t : List Char} (outside : StartsOutside (· == '.') z) : z ≠ '.' :: t := by
    rintro rfl
    cases outside
  have alike (back : n.places = some [] ↔ n'.places = some []) : SameForm false n n' :=
    ⟨front, back, fun absurd => by cases absurd⟩
  rw [n.masked_false, n'.masked_false] at same
  by_cases first : n.whole = []
  · have first' := front.mp first
    rw [if_pos first, if_pos first'] at same
    refine ⟨alike (iff_of_false ?_ ?_), List.append_cancel_left same⟩
    · exact fun point => n.whole_ne_nil point first
    · exact fun point => n'.whole_ne_nil point first'
  · rw [if_neg first, if_neg (mt front.mpr first)] at same
    by_cases back : n.places = some []
    · by_cases back' : n'.places = some []
      · rw [if_pos back, if_pos back'] at same
        exact ⟨alike (iff_of_true back back'), List.append_cancel_left same⟩
      · rw [if_pos back, if_neg back'] at same
        exact absurd (List.cons.inj same).2.symm (no_point next')
    · by_cases back' : n'.places = some []
      · rw [if_neg back, if_pos back'] at same
        exact absurd (List.cons.inj same).2 (no_point next)
      · rw [if_neg back, if_neg back'] at same
        exact ⟨alike (iff_of_false back back'), List.append_cancel_left same⟩

/-- Where neither a digit nor a point follows, what is left of a number tells what it does of
its form. -/
theorem masked_append_inj {letter : Bool} (int : n.places = none → letter = false)
    (int' : n'.places = none → letter = false)
    (apart : StartsOutside (fun c => isDigit c || c == '.') x)
    (apart' : StartsOutside (fun c => isDigit c || c == '.') y)
    (same : n.masked letter ++ x = n'.masked letter ++ y) : SameForm letter n n' ∧ x = y := by
  have point (c : Char) (is_point : (c == '.') = true) : (isDigit c || c == '.') = true := by
    rw [is_point, Bool.or_true]
  cases letter with
  | false => exact masked_false_inj (apart.mono point) (apart'.mono point) same
  | true =>
    obtain ⟨es, places⟩ : ∃ es, n.places = some es :=
      Option.ne_none_iff_exists'.mp fun none => by cases int none
    obtain ⟨es', places'⟩ : ∃ es, n'.places = some es :=
      Option.ne_none_iff_exists'.mp fun none => by cases int' none
    exact masked_true_inj places places' (no_digit_of_apart apart) (no_digit_of_apart apart') same

/-! ## Spellings the passes make one -/

theorem Number.all_isTight (n : Number) : n.text.all isTight = true := by
  have tight {u : List Char} (digits : u.all isDigit = true) : u.all isTight = true := by
    rw [List.all_eq_true] at digits ⊢
    exact fun x member => isTight_of_isDigit (digits x member)
  rw [Number.text, List.all_append, tight n.all_whole]
  cases places : n.places with
  | none => rfl
  | some es => rw [Option.elim_some, List.all_cons, tight (n.all_places places)]; rfl

/-- What the passes make of a number, of the rest of its run and of the text behind it. -/
theorem passes_numeral (tight : w.all isTight = true)
    (apart : StartsOutside (fun c => isDigit c || c == '.') w)
    (int : n.places = none → w = []) (next : StartsOutside isTight s) :
    passes [] [] [] (n.text ++ (w ++ s)) =
      n.masked (w.head?.any isWord) ++ (numbers [] w ++ passes [] [] [] s) := by
  have run : (n.text ++ w).all isTight = true := by
    rw [List.all_append, n.all_isTight, tight]
    rfl
  rw [← List.append_assoc, passes_tight run next, numbers_number apart int, List.append_assoc]

theorem outside_numeral (apart : StartsOutside (fun c => isDigit c || c == '.') w)
    (next : StartsOutside isTight s) :
    StartsOutside (fun c => isDigit c || c == '.') (numbers [] w ++ passes [] [] [] s) := by
  have tight : ∀ c, (isDigit c || c == '.') = true → isTight c = true := by
    intro c either
    rcases Bool.or_eq_true_iff.mp either with digit | point
    · exact isTight_of_isDigit digit
    · rw [eq_of_beq point]
      rfl
  have later : StartsOutside isTight (passes [] [] [] s) :=
    startsOutside_passes next rfl fun _ _ _ => rfl
  exact (any_head?_append (later.mono tight) _).trans (startsOutside_numbers apart rfl [])

/-- White space that stays in front of what follows is told apart from it. -/
theorem gap_append_inj (here : Stretch goIsSpace u s) (here' : Stretch goIsSpace v s')
    (same : squeeze u ++ passes [] [] [] s = squeeze v ++ passes [] [] [] s') :
    SameGap u v ∧ passes [] [] [] s = passes [] [] [] s' := by
  have spaces {u : List Char} (all : u.all goIsSpace = true) :
      (squeeze u).all goIsSpace = true := by
    rw [← blanks_eq_squeeze []]
    exact (replaced_blanks [] u).all all rfl
  have next {s : List Char} (outside : StartsOutside goIsSpace s) :
      StartsOutside goIsSpace (passes [] [] [] s) :=
    startsOutside_passes outside rfl fun _ run outside' =>
      absurd outside' (run_startsInside run)
  exact run_unique (spaces here.all) (spaces here'.all) (next here.next) (next here'.next) same

/-- The passes make one text of two spellings with the same gaps and forms. -/
theorem Respelt.passes_eq (alike : Respelt SameGap SameForm s s') :
    passes [] [] [] s = passes [] [] [] s' := by
  induction alike with
  | nil => rfl
  | spaces here here' gap later ih =>
    rw [passes_spaces here, passes_spaces here', ih, show squeeze _ = squeeze _ from gap]
  | string closed closed' later ih => rw [passes_literal closed, passes_literal closed', ih]
  | broken open_ => rfl
  | number tight apart int int' next next' form later ih =>
    rw [passes_numeral tight apart int next, passes_numeral tight apart int' next', ih,
      form.masked_eq]
  | name here here' later ih =>
    rw [passes_tight here.all here.next, passes_tight here'.all here'.next, ih]
  | mark tight space plain later ih =>
    rw [passes_mark tight space plain, passes_mark tight space plain, ih]

/-- Spellings that are closer are spellings. -/
theorem Respelt.mono {gap gap' : List Char → List Char → Prop}
    {form form' : Bool → Number → Number → Prop} (respelt : Respelt gap form s s')
    (gaps : ∀ u v, gap u v → gap' u v)
    (forms : ∀ letter n n', form letter n n' → form' letter n n') :
    Respelt gap' form' s s' := by
  induction respelt with
  | nil => exact .nil
  | spaces here here' alike later ih => exact .spaces here here' (gaps _ _ alike) ih
  | string closed closed' later ih => exact .string closed closed' ih
  | broken open_ => exact .broken open_
  | number tight apart int int' next next' alike later ih =>
    exact .number tight apart int int' next next' (forms _ _ _ alike) ih
  | name here here' later ih => exact .name here here' ih
  | mark tight space plain later ih => exact .mark tight space plain ih

/-- Of two spellings the passes make one text only if their gaps and forms are the same. -/
theorem Respelt.alike (respelt : Respelt (fun _ _ => True) (fun _ _ _ => True) s s')
    (same : passes [] [] [] s = passes [] [] [] s') : Respelt SameGap SameForm s s' := by
  induction respelt with
  | nil => exact .nil
  | spaces here here' gap later ih =>
    rw [passes_spaces here, passes_spaces here'] at same
    obtain ⟨gap', same'⟩ := gap_append_inj here here' same
    exact .spaces here here' gap' (ih same')
  | string closed closed' later ih =>
    rw [passes_literal closed, passes_literal closed'] at same
    exact .string closed closed' (ih (List.cons.inj same).2)
  | broken open_ => exact .broken open_
  | @number n n' w s s' tight apart int int' next next' form later ih =>
    have alone {n : Number} (int : n.places = none → w = []) :
        n.places = none → w.head?.any isWord = false := by
      intro none
      rw [int none]
      rfl
    rw [passes_numeral tight apart int next, passes_numeral tight apart int' next'] at same
    obtain ⟨form', same'⟩ := masked_append_inj (alone int) (alone int')
      (outside_numeral apart next) (outside_numeral apart next') same
    exact .number tight apart int int' next next' form' (ih (List.append_cancel_left same'))
  | name here here' later ih =>
    rw [passes_tight here.all here.next, passes_tight here'.all here'.next] at same
    exact .name here here' (ih (List.append_cancel_left same))
  | mark tight space plain later ih =>
    rw [passes_mark tight space plain, passes_mark tight space plain] at same
    exact .mark tight space plain (ih (List.cons.inj same).2)

/-! ## The end of a query -/

variable {db : UnicodeDb} {q q' : String}

/-- What is used of the Unicode database: lower case leaves white space and the semicolon
alone, makes none of them of another character, and is lower case already. -/
structure GoLower (db : UnicodeDb) : Prop extends GoUnicode db where
  toLower_goIsSpace : ∀ c, goIsSpace (db.toLower c) = goIsSpace c
  toLower_eq_semicolon : ∀ c, db.toLower c = ';' → c = ';'
  toLower_toLower : ∀ c, db.toLower (db.toLower c) = db.toLower c

theorem goLower_ascii : GoLower .ascii where
  toGoUnicode := goUnicode_ascii
  toLower_goIsSpace c := by
    show goIsSpace c.toLower = goIsSpace c
    rw [Bool.eq_iff_iff]
    simp only [goIsSpace, isWideSpace, toNat_toLower, Bool.or_eq_true, Bool.and_eq_true,
      decide_eq_true_eq, beq_iff_eq]
    split
    · omega
    · exact Iff.rfl
  toLower_eq_semicolon c lower := by
    have same : c.toLower.toNat = 59 := congrArg Char.toNat lower
    rw [toNat_toLower] at same
    rw [← Char.toNat_inj]
    show c.toNat = 59
    split at same
    · omega
    · exact same
  toLower_toLower c := by
    show c.toLower.toLower = c.toLower
    rw [← Char.toNat_inj, toNat_toLower c.toLower, if_neg]
    rw [toNat_toLower]
    split
    · omega
    · assumption

/-- What the trimming leaves of the end of a query. -/
def residue (x : List Char) : List Char := trimEnd (· == ';') (trimEnd goIsSpace (ending x))

theorem core_append_ending (x : List Char) : core x ++ ending x = x.dropWhile goIsSpace := by
  rw [core, trimEnd, ending, ← List.reverse_append, List.takeWhile_append_dropWhile,
    List.reverse_reverse]

theorem endsOutside_core (x : List Char) : EndsOutside isEnd (core x) := by
  obtain ⟨_, _, _, last⟩ := trimEnd_spec isEnd (x.dropWhile goIsSpace)
  exact last

theorem startsOutside_core (x : List Char) : StartsOutside goIsSpace (core x) := by
  have outside := startsOutside_dropWhile goIsSpace x
  rw [← core_append_ending] at outside
  exact startsOutside_of_append outside

theorem isEnd_of_goIsSpace (space : goIsSpace c = true) : isEnd c = true := by
  rw [isEnd, space]
  rfl

theorem isEnd_of_semicolon (semicolon : (c == ';') = true) : isEnd c = true := by
  rw [isEnd, semicolon, Bool.or_true]

theorem GoLower.toLower_semicolon_iff (go : GoLower db) (c : Char) :
    (db.toLower c == ';') = (c == ';') := by
  rw [Bool.eq_iff_iff, beq_iff_eq, beq_iff_eq]
  constructor
  · exact go.toLower_eq_semicolon c
  · rintro rfl
    exact go.toGoUnicode.toLower_semicolon

/-- A query can be put in lower case before it is trimmed. -/
theorem lowered_eq_trimmed (go : GoLower db) (q : String) :
    lowered db q = trimEnd (· == ';') (trimBoth goIsSpace (q.toList.map db.toLower)) := by
  have semicolon : (fun c => ";".toList.contains c) = (· == ';') := by
    funext c
    rw [Bool.eq_iff_iff]
    simp
  rw [trimBoth_map go.toLower_goIsSpace, trimEnd_map go.toLower_semicolon_iff]
  simp only [lowered, toLower, trimRight, trimSpace, String.toList_ofList, semicolon]

/-- The passes begin with the text of the query and what is left of its end. -/
theorem lowered_eq (go : GoLower db) (q : String) :
    lowered db q = core (toLower db q).toList ++ residue (toLower db q).toList := by
  have last := endsOutside_core (q.toList.map db.toLower)
  rw [lowered_eq_trimmed go, toLower, String.toList_ofList, residue, trimBoth_eq,
    ← core_append_ending, trimEnd_append_right (last.mono fun _ => isEnd_of_goIsSpace),
    trimEnd_append_right (last.mono fun _ => isEnd_of_semicolon)]

theorem all_isEnd_ending (x : List Char) : (ending x).all isEnd = true := by
  rw [ending, List.all_reverse]
  exact List.all_takeWhile

/-- Nothing is left of a tidy end, and of no other. -/
theorem residue_eq_nil_iff (x : List Char) : residue x = [] ↔ Tidy x := by
  rw [residue, trimEnd_eq_nil_iff, Tidy]
  constructor
  · intro semicolons
    obtain ⟨b, split, spaces, _⟩ := trimEnd_spec goIsSpace (ending x)
    have apart : StartsOutside (· == ';') b := by
      cases b with
      | nil => rfl
      | cons c b =>
        rw [List.all_cons, Bool.and_eq_true] at spaces
        show (c == ';') = false
        rw [beq_eq_false_iff_ne]
        rintro rfl
        cases spaces.1
    rw [split, dropWhile_append_of_startsOutside semicolons apart]
    exact spaces
  · intro spaces
    have split := List.takeWhile_append_dropWhile (p := (· == ';')) (l := ending x)
    have semicolons : ((ending x).takeWhile (· == ';')).all (· == ';') = true := List.all_takeWhile
    have last : EndsOutside goIsSpace ((ending x).takeWhile (· == ';')) := by
      refine endsOutside_of_all semicolons fun c semicolon => ?_
      rw [eq_of_beq semicolon]
      rfl
    rw [← split, trimEnd_append last spaces]
    exact semicolons

/-- What is left of the end of a query, if anything, ends with white space. -/
theorem endsOutside_residue (x : List Char) : EndsOutside (fun c => !goIsSpace c) (residue x) := by
  obtain ⟨_, split, _, _⟩ := trimEnd_spec goIsSpace (ending x)
  obtain ⟨_, split', _, last⟩ := trimEnd_spec (· == ';') (trimEnd goIsSpace (ending x))
  have all := all_isEnd_ending x
  rw [split, List.all_append, Bool.and_eq_true, split', List.all_append, Bool.and_eq_true] at all
  rw [EndsOutside]
  cases end_ : (residue x).getLast? with
  | none => rfl
  | some c =>
    have is_end := List.all_eq_true.mp all.1.1 c (List.mem_of_getLast? end_)
    have no_semicolon : (c == ';') = false := by
      rw [EndsOutside, show (trimEnd (· == ';') (trimEnd goIsSpace (ending x))).getLast? = some c
        from end_] at last
      exact last
    rw [isEnd, no_semicolon, Bool.or_false] at is_end
    rw [Option.any_some, is_end]
    rfl

/-- The passes leave the last character, or put their mark or a blank in its place. -/
theorem endsOutside_passes {p : Char → Bool} (outside : EndsOutside p s)
    (literal : ∀ t : List Char, EndsOutside p ('\'' :: (t ++ ['\''])) → p '?' = false)
    (numeral : ∀ u, IsNumeral u → EndsOutside p u → p '?' = false)
    (run : ∀ u, IsRun u → EndsOutside p u → p ' ' = false) :
    EndsOutside p (passes [] [] [] s) := by
  have closed : Replaced (fun w => ∃ t, w = '\'' :: (t ++ ['\''])) '?' s (strings [] s) :=
    Regex.replaced_replaceFrom takes_reStringLit_closed
      (fun _ ⟨_, same⟩ => same ▸ List.cons_ne_nil _ _) ..
  have first := closed.endsOutside outside fun _ ⟨t, same⟩ => same ▸ literal t
  exact (replaced_blanks [] _).endsOutside ((replaced_numbers [] _).endsOutside first numeral) run

theorem passes_ne_nil (some_char : s ≠ []) : passes [] [] [] s ≠ [] := by
  intro nothing
  have third := replaced_blanks [] (numbers [] (strings [] s))
  rw [show blanks [] (numbers [] (strings [] s)) = [] from nothing] at third
  have second := replaced_numbers [] (strings [] s)
  rw [third.eq_nil] at second
  have first := replaced_strings [] s
  rw [second.eq_nil] at first
  exact some_char first.eq_nil

/-- A tidy query has no white space at the end of its key. -/
theorem endsOutside_passes_core (x : List Char) : EndsOutside isEnd (passes [] [] [] (core x)) :=
  endsOutside_passes (endsOutside_core x) (fun _ _ => rfl) (fun _ _ _ => rfl)
    fun _ run last => absurd (eq_nil_of_endsOutside (l := []) last (List.all_eq_true.mpr
      fun c member => isEnd_of_goIsSpace (goIsSpace_of_isBlank
        (List.all_eq_true.mp run.2 c member)))) run.1

/-- A query that is not tidy has white space at the end of its key. -/
theorem not_endsOutside_passes {x : List Char} (untidy : residue x ≠ []) :
    ¬ EndsOutside goIsSpace (passes [] [] [] (core x ++ residue x)) := by
  have last : EndsOutside (fun c => !goIsSpace c) (passes [] [] [] (core x ++ residue x)) := by
    refine endsOutside_passes ((endsOutside_append_iff untidy).mpr (endsOutside_residue x)) ?_ ?_
      fun _ _ _ => rfl
    · intro t outside
      have quoted : EndsOutside (fun c => !goIsSpace c) ['\''] :=
        endsOutside_of_append (l := '\'' :: t) outside
      cases quoted
    · intro u numeral outside
      refine absurd (eq_nil_of_endsOutside (l := []) outside ?_) (isNumeral_ne_nil numeral)
      have digits := numeral.2
      rw [List.all_eq_true] at digits ⊢
      intro c member
      rcases Bool.or_eq_true_iff.mp (digits c member) with digit | point
      · rw [not_goIsSpace_of_isWord (isWord_of_isDigit digit)]
        rfl
      · rw [eq_of_beq point]
        rfl
  have some_char : passes [] [] [] (core x ++ residue x) ≠ [] :=
    passes_ne_nil (List.append_ne_nil_of_right_ne_nil _ untidy)
  rw [EndsOutside, List.getLast?_eq_some_getLast some_char, Option.any_some] at last ⊢
  intro outside
  rw [outside] at last
  cases last

/-! ## Keys -/

theorem toList_normalize_passes (go : GoLower db) (q : String) : (normalize db q).toList =
    passes [] [] [] (core (toLower db q).toList ++ residue (toLower db q).toList) := by
  rw [← lowered_eq go]
  exact toList_normalize db q

/-- Lower case changes nothing in what is normalised. -/
theorem map_toLower_normalize (go : GoLower db) (q : String) :
    (normalize db q).toList.map db.toLower = (normalize db q).toList := by
  have fixed : (lowered db q).all (fun c => db.toLower c == c) = true := by
    rw [List.all_eq_true]
    intro c member
    rw [lowered, toLower, String.toList_ofList, List.mem_map] at member
    obtain ⟨d, _, rfl⟩ := member
    rw [go.toLower_toLower, beq_iff_eq]
  have mark : (db.toLower '?' == '?') = true := by
    rw [go.toLower_ascii '?' (by decide)]
    decide
  have blank : (db.toLower ' ' == ' ') = true := by
    rw [go.toLower_ascii ' ' (by decide)]
    decide
  have whole := (replaced_blanks [] _).all
    ((replaced_numbers [] _).all ((replaced_strings [] _).all fixed mark) mark) blank
  rw [toList_normalize]
  refine (List.map_congr_left fun c member => ?_).trans (List.map_id _)
  exact eq_of_beq (List.all_eq_true.mp whole c member)

/-- A query is normalised once for all exactly if its end is tidy. -/
theorem normalize_normalize_iff (go : GoLower db) (q : String) :
    normalize db (normalize db q) = normalize db q ↔ Tidy (toLower db q).toList := by
  have again : (normalize db (normalize db q)).toList = passes [] [] []
      (trimEnd (· == ';') (trimBoth goIsSpace (normalize db q).toList)) := by
    rw [← map_toLower_normalize go q, ← lowered_eq_trimmed go]
    exact toList_normalize db _
  rw [← residue_eq_nil_iff, ← String.toList_inj, again, toList_normalize_passes go]
  constructor
  · intro same
    by_contra untidy
    -- The space at the end is cut, and nothing makes up for it.
    refine not_endsOutside_passes untidy ?_
    generalize passes [] [] [] (core _ ++ residue _) = v at *
    obtain ⟨b, split, _, _⟩ := trimEnd_spec (· == ';') (trimBoth goIsSpace v)
    have lengths := length_passes_le (trimEnd (· == ';') (trimBoth goIsSpace v))
    have part := (trimBoth_part goIsSpace v).length_le
    have inner := congrArg List.length split
    rw [same] at lengths
    rw [List.length_append] at inner
    have whole : trimBoth goIsSpace v = v :=
      (trimBoth_part goIsSpace v).eq_of_length (by omega)
    obtain ⟨_, _, _, _, _, _, last⟩ := trimBoth_spec goIsSpace v
    rwa [whole] at last
  · intro tidy
    have first : StartsOutside goIsSpace (passes [] [] [] (core (toLower db q).toList)) :=
      startsOutside_passes (startsOutside_core _) rfl fun _ run outside =>
        absurd outside (run_startsInside run)
    have last := endsOutside_passes_core (toLower db q).toList
    rw [tidy, List.append_nil, trimBoth_self first (last.mono fun _ => isEnd_of_goIsSpace)]
    have kept : trimEnd (· == ';') (passes [] [] [] (core (toLower db q).toList) ++ []) = _ :=
      trimEnd_append (last.mono fun _ => isEnd_of_semicolon) rfl
    rw [List.append_nil] at kept
    rw [kept, passes_passes]

/-- Two spellings of a query have one key that is normal already exactly if they are alike. -/
theorem spellingsShareKey_iff (go : GoLower db) (equivalent : Equivalent db q q') :
    (∀ md5 : String → String, key db md5 q = key db md5 q') ∧
        normalize db (normalize db q) = normalize db q ↔
      Alike db q q' := by
  constructor
  · rintro ⟨keys, idempotent⟩
    have tidy := (normalize_normalize_iff go q).mp idempotent
    have same := congrArg String.toList (keys id)
    rw [key, key, id, id, toList_normalize_passes go, toList_normalize_passes go,
      (residue_eq_nil_iff _).mpr tidy, List.append_nil] at same
    have settled : residue (toLower db q').toList = [] := by
      by_contra untidy
      have last := (endsOutside_passes_core (toLower db q).toList).mono fun _ => isEnd_of_goIsSpace
      rw [same] at last
      exact not_endsOutside_passes untidy last
    rw [settled, List.append_nil] at same
    exact ⟨tidy, (residue_eq_nil_iff _).mp settled, equivalent.alike same⟩
  · intro alike
    have same : normalize db q = normalize db q' := by
      rw [← String.toList_inj, toList_normalize_passes go, toList_normalize_passes go,
        (residue_eq_nil_iff _).mpr alike.tidy, (residue_eq_nil_iff _).mpr alike.tidy',
        List.append_nil, List.append_nil]
      exact alike.respelt.passes_eq
    exact ⟨fun md5 => congrArg md5 same, (normalize_normalize_iff go q).mpr alike.tidy⟩

theorem Alike.equivalent (alike : Alike db q q') : Equivalent db q q' :=
  alike.respelt.mono (fun _ _ _ => trivial) fun _ _ _ _ => trivial

/-! ## Spellings to try -/

/-- A decimal number and a string with a quote in it. -/
def priceAndName : String := "SELECT 12.5, 'it''s'"

/-- The same with an integer, another string and other white space. -/
def priceAndName' : String := " select\t7,  '';;\n"

def twelve : Number := ⟨['1', '2'], some ['5'], by decide, by decide⟩

def seven : Number := ⟨['7'], none, by decide, by decide⟩

theorem alike_priceAndName : Alike .ascii priceAndName priceAndName' where
  tidy := by decide +kernel
  tidy' := by decide +kernel
  respelt := by
    have text : core (toLower .ascii priceAndName).toList =
        ['s', 'e', 'l', 'e', 'c', 't'] ++ ([' '] ++ (twelve.text ++ ([] ++ (',' :: ([' '] ++
          ('\'' :: ['i', 't', '\'', '\'', 's', '\''])))))) := by
      decide +kernel
    have text' : core (toLower .ascii priceAndName').toList =
        ['s', 'e', 'l', 'e', 'c', 't'] ++ (['\t'] ++ (seven.text ++ ([] ++ (',' :: ([' ', ' '] ++
          ('\'' :: ['\''])))))) := by
      decide +kernel
    have form : SameForm false twelve seven := ⟨by decide, by decide, fun letter => by cases letter⟩
    rw [text, text']
    refine .name ⟨List.cons_ne_nil _ _, rfl, rfl⟩ ⟨List.cons_ne_nil _ _, rfl, rfl⟩ ?_
    refine .spaces ⟨List.cons_ne_nil _ _, rfl, rfl⟩ ⟨List.cons_ne_nil _ _, rfl, rfl⟩ rfl ?_
    refine .number rfl rfl (fun _ => rfl) (fun _ => rfl) rfl rfl form ?_
    refine .mark rfl rfl (by decide) ?_
    refine .spaces ⟨List.cons_ne_nil _ _, rfl, rfl⟩ ⟨List.cons_ne_nil _ _, rfl, rfl⟩ rfl ?_
    exact .string (s := []) rfl rfl .nil

theorem spellingsShareKey_iff_priceAndName :
    (∀ md5 : String → String, key .ascii md5 priceAndName = key .ascii md5 priceAndName') ∧
      normalize .ascii (normalize .ascii priceAndName) = normalize .ascii priceAndName :=
  (spellingsShareKey_iff goLower_ascii alike_priceAndName.equivalent).mpr alike_priceAndName

/-- A space before the semicolon stays in the key, and is trimmed the next time. -/
theorem not_spellingsShareKey : ¬ ∀ q q', Equivalent .ascii q q' →
    (∀ md5 : String → String, key .ascii md5 q = key .ascii md5 q') ∧
      normalize .ascii (normalize .ascii q) = normalize .ascii q := by
  intro all
  have equivalent : Equivalent .ascii "SELECT 1 ;" "SELECT 1" := by
    have text : core (toLower .ascii "SELECT 1 ;").toList =
        ['s', 'e', 'l', 'e', 'c', 't'] ++ ([' '] ++ (['1'] ++ [])) := by decide +kernel
    have text' : core (toLower .ascii "SELECT 1").toList =
        ['s', 'e', 'l', 'e', 'c', 't'] ++ ([' '] ++ (['1'] ++ [])) := by decide +kernel
    rw [Equivalent, text, text']
    refine .name ⟨List.cons_ne_nil _ _, rfl, rfl⟩ ⟨List.cons_ne_nil _ _, rfl, rfl⟩ ?_
    refine .spaces ⟨List.cons_ne_nil _ _, rfl, rfl⟩ ⟨List.cons_ne_nil _ _, rfl, rfl⟩ trivial ?_
    exact .name ⟨List.cons_ne_nil _ _, rfl, rfl⟩ ⟨List.cons_ne_nil _ _, rfl, rfl⟩ .nil
  obtain ⟨keys, _⟩ := all _ _ equivalent
  have same := keys id
  revert same
  decide +kernel

end MysqlRedshift.Proxy.Cache
