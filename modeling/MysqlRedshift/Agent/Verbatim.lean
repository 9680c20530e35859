import MysqlRedshift.Agent.Fences

/-!
# SQL that comes out as it went in

The model's SQL stands in a fence in prose, or alone. When is it what `extract_sql`
returns? What is returned is always a part of the text, so that it is the SQL only if no
step cuts into it and every step that has to cut does.
-/

namespace MysqlRedshift.Agent

open MysqlRedshift.Misc
open MysqlRedshift.Misc.Regex (NoneBefore)

variable {db : UnicodeDb} {text : String} {t u x s : List Char}

/-- Neither white space nor a semicolon is at an end of the text. -/
def Trimmed (s : String) : Prop := StartsOutside isTail s.toList ∧ EndsOutside isTail s.toList

theorem startsOutside_space_of_tail (outside : StartsOutside isTail t) :
    StartsOutside pyIsSpace t :=
  outside.mono fun _ => isTail_of_space

theorem endsOutside_space_of_tail (outside : EndsOutside isTail t) : EndsOutside pyIsSpace t :=
  outside.mono fun _ => isTail_of_space

theorem CutEnd.eq_of_endsOutside (cut : CutEnd t u) (outside : EndsOutside isTail t) : u = t := by
  obtain ⟨b, rfl, all⟩ := cut
  rw [eq_nil_of_endsOutside outside all, List.append_nil]

/-- No backquote is cut off. -/
theorem CutEnd.backquote_mem (cut : CutEnd t u) (member : '\x60' ∈ t) : '\x60' ∈ u := by
  obtain ⟨b, rfl, all⟩ := cut
  rcases List.mem_append.mp member with inside | cut_off
  · exact inside
  · exact absurd (List.all_eq_true.mp all _ cut_off) (by decide)

/-! ## The first keyword -/

/-- The first keyword of the searched text is not behind a place where one is. -/
theorem before_of_keywordAt {before after early late : List Char} (split : t = before ++ after)
    (none_before : NoneBefore (sqlStart db) [] t before.length) (split' : t = early ++ late)
    (keyword_at : KeywordAt db early.reverse late) : ∃ skipped, after = skipped ++ late := by
  have behind : before.length ≤ early.length := by
    by_contra short
    have nowhere := none_before early late split' (Nat.lt_of_not_le short)
    rw [List.append_nil] at nowhere
    exact not_keywordAt_iff.mpr nowhere keyword_at
  rcases List.append_eq_append_iff.mp (split.symm.trans split') with ⟨m, _, rest⟩ | ⟨m, rfl, rest⟩
  · exact ⟨m, rest⟩
  · rw [List.length_append] at behind
    obtain rfl := List.eq_nil_of_length_eq_zero (l := m) (by omega)
    exact ⟨[], rest.symm⟩

/-- From the first keyword on, the SQL is returned if its end is not to be cut. -/
theorem extractSQL_of_first (unicode : PyUnicode db)
    (not_marked : ¬ Marked db (stripCodeFence db text).toList)
    (split : (searched db text).toList = x ++ s) (keyword_at : KeywordAt db x.reverse s)
    (none_before : NoneBefore (sqlStart db) [] (searched db text).toList x.length)
    (outside : EndsOutside isTail s) : (extractSQL db text).toList = s := by
  obtain ⟨before, after, split', keyword_at', none_before', cut⟩ :=
    cutEnd_extractSQL_of_keyword unicode not_marked ⟨x, s, split, keyword_at⟩
  obtain ⟨skipped, rfl⟩ := before_of_keywordAt split' none_before' split keyword_at
  obtain ⟨skipped', s_eq⟩ := before_of_keywordAt split none_before split' keyword_at'
  have lengths := congrArg List.length s_eq
  rw [List.length_append, List.length_append] at lengths
  obtain rfl := List.eq_nil_of_length_eq_zero (l := skipped) (by omega)
  exact cut.eq_of_endsOutside outside

/-- SQL that is all that is searched. -/
theorem extractSQL_of_start (unicode : PyUnicode db)
    (not_marked : ¬ Marked db (stripCodeFence db text).toList)
    (split : (searched db text).toList = s) (keyword_at : KeywordAt db [] s)
    (outside : EndsOutside isTail s) : (extractSQL db text).toList = s := by
  apply extractSQL_of_first unicode not_marked (x := []) split keyword_at _ outside
  intro early late _ short
  exact absurd short (Nat.not_lt_zero _)

/-- A backquote behind a place with a keyword is in what is returned. -/
theorem backquote_mem_extractSQL (unicode : PyUnicode db)
    (not_marked : ¬ Marked db (stripCodeFence db text).toList)
    (split : (searched db text).toList = x ++ s) (keyword_at : KeywordAt db x.reverse s)
    (member : '\x60' ∈ s) : '\x60' ∈ (extractSQL db text).toList := by
  obtain ⟨before, after, split', _, none_before, cut⟩ :=
    cutEnd_extractSQL_of_keyword unicode not_marked ⟨x, s, split, keyword_at⟩
  obtain ⟨skipped, rfl⟩ := before_of_keywordAt split' none_before split keyword_at
  exact cut.backquote_mem (List.mem_append_right _ member)

/-! ## SQL in a fence -/

/-- An answer with prose before and behind the fence. -/
def fencedAnswer (p s q : String) : String := p ++ "\n```sql\n" ++ s ++ "\n```\n" ++ q

theorem toList_fencedAnswer (p s q : String) : (fencedAnswer p s q).toList =
    (p.toList ++ ['\n']) ++ (fencedLine (some sqlWord) s.toList ++ '\n' :: q.toList) := by
  simp [fencedAnswer, fencedLine, openLine, ticks, sqlWord]

/-- SQL that a fence can hold: it begins with a keyword, has nothing to trim and no
backquote. -/
structure Fenceable (db : UnicodeDb) (sql : String) : Prop where
  trimmed : Trimmed sql
  begins : KeywordAt db [] sql.toList
  plain : '\x60' ∉ sql.toList

theorem Fenceable.ne_nil (unicode : PyUnicode db) {sql : String} (fits : Fenceable db sql) :
    sql.toList ≠ [] := by
  obtain ⟨c, rest, chars, _⟩ := fits.begins.head unicode
  rw [chars]
  exact List.cons_ne_nil c rest

theorem Fenceable.strip {sql : String} (fits : Fenceable db sql) :
    trimBoth pyIsSpace sql.toList = sql.toList :=
  trimBoth_self (startsOutside_space_of_tail fits.trimmed.1)
    (endsOutside_space_of_tail fits.trimmed.2)

theorem Fenceable.few {sql : String} (fits : Fenceable db sql) :
    sql.toList.count '\x60' = 0 :=
  List.count_eq_zero_of_not_mem fits.plain

theorem sqlWord_named (word : List Char) (named : some sqlWord = some word) :
    word = [] ∨ word = sqlWord :=
  Or.inr (Option.some.inj named).symm

section

variable {p q sql : String}

/-- Nothing is around the fence: it is taken off. -/
theorem extractSQL_fencedAnswer_alone (unicode : PyUnicode db) (fits : Fenceable db sql)
    (no_prose : pyStrip p = "") (nothing_behind : pyStrip q = "") :
    extractSQL db (fencedAnswer p sql q) = sql := by
  have blank := trimBoth_eq_nil_iff.mp (pyStrip_eq_empty_iff.mp no_prose)
  have blank' := trimBoth_eq_nil_iff.mp (pyStrip_eq_empty_iff.mp nothing_behind)
  have stripped : (stripCodeFence db (fencedAnswer p sql q)).toList = sql.toList := by
    rw [stripCodeFence_fencedLine unicode (toList_fencedAnswer p sql q) sqlWord_named
      (by rw [List.all_append, blank]; rfl) (by rw [List.all_cons, blank']; rfl)
      (startsOutside_space_of_tail fits.trimmed.1) (fits.ne_nil unicode) fits.plain]
    exact fits.strip
  have whole : searched db (fencedAnswer p sql q) = stripCodeFence db (fencedAnswer p sql q) := by
    apply searched_of_few unicode
    rw [stripped, fits.few]
    decide
  apply String.toList_inj.mp
  apply extractSQL_of_start unicode _ (by rw [whole, stripped]) fits.begins fits.trimmed.2
  rw [stripped]
  exact fits.begins.not_marked unicode

/-- A text that ends without a backquote does not end with a fence. -/
theorem ne_append_ticks {front y : List Char} (some_char : y ≠ []) (absent : '\x60' ∉ y)
    (v : List Char) : front ++ y ≠ v ++ ticks := by
  intro split
  have at_end := congrArg List.getLast? split
  rw [List.getLast?_append_of_ne_nil front some_char,
    List.getLast?_append_of_ne_nil v (show ticks ≠ [] from List.cons_ne_nil _ _)] at at_end
  exact absent (List.mem_of_getLast? at_end)

/-- Prose without the blank at its end. -/
theorem prose_end {q : String} (prose : pyStrip q ≠ "") : ∃ y rest, q.toList = y ++ rest ∧
    rest.all pyIsSpace = true ∧ EndsOutside pyIsSpace y ∧ y ≠ [] := by
  obtain ⟨rest, split, blank, last⟩ := trimEnd_spec pyIsSpace q.toList
  refine ⟨_, rest, split, blank, last, ?_⟩
  intro nothing
  rw [nothing, List.nil_append] at split
  apply prose
  rw [pyStrip_eq_empty_iff, split]
  exact trimBoth_eq_nil_iff.mpr blank

/-- What stands in a fenced answer from the SQL on. -/
def fromSQL (s y : List Char) : List Char := (s ++ '\n' :: (ticks ++ ['\n'])) ++ y

theorem backquote_mem_fromSQL (s y : List Char) : '\x60' ∈ fromSQL s y := by
  simp [fromSQL, ticks]

theorem Fenceable.keywordAt_fromSQL (unicode : PyUnicode db) (fits : Fenceable db sql)
    (y : List Char) : KeywordAt db [] (fromSQL sql.toList y) := by
  have stops : NoWord db (('\n' :: (ticks ++ ['\n'])) ++ y) := by
    have ⟨not_alnum, _⟩ := unicode.space '\n' rfl
    simp [StartsOutside, pyIsWord, not_alnum]
  rw [fromSQL, List.append_assoc, keywordAt_append_iff unicode stops]
  exact fits.begins

theorem Fenceable.startsOutside_fromSQL (unicode : PyUnicode db) (fits : Fenceable db sql)
    (y : List Char) : StartsOutside pyIsSpace (fromSQL sql.toList y) :=
  (fits.keywordAt_fromSQL unicode y).startsOutside unicode

theorem Fenceable.count_fromSQL (fits : Fenceable db sql) {y : List Char} (absent : '\x60' ∉ y) :
    (fromSQL sql.toList y).count '\x60' = 3 := by
  have three : ('\n' :: (ticks ++ ['\n'])).count '\x60' = 3 := rfl
  rw [fromSQL, List.count_append, List.count_append, fits.few, three,
    List.count_eq_zero_of_not_mem absent]

/-- Prose stands behind the fence only: the fence's closing line stays. -/
theorem extractSQL_fencedAnswer_behind (unicode : PyUnicode db) (fits : Fenceable db sql)
    (absent : '\x60' ∉ q.toList) (no_prose : pyStrip p = "") (behind : pyStrip q ≠ "") :
    extractSQL db (fencedAnswer p sql q) ≠ sql := by
  have blank := trimBoth_eq_nil_iff.mp (pyStrip_eq_empty_iff.mp no_prose)
  obtain ⟨y, rest, split, blank', last, some_char⟩ := prose_end behind
  have absent_y : '\x60' ∉ y := fun member => absent (split ▸ List.mem_append_left rest member)
  have last_from : EndsOutside pyIsSpace (fromSQL sql.toList y) :=
    (endsOutside_append_iff some_char).mpr last
  have stripped : trimBoth pyIsSpace (fencedAnswer p sql q).toList =
      openLine sqlWord ++ fromSQL sql.toList y := by
    have regroup : (fencedAnswer p sql q).toList =
        (p.toList ++ ['\n']) ++ ((openLine sqlWord ++ fromSQL sql.toList y) ++ rest) := by
      rw [toList_fencedAnswer, split]
      simp [fencedLine, fromSQL]
    rw [regroup]
    refine trimBoth_append rfl ?_ (by rw [List.all_append, blank]; rfl) blank'
    rw [fromSQL, ← List.append_assoc, endsOutside_append_iff some_char]
    exact last
  have inner : opened db (trimBoth pyIsSpace (fencedAnswer p sql q).toList) =
      fromSQL sql.toList y := by
    rw [stripped]
    exact opened_openLine unicode (Or.inr rfl) (fits.startsOutside_fromSQL unicode y)
  have left : (stripCodeFence db (fencedAnswer p sql q)).toList = fromSQL sql.toList y := by
    rw [stripCodeFence_of_not_fence unicode, inner]
    · exact trimBoth_self (fits.startsOutside_fromSQL unicode y) last_from
    · rw [inner]
      exact ne_append_ticks some_char absent_y
  have whole : searched db (fencedAnswer p sql q) = stripCodeFence db (fencedAnswer p sql q) := by
    apply searched_of_few unicode
    rw [left, fits.count_fromSQL absent_y]
    decide
  have first := fits.keywordAt_fromSQL unicode y
  have unmarked := first.not_marked unicode
  rw [← left] at unmarked
  have member := backquote_mem_extractSQL unicode unmarked (x := []) (by rw [whole, left]; rfl)
    first (backquote_mem_fromSQL _ _)
  intro same
  rw [same] at member
  exact fits.plain member

/-- The text that a stripped one was, but for the blank at its end. -/
theorem CutEnd.eq_of_space {m w u : List Char} (cut : CutEnd (m ++ w) u)
    (spaces : w.all pyIsSpace = true) (last : EndsOutside isTail m)
    (stripped : EndsOutside pyIsSpace u) : u = m := by
  obtain ⟨c, split, tail⟩ := cut
  rcases List.append_eq_append_iff.mp split with ⟨w', rfl, w_eq⟩ | ⟨c', rfl, c_eq⟩
  · rw [w_eq, List.all_append, Bool.and_eq_true] at spaces
    rw [eq_nil_of_endsOutside stripped spaces.1, List.append_nil]
  · rw [c_eq, List.all_append, Bool.and_eq_true] at tail
    rw [eq_nil_of_endsOutside last tail.1, List.append_nil]

theorem sqlKeywords_length : sqlKeywords.all (fun k => k.toList.length != 3) = true := by
  decide

/-- In a fence's opening line there is no keyword. -/
theorem noneBefore_openLine (unicode : PyUnicode db) (before s : List Char) :
    NoneBefore (sqlStart db) before (openLine sqlWord ++ s) (openLine sqlWord).length := by
  have no_letter : ∀ {c : Char} {before rest : List Char}, db.isAlnum c = false →
      (sqlStart db).ends ⟨before, c :: rest, []⟩ = [] := by
    intro c before rest not_alnum
    apply not_keywordAt_iff.mp
    intro keyword_at
    obtain ⟨_, _, chars, letter⟩ := keyword_at.head unicode
    obtain ⟨rfl, _⟩ := List.cons.inj chars
    rw [not_alnum] at letter
    cases letter
  have in_word : ∀ {c : Char} {before rest : List Char}, c.isAlpha = true →
      (sqlStart db).ends ⟨c :: before, rest, []⟩ = [] := by
    intro c before rest alpha
    apply not_keywordAt_iff.mp
    intro keyword_at
    have ⟨starts, _⟩ := (keywordAt_iff unicode).mp keyword_at
    simp [StartsOutside, pyIsWord, unicode.letter c c alpha (unicode.self c)] at starts
  have not_keyword : ∀ {before : List Char},
      (sqlStart db).ends ⟨before, sqlWord ++ '\n' :: s, []⟩ = [] := by
    intro before
    apply not_keywordAt_iff.mp
    have word : sqlWord.all (pyIsWord db) = true := by
      have letters : ∀ c, c.isAlpha = true → pyIsWord db c = true := by
        intro c alpha
        rw [pyIsWord, unicode.letter c c alpha (unicode.self c)]
        rfl
      simp [sqlWord, letters]
    have stops : NoWord db ('\n' :: s) := by
      simp [StartsOutside, pyIsWord, (unicode.space '\n' rfl).1]
    rw [keywordAt_word_iff unicode word stops]
    rintro ⟨_, k, listed, spells⟩
    have length := List.all_eq_true.mp sqlKeywords_length k listed
    have three : sqlWord.length = 3 := rfl
    rw [spells.length_eq, three] at length
    cases length
  have tick := (unicode.mark '\x60' (Or.inr (Or.inl rfl))).1
  have line := (unicode.space '\n' rfl).1
  apply NoneBefore.cons (no_letter tick)
  apply NoneBefore.cons (no_letter tick)
  apply NoneBefore.cons (no_letter tick)
  apply NoneBefore.cons not_keyword
  apply NoneBefore.cons (in_word rfl)
  apply NoneBefore.cons (in_word rfl)
  apply NoneBefore.cons (no_letter line)
  intro early late _ short
  exact absurd short (Nat.not_lt_zero _)

theorem not_word_of_space (unicode : PyUnicode db) {w : List Char}
    (spaces : w.all pyIsSpace = true) : ∀ c ∈ w, pyIsWord db c = false :=
  fun c member => (tail_not_word unicode (isTail_of_space (List.all_eq_true.mp spaces c member))).1

/-- A text of prose: the prose and the blank around it. -/
structure Prose (p : String) (a x b : List Char) : Prop where
  split : p.toList = a ++ (x ++ b)
  before : a.all pyIsSpace = true
  behind : b.all pyIsSpace = true
  first : StartsOutside pyIsSpace x
  some_char : x ≠ []
  stripped : (pyStrip p).toList = x
  plain : '\x60' ∉ x
  plain_end : '\x60' ∉ b

theorem prose_of_strip (prose : pyStrip p ≠ "") (absent : '\x60' ∉ p.toList) :
    ∃ a x b, Prose p a x b := by
  obtain ⟨a, b, split, before, behind, first, _⟩ := trimBoth_spec pyIsSpace p.toList
  refine ⟨a, _, b, split, before, behind, first, mt pyStrip_eq_empty_iff.mpr prose,
    toList_pyStrip p, fun member => absent (trimBoth_subset _ _ member), ?_⟩
  intro member
  apply absent
  rw [split]
  exact List.mem_append_right _ (List.mem_append_right _ member)

variable {a x b : List Char}

/-- What stands in a fenced answer before the SQL. -/
def untilSQL (x b : List Char) : List Char := x ++ ((b ++ ['\n']) ++ openLine sqlWord)

theorem Prose.spaces (prose : Prose p a x b) : (b ++ ['\n']).all pyIsSpace = true := by
  rw [List.all_append, prose.behind]
  rfl

/-- Only the prose decides whether the answer begins with the marker. -/
theorem Prose.marked_iff (unicode : PyUnicode db) (prose : Prose p a x b) (late : List Char) :
    Marked db (untilSQL x b ++ late) ↔ Marked db (pyStrip p).toList := by
  rw [untilSQL, List.append_assoc, List.append_assoc, prose.stripped]
  exact marked_prose_iff unicode prose.spaces (by simp)

theorem Prose.startsOutside (prose : Prose p a x b) (late : List Char) :
    StartsOutside pyIsSpace (untilSQL x b ++ late) := by
  cases x with
  | nil => exact absurd rfl prose.some_char
  | cons c x => exact prose.first

theorem Prose.no_fence_first (prose : Prose p a x b) (late : List Char) :
    StartsOutside (· == '\x60') (untilSQL x b ++ late) := by
  cases x with
  | nil => exact absurd rfl prose.some_char
  | cons c x =>
    have other : c ≠ '\x60' := fun same => prose.plain (same ▸ List.mem_cons_self)
    simpa [StartsOutside, untilSQL] using other

theorem Prose.count_untilSQL (prose : Prose p a x b) : (untilSQL x b).count '\x60' = 3 := by
  have three : (openLine sqlWord).count '\x60' = 3 := rfl
  rw [untilSQL, List.count_append, List.count_append, List.count_append, three,
    List.count_eq_zero_of_not_mem prose.plain, List.count_eq_zero_of_not_mem prose.plain_end]
  rfl

theorem Prose.keywordIn_iff (unicode : PyUnicode db) (prose : Prose p a x b) :
    KeywordIn db p.toList ↔ KeywordIn db x := by
  rw [prose.split, keywordIn_append_left_iff unicode (not_word_of_space unicode prose.before),
    keywordIn_append_iff unicode (not_word_of_space unicode prose.behind)]

theorem Prose.noWord (unicode : PyUnicode db) (prose : Prose p a x b) (late : List Char) :
    NoWord db ((b ++ ['\n']) ++ late) := by
  have outside := not_word_of_space unicode prose.spaces
  cases whole : b ++ ['\n'] with
  | nil => simp at whole
  | cons y w =>
    rw [whole] at outside
    exact outside y List.mem_cons_self

/-- Without a keyword in the prose, there is none before the SQL. -/
theorem Prose.noneBefore (unicode : PyUnicode db) (prose : Prose p a x b)
    (absent : ¬ KeywordIn db x) (s : List Char) :
    NoneBefore (sqlStart db) [] (untilSQL x b ++ s) (untilSQL x b).length := by
  have in_prose := noneBefore_of_not_keywordIn unicode absent
    (prose.noWord unicode (openLine sqlWord ++ s))
  have in_blank := noneBefore_of_outside unicode (x.reverse ++ []) (openLine sqlWord ++ s)
    (not_word_of_space unicode prose.spaces)
  have in_line := noneBefore_openLine unicode ((b ++ ['\n']).reverse ++ (x.reverse ++ [])) s
  have all := in_prose.append (in_blank.append in_line)
  rw [untilSQL, List.append_assoc, List.append_assoc, List.length_append, List.length_append]
  exact all

theorem backquote_mem_untilSQL (x b late : List Char) : '\x60' ∈ untilSQL x b ++ late := by
  simp [untilSQL, openLine, ticks]

/-- Prose stands before the fence only: its closing line is taken off. -/
theorem Prose.stripped_before (unicode : PyUnicode db) (prose : Prose p a x b)
    (fits : Fenceable db sql) (nothing_behind : pyStrip q = "") :
    (stripCodeFence db (fencedAnswer p sql q)).toList = untilSQL x b ++ sql.toList := by
  have blank := trimBoth_eq_nil_iff.mp (pyStrip_eq_empty_iff.mp nothing_behind)
  have split : (fencedAnswer p sql q).toList =
      a ++ ((x ++ ((b ++ ['\n']) ++ fencedLine (some sqlWord) sql.toList)) ++
        '\n' :: q.toList) := by
    rw [toList_fencedAnswer, prose.split]
    simp
  have cut := stripCodeFence_prose unicode split sqlWord_named prose.before
    (by rw [List.all_cons, blank]; rfl) prose.first prose.some_char prose.plain
    (by simpa using prose.plain_end) fits.plain
  have regroup : x ++ ((b ++ ['\n']) ++ unclosed (some sqlWord) sql.toList) =
      (untilSQL x b ++ sql.toList) ++ ['\n'] := by
    simp [unclosed, untilSQL]
  rw [regroup] at cut
  apply cut.eq_of_space rfl
  · exact (endsOutside_append_iff (fits.ne_nil unicode)).mpr fits.trimmed.2
  · rw [toList_stripCodeFence]
    exact endsOutside_trimBoth

/-- A marked answer is returned as it is, with its backquotes. -/
theorem Fenceable.ne_of_marked (fits : Fenceable db sql) {text : String}
    (marked : Marked db (stripCodeFence db text).toList)
    (member : '\x60' ∈ (stripCodeFence db text).toList) : extractSQL db text ≠ sql := by
  intro same
  rw [← extractSQL_of_marked marked, same] at member
  exact fits.plain member

/-- Between prose on both sides nothing is stripped but blanks. -/
theorem Prose.stripped_between (unicode : PyUnicode db) (prose : Prose p a x b) {y rest : List Char}
    (split : q.toList = y ++ rest) (blank : rest.all pyIsSpace = true)
    (last : EndsOutside pyIsSpace y) (some_char : y ≠ []) (absent : '\x60' ∉ y) :
    (stripCodeFence db (fencedAnswer p sql q)).toList =
      untilSQL x b ++ fromSQL sql.toList y := by
  have ends : ∃ front, untilSQL x b ++ fromSQL sql.toList y = front ++ y :=
    ⟨_, (List.append_assoc ..).symm⟩
  have trimmed : trimBoth pyIsSpace (fencedAnswer p sql q).toList =
      untilSQL x b ++ fromSQL sql.toList y := by
    have regroup : (fencedAnswer p sql q).toList =
        a ++ ((untilSQL x b ++ fromSQL sql.toList y) ++ rest) := by
      rw [toList_fencedAnswer, prose.split, split]
      simp [fencedLine, fromSQL, untilSQL]
    rw [regroup]
    refine trimBoth_append (prose.startsOutside _) ?_ prose.before blank
    obtain ⟨front, same⟩ := ends
    rw [same, endsOutside_append_iff some_char]
    exact last
  have unopened : opened db (trimBoth pyIsSpace (fencedAnswer p sql q).toList) =
      untilSQL x b ++ fromSQL sql.toList y := by
    rw [trimmed]
    exact opened_of_startsOutside unicode (prose.no_fence_first _)
  rw [stripCodeFence_of_not_fence unicode, unopened]
  · rw [← trimmed, trimBoth_idem]
  · obtain ⟨front, same⟩ := ends
    rw [unopened, same]
    exact ne_append_ticks some_char absent

/-- Prose stands before the fence only: the SQL is returned if there is no keyword in the
prose, nor the marker before it. -/
theorem extractSQL_fencedAnswer_before (unicode : PyUnicode db) (fits : Fenceable db sql)
    (prose : Prose p a x b) (nothing_behind : pyStrip q = "") :
    extractSQL db (fencedAnswer p sql q) = sql ↔
      ¬ Marked db (pyStrip p).toList ∧ ¬ KeywordIn db p.toList := by
  have left := prose.stripped_before unicode fits nothing_behind
  have marked_iff := prose.marked_iff unicode sql.toList
  rw [← left] at marked_iff
  by_cases marked : Marked db (stripCodeFence db (fencedAnswer p sql q)).toList
  · refine iff_of_false ?_ fun holds => holds.1 (marked_iff.mp marked)
    have member := backquote_mem_untilSQL x b sql.toList
    rw [← left] at member
    exact fits.ne_of_marked marked member
  · have unmarked := mt marked_iff.mpr marked
    have whole : searched db (fencedAnswer p sql q) =
        stripCodeFence db (fencedAnswer p sql q) := by
      apply searched_of_few unicode
      rw [left, List.count_append, prose.count_untilSQL, fits.few]
      decide
    rw [and_iff_right unmarked, prose.keywordIn_iff unicode]
    by_cases present : KeywordIn db x
    · refine iff_of_false ?_ fun absent => absent present
      obtain ⟨before, after, x_eq, keyword_at⟩ := present
      have first := (keywordAt_append_iff unicode
        (prose.noWord unicode (openLine sqlWord ++ sql.toList))).mpr keyword_at
      have member := backquote_mem_extractSQL unicode marked
        (by rw [whole, left, untilSQL, x_eq]; simp only [List.append_assoc]) first
        (by simp [openLine, ticks])
      intro same
      rw [same] at member
      exact fits.plain member
    · refine iff_of_true ?_ present
      apply String.toList_inj.mp
      obtain ⟨_, word⟩ := (keywordAt_iff unicode).mp fits.begins
      have first : KeywordAt db (untilSQL x b).reverse sql.toList := by
        refine (keywordAt_iff unicode).mpr ⟨?_, word⟩
        have outside := (tail_not_word unicode (isTail_of_space (c := '\n') rfl)).1
        simpa [StartsOutside, untilSQL, openLine] using outside
      apply extractSQL_of_first unicode marked (by rw [whole, left]) first _ fits.trimmed.2
      rw [whole, left]
      exact prose.noneBefore unicode present sql.toList

/-- With prose on both sides, the inside of the fence is returned, unless the prose begins
with the marker. -/
theorem extractSQL_fencedAnswer_between (unicode : PyUnicode db) (fits : Fenceable db sql)
    (prose : Prose p a x b) (absent : '\x60' ∉ q.toList) (behind : pyStrip q ≠ "") :
    extractSQL db (fencedAnswer p sql q) = sql ↔ ¬ Marked db (pyStrip p).toList := by
  obtain ⟨y, rest, split, blank, last, some_char⟩ := prose_end behind
  have absent_y : '\x60' ∉ y := fun member => absent (split ▸ List.mem_append_left rest member)
  have left : (stripCodeFence db (fencedAnswer p sql q)).toList =
      untilSQL x b ++ fromSQL sql.toList y :=
    prose.stripped_between unicode split blank last some_char absent_y
  have marked_iff := prose.marked_iff unicode (fromSQL sql.toList y)
  rw [← left] at marked_iff
  rw [← marked_iff]
  by_cases marked : Marked db (stripCodeFence db (fencedAnswer p sql q)).toList
  · refine iff_of_false ?_ fun unmarked => unmarked marked
    have member := backquote_mem_untilSQL x b (fromSQL sql.toList y)
    rw [← left] at member
    exact fits.ne_of_marked marked member
  · refine iff_of_true ?_ marked
    have inside : insideFence db (stripCodeFence db (fencedAnswer p sql q)) =
        some (String.ofList (sql.toList ++ ['\n'])) := by
      have parts : (stripCodeFence db (fencedAnswer p sql q)).toList = (x ++ (b ++ ['\n'])) ++
          (openLine sqlWord ++ ((sql.toList ++ ['\n']) ++ (ticks ++ '\n' :: y))) := by
        rw [left]
        simp [untilSQL, fromSQL]
      have outside : StartsOutside pyIsSpace (sql.toList ++ ['\n']) := by
        obtain ⟨c, rest', chars, _⟩ := fits.begins.head unicode
        have first := startsOutside_space_of_tail fits.trimmed.1
        rw [chars] at first ⊢
        exact first
      apply insideFence_openLine unicode parts (Or.inr rfl) outside (by simp)
      · simp [prose.plain, prose.plain_end]
      · simp [fits.plain]
      · simp [absent_y]
    have inner : (searched db (fencedAnswer p sql q)).toList = sql.toList := by
      rw [searched, inside]
      show (pyStrip (String.ofList (sql.toList ++ ['\n']))).toList = sql.toList
      rw [toList_pyStrip, String.toList_ofList]
      exact (trimBoth_append_all (a := []) rfl rfl).trans fits.strip
    apply String.toList_inj.mp
    exact extractSQL_of_start unicode marked inner fits.begins fits.trimmed.2

/-- SQL in a fence is returned exactly if nothing is around the fence, or there is prose
before it that does not begin with the marker, and the prose has no keyword if none
follows the fence. -/
theorem extractSQL_fencedAnswer_iff (unicode : PyUnicode db) (fits : Fenceable db sql)
    (absent : '\x60' ∉ p.toList) (absent' : '\x60' ∉ q.toList) :
    extractSQL db (fencedAnswer p sql q) = sql ↔
      pyStrip p = "" ∧ pyStrip q = "" ∨
        pyStrip p ≠ "" ∧ isUntranslatable db (pyStrip p) = false ∧
          (pyStrip q ≠ "" ∨ (sqlStart db).search p = none) := by
  have unmarked_iff : isUntranslatable db (pyStrip p) = false ↔
      ¬ Marked db (pyStrip p).toList := by
    rw [← isUntranslatable_iff, Bool.not_eq_true]
  rw [unmarked_iff, search_sqlStart_eq_none_iff]
  by_cases no_prose : pyStrip p = ""
  · by_cases nothing_behind : pyStrip q = ""
    · exact iff_of_true (extractSQL_fencedAnswer_alone unicode fits no_prose nothing_behind)
        (Or.inl ⟨no_prose, nothing_behind⟩)
    · have kept := extractSQL_fencedAnswer_behind unicode fits absent' no_prose nothing_behind
      simp [no_prose, nothing_behind, kept]
  · obtain ⟨a, x, b, prose⟩ := prose_of_strip no_prose absent
    by_cases nothing_behind : pyStrip q = ""
    · rw [extractSQL_fencedAnswer_before unicode fits prose nothing_behind]
      simp [no_prose, nothing_behind]
    · rw [extractSQL_fencedAnswer_between unicode fits prose absent' nothing_behind]
      simp [no_prose, nothing_behind]

end

theorem keywordAt_of_ends {before after : List Char}
    (found : (sqlStart db).ends ⟨before, after, []⟩ ≠ []) : KeywordAt db before after :=
  Classical.not_not.mp fun nowhere => found (not_keywordAt_iff.mp nowhere)

theorem fenceable_selectOne : Fenceable .ascii "SELECT 1" where
  trimmed := ⟨rfl, rfl⟩
  begins := keywordAt_of_ends (by decide)
  plain := by decide

theorem extractSQL_fencedAnswer_iff_selectOne :
    extractSQL .ascii (fencedAnswer "Here:" "SELECT 1" "Bye.") = "SELECT 1" ↔
      pyStrip "Here:" = "" ∧ pyStrip "Bye." = "" ∨
        pyStrip "Here:" ≠ "" ∧ isUntranslatable .ascii (pyStrip "Here:") = false ∧
          (pyStrip "Bye." ≠ "" ∨ (sqlStart .ascii).search "Here:" = none) :=
  extractSQL_fencedAnswer_iff pyUnicode_ascii fenceable_selectOne (by decide) (by decide)

/-- With prose behind the fence only, the closing line and the prose stay. -/
theorem not_extractSQL_fencedAnswer_behind :
    ¬ extractSQL .ascii (fencedAnswer "" "SELECT 1" "Done.") = "SELECT 1" := by
  decide

end MysqlRedshift.Agent
