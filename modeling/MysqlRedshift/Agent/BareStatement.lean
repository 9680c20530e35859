import MysqlRedshift.Agent.Verbatim

/-!
# A statement alone

The model returns one statement without fence and prose, perhaps with white space and
semicolons behind it. Whatever is returned is a part of the text: it is the statement only
if nothing is taken for a fence, no keyword is found behind the statement's beginning, and
the end is cut where the statement ends.
-/

namespace MysqlRedshift.Agent

open MysqlRedshift.Misc
open MysqlRedshift.Misc.Regex (NoneBefore)

variable {db : UnicodeDb} {text : String} {t u s w : List Char}

/-! ## What is returned is a part of the text -/

theorem CutEnd.part (cut : CutEnd t u) : u <:+: t := by
  obtain ⟨b, rfl, _⟩ := cut
  exact (List.prefix_append u b).isInfix

theorem extractSQL_part_searched (unicode : PyUnicode db)
    (not_marked : ¬ Marked db (stripCodeFence db text).toList) :
    (extractSQL db text).toList <:+: (searched db text).toList := by
  by_cases present : KeywordIn db (searched db text).toList
  · obtain ⟨before, after, split, _, _, cut⟩ :=
      cutEnd_extractSQL_of_keyword unicode not_marked present
    rw [split]
    exact cut.part.trans (List.suffix_append before after).isInfix
  · exact (cutEnd_extractSQL not_marked present).part

theorem searched_part (unicode : PyUnicode db) (text : String) :
    (searched db text).toList <:+: (stripCodeFence db text).toList := by
  rw [searched]
  cases inside : insideFence db (stripCodeFence db text) with
  | none => exact List.infix_rfl
  | some x =>
    obtain ⟨a, m, rest, _, split⟩ := insideFence_eq_some unicode inside
    have part : x.toList <:+: (stripCodeFence db text).toList :=
      ⟨a ++ m, ticks ++ rest, by rw [split]; simp only [List.append_assoc]⟩
    show (pyStrip x).toList <:+: (stripCodeFence db text).toList
    rw [toList_pyStrip]
    exact (trimBoth_part _ _).trans part

theorem extractSQL_part (unicode : PyUnicode db) (text : String) :
    (extractSQL db text).toList <:+: (stripCodeFence db text).toList := by
  by_cases marked : Marked db (stripCodeFence db text).toList
  · rw [extractSQL_of_marked marked]
  · exact (extractSQL_part_searched unicode marked).trans (searched_part unicode text)

/-! ## A part that is the whole statement -/

/-- A statement does not occur again behind its beginning if only white space and
semicolons follow it. -/
theorem eq_nil_of_later {front rest : List Char} (some_char : s ≠ []) (last : EndsOutside isTail s)
    (tail : w.all isTail = true) (same : s ++ w = front ++ (s ++ rest)) : front = [] := by
  have shifted : s ++ w = (front ++ s) ++ rest := by
    rw [same, List.append_assoc]
  have ends : EndsOutside isTail (front ++ s) := (endsOutside_append_iff some_char).mpr last
  rcases List.append_eq_append_iff.mp shifted with ⟨z, front_eq, w_eq⟩ | ⟨z, s_eq, _⟩
  · rw [w_eq, List.all_append, Bool.and_eq_true] at tail
    rw [front_eq] at ends
    have nothing := eq_nil_of_endsOutside ends tail.1
    rw [nothing, List.append_nil] at front_eq
    exact List.append_left_eq_self.mp front_eq
  · have lengths := congrArg List.length s_eq
    rw [List.length_append, List.length_append] at lengths
    exact List.eq_nil_of_length_eq_zero (by omega)

/-- A part of a text with further backquotes is not the statement. -/
theorem not_infix_of_count {front rest : List Char} (tail : w.all isTail = true)
    (same : s ++ w = front ++ (t ++ rest)) (part : s <:+: t)
    (more : 0 < front.count '\x60' + rest.count '\x60') : False := by
  have none_cut : '\x60' ∉ w := fun member =>
    absurd (List.all_eq_true.mp tail _ member) (by decide)
  have counts := congrArg (List.count '\x60') same
  rw [List.count_append, List.count_append, List.count_append,
    List.count_eq_zero_of_not_mem none_cut] at counts
  have fewer := part.sublist.count_le '\x60'
  omega

/-! ## The end -/

/-- White space, semicolons and white space again, in this order. -/
def CleanTail (tail : List Char) : Prop :=
  ∃ a b c, tail = a ++ (b ++ c) ∧ a.all pyIsSpace = true ∧ b.all (· == ';') = true ∧
    c.all pyIsSpace = true

/-- The last steps of `extract_sql`. -/
def tidied (t : List Char) : List Char :=
  trimBoth pyIsSpace (trimEnd (· == ';') (trimEnd pyIsSpace t))

theorem contains_semicolon : (fun c => ";".toList.contains c) = (· == ';') := by
  funext c
  show ([';'] : List Char).contains c = (c == ';')
  simp only [List.contains_cons, List.contains_nil, Bool.or_false]

theorem toList_tidied (t : String) :
    (pyStrip (pyRstripChars (pyRstrip t) ";")).toList = tidied t.toList := by
  rw [toList_pyStrip, pyRstripChars, trimRight, contains_semicolon, pyRstrip,
    String.toList_ofList, String.toList_ofList, tidied]

theorem cleanTail_iff {tail : List Char} : CleanTail tail ↔
    (trimEnd (· == ';') (trimEnd pyIsSpace tail)).all pyIsSpace = true := by
  constructor
  · rintro ⟨a, b, c, rfl, spaces, semicolons, spaces'⟩
    by_cases nothing : b = []
    · have blank : trimEnd pyIsSpace (a ++ (b ++ c)) = [] := by
        rw [trimEnd_eq_nil_iff, nothing, List.nil_append, List.all_append, spaces, spaces']
        rfl
      rw [blank]
      rfl
    · have last : EndsOutside pyIsSpace (a ++ b) := by
        rw [endsOutside_append_iff nothing]
        apply endsOutside_of_all semicolons
        intro x semicolon
        rw [eq_of_beq semicolon]
        rfl
      have last' : EndsOutside (· == ';') a := by
        apply endsOutside_of_all spaces
        intro x space
        apply beq_eq_false_iff_ne.mpr
        rintro rfl
        cases space
      rw [← List.append_assoc, trimEnd_append last spaces', trimEnd_append last' semicolons]
      exact spaces
  · intro spaces
    obtain ⟨c, split, spaces', _⟩ := trimEnd_spec pyIsSpace tail
    obtain ⟨b, split', semicolons, _⟩ := trimEnd_spec (· == ';') (trimEnd pyIsSpace tail)
    refine ⟨_, b, c, ?_, spaces, semicolons, spaces'⟩
    rw [← List.append_assoc, ← split', ← split]

/-- Behind a statement, the last steps cut off exactly the clean tails. -/
theorem tidied_append_iff (first : StartsOutside isTail s) (last : EndsOutside isTail s)
    (some_char : s ≠ []) {tail : List Char} : tidied (s ++ tail) = s ↔ CleanTail tail := by
  have first_space := startsOutside_space_of_tail first
  have last_space := endsOutside_space_of_tail last
  have last_semicolon : EndsOutside (· == ';') s := by
    apply last.mono
    intro c semicolon
    rw [isTail, semicolon, Bool.or_true]
  have stays : StartsOutside pyIsSpace (s ++ trimEnd (· == ';') (trimEnd pyIsSpace tail)) := by
    cases s with
    | nil => exact absurd rfl some_char
    | cons c s => exact first_space
  rw [cleanTail_iff, tidied, trimEnd_append_right last_space, trimEnd_append_right last_semicolon,
    trimBoth_of_startsOutside stays, trimEnd_append_right last_space, List.append_right_eq_self,
    trimEnd_eq_nil_iff]

theorem trimEnd_idem (p : Char → Bool) (l : List Char) :
    trimEnd p (trimEnd p l) = trimEnd p l := by
  obtain ⟨_, _, _, last⟩ := trimEnd_spec p l
  have kept := trimEnd_append last (b := []) rfl
  rwa [List.append_nil] at kept

theorem cleanTail_trimEnd_iff {tail : List Char} :
    CleanTail (trimEnd pyIsSpace tail) ↔ CleanTail tail := by
  rw [cleanTail_iff, cleanTail_iff, trimEnd_idem]

/-! ## Fences in the text -/

theorem search_openPattern_iff (unicode : PyUnicode db) {t : String} :
    (openPattern db).search t = none ↔ ∀ m rest, Opening db m → t.toList ≠ m ++ rest := by
  rw [Regex.search, Regex.searchFrom_eq_none_iff]
  constructor
  · intro nowhere m rest opening split
    have here := nowhere [] t.toList rfl (Nat.succ_pos _)
    have member := (mem_ends_openPattern unicode).mpr ⟨rfl, m, rest, split, opening, rfl⟩
    rw [List.reverse_nil, List.nil_append] at here
    rw [here] at member
    cases member
  · intro unopened early late split _
    rw [List.eq_nil_iff_forall_not_mem]
    intro d member
    obtain ⟨nothing, m, rest, rfl, opening, _⟩ := (mem_ends_openPattern unicode).mp member
    have first : early = [] := by simpa using nothing
    rw [first, List.nil_append] at split
    exact unopened m rest opening split

theorem search_closePattern_iff (unicode : PyUnicode db) {t : String}
    (last : EndsOutside pyIsSpace t.toList) :
    (closePattern db).search t = none ↔ ∀ v, t.toList ≠ v ++ ticks := by
  rw [Regex.search, Regex.searchFrom_eq_none_iff]
  constructor
  · intro nowhere v split
    have short : v.length < t.toList.length + 1 := by
      rw [split, List.length_append]
      omega
    have here := nowhere v ticks split short
    rw [split] at last
    have member : ⟨ticks.reverse ++ (v.reverse ++ []), [], []⟩ ∈
        (closePattern db).ends ⟨v.reverse ++ [], ticks, []⟩ :=
      (mem_ends_closePattern_at_end unicode last).mpr ⟨[], rfl, Or.inr rfl, rfl⟩
    rw [here] at member
    cases member
  · intro unfenced early late split _
    rw [List.eq_nil_iff_forall_not_mem]
    intro d member
    rw [split] at last
    obtain ⟨nl, rfl, _⟩ := (mem_ends_closePattern_at_end unicode last).mp member
    rw [← List.append_assoc] at split
    exact unfenced _ split

theorem forall_cleanPatterns_iff (unicode : PyUnicode db) {t : String}
    (last : EndsOutside pyIsSpace t.toList) :
    (∀ p ∈ cleanPatterns db, p.search t = none) ↔
      (∀ m rest, Opening db m → t.toList ≠ m ++ rest) ∧ ∀ v, t.toList ≠ v ++ ticks := by
  have patterns : cleanPatterns db = [openPattern db, closePattern db] := rfl
  rw [patterns, List.forall_mem_cons, List.forall_mem_singleton, search_openPattern_iff unicode,
    search_closePattern_iff unicode last]

/-- Taking off fences leaves a part of what is behind the opening one. -/
theorem stripCodeFence_part_opened (unicode : PyUnicode db) (text : String) :
    (stripCodeFence db text).toList <:+: opened db (trimBoth pyIsSpace text.toList) := by
  by_cases fenced : ∃ v, opened db (trimBoth pyIsSpace text.toList) = v ++ ticks
  · obtain ⟨v, fenced⟩ := fenced
    rw [stripCodeFence_of_fence unicode fenced, fenced]
    exact (trimBoth_part _ v).trans (List.prefix_append v ticks).isInfix
  · rw [not_exists] at fenced
    rw [stripCodeFence_of_not_fence unicode fenced]
    exact trimBoth_part _ _

/-- A text without fences is only trimmed. -/
theorem stripCodeFence_of_unfenced (unicode : PyUnicode db) {text : String}
    (unfenced : ∀ p ∈ cleanPatterns db, p.search (pyStrip text) = none) :
    stripCodeFence db text = pyStrip text := by
  have last : EndsOutside pyIsSpace (pyStrip text).toList := by
    rw [toList_pyStrip]
    exact endsOutside_trimBoth
  obtain ⟨unopened, unclosed⟩ := (forall_cleanPatterns_iff unicode last).mp unfenced
  rw [toList_pyStrip] at unopened unclosed
  have kept : opened db (trimBoth pyIsSpace text.toList) = trimBoth pyIsSpace text.toList := by
    rcases opened_cases unicode (trimBoth pyIsSpace text.toList) with
      ⟨m, opening, split⟩ | ⟨_, kept⟩
    · exact absurd split (unopened m _ opening)
    · exact kept
  apply String.toList_inj.mp
  rw [stripCodeFence_of_not_fence unicode (by rw [kept]; exact unclosed), kept, toList_pyStrip,
    trimBoth_idem]

theorem strip_searched (text : String) :
    trimBoth pyIsSpace (searched db text).toList = (searched db text).toList := by
  have stripped : ∃ t, (searched db text).toList = trimBoth pyIsSpace t := by
    rw [searched]
    cases insideFence db (stripCodeFence db text) with
    | none => exact ⟨_, toList_stripCodeFence text⟩
    | some x => exact ⟨x.toList, toList_pyStrip x⟩
  obtain ⟨t, same⟩ := stripped
  rw [same, trimBoth_idem]

/-- From the first keyword on nothing is lost, if it is the first word or there is none. -/
theorem extractSQL_of_kept (not_marked : ¬ Marked db (stripCodeFence db text).toList)
    (first : (sqlStart db).search (searched db text) = none ∨
      KeywordAt db [] (searched db text).toList) :
    (extractSQL db text).toList = tidied (searched db text).toList := by
  have kept : fromSQLStart db (searched db text) = searched db text := by
    unfold fromSQLStart
    cases found : (sqlStart db).search (searched db text) with
    | none => rfl
    | some ends =>
      obtain ⟨a, d⟩ := ends
      obtain ⟨before, after, split, rfl, _, none_before⟩ := Regex.searchFrom_eq_some_iff.mp found
      have keyword_at := first.resolve_left (by rw [found]; exact Option.some_ne_none _)
      obtain ⟨skipped, whole⟩ := before_of_keywordAt split none_before
        (List.nil_append _).symm keyword_at
      have lengths := congrArg List.length split
      rw [whole, List.length_append, List.length_append] at lengths
      obtain rfl := List.eq_nil_of_length_eq_zero (l := skipped) (by omega)
      apply String.toList_inj.mp
      rw [toList_pyStrip, String.toList_ofList, whole, List.nil_append, strip_searched]
  rw [extractSQL_of_not_marked not_marked, toList_tidied, kept]

/-! ## Statements -/

/-- The text of a statement with an end of white space and semicolons. -/
theorem toList_pyStrip_append {sql tail : String} (trimmed : Trimmed sql)
    (some_char : sql.toList ≠ []) :
    (pyStrip (sql ++ tail)).toList = sql.toList ++ trimEnd pyIsSpace tail.toList := by
  have first : StartsOutside pyIsSpace (sql.toList ++ tail.toList) := by
    have outside := startsOutside_space_of_tail trimmed.1
    cases chars : sql.toList with
    | nil => exact absurd chars some_char
    | cons c l =>
      rw [chars] at outside
      exact outside
  rw [toList_pyStrip, String.toList_append, trimBoth_of_startsOutside first,
    trimEnd_append_right (endsOutside_space_of_tail trimmed.2)]

/-- When a statement with an end of white space and semicolons is returned without the
end: nothing in the text is taken for a fence, and either the statement begins with the
marker and the end is blank, or it does not, the first keyword in it, if there is one, is
at its beginning, and the end is white space, semicolons and white space. -/
def Kept (db : UnicodeDb) (sql tail : String) : Prop :=
  (∀ p ∈ cleanPatterns db, p.search (pyStrip (sql ++ tail)) = none) ∧
    (isUntranslatable db sql = true ∧ pyStrip tail = "" ∨
      isUntranslatable db sql = false ∧ insideFence db (pyStrip (sql ++ tail)) = none ∧
        ((sqlStart db).search sql = none ∨ KeywordAt db [] sql.toList) ∧ CleanTail tail.toList)

section

variable {sql tail : String}

theorem tail_trimEnd (tails : tail.toList.all isTail = true) :
    (trimEnd pyIsSpace tail.toList).all isTail = true := by
  obtain ⟨b, split, _⟩ := trimEnd_spec pyIsSpace tail.toList
  rw [split, List.all_append, Bool.and_eq_true] at tails
  exact tails.1

theorem cutEnd_statement (tails : tail.toList.all isTail = true) :
    CutEnd (sql.toList ++ trimEnd pyIsSpace tail.toList) sql.toList :=
  ⟨_, rfl, tail_trimEnd tails⟩

/-- Without fences the marker is looked for in the statement. -/
theorem marked_statement_iff (unicode : PyUnicode db) (trimmed : Trimmed sql)
    (some_char : sql.toList ≠ []) (tails : tail.toList.all isTail = true)
    (unfenced : ∀ p ∈ cleanPatterns db, p.search (pyStrip (sql ++ tail)) = none) :
    Marked db (stripCodeFence db (sql ++ tail)).toList ↔ isUntranslatable db sql = true := by
  rw [stripCodeFence_of_unfenced unicode unfenced, toList_pyStrip_append trimmed some_char,
    (cutEnd_statement tails).marked_iff unicode, isUntranslatable_iff]

theorem searched_statement (unicode : PyUnicode db)
    (unfenced : ∀ p ∈ cleanPatterns db, p.search (pyStrip (sql ++ tail)) = none)
    (outside : insideFence db (pyStrip (sql ++ tail)) = none) :
    searched db (sql ++ tail) = pyStrip (sql ++ tail) := by
  rw [searched, stripCodeFence_of_unfenced unicode unfenced, outside]
  rfl

/-- A statement whose first keyword, if any, is at its beginning is only tidied. -/
theorem extractSQL_statement (unicode : PyUnicode db) (trimmed : Trimmed sql)
    (some_char : sql.toList ≠ []) (tails : tail.toList.all isTail = true)
    (not_marked : ¬ Marked db (stripCodeFence db (sql ++ tail)).toList)
    (whole : searched db (sql ++ tail) = pyStrip (sql ++ tail))
    (first : (sqlStart db).search sql = none ∨ KeywordAt db [] sql.toList) :
    (extractSQL db (sql ++ tail)).toList =
      tidied (sql.toList ++ trimEnd pyIsSpace tail.toList) := by
  have stripped : (pyStrip (sql ++ tail)).toList = sql.toList ++ trimEnd pyIsSpace tail.toList :=
    toList_pyStrip_append trimmed some_char
  have cut : CutEnd (sql.toList ++ trimEnd pyIsSpace tail.toList) sql.toList :=
    cutEnd_statement tails
  have first_word : (sqlStart db).search (searched db (sql ++ tail)) = none ∨
      KeywordAt db [] (searched db (sql ++ tail)).toList := by
    rw [whole, search_sqlStart_eq_none_iff, stripped, cut.keywordIn_iff unicode,
      cut.keywordAt_iff unicode, ← search_sqlStart_eq_none_iff]
    exact first
  rw [extractSQL_of_kept not_marked first_word, whole, stripped]

theorem extractSQL_of_kept_statement (unicode : PyUnicode db) (trimmed : Trimmed sql)
    (some_char : sql.toList ≠ []) (tails : tail.toList.all isTail = true)
    (kept : Kept db sql tail) : extractSQL db (sql ++ tail) = sql := by
  obtain ⟨unfenced, marked_or⟩ := kept
  have marked_iff := marked_statement_iff unicode trimmed some_char tails unfenced
  apply String.toList_inj.mp
  rcases marked_or with ⟨marked, blank⟩ | ⟨unmarked, outside, first, clean⟩
  · have nothing := trimEnd_eq_nil_iff.mpr (trimBoth_eq_nil_iff.mp (pyStrip_eq_empty_iff.mp blank))
    rw [extractSQL_of_marked (marked_iff.mpr marked), stripCodeFence_of_unfenced unicode unfenced,
      toList_pyStrip_append trimmed some_char, nothing, List.append_nil]
  · have not_marked : ¬ Marked db (stripCodeFence db (sql ++ tail)).toList := by
      rw [marked_iff, unmarked]
      exact Bool.false_ne_true
    rw [extractSQL_statement unicode trimmed some_char tails not_marked
        (searched_statement unicode unfenced outside) first,
      tidied_append_iff trimmed.1 trimmed.2 some_char]
    exact cleanTail_trimEnd_iff.mpr clean

theorem unfenced_of_extractSQL (unicode : PyUnicode db) (trimmed : Trimmed sql)
    (some_char : sql.toList ≠ []) (tails : tail.toList.all isTail = true)
    (returned : extractSQL db (sql ++ tail) = sql) :
    ∀ p ∈ cleanPatterns db, p.search (pyStrip (sql ++ tail)) = none := by
  have stripped : (pyStrip (sql ++ tail)).toList = sql.toList ++ trimEnd pyIsSpace tail.toList :=
    toList_pyStrip_append trimmed some_char
  have last : EndsOutside pyIsSpace (pyStrip (sql ++ tail)).toList := by
    rw [toList_pyStrip]
    exact endsOutside_trimBoth
  have part := (extractSQL_part unicode (sql ++ tail)).trans
    (stripCodeFence_part_opened unicode (sql ++ tail))
  rw [returned, ← toList_pyStrip, stripped] at part
  have cases := opened_cases unicode (sql.toList ++ trimEnd pyIsSpace tail.toList)
  have unopened : ∀ m rest, Opening db m →
      sql.toList ++ trimEnd pyIsSpace tail.toList ≠ m ++ rest := by
    rcases cases with ⟨m, opening, split⟩ | ⟨unopened, _⟩
    · obtain ⟨front, rest, inside⟩ := part
      rw [← inside, List.append_assoc, ← List.append_assoc] at split
      have nothing := eq_nil_of_later some_char trimmed.2 (tail_trimEnd tails) split
      exact absurd (List.append_eq_nil_iff.mp nothing).1 opening.ne_nil
    · exact unopened
  rw [forall_cleanPatterns_iff unicode last, stripped]
  refine ⟨unopened, ?_⟩
  intro v split
  have kept : opened db (trimBoth pyIsSpace (sql ++ tail).toList) = v ++ ticks := by
    rcases cases with ⟨m, opening, split'⟩ | ⟨_, kept⟩
    · exact absurd split' (unopened m _ opening)
    · rw [← toList_pyStrip, stripped, kept, split]
  have part' := extractSQL_part unicode (sql ++ tail)
  rw [returned, stripCodeFence_of_fence unicode kept] at part'
  rw [← List.nil_append (v ++ ticks)] at split
  exact not_infix_of_count (tail_trimEnd tails) split (part'.trans (trimBoth_part _ v))
    (by decide)

/-- If the statement is returned, nothing in the text is inside a fence. -/
theorem outside_of_extractSQL (unicode : PyUnicode db) (trimmed : Trimmed sql)
    (some_char : sql.toList ≠ []) (tails : tail.toList.all isTail = true)
    (unfenced : ∀ p ∈ cleanPatterns db, p.search (pyStrip (sql ++ tail)) = none)
    (not_marked : ¬ Marked db (stripCodeFence db (sql ++ tail)).toList)
    (returned : extractSQL db (sql ++ tail) = sql) :
    insideFence db (pyStrip (sql ++ tail)) = none := by
  cases inside : insideFence db (pyStrip (sql ++ tail)) with
  | none => rfl
  | some x =>
    obtain ⟨a, m, rest, _, split⟩ := insideFence_eq_some unicode inside
    have part := extractSQL_part_searched unicode not_marked
    rw [returned, searched, stripCodeFence_of_unfenced unicode unfenced, inside] at part
    have inner : sql.toList <:+: x.toList := by
      apply part.trans
      show (pyStrip x).toList <:+: x.toList
      rw [toList_pyStrip]
      exact trimBoth_part _ _
    rw [toList_pyStrip_append trimmed some_char, ← List.append_assoc] at split
    have more : 0 < (ticks ++ rest).count '\x60' := List.count_pos_iff.mpr (by simp [ticks])
    exact (not_infix_of_count (tail_trimEnd tails) split inner (Nat.add_pos_right _ more)).elim

/-- If the statement is returned, its first keyword, if any, is at its beginning. -/
theorem first_of_extractSQL (unicode : PyUnicode db) (trimmed : Trimmed sql)
    (some_char : sql.toList ≠ []) (tails : tail.toList.all isTail = true)
    (not_marked : ¬ Marked db (stripCodeFence db (sql ++ tail)).toList)
    (whole : searched db (sql ++ tail) = pyStrip (sql ++ tail))
    (returned : extractSQL db (sql ++ tail) = sql) :
    (sqlStart db).search sql = none ∨ KeywordAt db [] sql.toList := by
  have stripped : (pyStrip (sql ++ tail)).toList = sql.toList ++ trimEnd pyIsSpace tail.toList :=
    toList_pyStrip_append trimmed some_char
  rw [search_sqlStart_eq_none_iff]
  by_cases present : KeywordIn db (searched db (sql ++ tail)).toList
  · obtain ⟨before, after, split, keyword_at, _, cut_after⟩ :=
      cutEnd_extractSQL_of_keyword unicode not_marked present
    rw [returned] at cut_after
    have cut_text := cut_after
    obtain ⟨b, after_eq, _⟩ := cut_text
    rw [whole, stripped, after_eq] at split
    have nothing := eq_nil_of_later some_char trimmed.2 (tail_trimEnd tails) split
    rw [nothing] at keyword_at
    exact Or.inr ((cut_after.keywordAt_iff unicode).mp keyword_at)
  · rw [whole, stripped, (cutEnd_statement tails).keywordIn_iff unicode] at present
    exact Or.inl present

theorem kept_of_extractSQL (unicode : PyUnicode db) (trimmed : Trimmed sql)
    (some_char : sql.toList ≠ []) (tails : tail.toList.all isTail = true)
    (returned : extractSQL db (sql ++ tail) = sql) : Kept db sql tail := by
  have unfenced := unfenced_of_extractSQL unicode trimmed some_char tails returned
  refine ⟨unfenced, ?_⟩
  have marked_iff := marked_statement_iff unicode trimmed some_char tails unfenced
  cases unmarked : isUntranslatable db sql with
  | true =>
    refine Or.inl ⟨rfl, ?_⟩
    rw [extractSQL_of_marked (marked_iff.mpr unmarked), stripCodeFence_of_unfenced unicode unfenced,
      ← String.toList_inj, toList_pyStrip_append trimmed some_char, List.append_right_eq_self,
      trimEnd_eq_nil_iff] at returned
    exact pyStrip_eq_empty_iff.mpr (trimBoth_eq_nil_iff.mpr returned)
  | false =>
    have not_marked : ¬ Marked db (stripCodeFence db (sql ++ tail)).toList := by
      rw [marked_iff, unmarked]
      exact Bool.false_ne_true
    have outside :=
      outside_of_extractSQL unicode trimmed some_char tails unfenced not_marked returned
    have whole := searched_statement unicode unfenced outside
    have first := first_of_extractSQL unicode trimmed some_char tails not_marked whole returned
    refine Or.inr ⟨rfl, outside, first, ?_⟩
    have tidy := extractSQL_statement unicode trimmed some_char tails not_marked whole first
    rw [returned] at tidy
    exact cleanTail_trimEnd_iff.mp ((tidied_append_iff trimmed.1 trimmed.2 some_char).mp tidy.symm)

/-- A statement with any end of white space and semicolons, none included, is returned
without the end exactly in the cases of `Kept`. -/
theorem extractSQL_append_iff (unicode : PyUnicode db) (trimmed : Trimmed sql)
    (some_char : sql ≠ "") (tails : tail.toList.all isTail = true) :
    extractSQL db (sql ++ tail) = sql ↔ Kept db sql tail := by
  have some_char' : sql.toList ≠ [] := fun nothing => some_char (String.toList_inj.mp nothing)
  constructor
  · exact kept_of_extractSQL unicode trimmed some_char' tails
  · exact extractSQL_of_kept_statement unicode trimmed some_char' tails

end

theorem extractSQL_append_iff_selectOne :
    extractSQL .ascii ("SELECT 1" ++ " ;\n") = "SELECT 1" ↔ Kept .ascii "SELECT 1" " ;\n" :=
  extractSQL_append_iff pyUnicode_ascii ⟨rfl, rfl⟩ (by decide) (by decide)

/-- A statement in parentheses loses the first one. -/
theorem not_extractSQL_parenthesis : ¬ extractSQL .ascii ("(SELECT 1)" ++ "") = "(SELECT 1)" := by
  decide

end MysqlRedshift.Agent
