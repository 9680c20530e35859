import Mathlib.Data.List.Infix
import MysqlRedshift.Agent.Translate
import MysqlRedshift.Misc.RegexLaws
import MysqlRedshift.Misc.TextLaws

/-!
# What `extract_sql` makes of an answer

The function takes off a fence around the answer, takes what is inside a fence in it,
cuts off what stands before the first keyword, and trims. Here each step is described by
what it leaves: a part of the text that begins where it says.
-/

namespace MysqlRedshift.Agent

open MysqlRedshift.Misc
open MysqlRedshift.Misc.Regex (Spells NoneBefore)

/-- What is used of the Unicode database: only letters and digits match letters,
only a backquote matches a backquote, white space and the three marks are no word
characters and are their own upper case, and no letter or digit has an upper case that
begins with a hyphen. -/
structure PyUnicode (db : UnicodeDb) : Prop where
  letter : ∀ x c, x.isAlpha = true → db.sameIgnoreCase x c = true → db.isAlnum c = true
  self : ∀ c, db.sameIgnoreCase c c = true
  backquote : ∀ c, db.sameIgnoreCase '\x60' c = true → c = '\x60'
  space : ∀ c, pyIsSpace c = true → db.isAlnum c = false ∧ db.toUpper c = [c]
  mark : ∀ c, c = ';' ∨ c = '\x60' ∨ c = '-' → db.isAlnum c = false ∧ db.toUpper c = [c]
  upper : ∀ c, db.isAlnum c = true → ∃ u us, db.toUpper c = u :: us ∧ u ≠ '-'

/-- ASCII is such a database. -/
theorem pyUnicode_ascii : PyUnicode .ascii where
  letter x c letter same := by
    have lower : x.toLower = c.toLower := by simpa [UnicodeDb.ascii] using same
    have codes := congrArg Char.toNat lower
    rw [toNat_toLower, toNat_toLower] at codes
    show c.isAlphanum = true
    rw [isAlphanum_iff]
    rw [isAlpha_iff] at letter
    split at codes <;> split at codes <;> omega
  self c := beq_self_eq_true _
  backquote c same := by
    have lower : ('\x60').toLower = c.toLower := by simpa [UnicodeDb.ascii] using same
    have codes := congrArg Char.toNat lower
    have tick : ('\x60').toNat = 96 := rfl
    rw [toNat_toLower, toNat_toLower] at codes
    rw [← Char.toNat_inj]
    split at codes <;> split at codes <;> omega
  space c space := by
    have outside : c.toNat ≤ 0x20 ∨ 0x80 ≤ c.toNat := by
      simp only [pyIsSpace, isWideSpace, Bool.or_eq_true, Bool.and_eq_true, decide_eq_true_eq,
        beq_iff_eq] at space
      omega
    have upper := toNat_toUpper c
    constructor
    · show c.isAlphanum = false
      rw [Bool.eq_false_iff, ne_eq, isAlphanum_iff]
      omega
    · have same : c.toUpper = c := by
        rw [← Char.toNat_inj, upper]
        split <;> omega
      show [c.toUpper] = [c]
      rw [same]
  mark c mark := by
    rcases mark with rfl | rfl | rfl <;> decide
  upper c alnum := by
    refine ⟨c.toUpper, [], rfl, ?_⟩
    intro hyphen
    have upper := toNat_toUpper c
    have mark : ('-').toNat = 45 := rfl
    have letter : c.isAlphanum = true := alnum
    rw [isAlphanum_iff] at letter
    rw [hyphen] at upper
    split at upper <;> omega

variable {db : UnicodeDb}

/-! ## Keywords -/

/-- The keywords of `_SQL_START`. -/
def sqlKeywords : List String :=
  ["WITH", "SELECT", "INSERT", "UPDATE", "DELETE", "CREATE", "DROP", "ALTER", "TRUNCATE",
    "SHOW", "EXPLAIN", "BEGIN", "COMMIT", "COPY", "UNLOAD"]

theorem sqlStart_eq (db : UnicodeDb) :
    sqlStart db = .all [boundary db, .oneOf (sqlKeywords.map (keyword db)), boundary db] := rfl

/-- `_SQL_START` matches at a place. -/
def KeywordAt (db : UnicodeDb) (before after : List Char) : Prop :=
  ∃ d, d ∈ (sqlStart db).ends ⟨before, after, []⟩

/-- No word character comes first. -/
abbrev NoWord (db : UnicodeDb) (l : List Char) : Prop := StartsOutside (pyIsWord db) l

theorem sqlKeywords_letters :
    sqlKeywords.all (fun k => k.toList.all Char.isAlpha && !k.toList.isEmpty) = true := by
  decide

theorem all_word_of_spells (unicode : PyUnicode db) {k w : List Char}
    (letters : ∀ x ∈ k, x.isAlpha = true) (spells : Spells db.sameIgnoreCase k w) :
    w.all (pyIsWord db) = true := by
  induction spells with
  | nil => rfl
  | cons same _ ih =>
    have ⟨first, rest⟩ := List.forall_mem_cons.mp letters
    rw [List.all_cons, ih rest, Bool.and_true, pyIsWord, unicode.letter _ _ first same]
    rfl

/-- What spells a keyword is not empty and consists of word characters. -/
theorem word_of_spells (unicode : PyUnicode db) {k : String} (listed : k ∈ sqlKeywords)
    {w : List Char} (spells : Spells db.sameIgnoreCase k.toList w) :
    w ≠ [] ∧ w.all (pyIsWord db) = true := by
  have letters := List.all_eq_true.mp sqlKeywords_letters k listed
  rw [Bool.and_eq_true] at letters
  constructor
  · rintro rfl
    have empty := List.eq_nil_of_length_eq_zero spells.length_eq
    simp [empty] at letters
  · exact all_word_of_spells unicode (List.all_eq_true.mp letters.1) spells

theorem mem_ends_boundary {c d : Cursor} : d ∈ (boundary db).ends c ↔
    (c.before.head?.any (pyIsWord db) != c.after.head?.any (pyIsWord db)) = true ∧ d = c :=
  Regex.mem_ends_assert

/-- A keyword stands at a place: no word character is before it, none behind it. -/
theorem keywordAt_iff (unicode : PyUnicode db) {before after : List Char} :
    KeywordAt db before after ↔ NoWord db before ∧ ∃ k ∈ sqlKeywords, ∃ w rest,
      after = w ++ rest ∧ Spells db.sameIgnoreCase k.toList w ∧ NoWord db rest := by
  rw [KeywordAt, sqlStart_eq]
  constructor
  · rintro ⟨d, member⟩
    obtain ⟨_, first, member⟩ := Regex.mem_ends_all_cons.mp member
    obtain ⟨starts, rfl⟩ := mem_ends_boundary.mp first
    obtain ⟨e, inner, member⟩ := Regex.mem_ends_all_cons.mp member
    obtain ⟨_, mapped, inner⟩ := Regex.mem_ends_oneOf.mp inner
    obtain ⟨k, listed, rfl⟩ := List.mem_map.mp mapped
    obtain ⟨w, rest, split, spells, rfl⟩ := Regex.mem_ends_text.mp inner
    obtain ⟨_, last, _⟩ := Regex.mem_ends_all_cons.mp member
    obtain ⟨stops, _⟩ := mem_ends_boundary.mp last
    have ⟨some_char, all⟩ := word_of_spells unicode listed spells
    have front := any_head?_of_all some_char all rest
    have back : (w.reverse ++ before).head?.any (pyIsWord db) = true :=
      any_head?_of_all (by simpa using some_char) (by simpa using all) before
    dsimp only at starts stops split
    rw [split, front] at starts
    rw [back] at stops
    exact ⟨by simpa [StartsOutside] using starts, k, listed, w, rest, split, spells,
      by simpa [StartsOutside] using stops⟩
  · rintro ⟨starts, k, listed, w, rest, rfl, spells, stops⟩
    have ⟨some_char, all⟩ := word_of_spells unicode listed spells
    have front := any_head?_of_all some_char all rest
    have back : (w.reverse ++ before).head?.any (pyIsWord db) = true :=
      any_head?_of_all (by simpa using some_char) (by simpa using all) before
    refine ⟨⟨w.reverse ++ before, rest, []⟩, Regex.mem_ends_all_cons.mpr
      ⟨_, mem_ends_boundary.mpr ⟨?_, rfl⟩, Regex.mem_ends_all_cons.mpr
        ⟨_, Regex.mem_ends_oneOf.mpr ⟨_, List.mem_map_of_mem listed,
          Regex.mem_ends_text.mpr ⟨w, rest, rfl, spells, rfl⟩⟩,
        Regex.mem_ends_all_cons.mpr ⟨_, mem_ends_boundary.mpr ⟨?_, rfl⟩, ?_⟩⟩⟩⟩
    · rw [front, starts]
      rfl
    · rw [back, stops]
      rfl
    · exact Regex.mem_ends_all_nil.mpr rfl

/-- A keyword begins with a letter. -/
theorem KeywordAt.head (unicode : PyUnicode db) {before after : List Char}
    (keyword_at : KeywordAt db before after) :
    ∃ c rest, after = c :: rest ∧ db.isAlnum c = true := by
  obtain ⟨_, k, listed, w, rest, rfl, spells, _⟩ := (keywordAt_iff unicode).mp keyword_at
  have letters := List.all_eq_true.mp sqlKeywords_letters k listed
  rw [Bool.and_eq_true] at letters
  cases chars : k.toList with
  | nil => simp [chars] at letters
  | cons x xs =>
    rw [chars] at spells letters
    cases spells with
    | cons same spells =>
      have ⟨first, _⟩ := List.forall_mem_cons.mp (List.all_eq_true.mp letters.1)
      exact ⟨_, _, rfl, unicode.letter _ _ first same⟩

theorem startsOutside_append {p : Char → Bool} {l m : List Char} (first : StartsOutside p l)
    (second : StartsOutside p m) : StartsOutside p (l ++ m) := by
  cases l with
  | nil => exact second
  | cons x l => exact first

/-- What follows a word does not matter if it begins with no word character. -/
theorem keywordAt_append_iff (unicode : PyUnicode db) {before t cut : List Char}
    (stops : NoWord db cut) : KeywordAt db before (t ++ cut) ↔ KeywordAt db before t := by
  rw [keywordAt_iff unicode, keywordAt_iff unicode]
  constructor
  · rintro ⟨starts, k, listed, w, rest, split, spells, ends⟩
    have ⟨some_char, all⟩ := word_of_spells unicode listed spells
    rcases List.append_eq_append_iff.mp split with ⟨m, w_eq, cut_eq⟩ | ⟨m, t_eq, rest_eq⟩
    · cases m with
      | nil =>
        rw [List.append_nil] at w_eq
        exact ⟨starts, k, listed, w, [], by simp [w_eq], spells, rfl⟩
      | cons x m =>
        rw [w_eq, List.all_append, List.all_cons, Bool.and_eq_true, Bool.and_eq_true] at all
        rw [cut_eq] at stops
        simp [StartsOutside, all.2.1] at stops
    · rw [rest_eq] at ends
      exact ⟨starts, k, listed, w, m, t_eq, spells, startsOutside_of_append ends⟩
  · rintro ⟨starts, k, listed, w, m, rfl, spells, ends⟩
    exact ⟨starts, k, listed, w, m ++ cut, List.append_assoc .., spells,
      startsOutside_append ends stops⟩

/-- A keyword stands somewhere in a text. -/
def KeywordIn (db : UnicodeDb) (l : List Char) : Prop :=
  ∃ before after, l = before ++ after ∧ KeywordAt db before.reverse after

theorem not_keywordAt_iff {before after : List Char} :
    ¬ KeywordAt db before after ↔ (sqlStart db).ends ⟨before, after, []⟩ = [] := by
  rw [KeywordAt, not_exists, List.eq_nil_iff_forall_not_mem]

theorem search_sqlStart_eq_none_iff {t : String} :
    (sqlStart db).search t = none ↔ ¬ KeywordIn db t.toList := by
  rw [Regex.search, Regex.searchFrom_eq_none_iff]
  constructor
  · rintro none ⟨before, after, split, keyword_at⟩
    have short : before.length < t.toList.length + 1 := by
      rw [split, List.length_append]
      omega
    have empty := none before after split short
    rw [List.append_nil] at empty
    exact not_keywordAt_iff.mpr empty keyword_at
  · intro absent before after split _
    rw [List.append_nil]
    exact not_keywordAt_iff.mp fun keyword_at => absent ⟨before, after, split, keyword_at⟩

theorem keywordIn_append_iff (unicode : PyUnicode db) {t cut : List Char}
    (outside : ∀ c ∈ cut, pyIsWord db c = false) : KeywordIn db (t ++ cut) ↔ KeywordIn db t := by
  have stops : NoWord db cut := by
    cases cut with
    | nil => rfl
    | cons x cut => simpa [StartsOutside] using outside x List.mem_cons_self
  constructor
  · rintro ⟨before, after, split, keyword_at⟩
    rcases List.append_eq_append_iff.mp split with ⟨m, before_eq, cut_eq⟩ | ⟨m, t_eq, after_eq⟩
    · obtain ⟨c, rest, rfl, letter⟩ := keyword_at.head unicode
      have := outside c (by simp [cut_eq])
      rw [pyIsWord, letter] at this
      cases this
    · rw [after_eq, keywordAt_append_iff unicode stops] at keyword_at
      exact ⟨before, m, t_eq, keyword_at⟩
  · rintro ⟨before, after, rfl, keyword_at⟩
    exact ⟨before, after ++ cut, List.append_assoc .., (keywordAt_append_iff unicode stops).mpr
      keyword_at⟩

theorem not_keywordAt_of_not_letter (unicode : PyUnicode db) {before rest : List Char} {c : Char}
    (not_letter : db.isAlnum c = false) : ¬ KeywordAt db before (c :: rest) := by
  intro keyword_at
  obtain ⟨_, _, chars, letter⟩ := keyword_at.head unicode
  obtain ⟨rfl, _⟩ := List.cons.inj chars
  rw [not_letter] at letter
  cases letter

theorem isAlnum_of_not_word {c : Char} (outside : pyIsWord db c = false) :
    db.isAlnum c = false := by
  rw [pyIsWord, Bool.or_eq_false_iff] at outside
  exact outside.1

/-- What is before a text does not matter if there is no word in it. -/
theorem keywordIn_append_left_iff (unicode : PyUnicode db) {front t : List Char}
    (outside : ∀ c ∈ front, pyIsWord db c = false) :
    KeywordIn db (front ++ t) ↔ KeywordIn db t := by
  constructor
  · rintro ⟨before, after, split, keyword_at⟩
    obtain ⟨starts, word⟩ := (keywordAt_iff unicode).mp keyword_at
    rcases List.append_eq_append_iff.mp split with ⟨m, rfl, t_eq⟩ | ⟨m, front_eq, after_eq⟩
    · rw [List.reverse_append] at starts
      exact ⟨m, after, t_eq, (keywordAt_iff unicode).mpr ⟨startsOutside_of_append starts, word⟩⟩
    · cases m with
      | nil => exact ⟨[], after, after_eq.symm, (keywordAt_iff unicode).mpr ⟨rfl, word⟩⟩
      | cons y m =>
        rw [after_eq] at keyword_at
        have not_letter := isAlnum_of_not_word (outside y (by simp [front_eq]))
        exact absurd keyword_at (not_keywordAt_of_not_letter unicode not_letter)
  · rintro ⟨before, after, rfl, keyword_at⟩
    obtain ⟨starts, word⟩ := (keywordAt_iff unicode).mp keyword_at
    refine ⟨front ++ before, after, (List.append_assoc ..).symm, (keywordAt_iff unicode).mpr
      ⟨?_, word⟩⟩
    rw [List.reverse_append]
    apply startsOutside_append starts
    cases reversed : front.reverse with
    | nil => rfl
    | cons y ys =>
      have member : y ∈ front := by
        rw [← List.mem_reverse, reversed]
        exact List.mem_cons_self
      exact outside y member

/-- Where no word is, no keyword begins. -/
theorem noneBefore_of_outside (unicode : PyUnicode db) {u : List Char} (before v : List Char)
    (outside : ∀ c ∈ u, pyIsWord db c = false) :
    NoneBefore (sqlStart db) before (u ++ v) u.length := by
  induction u generalizing before with
  | nil => exact fun _ _ _ short => absurd short (Nat.not_lt_zero _)
  | cons c u ih =>
    have ⟨first, rest⟩ := List.forall_mem_cons.mp outside
    apply NoneBefore.cons _ (ih (c :: before) rest)
    exact not_keywordAt_iff.mp (not_keywordAt_of_not_letter unicode (isAlnum_of_not_word first))

/-- In a text without keywords none begins, whatever follows it but a word. -/
theorem noneBefore_of_not_keywordIn (unicode : PyUnicode db) {x v : List Char}
    (absent : ¬ KeywordIn db x) (stops : NoWord db v) :
    NoneBefore (sqlStart db) [] (x ++ v) x.length := by
  intro early late split short
  rw [List.append_nil]
  apply not_keywordAt_iff.mp
  intro keyword_at
  rcases List.append_eq_append_iff.mp split with ⟨m, rfl, _⟩ | ⟨m, rfl, rfl⟩
  · rw [List.length_append] at short
    omega
  · rw [keywordAt_append_iff unicode stops] at keyword_at
    exact absent ⟨early, m, rfl, keyword_at⟩

/-- The word at a place is a keyword. -/
theorem keywordAt_word_iff (unicode : PyUnicode db) {before w rest : List Char}
    (word : w.all (pyIsWord db) = true) (stops : NoWord db rest) :
    KeywordAt db before (w ++ rest) ↔
      NoWord db before ∧ ∃ k ∈ sqlKeywords, Spells db.sameIgnoreCase k.toList w := by
  rw [keywordAt_iff unicode]
  constructor
  · rintro ⟨starts, k, listed, w', rest', split, spells, stops'⟩
    have ⟨_, word'⟩ := word_of_spells unicode listed spells
    obtain ⟨rfl, _⟩ := run_unique word word' stops stops' split
    exact ⟨starts, k, listed, spells⟩
  · rintro ⟨starts, k, listed, spells⟩
    exact ⟨starts, k, listed, w, rest, rfl, spells, stops⟩

/-! ## The marker -/

/-- `-- UNTRANSLATABLE`. -/
def marker : List Char := "-- UNTRANSLATABLE".toList

/-- The upper case of the text begins with the marker. -/
def Marked (db : UnicodeDb) (l : List Char) : Prop := marker <+: l.flatMap db.toUpper

theorem isUntranslatable_iff {t : String} : isUntranslatable db t = true ↔ Marked db t.toList := by
  have chars : (pyUpper db t).toList = t.toList.flatMap db.toUpper := String.toList_ofList
  rw [isUntranslatable, hasPrefix, List.isPrefixOf_iff_prefix, chars]
  rfl

/-- The end of a text is not needed for the marker if no beginning of it is an end of the
marker. -/
theorem prefix_append_iff {m u v : List Char}
    (apart : ∀ v', v' <+: v → v' <:+ m → v' = []) : m <+: u ++ v ↔ m <+: u := by
  constructor
  · rintro ⟨rest, split⟩
    rcases List.append_eq_append_iff.mp split with ⟨x, u_eq, _⟩ | ⟨x, m_eq, v_eq⟩
    · exact ⟨x, u_eq.symm⟩
    · have nothing := apart x ⟨rest, v_eq.symm⟩ ⟨u, m_eq.symm⟩
      rw [nothing, List.append_nil] at m_eq
      exact m_eq ▸ List.prefix_rfl
  · intro first
    exact first.trans (List.prefix_append ..)

/-- No two characters of the marker that follow one another are white space, and there is
no line break in it. -/
theorem marker_tails : marker.tails.all (fun
    | [] => true
    | [c] => !pyIsSpace c
    | c :: d :: _ => !pyIsSpace c || c != '\n' && !pyIsSpace d) = true := by
  decide

/-- Behind a line break, nothing belongs to the marker any more. -/
theorem marked_prose_iff (unicode : PyUnicode db) {x b late : List Char}
    (spaces : b.all pyIsSpace = true) (line : '\n' ∈ b) :
    Marked db (x ++ (b ++ late)) ↔ Marked db x := by
  have same : b.flatMap db.toUpper = b := by
    clear line
    induction b with
    | nil => rfl
    | cons c b ih =>
      rw [List.all_cons, Bool.and_eq_true] at spaces
      rw [List.flatMap_cons, (unicode.space c spaces.1).2, ih spaces.2]
      rfl
  rw [Marked, Marked, List.flatMap_append, List.flatMap_append, same]
  apply prefix_append_iff
  intro v starts ends
  have tail := List.all_eq_true.mp marker_tails v ((List.mem_tails _ _).mpr ends)
  obtain ⟨rest, split⟩ := starts
  match v, b with
  | [], _ => rfl
  | c :: v, y :: b =>
    obtain ⟨rfl, later⟩ := List.cons.inj split
    rw [List.all_cons, Bool.and_eq_true] at spaces
    match v, b with
    | [], _ => simp [spaces.1] at tail
    | d :: v, [] =>
      obtain rfl : '\n' = c := by simpa using line
      simp [spaces.1] at tail
    | d :: v, z :: b =>
      obtain ⟨rfl, _⟩ := List.cons.inj later
      rw [List.all_cons, Bool.and_eq_true] at spaces
      simp [spaces.1, spaces.2.1] at tail

theorem not_marked_of_letter (unicode : PyUnicode db) {c : Char} {l : List Char}
    (letter : db.isAlnum c = true) : ¬ Marked db (c :: l) := by
  obtain ⟨u, us, upper, not_hyphen⟩ := unicode.upper c letter
  rintro ⟨rest, split⟩
  rw [List.flatMap_cons, upper] at split
  exact not_hyphen (List.cons.inj split).1.symm

theorem KeywordAt.not_marked (unicode : PyUnicode db) {before after : List Char}
    (keyword_at : KeywordAt db before after) : ¬ Marked db after := by
  obtain ⟨c, rest, rfl, letter⟩ := keyword_at.head unicode
  exact not_marked_of_letter unicode letter

/-! ## Cutting the end -/

/-- The characters that the last steps cut off. -/
def isTail (c : Char) : Bool := pyIsSpace c || c == ';'

/-- `u` is `t` without an end of white space and semicolons. -/
def CutEnd (t u : List Char) : Prop := ∃ b, t = u ++ b ∧ b.all isTail = true

theorem CutEnd.refl (t : List Char) : CutEnd t t := ⟨[], by simp, rfl⟩

theorem CutEnd.trans {t u v : List Char} (first : CutEnd t u) (second : CutEnd u v) :
    CutEnd t v := by
  obtain ⟨b, rfl, all⟩ := first
  obtain ⟨b', rfl, all'⟩ := second
  exact ⟨b' ++ b, List.append_assoc .., by rw [List.all_append, all, all']; rfl⟩

theorem cutEnd_trimEnd {p : Char → Bool} (tail : ∀ c, p c = true → isTail c = true)
    (t : List Char) : CutEnd t (trimEnd p t) := by
  obtain ⟨b, split, all, _⟩ := trimEnd_spec p t
  refine ⟨b, split, ?_⟩
  rw [List.all_eq_true] at all ⊢
  exact fun c member => tail c (all c member)

theorem isTail_of_space {c : Char} (space : pyIsSpace c = true) : isTail c = true := by
  rw [isTail, space]
  rfl

theorem cutEnd_strip {t : List Char} (first : StartsOutside pyIsSpace t) :
    CutEnd t (trimBoth pyIsSpace t) := by
  rw [trimBoth_of_startsOutside first]
  exact cutEnd_trimEnd (fun _ => isTail_of_space) t

theorem CutEnd.startsOutside {p : Char → Bool} {t u : List Char} (cut : CutEnd t u)
    (first : StartsOutside p t) : StartsOutside p u := by
  obtain ⟨b, rfl, _⟩ := cut
  exact startsOutside_of_append first

theorem tail_not_word (unicode : PyUnicode db) {c : Char} (tail : isTail c = true) :
    pyIsWord db c = false ∧ db.toUpper c = [c] := by
  rw [isTail, Bool.or_eq_true, beq_iff_eq] at tail
  rcases tail with space | rfl
  · have not_line : c ≠ '_' := by
      rintro rfl
      exact absurd space (by decide)
    have ⟨not_alnum, upper⟩ := unicode.space c space
    exact ⟨by simp [pyIsWord, not_alnum, not_line], upper⟩
  · have ⟨not_alnum, upper⟩ := unicode.mark ';' (Or.inl rfl)
    exact ⟨by simp [pyIsWord, not_alnum], upper⟩

theorem CutEnd.keywordAt_iff (unicode : PyUnicode db) {before t u : List Char}
    (cut : CutEnd t u) : KeywordAt db before t ↔ KeywordAt db before u := by
  obtain ⟨b, rfl, all⟩ := cut
  apply keywordAt_append_iff unicode
  cases b with
  | nil => rfl
  | cons x b =>
    rw [List.all_cons, Bool.and_eq_true] at all
    simpa [StartsOutside] using (tail_not_word unicode all.1).1

theorem CutEnd.keywordIn_iff (unicode : PyUnicode db) {t u : List Char} (cut : CutEnd t u) :
    KeywordIn db t ↔ KeywordIn db u := by
  obtain ⟨b, rfl, all⟩ := cut
  rw [List.all_eq_true] at all
  exact keywordIn_append_iff unicode fun c member => (tail_not_word unicode (all c member)).1

theorem CutEnd.marked_iff (unicode : PyUnicode db) {t u : List Char} (cut : CutEnd t u) :
    Marked db t ↔ Marked db u := by
  obtain ⟨b, rfl, all⟩ := cut
  rw [List.all_eq_true] at all
  have same : b.flatMap db.toUpper = b := by
    induction b with
    | nil => rfl
    | cons x b ih =>
      have ⟨first, rest⟩ := List.forall_mem_cons.mp all
      rw [List.flatMap_cons, (tail_not_word unicode first).2, ih rest]
      rfl
  rw [Marked, Marked, List.flatMap_append, same]
  apply prefix_append_iff
  intro v starts ends
  -- the marker ends with a letter, which is not cut
  cases reversed : v.reverse with
  | nil => exact List.reverse_eq_nil_iff.mp reversed
  | cons x xs =>
    have v_eq : v = xs.reverse ++ [x] := by
      rw [← List.reverse_reverse v, reversed, List.reverse_cons]
    have last : x = 'E' := by
      obtain ⟨front, split⟩ := ends
      have at_end := congrArg List.getLast? split
      rw [v_eq, ← List.append_assoc, List.getLast?_append, List.getLast?_singleton] at at_end
      exact Option.some.inj (at_end.trans (by decide))
    have member : x ∈ b := starts.subset (by simp [v_eq])
    have tail := all x member
    rw [last] at tail
    exact absurd tail (by decide)

/-! ## The steps -/

/-- The text in which the keyword is searched: the inside of a fence, or the whole. -/
def searched (db : UnicodeDb) (text : String) : String :=
  ((insideFence db (stripCodeFence db text)).map pyStrip).getD (stripCodeFence db text)

theorem toList_pyStrip (s : String) : (pyStrip s).toList = trimBoth pyIsSpace s.toList :=
  String.toList_ofList

theorem pyStrip_eq_empty_iff {s : String} : pyStrip s = "" ↔ trimBoth pyIsSpace s.toList = [] := by
  rw [← String.toList_inj, toList_pyStrip]
  rfl

theorem startsOutside_pyStrip (s : String) : StartsOutside pyIsSpace (pyStrip s).toList := by
  rw [toList_pyStrip]
  obtain ⟨_, _, _, _, _, first, _⟩ := trimBoth_spec pyIsSpace s.toList
  exact first

theorem startsOutside_searched (text : String) :
    StartsOutside pyIsSpace (searched db text).toList := by
  rw [searched]
  cases insideFence db (stripCodeFence db text) with
  | none => exact startsOutside_pyStrip _
  | some t => exact startsOutside_pyStrip t

theorem KeywordAt.startsOutside (unicode : PyUnicode db) {before after : List Char}
    (keyword_at : KeywordAt db before after) : StartsOutside pyIsSpace after := by
  obtain ⟨c, rest, rfl, letter⟩ := keyword_at.head unicode
  cases space : pyIsSpace c with
  | false => simpa [StartsOutside] using space
  | true =>
    rw [(unicode.space c space).1] at letter
    cases letter

theorem cutEnd_tidy {t : String} (first : StartsOutside pyIsSpace t.toList) :
    CutEnd t.toList (pyStrip (pyRstripChars (pyRstrip t) ";")).toList := by
  have spaces : CutEnd t.toList (pyRstrip t).toList := by
    rw [pyRstrip, String.toList_ofList]
    exact cutEnd_trimEnd (fun _ => isTail_of_space) _
  have semicolons : CutEnd (pyRstrip t).toList (pyRstripChars (pyRstrip t) ";").toList := by
    rw [pyRstripChars, trimRight, String.toList_ofList]
    apply cutEnd_trimEnd
    intro c member
    have same : c = ';' := by simpa using member
    rw [same]
    rfl
  have both := spaces.trans semicolons
  have strip := cutEnd_strip (both.startsOutside first)
  rw [← toList_pyStrip] at strip
  exact both.trans strip

theorem extractSQL_of_marked {text : String} (marked : Marked db (stripCodeFence db text).toList) :
    extractSQL db text = stripCodeFence db text := by
  rw [extractSQL, if_pos (isUntranslatable_iff.mpr marked)]

theorem extractSQL_of_not_marked {text : String}
    (not_marked : ¬ Marked db (stripCodeFence db text).toList) :
    extractSQL db text =
      pyStrip (pyRstripChars (pyRstrip (fromSQLStart db (searched db text))) ";") := by
  rw [extractSQL, if_neg fun marked => not_marked (isUntranslatable_iff.mp marked)]
  rfl

/-- Without a keyword, the searched text loses its end only. -/
theorem cutEnd_extractSQL {text : String}
    (not_marked : ¬ Marked db (stripCodeFence db text).toList)
    (absent : ¬ KeywordIn db (searched db text).toList) :
    CutEnd (searched db text).toList (extractSQL db text).toList := by
  have from_start : fromSQLStart db (searched db text) = searched db text := by
    rw [fromSQLStart, search_sqlStart_eq_none_iff.mpr absent]
  rw [extractSQL_of_not_marked not_marked, from_start]
  exact cutEnd_tidy (startsOutside_searched text)

/-- With one, the text from the first keyword on is left, without its end. -/
theorem cutEnd_extractSQL_of_keyword (unicode : PyUnicode db) {text : String}
    (not_marked : ¬ Marked db (stripCodeFence db text).toList)
    (present : KeywordIn db (searched db text).toList) :
    ∃ before after, (searched db text).toList = before ++ after ∧
      KeywordAt db before.reverse after ∧
      NoneBefore (sqlStart db) [] (searched db text).toList before.length ∧
      CutEnd after (extractSQL db text).toList := by
  cases found : (sqlStart db).search (searched db text) with
  | none => exact absurd present (search_sqlStart_eq_none_iff.mp found)
  | some ends =>
    obtain ⟨a, d⟩ := ends
    obtain ⟨before, after, split, rfl, first, none_before⟩ :=
      Regex.searchFrom_eq_some_iff.mp found
    rw [List.append_nil] at first
    have keyword_at : KeywordAt db before.reverse after := ⟨d, List.mem_of_head? first⟩
    have from_start : fromSQLStart db (searched db text) = pyStrip (String.ofList after) := by
      rw [fromSQLStart, found]
    refine ⟨before, after, split, keyword_at, none_before, ?_⟩
    have strip := cutEnd_strip (keyword_at.startsOutside unicode)
    have tidy := cutEnd_tidy (startsOutside_pyStrip (String.ofList after))
    rw [toList_pyStrip, String.toList_ofList] at tidy
    rw [extractSQL_of_not_marked not_marked, from_start]
    exact strip.trans tidy

end MysqlRedshift.Agent
