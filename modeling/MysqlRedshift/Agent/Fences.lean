import MysqlRedshift.Agent.Extract

/-!
# Fences

Where the expressions for fences match, and what taking a fence off leaves of a text.
The backquotes of a text are counted, so that a text with one fence line has no inside.
-/

namespace MysqlRedshift.Agent

open MysqlRedshift.Misc
open MysqlRedshift.Misc.Regex (Reads Spells NoneBefore)

variable {db : UnicodeDb} {t u : List Char}

/-! ## Where the expressions match -/

/-- The three backquotes of a fence. -/
def ticks : List Char := ['\x60', '\x60', '\x60']

/-- What the fence of SQL names. -/
def sqlWord : List Char := ['s', 'q', 'l']

/-- An opening fence with the end of its line, as it may be written. -/
def Opening (db : UnicodeDb) (m : List Char) : Prop :=
  ∃ word w, m = ticks ++ (word ++ (w ++ ['\n'])) ∧
    (Spells db.sameIgnoreCase sqlWord word ∨ word = []) ∧ w.all pyIsSpace = true

theorem spells_ticks_iff (unicode : PyUnicode db) {w : List Char} :
    Spells db.sameIgnoreCase "```".toList w ↔ w = ticks := by
  have same : ∀ c, db.sameIgnoreCase '\x60' c = true ↔ c = '\x60' := by
    intro c
    constructor
    · exact unicode.backquote c
    · rintro rfl
      exact unicode.self _
  show Spells db.sameIgnoreCase ['\x60', '\x60', '\x60'] w ↔ w = ticks
  simp only [Spells, List.forall₂_cons_left_iff, List.forall₂_nil_left_iff, same, ticks]
  constructor
  · rintro ⟨_, _, rfl, ⟨_, _, rfl, ⟨_, _, rfl, rfl, rfl⟩, rfl⟩, rfl⟩
    rfl
  · rintro rfl
    exact ⟨_, _, rfl, ⟨_, _, rfl, ⟨_, _, rfl, rfl, rfl⟩, rfl⟩, rfl⟩

theorem reads_fence (unicode : PyUnicode db) : (fence db).Reads (· = ticks) :=
  Reads.congr (Regex.reads_text _ _) fun _ => spells_ticks_iff unicode

theorem reads_fenceOpen (unicode : PyUnicode db) : (fenceOpen db).Reads (Opening db) := by
  apply Reads.congr ((reads_fence unicode).seq ((Regex.reads_text _ _).opt.seq
    ((Regex.reads_star_cls _).seq ((Regex.reads_cls _).seq Regex.reads_empty))))
  intro m
  constructor
  · rintro ⟨_, _, rfl, rfl, word, _, rfl, named, w, _, rfl, spaces, _, _, rfl, ⟨x, rfl, line⟩, rfl⟩
    have newline : x = '\n' := by simpa using line
    subst newline
    exact ⟨word, w, rfl, named, spaces⟩
  · rintro ⟨word, w, rfl, named, spaces⟩
    exact ⟨_, _, rfl, rfl, word, _, rfl, named, w, _, rfl, spaces, _, _, rfl, ⟨_, rfl, rfl⟩, rfl⟩

theorem Opening.ne_nil {m : List Char} (opening : Opening db m) : m ≠ [] := by
  obtain ⟨word, w, rfl, _⟩ := opening
  exact List.cons_ne_nil _ _

/-! ## Taking off the opening fence -/

/-- The first of `CLEAN_PATTERNS`. -/
def openPattern (db : UnicodeDb) : Regex := .all [.atStart, fenceOpen db]

/-- The second of `CLEAN_PATTERNS`. -/
def closePattern (db : UnicodeDb) : Regex :=
  .all [.opt (.cls fun c => c == '\n'), fence db, blanks, .atEnd]

theorem mem_ends_openPattern (unicode : PyUnicode db) {before : List Char} {d : Cursor} :
    d ∈ (openPattern db).ends ⟨before, t, []⟩ ↔ before = [] ∧
      ∃ m rest, t = m ++ rest ∧ Opening db m ∧ d = ⟨m.reverse ++ before, rest, []⟩ := by
  rw [openPattern, Regex.mem_ends_all_cons]
  constructor
  · rintro ⟨e, first, later⟩
    obtain ⟨starts, rfl⟩ := Regex.mem_ends_assert.mp first
    obtain ⟨f, opening, done⟩ := Regex.mem_ends_all_cons.mp later
    rw [Regex.mem_ends_all_nil.mp done]
    exact ⟨by simpa using starts, (reads_fenceOpen unicode ..).mp opening⟩
  · rintro ⟨rfl, opening⟩
    exact ⟨_, Regex.mem_ends_assert.mpr ⟨rfl, rfl⟩, Regex.mem_ends_all_cons.mpr
      ⟨d, (reads_fenceOpen unicode ..).mpr opening, Regex.mem_ends_all_nil.mpr rfl⟩⟩

/-- The text without its opening fence. -/
def opened (db : UnicodeDb) (t : List Char) : List Char :=
  Regex.replaceFrom (openPattern db) [] 0 [] t

theorem replaceFrom_openPattern_of_ne_nil (unicode : PyUnicode db) {before : List Char}
    (behind : before ≠ []) : Regex.replaceFrom (openPattern db) [] 0 before t = t := by
  apply Regex.replaceFrom_of_none
  intro early late _ _
  rw [List.eq_nil_iff_forall_not_mem]
  intro d member
  have ⟨nothing, _⟩ := (mem_ends_openPattern unicode).mp member
  exact behind (List.append_eq_nil_iff.mp nothing).2

theorem opened_cases (unicode : PyUnicode db) (t : List Char) :
    (∃ m, Opening db m ∧ t = m ++ opened db t) ∨
      (∀ m rest, Opening db m → t ≠ m ++ rest) ∧ opened db t = t := by
  cases t with
  | nil =>
    refine Or.inr ⟨?_, rfl⟩
    intro m rest opening split
    exact opening.ne_nil (List.append_eq_nil_iff.mp split.symm).1
  | cons x xs =>
    cases found : ((openPattern db).ends ⟨[], x :: xs, []⟩).head? with
    | some d =>
      obtain ⟨_, m, rest, split, opening, rfl⟩ :=
        (mem_ends_openPattern unicode).mp (List.mem_of_head? found)
      refine Or.inl ⟨m, opening, ?_⟩
      cases m with
      | nil => exact absurd rfl opening.ne_nil
      | cons y m =>
        rw [List.cons_append, List.cons.injEq] at split
        obtain ⟨rfl, rfl⟩ := split
        rw [opened, Regex.replaceFrom_match found rfl,
          replaceFrom_openPattern_of_ne_nil unicode (by simp)]
        rfl
    | none =>
      have nowhere := List.head?_eq_none_iff.mp found
      refine Or.inr ⟨?_, ?_⟩
      · intro m rest opening split
        have member := (mem_ends_openPattern unicode).mpr ⟨rfl, m, rest, split, opening, rfl⟩
        rw [nowhere] at member
        cases member
      · rw [opened, Regex.replaceFrom_none nowhere,
          replaceFrom_openPattern_of_ne_nil unicode (List.cons_ne_nil _ _)]

theorem alnum_of_spells (unicode : PyUnicode db) {k word : List Char}
    (letters : k.all Char.isAlpha = true) (spells : Spells db.sameIgnoreCase k word) :
    word.all db.isAlnum = true := by
  induction spells with
  | nil => rfl
  | cons same _ ih =>
    rw [List.all_cons, Bool.and_eq_true] at letters
    rw [List.all_cons, ih letters.2, unicode.letter _ _ letters.1 same]
    rfl

/-- An opening fence consists of backquotes, letters and white space. -/
theorem Opening.parts (unicode : PyUnicode db) {m : List Char} (opening : Opening db m) :
    ∃ word w, m = ticks ++ (word ++ w) ∧ word.all db.isAlnum = true ∧ w.all pyIsSpace = true ∧
      ∃ front, w = front ++ ['\n'] := by
  obtain ⟨word, w, rfl, named, spaces⟩ := opening
  refine ⟨word, w ++ ['\n'], rfl, ?_, ?_, w, rfl⟩
  · rcases named with spells | rfl
    · exact alnum_of_spells unicode (by decide) spells
    · rfl
  · rw [List.all_append, spaces]
    rfl

theorem startsOutside_space (unicode : PyUnicode db) {w rest : List Char}
    (spaces : w.all pyIsSpace = true) (some_space : w ≠ []) :
    StartsOutside db.isAlnum (w ++ rest) := by
  cases w with
  | nil => exact absurd rfl some_space
  | cons x w =>
    rw [List.all_cons, Bool.and_eq_true] at spaces
    exact (unicode.space x spaces.1).1

/-- A line that opens a fence. -/
def openLine (word : List Char) : List Char := ticks ++ (word ++ ['\n'])

theorem opening_openLine (unicode : PyUnicode db) {word : List Char}
    (named : word = [] ∨ word = sqlWord) : Opening db (openLine word) := by
  refine ⟨word, [], rfl, ?_, rfl⟩
  rcases named with rfl | rfl
  · exact Or.inr rfl
  · exact Or.inl (List.forall₂_same.mpr fun c _ => unicode.self c)

/-- Before a text that does not begin with white space, an opening fence is its line only. -/
theorem Opening.eq_openLine (unicode : PyUnicode db) {word rest m rest' : List Char}
    (named : word = [] ∨ word = sqlWord) (outside : StartsOutside pyIsSpace rest)
    (opening : Opening db m) (same : openLine word ++ rest = m ++ rest') :
    m = openLine word ∧ rest' = rest := by
  have letters : word.all db.isAlnum = true := by
    rcases named with rfl | rfl
    · rfl
    · exact alnum_of_spells unicode (by decide) (List.forall₂_same.mpr fun c _ => unicode.self c)
  obtain ⟨word', w, rfl, letters', spaces, _, w_eq⟩ := opening.parts unicode
  rw [openLine, List.append_assoc, List.append_assoc, List.append_assoc, List.append_assoc] at same
  obtain ⟨rfl, blank⟩ := run_unique letters letters'
    (startsOutside_space unicode rfl (List.cons_ne_nil _ _))
    (startsOutside_space unicode spaces (by simp [w_eq])) (List.append_cancel_left same)
  cases w with
  | nil => simp at w_eq
  | cons x w =>
    obtain ⟨rfl, rest_eq⟩ := List.cons.inj blank
    -- one more blank would be the beginning of the rest
    cases w with
    | nil => exact ⟨rfl, rest_eq.symm⟩
    | cons y w =>
      rw [List.all_cons, List.all_cons, Bool.and_eq_true, Bool.and_eq_true] at spaces
      have begins : rest = y :: (w ++ rest') := rest_eq
      rw [begins, StartsOutside, List.head?_cons, Option.any_some, spaces.2.1] at outside
      cases outside

theorem opened_openLine (unicode : PyUnicode db) {word rest : List Char}
    (named : word = [] ∨ word = sqlWord) (outside : StartsOutside pyIsSpace rest) :
    opened db (openLine word ++ rest) = rest := by
  rcases opened_cases unicode (openLine word ++ rest) with ⟨m, opening, split⟩ | ⟨unopened, _⟩
  · exact (opening.eq_openLine unicode named outside split).2
  · exact absurd rfl (unopened _ rest (opening_openLine unicode named))

theorem opened_of_startsOutside (unicode : PyUnicode db)
    (outside : StartsOutside (· == '\x60') t) : opened db t = t := by
  rcases opened_cases unicode t with ⟨m, ⟨word, w, rfl, _⟩, split⟩ | ⟨_, same⟩
  · rw [split] at outside
    cases outside
  · exact same

/-! ## Taking off the closing fence -/

theorem mem_ends_closePattern (unicode : PyUnicode db) {before : List Char} {d : Cursor} :
    d ∈ (closePattern db).ends ⟨before, t, []⟩ ↔ ∃ nl w rest, t = (nl ++ (ticks ++ w)) ++ rest ∧
      (nl = ['\n'] ∨ nl = []) ∧ w.all pyIsSpace = true ∧ (rest = [] ∨ rest = ['\n']) ∧
        d = ⟨(nl ++ (ticks ++ w)).reverse ++ before, rest, []⟩ := by
  have newline : (Regex.cls fun c => c == '\n').Reads (· = ['\n']) :=
    Reads.congr (Regex.reads_cls _) fun w => by simp
  have body : (Regex.seq (.opt (.cls fun c => c == '\n')) (.seq (fence db) blanks)).Reads
      fun m => ∃ nl w, m = nl ++ (ticks ++ w) ∧ (nl = ['\n'] ∨ nl = []) ∧
        w.all pyIsSpace = true := by
    apply Reads.congr (newline.opt.seq ((reads_fence unicode).seq (Regex.reads_star_cls _)))
    intro m
    constructor
    · rintro ⟨nl, _, rfl, line, _, w, rfl, rfl, spaces⟩
      exact ⟨nl, w, rfl, line, spaces⟩
    · rintro ⟨nl, w, rfl, line, spaces⟩
      exact ⟨nl, _, rfl, line, _, w, rfl, rfl, spaces⟩
  have regroup : d ∈ (closePattern db).ends ⟨before, t, []⟩ ↔
      ∃ e ∈ (Regex.seq (.opt (.cls fun c => c == '\n')) (.seq (fence db) blanks)).ends
        ⟨before, t, []⟩, (e.after = [] ∨ e.after = ['\n']) ∧ d = e := by
    simp only [closePattern, Regex.mem_ends_all_cons, Regex.mem_ends_all_nil, Regex.mem_ends_seq,
      Regex.atEnd, Regex.mem_ends_assert, Bool.or_eq_true, List.isEmpty_iff, beq_iff_eq]
    constructor
    · rintro ⟨e, first, f, second, g, third, _, ⟨ends, rfl⟩, rfl⟩
      exact ⟨d, ⟨e, first, f, second, third⟩, ends, rfl⟩
    · rintro ⟨_, ⟨e, first, f, second, third⟩, ends, rfl⟩
      exact ⟨e, first, f, second, d, third, d, ⟨ends, rfl⟩, rfl⟩
  rw [regroup]
  constructor
  · rintro ⟨e, member, ends, rfl⟩
    obtain ⟨_, rest, split, ⟨nl, w, rfl, line, spaces⟩, rfl⟩ := (body ..).mp member
    exact ⟨nl, w, rest, split, line, spaces, ends, rfl⟩
  · rintro ⟨nl, w, rest, split, line, spaces, ends, rfl⟩
    exact ⟨_, (body ..).mpr ⟨_, rest, split, ⟨nl, w, rfl, line, spaces⟩, rfl⟩, ends, rfl⟩

/-- At the end of a text that does not end with white space, only a fence and the line
break before it match. -/
theorem mem_ends_closePattern_at_end (unicode : PyUnicode db) {before : List Char} {d : Cursor}
    (last : EndsOutside pyIsSpace (u ++ t)) :
    d ∈ (closePattern db).ends ⟨before, t, []⟩ ↔ ∃ nl, t = nl ++ ticks ∧
      (nl = ['\n'] ∨ nl = []) ∧ d = ⟨t.reverse ++ before, [], []⟩ := by
  rw [mem_ends_closePattern unicode]
  constructor
  · rintro ⟨nl, w, rest, rfl, line, spaces, ends, rfl⟩
    have blank : (w ++ rest).all pyIsSpace = true := by
      rw [List.all_append, spaces]
      rcases ends with rfl | rfl <;> rfl
    have shape : u ++ ((nl ++ (ticks ++ w)) ++ rest) = (u ++ (nl ++ ticks)) ++ (w ++ rest) := by
      simp
    rw [shape] at last
    obtain ⟨rfl, rfl⟩ := List.append_eq_nil_iff.mp (eq_nil_of_endsOutside last blank)
    exact ⟨nl, by simp, line, by simp⟩
  · rintro ⟨nl, rfl, line, rfl⟩
    exact ⟨nl, [], [], by simp, line, rfl, Or.inl rfl, by simp⟩

/-- The text without its closing fence. -/
def closed (db : UnicodeDb) (u : List Char) : List Char :=
  Regex.replaceFrom (closePattern db) [] 0 [] u

theorem endsOutside_ticks (v : List Char) : EndsOutside pyIsSpace (v ++ ticks) := by
  have at_end : (v ++ ticks).getLast? = some '\x60' := by
    rw [List.getLast?_append]
    rfl
  rw [EndsOutside, at_end]
  rfl

/-- A text split before the line break at its end. -/
theorem split_newline (v : List Char) : ∃ front nl, v = front ++ nl ∧
    (nl = ['\n'] ∨ nl = [] ∧ ∀ x, front ≠ x ++ ['\n']) := by
  by_cases line : ∃ x, v = x ++ ['\n']
  · obtain ⟨x, rfl⟩ := line
    exact ⟨x, ['\n'], rfl, Or.inl rfl⟩
  · rw [not_exists] at line
    exact ⟨v, [], (List.append_nil v).symm, Or.inr ⟨rfl, line⟩⟩

theorem closed_of_fence (unicode : PyUnicode db) (v : List Char) :
    ∃ front nl, v = front ++ nl ∧ nl.all pyIsSpace = true ∧ closed db (v ++ ticks) = front := by
  obtain ⟨front, nl, rfl, line⟩ := split_newline v
  have spaces : nl.all pyIsSpace = true := by
    rcases line with rfl | ⟨rfl, _⟩ <;> rfl
  have line_or : nl = ['\n'] ∨ nl = [] := line.imp_right And.left
  refine ⟨front, nl, rfl, spaces, ?_⟩
  have last := endsOutside_ticks (front ++ nl)
  rw [List.append_assoc] at last ⊢
  -- a match that starts earlier would have to take a line break more
  have none_before : NoneBefore (closePattern db) [] (front ++ (nl ++ ticks)) front.length := by
    intro early late split short
    rw [List.eq_nil_iff_forall_not_mem]
    intro d member
    rw [split] at last
    obtain ⟨nl', rfl, line', _⟩ := (mem_ends_closePattern_at_end unicode last).mp member
    rw [← List.append_assoc, ← List.append_assoc] at split
    have fronts := List.append_cancel_right split
    have lengths := congrArg List.length fronts
    rw [List.length_append, List.length_append] at lengths
    rcases line with rfl | ⟨rfl, unended⟩
    · rcases line' with rfl | rfl <;> simp at lengths <;> omega
    · rcases line' with rfl | rfl
      · rw [List.append_nil] at fronts
        exact unended early fronts
      · simp at lengths
        omega
  have here : ((closePattern db).ends ⟨front.reverse ++ [], nl ++ ticks, []⟩).head? =
      some ⟨(nl ++ ticks).reverse ++ (front.reverse ++ []), [], []⟩ := by
    apply Regex.head?_ends
    · exact (mem_ends_closePattern_at_end unicode last).mpr ⟨nl, rfl, line_or, rfl⟩
    · intro e member
      obtain ⟨_, _, _, same⟩ := (mem_ends_closePattern_at_end unicode last).mp member
      exact same
  rw [closed, Regex.replaceFrom_append none_before]
  cases whole : nl ++ ticks with
  | nil => simp [ticks] at whole
  | cons x w =>
    rw [whole, ← List.append_nil w] at here
    rw [← List.append_nil w, Regex.replaceFrom_match here rfl]
    exact List.append_nil front

theorem closed_of_not_fence (unicode : PyUnicode db) (last : EndsOutside pyIsSpace u)
    (unfenced : ∀ v, u ≠ v ++ ticks) : closed db u = u := by
  apply Regex.replaceFrom_of_none
  intro early late split _
  rw [List.eq_nil_iff_forall_not_mem]
  intro d member
  rw [split] at last
  obtain ⟨nl, rfl, _⟩ := (mem_ends_closePattern_at_end unicode last).mp member
  rw [← List.append_assoc] at split
  exact unfenced _ split

/-! ## Both -/

theorem toList_stripCodeFence (text : String) : (stripCodeFence db text).toList =
    trimBoth pyIsSpace (closed db (opened db (trimBoth pyIsSpace text.toList))) := by
  have patterns : cleanPatterns db = [openPattern db, closePattern db] := rfl
  rw [stripCodeFence, patterns, toList_pyStrip]
  simp only [List.foldl_cons, List.foldl_nil, Regex.replaceAll, String.toList_ofList, pyStrip]
  rfl

theorem endsOutside_opened (unicode : PyUnicode db) (last : EndsOutside pyIsSpace t) :
    EndsOutside pyIsSpace (opened db t) := by
  rcases opened_cases unicode t with ⟨m, opening, split⟩ | ⟨_, same⟩
  · rw [split] at last
    cases rest : opened db t with
    | nil => rfl
    | cons x xs =>
      rw [rest] at last
      exact (endsOutside_append_iff (List.cons_ne_nil x xs)).mp last
  · rw [same]
    exact last

theorem endsOutside_trimBoth {p : Char → Bool} : EndsOutside p (trimBoth p t) := by
  obtain ⟨_, _, _, _, _, _, last⟩ := trimBoth_spec p t
  exact last

theorem stripCodeFence_of_fence (unicode : PyUnicode db) {text : String} {v : List Char}
    (fenced : opened db (trimBoth pyIsSpace text.toList) = v ++ ticks) :
    (stripCodeFence db text).toList = trimBoth pyIsSpace v := by
  obtain ⟨front, nl, rfl, spaces, without⟩ := closed_of_fence unicode v
  rw [toList_stripCodeFence, fenced, without]
  exact (trimBoth_append_all (a := []) rfl spaces).symm

theorem stripCodeFence_of_not_fence (unicode : PyUnicode db) {text : String}
    (unfenced : ∀ v, opened db (trimBoth pyIsSpace text.toList) ≠ v ++ ticks) :
    (stripCodeFence db text).toList =
      trimBoth pyIsSpace (opened db (trimBoth pyIsSpace text.toList)) := by
  rw [toList_stripCodeFence, closed_of_not_fence unicode
    (endsOutside_opened unicode endsOutside_trimBoth) unfenced]

/-! ## The inside of a fence -/

theorem mem_ends_inside (unicode : PyUnicode db) {before : List Char} {d : Cursor} :
    d ∈ (Regex.all [fenceOpen db, .group 1 (.starLazy (.cls fun _ => true)), fence db]).ends
        ⟨before, t, []⟩ ↔
      ∃ m b rest, t = m ++ (b ++ (ticks ++ rest)) ∧ Opening db m ∧
        d = ⟨ticks.reverse ++ (b.reverse ++ (m.reverse ++ before)), rest, [(1, b)]⟩ := by
  have taken : ∀ b rest : List Char,
      (b ++ rest).take ((b ++ rest).length - rest.length) = b := by
    intro b rest
    rw [List.length_append, Nat.add_sub_cancel, List.take_left]
  constructor
  · intro member
    obtain ⟨_, first, member⟩ := Regex.mem_ends_all_cons.mp member
    obtain ⟨m, rest, rfl, opening, rfl⟩ := (reads_fenceOpen unicode ..).mp first
    obtain ⟨_, second, member⟩ := Regex.mem_ends_all_cons.mp member
    obtain ⟨_, inner, rfl⟩ := Regex.mem_ends_group.mp second
    obtain ⟨b, rest, rfl, _, rfl⟩ := Regex.mem_ends_starLazy_cls.mp inner
    obtain ⟨_, third, member⟩ := Regex.mem_ends_all_cons.mp member
    obtain ⟨_, rest, rfl, rfl, rfl⟩ := (reads_fence unicode ..).mp third
    rw [Regex.mem_ends_all_nil.mp member]
    exact ⟨m, b, rest, rfl, opening, by rw [taken]⟩
  · rintro ⟨m, b, rest, rfl, opening, rfl⟩
    refine Regex.mem_ends_all_cons.mpr ⟨_, (reads_fenceOpen unicode ..).mpr
      ⟨m, b ++ (ticks ++ rest), rfl, opening, rfl⟩, Regex.mem_ends_all_cons.mpr
      ⟨_, Regex.mem_ends_group.mpr ⟨_, Regex.mem_ends_starLazy_cls.mpr
        ⟨b, ticks ++ rest, rfl, by simp, rfl⟩, rfl⟩, Regex.mem_ends_all_cons.mpr
      ⟨_, (reads_fence unicode ..).mpr ⟨ticks, rest, rfl, rfl, rfl⟩,
        Regex.mem_ends_all_nil.mpr ?_⟩⟩⟩
    rw [taken]

/-- What is taken for the inside of a fence is between two fences. -/
theorem insideFence_eq_some (unicode : PyUnicode db) {s x : String}
    (inside : insideFence db s = some x) : ∃ a m rest, Opening db m ∧
      s.toList = a ++ (m ++ (x.toList ++ (ticks ++ rest))) := by
  unfold insideFence at inside
  dsimp only at inside
  cases found : (Regex.all [fenceOpen db, .group 1 (.starLazy (.cls fun _ => true)),
      fence db]).search s with
  | none =>
    rw [found] at inside
    cases inside
  | some ends =>
    obtain ⟨start, d⟩ := ends
    obtain ⟨a, after, split, rfl, first, _⟩ := Regex.searchFrom_eq_some_iff.mp found
    obtain ⟨m, b, rest, rfl, opening, rfl⟩ :=
      (mem_ends_inside unicode).mp (List.mem_of_head? first)
    have content : String.ofList b = x := by
      rw [found] at inside
      exact Option.some.inj inside
    rw [← content, String.toList_ofList]
    exact ⟨a, m, rest, opening, split⟩

/-- Between fences there are backquotes. -/
theorem count_le_of_insideFence (unicode : PyUnicode db) {s x : String}
    (inside : insideFence db s = some x) : 6 ≤ s.toList.count '\x60' := by
  obtain ⟨a, m, rest, ⟨word, w, rfl, _⟩, split⟩ := insideFence_eq_some unicode inside
  have three : ticks.count '\x60' = 3 := rfl
  rw [split]
  simp only [List.count_append, three]
  omega

theorem insideFence_eq_none (unicode : PyUnicode db) {s : String}
    (few : s.toList.count '\x60' < 6) : insideFence db s = none := by
  cases inside : insideFence db s with
  | none => rfl
  | some x =>
    have many := count_le_of_insideFence unicode inside
    omega

/-- A fence in a text without further backquotes is the only one. -/
theorem fence_unique {b rest b' rest' : List Char} (within : '\x60' ∉ b) (behind : '\x60' ∉ rest)
    (same : b' ++ (ticks ++ rest') = b ++ (ticks ++ rest)) : b' = b ∧ rest' = rest := by
  have counts := congrArg (List.count '\x60') same
  have three : ticks.count '\x60' = 3 := rfl
  simp only [List.count_append, three, List.count_eq_zero_of_not_mem within,
    List.count_eq_zero_of_not_mem behind] at counts
  have within' : '\x60' ∉ b' := by
    rw [← List.count_eq_zero]
    omega
  rcases List.append_eq_append_iff.mp same with ⟨x, rfl, later⟩ | ⟨x, rfl, later⟩
  · cases x with
    | nil => exact ⟨by simp, List.append_cancel_left later⟩
    | cons y x =>
      obtain ⟨rfl, _⟩ := List.cons.inj later
      simp at within
  · cases x with
    | nil => exact ⟨by simp, (List.append_cancel_left later).symm⟩
    | cons y x =>
      obtain ⟨rfl, _⟩ := List.cons.inj later
      simp at within'

/-- What comes early in a text is in its beginning. -/
theorem mem_of_early {a z early late : List Char} {c : Char}
    (split : a ++ z = early ++ (c :: late)) (short : early.length < a.length) : c ∈ a := by
  rcases List.append_eq_append_iff.mp split with ⟨x, rfl, _⟩ | ⟨x, rfl, later⟩
  · rw [List.length_append] at short
    omega
  · cases x with
    | nil => simp at short
    | cons y x =>
      obtain ⟨rfl, _⟩ := List.cons.inj later
      simp

/-- The inside of a fence is what stands between its line and the next fence, if there
are no other backquotes. -/
theorem insideFence_openLine (unicode : PyUnicode db) {s : String} {a word b rest : List Char}
    (split : s.toList = a ++ (openLine word ++ (b ++ (ticks ++ rest))))
    (named : word = [] ∨ word = sqlWord) (outside : StartsOutside pyIsSpace b)
    (some_char : b ≠ []) (before : '\x60' ∉ a) (within : '\x60' ∉ b)
    (behind : '\x60' ∉ rest) : insideFence db s = some (String.ofList b) := by
  have outside' : StartsOutside pyIsSpace (b ++ (ticks ++ rest)) := by
    cases b with
    | nil => exact absurd rfl some_char
    | cons x b => exact outside
  have found : (Regex.all [fenceOpen db, .group 1 (.starLazy (.cls fun _ => true)),
      fence db]).search s = some (⟨a.reverse ++ [], openLine word ++ (b ++ (ticks ++ rest)), []⟩,
        ⟨ticks.reverse ++ (b.reverse ++ ((openLine word).reverse ++ (a.reverse ++ []))), rest,
          [(1, b)]⟩) := by
    refine Regex.searchFrom_eq_some_iff.mpr ⟨a, _, split, rfl, ?_, ?_⟩
    · apply Regex.head?_ends
      · exact (mem_ends_inside unicode).mpr ⟨_, b, rest, rfl, opening_openLine unicode named, rfl⟩
      · intro e member
        obtain ⟨m, b', rest', same, opening, rfl⟩ := (mem_ends_inside unicode).mp member
        obtain ⟨rfl, later⟩ := opening.eq_openLine unicode named outside' same
        obtain ⟨rfl, rfl⟩ := fence_unique within behind later
        rfl
    · intro early late split' short
      rw [List.eq_nil_iff_forall_not_mem]
      intro e member
      obtain ⟨m, b', rest', rfl, ⟨word', w, rfl, _⟩, _⟩ := (mem_ends_inside unicode).mp member
      exact before (mem_of_early (split.symm.trans split') short)
  unfold insideFence
  dsimp only
  rw [found]
  rfl

/-! ## Prose, a line and a fence around it -/

theorem startsOutside_of_not_mem {p : Char → Bool} {c : Char} (only : ∀ x, p x = true → x = c)
    (absent : c ∉ t) : StartsOutside p t := by
  cases t with
  | nil => rfl
  | cons x t =>
    rw [StartsOutside, List.head?_cons, Option.any_some, Bool.eq_false_iff]
    intro inside
    exact absent (only x inside ▸ List.mem_cons_self)

theorem CutEnd.subset (cut : CutEnd t u) : u ⊆ t := by
  obtain ⟨b, rfl, _⟩ := cut
  exact List.subset_append_left u b

theorem CutEnd.count_le (cut : CutEnd t u) (c : Char) : u.count c ≤ t.count c := by
  obtain ⟨b, rfl, _⟩ := cut
  rw [List.count_append]
  omega

/-- Without backquotes there is no fence to take off. -/
theorem stripCodeFence_of_no_ticks (unicode : PyUnicode db) {text : String}
    (absent : '\x60' ∉ trimBoth pyIsSpace text.toList) :
    (stripCodeFence db text).toList = trimBoth pyIsSpace text.toList := by
  have kept := opened_of_startsOutside unicode
    (startsOutside_of_not_mem (p := (· == '\x60')) (fun x same => by simpa using same) absent)
  rw [stripCodeFence_of_not_fence unicode, kept, trimBoth_idem]
  intro v split
  rw [kept] at split
  rw [split] at absent
  simp [ticks] at absent

/-- A line as it is, or in a fence. -/
def fencedLine : Option (List Char) → List Char → List Char
  | none, line => line
  | some word, line => openLine word ++ (line ++ '\n' :: ticks)

/-- Behind nothing, the fence around a line is taken off. -/
theorem stripCodeFence_fencedLine (unicode : PyUnicode db) {text : String}
    {form : Option (List Char)} {p line rest : List Char}
    (split : text.toList = p ++ (fencedLine form line ++ rest))
    (named : ∀ word, form = some word → word = [] ∨ word = sqlWord)
    (blank : p.all pyIsSpace = true) (blank' : rest.all pyIsSpace = true)
    (outside : StartsOutside pyIsSpace line) (some_char : line ≠ []) (absent : '\x60' ∉ line) :
    (stripCodeFence db text).toList = trimBoth pyIsSpace line := by
  cases form with
  | none =>
    have stripped : trimBoth pyIsSpace text.toList = trimBoth pyIsSpace line := by
      rw [split]
      exact trimBoth_append_all blank blank'
    rw [stripCodeFence_of_no_ticks unicode, stripped]
    rw [stripped]
    exact fun member => absent ((cutEnd_strip outside).subset member)
  | some word =>
    have stripped : trimBoth pyIsSpace text.toList =
        openLine word ++ (line ++ '\n' :: ticks) := by
      rw [split, fencedLine]
      have regroup : openLine word ++ (line ++ '\n' :: ticks) =
          (openLine word ++ (line ++ ['\n'])) ++ ticks := by simp
      refine trimBoth_append rfl ?_ blank blank'
      rw [regroup]
      exact endsOutside_ticks _
    have outside' : StartsOutside pyIsSpace (line ++ '\n' :: ticks) := by
      cases line with
      | nil => exact absurd rfl some_char
      | cons x line => exact outside
    have fenced : opened db (trimBoth pyIsSpace text.toList) = (line ++ ['\n']) ++ ticks := by
      rw [stripped, opened_openLine unicode (named word rfl) outside', List.append_assoc]
      rfl
    rw [stripCodeFence_of_fence unicode fenced]
    exact trimBoth_append_all (a := []) rfl rfl

/-- The line in a fence whose closing line is taken off. -/
def unclosed : Option (List Char) → List Char → List Char
  | none, line => line
  | some word, line => openLine word ++ (line ++ ['\n'])

theorem count_openLine {word : List Char} (named : word = [] ∨ word = sqlWord) :
    (openLine word).count '\x60' = 3 := by
  rcases named with rfl | rfl <;> decide

theorem count_unclosed {form : Option (List Char)} {line : List Char}
    (named : ∀ word, form = some word → word = [] ∨ word = sqlWord)
    (absent : '\x60' ∉ line) : (unclosed form line).count '\x60' < 6 := by
  have nothing := List.count_eq_zero_of_not_mem absent
  cases form with
  | none =>
    rw [unclosed, nothing]
    decide
  | some word =>
    rw [unclosed, List.count_append, List.count_append, count_openLine (named word rfl), nothing]
    decide

/-- Behind prose, the fence's closing line is taken off and its opening line stays. -/
theorem stripCodeFence_prose (unicode : PyUnicode db) {text : String} {form : Option (List Char)}
    {a x b line rest : List Char}
    (split : text.toList = a ++ ((x ++ (b ++ fencedLine form line)) ++ rest))
    (named : ∀ word, form = some word → word = [] ∨ word = sqlWord)
    (blank : a.all pyIsSpace = true) (blank' : rest.all pyIsSpace = true)
    (outside : StartsOutside pyIsSpace x) (some_char : x ≠ []) (absent : '\x60' ∉ x)
    (absent' : '\x60' ∉ b) (absent'' : '\x60' ∉ line) :
    CutEnd (x ++ (b ++ unclosed form line)) (stripCodeFence db text).toList := by
  have first : ∀ y, StartsOutside pyIsSpace (x ++ y) := by
    intro y
    cases x with
    | nil => exact absurd rfl some_char
    | cons c x => exact outside
  cases form with
  | none =>
    have stripped : trimBoth pyIsSpace text.toList = trimBoth pyIsSpace (x ++ (b ++ line)) := by
      rw [split]
      exact trimBoth_append_all blank blank'
    have cut := cutEnd_strip (first (b ++ line))
    rw [← stripped] at cut
    have without : '\x60' ∉ x ++ (b ++ line) := by simp [absent, absent', absent'']
    rw [stripCodeFence_of_no_ticks unicode fun member => without (cut.subset member)]
    exact cut
  | some word =>
    have stripped : trimBoth pyIsSpace text.toList =
        (x ++ (b ++ unclosed (some word) line)) ++ ticks := by
      have regroup : x ++ (b ++ fencedLine (some word) line) =
          (x ++ (b ++ unclosed (some word) line)) ++ ticks := by
        simp [fencedLine, unclosed]
      rw [split, regroup]
      apply trimBoth_append _ (endsOutside_ticks _) blank blank'
      rw [List.append_assoc]
      exact first _
    have unopened : opened db (trimBoth pyIsSpace text.toList) =
        (x ++ (b ++ unclosed (some word) line)) ++ ticks := by
      rw [stripped, opened_of_startsOutside unicode]
      rw [List.append_assoc]
      cases x with
      | nil => exact absurd rfl some_char
      | cons c x =>
        have other : c ≠ '\x60' := fun same => absent (same ▸ List.mem_cons_self)
        simpa [StartsOutside] using other
    rw [stripCodeFence_of_fence unicode unopened]
    exact cutEnd_strip (first _)

theorem searched_of_few (unicode : PyUnicode db) {text : String}
    (few : (stripCodeFence db text).toList.count '\x60' < 6) :
    searched db text = stripCodeFence db text := by
  rw [searched, insideFence_eq_none unicode few]
  rfl

end MysqlRedshift.Agent
