import MysqlRedshift.Agent.Fences

/-!
# What `translate` makes of the model's text

The text is refused with 422 if the extracted SQL begins with the marker, and is the SQL
of an answer if it does not, whatever it is.
-/

namespace MysqlRedshift.Agent

open MysqlRedshift.Misc

variable {db : UnicodeDb} {S : Type}

/-! ## Refusals and SQL -/

theorem stripCodeFence_pyStrip (text : String) :
    stripCodeFence db (pyStrip text) = stripCodeFence db text := by
  have idem : pyStrip (pyStrip text) = pyStrip text := by
    apply String.toList_inj.mp
    rw [toList_pyStrip, toList_pyStrip, trimBoth_idem]
  unfold stripCodeFence
  rw [idem]

theorem extractSQL_pyStrip (text : String) :
    extractSQL db (pyStrip text) = extractSQL db text := by
  unfold extractSQL
  rw [stripCodeFence_pyStrip]

/-- At the start of a text nothing is before a keyword. -/
theorem KeywordAt.at_start (unicode : PyUnicode db) {before after : List Char}
    (keyword_at : KeywordAt db before after) : KeywordAt db [] after := by
  obtain ⟨_, word⟩ := (keywordAt_iff unicode).mp keyword_at
  exact (keywordAt_iff unicode).mpr ⟨rfl, word⟩

/-- Which texts end as refusals: the marker comes first in the text without its fence, or
in what is searched, and is not cut off together with what is before a keyword. -/
theorem marked_extractSQL_iff (unicode : PyUnicode db) (text : String) :
    Marked db (extractSQL db text).toList ↔ Marked db (stripCodeFence db text).toList ∨
      Marked db (searched db text).toList ∧ ¬ KeywordIn db (searched db text).toList := by
  by_cases marked : Marked db (stripCodeFence db text).toList
  · rw [extractSQL_of_marked marked]
    simp [marked]
  · by_cases present : KeywordIn db (searched db text).toList
    · obtain ⟨before, after, _, keyword_at, _, cut⟩ :=
        cutEnd_extractSQL_of_keyword unicode marked present
      have unmarked := keyword_at.not_marked unicode
      rw [cut.marked_iff unicode] at unmarked
      simp [marked, present, unmarked]
    · have cut := cutEnd_extractSQL marked present
      rw [← cut.marked_iff unicode]
      simp [marked, present]

/-- What is no refusal begins with a keyword exactly if there is one to begin with. -/
theorem keywordAt_extractSQL_iff (unicode : PyUnicode db) {text : String}
    (not_marked : ¬ Marked db (stripCodeFence db text).toList) :
    KeywordAt db [] (extractSQL db text).toList ↔ KeywordIn db (searched db text).toList := by
  by_cases present : KeywordIn db (searched db text).toList
  · obtain ⟨before, after, _, keyword_at, _, cut⟩ :=
      cutEnd_extractSQL_of_keyword unicode not_marked present
    have first := keyword_at.at_start unicode
    rw [cut.keywordAt_iff unicode] at first
    exact iff_of_true first present
  · refine iff_of_false ?_ present
    intro first
    have inside : KeywordIn db (extractSQL db text).toList :=
      ⟨[], _, (List.nil_append _).symm, first⟩
    rw [← (cutEnd_extractSQL not_marked present).keywordIn_iff unicode] at inside
    exact present inside

/-! ## Answers -/

variable {env : TranslateEnv S} {model : Model} {req : TranslateReq}
  {retrieved : List (Knowledge.Example S)} (ms : Int) {agent : Option StrandsAgent}
  {text : String}

/-- What `translate` makes of the text. -/
theorem translate_of_said
    (said : ((getAgent agent).call model (userMsg env req retrieved)).1 = .ok text) :
    ∃ resp : TranslateResp S, resp.redshiftSQL = extractSQL env.db text ∧
      (translate env model req retrieved ms agent).1 =
        if isUntranslatable env.db (extractSQL env.db text) then
          .error ⟨422, extractSQL env.db text⟩
        else .ok resp := by
  unfold translate
  generalize (getAgent agent).call model (userMsg env req retrieved) = called at said ⊢
  obtain ⟨result, after⟩ := called
  dsimp only at said ⊢
  rw [said]
  dsimp only
  rw [extractSQL_pyStrip]
  refine ⟨_, ?_, rfl⟩
  dsimp only

/-- A model that says the same to everything. -/
def saying (text : String) : Model := fun _ _ => ([], .ok text)

theorem said_saying {prompt : String} : ((getAgent agent).call (saying text) prompt).1 = .ok text :=
  rfl

/-- A translator without rules. -/
def plainEnv : TranslateEnv Nat := ⟨.ascii, fun _ => none, fun _ => ""⟩

theorem pyUnicode_plainEnv : PyUnicode plainEnv.db := pyUnicode_ascii

/-- The SQL of an answer is not empty and begins with a keyword. -/
def CarriesSQL (db : UnicodeDb) (resp : TranslateResp S) : Prop :=
  resp.redshiftSQL ≠ "" ∧ KeywordAt db [] resp.redshiftSQL.toList

/-- An answer to a text carries SQL exactly if the text is refused or has a keyword where
one is searched. -/
theorem translate_carriesSQL_iff (unicode : PyUnicode env.db)
    (said : ((getAgent agent).call model (userMsg env req retrieved)).1 = .ok text) :
    (∀ resp, (translate env model req retrieved ms agent).1 = .ok resp →
        CarriesSQL env.db resp) ↔
      isUntranslatable env.db (stripCodeFence env.db text) = true ∨
        isUntranslatable env.db (searched env.db text) = true ∨
          ((sqlStart env.db).search (searched env.db text)).isSome = true := by
  obtain ⟨resp, sql, told⟩ := translate_of_said ms said
  have keyword_in : ((sqlStart env.db).search (searched env.db text)).isSome = true ↔
      KeywordIn env.db (searched env.db text).toList := by
    rw [Option.isSome_iff_ne_none, ne_eq, search_sqlStart_eq_none_iff, Classical.not_not]
  rw [isUntranslatable_iff, isUntranslatable_iff, keyword_in]
  cases refused : isUntranslatable env.db (extractSQL env.db text) with
  | true =>
    rw [refused, if_pos rfl] at told
    have marked := (marked_extractSQL_iff unicode text).mp (isUntranslatable_iff.mp refused)
    constructor
    · intro _
      rcases marked with first | ⟨inside, _⟩
      · exact Or.inl first
      · exact Or.inr (Or.inl inside)
    · intro _ resp answered
      rw [told] at answered
      cases answered
  | false =>
    rw [refused, if_neg Bool.false_ne_true] at told
    have unmarked := mt isUntranslatable_iff.mpr (Bool.eq_false_iff.mp refused)
    rw [marked_extractSQL_iff unicode, not_or, not_and, Classical.not_not] at unmarked
    have begins := keywordAt_extractSQL_iff unicode unmarked.1
    rw [← sql] at begins
    constructor
    · intro carries
      exact Or.inr (Or.inr (begins.mp (carries resp told).2))
    · intro condition
      have present : KeywordIn env.db (searched env.db text).toList := by
        rcases condition with first | inside | present
        · exact absurd first unmarked.1
        · exact unmarked.2 inside
        · exact present
      intro resp' answered
      obtain rfl : resp = resp' := Except.ok.inj (told.symm.trans answered)
      have first := begins.mpr present
      refine ⟨?_, first⟩
      intro empty
      obtain ⟨c, rest, chars, _⟩ := first.head unicode
      rw [empty] at chars
      cases chars

theorem translate_carriesSQL_iff_select :
    (∀ resp, (translate plainEnv (saying "SELECT 1;") ⟨"SELECT 1", none, none⟩ [] 0 none).1 =
        .ok resp → CarriesSQL .ascii resp) ↔
      isUntranslatable .ascii (stripCodeFence .ascii "SELECT 1;") = true ∨
        isUntranslatable .ascii (searched .ascii "SELECT 1;") = true ∨
          ((sqlStart .ascii).search (searched .ascii "SELECT 1;")).isSome = true :=
  translate_carriesSQL_iff 0 pyUnicode_plainEnv said_saying

/-- An answer without SQL is passed on. -/
theorem not_carriesSQL_sorry :
    ¬ ∀ resp, (translate plainEnv (saying "Sorry, no.") ⟨"SELECT 1", none, none⟩ [] 0 none).1 =
      .ok resp → CarriesSQL .ascii resp := by
  intro carries
  have said : ((getAgent none).call (saying "Sorry, no.")
    (userMsg plainEnv ⟨"SELECT 1", none, none⟩ [])).1 = .ok "Sorry, no." := said_saying
  obtain ⟨resp, sql, told⟩ := translate_of_said 0 said
  have kept : extractSQL .ascii "Sorry, no." = "Sorry, no." := by decide
  have unmarked : isUntranslatable .ascii "Sorry, no." = false := by decide
  have nowhere : (sqlStart .ascii).ends ⟨[], "Sorry, no.".toList, []⟩ = [] := by decide
  have db : plainEnv.db = .ascii := rfl
  rw [db, kept] at sql told
  rw [unmarked, if_neg Bool.false_ne_true] at told
  obtain ⟨_, found, member⟩ := carries resp told
  rw [sql, nowhere] at member
  cases member

/-! ## Refusals -/

theorem translate_refuses_iff_marked (unicode : PyUnicode env.db)
    (said : ((getAgent agent).call model (userMsg env req retrieved)).1 = .ok text) :
    (∃ detail, (translate env model req retrieved ms agent).1 = .error ⟨422, detail⟩) ↔
      Marked env.db (stripCodeFence env.db text).toList ∨
        Marked env.db (searched env.db text).toList ∧
          ¬ KeywordIn env.db (searched env.db text).toList := by
  rw [← marked_extractSQL_iff unicode, ← isUntranslatable_iff]
  obtain ⟨resp, _, told⟩ := translate_of_said ms said
  rw [told]
  generalize isUntranslatable env.db (extractSQL env.db text) = refused
  cases refused with
  | true => exact iff_of_true ⟨_, rfl⟩ rfl
  | false =>
    refine iff_of_false ?_ Bool.false_ne_true
    rintro ⟨detail, answered⟩
    cases answered

/-- How the marker's line is written: as it is, or in a fence. -/
inductive RefusalForm where
  | bare
  | fence
  | sqlFence
  deriving DecidableEq, Repr

def RefusalForm.opening : RefusalForm → String
  | .bare => ""
  | .fence => "```\n"
  | .sqlFence => "```sql\n"

def RefusalForm.closing : RefusalForm → String
  | .bare => ""
  | .fence | .sqlFence => "\n```"

/-- The line behind the prose, and nothing behind the line. -/
def refusal (form : RefusalForm) (prose line rest : String) : String :=
  prose ++ form.opening ++ line ++ form.closing ++ rest

/-- What the fence's opening line names. -/
def RefusalForm.word : RefusalForm → Option (List Char)
  | .bare => none
  | .fence => some []
  | .sqlFence => some sqlWord

theorem RefusalForm.word_named (form : RefusalForm) (word : List Char)
    (named : form.word = some word) : word = [] ∨ word = sqlWord := by
  cases form with
  | bare => cases named
  | fence => exact Or.inl (Option.some.inj named).symm
  | sqlFence => exact Or.inr (Option.some.inj named).symm

theorem toList_refusal (form : RefusalForm) (prose line rest : String) :
    (refusal form prose line rest).toList =
      prose.toList ++ (fencedLine form.word line.toList ++ rest.toList) := by
  cases form with
  | bare => simp [refusal, RefusalForm.opening, RefusalForm.closing, RefusalForm.word, fencedLine]
  | fence =>
    simp [refusal, RefusalForm.opening, RefusalForm.closing, RefusalForm.word, fencedLine,
      openLine, ticks]
  | sqlFence =>
    simp [refusal, RefusalForm.opening, RefusalForm.closing, RefusalForm.word, fencedLine,
      openLine, ticks, sqlWord]

/-- A line with the marker begins with no white space. -/
theorem Marked.startsOutside (unicode : PyUnicode db) {l : List Char} (marked : Marked db l) :
    StartsOutside pyIsSpace l ∧ l ≠ [] := by
  obtain ⟨rest, split⟩ := marked
  cases l with
  | nil =>
    rw [List.flatMap_nil] at split
    exact absurd (List.append_eq_nil_iff.mp split).1 (by decide)
  | cons c l =>
    refine ⟨?_, List.cons_ne_nil c l⟩
    rw [StartsOutside, List.head?_cons, Option.any_some, Bool.eq_false_iff]
    intro space
    rw [List.flatMap_cons, (unicode.space c space).2] at split
    have first : '-' = c := (List.cons.inj split).1
    subst first
    exact absurd space (by decide)

/-- The blank end of lines that end with a line break has the break. -/
theorem newline_mem_of_lines {p x b : List Char} (split : p ++ ['\n'] = x ++ b)
    (last : EndsOutside pyIsSpace x) : '\n' ∈ b := by
  by_cases nothing : b = []
  · rw [nothing, List.append_nil] at split
    rw [← split, endsOutside_append_iff (List.cons_ne_nil _ _)] at last
    cases last
  · have at_end := congrArg List.getLast? split
    rw [List.getLast?_concat, List.getLast?_append_of_ne_nil x nothing] at at_end
    exact List.mem_of_getLast? at_end.symm

/-- Without further backquotes, the line is seen behind nothing, or not at all. -/
theorem marked_refusal_iff (unicode : PyUnicode db) {form : RefusalForm} {prose line rest : String}
    (lines : prose = "" ∨ ∃ p, prose = p ++ "\n") (marked : Marked db line.toList)
    (blank : pyStrip rest = "") (absent : '\x60' ∉ prose.toList) (absent' : '\x60' ∉ line.toList)
    (told : text = refusal form prose line rest) :
    (Marked db (stripCodeFence db text).toList ∨ Marked db (searched db text).toList ∧
        ¬ KeywordIn db (searched db text).toList) ↔
      pyStrip prose = "" ∨ isUntranslatable db (pyStrip prose) = true := by
  have split := toList_refusal form prose line rest
  rw [← told] at split
  have blank_rest := trimBoth_eq_nil_iff.mp (pyStrip_eq_empty_iff.mp blank)
  have ⟨outside, some_char⟩ := marked.startsOutside unicode
  by_cases nothing : pyStrip prose = ""
  · have blank_prose := trimBoth_eq_nil_iff.mp (pyStrip_eq_empty_iff.mp nothing)
    refine iff_of_true (Or.inl ?_) (Or.inl nothing)
    rw [stripCodeFence_fencedLine unicode split form.word_named blank_prose blank_rest outside
      some_char absent']
    exact ((cutEnd_strip outside).marked_iff unicode).mp marked
  · obtain ⟨a, b, prose_eq, before, behind, first, last⟩ := trimBoth_spec pyIsSpace prose.toList
    have some_prose := mt pyStrip_eq_empty_iff.mpr nothing
    have line_break : '\n' ∈ b := by
      rcases lines with rfl | ⟨p, rfl⟩
      · exact absurd rfl nothing
      · have whole : p.toList ++ ['\n'] = (a ++ trimBoth pyIsSpace (p ++ "\n").toList) ++ b := by
          rw [List.append_assoc, ← prose_eq, String.toList_append]
          rfl
        exact newline_mem_of_lines whole ((endsOutside_append_iff some_prose).mpr last)
    have regroup : text.toList = a ++ ((trimBoth pyIsSpace prose.toList ++
        (b ++ fencedLine form.word line.toList)) ++ rest.toList) := by
      rw [split]
      nth_rewrite 1 [prose_eq]
      simp only [List.append_assoc]
    have absent_trimmed : '\x60' ∉ trimBoth pyIsSpace prose.toList :=
      fun member => absent (trimBoth_subset _ _ member)
    have absent_ending : '\x60' ∉ b := by
      intro member
      apply absent
      rw [prose_eq]
      exact List.mem_append_right _ (List.mem_append_right _ member)
    have cut := stripCodeFence_prose unicode regroup form.word_named before blank_rest first
      some_prose absent_trimmed absent_ending absent'
    have few : (stripCodeFence db text).toList.count '\x60' < 6 := by
      apply Nat.lt_of_le_of_lt (cut.count_le _)
      rw [List.count_append, List.count_append, List.count_eq_zero_of_not_mem absent_trimmed,
        List.count_eq_zero_of_not_mem absent_ending, Nat.zero_add, Nat.zero_add]
      exact count_unclosed form.word_named absent'
    rw [searched_of_few unicode few, ← cut.marked_iff unicode,
      marked_prose_iff unicode behind line_break, isUntranslatable_iff, toList_pyStrip]
    rw [or_iff_right nothing]
    exact or_iff_left_of_imp And.left

/-- A refusal ends in the 422 error exactly if the marker comes first in the text without
its fence, or in what is searched and has no keyword. Without further backquotes, this
means that there is no prose, or that the prose begins with the marker itself. -/
theorem translate_refuses_iff (unicode : PyUnicode env.db) {form : RefusalForm}
    {prose line rest : String} (lines : prose = "" ∨ ∃ p, prose = p ++ "\n")
    (marked : isUntranslatable env.db line = true) (blank : pyStrip rest = "")
    (said : ((getAgent agent).call model (userMsg env req retrieved)).1 =
      .ok (refusal form prose line rest)) :
    ((∃ detail, (translate env model req retrieved ms agent).1 = .error ⟨422, detail⟩) ↔
      isUntranslatable env.db (stripCodeFence env.db (refusal form prose line rest)) = true ∨
        isUntranslatable env.db (searched env.db (refusal form prose line rest)) = true ∧
          (sqlStart env.db).search (searched env.db (refusal form prose line rest)) = none) ∧
    ('\x60' ∉ prose.toList → '\x60' ∉ line.toList →
      ((∃ detail, (translate env model req retrieved ms agent).1 = .error ⟨422, detail⟩) ↔
        pyStrip prose = "" ∨ isUntranslatable env.db (pyStrip prose) = true)) := by
  have refuses := translate_refuses_iff_marked ms unicode said
  constructor
  · rw [refuses, isUntranslatable_iff, isUntranslatable_iff, search_sqlStart_eq_none_iff]
  · intro absent absent'
    rw [refuses]
    exact marked_refusal_iff unicode lines (isUntranslatable_iff.mp marked) blank absent absent' rfl

/-- A refusal, in a fence. -/
def refusedInsert : String := refusal .sqlFence "" "-- untranslatable: no key" "\n"

theorem translate_refuses_iff_insert :
    ((∃ detail, (translate plainEnv (saying refusedInsert) ⟨"SELECT 1", none, none⟩ [] 0 none).1 =
        .error ⟨422, detail⟩) ↔
      isUntranslatable .ascii (stripCodeFence .ascii refusedInsert) = true ∨
        isUntranslatable .ascii (searched .ascii refusedInsert) = true ∧
          (sqlStart .ascii).search (searched .ascii refusedInsert) = none) ∧
    ('\x60' ∉ "".toList → '\x60' ∉ "-- untranslatable: no key".toList →
      ((∃ detail, (translate plainEnv (saying refusedInsert) ⟨"SELECT 1", none, none⟩ [] 0 none).1 =
          .error ⟨422, detail⟩) ↔
        pyStrip "" = "" ∨ isUntranslatable .ascii (pyStrip "") = true)) :=
  translate_refuses_iff 0 pyUnicode_plainEnv (Or.inl rfl) (by decide) (by decide) said_saying

/-- A word of prose before it, and the refusal is answered with a part of its reason. -/
theorem not_translate_refuses_afterProse :
    ¬ ∃ detail, (translate plainEnv (saying (refusal .bare "No.\n" "-- UNTRANSLATABLE: SHOW x" ""))
      ⟨"SELECT 1", none, none⟩ [] 0 none).1 = .error ⟨422, detail⟩ := by
  rintro ⟨detail, refused⟩
  have said : ((getAgent none).call (saying (refusal .bare "No.\n" "-- UNTRANSLATABLE: SHOW x" ""))
    (userMsg plainEnv ⟨"SELECT 1", none, none⟩ [])).1 =
      .ok (refusal .bare "No.\n" "-- UNTRANSLATABLE: SHOW x" "") := said_saying
  obtain ⟨resp, _, told⟩ := translate_of_said 0 said
  have db : plainEnv.db = .ascii := rfl
  have extracted : extractSQL .ascii (refusal .bare "No.\n" "-- UNTRANSLATABLE: SHOW x" "") =
      "SHOW x" := by
    decide
  have unmarked : isUntranslatable .ascii "SHOW x" = false := by decide
  rw [db, extracted, unmarked, if_neg Bool.false_ne_true] at told
  rw [told] at refused
  cases refused

end MysqlRedshift.Agent
