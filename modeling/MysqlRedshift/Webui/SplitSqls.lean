import MysqlRedshift.Agent.ImportTest
import MysqlRedshift.Misc.MysqlLexer
import MysqlRedshift.Misc.TextLaws

/-!
# Imported text

`webui/static/knowledge.html`: `splitSqls` cuts the text of an import into statements,
and `startImport` posts them one after the other to `/api/knowledge/import_test`, which
executes each on both databases. What the page shows of the answers is left out.
-/

namespace MysqlRedshift.Webui

open MysqlRedshift.Misc

/-- White space and line ends of JavaScript. -/
def jsIsSpace (c : Char) : Bool :=
  (0x09 ≤ c.toNat && c.toNat ≤ 0x0d) || c.toNat == 0x20 || c.toNat == 0xfeff ||
    (isWideSpace c.toNat && c.toNat != 0x85)

/-- `s.trim()`. -/
def jsTrim (s : String) : String := String.ofList (trimBoth jsIsSpace s.toList)

/-- A line that is blank, or a comment to the page. -/
def isCommentLine (l : String) : Bool := hasPrefix (jsTrim l) "--" || jsTrim l = ""

/-- The test of the `filter`. -/
def isKept (s : String) : Bool := s ≠ "" && !(splitAtChar s '\n').all isCommentLine

def splitSqls (text : String) : List String :=
  ((splitAtChar text ';').map jsTrim).filter isKept

/-- The requests that `startImport` posts, until the user cancels before one of them. -/
def startImport (cancelled : Nat → Bool) (importMode importText : String) :
    List Agent.ImportTestReq :=
  ((splitSqls importText).zipIdx.takeWhile fun (_, i) => !cancelled i).map fun (s, _) =>
    { mysqlSQL := s, compareMode := importMode, forceSave := false }

/-! ## Statements joined by semicolons and newlines -/

def Newlines (gap : List Char) : Prop := ∀ c ∈ gap, c = '\n' ∨ c = '\r'

/-- The text consists of the statements, with a semicolon after each, which the last one
can do without, and with newlines anywhere between them. -/
inductive Joined : List String → List Char → Prop where
  | none {gap} (blank : Newlines gap) : Joined [] gap
  | last {s gap gap'} (blank : Newlines gap) (blank' : Newlines gap') :
      Joined [s] (gap ++ (s.toList ++ gap'))
  | next {s gap gap' rest text} (blank : Newlines gap) (blank' : Newlines gap')
      (more : Joined rest text) :
      Joined (s :: rest) ((gap ++ (s.toList ++ gap')) ++ ';' :: text)

/-- A text with at least one token and without a semicolon among its tokens, in which all
strings and quoted names end. -/
def IsStatement (s : String) : Prop :=
  MysqlLexer.lex s ≠ [] ∧ .punct ';' ∉ MysqlLexer.lex s ∧ .broken ∉ MysqlLexer.lex s

theorem Newlines.isSpace {gap : List Char} (blank : Newlines gap) : gap.all jsIsSpace = true := by
  rw [List.all_eq_true]
  intro c member
  rcases blank c member with rfl | rfl <;> rfl

theorem Newlines.nil : Newlines [] := by simp [Newlines]

theorem Newlines.not_semicolon {gap : List Char} (blank : Newlines gap) : ';' ∉ gap := by
  intro member
  rcases blank ';' member with same | same <;> cases same

theorem jsTrim_between {gap gap' : List Char} (s : String) (blank : Newlines gap)
    (blank' : Newlines gap') : jsTrim (String.ofList (gap ++ (s.toList ++ gap'))) = jsTrim s := by
  simp only [jsTrim, String.toList_ofList]
  rw [trimBoth_append_all blank.isSpace blank'.isSpace]

/-- Trimming cuts no semicolon. -/
theorem semicolon_mem_jsTrim {s : String} (member : ';' ∈ s.toList) : ';' ∈ (jsTrim s).toList := by
  obtain ⟨a, b, split, before, behind, -⟩ := trimBoth_spec jsIsSpace s.toList
  have outside : ∀ l : List Char, l.all jsIsSpace = true → ';' ∉ l := fun l all mem =>
    absurd (List.all_eq_true.mp all _ mem) (by decide)
  rw [split, List.mem_append, List.mem_append] at member
  rw [jsTrim, String.toList_ofList]
  rcases member with mem | mem | mem
  · exact absurd mem (outside a before)
  · exact mem
  · exact absurd mem (outside b behind)

theorem not_mem_splitOn (sep : Char) (l : List Char) : ∀ piece ∈ l.splitOn sep, sep ∉ piece := by
  induction l with
  | nil => simp [List.splitOn_nil]
  | cons c l ih =>
    obtain ⟨piece, pieces, split⟩ := List.exists_cons_of_ne_nil (List.splitOn_ne_nil sep l)
    rw [List.splitOn_cons_eq_if_modifyHead, split]
    rw [split, List.forall_mem_cons] at ih
    split
    · simpa using ih
    · next other =>
      rw [List.modifyHead_cons, List.forall_mem_cons]
      refine ⟨?_, ih.2⟩
      rw [List.mem_cons]
      rintro (rfl | mem)
      · simp at other
      · exact ih.1 mem

/-- No fragment has a semicolon. -/
theorem not_semicolon_splitSqls {text s : String} (member : s ∈ splitSqls text) :
    ';' ∉ s.toList := by
  obtain ⟨trimmed, -⟩ := List.mem_filter.mp member
  obtain ⟨piece, inText, rfl⟩ := List.mem_map.mp trimmed
  obtain ⟨cs, split, rfl⟩ := List.mem_map.mp inText
  intro mem
  rw [jsTrim, String.toList_ofList, String.toList_ofList] at mem
  exact not_mem_splitOn ';' text.toList cs split (trimBoth_subset _ _ mem)

/-- Without semicolons in the statements, the pieces are the trimmed statements. -/
theorem splitSqls_joined {stmts : List String} {text : List Char} (joined : Joined stmts text)
    (plain : ∀ s ∈ stmts, ';' ∉ s.toList) :
    splitSqls (String.ofList text) = (stmts.map jsTrim).filter isKept := by
  have whole : ∀ {gap gap' : List Char} {s : String}, Newlines gap → Newlines gap' →
      ';' ∉ s.toList → ';' ∉ gap ++ (s.toList ++ gap') := by
    intro gap gap' s blank blank' none
    simp [blank.not_semicolon, blank'.not_semicolon, none]
  induction joined with
  | none blank =>
    simp only [splitSqls, splitAtChar, String.toList_ofList, List.map_nil, List.filter_nil,
      List.splitOn_eq_singleton blank.not_semicolon, List.map_cons]
    have trimmed := jsTrim_between "" blank Newlines.nil
    rw [String.toList_empty, List.nil_append, List.append_nil] at trimmed
    rw [trimmed]
    decide
  | @last s gap gap' blank blank' =>
    rw [List.forall_mem_singleton] at plain
    simp only [splitSqls, splitAtChar, String.toList_ofList,
      List.splitOn_eq_singleton (whole blank blank' plain), List.map_cons, List.map_nil,
      jsTrim_between s blank blank']
  | @next s gap gap' rest text blank blank' more ih =>
    rw [List.forall_mem_cons] at plain
    have later := ih plain.2
    simp only [splitSqls, splitAtChar, String.toList_ofList] at later
    simp only [splitSqls, splitAtChar, String.toList_ofList, List.map_cons,
      List.splitOn_append_cons_self_of_not_mem (whole blank blank' plain.1),
      jsTrim_between s blank blank']
    rw [List.filter_cons, List.filter_cons, later]

/-- Joined statements come back exactly when none of them has a semicolon anywhere in it,
and each has a line that is neither blank nor begins with `--`. -/
theorem splitSqls_eq_iff {stmts : List String} {text : List Char} (joined : Joined stmts text) :
    splitSqls (String.ofList text) = stmts.map jsTrim ↔
      ∀ s ∈ stmts, ';' ∉ s.toList ∧ ∃ l ∈ splitAtChar (jsTrim s) '\n', isCommentLine l = false := by
  have kept_iff : ∀ s, isKept (jsTrim s) = true ↔
      ∃ l ∈ splitAtChar (jsTrim s) '\n', isCommentLine l = false := by
    intro s
    rw [isKept, Bool.and_eq_true, Bool.not_eq_true', List.all_eq_false]
    simp only [Bool.not_eq_true, decide_eq_true_eq, ne_eq, and_iff_right_iff_imp]
    rintro ⟨l, line, shown⟩ empty
    rw [empty, show splitAtChar "" '\n' = [""] from rfl, List.mem_singleton] at line
    rw [line] at shown
    revert shown
    decide
  constructor
  · intro same
    have plain : ∀ s ∈ stmts, ';' ∉ s.toList := by
      intro s member mem
      have fragment : jsTrim s ∈ splitSqls (String.ofList text) := by
        rw [same]
        exact List.mem_map_of_mem member
      exact not_semicolon_splitSqls fragment (semicolon_mem_jsTrim mem)
    rw [splitSqls_joined joined plain, List.filter_eq_self] at same
    intro s member
    exact ⟨plain s member, (kept_iff s).mp (same _ (List.mem_map_of_mem member))⟩
  · intro fine
    rw [splitSqls_joined joined fun s member => (fine s member).1, List.filter_eq_self]
    intro trimmed member
    obtain ⟨s, inList, rfl⟩ := List.mem_map.mp member
    exact (kept_iff s).mpr (fine s inList).2

/-- What an import posts are the first fragments, in their order. -/
theorem startImport_prefix (cancelled : Nat → Bool) (importMode importText : String) :
    (startImport cancelled importMode importText).map (·.mysqlSQL) <+: splitSqls importText := by
  have posted : ((splitSqls importText).zipIdx.takeWhile fun p => !cancelled p.2).map Prod.fst <+:
      (splitSqls importText).zipIdx.map Prod.fst := (List.takeWhile_prefix _).map _
  rw [List.zipIdx_map_fst] at posted
  rw [startImport, List.map_map]
  exact posted

/-! ## Two imports -/

theorem joined_two : Joined ["SELECT 1", "SELECT 'a'"] "SELECT 1;\nSELECT 'a'\n".toList :=
  @Joined.next "SELECT 1" [] [] _ _ .nil .nil
    (@Joined.last "SELECT 'a'" ['\n'] ['\n'] (by simp [Newlines]) (by simp [Newlines]))

theorem splitSqls_eq_iff_two :
    splitSqls (String.ofList "SELECT 1;\nSELECT 'a'\n".toList) =
      ["SELECT 1", "SELECT 'a'"].map jsTrim := by
  refine (splitSqls_eq_iff joined_two).mpr ?_
  rw [List.forall_mem_cons, List.forall_mem_singleton]
  exact ⟨⟨by decide, "SELECT 1", by decide, by decide⟩,
    ⟨by decide, "SELECT 'a'", by decide, by decide⟩⟩

/-- The inside of a string is posted as a statement. -/
theorem not_splitSqls_eq_dropInString :
    IsStatement "SELECT '; DROP TABLE t; '" ∧
      Joined ["SELECT '; DROP TABLE t; '"] "SELECT '; DROP TABLE t; '".toList ∧
      splitSqls "SELECT '; DROP TABLE t; '" = ["SELECT '", "DROP TABLE t", "'"] ∧
      splitSqls "SELECT '; DROP TABLE t; '" ≠ ["SELECT '; DROP TABLE t; '"].map jsTrim := by
  refine ⟨?_, ?_, by decide, by decide⟩
  · unfold IsStatement
    decide +kernel
  · exact @Joined.last "SELECT '; DROP TABLE t; '" [] [] .nil .nil

end MysqlRedshift.Webui
