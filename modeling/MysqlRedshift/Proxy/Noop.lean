import MysqlRedshift.Misc.MysqlLexer
import MysqlRedshift.Proxy.ServerProps

/-!
# Queries that are answered and not executed

`shouldNoop` looks at the beginning of the text. Here its verdict is compared with the
statements of the text, told apart and classified by MySQL's tokens.
-/

namespace MysqlRedshift.Proxy

open MysqlRedshift.Misc
open MysqlRedshift.Misc.MysqlLexer (Token lexFrom lexFrom_space lexFrom_word_append isIdent)

variable (db : UnicodeDb) (q : String)

/-- The text without outer white space and in lower case. -/
def folded : List Char := (toLower db (trimSpace q)).toList

/-- The statements of a text, as their tokens; there is none between two semicolons that
have no token between them. -/
def statements : List (List Token) :=
  ((lexFrom .other (folded db q)).splitOn (.punct ';')).filter fun s => s != []

/-- The words that make a control statement of what they begin. -/
def controlWords : List (List Char) :=
  ["set".toList, "show".toList, "use".toList, "begin".toList, "commit".toList, "rollback".toList]

def startWord : List Char := "start".toList

def transactionWord : List Char := "transaction".toList

/-- A SET, SHOW, USE, BEGIN, COMMIT, ROLLBACK or START TRANSACTION statement. -/
def isControlStatement : List Token → Bool
  | .word s :: rest =>
    controlWords.contains s || s == startWord && rest.head? == some (.word transactionWord)
  | _ => false

/-- Whatever the server, its parties and its state, the query gets the empty result, and
nothing is asked or stored. -/
def AnsweredIdly : Prop :=
  ∀ (ε C : Type) (srv : Server C) (w : World ε) (st : State ε C), srv.db = db →
    handleQuery srv w q st = (.ok emptyResult, st)

/-- The words after which the handler wants a blank. -/
def blankWords : List (List Char) := ["set".toList, "use".toList, "show".toList]

/-- The words after which it takes anything. -/
def openWords : List (List Char) :=
  ["begin".toList, "commit".toList, "rollback".toList, startWord ++ ' ' :: transactionWord]

/-- The text begins with SET, USE or SHOW and a blank, or with BEGIN, COMMIT, ROLLBACK, or
START, one blank and TRANSACTION, as whole words. -/
def PlainlySpelled (t : List Char) : Prop :=
  (∃ word ∈ blankWords, ∃ after, t = word ++ ' ' :: after) ∨
    ∃ word ∈ openWords, ∃ after, t = word ++ after ∧ after.head?.any isIdent = false

/-- The text begins with BEGIN, COMMIT, ROLLBACK or START TRANSACTION as a part of a longer
word. -/
def RunOn (t : List Char) : Prop :=
  ∃ word ∈ openWords, ∃ c after, t = word ++ c :: after ∧ isIdent c = true

variable {db q}

/-! ## The test of the handler -/

theorem hasPrefix_iff {s pre : String} :
    hasPrefix s pre = true ↔ ∃ after, s.toList = pre.toList ++ after := by
  rw [hasPrefix, List.isPrefixOf_iff_prefix]
  constructor
  · rintro ⟨after, same⟩
    exact ⟨after, same.symm⟩
  · rintro ⟨after, same⟩
    exact ⟨after, same.symm⟩

theorem noopPrefixes_toList (pre : List Char) : pre ∈ noopPrefixes.map String.toList ↔
    pre ∈ blankWords.map (· ++ [' ']) ∨ pre ∈ openWords := by
  have covered : ∀ pre ∈ noopPrefixes.map String.toList,
      pre ∈ blankWords.map (· ++ [' ']) ∨ pre ∈ openWords := by decide
  have blank : ∀ pre ∈ blankWords.map (· ++ [' ']), pre ∈ noopPrefixes.map String.toList := by
    decide
  have opened : ∀ pre ∈ openWords, pre ∈ noopPrefixes.map String.toList := by decide
  exact ⟨covered pre, fun member => member.elim (blank pre) (opened pre)⟩

theorem shouldNoop_iff :
    shouldNoop db q = true ↔ PlainlySpelled (folded db q) ∨ RunOn (folded db q) := by
  have any : shouldNoop db q = true ↔
      ∃ pre ∈ noopPrefixes.map String.toList, ∃ after, folded db q = pre ++ after := by
    simp [shouldNoop, List.any_eq_true, hasPrefix_iff, folded]
  rw [any]
  constructor
  · rintro ⟨pre, listed, after, same⟩
    rcases (noopPrefixes_toList pre).mp listed with blank | whole
    · obtain ⟨word, member, rfl⟩ := List.mem_map.mp blank
      rw [List.append_assoc] at same
      exact Or.inl (Or.inl ⟨word, member, after, same⟩)
    · cases continued : after.head?.any isIdent with
      | false => exact Or.inl (Or.inr ⟨pre, whole, after, same, continued⟩)
      | true =>
        cases after with
        | nil => cases continued
        | cons c after => exact Or.inr ⟨pre, whole, c, after, same, by simpa using continued⟩
  · rintro ((⟨word, listed, after, same⟩ | ⟨pre, whole, after, same, _⟩) |
      ⟨pre, whole, c, after, same, _⟩)
    · have blank := List.mem_map_of_mem (f := (· ++ [' '])) listed
      refine ⟨_, (noopPrefixes_toList _).mpr (Or.inl blank), after, ?_⟩
      rw [same, List.append_assoc]
      rfl
    · exact ⟨pre, (noopPrefixes_toList pre).mpr (Or.inr whole), after, same⟩
    · exact ⟨pre, (noopPrefixes_toList pre).mpr (Or.inr whole), c :: after, same⟩

/-- A query that fails the test is at least looked up in the cache and translated. -/
theorem answeredIdly_iff : AnsweredIdly db q ↔ shouldNoop db q = true := by
  constructor
  · intro idle
    by_contra live
    let srv := { defaultServer with db }
    let st : State Unit (ListLru String String) := { cache := emptyCache, env := () }
    let w : World Unit := .fixed (fun _ => .error "") fun _ => (.error "", 0)
    have routed : srv.onRedshift q = true := by
      simp only [Server.onRedshift, srv, Bool.eq_false_iff.mpr live]
      rfl
    have answer := idle _ _ srv w st rfl
    rw [handleQuery_onRedshift routed, handleRedshift, firstSQL_error rfl rfl] at answer
    cases congrArg Prod.fst answer
  · intro noop ε C srv w st same
    rw [handleQuery, same, if_pos noop]

/-! ## The first statement -/

theorem splitOn_cons {tok : Token} (toks : List Token) (inner : tok ≠ .punct ';') :
    ∃ piece pieces, toks.splitOn (.punct ';') = piece :: pieces ∧
      (tok :: toks).splitOn (.punct ';') = (tok :: piece) :: pieces := by
  obtain ⟨piece, pieces, split⟩ :=
    List.exists_cons_of_ne_nil (List.splitOn_ne_nil (.punct ';') toks)
  refine ⟨piece, pieces, split, ?_⟩
  rw [List.splitOn_cons_eq_if_modifyHead, split, if_neg (by simpa using inner)]
  rfl

/-- The first statement of a text that begins with a word: whether it is one of the words
of control statements, and the token that follows. -/
theorem isControlStatement_first {s : List Char} {toks first : List Token}
    {rest : List (List Token)} (lexed : lexFrom .other (folded db q) = .word s :: toks)
    (are : statements db q = first :: rest) :
    isControlStatement first = true ↔
      s ∈ controlWords ∨ s = startWord ∧ toks.head? = some (.word transactionWord) := by
  have inner : Token.word s ≠ .punct ';' := nofun
  obtain ⟨piece, pieces, split, split'⟩ := splitOn_cons toks inner
  have is_first : first = .word s :: piece := by
    rw [statements, lexed, split'] at are
    simp only [List.filter_cons, bne_iff_ne, ne_eq, reduceCtorEq, not_false_eq_true, if_true,
      List.cons.injEq] at are
    exact are.1.symm
  have next : piece.head? = some (.word transactionWord) ↔
      toks.head? = some (.word transactionWord) := by
    cases toks with
    | nil =>
      cases split
      rfl
    | cons tok toks =>
      by_cases sep : tok = .punct ';'
      · rw [sep, List.splitOn_cons_eq_if_modifyHead, if_pos (by simp)] at split
        cases split
        simp [sep]
      · obtain ⟨piece', pieces', _, split''⟩ := splitOn_cons toks sep
        rw [split''] at split
        cases split
        rfl
  rw [is_first, isControlStatement, Bool.or_eq_true, Bool.and_eq_true, List.contains_iff_mem,
    beq_iff_eq, beq_iff_eq, next]

/-- The words of the tests as the lexer sees them. -/
theorem words_ident : ∀ word ∈ controlWords ++ [startWord, transactionWord],
    word.all isIdent = true ∧ word.head?.any (fun c => !MysqlLexer.isDigit c) = true := by
  decide

theorem lexFrom_control {word : List Char} (rest : List Char)
    (listed : word ∈ controlWords ++ [startWord, transactionWord]) :
    lexFrom .other (word ++ rest) =
      .word (word ++ rest.takeWhile isIdent) :: lexFrom .word (rest.dropWhile isIdent) := by
  have ⟨ident, name⟩ := words_ident word listed
  exact lexFrom_word_append (List.all_eq_true.mp ident) name

theorem lexFrom_start (after : List Char) :
    lexFrom .other (startWord ++ ' ' :: (transactionWord ++ after)) = .word startWord ::
      .word (transactionWord ++ after.takeWhile isIdent) ::
        lexFrom .word (after.dropWhile isIdent) := by
  have starts : startWord ∈ controlWords ++ [startWord, transactionWord] := by simp
  have follows : transactionWord ∈ controlWords ++ [startWord, transactionWord] := by simp
  have first := lexFrom_control (' ' :: (transactionWord ++ after)) starts
  have blank : isIdent ' ' = false := by decide
  rw [List.takeWhile_cons, List.dropWhile_cons, blank] at first
  simp only [Bool.false_eq_true, if_false, List.append_nil] at first
  rw [first, lexFrom_space (by decide), lexFrom_control after follows]

/-- No word of the tests is the beginning of another one. -/
theorem append_eq_control {word more : List Char} (control : word ∈ controlWords)
    (other : word ++ more ∈ controlWords ++ [startWord]) : more = [] := by
  have prefix_free : ∀ word ∈ controlWords, ∀ other ∈ controlWords ++ [startWord],
      word.isPrefixOf other = true → word = other := by decide
  have same := prefix_free word control _ other
    (List.isPrefixOf_iff_prefix.mpr (List.prefix_append ..))
  simpa using same

/-- What a text that begins with one of the open words begins with for the lexer. -/
theorem isControlStatement_open {word after : List Char} (listed : word ∈ openWords)
    (same : folded db q = word ++ after) {first : List Token} {rest : List (List Token)}
    (are : statements db q = first :: rest) :
    isControlStatement first = true ↔ after.takeWhile isIdent = [] := by
  have cases_open : ∀ word ∈ openWords, word ∈ controlWords ∨
      word = startWord ++ ' ' :: transactionWord := by decide
  rcases cases_open word listed with control | rfl
  · have lexed := lexFrom_control after (List.mem_append_left _ control)
    rw [← same] at lexed
    rw [isControlStatement_first lexed are]
    constructor
    · rintro (member | ⟨is_start, _⟩)
      · exact append_eq_control control (List.mem_append_left _ member)
      · exact append_eq_control control (by simp [is_start])
    · intro nothing
      rw [nothing, List.append_nil]
      exact Or.inl control
  · rw [List.append_assoc, List.cons_append] at same
    have lexed := lexFrom_start after
    rw [← same] at lexed
    have other : startWord ∉ controlWords := by decide
    rw [isControlStatement_first lexed are]
    simp [other]

/-- The first statement of a plainly spelled text is a control statement. -/
theorem PlainlySpelled.control (plain : PlainlySpelled (folded db q)) {first : List Token}
    {rest : List (List Token)} (are : statements db q = first :: rest) :
    isControlStatement first = true := by
  rcases plain with ⟨word, listed, after, same⟩ | ⟨word, listed, after, same, stop⟩
  · have control : ∀ word ∈ blankWords, word ∈ controlWords := by decide
    have lexed := lexFrom_control (' ' :: after)
      (List.mem_append_left _ (control word listed))
    rw [← same] at lexed
    rw [isControlStatement_first lexed are, List.takeWhile_cons_of_neg (by decide),
      List.append_nil]
    exact Or.inl (control word listed)
  · rw [isControlStatement_open listed same are]
    cases after with
    | nil => rfl
    | cons c after => exact List.takeWhile_cons_of_neg (by simpa using stop)

/-- The first statement of a text that runs on is not. -/
theorem RunOn.not_control (run_on : RunOn (folded db q)) {first : List Token}
    {rest : List (List Token)} (are : statements db q = first :: rest) :
    isControlStatement first = false := by
  obtain ⟨word, listed, c, after, same, ident⟩ := run_on
  rw [Bool.eq_false_iff, ne_eq, isControlStatement_open listed same are,
    List.takeWhile_cons_of_pos ident]
  exact List.cons_ne_nil _ _

/-- The handler answers idly what consists of control statements, and nothing else, exactly
when: a text that begins with a control statement is plainly spelled if and only if the other
statements are control statements too; and a text that begins with another statement does
not begin with a control word that runs on. -/
theorem answeredIdly_iff_control_iff {first : List Token} {rest : List (List Token)}
    (are : statements db q = first :: rest) :
    (AnsweredIdly db q ↔ ∀ s ∈ statements db q, isControlStatement s = true) ↔
      (isControlStatement first = true →
        (PlainlySpelled (folded db q) ↔ ∀ s ∈ rest, isControlStatement s = true)) ∧
      (isControlStatement first = false → ¬ RunOn (folded db q)) := by
  rw [answeredIdly_iff, shouldNoop_iff, are, List.forall_mem_cons]
  cases control : isControlStatement first with
  | false =>
    have not_plain : ¬ PlainlySpelled (folded db q) := by
      intro plain
      rw [plain.control are] at control
      cases control
    simp [not_plain]
  | true =>
    have not_run_on : ¬ RunOn (folded db q) := by
      intro run_on
      rw [run_on.not_control are] at control
      cases control
    simp [not_run_on]

/-- Two control statements in capitals, with outer white space. -/
theorem answeredIdly_iff_control_iff_beginThenSet :
    AnsweredIdly .ascii " BEGIN; SET @a = 1;\n" ↔
      ∀ s ∈ statements .ascii " BEGIN; SET @a = 1;\n", isControlStatement s = true := by
  have are : statements .ascii " BEGIN; SET @a = 1;\n" =
      [[.word "begin".toList],
        [.word "set".toList, .punct '@', .word "a".toList, .punct '=', .placeholder]] := by
    decide +kernel
  apply (answeredIdly_iff_control_iff are).mpr
  constructor
  · intro _
    refine iff_of_true ?_ (by decide)
    exact Or.inr ⟨"begin".toList, by decide, "; set @a = 1;".toList, by decide +kernel, rfl⟩
  · intro other
    cases other

/-- A session variable and, behind it, a write that is reported as done and never made. -/
theorem not_control_setThenDelete :
    AnsweredIdly .ascii "SET @a = 1; DELETE FROM t" ∧
      ¬ ∀ s ∈ statements .ascii "SET @a = 1; DELETE FROM t", isControlStatement s = true := by
  constructor
  · exact answeredIdly_iff.mpr (by decide)
  · decide

end MysqlRedshift.Proxy
