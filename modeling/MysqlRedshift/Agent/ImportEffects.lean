import MysqlRedshift.Agent.Executors

/-!
# What an import does to the databases

`import_test` with the executors of the repository. The translator and the knowledge
base have a state of their own: the translator's only statement on Redshift reads
`information_schema`, and the knowledge base is a database of its own.
-/

namespace MysqlRedshift.Agent

/-- The rows of MySQL and of Redshift, and all else that an import works on. -/
structure Stores (M R ρ : Type) where
  mysql : M
  redshift : R
  rest : ρ
  deriving DecidableEq, Repr

/-- The databases of an import, and its parties that are not executors. -/
structure Parties (M R ρ α S : Type) where
  mysql : Database M α
  redshift : Database R α
  mysqlMs : Int
  redshiftMs : Int
  translate : TranslateReq → Stores M R ρ → Except TranslateFailure (TranslateResp S) × ρ
  compare : List (List α) → List (List α) → List String → List String → String →
    Except String Compared
  saveExample : Knowledge.SaveArgs → ρ → Option Nat × ρ

variable {M R ρ α S : Type}

def Parties.importEnv (p : Parties M R ρ α S) : ImportEnv (Stores M R ρ) α S where
  translate req w :=
    let (result, rest) := p.translate req w
    (result, { w with rest })
  runMysql sql w :=
    let (result, mysql) := runMysql p.mysql p.mysqlMs sql w.mysql
    (result, { w with mysql })
  runRedshift sql w :=
    let (result, redshift) := runRedshift p.redshift p.redshiftMs sql w.redshift
    (result, { w with redshift })
  compare := p.compare
  saveExample args w :=
    let (id, rest) := p.saveExample args w.rest
    (id, { w with rest })

/-- The translation is made, both statements complete, and Redshift can commit. -/
def Commits (p : Parties M R ρ α S) (req : ImportTestReq) (w : Stores M R ρ) (sql : String) :
    Prop :=
  (∃ tr, (p.translate { sql := req.mysqlSQL } w).1 = .ok tr ∧ tr.redshiftSQL = sql) ∧
    p.mysql.Completes req.mysqlSQL w.mysql ∧
    p.redshift.Completes sql w.redshift ∧ p.redshift.commit = .ok ()

/-- A translation that is committed does nothing to the rows. -/
def Harmless (p : Parties M R ρ α S) (req : ImportTestReq) (w : Stores M R ρ) : Prop :=
  ∀ sql, Commits p req w sql → (p.redshift.execute sql w.redshift).2 = w.redshift

variable {p : Parties M R ρ α S} {req : ImportTestReq} {w : Stores M R ρ}

/-- The comparison and the save leave the databases as they are. -/
theorem apiKnowledgeImportTest_stores (p : Parties M R ρ α S) (req : ImportTestReq)
    (w : Stores M R ρ) :
    (apiKnowledgeImportTest p.importEnv req w).2.mysql = (importVerify p.importEnv req w).2.mysql ∧
      (apiKnowledgeImportTest p.importEnv req w).2.redshift =
        (importVerify p.importEnv req w).2.redshift := by
  rw [apiKnowledgeImportTest]
  rcases importVerify p.importEnv req w with ⟨_ | ⟨resp, _ | args⟩, w'⟩ <;> exact ⟨rfl, rfl⟩

/-- MySQL keeps its rows, and Redshift has what a committed translation did. -/
theorem importVerify_stores (statement : p.mysql.ddl req.mysqlSQL = false)
    (translation : ∀ tr, (p.translate { sql := req.mysqlSQL } w).1 = .ok tr →
      p.redshift.ddl tr.redshiftSQL = false) :
    (importVerify p.importEnv req w).2.mysql = w.mysql ∧
      ((∃ sql, Commits p req w sql ∧ (importVerify p.importEnv req w).2.redshift =
          (p.redshift.execute sql w.redshift).2) ∨
        (∀ sql, ¬ Commits p req w sql) ∧
          (importVerify p.importEnv req w).2.redshift = w.redshift) := by
  unfold Commits
  rcases translated : (p.translate { sql := req.mysqlSQL } w).1 with (e | e) | tr
  · simp [importVerify, Parties.importEnv, translated]
  · simp [importVerify, Parties.importEnv, translated]
  simp only [importVerify, Parties.importEnv, translated, importMysql]
  rcases runMysql_cases statement p.mysqlMs w.mysql with
    ⟨completes, my, ran⟩ | ⟨fails, e, ran⟩
  · simp only [ran, importRedshift]
    rcases runRedshift_cases (translation tr translated) p.redshiftMs w.redshift with
      ⟨commits, rs, ran'⟩ | ⟨fails', e, ran'⟩
    · simp only [ran']
      exact ⟨trivial, Or.inl ⟨_, ⟨⟨tr, rfl, rfl⟩, completes, commits⟩, rfl⟩⟩
    · simp only [ran']
      refine ⟨trivial, Or.inr ⟨?_, trivial⟩⟩
      rintro sql ⟨⟨tr', same, rfl⟩, -, commits⟩
      cases same
      exact fails' commits
  · simp only [ran]
    refine ⟨trivial, Or.inr ⟨?_, trivial⟩⟩
    rintro sql ⟨-, completes, -⟩
    exact fails completes

/-- An import of statements that are not DDL leaves both databases as they were exactly
when the translation that it commits does nothing. -/
theorem importTest_keeps_iff (p : Parties M R ρ α S) (req : ImportTestReq) (w : Stores M R ρ)
    (statement : p.mysql.ddl req.mysqlSQL = false)
    (translation : ∀ tr, (p.translate { sql := req.mysqlSQL } w).1 = .ok tr →
      p.redshift.ddl tr.redshiftSQL = false) :
    ((apiKnowledgeImportTest p.importEnv req w).2.mysql = w.mysql ∧
      (apiKnowledgeImportTest p.importEnv req w).2.redshift = w.redshift) ↔ Harmless p req w := by
  obtain ⟨same_mysql, same_redshift⟩ := apiKnowledgeImportTest_stores p req w
  rw [same_mysql, same_redshift]
  obtain ⟨mysql, ⟨sql, commits, stored⟩ | ⟨never, stored⟩⟩ :=
    importVerify_stores statement translation
  · rw [mysql, stored]
    constructor
    · rintro ⟨-, nothing⟩ sql' commits'
      obtain ⟨⟨tr, translated, rfl⟩, -⟩ := commits
      obtain ⟨⟨tr', translated', rfl⟩, -⟩ := commits'
      rw [translated] at translated'
      cases translated'
      exact nothing
    · intro harmless
      exact ⟨rfl, harmless sql commits⟩
  · rw [mysql, stored]
    refine ⟨fun _ sql commits => absurd commits (never sql), fun _ => ⟨rfl, rfl⟩⟩

/-! ## Imports into a table of one column -/

def insertA : String := "INSERT INTO t VALUES ('a')"

/-- A database of the table `t`, which knows an `INSERT` and reads the table else. -/
def tableT : Database (List String) String where
  connect := .ok ()
  ddl _ := false
  execute sql rows :=
    if sql = insertA then (.ok ⟨[], .ok []⟩, rows ++ ["a"])
    else (.ok ⟨["v"], .ok (rows.map fun v => [v])⟩, rows)
  commit := .ok ()

/-- Two such databases, with texts translated to themselves. -/
def twoTables : Parties (List String) (List String) Unit String Nat where
  mysql := tableT
  redshift := tableT
  mysqlMs := 4
  redshiftMs := 5
  translate req w := (.ok ⟨req.sql, [], 3, "initial", 0, []⟩, w.rest)
  compare my rs _ _ _ := .ok ⟨my = rs, "rows compared"⟩
  saveExample _ rest := (some 1, rest)

theorem importTest_keeps_iff_select :
    (apiKnowledgeImportTest twoTables.importEnv ⟨"SELECT v FROM t", "strict", false⟩
        ⟨["a"], ["a"], ()⟩).2.mysql = ["a"] ∧
      (apiKnowledgeImportTest twoTables.importEnv ⟨"SELECT v FROM t", "strict", false⟩
        ⟨["a"], ["a"], ()⟩).2.redshift = ["a"] := by
  refine (importTest_keeps_iff twoTables ⟨"SELECT v FROM t", "strict", false⟩ ⟨["a"], ["a"], ()⟩
    rfl fun _ _ => rfl).mpr ?_
  rintro sql ⟨⟨tr, translated, rfl⟩, -⟩
  cases translated
  rfl

/-- After an imported `INSERT`, with a good comparison, Redshift has a row that MySQL has not. -/
theorem not_importTest_keeps_insert :
    ¬ ((apiKnowledgeImportTest twoTables.importEnv ⟨insertA, "strict", false⟩
          ⟨[], [], ()⟩).2.mysql = [] ∧
        (apiKnowledgeImportTest twoTables.importEnv ⟨insertA, "strict", false⟩
          ⟨[], [], ()⟩).2.redshift = []) := by
  decide

end MysqlRedshift.Agent
