import MysqlRedshift.Agent.Translate

/-!
# Import with verification

`api_knowledge_import_test` of `agent/app.py`: translate, run the statement on MySQL
and its translation on Redshift, compare, and save if the comparison is good or the
save is forced. The parties are an `ImportEnv` over a state of their own, so that the
same function serves for what it answers, what it saves and what it does to them.
-/

namespace MysqlRedshift.Agent

open MysqlRedshift.Misc

/-- `ImportTestReq`. -/
structure ImportTestReq where
  mysqlSQL : String
  compareMode : String := "strict"
  forceSave : Bool := false
  deriving DecidableEq, Repr

/-- `ImportTestResp`. -/
structure ImportTestResp where
  mysqlSQL : String
  redshiftSQL : Option String := none
  translateMs : Option Int := none
  usedRules : List String := []
  examplesHit : Nat := 0
  mysqlOk : Bool := false
  mysqlMs : Option Int := none
  mysqlRows : Option Int := none
  mysqlError : Option String := none
  redshiftOk : Bool := false
  redshiftMs : Option Int := none
  redshiftRows : Option Int := none
  redshiftError : Option String := none
  compareOk : Bool := false
  compareReason : String := ""
  saved : Bool := false
  savedId : Option Nat := none
  deriving DecidableEq, Repr

/-- What `run_mysql` and `run_redshift` return. -/
structure Executed (α : Type) where
  columns : List String
  rows : List (List α)
  latencyMs : Int
  deriving DecidableEq, Repr

/-- The keys of what `compare` returns that are read. -/
structure Compared where
  ok : Bool
  reason : String
  deriving DecidableEq, Repr

/-- What the call of `translate` can raise. -/
inductive TranslateFailure where
  | http (e : HTTPException)
  | other (e : String)
  deriving DecidableEq, Repr

/-- The parties of an import, over a state `σ`; exceptions are given by their text. -/
structure ImportEnv (σ α S : Type) where
  translate : TranslateReq → σ → Except TranslateFailure (TranslateResp S) × σ
  runMysql : String → σ → Except String (Executed α) × σ
  runRedshift : String → σ → Except String (Executed α) × σ
  compare : List (List α) → List (List α) → List String → List String → String →
    Except String Compared
  saveExample : Knowledge.SaveArgs → σ → Option Nat × σ

variable {σ α S : Type} (env : ImportEnv σ α S) (req : ImportTestReq)

/-- Steps 4 and 5 up to the save: the comparison, and the arguments of the save if there
is to be one. An exception of `compare` is not caught. -/
def importCompare (resp : ImportTestResp) (redshiftSQL : String) (my rs : Executed α) :
    Except String (ImportTestResp × Option Knowledge.SaveArgs) :=
  match env.compare my.rows rs.rows my.columns rs.columns req.compareMode with
  | .error err => .error err
  | .ok cmp =>
    let resp := { resp with compareOk := cmp.ok, compareReason := cmp.reason }
    if cmp.ok || req.forceSave then
      .ok (resp, some
        { mysqlSQL := req.mysqlSQL
          redshiftSQL
          usedRules := resp.usedRules
          rowCount := resp.mysqlRows
          mysqlMs := resp.mysqlMs
          redshiftMs := resp.redshiftMs
          compareMode := if !cmp.ok && req.forceSave then "override" else req.compareMode
          source := "import" })
    else .ok (resp, none)

/-- Step 3: the run on Redshift. -/
def importRedshift (resp : ImportTestResp) (redshiftSQL : String) (my : Executed α) (s : σ) :
    Except String (ImportTestResp × Option Knowledge.SaveArgs) × σ :=
  match env.runRedshift redshiftSQL s with
  | (.error e, s) =>
    let err := pyTake e 500
    (.ok ({ resp with
      redshiftError := some err, compareReason := "Redshift 执行失败: " ++ err }, none), s)
  | (.ok rs, s) =>
    let resp := { resp with
      redshiftOk := true, redshiftMs := some rs.latencyMs, redshiftRows := some rs.rows.length }
    (importCompare env req resp redshiftSQL my rs, s)

/-- Step 2: the run on MySQL. -/
def importMysql (resp : ImportTestResp) (redshiftSQL : String) (s : σ) :
    Except String (ImportTestResp × Option Knowledge.SaveArgs) × σ :=
  match env.runMysql req.mysqlSQL s with
  | (.error e, s) =>
    let err := pyTake e 500
    (.ok ({ resp with
      mysqlError := some err, compareReason := "MySQL 执行失败: " ++ err }, none), s)
  | (.ok my, s) =>
    let resp := { resp with
      mysqlOk := true, mysqlMs := some my.latencyMs, mysqlRows := some my.rows.length }
    importRedshift env req resp redshiftSQL my s

/-- All steps but the save. -/
def importVerify (s : σ) : Except String (ImportTestResp × Option Knowledge.SaveArgs) × σ :=
  let resp : ImportTestResp := { mysqlSQL := req.mysqlSQL }
  match env.translate { sql := req.mysqlSQL } s with
  | (.error (.http e), s) =>
    (.ok ({ resp with compareReason := "翻译失败: " ++ e.detail }, none), s)
  | (.error (.other e), s) => (.ok ({ resp with compareReason := "翻译异常: " ++ e }, none), s)
  | (.ok tr, s) =>
    let resp := { resp with
      redshiftSQL := some tr.redshiftSQL, translateMs := some tr.latencyMs,
      usedRules := tr.usedRules, examplesHit := tr.examplesHit }
    importMysql env req resp tr.redshiftSQL s

def apiKnowledgeImportTest (s : σ) : Except String ImportTestResp × σ :=
  match importVerify env req s with
  | (.error err, s) => (.error err, s)
  | (.ok (resp, none), s) => (.ok resp, s)
  | (.ok (resp, some args), s) =>
    let (rid, s) := env.saveExample args s
    (.ok { resp with saved := rid.isSome, savedId := rid }, s)

/-! ## What is saved -/

/-- Both statements ran, and `compare` with the mode answered as given. -/
def ComparedAs (s : σ) (redshiftSQL mode : String) (ok : Bool) : Prop :=
  ∃ tr s₁ my s₂ rs s₃ reason,
    env.translate { sql := req.mysqlSQL } s = (.ok tr, s₁) ∧ tr.redshiftSQL = redshiftSQL ∧
    env.runMysql req.mysqlSQL s₁ = (.ok my, s₂) ∧
    env.runRedshift redshiftSQL s₂ = (.ok rs, s₃) ∧
    env.compare my.rows rs.rows my.columns rs.columns mode = .ok ⟨ok, reason⟩

variable {env req}

/-- A save is made after a comparison, for the statement and its translation, with the
mode of a good comparison or as an override of a bad one. -/
theorem importVerify_saves {s s' : σ} {resp : ImportTestResp} {args : Knowledge.SaveArgs}
    (h : importVerify env req s = (.ok (resp, some args), s')) :
    args.mysqlSQL = req.mysqlSQL ∧ args.source = "import" ∧
      (args.compareMode = req.compareMode ∧
          ComparedAs env req s args.redshiftSQL req.compareMode true ∨
        args.compareMode = "override" ∧ req.forceSave = true ∧
          ComparedAs env req s args.redshiftSQL req.compareMode false) := by
  simp only [importVerify] at h
  rcases translated : env.translate { sql := req.mysqlSQL } s with ⟨(e | e) | tr, s₁⟩
  · simp [translated] at h
  · simp [translated] at h
  simp only [translated, importMysql] at h
  rcases mysql : env.runMysql req.mysqlSQL s₁ with ⟨e | my, s₂⟩
  · simp [mysql] at h
  simp only [mysql, importRedshift] at h
  rcases redshift : env.runRedshift tr.redshiftSQL s₂ with ⟨e | rs, s₃⟩
  · simp [redshift] at h
  simp only [redshift, importCompare] at h
  rcases compared : env.compare my.rows rs.rows my.columns rs.columns req.compareMode with
    e | ⟨ok, reason⟩
  · simp [compared] at h
  simp only [compared] at h
  have as_compared : ComparedAs env req s tr.redshiftSQL req.compareMode ok :=
    ⟨tr, s₁, my, s₂, rs, s₃, reason, translated, rfl, mysql, redshift, compared⟩
  cases ok with
  | true =>
    simp only [Bool.true_or, if_true, Prod.mk.injEq, Except.ok.injEq, Option.some.injEq] at h
    obtain ⟨⟨-, rfl⟩, -⟩ := h
    exact ⟨rfl, rfl, Or.inl ⟨rfl, as_compared⟩⟩
  | false =>
    cases forced : req.forceSave with
    | false => simp [forced] at h
    | true =>
      simp only [forced, Bool.false_or, if_true, Prod.mk.injEq, Except.ok.injEq,
        Option.some.injEq] at h
      obtain ⟨⟨-, rfl⟩, -⟩ := h
      exact ⟨rfl, rfl, Or.inr ⟨rfl, rfl, as_compared⟩⟩

end MysqlRedshift.Agent
