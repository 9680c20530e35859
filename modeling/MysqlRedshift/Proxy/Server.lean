import MysqlRedshift.Proxy.Cache
import MysqlRedshift.Proxy.ResultMap
import MysqlRedshift.Proxy.Router

/-!
# The query handler

`proxy/internal/server/server.go`: `HandleQuery` and `execWithRetry`, one call at a
time. The agent, Redshift and MySQL are a `World`: functions of what they are sent
and of a state of their own, so that a world may answer from a script, from what it
saw before, or always alike. `State` holds what outlives a call: the cache, the
world, the save requests handed to `SaveAsync` and a trace of the exchanges, both
latest first. Logging and the hit counters, which nothing reads, are left out, and
so is `New`'s knowledge client, which is never nil.
-/

namespace MysqlRedshift.Proxy

open MysqlRedshift.Misc

/-- `convertor_client.TranslateRequest`; an absent field is the empty text. -/
structure TranslateRequest where
  sql : String
  prevError : String := ""
  prevSQL : String := ""
  deriving DecidableEq, Repr

/-- `convertor_client.TranslateResponse`. -/
structure TranslateResponse where
  redshiftSQL : String
  usedRules : List String := []
  latencyMs : Int := 0
  attempt : String := "initial"
  deriving DecidableEq, Repr

/-- `knowledge.SaveReq`. -/
structure SaveReq where
  mysqlSQL : String
  redshiftSQL : String
  usedRules : List String := []
  rowCount : Int := 0
  mysqlMs : Int := 0
  redshiftMs : Int := 0
  compareMode : String := ""
  source : String := ""
  deriving DecidableEq, Repr

/-- The fields of `config.Config` that the handler reads. -/
structure Config where
  cacheSize : Int
  maxAttempts : Int

/-- The parties that the handler calls. `rsExecSelect` also tells the milliseconds
that the call took; `myExecSelect` is `none` when no MySQL is configured. -/
structure World (ε : Type) where
  translate : TranslateRequest → ε → Except String TranslateResponse × ε
  rsExecSelect : String → ε → (Except String Result × Int) × ε
  myExecSelect : Option (String → ε → Except String Result × ε)

structure Server (C : Type) where
  cfg : Config
  router : Router
  lru : Lru C String String
  db : UnicodeDb
  md5 : String → String
  wire : WireLib

/-- An exchange with the agent, or with Redshift on behalf of a client's query. -/
inductive Event where
  | translate (req : TranslateRequest) (answer : Except String TranslateResponse)
  | execSelect (query sql : String) (outcome : Except String Result)

structure State (ε C : Type) where
  cache : C
  env : ε
  saves : List SaveReq := []
  trace : List Event := []

/-- The errors that `HandleQuery` returns, each with what it wraps. -/
inductive HandleError where
  | routerSelectedMySQL (tables : List String)
  | mysqlExec (err : String)
  | translateFailed (err : String)
  | redshiftExec (attempts : Int) (prevErr : Option String)
  | resultset (err : String)
  deriving DecidableEq, Repr

def HandleError.text : HandleError → String
  | .routerSelectedMySQL tables =>
    "router selected MySQL but MYSQL_DSN not configured (tables=[" ++ " ".intercalate tables ++ "])"
  | .mysqlExec err => "mysql exec: " ++ err
  | .translateFailed err => "translate failed: " ++ err
  | .redshiftExec attempts prevErr =>
    "redshift exec after " ++ toString attempts ++ " attempts: " ++ prevErr.getD "%!w(<nil>)"
  | .resultset err => err

/-- The client's answer to one query. -/
abbrev Reply := Except HandleError MySQLResult

def noopPrefixes : List String :=
  ["set ", "start transaction", "begin", "commit", "rollback", "use ", "show "]

def shouldNoop (db : UnicodeDb) (q : String) : Bool :=
  let t := toLower db (trimSpace q)
  noopPrefixes.any fun p => hasPrefix t p

def emptyResult : MySQLResult := .zero

variable {ε C : Type}

/-- A call to the agent, entered in the trace. -/
def callTranslate (w : World ε) (req : TranslateRequest) (st : State ε C) :
    Except String TranslateResponse × State ε C :=
  let (answer, env) := w.translate req st.env
  (answer, { st with env, trace := .translate req answer :: st.trace })

/-- A text sent to Redshift for a query, entered in the trace. -/
def callRedshift (w : World ε) (query sql : String) (st : State ε C) :
    (Except String Result × Int) × State ε C :=
  let ((outcome, ms), env) := w.rsExecSelect sql st.env
  ((outcome, ms), { st with env, trace := .execSelect query sql outcome :: st.trace })

/-- The loop of `execWithRetry`; `left` attempts remain of `maxAttempts`. -/
def retryLoop (w : World ε) (maxAttempts : Int) (originalSQL : String) :
    (left : Nat) → (curSQL : String) → (prevErr : Option String) → State ε C →
      Except HandleError (Result × String × Int) × State ε C
  | 0, _, prevErr, st => (.error (.redshiftExec maxAttempts prevErr), st)
  | left + 1, curSQL, _, st =>
    match callRedshift w originalSQL curSQL st with
    | ((.ok result, ms), st) => (.ok (result, curSQL, ms), st)
    | ((.error err, _), st) =>
      -- `attempt+1 >= MaxAttempts`: no fix is asked for after the last attempt
      if left = 0 then (.error (.redshiftExec maxAttempts (some err)), st)
      else
        match callTranslate w { sql := originalSQL, prevError := err, prevSQL := curSQL } st with
        | (.error _, st) => (.error (.redshiftExec maxAttempts (some err)), st)
        | (.ok fixResp, st) =>
          retryLoop w maxAttempts originalSQL left fixResp.redshiftSQL (some err) st

/-- Result, winning text and elapsed milliseconds. -/
def execWithRetry (srv : Server C) (w : World ε) (originalSQL rsSQL : String) (st : State ε C) :
    Except HandleError (Result × String × Int) × State ε C :=
  retryLoop w srv.cfg.maxAttempts originalSQL srv.cfg.maxAttempts.toNat rsSQL none st

def Server.key (srv : Server C) (query : String) : String := Cache.key srv.db srv.md5 query

/-- The first Redshift text for a query: the cached one, or else the agent's
translation, which is cached before it is tried. -/
def firstSQL (srv : Server C) (w : World ε) (query : String) (st : State ε C) :
    Except HandleError String × State ε C :=
  let (cached, cache) := Cache.get srv.lru st.cache (srv.key query)
  let st := { st with cache }
  match cached with
  | some rsQuery => (.ok rsQuery, st)
  | none =>
    match callTranslate w { sql := query } st with
    | (.error err, st) => (.error (.translateFailed err), st)
    | (.ok resp, st) =>
      (.ok resp.redshiftSQL,
        { st with cache := Cache.set srv.lru st.cache (srv.key query) resp.redshiftSQL })

/-- The request that a successful query hands to `SaveAsync`. -/
def runtimeSave (query winningSQL : String) (result : Result) (rsMs : Int) : SaveReq :=
  { mysqlSQL := query, redshiftSQL := winningSQL, rowCount := result.rows.length,
    redshiftMs := rsMs, compareMode := "skipped", source := "runtime" }

/-- What a successful execution leaves behind: the winning text in the cache if it is
not the first one, and a save request if there are rows and the text is short. -/
def remember (srv : Server C) (query rsQuery winningSQL : String) (result : Result) (rsMs : Int)
    (st : State ε C) : State ε C :=
  let st := if winningSQL ≠ rsQuery then
      { st with cache := Cache.set srv.lru st.cache (srv.key query) winningSQL }
    else st
  if 0 < result.rows.length ∧ goLen winningSQL < 8000 then
    { st with saves := runtimeSave query winningSQL result rsMs :: st.saves }
  else st

/-- A result in the client's form; the error of the builder is returned as it is. -/
def reply (lib : WireLib) (result : Result) : Reply :=
  match toMySQL lib (some result) with
  | .error err => .error (.resultset err)
  | .ok r => .ok r

/-- Runs a first text and answers with the result of the attempt that succeeds. -/
def runFirst (srv : Server C) (w : World ε) (query rsQuery : String) (st : State ε C) :
    Reply × State ε C :=
  match execWithRetry srv w query rsQuery st with
  | (.error err, st) => (.error err, st)
  | (.ok (result, winningSQL, rsMs), st) =>
    (reply srv.wire result, remember srv query rsQuery winningSQL result rsMs st)

/-- The Redshift path of `HandleQuery`. -/
def handleRedshift (srv : Server C) (w : World ε) (query : String) (st : State ε C) :
    Reply × State ε C :=
  match firstSQL srv w query st with
  | (.error err, st) => (.error err, st)
  | (.ok rsQuery, st) => runFirst srv w query rsQuery st

/-- The MySQL path of `HandleQuery`. -/
def handleMySQL (srv : Server C) (w : World ε) (tables : List String) (query : String)
    (st : State ε C) : Reply × State ε C :=
  match w.myExecSelect with
  | none => (.error (.routerSelectedMySQL tables), st)
  | some execSelect =>
    match execSelect query st.env with
    | (.error err, env) => (.error (.mysqlExec err), { st with env })
    | (.ok result, env) => (reply srv.wire result, { st with env })

def handleQuery (srv : Server C) (w : World ε) (query : String) (st : State ε C) :
    Reply × State ε C :=
  if shouldNoop srv.db query then (.ok emptyResult, st)
  else
    match srv.router.route query with
    | (.mysql, tables, _) => handleMySQL srv w tables query st
    | (.redshift, _, _) => handleRedshift srv w query st

/-- Queries handled one after the other: the replies and the final state. -/
def serve (srv : Server C) (w : World ε) : List String → State ε C → List Reply × State ε C
  | [], st => ([], st)
  | query :: queries, st =>
    let (answer, st) := handleQuery srv w query st
    let (answers, st) := serve srv w queries st
    (answer :: answers, st)

/-- Whether a query is sent down the Redshift path. -/
def Server.onRedshift (srv : Server C) (query : String) : Bool :=
  !shouldNoop srv.db query && (srv.router.route query).1 = .redshift

theorem handleQuery_onRedshift {srv : Server C} {query : String}
    (h : srv.onRedshift query = true) (w : World ε) (st : State ε C) :
    handleQuery srv w query st = handleRedshift srv w query st := by
  simp only [Server.onRedshift, Bool.and_eq_true, Bool.not_eq_true', decide_eq_true_eq] at h
  obtain ⟨live, dest⟩ := h
  rcases routed : srv.router.route query with ⟨_ | _, tables, reason⟩
  · simp [handleQuery, live, routed]
  · simp [routed] at dest

/-! ## A server to try queries on -/

/-- The real digests of the normalised texts of two queries. -/
def md5 : String → String
  | "select name from t where id = ?" => "41a147ed94c532121d5b789da3d45f1c"
  | "select count(*) from orders" => "cbd616b4171a3eca2cab1c234b88db17"
  | s => s

/-- A proxy with the default settings: no whitelist, so that all goes to Redshift. -/
def defaultServer : Server (ListLru String String) where
  cfg := { cacheSize := 1024, maxAttempts := 3 }
  router := .new .ascii (fun _ => .ok []) .inserted ""
  lru := listLru String String
  db := .ascii
  md5
  wire :=
    { formatFloat := fun _ _ => []
      buildSimpleTextResultset := fun fields rows => .ok ⟨fields, rows⟩ }

def emptyCache : ListLru String String := ⟨1024, [], by decide, by simp, by simp⟩

theorem new_defaultServer :
    Cache.new defaultServer.lru defaultServer.cfg.cacheSize = .ok emptyCache := rfl

end MysqlRedshift.Proxy
