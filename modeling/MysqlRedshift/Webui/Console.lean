import MysqlRedshift.Agent.TranslateRequest
import MysqlRedshift.Proxy.ConcurrentTransparency
import MysqlRedshift.Webui.Query

/-!
# What the console shows

`/api/query` and `/api/explain` of `webui/app.py`. For the source `proxy` the console has the
statement translated by the agent, to show the translation, and has the proxy run the
statement, to show its rows. The proxy makes a translation of its own, or has one in its cache,
and may have it fixed; so the text that is shown need not be the one that the rows came from.
-/

namespace MysqlRedshift.Webui

open MysqlRedshift.Misc MysqlRedshift.Agent MysqlRedshift.Proxy

structure QueryReq where
  source : String
  sql : String
  deriving DecidableEq, Repr

structure QueryResp (O : Type) where
  source : String
  columns : List String := []
  rows : List (List (PyValue O)) := []
  rowCount : Nat := 0
  latencyMs : Int := 0
  truncated : Bool := false
  translatedSQL : Option String := none
  translateMs : Option Int := none
  error : Option String := none

structure ExplainResp where
  source : String
  plan : List String := []
  latencyMs : Int := 0
  translatedSQL : Option String := none
  translateMs : Option Int := none
  error : Option String := none
  deriving DecidableEq, Repr

/-- The parties of the console. `pymysql` reads the proxy's answers with `driver`; an exception
is the text that is shown of it, and an error of the proxy is one. `exchange` is how a request to
the agent's `/translate` ends, and a run takes `ms` milliseconds. -/
structure Console (C O : Type) where
  texts : Texts O
  lower : String → String
  maxRows : Nat
  aurora : Backend O
  redshift : Backend O
  connect : Except String Unit
  driver : Reply → Except String (Cursor O)
  driver_error : ∀ err, ∃ text, driver (.error err) = .error text
  exchange : TranslateRequest → Exchange
  srv : Server C
  ms : Int

variable {C O ε : Type} (c : Console C O)

/-- `req.source.lower().strip()`. -/
def src (req : QueryReq) : String := pyStrip (c.lower req.source)

/-- `req.sql.strip().rstrip(";")`. -/
def statement (req : QueryReq) : String := pyRstripChars (pyStrip req.sql) ";"

/-- The two fields that `_translate` reads of an answer; the endpoint writes a string and a
number. -/
def readTranslated (body : Body) : Option String × Option Int :=
  (match body.lookup "redshift_sql" with
    | some (.str s) => some s
    | _ => none,
   match body.lookup "latency_ms" with
    | some (.num n) => some n
    | _ => none)

/-- `_translate`. -/
def translated (sql : String) : Option String × Option Int :=
  match c.exchange { sql } with
  | .answered 200 (.object body) => readTranslated body
  | _ => (none, none)

/-- The proxy behind `pymysql`. -/
def proxyBackend (w : World ε) (st : State ε C) : Backend O where
  connect := c.connect
  execute sql := c.driver (handleQuery c.srv w sql st).1
  commit := .ok ()

/-- `_run_mysql` on the proxy, and the proxy after it. -/
def runProxy (w : World ε) (sql : String) (st : State ε C) :
    Except String (QueryResult O) × State ε C :=
  (runMysql c.texts c.maxRows c.ms (proxyBackend c w st) sql,
    match c.connect with
    | .error _ => st
    | .ok () => (handleQuery c.srv w sql st).2)

/-- The answer for the end of a run. -/
def queryResp (src : String) (translated : Option String × Option Int) :
    Except String (QueryResult O) → QueryResp O
  | .error e =>
    { source := src, translatedSQL := translated.1, translateMs := translated.2, error := some e }
  | .ok out =>
    { source := src, columns := out.columns, rows := out.rows, rowCount := out.rowCount,
      latencyMs := out.latencyMs, truncated := out.truncated, translatedSQL := translated.1,
      translateMs := translated.2 }

/-- `api_query`, and the proxy after it. -/
def apiQuery (w : World ε) (req : QueryReq) (st : State ε C) :
    Except HTTPException (QueryResp O) × State ε C :=
  let sql := statement req
  if sql.isEmpty then (.error ⟨400, "sql is empty"⟩, st)
  else if src c req = "mysql" then
    (.ok (queryResp (src c req) (none, none) (runMysql c.texts c.maxRows c.ms c.aurora sql)), st)
  else if src c req = "redshift" then
    (.ok (queryResp (src c req) (none, none)
      (runRedshift c.texts c.maxRows c.ms c.redshift sql)), st)
  else if src c req = "proxy" then
    (.ok (queryResp (src c req) (translated c sql) (runProxy c w sql st).1),
      (runProxy c w sql st).2)
  else (.error ⟨400, "unknown source: " ++ src c req⟩, st)

/-! ## Plans -/

/-- A cell of a plan: `"" if v is None else str(v)`, where a text is its own. -/
def cellText : PyValue O → String
  | .none => ""
  | .str s => s
  | v => c.texts.str v

/-- The lines of `_explain_mysql`. -/
def tableLines (out : QueryResult O) : List String :=
  if out.columns.isEmpty then []
  else
    pyJoin " | " out.columns ::
      pyJoin "-+-" (out.columns.map fun col =>
        String.ofList (List.replicate (max 3 col.length) '-')) ::
      out.rows.map fun row => pyJoin " | " (row.map (cellText c))

/-- `_explain_mysql`. -/
def explainMysql (sql : String) : Except String (List String × Int) :=
  (runMysql c.texts c.maxRows c.ms c.aurora ("EXPLAIN " ++ sql)).map fun out =>
    (tableLines c out, out.latencyMs)

/-- `_explain_redshift`: the first column, which `row[0]` needs. -/
def explainRedshift (sql : String) : Except String (List String × Int) := do
  let out ← runRedshift c.texts c.maxRows c.ms c.redshift ("EXPLAIN " ++ sql)
  let lines ← out.rows.mapM fun
    | [] => .error "IndexError: list index out of range"
    | .none :: _ => .ok "None"
    | cell :: _ => .ok (cellText c cell)
  return (lines, out.latencyMs)

def explainResp (src : String) (translated : Option String × Option Int) :
    Except String (List String × Int) → ExplainResp
  | .error e =>
    { source := src, translatedSQL := translated.1, translateMs := translated.2, error := some e }
  | .ok (plan, latencyMs) =>
    { source := src, plan, latencyMs, translatedSQL := translated.1, translateMs := translated.2 }

/-- `api_explain`. An empty translation is none. -/
def apiExplain (req : QueryReq) : Except HTTPException ExplainResp :=
  let sql := statement req
  if sql.isEmpty then .error ⟨400, "sql is empty"⟩
  else if src c req = "mysql" then
    .ok (explainResp (src c req) (none, none) (explainMysql c sql))
  else if src c req = "redshift" then
    .ok (explainResp (src c req) (none, none) (explainRedshift c sql))
  else if src c req = "proxy" then
    let translated := translated c sql
    .ok (explainResp (src c req) translated
      (match translated.1 with
        | none => .error failedText
        | some text => if text.isEmpty then .error failedText else explainRedshift c text))
  else .error ⟨400, "unknown source: " ++ src c req⟩
where
  failedText : String := "RuntimeError: translate failed (agent unreachable or returned empty)"

/-! ## What the proxy runs -/

section

open Interleaving

variable {srv : Server C} {agent : TranslateRequest → Except String TranslateResponse}
  {redshift : String → Except String Result × Int} {sql : String}

/-- An execution is the last exchange of the loop that it ends. -/
theorem retryLoop_last {w : World ε} {maxAttempts : Int} {query : String} {left : Nat}
    {curSQL : String} {prevErr : Option String} {st st' : State ε C} {result : Result}
    {won : String} {ms : Int}
    (ran : retryLoop w maxAttempts query left curSQL prevErr st = (.ok (result, won, ms), st')) :
    st'.trace.head? = some (.execSelect query won (.ok result)) := by
  induction left generalizing curSQL prevErr st with
  | zero => cases ran
  | succ left ih =>
    rw [retryLoop] at ran
    rcases redshift : w.rsExecSelect curSQL st.env with ⟨⟨err | result', ms'⟩, env⟩
    · simp only [callRedshift, redshift] at ran
      split at ran
      · cases ran
      · split at ran
        · cases ran
        · exact ih ran
    · simp only [callRedshift, redshift] at ran
      cases ran
      rfl

/-- A call succeeds with the text that its first text leads to, and with its result. -/
theorem firstEnds_of_ok {query text : String} {st st' : State Unit C} {result : Result}
    {won : String} {ms : Int}
    (ran : execWithRetry srv (.fixed agent redshift) query text st =
      (.ok (result, won, ms), st')) :
    firstEnds srv.cfg.maxAttempts agent (fun sql => (redshift sql).1) query text =
      .ok (result, won) := by
  rw [← execWithRetry_ends query text st, ran]
  rfl

variable (srv agent redshift sql) in
/-- A text that leads `sql`, if it is a text for it, where it goes alone. -/
def Leading (query text : String) : Prop :=
  query = sql → Leads srv.cfg.maxAttempts agent (fun sql => (redshift sql).1) query text

theorem runFirst_leading {query text : String} {seen : List String} {st : State Unit C}
    (leading : Leading srv agent redshift sql query text)
    (good : Attributed srv (Leading srv agent redshift sql) (query :: seen) st.cache) :
    Attributed srv (Leading srv agent redshift sql) (query :: seen)
      (runFirst srv (.fixed agent redshift) query text st).2.cache := by
  rcases runFirst_cases srv (.fixed agent redshift) query text st with
    ⟨err, st', -, frame, run⟩ | ⟨result, won, ms, st', ran, frame, -, run⟩
  · rw [run, frame.cache]
    exact good
  · rw [run]
    refine Attributed.remember (frame.cache ▸ good) List.mem_cons_self fun same => ?_
    have ends := (leading same).symm.trans (firstEnds_of_ok ran)
    exact (aloneEnds_ok ends).2.trans ends.symm

/-- The translation of a query leads where the query goes alone. -/
theorem leading_of_translate {query : String} {resp : TranslateResponse}
    (told : agent { sql := query } = .ok resp) :
    Leading srv agent redshift sql query resp.redshiftSQL := by
  intro
  simp only [Leads, aloneEnds, told]

/-- The first text for a query leads as its translation does, found or made. -/
theorem firstSQL_leading (query : String) {seen : List String} {st : State Unit C}
    (good : Attributed srv (Leading srv agent redshift sql) seen st.cache)
    (alone : ∀ q ∈ seen, srv.key q = srv.key sql → q = sql) :
    Attributed srv (Leading srv agent redshift sql) (query :: seen)
        (firstSQL srv (.fixed agent redshift) query st).2.cache ∧
      ∀ text, (firstSQL srv (.fixed agent redshift) query st).1 = .ok text →
        Leading srv agent redshift sql query text := by
  have kept := (good.looked query).mono (fun _ _ => id) (List.subset_cons_self query seen)
  cases held : srv.lru.contents st.cache (srv.key query) with
  | some text =>
    rw [firstSQL_hit held]
    refine ⟨kept, fun text' same => ?_⟩
    cases same
    rintro rfl
    obtain ⟨q, member, keyed, leading⟩ := good _ text held
    obtain rfl := alone q member keyed
    exact leading rfl
  | none =>
    cases told : agent { sql := query } with
    | error err =>
      rw [firstSQL_error held (fixed_translate told _)]
      exact ⟨kept, fun text' impossible => by cases impossible⟩
    | ok resp =>
      rw [firstSQL_miss held (fixed_translate told _)]
      refine ⟨kept.set List.mem_cons_self (leading_of_translate told), fun text' same => ?_⟩
      cases same
      exact leading_of_translate told

/-- One call leaves entries that lead where the statement goes alone, if they are for it. -/
theorem handleQuery_leading (query : String) {seen : List String} {st : State Unit C}
    (good : Attributed srv (Leading srv agent redshift sql) seen st.cache)
    (alone : ∀ q ∈ seen, srv.key q = srv.key sql → q = sql) :
    Attributed srv (Leading srv agent redshift sql) (query :: seen)
      (handleQuery srv (.fixed agent redshift) query st).2.cache := by
  cases routed : srv.onRedshift query with
  | false =>
    rw [(handleQuery_unrouted routed _ st).cache]
    exact good.mono (fun _ _ => id) (List.subset_cons_self query seen)
  | true =>
    obtain ⟨kept, leading⟩ := firstSQL_leading query good alone
    rw [handleQuery_onRedshift routed, handleRedshift]
    rcases first : firstSQL srv (.fixed agent redshift) query st with ⟨err | text, st₁⟩
    · rw [first] at kept
      exact kept
    · rw [first] at kept leading
      exact runFirst_leading (leading text rfl) kept

/-- A call for the statement, if it is answered, ends with the execution that the statement
alone ends with. -/
theorem handleQuery_ran {seen : List String} {st : State Unit C}
    (good : Attributed srv (Leading srv agent redshift sql) seen st.cache)
    (alone : ∀ q ∈ seen, srv.key q = srv.key sql → q = sql) (routed : srv.onRedshift sql = true)
    {r : MySQLResult} (answered : (handleQuery srv (.fixed agent redshift) sql st).1 = .ok r) :
    ∃ won result, aloneEnds srv.cfg.maxAttempts agent (fun sql => (redshift sql).1) sql =
        .ok (result, won) ∧ reply srv.wire result = .ok r ∧
      (handleQuery srv (.fixed agent redshift) sql st).2.trace.head? =
        some (.execSelect sql won (.ok result)) := by
  obtain ⟨-, leading⟩ := firstSQL_leading sql good alone
  rw [handleQuery_onRedshift routed, handleRedshift] at answered ⊢
  rcases first : firstSQL srv (.fixed agent redshift) sql st with ⟨err | text, st₁⟩
  · rw [first] at answered
    cases answered
  · rw [first] at answered leading
    rcases runFirst_cases srv (.fixed agent redshift) sql text st₁ with
      ⟨err, st', -, -, run⟩ | ⟨result, won, ms, st', ran, -, -, run⟩
    · simp only [run] at answered
      cases answered
    · simp only [run] at answered ⊢
      refine ⟨won, result, ?_, answered, ?_⟩
      · exact (leading text rfl rfl).symm.trans (firstEnds_of_ok ran)
      · rw [remember_trace]
        exact retryLoop_last ran

theorem serve_leading {queries seen : List String} {st : State Unit C}
    (good : Attributed srv (Leading srv agent redshift sql) seen st.cache)
    (alone : ∀ q ∈ seen ++ queries, srv.key q = srv.key sql → q = sql) :
    ∃ seen', (∀ q ∈ seen', srv.key q = srv.key sql → q = sql) ∧
      Attributed srv (Leading srv agent redshift sql) seen'
        (serve srv (.fixed agent redshift) queries st).2.cache := by
  induction queries generalizing seen st with
  | nil => exact ⟨seen, by simpa using alone, good⟩
  | cons query queries ih =>
    have alone_seen : ∀ q ∈ seen, srv.key q = srv.key sql → q = sql :=
      fun q member => alone q (List.mem_append_left _ member)
    have alone_later : ∀ q ∈ query :: seen ++ queries, srv.key q = srv.key sql → q = sql :=
      fun q member => alone q (List.perm_middle.mem_iff.mpr member)
    have rest := ih (handleQuery_leading query good alone_seen) alone_later
    rw [serve_cons]
    exact rest

end

/-! ## What is shown -/

variable {S : Type} {e : Endpoint S} {lib : JsonLib} {c}

/-- The console and the proxy read the same text and latency in an answer that the proxy can
use. -/
theorem translated_of_ok {sql : String} {out : TranslateResponse}
    (ends : e.Ends { sql } (c.exchange { sql }))
    (told : clientTranslate lib (c.exchange { sql }) = .ok out) :
    translated c sql = (some out.redshiftSQL, some out.latencyMs) := by
  rw [translated]
  generalize c.exchange { sql } = x at ends told
  cases ends with
  | unsent | failed => cases told
  | @served retrieved ms agent statusCode body served =>
    rw [Endpoint.serve_marshal] at served
    obtain ⟨fine, read⟩ := clientTranslate_ok_iff.mp told
    split at served
    · next err refused =>
      cases served
      have error := translate_error refused
      omega
    · next resp made =>
      cases served
      rw [unmarshalResponse, unmarshalObject_responseBody] at read
      split at read
      · cases read
        rfl
      · cases read
  | cut text served => cases (clientTranslate_ok_iff.mp told).2
  | server data error =>
    have fine := (clientTranslate_ok_iff.mp told).1
    omega

/-- The columns and the first rows of a result, as the driver reads the proxy's reply. -/
def Shows (c : Console C O) (resp : QueryResp O) (result : Result) : Prop :=
  ∃ cur, c.driver (reply c.srv.wire result) = .ok cur ∧ resp.columns = cur.description ∧
    resp.rows = (cur.rows.take c.maxRows).map fun row => row.map (stringify c.texts)

/-- An answer without an error has come from a reply without one. -/
theorem runProxy_ok {w : World ε} {sql : String} {st : State ε C} {out : QueryResult O}
    (ran : (runProxy c w sql st).1 = .ok out) :
    (runProxy c w sql st).2 = (handleQuery c.srv w sql st).2 ∧
      ∃ r cur, (handleQuery c.srv w sql st).1 = .ok r ∧ c.driver (.ok r) = .ok cur ∧
        out = readCursor c.texts c.maxRows cur c.ms := by
  rw [runProxy, runMysql, proxyBackend] at ran
  rw [runProxy]
  cases connected : c.connect with
  | error err =>
    simp only [connected] at ran
    cases ran
  | ok u =>
    simp only [connected] at ran ⊢
    refine ⟨trivial, ?_⟩
    cases answered : (handleQuery c.srv w sql st).1 with
    | error err =>
      obtain ⟨text, raised⟩ := c.driver_error err
      simp only [answered, raised] at ran
      cases ran
    | ok r =>
      cases read : c.driver (.ok r) with
      | error err =>
        simp only [answered, read] at ran
        cases ran
      | ok cur =>
        simp only [answered, read] at ran
        cases ran
        exact ⟨r, cur, rfl, read, rfl⟩

/-- An answer of `/api/query` for the proxy, if it has no error. -/
theorem apiQuery_proxy {w : World ε} {req : QueryReq} {st st' : State ε C} {resp : QueryResp O}
    (proxied : src c req = "proxy") (answered : apiQuery c w req st = (.ok resp, st'))
    (fine : resp.error = none) :
    ∃ out, runProxy c w (statement req) st = (.ok out, st') ∧
      resp = queryResp (src c req) (translated c (statement req)) (.ok out) := by
  have not_mysql : src c req ≠ "mysql" := by rw [proxied]; decide
  have not_redshift : src c req ≠ "redshift" := by rw [proxied]; decide
  by_cases empty : (statement req).isEmpty = true
  · simp only [apiQuery, empty, if_true, Prod.mk.injEq, reduceCtorEq, false_and] at answered
  · simp only [apiQuery, if_neg empty, if_neg not_mysql, if_neg not_redshift, if_pos proxied,
      Prod.mk.injEq, Except.ok.injEq] at answered
    obtain ⟨rfl, rfl⟩ := answered
    cases ran : (runProxy c w (statement req) st).1 with
    | error err =>
      rw [ran] at fine
      cases fine
    | ok out => exact ⟨out, Prod.ext ran rfl, rfl⟩

/-- A plan that is shown for the proxy is the plan of the translation. -/
theorem apiExplain_proxy {req : QueryReq} {plan : ExplainResp} {shown : String} {ms : Option Int}
    (proxied : src c req = "proxy") (text : translated c (statement req) = (some shown, ms))
    (answered : apiExplain c req = .ok plan) (fine : plan.error = none) :
    plan.translatedSQL = some shown ∧
      explainRedshift c shown = .ok (plan.plan, plan.latencyMs) := by
  have not_mysql : src c req ≠ "mysql" := by rw [proxied]; decide
  have not_redshift : src c req ≠ "redshift" := by rw [proxied]; decide
  by_cases empty : (statement req).isEmpty = true
  · simp only [apiExplain, empty, if_true, reduceCtorEq] at answered
  · simp only [apiExplain, if_neg empty, if_neg not_mysql, if_neg not_redshift, if_pos proxied,
      text, Except.ok.injEq] at answered
    subst answered
    split at fine
    · cases fine
    · next some_text =>
      cases explained : explainRedshift c shown with
      | error err =>
        rw [explained] at fine
        cases fine
      | ok lines =>
        rw [if_neg some_text]
        exact ⟨rfl, rfl⟩

/-- A text wins with itself exactly if it runs. -/
theorem won_eq_iff {agent : TranslateRequest → Except String TranslateResponse}
    {redshift : String → Except String Result} {query shown won : String} {result : Result}
    {attempts : Int}
    (ends : Interleaving.firstEnds attempts agent redshift query shown = .ok (result, won)) :
    won = shown ↔ ∃ r, redshift shown = .ok r := by
  constructor
  · rintro rfl
    exact ⟨result, (Interleaving.firstEnds_ok ends).1⟩
  · rintro ⟨r, ran⟩
    unfold Interleaving.firstEnds at ends
    cases count : attempts.toNat with
    | zero => simp [count] at ends
    | succ left =>
      simp only [count, Interleaving.loopEnds_of_ok ran left, Except.ok.injEq,
        Prod.mk.injEq] at ends
      exact ends.2.symm

/-- The agent, as the client of the proxy reads its answers. -/
def Console.agent (c : Console C O) (lib : JsonLib) (req : TranslateRequest) :
    Except String TranslateResponse :=
  clientTranslate lib (c.exchange req)

/-- The console has answered a query for the proxy, after any queries that the proxy has served.
The rows are those of a text that Redshift has just run for the statement, and the translation
that is shown, by Explain too, is that text exactly if Redshift accepts it: a text that was
fixed is never the one that is shown. A statement that does not go to Redshift is shown with a
translation all the same, if the agent has one. -/
theorem shown_iff_accepted (c : Console C O) (e : Endpoint S) (lib : JsonLib)
    (ends : ∀ r, e.Ends r (c.exchange r)) (redshift : String → Except String Result × Int)
    {empty : C} {size : Int} (made : Cache.new c.srv.lru size = .ok empty) (queries : List String)
    (req : QueryReq) (proxied : src c req = "proxy")
    (alone : ∀ q ∈ queries, c.srv.key q = c.srv.key (statement req) → q = statement req)
    {st st' : State Unit C} {resp : QueryResp O}
    (served : (serve c.srv (.fixed (c.agent lib) redshift) queries
      { cache := empty, env := () }).2 = st)
    (answered : apiQuery c (.fixed (c.agent lib) redshift) req st = (.ok resp, st'))
    (fine : resp.error = none) :
    (c.srv.onRedshift (statement req) = false → st'.trace = st.trace ∧
      ∀ out, c.agent lib { sql := statement req } = .ok out →
        resp.translatedSQL = some out.redshiftSQL) ∧
    (c.srv.onRedshift (statement req) = true → ∃ shown won result,
      resp.translatedSQL = some shown ∧
      st'.trace.head? = some (.execSelect (statement req) won (.ok result)) ∧
      Shows c resp result ∧ (won = shown ↔ ∃ r, (redshift shown).1 = .ok r) ∧
      ∀ plan, apiExplain c req = .ok plan → plan.error = none →
        plan.translatedSQL = some shown ∧
          explainRedshift c shown = .ok (plan.plan, plan.latencyMs)) := by
  obtain ⟨out, ran, rfl⟩ := apiQuery_proxy proxied answered fine
  obtain ⟨state, r, cur, replied, read, rfl⟩ := runProxy_ok (congrArg Prod.fst ran)
  have after := (congrArg Prod.snd ran).symm.trans state
  dsimp only at after
  refine ⟨fun unrouted => ⟨?_, fun out told => ?_⟩, fun routed => ?_⟩
  · rw [after]
    exact (handleQuery_unrouted unrouted _ st).trace
  · exact congrArg Prod.fst (translated_of_ok (ends _) told)
  · have entries : Attributed c.srv (Leading c.srv (c.agent lib) redshift (statement req)) []
        ({ cache := empty, env := () } : State Unit C).cache := attributed_new made
    obtain ⟨seen, alone_seen, good⟩ := serve_leading entries alone
    rw [served] at good
    obtain ⟨won, result, wins, same, last⟩ := handleQuery_ran good alone_seen routed replied
    rw [Interleaving.aloneEnds] at wins
    split at wins
    · cases wins
    · next shown told =>
      have text := translated_of_ok (ends _) told
      refine ⟨shown.redshiftSQL, won, result, congrArg Prod.fst text, ?_, ?_, won_eq_iff wins, ?_⟩
      · rw [after]
        exact last
      · refine ⟨cur, ?_, rfl, readCursor_rows c.maxRows cur c.ms⟩
        rw [same]
        exact read
      · exact fun plan explained good => apiExplain_proxy proxied text explained good

/-! ## A translation that is fixed -/

/-- A translator whose first text has a misspelt column. -/
def misspells : Endpoint Nat where
  validators := exactTypes
  env := plainEnv
  model _ messages :=
    ([], .ok (if messages.length = 1 then "SELECT nam FROM t" else "SELECT name FROM t"))
  exampleItems _ := .null
  invalid _ := .null

/-- A fix is asked for in the conversation of the first request. -/
def misspellsFirst (req : TranslateRequest) : Exchange :=
  let conversation :=
    if req.prevError = "" then none else some ⟨systemPrompt, [⟨.user, "SELECT `name` FROM t"⟩]⟩
  let response := (misspells.serve (marshalTranslate req) [] 5 conversation).1
  .answered response.1 (.object response.2)

def onlyName (sql : String) : Except String Result × Int :=
  (if sql = "SELECT name FROM t" then .ok ⟨["name"], [[.str (ascii "Ann")]]⟩
    else .error "column \"nam\" does not exist", 7)

/-- The names and the cells of a result set, all of them bytes. -/
def readReply : Reply → Except String (Cursor Empty)
  | .error err => .error err.text
  | .ok r =>
    .ok (match r.resultset with
      | none => ⟨[], [], fun _ => rfl⟩
      | some rs =>
        if none_ : rs.fields = [] then ⟨[], [], fun _ => rfl⟩
        else ⟨rs.fields, rs.rows.map fun row => row.map fun cell => cell.elim .none .bytes,
          fun empty => absurd empty none_⟩)

def plainConsole : Console (ListLru String String) Empty where
  texts := plainTexts
  lower := id
  maxRows := 500
  aurora := answersOneTwo
  redshift := answersOneTwo
  connect := .ok ()
  driver := readReply
  driver_error err := ⟨err.text, rfl⟩
  exchange := misspellsFirst
  srv := defaultServer
  ms := 9

def selectName : QueryReq := ⟨"proxy", "SELECT `name` FROM t;"⟩

/-- The console shows the text with the misspelt column beside the rows of the other one. -/
theorem shown_iff_accepted_selectName :
    ∃ resp st' won result,
      apiQuery plainConsole (.fixed (plainConsole.agent plainLib) onlyName) selectName
        { cache := emptyCache, env := () } = (.ok resp, st') ∧
      resp.translatedSQL = some "SELECT nam FROM t" ∧
      st'.trace.head? = some (.execSelect (statement selectName) won (.ok result)) ∧
      won ≠ "SELECT nam FROM t" ∧ Shows plainConsole resp result := by
  have facts : (apiQuery plainConsole (.fixed (plainConsole.agent plainLib) onlyName) selectName
      { cache := emptyCache, env := () }).1.toOption.map (fun r => (r.error, r.translatedSQL)) =
      some (none, some "SELECT nam FROM t") := by
    decide +kernel
  rcases answered : apiQuery plainConsole (.fixed (plainConsole.agent plainLib) onlyName) selectName
      { cache := emptyCache, env := () } with ⟨err | resp, st'⟩
  · rw [answered] at facts
    cases facts
  · rw [answered] at facts
    obtain ⟨fine, text⟩ := Prod.mk.inj (Option.some.inj facts)
    have ends (r : TranslateRequest) : misspells.Ends r (plainConsole.exchange r) := .served rfl
    have routed : plainConsole.srv.onRedshift (statement selectName) = true := by decide +kernel
    obtain ⟨shown, won, result, shows, last, rows, iff, -⟩ :=
      (shown_iff_accepted plainConsole misspells plainLib ends onlyName new_defaultServer []
        selectName (by decide) (fun q member => by cases member) rfl answered fine).2 routed
    obtain rfl : shown = "SELECT nam FROM t" := Option.some.inj (shows.symm.trans text)
    refine ⟨resp, st', won, result, rfl, text, last, fun same => ?_, rows⟩
    obtain ⟨r, ran⟩ := iff.mp same
    cases ran

end MysqlRedshift.Webui
