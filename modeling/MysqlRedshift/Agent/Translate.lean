import MysqlRedshift.Agent.Knowledge
import MysqlRedshift.Agent.References

/-!
# The translator

`agent/app.py` up to `translate`: the prompt, the one `Agent` object of the process,
and what is taken for SQL in its answer. The agent keeps the messages of its calls
and sends them along with the next one; what the model makes of them, tool calls
included, is a function of what is sent. What `retrieve_similar` answers to a request
comes with the request; logging is left out.
-/

namespace MysqlRedshift.Agent

open MysqlRedshift.Misc

/-- `TranslateReq`; an optional field is `none` if it is not sent. -/
structure TranslateReq where
  sql : String
  prevError : Option String := none
  prevSQL : Option String := none
  deriving DecidableEq, Repr

/-- `TranslateResp`. -/
structure TranslateResp (S : Type) where
  redshiftSQL : String
  usedRules : List String
  latencyMs : Int
  attempt : String
  examplesHit : Nat := 0
  examples : List (S × String) := []
  deriving DecidableEq, Repr

structure HTTPException where
  statusCode : Nat
  detail : String
  deriving DecidableEq, Repr

/-- What the translator is configured with. -/
structure TranslateEnv (S : Type) where
  db : UnicodeDb
  files : RuleFiles
  twoPlaces : S → String

/-! ## The answer's SQL -/

section

variable (db : UnicodeDb)

def fence : Regex := keyword db "```"

/-- "```(?:sql)?\s*\n". -/
def fenceOpen : Regex :=
  .all [fence db, .opt (keyword db "sql"), blanks, .cls fun c => c == '\n']

/-- `CLEAN_PATTERNS`. -/
def cleanPatterns : List Regex :=
  [.all [.atStart, fenceOpen db],
    .all [.opt (.cls fun c => c == '\n'), fence db, blanks, .atEnd]]

def stripCodeFence (text : String) : String :=
  pyStrip ((cleanPatterns db).foldl (fun t p => p.replaceAll "" t) (pyStrip text))

/-- `_SQL_START`. -/
def sqlStart : Regex :=
  .all [boundary db,
    .oneOf
      (["WITH", "SELECT", "INSERT", "UPDATE", "DELETE", "CREATE", "DROP", "ALTER", "TRUNCATE",
        "SHOW", "EXPLAIN", "BEGIN", "COMMIT", "COPY", "UNLOAD"].map (keyword db)),
    boundary db]

/-- The inside of a fence anywhere in the text: group 1 of the search for it. -/
def insideFence (t : String) : Option String :=
  let closed := Regex.all [fenceOpen db, .group 1 (.starLazy (.cls fun _ => true)), fence db]
  match closed.search t with
  | none => none
  | some (_, finish) => (finish.groups.lookup 1).map String.ofList

/-- The text from the first keyword of SQL on, if there is one. -/
def fromSQLStart (t : String) : String :=
  match (sqlStart db).search t with
  | none => t
  | some (start, _) => pyStrip (String.ofList start.after)

def isUntranslatable (t : String) : Bool := hasPrefix (pyUpper db t) "-- UNTRANSLATABLE"

def extractSQL (text : String) : String :=
  let t := stripCodeFence db text
  if isUntranslatable db t then t
  else
    let t := ((insideFence db t).map pyStrip).getD t
    let t := fromSQLStart db t
    pyStrip (pyRstripChars (pyRstrip t) ";")

end

example : extractSQL .ascii "Here it is:\n```sql\nSELECT 1;\n```\nDone." = "SELECT 1" := by decide

/-! ## The agent -/

inductive Role where
  | user
  | assistant
  deriving DecidableEq, Repr

structure Message where
  role : Role
  content : String
  deriving DecidableEq, Repr

/-- The system prompt and the conversation so far. -/
structure StrandsAgent where
  systemPrompt : String
  messages : List Message
  deriving DecidableEq, Repr

/-- The model behind the agent: for what it is sent, the messages that the agent's loop
adds, and the text of its result or an exception. -/
abbrev Model := String → List Message → List Message × Except String String

/-- What the model is sent for a prompt. -/
def StrandsAgent.delivery (agent : StrandsAgent) (prompt : String) : List Message :=
  agent.messages ++ [⟨.user, prompt⟩]

/-- `agent(prompt)`. -/
def StrandsAgent.call (model : Model) (agent : StrandsAgent) (prompt : String) :
    Except String String × StrandsAgent :=
  let delivered := agent.delivery prompt
  let (added, result) := model agent.systemPrompt delivered
  (result, { agent with messages := delivered ++ added })

/-- `SYSTEM_PROMPT`. -/
def systemPrompt : String :=
  "你是一个 MySQL → Redshift SQL 方言翻译器。\n\n" ++
  "职责：把输入的 MySQL SQL 翻译成**语义等价**的 Redshift SQL，以便在 Redshift 上执行并返回和 MySQL 一致的结果集。\n\n" ++
  "硬性要求（严格遵守）：\n" ++
  "1. 输出必须是**单条可执行的 Redshift SQL**，**只能包含 SQL 本身**——\n" ++
  "   不要任何解释、前缀、后缀、Markdown 围栏、思考过程、\"Here is\"/\"当然\"/\"分析一下\"之类语句。\n" ++
  "   调用 tool 之后**也不要**写解释，直接给最终 SQL。\n" ++
  "2. 不能改变原始 SQL 的语义（列、条件、过滤、排序、limit 都要一一对应）\n" ++
  "3. 不要对数据做聚合/过滤/截断等\"优化\"——翻译，不重写\n" ++
  "4. 若 SQL 含不可翻译的 MySQL 特性（比如 `ON DUPLICATE KEY`），返回单行文本：\n" ++
  "   `-- UNTRANSLATABLE: <原因>`\n" ++
  "5. 失败修正时：Redshift timeout / context deadline 等性能错误**不是语法错误**，\n" ++
  "   原样返回之前的 SQL 即可，**不要**加 CAST 或 index hint \"优化\"。\n\n" ++
  "关键差异须知：\n" ++
  "- 表名去掉 `dw.` 前缀（Redshift 表在默认 schema `public` 下）\n" ++
  "- 反引号 → 双引号（仅标识符；字符串仍用单引号）\n" ++
  "- `LIMIT a, b` → `LIMIT b OFFSET a`\n" ++
  "- `IFNULL(x, y)` → `COALESCE(x, y)`\n" ++
  "- `GROUP_CONCAT(col)` → `LISTAGG(col, ',') WITHIN GROUP (ORDER BY col)`\n" ++
  "- `DATE_FORMAT(d, '%Y-%m-%d')` → `TO_CHAR(d, 'YYYY-MM-DD')`\n\n" ++
  "如果碰到没见过的函数或语法，调用 `lookup_dialect_rule` 工具查规则文档。\n" ++
  "如果需要知道表的列类型，调用 `get_table_schema` 工具。\n\n" ++
  "失败修正场景：\n" ++
  "- 当用户消息里同时给出 `prev_sql`（上一次你翻译的 Redshift SQL）和 `prev_error`（Redshift 返回的错误）时，\n" ++
  "  你的任务是**据错误修正 SQL**，输出一条新的可执行 SQL。\n"

/-- `get_agent`, for the value of `_agent`. -/
def getAgent : Option StrandsAgent → StrandsAgent
  | some agent => agent
  | none => ⟨systemPrompt, []⟩

/-! ## `translate` -/

/-- Python's truth of an optional text. -/
def given (s : Option String) : Bool := s.any fun t => !t.isEmpty

/-- The examples that a request is translated with, of those retrieved for it. -/
def TranslateReq.examples {S : Type} (req : TranslateReq)
    (retrieved : List (Knowledge.Example S)) : List (Knowledge.Example S) :=
  if given req.prevError then [] else retrieved

def TranslateReq.attempt (req : TranslateReq) : String :=
  if given req.prevError && given req.prevSQL then "fix" else "initial"

variable {S : Type}

/-- `user_msg`. -/
def userMsg (env : TranslateEnv S) (req : TranslateReq) (retrieved : List (Knowledge.Example S)) :
    String :=
  let sql := pyRstripChars (pyStrip req.sql) ";"
  let usedRules := matchReferences env.db sql
  let rulesBlob := if usedRules.isEmpty then "" else lookupDialectRule env.db env.files sql
  let examplesBlob := Knowledge.formatExamplesForPrompt env.twoPlaces (req.examples retrieved)
  if given req.prevError && given req.prevSQL then
    "The previous translation failed on Redshift.\n\nORIGINAL MySQL SQL:\n" ++ sql ++
      "\n\nPREVIOUS Redshift SQL (broken):\n" ++ req.prevSQL.getD "" ++
      "\n\nREDSHIFT ERROR:\n" ++ req.prevError.getD "" ++ "\n\n" ++ rulesBlob ++
      "\n\nPlease fix the Redshift SQL. Output only the corrected SQL."
  else
    "Translate the following MySQL SQL into Redshift SQL.\n\nMySQL SQL:\n" ++ sql ++ "\n\n" ++
      rulesBlob ++ "\n\n" ++ examplesBlob ++
      "\n\nOutput only the Redshift SQL (no explanation, no code fence)."

/-- `translate`, for the examples retrieved for the request, the milliseconds that it
takes, and the value of `_agent` before it. -/
def translate (env : TranslateEnv S) (model : Model) (req : TranslateReq)
    (retrieved : List (Knowledge.Example S)) (ms : Int) (agent : Option StrandsAgent) :
    Except HTTPException (TranslateResp S) × Option StrandsAgent :=
  let (result, agent) := (getAgent agent).call model (userMsg env req retrieved)
  let answer :=
    match result with
    | .error err => .error ⟨500, "agent error: " ++ err⟩
    | .ok text =>
      let redshiftSQL := extractSQL env.db (pyStrip text)
      if isUntranslatable env.db redshiftSQL then .error ⟨422, redshiftSQL⟩
      else
        let examples := req.examples retrieved
        .ok
          { redshiftSQL
            usedRules := matchReferences env.db (pyRstripChars (pyStrip req.sql) ";")
            latencyMs := ms
            attempt := req.attempt
            examplesHit := examples.length
            examples := examples.map fun e => (e.similarity, pyTake e.mysqlSQL 200) }
  (answer, some agent)

end MysqlRedshift.Agent
