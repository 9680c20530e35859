import MysqlRedshift.Agent.Answers
import MysqlRedshift.Agent.SaveRequest
import MysqlRedshift.Proxy.InterleavingProps

/-!
# Translations over the wire

`Translate` of `proxy/internal/convertor_client/client.go` and the endpoint `/translate` of
`agent/app.py`, with the bodies between them. The request leaves empty fields out, and the
endpoint takes what is left out for absent; of the answer the proxy reads four fields, and
takes one that is absent for empty. A body is the JSON object itself, as for save requests.
-/

namespace MysqlRedshift.Agent

open MysqlRedshift.Misc
open MysqlRedshift.Proxy (TranslateRequest TranslateResponse)

/-- The data of a response: a JSON object, or text that is no JSON, such as a part of one. -/
inductive Data where
  | object (body : Body)
  | other (text : String)

/-- What the libraries of JSON make of data: the text of an object, and the error of
`Unmarshal`. -/
structure JsonLib where
  dump : Body → String
  unmarshalError : Data → String

def Data.text (lib : JsonLib) : Data → String
  | .object body => lib.dump body
  | .other text => text

/-! ## The request -/

/-- `json.Marshal(req)`. -/
def marshalTranslate (req : TranslateRequest) : Body :=
  [("sql", .str req.sql)] ++
    omitEmpty req.prevError.isEmpty "prev_error" (.str req.prevError) ++
    omitEmpty req.prevSQL.isEmpty "prev_sql" (.str req.prevSQL)

/-- `Optional[str]`. -/
def strOrNone (v : Validators) : Json → Option (Option String)
  | .null => some none
  | value => (v.str value).map some

/-- The agent's `TranslateReq`; a body that is not valid is answered with 422. -/
def readTranslateReq (v : Validators) (body : Body) : Option TranslateReq := do
  let sql ← field body "sql" v.str none
  let prevError ← field body "prev_error" (strOrNone v) (some none)
  let prevSQL ← field body "prev_sql" (strOrNone v) (some none)
  return { sql, prevError, prevSQL }

/-! ## The response -/

section

variable {S : Type}

/-- The agent's side of the exchange: what it checks bodies with, how it translates, and how
it writes the examples of an answer and the error of a body that is not valid. -/
structure Endpoint (S : Type) where
  validators : Validators
  env : TranslateEnv S
  model : Model
  exampleItems : List (S × String) → Json
  invalid : Body → Json

/-- A `TranslateResp`, written out. -/
def responseBody (e : Endpoint S) (resp : TranslateResp S) : Body :=
  [("redshift_sql", .str resp.redshiftSQL), ("used_rules", .arr (resp.usedRules.map .str)),
    ("latency_ms", .num resp.latencyMs), ("attempt", .str resp.attempt),
    ("examples_hit", .num resp.examplesHit), ("examples", e.exampleItems resp.examples)]

/-- The endpoint: status and body of the response, and the value of `_agent` after it. -/
def Endpoint.serve (e : Endpoint S) (body : Body) (retrieved : List (Knowledge.Example S))
    (ms : Int) (agent : Option StrandsAgent) : (Nat × Body) × Option StrandsAgent :=
  match readTranslateReq e.validators body with
  | none => ((422, [("detail", e.invalid body)]), agent)
  | some req =>
    match translate e.env e.model req retrieved ms agent with
    | (.error err, agent) => ((err.statusCode, [("detail", .str err.detail)]), agent)
    | (.ok resp, agent) => ((200, responseBody e resp), agent)

/-- A field of a Go structure: absent and `null` leave it as it was. -/
def goField {α : Type} (body : Body) (name : String) (zero : α) (decode : Json → Option α) :
    Option α :=
  match body.lookup name with
  | none => some zero
  | some .null => some zero
  | some value => decode value

/-- A Go string. -/
def goString : Json → Option String
  | .str s => some s
  | _ => none

/-- The values of a Go `int`. -/
def IsGoInt (n : Int) : Prop := -9223372036854775808 ≤ n ∧ n < 9223372036854775808

instance (n : Int) : Decidable (IsGoInt n) := inferInstanceAs (Decidable (_ ∧ _))

def goInt : Json → Option Int
  | .num n => if IsGoInt n then some n else none
  | _ => none

/-- A Go `[]string`; `null` in it is an empty string. -/
def goStrings : Json → Option (List String)
  | .arr items => items.mapM fun
    | .null => some ""
    | item => goString item
  | _ => none

/-- `json.Unmarshal(data, &out)`, of an object. -/
def unmarshalObject (body : Body) : Option TranslateResponse := do
  let redshiftSQL ← goField body "redshift_sql" "" goString
  let usedRules ← goField body "used_rules" [] goStrings
  let latencyMs ← goField body "latency_ms" 0 goInt
  let attempt ← goField body "attempt" "" goString
  return { redshiftSQL, usedRules, latencyMs, attempt }

/-- `json.Unmarshal(data, &out)`. -/
def unmarshalResponse : Data → Option TranslateResponse
  | .object body => unmarshalObject body
  | .other _ => none

/-- How an exchange ends for the client: there is no request, or `Do` fails, or there is a
response, with the data that could be read of it. -/
inductive Exchange where
  | unsent (err : String)
  | failed (err : String)
  | answered (statusCode : Nat) (data : Data)

/-- `Translate`, for the end of its exchange. -/
def clientTranslate (lib : JsonLib) : Exchange → Except String TranslateResponse
  | .unsent err => .error err
  | .failed err => .error ("http call failed: " ++ err)
  | .answered statusCode data =>
    if 400 ≤ statusCode then
      .error ("agent returned " ++ toString statusCode ++ ": " ++ data.text lib)
    else
      match unmarshalResponse data with
      | none =>
        .error ("decode agent response: " ++ lib.unmarshalError data ++ "; body=" ++ data.text lib)
      | some out => .ok out

/-- What can come of a request: nothing; what the endpoint answers, in whatever state it is,
whole or cut off; or an error of the server around the endpoint. -/
inductive Endpoint.Ends (e : Endpoint S) (req : TranslateRequest) : Exchange → Prop where
  | unsent (err : String) : e.Ends req (.unsent err)
  | failed (err : String) : e.Ends req (.failed err)
  | served {retrieved ms agent statusCode body}
      (served : (e.serve (marshalTranslate req) retrieved ms agent).1 = (statusCode, body)) :
      e.Ends req (.answered statusCode (.object body))
  | cut {retrieved ms agent statusCode body} (text : String)
      (served : (e.serve (marshalTranslate req) retrieved ms agent).1 = (statusCode, body)) :
      e.Ends req (.answered statusCode (.other text))
  | server {statusCode : Nat} (data : Data) (error : 400 ≤ statusCode) :
      e.Ends req (.answered statusCode data)

/-- An answer that the proxy gets to a request. -/
def Endpoint.Answers (e : Endpoint S) (lib : JsonLib) (req : TranslateRequest)
    (answer : Except String TranslateResponse) : Prop :=
  ∃ x, e.Ends req x ∧ answer = clientTranslate lib x

end

/-! ## There and back -/

/-- An empty text is no text. -/
def ofEmpty (s : String) : Option String := if s.isEmpty then none else some s

theorem given_ofEmpty (s : String) : given (ofEmpty s) = !s.isEmpty := by
  cases empty : s.isEmpty <;> simp [given, ofEmpty, empty]

/-- What the endpoint reads in the body of a request. -/
def asked (req : TranslateRequest) : TranslateReq :=
  { sql := req.sql, prevError := ofEmpty req.prevError, prevSQL := ofEmpty req.prevSQL }

theorem readTranslateReq_marshal (v : Validators) (req : TranslateRequest) :
    readTranslateReq v (marshalTranslate req) = some (asked req) := by
  have prevError : (marshalTranslate req).lookup "prev_error" =
      if req.prevError.isEmpty = false then some (.str req.prevError) else none := by
    simp [marshalTranslate, List.lookup_append, List.lookup_cons, lookup_omitEmpty]
  have prevSQL : (marshalTranslate req).lookup "prev_sql" =
      if req.prevSQL.isEmpty = false then some (.str req.prevSQL) else none := by
    simp [marshalTranslate, List.lookup_append, List.lookup_cons, lookup_omitEmpty]
  have text (s : String) : (if s.isEmpty = true then some none else strOrNone v (.str s)) =
      some (ofEmpty s) := by
    cases empty : s.isEmpty <;> simp [ofEmpty, strOrNone, v.str_str, empty]
  have sql : field (marshalTranslate req) "sql" v.str none = some req.sql := by
    simp [field, marshalTranslate, v.str_str]
  simp only [readTranslateReq, sql, field_of_lookup prevError, field_of_lookup prevSQL, text]
  rfl

theorem mapM_goStrings (rules : List String) : goStrings (.arr (rules.map .str)) = some rules := by
  show (rules.map Json.str).mapM _ = some rules
  induction rules with
  | nil => rfl
  | cons rule rules ih => rw [List.map_cons, List.mapM_cons, ih]; rfl

variable {S : Type} {e : Endpoint S}

/-- The four fields are read as they are written, if the latency is an `int`. -/
theorem unmarshalObject_responseBody (e : Endpoint S) (resp : TranslateResp S) :
    unmarshalObject (responseBody e resp) =
      if IsGoInt resp.latencyMs then
        some ⟨resp.redshiftSQL, resp.usedRules, resp.latencyMs, resp.attempt⟩
      else none := by
  have rules : goField (responseBody e resp) "used_rules" [] goStrings = some resp.usedRules :=
    mapM_goStrings resp.usedRules
  have sql : goField (responseBody e resp) "redshift_sql" "" goString = some resp.redshiftSQL := rfl
  have attempt : goField (responseBody e resp) "attempt" "" goString = some resp.attempt := rfl
  have latency : goField (responseBody e resp) "latency_ms" 0 goInt = goInt (.num resp.latencyMs) :=
    rfl
  simp only [unmarshalObject, rules, sql, attempt, latency, goInt]
  split <;> rfl

/-- What `translate` answers is the extracted SQL of a text, which is no refusal. -/
theorem translate_ok {env : TranslateEnv S} {model : Model} {req : TranslateReq}
    {retrieved : List (Knowledge.Example S)} {ms : Int} {agent : Option StrandsAgent}
    {resp : TranslateResp S} (ok : (translate env model req retrieved ms agent).1 = .ok resp) :
    (∃ text, resp.redshiftSQL = extractSQL env.db text) ∧
      isUntranslatable env.db resp.redshiftSQL = false ∧ resp.attempt = req.attempt ∧
      resp.latencyMs = ms := by
  unfold translate at ok
  generalize (getAgent agent).call model (userMsg env req retrieved) = called at ok
  obtain ⟨result, after⟩ := called
  cases result with
  | error err => cases ok
  | ok text =>
    dsimp only at ok
    split at ok
    · cases ok
    · next passed =>
      have shape : resp.redshiftSQL = extractSQL env.db (pyStrip text) ∧
          resp.attempt = req.attempt ∧ resp.latencyMs = ms := by
        simp only [← Except.ok.inj ok, and_self]
      exact ⟨⟨_, shape.1⟩, by rw [shape.1]; exact Bool.eq_false_iff.mpr passed, shape.2⟩

/-- A refusal and a failure of the agent are errors of the server. -/
theorem translate_error {env : TranslateEnv S} {model : Model} {req : TranslateReq}
    {retrieved : List (Knowledge.Example S)} {ms : Int} {agent : Option StrandsAgent}
    {err : HTTPException} (error : (translate env model req retrieved ms agent).1 = .error err) :
    400 ≤ err.statusCode := by
  unfold translate at error
  generalize (getAgent agent).call model (userMsg env req retrieved) = called at error
  obtain ⟨result, after⟩ := called
  cases result with
  | error message =>
    rw [← Except.error.inj error]
    show 400 ≤ 500
    decide
  | ok text =>
    dsimp only at error
    split at error
    · rw [← Except.error.inj error]
      show 400 ≤ 422
      decide
    · cases error

theorem clientTranslate_ok_iff {lib : JsonLib} {statusCode : Nat} {data : Data}
    {out : TranslateResponse} :
    clientTranslate lib (.answered statusCode data) = .ok out ↔
      statusCode < 400 ∧ unmarshalResponse data = some out := by
  simp only [clientTranslate]
  by_cases error : 400 ≤ statusCode
  · simp [error, Nat.not_lt.mpr error]
  · rw [if_neg error, and_iff_right (Nat.lt_of_not_le error)]
    cases unmarshalResponse data with
    | none => simp
    | some out' => simp

theorem clientTranslate_unread (lib : JsonLib) {statusCode : Nat} {data : Data}
    (fine : statusCode < 400) (unread : unmarshalResponse data = none) :
    clientTranslate lib (.answered statusCode data) =
      .error ("decode agent response: " ++ lib.unmarshalError data ++ "; body=" ++
        data.text lib) := by
  rw [clientTranslate, if_neg (Nat.not_le.mpr fine), unread]

/-- What the endpoint answers to a request of the proxy. -/
theorem Endpoint.serve_marshal (e : Endpoint S) (req : TranslateRequest)
    (retrieved : List (Knowledge.Example S)) (ms : Int) (agent : Option StrandsAgent) :
    (e.serve (marshalTranslate req) retrieved ms agent).1 =
      match (translate e.env e.model (asked req) retrieved ms agent).1 with
      | .error err => (err.statusCode, [("detail", .str err.detail)])
      | .ok resp => (200, responseBody e resp) := by
  simp only [Endpoint.serve, readTranslateReq_marshal]
  rcases translate e.env e.model (asked req) retrieved ms agent with ⟨_ | resp, after⟩ <;> rfl

/-- An answer to the proxy has come from `translate`, for what the endpoint read in the
request, and its fields are those of the proxy's response. -/
theorem Endpoint.Answers.translated {lib : JsonLib} {req : TranslateRequest}
    {out : TranslateResponse} (answers : e.Answers lib req (.ok out)) :
    ∃ retrieved ms agent, ∃ resp : TranslateResp S,
      (translate e.env e.model (asked req) retrieved ms agent).1 = .ok resp ∧
        out = ⟨resp.redshiftSQL, resp.usedRules, resp.latencyMs, resp.attempt⟩ := by
  obtain ⟨x, ends, answer⟩ := answers
  cases ends with
  | unsent | failed => cases answer
  | server data error =>
    exact absurd (clientTranslate_ok_iff.mp answer.symm).1 (Nat.not_lt.mpr error)
  | cut text served => cases (clientTranslate_ok_iff.mp answer.symm).2
  | @served retrieved ms agent statusCode body served =>
    obtain ⟨fine, read⟩ := clientTranslate_ok_iff.mp answer.symm
    rw [Endpoint.serve_marshal] at served
    refine ⟨retrieved, ms, agent, ?_⟩
    cases result : (translate e.env e.model (asked req) retrieved ms agent).1 with
    | error err =>
      rw [result] at served
      obtain ⟨rfl, -⟩ := Prod.mk.inj served
      exact absurd fine (Nat.not_lt.mpr (translate_error result))
    | ok resp =>
      rw [result] at served
      cases served
      rw [unmarshalResponse, unmarshalObject_responseBody] at read
      split at read
      · exact ⟨resp, rfl, (Option.some.inj read).symm⟩
      · cases read

/-- What the proxy gets of a whole response: the answer of `translate`, or an error with its
status and detail. -/
theorem clientTranslate_serve (e : Endpoint S) (lib : JsonLib) (req : TranslateRequest)
    (retrieved : List (Knowledge.Example S)) (ms : Int) (agent : Option StrandsAgent) :
    let response := (e.serve (marshalTranslate req) retrieved ms agent).1
    clientTranslate lib (.answered response.1 (.object response.2)) =
      match (translate e.env e.model (asked req) retrieved ms agent).1 with
      | .error err =>
        .error ("agent returned " ++ toString err.statusCode ++ ": " ++
          lib.dump [("detail", .str err.detail)])
      | .ok resp =>
        if IsGoInt resp.latencyMs then
          .ok ⟨resp.redshiftSQL, resp.usedRules, resp.latencyMs, resp.attempt⟩
        else
          .error ("decode agent response: " ++
            lib.unmarshalError (.object (responseBody e resp)) ++ "; body=" ++
            lib.dump (responseBody e resp)) := by
  dsimp only
  rw [Endpoint.serve_marshal]
  cases result : (translate e.env e.model (asked req) retrieved ms agent).1 with
  | error err => exact if_pos (translate_error result)
  | ok resp =>
    have read := unmarshalObject_responseBody e resp
    by_cases fits : IsGoInt resp.latencyMs
    · rw [if_pos fits] at read
      have fine : clientTranslate lib (.answered 200 (.object (responseBody e resp))) = .ok _ :=
        clientTranslate_ok_iff.mpr ⟨by decide, read⟩
      exact fine.trans (if_pos fits).symm
    · rw [if_neg fits] at read
      have unread := clientTranslate_unread lib (show 200 < 400 by decide)
        (show unmarshalResponse (.object (responseBody e resp)) = none from read)
      exact unread.trans (if_neg fits).symm

/-! ## In a run of the proxy -/

/-- A text as `translate` answers it: nothing around it, and no refusal. -/
def Passed (db : UnicodeDb) (text : String) : Prop :=
  pyStrip text = text ∧ isUntranslatable db text = false

/-- What `extract_sql` returns has no white space around it. -/
theorem pyStrip_extractSQL (db : UnicodeDb) (text : String) :
    pyStrip (extractSQL db text) = extractSQL db text := by
  have idem (s : String) : pyStrip (pyStrip s) = pyStrip s := by
    apply String.toList_inj.mp
    rw [toList_pyStrip, toList_pyStrip, trimBoth_idem]
  by_cases marked : Marked db (stripCodeFence db text).toList
  · rw [extractSQL_of_marked marked, stripCodeFence, idem]
  · rw [extractSQL_of_not_marked marked, idem]

theorem Endpoint.Answers.passed {lib : JsonLib} {req : TranslateRequest} {out : TranslateResponse}
    (answers : e.Answers lib req (.ok out)) : Passed e.env.db out.redshiftSQL := by
  obtain ⟨retrieved, ms, agent, resp, ok, rfl⟩ := answers.translated
  obtain ⟨⟨text, extracted⟩, unmarked, -⟩ := translate_ok ok
  exact ⟨by rw [extracted, pyStrip_extractSQL], unmarked⟩

theorem ne_empty_iff (s : String) : (!s.isEmpty) = true ↔ s ≠ "" := by
  simp

/-- A request is one for a fix to the endpoint if it brings an error and a text. -/
theorem Endpoint.Answers.attempt {lib : JsonLib} {req : TranslateRequest} {out : TranslateResponse}
    (answers : e.Answers lib req (.ok out)) :
    out.attempt = if req.prevError ≠ "" ∧ req.prevSQL ≠ "" then "fix" else "initial" := by
  obtain ⟨retrieved, ms, agent, resp, ok, rfl⟩ := answers.translated
  obtain ⟨-, -, attempt, -⟩ := translate_ok ok
  rw [attempt]
  simp only [TranslateReq.attempt, asked, given_ofEmpty, Bool.and_eq_true, ne_empty_iff]

open Proxy.Interleaving in
/-- In every interleaving of the proxy's calls whose answers come from the endpoint, no
refusal and no text with white space around it is cached, held by a call or sent to Redshift;
and a request that was answered was handled as one for a fix exactly if its error and the text
that failed were not empty. -/
theorem refusals_stay_out {K : Type} [DecidableEq K] (key : String → K) (maxAttempts : Nat)
    (e : Endpoint S) (lib : JsonLib) (acts : List (Action K)) (s : Sys K)
    (reached : (machine key maxAttempts).run start acts = some s)
    (wired : ∀ req answer, .translate req answer ∈ s.trace → e.Answers lib req answer) :
    (∀ k text, s.cache k = some text → Passed e.env.db text) ∧
      (∀ i c, s.calls i = some c → ∀ text ∈ c.pc.texts, Passed e.env.db text) ∧
      (∀ query text outcome, .execSelect query text outcome ∈ s.trace → Passed e.env.db text) ∧
      ∀ req out, .translate req (.ok out) ∈ s.trace →
        out.attempt = if req.prevError ≠ "" ∧ req.prevSQL ≠ "" then "fix" else "initial" := by
  have keyed : Keyed key s :=
    Machine.run_induction (fun _ _ _ keyed h => keyed.step h) keyed_start reached
  have passed {k : K} {text : String} (returned : ReturnedAt key s.trace k text) :
      Passed e.env.db text := by
    obtain ⟨query, -, req, resp, answered, -, rfl⟩ := returned
    exact (wired req _ answered).passed
  exact ⟨fun k text held => passed (keyed.cache k text held),
    fun i c live text held => passed (keyed.calls i c live text held),
    fun query text outcome ran => passed (keyed.executed query text outcome ran),
    fun req out answered => (wired req _ answered).attempt⟩

/-- A translator that says the same to everything, over the wire. -/
def plainEndpoint (text : String) : Endpoint Nat :=
  ⟨exactTypes, plainEnv, saying text, fun _ => .null, fun _ => .null⟩

def plainLib : JsonLib := ⟨fun _ => "", fun _ => ""⟩

theorem plainEndpoint_answers (text : String) (req : TranslateRequest)
    (unmarked : isUntranslatable .ascii (extractSQL .ascii text) = false) :
    ∃ out, (plainEndpoint text).Answers plainLib req (.ok out) ∧
      out.redshiftSQL = extractSQL .ascii text := by
  have said : ((getAgent none).call (saying text) (userMsg plainEnv (asked req) [])).1 = .ok text :=
    said_saying
  obtain ⟨resp, extracted, answered⟩ := translate_of_said 5 said
  rw [if_neg (by rw [show plainEnv.db = .ascii from rfl, unmarked]; decide)] at answered
  have fits : IsGoInt resp.latencyMs := by
    rw [(translate_ok answered).2.2.2]
    decide
  refine ⟨⟨resp.redshiftSQL, resp.usedRules, resp.latencyMs, resp.attempt⟩,
    ⟨_, @Endpoint.Ends.served _ _ _ [] 5 none _ _ rfl, ?_⟩, extracted⟩
  have whole := clientTranslate_serve (plainEndpoint text) plainLib req [] 5 none
  have translated : (translate (plainEndpoint text).env (plainEndpoint text).model (asked req) []
    5 none).1 = .ok resp := answered
  rw [translated] at whole
  exact (whole.trans (if_pos fits)).symm

open Proxy.Interleaving in
/-- Two calls, of which one gets an answer. -/
def oneAnswer (out : TranslateResponse) : List (Action String) :=
  [.arrive 0 "SELECT a", .arrive 1 "SELECT b", .call 0 .get, .call 1 .get,
    .call 0 (.translate (.ok out)), .call 1 (.translate (.error "http call failed: timeout")),
    .call 0 .set]

open Proxy.Interleaving in
theorem refusals_stay_out_oneAnswer :
    ∃ out s, (machine id 3).run start (oneAnswer out) = some s ∧
      s.cache "SELECT a" = some "SELECT 1" ∧
      ∀ k text, s.cache k = some text → Passed .ascii text := by
  obtain ⟨out, answered, sql⟩ :=
    plainEndpoint_answers "SELECT 1;" { sql := "SELECT a" } (by decide)
  have run := (rfl : (machine id 3).run start (oneAnswer out) = some _)
  refine ⟨out, _, run, ?_, ?_⟩
  · rw [show extractSQL .ascii "SELECT 1;" = "SELECT 1" by decide] at sql
    exact congrArg some sql
  · refine (refusals_stay_out id 3 (plainEndpoint "SELECT 1;") plainLib _ _ run ?_).1
    intro req answer exchanged
    rcases List.mem_cons.mp exchanged with same | exchanged
    · cases same
      exact ⟨.failed "timeout", .failed "timeout", rfl⟩
    · cases List.mem_singleton.mp exchanged
      exact answered

end MysqlRedshift.Agent
