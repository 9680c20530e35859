import MysqlRedshift.Agent.Labels
import MysqlRedshift.Misc.Utf8

/-!
# Save requests between the proxy and the agent

The body of `POST /save_example`: written by `encoding/json` from the `SaveReq` of
`proxy/internal/knowledge/client.go`, and read as the model `SaveReq` of `agent/app.py`.
A body is the JSON object itself, as its fields; that both libraries write and read the
same notation for it is taken for granted. Strings of the proxy are bytes, and JSON has
text only. What the proxy leaves out when it is empty has defaults at the agent, and these
are not the empty values; so the two agree exactly where nothing is left out that has one.
-/

namespace MysqlRedshift.Agent

open MysqlRedshift.Misc Knowledge

/-- A value in a body. -/
inductive Json where
  | null
  | bool (b : Bool)
  | num (n : Int)
  | str (s : String)
  | arr (items : List Json)

/-- A JSON object: its fields, by name. -/
abbrev Body := List (String × Json)

/-! ## The proxy's end -/

/-- The proxy's `SaveReq`, with its strings as bytes. -/
structure SaveReq where
  mysqlSQL : List UInt8
  redshiftSQL : List UInt8
  usedRules : List (List UInt8)
  rowCount : Int
  mysqlMs : Int
  redshiftMs : Int
  compareMode : List UInt8
  source : List UInt8
  deriving DecidableEq, Repr

/-- A string as `encoding/json` writes it. -/
def jsonString (s : List UInt8) : Json := .str (Utf8.decode s)

/-- A field with the option `omitempty`. -/
def omitEmpty (empty : Bool) (name : String) (v : Json) : Body := if empty then [] else [(name, v)]

/-- `json.Marshal(req)`. -/
def marshal (req : SaveReq) : Body :=
  [("mysql_sql", jsonString req.mysqlSQL), ("redshift_sql", jsonString req.redshiftSQL)] ++
    omitEmpty req.usedRules.isEmpty "used_rules" (.arr (req.usedRules.map jsonString)) ++
    omitEmpty (req.rowCount == 0) "row_count" (.num req.rowCount) ++
    omitEmpty (req.mysqlMs == 0) "mysql_ms" (.num req.mysqlMs) ++
    omitEmpty (req.redshiftMs == 0) "redshift_ms" (.num req.redshiftMs) ++
    omitEmpty req.compareMode.isEmpty "compare_mode" (jsonString req.compareMode) ++
    omitEmpty req.source.isEmpty "source" (jsonString req.source)

/-! ## The agent's end -/

/-- Pydantic's validators of `str` and `int`; they may take more than values of their type. -/
structure Validators where
  str : Json → Option String
  int : Json → Option Int
  str_str : ∀ s, str (.str s) = some s
  int_num : ∀ n, int (.num n) = some n

namespace Validators

variable (v : Validators)

/-- `list[str]`. -/
def strList : Json → Option (List String)
  | .arr items => items.mapM v.str
  | _ => none

/-- `int | None`. -/
def intOrNone : Json → Option (Option Int)
  | .null => some none
  | value => (v.int value).map some

end Validators

/-- A field of a model: its value, or else its default, if it has one. -/
def field {α : Type} (body : Body) (name : String) (validate : Json → Option α)
    (default : Option α) : Option α :=
  match body.lookup name with
  | some value => validate value
  | none => default

/-- The agent's `SaveReq`, whose fields are the arguments of `save_example`; a body that is
not valid is answered with 422. -/
def readSaveReq (v : Validators) (body : Body) : Option SaveArgs := do
  let mysqlSQL ← field body "mysql_sql" v.str none
  let redshiftSQL ← field body "redshift_sql" v.str none
  let usedRules ← field body "used_rules" v.strList (some [])
  let rowCount ← field body "row_count" v.intOrNone (some none)
  let mysqlMs ← field body "mysql_ms" v.intOrNone (some none)
  let redshiftMs ← field body "redshift_ms" v.intOrNone (some none)
  let compareMode ← field body "compare_mode" v.str (some "strict")
  let source ← field body "source" v.str (some "runtime")
  return { mysqlSQL, redshiftSQL, usedRules, rowCount, mysqlMs, redshiftMs, compareMode, source }

/-! ## What is read -/

theorem lookup_omitEmpty (empty : Bool) (name k : String) (v : Json) :
    (omitEmpty empty name v).lookup k = if k = name ∧ empty = false then some v else none := by
  cases empty with
  | true => simp [omitEmpty]
  | false =>
    by_cases same : k = name
    · simp [omitEmpty, same]
    · have differs : (k == name) = false := by simpa using same
      simp [omitEmpty, same, List.lookup_cons, differs]

/-- An omitted field is read as its default. -/
theorem field_of_lookup {α : Type} {body : Body} {name : String} {validate : Json → Option α}
    {default : Option α} {empty : Bool} {value : Json}
    (found : body.lookup name = if empty = false then some value else none) :
    field body name validate default = if empty then default else validate value := by
  rw [field, found]
  cases empty <;> rfl

theorem mapM_jsonString (v : Validators) (rules : List (List UInt8)) :
    (rules.map jsonString).mapM v.str = some (rules.map Utf8.decode) := by
  induction rules with
  | nil => rfl
  | cons rule rules ih => simp [jsonString, v.str_str, ih]

/-- What the agent reads in a body of the proxy. -/
def readBack (req : SaveReq) : SaveArgs where
  mysqlSQL := Utf8.decode req.mysqlSQL
  redshiftSQL := Utf8.decode req.redshiftSQL
  usedRules := req.usedRules.map Utf8.decode
  rowCount := if req.rowCount = 0 then none else some req.rowCount
  mysqlMs := if req.mysqlMs = 0 then none else some req.mysqlMs
  redshiftMs := if req.redshiftMs = 0 then none else some req.redshiftMs
  compareMode := if req.compareMode = [] then "strict" else Utf8.decode req.compareMode
  source := if req.source = [] then "runtime" else Utf8.decode req.source

/-- Where a body has each of the fields. -/
theorem lookup_marshal (req : SaveReq) :
    (marshal req).lookup "mysql_sql" = some (jsonString req.mysqlSQL) ∧
    (marshal req).lookup "redshift_sql" = some (jsonString req.redshiftSQL) ∧
    ((marshal req).lookup "used_rules" =
      if req.usedRules.isEmpty = false then some (.arr (req.usedRules.map jsonString)) else none) ∧
    ((marshal req).lookup "row_count" =
      if (req.rowCount == 0) = false then some (.num req.rowCount) else none) ∧
    ((marshal req).lookup "mysql_ms" =
      if (req.mysqlMs == 0) = false then some (.num req.mysqlMs) else none) ∧
    ((marshal req).lookup "redshift_ms" =
      if (req.redshiftMs == 0) = false then some (.num req.redshiftMs) else none) ∧
    ((marshal req).lookup "compare_mode" =
      if req.compareMode.isEmpty = false then some (jsonString req.compareMode) else none) ∧
    ((marshal req).lookup "source" =
      if req.source.isEmpty = false then some (jsonString req.source) else none) := by
  simp [marshal, List.lookup_append, List.lookup_cons, lookup_omitEmpty]

theorem readSaveReq_marshal (v : Validators) (req : SaveReq) :
    readSaveReq v (marshal req) = some (readBack req) := by
  obtain ⟨mysqlSQL, redshiftSQL, usedRules, rowCount, mysqlMs, redshiftMs, compareMode, source⟩ :=
    lookup_marshal req
  have number : ∀ n : Int, (if (n == 0) = true then some none else v.intOrNone (.num n)) =
      some (if n = 0 then none else some n) := by
    intro n
    by_cases zero : n = 0 <;> simp [zero, Validators.intOrNone, v.int_num]
  have text : ∀ (s : List UInt8) (d : String),
      (if s.isEmpty = true then some d else v.str (jsonString s)) =
        some (if s = [] then d else Utf8.decode s) := by
    intro s d
    cases s <;> simp [jsonString, v.str_str]
  have rules : (if req.usedRules.isEmpty = true then some []
      else v.strList (.arr (req.usedRules.map jsonString))) =
        some (req.usedRules.map Utf8.decode) := by
    rw [Validators.strList, mapM_jsonString]
    cases req.usedRules <;> rfl
  simp only [readSaveReq, field_of_lookup usedRules, field_of_lookup rowCount,
    field_of_lookup mysqlMs, field_of_lookup redshiftMs, field_of_lookup compareMode,
    field_of_lookup source, number, text, rules]
  simp [field, mysqlSQL, redshiftSQL, jsonString, v.str_str, readBack]

/-- A request whose strings are texts. -/
def bytesOf (req : Proxy.SaveReq) : SaveReq where
  mysqlSQL := Utf8.encode req.mysqlSQL
  redshiftSQL := Utf8.encode req.redshiftSQL
  usedRules := req.usedRules.map Utf8.encode
  rowCount := req.rowCount
  mysqlMs := req.mysqlMs
  redshiftMs := req.redshiftMs
  compareMode := Utf8.encode req.compareMode
  source := Utf8.encode req.source

/-- `received` is what is read in the body of a request whose strings are texts. -/
theorem readSaveReq_received (v : Validators) (req : Proxy.SaveReq) :
    readSaveReq v (marshal (bytesOf req)) = some (received req) := by
  have empty : ∀ s, Utf8.encode s = [] ↔ s = "" := by
    intro s
    refine ⟨fun none => ?_, fun none => by rw [none]; rfl⟩
    rw [← Utf8.decode_encode s, none]
    rfl
  have rules : (req.usedRules.map Utf8.encode).map Utf8.decode = req.usedRules := by
    rw [List.map_map, show Utf8.decode ∘ Utf8.encode = id from funext Utf8.decode_encode,
      List.map_id]
  rw [readSaveReq_marshal]
  simp only [readBack, received, bytesOf, Utf8.decode_encode, rules, empty]
  rfl

/-! ## The two ends -/

/-- The arguments that the proxy has values for. -/
def direct (req : SaveReq) : SaveArgs where
  mysqlSQL := Utf8.decode req.mysqlSQL
  redshiftSQL := Utf8.decode req.redshiftSQL
  usedRules := req.usedRules.map Utf8.decode
  rowCount := some req.rowCount
  mysqlMs := some req.mysqlMs
  redshiftMs := some req.redshiftMs
  compareMode := Utf8.decode req.compareMode
  source := Utf8.decode req.source

/-- The arguments are the values of the request, `mysql_ms` apart. -/
def SameValues (req : SaveReq) (args : SaveArgs) : Prop :=
  Utf8.encode args.mysqlSQL = req.mysqlSQL ∧ Utf8.encode args.redshiftSQL = req.redshiftSQL ∧
    args.usedRules.map Utf8.encode = req.usedRules ∧ args.rowCount = some req.rowCount ∧
    args.redshiftMs = some req.redshiftMs ∧ Utf8.encode args.compareMode = req.compareMode ∧
    Utf8.encode args.source = req.source

/-- The agent reads the proxy's values, and `save_example` sets out as it would with them. -/
def EndsAgree {V S : Type} (kb : Env V S) (v : Validators) (req : SaveReq) : Prop :=
  ∃ args, readSaveReq v (marshal req) = some args ∧ SameValues req args ∧
    begin kb args = begin kb (direct req)

/-- The values that a body can carry. -/
def Carried (req : SaveReq) : Prop :=
  (Utf8.IsText req.mysqlSQL ∧ Utf8.IsText req.redshiftSQL ∧
    (∀ rule ∈ req.usedRules, Utf8.IsText rule) ∧ Utf8.IsText req.compareMode ∧
    Utf8.IsText req.source) ∧
  req.rowCount ≠ 0 ∧ req.redshiftMs ≠ 0 ∧ req.compareMode ≠ [] ∧ req.source ≠ []

/-- A text with a default is read as it was if it is not empty. -/
theorem encode_default_iff {s : List UInt8} {d : String} (nonempty : Utf8.encode d ≠ []) :
    Utf8.encode (if s = [] then d else Utf8.decode s) = s ↔ Utf8.IsText s ∧ s ≠ [] := by
  by_cases empty : s = []
  · simp [empty, nonempty]
  · rw [if_neg empty, Utf8.encode_decode_iff]
    exact ⟨fun text => ⟨text, empty⟩, And.left⟩

theorem optional_iff (n : Int) : (if n = 0 then none else some n) = some n ↔ n ≠ 0 := by
  by_cases zero : n = 0 <;> simp [zero]

theorem sameValues_readBack_iff (req : SaveReq) : SameValues req (readBack req) ↔ Carried req := by
  have rules : (req.usedRules.map Utf8.decode).map Utf8.encode = req.usedRules ↔
      ∀ rule ∈ req.usedRules, Utf8.IsText rule := by
    rw [List.map_map]
    conv_lhs => rhs; rw [← List.map_id req.usedRules]
    rw [List.map_inj_left]
    exact forall₂_congr fun rule _ => Utf8.encode_decode_iff
  simp only [SameValues, readBack, Utf8.encode_decode_iff, rules, optional_iff,
    encode_default_iff (show Utf8.encode "strict" ≠ [] by decide),
    encode_default_iff (show Utf8.encode "runtime" ≠ [] by decide)]
  constructor
  · rintro ⟨mysqlSQL, redshiftSQL, usedRules, rows, ms, ⟨mode, mode'⟩, source, source'⟩
    exact ⟨⟨mysqlSQL, redshiftSQL, usedRules, mode, source⟩, rows, ms, mode', source'⟩
  · rintro ⟨⟨mysqlSQL, redshiftSQL, usedRules, mode, source⟩, rows, ms, mode', source'⟩
    exact ⟨mysqlSQL, redshiftSQL, usedRules, rows, ms, ⟨mode, mode'⟩, source, source'⟩

/-- Which way `save_example` sets out depends on the filtered fields alone. -/
theorem begin_congr {V S : Type} {kb : Env V S} {a b : SaveArgs}
    (source : bypassFilter a.source = bypassFilter b.source) (mysqlSQL : a.mysqlSQL = b.mysqlSQL)
    (redshiftSQL : a.redshiftSQL = b.redshiftSQL) (rowCount : a.rowCount = b.rowCount) :
    begin kb a = begin kb b := by
  simp only [begin, source, mysqlSQL, redshiftSQL, rowCount]

/-- The default `runtime` does not bypass the filter, and neither does the empty source. -/
theorem bypassFilter_readBack (req : SaveReq) :
    bypassFilter (readBack req).source = bypassFilter (direct req).source := by
  by_cases empty : req.source = []
  · simp only [readBack, direct, empty, if_true]
    decide
  · simp only [readBack, direct, empty, if_false]

theorem begin_readBack {V S : Type} (kb : Env V S) {req : SaveReq} (rows : req.rowCount ≠ 0) :
    begin kb (readBack req) = begin kb (direct req) :=
  begin_congr (bypassFilter_readBack req) rfl rfl (if_neg rows)

/-- A request without rows is filtered at the proxy's values, and read as one that says
nothing of its rows. -/
theorem begin_readBack_iff {V S : Type} {kb : Env V S} (enabled : kb.enabled = true)
    (req : SaveReq) :
    begin kb (readBack req) = begin kb (direct req) ↔
      (req.rowCount = 0 → bypassFilter (direct req).source = true ∨
        (isLowValue kb.db (direct req).mysqlSQL (direct req).redshiftSQL none).isSome) := by
  by_cases rows : req.rowCount = 0
  · have read : (readBack req).rowCount = none := if_pos rows
    have sent : (direct req).rowCount = some 0 := congrArg some rows
    cases bypass : bypassFilter (direct req).source with
    | true => simp [begin, enabled, bypassFilter_readBack, bypass]
    | false =>
      simp only [begin, enabled, bypassFilter_readBack, bypass, read, sent, rows]
      rw [show (readBack req).mysqlSQL = (direct req).mysqlSQL from rfl,
        show (readBack req).redshiftSQL = (direct req).redshiftSQL from rfl]
      cases low : isLowValue kb.db (direct req).mysqlSQL (direct req).redshiftSQL none <;>
        simp [isLowValue]
  · simp only [begin_readBack kb rows, rows, false_implies]

/-- The two ends agree on a request exactly when no field that has a default is empty,
and its strings are texts. -/
theorem endsAgree_iff {V S : Type} (kb : Env V S) (v : Validators) (req : SaveReq) :
    EndsAgree kb v req ↔ Carried req := by
  constructor
  · rintro ⟨args, read, same, -⟩
    rw [readSaveReq_marshal, Option.some.injEq] at read
    subst read
    exact (sameValues_readBack_iff req).mp same
  · intro carried
    exact ⟨readBack req, readSaveReq_marshal v req, (sameValues_readBack_iff req).mpr carried,
      begin_readBack kb carried.2.1⟩

/-- Validators that take values of their type only. -/
def exactTypes : Validators where
  str
    | .str s => some s
    | _ => none
  int
    | .num n => some n
    | _ => none
  str_str _ := rfl
  int_num _ := rfl

/-- A request for a result without rows. -/
def noOrders : SaveReq :=
  bytesOf
    { mysqlSQL := ordersText, redshiftSQL := "SELECT COUNT(*) AS c FROM orders", redshiftMs := 5,
      compareMode := "skipped", source := "runtime" }

/-- The agent takes the empty result for one whose size is not known, and stores it. -/
theorem not_endsAgree_noOrders : ¬ EndsAgree sameTextOnly exactTypes noOrders := by
  rintro ⟨args, read, ⟨-, -, -, rows, -⟩, -⟩
  rw [readSaveReq_marshal, Option.some.injEq] at read
  subst read
  cases rows

example : begin sameTextOnly (readBack noOrders) = .nearest := by decide
example : begin sameTextOnly (direct noOrders) = .done none := by decide

end MysqlRedshift.Agent
