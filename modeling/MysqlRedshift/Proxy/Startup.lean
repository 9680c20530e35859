import MysqlRedshift.Proxy.ServerProps

/-!
# The start of the proxy

`proxy/internal/config/config.go` and `main` of `proxy/cmd/proxy/main.go`: the
configuration is read from the environment, and `main` makes the executors, the router
and the server from it. The constructors of the drivers, the agent's client and the
imported packages are `Parties`. The listener and the settings that only the handshake
reads are left out, as is the log.
-/

namespace MysqlRedshift.Proxy.Startup

open MysqlRedshift.Misc

/-! ## `config.FromEnv` -/

/-- `config.Config`: the fields that `main` reads, and those of the handler. -/
structure Config extends Proxy.Config where
  redshiftDSN : String
  mySQLDSN : String
  tableWhitelist : String

/-- `os.Getenv`, which has the empty text for a variable that is not set. -/
abbrev Environ := String → String

/-- What ends the program before it serves. -/
inductive StartError where
  /-- `missing required env` -/
  | missingEnv (k : String)
  /-- `invalid int env` -/
  | invalidInt (s : String)
  /-- `redshift connect failed` -/
  | redshiftConnect (err : String)
  /-- `mysql connect failed` -/
  | mysqlConnect (err : String)
  /-- `cache init failed` -/
  | cacheInit (err : String)
  deriving DecidableEq, Repr

def getenv (env : Environ) (k d : String) : String :=
  if env k ≠ "" then env k else d

def mustEnv (env : Environ) (k : String) : Except StartError String :=
  if env k = "" then .error (.missingEnv k) else .ok (env k)

/-- The value of a text of decimal digits. -/
def decimal (cs : List Char) : Option Nat :=
  if cs ≠ [] ∧ cs.all Char.isDigit then some (Nat.ofDigitChars 10 cs 0) else none

/-- `strconv.Atoi`, of a 64-bit `int`. -/
def atoi (s : String) : Option Int :=
  let n := match s.toList with
    | '-' :: cs => (decimal cs).map fun n => -(n : Int)
    | '+' :: cs => (decimal cs).map fun n => (n : Int)
    | cs => (decimal cs).map fun n => (n : Int)
  n.filter fun n => -9223372036854775808 ≤ n && n ≤ 9223372036854775807

def mustAtoi (s : String) : Except StartError Int :=
  match atoi s with
  | some n => .ok n
  | none => .error (.invalidInt s)

def fromEnv (env : Environ) : Except StartError Config := do
  let _mySQLPassword ← mustEnv env "PROXY_MYSQL_PASSWORD"
  let redshiftDSN ← mustEnv env "REDSHIFT_DSN"
  let cacheSize ← mustAtoi (getenv env "CACHE_SIZE" "1024")
  let maxAttempts ← mustAtoi (getenv env "MAX_ATTEMPTS" "3")
  return {
    cacheSize
    maxAttempts
    redshiftDSN
    mySQLDSN := getenv env "MYSQL_DSN" ""
    tableWhitelist := getenv env "TABLE_WHITELIST" "" }

/-! ## `main` -/

/-- What the proxy is made of. `newRedshift` and `newMySQL` open a database and ping it. -/
structure Parties (ε C : Type) where
  newRedshift : String → Except String (String → ε → (Except String Result × Int) × ε)
  newMySQL : String → Except String (String → ε → Except String Result × ε)
  translate : TranslateRequest → ε → Except String TranslateResponse × ε
  lru : Lru C String String
  db : UnicodeDb
  md5 : String → String
  wire : WireLib
  parse : String → Except String (List Node)
  order : MapOrder

variable {ε C : Type}

/-- `myExec`, which stays nil when no DSN is configured. -/
def openMySQL (p : Parties ε C) (mySQLDSN : String) :
    Except StartError (Option (String → ε → Except String Result × ε)) :=
  if mySQLDSN ≠ "" then
    match p.newMySQL mySQLDSN with
    | .error err => .error (.mysqlConnect err)
    | .ok myExec => .ok (some myExec)
  else .ok none

/-- `server.New`, with the empty cache. -/
def newServer (p : Parties ε C) (cfg : Config) (rtr : Router) : Except StartError (Server C × C) :=
  match Cache.new p.lru cfg.cacheSize with
  | .error err => .error (.cacheInit err)
  | .ok cc =>
    .ok ({ cfg := cfg.toConfig, router := rtr, lru := p.lru, db := p.db, md5 := p.md5,
           wire := p.wire }, cc)

/-- `main`, up to the point where it serves: the server, its parties and its cache. -/
def main (p : Parties ε C) (env : Environ) : Except StartError (Server C × World ε × C) := do
  let cfg ← fromEnv env
  match p.newRedshift cfg.redshiftDSN with
  | .error err => throw (.redshiftConnect err)
  | .ok rsExec =>
    let myExec ← openMySQL p cfg.mySQLDSN
    let rtr := Router.new p.db p.parse p.order cfg.tableWhitelist
    let (srv, cc) ← newServer p cfg rtr
    return (srv, { translate := p.translate, rsExecSelect := rsExec, myExecSelect := myExec }, cc)

/-! ## What is started -/

theorem bind_eq_ok {α β κ : Type} {x : Except κ α} {f : α → Except κ β} {b : β}
    (h : x >>= f = .ok b) : ∃ a, x = .ok a ∧ f a = .ok b := by
  cases x with
  | error e => cases h
  | ok a => exact ⟨a, rfl, h⟩

theorem fromEnv_ok {env : Environ} {cfg : Config} (h : fromEnv env = .ok cfg) :
    cfg.mySQLDSN = env "MYSQL_DSN" ∧ cfg.tableWhitelist = env "TABLE_WHITELIST" := by
  have unset : ∀ k, getenv env k "" = env k := by
    intro k
    rw [getenv]
    split
    · rfl
    · next empty => exact (not_not.mp empty).symm
  obtain ⟨_, -, h⟩ := bind_eq_ok h
  obtain ⟨dsn, -, h⟩ := bind_eq_ok h
  obtain ⟨size, -, h⟩ := bind_eq_ok h
  obtain ⟨attempts, -, h⟩ := bind_eq_ok h
  cases h
  exact ⟨unset _, unset _⟩

/-- Without a DSN the server has no MySQL; its router is made from the whitelist. -/
theorem main_ok {p : Parties ε C} {env : Environ} {srv : Server C} {w : World ε} {cc : C}
    (h : main p env = .ok (srv, w, cc)) :
    srv.db = p.db ∧ srv.router = .new p.db p.parse p.order (env "TABLE_WHITELIST") ∧
      (env "MYSQL_DSN" = "" → w.myExecSelect = none) := by
  obtain ⟨cfg, configured, h⟩ := bind_eq_ok h
  obtain ⟨dsn, whitelist⟩ := fromEnv_ok configured
  cases connected : p.newRedshift cfg.redshiftDSN with
  | error err =>
    rw [connected] at h
    cases h
  | ok rsExec =>
    rw [connected] at h
    obtain ⟨myExec, opened, h⟩ := bind_eq_ok h
    obtain ⟨⟨srv', cc'⟩, made, h⟩ := bind_eq_ok h
    cases h
    rw [newServer] at made
    split at made
    · cases made
    · cases made
      refine ⟨rfl, by rw [whitelist], fun off => ?_⟩
      rw [openMySQL, dsn, if_neg (not_not.mpr off)] at opened
      cases opened
      rfl

/-! ## Without MySQL -/

/-- The call takes the Redshift path, and does not fail because of the router. -/
def ServedByRedshift (srv : Server C) (w : World ε) (query : String) (st : State ε C) : Prop :=
  handleQuery srv w query st = handleRedshift srv w query st ∧
    ∀ tables, (handleQuery srv w query st).1 ≠ .error (.routerSelectedMySQL tables)

/-- The whitelist is empty, the query does not parse, or all names in it are listed. -/
def NoneOutside (p : Parties ε C) (tableWhitelist query : String) : Prop :=
  Router.whitelistOf p.db tableWhitelist = [] ∨
    ∀ stmts, p.parse query = .ok stmts → ∀ tn ∈ stmts.flatMap tableNames,
      tn.lower p.db ∈ Router.whitelistOf p.db tableWhitelist

/-- The router knows nothing of the executors. -/
theorem route_redshift_iff_noneOutside (p : Parties ε C) (tableWhitelist query : String) :
    ((Router.new p.db p.parse p.order tableWhitelist).route query).1 = .redshift ↔
      NoneOutside p tableWhitelist query := by
  by_cases empty : Router.whitelistOf p.db tableWhitelist = []
  · have routed : ((Router.new p.db p.parse p.order tableWhitelist).route query).1 = .redshift := by
      simp [Router.route, Router.new, empty]
    exact ⟨fun _ => Or.inl empty, fun _ => routed⟩
  · cases parsed : p.parse query with
    | error err =>
      have routed :
          ((Router.new p.db p.parse p.order tableWhitelist).route query).1 = .redshift := by
        simp [Router.route, Router.new, Router.extractTables, empty, parsed]
      refine ⟨fun _ => Or.inr fun stmts ok => ?_, fun _ => routed⟩
      rw [parsed] at ok
      cases ok
    | ok stmts =>
      rw [Router.route_redshift_iff (Router.new p.db p.parse p.order tableWhitelist) empty parsed,
        NoneOutside, parsed]
      constructor
      · intro listed
        refine Or.inr fun stmts' same => ?_
        cases same
        exact listed
      · rintro (none | listed)
        · exact absurd none empty
        · exact listed stmts rfl

/-- With an empty DSN, a query that is not answered at once is served by Redshift exactly
when the router finds no table outside the whitelist. -/
theorem servedByRedshift_iff (p : Parties ε C) (env : Environ) (srv : Server C) (w : World ε)
    (cc : C) (started : main p env = .ok (srv, w, cc)) (off : env "MYSQL_DSN" = "")
    (query : String) (live : shouldNoop srv.db query = false) (st : State ε C) :
    ServedByRedshift srv w query st ↔ NoneOutside p (env "TABLE_WHITELIST") query := by
  obtain ⟨-, router, noMySQL⟩ := main_ok started
  rw [← route_redshift_iff_noneOutside, ← router, ServedByRedshift]
  rcases routed : srv.router.route query with ⟨_ | _, tables, reason⟩
  · have path : handleQuery srv w query st = handleRedshift srv w query st := by
      simp [handleQuery, live, routed]
    rw [path]
    simp only [true_and, iff_true]
    exact handleRedshift_ne_routerSelected srv w query st
  · have refused : (handleQuery srv w query st).1 = .error (.routerSelectedMySQL tables) := by
      simp [handleQuery, live, routed, handleMySQL, noMySQL off]
    simp only [reduceCtorEq, iff_false]
    rintro ⟨-, other⟩
    exact other tables refused

/-! ## A proxy with the whitelist `orders` -/

/-- The statement `SELECT * FROM` a table. -/
def selectFrom (table : String) : Node :=
  .select [.tableSource (.tableName ⟨"", table⟩) none] [] [] []

/-- Parties that parse two queries and cannot be asked anything. -/
def twoTables : Parties Unit (ListLru String String) where
  newRedshift _ := .ok fun _ env => ((.error "down", 0), env)
  newMySQL _ := .error "down"
  translate _ env := (.error "down", env)
  lru := listLru String String
  db := .ascii
  md5 := md5
  wire := defaultServer.wire
  parse sql :=
    if sql = "SELECT * FROM orders" then .ok [selectFrom "orders"]
    else if sql = "SELECT * FROM users" then .ok [selectFrom "users"]
    else .error "syntax error"
  order := .inserted

/-- The variables that are required, and the whitelist; `MYSQL_DSN` is not set. -/
def ordersOnly : Environ
  | "PROXY_MYSQL_PASSWORD" => "secret"
  | "REDSHIFT_DSN" => "postgres://u:p@h:5439/db"
  | "TABLE_WHITELIST" => "orders"
  | _ => ""

def ordersServer : Server (ListLru String String) :=
  { defaultServer with router := .new .ascii twoTables.parse .inserted "orders" }

def ordersWorld : World Unit where
  translate := twoTables.translate
  rsExecSelect _ env := ((.error "down", 0), env)
  myExecSelect := none

theorem main_ordersOnly : main twoTables ordersOnly = .ok (ordersServer, ordersWorld, emptyCache) :=
  rfl

theorem servedByRedshift_iff_orders :
    ServedByRedshift ordersServer ordersWorld "SELECT * FROM orders"
      { cache := emptyCache, env := () } := by
  refine (servedByRedshift_iff twoTables ordersOnly ordersServer ordersWorld emptyCache
    main_ordersOnly rfl "SELECT * FROM orders" (by decide) _).mpr (Or.inr ?_)
  intro stmts parsed
  cases parsed
  decide

/-- A table that is not listed is looked for in the MySQL that is not there. -/
theorem not_servedByRedshift_users :
    main twoTables ordersOnly = .ok (ordersServer, ordersWorld, emptyCache) ∧
      ordersOnly "MYSQL_DSN" = "" ∧ shouldNoop ordersServer.db "SELECT * FROM users" = false ∧
      ¬ ServedByRedshift ordersServer ordersWorld "SELECT * FROM users"
        { cache := emptyCache, env := () } := by
  refine ⟨rfl, rfl, by decide, ?_⟩
  rintro ⟨-, other⟩
  exact other ["users"] rfl

end MysqlRedshift.Proxy.Startup
