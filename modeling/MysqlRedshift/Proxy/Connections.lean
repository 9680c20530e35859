import MysqlRedshift.Proxy.ConcurrentTransparency

/-!
# Connections

`proxy/internal/server/server.go`: `Serve`, `handleConn` and the methods of `connHandler`. A
connection has a goroutine of its own, which handles one command after the other; its calls of
`HandleQuery` on the Redshift path are calls of `Proxy/Interleaving`, and share the cache with
those of all other connections. The wire protocol is the library's: `HandleCommand` reads a
command, has the handler's method for it run, and writes what that returns. A client may send
ahead, and the connection ends when a read or a write fails. A handshake that fails leaves
nothing behind. Deadlines are left out, as are the commands that the library answers by itself.
-/

namespace MysqlRedshift.Proxy.Connections

open MysqlRedshift.Misc

variable {C : Type}

/-! ## Commands -/

/-- The commands that `HandleCommand` has a method beside `HandleQuery` for. -/
inductive Method where
  | useDB (dbName : String)
  | handleFieldList (table fieldWildcard : String)
  | handleStmtPrepare (query : String)
  | handleStmtExecute (query : String)
  | handleStmtClose
  | handleOtherCommand (cmd : UInt8) (data : List UInt8)
  deriving DecidableEq, Repr

inductive Command where
  | query (query : String)
  | other (method : Method)
  deriving DecidableEq, Repr

/-- What a method returns, for the library to write: `nil` is an OK, or no answer where the
protocol has none, and `unknownError` an error under `ER_UNKNOWN_ERROR`. -/
inductive Answer where
  | nil
  | fields (fields : List String)
  | reply (reply : Reply)
  | error (text : String)
  | unknownError (text : String)

def Method.answer : Method → Answer
  | .useDB _ => .nil
  | .handleFieldList _ _ => .fields []
  | .handleStmtPrepare _ => .error "prepared statements not supported"
  | .handleStmtExecute _ => .error "prepared statements not supported"
  | .handleStmtClose => .nil
  | .handleOtherCommand cmd _ => .unknownError ("unsupported command: " ++ toString cmd.toNat)

/-- Where the handling of a command goes: to an answer at once, to MySQL or to Redshift. -/
inductive Dest where
  | answer (answer : Answer)
  | mysql (query : String)
  | redshift (query : String)

/-- The method for a command, up to the first party that it calls. -/
def dispatch (srv : Server C) (hasMySQL : Bool) : Command → Dest
  | .other method => .answer method.answer
  | .query query =>
    if shouldNoop srv.db query then .answer (.reply (.ok emptyResult))
    else
      match srv.router.route query with
      | (.mysql, tables, _) =>
        if hasMySQL then .mysql query
        else .answer (.reply (.error (.routerSelectedMySQL tables)))
      | (.redshift, _, _) => .redshift query

theorem dispatch_eq_redshift_iff {srv : Server C} {hasMySQL : Bool} {cmd : Command}
    {query : String} : dispatch srv hasMySQL cmd = .redshift query ↔
      cmd = .query query ∧ srv.onRedshift query = true := by
  cases cmd with
  | other method => simp [dispatch]
  | query query' =>
    have routed : dispatch srv hasMySQL (.query query') = .redshift query ↔
        query' = query ∧ srv.onRedshift query' = true := by
      rcases route : srv.router.route query' with ⟨_ | _, tables, reason⟩ <;>
        cases noop : shouldNoop srv.db query' <;> cases hasMySQL <;>
        simp [dispatch, Server.onRedshift, noop, route]
    rw [routed, Command.query.injEq]
    exact and_congr_right fun same => by rw [same]

theorem of_dispatch_mysql {srv : Server C} {hasMySQL : Bool} {cmd : Command} {query : String}
    (dest : dispatch srv hasMySQL cmd = .mysql query) :
    cmd = .query query ∧ hasMySQL = true ∧ srv.onRedshift query = false := by
  cases cmd with
  | other method => cases dest
  | query query' =>
    rcases route : srv.router.route query' with ⟨_ | _, tables, reason⟩ <;>
      cases noop : shouldNoop srv.db query' <;> cases hasMySQL <;>
      simp [dispatch, noop, route] at dest
    subst dest
    simp [Server.onRedshift, route]

/-! ## Connections and their steps -/

/-- Where the goroutine of a connection stands. A call on the Redshift path has a number, and
`ends` is what `HandleQuery` has to return for it so far: its `result` or its error. -/
inductive Doing where
  | readCommand
  | myExecSelect (query : String)
  | handleRedshift (query : String) (i : Nat) (ends : Except HandleError Result)
  | respond (cmd : Command) (answer : Answer)
  | closed

def Doing.command : Doing → Option Command
  | .readCommand => none
  | .myExecSelect query => some (.query query)
  | .handleRedshift query _ _ => some (.query query)
  | .respond cmd _ => some cmd
  | .closed => none

/-- A connection, with all that its client has sent and has been answered. `unread` is still
to be read; once the connection is closed, it is all that has no answer. -/
structure Conn where
  sent : List Command := []
  unread : List Command := []
  doing : Doing := .readCommand
  answered : List (Command × Answer) := []

/-- The steps of a connection, with what is open in them. -/
inductive ConnStep where
  | send (cmd : Command)
  | readCommand
  | myExecSelect (outcome : Except String Result)
  | call (st : Interleaving.Step)
  | ret
  | respond
  | close

/-- The calls on the Redshift path, the connections, and the number of the next call. -/
structure Sys where
  calls : Interleaving.Sys String
  conns : Nat → Option Conn
  next : Nat

inductive Label where
  | accept (c : Nat)
  | conn (c : Nat) (st : ConnStep)
  | evict (k : String)

def start : Sys := ⟨Interleaving.start, fun _ => none, 0⟩

/-- What `HandleQuery` has to return after a step of its call. -/
def after (maxAttempts : Int) (ends : Except HandleError Result) :
    Interleaving.Step → Except HandleError Result
  | .translate (.error err) => .error (.translateFailed err)
  | .execSelect (.ok result) => .ok result
  | .execSelect (.error err) => .error (.redshiftExec maxAttempts (some err))
  | _ => ends

/-- What a call on the Redshift path returns if it makes no attempt. -/
def noAttempt (maxAttempts : Int) : Except HandleError Result :=
  .error (.redshiftExec maxAttempts none)

/-- The end of the MySQL path. -/
def mysqlReply (lib : WireLib) : Except String Result → Reply
  | .error err => .error (.mysqlExec err)
  | .ok result => reply lib result

variable (srv : Server C) (hasMySQL : Bool)

/-- A step of the calls. -/
abbrev stepCalls (calls : Interleaving.Sys String) (a : Interleaving.Action String) :
    Option (Interleaving.Sys String) :=
  Interleaving.step srv.key srv.cfg.maxAttempts.toNat calls a

/-- One step of a connection. -/
def stepConn (calls : Interleaving.Sys String) (next : Nat) (conn : Conn) :
    ConnStep → Option (Conn × Interleaving.Sys String × Nat)
  | .send cmd =>
    match conn.doing with
    | .closed => none
    | _ => some ({ conn with sent := conn.sent ++ [cmd], unread := conn.unread ++ [cmd] },
        calls, next)
  | .readCommand =>
    match conn.doing, conn.unread with
    | .readCommand, cmd :: unread =>
      match dispatch srv hasMySQL cmd with
      | .answer answer => some ({ conn with unread, doing := .respond cmd answer }, calls, next)
      | .mysql query => some ({ conn with unread, doing := .myExecSelect query }, calls, next)
      | .redshift query =>
        (stepCalls srv calls (.arrive next query)).map fun calls =>
          ({ conn with
              unread
              doing := .handleRedshift query next (noAttempt srv.cfg.maxAttempts) },
            calls, next + 1)
    | _, _ => none
  | .myExecSelect outcome =>
    match conn.doing with
    | .myExecSelect query =>
      some ({ conn with doing := .respond (.query query) (.reply (mysqlReply srv.wire outcome)) },
        calls, next)
    | _ => none
  | .call st =>
    match conn.doing with
    | .handleRedshift query i ends =>
      (stepCalls srv calls (.call i st)).map fun calls =>
        ({ conn with doing := .handleRedshift query i (after srv.cfg.maxAttempts ends st) },
          calls, next)
    | _ => none
  | .ret =>
    match conn.doing with
    | .handleRedshift query i ends =>
      match calls.calls i with
      | some ⟨_, .done _⟩ =>
        some ({ conn with
            doing := .respond (.query query) (.reply (Interleaving.replyTo srv.wire ends)) },
          calls, next)
      | _ => none
    | _ => none
  | .respond =>
    match conn.doing with
    | .respond cmd answer =>
      some ({ conn with doing := .readCommand, answered := conn.answered ++ [(cmd, answer)] },
        calls, next)
    | _ => none
  | .close =>
    match conn.doing with
    | .readCommand => some ({ conn with doing := .closed }, calls, next)
    | .respond cmd _ => some ({ conn with doing := .closed, unread := cmd :: conn.unread },
        calls, next)
    | _ => none

def step (s : Sys) : Label → Option Sys
  | .accept c =>
    match s.conns c with
    | none => some { s with conns := Function.update s.conns c (some {}) }
    | some _ => none
  | .conn c st =>
    match s.conns c with
    | none => none
    | some conn =>
      (stepConn srv hasMySQL s.calls s.next conn st).map fun (conn, calls, next) =>
        { calls, next, conns := Function.update s.conns c (some conn) }
  | .evict k => (stepCalls srv s.calls (.evict k)).map fun calls => { s with calls }

def machine : Machine Sys Label := ⟨step srv hasMySQL⟩

/-! ## What a step can do -/

/-- The one kind of step that a connection takes from each place, and what it does there. -/
inductive Moves (calls : Interleaving.Sys String) (next : Nat) :
    Conn → ConnStep → Conn → Interleaving.Sys String → Nat → Prop where
  | sent {conn} (cmd : Command) (open_ : conn.doing ≠ .closed) :
      Moves calls next conn (.send cmd)
        { conn with sent := conn.sent ++ [cmd], unread := conn.unread ++ [cmd] } calls next
  | answered {sent unread answered cmd answer}
      (dest : dispatch srv hasMySQL cmd = .answer answer) :
      Moves calls next ⟨sent, cmd :: unread, .readCommand, answered⟩ .readCommand
        ⟨sent, unread, .respond cmd answer, answered⟩ calls next
  | toMySQL {sent unread answered cmd query} (dest : dispatch srv hasMySQL cmd = .mysql query) :
      Moves calls next ⟨sent, cmd :: unread, .readCommand, answered⟩ .readCommand
        ⟨sent, unread, .myExecSelect query, answered⟩ calls next
  | toRedshift {sent unread answered cmd query calls'}
      (dest : dispatch srv hasMySQL cmd = .redshift query)
      (arrived : stepCalls srv calls (.arrive next query) = some calls') :
      Moves calls next ⟨sent, cmd :: unread, .readCommand, answered⟩ .readCommand
        ⟨sent, unread, .handleRedshift query next (noAttempt srv.cfg.maxAttempts), answered⟩
        calls' (next + 1)
  | executed {sent unread answered query} (outcome : Except String Result) :
      Moves calls next ⟨sent, unread, .myExecSelect query, answered⟩ (.myExecSelect outcome)
        ⟨sent, unread, .respond (.query query) (.reply (mysqlReply srv.wire outcome)), answered⟩
        calls next
  | called {sent unread answered query i ends st calls'}
      (moved : stepCalls srv calls (.call i st) = some calls') :
      Moves calls next ⟨sent, unread, .handleRedshift query i ends, answered⟩ (.call st)
        ⟨sent, unread, .handleRedshift query i (after srv.cfg.maxAttempts ends st), answered⟩
        calls' next
  | returned {sent unread answered query i ends query' won}
      (done : calls.calls i = some ⟨query', .done won⟩) :
      Moves calls next ⟨sent, unread, .handleRedshift query i ends, answered⟩ .ret
        ⟨sent, unread, .respond (.query query) (.reply (Interleaving.replyTo srv.wire ends)),
          answered⟩ calls next
  | responded {sent unread answered cmd answer} :
      Moves calls next ⟨sent, unread, .respond cmd answer, answered⟩ .respond
        ⟨sent, unread, .readCommand, answered ++ [(cmd, answer)]⟩ calls next
  | left {sent unread answered} :
      Moves calls next ⟨sent, unread, .readCommand, answered⟩ .close
        ⟨sent, unread, .closed, answered⟩ calls next
  | lost {sent unread answered cmd answer} :
      Moves calls next ⟨sent, unread, .respond cmd answer, answered⟩ .close
        ⟨sent, cmd :: unread, .closed, answered⟩ calls next

variable {srv hasMySQL}

theorem stepConn_moves {calls calls' : Interleaving.Sys String} {next next' : Nat}
    {conn conn' : Conn} {st : ConnStep}
    (h : stepConn srv hasMySQL calls next conn st = some (conn', calls', next')) :
    Moves srv hasMySQL calls next conn st conn' calls' next' := by
  obtain ⟨sent, unread, doing, answered⟩ := conn
  cases st with
  | send cmd =>
    cases doing <;> simp only [stepConn, Option.some.injEq, Prod.mk.injEq, reduceCtorEq] at h <;>
      obtain ⟨rfl, rfl, rfl⟩ := h <;> exact .sent cmd Doing.noConfusion
  | readCommand =>
    cases doing <;> cases unread <;> simp only [stepConn, reduceCtorEq] at h
    next cmd unread =>
      cases dest : dispatch srv hasMySQL cmd with
      | answer answer =>
        simp only [dest, Option.some.injEq, Prod.mk.injEq] at h
        obtain ⟨rfl, rfl, rfl⟩ := h
        exact .answered dest
      | mysql query =>
        simp only [dest, Option.some.injEq, Prod.mk.injEq] at h
        obtain ⟨rfl, rfl, rfl⟩ := h
        exact .toMySQL dest
      | redshift query =>
        simp only [dest, Option.map_eq_some_iff, Prod.mk.injEq] at h
        obtain ⟨calls, arrived, rfl, rfl, rfl⟩ := h
        exact .toRedshift dest arrived
  | myExecSelect outcome =>
    cases doing <;> simp only [stepConn, Option.some.injEq, Prod.mk.injEq, reduceCtorEq] at h
    obtain ⟨rfl, rfl, rfl⟩ := h
    exact .executed outcome
  | call st =>
    cases doing <;> simp only [stepConn, reduceCtorEq, Option.map_eq_some_iff, Prod.mk.injEq] at h
    obtain ⟨calls, moved, rfl, rfl, rfl⟩ := h
    exact .called moved
  | ret =>
    cases doing <;> simp only [stepConn, reduceCtorEq] at h
    split at h
    · next done =>
      simp only [Option.some.injEq, Prod.mk.injEq] at h
      obtain ⟨rfl, rfl, rfl⟩ := h
      exact .returned done
    · cases h
  | respond =>
    cases doing <;> simp only [stepConn, Option.some.injEq, Prod.mk.injEq, reduceCtorEq] at h
    obtain ⟨rfl, rfl, rfl⟩ := h
    exact .responded
  | close =>
    cases doing <;> simp only [stepConn, Option.some.injEq, Prod.mk.injEq, reduceCtorEq] at h <;>
      obtain ⟨rfl, rfl, rfl⟩ := h
    · exact .left
    · exact .lost

/-- A step of the system is an accepted connection, a step of one, or an eviction. -/
theorem step_cases {s t : Sys} {l : Label} (h : step srv hasMySQL s l = some t) :
    (∃ c, l = .accept c ∧ s.conns c = none ∧
      t = { s with conns := Function.update s.conns c (some {}) }) ∨
    (∃ c st conn conn' calls next, l = .conn c st ∧ s.conns c = some conn ∧
      Moves srv hasMySQL s.calls s.next conn st conn' calls next ∧
      t = { calls, next, conns := Function.update s.conns c (some conn') }) ∨
    (∃ k calls, l = .evict k ∧ stepCalls srv s.calls (.evict k) = some calls ∧
      t = { s with calls }) := by
  cases l with
  | accept c =>
    cases free : s.conns c with
    | some conn => simp [step, free] at h
    | none => exact Or.inl ⟨c, rfl, free, by simpa [step, free] using h.symm⟩
  | conn c st =>
    cases live : s.conns c with
    | none => simp [step, live] at h
    | some conn =>
      simp only [step, live, Option.map_eq_some_iff] at h
      obtain ⟨⟨conn', calls, next⟩, moved, rfl⟩ := h
      exact Or.inr (Or.inl ⟨c, st, conn, conn', calls, next, rfl, live, stepConn_moves moved, rfl⟩)
  | evict k =>
    simp only [step, Option.map_eq_some_iff] at h
    obtain ⟨calls, moved, rfl⟩ := h
    exact Or.inr (Or.inr ⟨k, calls, rfl, moved, rfl⟩)

theorem stepCalls_arrive {calls calls' : Interleaving.Sys String} {i : Nat} {query : String}
    (h : stepCalls srv calls (.arrive i query) = some calls') :
    calls.calls i = none ∧
      calls' = { calls with calls := Function.update calls.calls i (some ⟨query, .get⟩) } := by
  rcases Interleaving.step_cases h with ⟨j, query', same, free, rfl⟩ |
    ⟨j, st, call, pc, sh, same, -⟩ | ⟨k, same, -⟩ <;> cases same
  exact ⟨free, rfl⟩

theorem stepCalls_call {calls calls' : Interleaving.Sys String} {i : Nat} {query : String}
    {pc : Interleaving.Pc} {st : Interleaving.Step} (live : calls.calls i = some ⟨query, pc⟩)
    (h : stepCalls srv calls (.call i st) = some calls') :
    ∃ pc' sh,
      Interleaving.Moves srv.key srv.cfg.maxAttempts.toNat query calls.toShared pc st pc' sh ∧
      calls' = { sh with calls := Function.update calls.calls i (some ⟨query, pc'⟩) } := by
  rcases Interleaving.step_cases h with ⟨j, query', same, -⟩ |
    ⟨j, st', call, pc', sh, same, live', taken, rfl⟩ | ⟨k, same, -⟩ <;> cases same
  obtain rfl : ⟨query, pc⟩ = call := Option.some.inj (live.symm.trans live')
  exact ⟨pc', sh, Interleaving.stepCall_moves taken, rfl⟩

/-! ## Invariants of connections -/

/-- A condition on a connection and its own call. -/
def Local (P : Interleaving.Sys String → Conn → Prop) : Prop :=
  ∀ calls calls' conn, P calls conn →
    (∀ query i ends, conn.doing = .handleRedshift query i ends →
      calls'.calls i = calls.calls i) → P calls' conn

/-- Every connection meets a condition, and those on the Redshift path have each a call of
their own. -/
structure Owned (P : Interleaving.Sys String → Conn → Prop) (s : Sys) : Prop where
  fresh : ∀ i, s.next ≤ i → s.calls.calls i = none
  conns : ∀ c conn, s.conns c = some conn → P s.calls conn
  live : ∀ c conn query i ends, s.conns c = some conn →
    conn.doing = .handleRedshift query i ends → ∃ pc, s.calls.calls i = some ⟨query, pc⟩
  apart : ∀ c c' conn conn' query query' i ends ends', s.conns c = some conn →
    s.conns c' = some conn' → conn.doing = .handleRedshift query i ends →
    conn'.doing = .handleRedshift query' i ends' → c = c'

variable {P : Interleaving.Sys String → Conn → Prop} {s t : Sys} {l : Label}

theorem owned_start : Owned P start where
  fresh _ _ := rfl
  conns _ _ live := by cases live
  live _ _ _ _ _ live := by cases live
  apart _ _ _ _ _ _ _ _ _ live := by cases live

/-- A connection moves with the calls, and leaves the calls of the others alone. -/
theorem Owned.update {c next : Nat} {conn' : Conn} {calls : Interleaving.Sys String}
    (loc : Local P) (owned : Owned P s) (fresh : ∀ i, next ≤ i → calls.calls i = none)
    (own : P calls conn')
    (live' : ∀ query i ends, conn'.doing = .handleRedshift query i ends →
      ∃ pc, calls.calls i = some ⟨query, pc⟩)
    (others : ∀ c' conn query i ends, c' ≠ c → s.conns c' = some conn →
      conn.doing = .handleRedshift query i ends →
      calls.calls i = s.calls.calls i ∧
        ∀ query' ends', conn'.doing ≠ .handleRedshift query' i ends') :
    Owned P { calls, next, conns := Function.update s.conns c (some conn') } := by
  refine ⟨fresh, fun c' conn live => ?_, fun c' conn query i ends live at_call => ?_, ?_⟩
  · rcases update_some_cases live with ⟨-, rfl⟩ | ⟨other, live⟩
    · exact own
    · exact loc _ _ conn (owned.conns c' conn live) fun query i ends at_call =>
        (others c' conn query i ends other live at_call).1
  · rcases update_some_cases live with ⟨-, rfl⟩ | ⟨other, live⟩
    · exact live' query i ends at_call
    · rw [(others c' conn query i ends other live at_call).1]
      exact owned.live c' conn query i ends live at_call
  · intro c₁ c₂ conn₁ conn₂ query₁ query₂ i ends₁ ends₂ live₁ live₂ at₁ at₂
    rcases update_some_cases live₁ with ⟨rfl, rfl⟩ | ⟨other₁, old₁⟩ <;>
      rcases update_some_cases live₂ with ⟨rfl, rfl⟩ | ⟨other₂, old₂⟩
    · rfl
    · exact absurd at₁ ((others c₂ conn₂ query₂ i ends₂ other₂ old₂ at₂).2 query₁ ends₁)
    · exact absurd at₂ ((others c₁ conn₁ query₁ i ends₁ other₁ old₁ at₁).2 query₂ ends₂)
    · exact owned.apart c₁ c₂ conn₁ conn₂ query₁ query₂ i ends₁ ends₂ old₁ old₂ at₁ at₂

/-- A connection moves, and no call does. -/
theorem Owned.quiet {c : Nat} {conn conn' : Conn} (loc : Local P) (owned : Owned P s)
    (live : s.conns c = some conn) (own : P s.calls conn')
    (same : ∀ query i ends, conn'.doing = .handleRedshift query i ends →
      conn.doing = .handleRedshift query i ends) :
    Owned P { calls := s.calls, next := s.next,
              conns := Function.update s.conns c (some conn') } := by
  refine owned.update loc owned.fresh own
    (fun query i ends at_call => owned.live c conn query i ends live (same query i ends at_call))
    fun c' conn₁ query i ends other live₁ at_call =>
      ⟨rfl, fun query' ends' at_call' => other ?_⟩
  exact owned.apart c' c conn₁ conn query query' i ends ends' live₁ live at_call
    (same query' i ends' at_call')

/-- What holds of a connection that is accepted, and what every step of a connection keeps of
it, holds of all connections: no other one looks at its call. -/
theorem Owned.step (loc : Local P) (owned : Owned P s) (h : step srv hasMySQL s l = some t)
    (new : P s.calls {})
    (moves : ∀ c st conn conn' calls next, l = .conn c st → s.conns c = some conn →
      Moves srv hasMySQL s.calls s.next conn st conn' calls next → P calls conn') : Owned P t := by
  rcases step_cases h with ⟨c, -, free, rfl⟩ |
    ⟨c, st, conn, conn', calls, next, rfl, live, moved, rfl⟩ | ⟨k, calls, -, evicted, rfl⟩
  · exact owned.update loc owned.fresh new (fun _ _ _ at_call => by cases at_call)
      fun _ _ _ _ _ _ _ _ => ⟨rfl, fun _ _ => Doing.noConfusion⟩
  · have own := moves c st conn conn' calls next rfl live moved
    cases moved with
    | sent cmd open_ => exact owned.quiet loc live own fun _ _ _ => id
    | @toRedshift _ _ _ _ query _ dest arrived =>
      obtain ⟨free, rfl⟩ := stepCalls_arrive arrived
      refine owned.update loc (fun i above => ?_) own (fun query' i ends at_call => ?_)
        fun c' conn₁ query' i ends other live₁ at_call => ?_
      · exact (Function.update_of_ne (by omega) _ _).trans (owned.fresh i (by omega))
      · cases at_call
        exact ⟨.get, Function.update_self ..⟩
      · obtain ⟨pc, live_call⟩ := owned.live c' conn₁ query' i ends live₁ at_call
        have differ : i ≠ s.next := by
          rintro rfl
          rw [free] at live_call
          cases live_call
        exact ⟨Function.update_of_ne differ .., fun _ _ same => differ (by cases same; rfl)⟩
    | @called _ _ _ query i ends st _ stepped =>
      obtain ⟨pc, live_call⟩ := owned.live c _ query i ends live rfl
      obtain ⟨pc', sh, -, rfl⟩ := stepCalls_call live_call stepped
      refine owned.update loc (fun j above => ?_) own (fun query' j ends' at_call => ?_)
        fun c' conn₁ query' j ends' other live₁ at_call => ?_
      · have differ : j ≠ i := by
          rintro rfl
          rw [owned.fresh j above] at live_call
          cases live_call
        exact (Function.update_of_ne differ _ _).trans (owned.fresh j above)
      · cases at_call
        exact ⟨pc', Function.update_self ..⟩
      · have differ : j ≠ i := by
          rintro rfl
          exact other (owned.apart c' c conn₁ _ query' query j ends' ends live₁ live at_call rfl)
        exact ⟨Function.update_of_ne differ .., fun _ _ same => differ (by cases same; rfl)⟩
    | _ => exact owned.quiet loc live own fun _ _ _ at_call => by cases at_call
  · rcases Interleaving.step_cases evicted with ⟨i, query', same, -⟩ |
      ⟨i, st, call, pc, sh, same, -⟩ | ⟨k, same, rfl⟩ <;> cases same
    refine ⟨owned.fresh, fun c conn live => ?_, owned.live, owned.apart⟩
    exact loc _ _ conn (owned.conns c conn live) fun _ _ _ _ => rfl

/-! ## In order -/

/-- What a client has sent is answered in order, in hand, or still to be read; and MySQL is
asked where there is one. -/
structure Conn.Orderly (hasMySQL : Bool) (conn : Conn) : Prop where
  ordered : conn.sent = conn.answered.map Prod.fst ++ conn.doing.command.toList ++ conn.unread
  mysql : ∀ query, conn.doing = .myExecSelect query → hasMySQL = true

/-- Every step of a connection keeps the order. -/
theorem Moves.orderly {calls calls' : Interleaving.Sys String} {next next' : Nat}
    {conn conn' : Conn} {st : ConnStep}
    (moves : Moves srv hasMySQL calls next conn st conn' calls' next')
    (own : conn.Orderly hasMySQL) : conn'.Orderly hasMySQL := by
  cases moves with
  | sent cmd open_ =>
    refine ⟨?_, own.mysql⟩
    rw [own.ordered, List.append_assoc]
  | answered dest =>
    exact ⟨by simpa [Doing.command] using own.ordered, fun _ => Doing.noConfusion⟩
  | toMySQL dest =>
    obtain ⟨rfl, there, -⟩ := of_dispatch_mysql dest
    exact ⟨by simpa [Doing.command] using own.ordered, fun _ _ => there⟩
  | toRedshift dest arrived =>
    obtain ⟨rfl, -⟩ := dispatch_eq_redshift_iff.mp dest
    exact ⟨by simpa [Doing.command] using own.ordered, fun _ => Doing.noConfusion⟩
  | executed | called | returned | left =>
    exact ⟨own.ordered, fun _ => Doing.noConfusion⟩
  | responded | lost =>
    exact ⟨by simpa [Doing.command] using own.ordered, fun _ => Doing.noConfusion⟩

theorem orderly_step (owned : Owned (fun _ conn => conn.Orderly hasMySQL) s)
    (h : step srv hasMySQL s l = some t) : Owned (fun _ conn => conn.Orderly hasMySQL) t := by
  refine owned.step (fun _ _ _ own _ => own) h ⟨rfl, fun _ => Doing.noConfusion⟩ ?_
  intro c st conn conn' calls next _ live moves
  exact moves.orderly (owned.conns c conn live)

theorem orderly_run {ls : List Label} (reached : (machine srv hasMySQL).run start ls = some s) :
    Owned (fun _ conn => conn.Orderly hasMySQL) s :=
  Machine.run_induction (I := Owned fun _ conn => conn.Orderly hasMySQL)
    (fun _ _ _ owned h => orderly_step owned h) owned_start reached

end MysqlRedshift.Proxy.Connections
