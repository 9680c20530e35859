import MysqlRedshift.Proxy.ConnectionAnswers

/-!
# A connection on its own

No connection waits for another one: from any state that the server gets to, the steps that are
due to one connection, each with the answer of its party, answer all that its client has sent,
wherever the others stand and however long their calls take.
-/

namespace MysqlRedshift.Proxy.Connections

open MysqlRedshift.Misc

variable {C : Type} {srv : Server C} {p : Parties} {empty : C} {size : Int}
  {queries : List String} {s t u : Sys} {c : Nat}

/-- The step that is due to connection `c`. -/
def Due (p : Parties) (c : Nat) (s : Sys) (l : Label) : Prop :=
  ∃ st, due p s c = some st ∧ l = .conn c st

variable (srv p c) in
/-- `t` is reached from `s` by the steps that are due to connection `c`. -/
def Drives (s t : Sys) : Prop :=
  ∃ ls, (served srv p).run s ls = some t ∧ (served srv p).Along (Due p c) s ls

theorem Drives.refl (s : Sys) : Drives srv p c s s := ⟨[], rfl, Machine.along_nil _ _⟩

theorem Drives.trans (first : Drives srv p c s t) (later : Drives srv p c t u) :
    Drives srv p c s u := by
  obtain ⟨ls, run, along⟩ := first
  obtain ⟨ms, run', along'⟩ := later
  exact ⟨ls ++ ms, by rw [Machine.run_append_of _ run, run'], along.append run along'⟩

theorem Drives.step {conn conn' : Conn} {st : ConnStep} {calls : Interleaving.Sys String}
    {next : Nat} (live : s.conns c = some conn) (now : due p s c = some st)
    (moved : stepConn srv p.mysql.isSome s.calls s.next conn st = some (conn', calls, next)) :
    Drives srv p c s { calls, next, conns := Function.update s.conns c (some conn') } := by
  have taken : (served srv p).step s (.conn c st) =
      some { calls, next, conns := Function.update s.conns c (some conn') } := by
    simp only [machine, Connections.step, live, moved, Option.map_some]
  exact ⟨[.conn c st], by rw [Machine.run_cons, taken]; rfl,
    Machine.along_step taken ⟨st, now, rfl⟩ (Machine.along_nil _ _)⟩

theorem Drives.answered {l : Label} (now : Due p c s l) : Answered p s l := by
  obtain ⟨st, now, rfl⟩ := now
  cases st with
  | myExecSelect outcome => exact now
  | call st => exact now
  | _ => exact trivial

/-- No client sends anything meanwhile. -/
theorem due_ne_send (cmd : Command) : due p s c ≠ some (.send cmd) := by
  intro now
  unfold due at now
  cases live : s.conns c with
  | none => simp [live] at now
  | some conn =>
    obtain ⟨sent, unread, doing, answered⟩ := conn
    cases doing with
    | readCommand => simp [live] at now
    | myExecSelect query => simp [live] at now
    | handleRedshift query i ends =>
      simp only [live] at now
      split at now
      · cases now
      · next call _ =>
        cases next : Interleaving.respond p.agent p.outcome call.query call.pc <;>
          simp [next] at now
    | respond cmd answer => simp [live] at now
    | closed => simp [live] at now

theorem Drives.known {l : Label} (now : Due p c s l) : Known srv queries l := by
  obtain ⟨st, now, rfl⟩ := now
  cases st with
  | send cmd => exact absurd now (due_ne_send cmd)
  | _ => exact trivial

theorem Drives.sound (made : Cache.new srv.lru size = .ok empty) (alone : CollisionFree srv queries)
    (sound : Sound srv p empty queries s) (drives : Drives srv p c s t) :
    Sound srv p empty queries t := by
  obtain ⟨ls, run, along⟩ := drives
  exact Machine.run_induction_along
    (fun _ _ _ sound now h => sound.step made alone (answered now) (known now) h) sound along run

/-- Whatever drives a connection, all of them stay in order. -/
theorem Drives.orderly (owned : Owned (fun _ conn => conn.Orderly p.mysql.isSome) s)
    (drives : Drives srv p c s t) : Owned (fun _ conn => conn.Orderly p.mysql.isSome) t := by
  obtain ⟨ls, run, -⟩ := drives
  exact Machine.run_induction (I := Owned fun _ conn => conn.Orderly p.mysql.isSome)
    (fun _ _ _ owned h => orderly_step owned h) owned run

/-! ## Its own steps -/

/-- The connection and the calls, moved. -/
def Sys.put (s : Sys) (c : Nat) (calls : Interleaving.Sys String) (conn : Conn) : Sys :=
  { s with calls, conns := Function.update s.conns c (some conn) }

@[simp] theorem Sys.put_calls (s : Sys) (c : Nat) (calls : Interleaving.Sys String) (conn : Conn) :
    (s.put c calls conn).calls = calls := rfl

@[simp] theorem Sys.put_next (s : Sys) (c : Nat) (calls : Interleaving.Sys String) (conn : Conn) :
    (s.put c calls conn).next = s.next := rfl

@[simp] theorem Sys.put_conns_self (s : Sys) (c : Nat) (calls : Interleaving.Sys String)
    (conn : Conn) : (s.put c calls conn).conns c = some conn := Function.update_self ..

theorem Sys.put_conns_of_ne {c' : Nat} (other : c' ≠ c) (s : Sys)
    (calls : Interleaving.Sys String) (conn : Conn) :
    (s.put c calls conn).conns c' = s.conns c' := Function.update_of_ne other ..

@[simp] theorem Sys.put_put (s : Sys) (c : Nat) (calls calls' : Interleaving.Sys String)
    (conn conn' : Conn) : (s.put c calls conn).put c calls' conn' = s.put c calls' conn' := by
  simp only [put, Function.update_idem]

theorem Sys.put_same {conn : Conn} (live : s.conns c = some conn) : s.put c s.calls conn = s := by
  simp only [put, ← live, Function.update_eq_self]

section

variable {sent unread : List Command} {answered : List (Command × Answer)}

theorem drives_put {conn conn' : Conn} {st : ConnStep} {calls : Interleaving.Sys String}
    (live : s.conns c = some conn) (now : due p s c = some st)
    (moved : stepConn srv p.mysql.isSome s.calls s.next conn st = some (conn', calls, s.next)) :
    Drives srv p c s (s.put c calls conn') :=
  .step live now moved

/-- A run of its call is a run of the connection. -/
theorem drives_calls {query : String} {i : Nat} {ends : Except HandleError Result}
    {acts : List (Interleaving.Action String)} {calls : Interleaving.Sys String}
    (live : s.conns c = some ⟨sent, unread, .handleRedshift query i ends, answered⟩)
    (run : (Interleaving.machine srv.key srv.cfg.maxAttempts.toNat).run s.calls acts = some calls)
    (along : (Interleaving.machine srv.key srv.cfg.maxAttempts.toNat).Along
      (Interleaving.Answers p.agent p.outcome i) s.calls acts) :
    ∃ ends', Drives srv p c s
      (s.put c calls ⟨sent, unread, .handleRedshift query i ends', answered⟩) := by
  induction acts generalizing s ends with
  | nil =>
    cases run
    rw [← Sys.put_same live]
    exact ⟨ends, by simpa using .refl _⟩
  | cons a acts ih =>
    obtain ⟨call, st, live_call, responds, rfl⟩ := along.head
    obtain ⟨calls₁, moved, rest⟩ := Option.bind_eq_some_iff.mp run
    have now : due p s c = some (.call st) := by
      simp only [due, live, live_call, responds, Option.map_some, Option.getD_some]
    have taken : stepConn srv p.mysql.isSome s.calls s.next
        ⟨sent, unread, .handleRedshift query i ends, answered⟩ (.call st) =
        some (⟨sent, unread, .handleRedshift query i (after srv.cfg.maxAttempts ends st),
          answered⟩, calls₁, s.next) :=
      Option.map_eq_some_iff.mpr ⟨calls₁, moved, rfl⟩
    obtain ⟨ends', later⟩ := ih (Sys.put_conns_self s c calls₁ _) rest (along.tail moved)
    rw [Sys.put_put] at later
    exact ⟨ends', (drives_put live now taken).trans later⟩

/-- The command in hand is answered. -/
theorem drives_respond {cmd : Command} {answer : Answer}
    (live : s.conns c = some ⟨sent, unread, .respond cmd answer, answered⟩) :
    Drives srv p c s
      (s.put c s.calls ⟨sent, unread, .readCommand, answered ++ [(cmd, answer)]⟩) :=
  drives_put live (show due p s c = some .respond by simp only [due, live]) rfl

/-- Its call has come to its end. -/
theorem drives_return {query : String} {i : Nat} {ends : Except HandleError Result}
    {won : Option String}
    (live : s.conns c = some ⟨sent, unread, .handleRedshift query i ends, answered⟩)
    (done : s.calls.calls i = some ⟨query, .done won⟩) :
    Drives srv p c s (s.put c s.calls ⟨sent, unread,
      .respond (.query query) (.reply (Interleaving.replyTo srv.wire ends)), answered⟩) := by
  have now : due p s c = some .ret := by
    simp only [due, live, done, Interleaving.respond, Option.map_none, Option.getD_none]
  exact drives_put live now (by simp only [stepConn, done])

/-- MySQL answers. -/
theorem drives_mysql {query : String} {execSelect : String → Except String Result}
    (live : s.conns c = some ⟨sent, unread, .myExecSelect query, answered⟩)
    (mysql : p.mysql = some execSelect) :
    Drives srv p c s (s.put c s.calls ⟨sent, unread,
      .respond (.query query) (.reply (mysqlReply srv.wire (execSelect query))), answered⟩) := by
  have now : due p s c = some (.myExecSelect (execSelect query)) := by
    simp only [due, live, mysql, Option.map_some]
  exact drives_put live now rfl

end

variable (srv p c) in
/-- The connection, in `t`, is ready to read `unread`, and no other one has moved. -/
structure Ready (s t : Sys) (sent unread : List Command) : Prop where
  drives : Drives srv p c s t
  ready : ∃ answered, t.conns c = some ⟨sent, unread, .readCommand, answered⟩
  others : ∀ c', c' ≠ c → t.conns c' = s.conns c'

theorem ready_respond {sent unread : List Command} {answered : List (Command × Answer)}
    {cmd : Command} {answer : Answer} {calls : Interleaving.Sys String}
    (drives : Drives srv p c s (s.put c calls ⟨sent, unread, .respond cmd answer, answered⟩)) :
    ∃ t, Ready srv p c s t sent unread := by
  have last : Drives srv p c _ _ :=
    drives_respond (s.put_conns_self c calls ⟨sent, unread, .respond cmd answer, answered⟩)
  rw [Sys.put_put] at last
  exact ⟨_, drives.trans last, ⟨_, Sys.put_conns_self ..⟩,
    fun c' other => Sys.put_conns_of_ne other ..⟩

/-- A connection that is open gets through with the command in hand. -/
theorem ready_of_open {conn : Conn} (owned : Owned (fun _ conn => conn.Orderly p.mysql.isSome) s)
    (live : s.conns c = some conn) (open_ : conn.doing ≠ .closed) :
    ∃ t, Ready srv p c s t conn.sent conn.unread := by
  obtain ⟨sent, unread, doing, answered⟩ := conn
  cases doing with
  | readCommand => exact ⟨s, .refl s, ⟨answered, live⟩, fun _ _ => rfl⟩
  | closed => exact absurd rfl open_
  | respond cmd answer =>
    have stays : Drives srv p c s
        (s.put c s.calls ⟨sent, unread, .respond cmd answer, answered⟩) := by
      rw [Sys.put_same live]
      exact .refl s
    exact ready_respond stays
  | myExecSelect query =>
    obtain ⟨execSelect, mysql⟩ :=
      Option.isSome_iff_exists.mp ((owned.conns c _ live).mysql query rfl)
    exact ready_respond (drives_mysql live mysql)
  | handleRedshift query i ends =>
    obtain ⟨pc, live_call⟩ := owned.live c _ query i ends live rfl
    obtain ⟨acts, calls, won, run, along, -, done, -⟩ :=
      Interleaving.finishes_alone srv.key srv.cfg.maxAttempts.toNat p.agent p.outcome live_call
    obtain ⟨ends', first⟩ := drives_calls live run along
    have second : Drives srv p c _ _ := drives_return (s.put_conns_self c calls
      ⟨sent, unread, .handleRedshift query i ends', answered⟩) done
    rw [Sys.put_put] at second
    exact ready_respond (first.trans second)

/-- It reads the next one. -/
theorem reads_next {sent unread : List Command} {answered : List (Command × Answer)}
    {cmd : Command} (fresh : s.calls.calls s.next = none)
    (live : s.conns c = some ⟨sent, cmd :: unread, .readCommand, answered⟩) :
    ∃ t doing, doing ≠ .closed ∧ Drives srv p c s t ∧
      t.conns c = some ⟨sent, unread, doing, answered⟩ ∧
      ∀ c', c' ≠ c → t.conns c' = s.conns c' := by
  have now : due p s c = some .readCommand := by
    simp only [due, live, reduceCtorEq, if_false]
  obtain ⟨doing, calls, next, open_, moved⟩ : ∃ doing calls next, doing ≠ .closed ∧
      stepConn srv p.mysql.isSome s.calls s.next ⟨sent, cmd :: unread, .readCommand, answered⟩
        .readCommand = some (⟨sent, unread, doing, answered⟩, calls, next) := by
    cases dest : dispatch srv p.mysql.isSome cmd with
    | answer answer =>
      exact ⟨.respond cmd answer, s.calls, s.next, Doing.noConfusion, by
        simp only [stepConn, dest]⟩
    | mysql query =>
      exact ⟨.myExecSelect query, s.calls, s.next, Doing.noConfusion, by
        simp only [stepConn, dest]⟩
    | redshift query =>
      obtain ⟨calls, arrived⟩ : ∃ calls,
          stepCalls srv s.calls (.arrive s.next query) = some calls := by
        simp only [stepCalls, Interleaving.step, fresh]
        exact ⟨_, rfl⟩
      exact ⟨.handleRedshift query s.next (noAttempt srv.cfg.maxAttempts), calls, s.next + 1,
        Doing.noConfusion, by simp only [stepConn, dest, arrived, Option.map_some]⟩
  exact ⟨_, doing, open_, .step live now moved, Function.update_self ..,
    fun c' other => Function.update_of_ne other ..⟩

/-- The connection answers all that it has, by induction on what is still to be read. -/
theorem ready_all {conn : Conn} (owned : Owned (fun _ conn => conn.Orderly p.mysql.isSome) s)
    (live : s.conns c = some conn) (open_ : conn.doing ≠ .closed) :
    ∃ t, Ready srv p c s t conn.sent [] := by
  induction remains : conn.unread generalizing s conn with
  | nil => exact remains ▸ ready_of_open owned live open_
  | cons cmd unread ih =>
    have inHand : ∃ t, Ready srv p c s t conn.sent conn.unread := ready_of_open owned live open_
    obtain ⟨t, drives, ⟨answered, ready⟩, others⟩ := inHand
    rw [remains] at ready
    have owned_t := drives.orderly owned
    have free := owned_t.fresh t.next (Nat.le_refl _)
    obtain ⟨u, doing, still_open, drives', there, others'⟩ : ∃ u doing, doing ≠ .closed ∧
        Drives srv p c t u ∧ u.conns c = some ⟨conn.sent, unread, doing, answered⟩ ∧
          ∀ c', c' ≠ c → u.conns c' = t.conns c' :=
      reads_next free ready
    obtain ⟨v, drives'', ready'', others''⟩ :=
      ih (drives'.orderly owned_t) there still_open rfl
    exact ⟨v, (drives.trans drives').trans drives'', ready'', fun c' other =>
      (others'' c' other).trans ((others' c' other).trans (others c' other))⟩

/-- Wherever a run of the server has got to, whatever its parties have answered so far, the
steps that are due to one open connection alone, each with the answer of its party, answer all
the commands that its client has sent, in their order, and move no other connection. If the
parties have answered alike all along, and no two of the queries for Redshift share a cache
key, the answers are those of a proxy of its own. -/
theorem waits_for_none (srv : Server C) (p : Parties) (ls : List Label) (s : Sys)
    (reached : (served srv p).run start ls = some s) (c : Nat) (conn : Conn)
    (live : s.conns c = some conn) (open_ : conn.doing ≠ .closed) :
    ∃ more t conn', (served srv p).run s more = some t ∧ (served srv p).Along (Due p c) s more ∧
      t.conns c = some conn' ∧ conn'.answered.map Prod.fst = conn.sent ∧
      (∀ c', c' ≠ c → t.conns c' = s.conns c') ∧
      ∀ empty queries, Cache.new srv.lru srv.cfg.cacheSize = .ok empty →
        CollisionFree srv queries → (served srv p).Along (Answered p) start ls →
        (∀ c query, .conn c (.send (.query query)) ∈ ls → srv.onRedshift query = true →
          query ∈ queries) →
        conn'.answered = conn.sent.map (fun cmd => (cmd, loneAnswer srv p empty cmd)) := by
  have owned := orderly_run reached
  obtain ⟨t, drives, ⟨done, ready⟩, others⟩ : ∃ t, Ready srv p c s t conn.sent [] :=
    ready_all owned live open_
  have ordered : conn.sent = done.map Prod.fst := by
    simpa [Doing.command] using ((drives.orderly owned).conns c _ ready).ordered
  obtain ⟨more, run, along⟩ := id drives
  refine ⟨more, t, _, run, along, ready, ordered.symm, others, ?_⟩
  intro empty queries made alone answered known
  have sound := drives.sound made alone (sound_run made alone reached answered known)
  rw [ordered]
  exact (sound.owned.conns c _ ready).answered_eq

/-- The second client of `talk` gets its error and its answer; its call has found the text that
the first one's had cached before it was tried. -/
theorem waits_for_none_talk :
    ∃ s more t conn, (served defaultServer talkers).run start talk = some s ∧
      (served defaultServer talkers).run s more = some t ∧ t.conns 1 = some conn ∧
      conn.answered = [(.other (.handleStmtPrepare nameOf1),
          .error "prepared statements not supported"),
        (.query nameOf1, loneAnswer defaultServer talkers emptyCache (.query nameOf1))] := by
  have run := (rfl : (served defaultServer talkers).run start talk = some _)
  obtain ⟨more, t, conn, run', -, there, -, -, answered⟩ :=
    waits_for_none defaultServer talkers talk _ run 1 _ rfl Doing.noConfusion
  exact ⟨_, more, t, conn, run, run', there, answered emptyCache [nameOf1, countOrders]
    new_defaultServer collisionFree_two talk_answered talk_known⟩

end MysqlRedshift.Proxy.Connections
