import MysqlRedshift.Proxy.Connections

/-!
# The answers of a connection

The parties are fixed functions here. What a client is answered is compared with a proxy of its
own, which handles each command with an empty cache: whatever the other connections do in
between, the answers are the same, and stand in the order of the commands. And a connection
never waits for another one: from any state its own steps answer all that its client has sent.
-/

namespace MysqlRedshift.Proxy.Connections

open MysqlRedshift.Misc

variable {C : Type}

/-- The parties that the handler calls; there may be no MySQL. -/
structure Parties where
  agent : TranslateRequest → Except String TranslateResponse
  redshift : String → Except String Result × Int
  mysql : Option (String → Except String Result)

def Parties.world (p : Parties) : World Unit :=
  { World.fixed p.agent p.redshift with
    myExecSelect := p.mysql.map fun execSelect sql env => (execSelect sql, env) }

/-- What Redshift answers, without the time. -/
def Parties.outcome (p : Parties) (sql : String) : Except String Result := (p.redshift sql).1

/-- The machine of the server with these parties. -/
abbrev served (srv : Server C) (p : Parties) : Machine Sys Label := machine srv p.mysql.isSome

/-- The answer of a proxy whose cache is empty. -/
def loneAnswer (srv : Server C) (p : Parties) (empty : C) : Command → Answer
  | .query query => .reply (freshReply srv p.world empty () query)
  | .other method => method.answer

/-- The step that a connection takes next if the parties answer it. -/
def due (p : Parties) (s : Sys) (c : Nat) : Option ConnStep :=
  match s.conns c with
  | none => none
  | some conn =>
    match conn.doing with
    | .readCommand => if conn.unread = [] then none else some .readCommand
    | .myExecSelect query => p.mysql.map fun execSelect => .myExecSelect (execSelect query)
    | .handleRedshift _ i _ =>
      match s.calls.calls i with
      | none => none
      | some call =>
        some (((Interleaving.respond p.agent p.outcome call.query call.pc).map .call).getD .ret)
    | .respond _ _ => some .respond
    | .closed => none

/-- What a step gets is what the parties answer. -/
def Answered (p : Parties) (s : Sys) : Label → Prop
  | .conn c (.myExecSelect outcome) => due p s c = some (.myExecSelect outcome)
  | .conn c (.call st) => due p s c = some (.call st)
  | _ => True

/-! ## A proxy of its own -/

section

variable {ε : Type} {srv : Server C}

/-- The Redshift path does not call MySQL. -/
theorem retryLoop_myExecSelect (w : World ε)
    (mysql : Option (String → ε → Except String Result × ε)) (maxAttempts : Int)
    (query : String) (left : Nat) (curSQL : String) (prevErr : Option String)
    (st : State ε C) :
    retryLoop { w with myExecSelect := mysql } maxAttempts query left curSQL prevErr st =
      retryLoop w maxAttempts query left curSQL prevErr st := by
  induction left generalizing curSQL prevErr st with
  | zero => rfl
  | succ left ih =>
    simp only [retryLoop, callRedshift, callTranslate]
    simp only [ih]

theorem handleRedshift_myExecSelect (w : World ε)
    (mysql : Option (String → ε → Except String Result × ε)) (query : String) (st : State ε C) :
    handleRedshift srv { w with myExecSelect := mysql } query st =
      handleRedshift srv w query st := by
  simp only [handleRedshift, firstSQL, runFirst, execWithRetry, callTranslate,
    retryLoop_myExecSelect]

end

variable {srv : Server C} {p : Parties} {empty : C} {size : Int}

theorem loneAnswer_answer {cmd : Command} {answer : Answer}
    (dest : dispatch srv p.mysql.isSome cmd = .answer answer) :
    loneAnswer srv p empty cmd = answer := by
  cases cmd with
  | other method => exact Dest.answer.inj dest
  | query query =>
    rw [loneAnswer, freshReply, handleQuery]
    by_cases noop : shouldNoop srv.db query = true
    · rw [dispatch, if_pos noop] at dest
      rw [if_pos noop]
      exact Dest.answer.inj dest
    · rw [dispatch, if_neg noop] at dest
      rw [if_neg noop]
      rcases route : srv.router.route query with ⟨_ | _, tables, reason⟩
      · simp [route] at dest
      · cases mysql : p.mysql with
        | none => simpa [route, handleMySQL, Parties.world, mysql] using dest
        | some execSelect => simp [route, mysql] at dest

theorem loneAnswer_mysql {query : String} {execSelect : String → Except String Result}
    (dest : dispatch srv p.mysql.isSome (.query query) = .mysql query)
    (mysql : p.mysql = some execSelect) :
    loneAnswer srv p empty (.query query) = .reply (mysqlReply srv.wire (execSelect query)) := by
  rw [loneAnswer, freshReply, handleQuery]
  by_cases noop : shouldNoop srv.db query = true
  · rw [dispatch, if_pos noop] at dest
    cases dest
  · rw [dispatch, if_neg noop] at dest
    rw [if_neg noop]
    rcases route : srv.router.route query with ⟨_ | _, tables, reason⟩
    · simp [route] at dest
    · simp only [handleMySQL, Parties.world, mysql, Option.map_some]
      cases execSelect query <;> rfl

theorem loneAnswer_redshift (made : Cache.new srv.lru size = .ok empty) {query : String}
    (routed : srv.onRedshift query = true) :
    loneAnswer srv p empty (.query query) = .reply (Interleaving.replyTo srv.wire
      ((Interleaving.aloneEnds srv.cfg.maxAttempts p.agent p.outcome query).map Prod.fst)) := by
  rw [loneAnswer, freshReply, handleQuery_onRedshift routed, Parties.world,
    handleRedshift_myExecSelect, ← handleQuery_onRedshift routed]
  exact congrArg Answer.reply (Interleaving.freshReply_alone made routed)

/-! ## The invariant -/

variable (srv p) in
/-- What `HandleQuery` has to return, where its call stands. While the call waits for Redshift
the next outcome decides. -/
def Told (query : String) (ends : Except HandleError Result) : Interleaving.Pc → Prop
  | .get | .translate | .set _ => ends = noAttempt srv.cfg.maxAttempts
  | .execSelect _ _ _ => True
  | .fix _ _ prevErr _ => ends = .error (.redshiftExec srv.cfg.maxAttempts (some prevErr))
  | .finalSet _ _ | .done _ =>
    ends = (Interleaving.aloneEnds srv.cfg.maxAttempts p.agent p.outcome query).map Prod.fst

theorem told_enter {query rsQuery : String}
    (leads : Interleaving.Leads srv.cfg.maxAttempts p.agent p.outcome query rsQuery) :
    Told srv p query (noAttempt srv.cfg.maxAttempts)
      (Interleaving.enter srv.cfg.maxAttempts.toNat rsQuery) := by
  unfold Interleaving.Leads Interleaving.firstEnds at leads
  unfold Interleaving.enter
  cases count : srv.cfg.maxAttempts.toNat with
  | zero =>
    simp only [count] at leads
    simp only [Told, ← leads, noAttempt, Except.map]
  | succ left => exact trivial

/-- A step of a call keeps what is to be returned for it in order. -/
theorem told_step {query : String} {sh sh' : Interleaving.Shared String}
    {pc pc' : Interleaving.Pc} {st : Interleaving.Step} {ends : Except HandleError Result}
    (moves : Interleaving.Moves srv.key srv.cfg.maxAttempts.toNat query sh pc st pc' sh')
    (answered : Interleaving.respond p.agent p.outcome query pc = some st)
    (cached : ∀ text, sh.cache (srv.key query) = some text →
      Interleaving.Leads srv.cfg.maxAttempts p.agent p.outcome query text)
    (track : pc.OnTrack srv.cfg.maxAttempts p.agent p.outcome query)
    (told : Told srv p query ends pc) :
    Told srv p query (after srv.cfg.maxAttempts ends st) pc' := by
  generalize count : srv.cfg.maxAttempts.toNat = maxAttempts at moves
  cases moves with
  | hit held =>
    obtain rfl : ends = _ := told
    exact count ▸ told_enter (cached _ held)
  | miss => exact told
  | refused err =>
    have refused : p.agent { sql := query } = .error err :=
      Interleaving.Step.translate.inj (Option.some.inj answered)
    simp only [Told, after, Interleaving.aloneEnds, refused, Except.map]
  | translated resp => exact told
  | set rsQuery =>
    obtain rfl : ends = _ := told
    exact count ▸ told_enter track
  | wonFirst rsQuery left result =>
    have ran := Interleaving.Step.execSelect.inj (Option.some.inj answered)
    rw [Interleaving.Pc.OnTrack, Interleaving.loopEnds_of_ok ran] at track
    simp only [Told, after, ← track, Except.map]
  | @wonFixed rsQuery curSQL differs left result =>
    have ran := Interleaving.Step.execSelect.inj (Option.some.inj answered)
    rw [Interleaving.Pc.OnTrack, Interleaving.loopEnds_of_ok ran] at track
    simp only [Told, after, ← track, Except.map]
  | gaveUp rsQuery curSQL err =>
    have ran := Interleaving.Step.execSelect.inj (Option.some.inj answered)
    simp only [Interleaving.Pc.OnTrack, Interleaving.loopEnds, ran] at track
    simp only [Told, after, ← track, Except.map]
  | failed rsQuery curSQL err left => exact rfl
  | unfixed rsQuery curSQL prevErr left err =>
    have refused := Interleaving.Step.fix.inj (Option.some.inj answered)
    obtain ⟨ran, track⟩ := track
    simp only [Interleaving.loopEnds, ran, refused] at track
    obtain rfl : ends = _ := told
    simp only [Told, after, ← track, Except.map]
  | fixed rsQuery curSQL prevErr left fixResp => exact trivial
  | finalSet => exact told

variable (srv p empty) in
/-- A connection on its way to the answer of a proxy of its own. -/
def Doing.Sound (calls : Interleaving.Sys String) : Doing → Prop
  | .readCommand => True
  | .myExecSelect query => dispatch srv p.mysql.isSome (.query query) = .mysql query
  | .handleRedshift query i ends =>
    srv.onRedshift query = true ∧
      ∃ pc, calls.calls i = some ⟨query, pc⟩ ∧ Told srv p query ends pc
  | .respond cmd answer => answer = loneAnswer srv p empty cmd
  | .closed => True

variable (srv p empty) in
/-- What a client has sent is answered in order, or still to be answered. -/
structure Conn.Sound (queries : List String) (calls : Interleaving.Sys String) (conn : Conn) :
    Prop where
  orderly : conn.Orderly p.mysql.isSome
  answers : ∀ pair ∈ conn.answered, pair.2 = loneAnswer srv p empty pair.1
  known : ∀ query, .query query ∈ conn.sent → srv.onRedshift query = true → query ∈ queries
  doing : conn.doing.Sound srv p empty calls

theorem Conn.Sound.answered_eq {queries : List String} {calls : Interleaving.Sys String}
    {conn : Conn} (own : conn.Sound srv p empty queries calls) :
    conn.answered = (conn.answered.map Prod.fst).map fun cmd =>
      (cmd, loneAnswer srv p empty cmd) := by
  rw [List.map_map]
  exact (List.map_id _).symm.trans
    (List.map_congr_left fun pair member => Prod.ext rfl (own.answers pair member))

theorem Doing.Sound.frame {calls calls' : Interleaving.Sys String} {doing : Doing}
    (sound : doing.Sound srv p empty calls)
    (same : ∀ query i ends, doing = .handleRedshift query i ends →
      calls'.calls i = calls.calls i) : doing.Sound srv p empty calls' := by
  cases doing with
  | handleRedshift query i ends =>
    obtain ⟨routed, pc, live, told⟩ := sound
    exact ⟨routed, pc, (same query i ends rfl).trans live, told⟩
  | _ => exact sound

theorem Conn.Sound.loc (queries : List String) :
    Local fun calls conn => conn.Sound srv p empty queries calls :=
  fun _ _ _ own same => ⟨own.orderly, own.answers, own.known, own.doing.frame same⟩

variable (srv p empty) in
/-- The calls go where their queries go alone, and so does every connection. -/
structure Sound (queries : List String) (s : Sys) : Prop where
  steady : Interleaving.Steady srv.key srv.cfg.maxAttempts p.agent p.outcome s.calls
  asked : ∀ i call, s.calls.calls i = some call → call.query ∈ queries
  owned : Owned (fun calls conn => conn.Sound srv p empty queries calls) s

variable {queries : List String} {s t : Sys} {l : Label}

theorem Sound.distinct (sound : Sound srv p empty queries s) (alone : CollisionFree srv queries) :
    Interleaving.Distinct srv.key s.calls :=
  fun i j call call' live live' same =>
    alone _ (sound.asked i call live) _ (sound.asked j call' live') same

/-- The step that is due to a call is the one that its parties answer. -/
theorem respond_of_due {c i : Nat} {conn : Conn} {query : String}
    {ends : Except HandleError Result} {pc : Interleaving.Pc} {st : Interleaving.Step}
    (live : s.conns c = some conn) (doing : conn.doing = .handleRedshift query i ends)
    (call : s.calls.calls i = some ⟨query, pc⟩) (answered : due p s c = some (.call st)) :
    Interleaving.respond p.agent p.outcome query pc = some st := by
  simp only [due, live, doing, call] at answered
  cases next : Interleaving.respond p.agent p.outcome query pc with
  | none =>
    rw [next] at answered
    cases answered
  | some st' =>
    rw [next] at answered
    cases answered
    rfl

/-- A query that is put on the wire for Redshift is one of these. -/
def Known (srv : Server C) (queries : List String) : Label → Prop
  | .conn _ (.send (.query query)) => srv.onRedshift query = true → query ∈ queries
  | _ => True

/-- The calls stay on their way. -/
theorem Sound.steady_step (alone : CollisionFree srv queries) (sound : Sound srv p empty queries s)
    (answered : Answered p s l) (h : step srv p.mysql.isSome s l = some t) :
    Interleaving.Steady srv.key srv.cfg.maxAttempts p.agent p.outcome t.calls ∧
      ∀ i call, t.calls.calls i = some call → call.query ∈ queries := by
  have distinct := sound.distinct alone
  rcases step_cases h with ⟨c, -, free, rfl⟩ |
    ⟨c, st, conn, conn', calls, next, rfl, live, moves, rfl⟩ | ⟨k, calls, -, evicted, rfl⟩
  · exact ⟨sound.steady, sound.asked⟩
  · have own := sound.owned.conns c conn live
    cases moves with
    | @toRedshift _ _ _ _ query _ dest arrived =>
      refine ⟨sound.steady.step distinct ?_ arrived, fun i call there => ?_⟩
      · exact trivial
      · obtain ⟨-, rfl⟩ := stepCalls_arrive arrived
        rcases update_some_cases there with ⟨-, rfl⟩ | ⟨-, there⟩
        · obtain ⟨rfl, routed⟩ := dispatch_eq_redshift_iff.mp dest
          exact own.known query (by rw [own.orderly.ordered]; simp) routed
        · exact sound.asked i call there
    | @called _ _ _ query i ends st _ stepped =>
      obtain ⟨-, pc, live_call, -⟩ := own.doing
      refine ⟨sound.steady.step distinct ?_ stepped, fun j call there => ?_⟩
      · exact ⟨_, live_call, respond_of_due live rfl live_call answered⟩
      · obtain ⟨pc', sh, -, rfl⟩ := stepCalls_call live_call stepped
        rcases update_some_cases there with ⟨-, rfl⟩ | ⟨-, there⟩
        · exact sound.asked i ⟨query, pc⟩ live_call
        · exact sound.asked j call there
    | _ => exact ⟨sound.steady, sound.asked⟩
  · refine ⟨sound.steady.step distinct ?_ evicted, ?_⟩
    · exact trivial
    · rcases Interleaving.step_cases evicted with ⟨i, query', same, -⟩ |
        ⟨i, st, call, pc, sh, same, -⟩ | ⟨k, same, rfl⟩ <;> cases same
      exact sound.asked

/-- A connection stays on its way to the answers of a proxy of its own. -/
theorem Conn.Sound.step (made : Cache.new srv.lru size = .ok empty)
    (alone : CollisionFree srv queries) (sound : Connections.Sound srv p empty queries s)
    {c next : Nat} {conn conn' : Conn} {st : ConnStep} {calls : Interleaving.Sys String}
    (live : s.conns c = some conn) (answered : Answered p s (.conn c st))
    (known : Known srv queries (.conn c st))
    (moves : Moves srv p.mysql.isSome s.calls s.next conn st conn' calls next) :
    conn'.Sound srv p empty queries calls := by
  have own := sound.owned.conns c conn live
  have orderly := moves.orderly own.orderly
  cases moves with
  | sent cmd open_ =>
    refine ⟨orderly, own.answers, fun query member routed => ?_, own.doing⟩
    rcases List.mem_append.mp member with before | last
    · exact own.known query before routed
    · obtain rfl := List.mem_singleton.mp last
      exact known routed
  | answered dest =>
    exact ⟨orderly, own.answers, own.known,
      (loneAnswer_answer dest).symm⟩
  | toMySQL dest =>
    obtain ⟨rfl, -⟩ := of_dispatch_mysql dest
    exact ⟨orderly, own.answers, own.known, dest⟩
  | toRedshift dest arrived =>
    obtain ⟨rfl, routed⟩ := dispatch_eq_redshift_iff.mp dest
    obtain ⟨-, rfl⟩ := stepCalls_arrive arrived
    exact ⟨orderly, own.answers, own.known, routed, .get,
      Function.update_self .., rfl⟩
  | @executed _ _ _ query outcome =>
    refine ⟨orderly, own.answers, own.known, ?_⟩
    have due_now : due p s c = some (.myExecSelect outcome) := answered
    obtain ⟨execSelect, mysql, same⟩ := Option.map_eq_some_iff.mp
      (by simpa only [due, live] using due_now)
    cases same
    exact (loneAnswer_mysql own.doing mysql).symm
  | @called _ _ _ query i ends st _ stepped =>
    obtain ⟨routed, pc, live_call, told⟩ := own.doing
    obtain ⟨pc', sh, moved, rfl⟩ := stepCalls_call live_call stepped
    refine ⟨orderly, own.answers, own.known, routed, pc', Function.update_self .., ?_⟩
    refine told_step moved (respond_of_due live rfl live_call answered) (fun text held => ?_)
      (sound.steady.calls i _ live_call) told
    obtain ⟨j, call, there, keyed, leads⟩ := sound.steady.cached _ text held
    obtain rfl : call.query = query :=
      sound.distinct alone j i call ⟨query, pc⟩ there live_call keyed
    exact leads
  | returned done =>
    refine ⟨orderly, own.answers, own.known, ?_⟩
    obtain ⟨routed, pc, live_call, told⟩ := own.doing
    cases live_call.symm.trans done
    rw [Doing.Sound, loneAnswer_redshift made routed]
    exact congrArg (Answer.reply ∘ Interleaving.replyTo srv.wire) told
  | responded =>
    refine ⟨orderly, fun pair member => ?_, own.known, trivial⟩
    rcases List.mem_append.mp member with before | last
    · exact own.answers pair before
    · obtain rfl := List.mem_singleton.mp last
      exact own.doing
  | left => exact ⟨orderly, own.answers, own.known, trivial⟩
  | lost =>
    exact ⟨orderly, own.answers, own.known, trivial⟩

/-! ## Runs -/

theorem Sound.step (made : Cache.new srv.lru size = .ok empty) (alone : CollisionFree srv queries)
    (sound : Sound srv p empty queries s) (answered : Answered p s l) (known : Known srv queries l)
    (h : step srv p.mysql.isSome s l = some t) : Sound srv p empty queries t := by
  obtain ⟨steady, asked⟩ := sound.steady_step alone answered h
  refine ⟨steady, asked, sound.owned.step (Conn.Sound.loc queries) h ?_ ?_⟩
  · exact ⟨⟨rfl, fun _ => Doing.noConfusion⟩, fun _ member => absurd member List.not_mem_nil,
      fun _ member => absurd member List.not_mem_nil, trivial⟩
  · intro c st conn conn' calls next same live moves
    subst same
    exact .step made alone sound live answered known moves

theorem sound_start : Sound srv p empty queries start where
  steady := Interleaving.steady_start
  asked _ _ live := by cases live
  owned := owned_start

theorem sound_run (made : Cache.new srv.lru size = .ok empty) (alone : CollisionFree srv queries)
    {ls : List Label} (reached : (served srv p).run start ls = some s)
    (answered : (served srv p).Along (Answered p) start ls)
    (known : ∀ c query, .conn c (.send (.query query)) ∈ ls → srv.onRedshift query = true →
      query ∈ queries) : Sound srv p empty queries s := by
  have each : ∀ l ∈ ls, Known srv queries l := by
    intro l member
    cases l with
    | conn c st =>
      cases st with
      | send cmd =>
        cases cmd with
        | query query => exact known c query member
        | other method => trivial
      | _ => trivial
    | _ => trivial
  exact Machine.run_induction_along
    (fun _ _ _ sound both h => sound.step made alone both.1 both.2 h) sound_start
    (Machine.along_and answered (Machine.along_of_forall (fun l member _ => each l member) start))
    reached

/-- Any number of clients send any commands, at any time, and the goroutines of their
connections interleave in any way, with a cache that may drop what it likes. Each client has
been answered the first of its commands, in their order, each with the very answer of a proxy
of its own, and what it is still owed is what the connection has before it: so it is if no two
of the queries for Redshift, of all clients, share a cache key. -/
theorem answered_as_alone (srv : Server C) (p : Parties) (empty : C)
    (made : Cache.new srv.lru srv.cfg.cacheSize = .ok empty) (queries : List String)
    (alone : CollisionFree srv queries) (ls : List Label) (s : Sys)
    (reached : (served srv p).run start ls = some s)
    (answered : (served srv p).Along (Answered p) start ls)
    (known : ∀ c query, .conn c (.send (.query query)) ∈ ls → srv.onRedshift query = true →
      query ∈ queries) (c : Nat) (conn : Conn) (live : s.conns c = some conn) :
    conn.sent = conn.answered.map Prod.fst ++ conn.doing.command.toList ++ conn.unread ∧
      conn.answered = (conn.sent.take conn.answered.length).map fun cmd =>
        (cmd, loneAnswer srv p empty cmd) := by
  have own := (sound_run made alone reached answered known).owned.conns c conn live
  refine ⟨own.orderly.ordered, ?_⟩
  have first : conn.sent.take conn.answered.length = conn.answered.map Prod.fst := by
    rw [own.orderly.ordered, List.append_assoc]
    exact List.take_left' (List.length_map ..)
  rw [first]
  exact own.answered_eq

/-! ## Two clients -/

def talkers : Parties := ⟨echo, annAndBob, none⟩

/-- Two clients with one query, the second of which first tries to prepare it. -/
def talk : List Label :=
  [.accept 0, .accept 1, .conn 0 (.send (.query nameOf1)),
    .conn 1 (.send (.other (.handleStmtPrepare nameOf1))), .conn 1 (.send (.query nameOf1)),
    .conn 0 .readCommand, .conn 0 (.call .get), .conn 1 .readCommand, .conn 1 .respond,
    .conn 0 (.call (.translate (echo { sql := nameOf1 }))), .conn 0 (.call .set),
    .conn 1 .readCommand, .conn 1 (.call .get),
    .conn 0 (.call (.execSelect (annAndBob nameOf1).1)), .conn 0 .ret, .conn 0 .respond]

theorem talk_answered :
    (served defaultServer talkers).Along (Answered talkers) start talk := by
  refine Machine.along_step rfl trivial ?_
  refine Machine.along_step rfl trivial ?_
  refine Machine.along_step rfl trivial ?_
  refine Machine.along_step rfl trivial ?_
  refine Machine.along_step rfl trivial ?_
  refine Machine.along_step rfl trivial ?_
  refine Machine.along_step rfl rfl ?_
  refine Machine.along_step rfl trivial ?_
  refine Machine.along_step rfl trivial ?_
  refine Machine.along_step rfl rfl ?_
  refine Machine.along_step rfl rfl ?_
  refine Machine.along_step rfl trivial ?_
  refine Machine.along_step rfl rfl ?_
  refine Machine.along_step rfl rfl ?_
  refine Machine.along_step rfl trivial ?_
  exact Machine.along_step rfl trivial (Machine.along_nil _ _)

theorem talk_known (c : Nat) (query : String) (sent : .conn c (.send (.query query)) ∈ talk)
    (_ : defaultServer.onRedshift query = true) : query ∈ [nameOf1, countOrders] := by
  simp only [talk, List.mem_cons, Label.conn.injEq, ConnStep.send.injEq, Command.query.injEq,
    reduceCtorEq, and_false, false_or, List.not_mem_nil, or_false] at sent
  rcases sent with ⟨-, rfl⟩ | ⟨-, rfl⟩ <;> exact List.mem_cons_self ..

theorem answered_as_alone_talk :
    ∃ s conn, (served defaultServer talkers).run start talk = some s ∧ s.conns 0 = some conn ∧
      conn.answered = [(.query nameOf1,
        loneAnswer defaultServer talkers emptyCache (.query nameOf1))] := by
  have run := (rfl : (served defaultServer talkers).run start talk = some _)
  have answered := answered_as_alone defaultServer talkers emptyCache new_defaultServer
    [nameOf1, countOrders] collisionFree_two talk _ run talk_answered talk_known 0 _ rfl
  exact ⟨_, _, run, rfl, answered.2⟩

end MysqlRedshift.Proxy.Connections
