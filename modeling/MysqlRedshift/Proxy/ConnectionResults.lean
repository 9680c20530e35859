import Mathlib.Algebra.Order.Group.Multiset
import MysqlRedshift.Misc.Shares
import MysqlRedshift.Proxy.Connections

/-!
# Whose results a client is given

Here the agent, Redshift and MySQL may answer anything, and keys may collide. The cache hands on
texts, never rows: what the clients are given for a query, all together, was fetched by as many
executions that Redshift made for that very query.
-/

namespace MysqlRedshift.Proxy.Connections

open MysqlRedshift.Misc

variable {C : Type} {srv : Server C} {hasMySQL : Bool} {s t : Sys} {l : Label} {query : String}

/-- The result set of an answer, if it has one. -/
def results : Reply → Multiset MySQLResult
  | .ok r => {r}
  | .error _ => 0

/-- What an exchange fetches for a query, in the client's form. -/
def fetches (srv : Server C) (query : String) : Event → Multiset MySQLResult
  | .execSelect query' _ (.ok result) =>
    if query' = query then results (reply srv.wire result) else 0
  | _ => 0

/-- What Redshift has been made to fetch for a query. -/
def fetched (srv : Server C) (query : String) (trace : List Event) : Multiset MySQLResult :=
  (trace.map (fetches srv query)).sum

/-- What an answer gives for a query. -/
def gives (query : String) : Command × Answer → Multiset MySQLResult
  | (.query query', .reply r) => if query' = query then results r else 0
  | _ => 0

/-- What a client has been given for a query. -/
def Conn.given (query : String) (conn : Conn) : Multiset MySQLResult :=
  (conn.answered.map (gives query)).sum

variable (srv) in
/-- What a connection has in hand for a query. -/
def Doing.holds (query : String) : Doing → Multiset MySQLResult
  | .handleRedshift query' _ ends => gives query
      (.query query', .reply (Interleaving.replyTo srv.wire ends))
  | .respond cmd answer => gives query (cmd, answer)
  | _ => 0

variable (srv) in
def Conn.share (query : String) (conn : Conn) : Multiset MySQLResult :=
  conn.given query + conn.doing.holds srv query

variable (srv) in
/-- The share of a connection that there may be. -/
def share (s : Sys) (query : String) (c : Nat) : Multiset MySQLResult :=
  (s.conns c).elim 0 fun conn => conn.share srv query

/-- Only what is not for Redshift is asked of MySQL. -/
def Apart (srv : Server C) (_ : Interleaving.Sys String) (conn : Conn) : Prop :=
  ∀ query, conn.doing = .myExecSelect query → srv.onRedshift query = false

theorem Apart.loc : Local (Apart srv) := fun _ _ _ own _ => own

/-! ## What a step fetches and gives -/

variable (srv query) in
/-- What an exchange of a call for a query fetches. -/
def draws (query' : String) : Interleaving.Step → Multiset MySQLResult
  | .execSelect (.ok result) => if query' = query then results (reply srv.wire result) else 0
  | _ => 0

theorem fetched_cons (event : Event) (trace : List Event) :
    fetched srv query (event :: trace) = fetched srv query trace + fetches srv query event := by
  rw [fetched, fetched, List.map_cons, List.sum_cons, add_comm]

/-- The trace has all that the calls fetch. -/
theorem fetched_moves {K : Type} [DecidableEq K] {key : String → K} {maxAttempts : Nat}
    {query' : String} {sh sh' : Interleaving.Shared K} {pc pc' : Interleaving.Pc}
    {st : Interleaving.Step} (moves : Interleaving.Moves key maxAttempts query' sh pc st pc' sh') :
    fetched srv query sh'.trace = fetched srv query sh.trace + draws srv query query' st := by
  cases moves with
  | hit | miss | set | finalSet => exact (add_zero _).symm
  | refused | translated | unfixed | fixed => exact fetched_cons ..
  | wonFirst | wonFixed | gaveUp | failed => exact fetched_cons ..

theorem gives_error (query' : String) (err : HandleError) :
    gives query (.query query', .reply (.error err)) = 0 := by
  simp only [gives, results, ite_self]

/-- A call has in hand what it had, or what it has just fetched. -/
theorem gives_after (maxAttempts : Int) (query' : String) (ends : Except HandleError Result)
    (st : Interleaving.Step) :
    gives query
        (.query query', .reply (Interleaving.replyTo srv.wire (after maxAttempts ends st))) ≤
      gives query (.query query', .reply (Interleaving.replyTo srv.wire ends)) +
        draws srv query query' st := by
  cases st with
  | execSelect outcome =>
    cases outcome with
    | ok result => exact le_add_of_nonneg_left (Multiset.zero_le _)
    | error err =>
      rw [after, Interleaving.replyTo, gives_error]
      exact Multiset.zero_le _
  | translate answer =>
    cases answer with
    | ok resp => exact le_add_of_nonneg_right (Multiset.zero_le _)
    | error err =>
      rw [after, Interleaving.replyTo, gives_error]
      exact Multiset.zero_le _
  | _ => exact le_add_of_nonneg_right (Multiset.zero_le _)

theorem gives_of_ne {query' : String} (elsewhere : query' ≠ query) (answer : Answer) :
    gives query (.query query', answer) = 0 := by
  cases answer with
  | reply r => exact if_neg elsewhere
  | _ => rfl

/-- A query for Redshift is not answered before it gets there. -/
theorem gives_of_dispatch {cmd : Command} {answer : Answer} (routed : srv.onRedshift query = true)
    (dest : dispatch srv hasMySQL cmd = .answer answer) : gives query (cmd, answer) = 0 := by
  cases cmd with
  | other method => rfl
  | query query' =>
    refine gives_of_ne (fun same => ?_) answer
    have to_redshift : dispatch srv hasMySQL (.query query') = .redshift query :=
      dispatch_eq_redshift_iff.mpr ⟨by rw [same], routed⟩
    rw [dest] at to_redshift
    cases to_redshift

theorem no_gain {had has total : Multiset MySQLResult} (less : has ≤ had) :
    ∃ gain, has ≤ had + gain ∧ total = total + gain :=
  ⟨0, by rwa [add_zero], (add_zero _).symm⟩

/-- A connection gains no more than what is fetched meanwhile. -/
theorem Moves.share {conn conn' : Conn} {st : ConnStep} {calls : Interleaving.Sys String}
    {c next : Nat} (routed : srv.onRedshift query = true) (owned : Owned (Apart srv) s)
    (live : s.conns c = some conn)
    (moves : Moves srv hasMySQL s.calls s.next conn st conn' calls next) :
    ∃ gain, conn'.share srv query ≤ conn.share srv query + gain ∧
      fetched srv query calls.trace = fetched srv query s.calls.trace + gain := by
  cases moves with
  | sent cmd open_ => exact no_gain (le_refl _)
  | answered dest =>
    refine no_gain ?_
    simp only [Conn.share, Conn.given, Doing.holds, gives_of_dispatch routed dest, le_refl]
  | toMySQL dest => exact no_gain (le_refl _)
  | toRedshift dest arrived =>
    obtain ⟨-, rfl⟩ := stepCalls_arrive arrived
    refine no_gain ?_
    simp only [Conn.share, Conn.given, Doing.holds, noAttempt, Interleaving.replyTo, gives_error,
      le_refl]
  | @executed _ _ _ query' outcome =>
    have elsewhere : query' ≠ query := by
      rintro rfl
      have unrouted := owned.conns c _ live query' rfl
      rw [routed] at unrouted
      cases unrouted
    refine no_gain ?_
    simp only [Conn.share, Conn.given, Doing.holds, gives_of_ne elsewhere, le_refl]
  | @called sent unread answered query' i ends st _ stepped =>
    obtain ⟨pc, live_call⟩ := owned.live c _ query' i ends live rfl
    obtain ⟨pc', sh, moved, rfl⟩ := stepCalls_call live_call stepped
    refine ⟨draws srv query query' st, ?_, fetched_moves moved⟩
    simp only [Conn.share, Conn.given, Doing.holds, add_assoc]
    exact add_le_add_right (gives_after ..) _
  | returned done => exact no_gain (le_refl _)
  | responded =>
    refine no_gain ?_
    simp only [Conn.share, Conn.given, Doing.holds, List.map_append, List.sum_append,
      List.map_singleton, List.sum_singleton, add_zero, le_refl]
  | left => exact no_gain (le_refl _)
  | lost =>
    refine no_gain ?_
    simp only [Conn.share, Conn.given, Doing.holds, add_zero]
    exact le_add_of_nonneg_right (Multiset.zero_le _)

/-! ## Runs -/

theorem share_update (c : Nat) (conn : Conn) (calls : Interleaving.Sys String) (next : Nat) :
    share srv { calls, next, conns := Function.update s.conns c (some conn) } query =
      Function.update (share srv s query) c (conn.share srv query) := by
  funext c'
  by_cases same : c' = c
  · subst same
    simp only [share, Function.update_self, Option.elim_some]
  · simp only [share, Function.update_of_ne same]

/-- Any step keeps the shares of the connections within what is fetched. -/
theorem within_step (routed : srv.onRedshift query = true) (owned : Owned (Apart srv) s)
    (within : SharesWithin (share srv s query) (fetched srv query s.calls.trace))
    (h : step srv hasMySQL s l = some t) :
    SharesWithin (share srv t query) (fetched srv query t.calls.trace) := by
  rcases step_cases h with ⟨c, -, free, rfl⟩ |
    ⟨c, st, conn, conn', calls, next, rfl, live, moves, rfl⟩ | ⟨k, calls, -, evicted, rfl⟩
  · rw [share_update, ← add_zero (fetched srv query s.calls.trace)]
    exact within.update (Multiset.zero_le _) (le_refl _)
  · obtain ⟨gain, gains, total⟩ := moves.share routed owned live
    have had : share srv s query c = conn.share srv query := by
      simp only [share, live, Option.elim_some]
    rw [share_update, total]
    exact within.update (had ▸ gains) (Multiset.zero_le _)
  · rcases Interleaving.step_cases evicted with ⟨i, query', same, -⟩ |
      ⟨i, st, call, pc, sh, same, -⟩ | ⟨k, same, rfl⟩ <;> cases same
    exact within

theorem apart_step (owned : Owned (Apart srv) s) (h : step srv hasMySQL s l = some t) :
    Owned (Apart srv) t := by
  refine owned.step Apart.loc h (fun query asked => by cases asked) ?_
  intro c st conn conn' calls next _ live moves query asked
  cases moves with
  | sent cmd open_ => exact owned.conns c conn live query asked
  | toMySQL dest =>
    cases asked
    exact (of_dispatch_mysql dest).2.2
  | _ => cases asked

/-- In any run, with parties that answer anything at any time: what the clients of any
connections have been given, all together, for a query that goes to Redshift are results of
executions that Redshift made for that query, and each execution's result is given once. -/
theorem results_fetched (srv : Server C) (hasMySQL : Bool) (ls : List Label) (s : Sys)
    (reached : (machine srv hasMySQL).run start ls = some s) (query : String)
    (routed : srv.onRedshift query = true) (clients : Finset Nat) :
    ∑ c ∈ clients, (s.conns c).elim 0 (Conn.given query) ≤ fetched srv query s.calls.trace := by
  have both : Owned (Apart srv) s ∧
      SharesWithin (share srv s query) (fetched srv query s.calls.trace) :=
    Machine.run_induction (M := machine srv hasMySQL)
      (I := fun u => Owned (Apart srv) u ∧ SharesWithin (share srv u query)
        (fetched srv query u.calls.trace))
      (fun _ _ _ both h => ⟨apart_step both.1 h, within_step routed both.1 both.2 h⟩)
      ⟨owned_start, .zero (Multiset.zero_le _)⟩ reached
  refine both.2.mono (fun c => ?_) clients
  cases live : s.conns c with
  | none => exact Multiset.zero_le _
  | some conn =>
    simp only [share, live, Option.elim_some]
    exact le_add_of_nonneg_right (Multiset.zero_le _)

/-- Two clients with queries of one key: the second one is given what its own execution of the
first one's text has fetched. -/
def crossed : List Label :=
  [.accept 0, .accept 1, .conn 0 (.send (.query nameOf1)), .conn 1 (.send (.query nameOf2)),
    .conn 0 .readCommand, .conn 1 .readCommand, .conn 0 (.call .get),
    .conn 0 (.call (.translate (echo { sql := nameOf1 }))), .conn 0 (.call .set),
    .conn 1 (.call .get), .conn 1 (.call (.execSelect (annAndBob nameOf1).1)), .conn 1 .ret,
    .conn 1 .respond]

theorem results_fetched_crossed :
    ∃ s conn, (machine defaultServer false).run start crossed = some s ∧
      s.conns 1 = some conn ∧ (conn.given nameOf2).card = 1 ∧
      conn.given nameOf2 ≤ fetched defaultServer nameOf2 s.calls.trace := by
  have facts : ((machine defaultServer false).run start crossed).map (fun s =>
      (s.conns 1).elim 0 fun conn => (conn.given nameOf2).card) = some 1 := by decide +kernel
  obtain ⟨s, run, one⟩ := Option.map_eq_some_iff.mp facts
  have within := results_fetched defaultServer false crossed s run nameOf2 onRedshift_nameOf2 {1}
  rw [Finset.sum_singleton] at within
  cases live : s.conns 1 with
  | none => simp [live] at one
  | some conn =>
    rw [live] at one within
    exact ⟨s, conn, run, live, one, within⟩

end MysqlRedshift.Proxy.Connections
