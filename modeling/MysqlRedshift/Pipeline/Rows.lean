import Mathlib.Data.List.Perm.Basic
import MysqlRedshift.Pipeline.System

/-!
# What becomes of a query in the knowledge base

In a run of the whole system, each request of the proxy is accounted for: it was handed over
by one call that had won, it was accepted or dropped, and what was accepted is in the
channel, on the way, or in one save of the agent. So a runtime row of the knowledge base
stands for an execution of its text on Redshift that returned rows.
-/

namespace MysqlRedshift.Pipeline

open MysqlRedshift.Misc MysqlRedshift.Agent
open MysqlRedshift.Proxy (Result ReturnedFor runtimeSave)

/-! ## The proxy's end -/

section

open Proxy.Interleaving

variable {K : Type} [DecidableEq K] {key : String → K} {maxAttempts : Nat}

/-- A call wins by an execution, and keeps what it has won. -/
theorem won_of_moves {query text : String} {sh sh' : Shared K} {pc pc' : Pc} {st : Step}
    (moves : Moves key maxAttempts query sh pc st pc' sh') (won : pc'.won = some text) :
    (∃ result, st = .execSelect (.ok result) ∧
        .execSelect query text (.ok result) ∈ sh'.trace) ∨
      pc.won = some text ∧ ∀ outcome, st ≠ .execSelect outcome := by
  cases moves with
  | hit | set => simp [won_enter] at won
  | wonFirst rsQuery left result =>
    cases won
    exact Or.inl ⟨result, rfl, List.mem_cons_self⟩
  | wonFixed differs left result =>
    cases won
    exact Or.inl ⟨result, rfl, List.mem_cons_self⟩
  | finalSet => exact Or.inr ⟨won, fun _ => by simp⟩
  | _ => simp [Pc.won] at won

/-- Each call that has won has the result of an execution of the winning text. -/
def Results (p : Proxy.Interleaving.Sys K) (results : Nat → Option (Result × Int)) : Prop :=
  ∀ i c text, p.calls i = some c → c.pc.won = some text →
    ∃ result ms, results i = some (result, ms) ∧ .execSelect c.query text (.ok result) ∈ p.trace

omit [DecidableEq K] in
theorem noted_call (results : Nat → Option (Result × Int)) (ms : Int) (i : Nat) (st : Step) :
    (∃ result, st = .execSelect (.ok result) ∧ (noted results ms (.call i st : Action K)) =
        Function.update results i (some (result, ms))) ∨
      noted results ms (.call i st : Action K) = results := by
  cases st with
  | execSelect outcome =>
    cases outcome with
    | ok result => exact Or.inl ⟨result, rfl, rfl⟩
    | error err => exact Or.inr rfl
  | _ => exact Or.inr rfl

omit [DecidableEq K] in
theorem noted_of_ne {results : Nat → Option (Result × Int)} {ms : Int} {i j : Nat} {st : Step}
    (other : i ≠ j) : noted results ms (.call j st : Action K) i = results i := by
  rcases noted_call (K := K) results ms j st with ⟨result, -, written⟩ | same
  · rw [written, Function.update_of_ne other]
  · rw [same]

theorem results_step {p q : Proxy.Interleaving.Sys K} {results : Nat → Option (Result × Int)}
    {a : Action K} (had : Results p results) (ms : Int)
    (h : Proxy.Interleaving.step key maxAttempts p a = some q) :
    Results q (noted results ms a) := by
  intro j c' text live' won
  rcases step_cases h with ⟨i, query, rfl, -, rfl⟩ | ⟨i, st, c, pc, sh, rfl, live, moved, rfl⟩ |
    ⟨k, rfl, rfl⟩
  · rcases update_some_cases live' with ⟨-, rfl⟩ | ⟨-, before⟩
    · cases won
    · exact had j c' text before won
  · have moves := stepCall_moves moved
    obtain ⟨events, grown⟩ := moves.grows
    rcases update_some_cases live' with ⟨rfl, rfl⟩ | ⟨other, before⟩
    · rcases won_of_moves moves won with ⟨result, rfl, ran⟩ | ⟨before, other⟩
      · exact ⟨result, ms, Function.update_self .., ran⟩
      · obtain ⟨result, ms', got, ran⟩ := had j c text live before
        refine ⟨result, ms', ?_, grown ▸ List.mem_append_right events ran⟩
        rcases noted_call (K := K) results ms j st with ⟨_, executed, -⟩ | same
        · exact absurd executed (other _)
        · rw [same, got]
    · obtain ⟨result, ms', got, ran⟩ := had j c' text before won
      exact ⟨result, ms', (noted_of_ne other).trans got, grown ▸ List.mem_append_right events ran⟩
  · exact had j c' text live' won

/-- A call that has ended takes no more steps, and its result stays. -/
theorem done_step {p q : Proxy.Interleaving.Sys K} {a : Action K}
    (results : Nat → Option (Result × Int)) (ms : Int)
    (h : Proxy.Interleaving.step key maxAttempts p a = some q) {i : Nat} {query : String}
    {won : Option String} (ended : p.calls i = some ⟨query, .done won⟩) :
    q.calls i = some ⟨query, .done won⟩ ∧ noted results ms a i = results i := by
  rcases step_cases h with ⟨j, query', rfl, free, rfl⟩ | ⟨j, st, c, pc, sh, rfl, live, moved, rfl⟩ |
    ⟨k, rfl, rfl⟩
  · refine ⟨(Function.update_of_ne (fun same => ?_) ..).trans ended, rfl⟩
    rw [same, free] at ended
    cases ended
  · have other : i ≠ j := by
      rintro rfl
      rw [live, Option.some.injEq] at ended
      subst ended
      cases stepCall_moves moved
    exact ⟨(Function.update_of_ne other ..).trans ended, noted_of_ne other⟩
  · exact ⟨ended, rfl⟩

end

/-! ## The whole -/

variable {K V S : Type} [DecidableEq K] [LinearOrder S] {key : String → K} {maxAttempts : Nat}
  {kb : Knowledge.Env V S} {s t : Sys K V kb.md5} {l : Label K}

/-- The request is that of the result with which call `i` has ended. -/
def Earned (s : Sys K V kb.md5) (i : Nat) (req : Proxy.SaveReq) : Prop :=
  ∃ query winningSQL result ms, s.proxy.calls i = some ⟨query, .done (some winningSQL)⟩ ∧
    s.results i = some (result, ms) ∧ Worthwhile result winningSQL ∧
    req = runtimeSave query winningSQL result ms

/-- Requests are those of calls, one each; what was sent is on the way or was taken, by one
save each; and all saves that are not curated have taken one. -/
structure Inv (s : Sys K V kb.md5) : Prop where
  results : Results s.proxy s.results
  earned : ∀ i req, (i, req) ∈ s.handed → Earned s i req
  handedOnce : (s.handed.map Prod.fst).Nodup
  offered : s.client.calls.map Prod.fst = s.handed.map Prod.snd
  sent : (s.taken.map Prod.snd ++ s.wire).Perm (s.client.posted ++ s.client.hand.toList)
  saves : ∀ j req, (j, req) ∈ s.taken → (s.kb.calls j).isSome
  takenOnce : (s.taken.map Prod.fst).Nodup
  owned : ∀ j c, s.kb.calls j = some c → Knowledge.bypassFilter c.args.source = false →
    ∃ req, (j, req) ∈ s.taken ∧ c.args = received req

omit [DecidableEq K] [LinearOrder S] in
theorem inv_start : Inv (start kb : Sys K V kb.md5) where
  results _ _ _ live := by cases live
  earned _ _ member := by cases member
  handedOnce := List.nodup_nil
  offered := rfl
  sent := .refl _
  saves _ _ member := by cases member
  takenOnce := List.nodup_nil
  owned _ _ live := by cases live

/-- The agent's own steps bring curated saves only. -/
theorem owned_step {k k' : Knowledge.State V kb.md5} {taken : List (Nat × Proxy.SaveReq)}
    {a : Knowledge.Action}
    (owned : ∀ j c, k.calls j = some c → Knowledge.bypassFilter c.args.source = false →
      ∃ req, (j, req) ∈ taken ∧ c.args = received req)
    (brings : ∀ j args, a = .call j args → Knowledge.bypassFilter args.source = false →
      ∃ req, (j, req) ∈ taken ∧ args = received req)
    (h : Knowledge.step kb k a = some k') :
    ∀ j c, k'.calls j = some c → Knowledge.bypassFilter c.args.source = false →
      ∃ req, (j, req) ∈ taken ∧ c.args = received req := by
  intro j c live unfiltered
  rcases Knowledge.args_of_step h live with ⟨old, before, same⟩ | ⟨rfl, -⟩
  · rw [← same] at unfiltered ⊢
    exact owned j old before unfiltered
  · exact brings j c.args rfl unfiltered

theorem Inv.step (inv : Inv s) (h : step key maxAttempts kb s l = some t) : Inv t := by
  cases step_trans h with
  | @proxy a ms p moved =>
    refine { inv with
      results := results_step inv.results ms moved
      earned := fun i req member => ?_ }
    obtain ⟨query, winningSQL, result, ms', ended, got, rest⟩ := inv.earned i req member
    obtain ⟨ended', same⟩ := done_step s.results ms moved ended
    exact ⟨query, winningSQL, result, ms', ended', same.trans got, rest⟩
  | @saveAsync i query winningSQL result ms client won got first worthwhile called =>
    have earned (j : Nat) (req : Proxy.SaveReq)
        (member : (j, req) ∈ s.handed ++ [(i, runtimeSave query winningSQL result ms)]) :
        Earned s j req := by
      rcases List.mem_append.mp member with before | new
      · exact inv.earned j req before
      · cases List.mem_singleton.mp new
        exact ⟨query, winningSQL, result, ms, won, got, worthwhile, rfl⟩
    have once :
        ((s.handed ++ [(i, runtimeSave query winningSQL result ms)]).map Prod.fst).Nodup := by
      rw [List.map_append, List.nodup_append_comm]
      exact List.nodup_cons.mpr ⟨first, inv.handedOnce⟩
    have offered (kept : Bool) :
        (s.client.calls ++ [(runtimeSave query winningSQL result ms, kept)]).map Prod.fst =
          (s.handed ++ [(i, runtimeSave query winningSQL result ms)]).map Prod.snd := by
      rw [List.map_append, List.map_append, inv.offered]
      rfl
    rcases Proxy.SaveQueue.saveAsync_cases s.client (runtimeSave query winningSQL result ms) with
      ⟨ch, accepted, -⟩ | ⟨dropped, -⟩
    · cases accepted.symm.trans called
      exact { inv with earned := earned, handedOnce := once, offered := offered true }
    · cases dropped.symm.trans called
      exact { inv with earned := earned, handedOnce := once, offered := offered false }
  | receive received =>
    obtain ⟨req, ch, free, -, rfl⟩ := Proxy.SaveQueue.receive_cases received
    refine { inv with sent := ?_ }
    have before := inv.sent
    rw [free, Option.toList_none, List.append_nil] at before
    rw [Option.toList_some, ← List.append_assoc]
    exact before.append_right [req]
  | post posted =>
    obtain ⟨req, held, rfl⟩ := Proxy.SaveQueue.post_cases posted
    refine { inv with sent := ?_ }
    have before := inv.sent
    rw [held] at before
    simpa using before
  | @take n j req k sent called =>
    obtain ⟨bound, rfl⟩ := List.getElem?_eq_some_iff.mp sent
    have free : s.kb.calls j = none := by
      cases Knowledge.step_trans called with
      | call free => exact free
    have there : (k.calls j).isSome := by
      cases Knowledge.step_trans called with
      | call => simp only [Function.update_self, Option.isSome_some]
    have unused : j ∉ s.taken.map Prod.fst := by
      intro used
      obtain ⟨⟨j', req'⟩, member, rfl⟩ := List.mem_map.mp used
      have live := inv.saves j' req' member
      rw [free] at live
      cases live
    have arrived : ((s.taken ++ [(j, s.wire[n])]).map Prod.snd ++ s.wire.eraseIdx n).Perm
        (s.taken.map Prod.snd ++ s.wire) := by
      rw [List.map_append, List.append_assoc]
      exact (List.getElem_cons_eraseIdx_perm bound).append_left _
    refine { inv with
      sent := arrived.trans inv.sent
      saves := fun j' req' member => ?_
      takenOnce := ?_
      owned := owned_step ?_ ?_ called }
    · rcases List.mem_append.mp member with before | new
      · exact Knowledge.live_of_step called (inv.saves j' req' before)
      · cases List.mem_singleton.mp new
        exact there
    · rw [List.map_append, List.nodup_append_comm]
      exact List.nodup_cons.mpr ⟨unused, inv.takenOnce⟩
    · intro j' c live unfiltered
      obtain ⟨req', member, same⟩ := inv.owned j' c live unfiltered
      exact ⟨req', List.mem_append_left _ member, same⟩
    · intro j' args named _
      cases named
      exact ⟨s.wire[n], List.mem_append_right _ List.mem_cons_self, rfl⟩
  | agent curated moved =>
    refine { inv with
      saves := fun j req member => Knowledge.live_of_step moved (inv.saves j req member)
      owned := owned_step inv.owned (fun j args named unfiltered => ?_) moved }
    subst named
    exact absurd (show Knowledge.bypassFilter args.source = true from curated)
      (by simp [unfiltered])

theorem inv_run {ls : List (Label K)}
    (reached : (machine key maxAttempts kb).run (start kb) ls = some s) : Inv s :=
  Machine.run_induction (fun _ _ _ inv h => inv.step h) inv_start reached

/-- What was sent, and what is still in the channel, is what was accepted. -/
theorem accounted_run {ls : List (Label K)}
    (reached : (machine key maxAttempts kb).run (start kb) ls = some s) :
    (s.taken.map Prod.snd ++ (s.wire ++ s.client.ch.buffer)).Perm s.client.accepted := by
  have accounts : Proxy.SaveQueue.Accounts s.client :=
    Proxy.SaveQueue.run_accounts ((queuePart key maxAttempts kb).run_labels reached)
  rw [← accounts, ← List.append_assoc, ← List.append_assoc]
  exact (inv_run reached).sent.append_right _

omit [DecidableEq K] [LinearOrder S] in
/-- What was accepted is among what was handed over. -/
theorem accepted_sublist (inv : Inv s) : s.client.accepted.Sublist (s.handed.map Prod.snd) := by
  rw [← inv.offered]
  exact List.filter_sublist.map Prod.fst

/-- In every reachable state of the whole, whatever interleaves, fails and comes late, the
requests that were accepted are in the channel, on the way, or in one save of the agent
each; they are among those handed over, one by each call at most, of a call that has ended
with a result with rows and a text that is short. -/
theorem requests_accounted (key : String → K) (maxAttempts : Nat) (kb : Knowledge.Env V S)
    (ls : List (Label K)) (s : Sys K V kb.md5)
    (reached : (machine key maxAttempts kb).run (start kb) ls = some s) :
    (s.taken.map Prod.snd ++ (s.wire ++ s.client.ch.buffer)).Perm s.client.accepted ∧
      (s.taken.map Prod.fst).Nodup ∧
      s.client.accepted.Sublist (s.handed.map Prod.snd) ∧ (s.handed.map Prod.fst).Nodup ∧
      ∀ i req, (i, req) ∈ s.handed → Earned s i req := by
  have inv := inv_run reached
  exact ⟨accounted_run reached, inv.takenOnce, accepted_sublist inv, inv.handedOnce, inv.earned⟩

/-- A query that is translated, run and saved; its save was taken up when the worker had
given it up. -/
def savedOrders : List (Label String) :=
  [.proxy (.arrive 0 Knowledge.ordersText) 0, .proxy (.call 0 .get) 0,
    .proxy (.call 0 (.translate (.ok { redshiftSQL := "SELECT COUNT(*) AS c FROM orders" }))) 0,
    .proxy (.call 0 .set) 0, .proxy (.call 0 (.execSelect (.ok ⟨["c"], [[.int 7]]⟩))) 5,
    .saveAsync 0, .receive, .post (.failed "timeout"), .take 0 0, .agent (.nearest 0 none),
    .agent (.insert 0 1)]

theorem requests_accounted_savedOrders :
    ∃ s, (machine id 3 Knowledge.sameTextOnly).run (start Knowledge.sameTextOnly) savedOrders =
        some s ∧
      s.taken.length = 1 ∧
      (s.taken.map Prod.snd ++ (s.wire ++ s.client.ch.buffer)).Perm s.client.accepted := by
  have run := (rfl : (machine id 3 Knowledge.sameTextOnly).run (start Knowledge.sameTextOnly)
    savedOrders = some _)
  exact ⟨_, run, rfl, (requests_accounted id 3 Knowledge.sameTextOnly savedOrders _ run).1⟩

/-- What the agent has taken, a call has earned. -/
theorem earned_of_taken {ls : List (Label K)}
    (reached : (machine key maxAttempts kb).run (start kb) ls = some s) {j : Nat}
    {req : Proxy.SaveReq} (taken : (j, req) ∈ s.taken) : ∃ i, Earned s i req := by
  have inv := inv_run reached
  have accepted : req ∈ s.client.accepted :=
    (accounted_run reached).subset (List.mem_append_left _ (List.mem_map.mpr ⟨_, taken, rfl⟩))
  obtain ⟨⟨i, req'⟩, member, rfl⟩ := List.mem_map.mp ((accepted_sublist inv).subset accepted)
  exact ⟨i, inv.earned i req' member⟩

/-- A result with rows is counted in what the agent reads. -/
theorem received_rowCount (query winningSQL : String) {result : Result} (ms : Int)
    (rows : 0 < result.rows.length) :
    (received (runtimeSave query winningSQL result ms)).rowCount =
      some (result.rows.length : Int) :=
  if_neg (show (result.rows.length : Int) ≠ 0 by omega)

/-- In every reachable state of the whole, a row that no seed and no import has written last
stands for a call of the proxy: its text was returned by the agent for a query of the same
key, was run on Redshift for that query and has returned rows, as many as the row says. -/
theorem runtime_rows_executed (key : String → K) (maxAttempts : Nat) (kb : Knowledge.Env V S)
    (ls : List (Label K)) (s : Sys K V kb.md5)
    (reached : (machine key maxAttempts kb).run (start kb) ls = some s) :
    ∀ r ∈ s.kb.table.rows, Knowledge.bypassFilter r.source = false →
      ∃ i query result, s.proxy.calls i = some ⟨query, .done (some r.redshiftSQL)⟩ ∧
        .execSelect query r.redshiftSQL (.ok result) ∈ s.proxy.trace ∧
        (∃ query', key query' = key query ∧ ReturnedFor s.proxy.trace query' r.redshiftSQL) ∧
        kb.md5 r.mysqlSQL = kb.md5 query ∧
        0 < result.rows.length ∧ r.rowCount = some (result.rows.length : Int) ∧
        goLen r.redshiftSQL < 8000 ∧
        Knowledge.isLowValue kb.db query r.redshiftSQL r.rowCount = none ∧
        r.source = "runtime" ∧ r.compareMode = "skipped" := by
  intro r member unfiltered
  have inv := inv_run reached
  have saves := (agentPart key maxAttempts kb).run_labels reached
  obtain ⟨j, c, live, ended, written⟩ := Knowledge.authored_run saves r member
  rw [written.source] at unfiltered
  obtain ⟨req, taken, args⟩ := inv.owned j c live unfiltered
  obtain ⟨i, query, winningSQL, result, ms, won, got, ⟨rows, short⟩, rfl⟩ :=
    earned_of_taken reached taken
  have valued := Knowledge.valued_run saves j c live unfiltered (by simp [ended])
  have text : r.redshiftSQL = winningSQL := by rw [written.redshiftSQL, args, received, runtimeSave]
  obtain ⟨result', ms', got', ran⟩ := inv.results i _ winningSQL won rfl
  obtain ⟨rfl, -⟩ := Prod.mk.inj (Option.some.inj (got.symm.trans got'))
  have keyed : Proxy.Interleaving.Keyed key s.proxy :=
    Machine.run_induction (fun _ _ _ keyed h => keyed.step h) Proxy.Interleaving.keyed_start
      ((proxyPart key maxAttempts kb).run_labels reached)
  refine ⟨i, query, result, text ▸ won, text ▸ ran, text ▸ keyed.executed _ _ _ ran, ?_, rows, ?_,
    text ▸ short, ?_, ?_, ?_⟩
  · rw [written.digest, args, received, runtimeSave]
  · rw [written.rowCount, args, received_rowCount query winningSQL ms rows]
  · rw [written.redshiftSQL, written.rowCount]
    rw [args] at valued ⊢
    exact valued
  · rw [written.source, args]
    rfl
  · rw [written.compareMode, args]
    rfl

theorem runtime_rows_executed_savedOrders :
    ∃ s r, (machine id 3 Knowledge.sameTextOnly).run (start Knowledge.sameTextOnly) savedOrders =
        some s ∧
      r ∈ s.kb.table.rows ∧ r.source = "runtime" ∧
      ∃ i query result, s.proxy.calls i = some ⟨query, .done (some r.redshiftSQL)⟩ ∧
        .execSelect query r.redshiftSQL (.ok result) ∈ s.proxy.trace := by
  have stored : (((machine id 3 Knowledge.sameTextOnly).run (start Knowledge.sameTextOnly)
      savedOrders).map fun s => s.kb.table.rows.map Knowledge.Row.source) = some ["runtime"] := by
    decide +kernel
  obtain ⟨s, run, sources⟩ := Option.map_eq_some_iff.mp stored
  obtain ⟨r, rest, rows, source, -⟩ := List.map_eq_cons_iff.mp sources
  have member : r ∈ s.kb.table.rows := by
    rw [rows]
    exact List.mem_cons_self
  obtain ⟨i, query, result, ended, ran, -⟩ := runtime_rows_executed id 3 Knowledge.sameTextOnly
    savedOrders s run r member (by rw [source]; decide)
  exact ⟨s, r, run, member, source, i, query, result, ended, ran⟩

end MysqlRedshift.Pipeline
