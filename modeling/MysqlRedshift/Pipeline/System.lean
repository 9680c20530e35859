import MysqlRedshift.Agent.RowHistory
import MysqlRedshift.Agent.SaveRequest
import MysqlRedshift.Misc.Projection
import MysqlRedshift.Proxy.InterleavingProps
import MysqlRedshift.Proxy.SaveQueue

/-!
# From a query to the knowledge base

The calls of the proxy, the queue of save requests behind them, and the saves of the agent,
as one system: a call that has won hands a request to `SaveAsync`, the worker sends it, and
the agent takes it up, or never does. Each of the three is a machine of its own, and a step
here is a step of one of them, or of two where a request goes over. A request that is sent
may be taken up late, when the worker has given it up and sent others, but not twice. The
other saves of the agent are those of the seed script and of imports.
-/

namespace MysqlRedshift.Pipeline

open MysqlRedshift.Misc MysqlRedshift.Agent
open MysqlRedshift.Proxy (Result runtimeSave)

/-- The proxy, the queue and the knowledge base, with what is on the way between them, and
the history of it. -/
structure Sys (K V : Type) (md5 : String → String) where
  proxy : Proxy.Interleaving.Sys K
  /-- The result of a call's successful execution, with its milliseconds. -/
  results : Nat → Option (Result × Int)
  /-- The calls that have handed over a request, in order. -/
  handed : List (Nat × Proxy.SaveReq)
  client : Proxy.SaveQueue.Client
  /-- The requests that were sent and not taken up. -/
  wire : List Proxy.SaveReq
  /-- The saves of the agent that take requests of the proxy, in order. -/
  taken : List (Nat × Proxy.SaveReq)
  kb : Knowledge.State V md5

/-- Whose step it is, with what is left open in it. -/
inductive Label (K : Type) where
  | proxy (a : Proxy.Interleaving.Action K) (ms : Int)
  | saveAsync (i : Nat)
  | receive
  | post (x : Proxy.SaveQueue.Exchange)
  | take (n j : Nat)
  | agent (a : Knowledge.Action)

/-- `len(result.Rows) > 0 && len(winningSQL) < 8000`. -/
def Worthwhile (result : Result) (winningSQL : String) : Prop :=
  0 < result.rows.length ∧ goLen winningSQL < 8000

instance (result : Result) (winningSQL : String) : Decidable (Worthwhile result winningSQL) :=
  inferInstanceAs (Decidable (_ ∧ _))

/-- The result that a step of a call leaves in its local variables. -/
def noted {K : Type} (results : Nat → Option (Result × Int)) (ms : Int) :
    Proxy.Interleaving.Action K → Nat → Option (Result × Int)
  | .call i (.execSelect (.ok result)) => Function.update results i (some (result, ms))
  | _ => results

/-- What the agent does beside the requests of the proxy. -/
def Curated : Knowledge.Action → Prop
  | .call _ args => Knowledge.bypassFilter args.source = true
  | _ => True

instance (a : Knowledge.Action) : Decidable (Curated a) := by
  cases a <;> unfold Curated <;> infer_instance

variable {K V S : Type} [DecidableEq K] [LinearOrder S]

/-- The request that a call hands over, once it has won and if it has not done so. -/
def Sys.request {md5 : String → String} (s : Sys K V md5) (i : Nat) : Option Proxy.SaveReq :=
  match s.proxy.calls i, s.results i with
  | some ⟨query, .done (some winningSQL)⟩, some (result, ms) =>
    if i ∉ s.handed.map Prod.fst ∧ Worthwhile result winningSQL then
      some (runtimeSave query winningSQL result ms)
    else none
  | _, _ => none

variable (key : String → K) (maxAttempts : Nat) (kb : Knowledge.Env V S)

def step (s : Sys K V kb.md5) : Label K → Option (Sys K V kb.md5)
  | .proxy a ms =>
    (Proxy.Interleaving.step key maxAttempts s.proxy a).map fun proxy =>
      { s with proxy, results := noted s.results ms a }
  | .saveAsync i =>
    (s.request i).bind fun req => (s.client.saveAsync req).map fun client =>
      { s with client, handed := s.handed ++ [(i, req)] }
  | .receive =>
    s.client.receive.map fun client =>
      { s with client, wire := s.wire ++ client.hand.toList }
  | .post x => (s.client.post x).map fun client => { s with client }
  | .take n j =>
    (s.wire[n]?).bind fun req => (Knowledge.step kb s.kb (.call j (received req))).map fun kb =>
      { s with kb, wire := s.wire.eraseIdx n, taken := s.taken ++ [(j, req)] }
  | .agent a =>
    if Curated a then (Knowledge.step kb s.kb a).map fun kb => { s with kb } else none

def machine : Machine (Sys K V kb.md5) (Label K) := ⟨step key maxAttempts kb⟩

/-- Nothing has happened. -/
def start : Sys K V kb.md5 where
  proxy := Proxy.Interleaving.start
  results _ := none
  handed := []
  client := Proxy.SaveQueue.new
  wire := []
  taken := []
  kb := Knowledge.start kb

/-! ## What a step can do -/

/-- The steps, each with what it needs. -/
inductive Trans (key : String → K) (maxAttempts : Nat) (kb : Knowledge.Env V S) :
    Sys K V kb.md5 → Label K → Sys K V kb.md5 → Prop where
  | proxy {s a ms proxy} (moved : Proxy.Interleaving.step key maxAttempts s.proxy a = some proxy) :
      Trans key maxAttempts kb s (.proxy a ms) { s with proxy, results := noted s.results ms a }
  | saveAsync {s i query winningSQL result ms client}
      (won : s.proxy.calls i = some ⟨query, .done (some winningSQL)⟩)
      (got : s.results i = some (result, ms)) (first : i ∉ s.handed.map Prod.fst)
      (worthwhile : Worthwhile result winningSQL)
      (called : s.client.saveAsync (runtimeSave query winningSQL result ms) = some client) :
      Trans key maxAttempts kb s (.saveAsync i)
        { s with client, handed := s.handed ++ [(i, runtimeSave query winningSQL result ms)] }
  | receive {s client} (received : s.client.receive = some client) :
      Trans key maxAttempts kb s .receive
        { s with client, wire := s.wire ++ client.hand.toList }
  | post {s x client} (posted : s.client.post x = some client) :
      Trans key maxAttempts kb s (.post x) { s with client }
  | take {s n j req k} (sent : s.wire[n]? = some req)
      (called : Knowledge.step kb s.kb (.call j (received req)) = some k) :
      Trans key maxAttempts kb s (.take n j)
        { s with kb := k, wire := s.wire.eraseIdx n, taken := s.taken ++ [(j, req)] }
  | agent {s a k} (curated : Curated a) (moved : Knowledge.step kb s.kb a = some k) :
      Trans key maxAttempts kb s (.agent a) { s with kb := k }

variable {key maxAttempts kb} {s t : Sys K V kb.md5} {l : Label K}

omit [DecidableEq K] [LinearOrder S] in
theorem request_cases {i : Nat} {req : Proxy.SaveReq} (h : s.request i = some req) :
    ∃ query winningSQL result ms, s.proxy.calls i = some ⟨query, .done (some winningSQL)⟩ ∧
      s.results i = some (result, ms) ∧ i ∉ s.handed.map Prod.fst ∧
      Worthwhile result winningSQL ∧ req = runtimeSave query winningSQL result ms := by
  unfold Sys.request at h
  split at h
  · next query winningSQL result ms won got =>
    split at h
    · next ready =>
      exact ⟨query, winningSQL, result, ms, won, got, ready.1, ready.2, (Option.some.inj h).symm⟩
    · cases h
  · cases h

theorem step_trans (h : step key maxAttempts kb s l = some t) :
    Trans key maxAttempts kb s l t := by
  cases l with
  | proxy a ms =>
    obtain ⟨proxy, moved, rfl⟩ := Option.map_eq_some_iff.mp h
    exact .proxy moved
  | saveAsync i =>
    obtain ⟨req, ready, rest⟩ := Option.bind_eq_some_iff.mp h
    obtain ⟨client, called, rfl⟩ := Option.map_eq_some_iff.mp rest
    obtain ⟨query, winningSQL, result, ms, won, got, first, worthwhile, rfl⟩ := request_cases ready
    exact .saveAsync won got first worthwhile called
  | receive =>
    obtain ⟨client, received, rfl⟩ := Option.map_eq_some_iff.mp h
    exact .receive received
  | post x =>
    obtain ⟨client, posted, rfl⟩ := Option.map_eq_some_iff.mp h
    exact .post posted
  | take n j =>
    obtain ⟨req, sent, rest⟩ := Option.bind_eq_some_iff.mp h
    obtain ⟨k, called, rfl⟩ := Option.map_eq_some_iff.mp rest
    exact .take sent called
  | agent a =>
    by_cases curated : Curated a
    · rw [step, if_pos curated] at h
      obtain ⟨k, moved, rfl⟩ := Option.map_eq_some_iff.mp h
      exact .agent curated moved
    · rw [step, if_neg curated] at h
      cases h

/-! ## The parts -/

/-- The system as its proxy. -/
def proxyPart (key : String → K) (maxAttempts : Nat) (kb : Knowledge.Env V S) :
    Projection (machine key maxAttempts kb) (Proxy.Interleaving.machine key maxAttempts) where
  abs := Sys.proxy
  label _
    | .proxy a _ => some a
    | _ => none
  silent h silent := by
    cases step_trans h with
    | proxy => cases silent
    | _ => rfl
  moves h moves := by
    cases step_trans h with
    | proxy moved =>
      cases moves
      exact moved
    | _ => cases moves

/-- The system as the queue of save requests. -/
def queuePart (key : String → K) (maxAttempts : Nat) (kb : Knowledge.Env V S) :
    Projection (machine key maxAttempts kb) Proxy.SaveQueue.queue where
  abs := Sys.client
  label s
    | .saveAsync i => (s.request i).map .saveAsync
    | .receive => some .receive
    | .post x => some (.post x)
    | _ => none
  silent h silent := by
    cases step_trans h with
    | proxy | take | agent => rfl
    | saveAsync won got first worthwhile =>
      simp only [Sys.request, won, got, first, worthwhile, not_false_eq_true, and_self, if_true,
        Option.map_some, reduceCtorEq] at silent
    | receive | post => cases silent
  moves h moves := by
    cases step_trans h with
    | proxy | take | agent => cases moves
    | saveAsync won got first worthwhile called =>
      simp only [Sys.request, won, got, first, worthwhile, not_false_eq_true, and_self, if_true,
        Option.map_some, Option.some.injEq] at moves
      subst moves
      exact called
    | receive received =>
      cases moves
      exact received
    | post posted =>
      cases moves
      exact posted

/-- The system as the knowledge base. -/
def agentPart (key : String → K) (maxAttempts : Nat) (kb : Knowledge.Env V S) :
    Projection (machine key maxAttempts kb) (Knowledge.machine kb) where
  abs := Sys.kb
  label s
    | .take n j => (s.wire[n]?).map fun req => .call j (received req)
    | .agent a => some a
    | _ => none
  silent h silent := by
    cases step_trans h with
    | take sent => simp only [sent, Option.map_some, reduceCtorEq] at silent
    | agent => cases silent
    | _ => rfl
  moves h moves := by
    cases step_trans h with
    | take sent called =>
      simp only [sent, Option.map_some, Option.some.injEq] at moves
      subst moves
      exact called
    | agent curated moved =>
      cases moves
      exact moved
    | _ => cases moves

end MysqlRedshift.Pipeline
