import MysqlRedshift.Misc.Channel
import MysqlRedshift.Misc.Machine
import MysqlRedshift.Proxy.Server

/-!
# The queue of save requests

`proxy/internal/knowledge/client.go`: `New`, `SaveAsync`, `worker` and `save`. Any number
of callers and the one worker share the channel. A step is a call of `SaveAsync`, which is
one `select`, or a step of the worker: it receives a request, and later the post of the
request in its hand comes to an end, one way or another. Beside the channel the state
keeps the history: the calls and whether they were accepted, the requests posted, and what
was logged, all in order.
-/

namespace MysqlRedshift.Proxy.SaveQueue

open MysqlRedshift.Misc

/-- How the post of a request ends. -/
inductive Exchange where
  | marshalFailed (e : String)
  | requestFailed (e : String)
  | failed (e : String)
  | answered (status : Int)
  deriving DecidableEq, Repr

/-- `save`: its error; a status of 300 or more is none. -/
def save : Exchange → Option String
  | .marshalFailed e => some e
  | .requestFailed e => some e
  | .failed e => some e
  | .answered _ => none

inductive LogLine where
  | channelFull (mysqlSQL : String)
  | saveFailed (e : String)
  deriving DecidableEq, Repr

/-- The capacity of the channel. -/
def capacity : Nat := 256

/-- A client, with its worker and its history. -/
structure Client where
  ch : Channel capacity SaveReq
  /-- The request that the worker posts. -/
  hand : Option SaveReq
  posted : List SaveReq
  calls : List (SaveReq × Bool)
  log : List LogLine

def new : Client := ⟨.make capacity SaveReq, none, [], [], []⟩

namespace Client

variable (c : Client)

/-- The requests of the calls that were accepted, or of those that were not. -/
def answered (kept : Bool) : List SaveReq :=
  (c.calls.filter fun call => call.2 == kept).map Prod.fst

def accepted : List SaveReq := c.answered true

def dropped : List SaveReq := c.answered false

/-- `SaveAsync`. -/
def saveAsync (req : SaveReq) : Option Client :=
  Channel.select
    ((c.ch.send req).map fun ch => { c with ch, calls := c.calls ++ [(req, true)] })
    (some { c with
      calls := c.calls ++ [(req, false)]
      log := c.log ++ [.channelFull req.mysqlSQL] })

/-- The head of the worker's loop. -/
def receive : Option Client :=
  match c.hand with
  | some _ => none
  | none => c.ch.receive.map fun (req, ch) => { c with ch, hand := some req }

/-- The body of the worker's loop. -/
def post (x : Exchange) : Option Client :=
  c.hand.map fun req => { c with
    hand := none
    posted := c.posted ++ [req]
    log := c.log ++ (save x).toList.map .saveFailed }

end Client

/-- Whose step it is, with what is left open in it. -/
inductive Label where
  | saveAsync (req : SaveReq)
  | receive
  | post (x : Exchange)
  deriving DecidableEq, Repr

/-- The client under its callers and its worker. -/
def queue : Machine Client Label where
  step c
    | .saveAsync req => c.saveAsync req
    | .receive => c.receive
    | .post x => c.post x

/-- The request of a call. -/
def Label.request? : Label → Option SaveReq
  | .saveAsync req => some req
  | .receive => none
  | .post _ => none

/-! ## What a step does -/

variable {c t : Client} {req : SaveReq} {x : Exchange} {l : Label} {ls : List Label}

/-- A call is accepted, or it is dropped because the channel is full. -/
theorem saveAsync_cases (c : Client) (req : SaveReq) :
    (∃ ch, c.saveAsync req = some { c with ch, calls := c.calls ++ [(req, true)] } ∧
      ch.buffer = c.ch.buffer ++ [req]) ∨
    (c.saveAsync req = some { c with
        calls := c.calls ++ [(req, false)]
        log := c.log ++ [.channelFull req.mysqlSQL] } ∧
      c.ch.buffer.length = capacity) := by
  cases sent : c.ch.send req with
  | some ch =>
    refine Or.inl ⟨ch, ?_, Channel.send_eq_some_iff.mp sent⟩
    simp only [Client.saveAsync, Channel.select, sent, Option.map_some, Option.some_or]
  | none =>
    refine Or.inr ⟨?_, Channel.send_eq_none_iff.mp sent⟩
    simp only [Client.saveAsync, Channel.select, sent, Option.map_none, Option.none_or]

theorem receive_cases (received : c.receive = some t) :
    ∃ req ch, c.hand = none ∧ c.ch.buffer = req :: ch.buffer ∧
      t = { c with ch, hand := some req } := by
  unfold Client.receive at received
  split at received
  · cases received
  · next free =>
    obtain ⟨⟨req, ch⟩, taken, rfl⟩ := Option.map_eq_some_iff.mp received
    exact ⟨req, ch, free, Channel.receive_eq_some_iff.mp taken, rfl⟩

theorem post_cases (posted : c.post x = some t) :
    ∃ req, c.hand = some req ∧ t = { c with
      hand := none
      posted := c.posted ++ [req]
      log := c.log ++ (save x).toList.map .saveFailed } := by
  obtain ⟨req, held, rfl⟩ := Option.map_eq_some_iff.mp posted
  exact ⟨req, held, rfl⟩

theorem answered_concat (calls : List (SaveReq × Bool)) (req : SaveReq) (b kept : Bool)
    (same : t.calls = calls ++ [(req, b)]) :
    t.answered kept = (calls.filter fun call => call.2 == kept).map Prod.fst ++
      if b = kept then [req] else [] := by
  rw [Client.answered, same, List.filter_append, List.map_append]
  by_cases equal : b = kept
  · simp [equal]
  · simp [equal]

/-! ## What a run does -/

/-- Every accepted request is posted, in the worker's hand, or in the channel, in the order
of the calls. -/
def Accounts (c : Client) : Prop :=
  c.posted ++ (c.hand.toList ++ c.ch.buffer) = c.accepted

theorem accounts_new : Accounts new := rfl

theorem step_accounts (accounts : Accounts c) (hstep : queue.step c l = some t) :
    Accounts t := by
  unfold Accounts at accounts ⊢
  cases l with
  | saveAsync req =>
    rcases saveAsync_cases c req with ⟨ch, taken, buffer⟩ | ⟨left, -⟩
    · cases taken.symm.trans hstep
      rw [Client.accepted, answered_concat c.calls req true true rfl, if_pos rfl, buffer,
        ← List.append_assoc, ← List.append_assoc, List.append_assoc c.posted, accounts]
      rfl
    · cases left.symm.trans hstep
      rw [Client.accepted, answered_concat c.calls req false true rfl, if_neg (by simp),
        List.append_nil]
      exact accounts
  | receive =>
    obtain ⟨req, ch, free, buffer, rfl⟩ := receive_cases hstep
    rw [free, buffer] at accounts
    exact accounts
  | post x =>
    obtain ⟨req, held, rfl⟩ := post_cases hstep
    rw [held] at accounts
    show c.posted ++ [req] ++ ([] ++ c.ch.buffer) = c.accepted
    rw [List.append_assoc]
    exact accounts

/-- The calls are those of the schedule. -/
theorem step_calls (hstep : queue.step c l = some t) :
    t.calls.map Prod.fst = c.calls.map Prod.fst ++ l.request?.toList := by
  cases l with
  | saveAsync req =>
    rcases saveAsync_cases c req with ⟨ch, taken, -⟩ | ⟨left, -⟩
    · cases taken.symm.trans hstep
      exact List.map_append
    · cases left.symm.trans hstep
      exact List.map_append
  | receive =>
    obtain ⟨req, ch, -, -, rfl⟩ := receive_cases hstep
    exact (List.append_nil _).symm
  | post x =>
    obtain ⟨req, -, rfl⟩ := post_cases hstep
    exact (List.append_nil _).symm

theorem run_calls (run : queue.run c ls = some t) :
    t.calls.map Prod.fst = c.calls.map Prod.fst ++ ls.filterMap Label.request? := by
  induction ls generalizing c with
  | nil =>
    cases run
    exact (List.append_nil _).symm
  | cons l ls ih =>
    obtain ⟨u, hstep, rest⟩ := Option.bind_eq_some_iff.mp run
    rw [ih rest, step_calls hstep, List.append_assoc]
    cases called : l.request? with
    | none => rw [List.filterMap_cons_none called]; rfl
    | some req => rw [List.filterMap_cons_some called]; rfl

theorem run_accounts (run : queue.run new ls = some c) : Accounts c :=
  Machine.run_induction (fun _ _ _ accounts hstep => step_accounts accounts hstep) accounts_new run

/-- What was posted, in the order of the calls. -/
theorem posted_sublist (run : queue.run new ls = some c) :
    c.posted.Sublist (ls.filterMap Label.request?) := by
  have calls : c.calls.map Prod.fst = ls.filterMap Label.request? := run_calls run
  have accounts : c.posted ++ (c.hand.toList ++ c.ch.buffer) = c.accepted := run_accounts run
  have first : c.posted.Sublist c.accepted := accounts ▸ List.sublist_append_left _ _
  have kept : c.accepted.Sublist (c.calls.map Prod.fst) := List.filter_sublist.map Prod.fst
  rw [← calls]
  exact first.trans kept

/-- At any moment of any run, what was posted, what is in the worker's hand and what is in
the channel are the accepted requests, each once and in the order of the calls; the channel
is never longer than its capacity. A call made now goes through at once, whatever the worker
does, and is dropped only if the channel is full now. -/
theorem acceptsInOrder (run : queue.run new ls = some c) :
    c.posted ++ (c.hand.toList ++ c.ch.buffer) = c.accepted ∧
      c.calls.map Prod.fst = ls.filterMap Label.request? ∧
      c.ch.buffer.length ≤ 256 ∧
      ∀ req, ∃ t, queue.step c (.saveAsync req) = some t ∧ t.hand = c.hand ∧
        t.posted = c.posted ∧
        (t.calls = c.calls ++ [(req, true)] ∧ t.ch.buffer = c.ch.buffer ++ [req] ∨
          t.calls = c.calls ++ [(req, false)] ∧ t.ch = c.ch ∧ c.ch.buffer.length = 256) := by
  refine ⟨run_accounts run, run_calls run, c.ch.bounded, fun req => ?_⟩
  rcases saveAsync_cases c req with ⟨ch, taken, buffer⟩ | ⟨left, full⟩
  · exact ⟨_, taken, rfl, rfl, Or.inl ⟨rfl, buffer⟩⟩
  · exact ⟨_, left, rfl, rfl, Or.inr ⟨rfl, rfl, full⟩⟩

def request (mysqlSQL : String) : SaveReq := { mysqlSQL, redshiftSQL := "" }

/-- Two calls, of which the worker has one in its hand, after a post that failed. -/
def hiccup : List Label :=
  [.saveAsync (request "a"), .receive, .saveAsync (request "b"), .post (.failed "timeout"),
    .saveAsync (request "c"), .receive]

theorem acceptsInOrder_hiccup : ∃ c, queue.run new hiccup = some c ∧
    c.posted ++ (c.hand.toList ++ c.ch.buffer) = c.accepted ∧ c.ch.buffer.length ≤ 256 := by
  have run := (rfl : queue.run new hiccup = some _)
  have spec := acceptsInOrder run
  exact ⟨_, run, spec.1, spec.2.2.1⟩

/-! ## What becomes of accepted requests -/

/-- The steps of the worker for the requests of a full channel, if posts end as `ends`
says. -/
def drain (ends : SaveReq → Exchange) (reqs : List SaveReq) : List Label :=
  reqs.flatMap fun req => [.receive, .post (ends req)]

/-- A worker with nothing in its hand posts what is in the channel, if it is left alone. -/
theorem run_drain (ends : SaveReq → Exchange) (free : c.hand = none) :
    ∃ t, queue.run c (drain ends c.ch.buffer) = some t ∧ t.hand = none ∧ t.ch.buffer = [] ∧
      t.posted = c.posted ++ c.ch.buffer ∧ t.calls = c.calls := by
  obtain ⟨reqs, buffer⟩ : ∃ reqs, c.ch.buffer = reqs := ⟨_, rfl⟩
  induction reqs generalizing c with
  | nil =>
    refine ⟨c, by rw [buffer]; rfl, free, buffer, ?_, rfl⟩
    rw [buffer, List.append_nil]
  | cons req reqs ih =>
    cases taken : c.ch.receive with
    | none => rw [Channel.receive_eq_none_iff.mp taken] at buffer; cases buffer
    | some found =>
      obtain ⟨req', ch⟩ := found
      have split := Channel.receive_eq_some_iff.mp taken
      obtain ⟨rfl, rest⟩ := List.cons.inj (split.symm.trans buffer)
      have received : c.receive = some { c with ch, hand := some req' } := by
        simp only [Client.receive, free, taken, Option.map_some]
      obtain ⟨t, run, idle, empty, posted, calls⟩ := ih (c := { c with
        ch
        hand := none
        posted := c.posted ++ [req']
        log := c.log ++ (save (ends req')).toList.map .saveFailed }) rfl rest
      refine ⟨t, ?_, idle, empty, ?_, calls⟩
      · rw [buffer]
        show ((c.receive).bind fun u => (u.post (ends req')).bind fun v =>
          queue.run v (drain ends reqs)) = some t
        rw [received, ← rest]
        exact run
      · rw [posted, split, List.append_assoc]
        rfl

/-- The steps of the worker, from where it is, for all that it has and is to get. -/
def finish (ends : SaveReq → Exchange) (c : Client) : List Label :=
  c.hand.toList.map (fun req => .post (ends req)) ++ drain ends c.ch.buffer

/-- Every accepted request is posted in the end: the worker alone gets there, however the
posts end. -/
theorem posts_accepted (ends : SaveReq → Exchange) (run : queue.run new ls = some c) :
    ∃ t, queue.run c (finish ends c) = some t ∧ t.posted = c.accepted ∧ t.calls = c.calls := by
  have accounts : c.posted ++ (c.hand.toList ++ c.ch.buffer) = c.accepted := run_accounts run
  cases held : c.hand with
  | none =>
    obtain ⟨t, run', -, -, posted, calls⟩ := run_drain ends held
    refine ⟨t, ?_, ?_, calls⟩
    · rw [finish, held]
      exact run'
    · rw [posted, ← accounts, held]
      rfl
  | some req =>
    let u : Client := { c with
      hand := none
      posted := c.posted ++ [req]
      log := c.log ++ (save (ends req)).toList.map .saveFailed }
    have ended : queue.step c (.post (ends req)) = some u := by
      show c.post (ends req) = some u
      rw [Client.post, held, Option.map_some]
    obtain ⟨t, run', -, -, posted, calls⟩ := run_drain ends (rfl : u.hand = none)
    refine ⟨t, ?_, ?_, calls⟩
    · rw [finish, held]
      show (queue.step c (.post (ends req))).bind (fun v => queue.run v _) = some t
      rw [ended]
      exact run'
    · rw [posted, ← accounts, held]
      exact List.append_assoc ..

end MysqlRedshift.Proxy.SaveQueue
