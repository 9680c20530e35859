import MysqlRedshift.Proxy.ServerProps

/-!
# Translate, execute, fix

The exchanges of one call of `execWithRetry`, told as its attempts in the order in which
they are made. An attempt is an execution with what the handler did about its failure.
-/

namespace MysqlRedshift.Proxy

open MysqlRedshift.Misc

variable {ε C : Type}

/-- An execution of a text on Redshift: it succeeded; or it failed and no fix was asked
for; or the agent failed to fix it; or the agent returned another text. -/
inductive Attempt where
  | ran (sql : String) (result : Result)
  | gaveUp (sql err : String)
  | unfixed (sql err fixErr : String)
  | fixed (sql err : String) (fixResp : TranslateResponse)

/-- The text that was executed. -/
def Attempt.sql : Attempt → String
  | .ran sql _ | .gaveUp sql _ | .unfixed sql _ _ | .fixed sql _ _ => sql

/-- The exchanges of an attempt made for `query`, the first one first. -/
def Attempt.events (query : String) : Attempt → List Event
  | .ran sql result => [.execSelect query sql (.ok result)]
  | .gaveUp sql err => [.execSelect query sql (.error err)]
  | .unfixed sql err fixErr =>
    [.execSelect query sql (.error err),
      .translate { sql := query, prevError := err, prevSQL := sql } (.error fixErr)]
  | .fixed sql err fixResp =>
    [.execSelect query sql (.error err),
      .translate { sql := query, prevError := err, prevSQL := sql } (.ok fixResp)]

/-- The attempts run the first text, and then each text that the agent returned for the
failure before; none but the last is left unfixed. -/
def Chained : String → List Attempt → Prop
  | _, [] => False
  | sql, [last] => last.sql = sql ∧ ∀ err fixResp, last ≠ .fixed sql err fixResp
  | sql, attempt :: next :: rest =>
    ∃ err fixResp, attempt = .fixed sql err fixResp ∧ Chained fixResp.redshiftSQL (next :: rest)

/-- What the loop returns after its last attempt, the `n`-th of at most `M`. -/
def Returns (M : Int) (n : Nat) (outcome : Except HandleError (Result × String × Int)) :
    Attempt → Prop
  | .ran sql result => ∃ ms, outcome = .ok (result, sql, ms)
  | .gaveUp _ err => n = M ∧ outcome = .error (.redshiftExec M (some err))
  | .unfixed _ err _ => n < M ∧ outcome = .error (.redshiftExec M (some err))
  | .fixed .. => False

theorem Chained.head {sql : String} {attempt : Attempt} {rest : List Attempt}
    (chained : Chained sql (attempt :: rest)) : attempt.sql = sql := by
  cases rest with
  | nil => exact chained.1
  | cons next rest =>
    obtain ⟨err, fixResp, rfl, _⟩ := chained
    rfl

theorem Chained.next {sql : String} {attempts : List Attempt} (chained : Chained sql attempts)
    {i : Nat} {attempt later : Attempt} (at_i : attempts[i]? = some attempt)
    (at_next : attempts[i + 1]? = some later) :
    ∃ err fixResp, attempt = .fixed attempt.sql err fixResp ∧ later.sql = fixResp.redshiftSQL := by
  induction attempts generalizing sql i with
  | nil => cases at_i
  | cons first rest ih =>
    cases rest with
    | nil => cases at_next
    | cons next rest =>
      obtain ⟨err, fixResp, rfl, chained⟩ := chained
      cases i with
      | zero =>
        cases at_i
        cases at_next
        exact ⟨err, fixResp, rfl, chained.head⟩
      | succ i => exact ih chained at_i at_next

/-- Only the last attempt can succeed. -/
theorem Chained.eq_last {sql : String} {attempts : List Attempt} {last : Attempt}
    (chained : Chained sql (attempts ++ [last])) {sql' : String} {result : Result}
    (member : .ran sql' result ∈ attempts ++ [last]) : last = .ran sql' result := by
  induction attempts generalizing sql with
  | nil => exact (List.mem_singleton.mp member).symm
  | cons first rest ih =>
    obtain ⟨err, fixResp, rfl, behind⟩ : ∃ err fixResp, first = .fixed sql err fixResp ∧
        Chained fixResp.redshiftSQL (rest ++ [last]) := by
      cases rest with
      | nil => exact chained
      | cons next rest => exact chained
    rcases List.mem_cons.mp member with same | later
    · cases same
    · exact ih behind later

theorem callRedshift_trace {w : World ε} {query sql : String} {st st' : State ε C}
    {outcome : Except String Result} {ms : Int}
    (called : callRedshift w query sql st = ((outcome, ms), st')) :
    st'.trace = .execSelect query sql outcome :: st.trace := by
  obtain ⟨same, rfl⟩ := Prod.mk.inj called
  rw [(Prod.mk.inj same).1]

theorem callTranslate_trace {w : World ε} {req : TranslateRequest} {st st' : State ε C}
    {answer : Except String TranslateResponse} (called : callTranslate w req st = (answer, st')) :
    st'.trace = .translate req answer :: st.trace := by
  obtain ⟨rfl, rfl⟩ := Prod.mk.inj called
  rfl

/-- With `left + 1` attempts to go, `done` of `M` being behind, the loop makes a chain of
at most so many. -/
theorem retryLoop_attempts (w : World ε) (M : Int) (query : String) (left done : Nat)
    (budget : done + (left + 1 : Nat) = M) (sql : String) (prevErr : Option String)
    (st : State ε C) :
    ∃ attempts last, Chained sql (attempts ++ [last]) ∧ attempts.length ≤ left ∧
      (retryLoop w M query (left + 1) sql prevErr st).2.trace =
        ((attempts ++ [last]).flatMap (Attempt.events query)).reverse ++ st.trace ∧
      Returns M (done + attempts.length + 1)
        (retryLoop w M query (left + 1) sql prevErr st).1 last := by
  induction left generalizing done sql prevErr st with
  | zero =>
    rcases redshift : callRedshift w query sql st with ⟨⟨err | result, ms⟩, st₁⟩
    · have ran := callRedshift_trace redshift
      refine ⟨[], .gaveUp sql err, ⟨rfl, by simp⟩, Nat.le_refl 0, ?_, ?_⟩
      · simpa [retryLoop, redshift, Attempt.events] using ran
      · simp only [retryLoop, redshift, if_true, Returns, and_true, List.length_nil]
        omega
    · have ran := callRedshift_trace redshift
      refine ⟨[], .ran sql result, ⟨rfl, by simp⟩, Nat.le_refl 0, ?_, ⟨ms, ?_⟩⟩
      · simpa [retryLoop, redshift, Attempt.events] using ran
      · simp [retryLoop, redshift]
  | succ left ih =>
    rcases redshift : callRedshift w query sql st with ⟨⟨err | result, ms⟩, st₁⟩
    · have ran := callRedshift_trace redshift
      have more : left + 1 ≠ 0 := left.succ_ne_zero
      rcases agent : callTranslate w { sql := query, prevError := err, prevSQL := sql } st₁ with
        ⟨fixErr | fixResp, st₂⟩
      · have asked := callTranslate_trace agent
        refine ⟨[], .unfixed sql err fixErr, ⟨rfl, by simp⟩, Nat.zero_le _, ?_, ?_⟩
        · rw [retryLoop, redshift]
          simp [agent, Attempt.events, asked, ran]
        · rw [retryLoop, redshift]
          simp only [if_neg more, agent, Returns, and_true, List.length_nil]
          omega
      · have asked := callTranslate_trace agent
        obtain ⟨attempts, last, chained, bound, trace, returns⟩ :=
          ih (done + 1) (by omega) fixResp.redshiftSQL (some err) st₂
        have step : retryLoop w M query (left + 1 + 1) sql prevErr st =
            retryLoop w M query (left + 1) fixResp.redshiftSQL (some err) st₂ := by
          rw [retryLoop, redshift]
          simp only [if_neg more, agent]
        refine ⟨.fixed sql err fixResp :: attempts, last, ?_, Nat.succ_le_succ bound, ?_, ?_⟩
        · cases attempts with
          | nil => exact ⟨err, fixResp, rfl, chained⟩
          | cons next rest => exact ⟨err, fixResp, rfl, chained⟩
        · rw [step, trace, asked, ran]
          simp [Attempt.events]
        · rw [step]
          have place : done + (attempts.length + 1) + 1 = done + 1 + attempts.length + 1 := by omega
          rw [List.length_cons, place]
          exact returns
    · have ran := callRedshift_trace redshift
      refine ⟨[], .ran sql result, ⟨rfl, by simp⟩, Nat.zero_le _, ?_, ⟨ms, ?_⟩⟩
      · simpa [retryLoop, redshift, Attempt.events] using ran
      · simp [retryLoop, redshift]

/-- What `execWithRetry` does is a chain of at most `MaxAttempts` attempts. -/
theorem execWithRetry_attempts (srv : Server C) (w : World ε) (originalSQL rsSQL : String)
    (st : State ε C) (some_attempts : 1 ≤ srv.cfg.maxAttempts) :
    ∃ attempts last, Chained rsSQL (attempts ++ [last]) ∧
      attempts.length + 1 ≤ srv.cfg.maxAttempts ∧
      (execWithRetry srv w originalSQL rsSQL st).2.trace =
        ((attempts ++ [last]).flatMap (Attempt.events originalSQL)).reverse ++ st.trace ∧
      Returns srv.cfg.maxAttempts (attempts.length + 1)
        (execWithRetry srv w originalSQL rsSQL st).1 last := by
  obtain ⟨left, budget⟩ : ∃ left : Nat, srv.cfg.maxAttempts.toNat = left + 1 :=
    Nat.exists_eq_add_of_le' (by omega)
  have total : (0 : Nat) + ((left + 1 : Nat) : Int) = srv.cfg.maxAttempts := by omega
  obtain ⟨attempts, last, chained, bound, trace, returns⟩ :=
    retryLoop_attempts w srv.cfg.maxAttempts originalSQL left 0 total rsSQL none st
  rw [execWithRetry, budget]
  refine ⟨attempts, last, chained, by omega, trace, ?_⟩
  rwa [Nat.zero_add] at returns

/-- The protocol of `execWithRetry`: at most `MaxAttempts` executions, the first one of the
text given and each further one of the agent's answer to the fix request that carries the
query, the text that failed and its error; the last one decides what is returned. -/
theorem execWithRetry_protocol (srv : Server C) (w : World ε) (originalSQL rsSQL : String)
    (st : State ε C) (some_attempts : 1 ≤ srv.cfg.maxAttempts) :
    ∃ attempts : List Attempt,
      (execWithRetry srv w originalSQL rsSQL st).2.trace =
        (attempts.flatMap (Attempt.events originalSQL)).reverse ++ st.trace ∧
      attempts.length ≤ srv.cfg.maxAttempts ∧
      (∃ first, attempts[0]? = some first ∧ first.sql = rsSQL) ∧
      (∀ i attempt next, attempts[i]? = some attempt → attempts[i + 1]? = some next →
        ∃ err fixResp, attempt = .fixed attempt.sql err fixResp ∧
          next.sql = fixResp.redshiftSQL) ∧
      ∃ last, attempts.getLast? = some last ∧
        Returns srv.cfg.maxAttempts attempts.length
          (execWithRetry srv w originalSQL rsSQL st).1 last := by
  obtain ⟨attempts, last, chained, bound, trace, returns⟩ :=
    execWithRetry_attempts srv w originalSQL rsSQL st some_attempts
  have count : (attempts ++ [last]).length = attempts.length + 1 := by simp
  refine ⟨attempts ++ [last], trace, ?_, ?_, fun i attempt next => chained.next, last, ?_, ?_⟩
  · rw [count]
    exact bound
  · cases attempts with
    | nil => exact ⟨last, rfl, chained.head⟩
    | cons first rest => exact ⟨first, rfl, chained.head⟩
  · exact List.getLast?_concat ..
  · rw [count]
    exact returns

/-- A failing first text that the agent fixes. -/
theorem execWithRetry_protocol_fixedOnce :
    let w : World Unit := .fixed (fun _ => .ok { redshiftSQL := "SELECT 1" })
      fun sql => (if sql = "SELECT 1" then .ok ⟨[], []⟩ else .error "syntax error", 5)
    let exec :=
      execWithRetry defaultServer w "select 1" "SELEC 1" { cache := emptyCache, env := () }
    ∃ attempts : List Attempt,
      exec.2.trace = (attempts.flatMap (Attempt.events "select 1")).reverse ++ [] ∧
      attempts.length ≤ (3 : Int) ∧
      (∃ first, attempts[0]? = some first ∧ first.sql = "SELEC 1") ∧
      (∀ i attempt next, attempts[i]? = some attempt → attempts[i + 1]? = some next →
        ∃ err fixResp, attempt = .fixed attempt.sql err fixResp ∧
          next.sql = fixResp.redshiftSQL) ∧
      ∃ last, attempts.getLast? = some last ∧ Returns 3 attempts.length exec.1 last := by
  intro w exec
  exact execWithRetry_protocol defaultServer w "select 1" "SELEC 1"
    { cache := emptyCache, env := () } (by decide)

/-- The executions that succeed are the one whose result is returned, and no other. -/
theorem execWithRetry_successes (srv : Server C) (w : World ε) (query rsQuery : String)
    (st : State ε C) (some_attempts : 1 ≤ srv.cfg.maxAttempts) :
    ∃ events, (execWithRetry srv w query rsQuery st).2.trace = events ++ st.trace ∧
      ∀ sql result, Event.execSelect query sql (.ok result) ∈ events ↔
        ∃ ms, (execWithRetry srv w query rsQuery st).1 = .ok (result, sql, ms) := by
  obtain ⟨attempts, last, chained, -, trace, returns⟩ :=
    execWithRetry_attempts srv w query rsQuery st some_attempts
  refine ⟨_, trace, fun sql result => ?_⟩
  have from_ran : Event.execSelect query sql (.ok result) ∈
      (attempts ++ [last]).flatMap (Attempt.events query) ↔
        .ran sql result ∈ attempts ++ [last] := by
    rw [List.mem_flatMap]
    constructor
    · rintro ⟨attempt, member, event⟩
      cases attempt <;> simp [Attempt.events] at event
      obtain ⟨rfl, rfl⟩ := event
      exact member
    · intro member
      exact ⟨_, member, by simp [Attempt.events]⟩
  rw [List.mem_reverse, from_ran]
  constructor
  · intro member
    rw [chained.eq_last member] at returns
    exact returns
  · rintro ⟨ms, won⟩
    have member : last ∈ attempts ++ [last] := List.mem_append_right _ List.mem_cons_self
    rw [won] at returns
    cases last with
    | ran sql' result' =>
      obtain ⟨ms', same⟩ := returns
      cases same
      exact member
    | gaveUp sql' err => cases returns.2
    | unfixed sql' err fixErr => cases returns.2
    | fixed sql' err fixResp => exact returns.elim

end MysqlRedshift.Proxy
