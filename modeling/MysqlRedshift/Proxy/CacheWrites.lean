import MysqlRedshift.Proxy.Protocol

/-!
# What a call writes to the cache

`HandleQuery` stores the agent's translation before it is tried and the winning text
after it has run. A call on the Redshift path is therefore compared with what
`DESIGN.md` asks for: that only what has run is stored.
-/

namespace MysqlRedshift.Proxy

open MysqlRedshift.Misc

variable {ε C : Type}

/-- The exchanges made between two states of a run, latest first. -/
def made (st st' : State ε C) : List Event := st'.trace.take (st'.trace.length - st.trace.length)

theorem made_eq {st st' : State ε C} {events : List Event}
    (grows : st'.trace = events ++ st.trace) : made st st' = events := by
  rw [made, grows, List.length_append, Nat.add_sub_cancel, List.take_left]

/-- The entry of a key is as it was, unless it has been evicted. -/
def Kept (srv : Server C) (cache cache' : C) (k : String) : Prop :=
  srv.lru.contents cache' k = srv.lru.contents cache k ∨ srv.lru.contents cache' k = none

theorem Kept.of_eq {srv : Server C} {cache cache' : C} {k : String}
    (same : srv.lru.contents cache' k = srv.lru.contents cache k) : Kept srv cache cache' k :=
  Or.inl same

theorem Kept.trans {srv : Server C} {cache cache' cache'' : C} {k : String}
    (first : Kept srv cache cache' k) (second : Kept srv cache' cache'' k) :
    Kept srv cache cache'' k := by
  rcases second with same | gone
  · rcases first with same' | gone
    · exact Or.inl (same.trans same')
    · exact Or.inr (same.trans gone)
  · exact Or.inr gone

theorem kept_set {srv : Server C} {cache : C} {k k' text : String} (other : k' ≠ k) :
    Kept srv cache (Cache.set srv.lru cache k text) k' := by
  rw [Kept, Cache.set, srv.lru.contents_add, if_neg other]
  split
  · exact Or.inr rfl
  · exact Or.inl rfl

/-- A call caches only what succeeds: the text that ran is the entry of the query's key,
and without one all entries are kept. -/
structure CachesSuccess (srv : Server C) (w : World ε) (query : String) (st : State ε C) :
    Prop where
  success : ∀ sql result,
    .execSelect query sql (.ok result) ∈ made st (handleQuery srv w query st).2 →
    srv.lru.contents (handleQuery srv w query st).2.cache (srv.key query) = some sql ∧
      ∀ k, k ≠ srv.key query → Kept srv st.cache (handleQuery srv w query st).2.cache k
  failure : (∀ sql result,
      .execSelect query sql (.ok result) ∉ made st (handleQuery srv w query st).2) →
    ∀ k, Kept srv st.cache (handleQuery srv w query st).2.cache k

/-- With `left` executions to go, Redshift and the agent come to a text that runs. -/
inductive Wins (w : World ε) (query : String) : Nat → String → ε → Prop
  | now {left sql env result ms env'} (ran : w.rsExecSelect sql env = ((.ok result, ms), env')) :
    Wins w query (left + 1) sql env
  | fixed {left sql env err ms env' fixResp env''}
      (failed : w.rsExecSelect sql env = ((.error err, ms), env'))
      (asked : w.translate { sql := query, prevError := err, prevSQL := sql } env' =
        (.ok fixResp, env''))
      (later : Wins w query left fixResp.redshiftSQL env'') : Wins w query (left + 1) sql env

theorem wins_failed_iff {w : World ε} {query : String} {left sql env err ms env'}
    (failed : w.rsExecSelect sql env = ((.error err, ms), env')) :
    Wins w query (left + 1) sql env ↔ ∃ fixResp env'',
      w.translate { sql := query, prevError := err, prevSQL := sql } env' = (.ok fixResp, env'') ∧
        Wins w query left fixResp.redshiftSQL env'' := by
  constructor
  · intro wins
    cases wins with
    | now ran =>
      rw [failed] at ran
      cases ran
    | fixed failed' asked later =>
      rw [failed] at failed'
      cases failed'
      exact ⟨_, _, asked, later⟩
  · rintro ⟨_, _, asked, later⟩
    exact Wins.fixed failed asked later

theorem retryLoop_ok_iff (w : World ε) (M : Int) (query : String) (left : Nat) (sql : String)
    (prevErr : Option String) (st : State ε C) :
    (∃ won, (retryLoop w M query left sql prevErr st).1 = .ok won) ↔
      Wins w query left sql st.env := by
  induction left generalizing sql prevErr st with
  | zero =>
    constructor
    · rintro ⟨won, returned⟩
      cases returned
    · intro wins
      cases wins
  | succ left ih =>
    rcases ran : w.rsExecSelect sql st.env with ⟨⟨err | result, ms⟩, env⟩
    · rw [wins_failed_iff ran]
      by_cases last : left = 0
      · subst last
        constructor
        · rintro ⟨won, returned⟩
          simp [retryLoop, callRedshift, ran] at returned
        · rintro ⟨_, _, _, later⟩
          cases later
      · rcases agent : w.translate { sql := query, prevError := err, prevSQL := sql } env with
          ⟨fixErr | fixResp, env'⟩
        · constructor
          · rintro ⟨won, returned⟩
            simp [retryLoop, callRedshift, callTranslate, ran, last, agent] at returned
          · rintro ⟨_, _, asked, _⟩
            cases asked
        · have step : retryLoop w M query (left + 1) sql prevErr st =
              retryLoop w M query left fixResp.redshiftSQL (some err)
                (callTranslate w { sql := query, prevError := err, prevSQL := sql }
                  (callRedshift w query sql st).2).2 := by
            simp [retryLoop, callRedshift, callTranslate, ran, last, agent]
          have moved : (callTranslate w { sql := query, prevError := err, prevSQL := sql }
              (callRedshift w query sql st).2).2.env = env' := by
            simp [callRedshift, callTranslate, ran, agent]
          rw [step, ih, moved]
          constructor
          · intro wins
            exact ⟨_, _, rfl, wins⟩
          · rintro ⟨_, _, asked, later⟩
            cases asked
            exact later
    · constructor
      · intro _
        exact Wins.now ran
      · intro _
        simp [retryLoop, callRedshift, ran]

/-! ## One call -/

section

variable {srv : Server C} {w : World ε} {query : String} {st st₁ : State ε C}

/-- Where nothing succeeds and the cache stays as it is, the first text has to have been there
before. -/
theorem cachesSuccess_iff_of_none_ran {text : String}
    (none_ran : ∀ sql result,
      Event.execSelect query sql (.ok result) ∉ made st (handleQuery srv w query st).2)
    (cache : (handleQuery srv w query st).2.cache = st₁.cache)
    (held : srv.lru.contents st₁.cache (srv.key query) = some text)
    (kept : ∀ k, k ≠ srv.key query → Kept srv st.cache st₁.cache k) :
    CachesSuccess srv w query st ↔ srv.lru.contents st.cache (srv.key query) = some text := by
  constructor
  · intro caches
    have same := caches.failure none_ran (srv.key query)
    rw [Kept, cache, held] at same
    rcases same with same | gone
    · exact same.symm
    · cases gone
  · intro there
    refine ⟨fun sql result member => absurd member (none_ran sql result), fun _ k => ?_⟩
    rw [cache]
    by_cases own : k = srv.key query
    · exact Kept.of_eq (by rw [own, held, there])
    · exact kept k own

/-- The text that wins is written over the first one, if it is another. -/
theorem contents_winning {text winningSQL : String} {cache : C}
    (written : cache = if winningSQL ≠ text then
      Cache.set srv.lru st₁.cache (srv.key query) winningSQL else st₁.cache)
    (held : srv.lru.contents st₁.cache (srv.key query) = some text)
    (kept : ∀ k, k ≠ srv.key query → Kept srv st.cache st₁.cache k) :
    srv.lru.contents cache (srv.key query) = some winningSQL ∧
      ∀ k, k ≠ srv.key query → Kept srv st.cache cache k := by
  rw [written]
  by_cases first : winningSQL = text
  · rw [if_neg (not_not.mpr first), first]
    exact ⟨held, kept⟩
  · rw [if_pos first]
    exact ⟨srv.lru.contents_add_self .., fun k other => (kept k other).trans (kept_set other)⟩

/-- From a state in which a first text is cached, with no success so far, a call caches
what succeeds exactly if an execution succeeds, or the first text was there before. -/
theorem runFirst_cachesSuccess (some_attempts : 1 ≤ srv.cfg.maxAttempts) {text : String}
    (handled : handleQuery srv w query st = runFirst srv w query text st₁)
    (before : List Event) (grows : st₁.trace = before ++ st.trace)
    (untried : ∀ sql result, Event.execSelect query sql (.ok result) ∉ before)
    (held : srv.lru.contents st₁.cache (srv.key query) = some text)
    (kept : ∀ k, k ≠ srv.key query → Kept srv st.cache st₁.cache k) :
    CachesSuccess srv w query st ↔
      (srv.lru.contents st.cache (srv.key query) = some text ∨
        Wins w query srv.cfg.maxAttempts.toNat text st₁.env) := by
  have wins_iff := retryLoop_ok_iff w srv.cfg.maxAttempts query srv.cfg.maxAttempts.toNat text
    none st₁
  obtain ⟨events, trace, successes⟩ := execWithRetry_successes srv w query text st₁ some_attempts
  rcases runFirst_cases srv w query text st₁ with
    ⟨err, st₂, ran, frame, run⟩ | ⟨result, winningSQL, ms, st₂, ran, frame, -, run⟩
  · have lost : ¬ Wins w query srv.cfg.maxAttempts.toNat text st₁.env := by
      rw [← wins_iff]
      rintro ⟨won, returned⟩
      have ran := congrArg Prod.fst ran
      rw [execWithRetry, returned] at ran
      cases ran
    have all : made st (handleQuery srv w query st).2 = events ++ before := by
      apply made_eq
      rw [handled, run, List.append_assoc, ← grows, ← trace, ran]
    have none_ran : ∀ sql result, Event.execSelect query sql (.ok result) ∉
        made st (handleQuery srv w query st).2 := by
      intro sql result member
      rw [all, List.mem_append, successes, ran] at member
      rcases member with ⟨ms, won⟩ | early
      · cases won
      · exact untried sql result early
    have cache : (handleQuery srv w query st).2.cache = st₁.cache := by
      rw [handled, run, frame.cache]
    rw [or_iff_left lost]
    exact cachesSuccess_iff_of_none_ran none_ran cache held kept
  · have won : Wins w query srv.cfg.maxAttempts.toNat text st₁.env :=
      wins_iff.mp ⟨_, congrArg Prod.fst ran⟩
    have all : made st (handleQuery srv w query st).2 = events ++ before := by
      apply made_eq
      rw [handled, run, remember_trace, List.append_assoc, ← grows, ← trace, ran]
    have cache : (handleQuery srv w query st).2.cache =
        if winningSQL ≠ text then Cache.set srv.lru st₁.cache (srv.key query) winningSQL
        else st₁.cache := by
      rw [handled, run, remember_cache, frame.cache]
    refine iff_of_true ⟨?_, ?_⟩ (Or.inr won)
    · intro sql result' member
      rw [all, List.mem_append, successes, ran] at member
      rcases member with ⟨ms', same⟩ | early
      · cases same
        exact contents_winning cache held kept
      · exact absurd early (untried sql result')
    · intro none_ran
      refine absurd ?_ (none_ran winningSQL result)
      rw [all, List.mem_append, successes, ran]
      exact Or.inl ⟨ms, rfl⟩

theorem cachesSuccess_iff_of_miss (routed : srv.onRedshift query = true)
    (some_attempts : 1 ≤ srv.cfg.maxAttempts) {resp : TranslateResponse} {env : ε}
    (absent : srv.lru.contents st.cache (srv.key query) = none)
    (answered : w.translate { sql := query } st.env = (.ok resp, env)) :
    CachesSuccess srv w query st ↔
      Wins w query srv.cfg.maxAttempts.toNat resp.redshiftSQL env := by
  have handled := handleQuery_onRedshift routed w st
  rw [handleRedshift, firstSQL_miss absent answered] at handled
  have kept : ∀ k, k ≠ srv.key query → Kept srv st.cache
      (Cache.set srv.lru (looked srv query st.cache) (srv.key query) resp.redshiftSQL) k :=
    fun k other => (Kept.of_eq (contents_looked ..)).trans (kept_set other)
  have caches := runFirst_cachesSuccess some_attempts handled
    [.translate { sql := query } (.ok resp)] rfl (by simp) (srv.lru.contents_add_self ..) kept
  rw [caches, absent, or_iff_right (by simp)]

/-- A call caches only what succeeds exactly if it finds an entry, or gets no translation,
or comes to a text that runs: a translation of which every version fails stays cached. -/
theorem cachesSuccess_iff (routed : srv.onRedshift query = true)
    (some_attempts : 1 ≤ srv.cfg.maxAttempts) :
    CachesSuccess srv w query st ↔
      (srv.lru.contents st.cache (srv.key query) = none → ∀ resp env,
        w.translate { sql := query } st.env = (.ok resp, env) →
          Wins w query srv.cfg.maxAttempts.toNat resp.redshiftSQL env) := by
  cases there : srv.lru.contents st.cache (srv.key query) with
  | some text =>
    have handled := handleQuery_onRedshift routed w st
    rw [handleRedshift, firstSQL_hit there] at handled
    change _ = runFirst srv w query text { st with cache := looked srv query st.cache } at handled
    have kept : ∀ k, k ≠ srv.key query → Kept srv st.cache (looked srv query st.cache) k :=
      fun k _ => Kept.of_eq (contents_looked ..)
    have caches := runFirst_cachesSuccess some_attempts handled [] rfl (by simp)
      ((contents_looked ..).trans there) kept
    exact iff_of_true (caches.mpr (Or.inl there)) (by simp)
  | none =>
    rcases answered : w.translate { sql := query } st.env with ⟨err | resp, env⟩
    · have handled := handleQuery_onRedshift routed w st
      rw [handleRedshift, firstSQL_error there answered] at handled
      have all : made st (handleQuery srv w query st).2 =
          [.translate { sql := query } (.error err)] := by
        apply made_eq
        rw [handled]
        rfl
      refine iff_of_true ⟨?_, ?_⟩ (by simp)
      · intro sql result member
        simp [all] at member
      · intro _ k
        rw [handled]
        exact Kept.of_eq (contents_looked ..)
    · rw [cachesSuccess_iff_of_miss routed some_attempts there answered]
      simp

end

/-- On an empty cache, with a first text that fails and is fixed. -/
theorem cachesSuccess_iff_fixedOnce :
    CachesSuccess defaultServer
      (.fixed (fun req => .ok { redshiftSQL := if req.prevSQL = "" then "SELEC 1" else "SELECT 1" })
        fun sql => (if sql = "SELECT 1" then .ok ⟨[], []⟩ else .error "syntax error", 0))
      "SELECT 1" { cache := emptyCache, env := () } := by
  apply (cachesSuccess_iff (by decide +kernel) (by decide)).mpr
  intro _ resp env answered
  obtain ⟨same, -⟩ := Prod.mk.inj answered
  cases same
  exact Wins.fixed rfl rfl (Wins.now rfl)

/-- A translation that cannot be repaired: the agent's text fails, and so does every fix. -/
theorem not_cachesSuccess_unfixable :
    ¬ CachesSuccess defaultServer
      (.fixed (fun _ => .ok { redshiftSQL := "SELECT broken" }) fun _ => (.error "syntax error", 0))
      "SELECT a FROM t" { cache := emptyCache, env := () } := by
  have loses : ∀ left sql, ¬ Wins (.fixed (fun _ => .ok { redshiftSQL := "SELECT broken" })
      fun _ => (.error "syntax error", 0)) "SELECT a FROM t" left sql () := by
    intro left
    induction left with
    | zero =>
      intro sql wins
      cases wins
    | succ left ih =>
      intro sql wins
      cases wins with
      | now ran => cases ran
      | fixed _ _ later => exact ih _ later
  rw [cachesSuccess_iff_of_miss (by decide +kernel) (by decide) rfl rfl]
  exact loses _ _

end MysqlRedshift.Proxy
