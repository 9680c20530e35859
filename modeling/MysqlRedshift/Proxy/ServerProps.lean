import MysqlRedshift.Proxy.Server

/-!
# What one call of the handler can do

One rule for each function of the handler: how the first text is found, what the
retry loop leaves alone, and where its winning text comes from. The invariants of
whole runs are proved from these and unfold the handler no further.
-/

namespace MysqlRedshift.Proxy

open MysqlRedshift.Misc

variable {ε C : Type}

/-- The agent as a fixed function of the request, and Redshift as one of the text. -/
def World.fixed (translate : TranslateRequest → Except String TranslateResponse)
    (redshift : String → Except String Result × Int) : World Unit where
  translate req env := (translate req, env)
  rsExecSelect sql env := (redshift sql, env)
  myExecSelect := none

/-- The agent returned `text` when asked to translate `query`, or to fix a
translation of it. -/
def ReturnedFor (trace : List Event) (query text : String) : Prop :=
  ∃ req resp, Event.translate req (.ok resp) ∈ trace ∧ req.sql = query ∧ resp.redshiftSQL = text

/-- A trace that only grows. -/
def Extends (later earlier : List Event) : Prop := ∃ events, later = events ++ earlier

theorem Extends.refl (trace : List Event) : Extends trace trace := ⟨[], rfl⟩

theorem Extends.cons (event : Event) (trace : List Event) : Extends (event :: trace) trace :=
  ⟨[event], rfl⟩

theorem Extends.trans {late middle early : List Event} (h : Extends late middle)
    (h' : Extends middle early) : Extends late early := by
  obtain ⟨events, rfl⟩ := h
  obtain ⟨events', rfl⟩ := h'
  exact ⟨events ++ events', (List.append_assoc ..).symm⟩

theorem ReturnedFor.mono {late early : List Event} {query text : String}
    (h : ReturnedFor early query text) (grows : Extends late early) :
    ReturnedFor late query text := by
  obtain ⟨req, resp, answered, asked, got⟩ := h
  obtain ⟨events, rfl⟩ := grows
  exact ⟨req, resp, List.mem_append_right events answered, asked, got⟩

theorem returnedFor_of_answer (req : TranslateRequest) (resp : TranslateResponse)
    (trace : List Event) :
    ReturnedFor (.translate req (.ok resp) :: trace) req.sql resp.redshiftSQL :=
  ⟨req, resp, List.mem_cons_self, rfl, rfl⟩

/-! ## The first text -/

section

variable {srv : Server C} {w : World ε} {query : String} {st : State ε C}

/-- The cache after a lookup, which holds what it held before. -/
def looked (srv : Server C) (query : String) (cache : C) : C :=
  (Cache.get srv.lru cache (srv.key query)).2

@[simp] theorem contents_looked (srv : Server C) (query : String) (cache : C) (k : String) :
    srv.lru.contents (looked srv query cache) k = srv.lru.contents cache k :=
  srv.lru.contents_get cache (srv.key query) k

theorem firstSQL_hit {text : String}
    (held : srv.lru.contents st.cache (srv.key query) = some text) :
    firstSQL srv w query st = (.ok text, { st with cache := looked srv query st.cache }) := by
  have cached : (Cache.get srv.lru st.cache (srv.key query)).1 = some text :=
    (srv.lru.get_fst ..).trans held
  simp only [firstSQL, cached, looked]

theorem firstSQL_error {err : String} {env : ε}
    (held : srv.lru.contents st.cache (srv.key query) = none)
    (answered : w.translate { sql := query } st.env = (.error err, env)) :
    firstSQL srv w query st = (.error (.translateFailed err),
      { st with
        cache := looked srv query st.cache
        env
        trace := .translate { sql := query } (.error err) :: st.trace }) := by
  have cached : (Cache.get srv.lru st.cache (srv.key query)).1 = none :=
    (srv.lru.get_fst ..).trans held
  simp only [firstSQL, cached, looked, callTranslate, answered]

theorem firstSQL_miss {resp : TranslateResponse} {env : ε}
    (held : srv.lru.contents st.cache (srv.key query) = none)
    (answered : w.translate { sql := query } st.env = (.ok resp, env)) :
    firstSQL srv w query st = (.ok resp.redshiftSQL,
      { st with
        cache := Cache.set srv.lru (looked srv query st.cache) (srv.key query) resp.redshiftSQL
        env
        trace := .translate { sql := query } (.ok resp) :: st.trace }) := by
  have cached : (Cache.get srv.lru st.cache (srv.key query)).1 = none :=
    (srv.lru.get_fst ..).trans held
  simp only [firstSQL, cached, looked, callTranslate, answered]

end

/-! ## The retry loop -/

/-- The state after a call of the loop: only the world and the trace have moved. -/
structure LoopFrame (st st' : State ε C) : Prop where
  cache : st'.cache = st.cache
  saves : st'.saves = st.saves
  grows : Extends st'.trace st.trace

theorem LoopFrame.trans {st st' st'' : State ε C} (h : LoopFrame st st')
    (h' : LoopFrame st' st'') : LoopFrame st st'' :=
  ⟨h'.cache.trans h.cache, h'.saves.trans h.saves, h'.grows.trans h.grows⟩

theorem callRedshift_frame (w : World ε) (query sql : String) (st : State ε C) :
    LoopFrame st (callRedshift w query sql st).2 :=
  ⟨rfl, rfl, .cons ..⟩

theorem callTranslate_frame (w : World ε) (req : TranslateRequest) (st : State ε C) :
    LoopFrame st (callTranslate w req st).2 :=
  ⟨rfl, rfl, .cons ..⟩

theorem retryLoop_frame (w : World ε) (maxAttempts : Int) (originalSQL : String) (left : Nat)
    (curSQL : String) (prevErr : Option String) (st : State ε C) :
    LoopFrame st (retryLoop w maxAttempts originalSQL left curSQL prevErr st).2 := by
  induction left generalizing curSQL prevErr st with
  | zero => exact ⟨rfl, rfl, .refl _⟩
  | succ left ih =>
    have ran := callRedshift_frame w originalSQL curSQL st
    rcases redshift : callRedshift w originalSQL curSQL st with ⟨⟨outcome, ms⟩, st₁⟩
    rw [redshift] at ran
    cases outcome with
    | ok result => simpa only [retryLoop, redshift] using ran
    | error err =>
      by_cases last : left = 0
      · simpa only [retryLoop, redshift, last, if_true] using ran
      · have asked := callTranslate_frame w ⟨originalSQL, err, curSQL⟩ st₁
        rcases agent : callTranslate w ⟨originalSQL, err, curSQL⟩ st₁ with ⟨answer, st₂⟩
        rw [agent] at asked
        cases answer with
        | error fixErr =>
          simpa only [retryLoop, redshift, last, if_false, agent] using ran.trans asked
        | ok fixResp =>
          simp only [retryLoop, redshift, last, if_false, agent]
          exact (ran.trans asked).trans (ih ..)

/-- The text that the loop succeeds with is the one it was given, or one that the agent
returned for the query. -/
theorem retryLoop_winning {w : World ε} {maxAttempts : Int} {originalSQL : String} {left : Nat}
    {curSQL : String} {prevErr : Option String} {st st' : State ε C} {result : Result}
    {winningSQL : String} {ms : Int}
    (won : retryLoop w maxAttempts originalSQL left curSQL prevErr st =
      (.ok (result, winningSQL, ms), st')) :
    winningSQL = curSQL ∨ ReturnedFor st'.trace originalSQL winningSQL := by
  induction left generalizing curSQL prevErr st with
  | zero => simp [retryLoop] at won
  | succ left ih =>
    rcases redshift : callRedshift w originalSQL curSQL st with ⟨⟨outcome, ms'⟩, st₁⟩
    cases outcome with
    | ok result' =>
      simp only [retryLoop, redshift, Prod.mk.injEq, Except.ok.injEq] at won
      exact Or.inl won.1.2.1.symm
    | error err =>
      by_cases last : left = 0
      · simp [retryLoop, redshift, last] at won
      · rcases agent : callTranslate w ⟨originalSQL, err, curSQL⟩ st₁ with ⟨answer, st₂⟩
        cases answer with
        | error fixErr => simp [retryLoop, redshift, last, agent] at won
        | ok fixResp =>
          simp only [retryLoop, redshift, last, if_false, agent] at won
          have grows := (retryLoop_frame w maxAttempts originalSQL left fixResp.redshiftSQL
            (some err) st₂).grows
          rw [won] at grows
          rcases ih won with same | returned
          · have fixed : ReturnedFor st₂.trace originalSQL fixResp.redshiftSQL := by
              obtain ⟨-, rfl⟩ := Prod.mk.inj agent
              rw [(Prod.mk.inj agent).1]
              exact returnedFor_of_answer ⟨originalSQL, err, curSQL⟩ fixResp st₁.trace
            exact Or.inr (same ▸ fixed.mono grows)
          · exact Or.inr returned

/-- The errors of the loop are its own. -/
theorem retryLoop_error {w : World ε} {maxAttempts : Int} {originalSQL : String} {left : Nat}
    {curSQL : String} {prevErr : Option String} {st st' : State ε C} {err : HandleError}
    (lost : retryLoop w maxAttempts originalSQL left curSQL prevErr st = (.error err, st')) :
    ∃ attempts prevErr, err = .redshiftExec attempts prevErr := by
  induction left generalizing curSQL prevErr st with
  | zero =>
    cases lost
    exact ⟨_, _, rfl⟩
  | succ left ih =>
    rcases redshift : callRedshift w originalSQL curSQL st with ⟨⟨_ | result, ms⟩, st₁⟩
    · next rsErr =>
      by_cases last : left = 0
      · simp only [retryLoop, redshift, last, if_true] at lost
        cases lost
        exact ⟨_, _, rfl⟩
      · rcases agent : callTranslate w ⟨originalSQL, rsErr, curSQL⟩ st₁ with ⟨_ | fixResp, st₂⟩
        · simp only [retryLoop, redshift, last, if_false, agent] at lost
          cases lost
          exact ⟨_, _, rfl⟩
        · simp only [retryLoop, redshift, last, if_false, agent] at lost
          exact ih lost
    · simp only [retryLoop, redshift] at lost
      cases lost

/-- What running a first text comes to: an error of the loop, with nothing written, or
the reply to a result of Redshift, with its winning text remembered. -/
theorem runFirst_cases (srv : Server C) (w : World ε) (query rsQuery : String) (st : State ε C) :
    (∃ err st', execWithRetry srv w query rsQuery st = (.error err, st') ∧ LoopFrame st st' ∧
      runFirst srv w query rsQuery st = (.error err, st')) ∨
    (∃ result winningSQL ms st',
      execWithRetry srv w query rsQuery st = (.ok (result, winningSQL, ms), st') ∧
      LoopFrame st st' ∧ (winningSQL = rsQuery ∨ ReturnedFor st'.trace query winningSQL) ∧
      runFirst srv w query rsQuery st =
        (reply srv.wire result, remember srv query rsQuery winningSQL result ms st')) := by
  have kept : LoopFrame st (execWithRetry srv w query rsQuery st).2 := retryLoop_frame ..
  rcases ran : execWithRetry srv w query rsQuery st with ⟨err | ⟨result, winningSQL, ms⟩, st'⟩
  · rw [ran] at kept
    exact Or.inl ⟨err, st', rfl, kept, by simp only [runFirst, ran]⟩
  · rw [ran] at kept
    exact Or.inr ⟨result, winningSQL, ms, st', rfl, kept, retryLoop_winning ran,
      by simp only [runFirst, ran]⟩

theorem runFirst_fst (srv : Server C) (w : World ε) (query rsQuery : String) (st : State ε C) :
    (runFirst srv w query rsQuery st).1 =
      match (execWithRetry srv w query rsQuery st).1 with
      | .error err => .error err
      | .ok (result, _) => reply srv.wire result := by
  rcases ran : execWithRetry srv w query rsQuery st with ⟨_ | _, _⟩ <;> simp only [runFirst, ran]

theorem runFirst_ne_routerSelected (srv : Server C) (w : World ε) (query rsQuery : String)
    (st : State ε C) (tables : List String) :
    (runFirst srv w query rsQuery st).1 ≠ .error (.routerSelectedMySQL tables) := by
  rcases runFirst_cases srv w query rsQuery st with
    ⟨err, st', lost, -, ran⟩ | ⟨result, winningSQL, ms, st', -, -, -, ran⟩
  · obtain ⟨attempts, prevErr, rfl⟩ := retryLoop_error lost
    rw [ran]
    simp
  · rw [ran, reply]
    split <;> simp

/-- The Redshift path does not blame the router. -/
theorem handleRedshift_ne_routerSelected (srv : Server C) (w : World ε) (query : String)
    (st : State ε C) (tables : List String) :
    (handleRedshift srv w query st).1 ≠ .error (.routerSelectedMySQL tables) := by
  rw [handleRedshift]
  cases held : srv.lru.contents st.cache (srv.key query) with
  | none =>
    rcases answered : w.translate { sql := query } st.env with ⟨err | resp, env⟩
    · rw [firstSQL_error held answered]
      simp
    · rw [firstSQL_miss held answered]
      exact runFirst_ne_routerSelected srv w query _ _ tables
  | some text =>
    rw [firstSQL_hit held]
    exact runFirst_ne_routerSelected srv w query _ _ tables

/-! ## What a success leaves behind -/

section

variable (srv : Server C) (query rsQuery winningSQL : String) (result : Result) (ms : Int)
  (st : State ε C)

theorem remember_cache :
    (remember srv query rsQuery winningSQL result ms st).cache =
      if winningSQL ≠ rsQuery then Cache.set srv.lru st.cache (srv.key query) winningSQL
      else st.cache := by
  simp only [remember]
  split <;> split <;> rfl

theorem remember_saves :
    (remember srv query rsQuery winningSQL result ms st).saves =
      if 0 < result.rows.length ∧ goLen winningSQL < 8000 then
        runtimeSave query winningSQL result ms :: st.saves
      else st.saves := by
  simp only [remember]
  split <;> split <;> rfl

theorem remember_trace :
    (remember srv query rsQuery winningSQL result ms st).trace = st.trace := by
  simp only [remember]
  split <;> split <;> rfl

end

/-! ## Whose text an entry is -/

/-- No two different queries of a list share a cache key. -/
def CollisionFree (srv : Server C) (queries : List String) : Prop :=
  ∀ q ∈ queries, ∀ q' ∈ queries, srv.key q = srv.key q' → q = q'

/-- A query moves from those still to come to those seen. -/
theorem CollisionFree.shift {srv : Server C} {seen queries : List String} {query : String}
    (h : CollisionFree srv (seen ++ query :: queries)) :
    CollisionFree srv (query :: seen ++ queries) := by
  have same : ∀ q, q ∈ query :: seen ++ queries → q ∈ seen ++ query :: queries :=
    fun q => List.perm_middle.mem_iff.mpr
  exact fun q member q' member' => h q (same q member) q' (same q' member')

theorem CollisionFree.head {srv : Server C} {seen queries : List String} {query : String}
    (h : CollisionFree srv (seen ++ query :: queries)) :
    ∀ q ∈ seen, srv.key q = srv.key query → q = query :=
  fun q member => h q (List.mem_append_left _ member) query (by simp)

section

variable {srv : Server C} {G H : String → String → Prop} {seen seen' : List String}

/-- Each entry is good for a query seen so far that has its key. -/
def Attributed (srv : Server C) (G : String → String → Prop) (seen : List String) (cache : C) :
    Prop :=
  ∀ k text, srv.lru.contents cache k = some text → ∃ q ∈ seen, srv.key q = k ∧ G q text

theorem attributed_new {cache : C} {size : Int} (made : Cache.new srv.lru size = .ok cache) :
    Attributed srv G seen cache := by
  intro k text held
  rw [srv.lru.contents_new made k] at held
  cases held

theorem Attributed.looked {cache : C} (h : Attributed srv G seen cache) (query : String) :
    Attributed srv G seen (looked srv query cache) := by
  intro k text held
  rw [contents_looked] at held
  exact h k text held

theorem Attributed.mono {cache : C} (h : Attributed srv G seen cache)
    (good : ∀ q text, G q text → H q text) (more : seen ⊆ seen') :
    Attributed srv H seen' cache := by
  intro k text held
  obtain ⟨q, member, keyed, fit⟩ := h k text held
  exact ⟨q, more member, keyed, good q text fit⟩

theorem Attributed.set {cache : C} {query text : String} (h : Attributed srv G seen cache)
    (member : query ∈ seen) (fit : G query text) :
    Attributed srv G seen (Cache.set srv.lru cache (srv.key query) text) := by
  intro k text' held
  rcases srv.lru.contents_add_some held with ⟨rfl, rfl⟩ | old
  · exact ⟨query, member, rfl, fit⟩
  · exact h k text' old

/-- Without a collision, a hit finds a text that is good for the query itself. -/
theorem Attributed.hit {cache : C} {query text : String} (h : Attributed srv G seen cache)
    (alone : ∀ q ∈ seen, srv.key q = srv.key query → q = query)
    (held : srv.lru.contents cache (srv.key query) = some text) : G query text := by
  obtain ⟨q, member, keyed, fit⟩ := h _ text held
  exact alone q member keyed ▸ fit

theorem Attributed.remember {st : State ε C} {query rsQuery winningSQL : String} {result : Result}
    {ms : Int} (h : Attributed srv G seen st.cache) (member : query ∈ seen)
    (fit : G query winningSQL) :
    Attributed srv G seen (remember srv query rsQuery winningSQL result ms st).cache := by
  rw [remember_cache]
  split
  · exact h.set member fit
  · exact h

end

/-! ## Calls off the Redshift path -/

/-- The state after such a call: only the world may have moved. -/
structure Idle (st st' : State ε C) : Prop where
  cache : st'.cache = st.cache
  saves : st'.saves = st.saves
  trace : st'.trace = st.trace

theorem Idle.frame {st st' : State ε C} (h : Idle st st') : LoopFrame st st' :=
  ⟨h.cache, h.saves, h.trace ▸ .refl _⟩

theorem handleQuery_unrouted {srv : Server C} {query : String}
    (routed : srv.onRedshift query = false) (w : World ε) (st : State ε C) :
    Idle st (handleQuery srv w query st).2 := by
  rw [handleQuery]
  by_cases noop : shouldNoop srv.db query = true
  · rw [if_pos noop]
    exact ⟨rfl, rfl, rfl⟩
  · rw [if_neg noop]
    rcases dest : srv.router.route query with ⟨_ | _, tables, reason⟩
    · simp [Server.onRedshift, noop, dest] at routed
    · simp only [handleMySQL]
      cases w.myExecSelect with
      | none => exact ⟨rfl, rfl, rfl⟩
      | some execSelect =>
        rcases ran : execSelect query st.env with ⟨_ | _, env⟩ <;>
          simp only [ran] <;> exact ⟨rfl, rfl, rfl⟩

/-! ## Runs -/

theorem serve_cons (srv : Server C) (w : World ε) (query : String) (queries : List String)
    (st : State ε C) :
    serve srv w (query :: queries) st =
      ((handleQuery srv w query st).1 :: (serve srv w queries (handleQuery srv w query st).2).1,
        (serve srv w queries (handleQuery srv w query st).2).2) := by
  simp only [serve]

theorem serve_append (srv : Server C) (w : World ε) (queries more : List String)
    (st : State ε C) :
    serve srv w (queries ++ more) st =
      ((serve srv w queries st).1 ++ (serve srv w more (serve srv w queries st).2).1,
        (serve srv w more (serve srv w queries st).2).2) := by
  induction queries generalizing st with
  | nil => rfl
  | cons query queries ih => simp only [List.cons_append, serve_cons, ih]

theorem serve_length (srv : Server C) (w : World ε) (queries : List String) (st : State ε C) :
    (serve srv w queries st).1.length = queries.length := by
  induction queries generalizing st with
  | nil => rfl
  | cons query queries ih => simp only [serve_cons, List.length_cons, ih]

end MysqlRedshift.Proxy
