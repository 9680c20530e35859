import MysqlRedshift.Proxy.Collision

/-!
# Cache transparency

The agent and Redshift are fixed functions here, and a run with the cache is
compared with the replies of a proxy whose cache is empty. An entry is good for a
query when running its text gives the query's own reply; entries stay good for the
query that made them, so transparency is lost exactly by a query that finds the
entry of another one. The entry holds no literals, the key forgets them, and
nothing binds the literals of the query at hand on a hit.
-/

namespace MysqlRedshift.Proxy

open MysqlRedshift.Misc

variable {ε C : Type}

/-- The reply of a proxy whose cache is empty. -/
def freshReply (srv : Server C) (w : World ε) (empty : C) (env : ε) (query : String) : Reply :=
  (handleQuery srv w query { cache := empty, env }).1

/-- A run that starts with the empty cache answers each query as a fresh proxy would. -/
def Transparent (srv : Server C) (w : World ε) (empty : C) (env : ε) (queries : List String) :
    Prop :=
  (serve srv w queries { cache := empty, env }).1 = queries.map (freshReply srv w empty env)

section Fixed

variable (srv : Server C) (translate : TranslateRequest → Except String TranslateResponse)
  (redshift : String → Except String Result × Int)

/-- With fixed parties the loop's outcome does not depend on the state. -/
theorem retryLoop_fixed (maxAttempts : Int) (originalSQL : String) (left : Nat) (curSQL : String)
    (prevErr : Option String) (st st' : State Unit C) :
    (retryLoop (.fixed translate redshift) maxAttempts originalSQL left curSQL prevErr st).1 =
      (retryLoop (.fixed translate redshift) maxAttempts originalSQL left curSQL prevErr
        st').1 := by
  induction left generalizing curSQL prevErr st st' with
  | zero => rfl
  | succ left ih =>
    simp only [retryLoop, callRedshift, callTranslate, World.fixed]
    rcases redshift curSQL with ⟨err | result, ms⟩
    · by_cases last : left = 0
      · simp only [last, if_true]
      · simp only [last, if_false]
        cases translate { sql := originalSQL, prevError := err, prevSQL := curSQL } with
        | error fixErr => rfl
        | ok fixResp => exact ih ..
    · rfl

/-- The result that the loop returns is what Redshift answers to the winning text. -/
theorem retryLoop_fixed_won {maxAttempts : Int} {originalSQL : String} {left : Nat}
    {curSQL : String} {prevErr : Option String} {st st' : State Unit C} {result : Result}
    {winningSQL : String} {ms : Int}
    (won : retryLoop (.fixed translate redshift) maxAttempts originalSQL left curSQL prevErr st =
      (.ok (result, winningSQL, ms), st')) :
    0 < left ∧ redshift winningSQL = (.ok result, ms) := by
  induction left generalizing curSQL prevErr st with
  | zero => simp [retryLoop] at won
  | succ left ih =>
    refine ⟨left.succ_pos, ?_⟩
    simp only [retryLoop, callRedshift, callTranslate, World.fixed] at won
    rcases ran : redshift curSQL with ⟨err | result', ms'⟩
    · by_cases last : left = 0
      · simp [ran, last] at won
      · simp only [ran, last, if_false] at won
        cases answered : translate { sql := originalSQL, prevError := err, prevSQL := curSQL } with
        | error fixErr => simp [answered] at won
        | ok fixResp =>
          simp only [answered] at won
          exact (ih won).2
    · simp only [ran, Prod.mk.injEq, Except.ok.injEq] at won
      obtain ⟨⟨rfl, rfl, rfl⟩, -⟩ := won
      exact ran

theorem runFirst_fixed (query rsQuery : String) (st st' : State Unit C) :
    (runFirst srv (.fixed translate redshift) query rsQuery st).1 =
      (runFirst srv (.fixed translate redshift) query rsQuery st').1 := by
  rw [runFirst_fst, runFirst_fst, execWithRetry, execWithRetry,
    retryLoop_fixed translate redshift _ _ _ _ _ st st']

/-- Running the winning text again gives the reply that it won with. -/
theorem runFirst_fixed_again {query rsQuery : String} {st after : State Unit C} {result : Result}
    {winningSQL : String} {ms : Int}
    (won : execWithRetry srv (.fixed translate redshift) query rsQuery st =
      (.ok (result, winningSQL, ms), after)) (st' : State Unit C) :
    (runFirst srv (.fixed translate redshift) query winningSQL st').1 = reply srv.wire result := by
  obtain ⟨some_left, ran⟩ := retryLoop_fixed_won translate redshift won
  obtain ⟨left, attempts⟩ := Nat.exists_eq_succ_of_ne_zero (Nat.pos_iff_ne_zero.mp some_left)
  simp only [runFirst, execWithRetry, attempts, retryLoop, callRedshift, World.fixed, ran]

/-- A text that gives the query's own reply, whenever it is run for it. -/
def Serves (empty : C) (query text : String) : Prop :=
  ∀ st, (runFirst srv (.fixed translate redshift) query text st).1 =
    freshReply srv (.fixed translate redshift) empty () query

variable {srv translate redshift} {empty : C}

/-- Running a text that serves the query gives its own reply, and the winning text that
is then stored serves it too. -/
theorem runFirst_transparent {query text : String} {seen : List String} {st : State Unit C}
    (serves : Serves srv translate redshift empty query text)
    (good : Attributed srv (Serves srv translate redshift empty) (query :: seen) st.cache) :
    (runFirst srv (.fixed translate redshift) query text st).1 =
        freshReply srv (.fixed translate redshift) empty () query ∧
      Attributed srv (Serves srv translate redshift empty) (query :: seen)
        (runFirst srv (.fixed translate redshift) query text st).2.cache := by
  refine ⟨serves st, ?_⟩
  rcases runFirst_cases srv (.fixed translate redshift) query text st with
    ⟨err, st', -, frame, run⟩ | ⟨result, winningSQL, ms, st', won, frame, -, run⟩
  · rw [run, frame.cache]
    exact good
  · have answer := serves st
    rw [run] at answer ⊢
    refine Attributed.remember (frame.cache ▸ good) List.mem_cons_self fun st'' => ?_
    rw [← answer]
    exact runFirst_fixed_again srv translate redshift won st''

/-- A fixed agent answers as it does, and its world stays. -/
theorem fixed_translate {req : TranslateRequest} {answer : Except String TranslateResponse}
    (answered : translate req = answer) (env : Unit) :
    (World.fixed translate redshift).translate req env = (answer, env) :=
  congrArg (·, env) answered

/-- On an empty cache, a query whose translation fails is answered with the failure. -/
theorem freshReply_error {size : Int} (made : Cache.new srv.lru size = .ok empty)
    {query err : String} (routed : srv.onRedshift query = true)
    (answered : translate { sql := query } = .error err) :
    freshReply srv (.fixed translate redshift) empty () query = .error (.translateFailed err) := by
  rw [freshReply, handleQuery_onRedshift routed, handleRedshift,
    firstSQL_error (srv.lru.contents_new made _) (fixed_translate answered _)]

/-- On an empty cache, a query is answered by running its translation. -/
theorem serves_of_translate {size : Int} (made : Cache.new srv.lru size = .ok empty)
    {query : String} {resp : TranslateResponse} (routed : srv.onRedshift query = true)
    (answered : translate { sql := query } = .ok resp) :
    Serves srv translate redshift empty query resp.redshiftSQL := by
  intro st
  rw [freshReply, handleQuery_onRedshift routed, handleRedshift,
    firstSQL_miss (srv.lru.contents_new made _) (fixed_translate answered _)]
  exact runFirst_fixed ..

/-- One call: if no earlier query shares the key, the reply is the fresh one, and all
entries stay good for the queries that made them. -/
theorem handleRedshift_transparent {size : Int} (made : Cache.new srv.lru size = .ok empty)
    {query : String} (routed : srv.onRedshift query = true) {seen : List String}
    {st : State Unit C} (good : Attributed srv (Serves srv translate redshift empty) seen st.cache)
    (alone : ∀ q ∈ seen, srv.key q = srv.key query → q = query) :
    (handleQuery srv (.fixed translate redshift) query st).1 =
        freshReply srv (.fixed translate redshift) empty () query ∧
      Attributed srv (Serves srv translate redshift empty) (query :: seen)
        (handleQuery srv (.fixed translate redshift) query st).2.cache := by
  have kept := (good.looked query).mono (fun _ _ => id) (List.subset_cons_self query seen)
  rw [handleQuery_onRedshift routed, handleRedshift]
  cases held : srv.lru.contents st.cache (srv.key query) with
  | some text =>
    rw [firstSQL_hit held]
    exact runFirst_transparent (good.hit alone held) kept
  | none =>
    cases answered : translate { sql := query } with
    | error err =>
      rw [firstSQL_error held (fixed_translate answered _), freshReply_error made routed answered]
      exact ⟨rfl, kept⟩
    | ok resp =>
      have serves : Serves srv translate redshift empty query resp.redshiftSQL :=
        serves_of_translate made routed answered
      rw [firstSQL_miss held (fixed_translate answered _)]
      exact runFirst_transparent serves (kept.set List.mem_cons_self serves)

/-- A run: transparency for queries of which no two share a key. -/
theorem serve_transparent {size : Int} (made : Cache.new srv.lru size = .ok empty)
    {queries seen : List String} (routed : ∀ q ∈ queries, srv.onRedshift q = true)
    (alone : CollisionFree srv (seen ++ queries)) {st : State Unit C}
    (good : Attributed srv (Serves srv translate redshift empty) seen st.cache) :
    (serve srv (.fixed translate redshift) queries st).1 =
      queries.map (freshReply srv (.fixed translate redshift) empty ()) := by
  induction queries generalizing seen st with
  | nil => rfl
  | cons query queries ih =>
    obtain ⟨answer, good'⟩ := handleRedshift_transparent made
      (routed query List.mem_cons_self) good alone.head
    have rest := ih (fun q member => routed q (List.mem_cons_of_mem _ member))
      alone.shift good'
    simp only [serve, List.map_cons, answer, rest]

end Fixed

/-- What one query is answered within a transparent run. -/
theorem Transparent.at {srv : Server C} {w : World ε} {empty : C} {env : ε}
    {before after : List String} {query : String}
    (h : Transparent srv w empty env (before ++ query :: after)) :
    (handleQuery srv w query (serve srv w before { cache := empty, env }).2).1 =
      freshReply srv w empty env query := by
  rw [Transparent, serve_append, serve_cons, List.map_append, List.map_cons] at h
  have lengths := (serve_length srv w before { cache := empty, env }).trans
    (List.length_map (freshReply srv w empty env)).symm
  exact (List.cons.inj (List.append_inj h lengths).2).1

/-- With one agent, the second of two queries under one key is not answered as a fresh
proxy would answer it. -/
theorem not_transparent_of_collision {srv : Server C} {empty : C} {size : Int}
    (made : Cache.new srv.lru size = .ok empty) (attempts : 1 ≤ srv.cfg.maxAttempts)
    {x y : String} {before after : List String} (routed : srv.onRedshift x = true)
    (routed' : srv.onRedshift y = true) (collide : srv.key y = srv.key x) (differ : y ≠ x)
    (earlier : x ∈ before) :
    ¬ Transparent srv (soleAnswer x) empty () (before ++ y :: after) := by
  intro transparent
  have answer := transparent.at
  have held := (sole_serve attempts routed (sole_start made) before).2.2 (Or.inl earlier)
  rw [← collide] at held
  rw [handleQuery_sole_hit attempts routed' held, freshReply,
    handleQuery_sole_refused routed' differ (srv.lru.contents_new made _), reply] at answer
  cases built : toMySQL srv.wire (some oneRow) <;> rw [built] at answer <;> cases answer

/-- A run is transparent for every agent and every Redshift exactly when no two of its
queries share a cache key. -/
theorem transparent_iff (srv : Server C) (empty : C)
    (made : Cache.new srv.lru srv.cfg.cacheSize = .ok empty)
    (attempts : 1 ≤ srv.cfg.maxAttempts) (queries : List String)
    (routed : ∀ q ∈ queries, srv.onRedshift q = true) :
    (∀ translate redshift, Transparent srv (.fixed translate redshift) empty () queries) ↔
      CollisionFree srv queries := by
  constructor
  · intro transparent q member q' member' collide
    by_contra differ
    rcases one_before_other member member' differ with
      ⟨before, after, rfl, earlier⟩ | ⟨before, after, rfl, earlier⟩
    · exact not_transparent_of_collision made attempts (routed q member) (routed q' member')
        collide.symm (Ne.symm differ) earlier (transparent ..)
    · exact not_transparent_of_collision made attempts (routed q' member') (routed q member)
        collide differ earlier (transparent ..)
  · intro alone translate redshift
    exact serve_transparent made routed (show CollisionFree srv ([] ++ queries) from alone)
      (attributed_new made)

/-- An agent that leaves the text as it is. -/
def echo (req : TranslateRequest) : Except String TranslateResponse :=
  .ok { redshiftSQL := req.sql }

/-- A table with Ann under 1 and Bob under 2. -/
def annAndBob (sql : String) : Except String Result × Int :=
  (.ok ⟨["name"], [[.str (ascii (if sql = nameOf1 then "Ann" else "Bob"))]]⟩, 0)

theorem transparent_iff_askedAgain :
    Transparent defaultServer (.fixed echo annAndBob) emptyCache () askedAgain :=
  (transparent_iff defaultServer emptyCache new_defaultServer (by decide) askedAgain
    onRedshift_askedAgain).mpr collisionFree_askedAgain echo annAndBob

/-- The second client asks for 2 and is given Ann. -/
theorem not_transparent_names :
    (serve defaultServer (.fixed echo annAndBob) [nameOf1, nameOf2]
        { cache := emptyCache, env := () }).1 =
      [.ok { MySQLResult.zero with resultset := some ⟨["name"], [[some (ascii "Ann")]]⟩ },
        .ok { MySQLResult.zero with resultset := some ⟨["name"], [[some (ascii "Ann")]]⟩ }] ∧
    ¬ Transparent defaultServer (.fixed echo annAndBob) emptyCache () [nameOf1, nameOf2] := by
  unfold Transparent
  decide +kernel

end MysqlRedshift.Proxy
