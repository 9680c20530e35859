import MysqlRedshift.Proxy.InterleavingProps

/-!
# One call at a time

The handler of `Proxy/Server`, which runs each call to its end, is simulated by the
machine of concurrent calls: a call is a run of its own steps, with the eviction that
the cache library makes just before a `Set`. So what holds of every interleaving
holds of the handler, with an abstract cache for the library's.
-/

namespace MysqlRedshift.Proxy.Interleaving

open MysqlRedshift.Misc

variable {ε C : Type} (srv : Server C) (w : World ε)

/-- The machine for a server's key and its number of attempts. -/
abbrev sequential : Machine (Sys String) (Action String) :=
  machine srv.key srv.cfg.maxAttempts.toNat

/-- A state of the machine with this cache and this trace, in which call `i` stands at
`c`, and every other call where it stood in `s`. -/
structure At (s : Sys String) (i : Nat) (cache : String → Option String) (trace : List Event)
    (c : Call) (t : Sys String) : Prop where
  cache : t.cache = cache
  trace : t.trace = trace
  call : t.calls i = some c
  others : ∀ j, j ≠ i → t.calls j = s.calls j

variable {srv}

/-- A step of call `i` as the call's own step. -/
theorem At.step {s t : Sys String} {i : Nat} {cache cache' : String → Option String}
    {trace trace' : List Event} {query : String} {pc pc' : Pc} {P : Sys String → Prop}
    (here : At s i cache trace ⟨query, pc⟩ t) (st : Step)
    (moved : stepCall srv.key srv.cfg.maxAttempts.toNat query ⟨cache, trace⟩ pc st =
      some (pc', ⟨cache', trace'⟩))
    (next : ∀ u, At s i cache' trace' ⟨query, pc'⟩ u → (sequential srv).Reaches u P) :
    (sequential srv).Reaches t P := by
  have same : t.toShared = ⟨cache, trace⟩ := by
    rcases t with ⟨⟨_, _⟩, _⟩
    simp only [Shared.mk.injEq]
    exact ⟨here.cache, here.trace⟩
  have stepped : (sequential srv).step t (.call i st) =
      some { cache := cache', trace := trace',
             calls := Function.update t.calls i (some ⟨query, pc'⟩) } := by
    simp only [sequential, machine, Interleaving.step, here.call, same, moved]
  refine .step _ stepped (next _ ⟨rfl, rfl, Function.update_self .., ?_⟩)
  intro j other
  exact (Function.update_of_ne other ..).trans (here.others j other)

/-- A `Set` of the library is a `Set` of the machine, after the eviction of the entry
that it drops, if it drops one. -/
theorem At.store {s t : Sys String} {i : Nat} {c : C} {trace : List Event} {query text : String}
    {pc pc' : Pc} {P : Sys String → Prop} (here : At s i (srv.lru.contents c) trace ⟨query, pc⟩ t)
    (st : Step)
    (moved : ∀ sh, stepCall srv.key srv.cfg.maxAttempts.toNat query sh pc st =
      some (pc', sh.store (srv.key query) text))
    (next : ∀ u, At s i (srv.lru.contents (Cache.set srv.lru c (srv.key query) text)) trace
      ⟨query, pc'⟩ u → (sequential srv).Reaches u P) :
    (sequential srv).Reaches t P := by
  cases out : srv.lru.evicts c (srv.key query) text with
  | none =>
    rw [Cache.set, srv.lru.contents_add_of_room out] at next
    exact here.step st (moved _) next
  | some k =>
    rw [Cache.set, srv.lru.contents_add_of_full out] at next
    have evicted : At s i (Function.update (srv.lru.contents c) k none) trace ⟨query, pc⟩
        { t with cache := Function.update t.cache k none } :=
      ⟨by rw [here.cache], here.trace, here.call, here.others⟩
    exact .step (.evict k) rfl (evicted.step st (moved _) next)

/-- Where a call stands after its retry loop. -/
def afterLoop (rsQuery : String) : Except HandleError (Result × String × Int) → Pc
  | .error _ => .done none
  | .ok (_, winningSQL, _) =>
    if winningSQL ≠ rsQuery then .finalSet rsQuery winningSQL else .done (some winningSQL)

/-- The retry loop, attempt by attempt. -/
theorem At.loop {s t : Sys String} {i : Nat} {cache : String → Option String}
    {query rsQuery : String}
    {P : Sys String → Prop} (maxAttempts : Int) (left : Nat) (curSQL : String)
    (prevErr : Option String) (st : State ε C)
    (here : At s i cache st.trace ⟨query, .execSelect rsQuery curSQL left⟩ t)
    (next : ∀ u, At s i cache (retryLoop w maxAttempts query (left + 1) curSQL prevErr st).2.trace
      ⟨query, afterLoop rsQuery (retryLoop w maxAttempts query (left + 1) curSQL prevErr st).1⟩ u →
      (sequential srv).Reaches u P) :
    (sequential srv).Reaches t P := by
  induction left generalizing curSQL prevErr st t with
  | zero =>
    rcases ran : w.rsExecSelect curSQL st.env with ⟨⟨err | result, ms⟩, env⟩
    · simp only [retryLoop, callRedshift, ran, if_true, afterLoop] at next
      exact here.step (.execSelect (.error err)) rfl next
    · simp only [retryLoop, callRedshift, ran, afterLoop] at next
      exact here.step (.execSelect (.ok result)) rfl next
  | succ left ih =>
    rcases ran : w.rsExecSelect curSQL st.env with ⟨⟨err | result, ms⟩, env⟩
    · refine here.step (.execSelect (.error err)) rfl fun u there => ?_
      rw [retryLoop] at next
      simp only [callRedshift, ran, Nat.add_one_ne_zero, if_false, callTranslate] at next
      rcases asked : w.translate ⟨query, err, curSQL⟩ env with ⟨fixErr | fixResp, env'⟩
      · simp only [asked, afterLoop] at next
        exact there.step (.fix (.error fixErr)) rfl next
      · simp only [asked] at next
        exact there.step (.fix (.ok fixResp)) rfl fun v fixed => ih _ _ _ fixed next
    · simp only [retryLoop, callRedshift, ran, afterLoop] at next
      exact here.step (.execSelect (.ok result)) rfl next

/-- Running a first text. -/
theorem At.runFirst {s t : Sys String} {i : Nat} {query rsQuery : String} {P : Sys String → Prop}
    (st : State ε C)
    (here : At s i (srv.lru.contents st.cache) st.trace
      ⟨query, enter srv.cfg.maxAttempts.toNat rsQuery⟩ t)
    (next : ∀ u won, At s i (srv.lru.contents (runFirst srv w query rsQuery st).2.cache)
      (runFirst srv w query rsQuery st).2.trace ⟨query, .done won⟩ u →
      (sequential srv).Reaches u P) :
    (sequential srv).Reaches t P := by
  cases attempts : srv.cfg.maxAttempts.toNat with
  | zero =>
    simp only [Proxy.runFirst, execWithRetry, attempts, retryLoop] at next
    rw [attempts] at here
    exact next t none here
  | succ left =>
    rw [attempts] at here
    refine here.loop w srv.cfg.maxAttempts left rsQuery none st fun u there => ?_
    have loop : retryLoop w srv.cfg.maxAttempts query (left + 1) rsQuery none st =
        execWithRetry srv w query rsQuery st := by
      rw [execWithRetry, attempts]
    rw [loop] at there
    rcases runFirst_cases srv w query rsQuery st with
      ⟨err, st', failed, frame, run⟩ | ⟨result, winningSQL, ms, st', won, frame, -, run⟩
    · rw [failed, ← frame.cache] at there
      rw [run] at next
      exact next u none there
    · rw [won, ← frame.cache] at there
      rw [run] at next
      simp only [remember_trace, remember_cache] at next
      by_cases differs : winningSQL = rsQuery
      · simp only [afterLoop, differs, ne_eq, not_true_eq_false, if_false] at there next
        exact next u _ there
      · simp only [afterLoop, differs, ne_eq, not_false_eq_true, if_true] at there next
        exact there.store .finalSet (fun _ => rfl) fun v stored => next v _ stored

/-- A call on the Redshift path is a run of the machine that moves this call alone. -/
theorem handleRedshift_simulated (srv : Server C) (w : World ε) (query : String) (st : State ε C)
    (s : Sys String) (cached : s.cache = srv.lru.contents st.cache) (traced : s.trace = st.trace)
    (i : Nat) (free : s.calls i = none) :
    (sequential srv).Reaches s fun t =>
      ∃ won, At s i (srv.lru.contents (handleRedshift srv w query st).2.cache)
        (handleRedshift srv w query st).2.trace ⟨query, .done won⟩ t := by
  have arrived : (sequential srv).step s (.arrive i query) =
      some { s with calls := Function.update s.calls i (some ⟨query, .get⟩) } := by
    simp only [sequential, machine, Interleaving.step, free]
  have here : At s i (srv.lru.contents st.cache) st.trace ⟨query, .get⟩
      { s with calls := Function.update s.calls i (some ⟨query, .get⟩) } :=
    ⟨cached, traced, Function.update_self .., fun j other => Function.update_of_ne other ..⟩
  have same : srv.lru.contents (looked srv query st.cache) = srv.lru.contents st.cache :=
    funext (contents_looked srv query st.cache)
  refine .step _ arrived ?_
  rw [handleRedshift]
  cases held : srv.lru.contents st.cache (srv.key query) with
  | some text =>
    rw [firstSQL_hit held]
    have hit : stepCall srv.key srv.cfg.maxAttempts.toNat query
        ⟨srv.lru.contents st.cache, st.trace⟩ .get .get =
        some (enter srv.cfg.maxAttempts.toNat text, ⟨srv.lru.contents st.cache, st.trace⟩) := by
      simp only [stepCall, held]
    refine here.step .get hit fun u there => ?_
    rw [← same] at there
    exact there.runFirst w { st with cache := looked srv query st.cache } fun v won done =>
      .here ⟨won, done⟩
  | none =>
    have miss : stepCall srv.key srv.cfg.maxAttempts.toNat query
        ⟨srv.lru.contents st.cache, st.trace⟩ .get .get =
        some (.translate, ⟨srv.lru.contents st.cache, st.trace⟩) := by
      simp only [stepCall, held]
    refine here.step .get miss fun u there => ?_
    rcases answered : w.translate { sql := query } st.env with ⟨err | resp, env⟩
    · rw [firstSQL_error held answered]
      refine there.step (.translate (.error err)) rfl fun v refused => .here ⟨none, ?_⟩
      rw [same]
      exact refused
    · rw [firstSQL_miss held answered]
      refine there.step (.translate (.ok resp)) rfl fun v translated => ?_
      rw [← same] at translated
      exact translated.store .set (fun _ => rfl) fun x stored =>
        stored.runFirst w
          { st with
            cache := Cache.set srv.lru (looked srv query st.cache) (srv.key query) resp.redshiftSQL
            env
            trace := .translate { sql := query } (.ok resp) :: st.trace }
          fun y won done => .here ⟨won, done⟩

/-- A run of the handler is a run of the machine, from a state with the same cache and
trace in which the calls from `n` on are still to come. -/
theorem serve_simulated (srv : Server C) (w : World ε) (queries : List String) (st : State ε C)
    (s : Sys String) (n : Nat) (cached : s.cache = srv.lru.contents st.cache)
    (traced : s.trace = st.trace) (free : ∀ j, n ≤ j → s.calls j = none) :
    (sequential srv).Reaches s fun t =>
      t.cache = srv.lru.contents (serve srv w queries st).2.cache ∧
        t.trace = (serve srv w queries st).2.trace := by
  induction queries generalizing st s n with
  | nil => exact .here ⟨cached, traced⟩
  | cons query queries ih =>
    rw [serve_cons]
    cases routed : srv.onRedshift query with
    | false =>
      have idle := handleQuery_unrouted routed w st
      exact ih _ s n (by rw [idle.cache, cached]) (by rw [idle.trace, traced]) free
    | true =>
      rw [handleQuery_onRedshift routed]
      have idle : s.calls n = none := free n (Nat.le_refl n)
      refine (handleRedshift_simulated srv w query st s cached traced n idle).trans ?_
      rintro t ⟨won, done⟩
      refine ih _ t (n + 1) done.cache done.trace fun j later => ?_
      rw [done.others j (by omega)]
      exact free j (by omega)

end MysqlRedshift.Proxy.Interleaving
