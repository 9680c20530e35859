import MysqlRedshift.Misc.Recency
import MysqlRedshift.Proxy.ServerProps

/-!
# Hits and misses

What the size of the cache does to the counters of `Stats` in
`proxy/internal/cache/cache.go`, for the cache that drops what was not used for longest. A
query on the Redshift path is one access to its key: the lookup brings a held key to the
front, a translation brings the key in, and what `Set` writes after a fix finds its key in
front already.
-/

namespace MysqlRedshift.Proxy

open MysqlRedshift.Misc

variable {ε C : Type}

/-- Whether the agent translates a query, when it is asked now. -/
def translates (w : World ε) (query : String) (st : State ε C) : Bool :=
  match (w.translate { sql := query } st.env).1 with
  | .ok _ => true
  | .error _ => false

/-! ## A query is an access -/

section

variable {srv : Server C} (recent : srv.lru.ByRecency) (w : World ε) (query : String)
  (st : State ε C)

/-- What the retry loop leaves behind moves no key. -/
theorem runFirst_front (rsQuery : String) {rest : List String}
    (front : recent.keys st.cache = srv.key query :: rest) :
    recent.keys (runFirst srv w query rsQuery st).2.cache = srv.key query :: rest ∧
      recent.size (runFirst srv w query rsQuery st).2.cache = recent.size st.cache := by
  rcases runFirst_cases srv w query rsQuery st with
    ⟨err, st', -, frame, run⟩ | ⟨result, winningSQL, ms, st', -, frame, -, run⟩
  · rw [run, frame.cache]
    exact ⟨front, rfl⟩
  · rw [run]
    dsimp only
    rw [remember_cache, frame.cache]
    split
    · exact ⟨recent.keys_add_front _ front, recent.size_add ..⟩
    · exact ⟨front, rfl⟩

/-- On the Redshift path, a query touches its key. -/
theorem handleRedshift_touches :
    recent.keys (handleRedshift srv w query st).2.cache =
        Recency.touch (recent.size st.cache) (translates w query st) (recent.keys st.cache)
          (srv.key query) ∧
      recent.size (handleRedshift srv w query st).2.cache = recent.size st.cache := by
  have lookup : recent.keys (looked srv query st.cache) = _ :=
    recent.keys_get st.cache (srv.key query)
  have size : recent.size (looked srv query st.cache) = recent.size st.cache :=
    recent.size_get st.cache (srv.key query)
  rw [handleRedshift]
  cases held : srv.lru.contents st.cache (srv.key query) with
  | some text =>
    have member : srv.key query ∈ recent.keys st.cache :=
      (recent.contents ..).mp (by rw [held]; simp)
    rw [if_pos member] at lookup
    obtain ⟨keys, size'⟩ := runFirst_front recent w query
      { st with cache := looked srv query st.cache } text lookup
    rw [firstSQL_hit held, Recency.touch_of_mem member]
    exact ⟨keys, size'.trans size⟩
  | none =>
    have absent : srv.key query ∉ recent.keys st.cache := fun member =>
      (recent.contents ..).mpr member held
    rw [if_neg absent] at lookup
    rcases answered : w.translate { sql := query } st.env with ⟨err | resp, env⟩
    · rw [firstSQL_error held answered]
      have failed : translates w query st = false := by simp only [translates, answered]
      rw [failed, Recency.touch_unfetched absent]
      exact ⟨lookup, size⟩
    · rw [firstSQL_miss held answered]
      have fetched : translates w query st = true := by simp only [translates, answered]
      rw [fetched, Recency.touch_fetched absent]
      have whole : (srv.key query :: recent.keys st.cache).take (recent.size st.cache) =
          srv.key query :: (recent.keys st.cache).take (recent.size st.cache - 1) := by
        obtain ⟨n, places⟩ :=
          Nat.exists_eq_succ_of_ne_zero (Nat.pos_iff_ne_zero.mp (recent.pos st.cache))
        rw [places, List.take_succ_cons, Nat.succ_sub_one]
      have stored := recent.keys_add (looked srv query st.cache) (srv.key query) resp.redshiftSQL
      rw [lookup, size, List.erase_of_not_mem absent, whole] at stored
      obtain ⟨keys, size'⟩ := runFirst_front recent w query
        { st with
          cache := Cache.set srv.lru (looked srv query st.cache) (srv.key query) resp.redshiftSQL
          env
          trace := .translate { sql := query } (.ok resp) :: st.trace }
        resp.redshiftSQL stored
      exact ⟨keys.trans whole.symm, size'.trans ((recent.size_add ..).trans size)⟩

/-- A query that goes elsewhere touches nothing. -/
theorem handleQuery_touches :
    recent.keys (handleQuery srv w query st).2.cache =
        (if srv.onRedshift query then
          Recency.touch (recent.size st.cache) (translates w query st) (recent.keys st.cache)
            (srv.key query)
        else recent.keys st.cache) ∧
      recent.size (handleQuery srv w query st).2.cache = recent.size st.cache := by
  cases routed : srv.onRedshift query with
  | true =>
    rw [if_pos rfl, handleQuery_onRedshift routed]
    exact handleRedshift_touches recent w query st
  | false =>
    rw [if_neg Bool.false_ne_true, (handleQuery_unrouted routed w st).cache]
    exact ⟨rfl, rfl⟩

end

/-! ## `Stats` -/

/-- The counters. -/
structure Stats where
  hit : Nat := 0
  miss : Nat := 0
  deriving DecidableEq, Repr

def Stats.incHit (s : Stats) : Stats := { s with hit := s.hit + 1 }

def Stats.incMiss (s : Stats) : Stats := { s with miss := s.miss + 1 }

/-- What `HandleQuery` does to the counters: one of them goes up on the Redshift path. -/
def countLookup (srv : Server C) (query : String) (st : State ε C) (s : Stats) : Stats :=
  if srv.onRedshift query then
    match (Cache.get srv.lru st.cache (srv.key query)).1 with
    | some _ => s.incHit
    | none => s.incMiss
  else s

/-- `Stats` after queries that are handled one after the other. -/
def stats (srv : Server C) (w : World ε) : List String → State ε C → Stats → Stats
  | [], _, s => s
  | query :: queries, st, s =>
    stats srv w queries (handleQuery srv w query st).2 (countLookup srv query st s)

/-- Each query on the Redshift path is counted once. -/
theorem stats_total (srv : Server C) (w : World ε) (queries : List String)
    (st : State ε C) (s : Stats) :
    (stats srv w queries st s).hit + (stats srv w queries st s).miss =
      s.hit + s.miss + queries.countP srv.onRedshift := by
  induction queries generalizing st s with
  | nil => rfl
  | cons query queries ih =>
    rw [stats, ih, List.countP_cons, countLookup]
    split
    · next routed =>
      split <;> simp only [Stats.incHit, Stats.incMiss] <;> omega
    · next unrouted => omega

/-! ## A larger cache -/

section

variable {srv : Server C} (recent : srv.lru.ByRecency)

include recent

theorem get_isSome_iff (c : C) (k : String) :
    (Cache.get srv.lru c k).1 ≠ none ↔ k ∈ recent.keys c := by
  rw [Cache.get, srv.lru.get_fst, recent.contents]

/-- A cache that holds more counts no more misses and no fewer hits. -/
theorem countLookup_mono (query : String) {st st' : State ε C} {s s' : Stats}
    (more : srv.key query ∈ recent.keys st.cache → srv.key query ∈ recent.keys st'.cache)
    (miss : s'.miss ≤ s.miss) (hit : s.hit ≤ s'.hit) :
    (countLookup srv query st' s').miss ≤ (countLookup srv query st s).miss ∧
      (countLookup srv query st s).hit ≤ (countLookup srv query st' s').hit := by
  rw [← get_isSome_iff recent, ← get_isSome_iff recent] at more
  unfold countLookup
  split
  · cases held : (Cache.get srv.lru st.cache (srv.key query)).1 with
    | some text =>
      obtain ⟨text', held'⟩ := Option.ne_none_iff_exists'.mp (more (by rw [held]; simp))
      rw [held']
      exact ⟨miss, Nat.succ_le_succ hit⟩
    | none =>
      split
      · exact ⟨Nat.le_succ_of_le miss, Nat.le_succ_of_le hit⟩
      · exact ⟨Nat.succ_le_succ miss, hit⟩
  · exact ⟨miss, hit⟩

/-- Of two caches, one within the other, the counters stay apart. -/
theorem stats_nested (translate : TranslateRequest → Except String TranslateResponse)
    (redshift : String → Except String Result × Int) (queries : List String)
    (st st' : State Unit C) {s s' : Stats}
    (le : recent.size st.cache ≤ recent.size st'.cache)
    (nested : Recency.Nested (recent.size st.cache) (recent.keys st.cache) (recent.keys st'.cache))
    (miss : s'.miss ≤ s.miss) (hit : s.hit ≤ s'.hit) :
    (stats srv (World.fixed translate redshift) queries st' s').miss ≤
        (stats srv (World.fixed translate redshift) queries st s).miss ∧
      (stats srv (World.fixed translate redshift) queries st s).hit ≤
        (stats srv (World.fixed translate redshift) queries st' s').hit := by
  induction queries generalizing st st' s s' with
  | nil => exact ⟨miss, hit⟩
  | cons query queries ih =>
    obtain ⟨miss', hit'⟩ := countLookup_mono recent query (nested.sublist.subset ·) miss hit
    obtain ⟨keys, size⟩ := handleQuery_touches recent (World.fixed translate redshift) query st
    obtain ⟨keys', size'⟩ := handleQuery_touches recent (World.fixed translate redshift) query st'
    refine ih _ _ ?_ ?_ miss' hit'
    · rw [size, size']
      exact le
    · rw [keys, keys', size]
      split
      · have same : translates (World.fixed translate redshift) query st' =
            translates (World.fixed translate redshift) query st := rfl
        rw [same]
        exact nested.touch le (recent.fits _) (recent.fits _) _ _
      · exact nested

/-- With the same agent and the same Redshift, whatever they answer, a larger cache makes no
more misses and no fewer hits, on any queries. -/
theorem larger_cache_misses_less (translate : TranslateRequest → Except String TranslateResponse)
    (redshift : String → Except String Result × Int) (queries : List String) {n m : Int}
    (le : n ≤ m) {small large : C} (made : Cache.new srv.lru n = .ok small)
    (made' : Cache.new srv.lru m = .ok large) :
    let w := World.fixed translate redshift
    let fewer := stats srv w queries { cache := large, env := () } {}
    let more := stats srv w queries { cache := small, env := () } {}
    fewer.miss ≤ more.miss ∧ more.hit ≤ fewer.hit ∧
      fewer.hit + fewer.miss = queries.countP srv.onRedshift ∧
      more.hit + more.miss = queries.countP srv.onRedshift := by
  dsimp only
  obtain ⟨size, empty⟩ := recent.new made
  obtain ⟨size', empty'⟩ := recent.new made'
  have start : ({} : Stats).miss ≤ ({} : Stats).miss ∧ ({} : Stats).hit ≤ ({} : Stats).hit :=
    ⟨Nat.le_refl _, Nat.le_refl _⟩
  obtain ⟨miss, hit⟩ := stats_nested recent translate redshift queries
    { cache := small, env := () } { cache := large, env := () }
    (by rw [size, size']; exact Int.toNat_le_toNat le)
    (by rw [empty, empty']; exact ⟨.refl _, fun _ => rfl⟩) start.1 start.2
  refine ⟨miss, hit, ?_, ?_⟩
  · exact (stats_total ..).trans (Nat.zero_add _)
  · exact (stats_total ..).trans (Nat.zero_add _)

end

/-! ## The last keys -/

/-- The keys that queries have touched: those held, and those that a translation brings in. -/
def servedKeys (srv : Server C) (w : World ε) : List String → State ε C → List String
  | [], _ => []
  | query :: queries, st =>
    (if srv.onRedshift query &&
        ((Cache.get srv.lru st.cache (srv.key query)).1.isSome || translates w query st) then
      [srv.key query]
    else []) ++ servedKeys srv w queries (handleQuery srv w query st).2

section

variable {srv : Server C} (recent : srv.lru.ByRecency)

include recent

/-- The keys served after `k`, latest first, are those touched since. -/
theorem serve_since (w : World ε) (queries : List String) (st : State ε C)
    {n : Nat} {k : String} {seen : List String} (size : recent.size st.cache = n)
    (since : Recency.Since n (recent.keys st.cache) k seen)
    (other : k ∉ servedKeys srv w queries st) :
    Recency.Since n (recent.keys (serve srv w queries st).2.cache) k
        ((servedKeys srv w queries st).reverse ++ seen) ∧
      recent.size (serve srv w queries st).2.cache = n := by
  induction queries generalizing st seen with
  | nil => exact ⟨since, size⟩
  | cons query queries ih =>
    obtain ⟨keys, size'⟩ := handleQuery_touches recent w query st
    have fits := recent.fits st.cache
    rw [size] at size' keys fits
    rw [servedKeys, List.mem_append, not_or] at other
    rw [serve_cons, servedKeys]
    dsimp only
    have held : (Cache.get srv.lru st.cache (srv.key query)).1.isSome = true ↔
        srv.key query ∈ recent.keys st.cache := by
      rw [← get_isSome_iff recent, Option.ne_none_iff_isSome]
    by_cases served : (srv.onRedshift query &&
        ((Cache.get srv.lru st.cache (srv.key query)).1.isSome || translates w query st)) = true
    · rw [if_pos served] at other ⊢
      obtain ⟨routed, comes⟩ := Bool.and_eq_true_iff.mp served
      rw [Bool.or_eq_true, held] at comes
      rw [if_pos routed] at keys
      have others : srv.key query ≠ k := fun same => other.1 (List.mem_singleton.mpr same.symm)
      rw [List.reverse_append, List.append_assoc]
      exact ih _ size' (keys ▸ since.touch fits others comes) other.2
    · rw [if_neg served] at other ⊢
      refine ih _ size' ?_ other.2
      rw [keys]
      by_cases routed : srv.onRedshift query = true
      · rw [routed, Bool.true_and, Bool.or_eq_true, not_or, held] at served
        rw [if_pos routed, Bool.eq_false_iff.mpr served.2]
        exact since.unfetched served.1
      · rw [if_neg routed]
        exact since

theorem serve_size (w : World ε) (queries : List String) (st : State ε C) :
    recent.size (serve srv w queries st).2.cache = recent.size st.cache := by
  induction queries generalizing st with
  | nil => rfl
  | cons query queries ih =>
    rw [serve_cons]
    exact (ih _).trans (handleQuery_touches recent w query st).2

/-- A query that leaves its key in the cache leaves it in front. -/
theorem handleQuery_front {w : World ε} {query : String} {st : State ε C}
    (routed : srv.onRedshift query = true)
    (held : srv.key query ∈ recent.keys (handleQuery srv w query st).2.cache) :
    ∃ rest, recent.keys (handleQuery srv w query st).2.cache = srv.key query :: rest := by
  obtain ⟨keys, -⟩ := handleQuery_touches recent w query st
  rw [if_pos routed] at keys
  rw [keys] at held ⊢
  by_cases member : srv.key query ∈ recent.keys st.cache
  · exact ⟨_, Recency.touch_of_mem member⟩
  · cases fetched : translates w query st with
    | true =>
      obtain ⟨n, places⟩ :=
        Nat.exists_eq_succ_of_ne_zero (Nat.pos_iff_ne_zero.mp (recent.pos st.cache))
      exact ⟨_, by rw [Recency.touch_fetched member, places, List.take_succ_cons]⟩
    | false =>
      rw [fetched, Recency.touch_unfetched member] at held
      exact absurd held member

/-- For any agent and any Redshift: once a query's key is in the cache, and as long as it is
not served again, a query of that key finds a text exactly if fewer other keys than the cache
has places for were served since. -/
theorem hit_iff_few_served (w : World ε) {n : Int} {cache : C}
    (made : Cache.new srv.lru n = .ok cache) (env : ε) (before between : List String)
    (query : String) (routed : srv.onRedshift query = true) :
    let st := (serve srv w (before ++ [query]) { cache, env }).2
    srv.lru.contents st.cache (srv.key query) ≠ none →
    srv.key query ∉ servedKeys srv w between st →
    (srv.lru.contents (serve srv w between st).2.cache (srv.key query) ≠ none ↔
      ((servedKeys srv w between st).toFinset.card : Int) < n) := by
  have last : (serve srv w (before ++ [query]) { cache, env }).2 =
      (handleQuery srv w query (serve srv w before { cache, env }).2).2 := by
    rw [serve_append, serve_cons, serve]
  intro st held other
  rw [recent.contents] at held ⊢
  have size : recent.size st.cache = n.toNat := (serve_size recent w _ _).trans (recent.new made).1
  have since : Recency.Since n.toNat (recent.keys st.cache) (srv.key query) [] := by
    rw [show st = _ from last] at held ⊢
    obtain ⟨rest, front⟩ := handleQuery_front recent routed held
    rw [front]
    exact Recency.Since.first ..
  obtain ⟨later, size'⟩ := serve_since recent w between st size since other
  have fits := recent.fits (serve srv w between st).2.cache
  rw [size'] at fits
  rw [later.mem_iff fits, List.append_nil, List.toFinset_reverse, Int.lt_toNat]

end

/-! ## Three shapes -/

/-- An agent that repeats queries, and a Redshift that has no rows. -/
def repeater : World Unit :=
  .fixed (fun req => .ok { redshiftSQL := req.sql }) fun _ => (.ok ⟨[], []⟩, 0)

/-- A cache with places for three or for two. -/
def places (n : Nat) (some_places : 0 < n) : ListLru String String :=
  ⟨n, [], some_places, .nil, Nat.zero_le n⟩

theorem larger_cache_misses_less_threeShapes :
    let queries := ["SELECT a", "SELECT b", "SELECT c", "SELECT a"]
    (stats defaultServer repeater queries { cache := places 3 (by decide), env := () } {}).miss ≤
      (stats defaultServer repeater queries { cache := places 2 (by decide), env := () } {}).miss :=
  (larger_cache_misses_less (listLruByRecency _ _) _ _ _ (show (2 : Int) ≤ 3 by decide) rfl rfl).1

example : stats defaultServer repeater ["SELECT a", "SELECT b", "SELECT c", "SELECT a"]
    { cache := places 2 (by decide), env := () } {} = ⟨0, 4⟩ := by decide +kernel

theorem hit_iff_few_served_threeShapes :
    defaultServer.lru.contents
      (serve defaultServer repeater ["SELECT a", "SELECT b", "SELECT c"]
        { cache := places 3 (by decide), env := () }).2.cache
      (defaultServer.key "SELECT a") ≠ none := by
  have made : Cache.new defaultServer.lru 3 = .ok (places 3 (by decide)) := rfl
  refine (hit_iff_few_served (listLruByRecency _ _) repeater made () [] ["SELECT b", "SELECT c"]
    "SELECT a" ?_ ?_ ?_).mpr ?_
  · decide +kernel
  · decide +kernel
  · decide +kernel
  · decide +kernel

end MysqlRedshift.Proxy
