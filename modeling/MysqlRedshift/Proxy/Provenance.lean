import MysqlRedshift.Proxy.Collision

/-!
# Provenance of saved pairs

A save request pairs the text of the client's query with the text that Redshift
accepted for it. The second comes from the cache, from the first translation or
from a fix, and the agent made it for the query that made the entry. Here the agent
and Redshift answer as they like, from call to call.
-/

namespace MysqlRedshift.Proxy

open MysqlRedshift.Misc

variable {ε C : Type} {srv : Server C} {w : World ε}

/-- The agent returned the Redshift text of every save request in answer to a request
for the query that it is saved with. -/
def Provenance (st : State ε C) : Prop :=
  ∀ save ∈ st.saves, ReturnedFor st.trace save.mysqlSQL save.redshiftSQL

/-- Every entry was returned for a query of its key, and the saved pairs have provenance. -/
structure Traced (srv : Server C) (seen : List String) (st : State ε C) : Prop where
  entries : Attributed srv (ReturnedFor st.trace) seen st.cache
  saves : Provenance st

/-- What changes the world and the trace alone keeps everything traced. -/
theorem Traced.frame {seen : List String} {st st' : State ε C} (h : Traced srv seen st)
    (frame : LoopFrame st st') : Traced srv seen st' where
  entries := by
    rw [frame.cache]
    exact h.entries.mono (fun _ _ returned => returned.mono frame.grows) (List.Subset.refl _)
  saves := by
    intro save member
    rw [frame.saves] at member
    exact (h.saves save member).mono frame.grows

/-- Running a text that was returned for the query saves it with that query only. -/
theorem Traced.runFirst {seen : List String} {query text : String} {st : State ε C}
    (h : Traced srv seen st) (member : query ∈ seen) (returned : ReturnedFor st.trace query text) :
    Traced srv seen (runFirst srv w query text st).2 := by
  rcases runFirst_cases srv w query text st with
    ⟨err, st', -, frame, run⟩ | ⟨result, winningSQL, ms, st', -, frame, origin, run⟩
  · rw [run]
    exact h.frame frame
  · have h' := h.frame frame
    have won : ReturnedFor st'.trace query winningSQL := by
      rcases origin with rfl | fixed
      · exact returned.mono frame.grows
      · exact fixed
    rw [run]
    refine ⟨?_, ?_⟩
    · rw [remember_trace]
      exact h'.entries.remember member won
    · intro save saved
      rw [remember_trace]
      rw [remember_saves] at saved
      split at saved
      · rcases List.mem_cons.mp saved with rfl | old
        · exact won
        · exact h'.saves save old
      · exact h'.saves save saved

/-- One call on the Redshift path, of a query that collides with none before it. -/
theorem Traced.handleRedshift {seen : List String} {query : String} {st : State ε C}
    (h : Traced srv seen st) (alone : ∀ q ∈ seen, srv.key q = srv.key query → q = query) :
    Traced srv (query :: seen) (handleRedshift srv w query st).2 := by
  have here : query ∈ query :: seen := List.mem_cons_self
  have wider : Traced srv (query :: seen) { st with cache := looked srv query st.cache } :=
    ⟨(h.entries.looked query).mono (fun _ _ => id) (List.subset_cons_self ..), h.saves⟩
  rw [Proxy.handleRedshift]
  cases held : srv.lru.contents st.cache (srv.key query) with
  | some text =>
    rw [firstSQL_hit held]
    exact wider.runFirst here (h.entries.hit alone held)
  | none =>
    rcases answered : w.translate { sql := query } st.env with ⟨err | resp, env⟩
    · rw [firstSQL_error held answered]
      exact wider.frame ⟨rfl, rfl, .cons ..⟩
    · rw [firstSQL_miss held answered]
      have asked : Traced srv (query :: seen)
          { st with
            cache := looked srv query st.cache
            env
            trace := .translate { sql := query } (.ok resp) :: st.trace } :=
        wider.frame ⟨rfl, rfl, .cons ..⟩
      have returned := returnedFor_of_answer { sql := query } resp st.trace
      exact Traced.runFirst ⟨asked.entries.set here returned, asked.saves⟩ here returned

/-- A run whose queries on the Redshift path do not collide. -/
theorem Traced.serve {seen queries : List String} {st : State ε C} (h : Traced srv seen st)
    (alone : CollisionFree srv (seen ++ queries.filter srv.onRedshift)) :
    ∃ seen', Traced srv seen' (serve srv w queries st).2 := by
  induction queries generalizing seen st with
  | nil => exact ⟨seen, h⟩
  | cons query queries ih =>
    rw [serve_cons]
    cases routed : srv.onRedshift query with
    | false =>
      rw [List.filter_cons_of_neg (by simp [routed])] at alone
      exact ih (h.frame (handleQuery_unrouted routed w st).frame) alone
    | true =>
      rw [List.filter_cons_of_pos routed] at alone
      rw [handleQuery_onRedshift routed]
      exact ih (h.handleRedshift alone.head) alone.shift

/-! ## Without attempts -/

/-- Where the loop makes no attempt, a call saves nothing. -/
theorem handleQuery_saves_of_no_attempts (off : ¬ 1 ≤ srv.cfg.maxAttempts) (query : String)
    (st : State ε C) : (handleQuery srv w query st).2.saves = st.saves := by
  have none_left : srv.cfg.maxAttempts.toNat = 0 := by omega
  cases routed : srv.onRedshift query with
  | false => exact (handleQuery_unrouted routed w st).saves
  | true =>
    have run : ∀ text st, (runFirst srv w query text st).2.saves = st.saves := by
      intro text st
      simp only [runFirst, execWithRetry, none_left, retryLoop]
    rw [handleQuery_onRedshift routed, handleRedshift]
    cases held : srv.lru.contents st.cache (srv.key query) with
    | some text =>
      rw [firstSQL_hit held]
      exact run ..
    | none =>
      rcases answered : w.translate { sql := query } st.env with ⟨err | resp, env⟩
      · rw [firstSQL_error held answered]
      · rw [firstSQL_miss held answered]
        exact run ..

theorem serve_saves_of_no_attempts (off : ¬ 1 ≤ srv.cfg.maxAttempts) (queries : List String)
    (st : State ε C) : (serve srv w queries st).2.saves = st.saves := by
  induction queries generalizing st with
  | nil => rfl
  | cons query queries ih =>
    rw [serve_cons, ih, handleQuery_saves_of_no_attempts off]

/-! ## The exact condition -/

/-- The second of two queries under one key is saved with the text of the first. -/
theorem not_provenance_of_collision {empty : C} {size : Int}
    (made : Cache.new srv.lru size = .ok empty) (attempts : 1 ≤ srv.cfg.maxAttempts)
    {x y : String} {before after : List String} (routed : srv.onRedshift x = true)
    (routed' : srv.onRedshift y = true) (collide : srv.key y = srv.key x) (differ : y ≠ x)
    (earlier : x ∈ before) :
    ¬ Provenance (serve srv (soleAnswer x) (before ++ y :: after)
      { cache := empty, env := () }).2 := by
  intro provenance
  obtain ⟨sole, -, held⟩ := sole_serve attempts routed (sole_start made) before
  have held := held (Or.inl earlier)
  rw [← collide] at held
  have stepped := (sole_step attempts routed sole y).1
  rw [serve_append, serve_cons] at provenance
  rw [handleQuery_sole_hit attempts routed' held] at stepped provenance
  obtain ⟨sole', saved, -⟩ := sole_serve attempts routed stepped after
  obtain ⟨req, resp, answered, asked, -⟩ := provenance _ (saved List.mem_cons_self)
  exact differ (asked.symm.trans (sole'.answers req resp answered))

/-- In every run, whatever the agent and Redshift answer, saved pairs have provenance
exactly when no attempt is ever made or no two queries sent to Redshift share a key. -/
theorem provenance_iff (srv : Server C) (empty : C)
    (made : Cache.new srv.lru srv.cfg.cacheSize = .ok empty) (queries : List String) :
    (∀ (ε : Type) (w : World ε) (env : ε),
        Provenance (serve srv w queries { cache := empty, env }).2) ↔
      (1 ≤ srv.cfg.maxAttempts → CollisionFree srv (queries.filter srv.onRedshift)) := by
  constructor
  · intro provenance attempts q member q' member' collide
    obtain ⟨listed, routed⟩ := List.mem_filter.mp member
    obtain ⟨listed', routed'⟩ := List.mem_filter.mp member'
    by_contra differ
    rcases one_before_other listed listed' differ with
      ⟨before, after, rfl, earlier⟩ | ⟨before, after, rfl, earlier⟩
    · exact not_provenance_of_collision made attempts routed routed' collide.symm
        (Ne.symm differ) earlier (provenance Unit _ ())
    · exact not_provenance_of_collision made attempts routed' routed collide differ earlier
        (provenance Unit _ ())
  · intro alone ε w env
    by_cases attempts : 1 ≤ srv.cfg.maxAttempts
    · have start : Traced srv [] ({ cache := empty, env } : State ε C) :=
        ⟨attributed_new made, fun save saved => by cases saved⟩
      obtain ⟨seen, traced⟩ : ∃ seen, Traced srv seen (serve srv w queries _).2 :=
        start.serve (alone attempts)
      exact traced.saves
    · intro save saved
      rw [serve_saves_of_no_attempts attempts] at saved
      cases saved

theorem provenance_iff_askedAgain :
    Provenance (serve defaultServer (soleAnswer nameOf1) askedAgain
      { cache := emptyCache, env := () }).2 := by
  refine (provenance_iff defaultServer emptyCache new_defaultServer askedAgain).mpr ?_
    Unit (soleAnswer nameOf1) ()
  intro _
  rw [List.filter_eq_self.mpr onRedshift_askedAgain]
  exact collisionFree_askedAgain

/-- The agent translates the query for 1 only, and the query for 2 is saved with it. -/
theorem not_provenance_names :
    ¬ Provenance (serve defaultServer (soleAnswer nameOf1) [nameOf1, nameOf2]
      { cache := emptyCache, env := () }).2 := by
  have earlier : nameOf1 ∈ [nameOf1] := List.mem_singleton_self nameOf1
  show ¬ Provenance (serve defaultServer (soleAnswer nameOf1) ([nameOf1] ++ nameOf2 :: [])
    { cache := emptyCache, env := () }).2
  exact not_provenance_of_collision new_defaultServer (by decide) onRedshift_nameOf1
    onRedshift_nameOf2 key_nameOf2 (by decide) earlier

end MysqlRedshift.Proxy
