import MysqlRedshift.Agent.KnowledgeRuns
import MysqlRedshift.Misc.Ranking
import MysqlRedshift.Misc.Transaction

/-!
# Recall

`retrieve_similar` of `agent/tools/sql_knowledge.py`. It cuts the rows to `top_k` in the
order of the index before it drops those below the threshold; since the order is that of
the similarity, the others would have been dropped first just as well. The update of the
counters has a connection of its own, which is closed without a commit when it raises.
-/

namespace MysqlRedshift.Agent.Knowledge

open MysqlRedshift.Misc

variable {V S : Type} [LinearOrder S] (kb : Env V S)

/-- The services during a call: the embedding of the query, the order that the index finds,
what the two statements and the commit raise, with their connections, and `NOW()`. A commit
that raises has stored nothing. -/
structure Recall where
  embed : String → Except String V
  nearest : (qVec : V) → Ranking fun r : Row V => kb.similarity qVec r.embedding
  select : Except String Unit
  update : Except String Unit
  commit : Except String Unit
  now : Nat

/-- The entry for a row. -/
def toExample (qVec : V) (r : Row V) : Example S :=
  ⟨r.id, r.mysqlSQL, r.redshiftSQL, kb.similarity qVec r.embedding⟩

/-- The loop over the selected rows. -/
def aboveThreshold (qVec : V) (threshold : S) (rows : List (Row V)) : List (Example S) :=
  rows.filterMap fun r =>
    if kb.similarity qVec r.embedding < threshold then none else some (toExample kb qVec r)

namespace Recall

variable {kb} (w : Recall kb)

/-- The `SELECT` with its `ORDER BY` and `LIMIT`. -/
def selectNearest (qVec : V) (topK : Int) (t : Table V kb.md5) : Except String (List (Row V)) :=
  match w.select with
  | .error e => .error e
  | .ok () => limitOffset topK 0 ((w.nearest qVec).rank t.rows)

/-- The `UPDATE` of the counters, with its commit. -/
def bumpHits (ids : List Nat) (t : Table V kb.md5) : Except String Unit × Table V kb.md5 :=
  match w.update with
  | .error e => (.error e, t)
  | .ok () =>
    let (_, session) := (Session.start t).perform fun t => ((), t.bump ids w.now)
    match w.commit with
    | .error e => (.error e, session.rollback.stored)
    | .ok () => (.ok (), session.commit.stored)

end Recall

/-- `retrieve_similar`: what it returns, and the table after it. -/
def retrieveSimilar (w : Recall kb) (sql : String) (topK : Int) (threshold : S)
    (t : Table V kb.md5) : List (Example S) × Table V kb.md5 :=
  if !kb.enabled then ([], t)
  else
    match w.embed sql with
    | .error _ => ([], t)
    | .ok qVec =>
      match w.selectNearest qVec topK t with
      | .error _ => ([], t)
      | .ok rows =>
        let out := aboveThreshold kb qVec threshold rows
        if out.isEmpty then (out, t)
        else
          match w.bumpHits (out.map Example.id) t with
          | (.error _, t) => ([], t)
          | (.ok (), t) => (out, t)

/-! ## What it returns -/

/-- The rows that reach the threshold. -/
def reaching (qVec : V) (threshold : S) (rows : List (Row V)) : List (Row V) :=
  rows.filter fun r => decide (threshold ≤ kb.similarity qVec r.embedding)

variable {kb}

theorem aboveThreshold_eq (qVec : V) (threshold : S) (rows : List (Row V)) :
    aboveThreshold kb qVec threshold rows =
      (reaching kb qVec threshold rows).map (toExample kb qVec) := by
  induction rows with
  | nil => rfl
  | cons r rows ih =>
    rw [aboveThreshold, List.filterMap_cons, reaching, List.filter_cons]
    by_cases reached : threshold ≤ kb.similarity qVec r.embedding
    · rw [if_neg (not_lt.mpr reached), if_pos (decide_eq_true reached), List.map_cons]
      exact congrArg _ ih
    · rw [if_pos (lt_of_not_ge reached), if_neg (by simpa using reached)]
      exact ih

omit [LinearOrder S] in
theorem map_id_toExample (qVec : V) (rows : List (Row V)) :
    (rows.map (toExample kb qVec)).map Example.id = rows.map Row.id := by
  rw [List.map_map]
  rfl

/-- The best rows that reach the threshold, in the order of the index. -/
def Recall.best (w : Recall kb) (qVec : V) (k : Nat) (threshold : S) (rows : List (Row V)) :
    List (Row V) :=
  (reaching kb qVec threshold ((w.nearest qVec).rank rows)).take k

theorem Recall.reaching_take (w : Recall kb) (qVec : V) (k : Nat) (threshold : S)
    (rows : List (Row V)) :
    reaching kb qVec threshold (((w.nearest qVec).rank rows).take k) =
      w.best qVec k threshold rows :=
  (w.nearest qVec).filter_take_rank threshold k rows

theorem Recall.isTop_best (w : Recall kb) (qVec : V) (k : Nat) (threshold : S)
    (rows : List (Row V)) :
    IsTop (fun r => kb.similarity qVec r.embedding) k (reaching kb qVec threshold rows)
      (w.best qVec k threshold rows) := by
  rw [← w.reaching_take]
  exact (w.nearest qVec).isTop_filter_take threshold k rows

/-- No service raises, and the query has the embedding. -/
structure Recall.Succeeds (w : Recall kb) (sql : String) (qVec : V) : Prop where
  embed : w.embed sql = .ok qVec
  select : w.select = .ok ()
  update : w.update = .ok ()
  commit : w.commit = .ok ()

/-- A service raises. -/
def Recall.Fails (w : Recall kb) (sql : String) : Prop :=
  (∃ e, w.embed sql = .error e) ∨ (∃ e, w.select = .error e) ∨ (∃ e, w.update = .error e) ∨
    ∃ e, w.commit = .error e

theorem Table.bump_nil {md5 : String → String} (t : Table V md5) (now : Nat) :
    t.bump [] now = t := by
  have same : bumpRow [] now = (id : Row V → Row V) := by
    funext r
    simp [bumpRow]
  cases t
  simp [bump, same]

theorem retrieveSimilar_of_succeeds (enabled : kb.enabled = true) {w : Recall kb} {sql : String}
    {qVec : V} (h : w.Succeeds sql qVec) (k : Nat) (threshold : S) (t : Table V kb.md5) :
    retrieveSimilar kb w sql k threshold t =
      ((w.best qVec k threshold t.rows).map (toExample kb qVec),
        t.bump ((w.best qVec k threshold t.rows).map Row.id) w.now) := by
  have selected : w.selectNearest qVec k t = .ok (((w.nearest qVec).rank t.rows).take k) := by
    rw [Recall.selectNearest, h.select]
    exact limitOffset_nat k 0 _
  have bumped : ∀ ids, w.bumpHits ids t = (.ok (), t.bump ids w.now) := by
    intro ids
    rw [Recall.bumpHits, h.update]
    simp only [h.commit]
    rfl
  rw [retrieveSimilar, enabled, h.embed]
  simp only [selected, aboveThreshold_eq, w.reaching_take, map_id_toExample, bumped]
  cases none : w.best qVec k threshold t.rows with
  | nil => simp [Table.bump_nil]
  | cons r rows => rfl

theorem Recall.bumpHits_cases (w : Recall kb) (ids : List Nat) (t : Table V kb.md5) :
    (∃ e, w.bumpHits ids t = (.error e, t)) ∨
      w.update = .ok () ∧ w.commit = .ok () ∧ w.bumpHits ids t = (.ok (), t.bump ids w.now) := by
  rw [bumpHits]
  rcases w.update with e | ⟨⟩
  · exact Or.inl ⟨e, rfl⟩
  · rcases w.commit with e | ⟨⟩
    · exact Or.inl ⟨e, rfl⟩
    · exact Or.inr ⟨rfl, rfl, rfl⟩

/-- A call returns nothing and changes nothing, or it succeeds and bumps some rows. -/
theorem retrieveSimilar_cases (w : Recall kb) (sql : String) (topK : Int) (threshold : S)
    (t : Table V kb.md5) :
    retrieveSimilar kb w sql topK threshold t = ([], t) ∨
      (∃ qVec, w.Succeeds sql qVec) ∧
        ∃ ids, (retrieveSimilar kb w sql topK threshold t).2 = t.bump ids w.now := by
  rw [retrieveSimilar]
  split
  · exact Or.inl rfl
  rcases embedded : w.embed sql with e | qVec
  · exact Or.inl rfl
  dsimp only
  rcases selected : w.selectNearest qVec topK t with e | rows
  · exact Or.inl rfl
  dsimp only
  cases entries : aboveThreshold kb qVec threshold rows with
  | nil => exact Or.inl rfl
  | cons entry more =>
    rcases w.bumpHits_cases ((entry :: more).map Example.id) t with
      ⟨e, raised⟩ | ⟨updated, committed, bumped⟩
    · rw [raised]
      exact Or.inl rfl
    · rw [bumped]
      refine Or.inr ⟨⟨qVec, embedded, ?_, updated, committed⟩, _, rfl⟩
      rcases answered : w.select with e | ⟨⟩
      · rw [Recall.selectNearest, answered] at selected
        cases selected
      · rfl

/-- Nothing is returned and nothing stored when a service raises. -/
theorem retrieveSimilar_of_fails {w : Recall kb} {sql : String} (h : w.Fails sql) (topK : Int)
    (threshold : S) (t : Table V kb.md5) :
    retrieveSimilar kb w sql topK threshold t = ([], t) := by
  rcases retrieveSimilar_cases w sql topK threshold t with nothing | ⟨⟨qVec, succeeds⟩, -⟩
  · exact nothing
  · rcases h with ⟨e, fails⟩ | ⟨e, fails⟩ | ⟨e, fails⟩ | ⟨e, fails⟩
    · cases fails.symm.trans succeeds.embed
    · cases fails.symm.trans succeeds.select
    · cases fails.symm.trans succeeds.update
    · cases fails.symm.trans succeeds.commit

/-- A recall is at most one step of the concurrent system, whatever happens. -/
theorem retrieveSimilar_run (w : Recall kb) (sql : String) (topK : Int) (threshold : S)
    (s : State V kb.md5) :
    ∃ acts, (machine kb).run s acts =
      some { s with table := (retrieveSimilar kb w sql topK threshold s.table).2 } := by
  rcases retrieveSimilar_cases w sql topK threshold s.table with nothing | ⟨-, ids, bumped⟩
  · rw [nothing]
    exact ⟨[], rfl⟩
  · rw [bumped]
    exact ⟨[.retrieve ids w.now], rfl⟩

/-- Every row of `best`, and no other, has one hit more. -/
def HitsOnly (best : List (Row V)) (now : Nat) (t t' : Table V kb.md5) : Prop :=
  t'.nextId = t.nextId ∧
  List.Forall₂ (fun r r' =>
    (r ∈ best → r' = { r with hitCount := r.hitCount + 1, lastUsedAt := now }) ∧
      (r ∉ best → r' = r)) t.rows t'.rows

omit [LinearOrder S] in
theorem hitsOnly_bump {best : List (Row V)} {t : Table V kb.md5} (there : ∀ r ∈ best, r ∈ t.rows)
    (now : Nat) : HitsOnly best now t (t.bump (best.map Row.id) now) := by
  refine ⟨rfl, ?_⟩
  rw [show (t.bump (best.map Row.id) now).rows = t.rows.map (Table.bumpRow (best.map Row.id) now)
    from rfl, List.forall₂_map_right_iff, List.forall₂_same]
  intro r member
  have same : r.id ∈ best.map Row.id ↔ r ∈ best := by
    refine ⟨fun h => ?_, List.mem_map_of_mem⟩
    obtain ⟨r', returned, id⟩ := List.mem_map.mp h
    exact Table.eq_of_id_eq (there r' returned) member id ▸ returned
  refine ⟨fun returned => ?_, fun other => ?_⟩
  · rw [Table.bumpRow, if_pos (same.mpr returned)]
  · rw [Table.bumpRow, if_neg fun h => other (same.mp h)]

/-- `retrieve_similar` returns the best rows of those that reach the threshold and counts a
hit for each of them; when a service raises it returns nothing and changes nothing. -/
theorem retrieveSimilar_best (kb : Env V S) (enabled : kb.enabled = true) (w : Recall kb)
    (sql : String) (k : Nat) (threshold : S) (t : Table V kb.md5) :
    (∀ qVec, w.Succeeds sql qVec →
      ∃ best, best = w.best qVec k threshold t.rows ∧
        IsTop (fun r => kb.similarity qVec r.embedding) k (reaching kb qVec threshold t.rows) best ∧
        (retrieveSimilar kb w sql k threshold t).1 = best.map (toExample kb qVec) ∧
        ((retrieveSimilar kb w sql k threshold t).1.Pairwise
          fun a b => b.similarity ≤ a.similarity) ∧
        HitsOnly best w.now t (retrieveSimilar kb w sql k threshold t).2) ∧
    (w.Fails sql → retrieveSimilar kb w sql k threshold t = ([], t)) := by
  refine ⟨fun qVec succeeds => ?_, fun fails => retrieveSimilar_of_fails fails k threshold t⟩
  have top := w.isTop_best qVec k threshold t.rows
  refine ⟨_, rfl, top, ?_⟩
  rw [retrieveSimilar_of_succeeds enabled succeeds k threshold t]
  refine ⟨rfl, List.pairwise_map.mpr top.sorted, hitsOnly_bump ?_ w.now⟩
  intro r returned
  exact List.mem_of_mem_filter (top.subperm.subset returned)

/-- Services that raise nothing; rows of one similarity come in the order of their ids. -/
def atEase : Recall sameTextOnly where
  embed := .ok
  nearest _ := .ofTies _ Row.id
  select := .ok ()
  update := .ok ()
  commit := .ok ()
  now := 9

/-- A row of the text of the query, after one of another text. -/
def twoTexts : Table String sameTextOnly.md5 :=
  (Table.empty.upsert { mysqlSQL := "SELECT 1", redshiftSQL := "SELECT 1 AS one" } "SELECT 1" 1)
    |>.upsert (countOrders "seed" "SELECT COUNT(*) FROM orders WHERE true") ordersText 2

theorem retrieveSimilar_best_twoTexts :
    (retrieveSimilar sameTextOnly atEase ordersText 3 85 twoTexts).1 =
        [⟨2, ordersText, "SELECT COUNT(*) FROM orders WHERE true", 100⟩] ∧
      retrieveSimilar sameTextOnly { atEase with update := .error "timeout" } ordersText 3 85
        twoTexts = ([], twoTexts) := by
  constructor
  · obtain ⟨best, rfl, -, returned, -⟩ := (retrieveSimilar_best sameTextOnly rfl atEase ordersText
      3 85 twoTexts).1 ordersText ⟨rfl, rfl, rfl, rfl⟩
    exact returned.trans (by decide)
  · exact (retrieveSimilar_best sameTextOnly rfl { atEase with update := .error "timeout" }
      ordersText 3 85 twoTexts).2 (Or.inr (Or.inr (Or.inl ⟨_, rfl⟩)))

end MysqlRedshift.Agent.Knowledge
