import MysqlRedshift.Agent.Recall
import MysqlRedshift.Agent.RowHistory
import MysqlRedshift.Agent.Translate
import MysqlRedshift.Misc.TextLaws

/-!
# What was saved is shown

The two ends of the knowledge base together. A save returns the id of a row that its text is
close to: the one it has inserted, or the near-duplicate that it was counted for. The text of
a row never changes, and its vector with it, so the row stays close to the text of the save,
whatever happens to the base. As long as it is not deleted, a later translation of a query
close enough to that text has the row among its examples, or as many that are no less similar.
-/

namespace MysqlRedshift.Agent.Knowledge

open MysqlRedshift.Misc

variable {V S : Type} [LinearOrder S] {kb : Env V S} {s t : State V kb.md5} {a : Action}

/-- The row that a save has found or written. -/
def Pc.id? : Pc → Option Nat
  | .nearest => none
  | .bump existingId => some existingId
  | .insert => none
  | .done id => id

/-- A row whose vector is close to that of the text of a save, as `save_example` judges it. -/
def CloseTo (kb : Env V S) (args : SaveArgs) (r : Row V) : Prop :=
  kb.dedupThreshold ≤ kb.similarity (kb.embed args.mysqlSQL) r.embedding

/-- Vectors are those of the texts, and the row that a save has found or written is close
to the text of the save, if it is still there. -/
structure Placed (kb : Env V S) (s : State V kb.md5) : Prop where
  embedded : ∀ r ∈ s.table.rows, r.embedding = kb.embed r.mysqlSQL
  below : ∀ i c id, s.calls i = some c → c.pc.id? = some id → id < s.table.nextId
  close : ∀ i c id, s.calls i = some c → c.pc.id? = some id →
    ∀ r ∈ s.table.rows, r.id = id → CloseTo kb c.args r

/-- Without a database all saves end at once. -/
def Served (kb : Env V S) (s : State V kb.md5) : Prop :=
  ∀ i c, s.calls i = some c → c.pc ≠ .done none → kb.enabled = true

omit [LinearOrder S] in
theorem begin_id? (args : SaveArgs) : (begin kb args).id? = none := by
  unfold begin
  split
  · rfl
  · split
    · rfl
    · split <;> rfl

/-- Where the row of a save comes from: the save has had it, has just found it, or has just
written it. -/
theorem step_id? (h : step kb s a = some t) {j : Nat} {c : Call} {id : Nat}
    (live : t.calls j = some c) (has : c.pc.id? = some id) :
    (∃ old, s.calls j = some old ∧ old.args = c.args ∧ old.pc.id? = some id) ∨
    (∃ r ∈ s.table.rows, r.id = id ∧ CloseTo kb c.args r ∧ t.table = s.table) ∨
    ∃ now, t.table = s.table.upsert c.args (kb.embed c.args.mysqlSQL) now ∧
      id = s.table.upsertId c.args := by
  cases step_trans h with
  | call free =>
    rcases update_some_cases live with ⟨rfl, rfl⟩ | ⟨-, before⟩
    · rw [begin_id?] at has
      cases has
    · exact Or.inl ⟨c, before, rfl, has⟩
  | @nearest i found args pc at_ after =>
    rcases update_some_cases live with ⟨rfl, rfl⟩ | ⟨-, before⟩
    · cases found with
      | none =>
        cases after
        cases has
      | some id' =>
        obtain ⟨r, there, ends⟩ := Option.map_eq_some_iff.mp after
        have member := List.mem_of_find?_eq_some there
        split at ends
        · next close =>
          subst ends
          exact Or.inr (Or.inl ⟨r, member, Option.some.inj has, close, rfl⟩)
        · subst ends
          cases has
    · exact Or.inl ⟨c, before, rfl, has⟩
  | bump at_ =>
    rcases update_some_cases live with ⟨rfl, rfl⟩ | ⟨-, before⟩
    · exact Or.inl ⟨_, at_, rfl, has⟩
    · exact Or.inl ⟨c, before, rfl, has⟩
  | @insert i now args at_ fits =>
    rcases update_some_cases live with ⟨rfl, rfl⟩ | ⟨-, before⟩
    · exact Or.inr (Or.inr ⟨now, rfl, (Option.some.inj has).symm⟩)
    · exact Or.inl ⟨c, before, rfl, has⟩
  | fail at_ =>
    rcases update_some_cases live with ⟨rfl, rfl⟩ | ⟨-, before⟩
    · cases has
    · exact Or.inl ⟨c, before, rfl, has⟩
  | retrieve | delete => exact Or.inl ⟨c, live, rfl, has⟩

theorem placed_start : Placed kb (start kb) where
  embedded r member := by cases member
  below i c id live := by cases live
  close i c id live := by cases live

theorem served_step (served : Served kb s) (h : step kb s a = some t) : Served kb t := by
  intro j c live alive
  cases step_trans h with
  | @call i args free =>
    rcases update_some_cases live with ⟨rfl, rfl⟩ | ⟨-, before⟩
    · by_contra off
      exact alive (by simp [begin, off])
    · exact served j c before alive
  | nearest at_ | bump at_ | insert at_ =>
    rcases update_some_cases live with ⟨rfl, rfl⟩ | ⟨-, before⟩
    · exact served j _ at_ (by simp)
    · exact served j c before alive
  | fail at_ =>
    rcases update_some_cases live with ⟨rfl, rfl⟩ | ⟨-, before⟩
    · exact absurd rfl alive
    · exact served j c before alive
  | retrieve | delete => exact served j c live alive

theorem step_embedded (embedded : ∀ r ∈ s.table.rows, r.embedding = kb.embed r.mysqlSQL)
    (digest : DigestTells kb s a) (h : step kb s a = some t) :
    ∀ r ∈ t.table.rows, r.embedding = kb.embed r.mysqlSQL := by
  intro r member
  cases step_trans h with
  | call | nearest | fail => exact embedded r member
  | bump | retrieve =>
    obtain ⟨old, before, _, _, rfl⟩ := Table.mem_bump member
    exact embedded old before
  | insert live =>
    rcases Table.mem_upsert_iff.mp member with ⟨before, -⟩ | ⟨old, before, keyed, rfl⟩ | ⟨-, rfl⟩
    · exact embedded r before
    · exact congrArg kb.embed (digest _ live old before keyed).symm
    · rfl
  | delete => exact embedded r (Table.mem_delete member)

omit [LinearOrder S] in
theorem upsertId_le (table : Table V kb.md5) (args : SaveArgs) :
    table.upsertId args ≤ table.nextId := by
  rw [Table.upsertId]
  split
  · next r found => exact (table.idsBelow r (List.mem_of_find?_eq_some found)).le
  · exact le_rfl

/-- The row whose id an `INSERT` returns has the vector of the save. -/
theorem closeTo_upserted
    (self : ∀ text, kb.dedupThreshold ≤ kb.similarity (kb.embed text) (kb.embed text))
    {table : Table V kb.md5} {args : SaveArgs} {now : Nat} {r : Row V}
    (member : r ∈ (table.upsert args (kb.embed args.mysqlSQL) now).rows)
    (same : r.id = table.upsertId args) : CloseTo kb args r := by
  rcases Table.mem_upsert_iff.mp member with ⟨before, other⟩ | ⟨-, -, -, rfl⟩ | ⟨-, rfl⟩
  · exfalso
    rw [Table.upsertId] at same
    split at same
    · next r' found =>
      have keyed : kb.md5 r'.mysqlSQL = kb.md5 args.mysqlSQL := by simpa using List.find?_some found
      rw [Table.eq_of_id_eq before (List.mem_of_find?_eq_some found) same] at other
      exact other keyed
    · exact (table.idsBelow r before).ne same
  · exact self _
  · exact self _

theorem Placed.step
    (self : ∀ text, kb.dedupThreshold ≤ kb.similarity (kb.embed text) (kb.embed text))
    (placed : Placed kb s) (digest : DigestTells kb s a) (h : step kb s a = some t) :
    Placed kb t where
  embedded := step_embedded placed.embedded digest h
  below i c id live has := by
    rcases step_id? h live has with ⟨old, before, -, had⟩ | ⟨r, there, rfl, -, same⟩ |
      ⟨now, written, rfl⟩
    · exact (placed.below i old id before had).trans_le (step_nextId h)
    · rw [same]
      exact s.table.idsBelow r there
    · rw [written]
      exact Nat.lt_succ_of_le (upsertId_le ..)
  close i c id live has r member same := by
    rcases step_id? h live has with ⟨old, before, args, had⟩ | ⟨r', there, rfl, close, unchanged⟩ |
      ⟨now, written, rfl⟩
    · rcases step_row h member with ⟨r', before', same', -, -, text⟩ | ⟨fresh, -⟩
      · have close := placed.close i old id before had r' before' (same'.trans same)
        rw [CloseTo, placed.embedded r' before', args, ← text] at close
        rw [CloseTo, step_embedded placed.embedded digest h r member]
        exact close
      · have below := placed.below i old id before had
        omega
    · rw [unchanged] at member
      rw [Table.eq_of_id_eq member there same]
      exact close
    · rw [written] at member
      exact closeTo_upserted self member same

/-! ## The prompt -/

/-- Both statements of an example, as the prompt shows them. -/
def shown (ex : Example S) : String :=
  "MySQL:\n" ++ ex.mysqlSQL ++ "\n" ++ "Redshift:\n" ++ ex.redshiftSQL

omit [LinearOrder S] in
theorem shown_within_examples (twoPlaces : S → String) {examples : List (Example S)}
    {ex : Example S} (member : ex ∈ examples) :
    Within (shown ex) (formatExamplesForPrompt twoPlaces examples) := by
  obtain ⟨i, at_i⟩ := List.getElem?_of_mem member
  have numbered : (ex, i) ∈ examples.zipIdx := List.mem_zipIdx_iff_getElem?.mpr at_i
  have some_example : examples.isEmpty = false := by
    rw [List.isEmpty_eq_false_iff]
    exact List.ne_nil_of_mem member
  rw [formatExamplesForPrompt, some_example]
  refine Within.pyJoin ?_ (List.mem_cons_of_mem _ (List.mem_map.mpr ⟨_, numbered, rfl⟩))
  refine Within.append_right ?_ _
  have block := (Within.self (shown ex)).append_left
    ("\n示例 " ++ (i + 1).repr ++ "（相似度 " ++ twoPlaces ex.similarity ++ "）：\n")
  simpa only [shown, String.append_assoc] using block

omit [LinearOrder S] in
/-- A translation that does not fix an error is asked for with all the examples that were
retrieved for it. -/
theorem shown_within_userMsg (env : TranslateEnv S) {req : TranslateReq}
    (first : given req.prevError = false) {examples : List (Example S)} {ex : Example S}
    (member : ex ∈ examples) : Within (shown ex) (userMsg env req examples) := by
  have there := shown_within_examples env.twoPlaces member
  simp only [userMsg, first, Bool.false_and, TranslateReq.examples, Bool.false_eq_true, if_false]
  exact (there.append_left _).append_right _

/-! ## A save and a later translation -/

theorem served_run {acts : List Action} (reached : (machine kb).run (start kb) acts = some s) :
    Served kb s :=
  Machine.run_induction (I := Served kb) (fun _ _ _ served h => served_step served h)
    (fun _ _ live => by cases live) reached

theorem placed_run
    (self : ∀ text, kb.dedupThreshold ≤ kb.similarity (kb.embed text) (kb.embed text))
    {acts : List Action} (reached : (machine kb).run (start kb) acts = some s)
    (digest : (machine kb).Along (DigestTells kb) (start kb) acts) : Placed kb s :=
  Machine.run_induction_along (I := Placed kb)
    (fun _ _ _ placed digest h => placed.step self digest h) placed_start digest reached

/-- A save has returned an id, and its row is still there. Whatever was saved, recalled,
deleted or failed in between, a later recall that raises nothing, for a query whose vector is
within the recall threshold of all that is close to the saved text, returns that row or as
many others as it may that are no less similar, and the prompt shows both statements of each. -/
theorem saved_is_shown (kb : Env V S)
    (self : ∀ text, kb.dedupThreshold ≤ kb.similarity (kb.embed text) (kb.embed text))
    (acts : List Action) (s : State V kb.md5)
    (reached : (machine kb).run (start kb) acts = some s)
    (digest : (machine kb).Along (DigestTells kb) (start kb) acts)
    {i : Nat} {c : Call} {r : Row V} (live : s.calls i = some c) (done : c.pc = .done (some r.id))
    (there : r ∈ s.table.rows) (w : Recall kb) {sql : String} {qVec : V}
    (succeeds : w.Succeeds sql qVec) {threshold : S}
    (near : ∀ v, kb.dedupThreshold ≤ kb.similarity (kb.embed c.args.mysqlSQL) v →
      threshold ≤ kb.similarity qVec v) (topK : Nat) :
    let found := (retrieveSimilar kb w sql topK threshold s.table).1
    (toExample kb qVec r ∈ found ∨
      found.length = topK ∧ ∀ ex ∈ found, kb.similarity qVec r.embedding ≤ ex.similarity) ∧
    ∀ env, ∀ ex ∈ found, Within (shown ex) (userMsg env { sql } found) := by
  have enabled : kb.enabled = true := served_run reached i c live (by rw [done]; simp)
  have close := (placed_run self reached digest).close i c r.id live (by rw [done]; rfl) r there rfl
  have reaches : r ∈ reaching kb qVec threshold s.table.rows :=
    List.mem_filter.mpr ⟨there, decide_eq_true (near _ close)⟩
  refine ⟨?_, fun env ex member => shown_within_userMsg env rfl member⟩
  rw [retrieveSimilar_of_succeeds enabled succeeds]
  rcases (w.isTop_best qVec topK threshold s.table.rows).mem_or_full reaches with
    best | ⟨full, better⟩
  · exact Or.inl (List.mem_map_of_mem best)
  · refine Or.inr ⟨by rw [List.length_map, full], fun ex member => ?_⟩
    obtain ⟨r', best, rfl⟩ := List.mem_map.mp member
    exact better r' best

/-- A runtime save that was counted for the seed of its text is answered with the seed. -/
theorem saved_is_shown_seedThenRuntime :
    ∃ s, (machine sameTextOnly).run (start sameTextOnly) seedThenRuntime = some s ∧
      ∀ env, ∀ ex ∈ (retrieveSimilar sameTextOnly atEase ordersText 3 85 s.table).1,
        Within (shown ex) (userMsg env { sql := ordersText }
          (retrieveSimilar sameTextOnly atEase ordersText 3 85 s.table).1) := by
  let seeded := Table.insertRow 1 (countOrders "seed" "SELECT COUNT(*) FROM orders WHERE true")
    ordersText 1
  refine ⟨_, rfl, ?_⟩
  refine (saved_is_shown sameTextOnly sameTextOnly_self seedThenRuntime _ rfl seedThenRuntime_digest
    (i := 1) (r := Table.bumpRow [1] 2 seeded) rfl rfl List.mem_cons_self atEase
    ⟨rfl, rfl, rfl, rfl⟩ ?_ 3).2
  intro v close
  exact Nat.le_trans (by decide) close

end MysqlRedshift.Agent.Knowledge
