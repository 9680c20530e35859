import MysqlRedshift.Agent.NearDuplicates

/-!
# The history of a row

What a row of the knowledge base says of itself, in any run of saves, recalls and
deletions: its columns are those of one save, which has returned its id, and its
`hit_count` counts the dedup hits and the recalls of it since it was inserted. An
`INSERT` that runs into the row of its digest overwrites the columns and keeps the
count, and an id is never given out twice.
-/

namespace MysqlRedshift.Agent.Knowledge

open MysqlRedshift.Misc

variable {V S : Type} [LinearOrder S] {kb : Env V S} {s t : State V kb.md5} {a : Action}

/-- The columns that a save decides are those of the save; of `mysql_sql` the conflict
clause has compared the digest only. -/
structure WrittenBy (md5 : String → String) (r : Row V) (args : SaveArgs) : Prop where
  digest : md5 r.mysqlSQL = md5 args.mysqlSQL
  redshiftSQL : r.redshiftSQL = args.redshiftSQL
  usedRules : r.usedRules = args.usedRules
  rowCount : r.rowCount = args.rowCount
  mysqlMs : r.mysqlMs = args.mysqlMs
  redshiftMs : r.redshiftMs = args.redshiftMs
  compareMode : r.compareMode = args.compareMode
  source : r.source = args.source

/-- A save that has returned the row's id, and has written its columns. -/
def Authored (s : State V kb.md5) (r : Row V) : Prop :=
  ∃ i c, s.calls i = some c ∧ c.pc = .done (some r.id) ∧ WrittenBy kb.md5 r c.args

/-- The rows that a step counts a hit for. -/
def hitIds (s : State V kb.md5) : Action → List Nat
  | .bump i _ =>
    match s.calls i with
    | some ⟨_, .bump id⟩ => [id]
    | _ => []
  | .retrieve ids _ => ids
  | _ => []

variable (kb) in
/-- The hits of a row in a schedule, while it is there. -/
def hits (s : State V kb.md5) (id : Nat) : List Action → Nat
  | [] => 0
  | a :: acts =>
    (if id ∈ hitIds s a ∧ (s.table.row? id).isSome then 1 else 0) +
      (step kb s a).elim 0 fun t => hits t id acts

/-! ## What a step does to a row -/

/-- A call that has returned stays as it is. -/
theorem step_done (h : step kb s a = some t) {j : Nat} {c : Call} {id : Option Nat}
    (live : s.calls j = some c) (done : c.pc = .done id) : t.calls j = some c := by
  have moved {i : Nat} {c' : Call} {pc : Pc} (at_ : s.calls i = some c')
      (going : ∀ id, c'.pc ≠ .done id) :
      Function.update s.calls i (some { c' with pc }) j = some c := by
    rw [Function.update_of_ne, live]
    rintro rfl
    rw [at_, Option.some.injEq] at live
    exact going id (live ▸ done)
  cases step_trans h with
  | @call i args free =>
    refine (Function.update_of_ne (fun same => ?_) _ _).trans live
    rw [same, free] at live
    cases live
  | nearest at_ | bump at_ | insert at_ => exact moved at_ (by simp)
  | @fail i c' at_ =>
    refine moved at_ fun id' ended => ?_
    obtain ⟨args, pc⟩ := c'
    rw [show pc = .done id' from ended] at at_
    simp only [step, at_, reduceCtorEq] at h
  | retrieve | delete => exact live

omit [LinearOrder S] in
/-- An `INSERT` overwrites columns of a row without touching its count, or the row is new. -/
theorem mem_upsert_history {table : Table V kb.md5} {args : SaveArgs} {vec : V} {now : Nat}
    {r : Row V} (member : r ∈ (table.upsert args vec now).rows) :
    (∃ old ∈ table.rows, old.id = r.id ∧ r.hitCount = old.hitCount ∧
        r.createdAt = old.createdAt ∧ r.mysqlSQL = old.mysqlSQL) ∨
      r.id = table.nextId ∧ r.hitCount = 0 := by
  rcases Table.mem_upsert_iff.mp member with ⟨before, -⟩ | ⟨old, before, -, rfl⟩ | ⟨-, rfl⟩
  · exact Or.inl ⟨r, before, rfl, rfl, rfl, rfl⟩
  · exact Or.inl ⟨old, before, rfl, rfl, rfl, rfl⟩
  · exact Or.inr ⟨rfl, rfl⟩

omit [LinearOrder S] in
/-- A save that runs into a row returns its id. -/
theorem upsertId_of_mem {table : Table V kb.md5} {args : SaveArgs} {old : Row V}
    (before : old ∈ table.rows) (keyed : kb.md5 old.mysqlSQL = kb.md5 args.mysqlSQL) :
    table.upsertId args = old.id := by
  rw [Table.upsertId]
  cases found : table.rows.find? fun r => kb.md5 r.mysqlSQL = kb.md5 args.mysqlSQL with
  | none => simpa [keyed] using List.find?_eq_none.mp found old before
  | some r =>
    have same : kb.md5 r.mysqlSQL = kb.md5 args.mysqlSQL := by simpa using List.find?_some found
    have one : r = old := List.inj_on_of_nodup_map table.textsUnique
      (List.mem_of_find?_eq_some found) before (same.trans keyed.symm)
    rw [one]

omit [LinearOrder S] in
theorem mem_bump_history {table : Table V kb.md5} {ids : List Nat} {now : Nat} {r : Row V}
    (member : r ∈ (table.bump ids now).rows) :
    ∃ old ∈ table.rows, old.id = r.id ∧
      r.hitCount = old.hitCount + (if r.id ∈ ids then 1 else 0) ∧
      r.createdAt = old.createdAt ∧ r.mysqlSQL = old.mysqlSQL := by
  obtain ⟨old, before, rfl⟩ := List.mem_map.mp member
  refine ⟨old, before, (Table.bumpRow_id ids now old).symm, ?_, ?_, Table.bumpRow_mysqlSQL ..⟩
  · rw [Table.bumpRow_id]
    unfold Table.bumpRow
    split <;> simp_all
  · unfold Table.bumpRow
    split <;> rfl

/-- A row after a step was there before, with its hits but for the one of the step, or it
has the next id. -/
theorem step_row (h : step kb s a = some t) {r : Row V} (member : r ∈ t.table.rows) :
    (∃ old ∈ s.table.rows, old.id = r.id ∧
        r.hitCount = old.hitCount + (if r.id ∈ hitIds s a then 1 else 0) ∧
        r.createdAt = old.createdAt ∧ r.mysqlSQL = old.mysqlSQL) ∨
      r.id = s.table.nextId ∧ r.hitCount = 0 := by
  cases step_trans h with
  | call | nearest | fail =>
    exact Or.inl ⟨r, member, rfl, by simp [hitIds], rfl, rfl⟩
  | bump live =>
    refine Or.inl ?_
    simp only [hitIds, live]
    exact mem_bump_history member
  | insert live fits => exact mem_upsert_history member
  | retrieve => exact Or.inl (mem_bump_history member)
  | delete =>
    exact Or.inl ⟨r, Table.mem_delete member, rfl, by simp [hitIds], rfl, rfl⟩

theorem step_nextId (h : step kb s a = some t) : s.table.nextId ≤ t.table.nextId := by
  cases step_trans h with
  | insert => exact Nat.le_succ _
  | _ => exact Nat.le_refl _

/-- A save keeps its arguments, and the step that it comes with is the only one to bring it. -/
theorem args_of_step (h : step kb s a = some t) {j : Nat} {c : Call}
    (live : t.calls j = some c) :
    (∃ old, s.calls j = some old ∧ old.args = c.args) ∨
      a = .call j c.args ∧ s.calls j = none := by
  have moved {i : Nat} {c' : Call} {pc : Pc} (at_ : s.calls i = some c')
      (live : Function.update s.calls i (some { c' with pc }) j = some c) :
      ∃ old, s.calls j = some old ∧ old.args = c.args := by
    rcases update_some_cases live with ⟨rfl, rfl⟩ | ⟨-, before⟩
    · exact ⟨c', at_, rfl⟩
    · exact ⟨c, before, rfl⟩
  cases step_trans h with
  | call free =>
    rcases update_some_cases live with ⟨rfl, rfl⟩ | ⟨-, before⟩
    · exact Or.inr ⟨rfl, free⟩
    · exact Or.inl ⟨c, before, rfl⟩
  | nearest at_ | bump at_ | insert at_ | fail at_ => exact Or.inl (moved at_ live)
  | retrieve | delete => exact Or.inl ⟨c, live, rfl⟩

/-- A save that was there is there. -/
theorem live_of_step (h : step kb s a = some t) {j : Nat}
    (live : (s.calls j).isSome) : (t.calls j).isSome := by
  have moved {i : Nat} {c : Call} : (Function.update s.calls i (some c) j).isSome := by
    by_cases same : j = i
    · rw [same, Function.update_self]
      rfl
    · rw [Function.update_of_ne same]
      exact live
  cases step_trans h with
  | call | nearest | bump | insert | fail => exact moved
  | retrieve | delete => exact live

/-- A save that is not curated ends without an id unless its sample is of value. -/
def Valued (kb : Env V S) (s : State V kb.md5) : Prop :=
  ∀ j c, s.calls j = some c → bypassFilter c.args.source = false → c.pc ≠ .done none →
    isLowValue kb.db c.args.mysqlSQL c.args.redshiftSQL c.args.rowCount = none

theorem valued_step (valued : Valued kb s) (h : step kb s a = some t) :
    Valued kb t := by
  have moved {i : Nat} {c' : Call} {pc : Pc} (at_ : s.calls i = some c')
      (going : pc ≠ .done none → c'.pc ≠ .done none) {j : Nat} {c : Call}
      (live : Function.update s.calls i (some { c' with pc }) j = some c)
      (unfiltered : bypassFilter c.args.source = false) (alive : c.pc ≠ .done none) :
      isLowValue kb.db c.args.mysqlSQL c.args.redshiftSQL c.args.rowCount = none := by
    rcases update_some_cases live with ⟨rfl, rfl⟩ | ⟨-, before⟩
    · exact valued j c' at_ unfiltered (going alive)
    · exact valued j c before unfiltered alive
  intro j c live unfiltered alive
  cases step_trans h with
  | call free =>
    rcases update_some_cases live with ⟨rfl, rfl⟩ | ⟨-, before⟩
    · simp only [begin, unfiltered] at alive
      by_contra low
      rw [← ne_eq, Option.ne_none_iff_isSome] at low
      simp [low] at alive
    · exact valued j c before unfiltered alive
  | nearest at_ | bump at_ | insert at_ => exact moved at_ (fun _ => by simp) live unfiltered alive
  | fail at_ => exact moved at_ (fun ended => absurd rfl ended) live unfiltered alive
  | retrieve | delete => exact valued j c live unfiltered alive

/-- A step keeps rows authored. -/
theorem step_authored (authored : ∀ r ∈ s.table.rows, Authored s r)
    (h : step kb s a = some t) : ∀ r ∈ t.table.rows, Authored t r := by
  have still {r old : Row V} (before : old ∈ s.table.rows) (id : r.id = old.id)
      (written : ∀ args, WrittenBy kb.md5 old args → WrittenBy kb.md5 r args) : Authored t r := by
    obtain ⟨i, c, live, done, by_⟩ := authored old before
    exact ⟨i, c, step_done h live done, by rw [id]; exact done, written _ by_⟩
  have kept {r old : Row V} {ids : List Nat} {now : Nat} (before : old ∈ s.table.rows)
      (same : r = Table.bumpRow ids now old) : Authored t r := by
    obtain ⟨hits, used, eq⟩ := Table.bumpRow_eq ids now old
    rw [eq] at same
    subst same
    exact still before rfl fun args by_ =>
      ⟨by_.digest, by_.redshiftSQL, by_.usedRules, by_.rowCount, by_.mysqlMs, by_.redshiftMs,
        by_.compareMode, by_.source⟩
  intro r member
  cases step_trans h with
  | call | nearest | fail => exact still member rfl fun _ => id
  | bump | retrieve =>
    obtain ⟨old, before, same⟩ := List.mem_map.mp member
    exact kept before same.symm
  | @insert i now args live fits =>
    rcases Table.mem_upsert_iff.mp member with
      ⟨before, -⟩ | ⟨old, before, keyed, rfl⟩ | ⟨absent, rfl⟩
    · exact still before rfl fun _ => id
    · have returned : s.table.upsertId args = old.id := upsertId_of_mem before keyed
      exact ⟨i, _, Function.update_self .., by rw [returned]; rfl, keyed, rfl, rfl, rfl, rfl, rfl,
        rfl, rfl⟩
    · have returned : s.table.upsertId args = s.table.nextId :=
        (Table.upsert_of_absent absent (kb.embed args.mysqlSQL) now).2
      exact ⟨i, _, Function.update_self .., by rw [returned]; rfl, rfl, rfl, rfl, rfl, rfl, rfl,
        rfl, rfl⟩
  | delete => exact still (Table.mem_delete member) rfl fun _ => id

/-! ## Runs -/

/-- A row after a run was there before it, with its hits but for those of the run, or it has
come in the run, and all its hits have. -/
theorem run_row {acts : List Action} (run : (machine kb).run s acts = some t) {r : Row V}
    (member : r ∈ t.table.rows) :
    (∃ old ∈ s.table.rows, old.id = r.id ∧ r.hitCount = old.hitCount + hits kb s r.id acts ∧
        r.createdAt = old.createdAt ∧ r.mysqlSQL = old.mysqlSQL) ∨
      s.table.nextId ≤ r.id ∧ r.hitCount = hits kb s r.id acts := by
  induction acts generalizing s with
  | nil =>
    cases run
    exact Or.inl ⟨r, member, rfl, rfl, rfl, rfl⟩
  | cons a acts ih =>
    obtain ⟨u, stepped, rest⟩ := Option.bind_eq_some_iff.mp run
    have stepped : step kb s a = some u := stepped
    have later : s.table.nextId ≤ r.id → hits kb s r.id (a :: acts) = hits kb u r.id acts := by
      intro new
      have absent : s.table.row? r.id = none := by
        refine List.find?_eq_none.mpr fun r' before => ?_
        have below := s.table.idsBelow r' before
        simpa using (show r'.id ≠ r.id by omega)
      simp only [hits, absent, stepped, Option.isSome_none, Bool.false_eq_true, and_false, if_false,
        Option.elim_some, Nat.zero_add]
    rcases ih rest with ⟨mid, there, same, count, created, text⟩ | ⟨new, count⟩
    · rcases step_row stepped there with ⟨old, before, same', count', created', text'⟩ |
        ⟨next, fresh⟩
      · refine Or.inl ⟨old, before, same'.trans same, ?_, created.trans created', text.trans text'⟩
        have present : (s.table.row? r.id).isSome := by
          rw [← same, ← same', Table.row?_of_mem before]
          rfl
        rw [count, count', hits, stepped, same]
        simp only [present, and_true, Option.elim_some]
        omega
      · have at_next : s.table.nextId ≤ r.id := (next.symm.trans same).le
        refine Or.inr ⟨at_next, ?_⟩
        rw [later at_next, count, fresh, Nat.zero_add]
    · have at_next := (step_nextId stepped).trans new
      exact Or.inr ⟨at_next, by rw [later at_next, count]⟩

theorem authored_run {acts : List Action} (reached : (machine kb).run (start kb) acts = some s) :
    ∀ r ∈ s.table.rows, Authored s r :=
  Machine.run_induction (I := fun u : State V kb.md5 => ∀ r ∈ u.table.rows, Authored u r)
    (fun _ _ _ authored h => step_authored authored h) (by rintro r ⟨⟩) reached

theorem valued_run {acts : List Action} (reached : (machine kb).run (start kb) acts = some s) :
    Valued kb s :=
  Machine.run_induction (I := Valued kb) (fun _ _ _ valued h => valued_step valued h)
    (fun _ _ live => by cases live) reached

/-- In every run, whatever interleaves and fails, the columns of a row are those of one save,
which has returned its id, and its `hit_count` is the number of hits of it in the run. -/
theorem rows_accounted (kb : Env V S) (acts : List Action) (s : State V kb.md5)
    (reached : (machine kb).run (start kb) acts = some s) :
    ∀ r ∈ s.table.rows, Authored s r ∧ r.hitCount = hits kb (start kb) r.id acts := by
  intro r member
  refine ⟨authored_run reached r member, ?_⟩
  rcases run_row reached member with ⟨old, before, -⟩ | ⟨-, count⟩
  · cases before
  · exact count

/-- A seed, a recall of it, a runtime save of its text, and the seed again. -/
def seedUsed : List Action :=
  [.call 0 (countOrders "seed" "SELECT COUNT(*) FROM orders WHERE true"), .insert 0 1,
    .retrieve [1, 2] 2, .call 1 (countOrders "runtime" "SELECT COUNT(*) AS c FROM orders"),
    .nearest 1 (some 1), .bump 1 3, .call 2 (countOrders "seed" "SELECT COUNT(*) FROM orders"),
    .insert 2 4]

theorem rows_accounted_seedUsed :
    ∃ s, (machine sameTextOnly).run (start sameTextOnly) seedUsed = some s ∧
      hits sameTextOnly (start sameTextOnly) 1 seedUsed = 2 ∧
      ∀ r ∈ s.table.rows, Authored s r ∧
        r.hitCount = hits sameTextOnly (start sameTextOnly) r.id seedUsed := by
  refine ⟨_, rfl, by decide +kernel, ?_⟩
  exact rows_accounted sameTextOnly seedUsed _ rfl

end MysqlRedshift.Agent.Knowledge
