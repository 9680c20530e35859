import MysqlRedshift.Agent.Labels
import MysqlRedshift.Agent.Learned

/-!
# Seeding the knowledge base

`scripts/seed_knowledge.py` posts its samples to `/save_example` of the agent, one after the
other, counts the answers, and exits with 0 if none has failed. The agent has other work at the
same time. A post that raises (a refused connection, a time-out, an error status, an answer
that is no JSON) may all the same have reached the agent, or may still do so.
-/

namespace MysqlRedshift.Scripts.SeedKnowledge

open MysqlRedshift.Misc MysqlRedshift.Agent MysqlRedshift.Agent.Knowledge

/-- The counters of `main`, with the agent behind it. -/
structure Sys (V : Type) (md5 : String → String) where
  ok : Nat
  fail : Nat
  /-- Whether the answer to a post is awaited. -/
  waiting : Bool
  /-- The samples, by number, that were posted and not taken up. -/
  wire : List Nat
  /-- The save that the agent makes of a sample. -/
  taken : Nat → Option Nat
  agent : Knowledge.State V md5

inductive Label where
  | post
  | take (n j : Nat)
  | answer
  | raised
  | agent (a : Knowledge.Action)

variable {V S : Type} [LinearOrder S] (kb : Env V S) (seeds : List Seed)

/-- The sample that comes next. -/
def Sys.i {md5 : String → String} (s : Sys V md5) : Nat := s.ok + s.fail

/-- What `save_example` has returned for a sample. -/
def Sys.returned {md5 : String → String} (s : Sys V md5) (k : Nat) : Option (Option Nat) :=
  match (s.taken k).bind s.agent.calls with
  | some ⟨_, .done id⟩ => some id
  | _ => none

/-- `ok` of the answer is whether an id was returned. -/
def Sys.count {md5 : String → String} (s : Sys V md5) (ok : Bool) : Sys V md5 :=
  if ok then { s with ok := s.ok + 1, waiting := false }
  else { s with fail := s.fail + 1, waiting := false }

def step (s : Sys V kb.md5) : Label → Option (Sys V kb.md5)
  | .post =>
    if s.waiting = false ∧ s.i < seeds.length then
      some { s with waiting := true, wire := s.wire ++ [s.i] }
    else none
  | .take n j =>
    (s.wire[n]?).bind fun k => (seeds[k]?).bind fun seed =>
      (Knowledge.step kb s.agent (.call j seed.saveArgs)).map fun agent =>
        { s with agent, wire := s.wire.eraseIdx n, taken := Function.update s.taken k (some j) }
  | .answer => if s.waiting then (s.returned s.i).map fun id => s.count id.isSome else none
  | .raised => if s.waiting then some (s.count false) else none
  | .agent a => (Knowledge.step kb s.agent a).map fun agent => { s with agent }

def machine : Machine (Sys V kb.md5) Label := ⟨step kb seeds⟩

/-- The script is started beside an agent at work. -/
def start {md5 : String → String} (agent : Knowledge.State V md5) : Sys V md5 :=
  ⟨0, 0, false, [], fun _ => none, agent⟩

/-- The argument of `sys.exit`, at the end of the loop. -/
def Sys.exitCode {md5 : String → String} (s : Sys V md5) : Option Nat :=
  if s.waiting = false ∧ s.i = seeds.length then some (if s.fail = 0 then 0 else 1) else none

/-! ## What a step can do -/

inductive Trans : Sys V kb.md5 → Label → Sys V kb.md5 → Prop where
  | post {s} (idle : s.waiting = false) (more : s.i < seeds.length) :
      Trans s .post { s with waiting := true, wire := s.wire ++ [s.i] }
  | take {s n j k seed agent} (sent : s.wire[n]? = some k) (listed : seeds[k]? = some seed)
      (called : Knowledge.step kb s.agent (.call j seed.saveArgs) = some agent) :
      Trans s (.take n j)
        { s with agent, wire := s.wire.eraseIdx n, taken := Function.update s.taken k (some j) }
  | answer {s id} (waits : s.waiting = true) (returned : s.returned s.i = some id) :
      Trans s .answer (s.count id.isSome)
  | raised {s} (waits : s.waiting = true) : Trans s .raised (s.count false)
  | agent {s a agent} (moved : Knowledge.step kb s.agent a = some agent) :
      Trans s (.agent a) { s with agent }

variable {kb seeds} {s t : Sys V kb.md5} {l : Label}

theorem step_trans (h : step kb seeds s l = some t) : Trans kb seeds s l t := by
  cases l with
  | post =>
    rw [step] at h
    split at h
    · next ready =>
      cases h
      exact .post ready.1 ready.2
    · cases h
  | take n j =>
    obtain ⟨k, sent, rest⟩ := Option.bind_eq_some_iff.mp h
    obtain ⟨seed, listed, rest⟩ := Option.bind_eq_some_iff.mp rest
    obtain ⟨agent, called, rfl⟩ := Option.map_eq_some_iff.mp rest
    exact .take sent listed called
  | answer =>
    rw [step] at h
    split at h
    · next waits =>
      obtain ⟨id, returned, rfl⟩ := Option.map_eq_some_iff.mp h
      exact .answer waits returned
    · cases h
  | raised =>
    rw [step] at h
    split at h
    · next waits =>
      cases h
      exact .raised waits
    · cases h
  | agent a =>
    obtain ⟨agent, moved, rfl⟩ := Option.map_eq_some_iff.mp h
    exact .agent moved

/-! ## The posts and the saves -/

/-- A save that no filter looks at. -/
def Straight (pc : Pc) : Prop := pc = .insert ∨ ∃ id, pc = .done id

/-- The number of samples that were posted. -/
def Sys.posted {md5 : String → String} (s : Sys V md5) : Nat :=
  s.i + if s.waiting then 1 else 0

/-- Each sample is posted once and taken up at most once; the save that is made of it has its
columns, and goes straight to the table. Nothing has failed, then all saves up to here have
returned an id. -/
structure Orderly (seeds : List Seed) (s : Sys V kb.md5) : Prop where
  within : s.posted ≤ seeds.length
  apart : s.wire.Nodup
  sent : ∀ k ∈ s.wire, k < s.posted ∧ s.taken k = none
  saves : ∀ k j, s.taken k = some j → k < s.posted ∧ ∃ seed c, seeds[k]? = some seed ∧
    s.agent.calls j = some c ∧ c.args = seed.saveArgs ∧ Straight c.pc
  own : ∀ k k' j, s.taken k = some j → s.taken k' = some j → k' = k
  counted : s.fail = 0 → ∀ k < s.ok, ∃ id, s.returned k = some (some id)

omit [LinearOrder S] in
theorem orderly_start (agent : Knowledge.State V kb.md5) :
    Orderly seeds (start agent : Sys V kb.md5) where
  within := Nat.zero_le _
  apart := .nil
  sent k member := by cases member
  saves k j taken := by cases taken
  own k k' j taken := by cases taken
  counted _ k before := absurd before (Nat.not_lt_zero k)

omit [LinearOrder S] in
theorem begin_seed (seed : Seed) : Straight (begin kb seed.saveArgs) := by
  unfold begin
  split
  · exact Or.inr ⟨none, rfl⟩
  · exact Or.inl rfl

/-- A save that is on its way to the table waits, fails, or writes its columns and returns the
id of the row. -/
theorem step_straight {s t : Knowledge.State V kb.md5} {a : Knowledge.Action}
    (h : Knowledge.step kb s a = some t) {j : Nat} {c : Knowledge.Call}
    (live : s.calls j = some c) (straight : Straight c.pc) :
    ∃ c', t.calls j = some c' ∧ c'.args = c.args ∧ Straight c'.pc ∧
      (c' = c ∨ c'.pc = .done none ∨
        ∃ now, t.table = s.table.upsert c.args (kb.embed c.args.mysqlSQL) now ∧
          c'.pc = .done (some (s.table.upsertId c.args))) := by
  have still {i : Nat} {c' : Option Knowledge.Call} (other : s.calls i ≠ some c) :
      Function.update s.calls i c' j = some c :=
    (Function.update_of_ne (by rintro rfl; exact other live) _ _).trans live
  cases Knowledge.step_trans h with
  | call free => exact ⟨c, still (by rw [free]; simp), rfl, straight, Or.inl rfl⟩
  | nearest at_ | bump at_ =>
    refine ⟨c, still fun same => ?_, rfl, straight, Or.inl rfl⟩
    rw [at_, Option.some.injEq] at same
    subst same
    simp [Straight] at straight
  | @insert i now args at_ fits =>
    by_cases same : s.calls i = some c ∧ j = i
    · obtain ⟨here, rfl⟩ := same
      rw [at_, Option.some.injEq] at here
      subst here
      exact ⟨_, Function.update_self .., rfl, Or.inr ⟨_, rfl⟩, Or.inr (Or.inr ⟨now, rfl, rfl⟩)⟩
    · refine ⟨c, (Function.update_of_ne ?_ _ _).trans live, rfl, straight, Or.inl rfl⟩
      rintro rfl
      exact same ⟨live, rfl⟩
  | @fail i c' at_ =>
    by_cases same : j = i
    · subst same
      rw [at_, Option.some.injEq] at live
      subst live
      exact ⟨_, Function.update_self .., rfl, Or.inr ⟨_, rfl⟩, Or.inr (Or.inl rfl)⟩
    · exact ⟨c, (Function.update_of_ne same _ _).trans live, rfl, straight, Or.inl rfl⟩
  | retrieve | delete => exact ⟨c, live, rfl, straight, Or.inl rfl⟩

omit [LinearOrder S] in
theorem returned_iff {k : Nat} {id : Option Nat} :
    s.returned k = some id ↔
      ∃ j c, s.taken k = some j ∧ s.agent.calls j = some c ∧ c.pc = .done id := by
  rw [Sys.returned]
  constructor
  · intro h
    split at h
    · next args id' at_ =>
      obtain ⟨j, taken, live⟩ := Option.bind_eq_some_iff.mp at_
      cases h
      exact ⟨j, _, taken, live, rfl⟩
    · cases h
  · rintro ⟨j, ⟨args, pc⟩, taken, live, rfl⟩
    rw [taken, Option.bind_some, live]

/-- What has been returned for a sample stays returned. -/
theorem returned_moved {agent : Knowledge.State V kb.md5} {a : Knowledge.Action}
    (moved : Knowledge.step kb s.agent a = some agent) {taken : Nat → Option Nat} {k : Nat}
    {id : Option Nat} (same : ∀ j, s.taken k = some j → taken k = some j)
    (returned : s.returned k = some id) :
    Sys.returned { s with agent, taken } k = some id := by
  obtain ⟨j, c, there, live, done⟩ := returned_iff.mp returned
  exact returned_iff.mpr ⟨j, c, same j there, step_done moved live done, done⟩

omit [LinearOrder S] in
theorem posted_count (s : Sys V kb.md5) (waits : s.waiting = true) (ok : Bool) :
    (s.count ok).posted = s.posted := by
  cases ok <;> simp [Sys.count, Sys.posted, Sys.i, waits] <;> omega

omit [LinearOrder S] in
theorem Orderly.count (orderly : Orderly seeds s) (waits : s.waiting = true) {ok : Bool}
    (good : ok = true → ∃ id, s.returned s.i = some (some id)) : Orderly seeds (s.count ok) := by
  have posted := posted_count s waits ok
  have same : (s.count ok).wire = s.wire ∧ (s.count ok).taken = s.taken ∧
      (s.count ok).agent = s.agent := by cases ok <;> exact ⟨rfl, rfl, rfl⟩
  obtain ⟨wire, taken, agent⟩ := same
  refine ⟨posted ▸ orderly.within, wire ▸ orderly.apart, ?_, ?_, taken ▸ orderly.own, ?_⟩
  · rw [posted, wire, taken]
    exact orderly.sent
  · rw [posted, taken, agent]
    exact orderly.saves
  · intro none_failed k before
    have returned : (s.count ok).returned k = s.returned k := by
      rw [Sys.returned, Sys.returned, taken, agent]
    rw [returned]
    cases ok with
    | false => cases none_failed
    | true =>
      rcases Nat.lt_succ_iff_lt_or_eq.mp before with before | rfl
      · exact orderly.counted none_failed k before
      · obtain ⟨id, returned⟩ := good rfl
        rw [Sys.i, show s.fail = 0 from none_failed] at returned
        exact ⟨id, returned⟩

/-- A post that is taken up is not on the way any more. -/
theorem not_mem_eraseIdx {wire : List Nat} {n k : Nat} (nodup : wire.Nodup)
    (at_ : wire[n]? = some k) : k ∉ wire.eraseIdx n := by
  obtain ⟨inside, rfl⟩ := List.getElem?_eq_some_iff.mp at_
  rw [← nodup.erase_getElem n inside]
  exact nodup.not_mem_erase

theorem Orderly.step (orderly : Orderly seeds s) (h : step kb seeds s l = some t) :
    Orderly seeds t := by
  cases step_trans h with
  | post idle more =>
    have all : s.posted = s.i := by simp [Sys.posted, idle]
    have more_posted : Sys.posted { s with waiting := true, wire := s.wire ++ [s.i] } = s.i + 1 :=
      rfl
    refine ⟨more, ?_, fun k member => ?_, fun k j taken => ?_, orderly.own, orderly.counted⟩
    · refine List.nodup_append.mpr ⟨orderly.apart, List.nodup_singleton _, ?_⟩
      intro k member k' new
      rw [List.mem_singleton] at new
      have before := (orderly.sent k member).1
      omega
    · rw [more_posted]
      rcases List.mem_append.mp member with member | new
      · obtain ⟨before, none_yet⟩ := orderly.sent k member
        exact ⟨by omega, none_yet⟩
      · rw [List.mem_singleton] at new
        subst new
        refine ⟨Nat.lt_succ_self _, ?_⟩
        cases taken : s.taken s.i with
        | none => rfl
        | some j =>
          have before := (orderly.saves _ j taken).1
          omega
    · obtain ⟨before, rest⟩ := orderly.saves k j taken
      exact ⟨by rw [more_posted]; omega, rest⟩
  | @take n j k seed agent sent listed called =>
    have member := List.mem_of_getElem? sent
    obtain ⟨before, none_yet⟩ := orderly.sent k member
    have kept : ∀ {k' j'}, s.taken k' = some j' →
        Function.update s.taken k (some j) k' = some j' := by
      intro k' j' taken
      refine (Function.update_of_ne ?_ _ _).trans taken
      rintro rfl
      rw [none_yet] at taken
      cases taken
    have new : ∀ {k'}, s.taken k' ≠ some j := by
      intro k' taken
      obtain ⟨-, -, c, -, live, -⟩ := orderly.saves k' j taken
      cases Knowledge.step_trans called with
      | call free =>
        rw [free] at live
        cases live
    refine ⟨orderly.within, orderly.apart.eraseIdx n, fun k' there => ?_,
      fun k' j' taken => ?_, fun k₁ k₂ j' taken taken' => ?_, fun none_failed k' counted => ?_⟩
    · obtain ⟨before', none_yet'⟩ := orderly.sent k' (List.mem_of_mem_eraseIdx there)
      refine ⟨before', (Function.update_of_ne ?_ _ _).trans none_yet'⟩
      rintro rfl
      exact absurd there (not_mem_eraseIdx orderly.apart sent)
    · rcases update_some_cases taken with ⟨rfl, rfl⟩ | ⟨-, taken⟩
      · refine ⟨before, seed, ⟨seed.saveArgs, begin kb seed.saveArgs⟩, listed, ?_, rfl, ?_⟩
        · cases Knowledge.step_trans called with
          | call free => exact Function.update_self ..
        · exact begin_seed seed
      · obtain ⟨before', seed', c, listed', live, args, straight⟩ := orderly.saves k' j' taken
        obtain ⟨c', live', args', straight', -⟩ := step_straight called live straight
        exact ⟨before', seed', c', listed', live', args'.trans args, straight'⟩
    · rcases update_some_cases taken with ⟨rfl, rfl⟩ | ⟨-, before₁⟩
      · rcases update_some_cases taken' with ⟨rfl, -⟩ | ⟨-, before₂⟩
        · rfl
        · exact absurd before₂ new
      · rcases update_some_cases taken' with ⟨-, rfl⟩ | ⟨-, before₂⟩
        · exact absurd before₁ new
        · exact orderly.own k₁ k₂ j' before₁ before₂
    · obtain ⟨id, returned⟩ := orderly.counted none_failed k' counted
      exact ⟨id, returned_moved called (fun _ => kept) returned⟩
  | answer waits returned =>
    refine orderly.count waits fun some_id => ?_
    obtain ⟨id, rfl⟩ := Option.isSome_iff_exists.mp some_id
    exact ⟨id, returned⟩
  | raised waits => exact orderly.count waits (fun impossible => by cases impossible)
  | @agent a agent moved =>
    refine ⟨orderly.within, orderly.apart, orderly.sent, fun k j taken => ?_, orderly.own,
      fun none_failed k before => ?_⟩
    · obtain ⟨before, seed, c, listed, live, args, straight⟩ := orderly.saves k j taken
      obtain ⟨c', live', args', straight', -⟩ := step_straight moved live straight
      exact ⟨before, seed, c', listed, live', args'.trans args, straight'⟩
    · obtain ⟨id, returned⟩ := orderly.counted none_failed k before
      exact ⟨id, returned_moved moved (fun _ same => same) returned⟩

/-! ## The rows of the samples -/

/-- A row goes on, with its id, its text and its hits. -/
structure Continues (r r' : Row V) : Prop where
  id : r'.id = r.id
  mysqlSQL : r'.mysqlSQL = r.mysqlSQL
  createdAt : r'.createdAt = r.createdAt
  hits : r.hitCount ≤ r'.hitCount

theorem Continues.refl (r : Row V) : Continues r r := ⟨rfl, rfl, rfl, Nat.le_refl _⟩

theorem Continues.trans {r r' r'' : Row V} (h : Continues r r') (h' : Continues r' r'') :
    Continues r r'' :=
  ⟨h'.id.trans h.id, h'.mysqlSQL.trans h.mysqlSQL, h'.createdAt.trans h.createdAt,
    h.hits.trans h'.hits⟩

variable (kb seeds) in
/-- No row with the text of a sample is deleted, or overwritten with other columns. -/
def Spares (s : Knowledge.State V kb.md5) : Knowledge.Action → Prop
  | .insert i _ => ∀ c, s.calls i = some c → ∀ seed ∈ seeds,
      kb.md5 c.args.mysqlSQL = kb.md5 seed.mysql → c.args = seed.saveArgs
  | .delete entryId => ∀ r ∈ s.table.rows, r.id = entryId → ∀ seed ∈ seeds,
      kb.md5 r.mysqlSQL ≠ kb.md5 seed.mysql
  | _ => True

variable (kb seeds) in
def Spared (s : Sys V kb.md5) : Label → Prop
  | .agent a => Spares kb seeds s.agent a
  | _ => True

omit [LinearOrder S] in
theorem continues_bumpRow (ids : List Nat) (now : Nat) (r : Row V) :
    Continues r (Table.bumpRow ids now r) := by
  refine ⟨Table.bumpRow_id .., Table.bumpRow_mysqlSQL .., ?_, ?_⟩ <;> unfold Table.bumpRow <;> split
  · rfl
  · rfl
  · exact Nat.le_succ _
  · exact Nat.le_refl _

omit [LinearOrder S] in
theorem writtenBy_bumpRow {ids : List Nat} {now : Nat} {r : Row V} {args : SaveArgs}
    (written : WrittenBy kb.md5 r args) : WrittenBy kb.md5 (Table.bumpRow ids now r) args := by
  obtain ⟨hits, used, eq⟩ := Table.bumpRow_eq ids now r
  rw [eq]
  exact ⟨written.digest, written.redshiftSQL, written.usedRules, written.rowCount, written.mysqlMs,
    written.redshiftMs, written.compareMode, written.source⟩

/-- A row with the text of a sample goes on, and keeps the columns of the sample. -/
theorem row_spared {s t : Knowledge.State V kb.md5} {a : Knowledge.Action}
    (spares : Spares kb seeds s a) (h : Knowledge.step kb s a = some t) {seed : Seed}
    (listed : seed ∈ seeds) {r : Row V} (there : r ∈ s.table.rows)
    (keyed : kb.md5 r.mysqlSQL = kb.md5 seed.mysql) :
    ∃ r' ∈ t.table.rows, Continues r r' ∧
      (WrittenBy kb.md5 r seed.saveArgs → WrittenBy kb.md5 r' seed.saveArgs) := by
  cases Knowledge.step_trans h with
  | call | nearest | fail => exact ⟨r, there, .refl r, fun written => written⟩
  | bump | retrieve =>
    exact ⟨_, List.mem_map_of_mem there, continues_bumpRow .., writtenBy_bumpRow⟩
  | @insert i now args live fits =>
    by_cases same : kb.md5 r.mysqlSQL = kb.md5 args.mysqlSQL
    · have own : args = seed.saveArgs := spares _ live seed listed (same.symm.trans keyed)
      subst own
      refine ⟨_, Table.mem_upsert_iff.mpr (Or.inr (Or.inl ⟨r, there, same, rfl⟩)),
        ⟨rfl, rfl, rfl, Nat.le_refl _⟩, fun _ => ?_⟩
      exact ⟨same, rfl, rfl, rfl, rfl, rfl, rfl, rfl⟩
    · exact ⟨r, Table.mem_upsert_iff.mpr (Or.inl ⟨there, same⟩), .refl r, fun written => written⟩
  | delete =>
    refine ⟨r, List.mem_filter.mpr ⟨there, ?_⟩, .refl r, fun written => written⟩
    have other := fun deleted => spares r there deleted seed listed keyed
    simpa using other

omit [LinearOrder S] in
/-- The row whose id an `INSERT` returns has its columns. -/
theorem row_upserted (table : Table V kb.md5) (args : SaveArgs) (vec : V) (now : Nat) :
    ∃ r ∈ (table.upsert args vec now).rows,
      r.id = table.upsertId args ∧ WrittenBy kb.md5 r args := by
  by_cases absent : ∀ r ∈ table.rows, kb.md5 r.mysqlSQL ≠ kb.md5 args.mysqlSQL
  · refine ⟨_, Table.mem_upsert_iff.mpr (Or.inr (Or.inr ⟨absent, rfl⟩)), ?_,
      ⟨rfl, rfl, rfl, rfl, rfl, rfl, rfl, rfl⟩⟩
    exact (Table.upsert_of_absent absent vec now).2.symm
  · push Not at absent
    obtain ⟨old, before, keyed⟩ := absent
    refine ⟨_, Table.mem_upsert_iff.mpr (Or.inr (Or.inl ⟨old, before, keyed, rfl⟩)), ?_,
      ⟨keyed, rfl, rfl, rfl, rfl, rfl, rfl, rfl⟩⟩
    exact (upsertId_of_mem before keyed).symm

/-- The rows of the samples that were saved have their columns, and those that were there before
the script go on. -/
structure Saved (seeds : List Seed) (old : List (Row V)) (s : Sys V kb.md5) : Prop where
  rows : ∀ k j c id, s.taken k = some j → s.agent.calls j = some c → c.pc = .done (some id) →
    ∃ r ∈ s.agent.table.rows, r.id = id ∧ WrittenBy kb.md5 r c.args
  old : ∀ r ∈ old, ∀ seed ∈ seeds, kb.md5 r.mysqlSQL = kb.md5 seed.mysql →
    ∃ r' ∈ s.agent.table.rows, Continues r r'

theorem Saved.rows_moved {old : List (Row V)} (saved : Saved seeds old s)
    (orderly : Orderly seeds s) {agent : Knowledge.State V kb.md5} {a : Knowledge.Action}
    (spares : Spares kb seeds s.agent a) (moved : Knowledge.step kb s.agent a = some agent)
    {k j id : Nat} {c : Knowledge.Call} (taken : s.taken k = some j)
    (live : agent.calls j = some c) (done : c.pc = .done (some id)) :
    ∃ r ∈ agent.table.rows, r.id = id ∧ WrittenBy kb.md5 r c.args := by
  obtain ⟨-, seed, c₀, listed, before, args, straight⟩ := orderly.saves k j taken
  obtain ⟨c', after, args', -, how⟩ := step_straight moved before straight
  obtain rfl : c' = c := Option.some.inj (after.symm.trans live)
  rcases how with rfl | failed | ⟨now, table, returned⟩
  · obtain ⟨r, there, rfl, written⟩ := saved.rows k j c' id taken before done
    rw [args] at written ⊢
    obtain ⟨r', there', goes_on, written'⟩ :=
      row_spared spares moved (List.mem_of_getElem? listed) there written.digest
    exact ⟨r', there', goes_on.id, written' written⟩
  · rw [failed] at done
    cases done
  · rw [returned, Pc.done.injEq, Option.some.injEq] at done
    obtain ⟨r, there, same, written⟩ := row_upserted s.agent.table c₀.args
      (kb.embed c₀.args.mysqlSQL) now
    exact ⟨r, table ▸ there, same.trans done, args' ▸ written⟩

theorem Saved.old_moved {old : List (Row V)} (saved : Saved seeds old s)
    {agent : Knowledge.State V kb.md5} {a : Knowledge.Action}
    (spares : Spares kb seeds s.agent a) (moved : Knowledge.step kb s.agent a = some agent) :
    ∀ r ∈ old, ∀ seed ∈ seeds, kb.md5 r.mysqlSQL = kb.md5 seed.mysql →
      ∃ r' ∈ agent.table.rows, Continues r r' := by
  intro r before seed listed keyed
  obtain ⟨r', there, goes_on⟩ := saved.old r before seed listed keyed
  have keyed' : kb.md5 r'.mysqlSQL = kb.md5 seed.mysql := by rw [goes_on.mysqlSQL, keyed]
  obtain ⟨r'', there', goes_on', -⟩ := row_spared spares moved listed there keyed'
  exact ⟨r'', there', goes_on.trans goes_on'⟩

theorem Saved.step {old : List (Row V)} (saved : Saved seeds old s) (orderly : Orderly seeds s)
    (spared : Spared kb seeds s l) (h : step kb seeds s l = some t) : Saved seeds old t := by
  cases step_trans h with
  | post => exact ⟨saved.rows, saved.old⟩
  | @take n j k seed agent sent listed called =>
    have spares : Spares kb seeds s.agent (.call j seed.saveArgs) := trivial
    refine ⟨fun k' j' c id taken live done => ?_, saved.old_moved spares called⟩
    rcases update_some_cases taken with ⟨rfl, rfl⟩ | ⟨-, taken⟩
    · have fresh : agent.calls j' = some ⟨seed.saveArgs, begin kb seed.saveArgs⟩ := by
        cases Knowledge.step_trans called with
        | call free => exact Function.update_self ..
      rw [fresh, Option.some.injEq] at live
      subst live
      have none_yet : (begin kb seed.saveArgs).id? = none := begin_id? seed.saveArgs
      rw [show begin kb seed.saveArgs = _ from done] at none_yet
      cases none_yet
    · exact saved.rows_moved orderly spares called taken live done
  | answer | raised =>
    rw [Sys.count]
    split <;> exact ⟨saved.rows, saved.old⟩
  | agent moved =>
    exact ⟨fun k j c id taken live done => saved.rows_moved orderly spared moved taken live done,
      saved.old_moved spared moved⟩

omit [LinearOrder S] in
theorem saved_start (agent : Knowledge.State V kb.md5) :
    Saved seeds agent.table.rows (start agent : Sys V kb.md5) where
  rows k j c id taken := by cases taken
  old r before seed listed keyed := ⟨r, before, .refl r⟩

/-! ## Runs -/

theorem orderly_run {agent : Knowledge.State V kb.md5} {labels : List Label}
    (run : (machine kb seeds).run (start agent) labels = some s) : Orderly seeds s :=
  Machine.run_induction (I := fun u : Sys V kb.md5 => Orderly seeds u)
    (fun _ _ _ orderly h => orderly.step h) (orderly_start agent) run

theorem saved_run {agent : Knowledge.State V kb.md5} {labels : List Label}
    (run : (machine kb seeds).run (start agent) labels = some s)
    (spared : (machine kb seeds).Along (Spared kb seeds) (start agent) labels) :
    Saved seeds agent.table.rows s :=
  (Machine.run_induction_along
    (I := fun u : Sys V kb.md5 => Orderly seeds u ∧ Saved seeds agent.table.rows u)
    (fun _ _ _ inv spared h => ⟨inv.1.step h, inv.2.step inv.1 spared h⟩)
    ⟨orderly_start agent, saved_start agent⟩ spared run).2

/-- The script has exited with 0. Then the agent has saved each of the samples, in a save of its
own that has returned an id. If meanwhile no row of a sample was deleted or overwritten with
other columns, the row of the id has the columns of the sample, and it is the row that the text
had before the script, if it had one. -/
theorem seeded (kb : Env V S) (seeds : List Seed) (agent : Knowledge.State V kb.md5)
    (labels : List Label) (s : Sys V kb.md5)
    (run : (machine kb seeds).run (start agent) labels = some s)
    (exit : s.exitCode seeds = some 0) {k : Nat} {seed : Seed} (listed : seeds[k]? = some seed) :
    ∃ j c id, s.taken k = some j ∧ (∀ k', s.taken k' = some j → k' = k) ∧
      s.agent.calls j = some c ∧ c.args = seed.saveArgs ∧ c.pc = .done (some id) ∧
      ((machine kb seeds).Along (Spared kb seeds) (start agent) labels →
        ∃ r ∈ s.agent.table.rows, r.id = id ∧ WrittenBy kb.md5 r seed.saveArgs ∧
          ∀ r' ∈ agent.table.rows, kb.md5 r'.mysqlSQL = kb.md5 seed.mysql → Continues r' r) := by
  have orderly := orderly_run run
  rw [Sys.exitCode] at exit
  split at exit
  · next ended =>
    have none_failed : s.fail = 0 := by
      by_contra failed
      rw [if_neg failed] at exit
      cases exit
    have all : s.ok = seeds.length := by
      have ended := ended.2
      rw [Sys.i] at ended
      omega
    have inside := (List.getElem?_eq_some_iff.mp listed).1
    obtain ⟨id, returned⟩ := orderly.counted none_failed k (by omega)
    obtain ⟨j, c, taken, live, done⟩ := returned_iff.mp returned
    obtain ⟨-, seed', c', listed', live', args, -⟩ := orderly.saves k j taken
    obtain rfl : c' = c := Option.some.inj (live'.symm.trans live)
    obtain rfl : seed' = seed := Option.some.inj (listed'.symm.trans listed)
    refine ⟨j, c', id, taken, fun k' => orderly.own k k' j taken, live, args, done,
      fun spared => ?_⟩
    have saved := saved_run run spared
    obtain ⟨r, there, same, written⟩ := saved.rows k j c' id taken live done
    rw [args] at written
    refine ⟨r, there, same, written, fun r' before keyed => ?_⟩
    obtain ⟨r'', there', goes_on⟩ :=
      saved.old r' before seed' (List.mem_of_getElem? listed) keyed
    have digest : kb.md5 r''.mysqlSQL = kb.md5 r.mysqlSQL := by
      rw [goes_on.mysqlSQL, keyed]
      exact written.digest.symm
    rwa [List.inj_on_of_nodup_map s.agent.table.textsUnique there there' digest.symm]
  · cases exit

def twoSeeds : List Seed :=
  [⟨ordersText, "SELECT COUNT(*) FROM orders", ["schema_prefix.md"]⟩,
    ⟨"SELECT uid FROM dw.orders LIMIT 2, 3", "SELECT uid FROM orders LIMIT 3 OFFSET 2",
      ["limit_offset.md", "schema_prefix.md"]⟩]

/-- The seeds are posted to a base that has a row of the first one; a recall comes in between. -/
def seedingAgain : List Label :=
  [.post, .take 0 10, .agent (.retrieve [2] 5), .agent (.insert 10 6), .answer,
    .post, .take 0 11, .agent (.insert 11 7), .answer]

theorem seeded_seedingAgain :
    ∃ s, (machine sameTextOnly twoSeeds).run (start ⟨twoTexts, fun _ => none, []⟩) seedingAgain =
        some s ∧ s.exitCode twoSeeds = some 0 ∧
      ∃ r ∈ s.agent.table.rows, r.redshiftSQL = "SELECT COUNT(*) FROM orders" ∧
        ∀ r' ∈ twoTexts.rows, sameTextOnly.md5 r'.mysqlSQL = sameTextOnly.md5 ordersText →
          Continues r' r := by
  have run := (rfl : (machine sameTextOnly twoSeeds).run
    (start ⟨twoTexts, fun _ => none, []⟩) seedingAgain = some _)
  have spared : (machine sameTextOnly twoSeeds).Along (Spared sameTextOnly twoSeeds)
      (start ⟨twoTexts, fun _ => none, []⟩) seedingAgain := by
    refine Machine.along_step rfl trivial ?_
    refine Machine.along_step rfl trivial ?_
    refine Machine.along_step rfl trivial ?_
    refine Machine.along_step rfl (fun c live => ?_) ?_
    · cases live
      decide +kernel
    refine Machine.along_step rfl trivial ?_
    refine Machine.along_step rfl trivial ?_
    refine Machine.along_step rfl trivial ?_
    refine Machine.along_step rfl (fun c live => ?_) ?_
    · cases live
      decide +kernel
    exact Machine.along_step rfl trivial (Machine.along_nil _ _)
  obtain ⟨_, _, _, _, _, _, _, _, row⟩ := seeded sameTextOnly twoSeeds _ seedingAgain _ run rfl
    (k := 0) rfl
  obtain ⟨r, there, -, written, goes_on⟩ := row spared
  exact ⟨_, run, rfl, r, there, written.redshiftSQL, goes_on⟩

end MysqlRedshift.Scripts.SeedKnowledge
