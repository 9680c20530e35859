import MysqlRedshift.Agent.Recall

/-!
# Near-duplicates

Saves and deletes one after the other, each of them to its end. A save that does not bypass
the filters inserts only what is far from the row nearest to it, and so from every row, and
no row of its own text is left for the conflict clause. What overwrites a row later has the
row's text, and so its embedding. Therefore rows that such saves have inserted stay apart.
-/

namespace MysqlRedshift.Agent.Knowledge

open MysqlRedshift.Misc

variable {V S : Type} [LinearOrder S] (kb : Env V S)

/-- The `INSERT` at the end of a save, and what the save returns. -/
def insertExample (args : SaveArgs) (now : Nat) (t : Table V kb.md5) :
    Option Nat × Table V kb.md5 :=
  if args.fits then (some (t.upsertId args), t.upsert args (kb.embed args.mysqlSQL) now)
  else (none, t)

/-- The order that the index finds for a vector. -/
abbrev Nearest := (vec : V) → Ranking fun r : Row V => kb.similarity vec r.embedding

/-- `save_example`, when nothing comes in between. -/
def saveExample (nearest : Nearest kb) (args : SaveArgs) (now : Nat) (t : Table V kb.md5) :
    Option Nat × Table V kb.md5 :=
  if !kb.enabled then (none, t)
  else if bypassFilter args.source then insertExample kb args now t
  else if (isLowValue kb.db args.mysqlSQL args.redshiftSQL args.rowCount).isSome then (none, t)
  else
    match ((nearest (kb.embed args.mysqlSQL)).rank t.rows).head? with
    | none => insertExample kb args now t
    | some r =>
      if kb.dedupThreshold ≤ kb.similarity (kb.embed args.mysqlSQL) r.embedding then
        (some r.id, t.bump [r.id] now)
      else insertExample kb args now t

/-- `delete_entry`. -/
def deleteEntry (entryId : Nat) (t : Table V kb.md5) : Bool × Table V kb.md5 :=
  if !kb.enabled then (false, t) else ((t.row? entryId).isSome, t.delete entryId)

/-- A call of one of the two, with what the index and the clock answer it. -/
inductive Op where
  | save (nearest : Nearest kb) (args : SaveArgs) (now : Nat)
  | delete (entryId : Nat)

/-- The table, and the ids of the rows that saves without the bypass have inserted. -/
structure Ledger where
  table : Table V kb.md5
  created : List Nat

namespace Ledger

variable {kb}

/-- The ids after a save: its return value is the id of a row that was not there before. -/
def record (s : Ledger kb) (args : SaveArgs) : Option Nat → List Nat
  | none => s.created
  | some id =>
    if bypassFilter args.source = false ∧ (s.table.row? id).isNone then id :: s.created
    else s.created

def apply (s : Ledger kb) : Op kb → Ledger kb
  | .save nearest args now =>
    ⟨(saveExample kb nearest args now s.table).2,
      s.record args (saveExample kb nearest args now s.table).1⟩
  | .delete entryId => { s with table := (deleteEntry kb entryId s.table).2 }

/-- The empty table. -/
def start : Ledger kb := ⟨.empty, []⟩

end Ledger

/-- One call after the other. -/
def serial : Machine (Ledger kb) (Op kb) := ⟨fun s op => some (s.apply op)⟩

/-- What is assumed of `md5`: it tells the text of a save from the texts in the table. -/
def TextsTold (s : Ledger kb) : Op kb → Prop
  | .save _ args _ => ∀ r ∈ s.table.rows, kb.md5 r.mysqlSQL = kb.md5 args.mysqlSQL →
      r.mysqlSQL = args.mysqlSQL
  | .delete _ => True

/-! ## What a save does -/

/-- A save inserts one row. -/
def InsertsOne (args : SaveArgs) (now : Nat) (t t' : Table V kb.md5) : Prop :=
  t'.rows = t.rows ++ [Table.insertRow t.nextId args (kb.embed args.mysqlSQL) now] ∧
    t'.nextId = t.nextId + 1

/-- A save counts a hit for a row that is most similar to its text. -/
def HitsNearest (args : SaveArgs) (now : Nat) (t t' : Table V kb.md5) : Prop :=
  ∃ r ∈ t.rows, (∀ r' ∈ t.rows, kb.similarity (kb.embed args.mysqlSQL) r'.embedding ≤
      kb.similarity (kb.embed args.mysqlSQL) r.embedding) ∧
    kb.dedupThreshold ≤ kb.similarity (kb.embed args.mysqlSQL) r.embedding ∧
    HitsOnly [r] now t t'

/-- The text is far from every row. -/
def FarFromAll (args : SaveArgs) (t : Table V kb.md5) : Prop :=
  ∀ r ∈ t.rows, kb.similarity (kb.embed args.mysqlSQL) r.embedding < kb.dedupThreshold

/-- The ways through `save_example`. -/
inductive Saved (args : SaveArgs) (now : Nat) (t : Table V kb.md5) :
    Option Nat × Table V kb.md5 → Prop where
  -- with the settings in place and columns that fit, the value filter alone skips a save
  | skipped (passed_over : kb.enabled = true → args.fits = true →
      bypassFilter args.source = false ∧
        isLowValue kb.db args.mysqlSQL args.redshiftSQL args.rowCount ≠ none) :
      Saved args now t (none, t)
  | curated (bypass : bypassFilter args.source = true) (fits : args.fits = true) :
      Saved args now t (some (t.upsertId args), t.upsert args (kb.embed args.mysqlSQL) now)
  | hit {r : Row V} (unfiltered : bypassFilter args.source = false) (member : r ∈ t.rows)
      (nearest : ∀ r' ∈ t.rows, kb.similarity (kb.embed args.mysqlSQL) r'.embedding ≤
        kb.similarity (kb.embed args.mysqlSQL) r.embedding)
      (close : kb.dedupThreshold ≤ kb.similarity (kb.embed args.mysqlSQL) r.embedding) :
      Saved args now t (some r.id, t.bump [r.id] now)
  | added (unfiltered : bypassFilter args.source = false) (fits : args.fits = true)
      (far : FarFromAll kb args t) :
      Saved args now t (some (t.upsertId args), t.upsert args (kb.embed args.mysqlSQL) now)

variable {kb}

/-- An `INSERT` raises where a column is too long. -/
theorem insertExample_saved {args : SaveArgs} {now : Nat} {t : Table V kb.md5}
    (h : args.fits = true → Saved kb args now t
      (some (t.upsertId args), t.upsert args (kb.embed args.mysqlSQL) now)) :
    Saved kb args now t (insertExample kb args now t) := by
  rw [insertExample]
  split
  · rename_i fits
    exact h fits
  · rename_i unfit
    exact .skipped fun _ fits => absurd fits unfit

theorem saveExample_saved (nearest : Nearest kb) (args : SaveArgs) (now : Nat)
    (t : Table V kb.md5) : Saved kb args now t (saveExample kb nearest args now t) := by
  rw [saveExample]
  cases enabled : kb.enabled with
  | false => exact .skipped fun on => by rw [enabled] at on; cases on
  | true =>
    simp only [Bool.not_true, Bool.false_eq_true, if_false]
    cases bypass : bypassFilter args.source with
    | true => exact insertExample_saved (.curated bypass)
    | false =>
      simp only [Bool.false_eq_true, if_false]
      split
      · rename_i low
        exact .skipped fun _ _ => ⟨bypass, Option.isSome_iff_ne_none.mp low⟩
      · cases first : ((nearest (kb.embed args.mysqlSQL)).rank t.rows).head? with
        | none =>
          refine insertExample_saved fun fits => .added bypass fits fun r member => ?_
          rw [List.head?_eq_none_iff] at first
          rw [← (nearest (kb.embed args.mysqlSQL)).mem_rank, first] at member
          cases member
        | some r =>
          have there : r ∈ t.rows :=
            (nearest (kb.embed args.mysqlSQL)).mem_rank.mp (List.mem_of_head? first)
          have closest := fun r' => (nearest (kb.embed args.mysqlSQL)).le_head (b := r') first
          dsimp only
          split
          · rename_i close
            exact .hit bypass there closest close
          · rename_i far
            refine insertExample_saved fun fits => .added bypass fits fun r' member => ?_
            exact (closest r' member).trans_lt (lt_of_not_ge far)

namespace Table

variable {md5 : String → String}

omit [LinearOrder S] in
theorem row?_of_mem {t : Table V md5} {r : Row V} (h : r ∈ t.rows) : t.row? r.id = some r := by
  rw [row?]
  cases found : t.rows.find? fun r' => r'.id = r.id with
  | none => simpa using List.find?_eq_none.mp found r h
  | some r' =>
    have same : r'.id = r.id := by simpa using List.find?_some found
    rw [eq_of_id_eq (List.mem_of_find?_eq_some found) h same]

theorem row?_nextId (t : Table V md5) : t.row? t.nextId = none := by
  refine List.find?_eq_none.mpr fun r member => ?_
  simpa using Nat.ne_of_lt (t.idsBelow r member)

/-- Without a row of the key, an upsert appends the new row. -/
theorem upsert_of_absent {t : Table V md5} {args : SaveArgs}
    (absent : ∀ r ∈ t.rows, md5 r.mysqlSQL ≠ md5 args.mysqlSQL) (vec : V) (now : Nat) :
    (t.upsert args vec now).rows = t.rows ++ [insertRow t.nextId args vec now] ∧
      t.upsertId args = t.nextId := by
  refine ⟨upsertWith_of_absent absent, ?_⟩
  have none : t.rows.find? (fun r => md5 r.mysqlSQL = md5 args.mysqlSQL) = none :=
    List.find?_eq_none.mpr fun r member => by simpa using absent r member
  rw [upsertId, none]

end Table

/-! ## The invariant -/

/-- Embeddings are those of the texts, and rows that saves without the bypass have inserted
are far from each other. -/
structure Apart (kb : Env V S) (s : Ledger kb) : Prop where
  embedded : ∀ r ∈ s.table.rows, r.embedding = kb.embed r.mysqlSQL
  createdBelow : ∀ id ∈ s.created, id < s.table.nextId
  apart : ∀ r ∈ s.table.rows, ∀ r' ∈ s.table.rows, r.id ∈ s.created → r'.id ∈ s.created →
    r ≠ r' → kb.similarity r.embedding r'.embedding < kb.dedupThreshold

theorem apart_start : Apart kb Ledger.start where
  embedded r member := by cases member
  createdBelow id member := by cases member
  apart r member := by cases member

/-- A table whose rows of a kind come from rows with their ids and embeddings keeps them
apart. -/
theorem Apart.of_origin {s : Ledger kb} (h : Apart kb s) {t : Table V kb.md5}
    (below : s.table.nextId ≤ t.nextId)
    (embedded : ∀ r ∈ t.rows, r.embedding = kb.embed r.mysqlSQL)
    (origin : ∀ r ∈ t.rows, r.id ∈ s.created →
      ∃ old ∈ s.table.rows, old.id = r.id ∧ old.embedding = r.embedding) :
    Apart kb { s with table := t } where
  embedded := embedded
  createdBelow id member := (h.createdBelow id member).trans_le below
  apart r member r' member' created created' differ := by
    obtain ⟨old, before, same_id, same⟩ := origin r member created
    obtain ⟨old', before', same_id', same'⟩ := origin r' member' created'
    rw [← same, ← same']
    refine h.apart old before old' before' (same_id ▸ created) (same_id' ▸ created') ?_
    rintro rfl
    exact differ (t.eq_of_id_eq member member' (same_id.symm.trans same_id'))

/-- A hit changes the counters only. -/
theorem Apart.bumped {s : Ledger kb} (h : Apart kb s) (ids : List Nat) (now : Nat) :
    Apart kb { s with table := s.table.bump ids now } := by
  refine h.of_origin (Nat.le_refl _) ?_ ?_
  · intro r member
    obtain ⟨old, before, _, _, rfl⟩ := Table.mem_bump member
    exact h.embedded old before
  · intro r member _
    obtain ⟨old, before, _, _, rfl⟩ := Table.mem_bump member
    exact ⟨old, before, rfl, rfl⟩

/-- A save with the bypass overwrites a row of its text, which has its embedding, or inserts
a row that is not one of those that are kept apart. -/
theorem Apart.overwritten {s : Ledger kb} (h : Apart kb s) {args : SaveArgs} {now : Nat}
    (told : ∀ r ∈ s.table.rows, kb.md5 r.mysqlSQL = kb.md5 args.mysqlSQL →
      r.mysqlSQL = args.mysqlSQL) :
    Apart kb { s with table := s.table.upsert args (kb.embed args.mysqlSQL) now } := by
  refine h.of_origin (Nat.le_succ _) ?_ ?_
  · intro r member
    rcases Table.mem_upsert_iff.mp member with ⟨before, -⟩ | ⟨old, before, keyed, rfl⟩ | ⟨-, rfl⟩
    · exact h.embedded r before
    · exact congrArg kb.embed (told old before keyed).symm
    · rfl
  · intro r member created
    rcases Table.mem_upsert_iff.mp member with ⟨before, -⟩ | ⟨old, before, keyed, rfl⟩ | ⟨-, rfl⟩
    · exact ⟨r, before, rfl, rfl⟩
    · refine ⟨old, before, rfl, ?_⟩
      rw [h.embedded old before, told old before keyed]
      rfl
    · exact absurd (h.createdBelow _ created) (Nat.lt_irrefl _)

/-- A text that is far from every row is in none of them. -/
theorem Apart.absent {s : Ledger kb} (h : Apart kb s) {args : SaveArgs}
    (self : kb.dedupThreshold ≤
      kb.similarity (kb.embed args.mysqlSQL) (kb.embed args.mysqlSQL))
    (told : ∀ r ∈ s.table.rows, kb.md5 r.mysqlSQL = kb.md5 args.mysqlSQL →
      r.mysqlSQL = args.mysqlSQL)
    (far : FarFromAll kb args s.table) :
    ∀ r ∈ s.table.rows, kb.md5 r.mysqlSQL ≠ kb.md5 args.mysqlSQL := by
  intro r member keyed
  have below := far r member
  rw [h.embedded r member, told r member keyed] at below
  exact absurd self (not_le_of_gt below)

/-- A row that is far from all others is inserted. -/
theorem Apart.added {s : Ledger kb} (h : Apart kb s)
    (symm : ∀ v w, kb.similarity v w = kb.similarity w v) {args : SaveArgs} {now : Nat}
    (absent : ∀ r ∈ s.table.rows, kb.md5 r.mysqlSQL ≠ kb.md5 args.mysqlSQL)
    (far : FarFromAll kb args s.table) :
    Apart kb ⟨s.table.upsert args (kb.embed args.mysqlSQL) now,
      s.table.nextId :: s.created⟩ := by
  have rows : ∀ r ∈ (s.table.upsert args (kb.embed args.mysqlSQL) now).rows,
      r ∈ s.table.rows ∨ r = Table.insertRow s.table.nextId args (kb.embed args.mysqlSQL) now := by
    intro r member
    rcases Table.mem_upsert_iff.mp member with ⟨before, -⟩ | ⟨old, before, keyed, -⟩ | ⟨-, new⟩
    · exact Or.inl before
    · exact absurd keyed (absent old before)
    · exact Or.inr new
  have created : ∀ r ∈ s.table.rows, r.id ∈ s.table.nextId :: s.created → r.id ∈ s.created := by
    intro r member created
    rcases List.mem_cons.mp created with same | before
    · exact absurd same (Nat.ne_of_lt (s.table.idsBelow r member))
    · exact before
  refine ⟨?_, ?_, ?_⟩
  · intro r member
    rcases rows r member with before | rfl
    · exact h.embedded r before
    · rfl
  · intro id member
    rcases List.mem_cons.mp member with rfl | before
    · exact Nat.lt_succ_self _
    · exact Nat.lt_succ_of_lt (h.createdBelow id before)
  · intro r member r' member' is_created is_created' differ
    rcases rows r member with before | rfl <;> rcases rows r' member' with before' | rfl
    · exact h.apart r before r' before' (created r before is_created)
        (created r' before' is_created') differ
    · rw [symm]
      exact far r before
    · exact far r' before'
    · exact absurd rfl differ

/-! ## Runs -/

omit [LinearOrder S] in
theorem Ledger.record_of_bypass (s : Ledger kb) {args : SaveArgs}
    (bypass : bypassFilter args.source = true) (result : Option Nat) :
    s.record args result = s.created := by
  cases result with
  | none => rfl
  | some id => simp [record, bypass]

omit [LinearOrder S] in
theorem Ledger.record_of_mem (s : Ledger kb) (args : SaveArgs) {r : Row V}
    (member : r ∈ s.table.rows) : s.record args (some r.id) = s.created := by
  simp [record, Table.row?_of_mem member]

omit [LinearOrder S] in
theorem Ledger.record_nextId (s : Ledger kb) {args : SaveArgs}
    (unfiltered : bypassFilter args.source = false) :
    s.record args (some s.table.nextId) = s.table.nextId :: s.created := by
  simp [record, unfiltered, Table.row?_nextId]

theorem Apart.step {s : Ledger kb} (h : Apart kb s)
    (symm : ∀ v w, kb.similarity v w = kb.similarity w v)
    (self : ∀ text, kb.dedupThreshold ≤ kb.similarity (kb.embed text) (kb.embed text))
    {op : Op kb} (told : TextsTold kb s op) : Apart kb (s.apply op) := by
  cases op with
  | delete entryId =>
    rw [Ledger.apply, deleteEntry]
    split
    · exact h
    · refine h.of_origin (Nat.le_refl _) (fun r member => h.embedded r (Table.mem_delete member)) ?_
      exact fun r member _ => ⟨r, Table.mem_delete member, rfl, rfl⟩
  | save nearest args now =>
    have saved := saveExample_saved nearest args now s.table
    rw [Ledger.apply]
    generalize saveExample kb nearest args now s.table = result at saved ⊢
    cases saved with
    | skipped => exact h
    | curated bypass fits =>
      rw [s.record_of_bypass bypass]
      exact h.overwritten told
    | hit unfiltered member nearest close =>
      rw [s.record_of_mem args member]
      exact h.bumped ..
    | added unfiltered fits far =>
      have absent := h.absent (self _) told far
      rw [(Table.upsert_of_absent absent (kb.embed args.mysqlSQL) now).2,
        s.record_nextId unfiltered]
      exact h.added symm absent far

/-! ## Calls as runs of the concurrent system -/

/-- After call `i` has come to its end: the table and the return value are those of `result`,
and the other calls stand where they stood. -/
structure Ended (s : State V kb.md5) (i : Nat) (args : SaveArgs)
    (result : Option Nat × Table V kb.md5) (u : State V kb.md5) : Prop where
  table : u.table = result.2
  call : u.calls i = some ⟨args, .done result.1⟩
  others : ∀ j, j ≠ i → u.calls j = s.calls j

omit [LinearOrder S] in
theorem ended_moveTo (s : State V kb.md5) (i : Nat) (c : Call)
    (result : Option Nat × Table V kb.md5) (events : List Event) :
    Ended s i c.args result
      { s.moveTo kb i c (.done result.1) with table := result.2, events := events } where
  table := rfl
  call := Function.update_self ..
  others _ other := Function.update_of_ne other ..

theorem insertExample_reaches {s : State V kb.md5} {i : Nat} {args : SaveArgs}
    (live : s.calls i = some ⟨args, .insert⟩) (now : Nat) :
    (machine kb).Reaches s (Ended s i args (insertExample kb args now s.table)) := by
  rw [insertExample]
  split
  · rename_i fits
    refine .step (.insert i now) ?_ (.here (ended_moveTo s i ⟨args, .insert⟩
      (some (s.table.upsertId args), s.table.upsert args (kb.embed args.mysqlSQL) now)
      (.wrote args :: s.events)))
    simp only [machine, step, live, fits, if_true]
  · refine .step (.fail i) ?_ (.here (ended_moveTo s i ⟨args, .insert⟩ (none, s.table) s.events))
    simp only [machine, step, live]
    rfl

omit [LinearOrder S] in
/-- Steps of call `i` alone come before its end. -/
theorem Ended.of_moved {s t u : State V kb.md5} {i : Nat} {args : SaveArgs}
    {result : Option Nat × Table V kb.md5} (h : Ended t i args result u)
    (others : ∀ j, j ≠ i → t.calls j = s.calls j) : Ended s i args result u :=
  ⟨h.table, h.call, fun j other => (h.others j other).trans (others j other)⟩

/-- A step of call `i` up to its `INSERT`, and the rest of the call. -/
theorem insertExample_reaches_of_step {s t : State V kb.md5} {i : Nat} {args : SaveArgs} (now : Nat)
    {a : Action} (stepped : (machine kb).step s a = some t) (table : t.table = s.table)
    (live : t.calls i = some ⟨args, .insert⟩) (others : ∀ j, j ≠ i → t.calls j = s.calls j) :
    (machine kb).Reaches s (Ended s i args (insertExample kb args now s.table)) := by
  refine .step a stepped ((insertExample_reaches live now).trans fun u ended => .here ?_)
  rw [table] at ended
  exact ended.of_moved others

/-- The rest of a save from its search on. -/
theorem search_reaches {s : State V kb.md5} {i : Nat} {args : SaveArgs}
    (live : s.calls i = some ⟨args, .nearest⟩) (nearest : Nearest kb) (now : Nat) :
    (machine kb).Reaches s (Ended s i args
      (match ((nearest (kb.embed args.mysqlSQL)).rank s.table.rows).head? with
      | none => insertExample kb args now s.table
      | some r =>
        if kb.dedupThreshold ≤ kb.similarity (kb.embed args.mysqlSQL) r.embedding then
          (some r.id, s.table.bump [r.id] now)
        else insertExample kb args now s.table)) := by
  have searched : ∀ found pc,
      afterNearest kb s.table (kb.embed args.mysqlSQL) found = some pc →
      (machine kb).step s (.nearest i found) =
        some { s.moveTo kb i ⟨args, .nearest⟩ pc with events := .looked i :: s.events } := by
    intro found pc after
    simp only [machine, step, live, after, Option.map_some]
  cases first : ((nearest (kb.embed args.mysqlSQL)).rank s.table.rows).head? with
  | none =>
    exact insertExample_reaches_of_step now (searched none .insert rfl) rfl
      (Function.update_self ..) fun _ other => Function.update_of_ne other ..
  | some r =>
    have there := (nearest (kb.embed args.mysqlSQL)).mem_rank.mp (List.mem_of_head? first)
    have after : ∀ pc, (if kb.dedupThreshold ≤ kb.similarity (kb.embed args.mysqlSQL) r.embedding
        then .bump r.id else .insert) = pc →
        afterNearest kb s.table (kb.embed args.mysqlSQL) (some r.id) = some pc := by
      rintro pc rfl
      rw [afterNearest, Table.row?_of_mem there]
      rfl
    dsimp only
    split
    · rename_i close
      refine .step _ (searched (some r.id) (.bump r.id) (after _ (if_pos close))) ?_
      refine .step (.bump i now) ?_ (.here (Ended.of_moved (ended_moveTo
        { s.moveTo kb i ⟨args, .nearest⟩ (.bump r.id) with events := .looked i :: s.events } i
        ⟨args, .bump r.id⟩ (some r.id, s.table.bump [r.id] now) (.looked i :: s.events))
        fun _ other => Function.update_of_ne other ..))
      simp only [machine, step, State.moveTo, Function.update_self]
    · rename_i far
      exact insertExample_reaches_of_step now
        (searched (some r.id) .insert (after _ (if_neg far))) rfl
        (Function.update_self ..) fun _ other => Function.update_of_ne other ..

/-- A save that nothing interrupts is a run of the concurrent system. -/
theorem saveExample_reaches {s : State V kb.md5} {i : Nat} (free : s.calls i = none)
    (nearest : Nearest kb) (args : SaveArgs) (now : Nat) :
    (machine kb).Reaches s (Ended s i args (saveExample kb nearest args now s.table)) := by
  have called : (machine kb).step s (.call i args) =
      some { s with calls := Function.update s.calls i (some ⟨args, begin kb args⟩) } := by
    simp only [machine, step, free]
  have ends : begin kb args = .done none →
      (machine kb).Reaches s (Ended s i args (none, s.table)) := by
    intro at_end
    refine .step _ called (.here ⟨rfl, ?_, fun _ other => Function.update_of_ne other ..⟩)
    rw [at_end]
    exact Function.update_self ..
  rw [saveExample]
  split
  · rename_i disabled
    exact ends (by rw [begin, if_pos disabled])
  rename_i enabled
  split
  · rename_i bypass
    refine insertExample_reaches_of_step now called rfl ?_
      fun _ other => Function.update_of_ne other ..
    rw [begin, if_neg enabled, if_pos bypass]
    exact Function.update_self ..
  rename_i unfiltered
  split
  · rename_i low
    exact ends (by rw [begin, if_neg enabled, if_neg unfiltered, if_pos low])
  rename_i passes
  have at_search : begin kb args = .nearest := by
    rw [begin, if_neg enabled, if_neg unfiltered, if_neg passes]
  rw [at_search] at called
  refine .step _ called ((search_reaches (Function.update_self ..) nearest now).trans ?_)
  intro u ended
  exact .here (ended.of_moved fun _ other => Function.update_of_ne other ..)

/-- Calls one after the other are a run of the concurrent system. -/
theorem serial_reaches (ops : List (Op kb)) {l m : Ledger kb}
    (ran : (serial kb).run l ops = some m) {s : State V kb.md5} (table : s.table = l.table)
    {n : Nat} (free : ∀ j, n ≤ j → s.calls j = none) :
    (machine kb).Reaches s fun u => u.table = m.table := by
  induction ops generalizing l s n with
  | nil =>
    cases ran
    exact .here table
  | cons op ops ih =>
    have rest : (serial kb).run (l.apply op) ops = some m := ran
    cases op with
    | save nearest args now =>
      refine (saveExample_reaches (free n (Nat.le_refl n)) nearest args now).trans ?_
      intro u ended
      refine ih rest (s := u) (n := n + 1) ?_ ?_
      · rw [ended.table, table]
        rfl
      · intro j later
        rw [ended.others j (by omega)]
        exact free j (by omega)
    | delete entryId =>
      rw [Ledger.apply, deleteEntry] at rest
      split at rest
      · exact ih rest table free
      · exact .step (.delete entryId) rfl (ih rest (by rw [table]) free)

/-- A save without the bypass inserts a row far from all others, or counts a hit, or was
passed over. -/
theorem Apart.save_cases {s : Ledger kb} (h : Apart kb s)
    (self : ∀ text, kb.dedupThreshold ≤ kb.similarity (kb.embed text) (kb.embed text))
    (nearest : Nearest kb) {args : SaveArgs} (now : Nat)
    (unfiltered : bypassFilter args.source = false)
    (told : TextsTold kb s (.save nearest args now)) :
    ((s.apply (.save nearest args now)).created = s.table.nextId :: s.created ∧
      FarFromAll kb args s.table ∧
      InsertsOne kb args now s.table (s.apply (.save nearest args now)).table) ∨
    ((s.apply (.save nearest args now)).created = s.created ∧
      (HitsNearest kb args now s.table (s.apply (.save nearest args now)).table ∨
        (kb.enabled = true → args.fits = true →
          isLowValue kb.db args.mysqlSQL args.redshiftSQL args.rowCount ≠ none))) := by
  have saved := saveExample_saved nearest args now s.table
  rw [Ledger.apply]
  generalize saveExample kb nearest args now s.table = result at saved ⊢
  cases saved with
  | skipped passed_over =>
    exact Or.inr ⟨rfl, Or.inr fun enabled fits => (passed_over enabled fits).2⟩
  | curated bypass fits =>
    rw [unfiltered] at bypass
    cases bypass
  | @hit r _ member closest close =>
    refine Or.inr ⟨s.record_of_mem args member, Or.inl ⟨r, member, closest, close, ?_⟩⟩
    refine hitsOnly_bump (fun r' only => ?_) now
    rwa [List.mem_singleton.mp only]
  | added _ fits far =>
    obtain ⟨rows, id⟩ := Table.upsert_of_absent (h.absent (self _) told far)
      (kb.embed args.mysqlSQL) now
    refine Or.inl ⟨?_, far, rows, rfl⟩
    rw [id]
    exact s.record_nextId unfiltered

/-- In every run, rows that saves without the bypass have inserted are far from each other;
such a save inserts a row only if it is far from all that are there, and if it passes the
filter it inserts one row or counts a hit of the most similar one. -/
theorem saves_keep_apart (kb : Env V S) (enabled : kb.enabled = true)
    (symm : ∀ v w, kb.similarity v w = kb.similarity w v)
    (self : ∀ text, kb.dedupThreshold ≤ kb.similarity (kb.embed text) (kb.embed text))
    (ops : List (Op kb)) (told : (serial kb).Along (TextsTold kb) Ledger.start ops)
    (s : Ledger kb) (reached : (serial kb).run Ledger.start ops = some s) :
    (∀ r ∈ s.table.rows, ∀ r' ∈ s.table.rows, r.id ∈ s.created → r'.id ∈ s.created → r ≠ r' →
      kb.similarity r.embedding r'.embedding < kb.dedupThreshold) ∧
    ∀ nearest args now, bypassFilter args.source = false →
      TextsTold kb s (.save nearest args now) →
      (∀ id ∈ (s.apply (.save nearest args now)).created, id ∉ s.created →
        ∃ r ∈ (s.apply (.save nearest args now)).table.rows, r.id = id ∧
          ∀ old ∈ s.table.rows,
            kb.similarity r.embedding old.embedding < kb.dedupThreshold) ∧
      (isLowValue kb.db args.mysqlSQL args.redshiftSQL args.rowCount = none → args.fits = true →
        InsertsOne kb args now s.table (s.apply (.save nearest args now)).table ∨
          HitsNearest kb args now s.table (s.apply (.save nearest args now)).table) := by
  have inv : Apart kb s := by
    refine Machine.run_induction_along ?_ apart_start told reached
    rintro s op _ h told ⟨⟩
    exact h.step symm self told
  refine ⟨inv.apart, ?_⟩
  intro nearest args now unfiltered told
  rcases inv.save_cases self nearest now unfiltered told with
    ⟨created, far, rows, next⟩ | ⟨created, outcome⟩
  · refine ⟨fun id new old => ?_, fun _ _ => Or.inl ⟨rows, next⟩⟩
    rw [created] at new
    rcases List.mem_cons.mp new with rfl | before
    · refine ⟨_, rows ▸ List.mem_append_right _ (List.mem_singleton_self _), rfl, ?_⟩
      exact far
    · exact absurd before old
  · refine ⟨fun id new old => absurd (created ▸ new) old, fun passes fits => ?_⟩
    rcases outcome with hit | low
    · exact Or.inr hit
    · exact absurd passes (low enabled fits)

/-- Rows of one similarity come in the order of their ids. -/
def byId : Nearest sameTextOnly := fun _ => .ofTies _ Row.id

def sumOrders : SaveArgs :=
  { mysqlSQL := "SELECT SUM(amount) FROM dw.orders",
    redshiftSQL := "SELECT SUM(amount) FROM orders" }

/-- A seed, a save of its text, and a save of another text. -/
def seedThenSaves : List (Op sameTextOnly) :=
  [.save byId (countOrders "seed" "SELECT COUNT(*) FROM orders WHERE true") 1,
    .save byId (countOrders "runtime" "SELECT COUNT(*) AS c FROM orders") 2,
    .save byId sumOrders 3]

theorem seedThenSaves_told :
    (serial sameTextOnly).Along (TextsTold sameTextOnly) Ledger.start seedThenSaves := by
  refine Machine.along_step rfl ?_ ?_
  · intro r member
    cases member
  refine Machine.along_step rfl ?_ (Machine.along_step rfl ?_ (Machine.along_nil _ _))
  · unfold TextsTold
    decide +kernel
  · unfold TextsTold
    decide +kernel

theorem saves_keep_apart_seedThenSaves :
    ∃ s, (serial sameTextOnly).run Ledger.start seedThenSaves = some s ∧ s.created = [2] ∧
      (∀ r ∈ s.table.rows, ∀ r' ∈ s.table.rows, r.id ∈ s.created → r'.id ∈ s.created → r ≠ r' →
        sameTextOnly.similarity r.embedding r'.embedding < sameTextOnly.dedupThreshold) ∧
      (InsertsOne sameTextOnly sumOrders 4 s.table (s.apply (.save byId sumOrders 4)).table ∨
        HitsNearest sameTextOnly sumOrders 4 s.table (s.apply (.save byId sumOrders 4)).table) := by
  refine ⟨_, rfl, by decide +kernel, ?_⟩
  obtain ⟨apart, next⟩ := saves_keep_apart sameTextOnly rfl
    (fun v w => by simp only [sameTextOnly, eq_comm]) sameTextOnly_self seedThenSaves
    seedThenSaves_told _ rfl
  refine ⟨apart, (next byId sumOrders 4 (by decide) ?_).2 (by decide +kernel) (by decide)⟩
  unfold TextsTold
  decide +kernel

end MysqlRedshift.Agent.Knowledge
