import Mathlib.Order.Nat
import MysqlRedshift.Agent.Knowledge

/-!
# Concurrent saves

When a runtime save can overwrite a curated row, one that a seed or an import save
wrote last. Its search finds every curated row of its text that is there, and then
it only bumps a counter; so it overwrites exactly when a curated save of the same
text commits after the search and before the `INSERT`.
-/

namespace MysqlRedshift.Agent.Knowledge

open MysqlRedshift.Misc

variable {V S : Type} [LinearOrder S] {kb : Env V S}

/-- Written last by a seed or an import save. -/
def Row.curated (r : Row V) : Bool := bypassFilter r.source

/-- The row is still there, with the columns that a verification stands for. -/
def Kept (r r' : Row V) : Prop :=
  r'.id = r.id ∧ r'.redshiftSQL = r.redshiftSQL ∧ r'.compareMode = r.compareMode ∧
    r'.source = r.source

/-- The step is one of a call with `source=runtime`. -/
def ByRuntime (s : State V kb.md5) : Action → Prop
  | .nearest i _ | .bump i _ | .insert i _ | .fail i =>
    ∃ c, s.calls i = some c ∧ c.args.source = "runtime"
  | _ => False

/-- No step of a runtime call changes a curated row. -/
def CuratedKept (kb : Env V S) (acts : List Action) : Prop :=
  ∀ before a after s t, acts = before ++ a :: after →
    (machine kb).run (start kb) before = some s → (machine kb).step s a = some t → ByRuntime s a →
    ∀ r ∈ s.table.rows, r.curated = true → ∃ r' ∈ t.table.rows, Kept r r'

/-- A curated save of the text committed after the search of call `i`. -/
def WroteSince (events : List Event) (i : Nat) (mysqlSQL : String) : Prop :=
  ∃ later earlier args, events = later ++ .looked i :: earlier ∧ .wrote args ∈ later ∧
    args.mysqlSQL = mysqlSQL ∧ bypassFilter args.source = true

/-- No runtime `INSERT` comes after a curated save that its search was too early for,
and whose row is still there and curated. -/
def SearchesInTime (kb : Env V S) (acts : List Action) : Prop :=
  ∀ before i now after s t args, acts = before ++ .insert i now :: after →
    (machine kb).run (start kb) before = some s →
    (machine kb).step s (.insert i now) = some t → s.calls i = some ⟨args, .insert⟩ →
    args.source = "runtime" →
    ¬ (WroteSince s.events i args.mysqlSQL ∧
      ∃ r ∈ s.table.rows, r.mysqlSQL = args.mysqlSQL ∧ r.curated = true)

/-- What is assumed of the index: it finds a most similar row if there is any row. -/
def ExactSearch (kb : Env V S) (s : State V kb.md5) : Action → Prop
  | .nearest i found => ∀ c, s.calls i = some c →
      (found = none → s.table.rows = []) ∧
      ∀ id r, found = some id → s.table.row? id = some r → ∀ r' ∈ s.table.rows,
        kb.similarity (kb.embed c.args.mysqlSQL) r'.embedding ≤
          kb.similarity (kb.embed c.args.mysqlSQL) r.embedding
  | _ => True

/-! ## The invariant -/

theorem WroteSince.cons {events : List Event} {i : Nat} {mysqlSQL : String}
    (h : WroteSince events i mysqlSQL) (event : Event) :
    WroteSince (event :: events) i mysqlSQL := by
  obtain ⟨later, earlier, args, rfl, wrote, rest⟩ := h
  exact ⟨event :: later, earlier, args, rfl, List.mem_cons_of_mem _ wrote, rest⟩

/-- Embeddings are those of the texts; a call about to `INSERT` after a search has
searched, and the curated rows of its text have come since. -/
structure Inv (kb : Env V S) (s : State V kb.md5) : Prop where
  embedded : ∀ r ∈ s.table.rows, r.embedding = kb.embed r.mysqlSQL
  looked : ∀ i args, s.calls i = some ⟨args, .insert⟩ → bypassFilter args.source = false →
    .looked i ∈ s.events
  since : ∀ i args, s.calls i = some ⟨args, .insert⟩ → bypassFilter args.source = false →
    ∀ r ∈ s.table.rows, r.mysqlSQL = args.mysqlSQL → r.curated = true →
    WroteSince s.events i args.mysqlSQL

omit [LinearOrder S] in
theorem inv_start : Inv kb (start kb) where
  embedded r member := by cases member
  looked i args live := by cases live
  since i args live := by cases live

omit [LinearOrder S] in
/-- A call that is about to `INSERT` after a new one came was so before. -/
theorem insert_of_called {s : State V kb.md5} {i j : Nat} {args args' : SaveArgs}
    (h : Function.update s.calls i (some ⟨args, begin kb args⟩) j = some ⟨args', .insert⟩)
    (unfiltered : bypassFilter args'.source = false) : s.calls j = some ⟨args', .insert⟩ := by
  rcases update_some_cases h with ⟨-, same⟩ | ⟨-, before⟩
  · rw [Call.mk.injEq] at same
    obtain ⟨rfl, at_insert⟩ := same
    exact absurd at_insert.symm (begin_ne_insert unfiltered)
  · exact before

omit [LinearOrder S] in
/-- A call that is about to `INSERT` after another one moved on was so before. -/
theorem insert_of_moved {s : State V kb.md5} {i j : Nat} {c : Call} {pc : Pc} {args : SaveArgs}
    (h : (s.moveTo kb i c pc).calls j = some ⟨args, .insert⟩) (moved : pc ≠ .insert) :
    s.calls j = some ⟨args, .insert⟩ := by
  rcases update_some_cases h with ⟨-, same⟩ | ⟨-, before⟩
  · exact absurd (congrArg Call.pc same).symm moved
  · exact before

/-- After an exact search that ends in an `INSERT`, no row has the text. -/
theorem absent_of_search {s : State V kb.md5} {i : Nat} {args : SaveArgs} {found : Option Nat}
    (self : kb.dedupThreshold ≤
      kb.similarity (kb.embed args.mysqlSQL) (kb.embed args.mysqlSQL))
    (inv : Inv kb s) (live : s.calls i = some ⟨args, .nearest⟩)
    (exact : ExactSearch kb s (.nearest i found))
    (after : afterNearest kb s.table (kb.embed args.mysqlSQL) found = some .insert) :
    ∀ r ∈ s.table.rows, r.mysqlSQL ≠ args.mysqlSQL := by
  intro r member same
  obtain ⟨empty, closest⟩ := exact _ live
  cases found with
  | none =>
    rw [empty rfl] at member
    cases member
  | some id =>
    obtain ⟨near, at_id, ends⟩ := Option.map_eq_some_iff.mp after
    have far : ¬ kb.dedupThreshold ≤ kb.similarity (kb.embed args.mysqlSQL) near.embedding := by
      intro close
      rw [if_pos close] at ends
      cases ends
    have nearest := closest id near rfl at_id r member
    rw [inv.embedded r member, same] at nearest
    exact far (self.trans nearest)

omit [LinearOrder S] in
/-- A call may move on, but not to its `INSERT`. -/
theorem Inv.moved {s : State V kb.md5} (inv : Inv kb s) (i : Nat) (c : Call) {pc : Pc}
    (moved : pc ≠ .insert) : Inv kb (s.moveTo kb i c pc) where
  embedded := inv.embedded
  looked j args live := inv.looked j args (insert_of_moved live moved)
  since j args live := inv.since j args (insert_of_moved live moved)

omit [LinearOrder S] in
theorem Inv.bumped {s : State V kb.md5} (inv : Inv kb s) (ids : List Nat) (now : Nat) :
    Inv kb { s with table := s.table.bump ids now } where
  embedded r member := by
    obtain ⟨old, before, _, _, rfl⟩ := Table.mem_bump member
    exact inv.embedded old before
  looked := inv.looked
  since j args live unfiltered r member same curated := by
    obtain ⟨old, before, _, _, rfl⟩ := Table.mem_bump member
    exact inv.since j args live unfiltered old before same curated

/-- A search that leads to an `INSERT` has found no row of the text. -/
theorem Inv.searched {s : State V kb.md5} {i : Nat} {found : Option Nat} {args : SaveArgs} {pc : Pc}
    (inv : Inv kb s)
    (self : kb.dedupThreshold ≤
      kb.similarity (kb.embed args.mysqlSQL) (kb.embed args.mysqlSQL))
    (exact : ExactSearch kb s (.nearest i found)) (live : s.calls i = some ⟨args, .nearest⟩)
    (after : afterNearest kb s.table (kb.embed args.mysqlSQL) found = some pc) :
    Inv kb { s.moveTo kb i ⟨args, .nearest⟩ pc with events := .looked i :: s.events } := by
  refine ⟨inv.embedded, ?_, ?_⟩
  · intro j args' live' unfiltered
    rcases update_some_cases live' with ⟨rfl, -⟩ | ⟨-, before⟩
    · exact List.mem_cons_self
    · exact List.mem_cons_of_mem _ (inv.looked j args' before unfiltered)
  · intro j args' live' unfiltered r member same curated
    rcases update_some_cases live' with ⟨rfl, now⟩ | ⟨-, before⟩
    · cases now
      exact absurd same (absent_of_search self inv live exact after r member)
    · exact (inv.since j args' before unfiltered r member same curated).cons _

omit [LinearOrder S] in
/-- What a save has written is a curated row only if the save is curated, and then it
has come after every search that is still to be followed by its `INSERT`. -/
theorem Inv.inserted {s : State V kb.md5} {i now : Nat} {args : SaveArgs} (inv : Inv kb s)
    (one_text : ∀ r ∈ s.table.rows, kb.md5 r.mysqlSQL = kb.md5 args.mysqlSQL →
      r.mysqlSQL = args.mysqlSQL) (id : Option Nat) :
    Inv kb { s.moveTo kb i ⟨args, .insert⟩ (.done id) with
      table := s.table.upsert args (kb.embed args.mysqlSQL) now
      events := .wrote args :: s.events } := by
  refine ⟨?_, ?_, ?_⟩
  · intro r member
    rcases Table.mem_upsert_iff.mp member with ⟨before, -⟩ | ⟨old, before, keyed, rfl⟩ | ⟨-, rfl⟩
    · exact inv.embedded r before
    · exact congrArg kb.embed (one_text old before keyed).symm
    · rfl
  · intro j args' live' unfiltered
    exact List.mem_cons_of_mem _ (inv.looked j args' (insert_of_moved live' (by simp)) unfiltered)
  · intro j args' live' unfiltered r member same curated
    have before := insert_of_moved live' (by simp)
    have wrote : args.mysqlSQL = args'.mysqlSQL → bypassFilter args.source = true →
        WroteSince (.wrote args :: s.events) j args'.mysqlSQL := by
      intro text bypass
      obtain ⟨later, earlier, events⟩ := List.append_of_mem (inv.looked j args' before unfiltered)
      exact ⟨.wrote args :: later, earlier, args, by rw [events]; rfl, List.mem_cons_self, text,
        bypass⟩
    rcases Table.mem_upsert_iff.mp member with ⟨old, -⟩ | ⟨old, there, keyed, rfl⟩ | ⟨-, rfl⟩
    · exact (inv.since j args' before unfiltered r old same curated).cons _
    · exact wrote ((one_text old there keyed).symm.trans same) curated
    · exact wrote same curated

theorem Inv.step {s t : State V kb.md5} {a : Action}
    (self : ∀ text, kb.dedupThreshold ≤ kb.similarity (kb.embed text) (kb.embed text))
    (inv : Inv kb s) (exact : ExactSearch kb s a) (digest : DigestTells kb s a)
    (h : step kb s a = some t) : Inv kb t := by
  cases step_trans h with
  | call free =>
    refine ⟨inv.embedded, ?_, ?_⟩
    · intro j args' live unfiltered
      exact inv.looked j args' (insert_of_called live unfiltered) unfiltered
    · intro j args' live unfiltered
      exact inv.since j args' (insert_of_called live unfiltered) unfiltered
  | nearest live after => exact inv.searched (self _) exact live after
  | @bump i now args id live => exact (inv.moved i ⟨args, .bump id⟩ (by simp)).bumped [id] now
  | insert live fits => exact inv.inserted (digest _ live) _
  | @fail i c live => exact inv.moved i c (by simp)
  | retrieve => exact inv.bumped ..
  | delete =>
    refine ⟨fun r member => inv.embedded r (Table.mem_delete member), inv.looked, ?_⟩
    intro j args' live unfiltered r member
    exact inv.since j args' live unfiltered r (Table.mem_delete member)

/-! ## The exact condition -/

omit [LinearOrder S] in
theorem Kept.refl (r : Row V) : Kept r r := ⟨rfl, rfl, rfl, rfl⟩

omit [LinearOrder S] in
theorem kept_bump {md5 : String → String} {t : Table V md5} {r : Row V} (h : r ∈ t.rows)
    (ids : List Nat) (now : Nat) : ∃ r' ∈ (t.bump ids now).rows, Kept r r' := by
  refine ⟨_, List.mem_map_of_mem h, ?_⟩
  obtain ⟨hits, used, same⟩ := Table.bumpRow_eq ids now r
  rw [same]
  exact ⟨rfl, rfl, rfl, rfl⟩

/-- A runtime step keeps every curated row, unless it overwrites one of its text. -/
theorem kept_of_step {s t : State V kb.md5} {a : Action} (digest : DigestTells kb s a)
    (h : step kb s a = some t) (runtime : ByRuntime s a)
    (spared : ∀ i now args, a = .insert i now → s.calls i = some ⟨args, .insert⟩ →
      ∀ r ∈ s.table.rows, r.curated = true → r.mysqlSQL ≠ args.mysqlSQL)
    {r : Row V} (member : r ∈ s.table.rows) (curated : r.curated = true) :
    ∃ r' ∈ t.table.rows, Kept r r' := by
  cases step_trans h with
  | call | retrieve | delete => cases runtime
  | nearest | fail => exact ⟨r, member, .refl r⟩
  | bump => exact kept_bump member ..
  | @insert i now args live fits =>
    refine ⟨r, Table.mem_upsert_iff.mpr (Or.inl ⟨member, fun keyed => ?_⟩), .refl r⟩
    exact spared i now args rfl live r member curated (digest _ live r member keyed)

/-- A runtime `INSERT` changes the source of a curated row of its text. -/
theorem not_kept_of_insert {s t : State V kb.md5} {i now : Nat} {args : SaveArgs}
    (h : step kb s (.insert i now) = some t) (live : s.calls i = some ⟨args, .insert⟩)
    (runtime : args.source = "runtime") {r : Row V} (member : r ∈ s.table.rows)
    (text : r.mysqlSQL = args.mysqlSQL) (curated : r.curated = true) :
    ¬ ∃ r' ∈ t.table.rows, Kept r r' := by
  rintro ⟨r', member', same_id, -, -, same_source⟩
  have not_runtime : r.source ≠ "runtime" := by
    intro same
    rw [Row.curated, same] at curated
    revert curated
    decide
  cases step_trans h with
  | @insert _ _ args' live' fits =>
    rw [live] at live'
    cases live'
    rcases Table.mem_upsert_iff.mp member' with ⟨before, other⟩ | ⟨_, -, -, rfl⟩ | ⟨-, rfl⟩
    · have same : r' = r := Table.eq_of_id_eq before member same_id
      exact other (by rw [same, text])
    · exact not_runtime (same_source.symm.trans runtime)
    · exact not_runtime (same_source.symm.trans runtime)

/-- In every run, runtime saves keep all curated rows exactly when none of them inserts
after a curated save of its text that its search was too early for. -/
theorem curatedKept_iff (kb : Env V S)
    (self : ∀ text, kb.dedupThreshold ≤ kb.similarity (kb.embed text) (kb.embed text))
    (acts : List Action) (exact : (machine kb).Along (ExactSearch kb) (start kb) acts)
    (digest : (machine kb).Along (DigestTells kb) (start kb) acts) :
    CuratedKept kb acts ↔ SearchesInTime kb acts := by
  constructor
  · rintro kept before i now after s t args split reached stepped live runtime
      ⟨-, r, member, text, curated⟩
    exact not_kept_of_insert stepped live runtime member text curated
      (kept before _ after s t split reached stepped ⟨_, live, runtime⟩ r member curated)
  · intro inTime before a after s t split reached stepped runtime r member curated
    have each : ∀ s a t, Inv kb s → ExactSearch kb s a ∧ DigestTells kb s a →
        (machine kb).step s a = some t → Inv kb t :=
      fun s a t inv sound h => inv.step self sound.1 sound.2 h
    have inv : Inv kb s := by
      refine Machine.run_induction_along each inv_start ?_ reached
      exact Machine.Along.of_prefix (split ▸ Machine.along_and exact digest)
    refine kept_of_step (digest before a after s split reached) stepped runtime ?_ member curated
    rintro i now args rfl live r' member' curated' text
    obtain ⟨c, live', runtime⟩ := runtime
    rw [live] at live'
    cases live'
    have unfiltered : bypassFilter args.source = false := by
      rw [show args.source = "runtime" from runtime]
      decide
    exact inTime before i now after s t args split reached stepped live runtime
      ⟨inv.since i args live unfiltered r' member' text curated', r', member', text, curated'⟩

/-! ## Two runs -/

/-- The text of the saves below. -/
def ordersText : String := "SELECT COUNT(*) FROM dw.orders"

/-- Texts are their own embeddings, and similar to themselves only. -/
def sameTextOnly : Env String Nat where
  enabled := true
  db := .ascii
  md5 s := if s = ordersText then "079b54d66d7cc3f63852a024ba9703e4" else s
  embed := id
  similarity v w := if v = w then 100 else 0
  dedupThreshold := 94

def countOrders (source redshiftSQL : String) : SaveArgs :=
  { mysqlSQL := ordersText, redshiftSQL, compareMode := "skipped", source }

/-- A seed, and a runtime save of its text, which finds it. -/
def seedThenRuntime : List Action :=
  [.call 0 (countOrders "seed" "SELECT COUNT(*) FROM orders WHERE true"), .insert 0 1,
    .call 1 (countOrders "runtime" "SELECT COUNT(*) AS c FROM orders"), .nearest 1 (some 1),
    .bump 1 2]

theorem sameTextOnly_self (text : String) : sameTextOnly.dedupThreshold ≤
    sameTextOnly.similarity (sameTextOnly.embed text) (sameTextOnly.embed text) := by
  simp [sameTextOnly]

theorem seedThenRuntime_exact :
    (machine sameTextOnly).Along (ExactSearch sameTextOnly) (start sameTextOnly)
      seedThenRuntime := by
  refine Machine.along_step rfl trivial (Machine.along_step rfl trivial ?_)
  refine Machine.along_step rfl trivial (Machine.along_step rfl ?_ ?_)
  · intro c live
    cases live
    refine ⟨by simp, ?_⟩
    intro id r found at_id r' member
    cases found
    cases at_id
    obtain rfl := List.mem_singleton.mp member
    exact Nat.le_refl _
  · exact Machine.along_step rfl trivial (Machine.along_nil _ _)

theorem seedThenRuntime_digest :
    (machine sameTextOnly).Along (DigestTells sameTextOnly) (start sameTextOnly)
      seedThenRuntime := by
  refine Machine.along_step rfl trivial (Machine.along_step rfl ?_ ?_)
  · intro c live r member
    cases member
  · refine Machine.along_step rfl trivial (Machine.along_step rfl trivial ?_)
    exact Machine.along_step rfl trivial (Machine.along_nil _ _)

theorem curatedKept_iff_seedThenRuntime : CuratedKept sameTextOnly seedThenRuntime := by
  refine (curatedKept_iff sameTextOnly sameTextOnly_self seedThenRuntime seedThenRuntime_exact
    seedThenRuntime_digest).mpr ?_
  intro before i now after s t args split reached stepped live runtime
  -- the one `INSERT` of the run is the seed's
  rcases before with _ | ⟨_, _ | ⟨_, before⟩⟩
  · cases split
  · cases split
    cases reached
    cases live
    exact absurd runtime (by decide)
  · have later : Action.insert i now ∈ [.call 1 (countOrders "runtime"
        "SELECT COUNT(*) AS c FROM orders"), .nearest 1 (some 1), .bump 1 2] := by
      rw [(List.cons.inj (List.cons.inj split).2).2]
      simp
    simp at later

/-- An import that commits between the search of a runtime save and its `INSERT`. -/
def importSlipsIn : List Action :=
  [.call 0 (countOrders "runtime" "SELECT COUNT(*) AS c FROM orders"), .nearest 0 none,
    .call 1 (countOrders "import" "SELECT COUNT(*) FROM orders WHERE true"), .insert 1 1]

/-- The row of the import loses its translation, its mode and its source. -/
theorem not_curatedKept_importSlipsIn :
    ¬ CuratedKept sameTextOnly (importSlipsIn ++ [.insert 0 2]) := by
  intro kept
  obtain ⟨r', member, -, -, -, source⟩ := kept importSlipsIn (.insert 0 2) [] _ _ rfl rfl rfl
    ⟨_, rfl, rfl⟩ _ List.mem_cons_self (by decide)
  obtain rfl := List.mem_singleton.mp member
  revert source
  decide

end MysqlRedshift.Agent.Knowledge
