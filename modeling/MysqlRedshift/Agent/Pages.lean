import MysqlRedshift.Agent.Entries
import MysqlRedshift.Agent.Recall

/-!
# Pages of the knowledge base

The console goes through the entries page by page (`webui/static/knowledge.html`), each of
them a query of its own. `ORDER BY last_used_at DESC` leaves the order of entries used at
the same time to each query, and a recall stamps all its rows with one time.
-/

namespace MysqlRedshift.Agent.Knowledge

open MysqlRedshift.Misc

variable {V S : Type} (kb : Env V S)

/-- The answers to `list_entries(size, 0)`, `list_entries(size, size)` and so on, up to the
count, in one list. -/
def allPages (orders : Nat → Ranking Entry.lastUsedAt) (t : Table V kb.md5) (search : String)
    (size : Nat) : Except String (List Entry) := do
  let total ← countEntries kb t search
  let answers ← (List.range ((total + size - 1) / size)).mapM fun i =>
    listEntries kb (orders i) t { limit := size, offset := i * size, search }
  return answers.flatten

/-- Whatever the order of each query is, every matching row is once in the pages. -/
def PagesPartition (t : Table V kb.md5) (search : String) (size : Nat) : Prop :=
  ∃ rows, found kb.db search t.rows = .ok rows ∧
    ∀ orders : Nat → Ranking Entry.lastUsedAt, ∃ entries,
      allPages kb orders t search size = .ok entries ∧ entries.Perm (rows.map Row.entry)

/-- Matching rows with one `last_used_at` are on both sides of the end of a page. -/
def SplitsTie (t : Table V kb.md5) (search : String) (size : Nat) : Prop :=
  ∃ rows, found kb.db search t.rows = .ok rows ∧
    TieAcross Entry.lastUsedAt size (rows.map Row.entry)

variable {kb}

/-- The answers are the pages of the matching rows, each in the order of its query. -/
theorem allPages_eq (enabled : kb.enabled = true) {t : Table V kb.md5} {search : String}
    {rows : List (Row V)} (matching : found kb.db search t.rows = .ok rows)
    (orders : Nat → Ranking Entry.lastUsedAt) (size : Nat) :
    allPages kb orders t search size = .ok (pages size ((rows.length + size - 1) / size)
      fun i => (orders i).rank (rows.map Row.entry)) := by
  have list : ∀ i : Nat, listEntries kb (orders i) t { limit := size, offset := i * size, search } =
      .ok (page size i ((orders i).rank (rows.map Row.entry))) :=
    fun i => listEntries_of_found enabled matching (orders i) size (i * size)
  have answers : (List.range ((rows.length + size - 1) / size)).mapM (fun i =>
      (.ok (page size i ((orders i).rank (rows.map Row.entry))) : Except String (List Entry))) =
      .ok ((List.range ((rows.length + size - 1) / size)).map fun i =>
        page size i ((orders i).rank (rows.map Row.entry))) := List.mapM_pure
  rw [allPages, countEntries_of_found enabled matching]
  simp only [list]
  exact congrArg (fun r : Except String (List (List Entry)) => r.bind fun answers =>
    .ok answers.flatten) answers

/-- The pages partition the matching rows exactly when no tie of `last_used_at` is on both
sides of the end of a page. -/
theorem pagesPartition_iff (kb : Env V S) (enabled : kb.enabled = true)
    (keeps : KeepsMarks kb.db.toLower) (t : Table V kb.md5) (search : String) (size : Nat)
    (size_pos : 0 < size) : PagesPartition kb t search size ↔ ¬ SplitsTie kb t search size := by
  obtain ⟨rows, matching, part⟩ := exists_found keeps search t.rows
  have nodup : (rows.map Row.entry).Nodup := by
    apply List.Nodup.of_map Entry.id
    rw [List.map_map]
    exact t.idsUnique.sublist (part.map _)
  have enough : (rows.map Row.entry).length ≤ (rows.length + size - 1) / size * size := by
    rw [List.length_map]
    have rest := Nat.div_add_mod (rows.length + size - 1) size
    have small := Nat.mod_lt (rows.length + size - 1) size_pos
    rw [Nat.mul_comm] at rest
    omega
  rw [SplitsTie, PagesPartition]
  simp only [matching, Except.ok.injEq, exists_eq_left', allPages_eq enabled matching]
  exact Ranking.pages_perm_iff nodup size_pos enough

/-- The two rows of the table were used one after the other. -/
theorem pagesPartition_iff_twoTexts : PagesPartition sameTextOnly twoTexts "" 1 := by
  refine (pagesPartition_iff sameTextOnly rfl keepsMarks_ascii twoTexts "" 1 (by decide)).mpr ?_
  rintro ⟨rows, matching, entry, member, k, above, below⟩
  cases matching
  have alone : ∀ e ∈ twoTexts.rows.map Row.entry,
      (twoTexts.rows.map Row.entry).countP (fun b => decide (e.lastUsedAt ≤ b.lastUsedAt)) ≤
        (twoTexts.rows.map Row.entry).countP (fun b => decide (e.lastUsedAt < b.lastUsedAt)) +
          1 := by
    decide
  have bound := alone entry member
  omega

/-- A recall that has returned both rows, and stamped both with its time. -/
def stampedTogether : Table String sameTextOnly.md5 :=
  (retrieveSimilar sameTextOnly atEase ordersText 3 0 twoTexts).2

/-- Ascending ids on the first page, and descending ids on the others. -/
def changingOrders (i : Nat) : Ranking Entry.lastUsedAt :=
  .ofTies _ fun e => if i = 0 then e.id else 9 - e.id

/-- The first row is on both pages, and the second on none. -/
theorem not_pagesPartition_stampedTogether :
    ¬ PagesPartition sameTextOnly stampedTogether "" 1 := by
  rintro ⟨rows, matching, all⟩
  cases matching
  obtain ⟨entries, answered, once⟩ := all changingOrders
  have ids : (allPages sameTextOnly changingOrders stampedTogether "" 1).toOption.map
      (List.map Entry.id) = some [1, 1] := by
    decide
  rw [answered] at ids
  have twice : entries.map Entry.id = [1, 1] := Option.some.inj ids
  have each := once.map Entry.id
  rw [twice] at each
  exact absurd each (by decide)

end MysqlRedshift.Agent.Knowledge
