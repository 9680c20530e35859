import Mathlib.Data.List.Sort

/-!
# Rows in the order of a key

`ORDER BY key DESC` says nothing of rows with equal keys, and each query may put them in
another order. A `Ranking` is the order that one query uses.
-/

namespace MysqlRedshift.Misc

variable {α κ : Type*}

/-- A sort by a key, greatest first; rows of one key come in any order. -/
structure Ranking [LE κ] (key : α → κ) where
  rank : List α → List α
  perm : ∀ rows, (rank rows).Perm rows
  sorted : ∀ rows, (rank rows).Pairwise fun a b => key b ≤ key a

/-- A list of the `k` rows with the greatest keys, greatest first. -/
def IsTop [LE κ] (key : α → κ) (k : Nat) (rows top : List α) : Prop :=
  ∃ ranked : List α, ranked.Perm rows ∧ (ranked.Pairwise fun a b => key b ≤ key a) ∧
    top = ranked.take k

/-- Where no row with `p` comes after one without, it does not matter whether the rows are
cut or selected first. -/
theorem filter_take_of_closed {p : α → Bool} {l : List α}
    (closed : l.Pairwise fun a b => p b = true → p a = true) (k : Nat) :
    (l.take k).filter p = (l.filter p).take k := by
  induction l generalizing k with
  | nil => simp
  | cons a l ih =>
    obtain ⟨first, rest⟩ := List.pairwise_cons.mp closed
    cases k with
    | zero => rfl
    | succ k =>
      by_cases kept : p a = true
      · rw [List.take_succ_cons, List.filter_cons_of_pos kept, List.filter_cons_of_pos kept,
          List.take_succ_cons, ih rest k]
      · have none : ∀ b ∈ a :: l, ¬ p b = true := by
          intro b member
          rcases List.mem_cons.mp member with rfl | later
          · exact kept
          · exact fun selected => kept (first b later selected)
        rw [List.filter_eq_nil_iff.mpr none, List.take_nil, List.filter_eq_nil_iff]
        exact fun b member => none b (List.mem_of_mem_take member)

namespace Ranking

section Preorder

variable [Preorder κ] {key : α → κ} (R : Ranking key)

theorem mem_rank {rows : List α} {a : α} : a ∈ R.rank rows ↔ a ∈ rows := (R.perm rows).mem_iff

theorem nodup_rank {rows : List α} (nodup : rows.Nodup) : (R.rank rows).Nodup :=
  (R.perm rows).nodup_iff.mpr nodup

/-- The first row has the greatest key. -/
theorem le_head {rows : List α} {a b : α} (first : (R.rank rows).head? = some a) (h : b ∈ rows) :
    key b ≤ key a := by
  obtain ⟨rest, ranked⟩ := List.head?_eq_some_iff.mp first
  have sorted := R.sorted rows
  rw [← R.mem_rank, ranked] at h
  rw [ranked] at sorted
  rcases List.mem_cons.mp h with rfl | later
  · exact le_rfl
  · exact List.rel_of_pairwise_cons sorted later

/-- The first rows that reach a bound are the first of the rows that do. -/
theorem filter_take_rank [DecidableLE κ] (bound : κ) (k : Nat) (rows : List α) :
    ((R.rank rows).take k).filter (fun a => decide (bound ≤ key a)) =
      ((R.rank rows).filter fun a => decide (bound ≤ key a)).take k := by
  apply filter_take_of_closed
  apply (R.sorted rows).imp
  intro a b below reached
  exact decide_eq_true ((of_decide_eq_true reached).trans below)

theorem isTop_filter_take [DecidableLE κ] (bound : κ) (k : Nat) (rows : List α) :
    IsTop key k (rows.filter fun a => decide (bound ≤ key a))
      (((R.rank rows).take k).filter fun a => decide (bound ≤ key a)) := by
  refine ⟨_, (R.perm rows).filter _, (R.sorted rows).filter _, R.filter_take_rank bound k rows⟩

end Preorder

end Ranking

theorem IsTop.sorted [LE κ] {key : α → κ} {k : Nat} {rows top : List α}
    (h : IsTop key k rows top) : top.Pairwise fun a b => key b ≤ key a := by
  obtain ⟨ranked, -, sorted, rfl⟩ := h
  exact sorted.sublist (List.take_sublist k ranked)

theorem IsTop.subperm [LE κ] {key : α → κ} {k : Nat} {rows top : List α}
    (h : IsTop key k rows top) : top.Subperm rows := by
  obtain ⟨ranked, perm, -, rfl⟩ := h
  exact (List.take_sublist k ranked).subperm.trans perm.subperm

/-- A row is among the `k` greatest, or they are `k` and none of them is less. -/
theorem IsTop.mem_or_full [LE κ] {key : α → κ} {k : Nat} {rows top : List α}
    (h : IsTop key k rows top) {a : α} (member : a ∈ rows) :
    a ∈ top ∨ top.length = k ∧ ∀ b ∈ top, key a ≤ key b := by
  obtain ⟨ranked, perm, sorted, rfl⟩ := h
  have somewhere := perm.mem_iff.mpr member
  rw [← List.take_append_drop k ranked] at somewhere sorted
  rcases List.mem_append.mp somewhere with first | later
  · exact Or.inl first
  · have more := List.length_pos_of_mem later
    rw [List.length_drop] at more
    refine Or.inr ⟨by rw [List.length_take]; omega, fun b first => ?_⟩
    exact (List.pairwise_append.mp sorted).2.2 b first a later

/-! ## Ties broken by a second key -/

namespace Ranking

variable [LinearOrder κ]

/-- `a` comes before `b`, or with it. -/
def Before (key : α → κ) (tie : α → Nat) (a b : α) : Prop :=
  key b < key a ∨ key b = key a ∧ tie a ≤ tie b

instance (key : α → κ) (tie : α → Nat) : DecidableRel (Before key tie) :=
  fun a b => inferInstanceAs (Decidable (key b < key a ∨ key b = key a ∧ tie a ≤ tie b))

instance (key : α → κ) (tie : α → Nat) : Std.Total (Before key tie) where
  total a b := by
    rcases lt_trichotomy (key a) (key b) with less | same | greater
    · exact Or.inr (Or.inl less)
    · rcases Nat.le_total (tie a) (tie b) with first | second
      · exact Or.inl (Or.inr ⟨same.symm, first⟩)
      · exact Or.inr (Or.inr ⟨same, second⟩)
    · exact Or.inl (Or.inl greater)

instance (key : α → κ) (tie : α → Nat) : IsTrans α (Before key tie) where
  trans a b c hab hbc := by
    rcases hab with first | ⟨same, ties⟩
    · rcases hbc with second | ⟨same', -⟩
      · exact Or.inl (second.trans first)
      · exact Or.inl (same' ▸ first)
    · rcases hbc with second | ⟨same', ties'⟩
      · exact Or.inl (same ▸ second)
      · exact Or.inr ⟨same'.trans same, ties.trans ties'⟩

/-- Rows of one key in the order of `tie`. -/
def ofTies (key : α → κ) (tie : α → Nat) : Ranking key where
  rank := List.insertionSort (Before key tie)
  perm := List.perm_insertionSort _
  sorted rows := by
    refine (List.pairwise_insertionSort (Before key tie) rows).imp fun h => ?_
    rcases h with less | ⟨same, -⟩
    · exact less.le
    · exact same.le

theorem sorted_ofTies (key : α → κ) (tie : α → Nat) (rows : List α) :
    ((ofTies key tie).rank rows).Pairwise (Before key tie) :=
  List.pairwise_insertionSort (Before key tie) rows

end Ranking

/-! ## Pages -/

/-- What `LIMIT` and `OFFSET` leave of the rows; a database refuses negative ones. -/
def limitOffset (limit offset : Int) (rows : List α) : Except String (List α) :=
  if offset < 0 then .error "OFFSET must not be negative"
  else if limit < 0 then .error "LIMIT must not be negative"
  else .ok ((rows.drop offset.toNat).take limit.toNat)

@[simp] theorem limitOffset_nat (limit offset : Nat) (rows : List α) :
    limitOffset limit offset rows = .ok ((rows.drop offset).take limit) := by
  rw [limitOffset, if_neg (by omega), if_neg (by omega)]
  rfl

/-- The page with a number, from 0 on. -/
def page (size i : Nat) (rows : List α) : List α := (rows.drop (i * size)).take size

/-- The first `n` pages, each of another order of the rows. -/
def pages (size n : Nat) (ordered : Nat → List α) : List α :=
  (List.range n).flatMap fun i => page size i (ordered i)

/-- A row's page is the one that its place falls in. -/
theorem mem_page_iff {size i n : Nat} {rows : List α} {a : α} (nodup : rows.Nodup)
    (at_n : rows[n]? = some a) (size_pos : 0 < size) : a ∈ page size i rows ↔ n / size = i := by
  have place : ∀ m, rows[m]? = some a ↔ m = n := by
    intro m
    refine ⟨fun at_m => ?_, fun same => same ▸ at_n⟩
    have there : n < rows.length := (List.getElem?_eq_some_iff.mp at_n).1
    exact ((List.getElem?_inj there nodup).mp (at_n.trans at_m.symm)).symm
  rw [page, List.mem_iff_getElem?]
  simp only [List.getElem?_take, List.getElem?_drop]
  constructor
  · rintro ⟨j, found⟩
    by_cases inside : j < size
    · rw [if_pos inside, place] at found
      rw [← found, Nat.add_comm, Nat.add_mul_div_right _ _ size_pos, Nat.div_eq_of_lt inside,
        Nat.zero_add]
    · rw [if_neg inside] at found
      cases found
  · rintro rfl
    refine ⟨n % size, ?_⟩
    rw [if_pos (Nat.mod_lt n size_pos), place, Nat.mul_comm, Nat.div_add_mod]

/-- A list around one of its places. -/
theorem split_of_getElem? {rows : List α} {a : α} {n : Nat} (at_n : rows[n]? = some a) :
    ∃ before after, rows = before ++ a :: after ∧ before.length = n := by
  obtain ⟨inside, there⟩ := List.getElem?_eq_some_iff.mp at_n
  refine ⟨rows.take n, rows.drop (n + 1), ?_, ?_⟩
  · rw [← there, List.getElem_cons_drop, List.take_append_drop]
  · rw [List.length_take, Nat.min_eq_left inside.le]

/-- Some rows of equal keys are on both sides of the end of a page. -/
def TieAcross [LinearOrder κ] (key : α → κ) (size : Nat) (rows : List α) : Prop :=
  ∃ a ∈ rows, ∃ i, rows.countP (fun b => decide (key a < key b)) < i * size ∧
    i * size < rows.countP fun b => decide (key a ≤ key b)

namespace Ranking

variable [LinearOrder κ] {key : α → κ} (R : Ranking key)

/-- A row's place is after all greater keys, and among the equal ones. -/
theorem place_bounds {rows : List α} {a : α} {n : Nat} (at_n : (R.rank rows)[n]? = some a) :
    rows.countP (fun b => decide (key a < key b)) ≤ n ∧
      n < rows.countP fun b => decide (key a ≤ key b) := by
  obtain ⟨before, after, split, length⟩ := split_of_getElem? at_n
  have sorted := R.sorted rows
  rw [split, List.pairwise_append, List.pairwise_cons] at sorted
  obtain ⟨-, ⟨later, -⟩, earlier⟩ := sorted
  rw [← (R.perm rows).countP_eq, ← (R.perm rows).countP_eq, split, List.countP_append,
    List.countP_append, List.countP_cons, List.countP_cons]
  constructor
  · have none_later : after.countP (fun b => decide (key a < key b)) = 0 :=
      List.countP_eq_zero.mpr fun b member => by simpa using later b member
    have few : before.countP (fun b => decide (key a < key b)) ≤ before.length :=
      List.countP_le_length
    simp only [none_later, lt_irrefl, decide_false, Bool.false_eq_true, if_false]
    omega
  · have all_earlier : before.countP (fun b => decide (key a ≤ key b)) = n := by
      rw [List.countP_eq_length.mpr, length]
      exact fun b member => by simpa using earlier b member a List.mem_cons_self
    simp only [all_earlier, le_refl, decide_true, if_true]
    omega

/-- A row that comes before all others of its key has the first of the possible places. -/
theorem place_first {tie : α → Nat} {rows : List α} {a : α} {n : Nat} (nodup : rows.Nodup)
    (first : ∀ b, b ≠ a → tie a < tie b) (at_n : ((ofTies key tie).rank rows)[n]? = some a) :
    n ≤ rows.countP fun b => decide (key a < key b) := by
  obtain ⟨before, after, split, length⟩ := split_of_getElem? at_n
  have sorted := sorted_ofTies key tie rows
  have apart := (ofTies key tie).nodup_rank nodup
  rw [split, List.pairwise_append] at sorted
  rw [split, List.nodup_append] at apart
  have greater : ∀ b ∈ before, key a < key b := by
    intro b member
    have other : b ≠ a := apart.2.2 b member a List.mem_cons_self
    rcases sorted.2.2 b member a List.mem_cons_self with less | ⟨-, ties⟩
    · exact less
    · exact absurd ties (Nat.not_le_of_lt (first b other))
  have all_before : before.countP (fun b => decide (key a < key b)) = before.length :=
    List.countP_eq_length.mpr fun b member => decide_eq_true (greater b member)
  rw [← ((ofTies key tie).perm rows).countP_eq, split, List.countP_append, all_before, length]
  exact Nat.le_add_right ..

/-- A row that comes after all others of its key has the last of the possible places. -/
theorem place_last {tie : α → Nat} {rows : List α} {a : α} {n : Nat} (nodup : rows.Nodup)
    (last : ∀ b, b ≠ a → tie b < tie a) (at_n : ((ofTies key tie).rank rows)[n]? = some a) :
    rows.countP (fun b => decide (key a ≤ key b)) ≤ n + 1 := by
  obtain ⟨before, after, split, length⟩ := split_of_getElem? at_n
  have sorted := sorted_ofTies key tie rows
  have apart := (ofTies key tie).nodup_rank nodup
  rw [split, List.pairwise_append, List.pairwise_cons] at sorted
  rw [split, List.nodup_append, List.nodup_cons] at apart
  have less : ∀ b ∈ after, key b < key a := by
    intro b member
    have other : b ≠ a := fun same => apart.2.1.1 (same ▸ member)
    rcases sorted.2.1.1 b member with less | ⟨-, ties⟩
    · exact less
    · exact absurd ties (Nat.not_le_of_lt (last b other))
  have none_after : after.countP (fun b => decide (key a ≤ key b)) = 0 :=
    List.countP_eq_zero.mpr fun b member => by simpa using less b member
  have few : before.countP (fun b => decide (key a ≤ key b)) ≤ before.length :=
    List.countP_le_length
  rw [← ((ofTies key tie).perm rows).countP_eq, split, List.countP_append, List.countP_cons,
    none_after]
  simp only [le_refl, decide_true, if_true]
  omega

/-- Where no tie is cut by the end of a page, a row's page is the same in every order. -/
theorem mem_page_rank_iff {size i : Nat} {rows : List α} {a : α} (nodup : rows.Nodup)
    (size_pos : 0 < size) (whole : ¬ TieAcross key size rows) (member : a ∈ rows) :
    a ∈ page size i (R.rank rows) ↔ rows.countP (fun b => decide (key a < key b)) / size = i := by
  obtain ⟨n, at_n⟩ := List.mem_iff_getElem?.mp (R.mem_rank.mpr member)
  obtain ⟨after, among⟩ := R.place_bounds at_n
  rw [mem_page_iff (R.nodup_rank nodup) at_n size_pos]
  have same : n / size = rows.countP (fun b => decide (key a < key b)) / size := by
    refine Nat.le_antisymm ?_ (Nat.div_le_div_right after)
    by_contra later
    -- the last page that the place could be on begins between the two bounds
    refine whole ⟨a, member, n / size, ?_, ?_⟩
    · exact (Nat.div_lt_iff_lt_mul size_pos).mp (Nat.lt_of_not_le later)
    · exact (Nat.div_mul_le_self n size).trans_lt among
  rw [same]

theorem mem_of_mem_page {size i : Nat} {rows : List α} {a : α} (h : a ∈ page size i rows) :
    a ∈ rows :=
  List.mem_of_mem_drop (List.mem_of_mem_take h)

/-- Pages of orders that agree on every row's page are a partition of the rows. -/
theorem pages_perm {size n : Nat} {rows : List α} (orders : Nat → Ranking key)
    (nodup : rows.Nodup) (size_pos : 0 < size) (enough : rows.length ≤ n * size)
    (whole : ¬ TieAcross key size rows) :
    (pages size n fun i => (orders i).rank rows).Perm rows := by
  have on_page : ∀ i a, a ∈ page size i ((orders i).rank rows) ↔
      a ∈ rows ∧ rows.countP (fun b => decide (key a < key b)) / size = i := by
    intro i a
    constructor
    · intro h
      have member := (orders i).mem_rank.mp (mem_of_mem_page h)
      exact ⟨member, ((orders i).mem_page_rank_iff nodup size_pos whole member).mp h⟩
    · rintro ⟨member, number⟩
      exact ((orders i).mem_page_rank_iff nodup size_pos whole member).mpr number
  have distinct : (pages size n fun i => (orders i).rank rows).Nodup := by
    refine List.nodup_flatMap.mpr ⟨?_, ?_⟩
    · intro i _
      exact ((orders i).nodup_rank nodup).sublist
        ((List.take_sublist ..).trans (List.drop_sublist ..))
    · refine List.nodup_range.imp fun {i j} differ => ?_
      intro a on_i on_j
      exact differ (((on_page i a).mp on_i).2.symm.trans ((on_page j a).mp on_j).2)
  rw [List.perm_ext_iff_of_nodup distinct nodup]
  intro a
  rw [pages, List.mem_flatMap]
  constructor
  · rintro ⟨i, -, on_i⟩
    exact ((on_page i a).mp on_i).1
  · intro member
    refine ⟨_, List.mem_range.mpr ?_, (on_page _ a).mpr ⟨member, rfl⟩⟩
    rw [Nat.div_lt_iff_lt_mul size_pos]
    -- the row itself is not among the greater ones
    have fewer : rows.countP (fun b => decide (key a < key b)) < rows.length := by
      refine lt_of_le_of_ne List.countP_le_length fun all => ?_
      have self := List.countP_eq_length.mp all a member
      simp at self
    omega

/-- A row whose tie is cut by the end of a page is on no page, where it is the last of the
tie in the orders of the pages before that end, and the first in those of the others. -/
theorem exists_not_mem_pages {size : Nat} {rows : List α} (nodup : rows.Nodup)
    (size_pos : 0 < size) (cut : TieAcross key size rows) :
    ∃ a ∈ rows, ∃ orders : Nat → Ranking key, ∀ n,
      a ∉ pages size n fun i => (orders i).rank rows := by
  classical
  obtain ⟨a, member, k, above, below⟩ := cut
  let last : α → Nat := fun b => if b = a then 1 else 0
  let first : α → Nat := fun b => if b = a then 0 else 1
  refine ⟨a, member, fun i => if i < k then ofTies key last else ofTies key first, ?_⟩
  intro n on_pages
  obtain ⟨i, -, on_page⟩ := List.mem_flatMap.mp on_pages
  by_cases before : i < k
  · simp only [before, if_true] at on_page
    obtain ⟨m, at_m⟩ := List.mem_iff_getElem?.mp ((ofTies key last).mem_rank.mpr member)
    have place := place_last nodup (fun b other => by simp [last, other]) at_m
    have number := (mem_page_iff ((ofTies key last).nodup_rank nodup) at_m size_pos).mp on_page
    have reached : k ≤ m / size := (Nat.le_div_iff_mul_le size_pos).mpr (by omega)
    omega
  · simp only [before, if_false] at on_page
    obtain ⟨m, at_m⟩ := List.mem_iff_getElem?.mp ((ofTies key first).mem_rank.mpr member)
    have place := place_first nodup (fun b other => by simp [first, other]) at_m
    have number := (mem_page_iff ((ofTies key first).nodup_rank nodup) at_m size_pos).mp on_page
    have short : m / size < k := (Nat.div_lt_iff_lt_mul size_pos).mpr (by omega)
    omega

/-- Pages partition the rows, whatever order each of them is cut from, exactly when no tie
is cut by the end of a page. -/
theorem pages_perm_iff {size n : Nat} {rows : List α} (nodup : rows.Nodup) (size_pos : 0 < size)
    (enough : rows.length ≤ n * size) :
    (∀ orders : Nat → Ranking key, (pages size n fun i => (orders i).rank rows).Perm rows) ↔
      ¬ TieAcross key size rows := by
  constructor
  · intro all cut
    obtain ⟨a, member, orders, missing⟩ := exists_not_mem_pages nodup size_pos cut
    exact missing n ((all orders).mem_iff.mpr member)
  · intro whole orders
    exact pages_perm orders nodup size_pos enough whole

end Ranking

end MysqlRedshift.Misc
