import Mathlib.Data.List.Nodup
import Mathlib.Data.List.Basic
import Mathlib.Logic.Function.Basic

/-!
# Bounded caches with recency eviction

`Lru C K V` is the interface of a bounded cache with states `C`: it is what a
client of such a library may rely on, and no more. Which entry an `add` drops is
the library's own business, so the interface names it (`evicts`) without saying
which one it is; at most one entry goes. `listLru` is the textbook
implementation, a list with the most recently used entry first, and shows that
the interface can be met.
-/

namespace MysqlRedshift.Misc

/-- A bounded cache from `K` to `V` with states `C`. `contents` reads an entry
without touching its recency; `evicts c k v` is the key whose entry is dropped
when `v` is added at `k`. -/
structure Lru (C K V : Type) [DecidableEq K] where
  new : Int → Except String C
  get : C → K → Option V × C
  add : C → K → V → C
  contents : C → K → Option V
  evicts : C → K → V → Option K
  contents_new : ∀ {size c}, new size = .ok c → ∀ k, contents c k = none
  get_fst : ∀ c k, (get c k).1 = contents c k
  contents_get : ∀ c k k', contents (get c k).2 k' = contents c k'
  contents_add : ∀ c k v k', contents (add c k v) k' =
    if k' = k then some v else if evicts c k v = some k' then none else contents c k'

namespace Lru

variable {C K V : Type} [DecidableEq K] (L : Lru C K V)

@[simp] theorem contents_add_self (c : C) (k : K) (v : V) :
    L.contents (L.add c k v) k = some v := by
  rw [L.contents_add, if_pos rfl]

/-- What a cache holds after an `add` is the new entry or one it held before. -/
theorem contents_add_some {c : C} {k k' : K} {v v' : V}
    (h : L.contents (L.add c k v) k' = some v') :
    (k' = k ∧ v' = v) ∨ L.contents c k' = some v' := by
  rw [L.contents_add] at h
  split at h
  · next same => exact Or.inl ⟨same, (Option.some.inj h).symm⟩
  · split at h
    · cases h
    · exact Or.inr h

/-- Without an eviction, an `add` is an update of the contents. -/
theorem contents_add_of_room {c : C} {k : K} {v : V} (room : L.evicts c k v = none) :
    L.contents (L.add c k v) = Function.update (L.contents c) k (some v) := by
  funext k'
  simp only [L.contents_add, room, reduceCtorEq, if_false, Function.update_apply]

/-- With one, it is an update of the contents without the evicted entry. -/
theorem contents_add_of_full {c : C} {k out : K} {v : V} (full : L.evicts c k v = some out) :
    L.contents (L.add c k v) =
      Function.update (Function.update (L.contents c) out none) k (some v) := by
  funext k'
  simp only [L.contents_add, full, Option.some.injEq, Function.update_apply, eq_comm]

end Lru

/-! ## The list implementation -/

/-- Entries, most recently used first: no key twice, and never more than `size`. -/
structure ListLru (K V : Type) where
  size : Nat
  entries : List (K × V)
  pos : 0 < size
  nodup : (entries.map Prod.fst).Nodup
  bounded : entries.length ≤ size

namespace ListLru

variable {K V : Type} [DecidableEq K]

/-- The entries of a list at other keys than `k`. -/
def others (entries : List (K × V)) (k : K) : List (K × V) :=
  entries.filter fun e => e.1 ≠ k

theorem lookup_others (entries : List (K × V)) {k k' : K} (hne : k' ≠ k) :
    (others entries k).lookup k' = entries.lookup k' := by
  induction entries with
  | nil => rfl
  | cons e es ih =>
    rcases e with ⟨key, v⟩
    by_cases here : key = k
    · have skip : (k' == key) = false := by simpa [here] using hne
      have dropped : others ((key, v) :: es) k = others es k := by simp [others, here]
      rw [dropped, ih, List.lookup_cons, skip]
    · have kept : others ((key, v) :: es) k = (key, v) :: others es k := by simp [others, here]
      rw [kept, List.lookup_cons, List.lookup_cons, ih]

theorem lookup_eq_none_of_not_mem (entries : List (K × V)) {k : K}
    (h : k ∉ entries.map Prod.fst) : entries.lookup k = none := by
  rw [List.lookup_eq_none_iff]
  intro e member
  have differs : k ≠ e.1 := fun same => h (same ▸ List.mem_map_of_mem member)
  simpa using differs

theorem not_mem_others (entries : List (K × V)) (k : K) :
    k ∉ (others entries k).map Prod.fst := by
  simp [others]

theorem nodup_others {entries : List (K × V)} (h : (entries.map Prod.fst).Nodup) (k : K) :
    ((others entries k).map Prod.fst).Nodup :=
  h.sublist (List.filter_sublist.map Prod.fst)

theorem length_others_le (entries : List (K × V)) (k : K) :
    (others entries k).length ≤ entries.length :=
  List.length_filter_le _ _

theorem length_others_lt {entries : List (K × V)} {k : K} {v : V}
    (h : entries.lookup k = some v) : (others entries k).length < entries.length := by
  refine Nat.lt_of_le_of_ne (length_others_le entries k) fun same => ?_
  have all := (List.length_filter_eq_length_iff).mp same
  have absent : k ∉ entries.map Prod.fst := by
    intro member
    obtain ⟨e, he, rfl⟩ := List.mem_map.mp member
    simpa using all e he
  rw [lookup_eq_none_of_not_mem entries absent] at h
  cases h

def new (size : Int) : Except String (ListLru K V) :=
  if h : 0 < size then
    .ok ⟨size.toNat, [], by omega, by simp, by simp⟩
  else .error "must provide a positive size"

/-- A hit moves its entry to the front. -/
def get (c : ListLru K V) (k : K) : Option V × ListLru K V :=
  match h : c.entries.lookup k with
  | none => (none, c)
  | some v => (some v,
      { c with
        entries := (k, v) :: others c.entries k
        nodup := List.nodup_cons.mpr ⟨not_mem_others _ _, nodup_others c.nodup k⟩
        bounded := Nat.le_trans (length_others_lt h) c.bounded })

/-- The new entry goes to the front, and the last one out if the list is too long. -/
def add (c : ListLru K V) (k : K) (v : V) : ListLru K V :=
  { c with
    entries := ((k, v) :: others c.entries k).take c.size
    nodup := by
      have whole : (((k, v) :: others c.entries k).map Prod.fst).Nodup :=
        List.nodup_cons.mpr ⟨not_mem_others _ _, nodup_others c.nodup k⟩
      exact whole.sublist ((List.take_sublist _ _).map Prod.fst)
    bounded := List.length_take_le _ _ }

def contents (c : ListLru K V) (k : K) : Option V :=
  c.entries.lookup k

def evicts (c : ListLru K V) (k : K) (_ : V) : Option K :=
  if (others c.entries k).length < c.size then none
  else (others c.entries k).getLast?.map Prod.fst

theorem contents_get (c : ListLru K V) (k k' : K) :
    (c.get k).2.contents k' = c.contents k' := by
  unfold get
  split
  · rfl
  · next v found =>
    by_cases same : k' = k
    · subst same
      simp [contents, found]
    · have differs : (k' == k) = false := by simpa using same
      simp only [contents, List.lookup_cons, differs]
      exact lookup_others c.entries same

theorem get_fst (c : ListLru K V) (k : K) : (c.get k).1 = c.contents k := by
  unfold get
  split
  · next absent => exact absent.symm
  · next v found => exact found.symm

/-- Dropping the last of a list of distinct keys forgets that key and no other. -/
theorem lookup_dropLast {entries : List (K × V)} (h : (entries.map Prod.fst).Nodup) (k : K) :
    entries.dropLast.lookup k =
      if entries.getLast?.map Prod.fst = some k then none else entries.lookup k := by
  rcases List.eq_nil_or_concat entries with rfl | ⟨front, last, rfl⟩
  · simp
  · simp only [List.concat_eq_append, List.map_append, List.map_cons, List.map_nil,
      List.dropLast_concat, List.getLast?_append, List.getLast?_singleton, Option.some_or,
      Option.map_some, Option.some.injEq, List.lookup_append] at h ⊢
    have fresh : last.1 ∉ front.map Prod.fst := by
      intro member
      exact (List.disjoint_of_nodup_append h) member (List.mem_singleton.mpr rfl)
    by_cases same : last.1 = k
    · rw [if_pos same]
      exact lookup_eq_none_of_not_mem front (same ▸ fresh)
    · have absent : [last].lookup k = none := by
        apply lookup_eq_none_of_not_mem
        simpa using Ne.symm same
      rw [if_neg same, absent, Option.or_none]

theorem contents_add (c : ListLru K V) (k : K) (v : V) (k' : K) :
    (c.add k v).contents k' =
      if k' = k then some v else if c.evicts k v = some k' then none else c.contents k' := by
  obtain ⟨n, hn⟩ := Nat.exists_eq_succ_of_ne_zero (Nat.pos_iff_ne_zero.mp c.pos)
  simp only [contents, add, hn, List.take_succ_cons, List.lookup_cons]
  by_cases same : k' = k
  · simp [same]
  · have differs : (k' == k) = false := by simpa using same
    rw [differs, if_neg same]
    have kept := length_others_le c.entries k
    have bounded := c.bounded
    by_cases room : (others c.entries k).length < c.size
    · have whole : (others c.entries k).take n = others c.entries k :=
        List.take_of_length_le (by omega)
      simp [evicts, room, whole, lookup_others c.entries same]
    · have cut : (others c.entries k).take n = (others c.entries k).dropLast := by
        rw [List.dropLast_eq_take]
        congr 1
        omega
      rw [cut, lookup_dropLast (nodup_others c.nodup k), evicts, if_neg room,
        lookup_others c.entries same]

end ListLru

/-- The list implementation meets the interface. -/
def listLru (K V : Type) [DecidableEq K] : Lru (ListLru K V) K V where
  new := ListLru.new
  get := ListLru.get
  add := ListLru.add
  contents := ListLru.contents
  evicts := ListLru.evicts
  contents_new := by
    intro size c h k
    unfold ListLru.new at h
    split at h
    · cases h; rfl
    · cases h
  get_fst := ListLru.get_fst
  contents_get := ListLru.contents_get
  contents_add := ListLru.contents_add

end MysqlRedshift.Misc
