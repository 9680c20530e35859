import Mathlib.Data.Finset.Card
import Mathlib.Data.List.Nodup
import MysqlRedshift.Misc.Lru

/-!
# Recency lists

The keys of a bounded cache that drops what was not used for longest, most recently used
first. Of two such caches under the same accesses, the larger one holds what the smaller one
holds. And what has been used is still held exactly as long as fewer other keys than the
cache has places for were used since. `Lru.ByRecency` says of an implementation that this
list is what it keeps.
-/

namespace MysqlRedshift.Misc

namespace Recency

variable {K : Type*} [DecidableEq K]

/-- The keys after an access to `k`, with places for `n`: a key that is held comes first, and
one that is not comes in if it is fetched. -/
def touch (n : Nat) (fetched : Bool) (keys : List K) (k : K) : List K :=
  if k ∈ keys then k :: keys.erase k
  else if fetched then (k :: keys).take n
  else keys

/-- No key is there twice, and each has a place. -/
structure Fits (n : Nat) (keys : List K) : Prop where
  nodup : keys.Nodup
  length : keys.length ≤ n

theorem touch_of_mem {n : Nat} {fetched : Bool} {keys : List K} {k : K} (held : k ∈ keys) :
    touch n fetched keys k = k :: keys.erase k :=
  if_pos held

theorem touch_fetched {n : Nat} {keys : List K} {k : K} (absent : k ∉ keys) :
    touch n true keys k = (k :: keys).take n := by
  rw [touch, if_neg absent, if_pos rfl]

theorem touch_unfetched {n : Nat} {keys : List K} {k : K} (absent : k ∉ keys) :
    touch n false keys k = keys := by
  rw [touch, if_neg absent, if_neg (by simp)]

/-- An access brings in no other key. -/
theorem mem_of_mem_touch {n : Nat} {fetched : Bool} {keys : List K} {k x : K}
    (h : x ∈ touch n fetched keys k) : x = k ∨ x ∈ keys := by
  unfold touch at h
  split at h
  · exact (List.mem_cons.mp h).imp_right List.mem_of_mem_erase
  · split at h
    · exact List.mem_cons.mp (List.mem_of_mem_take h)
    · exact Or.inr h

theorem Fits.touch {n : Nat} {keys : List K} (fits : Fits n keys) (fetched : Bool) (k : K) :
    Fits n (touch n fetched keys k) := by
  by_cases held : k ∈ keys
  · rw [touch_of_mem held]
    refine ⟨List.nodup_cons.mpr ⟨fits.nodup.not_mem_erase, fits.nodup.erase k⟩, ?_⟩
    have shorter := List.length_erase_of_mem held
    have some_key := List.length_pos_of_mem held
    have bound := fits.length
    rw [List.length_cons]
    omega
  · cases fetched with
    | true =>
      rw [touch_fetched held]
      exact ⟨(List.nodup_cons.mpr ⟨held, fits.nodup⟩).sublist (List.take_sublist _ _),
        List.length_take_le _ _⟩
    | false => rwa [touch_unfetched held]

/-! ## A larger cache -/

/-- A cache within a larger one: it holds nothing else, in the same order, and as long as it
is not full it holds the same. -/
structure Nested (n : Nat) (small large : List K) : Prop where
  sublist : small.Sublist large
  room : small.length < n → small = large

omit [DecidableEq K] in
theorem sublist_dropLast {l l' : List K} (h : l.Sublist l') : l.dropLast.Sublist l'.dropLast := by
  have tails := h.reverse.tail
  rw [List.tail_reverse, List.tail_reverse] at tails
  exact List.reverse_sublist.mp tails

/-- What comes in pushes nothing out of the larger cache that the smaller one keeps. -/
theorem take_sublist_take {n m : Nat} {small large : List K} {k : K} (nested : Nested n small large)
    (le : n ≤ m) (fits : small.length ≤ n) (fits' : large.length ≤ m) :
    Nested n ((k :: small).take n) ((k :: large).take m) := by
  by_cases room : small.length < n
  · have same := nested.room room
    have whole : (k :: small).take n = k :: small := List.take_of_length_le room
    have whole' : (k :: large).take m = k :: large :=
      List.take_of_length_le (by rw [List.length_cons, ← same]; omega)
    rw [whole, whole', same]
    exact ⟨.refl _, fun _ => rfl⟩
  · have full : small.length = n := by omega
    refine ⟨?_, fun short => ?_⟩
    · cases n with
      | zero => simp
      | succ n =>
        obtain ⟨m, rfl⟩ : ∃ m', m = m' + 1 := ⟨m - 1, by omega⟩
        rw [List.take_succ_cons, List.take_succ_cons]
        refine List.Sublist.cons_cons k ?_
        have last : small.take n = small.dropLast := by
          rw [List.dropLast_eq_take, full, Nat.add_sub_cancel]
        by_cases room' : large.length ≤ m
        · rw [List.take_of_length_le room']
          exact (List.take_sublist _ _).trans nested.sublist
        · have last' : large.take m = large.dropLast := by
            rw [List.dropLast_eq_take]
            congr 1
            omega
          rw [last, last']
          exact sublist_dropLast nested.sublist
    · rw [List.length_take, List.length_cons] at short
      omega

/-- The same access keeps a cache within a larger one. -/
theorem Nested.touch {n m : Nat} {small large : List K} (nested : Nested n small large)
    (le : n ≤ m) (fits : Fits n small) (fits' : Fits m large) (fetched : Bool) (k : K) :
    Nested n (touch n fetched small k) (touch m fetched large k) := by
  by_cases held : k ∈ small
  · rw [touch_of_mem held, touch_of_mem (nested.sublist.subset held)]
    refine ⟨(nested.sublist.erase k).cons_cons k, fun room => ?_⟩
    rw [List.length_cons, List.length_erase_of_mem held] at room
    have some_key := List.length_pos_of_mem held
    rw [nested.room (by omega)]
  · by_cases held' : k ∈ large
    · -- the key was dropped by the small cache, which has been full ever since
      have full : ¬ small.length < n := fun room => held (nested.room room ▸ held')
      have rest : small.Sublist (large.erase k) := by
        have erased := nested.sublist.erase k
        rwa [List.erase_of_not_mem held] at erased
      rw [touch_of_mem held']
      cases fetched with
      | true =>
        rw [touch_fetched held]
        refine ⟨(List.take_sublist _ _).trans (rest.cons_cons k), fun room => ?_⟩
        rw [List.length_take, List.length_cons] at room
        omega
      | false =>
        rw [touch_unfetched held]
        exact ⟨rest.cons k, fun room => absurd room full⟩
    · cases fetched with
      | true =>
        rw [touch_fetched held, touch_fetched held']
        exact take_sublist_take nested le fits.length fits'.length
      | false =>
        rw [touch_unfetched held, touch_unfetched held']
        exact nested

/-! ## What was used lately -/

/-- With the keys of `seen` used since `k`: they are the keys before it, or they have pushed
it out. -/
def Since (n : Nat) (keys : List K) (k : K) (seen : List K) : Prop :=
  (∃ before after, keys = before ++ k :: after ∧ ∀ x, x ∈ before ↔ x ∈ seen) ∨
    k ∉ keys ∧ n ≤ seen.toFinset.card

theorem Since.first (n : Nat) (k : K) (keys : List K) : Since n (k :: keys) k [] :=
  Or.inl ⟨[], keys, rfl, fun _ => Iff.rfl⟩

/-- The keys before another one are as many as were used since. -/
theorem card_before {before seen : List K} (nodup : before.Nodup)
    (same : ∀ x, x ∈ before ↔ x ∈ seen) : seen.toFinset.card = before.length := by
  rw [← List.toFinset_card_of_nodup nodup]
  congr 1
  ext x
  rw [List.mem_toFinset, List.mem_toFinset, same]

/-- An access that fails to fetch its key is none. -/
theorem Since.unfetched {n : Nat} {keys seen : List K} {k k' : K} (since : Since n keys k seen)
    (absent : k' ∉ keys) : Since n (touch n false keys k') k seen := by
  rwa [touch_unfetched absent]

/-- An access to another key. -/
theorem Since.touch {n : Nat} {keys seen : List K} {k k' : K} {fetched : Bool}
    (since : Since n keys k seen) (fits : Fits n keys) (other : k' ≠ k)
    (comes : k' ∈ keys ∨ fetched = true) : Since n (touch n fetched keys k') k (k' :: seen) := by
  rcases since with ⟨before, after, rfl, same⟩ | ⟨gone, many⟩
  · by_cases held : k' ∈ before ++ k :: after
    · rw [touch_of_mem held]
      refine Or.inl ?_
      by_cases ahead : k' ∈ before
      · refine ⟨k' :: before.erase k', after, by rw [List.erase_append_left _ ahead]; rfl,
          fun x => ?_⟩
        by_cases here : x = k'
        · simp [here]
        · rw [List.mem_cons, List.mem_cons, List.mem_erase_of_ne here, same]
      · refine ⟨k' :: before, after.erase k', ?_, fun x => by
          rw [List.mem_cons, List.mem_cons, same]⟩
        rw [List.erase_append_right _ ahead, List.erase_cons_tail (by simpa using Ne.symm other)]
        rfl
    · obtain rfl : fetched = true := comes.resolve_left held
      rw [touch_fetched held]
      have bound := fits.length
      rw [List.length_append, List.length_cons] at bound
      have ahead : ∀ x, x ∈ k' :: before ↔ x ∈ k' :: seen := fun x => by
        rw [List.mem_cons, List.mem_cons, same]
      by_cases room : before.length + 2 ≤ n
      · refine Or.inl ⟨k' :: before, after.take (n - (before.length + 2)), ?_, ahead⟩
        have split : k' :: (before ++ k :: after) = (k' :: before ++ [k]) ++ after := by simp
        have fitting : (k' :: before ++ [k]).length ≤ n := by
          rw [List.length_append, List.length_cons, List.length_singleton]
          omega
        rw [split, List.take_append, List.take_of_length_le fitting]
        simp
      · -- the key was last, and goes
        have last : before.length + 1 = n := by omega
        have kept : (k' :: before ++ k :: after).take n = k' :: before := by
          have length : (k' :: before).length = n := last
          rw [List.take_append, List.take_of_length_le (Nat.le_of_eq length), length, Nat.sub_self,
            List.take_zero, List.append_nil]
        have whole := fits.nodup
        rw [List.nodup_append] at whole
        have fresh : k' ∉ before := fun inside => held (List.mem_append_left _ inside)
        refine Or.inr ?_
        rw [← List.cons_append, kept,
          card_before (List.nodup_cons.mpr ⟨fresh, whole.1⟩) ahead, List.length_cons, last]
        refine ⟨fun back => ?_, Nat.le_refl _⟩
        rcases List.mem_cons.mp back with same_key | inside
        · exact other same_key.symm
        · exact whole.2.2 k inside k List.mem_cons_self rfl
  · refine Or.inr ⟨fun back => ?_, ?_⟩
    · exact (mem_of_mem_touch back).elim (fun same => other same.symm) gone
    · rw [List.toFinset_cons]
      exact many.trans (Finset.card_le_card (Finset.subset_insert _ _))

/-- A key is held exactly if fewer keys than there are places for were used since. -/
theorem Since.mem_iff {n : Nat} {keys seen : List K} {k : K} (since : Since n keys k seen)
    (fits : Fits n keys) : k ∈ keys ↔ seen.toFinset.card < n := by
  rcases since with ⟨before, after, rfl, same⟩ | ⟨gone, many⟩
  · have bound := fits.length
    rw [List.length_append, List.length_cons] at bound
    rw [card_before (List.nodup_append.mp fits.nodup).1 same]
    exact iff_of_true (by simp) (by omega)
  · exact iff_of_false gone (Nat.not_lt.mpr many)

end Recency

/-! ## Caches that evict by recency -/

/-- A cache that keeps its keys in a recency list: a lookup brings a held key to the front, an
entry comes in at the front, and the last one goes if there are too many. -/
structure Lru.ByRecency {C K V : Type} [DecidableEq K] (L : Lru C K V) where
  keys : C → List K
  size : C → Nat
  pos : ∀ c, 0 < size c
  fits : ∀ c, Recency.Fits (size c) (keys c)
  new : ∀ {n c}, L.new n = .ok c → size c = n.toNat ∧ keys c = []
  contents : ∀ c k, L.contents c k ≠ none ↔ k ∈ keys c
  keys_get : ∀ c k, keys (L.get c k).2 = if k ∈ keys c then k :: (keys c).erase k else keys c
  size_get : ∀ c k, size (L.get c k).2 = size c
  keys_add : ∀ c k v, keys (L.add c k v) = (k :: (keys c).erase k).take (size c)
  size_add : ∀ c k v, size (L.add c k v) = size c

/-- What is written at the key in front moves no key. -/
theorem Lru.ByRecency.keys_add_front {C K V : Type} [DecidableEq K] {L : Lru C K V}
    (recent : L.ByRecency) {c : C} {k : K} (v : V) {rest : List K}
    (front : recent.keys c = k :: rest) : recent.keys (L.add c k v) = k :: rest := by
  have length := (recent.fits c).length
  rw [front] at length
  rw [recent.keys_add, front, List.erase_cons_head, List.take_of_length_le length]

namespace ListLru

variable {K V : Type}

/-- The keys of a cache, most recently used first. -/
def keys (c : ListLru K V) : List K := c.entries.map Prod.fst

theorem fits_keys (c : ListLru K V) : Recency.Fits c.size c.keys :=
  ⟨c.nodup, by rw [keys, List.length_map]; exact c.bounded⟩

theorem keys_new {n : Int} {c : ListLru K V} (made : new n = .ok c) :
    c.size = n.toNat ∧ c.keys = [] := by
  unfold new at made
  split at made
  · cases made
    exact ⟨rfl, rfl⟩
  · cases made

variable [DecidableEq K]

theorem keys_others (entries : List (K × V)) (k : K) (nodup : (entries.map Prod.fst).Nodup) :
    (others entries k).map Prod.fst = (entries.map Prod.fst).erase k := by
  rw [nodup.erase_eq_filter, others, List.filter_map]
  congr 1
  exact List.filter_congr fun e _ => by by_cases same : e.1 = k <;> simp [same]

theorem contents_iff_mem (c : ListLru K V) (k : K) : c.contents k ≠ none ↔ k ∈ c.keys := by
  constructor
  · intro held
    by_contra absent
    exact held (lookup_eq_none_of_not_mem c.entries absent)
  · intro member
    obtain ⟨e, inside, rfl⟩ := List.mem_map.mp member
    rw [contents, ne_eq, List.lookup_eq_none_iff]
    intro none
    simpa using none e inside

theorem keys_get (c : ListLru K V) (k : K) :
    (c.get k).2.keys = if k ∈ c.keys then k :: c.keys.erase k else c.keys := by
  have held := contents_iff_mem c k
  unfold get
  split
  · next absent => rw [if_neg fun member => held.mpr member absent]
  · next v found =>
    rw [if_pos (held.mp (by rw [contents, found]; simp))]
    exact congrArg (k :: ·) (keys_others c.entries k c.nodup)

theorem size_get (c : ListLru K V) (k : K) : (c.get k).2.size = c.size := by
  unfold get
  split <;> rfl

theorem keys_add (c : ListLru K V) (k : K) (v : V) :
    (c.add k v).keys = (k :: c.keys.erase k).take c.size := by
  rw [keys, add, List.map_take, List.map_cons, keys_others c.entries k c.nodup]
  rfl

end ListLru

/-- The list implementation evicts by recency. -/
def listLruByRecency (K V : Type) [DecidableEq K] : (listLru K V).ByRecency where
  keys := ListLru.keys
  size := ListLru.size
  pos := ListLru.pos
  fits := ListLru.fits_keys
  new := ListLru.keys_new
  contents := ListLru.contents_iff_mem
  keys_get := ListLru.keys_get
  size_get := ListLru.size_get
  keys_add := ListLru.keys_add
  size_add _ _ _ := rfl

end MysqlRedshift.Misc
