import Mathlib.Data.List.Sort
import Mathlib.Data.Prod.Lex

/-!
# Sorting and pairing off

`sortBy` is the sort of Python: in the order of keys, and as before where keys are
equal. A way to compare two collections is to sort both and to relate them place by
place. Here that is compared with what it stands for: that the two can be paired off
so that the relation holds of every pair.
-/

namespace MysqlRedshift.Misc

variable {α β K K' : Type*} [LinearOrder K] [LinearOrder K']

/-- `sorted(l, key=key)`. -/
def sortBy (key : α → K) (l : List α) : List α := l.insertionSort fun a b => key a ≤ key b

theorem sortBy_perm (key : α → K) (l : List α) : (sortBy key l).Perm l :=
  List.perm_insertionSort ..

theorem length_sortBy (key : α → K) (l : List α) : (sortBy key l).length = l.length :=
  (sortBy_perm key l).length_eq

theorem pairwise_sortBy (key : α → K) (l : List α) :
    (sortBy key l).Pairwise fun a b => key a ≤ key b := by
  have total : Std.Total fun a b => key a ≤ key b := ⟨fun a b => le_total (key a) (key b)⟩
  have trans : IsTrans α fun a b => key a ≤ key b := ⟨fun _ _ _ h h' => h.trans h'⟩
  exact List.pairwise_insertionSort _ l

/-! ## Pairings -/

/-- The pairs of `l` use every element of `as` and every element of `bs` once. -/
def Pairs (l : List (α × β)) (as : List α) (bs : List β) : Prop :=
  (l.map Prod.fst).Perm as ∧ (l.map Prod.snd).Perm bs

/-- `R` holds of every pair. -/
def Agree (R : α → β → Prop) (l : List (α × β)) : Prop := ∀ p ∈ l, R p.1 p.2

/-- `as` and `bs` can be paired off so that `R` holds of every pair. -/
def Pairable (R : α → β → Prop) (as : List α) (bs : List β) : Prop :=
  ∃ l, Pairs l as bs ∧ Agree R l

/-- The first elements of the pairs are in the order of the second ones; elements of equal
keys may come in any order. -/
def InOrder (key : α → K) (key' : β → K') (l : List (α × β)) : Prop :=
  ∀ p ∈ l, ∀ q ∈ l, key p.1 < key q.1 → key' p.2 ≤ key' q.2

omit [LinearOrder K] [LinearOrder K'] in
theorem Pairs.perm {l : List (α × β)} {as as' : List α} {bs bs' : List β} (pairs : Pairs l as bs)
    (left : as.Perm as') (right : bs.Perm bs') : Pairs l as' bs' :=
  ⟨pairs.1.trans left, pairs.2.trans right⟩

theorem Pairable.perm {R : α → β → Prop} {as as' : List α} {bs bs' : List β}
    (pairable : Pairable R as bs) (left : as.Perm as') (right : bs.Perm bs') :
    Pairable R as' bs' := by
  obtain ⟨l, pairs, agree⟩ := pairable
  exact ⟨l, pairs.perm left right, agree⟩

theorem pairs_zip {as : List α} {bs : List β} (same : as.length = bs.length) :
    Pairs (as.zip bs) as bs := by
  constructor
  · rw [List.map_fst_zip same.le]
  · rw [List.map_snd_zip same.ge]

theorem forall₂_iff_agree_zip {R : α → β → Prop} {as : List α} {bs : List β} :
    List.Forall₂ R as bs ↔ as.length = bs.length ∧ Agree R (as.zip bs) := by
  rw [List.forall₂_iff_zip]
  constructor
  · rintro ⟨same, related⟩
    exact ⟨same, fun p member => related member⟩
  · rintro ⟨same, agree⟩
    exact ⟨same, fun member => agree _ member⟩

/-- Relating place by place is a way of pairing off. -/
theorem pairable_of_forall₂_sortBy {R : α → β → Prop} {key : α → K} {key' : β → K'} {as : List α}
    {bs : List β} (related : List.Forall₂ R (sortBy key as) (sortBy key' bs)) :
    Pairable R as bs := by
  have ⟨same, agree⟩ := forall₂_iff_agree_zip.mp related
  exact ⟨_, (pairs_zip same).perm (sortBy_perm key as) (sortBy_perm key' bs), agree⟩

/-- It is one that keeps the order of the keys. -/
theorem inOrder_zip {key : α → K} {key' : β → K'} {as : List α} {bs : List β}
    (left : as.Pairwise fun a b => key a ≤ key b)
    (right : bs.Pairwise fun a b => key' a ≤ key' b) : InOrder key key' (as.zip bs) := by
  induction as generalizing bs with
  | nil => simp [InOrder]
  | cons a as ih =>
    cases bs with
    | nil => simp [InOrder]
    | cons b bs =>
      have ⟨least, left⟩ := List.pairwise_cons.mp left
      have ⟨least', right⟩ := List.pairwise_cons.mp right
      intro p first q second smaller
      rcases List.mem_cons.mp first with rfl | first
      · rcases List.mem_cons.mp second with rfl | second
        · exact le_rfl
        · exact least' _ (List.of_mem_zip second).2
      · rcases List.mem_cons.mp second with rfl | second
        · exact absurd smaller (least _ (List.of_mem_zip first).1).not_gt
        · exact ih left right p first q second smaller

/-- Every pairing in the order of the keys can be had by sorting, if both sides are first
put in the order of their pairs. -/
theorem InOrder.exists_sorted {key : α → K} {key' : β → K'} {l : List (α × β)}
    (inOrder : InOrder key key' l) :
    ∃ l' : List (α × β), l'.Perm l ∧ sortBy key (l'.map Prod.fst) = l'.map Prod.fst ∧
      sortBy key' (l'.map Prod.snd) = l'.map Prod.snd := by
  let both : α × β → K ×ₗ K' := fun p => toLex (key p.1, key' p.2)
  have perm := sortBy_perm both l
  have sorted := pairwise_sortBy both l
  refine ⟨sortBy both l, perm, ?_, ?_⟩
  · apply List.Pairwise.insertionSort_eq
    rw [List.pairwise_map]
    apply sorted.imp
    intro p q le
    rcases Prod.Lex.toLex_le_toLex.mp le with smaller | ⟨equal, -⟩
    · exact smaller.le
    · exact equal.le
  · apply List.Pairwise.insertionSort_eq
    rw [List.pairwise_map]
    apply sorted.imp_of_mem
    intro p q first second le
    rcases Prod.Lex.toLex_le_toLex.mp le with smaller | ⟨-, le⟩
    · exact inOrder p (perm.mem_iff.mp first) q (perm.mem_iff.mp second) smaller
    · exact le

/-- Two collections compare well by sorting, in whatever order they are given, when every
pairing in the order of the keys agrees. -/
theorem forall_perm_forall₂_sortBy_iff {R : α → β → Prop} {key : α → K} {key' : β → K'}
    {as : List α} {bs : List β} (same : as.length = bs.length) :
    (∀ as' bs', as'.Perm as → bs'.Perm bs → List.Forall₂ R (sortBy key as') (sortBy key' bs')) ↔
      ∀ l, Pairs l as bs → InOrder key key' l → Agree R l := by
  constructor
  · intro related l pairs inOrder
    obtain ⟨l', perm, left, right⟩ := inOrder.exists_sorted
    have at_l' := related (l'.map Prod.fst) (l'.map Prod.snd) ((perm.map _).trans pairs.1)
      ((perm.map _).trans pairs.2)
    rw [left, right, List.forall₂_map_left_iff, List.forall₂_map_right_iff, List.forall₂_same]
      at at_l'
    intro p member
    exact at_l' p (perm.mem_iff.mpr member)
  · intro agree as' bs' left right
    have left := (sortBy_perm key as').trans left
    have right := (sortBy_perm key' bs').trans right
    have same' : (sortBy key as').length = (sortBy key' bs').length := by
      rw [left.length_eq, right.length_eq, same]
    rw [forall₂_iff_agree_zip]
    refine ⟨same', agree _ ((pairs_zip same').perm left right) ?_⟩
    exact inOrder_zip (pairwise_sortBy key as') (pairwise_sortBy key' bs')

end MysqlRedshift.Misc
