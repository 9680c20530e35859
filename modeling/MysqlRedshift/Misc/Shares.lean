import Mathlib.Algebra.BigOperators.Group.Finset.Piecewise
import Mathlib.Algebra.Order.Monoid.Unbundled.Basic

/-!
# Shares of a total

Parties have shares of a total, in any ordered commutative monoid, when any of them have
together at most the total. What one party gains, as long as the total gains as much, leaves
this so, and nobody else has to be looked at.
-/

namespace MysqlRedshift.Misc

variable {ι M : Type*} [AddCommMonoid M] [Preorder M]

/-- Any parties have together at most `total`. -/
def SharesWithin (share : ι → M) (total : M) : Prop :=
  ∀ parties : Finset ι, ∑ i ∈ parties, share i ≤ total

namespace SharesWithin

variable {share : ι → M} {total : M}

theorem zero (pos : 0 ≤ total) : SharesWithin (fun _ : ι => (0 : M)) total := by
  intro parties
  rw [Finset.sum_const_zero]
  exact pos

variable [AddLeftMono M]

/-- Smaller shares are within the total too. -/
theorem mono {share' : ι → M} (within : SharesWithin share total) (less : ∀ i, share' i ≤ share i) :
    SharesWithin share' total := by
  classical
  intro parties
  refine le_trans ?_ (within parties)
  induction parties using Finset.induction_on with
  | empty => exact le_refl _
  | insert i parties new ih =>
    rw [Finset.sum_insert new, Finset.sum_insert new]
    exact add_le_add (less i) ih

/-- A party gains at most what the total gains. -/
theorem update [DecidableEq ι] {i : ι} {share' gain : M} (within : SharesWithin share total)
    (gains : share' ≤ share i + gain) (pos : 0 ≤ gain) :
    SharesWithin (Function.update share i share') (total + gain) := by
  intro parties
  by_cases member : i ∈ parties
  · rw [Finset.sum_update_of_mem member]
    have before := within parties
    rw [← Finset.add_sum_erase parties share member, Finset.erase_eq] at before
    calc share' + ∑ j ∈ parties \ {i}, share j
        ≤ share i + gain + ∑ j ∈ parties \ {i}, share j := by gcongr
      _ = share i + ∑ j ∈ parties \ {i}, share j + gain := add_right_comm ..
      _ ≤ total + gain := by gcongr
  · rw [Finset.sum_update_of_notMem member]
    exact (within parties).trans (le_add_of_nonneg_right pos)

end SharesWithin

end MysqlRedshift.Misc
