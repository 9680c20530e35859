import MysqlRedshift.Misc.Machine

/-!
# Projections of machines

A machine that is put together from others is seen as one of them through a
projection: the part of its state that the other machine moves, and what each of its
labels means to that machine, which is nothing for the steps of the other parts. A run
of the whole is then a run of the part, so that what holds of every run of the part
holds of it in the whole.
-/

namespace MysqlRedshift.Misc

variable {σ ℓ τ κ : Type*} {M : Machine σ ℓ} {N : Machine τ κ}

/-- `M` seen as `N`. A label without a meaning leaves the part of `N` alone. -/
structure Projection (M : Machine σ ℓ) (N : Machine τ κ) where
  abs : σ → τ
  label : σ → ℓ → Option κ
  silent : ∀ {s l t}, M.step s l = some t → label s l = none → abs t = abs s
  moves : ∀ {s l t k}, M.step s l = some t → label s l = some k → N.step (abs s) k = some (abs t)

namespace Projection

variable (P : Projection M N)

/-- The schedule of `N` in one of `M`. -/
def labels (s : σ) : List ℓ → List κ
  | [] => []
  | l :: ls => (P.label s l).toList ++ (M.step s l).elim [] fun t => labels t ls

variable {P} {s t : σ} {ls : List ℓ}

/-- A run of the whole is a run of the part. -/
theorem run_labels (run : M.run s ls = some t) :
    N.run (P.abs s) (P.labels s ls) = some (P.abs t) := by
  induction ls generalizing s with
  | nil =>
    cases run
    rfl
  | cons l ls ih =>
    obtain ⟨u, hstep, rest⟩ := Option.bind_eq_some_iff.mp run
    have later := ih rest
    cases meaning : P.label s l with
    | none =>
      rw [P.silent hstep meaning] at later
      simpa only [labels, meaning, hstep, Option.toList_none, Option.elim_some,
        List.nil_append] using later
    | some k =>
      simp only [labels, meaning, hstep, Option.toList_some, Option.elim_some, List.cons_append,
        List.nil_append, Machine.run_cons, P.moves hstep meaning, Option.bind_some]
      exact later

end Projection

end MysqlRedshift.Misc
