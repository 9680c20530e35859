import Mathlib.Data.List.Basic
import Mathlib.Logic.Function.Basic

/-!
# Partial step machines

A machine moves from state to state by labels. A label resolves everything that
is left open in a step (which party moves, what an outside party answers), so a
step is a partial function and a schedule is a list of labels. `run` executes a
schedule; `Along` says that each of its steps, in the state it is taken from,
meets a condition; `Reaches` says that some schedule leads to one. The rules below
are the only inductions over schedules that the systems of this project need.
-/

namespace MysqlRedshift.Misc

/-- A system over states `σ` and labels `ℓ`: `step s l` is the state after `l`,
and `none` where `l` cannot happen in `s`. -/
structure Machine (σ : Type*) (ℓ : Type*) where
  step : σ → ℓ → Option σ

namespace Machine

variable {σ ℓ : Type*} (M : Machine σ ℓ)

/-- The state after the labels of a schedule, oldest first. -/
def run (s : σ) : List ℓ → Option σ
  | [] => some s
  | l :: ls => (M.step s l).bind fun t => run t ls

/-- Each label of the schedule meets `C` in the state in which it is reached. -/
def Along (C : σ → ℓ → Prop) (s : σ) (ls : List ℓ) : Prop :=
  ∀ before l after t, ls = before ++ l :: after → M.run s before = some t → C t l

@[simp] theorem run_nil (s : σ) : M.run s [] = some s := rfl

@[simp] theorem run_cons (s : σ) (l : ℓ) (ls : List ℓ) :
    M.run s (l :: ls) = (M.step s l).bind fun t => M.run t ls := rfl

/-- A run is cut in two at any point of its schedule. -/
theorem run_append (s : σ) (ls ms : List ℓ) :
    M.run s (ls ++ ms) = (M.run s ls).bind fun t => M.run t ms := by
  induction ls generalizing s with
  | nil => rfl
  | cons l ls ih =>
    cases hstep : M.step s l with
    | none => simp [hstep]
    | some t => simpa [hstep] using ih t

theorem run_append_of {s t : σ} {ls : List ℓ} (h : M.run s ls = some t) (ms : List ℓ) :
    M.run s (ls ++ ms) = M.run t ms := by
  rw [run_append, h, Option.bind_some]

variable {M}

/-- A run ends with a step from the state before it. -/
theorem run_concat_iff {s t : σ} {ls : List ℓ} {l : ℓ} :
    M.run s (ls ++ [l]) = some t ↔ ∃ u, M.run s ls = some u ∧ M.step u l = some t := by
  rw [run_append, Option.bind_eq_some_iff]
  simp only [run_cons, run_nil, Option.bind_fun_some]

/-- Some run from `s` ends in a state with `P`. -/
def Reaches (M : Machine σ ℓ) (s : σ) (P : σ → Prop) : Prop :=
  ∃ ls t, M.run s ls = some t ∧ P t

theorem Reaches.here {P : σ → Prop} {s : σ} (h : P s) : M.Reaches s P :=
  ⟨[], s, rfl, h⟩

theorem Reaches.step {P : σ → Prop} {s u : σ} (l : ℓ) (hstep : M.step s l = some u)
    (h : M.Reaches u P) : M.Reaches s P := by
  obtain ⟨ls, t, hrun, ht⟩ := h
  exact ⟨l :: ls, t, by rw [run_cons, hstep]; exact hrun, ht⟩

theorem Reaches.trans {P Q : σ → Prop} {s : σ} (h : M.Reaches s P)
    (next : ∀ t, P t → M.Reaches t Q) : M.Reaches s Q := by
  obtain ⟨ls, t, hrun, ht⟩ := h
  obtain ⟨ms, u, hrun', hu⟩ := next t ht
  exact ⟨ls ++ ms, u, by rw [M.run_append_of hrun]; exact hrun', hu⟩

theorem Along.head {C : σ → ℓ → Prop} {s : σ} {l : ℓ} {ls : List ℓ}
    (h : M.Along C s (l :: ls)) : C s l :=
  h [] l ls s rfl rfl

theorem Along.tail {C : σ → ℓ → Prop} {s t : σ} {l : ℓ} {ls : List ℓ}
    (h : M.Along C s (l :: ls)) (hstep : M.step s l = some t) : M.Along C t ls := by
  intro before m after u hsplit hrun
  apply h (l :: before) m after u
  · rw [hsplit]; rfl
  · rw [run_cons, hstep]; exact hrun

theorem along_nil (C : σ → ℓ → Prop) (s : σ) : M.Along C s [] := by
  intro before l after t hsplit
  simp at hsplit

/-- A condition that the labels of a schedule meet in every state. -/
theorem along_of_forall {C : σ → ℓ → Prop} {ls : List ℓ} (everywhere : ∀ l ∈ ls, ∀ t, C t l)
    (s : σ) : M.Along C s ls := by
  rintro before l after t rfl -
  exact everywhere l (by simp) t

/-- A condition along a schedule, label by label. -/
theorem along_cons {C : σ → ℓ → Prop} {s : σ} {l : ℓ} {ls : List ℓ} (here : C s l)
    (rest : ∀ t, M.step s l = some t → M.Along C t ls) : M.Along C s (l :: ls) := by
  intro before m after u hsplit hrun
  cases before with
  | nil =>
    cases hsplit
    cases hrun
    exact here
  | cons b before =>
    obtain ⟨rfl, hrest⟩ := List.cons.inj hsplit
    obtain ⟨t, hstep, hrun⟩ := Option.bind_eq_some_iff.mp hrun
    exact rest t hstep before m after u hrest hrun

/-- A condition along a schedule whose first step is known. -/
theorem along_step {C : σ → ℓ → Prop} {s t : σ} {l : ℓ} {ls : List ℓ} (hstep : M.step s l = some t)
    (here : C s l) (rest : M.Along C t ls) : M.Along C s (l :: ls) := by
  refine along_cons here fun u hu => ?_
  rw [hstep] at hu
  cases hu
  exact rest

/-- Two runs along a condition, one after the other. -/
theorem Along.append {C : σ → ℓ → Prop} {s t : σ} {ls ms : List ℓ} (h : M.Along C s ls)
    (hrun : M.run s ls = some t) (h' : M.Along C t ms) : M.Along C s (ls ++ ms) := by
  induction ls generalizing s with
  | nil =>
    cases hrun
    exact h'
  | cons l ls ih =>
    obtain ⟨u, hu, hrest⟩ := Option.bind_eq_some_iff.mp hrun
    exact along_step hu h.head (ih (h.tail hu) hrest)

theorem Along.of_prefix {C : σ → ℓ → Prop} {s : σ} {ls ms : List ℓ}
    (h : M.Along C s (ls ++ ms)) : M.Along C s ls := by
  intro before l after t hsplit hrun
  apply h before l (after ++ ms) t _ hrun
  rw [hsplit, List.append_assoc]
  rfl

/-- What every step preserves holds at the end of a run. -/
theorem run_induction {I : σ → Prop} (hstep : ∀ s l t, I s → M.step s l = some t → I t)
    {s t : σ} {ls : List ℓ} (hs : I s) (hrun : M.run s ls = some t) : I t := by
  induction ls generalizing s with
  | nil => cases hrun; exact hs
  | cons l ls ih =>
    obtain ⟨u, hu, hrest⟩ := Option.bind_eq_some_iff.mp hrun
    exact ih (hstep s l u hs hu) hrest

/-- What every step that meets `C` preserves holds at the end of a run along `C`. -/
theorem run_induction_along {I : σ → Prop} {C : σ → ℓ → Prop}
    (hstep : ∀ s l t, I s → C s l → M.step s l = some t → I t)
    {s t : σ} {ls : List ℓ} (hs : I s) (hC : M.Along C s ls) (hrun : M.run s ls = some t) :
    I t := by
  induction ls generalizing s with
  | nil => cases hrun; exact hs
  | cons l ls ih =>
    obtain ⟨u, hu, hrest⟩ := Option.bind_eq_some_iff.mp hrun
    exact ih (hstep s l u hs hC.head hu) (hC.tail hu) hrest

/-- What a run shows at its end was there when it began, or comes of one of its steps. -/
theorem run_origin {α : Type*} (view : σ → α) (Origin : σ → ℓ → α → Prop)
    (hstep : ∀ s l t, M.step s l = some t → view t = view s ∨ Origin s l (view t))
    {s t : σ} {ls : List ℓ} (hrun : M.run s ls = some t) :
    view t = view s ∨ ∃ before l after u, ls = before ++ l :: after ∧
      M.run s before = some u ∧ Origin u l (view t) := by
  induction ls generalizing s with
  | nil =>
    cases hrun
    exact Or.inl rfl
  | cons l ls ih =>
    obtain ⟨u, hu, hrest⟩ := Option.bind_eq_some_iff.mp hrun
    rcases ih hrest with kept | ⟨before, m, after, v, rfl, hbefore, origin⟩
    · rw [kept]
      rcases hstep s l u hu with kept | origin
      · exact Or.inl kept
      · exact Or.inr ⟨[], l, ls, s, rfl, rfl, origin⟩
    · refine Or.inr ⟨l :: before, m, after, v, rfl, ?_, origin⟩
      rw [run_cons, hu]
      exact hbefore

/-- What a schedule costs. -/
def spent (cost : ℓ → Nat) : List ℓ → Nat
  | [] => 0
  | l :: ls => cost l + spent cost ls

/-- What each step takes off a balance is in all at most the balance. -/
theorem run_spends (balance : σ → Nat) (cost : ℓ → Nat)
    (hstep : ∀ s l t, M.step s l = some t → balance t + cost l ≤ balance s)
    {s t : σ} {ls : List ℓ} (hrun : M.run s ls = some t) :
    balance t + spent cost ls ≤ balance s := by
  induction ls generalizing s with
  | nil =>
    cases hrun
    exact Nat.le_refl _
  | cons l ls ih =>
    obtain ⟨u, hu, hrest⟩ := Option.bind_eq_some_iff.mp hrun
    have first := hstep s l u hu
    have later := ih hrest
    rw [spent]
    omega

/-- Two conditions met along a run are met together. -/
theorem along_and {C D : σ → ℓ → Prop} {s : σ} {ls : List ℓ} (hC : M.Along C s ls)
    (hD : M.Along D s ls) : M.Along (fun t l => C t l ∧ D t l) s ls :=
  fun before l after t hsplit hrun =>
    ⟨hC before l after t hsplit hrun, hD before l after t hsplit hrun⟩

end Machine

/-- An entry of an updated map is the new one or an old one at another place. -/
theorem update_some_cases {α β : Type*} [DecidableEq α] {f : α → Option β} {a a' : α} {b b' : β}
    (h : Function.update f a (some b) a' = some b') :
    a' = a ∧ b' = b ∨ a' ≠ a ∧ f a' = some b' := by
  by_cases same : a' = a
  · subst same
    rw [Function.update_self] at h
    exact Or.inl ⟨rfl, (Option.some.inj h).symm⟩
  · rw [Function.update_of_ne same] at h
    exact Or.inr ⟨same, h⟩

end MysqlRedshift.Misc
