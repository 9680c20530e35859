import Mathlib.Data.List.Nodup

/-!
# Lists of rows with a unique key

`upsertWith` is what a database does for `INSERT .. ON CONFLICT (key) DO UPDATE`: the
row with the key is updated in its place, and if there is none the new row is
appended.
-/

namespace MysqlRedshift.Misc

variable {α κ β : Type*} [DecidableEq κ]

/-- Updates the row with key `k`, or appends `x`. -/
def upsertWith (key : α → κ) (k : κ) (update : α → α) (x : α) : List α → List α
  | [] => [x]
  | y :: ys => if key y = k then update y :: ys else y :: upsertWith key k update x ys

variable {key : α → κ} {k : κ} {update : α → α} {x : α} {l : List α}

theorem upsertWith_of_absent (h : ∀ y ∈ l, key y ≠ k) : upsertWith key k update x l = l ++ [x] := by
  induction l with
  | nil => rfl
  | cons y ys ih =>
    rw [upsertWith, if_neg (h y List.mem_cons_self), List.cons_append,
      ih fun z member => h z (List.mem_cons_of_mem _ member)]

/-- An update in place keeps the list of an attribute that it does not change. -/
theorem map_upsertWith_of_present {g : α → β} (same : ∀ y, g (update y) = g y)
    (h : ∃ y ∈ l, key y = k) : (upsertWith key k update x l).map g = l.map g := by
  induction l with
  | nil => obtain ⟨y, member, -⟩ := h; cases member
  | cons y ys ih =>
    by_cases here : key y = k
    · simp only [upsertWith, here, if_true, List.map_cons, same]
    · obtain ⟨z, member, keyed⟩ := h
      have later : z ∈ ys := by
        rcases List.mem_cons.mp member with rfl | later
        · exact absurd keyed here
        · exact later
      simp only [upsertWith, here, if_false, List.map_cons, ih ⟨z, later, keyed⟩]

/-- Where keys are unique, an upsert touches the row with its key and no other. -/
theorem mem_upsertWith_iff (unique : (l.map key).Nodup) {z : α} :
    z ∈ upsertWith key k update x l ↔
      (z ∈ l ∧ key z ≠ k) ∨ (∃ y ∈ l, key y = k ∧ z = update y) ∨
        ((∀ y ∈ l, key y ≠ k) ∧ z = x) := by
  induction l with
  | nil => simp [upsertWith]
  | cons y ys ih =>
    rw [List.map_cons, List.nodup_cons] at unique
    by_cases here : key y = k
    · have others : ∀ z ∈ ys, key z ≠ k := fun z member keyed =>
        unique.1 (List.mem_map.mpr ⟨z, member, keyed.trans here.symm⟩)
      simp only [upsertWith, here, if_true, List.mem_cons]
      constructor
      · rintro (rfl | member)
        · exact Or.inr (Or.inl ⟨y, Or.inl rfl, here, rfl⟩)
        · exact Or.inl ⟨Or.inr member, others z member⟩
      · rintro (⟨rfl | member, differs⟩ | ⟨w, rfl | member, keyed, rfl⟩ | ⟨absent, -⟩)
        · exact absurd here differs
        · exact Or.inr member
        · exact Or.inl rfl
        · exact absurd keyed (others w member)
        · exact absurd here (absent y (Or.inl rfl))
    · simp only [upsertWith, here, if_false, List.mem_cons, ih unique.2]
      constructor
      · rintro (rfl | ⟨member, differs⟩ | ⟨w, member, keyed, rfl⟩ | ⟨absent, rfl⟩)
        · exact Or.inl ⟨Or.inl rfl, here⟩
        · exact Or.inl ⟨Or.inr member, differs⟩
        · exact Or.inr (Or.inl ⟨w, Or.inr member, keyed, rfl⟩)
        · refine Or.inr (Or.inr ⟨?_, rfl⟩)
          rintro w (rfl | member)
          · exact here
          · exact absent w member
      · rintro (⟨rfl | member, differs⟩ | ⟨w, rfl | member, keyed, rfl⟩ | ⟨absent, rfl⟩)
        · exact Or.inl rfl
        · exact Or.inr (Or.inl ⟨member, differs⟩)
        · exact absurd keyed here
        · exact Or.inr (Or.inr (Or.inl ⟨w, member, keyed, rfl⟩))
        · exact Or.inr (Or.inr (Or.inr ⟨fun w member => absent w (Or.inr member), rfl⟩))

/-- An attribute that updates keep stays unique if the new row's is new. -/
theorem nodup_map_upsertWith {g : α → β} (same : ∀ y, g (update y) = g y)
    (unique : (l.map g).Nodup) (new : (∀ y ∈ l, key y ≠ k) → ∀ y ∈ l, g y ≠ g x) :
    ((upsertWith key k update x l).map g).Nodup := by
  by_cases present : ∃ y ∈ l, key y = k
  · rw [map_upsertWith_of_present same present]
    exact unique
  · have absent : ∀ y ∈ l, key y ≠ k := fun y member keyed => present ⟨y, member, keyed⟩
    rw [upsertWith_of_absent absent, List.map_append, List.nodup_append]
    refine ⟨unique, List.nodup_singleton _, ?_⟩
    intro a before b last same_value
    obtain ⟨y, member, rfl⟩ := List.mem_map.mp before
    rw [List.map_cons, List.map_nil, List.mem_singleton] at last
    exact new absent y member (same_value.trans last)

end MysqlRedshift.Misc
