import MysqlRedshift.Misc.RegexLaws
import MysqlRedshift.Misc.TextLaws

/-!
# What a replacement leaves of a text

A replacement puts one character in place of some parts of a text and keeps the others in
their order (`Replaced`). What such a text still tells about the one it came from is known
from the parts that may be replaced alone; which of them a search finds does not matter.
-/

namespace MysqlRedshift.Misc

/-- The second text is the first with the character `c` in place of some parts in `L`. -/
inductive Replaced (L : List Char → Prop) (c : Char) : List Char → List Char → Prop where
  | nil : Replaced L c [] []
  | keep {u v : List Char} (x : Char) (later : Replaced L c u v) : Replaced L c (x :: u) (x :: v)
  | part {u v : List Char} (s : List Char) (inL : L s) (later : Replaced L c u v) :
      Replaced L c (s ++ u) (c :: v)

namespace Replaced

variable {L : List Char → Prop} {c : Char} {u v : List Char}

/-- A text with a first character begins with it still, or with a part. -/
theorem cons_cases {x : Char} (replaced : Replaced L c (x :: u) v) :
    (∃ v', v = x :: v' ∧ Replaced L c u v') ∨
      ∃ s u' v', x :: u = s ++ u' ∧ L s ∧ v = c :: v' ∧ Replaced L c u' v' := by
  generalize whole : x :: u = text at replaced
  cases replaced with
  | nil => cases whole
  | keep y later =>
    cases whole
    exact Or.inl ⟨_, rfl, later⟩
  | part s inL later => exact Or.inr ⟨s, _, _, rfl, inL, rfl, later⟩

/-- Every character is kept or is the new one. -/
theorem mem {x : Char} (replaced : Replaced L c u v) (member : x ∈ v) : x ∈ u ∨ x = c := by
  induction replaced with
  | nil => cases member
  | keep y _ ih =>
    rcases List.mem_cons.mp member with rfl | later
    · exact Or.inl List.mem_cons_self
    · exact (ih later).imp_left (List.mem_cons_of_mem _)
  | part s _ _ ih =>
    rcases List.mem_cons.mp member with rfl | later
    · exact Or.inr rfl
    · exact (ih later).imp_left (List.mem_append_right s)

theorem all {p : Char → Bool} (replaced : Replaced L c u v) (inside : u.all p = true)
    (new : p c = true) : v.all p = true := by
  rw [List.all_eq_true] at inside ⊢
  intro x member
  rcases replaced.mem member with old | rfl
  · exact inside x old
  · exact new

/-- The text does not begin with a character in `p` if it did not, unless the new one does
where the part did not. -/
theorem startsOutside {p : Char → Bool} (replaced : Replaced L c u v)
    (outside : StartsOutside p u) (some_char : ∀ s, L s → s ≠ [])
    (new : ∀ s, L s → StartsOutside p s → p c = false) : StartsOutside p v := by
  cases replaced with
  | nil => exact outside
  | keep x later => exact outside
  | part s inL later =>
    apply new s inL
    cases s with
    | nil => exact absurd rfl (some_char [] inL)
    | cons x s => exact outside

theorem eq_nil (replaced : Replaced L c u []) : u = [] := by
  cases replaced
  rfl

/-- The text does not end with a character in `p` if it did not, unless the new one does
where the part did not. -/
theorem endsOutside {p : Char → Bool} (replaced : Replaced L c u v) (outside : EndsOutside p u)
    (new : ∀ s, L s → EndsOutside p s → p c = false) : EndsOutside p v := by
  have behind (x : Char) {v : List Char} (nonempty : v ≠ []) :
      EndsOutside p v → EndsOutside p (x :: v) :=
    (endsOutside_append_iff (l := [x]) nonempty).mpr
  induction replaced with
  | nil => exact outside
  | @keep u v x later ih =>
    by_cases nothing : v = []
    · subst nothing
      rw [later.eq_nil] at outside
      exact outside
    · exact behind x nothing (ih (endsOutside_of_append (l := [x]) outside))
  | @part u v s inL later ih =>
    by_cases nothing : v = []
    · subst nothing
      rw [later.eq_nil, List.append_nil] at outside
      exact new s inL outside
    · exact behind c nothing (ih (endsOutside_of_append outside))

/-- A text does not get longer when the parts have a character. -/
theorem length_le (replaced : Replaced L c u v) (some_char : ∀ s, L s → s ≠ []) :
    v.length ≤ u.length := by
  induction replaced with
  | nil => exact Nat.le_refl _
  | keep x _ ih => exact Nat.succ_le_succ ih
  | part s inL _ ih =>
    have := List.length_pos_iff.mpr (some_char s inL)
    rw [List.length_cons, List.length_append]
    omega

/-- No other character than the new one gets more frequent. -/
theorem count_le {x : Char} (replaced : Replaced L c u v) (other : c ≠ x) :
    v.count x ≤ u.count x := by
  induction replaced with
  | nil => exact Nat.le_refl _
  | keep y _ ih =>
    rw [List.count_cons, List.count_cons]
    omega
  | part s _ _ ih =>
    rw [List.count_cons_of_ne other, List.count_append]
    omega

end Replaced

/-! ## Replacements by regular expressions -/

namespace Regex

variable {r : Regex} {L : List Char → Prop}

/-- Every match of the expression consumes a text in `L`. -/
def Takes (r : Regex) (L : List Char → Prop) : Prop :=
  ∀ c, ∀ d ∈ ends r c, ∃ w, c.after = w ++ d.after ∧ L w

/-- A match that takes a text with a character passes the place where it starts. -/
theorem replaceFrom_cons (takes : Takes r L) (some_char : ∀ w, L w → w ≠ []) (repl : List Char)
    (before : List Char) (x : Char) (xs : List Char) :
    replaceFrom r repl 0 before (x :: xs) = x :: replaceFrom r repl 0 (x :: before) xs ∨
      ∃ w rest, x :: xs = (x :: w) ++ rest ∧ L (x :: w) ∧
        replaceFrom r repl 0 before (x :: xs) =
          repl ++ replaceFrom r repl 0 ((x :: w).reverse ++ before) rest := by
  cases here : (ends r ⟨before, x :: xs, []⟩).head? with
  | none => exact Or.inl (replaceFrom_none (List.head?_eq_none_iff.mp here))
  | some d =>
    obtain ⟨w, split, inL⟩ := takes _ d (List.mem_of_head? here)
    cases w with
    | nil => exact absurd rfl (some_char [] inL)
    | cons y w =>
      obtain ⟨rfl, rfl⟩ := List.cons.inj split
      exact Or.inr ⟨w, d.after, rfl, inL, replaceFrom_match here rfl⟩

/-- A replacement goes from match to match: a property of what is left of a text holds if it
holds at the end, in front of a character where no match starts and in front of a match. -/
theorem replaceFrom_induction {motive : List Char → List Char → Prop} (takes : Takes r L)
    (some_char : ∀ w, L w → w ≠ []) (nil : ∀ before, motive before [])
    (kept : ∀ before x xs, ends r ⟨before, x :: xs, []⟩ = [] → motive (x :: before) xs →
      motive before (x :: xs))
    (taken : ∀ before x w rest d, L (x :: w) → d ∈ ends r ⟨before, x :: w ++ rest, []⟩ →
      d.after = rest → (∀ repl, replaceFrom r repl 0 before (x :: w ++ rest) =
        repl ++ replaceFrom r repl 0 ((x :: w).reverse ++ before) rest) →
      motive ((x :: w).reverse ++ before) rest → motive before (x :: w ++ rest))
    (before text : List Char) : motive before text := by
  induction h : text.length using Nat.strongRecOn generalizing before text with
  | ind n ih =>
    subst h
    cases text with
    | nil => exact nil before
    | cons x xs =>
      cases here : (ends r ⟨before, x :: xs, []⟩).head? with
      | none =>
        exact kept before x xs (List.head?_eq_none_iff.mp here)
          (ih xs.length (Nat.lt_succ_self _) _ xs rfl)
      | some d =>
        obtain ⟨w, split, inL⟩ := takes _ d (List.mem_of_head? here)
        cases w with
        | nil => exact absurd rfl (some_char [] inL)
        | cons y w =>
          obtain ⟨rfl, rfl⟩ := List.cons.inj split
          have shorter : d.after.length < (x :: (w ++ d.after)).length := by
            rw [List.length_cons, List.length_append]
            omega
          exact taken before x w d.after d inL (List.mem_of_head? here) rfl
            (fun repl => replaceFrom_match here rfl) (ih _ shorter _ _ rfl)

/-- A part where no match can start is kept. -/
theorem replaceFrom_outside {p : Char → Bool} (takes : Takes r L)
    (first : ∀ w, L w → w.head?.any p = true) (repl before : List Char) {u : List Char}
    (outside : ∀ x ∈ u, p x = false) (rest : List Char) :
    replaceFrom r repl 0 before (u ++ rest) =
      u ++ replaceFrom r repl 0 (u.reverse ++ before) rest := by
  induction u generalizing before with
  | nil => rfl
  | cons x u ih =>
    have ⟨here, later⟩ := List.forall_mem_cons.mp outside
    have nothing : ends r ⟨before, x :: (u ++ rest), []⟩ = [] := by
      apply List.eq_nil_iff_forall_not_mem.mpr
      intro d member
      obtain ⟨w, split, inL⟩ := takes _ d member
      have starts := first w inL
      cases w with
      | nil => cases starts
      | cons y w =>
        obtain ⟨rfl, _⟩ := List.cons.inj split
        exact Bool.false_ne_true (here.symm.trans starts)
    rw [List.cons_append, replaceFrom_none nothing, ih _ later, List.reverse_cons,
      List.append_assoc]
    rfl

/-- Up to a place that no match can reach beyond, a replacement is one of its own. -/
theorem replaceFrom_region {p : Char → Bool} (takes : Takes r L) (some_char : ∀ w, L w → w ≠ [])
    (within : ∀ w, L w → w.all p = true) (c : Char) (before : List Char) (u : List Char)
    {rest : List Char} (outside : StartsOutside p rest) :
    ∃ v, Replaced L c u v ∧ replaceFrom r [c] 0 before (u ++ rest) =
      v ++ replaceFrom r [c] 0 (u.reverse ++ before) rest := by
  induction h : u.length using Nat.strongRecOn generalizing u before with
  | ind n ih =>
    cases u with
    | nil => exact ⟨[], .nil, rfl⟩
    | cons x u =>
      subst h
      rcases replaceFrom_cons takes some_char [c] before x (u ++ rest) with kept | taken
      · obtain ⟨v, replaced, later⟩ := ih u.length (Nat.lt_succ_self _) (x :: before) u rfl
        refine ⟨x :: v, .keep x replaced, ?_⟩
        rw [List.cons_append, kept, later, List.reverse_cons, List.append_assoc]
        rfl
      · obtain ⟨w, rest', split, inL, replacement⟩ := taken
        -- The match ends before `rest`, since `rest` goes on with a character it cannot take.
        obtain ⟨u', rfl, rfl⟩ : ∃ u', u = w ++ u' ∧ rest' = u' ++ rest := by
          have split' : u ++ rest = w ++ rest' := (List.cons.inj split).2
          rcases List.append_eq_append_iff.mp split' with ⟨a, rfl, rfl⟩ | ⟨a, rfl, rfl⟩
          · cases a with
            | nil => exact ⟨[], by simp, rfl⟩
            | cons y a =>
              have taken : p y = true := by
                have all := within _ inL
                simp only [List.all_cons, List.all_append, Bool.and_eq_true] at all
                exact all.2.2.1
              have free : p y = false := outside
              rw [taken] at free
              cases free
          · exact ⟨a, rfl, rfl⟩
        have shorter : u'.length < (x :: (w ++ u')).length := by
          simp only [List.length_cons, List.length_append]
          omega
        obtain ⟨v, replaced, later⟩ := ih u'.length shorter ((x :: w).reverse ++ before) u' rfl
        refine ⟨c :: v, .part (x :: w) inL replaced, ?_⟩
        rw [List.cons_append, replacement, later, List.reverse_cons, List.reverse_cons,
          List.reverse_append]
        simp only [List.append_assoc, List.cons_append, List.nil_append]

/-- A replacement by one character is one of parts that the expression takes. -/
theorem replaced_replaceFrom (takes : Takes r L) (some_char : ∀ w, L w → w ≠ []) (c : Char)
    (before : List Char) (u : List Char) : Replaced L c u (replaceFrom r [c] 0 before u) := by
  have end_ : StartsOutside (fun _ => true) [] := rfl
  obtain ⟨v, replaced, whole⟩ := replaceFrom_region takes some_char
    (fun w _ => List.all_eq_true.mpr fun _ _ => rfl) c before u end_
  rw [List.append_nil] at whole
  have same : replaceFrom r [c] 0 before u = v := by
    rw [whole]
    exact List.append_nil v
  rw [same]
  exact replaced

end Regex

end MysqlRedshift.Misc
