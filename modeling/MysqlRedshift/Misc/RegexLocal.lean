import MysqlRedshift.Misc.Replaced

/-!
# Replacements part by part

An expression that looks at the characters next to a place only does the same in a part of a
text as in the whole, where the part is cut at a place that it cannot read across.
-/

namespace MysqlRedshift.Misc.Regex

variable {p q : Char → Bool} {r s : Regex} {c d : Cursor} {before before' rest w : List Char}

/-- The expression reads characters in `q` only. Its assertions see of the text before them
whether it ends in `p`, and behind characters in `q` they do not tell another text from the
end. -/
def Local (p q : Char → Bool) : Regex → Prop
  | empty => True
  | cls k => ∀ x, k x = true → q x = true
  | seq r s => Local p q r ∧ Local p q s
  | alt r s => Local p q r ∧ Local p q s
  | star r => Local p q r
  | starLazy r => Local p q r
  | assert t => ∀ before before' after rest, before.head?.any p = before'.head?.any p →
      StartsOutside q rest → t before (after ++ rest) = t before' after
  | group _ r => Local p q r

/-- The first cursor is at the same place as the second, in a text that `rest` goes on. -/
structure Sees (p : Char → Bool) (rest : List Char) (c d : Cursor) : Prop where
  before : c.before.head?.any p = d.before.head?.any p
  after : c.after = d.after ++ rest

theorem Sees.length (sees : Sees p rest c d) :
    c.after.length = d.after.length + rest.length := by
  rw [sees.after, List.length_append]

/-! ## Matches -/

/-- No round starts where none consumes a character. -/
theorem rounds_stuck {step : Cursor → List Cursor} {greedy : Bool} {fuel : Nat}
    (stuck : ∀ e ∈ step c, c.after.length ≤ e.after.length) :
    rounds step greedy fuel c = [c] := by
  cases fuel with
  | zero => rfl
  | succ fuel =>
    have nothing : ((step c).flatMap fun e =>
        if e.after.length < c.after.length then rounds step greedy fuel e else []) = [] := by
      rw [List.flatMap_eq_nil_iff]
      intro e member
      exact if_neg (Nat.not_lt.mpr (stuck e member))
    cases greedy with
    | true => simp only [rounds, nothing, if_true, List.nil_append]
    | false => simp only [rounds, nothing, Bool.false_eq_true, if_false]

/-- A repetition goes through the same rounds in both texts. -/
theorem sees_rounds {step : Cursor → List Cursor} {greedy : Bool} {n m : Nat}
    (steps : ∀ {c d}, Sees p rest c d → List.Forall₂ (Sees p rest) (step c) (step d))
    (sees : Sees p rest c d) (enough : c.after.length ≤ n) (enough' : d.after.length ≤ m) :
    List.Forall₂ (Sees p rest) (rounds step greedy n c) (rounds step greedy m d) := by
  have one {c d} (sees : Sees p rest c d) : List.Forall₂ (Sees p rest) [c] [d] :=
    .cons sees .nil
  induction n generalizing c d m with
  | zero =>
    have length := sees.length
    rw [rounds, rounds_stuck fun e _ => by omega]
    exact one sees
  | succ n ih =>
    -- One more round changes nothing at the end of the text.
    obtain ⟨k, enough_k, same⟩ : ∃ k, d.after.length ≤ k + 1 ∧
        rounds step greedy m d = rounds step greedy (k + 1) d := by
      cases m with
      | zero =>
        refine ⟨0, by omega, ?_⟩
        rw [rounds_stuck fun e _ => by omega, rounds_stuck fun e _ => by omega]
      | succ m => exact ⟨m, enough', rfl⟩
    have more : List.Forall₂ (Sees p rest)
        ((step c).flatMap fun e =>
          if e.after.length < c.after.length then rounds step greedy n e else [])
        ((step d).flatMap fun e =>
          if e.after.length < d.after.length then rounds step greedy k e else []) := by
      refine List.rel_flatMap (steps sees) fun e e' sees' => ?_
      have length := sees.length
      have length' := sees'.length
      by_cases shorter : e'.after.length < d.after.length
      · rw [if_pos shorter, if_pos (by omega)]
        exact ih sees' (by omega) (by omega)
      · rw [if_neg shorter, if_neg (by omega)]
        exact .nil
    rw [same]
    cases greedy with
    | true => exact List.rel_append more (one sees)
    | false => exact .cons sees more

/-- The matches in the two texts are the same. -/
theorem sees_ends (here : Local p q r) (outside : StartsOutside q rest) (sees : Sees p rest c d) :
    List.Forall₂ (Sees p rest) (ends r c) (ends r d) := by
  induction r generalizing c d with
  | empty => exact .cons sees .nil
  | cls k =>
    obtain ⟨before, after, groups⟩ := d
    have split : c.after = after ++ rest := sees.after
    cases after with
    | nil =>
      have nothing : ends (cls k) c = [] := by
        cases rest with
        | nil => simp only [ends, split, List.nil_append]
        | cons y rest =>
          have other : k y = false := outside_mono here outside
          simp [ends, split, other]
      rw [nothing]
      exact .nil
    | cons x after =>
      by_cases fits : k x = true
      · simp only [ends, split, List.cons_append, if_pos fits]
        exact .cons ⟨rfl, rfl⟩ .nil
      · simp only [ends, split, List.cons_append, if_neg fits]
        exact .nil
  | seq r s ihr ihs => exact List.rel_flatMap (ihr here.1 sees) fun _ _ => ihs here.2
  | alt r s ihr ihs => exact List.rel_append (ihr here.1 sees) (ihs here.2 sees)
  | star r ih => exact sees_rounds (ih here) sees (Nat.le_refl _) (Nat.le_refl _)
  | starLazy r ih => exact sees_rounds (ih here) sees (Nat.le_refl _) (Nat.le_refl _)
  | assert t =>
    have same : t c.before c.after = t d.before d.after := by
      rw [sees.after]
      exact here _ _ _ _ sees.before outside
    simp only [ends, same]
    split
    · exact .cons sees .nil
    · exact .nil
  | group n r ih => exact List.rel_map (fun _ _ sees' => ⟨sees'.before, sees'.after⟩) (ih here sees)

/-- The first matches in the two texts, if there are any. -/
theorem sees_head? {l m : List Cursor} (all : List.Forall₂ (Sees p rest) l m) :
    l.head? = none ∧ m.head? = none ∨
      ∃ e e', l.head? = some e ∧ m.head? = some e' ∧ Sees p rest e e' := by
  cases all with
  | nil => exact Or.inl ⟨rfl, rfl⟩
  | cons sees _ => exact Or.inr ⟨_, _, rfl, rfl, sees⟩

/-! ## Replacements -/

theorem replaceFrom_local_skip (here : Local p q r) (outside : StartsOutside q rest)
    (repl : List Char) {skip : Nat} (short : skip ≤ w.length)
    (same : before.head?.any p = before'.head?.any p) :
    replaceFrom r repl skip before (w ++ rest) =
      replaceFrom r repl skip before' w ++ replaceFrom r repl 0 (w.reverse ++ before) rest := by
  induction w generalizing skip before before' with
  | nil =>
    obtain rfl : skip = 0 := Nat.le_zero.mp short
    rfl
  | cons x w ih =>
    have later {skip : Nat} (short : skip ≤ w.length) :
        replaceFrom r repl skip (x :: before) (w ++ rest) =
          replaceFrom r repl skip (x :: before') w ++
            replaceFrom r repl 0 ((x :: w).reverse ++ before) rest := by
      rw [List.reverse_cons, List.append_assoc]
      exact ih short rfl
    cases skip with
    | succ skip => exact later (Nat.le_of_succ_le_succ short)
    | zero =>
      have matches_ := sees_ends here outside
        (c := ⟨before, x :: (w ++ rest), []⟩) (d := ⟨before', x :: w, []⟩) ⟨same, rfl⟩
      rw [List.cons_append, replaceFrom, replaceFrom]
      rcases sees_head? matches_ with ⟨none, none'⟩ | ⟨e, e', found, found', sees⟩
      · simp only [none, none', later (Nat.zero_le _), List.cons_append]
      · have length := sees.length
        have passed : (w ++ rest).length - e.after.length = w.length - e'.after.length := by
          rw [List.length_append]
          omega
        simp only [found, found', passed]
        by_cases fits : e'.after.length ≤ w.length
        · rw [if_pos fits, if_pos (by rw [List.length_append]; omega), later (Nat.sub_le ..),
            List.append_assoc]
        · rw [if_neg fits, if_neg (by rw [List.length_append]; omega), later (Nat.zero_le _),
            List.cons_append]

/-- A replacement goes through a part that the expression cannot read across as through a
text of its own. -/
theorem replaceFrom_local (here : Local p q r) (outside : StartsOutside q rest)
    (repl : List Char) (same : before.head?.any p = before'.head?.any p) :
    replaceFrom r repl 0 before (w ++ rest) =
      replaceFrom r repl 0 before' w ++ replaceFrom r repl 0 (w.reverse ++ before) rest :=
  replaceFrom_local_skip here outside repl (Nat.zero_le _) same

/-- Of the text before, a replacement depends on what the assertions see. -/
theorem replaceFrom_before (here : Local p q r) (repl : List Char)
    (same : before.head?.any p = before'.head?.any p) :
    replaceFrom r repl 0 before w = replaceFrom r repl 0 before' w := by
  have whole : replaceFrom r repl 0 before (w ++ []) =
      replaceFrom r repl 0 before' w ++ replaceFrom r repl 0 (w.reverse ++ before) [] :=
    replaceFrom_local here (by rfl) repl same
  rwa [List.append_nil, replaceFrom, List.append_nil] at whole

end MysqlRedshift.Misc.Regex
