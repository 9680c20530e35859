import Mathlib.Data.List.Forall2
import MysqlRedshift.Misc.Regex

/-!
# Laws of regular expressions

Which ends each constructor has, what a search finds, and how a replacement goes through
a text. An expression whose match is unique at a place is known there by `mem` lemmas
alone, without its order of preference.
-/

namespace MysqlRedshift.Misc.Regex

variable {r s : Regex} {c d : Cursor} {before after : List Char} {groups : List (Nat × List Char)}

/-! ## The ends of a match -/

@[simp] theorem mem_ends_empty : d ∈ ends empty c ↔ d = c := List.mem_singleton

theorem mem_ends_cls {p : Char → Bool} : d ∈ ends (cls p) ⟨before, after, groups⟩ ↔
    ∃ x rest, after = x :: rest ∧ p x = true ∧ d = ⟨x :: before, rest, groups⟩ := by
  cases after with
  | nil => simp [ends]
  | cons x rest =>
    by_cases fits : p x = true
    · simp [ends, fits]
    · simp [ends, fits]

theorem mem_ends_seq : d ∈ ends (seq r s) c ↔ ∃ e ∈ ends r c, d ∈ ends s e := List.mem_flatMap

theorem mem_ends_alt : d ∈ ends (alt r s) c ↔ d ∈ ends r c ∨ d ∈ ends s c := List.mem_append

theorem mem_ends_opt : d ∈ ends (opt r) c ↔ d ∈ ends r c ∨ d = c := by
  rw [opt, mem_ends_alt, mem_ends_empty]

theorem mem_ends_assert {p : List Char → List Char → Bool} :
    d ∈ ends (assert p) c ↔ p c.before c.after = true ∧ d = c := by
  by_cases holds : p c.before c.after = true
  · simp [ends, holds]
  · simp [ends, holds]

theorem mem_ends_group {n : Nat} : d ∈ ends (group n r) c ↔ ∃ e ∈ ends r c,
    d = { e with
      groups := (n, c.after.take (c.after.length - e.after.length)) :: e.groups } := by
  simp only [ends, List.mem_map, eq_comm]

theorem mem_ends_all_cons {rs : List Regex} :
    d ∈ ends (all (r :: rs)) c ↔ ∃ e ∈ ends r c, d ∈ ends (all rs) e := mem_ends_seq

@[simp] theorem mem_ends_all_nil : d ∈ ends (all []) c ↔ d = c := mem_ends_empty

theorem mem_ends_oneOf {rs : List Regex} :
    d ∈ ends (oneOf rs) c ↔ ∃ r ∈ rs, d ∈ ends r c := by
  induction rs with
  | nil => cases after_eq : c.after <;> simp [oneOf, ends, after_eq]
  | cons r rs ih =>
    cases rs with
    | nil => simp [oneOf]
    | cons r' rs =>
      have step : oneOf (r :: r' :: rs) = alt r (oneOf (r' :: rs)) := rfl
      rw [step, mem_ends_alt, ih, List.exists_mem_cons_iff _ r]

/-! ## Repetitions -/

theorem mem_rounds_succ {step : Cursor → List Cursor} {greedy : Bool} {fuel : Nat} :
    d ∈ rounds step greedy (fuel + 1) c ↔ d = c ∨
      ∃ e ∈ step c, e.after.length < c.after.length ∧ d ∈ rounds step greedy fuel e := by
  have round : ∀ e, (d ∈ if e.after.length < c.after.length then
        rounds step greedy fuel e else []) ↔
      e.after.length < c.after.length ∧ d ∈ rounds step greedy fuel e := by
    intro e
    by_cases shorter : e.after.length < c.after.length
    · simp [shorter]
    · simp [shorter]
  cases greedy with
  | true => simp [rounds, List.mem_flatMap, round, or_comm]
  | false => simp [rounds, List.mem_flatMap, round]

/-- A repetition of more has more ends. -/
theorem rounds_subset {step step' : Cursor → List Cursor} {greedy : Bool} {fuel : Nat}
    (more : ∀ c, step c ⊆ step' c) (c : Cursor) :
    rounds step greedy fuel c ⊆ rounds step' greedy fuel c := by
  induction fuel generalizing c with
  | zero => exact List.Subset.refl _
  | succ fuel ih =>
    intro d member
    rw [mem_rounds_succ] at member ⊢
    exact member.imp_right fun ⟨e, first, shorter, later⟩ => ⟨e, more c first, shorter, ih e later⟩

theorem mem_rounds_cls {p : Char → Bool} {greedy : Bool} {fuel : Nat}
    (enough : after.length ≤ fuel) :
    d ∈ rounds (ends (cls p)) greedy fuel ⟨before, after, groups⟩ ↔
      ∃ w rest, after = w ++ rest ∧ w.all p = true ∧ d = ⟨w.reverse ++ before, rest, groups⟩ := by
  induction fuel generalizing before after with
  | zero =>
    have nothing := List.eq_nil_of_length_eq_zero (Nat.le_zero.mp enough)
    subst nothing
    constructor
    · intro member
      exact ⟨[], [], rfl, rfl, List.mem_singleton.mp member⟩
    · rintro ⟨w, rest, split, _, rfl⟩
      obtain ⟨rfl, rfl⟩ := List.append_eq_nil_iff.mp split.symm
      exact List.mem_singleton.mpr rfl
  | succ fuel ih =>
    rw [mem_rounds_succ]
    constructor
    · rintro (rfl | ⟨e, first, _, later⟩)
      · exact ⟨[], after, rfl, rfl, rfl⟩
      · obtain ⟨x, rest, rfl, fits, rfl⟩ := mem_ends_cls.mp first
        obtain ⟨w, rest', rfl, all, rfl⟩ := (ih (Nat.le_of_succ_le_succ enough)).mp later
        refine ⟨x :: w, rest', rfl, ?_, by simp⟩
        rw [List.all_cons, fits, all, Bool.and_self]
    · rintro ⟨w, rest, rfl, all, rfl⟩
      cases w with
      | nil => exact Or.inl rfl
      | cons x w =>
        rw [List.all_cons, Bool.and_eq_true] at all
        refine Or.inr ⟨⟨x :: before, w ++ rest, groups⟩, mem_ends_cls.mpr ⟨x, _, rfl, all.1, rfl⟩,
          Nat.lt_succ_self _, (ih (Nat.le_of_succ_le_succ enough)).mpr ⟨w, rest, rfl, all.2, ?_⟩⟩
        simp

theorem mem_ends_star_cls {p : Char → Bool} : d ∈ ends (star (cls p)) ⟨before, after, groups⟩ ↔
    ∃ w rest, after = w ++ rest ∧ w.all p = true ∧ d = ⟨w.reverse ++ before, rest, groups⟩ :=
  mem_rounds_cls (Nat.le_refl _)

theorem mem_ends_plus_cls {p : Char → Bool} : d ∈ ends (plus (cls p)) ⟨before, after, groups⟩ ↔
    ∃ w rest, after = w ++ rest ∧ w ≠ [] ∧ w.all p = true ∧
      d = ⟨w.reverse ++ before, rest, groups⟩ := by
  constructor
  · intro member
    obtain ⟨e, first, more⟩ := mem_ends_seq.mp member
    obtain ⟨x, t, rfl, fits, rfl⟩ := mem_ends_cls.mp first
    obtain ⟨w, rest, rfl, all, rfl⟩ := mem_ends_star_cls.mp more
    refine ⟨x :: w, rest, rfl, List.cons_ne_nil _ _, ?_, by simp⟩
    rw [List.all_cons, fits, all, Bool.and_self]
  · intro ⟨w, rest, split, some_char, all, same⟩
    subst split same
    cases w with
    | nil => exact absurd rfl some_char
    | cons x w =>
      rw [List.all_cons, Bool.and_eq_true] at all
      exact mem_ends_seq.mpr ⟨⟨x :: before, w ++ rest, groups⟩,
        mem_ends_cls.mpr ⟨x, _, rfl, all.1, rfl⟩,
        mem_ends_star_cls.mpr ⟨w, rest, rfl, all.2, by simp⟩⟩

theorem mem_ends_starLazy_cls {p : Char → Bool} :
    d ∈ ends (starLazy (cls p)) ⟨before, after, groups⟩ ↔
      ∃ w rest, after = w ++ rest ∧ w.all p = true ∧ d = ⟨w.reverse ++ before, rest, groups⟩ :=
  mem_rounds_cls (Nat.le_refl _)

/-! ## Texts -/

/-- `w` is the text `s`, its characters compared by `same`. -/
def Spells (same : Char → Char → Bool) (s w : List Char) : Prop :=
  List.Forall₂ (fun x y => same x y = true) s w

theorem mem_ends_text {same : Char → Char → Bool} {t : String} :
    d ∈ ends (text same t) ⟨before, after, groups⟩ ↔
      ∃ w rest, after = w ++ rest ∧ Spells same t.toList w ∧
        d = ⟨w.reverse ++ before, rest, groups⟩ := by
  rw [text]
  generalize t.toList = xs
  induction xs generalizing before after with
  | nil =>
    simp only [List.map_nil, mem_ends_all_nil, Spells, List.forall₂_nil_left_iff]
    constructor
    · rintro rfl
      exact ⟨[], after, rfl, rfl, rfl⟩
    · rintro ⟨w, rest, rfl, rfl, rfl⟩
      rfl
  | cons x xs ih =>
    rw [List.map_cons, mem_ends_all_cons]
    constructor
    · rintro ⟨e, first, later⟩
      obtain ⟨y, rest, rfl, fits, rfl⟩ := mem_ends_cls.mp first
      obtain ⟨w, rest', rfl, spells, rfl⟩ := ih.mp later
      exact ⟨y :: w, rest', rfl, List.Forall₂.cons fits spells, by simp⟩
    · rintro ⟨w, rest, rfl, spells, rfl⟩
      cases spells with
      | cons fits spells =>
        exact ⟨_, mem_ends_cls.mpr ⟨_, _, rfl, fits, rfl⟩, ih.mpr ⟨_, _, rfl, spells, by simp⟩⟩

/-! ## Expressions that read words

An expression without assertions and groups matches the same words wherever they stand.
-/

/-- The expression matches the words in `L`, whatever is before and behind them. -/
def Reads (r : Regex) (L : List Char → Prop) : Prop :=
  ∀ before after groups d, d ∈ ends r ⟨before, after, groups⟩ ↔
    ∃ w rest, after = w ++ rest ∧ L w ∧ d = ⟨w.reverse ++ before, rest, groups⟩

variable {L M : List Char → Prop}

theorem Reads.congr (reads : Reads r L) (same : ∀ w, L w ↔ M w) : Reads r M := by
  obtain rfl : L = M := funext fun w => propext (same w)
  exact reads

theorem reads_empty : Reads empty (· = []) := by
  intro before after groups d
  rw [mem_ends_empty]
  constructor
  · rintro rfl
    exact ⟨[], after, rfl, rfl, rfl⟩
  · rintro ⟨w, rest, rfl, rfl, rfl⟩
    rfl

theorem reads_cls (p : Char → Bool) : Reads (cls p) (fun w => ∃ x, w = [x] ∧ p x = true) := by
  intro before after groups d
  rw [mem_ends_cls]
  constructor
  · rintro ⟨x, rest, rfl, fits, rfl⟩
    exact ⟨[x], rest, rfl, ⟨x, rfl, fits⟩, rfl⟩
  · rintro ⟨_, rest, rfl, ⟨x, rfl, fits⟩, rfl⟩
    exact ⟨x, rest, rfl, fits, rfl⟩

theorem Reads.seq (first : Reads r L) (second : Reads s M) :
    Reads (.seq r s) (fun w => ∃ u v, w = u ++ v ∧ L u ∧ M v) := by
  intro before after groups d
  rw [mem_ends_seq]
  constructor
  · rintro ⟨e, left, right⟩
    obtain ⟨u, rest, rfl, inL, rfl⟩ := (first ..).mp left
    obtain ⟨v, rest', rfl, inM, rfl⟩ := (second ..).mp right
    exact ⟨u ++ v, rest', (List.append_assoc ..).symm, ⟨u, v, rfl, inL, inM⟩, by simp⟩
  · rintro ⟨_, rest, rfl, ⟨u, v, rfl, inL, inM⟩, rfl⟩
    exact ⟨_, (first ..).mpr ⟨u, v ++ rest, List.append_assoc .., inL, rfl⟩,
      (second ..).mpr ⟨v, rest, rfl, inM, by simp⟩⟩

theorem Reads.alt (left : Reads r L) (right : Reads s M) :
    Reads (.alt r s) (fun w => L w ∨ M w) := by
  intro before after groups d
  rw [mem_ends_alt, left, right]
  constructor
  · rintro (⟨w, rest, split, inL, rfl⟩ | ⟨w, rest, split, inM, rfl⟩)
    · exact ⟨w, rest, split, Or.inl inL, rfl⟩
    · exact ⟨w, rest, split, Or.inr inM, rfl⟩
  · rintro ⟨w, rest, split, inL | inM, rfl⟩
    · exact Or.inl ⟨w, rest, split, inL, rfl⟩
    · exact Or.inr ⟨w, rest, split, inM, rfl⟩

theorem Reads.opt (reads : Reads r L) : Reads (opt r) (fun w => L w ∨ w = []) :=
  reads.alt reads_empty

theorem reads_star_cls (p : Char → Bool) : Reads (star (cls p)) (fun w => w.all p = true) :=
  fun _ _ _ _ => mem_ends_star_cls

theorem reads_text (same : Char → Char → Bool) (t : String) :
    Reads (text same t) (Spells same t.toList) :=
  fun _ _ _ _ => mem_ends_text

/-! ## What a match consumes -/

/-- The text between two cursors. -/
def Consumed (c d : Cursor) (w : List Char) : Prop :=
  c.after = w ++ d.after ∧ d.before = w.reverse ++ c.before

theorem Consumed.trans {e : Cursor} {w w' : List Char} (first : Consumed c d w)
    (second : Consumed d e w') : Consumed c e (w ++ w') := by
  constructor
  · rw [first.1, second.1, List.append_assoc]
  · rw [second.2, first.2, List.reverse_append, List.append_assoc]

theorem consumed_rounds {step : Cursor → List Cursor}
    (steps : ∀ c, ∀ d ∈ step c, ∃ w, Consumed c d w) {greedy : Bool} {fuel : Nat}
    (member : d ∈ rounds step greedy fuel c) : ∃ w, Consumed c d w := by
  induction fuel generalizing c with
  | zero =>
    rw [List.mem_singleton.mp member]
    exact ⟨[], rfl, rfl⟩
  | succ fuel ih =>
    rcases mem_rounds_succ.mp member with rfl | ⟨e, first, _, later⟩
    · exact ⟨[], rfl, rfl⟩
    · obtain ⟨w, consumed⟩ := steps c e first
      obtain ⟨w', consumed'⟩ := ih later
      exact ⟨w ++ w', consumed.trans consumed'⟩

/-- A match ends further on in the text. -/
theorem consumed_of_mem_ends (member : d ∈ ends r c) : ∃ w, Consumed c d w := by
  induction r generalizing c d with
  | empty =>
    rw [mem_ends_empty.mp member]
    exact ⟨[], rfl, rfl⟩
  | cls p =>
    obtain ⟨x, rest, after_eq, _, rfl⟩ := mem_ends_cls.mp member
    exact ⟨[x], after_eq, rfl⟩
  | seq r s ihr ihs =>
    obtain ⟨e, first, later⟩ := mem_ends_seq.mp member
    obtain ⟨w, consumed⟩ := ihr first
    obtain ⟨w', consumed'⟩ := ihs later
    exact ⟨w ++ w', consumed.trans consumed'⟩
  | alt r s ihr ihs =>
    rcases mem_ends_alt.mp member with left | right
    · exact ihr left
    · exact ihs right
  | star r ih => exact consumed_rounds (fun c d => ih) member
  | starLazy r ih => exact consumed_rounds (fun c d => ih) member
  | assert p =>
    rw [(mem_ends_assert.mp member).2]
    exact ⟨[], rfl, rfl⟩
  | group n r ih =>
    obtain ⟨e, inner, rfl⟩ := mem_ends_group.mp member
    obtain ⟨w, consumed⟩ := ih inner
    exact ⟨w, consumed⟩

/-! ## Searches -/

/-- The first end of a match that can only end in one way. -/
theorem head?_ends (member : d ∈ ends r c) (unique : ∀ e ∈ ends r c, e = d) :
    (ends r c).head? = some d := by
  cases list : ends r c with
  | nil =>
    rw [list] at member
    cases member
  | cons e es => rw [List.head?_cons, unique e (list ▸ List.mem_cons_self)]

/-- The first end of a sequence, where the first end of its first part leads to one. -/
theorem head?_ends_seq {e : Cursor} (first : (ends r c).head? = some e)
    (second : (ends s e).head? = some d) : (ends (seq r s) c).head? = some d := by
  obtain ⟨es, list⟩ : ∃ es, ends r c = e :: es := List.head?_eq_some_iff.mp first
  rw [ends, list, List.flatMap_cons, List.head?_append, second]
  rfl

theorem head?_ends_opt (first : (ends r c).head? = some d) : (ends (opt r) c).head? = some d := by
  rw [opt, ends, List.head?_append, first]
  rfl

theorem head?_ends_group {n : Nat} (first : (ends r c).head? = some d) :
    ∃ closed, (ends (group n r) c).head? = some { d with groups := closed } := by
  refine ⟨(n, c.after.take (c.after.length - d.after.length)) :: d.groups, ?_⟩
  rw [ends, List.head?_map, first]
  rfl

/-- A greedy repetition goes on as long as it can. -/
theorem head?_rounds_more {step : Cursor → List Cursor} {fuel : Nat} {e : Cursor}
    (first : (step c).head? = some e) (shorter : e.after.length < c.after.length)
    (later : (rounds step true fuel e).head? = some d) :
    (rounds step true (fuel + 1) c).head? = some d := by
  obtain ⟨es, list⟩ := List.head?_eq_some_iff.mp first
  simp only [rounds, list, List.flatMap_cons, if_pos shorter, if_true, List.head?_append, later,
    Option.some_or]

theorem head?_rounds_stop {step : Cursor → List Cursor} {fuel : Nat} (nothing : step c = []) :
    (rounds step true fuel c).head? = some c := by
  cases fuel with
  | zero => rfl
  | succ fuel => simp only [rounds, nothing, List.flatMap_nil, if_true, List.nil_append,
      List.head?_cons]

theorem head?_star_cls {p : Char → Bool} {w rest : List Char} (all : w.all p = true)
    (stops : rest.head?.any p = false) :
    (ends (star (cls p)) ⟨before, w ++ rest, groups⟩).head? =
      some ⟨w.reverse ++ before, rest, groups⟩ := by
  have go : ∀ before fuel, (w ++ rest).length ≤ fuel →
      (rounds (ends (cls p)) true fuel ⟨before, w ++ rest, groups⟩).head? =
        some ⟨w.reverse ++ before, rest, groups⟩ := by
    intro before fuel enough
    induction w generalizing before fuel with
    | nil =>
      apply head?_rounds_stop
      cases rest with
      | nil => rfl
      | cons y rest =>
        have outside : p y = false := stops
        simp [ends, outside]
    | cons x w ih =>
      rw [List.all_cons, Bool.and_eq_true] at all
      cases fuel with
      | zero => cases enough
      | succ fuel =>
        have later := ih all.2 (x :: before) fuel (Nat.le_of_succ_le_succ enough)
        rw [List.reverse_cons, List.append_assoc]
        refine head?_rounds_more (e := ⟨x :: before, w ++ rest, groups⟩) ?_
          (Nat.lt_succ_self _) later
        simp [ends, all.1]
  exact go before _ (Nat.le_refl _)

/-- Characters in `p`, as far as they go. -/
theorem head?_plus_cls {p : Char → Bool} {w rest : List Char} (some_char : w ≠ [])
    (all : w.all p = true) (stops : rest.head?.any p = false) :
    (ends (plus (cls p)) ⟨before, w ++ rest, groups⟩).head? =
      some ⟨w.reverse ++ before, rest, groups⟩ := by
  cases w with
  | nil => exact absurd rfl some_char
  | cons x w =>
    rw [List.all_cons, Bool.and_eq_true] at all
    have first : (ends (cls p) ⟨before, x :: w ++ rest, groups⟩).head? =
        some ⟨x :: before, w ++ rest, groups⟩ := by
      simp [ends, all.1]
    rw [List.reverse_cons, List.append_assoc]
    exact head?_ends_seq first (head?_star_cls all.2 stops)

/-- No match starts at a place of `text` before `i`, for what lies before it. -/
def NoneBefore (r : Regex) (before text : List Char) (i : Nat) : Prop :=
  ∀ early late, text = early ++ late → early.length < i →
    ends r ⟨early.reverse ++ before, late, []⟩ = []

theorem NoneBefore.head {text : List Char} {i : Nat} (none : NoneBefore r before text (i + 1)) :
    ends r ⟨before, text, []⟩ = [] :=
  none [] text rfl (Nat.succ_pos _)

theorem NoneBefore.tail {x : Char} {xs : List Char} {i : Nat}
    (none : NoneBefore r before (x :: xs) (i + 1)) : NoneBefore r (x :: before) xs i := by
  intro early late split short
  have later := none (x :: early) late (congrArg (x :: ·) split) (Nat.succ_lt_succ short)
  rwa [List.reverse_cons, List.append_assoc] at later

theorem NoneBefore.cons {x : Char} {xs : List Char} {i : Nat}
    (here : ends r ⟨before, x :: xs, []⟩ = []) (none : NoneBefore r (x :: before) xs i) :
    NoneBefore r before (x :: xs) (i + 1) := by
  intro early late split short
  cases early with
  | nil =>
    rw [List.nil_append] at split
    rw [← split]
    exact here
  | cons y early =>
    obtain ⟨rfl, split'⟩ := List.cons.inj split
    have later := none early late split' (Nat.lt_of_succ_lt_succ short)
    rwa [List.reverse_cons, List.append_assoc]

theorem NoneBefore.append {u v : List Char} {i : Nat}
    (first : NoneBefore r before (u ++ v) u.length)
    (second : NoneBefore r (u.reverse ++ before) v i) :
    NoneBefore r before (u ++ v) (u.length + i) := by
  induction u generalizing before with
  | nil =>
    rw [List.length_nil, Nat.zero_add]
    exact second
  | cons x u ih =>
    rw [List.reverse_cons, List.append_assoc] at second
    have later := ih first.tail second
    rw [List.length_cons, Nat.add_right_comm]
    exact later.cons first.head

/-- A search finds the first place where a match starts. -/
theorem searchFrom_eq_some_iff {text : List Char} {a : Cursor} :
    searchFrom r before text = some (a, d) ↔ ∃ skipped rest, text = skipped ++ rest ∧
      a = ⟨skipped.reverse ++ before, rest, []⟩ ∧ (ends r a).head? = some d ∧
        NoneBefore r before text skipped.length := by
  induction text generalizing before with
  | nil =>
    simp only [searchFrom, Option.map_eq_some_iff, Prod.mk.injEq]
    constructor
    · rintro ⟨e, found, rfl, rfl⟩
      exact ⟨[], [], rfl, rfl, found, fun _ _ _ short => absurd short (Nat.not_lt_zero _)⟩
    · rintro ⟨skipped, rest, split, rfl, found, _⟩
      obtain ⟨rfl, rfl⟩ := List.append_eq_nil_iff.mp split.symm
      exact ⟨d, found, rfl, rfl⟩
  | cons x xs ih =>
    cases here : (ends r ⟨before, x :: xs, []⟩).head? with
    | some e =>
      simp only [searchFrom, here, Option.some.injEq, Prod.mk.injEq]
      constructor
      · rintro ⟨rfl, rfl⟩
        exact ⟨[], x :: xs, rfl, rfl, here, fun _ _ _ short => absurd short (Nat.not_lt_zero _)⟩
      · rintro ⟨skipped, rest, split, rfl, found, none⟩
        cases skipped with
        | nil =>
          rw [List.nil_append] at split
          subst split
          exact ⟨rfl, Option.some.inj (here.symm.trans found)⟩
        | cons y skipped =>
          rw [none.head] at here
          cases here
    | none =>
      have empty := List.head?_eq_none_iff.mp here
      simp only [searchFrom, here, ih]
      constructor
      · rintro ⟨skipped, rest, rfl, rfl, found, none⟩
        exact ⟨x :: skipped, rest, rfl, by simp, found, none.cons empty⟩
      · rintro ⟨skipped, rest, split, rfl, found, none⟩
        cases skipped with
        | nil =>
          rw [List.nil_append] at split
          rw [← split, List.reverse_nil, List.nil_append, here] at found
          cases found
        | cons y skipped =>
          obtain ⟨rfl, rfl⟩ := List.cons.inj split
          exact ⟨skipped, rest, rfl, by simp, found, none.tail⟩

theorem searchFrom_eq_none_iff {text : List Char} :
    searchFrom r before text = none ↔ NoneBefore r before text (text.length + 1) := by
  induction text generalizing before with
  | nil =>
    simp only [searchFrom, Option.map_eq_none_iff, List.head?_eq_none_iff]
    constructor
    · intro empty early late split _
      obtain ⟨rfl, rfl⟩ := List.append_eq_nil_iff.mp split.symm
      exact empty
    · intro none
      exact none.head
  | cons x xs ih =>
    cases here : (ends r ⟨before, x :: xs, []⟩).head? with
    | some e =>
      simp only [searchFrom, here, reduceCtorEq, false_iff]
      intro none
      rw [none.head] at here
      cases here
    | none =>
      have empty := List.head?_eq_none_iff.mp here
      simp only [searchFrom, here, ih]
      exact ⟨fun none => none.cons empty, NoneBefore.tail⟩

/-! ## Replacements -/

section

variable {repl : List Char} {x : Char} {xs : List Char}

theorem replaceFrom_skip {skip : List Char} (rest : List Char) :
    replaceFrom r repl skip.length before (skip ++ rest) =
      replaceFrom r repl 0 (skip.reverse ++ before) rest := by
  induction skip generalizing before with
  | nil => rfl
  | cons y skip ih =>
    rw [List.length_cons, List.cons_append, replaceFrom, ih, List.reverse_cons, List.append_assoc]
    rfl

theorem replaceFrom_none (none : ends r ⟨before, x :: xs, []⟩ = []) :
    replaceFrom r repl 0 before (x :: xs) = x :: replaceFrom r repl 0 (x :: before) xs := by
  simp only [replaceFrom, none, List.head?_nil]

/-- A match that consumes `w` is replaced, and the rest is gone on with. -/
theorem replaceFrom_match {w rest : List Char} {e : Cursor}
    (found : (ends r ⟨before, x :: (w ++ rest), []⟩).head? = some e) (ends_at : e.after = rest) :
    replaceFrom r repl 0 before (x :: (w ++ rest)) =
      repl ++ replaceFrom r repl 0 ((x :: w).reverse ++ before) rest := by
  have fits : e.after.length ≤ (w ++ rest).length := by
    rw [ends_at, List.length_append]
    omega
  have passed : (w ++ rest).length - e.after.length = w.length := by
    rw [ends_at, List.length_append]
    omega
  simp only [replaceFrom, found, if_pos fits, passed, replaceFrom_skip, List.reverse_cons,
    List.append_assoc, List.cons_append, List.nil_append]

/-- Where nothing matches, nothing is replaced. -/
theorem replaceFrom_of_none {text : List Char} (none : NoneBefore r before text text.length) :
    replaceFrom r repl 0 before text = text := by
  induction text generalizing before with
  | nil => rfl
  | cons x xs ih =>
    rw [replaceFrom_none none.head, ih none.tail]

/-- Up to the first match the text is kept. -/
theorem replaceFrom_append {skipped rest : List Char}
    (none : NoneBefore r before (skipped ++ rest) skipped.length) :
    replaceFrom r repl 0 before (skipped ++ rest) =
      skipped ++ replaceFrom r repl 0 (skipped.reverse ++ before) rest := by
  induction skipped generalizing before with
  | nil => rfl
  | cons x skipped ih =>
    have here : ends r ⟨before, x :: (skipped ++ rest), []⟩ = [] := none.head
    have kept := ih none.tail
    rw [List.cons_append, replaceFrom_none here, kept, List.reverse_cons, List.append_assoc]
    rfl

end

end MysqlRedshift.Misc.Regex
