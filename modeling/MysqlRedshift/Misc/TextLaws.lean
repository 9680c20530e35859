import MysqlRedshift.Misc.Text

/-!
# Laws of trimming

What the trimming functions cut off, and when they cut nothing; and the parts of a text that
is put together.
-/

namespace MysqlRedshift.Misc

variable {p : Char → Bool} {l m a b : List Char}

/-- The text does not begin with a character in `p`. -/
def StartsOutside (p : Char → Bool) (l : List Char) : Prop := l.head?.any p = false

/-- The text does not end with a character in `p`. -/
def EndsOutside (p : Char → Bool) (l : List Char) : Prop := l.getLast?.any p = false

/-- What is outside a class is outside a smaller one. -/
theorem outside_mono {q : Char → Bool} {c : Char} (fewer : ∀ c, p c = true → q c = true)
    (outside : q c = false) : p c = false := by
  rw [Bool.eq_false_iff]
  intro inside
  rw [fewer c inside] at outside
  cases outside

theorem dropWhile_of_startsOutside (outside : StartsOutside p l) : l.dropWhile p = l := by
  cases l with
  | nil => rfl
  | cons x l => exact List.dropWhile_cons_of_neg (by simpa [StartsOutside] using outside)

theorem startsOutside_dropWhile (p : Char → Bool) (l : List Char) :
    StartsOutside p (l.dropWhile p) := by
  have stops := List.head?_dropWhile_not p l
  rw [StartsOutside]
  cases first : (l.dropWhile p).head? with
  | none => rfl
  | some x => simpa [first] using stops

theorem endsOutside_iff_reverse : EndsOutside p l ↔ StartsOutside p l.reverse := by
  rw [EndsOutside, StartsOutside, List.head?_reverse]

theorem takeWhile_append_of_startsOutside (all : a.all p = true) (outside : StartsOutside p m) :
    (a ++ m).takeWhile p = a := by
  have stops : m.takeWhile p = [] := by
    cases m with
    | nil => rfl
    | cons x m => exact List.takeWhile_cons_of_neg (by simpa [StartsOutside] using outside)
  rw [List.takeWhile_append_of_pos (List.all_eq_true.mp all), stops, List.append_nil]

theorem dropWhile_append_of_startsOutside (all : a.all p = true) (outside : StartsOutside p m) :
    (a ++ m).dropWhile p = m := by
  rw [List.dropWhile_append_of_pos (List.all_eq_true.mp all), dropWhile_of_startsOutside outside]

theorem dropWhile_append_outside (outside : StartsOutside p m) (l : List Char) :
    (l ++ m).dropWhile p = l.dropWhile p ++ m := by
  induction l with
  | nil => exact dropWhile_of_startsOutside outside
  | cons x l ih =>
    rw [List.cons_append, List.dropWhile_cons, List.dropWhile_cons, ih]
    split
    · rfl
    · rfl

theorem any_head?_of_all (some_char : l ≠ []) (all : l.all p = true) (m : List Char) :
    (l ++ m).head?.any p = true := by
  cases l with
  | nil => exact absurd rfl some_char
  | cons x l => exact (Bool.and_eq_true_iff.mp all).1

theorem startsOutside_of_all {q : Char → Bool} (some_char : l ≠ []) (all : l.all q = true)
    (apart : ∀ c, q c = true → p c = false) (m : List Char) : StartsOutside p (l ++ m) := by
  cases l with
  | nil => exact absurd rfl some_char
  | cons x l => exact apart x (Bool.and_eq_true_iff.mp all).1

theorem any_head?_append (outside : StartsOutside p m) (l : List Char) :
    (l ++ m).head?.any p = l.head?.any p := by
  cases l with
  | nil => exact outside
  | cons x l => rfl

/-- A run of characters in `p` up to a text that is outside is that run only. -/
theorem run_unique (all : a.all p = true) (all' : b.all p = true) (outside : StartsOutside p m)
    (outside' : StartsOutside p l) (same : a ++ m = b ++ l) : a = b ∧ m = l := by
  have runs : a = b := by
    rw [← takeWhile_append_of_startsOutside all outside, same,
      takeWhile_append_of_startsOutside all' outside']
  subst runs
  exact ⟨rfl, List.append_cancel_left same⟩

theorem endsOutside_append_iff (some_char : m ≠ []) :
    EndsOutside p (l ++ m) ↔ EndsOutside p m := by
  rw [EndsOutside, EndsOutside, List.getLast?_append_of_ne_nil l some_char]

theorem endsOutside_of_append (last : EndsOutside p (l ++ m)) : EndsOutside p m := by
  by_cases nothing : m = []
  · rw [nothing]
    rfl
  · exact (endsOutside_append_iff nothing).mp last

/-- No text in `p` is at the end of one that ends outside. -/
theorem eq_nil_of_endsOutside (last : EndsOutside p (l ++ b)) (all : b.all p = true) :
    b = [] := by
  by_contra some_char
  rw [endsOutside_append_iff some_char, EndsOutside,
    List.getLast?_eq_some_getLast some_char] at last
  have inside := List.all_eq_true.mp all _ (List.getLast_mem some_char)
  rw [Option.any_some, inside] at last
  cases last

theorem StartsOutside.mono {q : Char → Bool} (outside : StartsOutside q l)
    (fewer : ∀ c, p c = true → q c = true) : StartsOutside p l := by
  cases l with
  | nil => rfl
  | cons c l => exact outside_mono fewer outside

theorem EndsOutside.mono {q : Char → Bool} (outside : EndsOutside q l)
    (fewer : ∀ c, p c = true → q c = true) : EndsOutside p l := by
  rw [endsOutside_iff_reverse] at outside ⊢
  exact outside.mono fewer

theorem endsOutside_of_all {q : Char → Bool} (all : l.all q = true)
    (apart : ∀ c, q c = true → p c = false) : EndsOutside p l := by
  rw [EndsOutside]
  cases last : l.getLast? with
  | none => rfl
  | some c => exact apart c (List.all_eq_true.mp all c (List.mem_of_getLast? last))

/-- The end of a text is cut as far as it is in `p`. -/
theorem trimEnd_append (outside : EndsOutside p m) (all : b.all p = true) :
    trimEnd p (m ++ b) = m := by
  have all' : ∀ x ∈ b.reverse, p x = true := by simpa using all
  rw [trimEnd, List.reverse_append, List.dropWhile_append_of_pos all',
    dropWhile_of_startsOutside (endsOutside_iff_reverse.mp outside), List.reverse_reverse]

theorem trimEnd_spec (p : Char → Bool) (l : List Char) :
    ∃ b, l = trimEnd p l ++ b ∧ b.all p = true ∧ EndsOutside p (trimEnd p l) := by
  refine ⟨(l.reverse.takeWhile p).reverse, ?_, ?_, ?_⟩
  · rw [trimEnd, ← List.reverse_append, List.takeWhile_append_dropWhile, List.reverse_reverse]
  · rw [List.all_reverse]
    exact List.all_takeWhile
  · rw [endsOutside_iff_reverse, trimEnd, List.reverse_reverse]
    exact startsOutside_dropWhile p _

/-- Behind a text that ends outside, only what is appended is cut. -/
theorem trimEnd_append_right (outside : EndsOutside p m) (l : List Char) :
    trimEnd p (m ++ l) = m ++ trimEnd p l := by
  obtain ⟨b, split, all, last⟩ := trimEnd_spec p l
  have ends : EndsOutside p (m ++ trimEnd p l) := by
    by_cases nothing : trimEnd p l = []
    · rw [nothing, List.append_nil]
      exact outside
    · exact (endsOutside_append_iff nothing).mpr last
  calc trimEnd p (m ++ l) = trimEnd p ((m ++ trimEnd p l) ++ b) := by
        rw [List.append_assoc, ← split]
    _ = m ++ trimEnd p l := trimEnd_append ends all

/-- Nothing is left exactly of a text in `p`. -/
theorem trimEnd_eq_nil_iff : trimEnd p l = [] ↔ l.all p = true := by
  constructor
  · intro nothing
    obtain ⟨b, split, all, _⟩ := trimEnd_spec p l
    rw [nothing, List.nil_append] at split
    rw [split]
    exact all
  · intro all
    exact trimEnd_append (m := []) rfl all

theorem trimBoth_eq (p : Char → Bool) (l : List Char) :
    trimBoth p l = trimEnd p (l.dropWhile p) := rfl

theorem startsOutside_of_append (outside : StartsOutside p (m ++ b)) : StartsOutside p m := by
  cases m with
  | nil => rfl
  | cons x m => exact outside

/-- A change of characters that keeps the class commutes with trimming. -/
theorem trimEnd_map {f : Char → Char} (same : ∀ c, p (f c) = p c) (l : List Char) :
    trimEnd p (l.map f) = (trimEnd p l).map f := by
  have inside : p ∘ f = p := funext same
  rw [trimEnd, trimEnd, ← List.map_reverse, List.dropWhile_map, inside, List.map_reverse]

theorem trimBoth_map {f : Char → Char} (same : ∀ c, p (f c) = p c) (l : List Char) :
    trimBoth p (l.map f) = (trimBoth p l).map f := by
  have inside : p ∘ f = p := funext same
  rw [trimBoth_eq, trimBoth_eq, List.dropWhile_map, inside, trimEnd_map same]

/-- Both ends of a text are cut as far as they are in `p`. -/
theorem trimBoth_append (first : StartsOutside p m) (last : EndsOutside p m)
    (all : a.all p = true) (all' : b.all p = true) : trimBoth p (a ++ (m ++ b)) = m := by
  rw [trimBoth_eq, List.dropWhile_append_of_pos (List.all_eq_true.mp all)]
  cases m with
  | nil =>
    have gone : b.dropWhile p = [] := by
      rw [← List.append_nil b, List.dropWhile_append_of_pos (List.all_eq_true.mp all')]
      rfl
    rw [List.nil_append, gone]
    rfl
  | cons x m =>
    have outside : StartsOutside p (x :: m ++ b) := first
    rw [dropWhile_of_startsOutside outside]
    exact trimEnd_append last all'

theorem trimBoth_self (first : StartsOutside p m) (last : EndsOutside p m) : trimBoth p m = m := by
  have cut := trimBoth_append first last (a := []) (b := []) rfl rfl
  rwa [List.nil_append, List.append_nil] at cut

theorem trimBoth_spec (p : Char → Bool) (l : List Char) :
    ∃ a b, l = a ++ (trimBoth p l ++ b) ∧ a.all p = true ∧ b.all p = true ∧
      StartsOutside p (trimBoth p l) ∧ EndsOutside p (trimBoth p l) := by
  obtain ⟨b, split, all, last⟩ := trimEnd_spec p (l.dropWhile p)
  refine ⟨l.takeWhile p, b, ?_, List.all_takeWhile, all, ?_, last⟩
  · rw [trimBoth_eq, ← split, List.takeWhile_append_dropWhile]
  · have outside := startsOutside_dropWhile p l
    rw [split] at outside
    exact startsOutside_of_append outside

theorem trimBoth_subset (p : Char → Bool) (l : List Char) : trimBoth p l ⊆ l := by
  obtain ⟨a, b, split, _⟩ := trimBoth_spec p l
  intro c member
  rw [split]
  simp [member]

theorem trimBoth_eq_nil_iff : trimBoth p l = [] ↔ l.all p = true := by
  constructor
  · intro nothing
    obtain ⟨a, b, split, before, behind, _⟩ := trimBoth_spec p l
    rw [nothing, List.nil_append] at split
    rw [split, List.all_append, before, behind, Bool.and_self]
  · intro all
    exact trimBoth_append (m := []) (a := []) rfl rfl rfl all

theorem trimBoth_idem (p : Char → Bool) (l : List Char) :
    trimBoth p (trimBoth p l) = trimBoth p l := by
  obtain ⟨_, _, _, _, _, first, last⟩ := trimBoth_spec p l
  exact trimBoth_self first last

theorem trimBoth_append_all (all : a.all p = true) (all' : b.all p = true) :
    trimBoth p (a ++ (l ++ b)) = trimBoth p l := by
  obtain ⟨a', b', split, before, behind, first, last⟩ := trimBoth_spec p l
  have whole : a ++ (l ++ b) = (a ++ a') ++ (trimBoth p l ++ (b' ++ b)) := by
    rw [List.append_assoc, ← List.append_assoc (trimBoth p l), ← List.append_assoc a', ← split]
  rw [whole]
  apply trimBoth_append first last
  · rw [List.all_append, all, before, Bool.and_self]
  · rw [List.all_append, all', behind, Bool.and_self]

theorem trimBoth_part (p : Char → Bool) (l : List Char) : trimBoth p l <:+: l := by
  obtain ⟨a, b, split, _⟩ := trimBoth_spec p l
  exact ⟨a, b, by rw [List.append_assoc]; exact split.symm⟩

/-- A text that does not begin in `p` loses its end only. -/
theorem trimBoth_of_startsOutside (outside : StartsOutside p l) :
    trimBoth p l = trimEnd p l := by
  rw [trimBoth_eq, dropWhile_of_startsOutside outside]

/-! ## Letters of ASCII -/

theorem toNat_toLower (c : Char) :
    c.toLower.toNat = if 65 ≤ c.toNat ∧ c.toNat ≤ 90 then c.toNat + 32 else c.toNat := by
  unfold Char.toLower
  by_cases upper : 65 ≤ c.toNat ∧ c.toNat ≤ 90
  · rw [if_pos upper, dif_pos ⟨upper.1, upper.2⟩]
    show (c.val + ('a'.val - 'A'.val)).toNat = c.val.toNat + 32
    have bound : c.val.toNat ≤ 90 := upper.2
    have offset : ('a'.val - 'A'.val).toNat = 32 := by decide
    rw [UInt32.toNat_add]
    omega
  · rw [if_neg upper, dif_neg fun h => upper ⟨h.1, h.2⟩]

theorem toNat_toUpper (c : Char) :
    c.toUpper.toNat = if 97 ≤ c.toNat ∧ c.toNat ≤ 122 then c.toNat - 32 else c.toNat := by
  unfold Char.toUpper
  by_cases lower : 97 ≤ c.toNat ∧ c.toNat ≤ 122
  · rw [if_pos lower, dif_pos ⟨lower.1, lower.2⟩]
    show (c.val + ('A'.val - 'a'.val)).toNat = c.val.toNat - 32
    have low : 97 ≤ c.val.toNat := lower.1
    have high : c.val.toNat ≤ 122 := lower.2
    have offset : ('A'.val - 'a'.val).toNat = 2 ^ 32 - 32 := by decide
    rw [UInt32.toNat_add]
    omega
  · rw [if_neg lower, dif_neg fun h => lower ⟨h.1, h.2⟩]

theorem isAlpha_iff (c : Char) : c.isAlpha = true ↔
    65 ≤ c.toNat ∧ c.toNat ≤ 90 ∨ 97 ≤ c.toNat ∧ c.toNat ≤ 122 := by
  have value : c.val.toNat = c.toNat := rfl
  show (decide (65 ≤ c.val ∧ c.val ≤ 90) || 97 ≤ c.val && c.val ≤ 122) = true ↔ _
  simp only [Bool.or_eq_true, Bool.and_eq_true, decide_eq_true_eq, UInt32.le_iff_toNat_le, value]
  exact Iff.rfl

theorem isAlphanum_iff (c : Char) : c.isAlphanum = true ↔
    48 ≤ c.toNat ∧ c.toNat ≤ 57 ∨ 65 ≤ c.toNat ∧ c.toNat ≤ 90 ∨
      97 ≤ c.toNat ∧ c.toNat ≤ 122 := by
  have value : c.val.toNat = c.toNat := rfl
  rw [Char.isAlphanum, Bool.or_eq_true, isAlpha_iff, Char.isDigit, Bool.and_eq_true]
  simp only [decide_eq_true_eq, ge_iff_le, UInt32.le_iff_toNat_le, value]
  have digits : '0'.val.toNat = 48 ∧ '9'.val.toNat = 57 := by decide
  omega

/-! ## Parts of a text -/

/-- The text has the part somewhere in it. -/
def Within (part text : String) : Prop := ∃ before after, text = before ++ part ++ after

namespace Within

variable {part text : String}

theorem self (text : String) : Within text text := ⟨"", "", by simp⟩

theorem append_left (h : Within part text) (before : String) : Within part (before ++ text) := by
  obtain ⟨b, a, rfl⟩ := h
  exact ⟨before ++ b, a, by simp only [String.append_assoc]⟩

theorem append_right (h : Within part text) (after : String) : Within part (text ++ after) := by
  obtain ⟨b, a, rfl⟩ := h
  exact ⟨b, a ++ after, by simp only [String.append_assoc]⟩

theorem pyJoin {sep : String} {parts : List String} (h : Within part text) (member : text ∈ parts) :
    Within part (pyJoin sep parts) := by
  induction parts with
  | nil => cases member
  | cons first rest ih =>
    rw [Misc.pyJoin]
    cases rest with
    | nil =>
      rw [List.mem_singleton.mp member] at h
      rwa [String.intercalate_singleton]
    | cons second rest =>
      rw [String.intercalate_cons_cons]
      rcases List.mem_cons.mp member with rfl | later
      · exact (h.append_right sep).append_right _
      · exact (ih later).append_left (first ++ sep)

end Within

end MysqlRedshift.Misc
