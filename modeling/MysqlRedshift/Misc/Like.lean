import Mathlib.Data.List.Infix

/-!
# `LIKE`

Patterns of SQL: `%` stands for any run of characters, `_` for any one, and a backslash
takes the character after it for itself. `ILIKE` compares in lower case, and lowers the
pattern as a whole.
-/

namespace MysqlRedshift.Misc

/-- An item of a pattern. -/
inductive LikeItem where
  | run
  | one
  | lit (c : Char)
  deriving DecidableEq, Repr

/-- A character of a pattern that no backslash stands before. -/
def likeItem (c : Char) : LikeItem := if c = '%' then .run else if c = '_' then .one else .lit c

/-- The items of a pattern; a database refuses one that ends with its escape character. -/
def likeItems : List Char → Option (List LikeItem)
  | [] => some []
  | c :: cs =>
    if c = '\\' then
      match cs with
      | [] => none
      | d :: cs => (likeItems cs).map (.lit d :: ·)
    else (likeItems cs).map (likeItem c :: ·)

/-- Whether the items stand for the text. -/
def likeMatch : List LikeItem → List Char → Bool
  | [], s => s.isEmpty
  | .run :: items, s => s.tails.any (likeMatch items)
  | .one :: items, s =>
    match s with
    | [] => false
    | _ :: s => likeMatch items s
  | .lit c :: items, s =>
    match s with
    | [] => false
    | d :: s => c = d && likeMatch items s

/-- The characters that are not themselves in a pattern. -/
def isLikeMark (c : Char) : Bool := c = '%' || c = '_' || c = '\\'

/-! ## Matches -/

variable {items : List LikeItem} {s : List Char}

theorem likeMatch_run : likeMatch (.run :: items) s = true ↔
    ∃ before after, s = before ++ after ∧ likeMatch items after = true := by
  rw [likeMatch, List.any_eq_true]
  constructor
  · rintro ⟨after, suffix, rest⟩
    obtain ⟨before, split⟩ := (List.mem_tails ..).mp suffix
    exact ⟨before, after, split.symm, rest⟩
  · rintro ⟨before, after, split, rest⟩
    exact ⟨after, (List.mem_tails ..).mpr ⟨before, split.symm⟩, rest⟩

/-- Literal items read their own characters. -/
theorem likeMatch_lits (cs : List Char) : likeMatch (cs.map .lit ++ items) s = true ↔
    ∃ after, s = cs ++ after ∧ likeMatch items after = true := by
  induction cs generalizing s with
  | nil => simp
  | cons c cs ih =>
    cases s with
    | nil => simp [likeMatch]
    | cons d s =>
      rw [List.map_cons, List.cons_append, likeMatch, Bool.and_eq_true, decide_eq_true_iff, ih]
      simp only [List.cons_append, List.cons.injEq]
      constructor
      · rintro ⟨rfl, after, rfl, rest⟩
        exact ⟨after, ⟨rfl, rfl⟩, rest⟩
      · rintro ⟨after, ⟨rfl, rfl⟩, rest⟩
        exact ⟨rfl, after, rfl, rest⟩

/-- A final run reads whatever is left. -/
theorem likeMatch_run_end : likeMatch [.run] s = true :=
  likeMatch_run.mpr ⟨s, [], (List.append_nil s).symm, rfl⟩

/-- Literal items between two runs search for their characters. -/
theorem likeMatch_between_runs (cs : List Char) :
    likeMatch (.run :: (cs.map .lit ++ [.run])) s = true ↔ cs <:+: s := by
  rw [likeMatch_run]
  constructor
  · rintro ⟨before, after, rfl, read⟩
    obtain ⟨rest, rfl, -⟩ := (likeMatch_lits cs).mp read
    exact ⟨before, rest, List.append_assoc ..⟩
  · rintro ⟨before, rest, rfl⟩
    exact ⟨before, cs ++ rest, List.append_assoc ..,
      (likeMatch_lits cs).mpr ⟨rest, rfl, likeMatch_run_end⟩⟩

/-- A text that the items stand for: nothing for a run, and a percent sign for any character. -/
def LikeItem.shortest : List LikeItem → List Char
  | [] => []
  | .run :: items => shortest items
  | .one :: items => '%' :: shortest items
  | .lit c :: items => c :: shortest items

theorem likeMatch_shortest (items : List LikeItem) :
    likeMatch items (LikeItem.shortest items) = true := by
  induction items with
  | nil => rfl
  | cons item items ih =>
    cases item with
    | run => exact likeMatch_run.mpr ⟨[], _, rfl, ih⟩
    | one => exact ih
    | lit c =>
      rw [LikeItem.shortest, likeMatch, ih]
      simp

/-! ## Patterns that search -/

theorem likeItems_cons {c : Char} (plain : c ≠ '\\') (cs : List Char) :
    likeItems (c :: cs) = (likeItems cs).map (likeItem c :: ·) := by
  rw [likeItems.eq_def]
  simp only [plain, if_false]

@[simp] theorem likeItems_escape (d : Char) (cs : List Char) :
    likeItems ('\\' :: d :: cs) = (likeItems cs).map (.lit d :: ·) := by
  rw [likeItems.eq_def]
  simp only [if_true]

theorem likeItem_of_plain {c : Char} (plain : isLikeMark c = false) : likeItem c = .lit c := by
  simp only [isLikeMark, Bool.or_eq_false_iff, decide_eq_false_iff_not] at plain
  rw [likeItem, if_neg plain.1.1, if_neg plain.1.2]

theorem likeItems_plain {cs : List Char} (plain : ∀ c ∈ cs, isLikeMark c = false)
    (rest : List Char) : likeItems (cs ++ rest) = (likeItems rest).map (cs.map .lit ++ ·) := by
  induction cs with
  | nil => simp
  | cons c cs ih =>
    have here := plain c List.mem_cons_self
    have escape : c ≠ '\\' := by
      rintro rfl
      cases here
    rw [List.cons_append, likeItems_cons escape, likeItem_of_plain here,
      ih fun d member => plain d (List.mem_cons_of_mem _ member), Option.map_map]
    rfl

/-- A percent sign at the end of a search text makes it a pattern, whose shortest text is
not longer than the search text, and is that text only if it has no marks. -/
theorem shortest_search (cs : List Char) : ∃ items, likeItems (cs ++ ['%']) = some items ∧
    (LikeItem.shortest items).length ≤ cs.length ∧
    (LikeItem.shortest items = cs → ∀ c ∈ cs, isLikeMark c = false) := by
  induction cs using likeItems.induct with
  | case1 => exact ⟨[.run], rfl, Nat.le_refl _, fun _ c member => by cases member⟩
  | case2 =>
    -- the backslash takes the percent sign that is added
    exact ⟨[.lit '%'], rfl, Nat.le_refl _, fun same => by cases same⟩
  | case3 d cs ih =>
    obtain ⟨items, parsed, short, -⟩ := ih
    refine ⟨.lit d :: items, by simp [parsed], ?_, fun same => ?_⟩
    · simpa [LikeItem.shortest] using Nat.le_succ_of_le short
    · have length := congrArg List.length same
      simp only [LikeItem.shortest, List.length_cons] at length
      omega
  | case4 c cs plain ih =>
    obtain ⟨items, parsed, short, only⟩ := ih
    refine ⟨likeItem c :: items, ?_, ?_⟩
    · rw [List.cons_append, likeItems_cons plain, parsed]
      rfl
    · by_cases percent : c = '%'
      · subst percent
        refine ⟨Nat.le_succ_of_le short, fun same => ?_⟩
        have length := congrArg List.length same
        simp only [likeItem, if_true, LikeItem.shortest, List.length_cons] at length
        omega
      · by_cases underscore : c = '_'
        · subst underscore
          refine ⟨Nat.succ_le_succ short, fun same => ?_⟩
          cases (List.cons.inj same).1
        · have literal : likeItem c = .lit c := by
            rw [likeItem, if_neg percent, if_neg underscore]
          rw [literal]
          refine ⟨Nat.succ_le_succ short, fun same d member => ?_⟩
          rcases List.mem_cons.mp member with rfl | later
          · simp [isLikeMark, percent, underscore, plain]
          · exact only (List.cons.inj same).2 d later

/-! ## Whatever the case -/

/-- A change of case leaves the marks alone. -/
def KeepsMarks (f : Char → Char) : Prop := ∀ c m, isLikeMark m = true → (f c = m ↔ c = m)

/-- The items of a pattern whose characters are changed. -/
def LikeItem.map (f : Char → Char) : LikeItem → LikeItem
  | .run => .run
  | .one => .one
  | .lit c => .lit (f c)

variable {f : Char → Char}

theorem KeepsMarks.isLikeMark (keeps : KeepsMarks f) (c : Char) :
    isLikeMark (f c) = isLikeMark c := by
  simp only [Misc.isLikeMark, keeps c '%' rfl, keeps c '_' rfl, keeps c '\\' rfl]

theorem KeepsMarks.likeItem (keeps : KeepsMarks f) (c : Char) :
    likeItem (f c) = (likeItem c).map f := by
  simp only [Misc.likeItem, keeps c '%' rfl, keeps c '_' rfl]
  by_cases percent : c = '%'
  · simp [percent, LikeItem.map]
  · by_cases underscore : c = '_'
    · simp [underscore, LikeItem.map]
    · simp [percent, underscore, LikeItem.map]

theorem KeepsMarks.likeItems (keeps : KeepsMarks f) (cs : List Char) :
    likeItems (cs.map f) = (likeItems cs).map (List.map (LikeItem.map f)) := by
  have escape : f '\\' = '\\' := (keeps _ _ rfl).mpr rfl
  induction cs using Misc.likeItems.induct with
  | case1 => rfl
  | case2 =>
    rw [List.map_singleton, escape]
    rfl
  | case3 d cs ih =>
    rw [List.map_cons, List.map_cons, escape, likeItems_escape, likeItems_escape, ih,
      Option.map_map, Option.map_map]
    rfl
  | case4 c cs plain ih =>
    have plain' : f c ≠ '\\' := fun same => plain ((keeps _ _ rfl).mp same)
    rw [List.map_cons, likeItems_cons plain', likeItems_cons plain, ih, keeps.likeItem,
      Option.map_map, Option.map_map]
    rfl

theorem KeepsMarks.shortest (keeps : KeepsMarks f) (items : List LikeItem) :
    LikeItem.shortest (items.map (LikeItem.map f)) = (LikeItem.shortest items).map f := by
  have percent : f '%' = '%' := (keeps _ _ rfl).mpr rfl
  induction items with
  | nil => rfl
  | cons item items ih =>
    cases item <;> simp only [List.map_cons, LikeItem.map, LikeItem.shortest, percent, ih]

/-- A search text between percent signs is a pattern, and begins with a run. -/
theorem exists_searchItems (keeps : KeepsMarks f) (cs : List Char) :
    ∃ items, likeItems (cs.map f ++ ['%']) = some items ∧
      likeItems (('%' :: cs ++ ['%']).map f) = some (.run :: items) := by
  have percent : f '%' = '%' := (keeps _ _ rfl).mpr rfl
  obtain ⟨items, parsed, -⟩ := shortest_search (cs.map f)
  refine ⟨items, parsed, ?_⟩
  rw [List.cons_append, List.map_cons, List.map_append, List.map_singleton, percent,
    likeItems_cons (by decide), parsed]
  rfl

/-- A search text between percent signs matches the texts that contain it exactly when it
has no marks. -/
theorem search_exact_iff (keeps : KeepsMarks f) (cs : List Char) :
    (∀ items, likeItems (('%' :: cs ++ ['%']).map f) = some items → ∀ text : List Char,
      likeMatch items (text.map f) = true ↔ cs.map f <:+: text.map f) ↔
      ∀ c ∈ cs, isLikeMark c = false := by
  obtain ⟨items, parsed, pattern⟩ := exists_searchItems keeps cs
  rw [pattern]
  constructor
  · intro exact
    have percent : f '%' = '%' := (keeps _ _ rfl).mpr rfl
    obtain ⟨items₀, parsed₀, short, -⟩ := shortest_search cs
    obtain ⟨_, parsed', -, only⟩ := shortest_search (cs.map f)
    obtain rfl := Option.some.inj (parsed.symm.trans parsed')
    have mapped := keeps.likeItems (cs ++ ['%'])
    rw [List.map_append, List.map_singleton, percent, parsed₀, parsed, Option.map_some,
      Option.some.injEq] at mapped
    rw [mapped, keeps.shortest] at only
    -- the shortest text of the pattern has to contain the search text
    have read : likeMatch (.run :: items) ((LikeItem.shortest items₀).map f) = true := by
      rw [mapped, ← keeps.shortest]
      exact likeMatch_run.mpr ⟨[], _, rfl, likeMatch_shortest _⟩
    have within := (exact _ rfl _).mp read
    have whole := within.eq_of_length_le (by simpa using short)
    intro c member
    rw [← keeps.isLikeMark]
    exact only whole.symm (f c) (List.mem_map_of_mem member)
  · rintro plain _ ⟨⟩ text
    have plain' : ∀ c ∈ cs.map f, isLikeMark c = false := by
      intro c member
      obtain ⟨d, there, rfl⟩ := List.mem_map.mp member
      rw [keeps.isLikeMark]
      exact plain d there
    rw [likeItems_plain plain', show likeItems ['%'] = some [.run] from rfl, Option.map_some,
      Option.some.injEq] at parsed
    rw [← parsed]
    exact likeMatch_between_runs _

end MysqlRedshift.Misc
