import Mathlib.Data.List.Basic
import Mathlib.Algebra.Order.BigOperators.Group.List
import Mathlib.Algebra.Order.Ring.Nat

/-!
# LOAD DATA without an enclosing character

How MySQL reads a file of lines and fields, each with an end of one character, when
backslashes escape and nothing encloses a field. An escaped character ends nothing, and
some stand for another one; a field that is an escaped `N` is NULL. The counts at the end
say what a file cannot hide from its reader: its quotes, and half of its backslashes.
-/

namespace MysqlRedshift.Misc.LoadData

/-- A character of the file: as it stands, or behind a backslash. -/
inductive Item where
  | raw (c : Char)
  | escaped (c : Char)
  deriving DecidableEq, Repr

def unescape (c : Char) : Char :=
  if c = '0' then '\x00'
  else if c = 'b' then '\x08'
  else if c = 'n' then '\n'
  else if c = 'r' then '\r'
  else if c = 't' then '\t'
  else if c = 'Z' then '\x1a'
  else c

/-- What an item stands for in a field. -/
def Item.char : Item → Char
  | .raw c => c
  | .escaped c => unescape c

/-- A backslash at the end of the file escapes nothing. -/
def items : List Char → List Item
  | [] => []
  | [c] => [.raw c]
  | c :: d :: cs => if c = '\\' then .escaped d :: items cs else .raw c :: items (d :: cs)

/-- The value of a field; `none` is NULL. -/
def value (field : List Item) : Option (List Char) :=
  if field = [.escaped 'N'] then none else some (field.map Item.char)

/-- The lines; the last one may lack its end. -/
def lines (lineEnd : Char) (text : List Item) : List (List Item) :=
  let parts := text.splitOn (.raw lineEnd)
  if parts.getLast? = some [] then parts.dropLast else parts

/-- The rows of a file. -/
def load (fieldEnd lineEnd : Char) (text : List Char) : List (List (Option (List Char))) :=
  (lines lineEnd (items text)).map fun line => (line.splitOn (.raw fieldEnd)).map value

example : load '\t' '\n' "a\\tb\t\\N\n\"c\t\\\\N\n".toList =
    [[some "a\tb".toList, none], [some "\"c".toList, some "\\N".toList]] := by
  decide +kernel

/-! ## Files without escapes -/

variable {fieldEnd lineEnd : Char}

/-- Nothing that ends a field or a line, and no backslash. -/
def Clean (fieldEnd lineEnd : Char) (s : List Char) : Prop :=
  ∀ c ∈ s, c ≠ fieldEnd ∧ c ≠ lineEnd ∧ c ≠ '\\'

theorem items_cons {c : Char} (no_escape : c ≠ '\\') (cs : List Char) :
    items (c :: cs) = .raw c :: items cs := by
  cases cs with
  | nil => rfl
  | cons d cs => rw [items, if_neg no_escape]

theorem items_null (cs : List Char) : items ('\\' :: 'N' :: cs) = .escaped 'N' :: items cs := by
  rw [items, if_pos rfl]

theorem items_append {w : List Char} (no_escape : '\\' ∉ w) (cs : List Char) :
    items (w ++ cs) = w.map .raw ++ items cs := by
  induction w with
  | nil => rfl
  | cons c w ih =>
    obtain ⟨first, rest⟩ := not_or.mp (mt List.mem_cons.mpr no_escape)
    rw [List.cons_append, items_cons (Ne.symm first), ih rest]
    rfl

/-- A value as it stands in a file without escapes but for NULL. -/
def cellItems : Option (List Char) → List Item
  | none => [.escaped 'N']
  | some s => s.map .raw

def cellText : Option (List Char) → List Char
  | none => ['\\', 'N']
  | some s => s

theorem value_cellItems (v : Option (List Char)) : value (cellItems v) = v := by
  cases v with
  | none => rfl
  | some s =>
    have plain : s.map Item.raw ≠ [.escaped 'N'] := by
      cases s with
      | nil => simp
      | cons c s => simp
    rw [cellItems, value, if_neg plain, List.map_map]
    exact congrArg some (List.map_id s)

theorem items_cellText {v : Option (List Char)} (clean : ∀ s, v = some s → '\\' ∉ s)
    (cs : List Char) : items (cellText v ++ cs) = cellItems v ++ items cs := by
  cases v with
  | none => exact items_null cs
  | some s => exact items_append (clean s rfl) cs

/-- The text of a row. -/
def rowText (fieldEnd lineEnd : Char) (row : List (Option (List Char))) : List Char :=
  [fieldEnd].intercalate (row.map cellText) ++ [lineEnd]

def rowItems (fieldEnd : Char) (row : List (Option (List Char))) : List Item :=
  [.raw fieldEnd].intercalate (row.map cellItems)

/-- The cells of a row do not end anything before it ends. -/
def CleanRow (fieldEnd lineEnd : Char) (row : List (Option (List Char))) : Prop :=
  ∀ s, some s ∈ row → Clean fieldEnd lineEnd s

variable {row : List (Option (List Char))}

theorem items_rowText (separators : fieldEnd ≠ '\\' ∧ lineEnd ≠ '\\')
    (clean : CleanRow fieldEnd lineEnd row) (cs : List Char) :
    items (rowText fieldEnd lineEnd row ++ cs) =
      rowItems fieldEnd row ++ .raw lineEnd :: items cs := by
  have no_escape : ∀ v ∈ row, ∀ s, v = some s → '\\' ∉ s := by
    rintro v member s rfl inside
    exact (clean s member _ inside).2.2 rfl
  have last : items ([lineEnd] ++ cs) = .raw lineEnd :: items cs := items_cons separators.2 cs
  rw [rowText, List.append_assoc, ← last]
  generalize [lineEnd] ++ cs = rest
  clear clean
  induction row with
  | nil => rfl
  | cons v row ih =>
    obtain ⟨first, others⟩ := List.forall_mem_cons.mp no_escape
    cases row with
    | nil => simpa [rowItems] using items_cellText first rest
    | cons w row =>
      have later := ih others
      simp only [rowItems, List.map_cons, List.intercalate_cons_cons, List.append_assoc] at later ⊢
      rw [items_cellText first, List.singleton_append, items_cons separators.1, later]
      rfl

theorem not_mem_rowItems (differ : fieldEnd ≠ lineEnd) (clean : CleanRow fieldEnd lineEnd row) :
    .raw lineEnd ∉ rowItems fieldEnd row := by
  induction row with
  | nil => simp [rowItems]
  | cons v row ih =>
    have first : .raw lineEnd ∉ cellItems v := by
      cases v with
      | none => simp [cellItems]
      | some s =>
        intro member
        obtain ⟨c, inside, same⟩ := List.mem_map.mp member
        cases same
        exact (clean s List.mem_cons_self _ inside).2.1 rfl
    have rest := ih fun s member => clean s (List.mem_cons_of_mem v member)
    cases row with
    | nil => simpa [rowItems] using first
    | cons w row =>
      simp only [rowItems, List.map_cons, List.intercalate_cons_cons, List.mem_append,
        List.mem_singleton, Item.raw.injEq] at rest ⊢
      rintro ((inside | same) | later)
      · exact first inside
      · exact differ same.symm
      · exact rest later

/-- The fields of a row are read back; a row without any has an empty one. -/
theorem map_value_rowItems (clean : CleanRow fieldEnd lineEnd row) :
    ((rowItems fieldEnd row).splitOn (.raw fieldEnd)).map value =
      if row = [] then [some []] else row := by
  by_cases none_ : row = []
  · rw [none_]
    rfl
  · have apart : ∀ l ∈ row.map cellItems, .raw fieldEnd ∉ l := by
      intro l member inside
      obtain ⟨v, inside', rfl⟩ := List.mem_map.mp member
      cases v with
      | none => simp [cellItems] at inside
      | some s =>
        obtain ⟨c, at_, same⟩ := List.mem_map.mp inside
        cases same
        exact (clean s inside' _ at_).1 rfl
    rw [if_neg none_, rowItems, List.splitOn_intercalate _ apart (by simpa using none_),
      List.map_map]
    exact List.map_congr_left (fun v _ => value_cellItems v) |>.trans (List.map_id row)

/-- A file of clean rows is read back, but for rows without fields. -/
theorem load_flatMap (separators : fieldEnd ≠ '\\' ∧ lineEnd ≠ '\\') (differ : fieldEnd ≠ lineEnd)
    {rows : List (List (Option (List Char)))}
    (clean : ∀ row ∈ rows, CleanRow fieldEnd lineEnd row) :
    load fieldEnd lineEnd (rows.flatMap (rowText fieldEnd lineEnd)) =
      rows.map fun row => if row = [] then [some []] else row := by
  have parts : (items (rows.flatMap (rowText fieldEnd lineEnd))).splitOn (.raw lineEnd) =
      rows.map (rowItems fieldEnd) ++ [[]] := by
    induction rows with
    | nil => rfl
    | cons row rows ih =>
      obtain ⟨first, others⟩ := List.forall_mem_cons.mp clean
      rw [List.flatMap_cons, items_rowText separators first,
        List.splitOn_append_cons_self_of_not_mem (not_mem_rowItems differ first), ih others]
      rfl
  have whole : lines lineEnd (items (rows.flatMap (rowText fieldEnd lineEnd))) =
      rows.map (rowItems fieldEnd) := by
    simp [lines, parts]
  rw [load, whole, List.map_map]
  exact List.map_congr_left fun row member => map_value_rowItems (clean row member)

/-! ## What is in the values -/

/-- The weight of all values of a table. -/
def tally (weigh : Option (List Char) → Nat) (rows : List (List (Option (List Char)))) : Nat :=
  (rows.map fun row => (row.map weigh).sum).sum

theorem sum_splitOn {p : Item → Bool} {sep : Item} (light : p sep = false) (l : List Item) :
    ((l.splitOn sep).map (List.countP p)).sum = l.countP p := by
  induction l with
  | nil => simp
  | cons x l ih =>
    obtain ⟨part, parts, split⟩ := List.exists_cons_of_ne_nil (List.splitOn_ne_nil sep l)
    rw [split, List.map_cons, List.sum_cons] at ih
    rw [List.splitOn_cons_eq_if_modifyHead, split]
    by_cases is_sep : x = sep
    · simp only [is_sep, beq_self_eq_true, if_true, List.map_cons, List.sum_cons,
        List.countP_nil, Nat.zero_add, List.countP_cons, light, Bool.false_eq_true, if_false,
        Nat.add_zero]
      exact ih
    · simp only [beq_iff_eq, is_sep, if_false, List.modifyHead_cons, List.map_cons,
        List.sum_cons, List.countP_cons]
      omega

theorem sum_lines {p : Item → Bool} (light : p (.raw lineEnd) = false) (text : List Item) :
    ((lines lineEnd text).map (List.countP p)).sum = text.countP p := by
  rw [← sum_splitOn light text]
  dsimp only [lines]
  split
  · next last =>
    conv_rhs => rw [← List.dropLast_append_getLast? _ last]
    simp
  · rfl

/-- What the values of a file weigh, where the weight of a value is that of its items. -/
theorem tally_load {p : Item → Bool} {weigh : Option (List Char) → Nat}
    (light : p (.raw fieldEnd) = false) (light' : p (.raw lineEnd) = false)
    (fields : ∀ field, weigh (value field) = field.countP p) (text : List Char) :
    tally weigh (load fieldEnd lineEnd text) = (items text).countP p := by
  have row : ∀ line : List Item,
      (((line.splitOn (.raw fieldEnd)).map value).map weigh).sum = line.countP p := by
    intro line
    rw [← sum_splitOn light line, List.map_map]
    exact congrArg List.sum (List.map_congr_left fun field _ => fields field)
  rw [← sum_lines light', tally, load, List.map_map]
  exact congrArg List.sum (List.map_congr_left fun line _ => row line)

/-- How often a character is in a value. -/
def occurrences (q : Char) (v : Option (List Char)) : Nat := (v.getD []).count q

def isNull (v : Option (List Char)) : Nat := if v = none then 1 else 0

theorem occurrences_value {q : Char} (other : q ≠ 'N') (field : List Item) :
    occurrences q (value field) = field.countP fun it => it.char == q := by
  unfold value
  split
  · next null => simp [occurrences, null, Item.char, unescape, other.symm]
  · rw [occurrences, Option.getD_some, List.count_eq_countP, List.countP_map]
    rfl

theorem isNull_value (field : List Item) :
    isNull (value field) ≤ field.countP fun it => it == .escaped 'N' := by
  unfold value
  split
  · next null => simp [isNull, null]
  · exact Nat.zero_le _

theorem tally_isNull_load (text : List Char) :
    tally isNull (load fieldEnd lineEnd text) ≤
      (items text).countP fun it => it == .escaped 'N' := by
  have row : ∀ line : List Item, (((line.splitOn (.raw fieldEnd)).map value).map isNull).sum ≤
      line.countP fun it => it == .escaped 'N' := by
    intro line
    rw [← @sum_splitOn _ (.raw fieldEnd) rfl line, List.map_map]
    exact List.sum_le_sum fun field _ => isNull_value field
  rw [← @sum_lines lineEnd _ rfl, tally, load, List.map_map]
  exact List.sum_le_sum fun line _ => row line

theorem unescape_eq_quote_iff (c : Char) : unescape c = '"' ↔ c = '"' := by
  unfold unescape
  grind

theorem unescape_eq_backslash_iff (c : Char) : unescape c = '\\' ↔ c = '\\' := by
  unfold unescape
  grind

/-- No quote of a file is lost. -/
theorem count_quote_items (text : List Char) :
    ((items text).countP fun it => it.char == '"') = text.count '"' := by
  fun_induction items text with
  | case1 => rfl
  | case2 c => simp [Item.char, List.count_cons, List.countP_cons]
  | case3 d cs ih =>
    rw [List.countP_cons, ih, List.count_cons, List.count_cons]
    simp [Item.char, unescape_eq_quote_iff]
  | case4 c d cs plain ih => rw [List.countP_cons, ih, List.count_cons (a := '"') (b := c)]; rfl

/-- A file has two backslashes for each that is read, and one for each NULL. -/
theorem count_backslash_items {text : List Char} (last : text.getLast? ≠ some '\\') :
    2 * ((items text).countP fun it => it.char == '\\') +
        ((items text).countP fun it => it == .escaped 'N') ≤ text.count '\\' := by
  fun_induction items text with
  | case1 => exact Nat.le_refl _
  | case2 c =>
    have plain : c ≠ '\\' := by simpa using last
    simp [Item.char, plain]
  | case3 d cs ih =>
    have later : cs.getLast? ≠ some '\\' := by
      cases cs with
      | nil => simp
      | cons c cs => simpa [List.getLast?_cons_cons] using last
    have := ih later
    have reads : ((Item.escaped d).char == '\\') = (d == '\\') := by
      rw [Bool.eq_iff_iff, beq_iff_eq, beq_iff_eq]
      exact unescape_eq_backslash_iff d
    simp only [List.countP_cons, List.count_cons, reads, beq_self_eq_true, if_true]
    by_cases twice : d = '\\'
    · subst twice
      simp
      omega
    · simp [twice]
      split <;> omega
  | case4 c d cs plain ih =>
    have := ih (by simpa [List.getLast?_cons_cons] using last)
    rw [List.countP_cons, List.countP_cons, List.count_cons (a := '\\') (b := c)]
    simpa [Item.char, plain] using this

end MysqlRedshift.Misc.LoadData
