import MysqlRedshift.Misc.Csv
import MysqlRedshift.Misc.LoadData

/-!
# The file for Aurora

`scripts/xlsx_to_csv.py` writes the rows of a sheet with `csv.writer`, tabs between the
fields and `\N` for an empty cell; `scripts/load_aurora.sh` reads the file with LOAD DATA,
without an enclosing character. The writer protects a cell with quotes, and the reader
wants backslashes. Cells are strings or empty. Whether Python's writer quotes every line
break is a parameter.
-/

namespace MysqlRedshift.Scripts

open MysqlRedshift.Misc
open MysqlRedshift.Misc.LoadData (Clean CleanRow cellText tally occurrences isNull)

/-- The dialect of the writer. -/
def tsv (breaks : Bool) : Csv.Dialect := ⟨'\t', ['\n'], breaks⟩

/-- The file of the rows. -/
def writeTsv (breaks : Bool) (data : List (List (Option String))) : String :=
  String.ofList ((tsv breaks).write (data.map fun row => row.map fun v => (v.getD "\\N").toList))

/-- The file that `main` makes of a sheet: its first row is the header. -/
def sampleDataTsv (breaks : Bool) (rows : List (List (Option String))) : String :=
  writeTsv breaks (rows.drop 1)

/-- The rows that LOAD DATA reads. -/
def loadTsv (file : String) : List (List (Option String)) :=
  (LoadData.load '\t' '\n' file.toList).map fun row => row.map (Option.map String.ofList)

/-- No character of the cell is special to the writer or to the reader. -/
def PlainCell (breaks : Bool) (s : String) : Prop :=
  ∀ c ∈ s.toList, c ≠ '\t' ∧ c ≠ '\n' ∧ c ≠ '"' ∧ c ≠ '\\' ∧ (breaks = true → c ≠ '\r')

/-- A row with cells, more than one empty string, and no special characters. -/
def PlainRow (breaks : Bool) (row : List (Option String)) : Prop :=
  row ≠ [] ∧ row ≠ [some ""] ∧ ∀ s, some s ∈ row → PlainCell breaks s

/-! ## Rows of characters -/

variable {breaks : Bool} {row : List (Option (List Char))}
  {rows : List (List (Option (List Char)))}

theorem special_tsv_iff (breaks : Bool) (c : Char) : (tsv breaks).special c = true ↔
    c = '\t' ∨ c = '"' ∨ c = '\n' ∨ breaks = true ∧ c = '\r' := by
  simp only [Csv.Dialect.special, tsv, Bool.or_eq_true, Bool.and_eq_true, beq_iff_eq,
    List.contains_eq_mem, List.mem_singleton, decide_eq_true_eq]
  grind

/-- The record of a row without quotes is the text that the reader takes for it. -/
theorem record_cellText (unquoted : Csv.Unquoted (tsv breaks) (row.map cellText)) :
    (tsv breaks).record (row.map cellText) = LoadData.rowText '\t' '\n' row :=
  Csv.record_unquoted unquoted

theorem write_cellText
    (unquoted : ∀ row ∈ rows, Csv.Unquoted (tsv breaks) (row.map cellText)) :
    (tsv breaks).write (rows.map fun row => row.map cellText) =
      rows.flatMap (LoadData.rowText '\t' '\n') := by
  rw [Csv.Dialect.write, List.flatMap_map]
  exact List.flatMap_congr fun row member => record_cellText (unquoted row member)

theorem cleanRow_of_unquoted (unquoted : Csv.Unquoted (tsv breaks) (row.map cellText))
    (no_escape : ∀ s, some s ∈ row → '\\' ∉ s) : CleanRow '\t' '\n' row := by
  intro s member c inside
  have plain : ¬(tsv breaks).special c = true := by
    have none_ := unquoted.2 s (List.mem_map_of_mem (f := cellText) member)
    rw [List.any_eq_false] at none_
    exact none_ c inside
  rw [special_tsv_iff] at plain
  refine ⟨fun tab => plain (Or.inl tab),
    fun newline => plain (Or.inr (Or.inr (Or.inl newline))), ?_⟩
  rintro rfl
  exact no_escape s member inside

/-- Rows without quotes and backslashes are read back, but for rows without cells. -/
theorem load_unquoted (unquoted : ∀ row ∈ rows, Csv.Unquoted (tsv breaks) (row.map cellText))
    (no_escape : ∀ row ∈ rows, ∀ s, some s ∈ row → '\\' ∉ s) :
    LoadData.load '\t' '\n' ((tsv breaks).write (rows.map fun row => row.map cellText)) =
      rows.map fun row => if row = [] then [some []] else row := by
  rw [write_cellText unquoted]
  exact LoadData.load_flatMap (by decide) (by decide) fun row member =>
    cleanRow_of_unquoted (unquoted row member) (no_escape row member)

/-! ## What the counts say -/

theorem count_cellText_quote (v : Option (List Char)) :
    (cellText v).count '"' = occurrences '"' v := by
  cases v with
  | none => rfl
  | some s => rfl

theorem count_cellText_backslash (v : Option (List Char)) :
    (cellText v).count '\\' = occurrences '\\' v + isNull v := by
  cases v with
  | none => rfl
  | some s => rfl

/-- If the file is read back, nothing in it is quoted: the reader keeps all quotes. -/
theorem unquoted_of_load
    (same : LoadData.load '\t' '\n'
      ((tsv breaks).write (rows.map fun row => row.map cellText)) = rows) :
    ∀ row ∈ rows, Csv.Unquoted (tsv breaks) (row.map cellText) := by
  have read : tally (occurrences '"') (LoadData.load '\t' '\n'
      ((tsv breaks).write (rows.map fun row => row.map cellText))) = _ :=
    LoadData.tally_load rfl rfl (LoadData.occurrences_value (by decide)) _
  rw [same, LoadData.count_quote_items] at read
  have written := (Csv.count_write (d := tsv breaks) (by simp [tsv])
    (rows.map fun row => row.map cellText)).2
  have cells : ((rows.map fun row => row.map cellText).map
      fun r => (r.map (List.count '"')).sum).sum = tally (occurrences '"') rows := by
    rw [tally, List.map_map]
    refine congrArg List.sum (List.map_congr_left fun row _ => ?_)
    rw [Function.comp_apply, List.map_map]
    exact congrArg List.sum (List.map_congr_left fun v _ => count_cellText_quote v)
  intro row member
  exact written (cells.trans read) _ (List.mem_map_of_mem member)

theorem count_rowText (row : List (Option (List Char))) :
    (LoadData.rowText '\t' '\n' row).count '\\' =
      (row.map (occurrences '\\')).sum + (row.map isNull).sum := by
  have cells : (row.map cellText).map (List.count '\\') =
      row.map fun v => occurrences '\\' v + isNull v := by
    rw [List.map_map]
    exact List.map_congr_left fun v _ => count_cellText_backslash v
  rw [LoadData.rowText, List.count_append, Csv.count_intercalate (by decide), cells,
    List.sum_map_add]
  rfl

theorem count_rowTexts (rows : List (List (Option (List Char)))) :
    (rows.flatMap (LoadData.rowText '\t' '\n')).count '\\' =
      tally (occurrences '\\') rows + tally isNull rows := by
  induction rows with
  | nil => rfl
  | cons row rows ih =>
    simp only [tally] at ih
    rw [List.flatMap_cons, List.count_append, count_rowText, ih]
    simp only [tally, List.map_cons, List.sum_cons]
    omega

theorem getLast?_rowTexts (rows : List (List (Option (List Char)))) :
    (rows.flatMap (LoadData.rowText '\t' '\n')).getLast? ≠ some '\\' := by
  rcases List.eq_nil_or_concat rows with rfl | ⟨before, row, rfl⟩
  · simp
  · simp [LoadData.rowText]

theorem eq_zero_of_tally {weigh : Option (List Char) → Nat} (nothing : tally weigh rows = 0)
    (member : row ∈ rows) {v : Option (List Char)} (inside : v ∈ row) : weigh v = 0 := by
  have row_zero := List.sum_eq_zero_iff.mp nothing _
    (List.mem_map_of_mem (f := fun row => (row.map weigh).sum) member)
  exact List.sum_eq_zero_iff.mp row_zero _ (List.mem_map_of_mem inside)

/-- If the file is read back, no cell has a backslash: the reader keeps half of them. -/
theorem no_escape_of_load
    (unquoted : ∀ row ∈ rows, Csv.Unquoted (tsv breaks) (row.map cellText))
    (same : LoadData.load '\t' '\n'
      ((tsv breaks).write (rows.map fun row => row.map cellText)) = rows) :
    ∀ row ∈ rows, ∀ s, some s ∈ row → '\\' ∉ s := by
  rw [write_cellText unquoted] at same
  have halves := LoadData.count_backslash_items (getLast?_rowTexts rows)
  have read : tally (occurrences '\\')
      (LoadData.load '\t' '\n' (rows.flatMap (LoadData.rowText '\t' '\n'))) = _ :=
    LoadData.tally_load rfl rfl (LoadData.occurrences_value (by decide)) _
  have nulls : tally isNull
      (LoadData.load '\t' '\n' (rows.flatMap (LoadData.rowText '\t' '\n'))) ≤ _ :=
    LoadData.tally_isNull_load _
  rw [same] at read nulls
  rw [count_rowTexts, ← read] at halves
  have nothing : tally (occurrences '\\') rows = 0 := by omega
  intro row member s inside
  exact List.count_eq_zero.mp (eq_zero_of_tally nothing member inside)

/-- Which rows of characters are read back. -/
theorem load_write_iff (breaks : Bool) (rows : List (List (Option (List Char)))) :
    LoadData.load '\t' '\n' ((tsv breaks).write (rows.map fun row => row.map cellText)) = rows ↔
      ∀ row ∈ rows, row ≠ [] ∧ Csv.Unquoted (tsv breaks) (row.map cellText) ∧
        ∀ s, some s ∈ row → '\\' ∉ s := by
  constructor
  · intro same row member
    have unquoted := unquoted_of_load same
    have no_escape := no_escape_of_load unquoted same
    refine ⟨?_, unquoted row member, no_escape row member⟩
    rintro rfl
    rw [load_unquoted unquoted no_escape] at same
    have kept := List.map_inj_left.mp (same.trans (List.map_id rows).symm) [] member
    cases kept
  · intro plain
    rw [load_unquoted (fun row member => (plain row member).2.1)
      fun row member => (plain row member).2.2]
    refine (List.map_congr_left fun row member => ?_).trans (List.map_id rows)
    rw [if_neg (plain row member).1]
    rfl

/-! ## Rows of strings -/

/-- The characters of the rows. -/
def charRows (data : List (List (Option String))) : List (List (Option (List Char))) :=
  data.map fun row => row.map (Option.map String.toList)

theorem writeTsv_eq (breaks : Bool) (data : List (List (Option String))) :
    (writeTsv breaks data).toList =
      (tsv breaks).write ((charRows data).map fun row => row.map cellText) := by
  have cell : ∀ v : Option String, (v.getD "\\N").toList = cellText (v.map String.toList) := by
    intro v
    cases v with
    | none => rfl
    | some s => rfl
  rw [writeTsv, String.toList_ofList, charRows, List.map_map]
  refine congrArg _ (List.map_congr_left fun row _ => ?_)
  rw [Function.comp_apply, List.map_map]
  exact List.map_congr_left fun v _ => cell v

theorem loadTsv_eq_iff (file : String) (data : List (List (Option String))) :
    loadTsv file = data ↔ LoadData.load '\t' '\n' file.toList = charRows data := by
  have there : ∀ v : Option String, (v.map String.toList).map String.ofList = v := by
    intro v
    cases v with
    | none => rfl
    | some s => exact congrArg some String.ofList_toList
  have back : ∀ v : Option (List Char), (v.map String.ofList).map String.toList = v := by
    intro v
    cases v with
    | none => rfl
    | some s => exact congrArg some String.toList_ofList
  constructor
  · rintro rfl
    rw [loadTsv, charRows, List.map_map]
    refine ((List.map_congr_left fun row _ => ?_).trans (List.map_id _)).symm
    rw [Function.comp_apply, List.map_map]
    exact (List.map_congr_left fun v _ => back v).trans (List.map_id row)
  · intro same
    rw [loadTsv, same, charRows, List.map_map]
    refine (List.map_congr_left fun row _ => ?_).trans (List.map_id _)
    rw [Function.comp_apply, List.map_map]
    exact (List.map_congr_left fun v _ => there v).trans (List.map_id row)

theorem cellText_eq_nil {v : Option String} (empty : cellText (v.map String.toList) = []) :
    v = some "" := by
  cases v with
  | none => cases empty
  | some s => exact congrArg some (String.toList_eq_nil_iff.mp empty)

theorem plainCell_iff (breaks : Bool) (s : String) : PlainCell breaks s ↔
    s.toList.any (tsv breaks).special = false ∧ '\\' ∉ s.toList := by
  rw [List.any_eq_false]
  constructor
  · intro plain
    refine ⟨fun c inside special => ?_, fun inside => (plain _ inside).2.2.2.1 rfl⟩
    obtain ⟨no_tab, no_newline, no_quote, -, no_return⟩ := plain c inside
    rcases (special_tsv_iff breaks c).mp special with tab | quote | newline | ⟨on, return_⟩
    · exact no_tab tab
    · exact no_quote quote
    · exact no_newline newline
    · exact no_return on return_
  · rintro ⟨plain, no_escape⟩ c inside
    have none_ := mt (special_tsv_iff breaks c).mpr (plain c inside)
    refine ⟨fun tab => none_ (Or.inl tab), fun newline => none_ (Or.inr (Or.inr (Or.inl newline))),
      fun quote => none_ (Or.inr (Or.inl quote)), ?_,
      fun on return_ => none_ (Or.inr (Or.inr (Or.inr ⟨on, return_⟩)))⟩
    rintro rfl
    exact no_escape inside

theorem unquoted_iff (breaks : Bool) (row : List (Option String)) :
    (Csv.Unquoted (tsv breaks) ((row.map (Option.map String.toList)).map cellText) ∧
        ∀ s, some s ∈ row.map (Option.map String.toList) → '\\' ∉ s) ↔
      row ≠ [some ""] ∧ ∀ s, some s ∈ row → PlainCell breaks s := by
  have cell : ∀ {s : String}, some s ∈ row →
      some s.toList ∈ row.map (Option.map String.toList) :=
    fun inside => List.mem_map_of_mem (f := Option.map String.toList) inside
  constructor
  · rintro ⟨⟨not_sole, plain⟩, no_escape⟩
    refine ⟨?_, fun s inside => (plainCell_iff breaks s).mpr ⟨?_, no_escape _ (cell inside)⟩⟩
    · rintro rfl
      exact not_sole rfl
    · exact plain s.toList (List.mem_map_of_mem (f := cellText) (cell inside))
  · rintro ⟨not_sole, plain⟩
    refine ⟨⟨fun sole => not_sole ?_, ?_⟩, ?_⟩
    · rw [List.map_map] at sole
      obtain ⟨v, rfl, empty⟩ := List.map_eq_singleton_iff.mp sole
      rw [cellText_eq_nil empty]
    · intro f member
      obtain ⟨w, inside, rfl⟩ := List.mem_map.mp member
      obtain ⟨v, inside', rfl⟩ := List.mem_map.mp inside
      cases v with
      | none => cases breaks <;> rfl
      | some s => exact ((plainCell_iff breaks s).mp (plain s inside')).1
    · intro s member
      obtain ⟨v, inside, same⟩ := List.mem_map.mp member
      obtain ⟨s', rfl, rfl⟩ := Option.map_eq_some_iff.mp same
      exact ((plainCell_iff breaks s').mp (plain s' inside)).2

theorem charRows_plain_iff (breaks : Bool) (data : List (List (Option String))) :
    (∀ row ∈ charRows data, row ≠ [] ∧ Csv.Unquoted (tsv breaks) (row.map cellText) ∧
        ∀ s, some s ∈ row → '\\' ∉ s) ↔ ∀ row ∈ data, PlainRow breaks row := by
  rw [charRows, List.forall_mem_map]
  refine forall₂_congr fun row _ => ?_
  rw [unquoted_iff, PlainRow]
  simp

/-- Below its header, a sheet of plain rows gets into the table as it is. -/
theorem loadTsv_sampleDataTsv {sheet : List (List (Option String))}
    (plain : ∀ row ∈ sheet.drop 1, PlainRow breaks row) :
    loadTsv (sampleDataTsv breaks sheet) = sheet.drop 1 := by
  rw [sampleDataTsv, loadTsv_eq_iff, writeTsv_eq, load_write_iff, charRows_plain_iff]
  exact plain

/-- The rows are read back exactly if each has a cell, none is a single empty string, and no
cell has a tab, a line feed, a double quote or a backslash, nor a carriage return if the
writer quotes these. -/
theorem loadTsv_write_iff (breaks : Bool) (data : List (List (Option String))) :
    loadTsv (writeTsv breaks data) = data ↔ ∀ row ∈ data, PlainRow breaks row := by
  rw [loadTsv_eq_iff, writeTsv_eq, load_write_iff, charRows_plain_iff]

/-- Two cells and a NULL. -/
def imitations : List (List (Option String)) := [[some "say \"hi\"", some "\\N", none]]

/-- Quotes are data for the reader, and an imitated NULL is one. -/
theorem not_loadTsv_write :
    loadTsv (writeTsv false imitations) = [[some "\"say \"\"hi\"\"\"", none, none]] ∧
      loadTsv (writeTsv false imitations) ≠ imitations := by
  decide +kernel

end MysqlRedshift.Scripts
