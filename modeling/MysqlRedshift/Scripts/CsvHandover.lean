import MysqlRedshift.Misc.Csv
import MysqlRedshift.Scripts.Migrate

/-!
# The file between Aurora and Redshift

`scripts/migrate_simple.py`: `dump_table_to_csv` writes the rows of a table to a CSV file,
with an empty field for NULL, and the `COPY` of `copy_into_redshift` reads it with the
options `IGNOREHEADER 1`, `EMPTYASNULL` and `BLANKSASNULL`. Here the columns are strings
that may be NULL. Which characters Redshift takes for blank is a parameter, and so is
whether Python's writer quotes every line break.
-/

namespace MysqlRedshift.Scripts

open MysqlRedshift.Misc

/-- The content of a table with columns of strings. -/
structure TextTable where
  cols : List String
  rows : List (List (Option String))
  some_column : cols ≠ []
  distinct : cols.Nodup
  width : ∀ row ∈ rows, row.length = cols.length

/-! ## The dump -/

/-- `DictWriter.writerow`: the values of the row in the order of the field names. -/
def writerow (fieldnames : List String) (row : List (String × String)) : List String :=
  fieldnames.map fun k => (row.lookup k).getD ""

/-- A row of the cursor, with an empty string for NULL. -/
def emptied (row : List (String × Option String)) : List (String × String) :=
  row.map fun (k, v) => (k, v.getD "")

/-- The records of the file. -/
def dumpedRecords (t : TextTable) : List (List String) :=
  writerow t.cols (t.cols.zip t.cols) ::
    t.rows.map fun row => writerow t.cols (emptied (t.cols.zip row))

/-- The file of `dump_table_to_csv`. -/
def dumpTableToCsv (breaks : Bool) (t : TextTable) : String :=
  String.ofList ((Csv.excel breaks).write ((dumpedRecords t).map fun r => r.map String.toList))

/-! ## The load -/

/-- A field under `EMPTYASNULL` and `BLANKSASNULL`. -/
def loadField (blank : Char → Bool) (field : String) : Option String :=
  if field = "" then none
  else if field.toList.all blank then none
  else some field

/-- The rows that the `COPY` reads from a file. -/
def loadCsv (blank : Char → Bool) (file : String) : Option (List (List (Option String))) :=
  (Csv.read ',' file.toList).map fun records =>
    (records.drop 1).map fun r => r.map fun field => loadField blank (String.ofList field)

/-- A value as it arrives: a string without other characters than blanks is NULL. -/
def arrives (blank : Char → Bool) (v : Option String) : Option String :=
  v.bind fun s => if s.toList.all blank then none else some s

/-! ## What arrives -/

theorem lookup_zip {cols : List String} {row : List (Option String)} {i : Nat} {k : String}
    {v : Option String} (distinct : cols.Nodup) (col : cols[i]? = some k)
    (value : row[i]? = some v) : (emptied (cols.zip row)).lookup k = some (v.getD "") := by
  induction cols generalizing row i with
  | nil => cases col
  | cons c cols ih =>
    cases row with
    | nil => cases value
    | cons w row =>
      obtain ⟨absent, distinct'⟩ := List.nodup_cons.mp distinct
      cases i with
      | zero =>
        cases col
        cases value
        simp [emptied]
      | succ i =>
        have later : k ∈ cols := List.mem_of_getElem? col
        have other : (k == c) = false := by
          rw [beq_eq_false_iff_ne]
          rintro rfl
          exact absent later
        have found := ih distinct' col value
        rw [emptied] at found ⊢
        rw [List.zip_cons_cons, List.map_cons, List.lookup_cons, other]
        exact found

/-- With distinct columns, a row is written in its own order. -/
theorem writerow_zip {cols : List String} {row : List (Option String)} (distinct : cols.Nodup)
    (width : row.length = cols.length) :
    writerow cols (emptied (cols.zip row)) = row.map fun v => v.getD "" := by
  apply List.ext_getElem?
  intro i
  rw [writerow, List.getElem?_map, List.getElem?_map]
  cases col : cols[i]? with
  | none =>
    have beyond : row[i]? = none := by
      rw [List.getElem?_eq_none_iff] at col ⊢
      omega
    rw [beyond]
    rfl
  | some k =>
    obtain ⟨inside, -⟩ := List.getElem?_eq_some_iff.mp col
    have value : row[i]? = some row[i] := List.getElem?_eq_getElem (by omega)
    rw [value, Option.map_some, Option.map_some, lookup_zip distinct col value]
    rfl

theorem dumpedRecords_ne_nil (t : TextTable) : ∀ r ∈ dumpedRecords t, r ≠ [] := by
  have whole : ∀ row : List (String × String), writerow t.cols row ≠ [] :=
    fun row empty => t.some_column (List.map_eq_nil_iff.mp empty)
  intro r member
  rcases List.mem_cons.mp member with rfl | later
  · exact whole _
  · obtain ⟨row, -, rfl⟩ := List.mem_map.mp later
    exact whole _

/-- The fields of the file are the strings of the table, whatever is in them. -/
theorem read_dump (breaks : Bool) (t : TextTable) :
    Csv.read ',' (dumpTableToCsv breaks t).toList =
      some ((dumpedRecords t).map fun r => r.map String.toList) := by
  rw [dumpTableToCsv, String.toList_ofList]
  apply Csv.read_excel
  intro fields member
  obtain ⟨r, inside, rfl⟩ := List.mem_map.mp member
  exact mt List.map_eq_nil_iff.mp (dumpedRecords_ne_nil t r inside)

theorem loadField_getD (blank : Char → Bool) (v : Option String) :
    loadField blank (v.getD "") = arrives blank v := by
  cases v with
  | none => rfl
  | some s =>
    by_cases empty : s = ""
    · subst empty
      rfl
    · exact if_neg empty

theorem loadCsv_dump (blank : Char → Bool) (breaks : Bool) (t : TextTable) :
    loadCsv blank (dumpTableToCsv breaks t) =
      some (t.rows.map fun row => row.map (arrives blank)) := by
  rw [loadCsv, read_dump, Option.map_some, ← List.map_drop]
  simp only [dumpedRecords, List.drop_one, List.tail_cons, List.map_map, Option.some.injEq]
  refine List.map_congr_left fun row member => ?_
  simp only [Function.comp_apply, writerow_zip t.distinct (t.width row member), List.map_map]
  refine List.map_congr_left fun v _ => ?_
  simp only [Function.comp_apply, String.ofList_toList, loadField_getD]

/-- A value arrives as it is unless it is a string of blanks. -/
theorem arrives_eq_self_iff {blank : Char → Bool} {v : Option String} :
    arrives blank v = v ↔ ∀ s, v = some s → s.toList.all blank = false := by
  cases v with
  | none => exact iff_of_true rfl (by simp)
  | some s =>
    rw [arrives, Option.bind_some]
    constructor
    · intro same s' is_s
      cases is_s
      rw [Bool.eq_false_iff]
      intro only
      rw [if_pos only] at same
      cases same
    · intro no_blank
      rw [if_neg (Bool.eq_false_iff.mp (no_blank s rfl))]

theorem map_eq_self_iff {α : Type} {f : α → α} {l : List α} :
    l.map f = l ↔ ∀ x ∈ l, f x = x := by
  conv_lhs => rhs; rw [← List.map_id l]
  exact List.map_inj_left

/-- The rows arrive in order, all strings as they were, but for those that are empty or
blank: these are NULL. So the rows are the original ones exactly if there is no such
string. -/
theorem loadCsv_dump_iff (blank : Char → Bool) (breaks : Bool) (t : TextTable) :
    loadCsv blank (dumpTableToCsv breaks t) =
        some (t.rows.map fun row => row.map (arrives blank)) ∧
      (loadCsv blank (dumpTableToCsv breaks t) = some t.rows ↔
        ∀ row ∈ t.rows, ∀ s, some s ∈ row → s.toList.all blank = false) := by
  refine ⟨loadCsv_dump blank breaks t, ?_⟩
  rw [loadCsv_dump, Option.some.injEq]
  rw [map_eq_self_iff]
  refine forall₂_congr fun row member => ?_
  rw [map_eq_self_iff]
  constructor
  · intro same s inside
    exact arrives_eq_self_iff.mp (same _ inside) s rfl
  · intro no_blank v inside
    exact arrives_eq_self_iff.mpr fun s is_s => no_blank s (is_s ▸ inside)

/-- A table with one column and one row. -/
def oneCell (v : Option String) : TextTable where
  cols := ["note"]
  rows := [[v]]
  some_column := List.cons_ne_nil _ _
  distinct := by simp
  width := by simp

/-- An empty string comes back as NULL, and cannot be told from one. -/
theorem not_loadCsv_dump :
    loadCsv (· == ' ') (dumpTableToCsv false (oneCell (some ""))) ≠ some [[some ""]] ∧
      loadCsv (· == ' ') (dumpTableToCsv false (oneCell (some " "))) =
        loadCsv (· == ' ') (dumpTableToCsv false (oneCell none)) := by
  decide +kernel

/-! ## What a refresh leaves -/

/-- After a refresh from the dump of a table, Redshift has the rows as they arrive. -/
theorem refreshed_dump {settings : Settings} {cluster : Cluster (List (Option String))}
    {table s3Uri : String} {stored : Tables (List (Option String))} {blank : Char → Bool}
    {breaks : Bool} {t : TextTable}
    (file : cluster.load s3Uri = match loadCsv blank (dumpTableToCsv breaks t) with
      | some rows => .ok rows
      | none => .error "Invalid quote formatting for CSV")
    (truncated : Truncates settings cluster table) (loaded : Loads settings cluster table s3Uri) :
    refreshed settings cluster table s3Uri stored table =
      t.rows.map fun row => row.map (arrives blank) := by
  rcases refreshed_cases settings cluster table s3Uri stored with
    ⟨not_truncated, -⟩ | ⟨-, not_loaded, -⟩ | ⟨-, -, new, read, after⟩
  · exact absurd truncated not_truncated
  · exact absurd loaded not_loaded
  · rw [loadCsv_dump] at file
    cases file.symm.trans read
    rw [after, Function.update_self]

end MysqlRedshift.Scripts
