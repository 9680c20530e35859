import MysqlRedshift.Misc.Lru
import MysqlRedshift.Misc.Machine

/-!
# The schema tool and its memory

`agent/tools/get_table_schema.py`: the columns of a Redshift table as a text for the
translator, behind `lru_cache(maxsize=128)`. An error is a text as well, and the cache does
not tell it from another. A run is a sequence of calls and of changes of what Redshift
answers. The setting of the host, which the module reads when it is imported, may change
as well; a run of the module as it stands never changes it.
-/

namespace MysqlRedshift.Agent.TableSchema

open MysqlRedshift.Misc

/-- A row that the query selects. -/
structure Column where
  columnName : String
  dataType : String
  characterMaximumLength : Option Nat
  isNullable : String
  deriving DecidableEq, Repr

/-- What a lookup meets: the host, and what connecting and the query come to, for the name
that is looked for; the rows are in the order of the columns. -/
structure Redshift where
  host : String
  columns : String → Except String (List Column)

/-- One column of the answer. -/
def Column.line (col : Column) : String :=
  col.columnName ++ " " ++ col.dataType ++
    (match col.characterMaximumLength with
      | none => ""
      | some n => if n = 0 then "" else "(" ++ toString n ++ ")") ++
    (if col.isNullable = "YES" then "" else " NOT NULL")

/-- The answer for a table that is found. -/
def schemaText (table : String) (rows : List Column) : String :=
  "TABLE " ++ table ++ " (\n  " ++ String.intercalate ",\n  " (rows.map Column.line) ++ "\n)"

/-- `_fetch_schema`, behind its cache. -/
def fetchSchema (lower : String → String) (rs : Redshift) (table : String) : String :=
  if rs.host = "" then "(redshift not configured; skip schema)"
  else
    match rs.columns (lower table) with
    | .error e => "(failed to fetch schema for " ++ table ++ ": " ++ e ++ ")"
    | .ok [] => "(table " ++ table ++ " not found in Redshift)"
    | .ok (row :: rows) => schemaText table (row :: rows)

/-- The name without a schema: what is behind its first point. -/
def bareName (tableName : String) : String :=
  match tableName.toList.dropWhile (· != '.') with
  | [] => tableName
  | _ :: rest => String.ofList rest

/-- The tool in its surroundings. `fetched` is what the last lookup of a name met, for names
that were looked up. -/
structure State (C : Type) where
  rs : Redshift
  cache : C
  fetched : String → Option Redshift

variable {C : Type}

section

variable (lower : String → String) (L : Lru C String String)

/-- A call of `_fetch_schema`. -/
def cachedFetch (st : State C) (table : String) : String × State C :=
  match L.get st.cache table with
  | (some text, cache) => (text, { st with cache })
  | (none, cache) =>
    let text := fetchSchema lower st.rs table
    (text, { st with
      cache := L.add cache table text
      fetched := Function.update st.fetched table (some st.rs) })

/-- `get_table_schema`. -/
def getTableSchema (st : State C) (tableName : String) : String × State C :=
  cachedFetch lower L st (bareName tableName)

inductive Label where
  | call (tableName : String)
  | change (rs : Redshift)

/-- Calls and changes, in any order. -/
def tool : Machine (State C) Label where
  step st
    | .call tableName => some (getTableSchema lower L st tableName).2
    | .change rs => some { st with rs }

/-- The state after the import. -/
def start (rs : Redshift) (cache : C) : State C := ⟨rs, cache, fun _ => none⟩

/-- The catalog can be read, and has the rows for the table. -/
def Reads (rs : Redshift) (table : String) (rows : List Column) : Prop :=
  rs.host ≠ "" ∧ rs.columns (lower table) = .ok rows ∧ rows ≠ []

/-- A call made while the catalog can be read and has the table returns its columns. -/
def Truthful (st : State C) : Label → Prop
  | .call tableName => ∀ rows, Reads lower st.rs (bareName tableName) rows →
      (getTableSchema lower L st tableName).1 = schemaText (bareName tableName) rows
  | .change _ => True

/-- If the catalog can be read and has the table, its name is not in the memory, or the last
lookup of the name found the table, with columns that are written like those of now. -/
def Fresh (st : State C) : Label → Prop
  | .call tableName => ∀ rows, Reads lower st.rs (bareName tableName) rows →
      L.contents st.cache (bareName tableName) = none ∨
        ∃ rs rows', st.fetched (bareName tableName) = some rs ∧
          Reads lower rs (bareName tableName) rows' ∧
          schemaText (bareName tableName) rows' = schemaText (bareName tableName) rows
  | .change _ => True

end

variable {lower : String → String} {L : Lru C String String} {st : State C} {rs : Redshift}
  {table : String} {rows : List Column}

/-! ## One lookup -/

theorem fetchSchema_of_reads (reads : Reads lower rs table rows) :
    fetchSchema lower rs table = schemaText table rows := by
  obtain ⟨configured, found, some_row⟩ := reads
  cases rows with
  | nil => exact absurd rfl some_row
  | cons row rows => rw [fetchSchema, if_neg configured, found]

theorem head?_schemaText (table : String) (rows : List Column) :
    (schemaText table rows).toList.head? = some 'T' := by
  simp [schemaText]

/-- A lookup that does not find the table gives the text of no columns. -/
theorem reads_of_fetchSchema (same : fetchSchema lower rs table = schemaText table rows) :
    ∃ rows', Reads lower rs table rows' := by
  have first := congrArg (fun text : String => text.toList.head?) same
  rw [head?_schemaText] at first
  by_cases configured : rs.host = ""
  · rw [fetchSchema, if_pos configured] at first
    simp at first
  · rw [fetchSchema, if_neg configured] at first
    cases found : rs.columns (lower table) with
    | error e => simp [found] at first
    | ok rows' =>
      cases rows' with
      | nil => simp [found] at first
      | cons row rows' => exact ⟨row :: rows', configured, found, List.cons_ne_nil _ _⟩

/-! ## What is remembered -/

/-- Every text in the memory is what the last lookup of its name came to. -/
def Traced (lower : String → String) (L : Lru C String String) (st : State C) : Prop :=
  ∀ table text, L.contents st.cache table = some text →
    ∃ rs, st.fetched table = some rs ∧ text = fetchSchema lower rs table

theorem cachedFetch_hit {text : String} (found : L.contents st.cache table = some text) :
    cachedFetch lower L st table = (text, { st with cache := (L.get st.cache table).2 }) := by
  have hit : (L.get st.cache table).1 = some text := (L.get_fst _ _).trans found
  unfold cachedFetch
  split
  · next found' => rw [found'] at hit ⊢; cases hit; rfl
  · next absent => rw [absent] at hit; cases hit

theorem cachedFetch_miss (absent : L.contents st.cache table = none) :
    cachedFetch lower L st table = (fetchSchema lower st.rs table, { st with
      cache := L.add (L.get st.cache table).2 table (fetchSchema lower st.rs table)
      fetched := Function.update st.fetched table (some st.rs) }) := by
  have miss : (L.get st.cache table).1 = none := (L.get_fst _ _).trans absent
  unfold cachedFetch
  split
  · next found => rw [found] at miss; cases miss
  · next absent' => rw [absent']

theorem traced_start {size : Int} {cache : C} (made : L.new size = .ok cache) (rs : Redshift) :
    Traced lower L (start rs cache) := by
  intro table text found
  rw [start, L.contents_new made] at found
  cases found

theorem cachedFetch_traced (traced : Traced lower L st) (table : String) :
    Traced lower L (cachedFetch lower L st table).2 := by
  intro other text found
  cases known : L.contents st.cache table with
  | some text' =>
    rw [cachedFetch_hit known] at found ⊢
    rw [L.contents_get] at found
    exact traced other text found
  | none =>
    rw [cachedFetch_miss known] at found ⊢
    by_cases same : other = table
    · subst same
      rw [L.contents_add_self] at found
      exact ⟨st.rs, Function.update_self .., (Option.some.inj found).symm⟩
    · rcases L.contents_add_some found with ⟨same', -⟩ | earlier
      · exact absurd same' same
      · rw [L.contents_get] at earlier
        obtain ⟨rs, last, is_text⟩ := traced other text earlier
        exact ⟨rs, (Function.update_of_ne same ..).trans last, is_text⟩

theorem step_traced {l : Label} {t : State C} (traced : Traced lower L st)
    (hstep : (tool lower L).step st l = some t) : Traced lower L t := by
  cases l with
  | call tableName =>
    cases hstep
    exact cachedFetch_traced traced (bareName tableName)
  | change rs =>
    cases hstep
    exact traced

theorem run_traced {size : Int} {cache : C} {ls : List Label} {t : State C}
    (made : L.new size = .ok cache) (run : (tool lower L).run (start rs cache) ls = some t) :
    Traced lower L t :=
  Machine.run_induction (fun _ _ _ traced hstep => step_traced traced hstep)
    (traced_start made rs) run

/-! ## Truthful calls -/

/-- A call returns the columns of now exactly if nothing else is remembered. -/
theorem truthful_iff (traced : Traced lower L st) (l : Label) :
    Truthful lower L st l ↔ Fresh lower L st l := by
  cases l with
  | change rs => exact Iff.rfl
  | call tableName =>
    refine forall_congr' fun rows => forall_congr' fun reads => ?_
    rw [getTableSchema]
    cases known : L.contents st.cache (bareName tableName) with
    | none =>
      rw [cachedFetch_miss known]
      exact iff_of_true (fetchSchema_of_reads reads) (Or.inl rfl)
    | some text =>
      obtain ⟨rs, last, is_text⟩ := traced _ _ known
      rw [cachedFetch_hit known, is_text]
      constructor
      · intro same
        obtain ⟨rows', reads'⟩ := reads_of_fetchSchema same
        refine Or.inr ⟨rs, rows', last, reads', ?_⟩
        rw [← same, fetchSchema_of_reads reads']
      · rintro (absent | ⟨rs', rows', last', reads', alike⟩)
        · cases absent
        · cases last.symm.trans last'
          rw [← alike]
          exact fetchSchema_of_reads reads'

/-- The calls of a run are all truthful exactly if none meets a memory that is not of now. -/
theorem remembersNoFailure_iff {cache : C} (made : L.new 128 = .ok cache) (rs : Redshift)
    (ls : List Label) :
    (tool lower L).Along (Truthful lower L) (start rs cache) ls ↔
      (tool lower L).Along (Fresh lower L) (start rs cache) ls := by
  constructor
  · intro truthful before l after t split run
    exact (truthful_iff (run_traced made run) l).mp (truthful before l after t split run)
  · intro fresh before l after t split run
    exact (truthful_iff (run_traced made run) l).mpr (fresh before l after t split run)

/-! ## An outage -/

/-- A Redshift with one table. -/
def up : Redshift :=
  ⟨"redshift", fun name => .ok (if name = "t" then [⟨"id", "integer", none, "NO"⟩] else [])⟩

/-- The same, while it cannot be reached. -/
def down : Redshift := ⟨"redshift", fun _ => .error "timeout expired"⟩

def emptyMemory : ListLru String String := ⟨128, [], by decide, List.nodup_nil, by decide⟩

def listTool : Machine (State (ListLru String String)) Label := tool id (listLru String String)

/-- A call before the table can be read does no harm to another name. -/
theorem remembersNoFailure_iff_other :
    listTool.Along (Truthful id (listLru String String)) (start down emptyMemory)
      [.call "dw.s", .change up, .call "t"] := by
  refine (remembersNoFailure_iff (L := listLru String String) rfl down _).mpr ?_
  refine Machine.along_step rfl ?_ (Machine.along_step rfl trivial (Machine.along_step rfl ?_
    (Machine.along_nil _ _)))
  · rintro rows ⟨-, found, -⟩
    cases found
  · intro rows _
    exact Or.inl (by decide +kernel)

/-- The table is there, and the tool goes on to say that it could not be reached. -/
theorem not_truthful_outage :
    ¬ listTool.Along (Truthful id (listLru String String)) (start down emptyMemory)
      [.call "dw.t", .change up, .call "t"] := by
  intro truthful
  have later := truthful [.call "dw.t", .change up] (.call "t") [] _ rfl rfl
    [⟨"id", "integer", none, "NO"⟩] ⟨by decide, rfl, List.cons_ne_nil _ _⟩
  revert later
  decide +kernel

end MysqlRedshift.Agent.TableSchema
