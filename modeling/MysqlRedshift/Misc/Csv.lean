import Mathlib.Algebra.BigOperators.Group.List.Basic
import Mathlib.Algebra.Order.Ring.Nat

/-!
# CSV files

The writer of Python's `csv` with minimal quoting, for any delimiter and line end, and a
reader of such files. The reader goes character by character and knows where in a record
it is. What the writer makes of records with fields reads back as these records.
-/

namespace MysqlRedshift.Misc.Csv

/-! ## The writer -/

/-- What the writer depends on. `breaks` says that line breaks are special whatever the line
end is, which differs between versions of Python. -/
structure Dialect where
  delimiter : Char
  lineterminator : List Char
  breaks : Bool
  deriving DecidableEq, Repr

namespace Dialect

variable (d : Dialect)

/-- The characters for which a field is quoted. -/
def special (c : Char) : Bool :=
  c == d.delimiter || c == '"' || d.lineterminator.contains c ||
    d.breaks && (c == '\n' || c == '\r')

end Dialect

/-- The text between quotes: quotes are doubled. -/
def doubled (s : List Char) : List Char := s.flatMap fun c => if c = '"' then ['"', '"'] else [c]

def quoted (s : List Char) : List Char := '"' :: (doubled s ++ ['"'])

namespace Dialect

variable (d : Dialect)

def field (s : List Char) : List Char := if s.any d.special then quoted s else s

def joined (fields : List (List Char)) : List Char :=
  [d.delimiter].intercalate (fields.map d.field)

/-- `writerow`: a record that would be nothing, though it has a field, has that field quoted. -/
def record (fields : List (List Char)) : List Char :=
  (if fields ≠ [] ∧ d.joined fields = [] then quoted [] else d.joined fields) ++ d.lineterminator

/-- `writerows`. -/
def write (records : List (List (List Char))) : List Char := records.flatMap d.record

end Dialect

/-- The dialect that `csv` uses by default. -/
def excel (breaks : Bool) : Dialect := ⟨',', ['\r', '\n'], breaks⟩

/-! ## The reader -/

/-- Where in a record the reader is. -/
inductive Mode where
  | fresh
  | plain
  | quoted
  /-- Behind a quote in a quoted field. -/
  | closing
  /-- Behind a carriage return that ended a record. -/
  | afterReturn
  deriving DecidableEq, Repr

/-- The records read, the fields of the one that is being read, and its last field as far as
it goes. -/
structure Reader where
  records : List (List (List Char))
  fields : List (List Char)
  cell : List Char
  mode : Mode
  deriving DecidableEq, Repr

namespace Reader

def start : Reader := ⟨[], [], [], .fresh⟩

variable (s : Reader)

def push (c : Char) (mode : Mode) : Reader := { s with cell := s.cell ++ [c], mode }

def endField : Reader := ⟨s.records, s.fields ++ [s.cell], [], .fresh⟩

def endRecord (mode : Mode) : Reader := ⟨s.records ++ [s.fields ++ [s.cell]], [], [], mode⟩

/-- What ends a field. -/
def close (delimiter c : Char) : Option Reader :=
  if c = delimiter then some s.endField
  else if c = '\n' then some (s.endRecord .fresh)
  else if c = '\r' then some (s.endRecord .afterReturn)
  else none

/-- At the beginning of a field. -/
def stepFresh (delimiter c : Char) : Reader :=
  if c = '"' then { s with mode := .quoted } else (s.close delimiter c).getD (s.push c .plain)

/-- One character. -/
def step (delimiter : Char) (s : Reader) (c : Char) : Option Reader :=
  match s.mode with
  | .fresh => some (s.stepFresh delimiter c)
  | .plain => if c = '"' then none else some ((s.close delimiter c).getD (s.push c .plain))
  | .quoted => some (if c = '"' then { s with mode := .closing } else s.push c .quoted)
  | .closing => if c = '"' then some (s.push c .quoted) else s.close delimiter c
  | .afterReturn =>
    some (if c = '\n' then { s with mode := .fresh } else s.stepFresh delimiter c)

/-- At the end of the file, where a last record may lack its line end. -/
def finish : Option (List (List (List Char))) :=
  match s.mode with
  | .quoted => none
  | _ =>
    some (if s.fields = [] ∧ s.cell = [] ∧ s.mode ≠ .closing then s.records
      else s.records ++ [s.fields ++ [s.cell]])

end Reader

/-- The records of a file. -/
def read (delimiter : Char) (text : List Char) : Option (List (List (List Char))) :=
  (text.foldlM (Reader.step delimiter) .start).bind Reader.finish

example : read ',' "a,\"b \"\"c\"\", d\"\r\n,\r\n".toList =
    some [["a".toList, "b \"c\", d".toList], [[], []]] := by
  decide +kernel

/-! ## Reading what is written -/

variable {d : Dialect} {s : Reader}

/-- Characters that are not special stay as they are. -/
theorem foldlM_plain {w : List Char} (mode : s.mode = .fresh ∨ s.mode = .plain)
    (plain : ∀ c ∈ w, c ≠ d.delimiter ∧ c ≠ '"' ∧ c ≠ '\n' ∧ c ≠ '\r') :
    w.foldlM (Reader.step d.delimiter) s =
      some { s with cell := s.cell ++ w, mode := if w = [] then s.mode else .plain } := by
  induction w generalizing s with
  | nil => simp
  | cons c w ih =>
    obtain ⟨⟨no_delimiter, no_quote, no_newline, no_return⟩, rest⟩ := List.forall_mem_cons.mp plain
    have pushed : Reader.step d.delimiter s c = some (s.push c .plain) := by
      rcases mode with fresh | inside
      · simp [Reader.step, fresh, Reader.stepFresh, Reader.close, no_delimiter, no_quote,
          no_newline, no_return]
      · simp [Reader.step, inside, Reader.close, no_delimiter, no_quote, no_newline, no_return]
    rw [List.foldlM_cons, pushed, Option.bind_eq_bind, Option.bind_some, ih (Or.inr rfl) rest]
    simp [Reader.push]

/-- Between quotes, every text is read back. -/
theorem foldlM_doubled (mode : s.mode = .quoted) (w : List Char) :
    (doubled w).foldlM (Reader.step d.delimiter) s = some { s with cell := s.cell ++ w } := by
  induction w generalizing s with
  | nil => simp [doubled]
  | cons c w ih =>
    have pushed : (if c = '"' then ['"', '"'] else [c]).foldlM (Reader.step d.delimiter) s =
        some (s.push c .quoted) := by
      by_cases is_quote : c = '"'
      · simp [is_quote, Reader.step, mode, Reader.push]
      · simp [is_quote, Reader.step, mode]
    rw [doubled, List.flatMap_cons, List.foldlM_append, pushed, Option.bind_eq_bind,
      Option.bind_some]
    refine (ih (s := s.push c .quoted) rfl).trans ?_
    simp [Reader.push, mode]

/-- Outside quotes, what can end a field does. -/
theorem step_of_close {t : Reader} {delimiter c : Char} (no_quote : c ≠ '"')
    (open_ : s.mode ≠ .quoted) (returned : s.mode ≠ .afterReturn)
    (closes : s.close delimiter c = some t) : Reader.step delimiter s c = some t := by
  cases at_ : s.mode with
  | fresh => simp [Reader.step, at_, Reader.stepFresh, no_quote, closes]
  | plain => simp [Reader.step, at_, no_quote, closes]
  | quoted => exact absurd at_ open_
  | closing => simp [Reader.step, at_, no_quote, closes]
  | afterReturn => exact absurd at_ returned

/-- The reader is at the end of a field with the text `w`. -/
def Behind (s : Reader) (w : List Char) (t : Reader) : Prop :=
  t.records = s.records ∧ t.fields = s.fields ∧ t.cell = w ∧ t.mode ≠ .quoted ∧
    t.mode ≠ .afterReturn

theorem foldlM_quoted (mode : s.mode = .fresh) (empty : s.cell = []) (w : List Char) :
    ∃ t, (quoted w).foldlM (Reader.step d.delimiter) s = some t ∧ Behind s w t := by
  have opened : Reader.step d.delimiter s '"' = some { s with mode := .quoted } := by
    simp [Reader.step, mode, Reader.stepFresh]
  refine ⟨{ s with cell := w, mode := .closing }, ?_, rfl, rfl, rfl, by simp, by simp⟩
  rw [quoted, List.foldlM_cons, opened, Option.bind_eq_bind, Option.bind_some,
    List.foldlM_append, foldlM_doubled rfl]
  simp [Reader.step, empty]

section

variable (breaks : d.special '\r' = true) (newline : d.special '\n' = true)

include breaks newline

theorem foldlM_field (mode : s.mode = .fresh) (empty : s.cell = []) (w : List Char) :
    ∃ t, (d.field w).foldlM (Reader.step d.delimiter) s = some t ∧ Behind s w t := by
  by_cases needs : w.any d.special = true
  · rw [Dialect.field, if_pos needs]
    exact foldlM_quoted mode empty w
  · have plain : ∀ c ∈ w, c ≠ d.delimiter ∧ c ≠ '"' ∧ c ≠ '\n' ∧ c ≠ '\r' := by
      intro c member
      have other : d.special c = false := by
        rw [Bool.not_eq_true, List.any_eq_false] at needs
        simpa using needs c member
      refine ⟨?_, ?_, ?_, ?_⟩
      · rintro rfl
        simp [Dialect.special] at other
      · rintro rfl
        simp [Dialect.special] at other
      · rintro rfl
        exact Bool.false_ne_true (other.symm.trans newline)
      · rintro rfl
        exact Bool.false_ne_true (other.symm.trans breaks)
    rw [Dialect.field, if_neg needs]
    refine ⟨_, foldlM_plain (Or.inl mode) plain, rfl, rfl, by simp [empty], ?_, ?_⟩
    all_goals
      dsimp only
      split <;> simp [mode]

/-- The fields of a record, up to its line end. -/
theorem foldlM_joined (mode : s.mode = .fresh) (empty : s.cell = [])
    (delimiter : d.delimiter ≠ '"') (first : List Char) (others : List (List Char)) :
    ∃ t, (d.joined (first :: others)).foldlM (Reader.step d.delimiter) s = some t ∧
      t.records = s.records ∧ t.fields ++ [t.cell] = s.fields ++ first :: others ∧
      t.mode ≠ .quoted ∧ t.mode ≠ .afterReturn := by
  obtain ⟨t, read, records, fields, cell, open_, returned⟩ :=
    foldlM_field breaks newline mode empty first
  induction others generalizing s first t with
  | nil =>
    refine ⟨t, ?_, records, by rw [fields, cell], open_, returned⟩
    simpa [Dialect.joined, List.intercalate] using read
  | cons second others ih =>
    have closed : Reader.step d.delimiter t d.delimiter = some t.endField :=
      step_of_close delimiter open_ returned (if_pos rfl)
    obtain ⟨t', read', records', fields', cell', open', returned'⟩ :=
      foldlM_field breaks newline (s := t.endField) rfl rfl second
    obtain ⟨u, run, same, whole, ends⟩ :=
      ih rfl rfl second t' read' records' fields' cell' open' returned'
    refine ⟨u, ?_, same.trans records, ?_, ends⟩
    · have split : d.joined (first :: second :: others) =
          d.field first ++ d.delimiter :: d.joined (second :: others) := by
        simp [Dialect.joined, List.intercalate]
      rw [split, List.foldlM_append, read, Option.bind_eq_bind, Option.bind_some,
        List.foldlM_cons, closed, Option.bind_eq_bind, Option.bind_some, run]
    · rw [whole]
      simp [Reader.endField, fields, cell]

/-- The text of a record, up to its line end. -/
theorem foldlM_content (mode : s.mode = .fresh) (empty : s.cell = []) (no_fields : s.fields = [])
    (delimiter : d.delimiter ≠ '"') {fields : List (List Char)} (some_field : fields ≠ []) :
    ∃ t, (if fields ≠ [] ∧ d.joined fields = [] then quoted [] else d.joined fields).foldlM
        (Reader.step d.delimiter) s = some t ∧
      t.records = s.records ∧ t.fields ++ [t.cell] = fields ∧
      t.mode ≠ .quoted ∧ t.mode ≠ .afterReturn := by
  obtain ⟨first, others, rfl⟩ := List.exists_cons_of_ne_nil some_field
  by_cases nothing : d.joined (first :: others) = []
  · have sole : others = [] ∧ first = [] := by
      cases others with
      | cons second others => simp [Dialect.joined, List.intercalate] at nothing
      | nil =>
        have nothing : d.field first = [] := by
          simpa [Dialect.joined, List.intercalate] using nothing
        rw [Dialect.field] at nothing
        split at nothing
        · cases nothing
        · exact ⟨rfl, nothing⟩
    obtain ⟨rfl, rfl⟩ := sole
    obtain ⟨t, read, records, fields, cell, ends⟩ := foldlM_quoted (d := d) mode empty []
    refine ⟨t, ?_, records, ?_, ends⟩
    · rw [if_pos ⟨some_field, nothing⟩, read]
    · rw [fields, no_fields, cell]
      rfl
  · obtain ⟨t, read, records, whole, ends⟩ :=
      foldlM_joined breaks newline mode empty delimiter first others
    refine ⟨t, ?_, records, ?_, ends⟩
    · rw [if_neg fun both => nothing both.2, read]
    · rw [whole, no_fields, List.nil_append]

theorem foldlM_record (mode : s.mode = .fresh) (empty : s.cell = []) (no_fields : s.fields = [])
    (delimiter : d.delimiter ≠ '"' ∧ d.delimiter ≠ '\r' ∧ d.delimiter ≠ '\n')
    (ends : d.lineterminator = ['\r', '\n'] ∨ d.lineterminator = ['\n'])
    {fields : List (List Char)} (some_field : fields ≠ []) :
    (d.record fields).foldlM (Reader.step d.delimiter) s =
      some ⟨s.records ++ [fields], [], [], .fresh⟩ := by
  obtain ⟨t, read, records, whole, open_, returned⟩ :=
    foldlM_content breaks newline mode empty no_fields delimiter.1 some_field
  rw [Dialect.record, List.foldlM_append, read, Option.bind_eq_bind, Option.bind_some]
  -- Outside quotes a line break ends the record, whatever the last field was.
  have break_ : ∀ c, (c = '\r' ∨ c = '\n') → Reader.step d.delimiter t c =
      some (t.endRecord (if c = '\n' then .fresh else .afterReturn)) := by
    intro c line_break
    refine step_of_close ?_ open_ returned ?_
    · rcases line_break with rfl | rfl
      · decide
      · decide
    · rcases line_break with rfl | rfl
      · simp [Reader.close, delimiter.2.1.symm]
      · simp [Reader.close, delimiter.2.2.symm]
  rcases ends with both | newline_only
  · rw [both, List.foldlM_cons, break_ _ (Or.inl rfl)]
    simp [Reader.step, Reader.endRecord, records, whole]
  · rw [newline_only, List.foldlM_cons, break_ _ (Or.inr rfl)]
    simp [Reader.endRecord, records, whole]

theorem foldlM_write (mode : s.mode = .fresh) (empty : s.cell = []) (no_fields : s.fields = [])
    (delimiter : d.delimiter ≠ '"' ∧ d.delimiter ≠ '\r' ∧ d.delimiter ≠ '\n')
    (ends : d.lineterminator = ['\r', '\n'] ∨ d.lineterminator = ['\n'])
    {records : List (List (List Char))} (some_field : ∀ fields ∈ records, fields ≠ []) :
    (d.write records).foldlM (Reader.step d.delimiter) s =
      some ⟨s.records ++ records, [], [], .fresh⟩ := by
  induction records generalizing s with
  | nil =>
    obtain ⟨records, fields, cell, mode⟩ := s
    cases mode
    cases empty
    cases no_fields
    rw [List.append_nil]
    rfl
  | cons fields records ih =>
    obtain ⟨first, others⟩ := List.forall_mem_cons.mp some_field
    rw [Dialect.write, List.flatMap_cons, List.foldlM_append,
      foldlM_record breaks newline mode empty no_fields delimiter ends first, Option.bind_eq_bind,
      Option.bind_some]
    refine (ih rfl rfl rfl others).trans ?_
    rw [List.append_assoc]
    rfl

/-- What was written is read. -/
theorem read_write (delimiter : d.delimiter ≠ '"' ∧ d.delimiter ≠ '\r' ∧ d.delimiter ≠ '\n')
    (ends : d.lineterminator = ['\r', '\n'] ∨ d.lineterminator = ['\n'])
    {records : List (List (List Char))} (some_field : ∀ fields ∈ records, fields ≠ []) :
    read d.delimiter (d.write records) = some records := by
  rw [read, foldlM_write (s := .start) breaks newline rfl rfl rfl delimiter ends some_field]
  rfl

end

/-- Files of the default dialect. -/
theorem read_excel (breaks : Bool) {records : List (List (List Char))}
    (some_field : ∀ fields ∈ records, fields ≠ []) :
    read ',' ((excel breaks).write records) = some records :=
  read_write (d := excel breaks) rfl rfl (by simp [excel]) (Or.inl rfl) some_field

/-! ## Quotes in the text -/

/-- No field of the record needs quotes. -/
def Unquoted (d : Dialect) (fields : List (List Char)) : Prop :=
  fields ≠ [[]] ∧ ∀ f ∈ fields, f.any d.special = false

theorem joined_unquoted {fields : List (List Char)} (unquoted : Unquoted d fields) :
    d.joined fields = [d.delimiter].intercalate fields := by
  have same : ∀ f ∈ fields, d.field f = id f := by
    intro f member
    rw [Dialect.field, unquoted.2 f member]
    rfl
  rw [Dialect.joined, List.map_congr_left same, List.map_id]

theorem record_unquoted {fields : List (List Char)} (unquoted : Unquoted d fields) :
    d.record fields = [d.delimiter].intercalate fields ++ d.lineterminator := by
  have some_text : ¬(fields ≠ [] ∧ d.joined fields = []) := by
    rintro ⟨some_field, nothing⟩
    rw [joined_unquoted unquoted] at nothing
    obtain ⟨first, others, rfl⟩ := List.exists_cons_of_ne_nil some_field
    cases others with
    | nil =>
      rw [List.intercalate_singleton] at nothing
      rw [nothing] at unquoted
      exact unquoted.1 rfl
    | cons second others => simp [List.intercalate_cons_cons] at nothing
  rw [Dialect.record, if_neg some_text, joined_unquoted unquoted]

theorem count_intercalate {q x : Char} (other : q ≠ x) (ls : List (List Char)) :
    ([x].intercalate ls).count q = (ls.map (List.count q)).sum := by
  induction ls with
  | nil => rfl
  | cons l ls ih =>
    cases ls with
    | nil => simp
    | cons m ls =>
      have no_match : ¬(x == q) = true := by simpa using other.symm
      rw [List.intercalate_cons_cons, List.count_append, List.count_append, ih,
        List.count_singleton, if_neg no_match, Nat.add_zero]
      rfl

theorem count_doubled (s : List Char) : (doubled s).count '"' = 2 * s.count '"' := by
  induction s with
  | nil => rfl
  | cons c s ih =>
    rw [doubled, List.flatMap_cons, List.count_append, List.count_cons]
    rw [doubled] at ih
    by_cases is_quote : c = '"'
    · simp only [ih, is_quote, if_true, beq_self_eq_true, List.count_cons, List.count_nil]
      omega
    · simp only [ih, is_quote, if_false, List.count_singleton, beq_iff_eq, Nat.zero_add,
        Nat.add_zero]

theorem count_field (d : Dialect) (s : List Char) :
    (d.field s).count '"' = s.count '"' + if s.any d.special then s.count '"' + 2 else 0 := by
  rw [Dialect.field]
  split
  · rw [quoted, List.count_cons, List.count_append, count_doubled]
    simp
    omega
  · rfl

/-- The fields of a record have at most the quotes of its text, and as many only if nothing
is quoted. -/
theorem count_joined (fields : List (List Char)) :
    (fields.map (List.count '"')).sum ≤ (fields.map fun f => (d.field f).count '"').sum ∧
      ((fields.map (List.count '"')).sum = (fields.map fun f => (d.field f).count '"').sum →
        ∀ f ∈ fields, f.any d.special = false) := by
  induction fields with
  | nil => simp
  | cons f fields ih =>
    obtain ⟨fewer, plain⟩ := ih
    simp only [List.map_cons, List.sum_cons, count_field d f]
    cases needs : f.any d.special with
    | true =>
      simp only [if_true]
      exact ⟨by omega, fun same => by omega⟩
    | false =>
      simp only [Bool.false_eq_true, if_false, Nat.add_zero]
      exact ⟨by omega, fun same => List.forall_mem_cons.mpr ⟨needs, plain (by omega)⟩⟩

theorem count_record (delimiter : d.delimiter ≠ '"') (fields : List (List Char)) :
    (fields.map (List.count '"')).sum ≤ (d.record fields).count '"' ∧
      ((fields.map (List.count '"')).sum = (d.record fields).count '"' → Unquoted d fields) := by
  obtain ⟨fewer, plain⟩ := count_joined (d := d) fields
  have joined : (d.joined fields).count '"' = (fields.map fun f => (d.field f).count '"').sum := by
    rw [Dialect.joined, count_intercalate delimiter.symm, List.map_map]
    rfl
  rw [Dialect.record, List.count_append]
  by_cases nothing : fields ≠ [] ∧ d.joined fields = []
  · rw [if_pos nothing]
    have empty : (d.joined fields).count '"' = 0 := by rw [nothing.2]; rfl
    have two : (quoted []).count '"' = 2 := rfl
    exact ⟨by omega, fun same => by omega⟩
  · rw [if_neg nothing, joined]
    refine ⟨by omega, fun same => ⟨?_, plain (by omega)⟩⟩
    rintro rfl
    exact nothing ⟨List.cons_ne_nil _ _, rfl⟩

theorem count_write (delimiter : d.delimiter ≠ '"') (records : List (List (List Char))) :
    (records.map fun r => (r.map (List.count '"')).sum).sum ≤ (d.write records).count '"' ∧
      ((records.map fun r => (r.map (List.count '"')).sum).sum = (d.write records).count '"' →
        ∀ r ∈ records, Unquoted d r) := by
  induction records with
  | nil => simp [Dialect.write]
  | cons r records ih =>
    obtain ⟨fewer, plain⟩ := ih
    obtain ⟨fewer', plain'⟩ := count_record delimiter r
    have split : d.write (r :: records) = d.record r ++ d.write records := rfl
    rw [split, List.count_append, List.map_cons, List.sum_cons]
    refine ⟨by omega, fun same => List.forall_mem_cons.mpr ⟨plain' (by omega), plain (by omega)⟩⟩

end MysqlRedshift.Misc.Csv
