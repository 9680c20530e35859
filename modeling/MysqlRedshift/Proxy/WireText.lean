import MysqlRedshift.Proxy.ResultMapProps
import MysqlRedshift.Proxy.Server

/-!
# What the text of a cell tells

Whether a client that reads the texts of a column can tell its values apart. A time is
an instant here, and the location of the connection says which date and time of day it
is; two instants may have the same ones, when clocks are put back.
-/

namespace MysqlRedshift.Proxy

open MysqlRedshift.Misc

/-- A value that `database/sql` scans into an `any`; a `time.Time` by its nanosecond. -/
inductive Cell where
  | nil
  | int64 (n : Int)
  | bool (b : Bool)
  | bytes (b : Bytes)
  | str (s : Bytes)
  | time (instant : Int)
  deriving DecidableEq, Repr

def Cell.value (loc : Location) : Cell → Value
  | .nil => .nil
  | .int64 n => .int n
  | .bool b => .bool b
  | .bytes b => .bytes b
  | .str s => .str s
  | .time instant => .time (loc instant)

def Cell.sameType : Cell → Cell → Bool
  | .nil, .nil => true
  | .int64 _, .int64 _ => true
  | .bool _, .bool _ => true
  | .bytes _, .bytes _ => true
  | .str _, .str _ => true
  | .time _, .time _ => true
  | _, _ => false

/-- What `ExecSelect` returns, every row as wide as its columns. -/
structure Cells where
  columns : List String
  rows : List (List Cell)
  width : ∀ row ∈ rows, row.length = columns.length

def Cells.result (loc : Location) (r : Cells) : Result :=
  ⟨r.columns, r.rows.map fun row => row.map (Cell.value loc)⟩

/-- The entry of a column in a row. -/
def entryAt {α : Type} (rows : List (List α)) (i j : Nat) : Option α := rows[i]?.bind (·[j]?)

/-- The columns and the rows arrive in their number and order, NULL for NULL, and no two
values of one type in a column arrive as the same text. -/
def LosesNothing (lib : WireLib) (loc : Location) (r : Cells) : Prop :=
  ∃ rs, toMySQL lib (some (r.result loc)) = .ok { MySQLResult.zero with resultset := some rs } ∧
    rs.fields = r.columns ∧
    List.Forall₂ (List.Forall₂ fun c text => text = none ↔ c = Cell.nil) r.rows rs.rows ∧
    ∀ i i' j c c' text, entryAt r.rows i j = some c → entryAt r.rows i' j = some c' →
      entryAt rs.rows i j = some text → entryAt rs.rows i' j = some text →
      c.sameType c' = true → c = c'

/-- Different instants in a column are seconds apart on the clocks of the location. -/
def WholeSeconds (loc : Location) (r : Cells) : Prop :=
  ∀ i i' j a b, entryAt r.rows i j = some (.time a) → entryAt r.rows i' j = some (.time b) →
    SameSecond (loc a) (loc b) → a = b

/-! ## Cells -/

theorem sameType_cases {c c' : Cell} (same : c.sameType c' = true) :
    (c = .nil ∧ c' = .nil) ∨ (∃ n m, c = .int64 n ∧ c' = .int64 m) ∨
      (∃ b b', c = .bool b ∧ c' = .bool b') ∨ (∃ b b', c = .bytes b ∧ c' = .bytes b') ∨
      (∃ s s', c = .str s ∧ c' = .str s') ∨ ∃ a b, c = .time a ∧ c' = .time b := by
  cases c <;> cases c' <;> simp_all [Cell.sameType]

theorem text_eq_none_iff (lib : WireLib) (loc : Location) (c : Cell) :
    anyToString lib (c.value loc) = none ↔ c = .nil := by
  cases c <;> simp [Cell.value, anyToString]

/-- Two values of one type have the same text if they are the same, or times of one second. -/
theorem text_eq_iff (lib : WireLib) (loc : Location) {c c' : Cell} (same : c.sameType c' = true) :
    anyToString lib (c.value loc) = anyToString lib (c'.value loc) ↔
      c = c' ∨ ∃ a b, c = .time a ∧ c' = .time b ∧ SameSecond (loc a) (loc b) := by
  rcases sameType_cases same with ⟨rfl, rfl⟩ | ⟨n, m, rfl, rfl⟩ | ⟨b, b', rfl, rfl⟩ |
    ⟨b, b', rfl, rfl⟩ | ⟨s, s', rfl, rfl⟩ | ⟨a, b, rfl, rfl⟩
  · simp
  · have injective : ascii (toString n) = ascii (toString m) ↔ n = m :=
      ⟨fun h => toString_injective (ascii_injective (oneByte_toString n) (oneByte_toString m) h),
        fun h => by rw [h]⟩
    simp only [Cell.value, anyToString, Option.some.injEq, injective]
    simp
  · cases b <;> cases b' <;> simp [Cell.value, anyToString, ascii]
  · simp [Cell.value, anyToString]
  · simp [Cell.value, anyToString]
  · have seconds : ascii (loc a).format = ascii (loc b).format ↔ SameSecond (loc a) (loc b) := by
      rw [← format_eq_iff]
      exact ⟨ascii_injective (oneByte_format _) (oneByte_format _), fun h => by rw [h]⟩
    simp only [Cell.value, anyToString, Option.some.injEq, seconds]
    constructor
    · exact fun second => Or.inr ⟨a, b, rfl, rfl, second⟩
    · rintro (same | ⟨a', b', is_a, is_b, second⟩)
      · cases same
        exact ⟨rfl, rfl, rfl, rfl, rfl, rfl⟩
      · cases is_a
        cases is_b
        exact second

theorem entryAt_map {α β : Type} (f : α → β) (rows : List (List α)) (i j : Nat) :
    entryAt (rows.map fun row => row.map f) i j = (entryAt rows i j).map f := by
  simp only [entryAt, List.getElem?_map]
  cases rows[i]? with
  | none => rfl
  | some row => simp

theorem toMySQL_result {lib : WireLib} (copies : lib.Copies) (loc : Location) (r : Cells) :
    toMySQL lib (some (r.result loc)) = .ok { MySQLResult.zero with
      resultset := some ⟨r.columns,
        r.rows.map fun row => row.map fun c => anyToString lib (c.value loc)⟩ } := by
  have width : ∀ row ∈ r.rows.map fun row => row.map (Cell.value loc),
      row.length = r.columns.length := by
    intro row member
    obtain ⟨cells, inRows, rfl⟩ := List.mem_map.mp member
    rw [List.length_map, r.width cells inRows]
  have sent := toMySQL_of_width copies width
  simp only [List.map_map, Function.comp_def] at sent
  exact sent

/-- A result loses nothing on the wire exactly when no column has two instants that are
within the same second on the clock. -/
theorem losesNothing_iff (lib : WireLib) (copies : lib.Copies) (loc : Location) (r : Cells) :
    LosesNothing lib loc r ↔ WholeSeconds loc r := by
  have sent := toMySQL_result copies loc r
  constructor
  · rintro ⟨rs, answered, -, -, apart⟩ i i' j a b at_a at_b second
    rw [sent, Except.ok.injEq, MySQLResult.mk.injEq, Option.some.injEq] at answered
    obtain ⟨-, -, -, -, rfl⟩ := answered
    have one_type : (Cell.time a).sameType (.time b) = true := rfl
    have one_text := (text_eq_iff lib loc one_type).mpr (Or.inr ⟨a, b, rfl, rfl, second⟩)
    have same := apart i i' j (.time a) (.time b) _ at_a at_b
      (by rw [entryAt_map, at_a, Option.map_some])
      (by rw [entryAt_map, at_b, Option.map_some, one_text]) one_type
    cases same
    rfl
  · intro seconds
    refine ⟨_, sent, rfl, ?_, ?_⟩
    · rw [List.forall₂_map_right_iff, List.forall₂_same]
      intro row _
      rw [List.forall₂_map_right_iff, List.forall₂_same]
      exact fun c _ => text_eq_none_iff lib loc c
    · intro i i' j c c' text at_c at_c' text_c text_c' same
      rw [entryAt_map, at_c, Option.map_some, Option.some.injEq] at text_c
      rw [entryAt_map, at_c', Option.map_some, Option.some.injEq] at text_c'
      rcases (text_eq_iff lib loc same).mp (text_c.trans text_c'.symm) with
        equal | ⟨a, b, rfl, rfl, second⟩
      · exact equal
      · rw [seconds i i' j a b at_c at_c' second]

/-! ## Columns of times -/

theorem entryAt_mem {α : Type} {rows : List (List α)} {i j : Nat} {c : α}
    (at_c : entryAt rows i j = some c) : ∃ row ∈ rows, c ∈ row := by
  obtain ⟨row, at_row, at_cell⟩ := Option.bind_eq_some_iff.mp at_c
  exact ⟨row, List.mem_of_getElem? at_row, List.mem_of_getElem? at_cell⟩

/-- Two orders, a second apart, and one without a time. -/
def orders : Cells where
  columns := ["id", "paid_at"]
  rows := [[.int64 1, .time 1704067200100000000], [.int64 2, .time 1704067201100000000],
    [.int64 3, .nil]]
  width := by simp

theorem copies_defaultServer : defaultServer.wire.Copies := fun _ _ _ => rfl

theorem losesNothing_iff_orders : LosesNothing defaultServer.wire utc orders := by
  refine (losesNothing_iff defaultServer.wire copies_defaultServer utc orders).mpr ?_
  intro i i' j a b at_a at_b second
  have times : ∀ row ∈ orders.rows, ∀ t, Cell.time t ∈ row →
      t = 1704067200100000000 ∨ t = 1704067201100000000 := by
    simp [orders]
  obtain ⟨row, inRows, inRow⟩ := entryAt_mem at_a
  obtain ⟨row', inRows', inRow'⟩ := entryAt_mem at_b
  have differ : ¬ SameSecond (utc 1704067200100000000) (utc 1704067201100000000) := by decide
  have differ' : ¬ SameSecond (utc 1704067201100000000) (utc 1704067200100000000) := by decide
  rcases times row inRows a inRow with rfl | rfl
  · rcases times row' inRows' b inRow' with rfl | rfl
    · rfl
    · exact absurd second differ
  · rcases times row' inRows' b inRow' with rfl | rfl
    · exact absurd second differ'
    · rfl

/-- Two events within a second. -/
def events : Cells where
  columns := ["at"]
  rows := [[.time 1704067200100000000], [.time 1704067200200000000]]
  width := by simp

/-- Both events arrive as `2024-01-01 00:00:00`. -/
theorem not_losesNothing_events : ¬ LosesNothing defaultServer.wire utc events := by
  rintro ⟨rs, answered, -, -, apart⟩
  cases answered
  have same := apart 0 1 0 (.time 1704067200100000000) (.time 1704067200200000000)
    (some (ascii "2024-01-01 00:00:00")) rfl rfl (by decide) (by decide) rfl
  revert same
  decide

end MysqlRedshift.Proxy
