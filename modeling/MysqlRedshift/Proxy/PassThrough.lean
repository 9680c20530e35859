import MysqlRedshift.Proxy.ResultMapProps
import MysqlRedshift.Proxy.ServerProps

/-!
# Pass-through to MySQL

A query that the router sends to MySQL is to come back as MySQL answered it. The
three kinds of answers are below, a result set with its cells as MySQL writes them.
The driver reads the cells (numbers, and with `parseTime` also dates and times, as
values of Go) and `database/sql` makes a cursor of each answer: a statement without a
result set gives one without columns and rows, and its counts are not in it.
-/

namespace MysqlRedshift.Proxy

open MysqlRedshift.Misc

variable {ε C : Type}

/-! ## What MySQL sends -/

/-- A DATE that MySQL supports. Its month and day may be zero, as in the zero date, and its
day may be past the end of the month; a date without such a zero has a positive year. -/
structure MySQL.Date where
  year : Nat
  month : Nat
  day : Nat
  supported : 0 < year ∨ month = 0 ∨ day = 0
  deriving DecidableEq, Repr

/-- A DATETIME or TIMESTAMP, in a column with `fsp` digits of the fraction of a second. -/
structure MySQL.DateTime extends MySQL.Date where
  hour : Nat
  minute : Nat
  second : Nat
  fsp : Nat
  fraction : Nat
  deriving DecidableEq, Repr

/-- A cell by the type of its column. `unsigned` is BIGINT UNSIGNED, `zerofill` an integer
filled up with zeros to the width of its column (YEAR is one of width 4), `other` the text
of any other type: strings, DECIMAL, TIME, JSON. -/
inductive MySQL.Cell where
  | null
  | integer (n : Int)
  | unsigned (n : Nat)
  | zerofill (width n : Nat)
  | float (text : Bytes)
  | double (text : Bytes)
  | date (d : MySQL.Date)
  | dateTime (t : MySQL.DateTime)
  | other (text : Bytes)
  deriving DecidableEq, Repr

/-- `YYYY-MM-DD`. -/
def MySQL.Date.text (d : MySQL.Date) : String :=
  padded 4 d.year ++ "-" ++ padded 2 d.month ++ "-" ++ padded 2 d.day

/-- `YYYY-MM-DD hh:mm:ss`, and the digits of the fraction. -/
def MySQL.DateTime.text (t : MySQL.DateTime) : String :=
  t.toDate.text ++ " " ++ padded 2 t.hour ++ ":" ++ padded 2 t.minute ++ ":" ++
    padded 2 t.second ++ if t.fsp = 0 then "" else "." ++ padded t.fsp t.fraction

/-- The text that MySQL sends for a cell, and `none` for NULL. -/
def MySQL.Cell.text : MySQL.Cell → Option Bytes
  | .null => none
  | .integer n => some (ascii (toString n))
  | .unsigned n => some (ascii n.repr)
  | .zerofill width n => some (ascii (padded width n))
  | .float text => some text
  | .double text => some text
  | .date d => some (ascii d.text)
  | .dateTime t => some (ascii t.text)
  | .other text => some text

/-- A result set of MySQL, every row as wide as its columns. -/
structure MySQL.ResultSet where
  columns : List String
  rows : List (List MySQL.Cell)
  width : ∀ row ∈ rows, row.length = columns.length

/-- What MySQL answers to a statement; an error may also come after some rows. -/
inductive MySQL.Outcome where
  | error (err : String)
  | brokenOff (rs : MySQL.ResultSet) (err : String)
  | resultSet (rs : MySQL.ResultSet)
  | ok (affectedRows insertId : Nat)

/-! ## The driver -/

/-- The date and the time of day of a DATETIME. -/
def MySQL.DateTime.time (t : MySQL.DateTime) : Time :=
  ⟨t.year, t.month, t.day, t.hour, t.minute, t.second, t.fraction * Nat.pow 10 (9 - t.fsp)⟩

/-- `go-sql-driver/mysql`, in the version of `go.mod`, with the `parseTime` and `loc` of its
DSN: the value that it makes of a cell, and how it reads the texts of floats. -/
structure MySQL.Driver where
  parseTime : Bool
  loc : Location
  parseFloat32 : Bytes → UInt32
  parseFloat64 : Bytes → UInt64
  value : MySQL.Cell → Value

/-- What the driver documents. Numbers come as numbers, in the text protocol too. Dates and
times come as MySQL writes them, or with `parseTime` as a `time.Time`, which is an instant
of the location: one that its clocks show so, if there is one. A float that is printed in
its shortest form is read back as one of the same form. -/
structure MySQL.Driver.Documented (driver : MySQL.Driver) (lib : WireLib) : Prop where
  null : driver.value .null = .nil
  integer : ∀ n, driver.value (.integer n) = .int n
  unsigned : ∀ n, driver.value (.unsigned n) = .uint n
  zerofill : ∀ width n, driver.value (.zerofill width n) = .int n ∨
    driver.value (.zerofill width n) = .uint n
  float : ∀ text, driver.value (.float text) = .float32 (driver.parseFloat32 text)
  double : ∀ text, driver.value (.double text) = .float64 (driver.parseFloat64 text)
  shortest32 : ∀ bits : UInt32,
    lib.formatFloat 32 (driver.parseFloat32 (lib.formatFloat 32 bits.toUInt64)).toUInt64 =
      lib.formatFloat 32 bits.toUInt64
  shortest64 : ∀ bits,
    lib.formatFloat 64 (driver.parseFloat64 (lib.formatFloat 64 bits)) = lib.formatFloat 64 bits
  dateText : driver.parseTime = false → ∀ d, driver.value (.date d) = .bytes (ascii d.text)
  dateTimeText : driver.parseTime = false →
    ∀ t, driver.value (.dateTime t) = .bytes (ascii t.text)
  date : driver.parseTime = true → ∀ d, ∃ instant,
    driver.value (.date d) = .time (driver.loc instant)
  dateTime : driver.parseTime = true → ∀ t, ∃ instant,
    driver.value (.dateTime t) = .time (driver.loc instant) ∧
      (Shows driver.loc t.time → SameSecond (driver.loc instant) t.time)
  other : ∀ text, driver.value (.other text) = .bytes text

/-- The rows that the cursor steps through. -/
def MySQL.ResultSet.values (driver : MySQL.Driver) (rs : MySQL.ResultSet) : List (List Value) :=
  rs.rows.map fun row => row.map driver.value

/-- The answer as `QueryContext` gives it. -/
def MySQL.Outcome.queryContext (driver : MySQL.Driver) : MySQL.Outcome → Except String Rows
  | .error err => .error err
  | .brokenOff rs err => .ok ⟨.ok rs.columns, rs.values driver, some err⟩
  | .resultSet rs => .ok ⟨.ok rs.columns, rs.values driver, none⟩
  | .ok _ _ => .ok ⟨.ok [], [], none⟩

/-- A world with a MySQL server behind the executor. -/
def World.withMySQL (w : World ε) (driver : MySQL.Driver)
    (mysql : String → ε → MySQL.Outcome × ε) : World ε :=
  { w with
    myExecSelect := some fun query env =>
      let (outcome, env) := mysql query env
      (MySQL.execSelect (fun _ => outcome.queryContext driver) query, env) }

/-- Whether a query is sent down the MySQL path. -/
def Server.onMySQL (srv : Server C) (query : String) : Bool :=
  !shouldNoop srv.db query && (srv.router.route query).1 = .mysql

/-! ## Fidelity -/

/-- The reply carries the outcome: its error, its columns and cells in their places, or
its counts. -/
def Carries (reply : Reply) : MySQL.Outcome → Prop
  | .error err => reply = .error (.mysqlExec err)
  | .brokenOff _ err => reply = .error (.mysqlExec err)
  | .resultSet rs => ∃ r, reply = .ok r ∧
      r.resultset = some ⟨rs.columns, rs.rows.map fun row => row.map MySQL.Cell.text⟩
  | .ok affectedRows insertId => ∃ r, reply = .ok r ∧
      r.affectedRows = affectedRows ∧ r.insertId = insertId

/-- The cells that keep their text. A number keeps it in the notation that the mapping
writes: an integer without zeros before it, a float in its shortest form. Where the driver
reads dates and times, a date does not, and a time of day does if the clocks show it and
its column has no fraction. -/
def MySQL.Cell.Kept (driver : MySQL.Driver) (lib : WireLib) : MySQL.Cell → Prop
  | .zerofill width n => width ≤ n.repr.length
  | .float text => ∃ bits : UInt32, lib.formatFloat 32 bits.toUInt64 = text
  | .double text => ∃ bits, lib.formatFloat 64 bits = text
  | .date _ => driver.parseTime = false
  | .dateTime t => driver.parseTime = false ∨ t.fsp = 0 ∧ Shows driver.loc t.time
  | _ => True

/-- The outcomes that survive: errors, result sets of cells that keep their text, and
statements that changed no row and made no id. -/
def Intact (driver : MySQL.Driver) (lib : WireLib) : MySQL.Outcome → Prop
  | .error _ => True
  | .brokenOff _ _ => True
  | .resultSet rs => ∀ row ∈ rs.rows, ∀ c ∈ row, c.Kept driver lib
  | .ok affectedRows insertId => affectedRows = 0 ∧ insertId = 0

/-! ## One cell -/

theorem repr_eq_padded_iff (width n : Nat) : n.repr = padded width n ↔ width ≤ n.repr.length := by
  rw [← String.toList_inj, toList_padded, Nat.toList_repr, List.self_eq_append_left,
    List.replicate_eq_nil_iff, ← String.length_toList, Nat.toList_repr]
  omega

theorem zerofill_text (width n : Nat) :
    some (ascii n.repr) = (MySQL.Cell.zerofill width n).text ↔ width ≤ n.repr.length := by
  have digits : OneByte n.repr := oneByte_toString n
  rw [MySQL.Cell.text, Option.some.injEq, ← repr_eq_padded_iff]
  exact ⟨ascii_injective digits (oneByte_padded width n), fun same => by rw [same]⟩

theorem oneByte_date (d : MySQL.Date) : OneByte d.text := by
  unfold MySQL.Date.text
  have dash : OneByte "-" := by decide
  exact oneByte_append (oneByte_append (oneByte_append (oneByte_append (oneByte_padded _ _) dash)
    (oneByte_padded _ _)) dash) (oneByte_padded _ _)

theorem toList_dateTime (t : MySQL.DateTime) : t.text.toList =
    unsigned t.time ++ if t.fsp = 0 then [] else '.' :: (padded t.fsp t.fraction).toList := by
  have fraction : (if t.fsp = 0 then "" else "." ++ padded t.fsp t.fraction).toList =
      if t.fsp = 0 then [] else '.' :: (padded t.fsp t.fraction).toList := by
    split <;> simp
  simp [MySQL.DateTime.text, MySQL.Date.text, unsigned, MySQL.DateTime.time, fraction]

theorem toList_format_time (t : MySQL.DateTime) : t.time.format.toList = unsigned t.time := by
  have positive : ¬ t.time.year < 0 := Int.not_lt.mpr (Int.natCast_nonneg t.year)
  rw [toList_format, if_neg positive, List.nil_append]

/-- A time is written as MySQL wrote it if there was no fraction and it was read as it
stands. -/
theorem format_eq_text_iff (t : MySQL.DateTime) (r : Time) :
    r.format = t.text ↔ t.fsp = 0 ∧ SameSecond r t.time := by
  by_cases whole : t.fsp = 0
  · have text : t.text = t.time.format := by
      rw [← String.toList_inj, toList_dateTime, toList_format_time, if_pos whole, List.append_nil]
    rw [text, format_eq_iff, and_iff_right whole]
  · have fraction : '.' ∈ t.text.toList := by
      rw [toList_dateTime, if_neg whole]
      exact List.mem_append_right _ List.mem_cons_self
    constructor
    · intro same
      rw [← same] at fraction
      exact absurd fraction (dot_notMem_format r)
    · exact fun both => absurd both.1 whole

theorem format_ne_date (d : MySQL.Date) (r : Time) : r.format ≠ d.text := by
  intro same
  have blank := blank_mem_format r
  have digits := not_mem_padded (c := ' ') (by decide)
  rw [same] at blank
  simp [MySQL.Date.text, digits] at blank

theorem oneByte_dateTime (t : MySQL.DateTime) : OneByte t.text := by
  have digits : ∀ c ∈ (padded t.fsp t.fraction).toList, c.toNat < 256 := oneByte_padded _ _
  have fraction : ∀ c ∈ if t.fsp = 0 then [] else '.' :: (padded t.fsp t.fraction).toList,
      c.toNat < 256 := by
    split
    · simp
    · simpa using digits
  unfold OneByte
  rw [toList_dateTime]
  exact List.forall_mem_append.mpr ⟨oneByte_unsigned t.time, fraction⟩

section Cell

variable {driver : MySQL.Driver} {lib : WireLib}

theorem anyToString_date (documented : driver.Documented lib) (d : MySQL.Date) :
    anyToString lib (driver.value (.date d)) = some (ascii d.text) ↔ driver.parseTime = false := by
  cases reads : driver.parseTime with
  | false => simp [documented.dateText reads, anyToString]
  | true =>
    obtain ⟨instant, read⟩ := documented.date reads d
    simp only [read, anyToString, Option.some.injEq, Bool.true_eq_false, iff_false]
    exact fun same => format_ne_date d _
      (ascii_injective (oneByte_format _) (oneByte_date d) same)

theorem anyToString_dateTime (documented : driver.Documented lib) (t : MySQL.DateTime) :
    anyToString lib (driver.value (.dateTime t)) = some (ascii t.text) ↔
      driver.parseTime = false ∨ t.fsp = 0 ∧ Shows driver.loc t.time := by
  cases reads : driver.parseTime with
  | false => simp [documented.dateTimeText reads, anyToString]
  | true =>
    obtain ⟨instant, read, shown⟩ := documented.dateTime reads t
    have texts : ascii (driver.loc instant).format = ascii t.text ↔
        (driver.loc instant).format = t.text :=
      ⟨ascii_injective (oneByte_format _) (oneByte_dateTime t), fun same => by rw [same]⟩
    have readsBack : SameSecond (driver.loc instant) t.time ↔ Shows driver.loc t.time :=
      ⟨fun same => ⟨instant, same⟩, shown⟩
    simp only [read, anyToString, Option.some.injEq, Bool.true_eq_false, false_or, texts,
      format_eq_text_iff, readsBack]

/-- A cell keeps its text through the driver and the mapping exactly in these cases. -/
theorem anyToString_value_iff (documented : driver.Documented lib) (c : MySQL.Cell) :
    anyToString lib (driver.value c) = c.text ↔ c.Kept driver lib := by
  cases c with
  | null => simp [documented.null, anyToString, MySQL.Cell.text, MySQL.Cell.Kept]
  | integer n => simp [documented.integer, anyToString, MySQL.Cell.text, MySQL.Cell.Kept]
  | unsigned n => simp [documented.unsigned, anyToString, MySQL.Cell.text, MySQL.Cell.Kept]
  | zerofill width n =>
    rw [MySQL.Cell.Kept, ← zerofill_text]
    rcases documented.zerofill width n with read | read
    · rw [read, anyToString]
      exact Iff.rfl
    · rw [read, anyToString]
  | float text =>
    simp only [documented.float, anyToString, MySQL.Cell.text, MySQL.Cell.Kept, Option.some.injEq]
    constructor
    · exact fun same => ⟨_, same⟩
    · rintro ⟨bits, rfl⟩
      exact documented.shortest32 bits
  | double text =>
    simp only [documented.double, anyToString, MySQL.Cell.text, MySQL.Cell.Kept, Option.some.injEq]
    constructor
    · exact fun same => ⟨_, same⟩
    · rintro ⟨bits, rfl⟩
      exact documented.shortest64 bits
  | date d => exact anyToString_date documented d
  | dateTime t => exact anyToString_dateTime documented t
  | other text => simp [documented.other, anyToString, MySQL.Cell.text, MySQL.Cell.Kept]

end Cell

/-! ## The path of an outcome -/

section Path

variable (driver : MySQL.Driver)

theorem width_values (rs : MySQL.ResultSet) :
    ∀ row ∈ rs.values driver, row.length = rs.columns.length := by
  intro row member
  obtain ⟨cells, inRows, rfl⟩ := List.mem_map.mp member
  rw [List.length_map, rs.width cells inRows]

theorem execSelect_resultSet (rs : MySQL.ResultSet) :
    execSelect ((MySQL.Outcome.resultSet rs).queryContext driver) =
      .ok ⟨rs.columns, rs.values driver⟩ := by
  simp only [MySQL.Outcome.queryContext, execSelect, scanRows_ok (width_values driver rs)]

theorem execSelect_brokenOff (rs : MySQL.ResultSet) (err : String) :
    execSelect ((MySQL.Outcome.brokenOff rs err).queryContext driver) = .error err := by
  simp only [MySQL.Outcome.queryContext, execSelect, scanRows_ok (width_values driver rs)]

end Path

theorem reply_of_width {lib : WireLib} (copies : lib.Copies) {columns : List String}
    {rows : List (List Value)} (width : ∀ row ∈ rows, row.length = columns.length) :
    reply lib ⟨columns, rows⟩ = .ok { MySQLResult.zero with
      resultset := some ⟨columns, rows.map fun row => row.map (anyToString lib)⟩ } := by
  simp only [reply, toMySQL_of_width copies width]

theorem handleQuery_onMySQL {srv : Server C} {query : String} (h : srv.onMySQL query = true)
    (w : World ε) (driver : MySQL.Driver) (mysql : String → ε → MySQL.Outcome × ε)
    (st : State ε C) :
    (handleQuery srv (w.withMySQL driver mysql) query st).1 =
      match execSelect ((mysql query st.env).1.queryContext driver) with
      | .error err => .error (.mysqlExec err)
      | .ok result => reply srv.wire result := by
  simp only [Server.onMySQL, Bool.and_eq_true, Bool.not_eq_true', decide_eq_true_eq] at h
  obtain ⟨live, dest⟩ := h
  rcases routed : srv.router.route query with ⟨_ | _, tables, reason⟩
  · simp [routed] at dest
  · simp only [handleQuery, live, routed, handleMySQL, World.withMySQL, MySQL.execSelect]
    cases execSelect ((mysql query st.env).1.queryContext driver) <;> rfl

/-- A query sent to MySQL is answered with the outcome of MySQL exactly when the outcome
is an error, a result set whose cells keep their text, or zero counts. -/
theorem passThrough_iff (srv : Server C) (copies : srv.wire.Copies) (driver : MySQL.Driver)
    (documented : driver.Documented srv.wire) (query : String)
    (routed : srv.onMySQL query = true) (w : World ε)
    (mysql : String → ε → MySQL.Outcome × ε) (st : State ε C) :
    Carries (handleQuery srv (w.withMySQL driver mysql) query st).1 (mysql query st.env).1 ↔
      Intact driver srv.wire (mysql query st.env).1 := by
  rw [handleQuery_onMySQL routed]
  cases (mysql query st.env).1 with
  | error err => simp [MySQL.Outcome.queryContext, execSelect, Carries, Intact]
  | brokenOff rs err => simp [execSelect_brokenOff, Carries, Intact]
  | resultSet rs =>
    simp only [execSelect_resultSet, reply_of_width copies (width_values driver rs), Carries,
      Intact]
    simp only [Except.ok.injEq, exists_eq_left', Option.some.injEq, Resultset.mk.injEq, true_and,
      MySQL.ResultSet.values, List.map_map, List.map_inj_left, Function.comp_apply,
      anyToString_value_iff documented]
  | ok affectedRows insertId =>
    have answered : execSelect ((MySQL.Outcome.ok affectedRows insertId).queryContext driver) =
        .ok ⟨[], []⟩ := rfl
    have nothing : ∀ row ∈ ([] : List (List Value)), row.length = ([] : List String).length := by
      simp
    simp only [answered, reply_of_width copies nothing, Carries, Intact, Except.ok.injEq,
      exists_eq_left', MySQLResult.zero]
    simp only [eq_comm]

/-! ## The documented DSN -/

/-- The driver with `parseTime=true` and its default location, UTC. The zero date is read
as the zero `time.Time`, the first of January of the year 1. -/
def utcDriver : MySQL.Driver where
  parseTime := true
  loc := utc
  parseFloat32 _ := 0
  parseFloat64 _ := 0
  value
    | .null => .nil
    | .integer n => .int n
    | .unsigned n => .uint n
    | .zerofill _ n => .int n
    | .float _ => .float32 0
    | .double _ => .float64 0
    | .date d => .time (utc (instantOf ⟨d.year, d.month, d.day, 0, 0, 0, 0⟩))
    | .dateTime t => .time (utc (instantOf t.time))
    | .other text => .bytes text
where
  instantOf (t : Time) : Int :=
    if t = ⟨0, 0, 0, 0, 0, 0, 0⟩ then unixNano ⟨1, 1, 1, 0, 0, 0, 0⟩ else unixNano t

example : anyToString defaultServer.wire (utcDriver.value (.date ⟨2024, 1, 1, by decide⟩)) =
    some (ascii "2024-01-01 00:00:00") := by decide

example : anyToString defaultServer.wire (utcDriver.value (.date ⟨0, 0, 0, by decide⟩)) =
    some (ascii "0001-01-01 00:00:00") := by decide

theorem documented_utcDriver : utcDriver.Documented defaultServer.wire where
  null := rfl
  integer _ := rfl
  unsigned _ := rfl
  zerofill _ _ := .inl rfl
  float _ := rfl
  double _ := rfl
  shortest32 _ := rfl
  shortest64 _ := rfl
  dateText := by simp [utcDriver]
  dateTimeText := by simp [utcDriver]
  date _ _ := ⟨_, rfl⟩
  dateTime _ t := by
    refine ⟨_, rfl, ?_⟩
    intro shown
    have month := (shows_utc_pos shown).1
    have someDay : t.time ≠ ⟨0, 0, 0, 0, 0, 0, 0⟩ := by
      intro zero
      rw [zero] at month
      exact absurd month (by decide)
    rw [utcDriver.instantOf, if_neg someDay]
    exact sameSecond_unixNano shown
  other _ := rfl

/-- A date with a zero in it is on no clock, and so is lost. -/
theorem not_kept_zeroDate (lib : WireLib) {t : MySQL.DateTime} (zero : t.month = 0 ∨ t.day = 0) :
    ¬ (MySQL.Cell.dateTime t).Kept utcDriver lib := by
  rintro (reads | ⟨-, shown⟩)
  · cases reads
  · have positive := shows_utc_pos shown
    simp only [MySQL.DateTime.time] at positive
    omega

def deleteUser : String := "DELETE FROM users WHERE id = 7"

/-- A proxy whose whitelist is `orders`, with statements about the table `users`. -/
def usersServer : Server (ListLru String String) :=
  { defaultServer with
    router := .new .ascii
      (fun sql => .ok [if sql = deleteUser
        then .delete [] (.tableSource (.tableName ⟨"", "users"⟩) none) []
        else .select [.tableSource (.tableName ⟨"", "users"⟩) none] [] [] []])
      .inserted "orders" }

/-- A world in which neither the agent nor Redshift answers. -/
def noRedshift : World Unit :=
  .fixed (fun _ => .error "refused") fun _ => (.error "refused", 0)

def selectUsers : String := "SELECT id, name, created_at FROM users"

/-- The last minute of a leap day. -/
def leapNight : MySQL.DateTime :=
  ⟨⟨2024, 2, 29, by decide⟩, 23, 59, 1, 0, 0⟩

/-- Two users, one without a name. -/
def users : MySQL.ResultSet where
  columns := ["id", "name", "created_at"]
  rows := [[.integer 7, .other (ascii "Ann"), .dateTime leapNight], [.integer 8, .null, .null]]
  width := by simp

theorem passThrough_iff_selectUsers :
    Carries (handleQuery usersServer
        (noRedshift.withMySQL utcDriver fun _ _ => (.resultSet users, ())) selectUsers
        { cache := emptyCache, env := () }).1 (.resultSet users) := by
  have shown : Shows utcDriver.loc leapNight.time := ⟨1709251141000000000, by decide⟩
  have whole : leapNight.fsp = 0 := rfl
  refine (passThrough_iff usersServer (fun _ _ _ => rfl) utcDriver documented_utcDriver
    selectUsers (by decide) noRedshift (fun _ _ => (.resultSet users, ()))
    { cache := emptyCache, env := () }).mpr ?_
  simp only [Intact, users, List.forall_mem_cons, MySQL.Cell.Kept]
  simp [shown, whole]

/-- MySQL deletes a row, and the client is told of none. -/
theorem not_carries_deleteUser :
    ¬ Carries (handleQuery usersServer
        (noRedshift.withMySQL utcDriver fun _ _ => (.ok 1 0, ())) deleteUser
        { cache := emptyCache, env := () }).1 (.ok 1 0) := by
  rintro ⟨r, answered, affected, -⟩
  have told : r.affectedRows = 0 := by
    have counts : (handleQuery usersServer
        (noRedshift.withMySQL utcDriver fun _ _ => (.ok 1 0, ())) deleteUser
        { cache := emptyCache, env := () }).1 =
        .ok { MySQLResult.zero with resultset := some ⟨[], []⟩ } := by decide
    rw [counts] at answered
    cases answered
    rfl
  omega

end MysqlRedshift.Proxy
