import MysqlRedshift.Misc.Calendar
import MysqlRedshift.Misc.TextLaws
import MysqlRedshift.Proxy.ResultMap

/-!
# Texts of numbers and times

What a text of `anyToString` tells of its value: all of a number, and of a time the
date and the time of day that a clock shows, without the fraction of a second.
-/

namespace MysqlRedshift.Proxy

open MysqlRedshift.Misc

/-- The builder of result sets copies its cells where the widths agree. -/
def WireLib.Copies (lib : WireLib) : Prop :=
  ∀ cols rows, (∀ row ∈ rows, row.length = cols.length) →
    lib.buildSimpleTextResultset cols rows = .ok ⟨cols, rows⟩

theorem toMySQL_of_width {lib : WireLib} (copies : lib.Copies) {columns : List String}
    {rows : List (List Value)} (width : ∀ row ∈ rows, row.length = columns.length) :
    toMySQL lib (some ⟨columns, rows⟩) = .ok { MySQLResult.zero with
      resultset := some ⟨columns, rows.map fun row => row.map (anyToString lib)⟩ } := by
  have built := copies columns (rows.map fun row => row.map (anyToString lib)) (by
    intro row member
    obtain ⟨raw, raw_member, rfl⟩ := List.mem_map.mp member
    rw [List.length_map, width raw raw_member])
  simp only [toMySQL, built]

/-! ## Numbers -/

theorem toDigits_all (n : Nat) : (Nat.toDigits 10 n).all Char.isDigit = true := by
  rw [List.all_eq_true]
  intro c member
  exact Nat.isDigit_of_mem_toDigits (by decide) (by decide) member

theorem repr_injective {n m : Nat} (same : n.repr = m.repr) : n = m := by
  have digits := congrArg String.toList same
  rw [Nat.toList_repr, Nat.toList_repr] at digits
  have values := congrArg (Nat.ofDigitChars 10 · 0) digits
  simpa using values

theorem toString_injective {n m : Int} (same : toString n = toString m) : n = m := by
  have signless : ∀ k l : Nat, k.repr ≠ "-" ++ l.repr := by
    intro k l h
    have first : '-' ∈ k.repr.toList := by
      rw [h, String.toList_append]
      exact List.mem_append_left _ (by decide)
    rw [Nat.toList_repr] at first
    exact absurd (List.all_eq_true.mp (toDigits_all k) _ first) (by decide)
  rw [Int.toString_eq_repr, Int.toString_eq_repr] at same
  cases n with
  | ofNat n =>
    cases m with
    | ofNat m => exact congrArg Int.ofNat (repr_injective same)
    | negSucc m => exact absurd same (signless n m.succ)
  | negSucc n =>
    cases m with
    | ofNat m => exact absurd same.symm (signless m n.succ)
    | negSucc m =>
      have digits := congrArg String.toList same
      simp only [Int.repr, String.toList_append, List.append_cancel_left_eq,
        String.toList_inj] at digits
      exact congrArg Int.negSucc (Nat.succ.inj (repr_injective digits))

theorem toList_padded (width n : Nat) : (padded width n).toList =
    List.replicate (width - (Nat.toDigits 10 n).length) '0' ++ Nat.toDigits 10 n := by
  simp [padded]

theorem padded_all (width n : Nat) : (padded width n).toList.all Char.isDigit = true := by
  rw [toList_padded, List.all_append, toDigits_all, Bool.and_true, List.all_eq_true]
  intro c member
  rw [List.eq_of_mem_replicate member]
  rfl

theorem not_mem_padded {c : Char} (apart : c.isDigit = false) (width n : Nat) :
    c ∉ (padded width n).toList := by
  intro member
  have digit := List.all_eq_true.mp (padded_all width n) c member
  rw [apart] at digit
  cases digit

theorem padded_injective {width n m : Nat} (same : padded width n = padded width m) : n = m := by
  have digits := congrArg (fun s => Nat.ofDigitChars 10 s.toList 0) same
  simpa [toList_padded, Nat.ofDigitChars_append] using digits

/-- A number is read up to the next character that is no digit. -/
theorem padded_append_inj {width n m : Nat} {sep : Char} {l l' : List Char}
    (same : (padded width n).toList ++ sep :: l = (padded width m).toList ++ sep :: l')
    (apart : sep.isDigit = false) : n = m ∧ l = l' := by
  have outside : ∀ l, StartsOutside Char.isDigit (sep :: l) := fun _ => apart
  obtain ⟨digits, rest⟩ :=
    run_unique (padded_all width n) (padded_all width m) (outside l) (outside l') same
  exact ⟨padded_injective (String.toList_inj.mp digits), (List.cons.inj rest).2⟩

/-! ## Times -/

/-- `time.Location`: the date and the time of day of an instant. -/
abbrev Location := Int → Time

/-- `time.UTC`. -/
def utc : Location := fun instant =>
  let second := instant / 1000000000
  let date := civil (second / 86400)
  { year := date.1
    month := date.2.1
    day := date.2.2
    hour := (second % 86400 / 3600).toNat
    minute := (second % 3600 / 60).toNat
    second := (second % 60).toNat
    nanosecond := (instant % 1000000000).toNat }

example : utc 1709164800000000001 = ⟨2024, 2, 29, 0, 0, 0, 1⟩ := by decide

/-- The same date and the same time of day, up to the second. -/
def SameSecond (t u : Time) : Prop :=
  t.year = u.year ∧ t.month = u.month ∧ t.day = u.day ∧ t.hour = u.hour ∧
    t.minute = u.minute ∧ t.second = u.second

instance (t u : Time) : Decidable (SameSecond t u) := inferInstanceAs (Decidable (_ ∧ _))

theorem SameSecond.trans {t u v : Time} (same : SameSecond t u) (same' : SameSecond u v) :
    SameSecond t v := by
  obtain ⟨year, month, day, hour, minute, second⟩ := same
  obtain ⟨year', month', day', hour', minute', second'⟩ := same'
  exact ⟨year.trans year', month.trans month', day.trans day', hour.trans hour',
    minute.trans minute', second.trans second'⟩

/-- The clocks of a location show the time at some instant. -/
def Shows (loc : Location) (t : Time) : Prop := ∃ instant, SameSecond (loc instant) t

/-- The instant of a time in UTC, as `time.Date` has it. -/
def unixNano (t : Time) : Int :=
  (dayOf t.year t.month t.day * 86400 + t.hour * 3600 + t.minute * 60 + t.second) * 1000000000 +
    t.nanosecond % 1000000000

theorem sameSecond_utc {a b : Int} (same : a / 1000000000 = b / 1000000000) :
    SameSecond (utc a) (utc b) := by
  simp [SameSecond, utc, same]

theorem sameSecond_unixNano {t : Time} (shown : Shows utc t) :
    SameSecond (utc (unixNano t)) t := by
  obtain ⟨instant, shown⟩ := shown
  obtain ⟨year, month, day, hour, minute, second⟩ := id shown
  have date := dayOf_civil (instant / 1000000000 / 86400)
  simp only [utc] at year month day hour minute second
  rw [year, month, day] at date
  have same : unixNano t / 1000000000 = instant / 1000000000 := by
    rw [unixNano, date]
    omega
  exact (sameSecond_utc same).trans shown

theorem shows_utc_pos {t : Time} (shown : Shows utc t) : 0 < t.month ∧ 0 < t.day := by
  obtain ⟨instant, -, month, day, -⟩ := shown
  rw [← month, ← day]
  exact civil_pos _

/-- The text of a time behind the sign of its year. -/
def unsigned (t : Time) : List Char :=
  (padded 4 t.year.natAbs).toList ++ '-' :: ((padded 2 t.month).toList ++ '-' ::
    ((padded 2 t.day).toList ++ ' ' :: ((padded 2 t.hour).toList ++ ':' ::
      ((padded 2 t.minute).toList ++ ':' :: (padded 2 t.second).toList))))

theorem toList_format (t : Time) :
    t.format.toList = (if t.year < 0 then ['-'] else []) ++ unsigned t := by
  have sign : (if t.year < 0 then "-" else "").toList = if t.year < 0 then ['-'] else [] := by
    split <;> rfl
  simp [Time.format, unsigned, sign]

theorem unsigned_inj {t u : Time} (same : unsigned t = unsigned u) :
    t.year.natAbs = u.year.natAbs ∧ t.month = u.month ∧ t.day = u.day ∧ t.hour = u.hour ∧
      t.minute = u.minute ∧ t.second = u.second := by
  unfold unsigned at same
  obtain ⟨year, same⟩ := padded_append_inj same (by decide)
  obtain ⟨month, same⟩ := padded_append_inj same (by decide)
  obtain ⟨day, same⟩ := padded_append_inj same (by decide)
  obtain ⟨hour, same⟩ := padded_append_inj same (by decide)
  obtain ⟨minute, same⟩ := padded_append_inj same (by decide)
  exact ⟨year, month, day, hour, minute, padded_injective (String.toList_inj.mp same)⟩

/-- Without a sign the text begins with a digit. -/
theorem unsigned_ne_minus (t : Time) (l : List Char) : unsigned t ≠ '-' :: l := by
  intro same
  have digits := padded_all 4 t.year.natAbs
  cases number : (padded 4 t.year.natAbs).toList with
  | nil =>
    rw [toList_padded, List.append_eq_nil_iff] at number
    exact Nat.toDigits_ne_nil number.2
  | cons c cs =>
    rw [unsigned, number, List.cons_append, List.cons.injEq] at same
    rw [number, List.all_cons, same.1] at digits
    cases digits

/-- The text of a time tells its second, and not its fraction. -/
theorem format_eq_iff (t u : Time) : t.format = u.format ↔ SameSecond t u := by
  rw [← String.toList_inj, toList_format, toList_format]
  constructor
  · intro same
    by_cases before : t.year < 0
    · by_cases before' : u.year < 0
      · rw [if_pos before, if_pos before', List.append_cancel_left_eq] at same
        obtain ⟨year, rest⟩ := unsigned_inj same
        exact ⟨by omega, rest⟩
      · rw [if_pos before, if_neg before', List.nil_append, List.singleton_append] at same
        exact absurd same.symm (unsigned_ne_minus u _)
    · by_cases before' : u.year < 0
      · rw [if_neg before, if_pos before', List.nil_append, List.singleton_append] at same
        exact absurd same (unsigned_ne_minus t _)
      · rw [if_neg before, if_neg before', List.nil_append, List.nil_append] at same
        obtain ⟨year, rest⟩ := unsigned_inj same
        exact ⟨by omega, rest⟩
  · rintro ⟨year, month, day, hour, minute, second⟩
    simp only [unsigned, year, month, day, hour, minute, second]

theorem dot_notMem_format (t : Time) : '.' ∉ t.format.toList := by
  have sign : '.' ∉ if t.year < 0 then ['-'] else [] := by
    split <;> decide
  have digits := not_mem_padded (c := '.') (by decide)
  simp [toList_format, unsigned, sign, digits]

theorem blank_mem_format (t : Time) : ' ' ∈ t.format.toList := by
  simp [toList_format, unsigned]

/-! ## Bytes -/

/-- Characters of one byte. -/
def OneByte (s : String) : Prop := ∀ c ∈ s.toList, c.toNat < 256

instance (s : String) : Decidable (OneByte s) :=
  List.decidableBAll _ s.toList

theorem ascii_injective {s s' : String} (one : OneByte s) (one' : OneByte s')
    (same : ascii s = ascii s') : s = s' := by
  have back : ∀ {s : String}, OneByte s →
      (ascii s).map (fun b => Char.ofNat b.toNat) = s.toList := by
    intro s one
    rw [ascii, List.map_map, List.map_congr_left (g := id), List.map_id]
    intro c member
    have small := one c member
    simp only [Function.comp_apply, UInt8.toNat_ofNat', id_eq]
    rw [Nat.mod_eq_of_lt (by simpa using small), Char.ofNat_toNat]
  rw [← String.toList_inj, ← back one, ← back one', same]

theorem oneByte_of_all {s : String} (digits : s.toList.all Char.isDigit = true) : OneByte s := by
  intro c member
  have digit := List.all_eq_true.mp digits c member
  simp only [Char.isDigit, Bool.and_eq_true, decide_eq_true_eq] at digit
  have upper : c.toNat ≤ 57 := digit.2
  omega

theorem oneByte_append {s s' : String} (one : OneByte s) (one' : OneByte s') :
    OneByte (s ++ s') := by
  intro c member
  rw [String.toList_append, List.mem_append] at member
  exact member.elim (one c) (one' c)

theorem oneByte_padded (width n : Nat) : OneByte (padded width n) :=
  oneByte_of_all (padded_all width n)

theorem oneByte_toString (n : Int) : OneByte (toString n) := by
  have natural : ∀ m : Nat, OneByte m.repr := by
    intro m
    apply oneByte_of_all
    rw [Nat.toList_repr]
    exact toDigits_all m
  cases n with
  | ofNat m => exact natural m
  | negSucc m => exact oneByte_append (s := "-") (by decide) (natural m.succ)

theorem oneByte_unsigned (t : Time) : ∀ c ∈ unsigned t, c.toNat < 256 := by
  have digits (width n : Nat) : ∀ c ∈ (padded width n).toList, c.toNat < 256 :=
    oneByte_padded width n
  rw [unsigned]
  simp only [List.forall_mem_append, List.forall_mem_cons]
  exact ⟨digits _ _, by decide, digits _ _, by decide, digits _ _, by decide, digits _ _,
    by decide, digits _ _, by decide, digits _ _⟩

theorem oneByte_format (t : Time) : OneByte t.format := by
  have sign : ∀ c ∈ if t.year < 0 then ['-'] else [], c.toNat < 256 := by
    split <;> simp
  unfold OneByte
  rw [toList_format]
  exact List.forall_mem_append.mpr ⟨sign, oneByte_unsigned t⟩

end MysqlRedshift.Proxy
