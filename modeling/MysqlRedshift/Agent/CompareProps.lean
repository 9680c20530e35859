import Mathlib.Data.List.Permutation
import MysqlRedshift.Agent.Compare

/-!
# What a good comparison says

The strict comparison sorts the rows of both sides by the text of their cells and
compares them place by place. A good verdict is therefore sound: it comes with a pairing
of the rows. It is complete only where every pairing in the order of the texts agrees,
and the cells of a pair that `_eq` takes for equal can have texts that sort apart.
-/

namespace MysqlRedshift.Agent

open MysqlRedshift.Misc

variable {O : Type} {py : PyText O}

/-! ## The sorts -/

theorem rowKey_of_writable {row : PyRow O} (writable : Writable py row) :
    rowKey py row = .ok (textKey py row) := by
  obtain ⟨key, written⟩ := writable
  rw [textKey, written]

theorem mapM_keyed_of_writable {rows : List (PyRow O)}
    (writable : ∀ row ∈ rows, Writable py row) :
    (rows.mapM fun row => do let key ← rowKey py row; return (key, row)) =
      Except.ok (rows.map fun row => (textKey py row, row)) := by
  induction rows with
  | nil => rfl
  | cons row rows ih =>
    have first := rowKey_of_writable (writable row List.mem_cons_self)
    have rest := ih fun row member => writable row (List.mem_cons_of_mem _ member)
    rw [List.mapM_cons, rest, first]
    rfl

theorem writable_of_mapM_keyed {rows : List (PyRow O)} {keyed : List (List String × PyRow O)}
    (computed : (rows.mapM fun row => do let key ← rowKey py row; return (key, row)) =
      Except.ok keyed) : ∀ row ∈ rows, Writable py row := by
  induction rows generalizing keyed with
  | nil => simp
  | cons row rows ih =>
    rw [List.mapM_cons] at computed
    cases first : rowKey py row with
    | error e =>
      rw [first] at computed
      cases computed
    | ok key =>
      cases rest : rows.mapM fun row => do let key ← rowKey py row; return (key, row) with
      | error e =>
        rw [first, rest] at computed
        cases computed
      | ok keyed' =>
        intro row' member
        rcases List.mem_cons.mp member with rfl | member
        · exact ⟨key, first⟩
        · exact ih rest row' member

/-- The sort succeeds when every row can be written, and is then the stable sort by texts. -/
theorem sortedRows_eq_ok_iff {rows sorted : List (PyRow O)} :
    sortedRows py rows = .ok sorted ↔
      (∀ row ∈ rows, Writable py row) ∧ sorted = sortBy (textKey py) rows := by
  have undecorated := List.map_insertionSort (r := fun a b => textKey py a ≤ textKey py b)
    (s := fun p q => p.1 ≤ q.1) (fun row => (textKey py row, row)) rows fun _ _ _ _ => Iff.rfl
  have sorts : (∀ row ∈ rows, Writable py row) →
      sortedRows py rows = .ok (sortBy (textKey py) rows) := by
    intro writable
    rw [sortedRows, mapM_keyed_of_writable writable]
    have plain : (sortBy Prod.fst (rows.map fun row => (textKey py row, row))).map Prod.snd =
        sortBy (textKey py) rows := by
      rw [sortBy, ← undecorated, List.map_map]
      exact List.map_id _
    rw [← plain]
    rfl
  constructor
  · intro sorted_ok
    cases computed : rows.mapM fun row => do let key ← rowKey py row; return (key, row) with
    | error e =>
      rw [sortedRows, computed] at sorted_ok
      cases sorted_ok
    | ok keyed =>
      have writable := writable_of_mapM_keyed computed
      rw [sorts writable] at sorted_ok
      exact ⟨writable, (Except.ok.inj sorted_ok).symm⟩
  · rintro ⟨writable, rfl⟩
    exact sorts writable

theorem sortedRows_of_both {rowsMy rowsRs sortedMy sortedRs : List (PyRow O)}
    (both : (do return (← sortedRows py rowsMy, ← sortedRows py rowsRs)) =
      Except.ok (sortedMy, sortedRs)) :
    sortedRows py rowsMy = .ok sortedMy ∧ sortedRows py rowsRs = .ok sortedRs := by
  cases left : sortedRows py rowsMy with
  | error e =>
    rw [left] at both
    cases both
  | ok l =>
    cases right : sortedRows py rowsRs with
    | error e =>
      rw [left, right] at both
      cases both
    | ok l' =>
      rw [left, right] at both
      cases both
      exact ⟨rfl, rfl⟩

/-! ## The loop -/

theorem firstUnequal_eq_none_iff {j : Nat} {rm rr : PyRow O} (width : rm.length = rr.length) :
    firstUnequal py j rm rr = none ↔ RowsAgree py rm rr := by
  induction rm generalizing j rr with
  | nil =>
    rw [List.eq_nil_of_length_eq_zero width.symm]
    exact ⟨fun _ => List.Forall₂.nil, fun _ => rfl⟩
  | cons a rm ih =>
    cases rr with
    | nil => simp at width
    | cons b rr =>
      have width := Nat.succ.inj width
      by_cases equal : a.eq py b = true
      · simp [firstUnequal, equal, ih width, RowsAgree]
      · simp [firstUnequal, equal, RowsAgree]

/-- The loop ends with a good verdict when it has met no difference and meets none. -/
theorem accepted_compareLoop_iff {colsMy : List String} {total i diffCount : Nat}
    {firstDiff : Option (FirstDiff O)} {l : List (PyRow O × PyRow O)} :
    accepted (compareLoop py colsMy total i diffCount firstDiff l) = true ↔
      diffCount = 0 ∧ Agree (RowsAgree py) l := by
  induction l generalizing i diffCount firstDiff with
  | nil =>
    by_cases none : diffCount = 0
    · simp [compareLoop, compareVerdict, none, accepted, Agree]
    · cases firstDiff <;> simp [compareLoop, compareVerdict, none, accepted]
  | cons pair l ih =>
    obtain ⟨rm, rr⟩ := pair
    by_cases width : rm.length = rr.length
    · have first : firstUnequal py 0 rm rr = none ↔ _ := firstUnequal_eq_none_iff width
      cases unequal : firstUnequal py 0 rm rr with
      | none =>
        simp [compareLoop, width, unequal, ih, Agree, first.mp unequal]
      | some d =>
        have differ : ¬ RowsAgree py rm rr := fun agree => by simp [first.mpr agree] at unequal
        obtain ⟨j, a, b⟩ := d
        cases firstDiff with
        | some d => simp [compareLoop, width, unequal, ih, Agree, differ]
        | none =>
          cases column : colsMy[j]? with
          | none => simp [compareLoop, width, unequal, column, accepted, Agree, differ]
          | some col => simp [compareLoop, width, unequal, column, ih, Agree, differ]
    · have differ : ¬ RowsAgree py rm rr := fun agree => width agree.length_eq
      simp [compareLoop, width, accepted, Agree, differ]

/-- `diff_rows` counts the differences met before, and at most one for each row to come. -/
theorem diffRows_compareLoop {colsMy : List String} {total i diffCount d : Nat}
    {firstDiff : Option (FirstDiff O)} {l : List (PyRow O × PyRow O)} {result : CompareResult}
    (returned : compareLoop py colsMy total i diffCount firstDiff l = .ok result)
    (reported : result.diffRows = some d) : 1 ≤ d ∧ d ≤ diffCount + l.length := by
  induction l generalizing i diffCount firstDiff with
  | nil =>
    by_cases none : diffCount = 0
    · simp only [compareLoop, compareVerdict, if_pos none, Except.ok.injEq] at returned
      rw [← returned] at reported
      cases reported
    · cases firstDiff with
      | none => simp [compareLoop, compareVerdict, none] at returned
      | some first =>
        simp only [compareLoop, compareVerdict, if_neg none, Except.ok.injEq] at returned
        rw [← returned] at reported
        have := Option.some.inj reported
        simp only [List.length_nil]
        omega
  | cons pair l ih =>
    obtain ⟨rm, rr⟩ := pair
    rw [compareLoop] at returned
    split at returned
    · cases returned
      cases reported
    · split at returned
      · have := ih returned
        simp only [List.length_cons]
        omega
      · split at returned
        · have := ih returned
          simp only [List.length_cons]
          omega
        · split at returned
          · cases returned
          · have := ih returned
            simp only [List.length_cons]
            omega

/-! ## Soundness -/

variable {rowsMy rowsRs : List (PyRow O)} {colsMy colsRs : List String}

theorem compare_strict_eq (count : rowsMy.length = rowsRs.length) :
    compare py rowsMy rowsRs colsMy colsRs "strict" =
      compareStrict py rowsMy rowsRs colsMy colsRs := by
  simp [compare, count]

theorem accepted_compareStrict_iff :
    accepted (compareStrict py rowsMy rowsRs colsMy colsRs) = true ↔
      colsMy.map py.lower = colsRs.map py.lower ∧
        (∀ row ∈ rowsMy ++ rowsRs, Writable py row) ∧
        Agree (RowsAgree py)
          ((sortBy (textKey py) rowsMy).zip (sortBy (textKey py) rowsRs)) := by
  by_cases width : colsMy.length = colsRs.length
  · by_cases names : colsMy.map py.lower = colsRs.map py.lower
    · rw [compareStrict, if_neg (not_not.mpr width), if_neg (not_not.mpr names)]
      cases left : sortedRows py rowsMy with
      | error e =>
        have unwritable : ¬ ∀ row ∈ rowsMy, Writable py row := by
          intro writable
          rw [sortedRows_eq_ok_iff.mpr ⟨writable, rfl⟩] at left
          cases left
        simp only [List.forall_mem_append, unwritable, false_and, and_false, iff_false]
        exact Bool.false_ne_true
      | ok sortedMy =>
        have ⟨writable, is_left⟩ := sortedRows_eq_ok_iff.mp left
        cases right : sortedRows py rowsRs with
        | error e =>
          have unwritable : ¬ ∀ row ∈ rowsRs, Writable py row := by
            intro writable
            rw [sortedRows_eq_ok_iff.mpr ⟨writable, rfl⟩] at right
            cases right
          simp only [List.forall_mem_append, unwritable, false_and, and_false, iff_false]
          exact Bool.false_ne_true
        | ok sortedRs =>
          have ⟨writable', is_right⟩ := sortedRows_eq_ok_iff.mp right
          subst is_left is_right
          have loop : accepted (compareLoop py colsMy rowsMy.length 0 0 none
                ((sortBy (textKey py) rowsMy).zip (sortBy (textKey py) rowsRs))) = true ↔ _ :=
            accepted_compareLoop_iff
          have all : ∀ row ∈ rowsMy ++ rowsRs, Writable py row :=
            List.forall_mem_append.mpr ⟨writable, writable'⟩
          rw [and_iff_right names, and_iff_right all]
          exact loop.trans (and_iff_right rfl)
    · simp [compareStrict, width, names, accepted]
  · have names : colsMy.map py.lower ≠ colsRs.map py.lower := by
      intro same
      have := congrArg List.length same
      simp only [List.length_map] at this
      exact width this
    simp [compareStrict, width, names, accepted]

/-- The strict comparison, without its texts: names, widths and cells of the rows as they
come in the order of their texts. -/
theorem accepts_iff :
    Accepts py rowsMy rowsRs colsMy colsRs ↔
      colsMy.map py.lower = colsRs.map py.lower ∧
        (∀ row ∈ rowsMy ++ rowsRs, Writable py row) ∧
        List.Forall₂ (RowsAgree py) (sortBy (textKey py) rowsMy) (sortBy (textKey py) rowsRs) := by
  rw [forall₂_iff_agree_zip, length_sortBy, length_sortBy]
  by_cases count : rowsMy.length = rowsRs.length
  · rw [Accepts, compare_strict_eq count, accepted_compareStrict_iff, and_iff_right count]
  · simp [Accepts, compare, count, accepted]

theorem diffRows_compareStrict (count : rowsMy.length = rowsRs.length) {result : CompareResult}
    {d : Nat} (returned : compareStrict py rowsMy rowsRs colsMy colsRs = .ok result)
    (reported : result.diffRows = some d) : 1 ≤ d ∧ d ≤ rowsMy.length := by
  rw [compareStrict] at returned
  split at returned
  · cases returned
    cases reported
  · split at returned
    · cases returned
      cases reported
    · split at returned
      · cases returned
        cases reported
      · next sortedMy sortedRs sorted =>
        have ⟨left, right⟩ := sortedRows_of_both sorted
        have bounds := diffRows_compareLoop returned reported
        rw [(sortedRows_eq_ok_iff.mp left).2, (sortedRows_eq_ok_iff.mp right).2,
          List.length_zip, length_sortBy, length_sortBy] at bounds
        omega

theorem compare_strict_rows {result : CompareResult}
    (returned : compare py rowsMy rowsRs colsMy colsRs "strict" = .ok result)
    (ok : result.ok = true) :
    colsMy.map py.lower = colsRs.map py.lower ∧ Pairable (RowsAgree py) rowsMy rowsRs := by
  have accepts : Accepts py rowsMy rowsRs colsMy colsRs := by
    rw [Accepts, returned]
    exact ok
  have ⟨names, _, related⟩ := accepts_iff.mp accepts
  exact ⟨names, pairable_of_forall₂_sortBy related⟩

/-- A good strict verdict comes with a pairing of all rows in which the paired rows agree,
and `diff_rows`, once rows are compared, counts some of them. -/
theorem compare_strict_sound (result : CompareResult)
    (returned : compare py rowsMy rowsRs colsMy colsRs "strict" = .ok result) :
    (result.ok = true →
      colsMy.map py.lower = colsRs.map py.lower ∧ Pairable (RowsAgree py) rowsMy rowsRs) ∧
    (rowsMy.length = rowsRs.length → ∀ d, result.diffRows = some d →
      1 ≤ d ∧ d ≤ rowsMy.length) := by
  constructor
  · exact compare_strict_rows returned
  · intro count d reported
    rw [compare_strict_eq count] at returned
    exact diffRows_compareStrict count returned reported

/-- Two rows that come in another order and with other types on the other side. -/
theorem compare_strict_sound_reordered :
    ["id"].map pyAscii.lower = ["ID"].map pyAscii.lower ∧
      Pairable (RowsAgree pyAscii) [[.int 2], [.int 1]] [[.float 1], [.decimal 2]] := by
  have returned : compare pyAscii [[.int 2], [.int 1]] [[.float 1], [.decimal 2]]
      ["id"] ["ID"] "strict" = .ok { ok := true, reason := "严格一致 (2 行)" } := by
    decide +kernel
  exact (compare_strict_sound _ returned).1 rfl

/-- What the import reads of a comparison. -/
def compareForImport (py : PyText O) (rowsMy rowsRs : List (PyRow O))
    (colsMy colsRs : List String) (mode : String) : Except String Compared :=
  match compare py rowsMy rowsRs colsMy colsRs mode with
  | .ok result => .ok ⟨result.ok, result.reason⟩
  | .error e => .error e

/-- What an import saves as compared strictly gave, on both sides, rows that pair off. -/
theorem importVerify_saves_pairable {σ S : Type} {env : ImportEnv σ (PyValue O) S}
    {req : ImportTestReq} {s s' : σ} {resp : ImportTestResp} {args : Knowledge.SaveArgs}
    (compares : env.compare = compareForImport py)
    (saves : importVerify env req s = (.ok (resp, some args), s'))
    (labelled : args.compareMode = "strict") :
    ∃ my rs s₁ s₂ s₃ s₄, env.runMysql args.mysqlSQL s₁ = (.ok my, s₂) ∧
      env.runRedshift args.redshiftSQL s₃ = (.ok rs, s₄) ∧
      Pairable (RowsAgree py) my.rows rs.rows := by
  have ⟨same_sql, _, label⟩ := importVerify_saves saves
  rcases label with ⟨mode, compared⟩ | ⟨mode, _⟩
  · obtain ⟨tr, s₁, my, s₂, rs, s₃, reason, _, _, mysql, redshift, verdict⟩ := compared
    refine ⟨my, rs, s₁, s₂, s₂, s₃, same_sql ▸ mysql, redshift, ?_⟩
    rw [compares, compareForImport, ← mode, labelled] at verdict
    cases returned : compare py my.rows rs.rows my.columns rs.columns "strict" with
    | error e =>
      rw [returned] at verdict
      cases verdict
    | ok result =>
      rw [returned] at verdict
      have ok : result.ok = true := congrArg Compared.ok (Except.ok.inj verdict)
      exact (compare_strict_rows returned ok).2
  · rw [mode] at labelled
    exact absurd labelled (by decide)

/-! ## Completeness -/

/-- However the rows are paired in the order of their texts, paired rows agree. -/
def TextOrderAgrees (py : PyText O) (rowsMy rowsRs : List (PyRow O)) : Prop :=
  ∀ l, Pairs l rowsMy rowsRs → InOrder (textKey py) (textKey py) l → Agree (RowsAgree py) l

/-- The strict comparison finds a pairing where there is one, and does not depend on the
order of the rows, exactly when the order of the texts leads to such a pairing. -/
theorem compare_complete_iff (names : colsMy.map py.lower = colsRs.map py.lower)
    (count : rowsMy.length = rowsRs.length) :
    ((Pairable (RowsAgree py) rowsMy rowsRs → Accepts py rowsMy rowsRs colsMy colsRs) ∧
      ∀ rowsMy' rowsRs', rowsMy'.Perm rowsMy → rowsRs'.Perm rowsRs →
        (Accepts py rowsMy' rowsRs' colsMy colsRs ↔ Accepts py rowsMy rowsRs colsMy colsRs)) ↔
      (Pairable (RowsAgree py) rowsMy rowsRs →
        (∀ row ∈ rowsMy ++ rowsRs, Writable py row) ∧ TextOrderAgrees py rowsMy rowsRs) := by
  constructor
  · rintro ⟨complete, blind⟩ pairable
    have accepts := complete pairable
    have ⟨_, writable, _⟩ := accepts_iff.mp accepts
    refine ⟨writable, (forall_perm_forall₂_sortBy_iff count).mp ?_⟩
    intro rowsMy' rowsRs' left right
    exact (accepts_iff.mp ((blind _ _ left right).mpr accepts)).2.2
  · intro ordered
    have all : Pairable (RowsAgree py) rowsMy rowsRs → ∀ rowsMy' rowsRs', rowsMy'.Perm rowsMy →
        rowsRs'.Perm rowsRs → Accepts py rowsMy' rowsRs' colsMy colsRs := by
      intro pairable rowsMy' rowsRs' left right
      have ⟨writable, agrees⟩ := ordered pairable
      have related := (forall_perm_forall₂_sortBy_iff count).mpr agrees _ _ left right
      refine accepts_iff.mpr ⟨names, ?_, related⟩
      intro row member
      exact writable row ((left.append right).mem_iff.mp member)
    constructor
    · intro pairable
      exact all pairable _ _ (List.Perm.refl _) (List.Perm.refl _)
    · intro rowsMy' rowsRs' left right
      constructor
      · intro accepts
        have pairable := pairable_of_forall₂_sortBy (accepts_iff.mp accepts).2.2
        exact all (pairable.perm left right) _ _ (List.Perm.refl _) (List.Perm.refl _)
      · intro accepts
        have pairable := pairable_of_forall₂_sortBy (accepts_iff.mp accepts).2.2
        exact all pairable _ _ left right

/-- Two rows that come in another order on the other side, and one with another type. -/
theorem compare_complete_iff_twoRows :
    (Pairable (RowsAgree pyAscii) [[.int 2], [.int 1]] [[.int 1], [.decimal 2]] →
        Accepts pyAscii [[.int 2], [.int 1]] [[.int 1], [.decimal 2]] ["id"] ["ID"]) ∧
      ∀ rowsMy rowsRs, rowsMy.Perm [[.int 2], [.int 1]] → rowsRs.Perm [[.int 1], [.decimal 2]] →
        (Accepts pyAscii rowsMy rowsRs ["id"] ["ID"] ↔
          Accepts pyAscii [[.int 2], [.int 1]] [[.int 1], [.decimal 2]] ["id"] ["ID"]) := by
  apply (compare_complete_iff (by decide) (by decide)).mpr
  intro _
  constructor
  · simp only [List.cons_append, List.nil_append, List.forall_mem_cons]
    exact ⟨⟨["2"], by decide +kernel⟩, ⟨["1"], by decide +kernel⟩, ⟨["1"], by decide +kernel⟩,
      ⟨["2.0"], by decide +kernel⟩, by simp⟩
  · have count : [[PyValue.int (O := Empty) 2], [.int 1]].length =
        [[PyValue.int (O := Empty) 1], [.decimal 2]].length := rfl
    refine (forall_perm_forall₂_sortBy_iff count).mp ?_
    intro rowsMy rowsRs left right
    unfold RowsAgree
    rcases List.perm_pair.mp left with rfl | rfl <;>
      rcases List.perm_pair.mp right with rfl | rfl <;> decide +kernel

/-- A nullable `TINYINT(1)` column with one set value and one NULL, and the `BOOLEAN`
column that it became: the texts `1` and `None` sort the other way than `True` and
`None`. -/
theorem not_compare_complete_tinyint :
    Pairable (RowsAgree pyAscii) [[.none], [.int 1]] [[.none], [.bool true]] ∧
      ¬ Accepts pyAscii [[.none], [.int 1]] [[.none], [.bool true]] ["flag"] ["flag"] := by
  constructor
  · refine ⟨[([.none], [.none]), ([.int 1], [.bool true])], ⟨.refl _, .refl _⟩, ?_⟩
    simp only [Agree, List.forall_mem_cons, RowsAgree]
    decide +kernel
  · decide +kernel

end MysqlRedshift.Agent
