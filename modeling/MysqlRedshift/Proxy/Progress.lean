import MysqlRedshift.Proxy.Interleaving

/-!
# Calls come to an end

How far a call is from its end does not depend on what the others do: a call waits for
the agent and for Redshift, and for no other call. `Pc.budget` is what a call may still
do from each place, and every step of the call takes its cost off it.
-/

namespace MysqlRedshift.Proxy.Interleaving

open MysqlRedshift.Misc

variable {K : Type} [DecidableEq K] {key : String → K} {maxAttempts : Nat}

/-- Steps of a call, and those of them that go to Redshift and to the agent. -/
structure Budget where
  steps : Nat
  execs : Nat
  asks : Nat

/-- The most that a call can still do. The attempts left are those after the current one,
and a fix comes before each of them. -/
def Pc.budget (maxAttempts : Nat) : Pc → Budget
  | .get => ⟨2 * maxAttempts + 3, maxAttempts, max 1 maxAttempts⟩
  | .translate => ⟨2 * maxAttempts + 2, maxAttempts, max 1 maxAttempts⟩
  | .set _ => ⟨2 * maxAttempts + 1, maxAttempts, maxAttempts - 1⟩
  | .execSelect _ _ left => ⟨2 * left + 2, left + 1, left⟩
  | .fix _ _ _ left => ⟨2 * left + 3, left + 1, left + 1⟩
  | .finalSet _ _ => ⟨1, 0, 0⟩
  | .done _ => ⟨0, 0, 0⟩

/-- The step is an execution on Redshift. -/
def Step.executes : Step → Bool
  | .execSelect _ => true
  | _ => false

/-- The step is a request to the agent. -/
def Step.asks : Step → Bool
  | .translate _ => true
  | .fix _ => true
  | _ => false

/-- The step, if it is one of call `i`. -/
def Action.own (i : Nat) : Action K → Option Step
  | .call j st => if j = i then some st else none
  | _ => none

/-- The steps of call `i` in a schedule. -/
def ownSteps (i : Nat) (acts : List (Action K)) : List Step := acts.filterMap (Action.own i)

/-! ## What a step costs -/

/-- After the entry of the retry loop, all attempts are left. -/
theorem budget_enter (maxAttempts : Nat) (rsQuery : String) :
    (enter maxAttempts rsQuery).budget maxAttempts =
      ⟨2 * maxAttempts, maxAttempts, maxAttempts - 1⟩ := by
  cases maxAttempts with
  | zero => rfl
  | succ left => simp only [enter, Pc.budget, Nat.add_sub_cancel, Nat.mul_add, Nat.mul_one]

/-- A step takes its cost off the budget of its call. -/
theorem Moves.budget {query : String} {sh sh' : Shared K} {pc pc' : Pc} {st : Step}
    (moves : Moves key maxAttempts query sh pc st pc' sh') :
    (pc'.budget maxAttempts).steps + [st].length ≤ (pc.budget maxAttempts).steps ∧
    (pc'.budget maxAttempts).execs + [st].countP Step.executes ≤ (pc.budget maxAttempts).execs ∧
    (pc'.budget maxAttempts).asks + [st].countP Step.asks ≤ (pc.budget maxAttempts).asks := by
  simp only [List.countP_singleton, List.length_singleton]
  cases moves with
  | hit | set =>
    rw [budget_enter]
    simp only [Pc.budget, Step.executes, Step.asks, Bool.false_eq_true, if_false]
    omega
  | _ =>
    simp only [Pc.budget, Step.executes, Step.asks, if_true, Bool.false_eq_true, if_false]
    omega

/-- The budget of a call, whether or not it has arrived. -/
def Sys.budget (maxAttempts : Nat) (s : Sys K) (i : Nat) : Budget :=
  ((s.calls i).elim .get Call.pc).budget maxAttempts

omit [DecidableEq K] in
theorem budget_update {s : Sys K} {sh : Shared K} {i j : Nat} {c : Call} (other : i ≠ j) :
    Sys.budget maxAttempts { sh with calls := Function.update s.calls j (some c) } i =
      s.budget maxAttempts i := by
  simp only [Sys.budget, Function.update_of_ne other]

/-- Steps of other calls, arrivals and evictions cost a call nothing. -/
theorem step_budget {s t : Sys K} {a : Action K} (h : step key maxAttempts s a = some t) (i : Nat) :
    (t.budget maxAttempts i).steps + (a.own i).toList.length ≤ (s.budget maxAttempts i).steps ∧
    (t.budget maxAttempts i).execs + (a.own i).toList.countP Step.executes ≤
      (s.budget maxAttempts i).execs ∧
    (t.budget maxAttempts i).asks + (a.own i).toList.countP Step.asks ≤
      (s.budget maxAttempts i).asks := by
  rcases step_cases h with ⟨j, query, rfl, free, rfl⟩ | ⟨j, st, c, pc, sh, rfl, live, moved, rfl⟩ |
    ⟨k, rfl, rfl⟩
  · have same : Sys.budget maxAttempts
        { s with calls := Function.update s.calls j (some ⟨query, .get⟩) } i =
          s.budget maxAttempts i := by
      by_cases own : i = j
      · subst own
        simp only [Sys.budget, Function.update_self, free, Option.elim_some, Option.elim_none]
      · exact budget_update own
    rw [same]
    exact ⟨Nat.le_refl _, Nat.le_refl _, Nat.le_refl _⟩
  · by_cases own : j = i
    · subst own
      have spent := (stepCall_moves moved).budget
      have before : s.budget maxAttempts j = c.pc.budget maxAttempts := by
        simp only [Sys.budget, live, Option.elim_some]
      have after : Sys.budget maxAttempts
          { sh with calls := Function.update s.calls j (some { c with pc }) } j =
            pc.budget maxAttempts := by
        simp only [Sys.budget, Function.update_self, Option.elim_some]
      rw [before, after]
      simpa only [Action.own, if_true, Option.toList_some] using spent
    · rw [budget_update (Ne.symm own)]
      simp only [Action.own, if_neg own, Option.toList_none, List.length_nil, List.countP_nil]
      exact ⟨Nat.le_refl _, Nat.le_refl _, Nat.le_refl _⟩
  · exact ⟨Nat.le_refl _, Nat.le_refl _, Nat.le_refl _⟩

/-- What call `i` has done in a run, and what it can still do. -/
theorem run_budget {s t : Sys K} {acts : List (Action K)}
    (run : (machine key maxAttempts).run s acts = some t) (i : Nat) :
    (t.budget maxAttempts i).steps + (ownSteps i acts).length ≤ (s.budget maxAttempts i).steps ∧
    (t.budget maxAttempts i).execs + (ownSteps i acts).countP Step.executes ≤
      (s.budget maxAttempts i).execs ∧
    (t.budget maxAttempts i).asks + (ownSteps i acts).countP Step.asks ≤
      (s.budget maxAttempts i).asks := by
  have counted (p : Step → Bool) : (ownSteps i acts).countP p =
      Machine.spent (fun a => (a.own i).toList.countP p) acts := by
    clear run
    induction acts with
    | nil => rfl
    | cons a acts ih =>
      rw [Machine.spent, ← ih, ownSteps, List.filterMap_cons]
      cases a.own i with
      | none => exact (Nat.zero_add _).symm
      | some st =>
        rw [List.countP_cons, Option.toList_some, List.countP_singleton, Nat.add_comm]
        rfl
  have length : (ownSteps i acts).length =
      Machine.spent (fun a => (a.own i).toList.length) acts := by
    have all := counted fun _ => true
    simp only [List.countP_true] at all
    exact all
  rw [counted, counted, length]
  exact ⟨Machine.run_spends (fun u => (u.budget maxAttempts i).steps) _
      (fun _ _ _ h => (step_budget h i).1) run,
    Machine.run_spends (fun u => (u.budget maxAttempts i).execs) _
      (fun _ _ _ h => (step_budget h i).2.1) run,
    Machine.run_spends (fun u => (u.budget maxAttempts i).asks) _
      (fun _ _ _ h => (step_budget h i).2.2) run⟩

/-! ## Nobody waits for another call -/

/-- The step that a call takes next if the agent and Redshift answer as given. -/
def respond (agent : TranslateRequest → Except String TranslateResponse)
    (redshift : String → Except String Result) (query : String) : Pc → Option Step
  | .get => some .get
  | .translate => some (.translate (agent { sql := query }))
  | .set _ => some .set
  | .execSelect _ curSQL _ => some (.execSelect (redshift curSQL))
  | .fix _ curSQL prevErr _ =>
    some (.fix (agent { sql := query, prevError := prevErr, prevSQL := curSQL }))
  | .finalSet _ _ => some .finalSet
  | .done _ => none

section

variable {agent : TranslateRequest → Except String TranslateResponse}
  {redshift : String → Except String Result}

/-- The next step of call `i`, answered by the agent and by Redshift. -/
def Answers (agent : TranslateRequest → Except String TranslateResponse)
    (redshift : String → Except String Result) (i : Nat) (s : Sys K) (a : Action K) : Prop :=
  ∃ c st, s.calls i = some c ∧ respond agent redshift c.query c.pc = some st ∧ a = .call i st

/-- A call that has a next step can take it, whatever the answer. -/
theorem stepCall_respond (key : String → K) (maxAttempts : Nat) {query : String} {pc : Pc}
    {st : Step} (due : respond agent redshift query pc = some st) (sh : Shared K) :
    ∃ pc' sh', stepCall key maxAttempts query sh pc st = some (pc', sh') := by
  cases pc with
  | get =>
    cases due
    cases held : sh.cache (key query) with
    | none => exact ⟨_, _, by simp only [stepCall, held]; rfl⟩
    | some rsQuery => exact ⟨_, _, by simp only [stepCall, held]; rfl⟩
  | translate =>
    cases due
    cases answer : agent { sql := query } with
    | error err => exact ⟨_, _, rfl⟩
    | ok resp => exact ⟨_, _, rfl⟩
  | set rsQuery =>
    cases due
    exact ⟨_, _, rfl⟩
  | execSelect rsQuery curSQL left =>
    cases due
    cases outcome : redshift curSQL with
    | ok result => exact ⟨_, _, rfl⟩
    | error err =>
      cases left with
      | zero => exact ⟨_, _, rfl⟩
      | succ left => exact ⟨_, _, rfl⟩
  | fix rsQuery curSQL prevErr left =>
    cases due
    cases answer : agent { sql := query, prevError := prevErr, prevSQL := curSQL } with
    | error err => exact ⟨_, _, rfl⟩
    | ok fixResp => exact ⟨_, _, rfl⟩
  | finalSet rsQuery winningSQL =>
    cases due
    exact ⟨_, _, rfl⟩
  | done winningSQL => cases due

/-- Left alone, a call gets to its end within its budget, and moves no other call. -/
theorem finishes_alone (key : String → K) (maxAttempts : Nat)
    (agent : TranslateRequest → Except String TranslateResponse)
    (redshift : String → Except String Result) {s : Sys K} {i : Nat} {c : Call}
    (live : s.calls i = some c) :
    ∃ acts t won, (machine key maxAttempts).run s acts = some t ∧
      (machine key maxAttempts).Along (Answers agent redshift i) s acts ∧
      acts.length ≤ (c.pc.budget maxAttempts).steps ∧
      t.calls i = some ⟨c.query, .done won⟩ ∧ ∀ j, j ≠ i → t.calls j = s.calls j := by
  induction bound : (c.pc.budget maxAttempts).steps using Nat.strongRecOn
    generalizing s c with
  | ind n ih =>
    cases due : respond agent redshift c.query c.pc with
    | none =>
      obtain ⟨query, pc⟩ := c
      cases pc with
      | done won =>
        exact ⟨[], s, won, rfl, Machine.along_nil _ _, Nat.zero_le _, live, fun _ _ => rfl⟩
      | _ => cases due
    | some st =>
      obtain ⟨pc, sh, moved⟩ := stepCall_respond key maxAttempts due s.toShared
      have spent := (stepCall_moves moved).budget.1
      rw [List.length_singleton] at spent
      have taken : (machine key maxAttempts).step s (.call i st) =
          some { sh with calls := Function.update s.calls i (some { c with pc }) } := by
        simp only [machine, step, live, moved]
      obtain ⟨acts, t, won, run, along, length, ended, others⟩ :=
        ih (pc.budget maxAttempts).steps (by omega)
          (s := { sh with calls := Function.update s.calls i (some { c with pc }) })
          (c := { c with pc }) (Function.update_self ..) rfl
      refine ⟨.call i st :: acts, t, won, ?_,
        Machine.along_step taken ⟨c, st, live, due, rfl⟩ along, ?_, ended, fun j other => ?_⟩
      · rw [Machine.run_cons, taken]
        exact run
      · rw [List.length_cons]
        omega
      · rw [others j other]
        exact Function.update_of_ne other ..

end

/-- In any interleaving, a call takes at most `2 * maxAttempts + 3` steps, at most
`maxAttempts` of them on Redshift and `max 1 maxAttempts` to the agent; and from where it
is it gets to its end by its own steps, whatever it is answered. -/
theorem calls_bounded (key : String → K) (maxAttempts : Nat) (acts : List (Action K)) (s : Sys K)
    (reached : (machine key maxAttempts).run start acts = some s) (i : Nat) :
    (ownSteps i acts).length ≤ 2 * maxAttempts + 3 ∧
      (ownSteps i acts).countP Step.executes ≤ maxAttempts ∧
      (ownSteps i acts).countP Step.asks ≤ max 1 maxAttempts ∧
      ∀ c agent redshift, s.calls i = some c → ∃ more t won,
        (machine key maxAttempts).run s more = some t ∧
        (machine key maxAttempts).Along (Answers agent redshift i) s more ∧
        (ownSteps i acts).length + more.length ≤ 2 * maxAttempts + 3 ∧
        t.calls i = some ⟨c.query, .done won⟩ := by
  obtain ⟨steps, execs, asks⟩ := run_budget reached i
  have fresh : (start : Sys K).budget maxAttempts i = Pc.budget maxAttempts .get := rfl
  rw [fresh] at steps execs asks
  simp only [Pc.budget] at steps execs asks
  refine ⟨by omega, by omega, by omega, fun c agent redshift live => ?_⟩
  obtain ⟨more, t, won, run, along, length, ended, -⟩ :=
    finishes_alone key maxAttempts agent redshift live
  refine ⟨more, t, won, run, along, ?_, ended⟩
  have here : s.budget maxAttempts i = c.pc.budget maxAttempts := by
    simp only [Sys.budget, live, Option.elim_some]
  rw [here] at steps
  omega

/-- A call whose translation fails once while another one is still to be translated. -/
def oneFailure : List (Action String) :=
  [.arrive 0 "SELECT a", .arrive 1 "SELECT b", .call 0 .get, .call 1 .get,
    .call 0 (.translate (.ok { redshiftSQL := "SELECT wrong" })), .call 0 .set,
    .call 0 (.execSelect (.error "syntax error"))]

theorem calls_bounded_oneFailure :
    ∃ s, (machine id 3).run start oneFailure = some s ∧
      (ownSteps 0 oneFailure).length ≤ 9 ∧ (ownSteps 0 oneFailure).countP Step.executes ≤ 3 := by
  have run := (rfl : (machine id 3).run start oneFailure = some _)
  have bounded := calls_bounded id 3 oneFailure _ run 0
  exact ⟨_, run, bounded.1, bounded.2.1⟩

end MysqlRedshift.Proxy.Interleaving
