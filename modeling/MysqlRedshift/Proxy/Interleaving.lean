import Mathlib.Logic.Function.Basic
import MysqlRedshift.Misc.Machine
import MysqlRedshift.Proxy.ServerProps

/-!
# Concurrent calls

`HandleQuery` on the Redshift path, cut into the steps between which other calls may
run: the cache lookup, the translation, the first `Set`, each execution, each fix,
and the last `Set`. Calls are numbered by whoever starts them; the labels of the
machine say which call moves and what the agent or Redshift answers. The cache is
the map from keys to texts that clients of the library can see, and an entry may be
evicted at any time. The key is any function of the query. `SaveAsync` writes
nothing that a call reads, and is left out.
-/

namespace MysqlRedshift.Proxy

open MysqlRedshift.Misc

namespace Interleaving

/-- Where a call stands, with its local variables: `rsQuery`, `curSQL`, `winningSQL`,
and the attempts that are left after the current one. -/
inductive Pc where
  | get
  | translate
  | set (rsQuery : String)
  | execSelect (rsQuery curSQL : String) (left : Nat)
  | fix (rsQuery curSQL prevErr : String) (left : Nat)
  | finalSet (rsQuery winningSQL : String)
  | done (winningSQL : Option String)
  deriving DecidableEq, Repr

structure Call where
  query : String
  pc : Pc
  deriving DecidableEq, Repr

/-- The steps of a call, with the answers that it gets. -/
inductive Step where
  | get
  | translate (answer : Except String TranslateResponse)
  | set
  | execSelect (outcome : Except String Result)
  | fix (answer : Except String TranslateResponse)
  | finalSet

inductive Action (K : Type) where
  | arrive (i : Nat) (query : String)
  | call (i : Nat) (step : Step)
  | evict (k : K)

/-- What the calls share: the cache, and the trace of their exchanges, latest first. -/
structure Shared (K : Type) where
  cache : K → Option String
  trace : List Event

structure Sys (K : Type) extends Shared K where
  calls : Nat → Option Call

variable {K : Type} [DecidableEq K]

def Shared.store (sh : Shared K) (k : K) (text : String) : Shared K :=
  { sh with cache := Function.update sh.cache k (some text) }

def Shared.record (sh : Shared K) (event : Event) : Shared K :=
  { sh with trace := event :: sh.trace }

/-- The entry of the retry loop with a first text. -/
def enter (maxAttempts : Nat) (rsQuery : String) : Pc :=
  match maxAttempts with
  | 0 => .done none
  | left + 1 => .execSelect rsQuery rsQuery left

variable (key : String → K) (maxAttempts : Nat)

/-- One step of a call for `query`. -/
def stepCall (query : String) (sh : Shared K) : Pc → Step → Option (Pc × Shared K)
  | .get, .get =>
    match sh.cache (key query) with
    | some rsQuery => some (enter maxAttempts rsQuery, sh)
    | none => some (.translate, sh)
  | .translate, .translate answer =>
    let asked := sh.record (.translate { sql := query } answer)
    match answer with
    | .error _ => some (.done none, asked)
    | .ok resp => some (.set resp.redshiftSQL, asked)
  | .set rsQuery, .set => some (enter maxAttempts rsQuery, sh.store (key query) rsQuery)
  | .execSelect rsQuery curSQL left, .execSelect outcome =>
    let ran := sh.record (.execSelect query curSQL outcome)
    match outcome with
    | .ok _ =>
      some (if curSQL ≠ rsQuery then .finalSet rsQuery curSQL else .done (some curSQL), ran)
    | .error err =>
      match left with
      | 0 => some (.done none, ran)
      | left + 1 => some (.fix rsQuery curSQL err left, ran)
  | .fix rsQuery curSQL prevErr left, .fix answer =>
    let asked := sh.record
      (.translate { sql := query, prevError := prevErr, prevSQL := curSQL } answer)
    match answer with
    | .error _ => some (.done none, asked)
    | .ok fixResp => some (.execSelect rsQuery fixResp.redshiftSQL left, asked)
  | .finalSet _ winningSQL, .finalSet =>
    some (.done (some winningSQL), sh.store (key query) winningSQL)
  | _, _ => none

def step (s : Sys K) : Action K → Option (Sys K)
  | .arrive i query =>
    match s.calls i with
    | none => some { s with calls := Function.update s.calls i (some ⟨query, .get⟩) }
    | some _ => none
  | .call i st =>
    match s.calls i with
    | none => none
    | some c =>
      match stepCall key maxAttempts c.query s.toShared c.pc st with
      | none => none
      | some (pc, sh) => some { sh with calls := Function.update s.calls i (some { c with pc }) }
  | .evict k => some { s with cache := Function.update s.cache k none }

def machine : Machine (Sys K) (Action K) := ⟨step key maxAttempts⟩

/-- An empty cache and no calls. -/
def start : Sys K := { cache := fun _ => none, trace := [], calls := fun _ => none }

/-- The texts in the local variables of a call. -/
def Pc.texts : Pc → List String
  | .set rsQuery => [rsQuery]
  | .execSelect rsQuery curSQL _ => [rsQuery, curSQL]
  | .fix rsQuery curSQL _ _ => [rsQuery, curSQL]
  | .finalSet rsQuery winningSQL => [rsQuery, winningSQL]
  | _ => []

/-- The winning text of a call, once it has one. -/
def Pc.won : Pc → Option String
  | .finalSet _ winningSQL => some winningSQL
  | .done winningSQL => winningSQL
  | _ => none

/-! ## What a step can do -/

theorem texts_enter {rsQuery text : String} (h : text ∈ (enter maxAttempts rsQuery).texts) :
    text = rsQuery := by
  cases maxAttempts with
  | zero => cases h
  | succ left => simpa [enter, Pc.texts] using h

theorem won_enter (rsQuery : String) : (enter maxAttempts rsQuery).won = none := by
  cases maxAttempts <;> rfl

variable {key maxAttempts}

/-- A step of the system is an arrival, an eviction or a step of one call. -/
theorem step_cases {s t : Sys K} {a : Action K} (h : step key maxAttempts s a = some t) :
    (∃ i query, a = .arrive i query ∧ s.calls i = none ∧
      t = { s with calls := Function.update s.calls i (some ⟨query, .get⟩) }) ∨
    (∃ i st c pc sh, a = .call i st ∧ s.calls i = some c ∧
      stepCall key maxAttempts c.query s.toShared c.pc st = some (pc, sh) ∧
      t = { sh with calls := Function.update s.calls i (some { c with pc }) }) ∨
    (∃ k, a = .evict k ∧ t = { s with cache := Function.update s.cache k none }) := by
  cases a with
  | arrive i query =>
    cases free : s.calls i with
    | some c => simp [step, free] at h
    | none => exact Or.inl ⟨i, query, rfl, free, by simpa [step, free] using h.symm⟩
  | call i st =>
    cases live : s.calls i with
    | none => simp [step, live] at h
    | some c =>
      cases moved : stepCall key maxAttempts c.query s.toShared c.pc st with
      | none => simp [step, live, moved] at h
      | some next =>
        exact Or.inr (Or.inl ⟨i, st, c, next.1, next.2, rfl, live, moved,
          by simpa [step, live, moved] using h.symm⟩)
  | evict k => exact Or.inr (Or.inr ⟨k, rfl, (Option.some.inj h).symm⟩)

/-- The one kind of step that a call takes from each place, and what it does there. -/
inductive Moves (key : String → K) (maxAttempts : Nat) (query : String) (sh : Shared K) :
    Pc → Step → Pc → Shared K → Prop where
  | hit {rsQuery} (held : sh.cache (key query) = some rsQuery) :
      Moves key maxAttempts query sh .get .get (enter maxAttempts rsQuery) sh
  | miss (held : sh.cache (key query) = none) :
      Moves key maxAttempts query sh .get .get .translate sh
  | refused (err : String) :
      Moves key maxAttempts query sh .translate (.translate (.error err)) (.done none)
        (sh.record (.translate { sql := query } (.error err)))
  | translated (resp : TranslateResponse) :
      Moves key maxAttempts query sh .translate (.translate (.ok resp)) (.set resp.redshiftSQL)
        (sh.record (.translate { sql := query } (.ok resp)))
  | set (rsQuery : String) :
      Moves key maxAttempts query sh (.set rsQuery) .set (enter maxAttempts rsQuery)
        (sh.store (key query) rsQuery)
  | wonFirst (rsQuery : String) (left : Nat) (result : Result) :
      Moves key maxAttempts query sh (.execSelect rsQuery rsQuery left)
        (.execSelect (.ok result)) (.done (some rsQuery))
        (sh.record (.execSelect query rsQuery (.ok result)))
  | wonFixed {rsQuery curSQL : String} (differs : curSQL ≠ rsQuery) (left : Nat)
      (result : Result) :
      Moves key maxAttempts query sh (.execSelect rsQuery curSQL left)
        (.execSelect (.ok result)) (.finalSet rsQuery curSQL)
        (sh.record (.execSelect query curSQL (.ok result)))
  | gaveUp (rsQuery curSQL err : String) :
      Moves key maxAttempts query sh (.execSelect rsQuery curSQL 0)
        (.execSelect (.error err)) (.done none)
        (sh.record (.execSelect query curSQL (.error err)))
  | failed (rsQuery curSQL err : String) (left : Nat) :
      Moves key maxAttempts query sh (.execSelect rsQuery curSQL (left + 1))
        (.execSelect (.error err)) (.fix rsQuery curSQL err left)
        (sh.record (.execSelect query curSQL (.error err)))
  | unfixed (rsQuery curSQL prevErr : String) (left : Nat) (err : String) :
      Moves key maxAttempts query sh (.fix rsQuery curSQL prevErr left) (.fix (.error err))
        (.done none)
        (sh.record (.translate ⟨query, prevErr, curSQL⟩ (.error err)))
  | fixed (rsQuery curSQL prevErr : String) (left : Nat) (fixResp : TranslateResponse) :
      Moves key maxAttempts query sh (.fix rsQuery curSQL prevErr left) (.fix (.ok fixResp))
        (.execSelect rsQuery fixResp.redshiftSQL left)
        (sh.record (.translate ⟨query, prevErr, curSQL⟩ (.ok fixResp)))
  | finalSet (rsQuery winningSQL : String) :
      Moves key maxAttempts query sh (.finalSet rsQuery winningSQL) .finalSet
        (.done (some winningSQL)) (sh.store (key query) winningSQL)

theorem stepCall_moves {query : String} {sh sh' : Shared K} {pc pc' : Pc} {st : Step}
    (h : stepCall key maxAttempts query sh pc st = some (pc', sh')) :
    Moves key maxAttempts query sh pc st pc' sh' := by
  cases pc <;> cases st <;> simp only [stepCall, reduceCtorEq] at h
  case get.get =>
    cases held : sh.cache (key query) with
    | some rsQuery => simp only [held, Option.some.injEq, Prod.mk.injEq] at h
                      obtain ⟨rfl, rfl⟩ := h
                      exact .hit held
    | none => simp only [held, Option.some.injEq, Prod.mk.injEq] at h
              obtain ⟨rfl, rfl⟩ := h
              exact .miss held
  case translate.translate answer =>
    cases answer <;> simp only [Option.some.injEq, Prod.mk.injEq] at h <;> obtain ⟨rfl, rfl⟩ := h
    · exact .refused _
    · exact .translated _
  case set.set rsQuery =>
    simp only [Option.some.injEq, Prod.mk.injEq] at h
    obtain ⟨rfl, rfl⟩ := h
    exact .set rsQuery
  case execSelect.execSelect rsQuery curSQL left outcome =>
    cases outcome with
    | ok result =>
      by_cases differs : curSQL = rsQuery
      · subst differs
        simp only [ne_eq, not_true_eq_false, if_false, Option.some.injEq, Prod.mk.injEq] at h
        obtain ⟨rfl, rfl⟩ := h
        exact .wonFirst ..
      · simp only [ne_eq, differs, not_false_eq_true, if_true, Option.some.injEq,
          Prod.mk.injEq] at h
        obtain ⟨rfl, rfl⟩ := h
        exact .wonFixed differs ..
    | error err =>
      cases left <;> simp only [Option.some.injEq, Prod.mk.injEq] at h <;> obtain ⟨rfl, rfl⟩ := h
      · exact .gaveUp ..
      · exact .failed ..
  case fix.fix rsQuery curSQL prevErr left answer =>
    cases answer <;> simp only [Option.some.injEq, Prod.mk.injEq] at h <;> obtain ⟨rfl, rfl⟩ := h
    · exact .unfixed ..
    · exact .fixed ..
  case finalSet.finalSet rsQuery winningSQL =>
    simp only [Option.some.injEq, Prod.mk.injEq] at h
    obtain ⟨rfl, rfl⟩ := h
    exact .finalSet ..

section

variable {query : String} {sh sh' : Shared K} {pc pc' : Pc} {st : Step}

theorem Moves.grows (moves : Moves key maxAttempts query sh pc st pc' sh') :
    Extends sh'.trace sh.trace := by
  cases moves <;> first | exact .refl _ | exact .cons ..

/-- A step writes the cache at the call's own key, with a text that the call holds, or
leaves it alone. -/
theorem Moves.cache (moves : Moves key maxAttempts query sh pc st pc' sh') :
    sh'.cache = sh.cache ∨
      ∃ text, (pc = .set text ∧ st = .set ∨ (∃ rsQuery, pc = .finalSet rsQuery text)) ∧
        sh'.cache = Function.update sh.cache (key query) (some text) := by
  cases moves with
  | set rsQuery => exact Or.inr ⟨rsQuery, Or.inl ⟨rfl, rfl⟩, rfl⟩
  | finalSet rsQuery winningSQL => exact Or.inr ⟨winningSQL, Or.inr ⟨rsQuery, rfl⟩, rfl⟩
  | _ => exact Or.inl rfl

/-- The texts of a call are those it had, the cached one, and those that the agent
returned for its query. -/
theorem Moves.texts (moves : Moves key maxAttempts query sh pc st pc' sh') {text : String}
    (h : text ∈ pc'.texts) :
    text ∈ pc.texts ∨ sh.cache (key query) = some text ∨ ReturnedFor sh'.trace query text := by
  cases moves with
  | hit held => exact Or.inr (Or.inl (texts_enter _ h ▸ held))
  | translated resp =>
    rw [Pc.texts, List.mem_singleton] at h
    exact Or.inr (Or.inr (h ▸ returnedFor_of_answer _ resp sh.trace))
  | set rsQuery => exact Or.inl (by simp [texts_enter _ h, Pc.texts])
  | fixed rsQuery curSQL prevErr left fixResp =>
    simp only [Pc.texts, List.mem_cons, List.not_mem_nil, or_false] at h
    rcases h with rfl | rfl
    · exact Or.inl List.mem_cons_self
    · exact Or.inr (Or.inr (returnedFor_of_answer ⟨query, prevErr, curSQL⟩ fixResp sh.trace))
  | wonFixed | failed => exact Or.inl h
  | _ => simp [Pc.texts] at h

/-- What a step runs on Redshift, it runs for its query, and the call holds it. -/
theorem Moves.executed (moves : Moves key maxAttempts query sh pc st pc' sh') {query' text : String}
    {outcome : Except String Result} (h : .execSelect query' text outcome ∈ sh'.trace) :
    .execSelect query' text outcome ∈ sh.trace ∨ query' = query ∧ text ∈ pc.texts := by
  cases moves with
  | hit | miss | set | finalSet => exact Or.inl h
  | refused | translated | unfixed | fixed =>
    exact Or.inl (List.mem_of_ne_of_mem (by simp) h)
  | wonFirst | wonFixed | gaveUp | failed =>
    rcases List.mem_cons.mp h with new | old
    · cases new
      exact Or.inr ⟨rfl, by simp [Pc.texts]⟩
    · exact Or.inl old

end

end Interleaving

end MysqlRedshift.Proxy
