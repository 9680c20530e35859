import Mathlib.Data.List.Induction
import MysqlRedshift.Proxy.Interleaving

/-!
# What holds under any interleaving

No text crosses to another key. A verified entry is overwritten by an untried text
only by the first `Set` of a call that missed before the entry was made: the last
`Set` of a call always stores a text that Redshift accepted.
-/

namespace MysqlRedshift.Proxy.Interleaving

open MysqlRedshift.Misc

variable {K : Type} [DecidableEq K] {key : String → K} {maxAttempts : Nat}

/-! ## Keys -/

/-- The agent returned the text for a query of that key. -/
def ReturnedAt (key : String → K) (trace : List Event) (k : K) (text : String) : Prop :=
  ∃ query, key query = k ∧ ReturnedFor trace query text

omit [DecidableEq K] in
theorem ReturnedAt.mono {late early : List Event} {k : K} {text : String}
    (h : ReturnedAt key early k text) (grows : Extends late early) :
    ReturnedAt key late k text := by
  obtain ⟨query, keyed, returned⟩ := h
  exact ⟨query, keyed, returned.mono grows⟩

/-- Every text is at a key that it was returned for: in the cache, in the local variables
of the calls, and in what was executed. -/
structure Keyed (key : String → K) (s : Sys K) : Prop where
  cache : ∀ k text, s.cache k = some text → ReturnedAt key s.trace k text
  calls : ∀ i c, s.calls i = some c → ∀ text ∈ c.pc.texts,
    ReturnedAt key s.trace (key c.query) text
  executed : ∀ query text outcome, .execSelect query text outcome ∈ s.trace →
    ReturnedAt key s.trace (key query) text

omit [DecidableEq K] in
theorem keyed_start : Keyed key start where
  cache k text held := by cases held
  calls i c live := by cases live
  executed query text outcome ran := by cases ran

theorem Keyed.step {s t : Sys K} {a : Action K} (keyed : Keyed key s)
    (h : step key maxAttempts s a = some t) : Keyed key t := by
  rcases step_cases h with ⟨i, query, -, -, rfl⟩ | ⟨i, st, c, pc, sh, -, live, moved, rfl⟩ |
    ⟨k, -, rfl⟩
  · refine ⟨keyed.cache, ?_, keyed.executed⟩
    intro j c live text held
    rcases update_some_cases live with ⟨-, rfl⟩ | ⟨-, live⟩
    · cases held
    · exact keyed.calls j c live text held
  · have moves := stepCall_moves moved
    have grows := moves.grows
    have own := keyed.calls i c live
    refine ⟨?_, ?_, ?_⟩
    · intro k text held
      rcases moves.cache with alone | ⟨stored, from_call, written⟩
      · exact (keyed.cache k text (alone ▸ held)).mono grows
      · have holds : stored ∈ c.pc.texts := by
          rcases from_call with ⟨at_set, -⟩ | ⟨rsQuery, at_final⟩
          · simp [at_set, Pc.texts]
          · simp [at_final, Pc.texts]
        rcases update_some_cases (written ▸ held) with ⟨rfl, rfl⟩ | ⟨-, held⟩
        · exact (own text holds).mono grows
        · exact (keyed.cache k text held).mono grows
    · intro j c' live' text held
      rcases update_some_cases live' with ⟨-, rfl⟩ | ⟨-, live'⟩
      · rcases moves.texts held with before | cached | returned
        · exact (own text before).mono grows
        · exact (keyed.cache _ text cached).mono grows
        · exact ⟨c.query, rfl, returned⟩
      · exact (keyed.calls j c' live' text held).mono grows
    · intro query text outcome ran
      rcases moves.executed ran with before | ⟨rfl, held⟩
      · exact (keyed.executed query text outcome before).mono grows
      · exact (own text held).mono grows
  · refine ⟨?_, keyed.calls, keyed.executed⟩
    intro k' text held
    simp only [Function.update_apply] at held
    split at held
    · cases held
    · exact keyed.cache k' text held

/-- In every reachable state, what is cached at a key and what was executed for a query
of that key was returned by the agent for a query of that key. -/
theorem noKeyCrossed (key : String → K) (maxAttempts : Nat) (acts : List (Action K)) (s : Sys K)
    (reached : (machine key maxAttempts).run start acts = some s) :
    (∀ k text, s.cache k = some text →
      ∃ query, key query = k ∧ ReturnedFor s.trace query text) ∧
    (∀ query text outcome, .execSelect query text outcome ∈ s.trace →
      ∃ query', key query' = key query ∧ ReturnedFor s.trace query' text) := by
  have keyed : Keyed key s :=
    Machine.run_induction (fun _ _ _ keyed h => keyed.step h) keyed_start reached
  exact ⟨keyed.cache, keyed.executed⟩

/-- A call that misses, and one that hits what the first has stored and runs it. -/
def missThenHit : List (Action String) :=
  [.arrive 0 "SELECT a", .call 0 .get, .call 0 (.translate (.ok { redshiftSQL := "SELECT b" })),
    .call 0 .set, .arrive 1 "SELECT a", .call 1 .get, .call 1 (.execSelect (.ok ⟨["b"], []⟩))]

theorem noKeyCrossed_missThenHit :
    ∃ s, (machine id 3).run start missThenHit = some s ∧
      (∀ k text, s.cache k = some text → ∃ query, id query = k ∧ ReturnedFor s.trace query text) ∧
      (∀ query text outcome, .execSelect query text outcome ∈ s.trace →
        ∃ query', id query' = id query ∧ ReturnedFor s.trace query' text) :=
  ⟨_, rfl, noKeyCrossed id 3 missThenHit _ rfl⟩

/-! ## Verified entries -/

/-- Redshift executed the text successfully, for whatever query. -/
def Succeeded (trace : List Event) (text : String) : Prop :=
  ∃ query result, .execSelect query text (.ok result) ∈ trace

theorem Succeeded.mono {late early : List Event} {text : String} (h : Succeeded early text)
    (grows : Extends late early) : Succeeded late text := by
  obtain ⟨query, result, ran⟩ := h
  obtain ⟨events, rfl⟩ := grows
  exact ⟨query, result, List.mem_append_right events ran⟩

/-- The entry at a key is a text that Redshift executed successfully. -/
def Verified (s : Sys K) (k : K) : Prop :=
  ∃ text, s.cache k = some text ∧ Succeeded s.trace text

/-- The entry at a key is the winning text of a call that is done. -/
def Settled (key : String → K) (s : Sys K) (k : K) : Prop :=
  ∃ i query text, s.calls i = some ⟨query, .done (some text)⟩ ∧ key query = k ∧
    s.cache k = some text

/-- A run in which the key was settled at some point, and not evicted after it. -/
def SinceSettled (key : String → K) (maxAttempts : Nat) (acts : List (Action K)) (k : K) : Prop :=
  ∃ before since s, acts = before ++ since ∧ (machine key maxAttempts).run start before = some s ∧
    Settled key s k ∧ .evict k ∉ since

/-- Once a call has its winning text in the cache, the entry is verified until it is
evicted. -/
def NeverDowngraded (key : String → K) (maxAttempts : Nat) (acts : List (Action K)) : Prop :=
  ∀ before after s k, acts = before ++ after →
    (machine key maxAttempts).run start before = some s →
    SinceSettled key maxAttempts before k → Verified s k

/-- No first `Set` stores an untried text at a key that is settled and not evicted since. -/
def SetsInTime (key : String → K) (maxAttempts : Nat) (acts : List (Action K)) : Prop :=
  ∀ before i after s query text, acts = before ++ .call i .set :: after →
    (machine key maxAttempts).run start before = some s →
    s.calls i = some ⟨query, .set text⟩ → SinceSettled key maxAttempts before (key query) →
    Succeeded s.trace text

/-- Winning texts have succeeded. -/
def WinsSucceed (s : Sys K) : Prop :=
  ∀ i c text, s.calls i = some c → c.pc.won = some text → Succeeded s.trace text

theorem Moves.won {query : String} {sh sh' : Shared K} {pc pc' : Pc} {st : Step}
    (moves : Moves key maxAttempts query sh pc st pc' sh') {text : String}
    (h : pc'.won = some text) : pc.won = some text ∨ Succeeded sh'.trace text := by
  cases moves with
  | hit | set => simp [won_enter] at h
  | wonFirst rsQuery left result =>
    cases h
    exact Or.inr ⟨query, result, List.mem_cons_self⟩
  | wonFixed differs left result =>
    cases h
    exact Or.inr ⟨query, result, List.mem_cons_self⟩
  | finalSet => exact Or.inl h
  | _ => cases h

theorem WinsSucceed.step {s t : Sys K} {a : Action K} (wins : WinsSucceed s)
    (h : step key maxAttempts s a = some t) : WinsSucceed t := by
  intro j c' text live' won
  rcases step_cases h with ⟨i, query, -, -, rfl⟩ | ⟨i, st, c, pc, sh, -, live, moved, rfl⟩ |
    ⟨k, -, rfl⟩
  · rcases update_some_cases live' with ⟨-, rfl⟩ | ⟨-, live'⟩
    · cases won
    · exact wins j c' text live' won
  · have moves := stepCall_moves moved
    rcases update_some_cases live' with ⟨-, rfl⟩ | ⟨-, live'⟩
    · rcases moves.won won with before | now
      · exact (wins i c text live before).mono moves.grows
      · exact now
    · exact (wins j c' text live' won).mono moves.grows
  · exact wins j c' text live' won

theorem winsSucceed_run {acts : List (Action K)} {s : Sys K}
    (reached : (machine key maxAttempts).run start acts = some s) : WinsSucceed s :=
  Machine.run_induction (fun _ _ _ wins h => wins.step h) (fun _ _ _ live => by cases live) reached

omit [DecidableEq K] in
theorem Settled.verified {s : Sys K} {k : K} (settled : Settled key s k)
    (wins : WinsSucceed s) : Verified s k := by
  obtain ⟨i, query, text, live, -, held⟩ := settled
  exact ⟨text, held, wins i _ text live rfl⟩

/-- A step other than its eviction keeps an entry verified, unless it is the first `Set`
of an untried text. -/
theorem Verified.step {s t : Sys K} {a : Action K} {k : K} (verified : Verified s k)
    (wins : WinsSucceed s) (h : step key maxAttempts s a = some t) (kept : a ≠ .evict k)
    (tried : ∀ i query text, a = .call i .set → s.calls i = some ⟨query, .set text⟩ →
      key query = k → Succeeded s.trace text) : Verified t k := by
  obtain ⟨text, held, succeeded⟩ := verified
  rcases step_cases h with ⟨i, query, -, -, rfl⟩ | ⟨i, st, c, pc, sh, rfl, live, moved, rfl⟩ |
    ⟨k', rfl, rfl⟩
  · exact ⟨text, held, succeeded⟩
  · have moves := stepCall_moves moved
    rcases moves.cache with alone | ⟨stored, from_call, written⟩
    · exact ⟨text, by rw [← held, ← alone], succeeded.mono moves.grows⟩
    · by_cases own : k = key c.query
      · refine ⟨stored, by simp [written, own], ?_⟩
        rcases from_call with ⟨at_set, rfl⟩ | ⟨rsQuery, at_final⟩
        · refine (tried i c.query stored rfl ?_ own.symm).mono moves.grows
          rw [live, ← at_set]
        · exact (wins i c stored live (by rw [at_final]; rfl)).mono moves.grows
      · exact ⟨text, by simp [written, Function.update_of_ne own, held],
          succeeded.mono moves.grows⟩
  · have other : k ≠ k' := fun same => kept (same ▸ rfl)
    exact ⟨text, by simp [Function.update_of_ne other, held], succeeded⟩

/-- A first `Set` that is due can be taken, and stores its text. -/
theorem step_set {s : Sys K} {i : Nat} {query text : String}
    (due : s.calls i = some ⟨query, .set text⟩) :
    ∃ t, step key maxAttempts s (.call i .set) = some t ∧ t.cache (key query) = some text ∧
      t.trace = s.trace := by
  simp only [step, due, stepCall, Option.some.injEq, exists_eq_left', Shared.store,
    Function.update_self, and_self]

/-- In every run, entries in place are never downgraded exactly when no first `Set` of an
untried text comes after a winning one. -/
theorem neverDowngraded_iff (key : String → K) (maxAttempts : Nat) (acts : List (Action K)) :
    NeverDowngraded key maxAttempts acts ↔ SetsInTime key maxAttempts acts := by
  constructor
  · rintro kept before i after s query text rfl reached due
      ⟨settling, since, s₀, rfl, reached₀, settled, alive⟩
    obtain ⟨t, stepped, held, same⟩ := step_set due
    have moved : (machine key maxAttempts).run start (settling ++ since ++ [.call i .set]) =
        some t :=
      Machine.run_concat_iff.mpr ⟨s, reached, stepped⟩
    have still : SinceSettled key maxAttempts (settling ++ since ++ [.call i .set]) (key query) :=
      ⟨settling, since ++ [.call i .set], s₀, by simp, reached₀, settled, by simpa using alive⟩
    obtain ⟨text', held', succeeded⟩ := kept _ after t (key query) (by simp) moved still
    rw [held, Option.some.injEq] at held'
    rw [held', ← same]
    exact succeeded
  · rintro inTime before after s k rfl reached ⟨settling, since, s₀, rfl, reached₀, settled, alive⟩
    -- from the settled state on, step by step
    induction since using List.reverseRecOn generalizing s after with
    | nil =>
      rw [List.append_nil, reached₀, Option.some.injEq] at reached
      exact reached ▸ settled.verified (winsSucceed_run reached₀)
    | append_singleton since a ih =>
      rw [← List.append_assoc] at reached
      obtain ⟨u, reached', stepped⟩ := Machine.run_concat_iff.mp reached
      have alive' : Action.evict k ∉ since := fun gone => alive (List.mem_append_left _ gone)
      have verified := ih (a :: after) u (by simpa using inTime) reached' alive'
      refine verified.step (winsSucceed_run reached') stepped
        (fun same => alive (by simp [same])) ?_
      rintro i query text rfl due rfl
      exact inTime (settling ++ since) i after u query text (by simp) reached' due
        ⟨settling, since, s₀, rfl, reached₀, settled, alive'⟩

/-- Two calls miss on one query. The second one's translation fails and is fixed, and the
fixed text goes into the cache. -/
def overtaking : List (Action String) :=
  [.arrive 0 "SELECT a", .arrive 1 "SELECT a", .call 0 .get, .call 1 .get,
    .call 0 (.translate (.ok { redshiftSQL := "SELECT untried" })),
    .call 1 (.translate (.ok { redshiftSQL := "SELECT wrong" })), .call 1 .set,
    .call 1 (.execSelect (.error "syntax error")),
    .call 1 (.fix (.ok { redshiftSQL := "SELECT fixed" })),
    .call 1 (.execSelect (.ok ⟨["a"], []⟩)), .call 1 .finalSet]

/-- Then the first one stores its own translation, which was never run. -/
theorem not_neverDowngraded_overtaking :
    ¬ NeverDowngraded id 3 (overtaking ++ [.call 0 .set]) := by
  intro kept
  have settled : SinceSettled id 3 (overtaking ++ [.call 0 .set]) "SELECT a" :=
    ⟨overtaking, [.call 0 .set], _, rfl, rfl, ⟨1, _, _, rfl, rfl, rfl⟩, by simp⟩
  obtain ⟨text, held, query, result, ran⟩ := kept _ [] _ "SELECT a" (by simp) rfl settled
  have untried : text = "SELECT untried" := (Option.some.inj held).symm
  subst untried
  revert ran
  simp [Shared.record, Shared.store, start]

end MysqlRedshift.Proxy.Interleaving
