import MysqlRedshift.Proxy.Progress
import MysqlRedshift.Proxy.Sequential
import MysqlRedshift.Proxy.Transparency

/-!
# Transparency of concurrent calls

With a fixed agent and a fixed Redshift, how a call ends is decided by its query: with the
result of the text that the retry loop wins with from the translation on, or with the error
of the last attempt. Any interleaving of calls keeps this, with texts that are cached before
they are tried, overwritten by late calls and evicted at any time, since a first text that
stands in the cache leads the loop to the same end. Only the entry of another query could
lead it elsewhere.
-/

namespace MysqlRedshift.Proxy.Interleaving

open MysqlRedshift.Misc

variable {K : Type} [DecidableEq K] {key : String → K} (attempts : Int)
  (agent : TranslateRequest → Except String TranslateResponse)
  (redshift : String → Except String Result)

/-! ## What a query is decided by -/

/-- How the loop ends from a text on, with the attempts left after its own: with a result and
the text that won it. -/
def loopEnds (query : String) :
    (left : Nat) → (curSQL : String) → Except HandleError (Result × String)
  | 0, curSQL =>
    match redshift curSQL with
    | .ok result => .ok (result, curSQL)
    | .error err => .error (.redshiftExec attempts (some err))
  | left + 1, curSQL =>
    match redshift curSQL with
    | .ok result => .ok (result, curSQL)
    | .error err =>
      match agent { sql := query, prevError := err, prevSQL := curSQL } with
      | .error _ => .error (.redshiftExec attempts (some err))
      | .ok fixResp => loopEnds query left fixResp.redshiftSQL

/-- How a call ends with a first text. -/
def firstEnds (query rsQuery : String) : Except HandleError (Result × String) :=
  match attempts.toNat with
  | 0 => .error (.redshiftExec attempts none)
  | left + 1 => loopEnds attempts agent redshift query left rsQuery

/-- How a call ends that nothing else has run before. -/
def aloneEnds (query : String) : Except HandleError (Result × String) :=
  match agent { sql := query } with
  | .error err => .error (.translateFailed err)
  | .ok resp => firstEnds attempts agent redshift query resp.redshiftSQL

variable {attempts agent redshift}

theorem loopEnds_of_ok {query curSQL : String} {result : Result}
    (ran : redshift curSQL = .ok result) (left : Nat) :
    loopEnds attempts agent redshift query left curSQL = .ok (result, curSQL) := by
  cases left <;> simp only [loopEnds, ran]

/-- A winning text runs, with the result that it wins. -/
theorem loopEnds_ok {query curSQL won : String} {result : Result} {left : Nat}
    (ends : loopEnds attempts agent redshift query left curSQL = .ok (result, won)) :
    redshift won = .ok result := by
  induction left generalizing curSQL with
  | zero =>
    rw [loopEnds] at ends
    split at ends
    · next ran =>
      cases ends
      exact ran
    · cases ends
  | succ left ih =>
    rw [loopEnds] at ends
    split at ends
    · next ran =>
      cases ends
      exact ran
    · split at ends
      · cases ends
      · exact ih ends

/-- A winning text runs, and wins again as a first text. -/
theorem firstEnds_ok {query rsQuery won : String} {result : Result}
    (ends : firstEnds attempts agent redshift query rsQuery = .ok (result, won)) :
    redshift won = .ok result ∧
      firstEnds attempts agent redshift query won = .ok (result, won) := by
  unfold firstEnds at ends ⊢
  cases count : attempts.toNat with
  | zero => simp [count] at ends
  | succ left =>
    simp only [count] at ends ⊢
    have ran := loopEnds_ok ends
    exact ⟨ran, loopEnds_of_ok ran left⟩

theorem aloneEnds_ok {query won : String} {result : Result}
    (ends : aloneEnds attempts agent redshift query = .ok (result, won)) :
    redshift won = .ok result ∧
      firstEnds attempts agent redshift query won = .ok (result, won) := by
  rw [aloneEnds] at ends
  split at ends
  · cases ends
  · exact firstEnds_ok ends

/-! ## The invariant -/

variable (attempts agent redshift) in
/-- A first text that ends where the query ends alone. -/
def Leads (query text : String) : Prop :=
  firstEnds attempts agent redshift query text = aloneEnds attempts agent redshift query

variable (attempts agent redshift) in
/-- A call that is on its way to the end of its query. -/
def Pc.OnTrack (query : String) : Pc → Prop
  | .get => True
  | .translate => True
  | .set rsQuery => Leads attempts agent redshift query rsQuery
  | .execSelect _ curSQL left =>
    loopEnds attempts agent redshift query left curSQL = aloneEnds attempts agent redshift query
  | .fix _ curSQL prevErr left =>
    redshift curSQL = .error prevErr ∧
      loopEnds attempts agent redshift query (left + 1) curSQL =
        aloneEnds attempts agent redshift query
  | .finalSet _ winningSQL =>
    ∃ result, aloneEnds attempts agent redshift query = .ok (result, winningSQL)
  | .done winningSQL =>
    winningSQL = (aloneEnds attempts agent redshift query).toOption.map Prod.snd

theorem onTrack_enter {query rsQuery : String}
    (leads : Leads attempts agent redshift query rsQuery) :
    (enter attempts.toNat rsQuery).OnTrack attempts agent redshift query := by
  unfold Leads firstEnds at leads
  unfold enter
  cases count : attempts.toNat with
  | zero =>
    simp only [count] at leads
    rw [Pc.OnTrack, ← leads]
    rfl
  | succ left =>
    simp only [count] at leads
    exact leads

/-- Steps that are answered by the agent and by Redshift keep a call on track, if the entry that
it finds does. -/
theorem Moves.onTrack {query : String} {sh sh' : Shared K} {pc pc' : Pc} {st : Step}
    (moves : Moves key attempts.toNat query sh pc st pc' sh')
    (answered : respond agent redshift query pc = some st)
    (cached : ∀ text, sh.cache (key query) = some text →
      Leads attempts agent redshift query text)
    (track : pc.OnTrack attempts agent redshift query) :
    pc'.OnTrack attempts agent redshift query := by
  generalize count : attempts.toNat = maxAttempts at moves
  cases moves with
  | hit held => exact count ▸ onTrack_enter (cached _ held)
  | miss => exact trivial
  | refused err =>
    have refused : agent { sql := query } = .error err :=
      Step.translate.inj (Option.some.inj answered)
    rw [Pc.OnTrack, aloneEnds, refused]
    rfl
  | translated resp =>
    have told : agent { sql := query } = .ok resp := Step.translate.inj (Option.some.inj answered)
    simp only [Pc.OnTrack, Leads, aloneEnds, told]
  | set rsQuery => exact count ▸ onTrack_enter track
  | wonFirst rsQuery left result =>
    have ran : redshift rsQuery = .ok result := Step.execSelect.inj (Option.some.inj answered)
    rw [Pc.OnTrack, ← track, loopEnds_of_ok ran left]
    rfl
  | @wonFixed rsQuery curSQL differs left result =>
    have ran : redshift curSQL = .ok result := Step.execSelect.inj (Option.some.inj answered)
    exact ⟨result, track.symm.trans (loopEnds_of_ok ran left)⟩
  | gaveUp rsQuery curSQL err =>
    have ran : redshift curSQL = .error err := Step.execSelect.inj (Option.some.inj answered)
    simp only [Pc.OnTrack, loopEnds, ran] at track ⊢
    rw [← track]
    rfl
  | failed rsQuery curSQL err left =>
    exact ⟨Step.execSelect.inj (Option.some.inj answered), track⟩
  | unfixed rsQuery curSQL prevErr left err =>
    have refused := Step.fix.inj (Option.some.inj answered)
    obtain ⟨ran, track⟩ := track
    simp only [loopEnds, ran, refused] at track
    rw [Pc.OnTrack, ← track]
    rfl
  | fixed rsQuery curSQL prevErr left fixResp =>
    have told := Step.fix.inj (Option.some.inj answered)
    obtain ⟨ran, track⟩ := track
    simp only [loopEnds, ran, told] at track
    exact track
  | finalSet =>
    obtain ⟨result, track⟩ := track
    rw [Pc.OnTrack, track]
    rfl

/-- Calls for one key are calls for one query. -/
def Distinct (key : String → K) (s : Sys K) : Prop :=
  ∀ i j c c', s.calls i = some c → s.calls j = some c' → key c.query = key c'.query →
    c.query = c'.query

variable (agent redshift) in
/-- What a call gets is what the agent and Redshift answer. -/
def Answered (s : Sys K) : Action K → Prop
  | .call i st => ∃ c, s.calls i = some c ∧ respond agent redshift c.query c.pc = some st
  | _ => True

variable (key attempts agent redshift) in
/-- Every entry leads a query of its key where that query goes alone, and every call is on its
way there. -/
structure Steady (s : Sys K) : Prop where
  cached : ∀ k text, s.cache k = some text →
    ∃ i c, s.calls i = some c ∧ key c.query = k ∧ Leads attempts agent redshift c.query text
  calls : ∀ i c, s.calls i = some c → c.pc.OnTrack attempts agent redshift c.query

/-- A call that is there stays there, for its query. -/
theorem query_step {s t : Sys K} {a : Action K} (h : step key attempts.toNat s a = some t) {i : Nat}
    {c : Call} (live : s.calls i = some c) : ∃ c', t.calls i = some c' ∧ c'.query = c.query := by
  rcases step_cases h with ⟨j, query, -, free, rfl⟩ | ⟨j, st, c', pc, sh, -, live', -, rfl⟩ |
    ⟨k, -, rfl⟩
  · refine ⟨c, (Function.update_of_ne (fun same => ?_) _ _).trans live, rfl⟩
    rw [same, free] at live
    cases live
  · by_cases same : i = j
    · subst same
      rw [live', Option.some.injEq] at live
      subst live
      exact ⟨_, Function.update_self .., rfl⟩
    · exact ⟨c, (Function.update_of_ne same _ _).trans live, rfl⟩
  · exact ⟨c, live, rfl⟩

/-- A call is there for the query that it arrived with. -/
theorem arrived {acts : List (Action K)} {s t : Sys K}
    (reached : (machine key attempts.toNat).run s acts = some t) {i : Nat} {c : Call}
    (live : t.calls i = some c) :
    (∃ c', s.calls i = some c' ∧ c'.query = c.query) ∨ .arrive i c.query ∈ acts := by
  induction acts generalizing s with
  | nil =>
    cases reached
    exact Or.inl ⟨c, live, rfl⟩
  | cons a acts ih =>
    obtain ⟨u, h, rest⟩ := Option.bind_eq_some_iff.mp reached
    rcases ih rest with ⟨d, there, query⟩ | later
    · rcases step_cases h with ⟨j, q, rfl, -, rfl⟩ | ⟨j, st, c', pc, sh, -, live', -, rfl⟩ |
        ⟨k, -, rfl⟩
      · rcases update_some_cases there with ⟨rfl, rfl⟩ | ⟨-, there⟩
        · rw [← query]
          exact Or.inr (List.mem_cons_self ..)
        · exact Or.inl ⟨d, there, query⟩
      · rcases update_some_cases there with ⟨rfl, rfl⟩ | ⟨-, there⟩
        · exact Or.inl ⟨c', live', query⟩
        · exact Or.inl ⟨d, there, query⟩
      · exact Or.inl ⟨d, there, query⟩
    · exact Or.inr (List.mem_cons_of_mem _ later)

theorem arrived_start {acts : List (Action K)} {s : Sys K}
    (reached : (machine key attempts.toNat).run start acts = some s) {i : Nat} {c : Call}
    (live : s.calls i = some c) : .arrive i c.query ∈ acts := by
  rcases arrived reached live with ⟨c', none_yet, -⟩ | there
  · cases none_yet
  · exact there

theorem Distinct.before {s t : Sys K} {a : Action K} (distinct : Distinct key t)
    (h : step key attempts.toNat s a = some t) : Distinct key s := by
  intro i j c c' live live' same
  obtain ⟨d, there, query⟩ := query_step h live
  obtain ⟨d', there', query'⟩ := query_step h live'
  rw [← query, ← query'] at same ⊢
  exact distinct i j d d' there there' same

theorem Steady.step {s t : Sys K} {a : Action K}
    (steady : Steady key attempts agent redshift s) (distinct : Distinct key s)
    (answered : Answered agent redshift s a) (h : step key attempts.toNat s a = some t) :
    Steady key attempts agent redshift t := by
  have still {k : K} {text : String} (held : s.cache k = some text) :
      ∃ i c, t.calls i = some c ∧ key c.query = k ∧
        Leads attempts agent redshift c.query text := by
    obtain ⟨i, c, live, at_key, leads⟩ := steady.cached k text held
    obtain ⟨c', there, query⟩ := query_step h live
    exact ⟨i, c', there, query ▸ at_key, query ▸ leads⟩
  have cases := step_cases h
  rcases cases with ⟨i, query, -, free, rfl⟩ | ⟨i, st, c, pc, sh, rfl, live, moved, rfl⟩ |
    ⟨k, -, rfl⟩
  · refine ⟨fun k text held => still held, fun j c' live' => ?_⟩
    rcases update_some_cases live' with ⟨-, rfl⟩ | ⟨-, live'⟩
    · exact trivial
    · exact steady.calls j c' live'
  · have moves := stepCall_moves moved
    obtain ⟨c', live', due⟩ := answered
    obtain rfl : c' = c := Option.some.inj (live'.symm.trans live)
    have own := steady.calls i c' live
    have track : pc.OnTrack attempts agent redshift c'.query := by
      refine moves.onTrack due (fun text held => ?_) own
      obtain ⟨j, d, there, at_key, leads⟩ := steady.cached _ text held
      exact distinct j i d c' there live at_key ▸ leads
    refine ⟨fun k text held => ?_, fun j d live' => ?_⟩
    · rcases moves.cache with alone | ⟨stored, from_call, written⟩
      · exact still (alone ▸ held)
      · rcases update_some_cases (written ▸ held) with ⟨rfl, rfl⟩ | ⟨-, held⟩
        · refine ⟨i, _, Function.update_self .., rfl, ?_⟩
          rcases from_call with ⟨at_set, -⟩ | ⟨rsQuery, at_final⟩
          · rw [at_set] at own
            exact own
          · rw [at_final] at own
            obtain ⟨result, own⟩ := own
            exact (aloneEnds_ok own).2.trans own.symm
        · exact still held
    · rcases update_some_cases live' with ⟨-, rfl⟩ | ⟨-, live'⟩
      · exact track
      · exact steady.calls j d live'
  · refine ⟨fun k' text held => ?_, steady.calls⟩
    simp only [Function.update_apply] at held
    split at held
    · cases held
    · exact still held

omit [DecidableEq K] in
theorem steady_start : Steady key attempts agent redshift start where
  cached _ _ held := by cases held
  calls _ _ live := by cases live

theorem steady_run {acts : List (Action K)} {s : Sys K}
    (reached : (machine key attempts.toNat).run start acts = some s)
    (answered : (machine key attempts.toNat).Along (Answered agent redshift) start acts)
    (distinct : Distinct key s) : Steady key attempts agent redshift s := by
  refine Machine.run_induction_along
    (I := fun u => Distinct key u → Steady key attempts agent redshift u) ?_ ?_ answered reached
    distinct
  · intro u a v steady answered h distinct
    have before := distinct.before h
    exact (steady before).step before answered h
  · exact fun _ => steady_start

/-! ## Against a proxy whose cache is empty -/

section

variable {C : Type} {srv : Server C} {empty : C} {size : Int}
  {agent : TranslateRequest → Except String TranslateResponse}
  {redshift : String → Except String Result × Int}

/-- What a lone proxy answers, for the winning text of a call. -/
def AsFresh (srv : Server C) (agent : TranslateRequest → Except String TranslateResponse)
    (redshift : String → Except String Result × Int) (empty : C) (query : String) :
    Option String → Prop
  | some won => ∃ result, (redshift won).1 = .ok result ∧
      freshReply srv (.fixed agent redshift) empty () query = reply srv.wire result
  | none => ∃ err, freshReply srv (.fixed agent redshift) empty () query = .error err

/-- The loop of the handler ends as `loopEnds` says. -/
theorem retryLoop_ends (query : String) (left : Nat) (curSQL : String) (prevErr : Option String)
    (st : State Unit C) :
    (retryLoop (.fixed agent redshift) attempts query (left + 1) curSQL prevErr st).1.map
        (fun out => (out.1, out.2.1)) =
      loopEnds attempts agent (fun sql => (redshift sql).1) query left curSQL := by
  induction left generalizing curSQL prevErr st with
  | zero =>
    rw [retryLoop, loopEnds]
    rcases ran : redshift curSQL with ⟨err | result, ms⟩ <;>
      simp only [callRedshift, World.fixed, ran, if_true, Except.map]
  | succ left ih =>
    rw [retryLoop, loopEnds]
    rcases ran : redshift curSQL with ⟨err | result, ms⟩
    · cases told : agent { sql := query, prevError := err, prevSQL := curSQL } with
      | error fixErr =>
        simp only [callRedshift, callTranslate, World.fixed, ran, told, Nat.add_one_ne_zero,
          if_false, Except.map]
      | ok fixResp =>
        simp only [callRedshift, callTranslate, World.fixed, ran, told, Nat.add_one_ne_zero,
          if_false]
        exact ih ..
    · simp only [callRedshift, World.fixed, ran, Except.map]

theorem execWithRetry_ends (query rsQuery : String) (st : State Unit C) :
    (execWithRetry srv (.fixed agent redshift) query rsQuery st).1.map
        (fun out => (out.1, out.2.1)) =
      firstEnds srv.cfg.maxAttempts agent (fun sql => (redshift sql).1) query rsQuery := by
  rw [execWithRetry, firstEnds]
  cases srv.cfg.maxAttempts.toNat with
  | zero => rfl
  | succ left => exact retryLoop_ends ..

/-- The answer to a call that ends like this. -/
def replyTo (lib : WireLib) : Except HandleError Result → Reply
  | .error err => .error err
  | .ok result => reply lib result

/-- A lone proxy answers with the end that its query goes to. -/
theorem freshReply_alone (made : Cache.new srv.lru size = .ok empty) {query : String}
    (routed : srv.onRedshift query = true) :
    freshReply srv (.fixed agent redshift) empty () query =
      replyTo srv.wire
        ((aloneEnds srv.cfg.maxAttempts agent (fun sql => (redshift sql).1) query).map
          Prod.fst) := by
  rw [aloneEnds]
  cases told : agent { sql := query } with
  | error err => exact freshReply_error made routed told
  | ok resp =>
    have fresh : (runFirst srv (.fixed agent redshift) query resp.redshiftSQL
        { cache := empty, env := () }).1 = freshReply srv (.fixed agent redshift) empty () query :=
      serves_of_translate made routed told { cache := empty, env := () }
    rw [← fresh, runFirst_fst]
    dsimp only
    rw [← execWithRetry_ends query resp.redshiftSQL { cache := empty, env := () }]
    rcases (execWithRetry srv (.fixed agent redshift) query resp.redshiftSQL
      { cache := empty, env := () }).1 with err | ⟨result, won, ms⟩ <;> rfl

/-- So it answers with the text that wins there. -/
theorem asFresh_alone (made : Cache.new srv.lru size = .ok empty) {query : String}
    (routed : srv.onRedshift query = true) :
    AsFresh srv agent redshift empty query
      ((aloneEnds srv.cfg.maxAttempts agent (fun sql => (redshift sql).1) query).toOption.map
        Prod.snd) := by
  have fresh : freshReply srv (.fixed agent redshift) empty () query = _ :=
    freshReply_alone made routed
  rcases ends : aloneEnds srv.cfg.maxAttempts agent (fun sql => (redshift sql).1) query with
    err | ⟨result, won⟩
  · rw [ends] at fresh
    exact ⟨err, fresh⟩
  · rw [ends] at fresh
    exact ⟨result, (aloneEnds_ok ends).1, fresh⟩

/-! ## Two queries under one key -/

/-- The agent of `soleAnswer`. -/
def soleAgent (x : String) (req : TranslateRequest) : Except String TranslateResponse :=
  if req.sql = x then .ok { redshiftSQL := soleText } else .error "refused"

/-- A call for `x` up to its `Set`, and the arrival of a call for `y`. -/
def stored (x y : String) : List (Action String) :=
  [.arrive 0 x, .call 0 .get, .call 0 (.translate (.ok { redshiftSQL := soleText })), .call 0 .set,
    .arrive 1 y]

/-- Where that leads, with `left` attempts after the first one. -/
def afterSet (key : String → String) (left : Nat) (x y : String) : Sys String where
  cache := Function.update (fun _ => none) (key x) (some soleText)
  trace := [.translate { sql := x } (.ok { redshiftSQL := soleText })]
  calls := Function.update (Function.update (fun _ => none) 0
    (some ⟨x, .execSelect soleText soleText left⟩)) 1 (some ⟨y, .get⟩)

theorem stored_run (key : String → String) (left : Nat) (x y : String) :
    (machine key (left + 1)).run start (stored x y) = some (afterSet key left x y) := by
  simp [stored, afterSet, machine, step, stepCall, start, enter, Shared.store, Shared.record]

theorem stored_answered (key : String → String) (left : Nat) (x y : String) :
    (machine key (left + 1)).Along (Answered (soleAgent x) fun _ => .ok oneRow) start
      (stored x y) := by
  have told : soleAgent x { sql := x } = .ok { redshiftSQL := soleText } := if_pos rfl
  refine Machine.along_step rfl trivial ?_
  refine Machine.along_step rfl ⟨_, rfl, rfl⟩ ?_
  refine Machine.along_step rfl ⟨_, rfl, congrArg (some ∘ Step.translate) told⟩ ?_
  refine Machine.along_step rfl ⟨_, rfl, rfl⟩ ?_
  exact Machine.along_step rfl trivial (Machine.along_nil _ _)

/-- The call for `y` then finds the entry of `x`. -/
def afterHit (key : String → String) (left : Nat) (x y : String) : Sys String :=
  { afterSet key left x y with
    calls := Function.update (afterSet key left x y).calls 1
      (some ⟨y, .execSelect soleText soleText left⟩) }

theorem afterSet_hit {key : String → String} {x y : String} (left : Nat)
    (collide : key y = key x) :
    (machine key (left + 1)).step (afterSet key left x y) (.call 1 .get) =
      some (afterHit key left x y) := by
  have held : (afterSet key left x y).cache (key y) = some soleText := by
    simp only [collide, afterSet, Function.update_self]
  have live : (afterSet key left x y).calls 1 = some ⟨y, .get⟩ := rfl
  simp only [machine, step, live, stepCall, held, enter, afterHit]

/-- So it ends with the text of `x`. -/
theorem crossed_run {key : String → String} {x y : String} (left : Nat)
    (collide : key y = key x) :
    ∃ acts s, (machine key (left + 1)).run start acts = some s ∧
      (machine key (left + 1)).Along (Answered (soleAgent x) fun _ => .ok oneRow) start acts ∧
      (∀ i q, .arrive i q ∈ acts → q = x ∨ q = y) ∧
      s.calls 1 = some ⟨y, .done (some soleText)⟩ := by
  obtain ⟨s, last, calls⟩ : ∃ s, (machine key (left + 1)).step (afterHit key left x y)
      (.call 1 (.execSelect (.ok oneRow))) = some s ∧
      s.calls = Function.update (afterHit key left x y).calls 1
        (some ⟨y, .done (some soleText)⟩) := ⟨_, rfl, rfl⟩
  have hit := afterSet_hit left collide
  refine ⟨stored x y ++ [.call 1 .get, .call 1 (.execSelect (.ok oneRow))], s, ?_, ?_, ?_, ?_⟩
  · rw [Machine.run_append_of _ (stored_run key left x y), Machine.run_cons, hit, Option.bind_some,
      Machine.run_cons, last]
    rfl
  · refine (stored_answered key left x y).append (stored_run key left x y) ?_
    refine Machine.along_step hit ⟨_, rfl, rfl⟩ ?_
    exact Machine.along_step last ⟨_, rfl, rfl⟩ (Machine.along_nil _ _)
  · intro i q arrives
    simp only [stored, List.cons_append, List.nil_append, List.mem_cons, Action.arrive.injEq,
      reduceCtorEq, List.not_mem_nil, false_or, or_false] at arrives
    exact arrives.imp And.right And.right
  · rw [calls]
    exact Function.update_self ..

/-- Every finished call of every interleaving, whatever the cache drops, is answered as a lone
proxy answers its query, for every agent and every Redshift, exactly when no two of the
queries share a cache key. -/
theorem concurrent_transparent (srv : Server C) (empty : C)
    (made : Cache.new srv.lru srv.cfg.cacheSize = .ok empty)
    (attempts : 1 ≤ srv.cfg.maxAttempts) (queries : List String)
    (routed : ∀ q ∈ queries, srv.onRedshift q = true) :
    (∀ agent redshift acts s, (sequential srv).run start acts = some s →
      (sequential srv).Along (Answered agent fun sql => (redshift sql).1) start acts →
      (∀ i q, .arrive i q ∈ acts → q ∈ queries) →
      ∀ i c won, s.calls i = some c → c.pc = .done won →
        AsFresh srv agent redshift empty c.query won) ↔
      CollisionFree srv queries := by
  constructor
  · intro transparent x member y member' collide
    by_contra differ
    obtain ⟨left, some_left⟩ := Nat.exists_eq_succ_of_ne_zero
      (show srv.cfg.maxAttempts.toNat ≠ 0 by omega)
    obtain ⟨acts, s, run, answered, known, ended⟩ := crossed_run left collide.symm
    have fresh := transparent (soleAgent x) (fun _ => (.ok oneRow, 0)) acts s
      (by rw [sequential, some_left]; exact run) (by rw [sequential, some_left]; exact answered)
      (fun i q arrives => by rcases known i q arrives with same | same <;> rw [same] <;> assumption)
      1 _ _ ended rfl
    obtain ⟨result, -, fresh⟩ := fresh
    have refused : soleAgent x { sql := y } = .error "refused" := if_neg (Ne.symm differ)
    rw [freshReply_error made (routed y member') refused, reply] at fresh
    cases built : toMySQL srv.wire (some result) <;> rw [built] at fresh <;> cases fresh
  · intro alone agent redshift acts s reached answered known i c won live ended
    have distinct : Distinct srv.key s := fun j k c c' live live' same =>
      alone c.query (known j _ (arrived_start reached live)) c'.query
        (known k _ (arrived_start reached live')) same
    have track := (steady_run reached answered distinct).calls i c live
    rw [ended] at track
    rw [show won = _ from track]
    exact asFresh_alone made (routed c.query (known i _ (arrived_start reached live)))

/-- Two calls for one query that both miss, the second after its entry is dropped. -/
def race : List (Action String) :=
  [.arrive 0 nameOf1, .arrive 1 nameOf1, .call 0 .get, .call 1 .get,
    .call 0 (.translate (.ok { redshiftSQL := nameOf1 })), .call 0 .set,
    .call 1 (.translate (.ok { redshiftSQL := nameOf1 })), .evict "",
    .call 1 .set, .call 1 (.execSelect (annAndBob nameOf1).1)]

theorem concurrent_transparent_race :
    ∃ s, (sequential defaultServer).run start race = some s ∧
      s.calls 1 = some ⟨nameOf1, .done (some nameOf1)⟩ ∧
      AsFresh defaultServer echo annAndBob emptyCache nameOf1 (some nameOf1) := by
  have run := (rfl : (sequential defaultServer).run start race = some _)
  have answered : (sequential defaultServer).Along
      (Answered echo fun sql => (annAndBob sql).1) start race := by
    refine Machine.along_step rfl trivial ?_
    refine Machine.along_step rfl trivial ?_
    refine Machine.along_step rfl ⟨_, rfl, rfl⟩ ?_
    refine Machine.along_step rfl ⟨_, rfl, rfl⟩ ?_
    refine Machine.along_step rfl ⟨_, rfl, rfl⟩ ?_
    refine Machine.along_step rfl ⟨_, rfl, rfl⟩ ?_
    refine Machine.along_step rfl ⟨_, rfl, rfl⟩ ?_
    refine Machine.along_step rfl trivial ?_
    refine Machine.along_step rfl ⟨_, rfl, rfl⟩ ?_
    exact Machine.along_step rfl ⟨_, rfl, rfl⟩ (Machine.along_nil _ _)
  refine ⟨_, run, rfl, ?_⟩
  refine (concurrent_transparent defaultServer emptyCache new_defaultServer (by decide)
    [nameOf1, countOrders] onRedshift_two).mpr collisionFree_two echo annAndBob race _ run answered
    (fun i q arrives => ?_) 1 _ _ rfl rfl
  simp only [race, List.mem_cons, Action.arrive.injEq, reduceCtorEq, List.not_mem_nil,
    or_false] at arrives
  rcases arrives with ⟨-, rfl⟩ | ⟨-, rfl⟩ <;> exact List.mem_cons_self ..

end

end MysqlRedshift.Proxy.Interleaving
