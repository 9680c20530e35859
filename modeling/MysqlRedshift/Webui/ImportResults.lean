import MysqlRedshift.Webui.KnowledgePage

/-!
# What the entries of an import say

An entry that shows a statement as saved stands for a request that the agent has handled, with
a save behind it that a comparison justifies: a good one in the mode of the request, or a bad
one that the page has shown before the user forced the save. Which statement stands in which
place is as the import left it only if none is started while a forced save waits: its answer
goes to a place of the entries that are there when it comes.
-/

namespace MysqlRedshift.Webui

open MysqlRedshift.Agent (ImportEnv ImportTestReq ImportTestResp apiKnowledgeImportTest importVerify
  importMysql importRedshift importCompare importVerify_saves ComparedAs twoTables)
open MysqlRedshift.Misc

variable {σ α S : Type} {env : ImportEnv σ α S} {s t : Sys σ} {l : Label σ}

/-! ## Answers of the agent -/

/-- Before the save, an answer names the statement of the request and says that nothing is
saved; a save is of the translation that the answer shows. -/
theorem importVerify_resp {req : ImportTestReq} {w w' : σ} {resp : ImportTestResp}
    {args : Option Agent.Knowledge.SaveArgs}
    (h : importVerify env req w = (.ok (resp, args), w')) :
    resp.mysqlSQL = req.mysqlSQL ∧ resp.saved = false ∧
      ∀ a, args = some a → resp.redshiftSQL = some a.redshiftSQL := by
  have unsaved {resp' : ImportTestResp} (h : resp' = resp ∧ none = args)
      (named : resp'.mysqlSQL = req.mysqlSQL) (not_saved : resp'.saved = false) :
      resp.mysqlSQL = req.mysqlSQL ∧ resp.saved = false ∧
        ∀ a, args = some a → resp.redshiftSQL = some a.redshiftSQL := by
    obtain ⟨rfl, rfl⟩ := h
    exact ⟨named, not_saved, fun a some => by cases some⟩
  simp only [importVerify] at h
  rcases translated : env.translate { sql := req.mysqlSQL } w with ⟨(e | e) | tr, w₁⟩
  · simp only [translated, Prod.mk.injEq, Except.ok.injEq] at h
    exact unsaved h.1 rfl rfl
  · simp only [translated, Prod.mk.injEq, Except.ok.injEq] at h
    exact unsaved h.1 rfl rfl
  simp only [translated, importMysql] at h
  rcases mysql : env.runMysql req.mysqlSQL w₁ with ⟨e | my, w₂⟩
  · simp only [mysql, Prod.mk.injEq, Except.ok.injEq] at h
    exact unsaved h.1 rfl rfl
  simp only [mysql, importRedshift] at h
  rcases redshift : env.runRedshift tr.redshiftSQL w₂ with ⟨e | rs, w₃⟩
  · simp only [redshift, Prod.mk.injEq, Except.ok.injEq] at h
    exact unsaved h.1 rfl rfl
  simp only [redshift, importCompare] at h
  rcases compared : env.compare my.rows rs.rows my.columns rs.columns req.compareMode with e | cmp
  · simp [compared] at h
  simp only [compared] at h
  split at h
  · simp only [Prod.mk.injEq, Except.ok.injEq] at h
    obtain ⟨⟨rfl, rfl⟩, -⟩ := h
    exact ⟨rfl, rfl, fun a same => by cases same; rfl⟩
  · simp only [Prod.mk.injEq, Except.ok.injEq] at h
    exact unsaved h.1 rfl rfl

theorem importTest_mysqlSQL {req : ImportTestReq} {w : σ} {resp : ImportTestResp}
    (h : (apiKnowledgeImportTest env req w).1 = .ok resp) : resp.mysqlSQL = req.mysqlSQL := by
  rw [apiKnowledgeImportTest] at h
  rcases verified : importVerify env req w with ⟨e | ⟨resp', none | args⟩, w'⟩
  · rw [verified] at h
    cases h
  · rw [verified] at h
    cases h
    exact (importVerify_resp verified).1
  · rw [verified] at h
    cases h
    exact (importVerify_resp verified).1

/-- What an answer that says so has saved, and on what grounds. -/
def Saved (env : ImportEnv σ α S) (req : ImportTestReq) (resp : ImportTestResp) : Prop :=
  ∃ w args w' id, resp.redshiftSQL = some args.redshiftSQL ∧ args.mysqlSQL = req.mysqlSQL ∧
    (env.saveExample args w').1 = some id ∧ resp.savedId = some id ∧
    (args.compareMode = req.compareMode ∧
        ComparedAs env req w args.redshiftSQL req.compareMode true ∨
      args.compareMode = "override" ∧ req.forceSave = true ∧
        ComparedAs env req w args.redshiftSQL req.compareMode false)

/-- An entry after a step was there before it, or has its place in a new import, or is for the
answer of the import or of a forced save. -/
theorem step_entry (h : step env s l = some t) {i : Nat} {e : Entry}
    (there : at? t.importResults i = some e) :
    (at? s.importResults i = some e ∧ t.sqls = s.sqls) ∨
    (∃ sql, e = .waiting sql ∧ t.sqls[i]? = some sql) ∨
    (∃ n reply, s.loop = some (i, n) ∧ s.Comes n reply ∧ t.sqls = s.sqls ∧
      e = reply.imported (s.sqls.getD i "")) ∨
    ∃ n reply, s.forced n = some i ∧ s.Comes n reply ∧ t.sqls = s.sqls ∧
      reply.forced = some e := by
  have answered {i' n : Nat} {reply : Reply} (waits : s.loop = some (i', n))
      (comes : s.Comes n reply)
      (there : at? (assign s.importResults i' (reply.imported (s.sqls.getD i' ""))) i = some e) :
      at? s.importResults i = some e ∨ ∃ n reply, s.loop = some (i, n) ∧ s.Comes n reply ∧
        e = reply.imported (s.sqls.getD i "") := by
    rw [at?_assign] at there
    split at there
    · next here =>
      subst here
      exact Or.inr ⟨n, reply, waits, comes, (Option.some.inj there).symm⟩
    · exact Or.inl there
  cases step_trans h with
  | edit | choose | cancel | force | handle | others | nothing => exact Or.inl ⟨there, rfl⟩
  | @start sql rest idle fragments =>
    refine Or.inr (Or.inl ?_)
    rw [at?, List.getElem?_map] at there
    cases here : (sql :: rest)[i]? with
    | none =>
      rw [here] at there
      cases there
    | some sql' =>
      rw [here] at there
      cases there
      exact ⟨sql', rfl, rfl⟩
  | last waits comes | next waits comes =>
    rcases answered waits comes there with before | ⟨n, reply, waits, comes, new⟩
    · exact Or.inl ⟨before, rfl⟩
    · exact Or.inr (Or.inr (Or.inl ⟨n, reply, waits, comes, rfl, new⟩))
  | @forced n idx reply waits comes =>
    cases answer : reply.forced with
    | none =>
      rw [answer] at there
      exact Or.inl ⟨there, rfl⟩
    | some e' =>
      rw [answer] at there
      change at? (assign s.importResults idx e') i = some e at there
      rw [at?_assign] at there
      split at there
      · next here =>
        cases there
        subst here
        exact Or.inr (Or.inr (Or.inr ⟨n, reply, waits, comes, rfl, answer⟩))
      · exact Or.inl ⟨there, rfl⟩

/-- Requests and answers are never taken back. -/
structure Grows (s t : Sys σ) : Prop where
  posts : ∀ (n : Nat) p, s.posts[n]? = some p → t.posts[n]? = some p
  handled : ∀ n r, s.handled n = some r → t.handled n = some r

theorem step_grows (h : step env s l = some t) : Grows s t := by
  have more (new : Post) (n : Nat) (p : Post) (made : s.posts[n]? = some p) :
      (s.posts ++ [new])[n]? = some p := by
    rw [List.getElem?_append_left (List.getElem?_eq_some_iff.mp made).1, made]
  cases step_trans h with
  | edit | choose | cancel | others | nothing | last | forced =>
    exact ⟨fun _ _ => id, fun _ _ => id⟩
  | start | next | force => exact ⟨more _, fun _ _ => id⟩
  | @handle n p made fresh =>
    refine ⟨fun _ _ => id, fun m r answered => ?_⟩
    refine (Function.update_of_ne (fun same => ?_) _ _).trans answered
    rw [same, fresh] at answered
    cases answered

/-! ## The invariant -/

/-- The agent has answered the `n`-th request, which was this one. -/
def AnsweredTo (s : Sys σ) (n : Nat) (p : Post) (resp : ImportTestResp) : Prop :=
  s.posts[n]? = some p ∧ s.handled n = some (.ok resp)

theorem AnsweredTo.mono (grows : Grows s t) {n : Nat} {p : Post} {resp : ImportTestResp}
    (h : AnsweredTo s n p resp) : AnsweredTo t n p resp :=
  ⟨grows.posts n p h.1, grows.handled n _ h.2⟩

/-- Before the `n`-th request, the page had an answer for the statement that is not forced,
with a bad comparison. -/
def ComparedBefore (s : Sys σ) (n : Nat) (sql : String) : Prop :=
  ∃ m < n, ∃ p resp, AnsweredTo s m p resp ∧ p.req.forceSave = false ∧ resp.mysqlSQL = sql ∧
    compareFailed resp = true

theorem ComparedBefore.mono (grows : Grows s t) {n : Nat} {sql : String}
    (h : ComparedBefore s n sql) : ComparedBefore t n sql := by
  obtain ⟨m, before, p, resp, answered, rest⟩ := h
  exact ⟨m, before, p, resp, answered.mono grows, rest⟩

/-- Answers are those of the agent, and what the page waits for and shows are answers for its
requests; a save is forced where the page has shown a bad comparison. -/
structure Truthful (env : ImportEnv σ α S) (s : Sys σ) : Prop where
  handled : ∀ n result, s.handled n = some result →
    ∃ p w, s.posts[n]? = some p ∧ (apiKnowledgeImportTest env p.req w).1 = result
  loop : ∀ i n, s.loop = some (i, n) → ∃ p, s.posts[n]? = some p ∧ p.req.forceSave = false ∧
    s.sqls[i]? = some p.req.mysqlSQL
  forced : ∀ n idx, s.forced n = some idx → ∃ p, s.posts[n]? = some p
  entries : ∀ i resp flag, at? s.importResults i = some (.answered resp flag) →
    ∃ n p, AnsweredTo s n p resp ∧
      (flag = true → p.req.forceSave = false ∧ compareFailed resp = true)
  overrides : ∀ n p, s.posts[n]? = some p → p.req.forceSave = true →
    ComparedBefore s n p.req.mysqlSQL

theorem truthful_opened (world : σ) : Truthful env (opened world) where
  handled _ _ answered := by cases answered
  loop _ _ waits := by cases waits
  forced _ _ waits := by cases waits
  entries _ _ _ there := by cases there
  overrides _ _ made := by cases made

/-- An answer names the statement of its request. -/
theorem Truthful.mysqlSQL (truthful : Truthful env s) {n : Nat} {p : Post} {resp : ImportTestResp}
    (h : AnsweredTo s n p resp) : resp.mysqlSQL = p.req.mysqlSQL := by
  obtain ⟨p', w, made, result⟩ := truthful.handled n _ h.2
  obtain rfl : p' = p := Option.some.inj (made.symm.trans h.1)
  exact importTest_mysqlSQL result

/-- The last request is the one that was made last, and the others were there before. -/
theorem getElem?_concat {posts : List Post} {p q : Post} {n : Nat}
    (made : (posts ++ [p])[n]? = some q) : posts[n]? = some q ∨ n = posts.length ∧ q = p := by
  rcases Nat.lt_trichotomy n posts.length with before | rfl | after
  · exact Or.inl (by rwa [List.getElem?_append_left before] at made)
  · simp only [List.getElem?_concat_length, Option.some.injEq] at made
    exact Or.inr ⟨rfl, made.symm⟩
  · rw [List.getElem?_eq_none (by simp; omega)] at made
    cases made

/-- A new request that is not forced needs nothing. -/
theorem Truthful.overrides_concat (truthful : Truthful env s) (grows : Grows s t) {p : Post}
    (posts : t.posts = s.posts ++ [p])
    (grounds : p.req.forceSave = true → ComparedBefore t s.posts.length p.req.mysqlSQL) :
    ∀ n q, t.posts[n]? = some q → q.req.forceSave = true →
      ComparedBefore t n q.req.mysqlSQL := by
  intro n q made forced
  rw [posts] at made
  rcases getElem?_concat made with before | ⟨rfl, rfl⟩
  · exact (truthful.overrides n q before forced).mono grows
  · exact grounds forced

theorem Truthful.entries_step (truthful : Truthful env s) (h : step env s l = some t) :
    ∀ i resp flag, at? t.importResults i = some (.answered resp flag) →
      ∃ n p, AnsweredTo t n p resp ∧
        (flag = true → p.req.forceSave = false ∧ compareFailed resp = true) := by
  have grows := step_grows h
  intro i resp flag there
  rcases step_entry h there with ⟨before, -⟩ | ⟨sql, waiting, -⟩ |
    ⟨n, reply, waits, comes, -, new⟩ | ⟨n, reply, waits, comes, -, new⟩
  · obtain ⟨n, p, answered, failed⟩ := truthful.entries i resp flag before
    exact ⟨n, p, answered.mono grows, failed⟩
  · cases waiting
  · cases reply with
    | answer resp' =>
      cases new
      obtain ⟨p, made, unforced, -⟩ := truthful.loop i n waits
      exact ⟨n, p, AnsweredTo.mono grows ⟨made, comes⟩, fun failed => ⟨unforced, failed⟩⟩
    | refused | failed => cases new
  · cases reply with
    | answer resp' =>
      cases new
      obtain ⟨p, made⟩ := truthful.forced n i waits
      exact ⟨n, p, AnsweredTo.mono grows ⟨made, comes⟩, fun off => by cases off⟩
    | refused | failed => cases new

theorem Truthful.handled_step (truthful : Truthful env s) (h : step env s l = some t) :
    ∀ n result, t.handled n = some result →
      ∃ p w, t.posts[n]? = some p ∧ (apiKnowledgeImportTest env p.req w).1 = result := by
  have grows := step_grows h
  have before (n : Nat) (result) (answered : s.handled n = some result) :
      ∃ p w, t.posts[n]? = some p ∧ (apiKnowledgeImportTest env p.req w).1 = result := by
    obtain ⟨p, w, made, same⟩ := truthful.handled n result answered
    exact ⟨p, w, grows.posts n p made, same⟩
  intro n result answered
  cases step_trans h with
  | @handle m p made fresh =>
    rcases update_some_cases answered with ⟨rfl, rfl⟩ | ⟨-, old⟩
    · exact ⟨p, s.world, made, rfl⟩
    · exact before n result old
  | _ => exact before n result answered

theorem Truthful.loop_step (truthful : Truthful env s) (h : step env s l = some t) :
    ∀ i n, t.loop = some (i, n) → ∃ p, t.posts[n]? = some p ∧ p.req.forceSave = false ∧
      t.sqls[i]? = some p.req.mysqlSQL := by
  have grows := step_grows h
  intro i n waits
  cases step_trans h with
  | edit | choose | cancel | others | nothing | handle | force | forced =>
    obtain ⟨p, made, unforced, text⟩ := truthful.loop i n waits
    exact ⟨p, grows.posts n p made, unforced, text⟩
  | @start sql rest idle fragments =>
    cases waits
    exact ⟨_, List.getElem?_concat_length, rfl, rfl⟩
  | last => cases waits
  | next waits' comes more goes =>
    cases waits
    exact ⟨_, List.getElem?_concat_length, rfl, more⟩

theorem Truthful.forced_step (truthful : Truthful env s) (h : step env s l = some t) :
    ∀ n idx, t.forced n = some idx → ∃ p, t.posts[n]? = some p := by
  have grows := step_grows h
  have before (n idx : Nat) (waits : s.forced n = some idx) : ∃ p, t.posts[n]? = some p := by
    obtain ⟨p, made⟩ := truthful.forced n idx waits
    exact ⟨p, grows.posts n p made⟩
  intro n idx waits
  cases step_trans h with
  | force =>
    rcases update_some_cases waits with ⟨rfl, -⟩ | ⟨-, old⟩
    · exact ⟨_, List.getElem?_concat_length⟩
    · exact before n idx old
  | @forced m idx' reply waits' comes =>
    by_cases same : n = m
    · rw [same] at waits
      exact absurd ((Function.update_self ..).symm.trans waits) (by simp)
    · exact before n idx ((Function.update_of_ne same ..).symm.trans waits)
  | _ => exact before n idx waits

theorem Truthful.overrides_step (truthful : Truthful env s) (h : step env s l = some t) :
    ∀ n p, t.posts[n]? = some p → p.req.forceSave = true →
      ComparedBefore t n p.req.mysqlSQL := by
  have grows := step_grows h
  cases step_trans h with
  | edit | choose | cancel | others | nothing | last | handle | forced =>
    intro n p made forced
    exact (truthful.overrides n p made forced).mono grows
  | start | next =>
    exact truthful.overrides_concat grows rfl fun forced => by cases forced
  | @force idx r shown =>
    refine truthful.overrides_concat grows rfl fun _ => ?_
    obtain ⟨m, p, answered, failed⟩ := truthful.entries idx r true shown
    obtain ⟨unforced, failed⟩ := failed rfl
    exact ⟨m, (List.getElem?_eq_some_iff.mp answered.1).1, p, r, answered.mono grows, unforced, rfl,
      failed⟩

theorem Truthful.step (truthful : Truthful env s) (h : step env s l = some t) : Truthful env t where
  handled := truthful.handled_step h
  loop := truthful.loop_step h
  forced := truthful.forced_step h
  entries := truthful.entries_step h
  overrides := truthful.overrides_step h

/-- No import is started while a forced save waits. -/
def NoneForced (s : Sys σ) : Label σ → Prop
  | .start => ∀ n, s.forced n = none
  | _ => True

/-- Every entry shows the fragment of its place, and so does what a forced save waits for. -/
structure InPlace (s : Sys σ) : Prop where
  entries : ∀ i e sql, at? s.importResults i = some e → e.mysqlSQL = some sql →
    s.sqls[i]? = some sql
  forced : ∀ n idx, s.forced n = some idx →
    ∃ p, s.posts[n]? = some p ∧ s.sqls[idx]? = some p.req.mysqlSQL

theorem inPlace_opened (world : σ) : InPlace (opened world) where
  entries _ _ _ there := by cases there
  forced _ _ waits := by cases waits

theorem InPlace.entries_step (place : InPlace s) (truthful : Truthful env s)
    (h : step env s l = some t) : ∀ i e sql, at? t.importResults i = some e →
      e.mysqlSQL = some sql → t.sqls[i]? = some sql := by
  intro i e sql there text
  rcases step_entry h there with ⟨before, same⟩ | ⟨sql', rfl, here⟩ |
    ⟨n, reply, waits, comes, same, rfl⟩ | ⟨n, reply, waits, comes, same, new⟩
  · rw [same]
    exact place.entries i e sql before text
  · cases text
    exact here
  · obtain ⟨p, made, -, here⟩ := truthful.loop i n waits
    rw [same, here]
    cases reply with
    | answer resp => exact (congrArg some (truthful.mysqlSQL ⟨made, comes⟩)).symm.trans text
    | refused => cases text
    | failed message =>
      rw [← text]
      show _ = some (s.sqls.getD i "")
      rw [List.getD_eq_getElem?_getD, here]
      rfl
  · obtain ⟨p, made, here⟩ := place.forced n i waits
    rw [same, here]
    cases reply with
    | answer resp =>
      cases new
      exact (congrArg some (truthful.mysqlSQL ⟨made, comes⟩)).symm.trans text
    | refused =>
      cases new
      cases text
    | failed => cases new

theorem InPlace.forced_step (place : InPlace s) (none_forced : NoneForced s l)
    (h : step env s l = some t) : ∀ n idx, t.forced n = some idx →
      ∃ p, t.posts[n]? = some p ∧ t.sqls[idx]? = some p.req.mysqlSQL := by
  have grows := step_grows h
  have before (n idx : Nat) (same : t.sqls = s.sqls) (waits : s.forced n = some idx) :
      ∃ p, t.posts[n]? = some p ∧ t.sqls[idx]? = some p.req.mysqlSQL := by
    obtain ⟨p, made, here⟩ := place.forced n idx waits
    exact ⟨p, grows.posts n p made, same ▸ here⟩
  intro n idx waits
  cases step_trans h with
  | edit | choose | cancel | others | nothing | last | next | handle => exact before n idx rfl waits
  | start =>
    have none := none_forced n
    cases none.symm.trans waits
  | @force idx' r shown =>
    rcases update_some_cases waits with ⟨rfl, rfl⟩ | ⟨-, old⟩
    · exact ⟨_, List.getElem?_concat_length, place.entries idx _ r.mysqlSQL shown rfl⟩
    · exact before n idx rfl old
  | @forced m idx' reply waits' comes =>
    by_cases same : n = m
    · rw [same] at waits
      exact absurd ((Function.update_self ..).symm.trans waits) (by simp)
    · exact before n idx rfl ((Function.update_of_ne same ..).symm.trans waits)

/-- As long as no import is started while a forced save waits, every entry shows the fragment
of its place, whatever its answer. -/
theorem entries_in_place (env : ImportEnv σ α S) (world : σ) (labels : List (Label σ)) (s : Sys σ)
    (reached : (machine env).run (opened world) labels = some s)
    (none_forced : (machine env).Along NoneForced (opened world) labels) {i : Nat} {e : Entry}
    {sql : String} (there : at? s.importResults i = some e) (text : e.mysqlSQL = some sql) :
    s.sqls[i]? = some sql := by
  have inv : Truthful env s ∧ InPlace s := by
    refine Machine.run_induction_along (I := fun u => Truthful env u ∧ InPlace u)
      (C := NoneForced) ?_ ⟨truthful_opened world, inPlace_opened world⟩ none_forced reached
    rintro u l v ⟨truthful, place⟩ none_forced h
    exact ⟨truthful.step h, place.entries_step truthful h, place.forced_step none_forced h⟩
  exact inv.2.entries i e sql there text

theorem forcedImport_noneForced :
    (machine twoTables.importEnv).Along NoneForced (opened differing) forcedImport := by
  refine Machine.along_cons trivial fun s edited => Machine.along_cons (fun n => ?_) fun t _ => ?_
  · cases edited
    rfl
  · exact Machine.along_of_forall (by simp [NoneForced]) t

theorem entries_in_place_forcedImport :
    ∃ s, (machine twoTables.importEnv).run (opened differing) forcedImport = some s ∧
      s.sqls[0]? = some "SELECT v FROM t" := by
  obtain ⟨s, reached, shows⟩ := Option.map_eq_some_iff.mp forcedImport_shows
  simp only [Prod.mk.injEq] at shows
  exact ⟨s, reached, entries_in_place twoTables.importEnv differing forcedImport s reached
    forcedImport_noneForced shows.1 rfl⟩

/-- A forced save that is answered after the next import was started takes the place of one of
its entries. -/
example :
    ((machine twoTables.importEnv).run (opened differing)
        [.edit "SELECT v FROM t", .start, .handle 0,
          .answer (.answer (badComparison "SELECT v FROM t")), .force 0, .edit "SELECT 1", .start,
          .handle 1, .forceAnswer 1 (.answer (forcedAnswer "SELECT v FROM t"))]).map
        (fun s => (s.sqls[0]?, (at? s.importResults 0).bind Entry.mysqlSQL, s.progressDone)) =
      some (some "SELECT 1", some "SELECT v FROM t", 0) := by
  decide +kernel

end MysqlRedshift.Webui
