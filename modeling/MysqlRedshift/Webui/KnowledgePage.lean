import MysqlRedshift.Agent.ImportEffects
import MysqlRedshift.Misc.Machine
import MysqlRedshift.Webui.SplitSqls

/-!
# The import of the knowledge page

`startImport`, `cancelImport` and `forceSave` of `webui/static/knowledge.html`, with the
endpoint of the agent that they post to. The page runs on one thread, but an `await` lets the
user's clicks and other answers in: the loop of an import and the forced saves are suspended
until their answers come. Requests and answers take any time, may be lost, and the agent may
handle a request whose answer the page has given up. A button that is hidden or disabled is
not clicked.
-/

namespace MysqlRedshift.Webui

open MysqlRedshift.Agent (ImportEnv ImportTestReq ImportTestResp apiKnowledgeImportTest Stores
  twoTables)
open MysqlRedshift.Misc

/-! ## What the page shows -/

/-- What the `fetch` of a request comes to: an answer, an error status, whose body has a
`detail` only, or an exception. -/
inductive Reply where
  | answer (resp : ImportTestResp)
  | refused (detail : String)
  | failed (message : String)
  deriving DecidableEq, Repr

/-- An entry of `importResults`; one that was answered says if it can be forced. -/
inductive Entry where
  | waiting (mysqlSQL : String)
  | answered (resp : ImportTestResp) (compareFailed : Bool)
  | refused (detail : String)
  | failed (mysqlSQL compareReason : String)
  deriving DecidableEq, Repr

namespace Entry

def pending : Entry → Bool
  | waiting _ => true
  | _ => false

def saved : Entry → Bool
  | answered resp _ => resp.saved
  | _ => false

/-- `r.mysql_sql`, which the body of an error status does not have. -/
def mysqlSQL : Entry → Option String
  | waiting sql => some sql
  | answered resp _ => some resp.mysqlSQL
  | refused _ => none
  | failed sql _ => some sql

end Entry

/-- `j.compare_failed` of an answer. -/
def compareFailed (resp : ImportTestResp) : Bool :=
  !resp.saved && resp.redshiftOk && resp.mysqlOk && !resp.compareOk

/-- The entry that `startImport` writes. -/
def Reply.imported (sql : String) : Reply → Entry
  | answer resp => .answered resp (compareFailed resp)
  | refused detail => .refused detail
  | failed message => .failed sql ("请求失败: " ++ message)

/-- The entry that `forceSave` writes, unless it ends with an alert. -/
def Reply.forced : Reply → Option Entry
  | answer resp => some (.answered resp false)
  | refused detail => some (.refused detail)
  | failed _ => none

/-- `array[i] = x`, which leaves holes before `i` in an array that is too short. -/
def assign {α : Type} (xs : List (Option α)) (i : Nat) (x : α) : List (Option α) :=
  if i < xs.length then xs.set i (some x)
  else xs ++ List.replicate (i - xs.length) none ++ [some x]

/-- `array[i]`, of which holes are `undefined` as well. -/
def at? {α : Type} (xs : List (Option α)) (i : Nat) : Option α := (xs[i]?).getD none

theorem at?_assign {α : Type} (xs : List (Option α)) (i j : Nat) (x : α) :
    at? (assign xs i x) j = if j = i then some x else at? xs j := by
  unfold at? assign
  by_cases inside : i < xs.length
  · rw [if_pos inside, List.getElem?_set]
    by_cases here : i = j
    · simp [here, here ▸ inside]
    · rw [if_neg here, if_neg (Ne.symm here)]
  · rw [if_neg inside]
    by_cases here : j = i
    · subst here
      have length : (xs ++ List.replicate (j - xs.length) none).length = j := by simp; omega
      rw [List.getElem?_append_right length.le, length]
      simp
    · rw [if_neg here]
      by_cases before : j < xs.length
      · rw [List.append_assoc, List.getElem?_append_left before]
      · rw [List.append_assoc, List.getElem?_append_right (by omega),
          List.getElem?_eq_none (l := xs) (by omega)]
        by_cases hole : j - xs.length < i - xs.length
        · rw [List.getElem?_append_left (by simpa using hole), List.getElem?_replicate, if_pos hole]
          rfl
        · rw [List.getElem?_eq_none]
          simp
          omega

/-! ## The page and the agent -/

/-- A request, with the import and the place among its entries that it was made for. -/
structure Post where
  req : ImportTestReq
  batch : Nat
  place : Nat
  deriving DecidableEq, Repr

/-- The fields of `kbApp` that an import works on; `sqls` are the fragments of the import
that was started last, which is the `batch`-th. Requests are numbered as they are made:
`loop` is the place in `sqls` and the request that `startImport` waits for, `forced` are the
forced saves that wait for theirs, each with its `idx`. `handled` are the answers of the
agent, and `world` is what it works on. -/
structure Sys (σ : Type) where
  importText : String
  importMode : String
  importing : Bool
  cancel : Bool
  progressDone : Nat
  progressTotal : Nat
  importResults : List (Option Entry)
  batch : Nat
  sqls : List String
  loop : Option (Nat × Nat)
  forced : Nat → Option Nat
  posts : List Post
  handled : Nat → Option (Except String ImportTestResp)
  world : σ

variable {σ α S : Type}

namespace Sys

/-- `fetch`, up to its `await`. -/
def post (s : Sys σ) (req : ImportTestReq) (place : Nat) : Sys σ :=
  { s with posts := s.posts ++ [⟨req, s.batch, place⟩] }

/-- The loop of `startImport` from its test on, with `i` fragments done. -/
def advance (s : Sys σ) (i : Nat) : Sys σ :=
  match s.sqls[i]? with
  | none => { s with importing := false, loop := none }
  | some sql =>
    if s.cancel then { s with importing := false, loop := none }
    else
      { s.post { mysqlSQL := sql, compareMode := s.importMode, forceSave := false } i with
        loop := some (i, s.posts.length) }

/-- What `startImport` does with an answer for its `i`-th fragment. -/
def take (s : Sys σ) (i : Nat) (reply : Reply) : Sys σ :=
  { s with
    importResults := assign s.importResults i (reply.imported (s.sqls.getD i ""))
    progressDone := i + 1 }

/-- `startImport`, up to its first `await`. -/
def startImport (s : Sys σ) : Sys σ :=
  let sqls := splitSqls s.importText
  if sqls.length = 0 then s
  else
    advance
      { s with
        batch := s.batch + 1
        sqls
        importing := true
        cancel := false
        progressTotal := sqls.length
        progressDone := 0
        importResults := sqls.map fun sql => some (.waiting sql) }
      0

/-- The answer of the agent has come, or what stands for one that has not. -/
def Comes (s : Sys σ) (n : Nat) : Reply → Prop
  | .answer resp => s.handled n = some (.ok resp)
  | _ => True

instance (s : Sys σ) (n : Nat) : (reply : Reply) → Decidable (s.Comes n reply)
  | .answer resp =>
    match came : s.handled n with
    | some (.ok resp') => decidable_of_iff (resp' = resp) (by simp [Comes, came])
    | some (.error e) => isFalse (by simp [Comes, came])
    | none => isFalse (by simp [Comes, came])
  | .refused _ => isTrue trivial
  | .failed _ => isTrue trivial

end Sys

/-- What the user does, what comes back to the page, and what goes on at the agent. -/
inductive Label (σ : Type) where
  | edit (importText : String)
  | choose (importMode : String)
  | start
  | cancel
  | answer (reply : Reply)
  | force (idx : Nat)
  | forceAnswer (n : Nat) (reply : Reply)
  | handle (n : Nat)
  | others (world : σ)

/-- `forceSave(idx)` with a confirmation, up to its `await`. -/
def Sys.forceSave (s : Sys σ) (idx : Nat) : Option (Sys σ) :=
  match at? s.importResults idx with
  | some (.answered r true) =>
    if !r.saved && r.redshiftSQL.any fun sql => !sql.isEmpty then
      some
        { s.post { mysqlSQL := r.mysqlSQL, compareMode := s.importMode, forceSave := true } idx with
          forced := Function.update s.forced s.posts.length (some idx) }
    else none
  | _ => none

def step (env : ImportEnv σ α S) (s : Sys σ) : Label σ → Option (Sys σ)
  | .edit importText => some { s with importText }
  | .choose importMode => some { s with importMode }
  | .start => if s.importing || jsTrim s.importText = "" then none else some s.startImport
  | .cancel => if s.importing then some { s with cancel := true } else none
  | .answer reply =>
    match s.loop with
    | none => none
    | some (i, n) =>
      if s.Comes n reply then some ((s.take i reply).advance (i + 1)) else none
  | .force idx => s.forceSave idx
  | .forceAnswer n reply =>
    match s.forced n with
    | none => none
    | some idx =>
      if s.Comes n reply then
        some
          { s with
            importResults := reply.forced.elim s.importResults (assign s.importResults idx)
            forced := Function.update s.forced n none }
      else none
  | .handle n =>
    match s.posts[n]?, s.handled n with
    | some p, none =>
      let (result, world) := apiKnowledgeImportTest env p.req s.world
      some { s with handled := Function.update s.handled n (some result), world }
    | _, _ => none
  | .others world => some { s with world }

def machine (env : ImportEnv σ α S) : Machine (Sys σ) (Label σ) := ⟨step env⟩

/-- The page after it was opened. -/
def opened (world : σ) : Sys σ :=
  { importText := "", importMode := "strict", importing := false, cancel := false
    progressDone := 0, progressTotal := 0, importResults := [], batch := 0, sqls := [],
    loop := none, forced := fun _ => none, posts := [], handled := fun _ => none, world }

/-! ## What a step can do -/

/-- The transitions of `step`, each with what it needs. -/
inductive Trans (env : ImportEnv σ α S) : Sys σ → Label σ → Sys σ → Prop where
  | edit {s text} : Trans env s (.edit text) { s with importText := text }
  | choose {s mode} : Trans env s (.choose mode) { s with importMode := mode }
  | nothing {s} (none : splitSqls s.importText = []) : Trans env s .start s
  | start {s sql rest} (idle : s.importing = false)
      (fragments : splitSqls s.importText = sql :: rest) :
      Trans env s .start
        { s with
          batch := s.batch + 1
          sqls := sql :: rest
          importing := true
          cancel := false
          progressTotal := (sql :: rest).length
          progressDone := 0
          importResults := (sql :: rest).map fun sql => some (.waiting sql)
          loop := some (0, s.posts.length)
          posts := s.posts ++ [⟨⟨sql, s.importMode, false⟩, s.batch + 1, 0⟩] }
  | cancel {s} (on : s.importing = true) : Trans env s .cancel { s with cancel := true }
  | last {s i n reply} (waits : s.loop = some (i, n)) (comes : s.Comes n reply)
      (ends : s.sqls[i + 1]? = none ∨ s.cancel = true) :
      Trans env s (.answer reply) { s.take i reply with importing := false, loop := none }
  | next {s i n reply sql} (waits : s.loop = some (i, n)) (comes : s.Comes n reply)
      (more : s.sqls[i + 1]? = some sql) (goes : s.cancel = false) :
      Trans env s (.answer reply)
        { s.take i reply with
          loop := some (i + 1, s.posts.length)
          posts := s.posts ++ [⟨⟨sql, s.importMode, false⟩, s.batch, i + 1⟩] }
  | force {s idx r} (shown : at? s.importResults idx = some (.answered r true)) :
      Trans env s (.force idx)
        { s with
          posts := s.posts ++ [⟨⟨r.mysqlSQL, s.importMode, true⟩, s.batch, idx⟩]
          forced := Function.update s.forced s.posts.length (some idx) }
  | forced {s n idx reply} (waits : s.forced n = some idx) (comes : s.Comes n reply) :
      Trans env s (.forceAnswer n reply)
        { s with
          importResults := reply.forced.elim s.importResults (assign s.importResults idx)
          forced := Function.update s.forced n none }
  | handle {s n p} (made : s.posts[n]? = some p) (fresh : s.handled n = none) :
      Trans env s (.handle n)
        { s with
          handled := Function.update s.handled n (some (apiKnowledgeImportTest env p.req s.world).1)
          world := (apiKnowledgeImportTest env p.req s.world).2 }
  | others {s world} : Trans env s (.others world) { s with world }

variable {env : ImportEnv σ α S} {s t : Sys σ} {l : Label σ}

theorem Sys.advance_ends {i : Nat} (ends : s.sqls[i]? = none ∨ s.cancel = true) :
    s.advance i = { s with importing := false, loop := none } := by
  rw [advance]
  split
  · rfl
  · next more =>
    rw [if_pos (ends.resolve_left (by simp [more]))]

theorem Sys.advance_posts {i : Nat} {sql : String} (more : s.sqls[i]? = some sql)
    (goes : s.cancel = false) :
    s.advance i =
      { s with
        loop := some (i, s.posts.length)
        posts := s.posts ++ [⟨⟨sql, s.importMode, false⟩, s.batch, i⟩] } := by
  rw [advance, more]
  exact if_neg (by simp [goes])

theorem step_trans (h : step env s l = some t) : Trans env s l t := by
  cases l with
  | edit text => exact Option.some.inj h ▸ .edit
  | choose mode => exact Option.some.inj h ▸ .choose
  | start =>
    by_cases off : s.importing = true ∨ jsTrim s.importText = ""
    · simp [step, off] at h
    · simp only [step, Bool.or_eq_true, decide_eq_true_eq, off, if_false, Option.some.injEq] at h
      have idle : s.importing = false := by simpa using fun on => off (Or.inl on)
      subst h
      rw [Sys.startImport]
      cases fragments : splitSqls s.importText with
      | nil => exact .nothing fragments
      | cons sql rest => exact .start idle fragments
  | cancel =>
    by_cases on : s.importing = true
    · rw [step, if_pos on, Option.some.injEq] at h
      exact h ▸ .cancel on
    · rw [step, if_neg on] at h
      cases h
  | answer reply =>
    rcases waits : s.loop with _ | ⟨i, n⟩
    · simp [step, waits] at h
    by_cases comes : s.Comes n reply
    · simp only [step, waits, comes, if_true, Option.some.injEq] at h
      subst h
      by_cases ends : s.sqls[i + 1]? = none ∨ s.cancel = true
      · rw [Sys.advance_ends (s := s.take i reply) ends]
        exact .last waits comes ends
      · obtain ⟨more, goes⟩ := not_or.mp ends
        obtain ⟨sql, more⟩ := Option.ne_none_iff_exists'.mp more
        have goes : s.cancel = false := by simpa using goes
        rw [Sys.advance_posts (s := s.take i reply) more goes]
        exact .next waits comes more goes
    · simp [step, waits, comes] at h
  | force idx =>
    simp only [step, Sys.forceSave] at h
    split at h
    · next r shown =>
      split at h
      · exact Option.some.inj h ▸ .force shown
      · cases h
    · cases h
  | forceAnswer n reply =>
    rcases waits : s.forced n with _ | idx
    · simp [step, waits] at h
    by_cases comes : s.Comes n reply
    · simp only [step, waits, comes, if_true, Option.some.injEq] at h
      exact h ▸ .forced waits comes
    · simp [step, waits, comes] at h
  | handle n =>
    rw [step] at h
    split at h
    · next p made fresh => exact Option.some.inj h ▸ .handle made fresh
    · cases h
  | others world => exact Option.some.inj h ▸ .others

/-! ## Every fragment once, and in order -/

/-- The requests that `startImport` has made for an import, each with its fragment and place. -/
def importedBy (posts : List Post) (batch : Nat) : List (String × Nat) :=
  (posts.filter fun p => !p.req.forceSave && p.batch = batch).map fun p =>
    (p.req.mysqlSQL, p.place)

theorem importedBy_append (posts : List Post) (p : Post) (batch : Nat) :
    importedBy (posts ++ [p]) batch = importedBy posts batch ++
      if (!p.req.forceSave && p.batch = batch) = true then [(p.req.mysqlSQL, p.place)] else [] := by
  rw [importedBy, List.filter_append, List.map_append, List.filter_singleton, Bool.cond_eq_ite]
  split <;> rfl

theorem importedBy_later {posts : List Post} {batch : Nat} (before : ∀ p ∈ posts, p.batch ≤ batch) :
    importedBy posts (batch + 1) = [] := by
  rw [importedBy, List.map_eq_nil_iff, List.filter_eq_nil_iff]
  intro p member
  have := before p member
  have other : p.batch ≠ batch + 1 := by omega
  simp [other]

/-- How far the last import has come. -/
structure InOrder (s : Sys σ) : Prop where
  total : s.progressTotal = s.sqls.length
  done : s.progressDone ≤ s.sqls.length
  batches : ∀ p ∈ s.posts, p.batch ≤ s.batch
  imported : importedBy s.posts s.batch =
    s.sqls.zipIdx.take (s.progressDone + if s.importing then 1 else 0)
  waits : ∀ i n, s.loop = some (i, n) → i = s.progressDone ∧ i < s.sqls.length
  running : s.importing = s.loop.isSome
  ended : s.importing = false → s.progressDone = s.sqls.length ∨ s.cancel = true
  shown : ∀ i < s.progressDone, ∃ e, at? s.importResults i = some e ∧ e.pending = false

theorem inOrder_opened (world : σ) : InOrder (opened world) where
  total := rfl
  done := Nat.le_refl _
  batches _ member := by cases member
  imported := rfl
  waits _ _ waits := by cases waits
  running := rfl
  ended _ := Or.inl rfl
  shown _ below := by cases below

theorem not_pending_imported (reply : Reply) (sql : String) :
    (reply.imported sql).pending = false := by
  cases reply <;> rfl

theorem not_pending_forced {reply : Reply} {e : Entry} (h : reply.forced = some e) :
    e.pending = false := by
  cases reply <;> cases h <;> rfl

/-- An answer puts an entry in its place that is not pending. -/
theorem InOrder.take (inv : InOrder s) {i n : Nat} (waits : s.loop = some (i, n)) (reply : Reply) :
    ∀ j < i + 1, ∃ e, at? (s.take i reply).importResults j = some e ∧ e.pending = false := by
  intro j below
  rw [Sys.take, at?_assign]
  by_cases here : j = i
  · rw [if_pos here]
    exact ⟨_, rfl, not_pending_imported ..⟩
  · rw [if_neg here]
    exact inv.shown j (by have := (inv.waits i n waits).1; omega)

theorem InOrder.step (inv : InOrder s) (h : step env s l = some t) : InOrder t := by
  cases step_trans h with
  | edit | choose | handle | others =>
    exact ⟨inv.total, inv.done, inv.batches, inv.imported, inv.waits, inv.running, inv.ended,
      inv.shown⟩
  | nothing => exact inv
  | @start sql rest idle fragments =>
    refine ⟨rfl, Nat.zero_le _, ?_, ?_, ?_, rfl, ?_, ?_⟩
    · intro p member
      rcases List.mem_append.mp member with before | new
      · exact (inv.batches p before).trans (Nat.le_succ _)
      · rw [List.mem_singleton.mp new]
    · rw [importedBy_append, importedBy_later inv.batches]
      simp
    · rintro i n waits
      cases waits
      exact ⟨rfl, Nat.succ_pos _⟩
    · intro off
      cases off
    · intro i below
      cases below
  | cancel on =>
    exact ⟨inv.total, inv.done, inv.batches, inv.imported, inv.waits, inv.running,
      fun _ => Or.inr rfl, inv.shown⟩
  | @last i n reply waits comes ends =>
    obtain ⟨rfl, inside⟩ := inv.waits i n waits
    have on : s.importing = true := by rw [inv.running, waits]; rfl
    refine ⟨inv.total, inside, inv.batches, ?_, ?_, rfl, fun _ => ?_, inv.take waits reply⟩
    · have imported := inv.imported
      rw [on] at imported
      exact imported
    · intro i' n' waits'
      cases waits'
    · refine ends.imp_left fun none => ?_
      rw [List.getElem?_eq_none_iff] at none
      exact Nat.le_antisymm inside none
  | @next i n reply sql waits comes more goes =>
    obtain ⟨rfl, inside⟩ := inv.waits i n waits
    have on : s.importing = true := by rw [inv.running, waits]; rfl
    have further : s.progressDone + 1 < s.sqls.length := (List.getElem?_eq_some_iff.mp more).1
    refine ⟨inv.total, inside, ?_, ?_, ?_, ?_, fun off => ?_, inv.take waits reply⟩
    · intro p member
      rcases List.mem_append.mp member with before | new
      · exact inv.batches p before
      · exact (congrArg Post.batch (List.mem_singleton.mp new)).le
    · have imported := inv.imported
      rw [on] at imported
      have here : s.sqls.zipIdx[s.progressDone + 1]? = some (sql, s.progressDone + 1) := by
        rw [List.getElem?_zipIdx, more, Option.map_some, Nat.zero_add]
      rw [importedBy_append, if_pos (by simp [Sys.take])]
      show importedBy s.posts s.batch ++ [(sql, s.progressDone + 1)] = _
      rw [imported, if_pos rfl]
      show _ = s.sqls.zipIdx.take (s.progressDone + 1 + if s.importing = true then 1 else 0)
      rw [if_pos on, List.take_add_one (i := s.progressDone + 1), here]
      rfl
    · rintro i' n' waits'
      cases waits'
      exact ⟨rfl, further⟩
    · exact on
    · cases on.symm.trans off
  | @force idx r shown =>
    refine ⟨inv.total, inv.done, ?_, ?_, inv.waits, inv.running, inv.ended, inv.shown⟩
    · intro p member
      rcases List.mem_append.mp member with before | new
      · exact inv.batches p before
      · exact (congrArg Post.batch (List.mem_singleton.mp new)).le
    · rw [importedBy_append]
      simpa using inv.imported
  | @forced n idx reply waits comes =>
    refine ⟨inv.total, inv.done, inv.batches, inv.imported, inv.waits, inv.running, inv.ended, ?_⟩
    intro j below
    obtain ⟨e, there, done⟩ := inv.shown j below
    cases forced : reply.forced with
    | none => exact ⟨e, there, done⟩
    | some e' =>
      show ∃ e, at? (assign s.importResults idx e') j = some e ∧ _
      rw [at?_assign]
      split
      · exact ⟨e', rfl, not_pending_forced forced⟩
      · exact ⟨e, there, done⟩

/-- The start of an import: its number, and the fragments of the text that is in the box. -/
def Begins (s : Sys σ) (l : Label σ) (begun : Nat × List String) : Prop :=
  l = .start ∧ s.importing = false ∧ begun = (s.batch + 1, splitSqls s.importText) ∧ begun.2 ≠ []

theorem step_begins (h : step env s l = some t) :
    (t.batch, t.sqls) = (s.batch, s.sqls) ∨ Begins s l (t.batch, t.sqls) := by
  cases step_trans h with
  | @start sql rest idle fragments =>
    refine Or.inr ⟨rfl, idle, ?_, List.cons_ne_nil _ _⟩
    rw [fragments]
  | _ => exact Or.inl rfl

/-- Whatever the user clicks and edits, and however answers come or fail to: the import that
the page shows was started when its fragments were in the box, and `startImport` has posted
the first of them, each once and in order, one more than are done while it waits; it stops
before the last only when it was cancelled; and of those that are done none is still
pending. -/
theorem import_in_order (env : ImportEnv σ α S) (world : σ) (labels : List (Label σ)) (s : Sys σ)
    (reached : (machine env).run (opened world) labels = some s) :
    (s.batch = 0 ∧ s.sqls = [] ∨ ∃ before l after u, labels = before ++ l :: after ∧
        (machine env).run (opened world) before = some u ∧ Begins u l (s.batch, s.sqls)) ∧
      s.progressTotal = s.sqls.length ∧
      importedBy s.posts s.batch =
        s.sqls.zipIdx.take (s.progressDone + if s.importing then 1 else 0) ∧
      (s.importing = false → s.progressDone = s.progressTotal ∨ s.cancel = true) ∧
      ∀ i < s.progressDone, ∃ e, at? s.importResults i = some e ∧ e.pending = false := by
  have inv : InOrder s :=
    Machine.run_induction (fun _ _ _ inv h => inv.step h) (inOrder_opened world) reached
  refine ⟨?_, inv.total, inv.imported, fun off => inv.total ▸ inv.ended off, inv.shown⟩
  have origin := Machine.run_origin (fun s : Sys σ => (s.batch, s.sqls)) Begins
    (fun _ _ _ h => step_begins h) reached
  exact origin.imp_left Prod.mk.inj

/-! ## A forced save -/

/-- The table has a row in each database, which differ. -/
def differing : Stores (List String) (List String) Unit := ⟨["a"], ["b"], ()⟩

/-- The answer for a statement that reads the table, with a bad comparison. -/
def badComparison (sql : String) : ImportTestResp where
  mysqlSQL := sql
  redshiftSQL := some sql
  translateMs := some 3
  mysqlOk := true
  mysqlMs := some 4
  mysqlRows := some 1
  redshiftOk := true
  redshiftMs := some 5
  redshiftRows := some 1
  compareReason := "rows compared"

def forcedAnswer (sql : String) : ImportTestResp :=
  { badComparison sql with saved := true, savedId := some 1 }

/-- The first of two statements is forced while the import waits for the second. -/
def forcedImport : List (Label (Stores (List String) (List String) Unit)) :=
  [.edit "SELECT v FROM t;\nSELECT 1", .start, .handle 0,
    .answer (.answer (badComparison "SELECT v FROM t")), .force 0, .cancel, .handle 2, .handle 1,
    .forceAnswer 2 (.answer (forcedAnswer "SELECT v FROM t"))]

theorem forcedImport_shows :
    ((machine twoTables.importEnv).run (opened differing) forcedImport).map
        (fun s => (at? s.importResults 0, s.progressDone, s.importing)) =
      some (some (.answered (forcedAnswer "SELECT v FROM t") false), 1, true) := by
  decide +kernel

theorem import_in_order_forcedImport :
    ∃ s, (machine twoTables.importEnv).run (opened differing) forcedImport = some s ∧
      importedBy s.posts s.batch = s.sqls.zipIdx.take 2 := by
  obtain ⟨s, reached, shows⟩ := Option.map_eq_some_iff.mp forcedImport_shows
  simp only [Prod.mk.injEq] at shows
  have imported := (import_in_order twoTables.importEnv differing forcedImport s reached).2.2.1
  rw [shows.2.1, shows.2.2] at imported
  exact ⟨s, reached, imported⟩

end MysqlRedshift.Webui
