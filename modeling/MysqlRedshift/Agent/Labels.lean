import MysqlRedshift.Agent.ImportTest
import MysqlRedshift.Agent.KnowledgeRuns
import MysqlRedshift.Proxy.Server

/-!
# Verification labels

The writers of the knowledge base are the proxy's runtime saves, the seed script and
`import_test`. What a row says about itself is what the call that wrote it last said
of its own pair, so the label of a verification stands only on a verified pair. The
one place where columns of two calls could meet is the conflict clause, which keeps
`mysql_sql`: there the digest has to tell texts apart.
-/

namespace MysqlRedshift.Agent

open MysqlRedshift.Misc Knowledge

/-- The body that the proxy posts to `/save_example`, as the endpoint reads it: empty
fields are left out of it, and have the defaults of the endpoint. -/
def received (req : Proxy.SaveReq) : SaveArgs where
  mysqlSQL := req.mysqlSQL
  redshiftSQL := req.redshiftSQL
  usedRules := req.usedRules
  rowCount := if req.rowCount = 0 then none else some req.rowCount
  mysqlMs := if req.mysqlMs = 0 then none else some req.mysqlMs
  redshiftMs := if req.redshiftMs = 0 then none else some req.redshiftMs
  compareMode := if req.compareMode = "" then "strict" else req.compareMode
  source := if req.source = "" then "runtime" else req.source

/-- An entry of `SEEDS`. -/
structure Seed where
  mysql : String
  redshift : String
  rules : List String
  deriving DecidableEq, Repr

/-- What the seed script posts for an entry, as the endpoint reads it. -/
def Seed.saveArgs (s : Seed) : SaveArgs :=
  { mysqlSQL := s.mysql, redshiftSQL := s.redshift, usedRules := s.rules, compareMode := "skipped",
    source := "seed" }

def documentedModes : List String := ["strict", "lenient", "skipped"]

/-- Who makes a save, with what it makes it from. -/
inductive Writer (σ α S : Type) where
  | runtime (query winningSQL : String) (result : Proxy.Result) (rsMs : Int)
  | seed (s : Seed)
  | importTest (env : ImportEnv σ α S) (req : ImportTestReq) (s : σ)
      (documented : req.compareMode ∈ documentedModes)

variable {σ α S V T : Type} [LinearOrder T] {kb : Env V T}

/-- The save that a writer makes, if it makes one. -/
def Writer.saveArgs : Writer σ α S → Option SaveArgs
  | .runtime query winningSQL result rsMs =>
    some (received (Proxy.runtimeSave query winningSQL result rsMs))
  | .seed s => some s.saveArgs
  | .importTest env req s _ =>
    match (importVerify env req s).1 with
    | .ok (_, args) => args
    | .error _ => none

/-- The columns of a row that a save decides, and that the labels are about. -/
def CameFrom (r : Row V) (args : SaveArgs) : Prop :=
  r.mysqlSQL = args.mysqlSQL ∧ r.redshiftSQL = args.redshiftSQL ∧
    r.compareMode = args.compareMode ∧ r.source = args.source

/-- A row's four columns come from one call, and its label is true of the run of that
call: a good comparison with the mode that it names, or a forced bad one. -/
def Truthful (w : Nat → Writer σ α S) (s : State V kb.md5) (r : Row V) : Prop :=
  ∃ i c, s.calls i = some c ∧ CameFrom r c.args ∧
    (r.compareMode = "strict" ∨ r.compareMode = "lenient" →
      ∃ env req st documented, w i = .importTest env req st documented ∧
        req.mysqlSQL = r.mysqlSQL ∧ ComparedAs env req st r.redshiftSQL r.compareMode true) ∧
    (r.compareMode = "override" →
      ∃ env req st documented, w i = .importTest env req st documented ∧
        req.mysqlSQL = r.mysqlSQL ∧ req.forceSave = true ∧
        ComparedAs env req st r.redshiftSQL req.compareMode false)

/-- Saves are made by their writers. -/
def MadeBy (kb : Env V T) (w : Nat → Writer σ α S) (_ : State V kb.md5) : Action → Prop
  | .call i args => (w i).saveArgs = some args
  | _ => True

/-! ## The invariant -/

structure Signed (kb : Env V T) (w : Nat → Writer σ α S) (s : State V kb.md5) : Prop where
  calls : ∀ i c, s.calls i = some c → (w i).saveArgs = some c.args
  rows : ∀ r ∈ s.table.rows, ∃ i c, s.calls i = some c ∧ CameFrom r c.args

omit [LinearOrder T] in
/-- A call that moves on keeps its arguments. -/
theorem Signed.moved {w : Nat → Writer σ α S} {s : State V kb.md5} (signed : Signed kb w s)
    {i : Nat} {c : Call} (live : s.calls i = some c) (pc : Pc) :
    (∀ j c', (s.moveTo kb i c pc).calls j = some c' → (w j).saveArgs = some c'.args) ∧
      ∀ r ∈ s.table.rows, ∃ j c', (s.moveTo kb i c pc).calls j = some c' ∧ CameFrom r c'.args := by
  refine ⟨?_, ?_⟩
  · intro j c' live'
    rcases update_some_cases live' with ⟨rfl, rfl⟩ | ⟨-, before⟩
    · exact signed.calls j c live
    · exact signed.calls j c' before
  · intro r member
    obtain ⟨j, c', before, came⟩ := signed.rows r member
    by_cases same : j = i
    · subst same
      rw [live, Option.some.injEq] at before
      subst before
      exact ⟨j, _, Function.update_self .., came⟩
    · exact ⟨j, c', (Function.update_of_ne same ..).trans before, came⟩

theorem Signed.step {w : Nat → Writer σ α S} {s t : State V kb.md5} {a : Action}
    (signed : Signed kb w s) (made : MadeBy kb w s a) (digest : DigestTells kb s a)
    (h : step kb s a = some t) : Signed kb w t := by
  cases step_trans h with
  | @call i args free =>
    refine ⟨?_, ?_⟩
    · intro j c live
      rcases update_some_cases live with ⟨rfl, rfl⟩ | ⟨-, before⟩
      · exact made
      · exact signed.calls j c before
    · intro r member
      obtain ⟨j, c, before, came⟩ := signed.rows r member
      have other : j ≠ i := fun same => by rw [same, free] at before; cases before
      exact ⟨j, c, (Function.update_of_ne other ..).trans before, came⟩
  | nearest live | fail live =>
    obtain ⟨calls, rows⟩ := signed.moved live _
    exact ⟨calls, rows⟩
  | bump live =>
    obtain ⟨calls, rows⟩ := signed.moved live _
    refine ⟨calls, fun r member => ?_⟩
    obtain ⟨old, before, _, _, rfl⟩ := Table.mem_bump member
    exact rows old before
  | @insert i now args live fits =>
    obtain ⟨calls, rows⟩ := signed.moved live (.done (some (s.table.upsertId args)))
    refine ⟨calls, fun r member => ?_⟩
    rcases Table.mem_upsert_iff.mp member with ⟨before, -⟩ | ⟨old, before, keyed, rfl⟩ | ⟨-, rfl⟩
    · exact rows r before
    · exact ⟨i, _, Function.update_self .., digest _ live old before keyed, rfl, rfl, rfl⟩
    · exact ⟨i, _, Function.update_self .., rfl, rfl, rfl, rfl⟩
  | retrieve =>
    refine ⟨signed.calls, fun r member => ?_⟩
    obtain ⟨old, before, _, _, rfl⟩ := Table.mem_bump member
    exact signed.rows old before
  | delete => exact ⟨signed.calls, fun r member => signed.rows r (Table.mem_delete member)⟩

/-! ## Labels -/

/-- Runtime saves and seeds are labelled as skipped. -/
theorem label_of_save {w : Writer σ α S} {args : SaveArgs} (made : w.saveArgs = some args) :
    args.compareMode = "skipped" ∨
      ∃ env req st documented, w = .importTest env req st documented ∧
        args.mysqlSQL = req.mysqlSQL ∧
        (args.compareMode = req.compareMode ∧
            ComparedAs env req st args.redshiftSQL req.compareMode true ∨
          args.compareMode = "override" ∧ req.forceSave = true ∧
            ComparedAs env req st args.redshiftSQL req.compareMode false) := by
  cases w with
  | runtime query winningSQL result rsMs =>
    rw [Writer.saveArgs, Option.some.injEq] at made
    subst made
    exact Or.inl rfl
  | seed s =>
    rw [Writer.saveArgs, Option.some.injEq] at made
    subst made
    exact Or.inl rfl
  | importTest env req st documented =>
    rcases verified : importVerify env req st with ⟨err | ⟨resp, saved⟩, st'⟩
    · simp [Writer.saveArgs, verified] at made
    · simp only [Writer.saveArgs, verified] at made
      subst made
      obtain ⟨text, -, label⟩ := importVerify_saves verified
      exact Or.inr ⟨env, req, st, documented, rfl, text, label⟩

/-- In every reachable state, whatever interleaves and fails, every row's label is true
of the call that its columns come from. -/
theorem labels_truthful (kb : Env V T) (w : Nat → Writer σ α S) (acts : List Action)
    (made : (machine kb).Along (MadeBy kb w) (start kb) acts)
    (digest : (machine kb).Along (DigestTells kb) (start kb) acts) (s : State V kb.md5)
    (reached : (machine kb).run (start kb) acts = some s) :
    ∀ r ∈ s.table.rows, Truthful w s r := by
  have each : ∀ s a t, Signed kb w s → MadeBy kb w s a ∧ DigestTells kb s a →
      (machine kb).step s a = some t → Signed kb w t :=
    fun s a t signed sound h => signed.step sound.1 sound.2 h
  have signed : Signed kb w s := by
    refine Machine.run_induction_along each ?_ (Machine.along_and made digest) reached
    refine ⟨?_, ?_⟩
    · intro i c live
      cases live
    · intro r member
      cases member
  intro r member
  obtain ⟨i, c, live, came⟩ := signed.rows r member
  obtain ⟨text, translation, label, source⟩ := came
  refine ⟨i, c, live, ⟨text, translation, label, source⟩, ?_, ?_⟩
  · intro named
    rcases label_of_save (signed.calls i c live) with
      skipped | ⟨env, req, st, documented, writer, of_req, good | ⟨override, -⟩⟩
    · rw [label, skipped] at named
      simp at named
    · refine ⟨env, req, st, documented, writer, of_req.symm.trans text.symm, ?_⟩
      rw [translation, label, good.1]
      exact good.2
    · rw [label, override] at named
      simp at named
  · intro named
    rcases label_of_save (signed.calls i c live) with
      skipped | ⟨env, req, st, documented, writer, of_req, good | ⟨-, forced, bad⟩⟩
    · rw [label, skipped] at named
      simp at named
    · have mode : req.compareMode = "override" := by rw [← good.1, ← label, named]
      rw [mode] at documented
      simp [documentedModes] at documented
    · rw [← translation] at bad
      exact ⟨env, req, st, documented, writer, of_req.symm.trans text.symm, forced, bad⟩

/-- Both sides count the same seven orders. -/
def sevenOrders : ImportEnv Unit Nat Nat where
  translate _ s := (.ok ⟨"SELECT COUNT(*) FROM orders WHERE true", [], 3, "initial", 0, []⟩, s)
  runMysql _ s := (.ok ⟨["COUNT(*)"], [[7]], 4⟩, s)
  runRedshift _ s := (.ok ⟨["count"], [[7]], 5⟩, s)
  compare my rs _ _ _ := .ok ⟨my = rs, "rows compared"⟩
  saveExample _ s := (some 1, s)

def seedOrders : Seed := ⟨ordersText, "SELECT COUNT(*) FROM orders WHERE true", []⟩

/-- The seed script first, and then imports. -/
def seedThenImports : Nat → Writer Unit Nat Nat
  | 0 => .seed seedOrders
  | _ => .importTest sevenOrders ⟨ordersText, "strict", false⟩ () (by decide)

/-- The save of an import. -/
def verifiedOrders : SaveArgs :=
  ⟨ordersText, "SELECT COUNT(*) FROM orders WHERE true", [], some 1, some 4, some 5, "strict",
    "import"⟩

/-- The import meets the row of the seed, and puts its label on it. -/
def savedTwice : List Action :=
  [.call 0 seedOrders.saveArgs, .insert 0 1, .call 1 verifiedOrders, .insert 1 2]

theorem labels_truthful_savedTwice :
    ∃ s, (machine sameTextOnly).run (start sameTextOnly) savedTwice = some s ∧
      (s.table.rows.map fun r => (r.id, r.compareMode)) = [(1, "strict")] ∧
        ∀ r ∈ s.table.rows, Truthful seedThenImports s r := by
  refine ⟨_, rfl, rfl, ?_⟩
  refine labels_truthful sameTextOnly seedThenImports savedTwice ?_ ?_ _ rfl
  · refine Machine.along_step rfl rfl (Machine.along_step rfl trivial ?_)
    exact Machine.along_step rfl rfl (Machine.along_step rfl trivial (Machine.along_nil _ _))
  · refine Machine.along_step rfl trivial (Machine.along_step rfl ?_ ?_)
    · intro c live r member
      cases member
    · refine Machine.along_step rfl trivial (Machine.along_step rfl ?_ (Machine.along_nil _ _))
      intro args live r member _
      cases live
      rw [List.mem_singleton.mp member]
      rfl

end MysqlRedshift.Agent
