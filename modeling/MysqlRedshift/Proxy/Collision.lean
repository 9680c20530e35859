import MysqlRedshift.Proxy.ServerProps

/-!
# Two queries under one key

What a collision of keys costs, in a world that shows it: the agent translates one
query and no other, and Redshift accepts every text. A later query with the key of
that one is then answered from its entry, while on an empty cache it would fail.
-/

namespace MysqlRedshift.Proxy

open MysqlRedshift.Misc

variable {C : Type}

/-- The only text that the agent returns. -/
def soleText : String := "SELECT 1"

/-- The result of every text. -/
def oneRow : Result := ⟨["id"], [[.int 1]]⟩

/-- The agent translates `x` only; Redshift accepts every text. -/
def soleAnswer (x : String) : World Unit :=
  .fixed (fun req => if req.sql = x then .ok { redshiftSQL := soleText } else .error "refused")
    fun _ => (.ok oneRow, 0)

section

variable {srv : Server C} {x query : String} {st : State Unit C}

/-- In this world a first text always wins, and is saved for the query at hand. -/
theorem runFirst_soleAnswer (attempts : 1 ≤ srv.cfg.maxAttempts) (st : State Unit C) :
    runFirst srv (soleAnswer x) query soleText st = (reply srv.wire oneRow,
      { st with
        saves := runtimeSave query soleText oneRow 0 :: st.saves
        trace := .execSelect query soleText (.ok oneRow) :: st.trace }) := by
  obtain ⟨left, some_left⟩ := Nat.exists_eq_succ_of_ne_zero
    (show srv.cfg.maxAttempts.toNat ≠ 0 by omega)
  have short : 0 < oneRow.rows.length ∧ goLen soleText < 8000 := by decide
  simp only [runFirst, execWithRetry, some_left, retryLoop, callRedshift, soleAnswer, World.fixed,
    remember, ne_eq, not_true_eq_false, if_false, if_pos short]

/-- The cache holds the sole text, under the key of `x`, or nothing, and the agent
has answered for `x` only. -/
structure Sole (srv : Server C) (x : String) (st : State Unit C) : Prop where
  entries : ∀ k text, srv.lru.contents st.cache k = some text → k = srv.key x ∧ text = soleText
  answers : ∀ req resp, Event.translate req (.ok resp) ∈ st.trace → req.sql = x

theorem sole_start {cache : C} {size : Int} (made : Cache.new srv.lru size = .ok cache) :
    Sole srv x { cache, env := () } where
  entries k text held := by
    rw [srv.lru.contents_new made k] at held
    cases held
  answers req resp answered := by cases answered

/-- A query that finds the sole text is answered and saved with it. -/
theorem handleQuery_sole_hit (attempts : 1 ≤ srv.cfg.maxAttempts)
    (routed : srv.onRedshift query = true)
    (held : srv.lru.contents st.cache (srv.key query) = some soleText) :
    handleQuery srv (soleAnswer x) query st = (reply srv.wire oneRow,
      { st with
        cache := looked srv query st.cache
        saves := runtimeSave query soleText oneRow 0 :: st.saves
        trace := .execSelect query soleText (.ok oneRow) :: st.trace }) := by
  rw [handleQuery_onRedshift routed, handleRedshift, firstSQL_hit held]
  exact runFirst_soleAnswer attempts _

/-- Another query than `x` that finds nothing fails. -/
theorem handleQuery_sole_refused (routed : srv.onRedshift query = true) (other : query ≠ x)
    (held : srv.lru.contents st.cache (srv.key query) = none) :
    handleQuery srv (soleAnswer x) query st = (.error (.translateFailed "refused"),
      { st with
        cache := looked srv query st.cache
        trace := .translate { sql := query } (.error "refused") :: st.trace }) := by
  have answered : (soleAnswer x).translate { sql := query } st.env = (.error "refused", ()) := by
    simp only [soleAnswer, World.fixed, if_neg other]
  rw [handleQuery_onRedshift routed, handleRedshift, firstSQL_error held answered]

theorem handleQuery_sole_made (attempts : 1 ≤ srv.cfg.maxAttempts)
    (routed : srv.onRedshift x = true)
    (held : srv.lru.contents st.cache (srv.key x) = none) :
    handleQuery srv (soleAnswer x) x st = (reply srv.wire oneRow,
      { st with
        cache := Cache.set srv.lru (looked srv x st.cache) (srv.key x) soleText
        saves := runtimeSave x soleText oneRow 0 :: st.saves
        trace := .execSelect x soleText (.ok oneRow) ::
          .translate { sql := x } (.ok { redshiftSQL := soleText }) :: st.trace }) := by
  have answered : (soleAnswer x).translate { sql := x } st.env =
      (.ok { redshiftSQL := soleText }, ()) := by
    simp only [soleAnswer, World.fixed, if_true]
  rw [handleQuery_onRedshift routed, handleRedshift, firstSQL_miss held answered]
  exact runFirst_soleAnswer attempts _

/-- One call keeps the state sole; the entry of `x` is there after `x`, and stays. -/
theorem sole_step (attempts : 1 ≤ srv.cfg.maxAttempts) (live : srv.onRedshift x = true)
    (sole : Sole srv x st) (query : String) :
    Sole srv x (handleQuery srv (soleAnswer x) query st).2 ∧
      st.saves ⊆ (handleQuery srv (soleAnswer x) query st).2.saves ∧
      (query = x ∨ srv.lru.contents st.cache (srv.key x) = some soleText →
        srv.lru.contents (handleQuery srv (soleAnswer x) query st).2.cache (srv.key x) =
          some soleText) := by
  cases routed : srv.onRedshift query with
  | false =>
    have idle := handleQuery_unrouted routed (soleAnswer x) st
    rw [idle.cache, idle.saves]
    refine ⟨⟨?_, ?_⟩, fun _ => id, ?_⟩
    · rw [idle.cache]
      exact sole.entries
    · rw [idle.trace]
      exact sole.answers
    · rintro (rfl | held)
      · rw [live] at routed; cases routed
      · exact held
  | true =>
    cases held : srv.lru.contents st.cache (srv.key query) with
    | some text =>
      obtain ⟨keyed, rfl⟩ := sole.entries _ _ held
      rw [handleQuery_sole_hit attempts routed held]
      refine ⟨⟨fun k text held' => sole.entries k text (by simpa using held'), ?_⟩,
        fun _ => List.mem_cons_of_mem _, fun _ => ?_⟩
      · intro req resp answered
        exact sole.answers req resp (by simpa using answered)
      · rw [keyed] at held
        simpa using held
    | none =>
      by_cases other : query = x
      · subst other
        rw [handleQuery_sole_made attempts live held]
        refine ⟨⟨fun k text held' => ?_, ?_⟩, fun _ => List.mem_cons_of_mem _,
          fun _ => srv.lru.contents_add_self ..⟩
        · rcases srv.lru.contents_add_some held' with made | old
          · exact made
          · exact sole.entries k text (by simpa using old)
        · intro req resp answered
          rcases List.mem_cons.mp (List.mem_of_ne_of_mem (by simp) answered) with made | old
          · cases made; rfl
          · exact sole.answers req resp old
      · rw [handleQuery_sole_refused routed other held]
        refine ⟨⟨fun k text held' => sole.entries k text (by simpa using held'), ?_⟩,
          fun _ => id, ?_⟩
        · intro req resp answered
          exact sole.answers req resp (by simpa using answered)
        · rintro (same | held')
          · exact absurd same other
          · simpa using held'

/-- A run keeps the state sole, and the entry of `x` is there once `x` is served. -/
theorem sole_serve (attempts : 1 ≤ srv.cfg.maxAttempts) (live : srv.onRedshift x = true)
    (sole : Sole srv x st) (queries : List String) :
    Sole srv x (serve srv (soleAnswer x) queries st).2 ∧
      st.saves ⊆ (serve srv (soleAnswer x) queries st).2.saves ∧
      (x ∈ queries ∨ srv.lru.contents st.cache (srv.key x) = some soleText →
        srv.lru.contents (serve srv (soleAnswer x) queries st).2.cache (srv.key x) =
          some soleText) := by
  induction queries generalizing st with
  | nil => exact ⟨sole, fun _ => id, by simp [serve]⟩
  | cons query queries ih =>
    obtain ⟨sole₁, saved₁, held₁⟩ := sole_step attempts live sole query
    obtain ⟨sole₂, saved₂, held₂⟩ := ih sole₁
    rw [serve_cons]
    refine ⟨sole₂, fun _ member => saved₂ (saved₁ member), ?_⟩
    rintro (member | held)
    · rcases List.mem_cons.mp member with rfl | later
      · exact held₂ (Or.inr (held₁ (Or.inl rfl)))
      · exact held₂ (Or.inl later)
    · exact held₂ (Or.inr (held₁ (Or.inr held)))

end

/-- Of two members of a list one comes first. -/
theorem one_before_other {α : Type} {a b : α} {l : List α} (ha : a ∈ l) (hb : b ∈ l)
    (hne : a ≠ b) :
    (∃ before after, l = before ++ b :: after ∧ a ∈ before) ∨
      (∃ before after, l = before ++ a :: after ∧ b ∈ before) := by
  obtain ⟨before, after, rfl⟩ := List.append_of_mem hb
  rcases List.mem_append.mp ha with first | last
  · exact Or.inl ⟨before, after, rfl, first⟩
  · rcases List.mem_cons.mp last with same | last
    · exact absurd same hne
    · obtain ⟨middle, after', rfl⟩ := List.append_of_mem last
      exact Or.inr ⟨before ++ b :: middle, after', by simp, by simp⟩

/-! ## Queries to try -/

def nameOf1 : String := "SELECT name FROM t WHERE id = 1"

def nameOf2 : String := "SELECT name FROM t WHERE id = 2"

def countOrders : String := "SELECT COUNT(*) FROM orders"

theorem onRedshift_nameOf1 : defaultServer.onRedshift nameOf1 = true := by decide +kernel

theorem onRedshift_nameOf2 : defaultServer.onRedshift nameOf2 = true := by decide +kernel

theorem onRedshift_two : ∀ q ∈ [nameOf1, countOrders], defaultServer.onRedshift q = true := by
  refine List.forall_mem_cons.mpr ⟨onRedshift_nameOf1, List.forall_mem_singleton.mpr ?_⟩
  decide +kernel

theorem normalize_nameOf1 :
    Cache.normalize .ascii nameOf1 = "select name from t where id = ?" := by
  decide +kernel

theorem key_nameOf2 : defaultServer.key nameOf2 = defaultServer.key nameOf1 := by
  have same : Cache.normalize .ascii nameOf2 = Cache.normalize .ascii nameOf1 := by
    rw [normalize_nameOf1]
    decide +kernel
  exact congrArg defaultServer.md5 same

theorem key_countOrders : defaultServer.key countOrders ≠ defaultServer.key nameOf1 := by
  have other : defaultServer.key countOrders ≠
      defaultServer.md5 "select name from t where id = ?" := by
    decide +kernel
  rwa [← normalize_nameOf1] at other

theorem collisionFree_two : CollisionFree defaultServer [nameOf1, countOrders] := by
  intro q member q' member' collide
  simp only [List.mem_cons, List.not_mem_nil, or_false] at member member'
  rcases member with rfl | rfl <;> rcases member' with rfl | rfl
  · rfl
  · exact absurd collide.symm key_countOrders
  · exact absurd collide key_countOrders
  · rfl

/-- The first query comes again, and is answered from the cache. -/
def askedAgain : List String := [nameOf1, countOrders, nameOf1]

theorem mem_askedAgain {q : String} (member : q ∈ askedAgain) : q ∈ [nameOf1, countOrders] := by
  simp only [askedAgain, List.mem_cons, List.not_mem_nil, or_false] at member
  rcases member with rfl | rfl | rfl <;> simp

theorem onRedshift_askedAgain : ∀ q ∈ askedAgain, defaultServer.onRedshift q = true :=
  fun q member => onRedshift_two q (mem_askedAgain member)

theorem collisionFree_askedAgain : CollisionFree defaultServer askedAgain :=
  fun q member q' member' => collisionFree_two q (mem_askedAgain member) q' (mem_askedAgain member')

end MysqlRedshift.Proxy
