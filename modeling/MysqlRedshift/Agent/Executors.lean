import MysqlRedshift.Agent.ImportTest
import MysqlRedshift.Misc.Transaction

/-!
# The executors

`agent/tools/executors.py`. The two databases and their drivers are parameters: what a
statement answers and does to the rows, and which statements take effect at once.
A PyMySQL connection starts with autocommit off, and what is not committed when it is
closed is lost; a Psycopg connection commits when its `with` block is left normally,
and rolls back when it is left by an exception.
-/

namespace MysqlRedshift.Agent

open MysqlRedshift.Misc

/-- A cursor after `execute`: the names in its `description`, none if it is `None`, and
what `fetchall` gives. -/
structure Cursor (α : Type) where
  description : List String
  fetchall : Except String (List (List α))
  deriving Repr

/-- A database over rows `R`, and the driver in front of it. -/
structure Database (R α : Type) where
  connect : Except String Unit
  /-- Whether a statement takes effect at once. -/
  ddl : String → Bool
  execute : String → R → Except String (Cursor α) × R
  commit : Except String Unit

variable {R α : Type}

/-- `cols` and `rows`, in the body of both executors. -/
def Cursor.read (cur : Cursor α) : Except String (List String × List (List α)) :=
  if cur.description.isEmpty then .ok ([], [])
  else cur.fetchall.map fun rows => (cur.description, rows)

/-- The statement on a connection, with the answer read. -/
def Database.run (db : Database R α) (sql : String) (conn : Session R) :
    Except String (List String × List (List α)) × Session R :=
  let (result, conn) :=
    if db.ddl sql then conn.performNow (db.execute sql) else conn.perform (db.execute sql)
  (result.bind Cursor.read, conn)

/-- `run_mysql`, for the stored rows and the milliseconds that it takes. -/
def runMysql (db : Database R α) (ms : Int) (sql : String) (stored : R) :
    Except String (Executed α) × R :=
  match db.connect with
  | .error e => (.error e, stored)
  | .ok () =>
    let (result, conn) := db.run sql (.start stored)
    -- `conn.close()`, whether or not there was an exception
    let conn := conn.rollback
    (result.map fun (cols, rows) => ⟨cols, rows, ms⟩, conn.stored)

/-- `run_redshift`. -/
def runRedshift (db : Database R α) (ms : Int) (sql : String) (stored : R) :
    Except String (Executed α) × R :=
  match db.connect with
  | .error e => (.error e, stored)
  | .ok () =>
    match db.run sql (.start stored) with
    | (.error e, conn) => (.error e, conn.rollback.stored)
    | (.ok (cols, rows), conn) =>
      match db.commit with
      | .error e => (.error e, conn.rollback.stored)
      | .ok () => (.ok ⟨cols, rows, ms⟩, conn.commit.stored)

/-! ## What they leave stored -/

/-- The database can be reached, and the statement's answer is read without an error. -/
def Database.Completes (db : Database R α) (sql : String) (stored : R) : Prop :=
  db.connect = .ok () ∧ ∃ read, (db.execute sql stored).1.bind Cursor.read = .ok read

variable {db : Database R α} {sql : String}

theorem Database.run_eq (transactional : db.ddl sql = false) (conn : Session R) :
    db.run sql conn = ((conn.perform (db.execute sql)).1.bind Cursor.read,
      (conn.perform (db.execute sql)).2) := by
  simp only [Database.run, transactional, Bool.false_eq_true, if_false]

/-- MySQL stores nothing, whether the statement completes or not. -/
theorem runMysql_cases (transactional : db.ddl sql = false) (ms : Int) (stored : R) :
    (db.Completes sql stored ∧ ∃ out, runMysql db ms sql stored = (.ok out, stored)) ∨
      (¬ db.Completes sql stored ∧ ∃ e, runMysql db ms sql stored = (.error e, stored)) := by
  unfold runMysql Database.Completes
  cases db.connect with
  | error e => exact Or.inr ⟨by simp, e, rfl⟩
  | ok u =>
    simp only [Database.run_eq transactional, Session.perform_start, Session.stored_rollback]
    cases (db.execute sql stored).1.bind Cursor.read with
    | error e => exact Or.inr ⟨by simp, e, rfl⟩
    | ok read => exact Or.inl ⟨⟨trivial, read, rfl⟩, ⟨read.1, read.2, ms⟩, rfl⟩

/-- Redshift stores what a statement did that completes, and can be committed. -/
theorem runRedshift_cases (transactional : db.ddl sql = false) (ms : Int) (stored : R) :
    ((db.Completes sql stored ∧ db.commit = .ok ()) ∧
        ∃ out, runRedshift db ms sql stored = (.ok out, (db.execute sql stored).2)) ∨
      (¬ (db.Completes sql stored ∧ db.commit = .ok ()) ∧
        ∃ e, runRedshift db ms sql stored = (.error e, stored)) := by
  unfold runRedshift Database.Completes
  cases db.connect with
  | error e => exact Or.inr ⟨by simp, e, rfl⟩
  | ok u =>
    simp only [Database.run_eq transactional, Session.perform_start]
    have rolled_back := Session.stored_rollback stored (db.execute sql)
    have committed := Session.stored_commit stored (db.execute sql)
    cases (db.execute sql stored).1.bind Cursor.read with
    | error e => exact Or.inr ⟨by simp, e, Prod.ext rfl rolled_back⟩
    | ok read =>
      cases db.commit with
      | error e => exact Or.inr ⟨by simp, e, Prod.ext rfl rolled_back⟩
      | ok u =>
        exact Or.inl ⟨⟨⟨trivial, read, rfl⟩, rfl⟩, ⟨read.1, read.2, ms⟩, Prod.ext rfl committed⟩

end MysqlRedshift.Agent
