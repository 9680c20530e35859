import Mathlib.Tactic.TypeStar

/-!
# Sessions on a database

A session works on rows of its own, which start as the stored ones. What a statement
does to them is stored at a commit, or at once for a statement that is not part of the
transaction.
-/

namespace MysqlRedshift.Misc

/-- The rows as they are stored, and as the session has them. -/
structure Session (R : Type*) where
  stored : R
  working : R
  deriving DecidableEq, Repr

namespace Session

variable {R A : Type*}

/-- A new session. -/
def start (rows : R) : Session R := ⟨rows, rows⟩

/-- A statement within the transaction. -/
def perform (s : Session R) (statement : R → A × R) : A × Session R :=
  ((statement s.working).1, { s with working := (statement s.working).2 })

def commit (s : Session R) : Session R := { s with stored := s.working }

def rollback (s : Session R) : Session R := { s with working := s.stored }

/-- A statement that ends the transaction before it, and is stored at once. -/
def performNow (s : Session R) (statement : R → A × R) : A × Session R :=
  ((s.perform statement).1, (s.perform statement).2.commit)

/-! ## Sessions of one statement -/

@[simp] theorem perform_start (rows : R) (statement : R → A × R) :
    ((start rows).perform statement).1 = (statement rows).1 := rfl

/-- A statement that is not committed leaves no trace. -/
@[simp] theorem stored_rollback (rows : R) (statement : R → A × R) :
    ((start rows).perform statement).2.rollback.stored = rows := rfl

@[simp] theorem stored_commit (rows : R) (statement : R → A × R) :
    ((start rows).perform statement).2.commit.stored = (statement rows).2 := rfl

end Session

end MysqlRedshift.Misc
