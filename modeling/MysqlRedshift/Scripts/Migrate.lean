import Mathlib.Logic.Function.Basic
import MysqlRedshift.Misc.Transaction

/-!
# The refresh of a Redshift table

`scripts/migrate_simple.py`: each table is dumped from Aurora, uploaded to S3, and
copied into Redshift. The dump and the upload are a parameter, and so is what `COPY`
makes of a file and what fails. For Redshift, `TRUNCATE` commits the transaction that
it is in, and a `COPY` that fails does nothing; what is not committed when the
connection is closed is lost.
-/

namespace MysqlRedshift.Scripts

open MysqlRedshift.Misc

/-- The rows of each table. -/
abbrev Tables (ρ : Type) := String → List ρ

/-- `get_frozen_credentials()`; an absent token is empty. -/
structure Credentials where
  accessKey : String
  secretKey : String
  token : String
  deriving DecidableEq, Repr

/-- The settings of the script that the copy reads. -/
structure Settings where
  iamRole : String
  region : String
  session : Except String Credentials

/-- A statement of `copy_into_redshift`. -/
inductive Statement where
  | truncate (table : String)
  | copy (table s3Uri creds region : String)
  | count (table : String)
  deriving DecidableEq, Repr

def Statement.text : Statement → String
  | .truncate table => "TRUNCATE TABLE " ++ table
  | .copy table s3Uri creds region =>
    "\n            COPY " ++ table ++
    "\n            FROM '" ++ s3Uri ++ "'" ++
    "\n            " ++ creds ++
    "\n            FORMAT AS CSV" ++
    "\n            IGNOREHEADER 1" ++
    "\n            EMPTYASNULL" ++
    "\n            BLANKSASNULL" ++
    "\n            TIMEFORMAT 'YYYY-MM-DD HH:MI:SS'" ++
    "\n            REGION '" ++ region ++ "'" ++
    "\n        "
  | .count table => "SELECT COUNT(*) FROM " ++ table

/-- Redshift during a refresh: the exception that a statement or the commit raises, be it
for a permission or a lost connection, and the rows of a file, or what `COPY` finds
wrong with them. -/
structure Cluster (ρ : Type) where
  refuses : String → Option String
  load : String → Except String (List ρ)
  commit : Option String

variable {ρ : Type}

/-- `cur.execute`, with the number that `fetchone` gives for a count. -/
def execute (cluster : Cluster ρ) (stmt : Statement) (conn : Session (Tables ρ)) :
    Except String Nat × Session (Tables ρ) :=
  match cluster.refuses stmt.text with
  | some e => (.error e, conn)
  | none =>
    match stmt with
    | .truncate table => conn.performNow fun rows => (.ok 0, Function.update rows table [])
    | .copy table s3Uri _ _ =>
      match cluster.load s3Uri with
      | .error e => (.error e, conn)
      | .ok new =>
        conn.perform fun rows => (.ok 0, Function.update rows table (rows table ++ new))
    | .count table => conn.perform fun rows => (.ok (rows table).length, rows)

/-- The authorization of the `COPY`. -/
def credsText (settings : Settings) : Except String String :=
  if settings.iamRole ≠ "" then .ok ("IAM_ROLE '" ++ settings.iamRole ++ "'")
  else
    settings.session.map fun c =>
      if c.token ≠ "" then
        "ACCESS_KEY_ID '" ++ c.accessKey ++ "' " ++ "SECRET_ACCESS_KEY '" ++ c.secretKey ++ "' " ++
          "SESSION_TOKEN '" ++ c.token ++ "'"
      else "ACCESS_KEY_ID '" ++ c.accessKey ++ "' SECRET_ACCESS_KEY '" ++ c.secretKey ++ "'"

/-- `copy_into_redshift`, with the count that it prints. -/
def copyIntoRedshift (settings : Settings) (cluster : Cluster ρ) (table s3Uri : String)
    (conn : Session (Tables ρ)) : Except String Nat × Session (Tables ρ) :=
  match credsText settings with
  | .error e => (.error e, conn)
  | .ok creds =>
    match execute cluster (.truncate table) conn with
    | (.error e, conn) => (.error e, conn)
    | (.ok _, conn) =>
      match execute cluster (.copy table s3Uri creds settings.region) conn with
      | (.error e, conn) => (.error e, conn)
      | (.ok _, conn) =>
        match cluster.commit with
        | some e => (.error e, conn)
        | none => execute cluster (.count table) conn.commit

/-- The loop of `main` over the tables; `upload` dumps one and gives the address of the file. -/
def migrate (settings : Settings) (cluster : Cluster ρ) (upload : String → Except String String) :
    List String → Session (Tables ρ) → Except String Unit × Session (Tables ρ)
  | [], conn => (.ok (), conn)
  | t :: ts, conn =>
    match upload t with
    | .error e => (.error e, conn)
    | .ok uri =>
      match copyIntoRedshift settings cluster t uri conn with
      | (.error e, conn) => (.error e, conn)
      | (.ok _, conn) => migrate settings cluster upload ts conn

/-- `TABLES`. -/
def migratedTables : List String := ["ads_thor_fin_payment_iap_data_new"]

/-- `main`: the connection is closed at the end, also after an exception. -/
def main (settings : Settings) (cluster : Cluster ρ) (upload : String → Except String String)
    (stored : Tables ρ) : Except String Unit × Tables ρ :=
  let (result, conn) := migrate settings cluster upload migratedTables (.start stored)
  (result, conn.rollback.stored)

/-! ## What a refresh leaves -/

/-- The tables after a refresh on a connection of its own. -/
def refreshed (settings : Settings) (cluster : Cluster ρ) (table s3Uri : String)
    (stored : Tables ρ) : Tables ρ :=
  (copyIntoRedshift settings cluster table s3Uri (.start stored)).2.rollback.stored

/-- The refresh gets as far as to truncate the table. -/
def Truncates (settings : Settings) (cluster : Cluster ρ) (table : String) : Prop :=
  (∃ creds, credsText settings = .ok creds) ∧ cluster.refuses (Statement.truncate table).text = none

/-- The `COPY` of the file and its commit succeed. -/
def Loads (settings : Settings) (cluster : Cluster ρ) (table s3Uri : String) : Prop :=
  (∃ creds, credsText settings = .ok creds ∧
      cluster.refuses (Statement.copy table s3Uri creds settings.region).text = none) ∧
    (∃ new, cluster.load s3Uri = .ok new) ∧ cluster.commit = none

variable {settings : Settings} {cluster : Cluster ρ} {table s3Uri : String} {stored : Tables ρ}

theorem execute_truncate (cluster : Cluster ρ) (table : String) (stored : Tables ρ) :
    execute cluster (.truncate table) (.start stored) =
      match cluster.refuses (Statement.truncate table).text with
      | some e => (.error e, .start stored)
      | none => (.ok 0, .start (Function.update stored table [])) := rfl

/-- What a count does to the stored rows is nothing. -/
theorem execute_count (cluster : Cluster ρ) (table : String) (stored : Tables ρ) :
    (execute cluster (.count table) (.start stored)).2 = .start stored := by
  simp only [execute]
  split <;> rfl

/-- The rest of a refresh, on a table that is empty already: the file is loaded, or nothing
happens. -/
theorem copied_cases (settings : Settings) (cluster : Cluster ρ) (s3Uri creds : String)
    (empty : stored table = []) :
    (cluster.refuses (Statement.copy table s3Uri creds settings.region).text = none ∧
      ∃ new, cluster.load s3Uri = .ok new ∧
        execute cluster (.copy table s3Uri creds settings.region) (.start stored) =
          (.ok 0, ⟨stored, Function.update stored table new⟩)) ∨
    (¬ (cluster.refuses (Statement.copy table s3Uri creds settings.region).text = none ∧
        ∃ new, cluster.load s3Uri = .ok new) ∧
      ∃ e, execute cluster (.copy table s3Uri creds settings.region) (.start stored) =
        (.error e, .start stored)) := by
  cases refused : cluster.refuses (Statement.copy table s3Uri creds settings.region).text with
  | some e => exact Or.inr ⟨by simp, e, by simp only [execute, refused]⟩
  | none =>
    cases read : cluster.load s3Uri with
    | error e => exact Or.inr ⟨by simp, e, by simp only [execute, refused, read]⟩
    | ok new =>
      refine Or.inl ⟨rfl, new, rfl, ?_⟩
      simp only [execute, refused, read, Session.perform, Session.start, empty, List.nil_append]

/-- The rows are the old ones as long as the table is not truncated, and then none until
the new ones are committed. -/
theorem refreshed_cases (settings : Settings) (cluster : Cluster ρ) (table s3Uri : String)
    (stored : Tables ρ) :
    (¬ Truncates settings cluster table ∧ refreshed settings cluster table s3Uri stored = stored) ∨
    (Truncates settings cluster table ∧ ¬ Loads settings cluster table s3Uri ∧
      refreshed settings cluster table s3Uri stored = Function.update stored table []) ∨
    (Truncates settings cluster table ∧ Loads settings cluster table s3Uri ∧
      ∃ new, cluster.load s3Uri = .ok new ∧
        refreshed settings cluster table s3Uri stored = Function.update stored table new) := by
  unfold refreshed copyIntoRedshift Truncates Loads
  cases credsText settings with
  | error e => exact Or.inl ⟨by simp, rfl⟩
  | ok creds =>
    simp only [execute_truncate]
    cases cluster.refuses (Statement.truncate table).text with
    | some e => exact Or.inl ⟨by simp, rfl⟩
    | none =>
      have empty : Function.update stored table ([] : List ρ) table = [] := Function.update_self ..
      rcases copied_cases settings cluster s3Uri creds empty with
        ⟨sent, new, read, ran⟩ | ⟨fails, e, ran⟩
      · simp only [ran]
        cases cluster.commit with
        | some e => exact Or.inr (Or.inl ⟨by simp, by simp, rfl⟩)
        | none =>
          refine Or.inr (Or.inr ⟨by simp, ⟨⟨creds, rfl, sent⟩, ⟨new, read⟩, rfl⟩, new, read, ?_⟩)
          have committed : (Session.mk (Function.update stored table [])
              (Function.update (Function.update stored table []) table new)).commit =
                .start (Function.update stored table new) := by
            rw [Function.update_idem]
            rfl
          simp only [committed, execute_count]
          rfl
      · simp only [ran]
        refine Or.inr (Or.inl ⟨by simp, ?_, rfl⟩)
        rintro ⟨⟨creds', same, sent⟩, loaded, -⟩
        cases same
        exact fails ⟨sent, loaded⟩

/-- The table holds what it held before, or the whole file. -/
def Intact (settings : Settings) (cluster : Cluster ρ) (table s3Uri : String)
    (stored : Tables ρ) : Prop :=
  refreshed settings cluster table s3Uri stored table = stored table ∨
    cluster.load s3Uri = .ok (refreshed settings cluster table s3Uri stored table)

/-- A refresh leaves the table intact exactly when it does not get to truncate it, or
succeeds to load and to commit, or when there is nothing to lose or to load. -/
theorem intact_iff (settings : Settings) (cluster : Cluster ρ) (table s3Uri : String)
    (stored : Tables ρ) :
    Intact settings cluster table s3Uri stored ↔
      (Truncates settings cluster table → Loads settings cluster table s3Uri) ∨
        stored table = [] ∨ cluster.load s3Uri = .ok [] := by
  unfold Intact
  rcases refreshed_cases settings cluster table s3Uri stored with
    ⟨not_truncated, after⟩ | ⟨truncated, not_loaded, after⟩ | ⟨truncated, loaded, new, read, after⟩
  · rw [after]
    exact iff_of_true (Or.inl rfl) (Or.inl fun truncated => absurd truncated not_truncated)
  · rw [after, Function.update_self]
    constructor
    · rintro (same | read)
      · exact Or.inr (Or.inl same.symm)
      · exact Or.inr (Or.inr read)
    · rintro (done | nothing | read)
      · exact absurd (done truncated) not_loaded
      · exact Or.inl nothing.symm
      · exact Or.inr read
  · rw [after, Function.update_self]
    exact iff_of_true (Or.inr read) (Or.inl fun _ => loaded)

/-- Other tables are left alone. -/
theorem refreshed_of_ne {other : String} (ne : other ≠ table) :
    refreshed settings cluster table s3Uri stored other = stored other := by
  rcases refreshed_cases settings cluster table s3Uri stored with
    ⟨-, after⟩ | ⟨-, -, after⟩ | ⟨-, -, new, -, after⟩
  · rw [after]
  · rw [after, Function.update_of_ne ne]
  · rw [after, Function.update_of_ne ne]

/-- The script refreshes its table, if it can upload it. -/
theorem main_stored (settings : Settings) (cluster : Cluster ρ)
    (upload : String → Except String String) (stored : Tables ρ) :
    (main settings cluster upload stored).2 =
      match upload "ads_thor_fin_payment_iap_data_new" with
      | .error _ => stored
      | .ok uri => refreshed settings cluster "ads_thor_fin_payment_iap_data_new" uri stored := by
  simp only [main, migratedTables, migrate]
  cases upload "ads_thor_fin_payment_iap_data_new" with
  | error e => rfl
  | ok uri =>
    simp only [refreshed]
    rcases copyIntoRedshift settings cluster "ads_thor_fin_payment_iap_data_new" uri
      (.start stored) with ⟨_ | n, conn⟩ <;> rfl

/-! ## A file with a bad row -/

def byRole : Settings := ⟨"arn:aws:iam::1:role/copy", "us-east-1", .error "no credentials"⟩

/-- Redshift without faults, and a file that it cannot load. -/
def badFile : Cluster Nat := ⟨fun _ => none, fun _ => .error "Invalid digit", none⟩

/-- The table had a row, and has none when the `COPY` has failed. -/
theorem not_intact_badFile : ¬ Intact byRole badFile "t" "s3://b/t.csv" fun _ => [7] := by
  have truncated : Truncates byRole badFile "t" := ⟨⟨_, rfl⟩, rfl⟩
  rcases refreshed_cases byRole badFile "t" "s3://b/t.csv" fun _ => [7] with
    ⟨not_truncated, -⟩ | ⟨-, -, after⟩ | ⟨-, -, new, read, -⟩
  · exact absurd truncated not_truncated
  · rintro (same | read)
    · rw [after, Function.update_self] at same
      cases same
    · cases read
  · cases read

end MysqlRedshift.Scripts
