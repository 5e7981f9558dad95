/-
Module: GomukuServer.Db.UserStatements
Layer: Db
Purpose: The operations of `UserDB` as they deal with the client library: each one asks the pool for
  a connection, prints its statement into a buffer, and uses the pointers it gets back.  The table
  itself is that of `UserDB`; the operations there are these, with a library that answers from it.
Trusted boundary: what the client library answers to a statement text is a parameter
Main exports: MYSQL_RES, MysqlClient, update, query, sqlText, registerUser, loginUser, winGame,
  loseGame, loginUser_refines, winGame_refines, loseGame_refines
-/
import GomukuServer.Base.Printf
import GomukuServer.Db.MysqlConnectionPool
import GomukuServer.Db.UserDB

namespace GomukuServer.Db

open Base

/-- A stored result set.  A column is a null pointer where the table has `NULL`. -/
structure MYSQL_RES where
  num_fields : Nat
  rows : List (List (Option String))
  widths : ∀ row ∈ rows, row.length = num_fields

/-- What the client library answers to a statement on a connection. -/
structure MysqlClient where
  /-- The text of the error, if `mysql_query` reports one. -/
  mysql_query : Ref → String → Option String
  /-- Null if there is nothing to store or no memory for it. -/
  mysql_store_result : Ref → String → Option MYSQL_RES

/-- Use an object through a pointer. -/
def follow {Obj : Type} : Option Obj → Except Fault Obj
  | some obj => .ok obj
  | none => .error .nullDereference

namespace MysqlConnectionPool

/-- What `getMysqlConnection` returns when its wait is over. -/
def handedOut (pool : MysqlConnectionPool) : Option Ref := pool.connectionQue.head?

end MysqlConnectionPool

namespace MysqlConnection

/-- `update`. -/
def update (client : MysqlClient) (con : Ref) (sql : String) : Bool × String :=
  match client.mysql_query con sql with
  | some error => (false, error)
  | none => (true, "")

/-- `query`. -/
def query (client : MysqlClient) (con : Ref) (sql : String) : Option MYSQL_RES :=
  match client.mysql_query con sql with
  | some _ => none
  | none => client.mysql_store_result con sql

end MysqlConnection

namespace UserStatements

open Base.Printf

def REGISTER_USER : String :=
  "INSERT INTO users (userName, passWord, userPoint, totalCount, winCount) " ++
    "VALUES ('%s', SHA2('%s', 256), 1000, 0, 0);"

def LOGIN_USER : String :=
  "SELECT userId, userName, userPoint, totalCount, winCount FROM users " ++
    "WHERE userName = '%s' AND passWord = SHA2('%s', 256);"

def WIN_USER : String :=
  "UPDATE users SET userPoint = userPoint + 10, totalCount = totalCount + 1, " ++
    "winCount = winCount + 1 WHERE userId = %d;"

def LOST_USER : String :=
  "UPDATE users SET userPoint = GREATEST(userPoint - 5, 0), totalCount = totalCount + 1, " ++
    "winCount = winCount WHERE userId = %d;"

/-- The size of the array `sql`. -/
def sqlSize : Nat := 4096

/-- `sprintf(sql, ...)`.  The text and the NUL behind it have to fit into the array. -/
def sqlText (format : String) (arguments : List Argument) : Except Fault String := do
  let text := String.ofList (← sprintf format.toList arguments)
  if text.utf8ByteSize < sqlSize then pure text else .error .outOfBounds

/-- The statement of `registerUser`. -/
def registerText (username password : String) : Except Fault String :=
  sqlText REGISTER_USER [.text username, .text password]

/-- The statement of `loginUser`. -/
def loginText (username password : String) : Except Fault String :=
  sqlText LOGIN_USER [.text username, .text password]

/-- The statement of `winGame`. -/
def winText (userId : Model.UserId) : Except Fault String :=
  sqlText WIN_USER [.number (UserDB.printed userId)]

/-- The statement of `loseGame`. -/
def loseText (userId : Model.UserId) : Except Fault String :=
  sqlText LOST_USER [.number (UserDB.printed userId)]

/-- `registerUser`, with the pointer that `getMysqlConnection` has returned. -/
def registerUser (client : MysqlClient) (con : Option Ref) (username password : String) :
    Except Fault (Bool × String) := do
  let sql ← registerText username password
  let (success, _) := MysqlConnection.update client (← follow con) sql
  if success = false then pure (false, "该用户名已经存在") else pure (true, "注册成功")

/-- `mysql_num_rows`, as the `int` the code stores it in. -/
def mysql_num_rows (res : Option MYSQL_RES) : Except Fault Int :=
  (follow res).map fun set => Int.bmod set.rows.length (2 ^ 32)

/-- `mysql_fetch_row` for the first row, null if there is none. -/
def mysql_fetch_row (res : Option MYSQL_RES) : Except Fault (Option (List (Option String))) :=
  (follow res).map fun set => set.rows.head?

/-- `std::string` from a column. -/
def columnText : Option String → Except Fault String
  | some text => .ok text
  | none => .error (.uncaughtException "basic_string")

/-- The columns of the first row, as `loginUser` collects them.  A row is as wide as the set. -/
def firstRow (res : Option MYSQL_RES) : Except Fault (List String) := do
  let row ← follow (← mysql_fetch_row res)
  row.mapM columnText

/-- `loginUser`, with the pointer that `getMysqlConnection` has returned. -/
def loginUser (client : MysqlClient) (con : Option Ref) (username password : String) :
    Except Fault ((Bool × String) × List String) := do
  let sql ← loginText username password
  let res := MysqlConnection.query client (← follow con) sql
  let row_num ← mysql_num_rows res
  if row_num = 0 then pure ((false, "用户名或密码错误"), [])
  else
    let ret ← firstRow res
    pure ((true, "登录成功"), ret)

/-- An update by `winGame` or `loseGame`.  Its result is not looked at. -/
def runUpdate (client : MysqlClient) (con : Option Ref) (text : Except Fault String) :
    Except Fault Unit := do
  let sql ← text
  let _res := MysqlConnection.query client (← follow con) sql

/-- `winGame`, with the pointer that `getMysqlConnection` has returned. -/
def winGame (client : MysqlClient) (con : Option Ref) (userId : Model.UserId) : Except Fault Unit :=
  runUpdate client con (winText userId)

/-- `loseGame`, with the pointer that `getMysqlConnection` has returned. -/
def loseGame (client : MysqlClient) (con : Option Ref) (userId : Model.UserId) :
    Except Fault Unit :=
  runUpdate client con (loseText userId)

/-! ### The statements -/

/-- The statement is what `sprintf` writes, if it fits. -/
theorem sqlText_eq_ok_iff {format text : String} {arguments : List Argument}
    (written : sprintf format.toList arguments = .ok text.toList) {sql : String} :
    sqlText format arguments = .ok sql ↔ text.utf8ByteSize < sqlSize ∧ sql = text := by
  rw [sqlText, written, ok_bind, String.ofList_toList]
  dsimp only
  split
  · rename_i fits
    simp [fits, eq_comm]
  · rename_i tooLong
    simp [tooLong]

/-- A statement that `sprintf` can write fits or runs out of its array. -/
theorem sqlText_cases {format text : String} {arguments : List Argument}
    (written : sprintf format.toList arguments = .ok text.toList) :
    (∃ sql, sqlText format arguments = .ok sql) ∨
      sqlText format arguments = .error .outOfBounds := by
  rw [sqlText, written, ok_bind]
  dsimp only
  split
  · exact .inl ⟨_, rfl⟩
  · exact .inr rfl

/-- A statement with two texts in it. -/
theorem sprintf_texts {format before middle after : String}
    (parts : format = before ++ "%s" ++ middle ++ "%s" ++ after)
    (plain : '%' ∉ before.toList ∧ '%' ∉ middle.toList ∧ '%' ∉ after.toList)
    (first second : String) :
    sprintf format.toList [.text first, .text second] =
      .ok (before ++ c_str first ++ middle ++ c_str second ++ after).toList := by
  have ending := sprintf_plain plain.2.2 [] []
  rw [List.append_nil] at ending
  have conversion : ("%s").toList = ['%', 's'] := rfl
  simp only [parts, String.toList_append, conversion, List.append_assoc, List.cons_append,
    List.nil_append]
  rw [sprintf_plain plain.1, sprintf_text, sprintf_plain plain.2.1, sprintf_text, ending]
  simp [sprintf, Except.map]

/-- A statement with a number in it. -/
theorem sprintf_one_number {format before after : String}
    (parts : format = before ++ "%d" ++ after)
    (plain : '%' ∉ before.toList ∧ '%' ∉ after.toList) (value : Int) :
    sprintf format.toList [.number value] = .ok (before ++ toString value ++ after).toList := by
  have ending := sprintf_plain plain.2 [] []
  rw [List.append_nil] at ending
  have conversion : ("%d").toList = ['%', 'd'] := rfl
  simp only [parts, String.toList_append, conversion, List.append_assoc, List.cons_append,
    List.nil_append]
  rw [sprintf_plain plain.1, sprintf_number, ending]
  simp [sprintf, Except.map]

theorem utf8ByteSize_le (text : String) : text.utf8ByteSize ≤ 4 * text.length := by
  obtain ⟨chars, rfl⟩ := text.exists_eq_ofList
  induction chars with
  | nil => simp
  | cons char chars inductionHypothesis =>
      have size := char.utf8Size_le_four
      rw [String.length_ofList] at inductionHypothesis
      rw [String.length_ofList, String.ofList_cons, String.utf8ByteSize_append,
        String.utf8ByteSize_singleton, List.length_cons]
      omega

/-- `%d` prints eleven characters at most. -/
theorem length_printed_le (userId : Model.UserId) :
    (toString (UserDB.printed userId)).length ≤ 11 := by
  have lower : -2 ^ 31 ≤ UserDB.printed userId := Int.le_bmod (by decide)
  have upper : UserDB.printed userId < 2 ^ 31 := Int.bmod_lt (by decide)
  generalize UserDB.printed userId = value at lower upper
  rw [Int.toString_eq_repr, Int.repr_eq_if]
  split
  · have digits : value.toNat.repr.length ≤ 10 :=
      (Nat.length_repr_le_iff (by decide)).mpr (by omega)
    omega
  · have digits : (-value).toNat.repr.length ≤ 10 :=
      (Nat.length_repr_le_iff (by decide)).mpr (by omega)
    rw [String.length_append]
    have sign : ("-").length = 1 := rfl
    omega

/-- A short statement with the number of a user in it fits. -/
theorem exists_sqlText_number {format before after : String}
    (parts : format = before ++ "%d" ++ after)
    (plain : '%' ∉ before.toList ∧ '%' ∉ after.toList)
    (short : before.utf8ByteSize + after.utf8ByteSize ≤ 4000) (userId : Model.UserId) :
    ∃ sql, sqlText format [.number (UserDB.printed userId)] = .ok sql := by
  have size := utf8ByteSize_le (toString (UserDB.printed userId))
  have digits := length_printed_le userId
  refine ⟨_, (sqlText_eq_ok_iff (sprintf_one_number parts plain _)).mpr ⟨?_, rfl⟩⟩
  rw [String.utf8ByteSize_append, String.utf8ByteSize_append, sqlSize]
  omega

theorem exists_winText (userId : Model.UserId) : ∃ sql, winText userId = .ok sql := by
  have parts : WIN_USER = ("UPDATE users SET userPoint = userPoint + 10, " ++
      "totalCount = totalCount + 1, winCount = winCount + 1 WHERE userId = ") ++ "%d" ++ ";" := by
    decide +kernel
  exact exists_sqlText_number parts (by simp) (by decide +kernel) userId

theorem exists_loseText (userId : Model.UserId) : ∃ sql, loseText userId = .ok sql := by
  have parts : LOST_USER = ("UPDATE users SET userPoint = GREATEST(userPoint - 5, 0), " ++
      "totalCount = totalCount + 1, winCount = winCount WHERE userId = ") ++ "%d" ++ ";" := by
    decide +kernel
  exact exists_sqlText_number parts (by simp) (by decide +kernel) userId

/-- What `sprintf` writes for `REGISTER_USER`. -/
theorem sprintf_REGISTER_USER (username password : String) :
    sprintf REGISTER_USER.toList [.text username, .text password] =
      .ok ("INSERT INTO users (userName, passWord, userPoint, totalCount, winCount) VALUES ('" ++
        c_str username ++ "', SHA2('" ++ c_str password ++ "', 256), 1000, 0, 0);").toList :=
  sprintf_texts (by decide +kernel) (by simp) username password

/-- What `sprintf` writes for `LOGIN_USER`. -/
theorem sprintf_LOGIN_USER (username password : String) :
    sprintf LOGIN_USER.toList [.text username, .text password] =
      .ok ("SELECT userId, userName, userPoint, totalCount, winCount FROM users " ++
        "WHERE userName = '" ++ c_str username ++ "' AND passWord = SHA2('" ++ c_str password ++
        "', 256);").toList :=
  sprintf_texts (by decide +kernel) (by simp) username password

/-- The statement of a registration fits into its array, or the call ends there. -/
theorem registerText_cases (username password : String) :
    (∃ sql, registerText username password = .ok sql) ∨
      registerText username password = .error .outOfBounds :=
  sqlText_cases (sprintf_REGISTER_USER username password)

/-- The statement of a login fits into its array, or the call ends there. -/
theorem loginText_cases (username password : String) :
    (∃ sql, loginText username password = .ok sql) ∨
      loginText username password = .error .outOfBounds :=
  sqlText_cases (sprintf_LOGIN_USER username password)

/-! ### The table behind the library -/

/-- The columns that `LOGIN_USER` selects. -/
def columns (row : UserRow) : List String :=
  [toString row.userId, row.userName, toString row.userPoint, toString row.totalCount,
    toString row.winCount]

/-- The result set of some rows. -/
def resultSet (rows : List UserRow) : MYSQL_RES where
  num_fields := 5
  rows := rows.map fun row => (columns row).map some
  widths := by
    intro row inside
    obtain ⟨user, _, rfl⟩ := List.mem_map.mp inside
    rfl

/-- What `loginUser` returns for the row it has found. -/
def reply : Option UserRow → (Bool × String) × List String
  | none => ((false, "用户名或密码错误"), [])
  | some row => ((true, "登录成功"), columns row)

/-- How a registration went. -/
def registerOutcome (client : MysqlClient) (con : Option Ref) (sql : String) (userId : Int) :
    RegisterOutcome :=
  match con with
  | none => .noConnection
  | some con =>
      if (MysqlConnection.update client con sql).1 then .inserted userId else .failed

/-- How a login went, if MySQL selects rows in a certain way. -/
def loginOutcome (client : MysqlClient) (con : Option Ref) (sql : String)
    (selects : String → String → UserRow → Bool) : LoginOutcome :=
  match con with
  | none => .noConnection
  | some con =>
      if (MysqlConnection.query client con sql).isSome then .answered selects else .failed

/-- How an update went. -/
def updateOutcome (client : MysqlClient) (con : Option Ref) (sql : String) : DbOutcome :=
  match con with
  | none => .noConnection
  | some con => if (client.mysql_query con sql).isNone then .succeeded else .failed

theorem mapM_columnText (texts : List String) :
    (texts.map some).mapM columnText = .ok texts := by
  induction texts with
  | nil => rfl
  | cons text texts inductionHypothesis =>
      rw [List.map_cons, List.mapM_cons, inductionHypothesis]
      rfl

/-- Fewer than `2 ^ 32` rows are none exactly if their number is zero as an `int`. -/
theorem bmod_length_eq_zero {Row : Type} {rows : List Row} (few : rows.length < 2 ^ 32) :
    Int.bmod rows.length (2 ^ 32) = 0 ↔ rows = [] := by
  rw [← List.length_eq_zero_iff, Int.bmod_def]
  split <;> omega

/-- A registration answers as the table does, under an id that is not taken. -/
theorem registerUser_refines {client : MysqlClient} {con : Option Ref} {db : UserDB}
    {username password sql : String} {userId : Int}
    (printed : registerText username password = .ok sql)
    (fresh : userId ∉ db.rows.map UserRow.userId) :
    registerUser client con username password =
      (db.registerUser username password (registerOutcome client con sql userId)).map (·.2) := by
  unfold registerUser registerOutcome
  rw [printed, ok_bind]
  cases con with
  | none => rfl
  | some ref =>
      simp only [follow, ok_bind]
      cases (MysqlConnection.update client ref sql).1 with
      | false => rfl
      | true =>
          simp only [if_true, UserDB.registerUser, dif_pos fresh]
          rfl

/-- A login answers as the table does, if the result set is that of the rows MySQL selects. -/
theorem loginUser_refines {client : MysqlClient} {con : Option Ref} {db : UserDB}
    {username password sql : String} {selects : String → String → UserRow → Bool}
    (printed : loginText username password = .ok sql) (few : db.rows.length < 2 ^ 32)
    (answers : ∀ ref res, con = some ref → MysqlConnection.query client ref sql = some res →
      res = resultSet (db.rows.filter (selects username password))) :
    loginUser client con username password =
      (db.loginUser username password (loginOutcome client con sql selects)).map reply := by
  unfold loginUser loginOutcome
  rw [printed, ok_bind]
  cases con with
  | none => rfl
  | some ref =>
      simp only [follow, ok_bind]
      cases asked : MysqlConnection.query client ref sql with
      | none => rfl
      | some res =>
          obtain rfl := answers ref res rfl asked
          have fewFound : (db.rows.filter (selects username password)).length < 2 ^ 32 :=
            lt_of_le_of_lt (List.length_filter_le _ _) few
          have counted : mysql_num_rows (some (resultSet
              (db.rows.filter (selects username password)))) =
              .ok (Int.bmod (db.rows.filter (selects username password)).length (2 ^ 32)) := by
            simp only [mysql_num_rows, follow, Except.map, resultSet, List.length_map]
          rw [counted, ok_bind]
          simp only [Option.isSome_some, if_true, UserDB.loginUser, bmod_length_eq_zero fewFound]
          rw [← List.head?_filter]
          cases found : db.rows.filter (selects username password) with
          | nil => rfl
          | cons row rows =>
              simp only [reduceCtorEq, if_false, firstRow, mysql_fetch_row, follow, Except.map,
                resultSet, List.map_cons, List.head?_cons, ok_bind, mapM_columnText]
              rfl

/-- An update changes the table as the statement says, if MySQL executes it, and returns either
way. -/
theorem update_refines (client : MysqlClient) (con : Option Ref) (db : UserDB) (sql : String)
    (statement : Statement) :
    db.update statement (updateOutcome client con sql) =
      (runUpdate client con (.ok sql)).map fun _ =>
        if updateOutcome client con sql = .succeeded then db.execute statement else db := by
  unfold runUpdate updateOutcome
  cases con with
  | none => rfl
  | some ref =>
      cases executed : client.mysql_query ref sql <;>
        simp [executed, follow, UserDB.update, Except.map]

/-- A won game changes the table as `winGame` says. -/
theorem winGame_refines {client : MysqlClient} {con : Option Ref} {db : UserDB}
    {userId : Model.UserId} {sql : String} (printed : winText userId = .ok sql) :
    db.winGame userId (updateOutcome client con sql) =
      (winGame client con userId).map fun _ =>
        if updateOutcome client con sql = .succeeded then
          db.execute (.winUser (UserDB.printed userId)) else db := by
  rw [winGame, printed]
  exact update_refines client con db sql _

/-- A lost game changes the table as `loseGame` says. -/
theorem loseGame_refines {client : MysqlClient} {con : Option Ref} {db : UserDB}
    {userId : Model.UserId} {sql : String} (printed : loseText userId = .ok sql) :
    db.loseGame userId (updateOutcome client con sql) =
      (loseGame client con userId).map fun _ =>
        if updateOutcome client con sql = .succeeded then
          db.execute (.lostUser (UserDB.printed userId)) else db := by
  rw [loseGame, printed]
  exact update_refines client con db sql _

end UserStatements

end GomukuServer.Db
