/-
Module: GomukuServer.Db.UserDB
Layer: Db
Purpose: `UserDB`, as a table of rows and what the statements of `UserDB.cc` do to it.  How the call
  went, whether a connection could be had and whether MySQL executed the statement, is an argument.
Trusted boundary: user names and passwords reach MySQL as data, so that a registration inserts the
  row of the template and a login answers a row of the table; MySQL evaluates the arithmetic of the
  statements over the integers, `userId` is the primary key, and a column comes back as the number
  it holds
Main exports: UserRow, UserDB, Statement, execute, registerUser, loginUser, winGame, loseGame, rowOf
-/
import GomukuServer.Base.Cpp
import GomukuServer.Model.GameRoomInfo
import Mathlib.Data.List.Nodup

namespace GomukuServer.Db

open Base Model

/-- A row of the table `users`.  The password column holds the hash. -/
structure UserRow where
  userId : Int
  userName : String
  passWord : String
  userPoint : Int
  totalCount : Int
  winCount : Int
deriving DecidableEq, Repr

/-- `WIN_USER` and `LOST_USER`, with the number that `%d` has printed. -/
inductive Statement where
  | winUser (userId : Int)
  | lostUser (userId : Int)
deriving DecidableEq, Repr

/-- How a call of the database went. -/
inductive DbOutcome where
  /-- `getMysqlConnection` timed out and returned a null pointer. -/
  | noConnection
  /-- `mysql_query` reported an error. -/
  | failed
  | succeeded
deriving DecidableEq, Repr

/-- How the `INSERT` of a registration went, and the id MySQL gave to the new row. -/
inductive RegisterOutcome where
  | noConnection
  | failed
  | inserted (userId : Int)
deriving DecidableEq, Repr

/-- How the `SELECT` of a login went.  `selects` is the `WHERE` clause, with user name and password
put into it. -/
inductive LoginOutcome where
  | noConnection
  | failed
  | answered (selects : String → String → UserRow → Bool)

/-- The table `users`, and the updates MySQL has been sent, in order. -/
structure UserDB where
  rows : List UserRow
  statements : List Statement
  primaryKey : (rows.map UserRow.userId).Nodup

namespace UserDB

/-- An empty table. -/
def new : UserDB where
  rows := []
  statements := []
  primaryKey := List.nodup_nil

/-- `%d` of a `uint32_t`. -/
def printed (userId : UserId) : Int := Int.bmod userId.toNat (2 ^ 32)

/-- `std::stoi` of a column. -/
def stoi (value : Int) : Except Fault Int :=
  if -2 ^ 31 ≤ value ∧ value < 2 ^ 31 then .ok value else .error (.uncaughtException "stoi")

/-- `uint32_t` from `int`. -/
def toUInt32 (value : Int) : UInt32 := UInt32.ofNat (value % 2 ^ 32).toNat

namespace Statement

/-- The row a statement changes. -/
def target : Statement → Int
  | .winUser userId => userId
  | .lostUser userId => userId

/-- What the `SET` clause makes of a row. -/
def set : Statement → UserRow → UserRow
  | .winUser _, row =>
      { row with
        userPoint := row.userPoint + 10
        totalCount := row.totalCount + 1
        winCount := row.winCount + 1 }
  | .lostUser _, row =>
      { row with
        userPoint := max (row.userPoint - 5) 0
        totalCount := row.totalCount + 1
        winCount := row.winCount }

@[simp] theorem userId_set (statement : Statement) (row : UserRow) :
    (set statement row).userId = row.userId := by
  cases statement <;> rfl

/-- What a statement makes of any row. -/
def apply (statement : Statement) (row : UserRow) : UserRow :=
  if row.userId = target statement then set statement row else row

@[simp] theorem userId_apply (statement : Statement) (row : UserRow) :
    (apply statement row).userId = row.userId := by
  unfold apply
  split <;> simp

end Statement

/-- MySQL executes an update. -/
def execute (db : UserDB) (statement : Statement) : UserDB where
  rows := db.rows.map (Statement.apply statement)
  statements := db.statements ++ [statement]
  primaryKey := by
    have sameIds : UserRow.userId ∘ Statement.apply statement = UserRow.userId := by
      funext row
      simp
    rw [List.map_map, sameIds]
    exact db.primaryKey

/-- One of the two updates: without a connection the code follows a null pointer, and it does not
look at the result. -/
def update (db : UserDB) (statement : Statement) : DbOutcome → Except Fault UserDB
  | .noConnection => .error .nullDereference
  | .failed => .ok db
  | .succeeded => .ok (db.execute statement)

/-- `winGame`. -/
def winGame (db : UserDB) (userId : UserId) (outcome : DbOutcome) : Except Fault UserDB :=
  db.update (.winUser (printed userId)) outcome

/-- `loseGame`. -/
def loseGame (db : UserDB) (userId : UserId) (outcome : DbOutcome) : Except Fault UserDB :=
  db.update (.lostUser (printed userId)) outcome

/-- The row of a new user.  `SHA2` is left out: only the `WHERE` clause of a login reads the column.
-/
def newRow (userId : Int) (username password : String) : UserRow :=
  { userId := userId
    userName := username
    passWord := password
    userPoint := 1000
    totalCount := 0
    winCount := 0 }

/-- `registerUser`: whether it succeeded, and the reason that goes to the client.  A row whose key
is taken is not inserted. -/
def registerUser (db : UserDB) (username password : String) (outcome : RegisterOutcome) :
    Except Fault (UserDB × Bool × String) :=
  match outcome with
  | .noConnection => .error .nullDereference
  | .failed => .ok (db, false, "该用户名已经存在")
  | .inserted userId =>
      if fresh : userId ∉ db.rows.map UserRow.userId then
        .ok ({ db with
          rows := db.rows ++ [newRow userId username password]
          primaryKey := by
            rw [List.map_append, List.nodup_append]
            refine ⟨db.primaryKey, List.nodup_singleton _, ?_⟩
            intro taken inside other last same
            simp only [List.map_cons, List.map_nil, List.mem_singleton] at last
            exact fresh ((same.trans last : taken = userId) ▸ inside) }, true, "注册成功")
      else .ok (db, false, "该用户名已经存在")

/-- `loginUser`: the row of the user, or nothing if no row matches.  A failed query gives a null
result set, which the code goes on to use. -/
def loginUser (db : UserDB) (username password : String) :
    LoginOutcome → Except Fault (Option UserRow)
  | .noConnection => .error .nullDereference
  | .failed => .error .nullDereference
  | .answered selects => .ok (db.rows.find? (selects username password))

/-- The row of a user. -/
def rowOf (db : UserDB) (userId : Int) : Option UserRow :=
  db.rows.find? fun row => row.userId == userId

/-! ### Rows and keys -/

theorem toNat_toUInt32 (value : Int) : ((toUInt32 value).toNat : Int) = value % 2 ^ 32 := by
  have nonneg : 0 ≤ value % 2 ^ 32 := Int.emod_nonneg _ (by decide)
  have below : value % 2 ^ 32 < 2 ^ 32 := Int.emod_lt_of_pos _ (by decide)
  unfold toUInt32
  rw [UInt32.toNat_ofNat_of_lt' (by simp only [UInt32.size]; omega)]
  omega

/-- A `uint32_t` that came from a column prints as the column again. -/
theorem printed_toUInt32 {value : Int} (inRange : -2 ^ 31 ≤ value ∧ value < 2 ^ 31) :
    printed (toUInt32 value) = value := by
  unfold printed
  rw [toNat_toUInt32, Int.bmod_def]
  split <;> omega

/-- Ids print differently. -/
theorem printed_inj {first second : UserId} (same : printed first = printed second) :
    first = second := by
  have firstBound := first.toNat_lt
  have secondBound := second.toNat_lt
  unfold printed at same
  rw [Int.bmod_def, Int.bmod_def] at same
  apply UInt32.toNat_inj.mp
  split at same <;> split at same <;> omega

/-- In a table without repeated keys a row is found under its key. -/
theorem find?_of_nodup {rows : List UserRow} {row : UserRow}
    (keys : (rows.map UserRow.userId).Nodup) (inside : row ∈ rows) :
    rows.find? (fun other => other.userId == row.userId) = some row := by
  induction rows with
  | nil => simp at inside
  | cons first rows inductionHypothesis =>
      rw [List.map_cons, List.nodup_cons] at keys
      rcases List.mem_cons.mp inside with rfl | later
      · simp
      · have other : first.userId ≠ row.userId := by
          intro same
          exact keys.1 (same ▸ List.mem_map_of_mem later)
        simp [other, inductionHypothesis keys.2 later]

/-- The row of a user is in the table, under the user's id. -/
theorem rowOf_eq_some_iff {db : UserDB} {userId : Int} {row : UserRow} :
    db.rowOf userId = some row ↔ row ∈ db.rows ∧ row.userId = userId := by
  constructor
  · intro found
    exact ⟨List.mem_of_find?_eq_some found, by simpa using List.find?_some found⟩
  · rintro ⟨inside, rfl⟩
    exact find?_of_nodup db.primaryKey inside

/-- A registration leaves the table as it is or appends the row of a new user. -/
theorem registerUser_ok {db next : UserDB} {username password reason : String} {success : Bool}
    {outcome : RegisterOutcome}
    (called : db.registerUser username password outcome = .ok (next, success, reason)) :
    next = db ∨ ∃ userId, next.rows = db.rows ++ [newRow userId username password] := by
  cases outcome with
  | noConnection => simp [registerUser] at called
  | failed =>
      simp only [registerUser, Except.ok.injEq, Prod.mk.injEq] at called
      exact .inl called.1.symm
  | inserted userId =>
      simp only [registerUser] at called
      split at called
      · simp only [Except.ok.injEq, Prod.mk.injEq] at called
        exact .inr ⟨userId, by rw [← called.1]⟩
      · simp only [Except.ok.injEq, Prod.mk.injEq] at called
        exact .inl called.1.symm

/-- An update changes the row it names and no other. -/
theorem rowOf_execute (db : UserDB) (statement : Statement) (userId : Int) :
    (db.execute statement).rowOf userId =
      (db.rowOf userId).map (Statement.apply statement) := by
  unfold rowOf execute
  simp only [List.find?_map, Function.comp_def, Statement.userId_apply]

/-- An update that returns has changed the row it names, if MySQL executed it, and no other. -/
theorem rowOf_update {db next : UserDB} {statement : Statement} {outcome : DbOutcome}
    (called : db.update statement outcome = .ok next) (userId : Int) :
    next.rowOf userId = if userId = Statement.target statement ∧ outcome = .succeeded then
      (db.rowOf userId).map (Statement.set statement) else db.rowOf userId := by
  cases outcome with
  | noConnection => simp [update] at called
  | failed => simp [← Except.ok.inj called]
  | succeeded =>
      rw [← Except.ok.inj called, rowOf_execute]
      cases found : db.rowOf userId with
      | none => simp
      | some row =>
          have key := (rowOf_eq_some_iff.mp found).2
          by_cases named : userId = Statement.target statement <;>
            simp [Statement.apply, key, named]

/-- Printed ids are equal if the ids are. -/
theorem printed_eq_iff {first second : UserId} : printed first = printed second ↔ first = second :=
  ⟨printed_inj, congrArg printed⟩

/-- `winGame` leaves the rows of other users alone. -/
theorem rowOf_winGame_of_ne {db next : UserDB} {winner user : UserId} {outcome : DbOutcome}
    (other : user ≠ winner) (called : db.winGame winner outcome = .ok next) :
    next.rowOf (printed user) = db.rowOf (printed user) := by
  unfold winGame at called
  rw [rowOf_update called, if_neg]
  rw [Statement.target, printed_eq_iff]
  exact fun both => other both.1

/-- `loseGame` takes points from the row of the user, if MySQL executes the update, and leaves the
other rows alone. -/
theorem rowOf_loseGame {db next : UserDB} {loser : UserId} {outcome : DbOutcome}
    (called : db.loseGame loser outcome = .ok next) (user : UserId) :
    next.rowOf (printed user) = if user = loser ∧ outcome = .succeeded then
      (db.rowOf (printed user)).map (Statement.set (.lostUser (printed loser)))
    else db.rowOf (printed user) := by
  have named : (printed user = Statement.target (.lostUser (printed loser)) ∧
      outcome = .succeeded) ↔ user = loser ∧ outcome = .succeeded := by
    rw [Statement.target, printed_eq_iff]
  unfold loseGame at called
  rw [rowOf_update called]
  by_cases loses : user = loser ∧ outcome = .succeeded
  · rw [if_pos loses, if_pos (named.mpr loses)]
  · rw [if_neg loses, if_neg (mt named.mp loses)]

end UserDB

end GomukuServer.Db
