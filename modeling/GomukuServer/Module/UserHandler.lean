/-
Module: GomukuServer.Module.UserHandler
Layer: Module
Purpose: `UserHandler`: registration and login.
Trusted boundary: the database answers as `Db.UserDB` lets it
Main exports: onRegister, onLogin, loadUser, requestedRow, onRegister_ok, onLogin_ok, loadUser_ok
-/
import GomukuServer.Module.Server

namespace GomukuServer.Module.Server

open Base Model Manager Db Net

/-- `onRegister`. -/
def onRegister (server : Server) (conn : ConnId) (req : Json.Value) (outcome : RegisterOutcome) :
    Except Fault Server := do
  let username ← (← req.getMember "username").asCString
  let password ← (← req.getMember "password").asCString
  let (db, success, reason) ← server.db.registerUser username password outcome
  pure ({ server with db := db }.sendMsg conn .REGISTER_ACK
    (.object [("success", .bool success), ("reason", .string reason)]))

/-- The `UserInfo` that `onLogin` builds from the columns of a row. -/
def loadUser (row : UserRow) (conn : ConnId) : Except Fault UserInfo := do
  let userId ← UserDB.stoi row.userId
  let userPoint ← UserDB.stoi row.userPoint
  let totalCount ← UserDB.stoi row.totalCount
  let winCount ← UserDB.stoi row.winCount
  pure (UserInfo.new row.userName (UserDB.toUInt32 userId) (UserDB.toUInt32 userPoint)
    (UserDB.toUInt32 totalCount) (UserDB.toUInt32 winCount) conn)

/-- `onLogin`. -/
def onLogin (server : Server) (conn : ConnId) (req : Json.Value) (outcome : LoginOutcome) :
    Except Fault Server := do
  let username ← (← req.getMember "username").asCString
  let password ← (← req.getMember "password").asCString
  match ← server.db.loginUser username password outcome with
  | none =>
      pure (server.sendMsg conn .LOGIN_ACK
        (.object [("success", .bool false), ("reason", .string "用户名或密码错误")]))
  | some row => do
      let user ← loadUser row conn
      pure ({ server with users := server.users.addOnlineUser user }.sendMsg conn .LOGIN_ACK
        (.object [("success", .bool true), ("reason", .string "登录成功"),
          ("userId", .int user.userId.toNat), ("userName", .string user.userName),
          ("userPoint", .int user.userPoints.toNat), ("totalCount", .int user.totalCount.toNat),
          ("winCount", .int user.winCount.toNat)]))

/-- A registration changes the database and nothing else that lasts. -/
theorem onRegister_ok {server next : Server} {conn : ConnId} {req : Json.Value}
    {outcome : RegisterOutcome} (called : server.onRegister conn req outcome = .ok next) :
    ∃ username password success reason sent,
      server.db.registerUser username password outcome = .ok (next.db, success, reason) ∧
      next = { server with db := next.db, sent := sent } := by
  simp only [onRegister, bind_eq_ok] at called
  obtain ⟨_, _, username, _, _, _, password, _, ⟨db, success, reason⟩, registered, sentEq⟩ := called
  simp only [pure_eq_ok, Except.ok.injEq] at sentEq
  subst sentEq
  obtain ⟨more, same, _⟩ := sendMsg_eq { server with db := db } conn .REGISTER_ACK
    (.object [("success", .bool success), ("reason", .string reason)])
  exact ⟨username, password, success, reason, _, by rw [same]; exact registered, by rw [same]⟩

/-- The row a login finds. -/
def requestedRow (server : Server) (req : Json.Value) (outcome : LoginOutcome) :
    Except Fault (Option UserRow) := do
  let username ← (← req.getMember "username").asCString
  let password ← (← req.getMember "password").asCString
  server.db.loginUser username password outcome

/-- The row a login finds is a row of the table. -/
theorem mem_rows_of_requestedRow {server : Server} {req : Json.Value} {outcome : LoginOutcome}
    {row : UserRow} (found : requestedRow server req outcome = .ok (some row)) :
    row ∈ server.db.rows := by
  simp only [requestedRow, bind_eq_ok] at found
  obtain ⟨_, _, username, _, _, _, password, _, asked⟩ := found
  cases outcome with
  | noConnection => simp [UserDB.loginUser] at asked
  | failed => simp [UserDB.loginUser] at asked
  | answered selects =>
      simp only [UserDB.loginUser, Except.ok.injEq] at asked
      exact List.mem_of_find?_eq_some asked

/-- A login changes the online users and nothing else that lasts: it enters a user built from the
row it finds, or it finds none and enters nobody. -/
theorem onLogin_ok {server next : Server} {conn : ConnId} {req : Json.Value}
    {outcome : LoginOutcome} (called : server.onLogin conn req outcome = .ok next) :
    ∃ sent, (requestedRow server req outcome = .ok none ∧ next = { server with sent := sent }) ∨
      ∃ row user, requestedRow server req outcome = .ok (some row) ∧
        loadUser row conn = .ok user ∧
        next = { server with users := server.users.addOnlineUser user, sent := sent } := by
  simp only [onLogin, bind_eq_ok] at called
  obtain ⟨name, hasName, username, nameText, pass, hasPass, password, passText, answer, asked,
    entered⟩ := called
  have requested : requestedRow server req outcome = .ok answer := by
    simp only [requestedRow, bind_eq_ok]
    exact ⟨name, hasName, username, nameText, pass, hasPass, password, passText, asked⟩
  cases answer with
  | none =>
      simp only [pure_eq_ok, Except.ok.injEq] at entered
      subst entered
      obtain ⟨more, same, _⟩ := sendMsg_eq server conn .LOGIN_ACK
        (.object [("success", .bool false), ("reason", .string "用户名或密码错误")])
      exact ⟨_, .inl ⟨requested, same⟩⟩
  | some row =>
      obtain ⟨user, loaded, entered⟩ := bind_eq_ok.mp entered
      simp only [pure_eq_ok, Except.ok.injEq] at entered
      subst entered
      obtain ⟨more, same, _⟩ :=
        sendMsg_eq { server with users := server.users.addOnlineUser user } conn .LOGIN_ACK _
      exact ⟨_, .inr ⟨row, user, requested, loaded, same⟩⟩

/-- What `loadUser` makes of the columns, all of which fit into an `int`. -/
theorem loadUser_ok {row : UserRow} {conn : ConnId} {user : UserInfo}
    (loaded : loadUser row conn = .ok user) :
    user = UserInfo.new row.userName (UserDB.toUInt32 row.userId) (UserDB.toUInt32 row.userPoint)
        (UserDB.toUInt32 row.totalCount) (UserDB.toUInt32 row.winCount) conn ∧
      (-2 ^ 31 ≤ row.userId ∧ row.userId < 2 ^ 31) ∧
      (-2 ^ 31 ≤ row.userPoint ∧ row.userPoint < 2 ^ 31) ∧
      (-2 ^ 31 ≤ row.totalCount ∧ row.totalCount < 2 ^ 31) ∧
      (-2 ^ 31 ≤ row.winCount ∧ row.winCount < 2 ^ 31) := by
  have column : ∀ {value result : Int}, UserDB.stoi value = .ok result →
      result = value ∧ -2 ^ 31 ≤ value ∧ value < 2 ^ 31 := by
    intro value result read
    unfold UserDB.stoi at read
    split at read
    · rename_i inRange
      exact ⟨(Except.ok.inj read).symm, inRange⟩
    · simp at read
  simp only [loadUser, bind_eq_ok] at loaded
  obtain ⟨_, id, _, points, _, total, _, won, built⟩ := loaded
  obtain ⟨rfl, idRange⟩ := column id
  obtain ⟨rfl, pointsRange⟩ := column points
  obtain ⟨rfl, totalRange⟩ := column total
  obtain ⟨rfl, wonRange⟩ := column won
  simp only [pure_eq_ok, Except.ok.injEq] at built
  exact ⟨built.symm, idRange, pointsRange, totalRange, wonRange⟩

end GomukuServer.Module.Server
