/-
Module: GomukuServer.Module.GameRoomHandler
Layer: Module
Purpose: `GameRoomHandler`: chats, moves and departures.  The other player is looked up among the
  two ids the room was created with.
Trusted boundary: the database answers as `Db.UserDB` lets it
Main exports: onChat, settle, onChess, onExitRoom, onChat_ok, onChess_ok, onExitRoom_ok
-/
import GomukuServer.Module.Server

namespace GomukuServer.Module.Server

open Base Model Manager Db Net

/-- `onChat`. -/
def onChat (server : Server) (conn : ConnId) (req : Json.Value) : Except Fault Server := do
  let message ← (← req.getMember "message").asCString
  let sendId := server.users.getUserIdByConn conn
  let recvId := server.rooms.getUserIdFromOtherId sendId
  let recvConn := server.users.getConnByUserId recvId
  pure (server.sendMsg recvConn .GAME_CHAT_ACK (.object [("message", .string message)]))

/-- The settlement of a won game: both rows, then both records. -/
def settle (server : Server) (sendId recvId : UserId) (winOutcome loseOutcome : DbOutcome) :
    Except Fault Server := do
  let db ← server.db.winGame sendId winOutcome
  let db ← db.loseGame recvId loseOutcome
  let users := (server.users.winGame sendId).loseGame recvId
  pure { server with db := db, users := users }

/-- What a player is told after a won game. -/
def chessResult (users : UserManager) (x y : Int) (win : Bool) (userId : UserId) : Json.Value :=
  .object [("x", .int x), ("y", .int y), ("success", .bool true), ("win", .bool win),
    ("userPoint", .int (users.getUserPoints userId).toNat),
    ("totalCount", .int (users.getUserTotalCount userId).toNat),
    ("winCount", .int (users.getUserWinCount userId).toNat)]

/-- What the other player is told about a move that does not win. -/
def moveResult (x y : Int) : Json.Value :=
  .object [("x", .int x), ("y", .int y), ("success", .bool false)]

/-- `onChess`. -/
def onChess (server : Server) (conn : ConnId) (req : Json.Value)
    (winOutcome loseOutcome : DbOutcome) : Except Fault Server := do
  let x ← (← req.getMember "x").asInt
  let y ← (← req.getMember "y").asInt
  let sendId := server.users.getUserIdByConn conn
  let recvId := server.rooms.getUserIdFromOtherId sendId
  let recvConn := server.users.getConnByUserId recvId
  let (rooms, ret) ← server.rooms.handChess x y sendId
  let server := { server with rooms := rooms }
  if ret then do
    let server ← server.settle sendId recvId winOutcome loseOutcome
    let server := server.sendMsg conn .CHESS_DOWN_ACK (chessResult server.users x y true sendId)
    pure (server.sendMsg recvConn .CHESS_DOWN_ACK (chessResult server.users x y false recvId))
  else pure (server.sendMsg recvConn .CHESS_DOWN_ACK (moveResult x y))

/-- `onExitRoom`. -/
def onExitRoom (server : Server) (conn : ConnId) : Except Fault Server := do
  let userId := server.users.getUserIdByConn conn
  let (rooms, users) ← server.rooms.removeUser server.users userId
  pure { server with rooms := rooms, users := users }

/-! ### What the handlers do -/

/-- The cell a move names. -/
def moveOf (req : Json.Value) : Except Fault (Int × Int) := do
  let x ← (← req.getMember "x").asInt
  let y ← (← req.getMember "y").asInt
  pure (x, y)

/-- A chat changes nothing but the record of messages, and goes to the connection of the other id of
the sender's room. -/
theorem onChat_ok {server next : Server} {conn : ConnId} {req : Json.Value}
    (called : server.onChat conn req = .ok next) :
    ∃ more, next = { server with sent := server.sent ++ more } ∧
      ∀ peer, peer ∈ more.map Sent.conn ↔ peer ∈ server.conns.conns ∧
        server.users.getConnByUserId
          (server.rooms.getUserIdFromOtherId (server.users.getUserIdByConn conn)) = some peer := by
  simp only [onChat, bind_eq_ok] at called
  obtain ⟨_, _, text, _, sentEq⟩ := called
  simp only [pure_eq_ok, Except.ok.injEq] at sentEq
  subst sentEq
  exact sendMsg_eq server _ .GAME_CHAT_ACK _

/-- What a normally returning settlement did: an update of each row, as far as MySQL executed it,
and of each record. -/
theorem settle_ok {server next : Server} {sendId recvId : UserId}
    {winOutcome loseOutcome : DbOutcome}
    (called : server.settle sendId recvId winOutcome loseOutcome = .ok next) :
    ∃ db, server.db.winGame sendId winOutcome = .ok db ∧
      db.loseGame recvId loseOutcome = .ok next.db ∧
      next = { server with
        db := next.db
        users := (server.users.winGame sendId).loseGame recvId } := by
  simp only [settle, bind_eq_ok] at called
  obtain ⟨db, won, after, lost, built⟩ := called
  simp only [pure_eq_ok, Except.ok.injEq] at built
  subst built
  exact ⟨db, won, lost, rfl⟩

/-- What a normally returning `onChess` did: the move on the board and, if it won, a settlement
between the sender and the other id of the room.  Messages go to the other id's connection and,
after a won game, to the sender's. -/
theorem onChess_ok {server next : Server} {conn : ConnId} {req : Json.Value}
    {winOutcome loseOutcome : DbOutcome}
    (called : server.onChess conn req winOutcome loseOutcome = .ok next) :
    let sendId := server.users.getUserIdByConn conn
    let recvId := server.rooms.getUserIdFromOtherId sendId
    ∃ x y rooms ret settled more, moveOf req = .ok (x, y) ∧
      server.rooms.handChess x y sendId = .ok (rooms, ret) ∧
      (if ret then
        { server with rooms := rooms }.settle sendId recvId winOutcome loseOutcome = .ok settled
      else settled = { server with rooms := rooms }) ∧
      next = { settled with sent := settled.sent ++ more } ∧
      ∀ peer, peer ∈ more.map Sent.conn ↔ peer ∈ server.conns.conns ∧
        ((ret = true ∧ conn = peer) ∨ server.users.getConnByUserId recvId = some peer) := by
  intro sendId recvId
  simp only [onChess, bind_eq_ok] at called
  obtain ⟨jsonX, memberX, x, readX, jsonY, memberY, y, readY, ⟨rooms, ret⟩, moved, rest⟩ := called
  have move : moveOf req = .ok (x, y) := by
    simp only [moveOf, bind_eq_ok]
    exact ⟨jsonX, memberX, x, readX, jsonY, memberY, y, readY, rfl⟩
  cases ret with
  | false =>
      simp only [Bool.false_eq_true, if_false, pure_eq_ok, Except.ok.injEq] at rest
      subst rest
      obtain ⟨more, same, recipients⟩ := sendMsg_eq { server with rooms := rooms }
        (server.users.getConnByUserId recvId) .CHESS_DOWN_ACK (moveResult x y)
      exact ⟨x, y, rooms, false, _, more, move, moved, rfl, same,
        by simpa using recipients⟩
  | true =>
      simp only [if_true, bind_eq_ok] at rest
      obtain ⟨settled, settledOk, rest⟩ := rest
      simp only [pure_eq_ok, Except.ok.injEq] at rest
      subst rest
      obtain ⟨first, firstEq, toSender⟩ := sendMsg_eq settled (some conn) .CHESS_DOWN_ACK
        (chessResult settled.users x y true sendId)
      obtain ⟨second, secondEq, toOther⟩ := sendMsg_eq
        (settled.sendMsg (some conn) .CHESS_DOWN_ACK (chessResult settled.users x y true sendId))
        (server.users.getConnByUserId recvId) .CHESS_DOWN_ACK
        (chessResult settled.users x y false recvId)
      refine ⟨x, y, rooms, true, settled, first ++ second, move, moved, settledOk, ?_, ?_⟩
      · rw [users_sendMsg]
        refine secondEq.trans ?_
        rw [firstEq, List.append_assoc]
      · obtain ⟨_, _, _, same⟩ := settle_ok settledOk
        have sameConns : settled.conns = server.conns := by rw [same]
        intro peer
        rw [List.map_append, List.mem_append, toSender, toOther, conns_sendMsg, sameConns]
        simp [and_or_left]

/-- After a move users and rows may be others, if it wins. -/
theorem afterMove_ok {server settled : Server} {sendId recvId : UserId}
    {winOutcome loseOutcome : DbOutcome} {rooms : GameRoomManager} {ret : Bool}
    (after : if ret then
        { server with rooms := rooms }.settle sendId recvId winOutcome loseOutcome = .ok settled
      else settled = { server with rooms := rooms }) :
    settled = { server with rooms := rooms, db := settled.db, users := settled.users } := by
  cases ret with
  | false => exact after ▸ rfl
  | true =>
      obtain ⟨_, _, _, same⟩ := settle_ok after
      rw [same]

/-- What `onChess` does with a move that wins. -/
theorem onChess_of_won {server : Server} {conn : ConnId} {req : Json.Value} {x y : Int}
    {rooms : GameRoomManager} (winOutcome loseOutcome : DbOutcome)
    (moved : moveOf req = .ok (x, y))
    (handled : server.rooms.handChess x y (server.users.getUserIdByConn conn) =
      .ok (rooms, true)) :
    let sendId := server.users.getUserIdByConn conn
    let recvId := server.rooms.getUserIdFromOtherId sendId
    server.onChess conn req winOutcome loseOutcome =
      ({ server with rooms := rooms }.settle sendId recvId winOutcome loseOutcome).map
        fun (settled : Server) =>
          (settled.sendMsg conn .CHESS_DOWN_ACK (chessResult settled.users x y true sendId)).sendMsg
            (server.users.getConnByUserId recvId) .CHESS_DOWN_ACK
            (chessResult settled.users x y false recvId) := by
  intro sendId recvId
  simp only [moveOf, bind_eq_ok] at moved
  obtain ⟨jsonX, memberX, _, readX, jsonY, memberY, _, readY, same⟩ := moved
  obtain ⟨rfl, rfl⟩ := Prod.mk.inj (Except.ok.inj same)
  simp only [onChess, memberX, readX, memberY, readY, ok_bind, handled, if_true, users_sendMsg]
  rfl

/-- A settlement returns exactly if both calls of the database get a connection. -/
theorem exists_settle_iff {server : Server} {sendId recvId : UserId}
    {winOutcome loseOutcome : DbOutcome} :
    (∃ next, server.settle sendId recvId winOutcome loseOutcome = .ok next) ↔
      winOutcome ≠ .noConnection ∧ loseOutcome ≠ .noConnection := by
  cases winOutcome <;> cases loseOutcome <;>
    simp [settle, UserDB.winGame, UserDB.loseGame, UserDB.update]

/-- What a normally returning `onExitRoom` did. -/
theorem onExitRoom_ok {server next : Server} {conn : ConnId}
    (called : server.onExitRoom conn = .ok next) :
    server.rooms.removeUser server.users (server.users.getUserIdByConn conn) =
        .ok (next.rooms, next.users) ∧
      next = { server with rooms := next.rooms, users := next.users } := by
  simp only [onExitRoom, bind_eq_ok] at called
  obtain ⟨⟨rooms, users⟩, removed, built⟩ := called
  simp only [pure_eq_ok, Except.ok.injEq] at built
  subst built
  exact ⟨removed, rfl⟩

end GomukuServer.Module.Server
