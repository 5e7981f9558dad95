/-
Module: GomukuServer.Proofs.RoomIsolation
Layer: Proofs
Purpose: Whom a chat or a move reaches.  The handlers take the opponent from the two ids a room was
  created with, and those ids stay when a user leaves the room or moves on to another one.  A
  request stays inside the sender's room exactly if the opponent found in this way is still there,
  and the connections the server writes to carry nobody else.
Trusted boundary: none
Main exports: SameRoom, Told, PointsChanged, Isolated, Present, onChess_touches, isolated_run_iff,
  not_isolated_after_exit
-/
import GomukuServer.Module.GameServer

namespace GomukuServer.Proofs.RoomIsolation

open Base Base.Runs Model Manager Db Net
open GomukuServer.Module

/-- `m_userId2Room` leads from both users to one room. -/
def SameRoom (rooms : GameRoomManager) (user other : UserId) : Prop :=
  ∃ ref, rooms.userId2Room.find? user = some ref ∧ rooms.userId2Room.find? other = some ref

/-- One of the two tables connects the user with the connection. -/
def OnConn (users : UserManager) (conn : ConnId) (user : UserId) : Prop :=
  users.userId2Conn.find? user = some conn ∨ users.conn2UserId.find? conn = some user

/-- The server has sent a message on a connection of the user. -/
def Told (server next : Server) (user : UserId) : Prop :=
  ∃ conn ∈ (next.sent.drop server.sent.length).map Sent.conn, OnConn server.users conn user

/-- The points of the user are different, in memory or in the database. -/
def PointsChanged (server next : Server) (user : UserId) : Prop :=
  (next.users.userInfo user).map UserInfo.userPoints ≠
      (server.users.userInfo user).map UserInfo.userPoints ∨
    (next.db.rowOf (UserDB.printed user)).map UserRow.userPoint ≠
      (server.db.rowOf (UserDB.printed user)).map UserRow.userPoint

/-- The connection of a chat or a move. -/
def requestConn : ServerEvent → Option ConnId
  | .chat conn _ => some conn
  | .chess conn _ _ _ => some conn
  | _ => none

/-- A chat or a move of a user sends messages to users of its room only, and changes the points of
no others. -/
def Isolated (server : Server) (event : ServerEvent) : Prop :=
  ∀ conn sender next, requestConn event = some conn →
    server.users.conn2UserId.find? conn = some sender → server.step event = .ok next →
    ∀ user, Told server next user ∨ PointsChanged server next user →
      SameRoom server.rooms sender user

/-- The other of the two ids the sender's room was created with, zero if the sender has no room. -/
def opponent (server : Server) (sender : UserId) : UserId :=
  server.rooms.getUserIdFromOtherId sender

/-- The connection, if it is up, is a connection of users of the sender's room only. -/
def RoomOnly (server : Server) (sender : UserId) (conn : ConnId) : Prop :=
  conn ∈ server.conns.conns → ∀ user, OnConn server.users conn user →
    SameRoom server.rooms sender user

/-- The move makes a line of exactly five in the sender's room. -/
def Wins (server : Server) (sender : UserId) (req : Json.Value) : Prop :=
  ∃ x y ref room, Server.moveOf req = .ok (x, y) ∧
    server.rooms.userId2Room.find? sender = some ref ∧
    server.rooms.rooms.deref ref = some room ∧ room.MakesFive x y sender

/-- The user has points that a lost game can change: a record in memory, or a row with points and an
update that succeeds. -/
def CanLose (server : Server) (user : UserId) (loseOutcome : DbOutcome) : Prop :=
  (server.users.userInfo user).isSome ∨
    (loseOutcome = .succeeded ∧
      ∃ row, server.db.rowOf (UserDB.printed user) = some row ∧ row.userPoint ≠ 0)

/-- The opponent, if it is online, is still in the sender's room, with its connection to itself.
Where the move wins, the same goes for the sender's connection, and for the opponent also if it is
not online but has points to lose. -/
def Present (server : Server) : ServerEvent → Prop
  | .chat conn _ => ∀ sender, server.users.conn2UserId.find? conn = some sender →
      ∀ peer, server.users.getConnByUserId (opponent server sender) = some peer →
        RoomOnly server sender peer
  | .chess conn req _ loseOutcome => ∀ sender, server.users.conn2UserId.find? conn = some sender →
      (∀ peer, server.users.getConnByUserId (opponent server sender) = some peer →
        RoomOnly server sender peer) ∧
      (Wins server sender req → RoomOnly server sender conn ∧
        (CanLose server (opponent server sender) loseOutcome →
          SameRoom server.rooms sender (opponent server sender)))
  | _ => True

/-! ### Whom a request reaches -/

/-- The connections a request writes to tell whom it reaches. -/
theorem told_iff {server next : Server} {more : List Sent} {reached : ConnId → Prop}
    (sentEq : next.sent = server.sent ++ more)
    (recipients : ∀ peer, peer ∈ more.map Sent.conn ↔ peer ∈ server.conns.conns ∧ reached peer)
    (user : UserId) :
    Told server next user ↔
      ∃ peer ∈ server.conns.conns, reached peer ∧ OnConn server.users peer user := by
  simp only [Told, sentEq, List.drop_left, recipients, and_assoc]

/-- The points of the other player change exactly if there are points to change. -/
theorem pointsChanged_settle_iff {server next : Server} {sender recvId user : UserId}
    {winOutcome loseOutcome : DbOutcome} (other : user ≠ sender)
    (called : server.settle sender recvId winOutcome loseOutcome = .ok next) :
    PointsChanged server next user ↔ user = recvId ∧ CanLose server recvId loseOutcome := by
  obtain ⟨db, won, lost, same⟩ := Server.settle_ok called
  have users : next.users = (server.users.winGame sender).loseGame recvId := by rw [same]
  have memory : ((server.users.userInfo user).map UserInfo.loseGame).map UserInfo.userPoints ≠
      (server.users.userInfo user).map UserInfo.userPoints ↔
        (server.users.userInfo user).isSome := by
    cases server.users.userInfo user with
    | none => simp
    | some info =>
        have less : info.userPoints - 5 ≠ info.userPoints := by grind
        simp [UserInfo.loseGame, less]
  have table : ((server.db.rowOf (UserDB.printed user)).map (UserDB.Statement.set
      (.lostUser (UserDB.printed recvId)))).map UserRow.userPoint ≠
        (server.db.rowOf (UserDB.printed user)).map UserRow.userPoint ↔
      ∃ row, server.db.rowOf (UserDB.printed user) = some row ∧ row.userPoint ≠ 0 := by
    cases server.db.rowOf (UserDB.printed user) with
    | none => simp
    | some row =>
        simp only [Option.map_some, UserDB.Statement.set, ne_eq, Option.some.injEq,
          exists_eq_left']
        omega
  rw [PointsChanged, users, UserManager.userInfo_loseGame, UserManager.userInfo_winGame,
    if_neg other, UserDB.rowOf_loseGame lost, UserDB.rowOf_winGame_of_ne other won]
  by_cases loser : user = recvId
  · subst loser
    by_cases executed : loseOutcome = .succeeded
    · simp only [executed, and_self, if_true, memory, table, CanLose, true_and]
    · simp only [executed, and_false, if_true, if_false, memory, ne_eq, not_true_eq_false, or_false,
        CanLose, false_and, true_and]
  · simp [loser]

/-- The user of a logged-in connection is the one the handlers look up. -/
theorem getUserIdByConn_of_find {users : UserManager} {conn : ConnId} {sender : UserId}
    (loggedIn : users.conn2UserId.find? conn = some sender) :
    users.getUserIdByConn conn = sender := by
  simp [UserManager.getUserIdByConn, loggedIn]

/-- A chat stays in the room exactly if the opponent is there. -/
theorem isolated_chat_iff {server next : Server} {conn : ConnId} {req : Json.Value}
    (called : server.onChat conn req = .ok next) :
    Isolated server (.chat conn req) ↔ Present server (.chat conn req) := by
  obtain ⟨more, rfl, recipients⟩ := Server.onChat_ok called
  constructor
  · intro isolated sender loggedIn peer peerOf up user onConn
    rw [getUserIdByConn_of_find loggedIn] at recipients
    exact isolated conn sender _ rfl loggedIn called user
      (.inl ((told_iff rfl recipients user).mpr ⟨peer, up, peerOf, onConn⟩))
  · intro present source sender next' request loggedIn stepEq user touched
    obtain rfl := Option.some.inj request
    obtain rfl := Except.ok.inj (called.symm.trans stepEq)
    rw [getUserIdByConn_of_find loggedIn] at recipients
    rcases touched with told | changed
    · obtain ⟨peer, up, peerOf, onConn⟩ := (told_iff rfl recipients user).mp told
      exact present sender loggedIn peer peerOf up user onConn
    · simp [PointsChanged] at changed

/-- What a move that returns touches: it writes to the opponent and, if it wins, to the sender, and
users and table change only by the settlement of a game that is won. -/
theorem onChess_touches {server next : Server} {conn : ConnId} {sender : UserId} {req : Json.Value}
    {winOutcome loseOutcome : DbOutcome}
    (loggedIn : server.users.conn2UserId.find? conn = some sender)
    (called : server.onChess conn req winOutcome loseOutcome = .ok next) :
    ∃ more, next.sent = server.sent ++ more ∧
      (∀ peer, peer ∈ more.map Sent.conn ↔ peer ∈ server.conns.conns ∧
        ((Wins server sender req ∧ conn = peer) ∨
          server.users.getConnByUserId (opponent server sender) = some peer)) ∧
      ((¬ Wins server sender req ∧ next.users = server.users ∧ next.db = server.db) ∨
        ∃ rooms settled, Wins server sender req ∧
          { server with rooms := rooms }.settle sender (opponent server sender) winOutcome
            loseOutcome = .ok settled ∧ next.users = settled.users ∧ next.db = settled.db) := by
  have asked := Server.onChess_ok called
  simp only [getUserIdByConn_of_find loggedIn] at asked
  obtain ⟨x, y, rooms, ret, settled, more, moved, handled, settledEq, rfl, recipients⟩ := asked
  have won : ret = true ↔ Wins server sender req := by
    rw [GameRoomManager.handChess_true_iff handled]
    constructor
    · rintro ⟨ref, room, seated, held, five⟩
      exact ⟨x, y, ref, room, moved, seated, held, five⟩
    · rintro ⟨otherX, otherY, ref, room, otherMoved, seated, held, five⟩
      obtain ⟨rfl, rfl⟩ := Prod.mk.inj (Except.ok.inj (moved.symm.trans otherMoved))
      exact ⟨ref, room, seated, held, five⟩
  rw [won] at recipients
  cases ret with
  | false =>
      obtain rfl : settled = { server with rooms := rooms } := settledEq
      exact ⟨more, rfl, recipients, .inl ⟨mt won.mpr Bool.false_ne_true, rfl, rfl⟩⟩
  | true =>
      obtain ⟨_, _, _, same⟩ := Server.settle_ok settledEq
      have sentBefore : settled.sent = server.sent := by rw [same]
      refine ⟨more, by rw [sentBefore], recipients, .inr ⟨rooms, settled, won.mp rfl, ?_⟩⟩
      exact ⟨settledEq, rfl, rfl⟩

/-- A move that changes anybody's points wins. -/
theorem wins_of_pointsChanged {server next : Server} {conn : ConnId} {sender user : UserId}
    {req : Json.Value} {winOutcome loseOutcome : DbOutcome}
    (loggedIn : server.users.conn2UserId.find? conn = some sender)
    (called : server.onChess conn req winOutcome loseOutcome = .ok next)
    (changed : PointsChanged server next user) : Wins server sender req := by
  obtain ⟨_, _, _, ⟨_, users, db⟩ | ⟨_, _, wins, _⟩⟩ := onChess_touches loggedIn called
  · simp [PointsChanged, users, db] at changed
  · exact wins

/-- A move changes the points of somebody other than the sender exactly if it wins, against a user
with points to lose. -/
theorem pointsChanged_chess_iff {server next : Server} {conn : ConnId} {sender user : UserId}
    {req : Json.Value} {winOutcome loseOutcome : DbOutcome}
    (loggedIn : server.users.conn2UserId.find? conn = some sender)
    (called : server.onChess conn req winOutcome loseOutcome = .ok next)
    (other : user ≠ sender) :
    PointsChanged server next user ↔ Wins server sender req ∧
      user = opponent server sender ∧ CanLose server (opponent server sender) loseOutcome := by
  obtain ⟨_, _, _, ⟨lost, users, db⟩ | ⟨rooms, settled, wins, settledOk, users, db⟩⟩ :=
    onChess_touches loggedIn called
  · simp [PointsChanged, users, db, lost]
  · have settlement := pointsChanged_settle_iff other settledOk
    simp only [wins, true_and]
    rw [PointsChanged, users, db]
    exact settlement

/-- A user who wins sits in a room. -/
theorem Wins.sameRoom {server : Server} {sender : UserId} {req : Json.Value}
    (wins : Wins server sender req) : SameRoom server.rooms sender sender := by
  obtain ⟨_, _, ref, _, _, seated, _⟩ := wins
  exact ⟨ref, seated, seated⟩

/-- A move stays in the room exactly if the opponent is there. -/
theorem isolated_chess_iff {server next : Server} {conn : ConnId} {req : Json.Value}
    {winOutcome loseOutcome : DbOutcome}
    (called : server.onChess conn req winOutcome loseOutcome = .ok next) :
    Isolated server (.chess conn req winOutcome loseOutcome) ↔
      Present server (.chess conn req winOutcome loseOutcome) := by
  constructor
  · intro isolated sender loggedIn
    have step := isolated conn sender next rfl loggedIn called
    obtain ⟨more, sentEq, recipients, _⟩ := onChess_touches loggedIn called
    have told := told_iff sentEq recipients
    refine ⟨fun peer peerOf up user onConn => ?_, fun wins => ⟨fun up user onConn => ?_, ?_⟩⟩
    · exact step user (.inl ((told user).mpr ⟨peer, up, .inr peerOf, onConn⟩))
    · exact step user (.inl ((told user).mpr ⟨conn, up, .inl ⟨wins, rfl⟩, onConn⟩))
    · intro canLose
      by_cases self : opponent server sender = sender
      · rw [self]
        exact wins.sameRoom
      · refine step _ (.inr ?_)
        exact (pointsChanged_chess_iff loggedIn called self).mpr ⟨wins, rfl, canLose⟩
  · intro present source sender next' request loggedIn stepEq user touched
    obtain rfl := Option.some.inj request
    obtain rfl := Except.ok.inj (called.symm.trans stepEq)
    obtain ⟨more, sentEq, recipients, _⟩ := onChess_touches loggedIn called
    obtain ⟨opponentHere, winning⟩ := present sender loggedIn
    rcases touched with told | points
    · obtain ⟨peer, up, ⟨wins, rfl⟩ | peerOf, onConn⟩ := (told_iff sentEq recipients user).mp told
      · exact (winning wins).1 up user onConn
      · exact opponentHere peer peerOf up user onConn
    · have wins := wins_of_pointsChanged loggedIn called points
      by_cases self : user = sender
      · rw [self]
        exact wins.sameRoom
      · obtain ⟨_, rfl, canLose⟩ := (pointsChanged_chess_iff loggedIn called self).mp points
        exact (winning wins).2 canLose

/-- A step that returns keeps its messages and points in the room exactly if it meets the condition.
-/
theorem isolated_iff_present {server next : Server} {event : ServerEvent}
    (stepEq : server.step event = .ok next) : Isolated server event ↔ Present server event := by
  cases event with
  | chat conn req => exact isolated_chat_iff stepEq
  | chess conn req winOutcome loseOutcome => exact isolated_chess_iff stepEq
  | _ => exact ⟨fun _ => trivial, fun _ conn sender next request => by cases request⟩

/-- In every run of the server, every chat and every move stays in its room exactly if every one of
them that returns finds the opponent there. -/
theorem isolated_run_iff (db : UserDB) (events : List ServerEvent) :
    Admissible Server.step Isolated (Server.new db) events ↔
      Admissible Server.step (WhenReturns Server.step Present) (Server.new db) events := by
  refine admissible_congr (fun server event => ?_) (Server.new db) events
  rw [whenReturns_iff]
  constructor
  · intro isolated next stepEq
    exact (isolated_iff_present stepEq).mp isolated
  · intro present conn sender next request loggedIn stepEq
    exact (isolated_iff_present stepEq).mpr (present next stepEq) conn sender next request loggedIn
      stepEq

/-! ### Leaving and staying -/

/-- Ann says hello. -/
def hello : ServerEvent := .chat 10 (.object [("message", .string "hello")])

/-- Bob leaves the room and is still sent what Ann says there. -/
theorem not_isolated_after_exit :
    ¬ Admissible Server.step Isolated (Server.new annAndBob)
      (pairUp ++ [.exitRoom 11] ++ [hello]) := by
  intro isolated
  have heard : (run Server.step (Server.new annAndBob) (pairUp ++ [.exitRoom 11])).toOption.bind
      (fun server => (server.step hello).toOption.map fun next =>
        (server.users.conn2UserId.find? 10, server.users.userId2Conn.find? 2,
          server.rooms.userId2Room.find? 2,
          (next.sent.drop server.sent.length).map Sent.conn)) =
      some (some 1, some 11, none, [11]) := by
    decide +kernel
  cases reached : run Server.step (Server.new annAndBob) (pairUp ++ [.exitRoom 11]) with
  | error fault => simp [reached, Except.toOption] at heard
  | ok server =>
      cases stepEq : server.step hello with
      | error fault => simp [reached, stepEq, Except.toOption] at heard
      | ok next =>
          simp only [reached, stepEq, Except.toOption, Option.bind_some, Option.map_some,
            Option.some.injEq, Prod.mk.injEq] at heard
          obtain ⟨ann, bob, left, peers⟩ := heard
          have told : Told server next 2 := ⟨11, by rw [peers]; simp, .inl bob⟩
          obtain ⟨ref, _, seated⟩ :=
            isolated.guard_of_run reached 10 1 next rfl ann stepEq 2 (.inl told)
          simp [left] at seated

end GomukuServer.Proofs.RoomIsolation
