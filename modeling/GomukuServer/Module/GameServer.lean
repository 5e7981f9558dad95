/-
Module: GomukuServer.Module.GameServer
Layer: Module
Purpose: The server as a whole: connections come and go, requests are handled and the match thread
  takes its turns.  One event is one call into the handlers, executed to its end; a list of events
  is a history of the server.
Trusted boundary: events do not overlap
Main exports: ServerEvent, step, onDisconnect_eq, poolStep_of_step, roomsStep_of_step
-/
import GomukuServer.Base.Runs
import GomukuServer.Module.UserHandler
import GomukuServer.Module.MatchHandler
import GomukuServer.Module.GameRoomHandler

namespace GomukuServer.Module

open Base Base.Runs Model Manager Db Net

/-- What can happen to the server.  Besides the connection and the body of a request an event
carries what the code does not determine: what an erased map entry reads as, how the database calls
went, and what a new room finds in its counter. -/
inductive ServerEvent where
  | connect (conn : ConnId)
  | disconnect (conn erased : ConnId)
  | register (conn : ConnId) (req : Json.Value) (outcome : RegisterOutcome)
  | login (conn : ConnId) (req : Json.Value) (outcome : LoginOutcome)
  | matchStart (conn : ConnId) (req : Json.Value)
  | matchCancel (conn : ConnId) (req : Json.Value)
  | matchQueue (i : Fin 3) (roomCount : UInt32)
  | chess (conn : ConnId) (req : Json.Value) (winOutcome loseOutcome : DbOutcome)
  | chat (conn : ConnId) (req : Json.Value)
  | exitRoom (conn : ConnId)

namespace Server

/-- `onConnection` for a connection that has come up. -/
def onConnect (server : Server) (conn : ConnId) : Server :=
  { server with conns := server.conns.addConn conn }

/-- `onConnection` for a connection that has gone down. -/
def onDisconnect (server : Server) (conn erased : ConnId) : Server :=
  let (conns, users) := server.conns.removeConn server.users conn erased
  { server with conns := conns, users := users }

/-- A disconnect takes the user of the connection off line, unless the connection carries nobody. -/
theorem onDisconnect_eq (server : Server) (conn erased : ConnId) :
    server.onDisconnect conn erased = { server with
      conns := ⟨server.conns.conns.erase conn⟩
      users :=
        if server.users.getUserIdByConn conn ≠ 0 then
          server.users.removeOnlineUser (server.users.getUserIdByConn conn) erased
        else server.users } := by
  by_cases loggedIn : server.users.getUserIdByConn conn ≠ 0 <;>
    simp [onDisconnect, ConnManager.removeConn, loggedIn]

/-- Execute one event. -/
def step (server : Server) : ServerEvent → Except Fault Server
  | .connect conn => .ok (server.onConnect conn)
  | .disconnect conn erased => .ok (server.onDisconnect conn erased)
  | .register conn req outcome => server.onRegister conn req outcome
  | .login conn req outcome => server.onLogin conn req outcome
  | .matchStart conn req => server.onMatch conn req
  | .matchCancel conn req => server.onCancelMatch conn req
  | .matchQueue i roomCount => server.matchQueue i roomCount
  | .chess conn req winOutcome loseOutcome => server.onChess conn req winOutcome loseOutcome
  | .chat conn req => server.onChat conn req
  | .exitRoom conn => server.onExitRoom conn

/-! ### What a step can do to a part of the server -/

/-- What becomes of the queues. -/
inductive PoolStep (server : Server) : ServerEvent → MatchPool → Prop where
  | same {event} : PoolStep server event server.pool
  /-- A match request that is granted. -/
  | joined {conn req userId info} (requested : requestedUser req = .ok userId)
      (current : server.users.userInfo userId = some info) (idle : info.state = .online) :
      PoolStep server (.matchStart conn req)
        (server.pool.pushBack (MatchPool.band info.userPoints) userId)
  /-- A cancel that is granted. -/
  | left {conn req userId info} (requested : requestedUser req = .ok userId)
      (current : server.users.userInfo userId = some info) (waiting : info.state = .matching) :
      PoolStep server (.matchCancel conn req)
        (server.pool.remove (MatchPool.band info.userPoints) userId)
  | taken {i roomCount userId1 userId2 rest}
      (queued : server.pool.queues i = userId1 :: userId2 :: rest) :
      PoolStep server (.matchQueue i roomCount) (server.pool.popped i rest)

/-- What becomes of the rooms. -/
inductive RoomsStep (server : Server) : ServerEvent → GameRoomManager → Prop where
  | same {event} : RoomsStep server event server.rooms
  | opened {i roomCount userId1 userId2 rest}
      (queued : server.pool.queues i = userId1 :: userId2 :: rest) :
      RoomsStep server (.matchQueue i roomCount)
        (server.rooms.createRoom roomCount userId1 userId2)
  | played {conn req winOutcome loseOutcome x y rooms ret} (move : moveOf req = .ok (x, y))
      (handled : server.rooms.handChess x y (server.users.getUserIdByConn conn) =
        .ok (rooms, ret)) :
      RoomsStep server (.chess conn req winOutcome loseOutcome) rooms
  | exited {conn rooms users}
      (removed : server.rooms.removeUser server.users (server.users.getUserIdByConn conn) =
        .ok (rooms, users)) :
      RoomsStep server (.exitRoom conn) rooms

/-- A step does one of these things to the queues. -/
theorem poolStep_of_step {server next : Server} {event : ServerEvent}
    (stepEq : server.step event = .ok next) : PoolStep server event next.pool := by
  cases event with
  | connect | disconnect =>
      obtain rfl := Except.ok.inj stepEq
      exact .same
  | register =>
      obtain ⟨_, _, _, _, _, _, same⟩ := onRegister_ok stepEq
      rw [same]
      exact .same
  | login =>
      obtain ⟨_, ⟨_, rfl⟩ | ⟨_, _, _, _, rfl⟩⟩ := onLogin_ok stepEq
      · exact .same
      · exact .same
  | matchStart =>
      obtain ⟨userId, after, _, _, requested, added, rfl⟩ := onMatch_ok stepEq
      obtain ⟨_, info, _, current, ⟨_, rfl⟩ | ⟨idle, rfl⟩⟩ := addUser_ok added
      · exact .same
      · exact .joined requested current idle
  | matchCancel =>
      obtain ⟨userId, after, _, _, requested, removed, rfl⟩ := onCancelMatch_ok stepEq
      obtain ⟨_, info, _, current, ⟨_, rfl⟩ | ⟨waiting, rfl⟩⟩ := removeUser_ok removed
      · exact .same
      · exact .left requested current waiting
  | matchQueue =>
      rcases matchQueue_ok stepEq with
        ⟨_, rfl⟩ | ⟨_, _, _, _, _, _, _, _, queued, _, _, _, _, rfl⟩
      · exact .same
      · exact .taken queued
  | chess =>
      obtain ⟨_, _, _, _, _, _, _, _, settled, rfl, _⟩ := onChess_ok stepEq
      rw [afterMove_ok settled]
      exact .same
  | chat =>
      obtain ⟨_, rfl, _⟩ := onChat_ok stepEq
      exact .same
  | exitRoom =>
      obtain ⟨_, same⟩ := onExitRoom_ok stepEq
      rw [same]
      exact .same

/-- A step does one of these things to the rooms. -/
theorem roomsStep_of_step {server next : Server} {event : ServerEvent}
    (stepEq : server.step event = .ok next) : RoomsStep server event next.rooms := by
  cases event with
  | connect | disconnect =>
      obtain rfl := Except.ok.inj stepEq
      exact .same
  | register =>
      obtain ⟨_, _, _, _, _, _, same⟩ := onRegister_ok stepEq
      rw [same]
      exact .same
  | login =>
      obtain ⟨_, ⟨_, rfl⟩ | ⟨_, _, _, _, rfl⟩⟩ := onLogin_ok stepEq
      · exact .same
      · exact .same
  | matchStart =>
      obtain ⟨_, after, _, _, _, added, rfl⟩ := onMatch_ok stepEq
      obtain ⟨_, _, _, _, ⟨_, rfl⟩ | ⟨_, rfl⟩⟩ := addUser_ok added
      · exact .same
      · exact .same
  | matchCancel =>
      obtain ⟨_, after, _, _, _, removed, rfl⟩ := onCancelMatch_ok stepEq
      obtain ⟨_, _, _, _, ⟨_, rfl⟩ | ⟨_, rfl⟩⟩ := removeUser_ok removed
      · exact .same
      · exact .same
  | matchQueue =>
      rcases matchQueue_ok stepEq with
        ⟨_, rfl⟩ | ⟨_, _, _, _, _, _, _, _, queued, _, _, _, _, rfl⟩
      · exact .same
      · exact .opened queued
  | chess =>
      obtain ⟨_, _, _, _, _, _, move, handled, settled, rfl, _⟩ := onChess_ok stepEq
      rw [afterMove_ok settled]
      exact .played move handled
  | chat =>
      obtain ⟨_, rfl, _⟩ := onChat_ok stepEq
      exact .same
  | exitRoom =>
      obtain ⟨removed, _⟩ := onExitRoom_ok stepEq
      exact .exited removed

end Server

/-! ### Two users to try things with -/

/-- A table with users 1 and 2. -/
def annAndBob : UserDB where
  rows := [UserDB.newRow 1 "ann" "", UserDB.newRow 2 "bob" ""]
  statements := []
  primaryKey := by decide

/-- A query that looks for the user name. -/
def byName : LoginOutcome := .answered fun username _ row => row.userName == username

/-- A connection comes up and its user logs in. -/
def enter (conn : ConnId) (username : String) : List ServerEvent :=
  [.connect conn,
    .login conn (.object [("username", .string username), ("password", .string "")]) byName]

/-- A request to be matched. -/
def startMatch (conn : ConnId) (userId : Int) : ServerEvent :=
  .matchStart conn (.object [("userId", .int userId)])

/-- Users 1 and 2 log in, on connections 10 and 11, and are matched. -/
def pairUp : List ServerEvent :=
  enter 10 "ann" ++ enter 11 "bob" ++
    [startMatch 10 1, startMatch 11 2, .matchQueue (MatchPool.band 1000) 2]

end GomukuServer.Module
