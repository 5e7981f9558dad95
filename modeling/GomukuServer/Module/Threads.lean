/-
Module: GomukuServer.Module.Threads
Layer: Module
Purpose: The match thread and the event-loop threads side by side.  A step is one call of a manager
  or one write through a pointer, and the list of steps names the interleaving.  `MatchPool`'s mutex
  is held across several calls, so its holder, with what that thread has in local variables, is part
  of the state.  Handlers take ids from earlier lookups, so the calls are taken with any id.
Trusted boundary: the other mutexes cover single calls
Main exports: MatchPc, Holder, Threads, ThreadCall, step, run_addUser, run_removeUser,
  run_matchTurn
-/
import GomukuServer.Base.Runs
import GomukuServer.Module.UserHandler
import GomukuServer.Module.MatchHandler
import GomukuServer.Module.GameRoomHandler

namespace GomukuServer.Module

open Base Base.Runs Model Manager Db Net

/-- Where the match thread is in its loop body, with the local variables that are set there. -/
inductive MatchPc where
  | popped (userId1 userId2 : UserId)
  | conn1Found (userId1 userId2 : UserId) (conn1 : Option ConnId)
  | connsFound (userId1 userId2 : UserId) (conn1 conn2 : Option ConnId)
  | user1Found (userId1 userId2 : UserId) (conn1 conn2 : Option ConnId) (user1 : Option Ref)
  | fetched (pair : Pairing)
  | reset (pair : Pairing)
  | checked (pair : Pairing)
  | roomCreated (pair : Pairing)
  | user1Gaming (pair : Pairing)
  | user2Gaming (pair : Pairing)
  | user1Told (pair : Pairing)
deriving DecidableEq, Repr

/-- Who holds the mutex of the match pool. -/
inductive Holder where
  | nobody
  | addUser (userId : UserId) (user : Option Ref)
  | removeUser (userId : UserId) (user : Option Ref)
  | matchThread (pc : MatchPc)
deriving DecidableEq, Repr

/-- The shared state and the holder of the mutex. -/
structure Threads where
  server : Server
  holder : Holder

/-- One call.  A login has read its row before; `proceed` lets the holder of the mutex make its next
call. -/
inductive ThreadCall where
  | login (row : UserRow) (conn : ConnId)
  | removeOnlineUser (userId : UserId) (erased : ConnId)
  | exitRoom (userId : UserId)
  | lockToAdd (userId : UserId)
  | lockToRemove (userId : UserId)
  | lockToMatch (i : Fin 3)
  | proceed (roomCount : UInt32)

/-- The next call of the match thread, and where it is then; nowhere after the last call of the loop
body. -/
def Server.matchStep (server : Server) (roomCount : UInt32) :
    MatchPc → Except Fault (Server × Option MatchPc)
  | .popped userId1 userId2 =>
      .ok (server, some (.conn1Found userId1 userId2 (server.users.getConnByUserId userId1)))
  | .conn1Found userId1 userId2 conn1 =>
      .ok (server, some (.connsFound userId1 userId2 conn1 (server.users.getConnByUserId userId2)))
  | .connsFound userId1 userId2 conn1 conn2 =>
      .ok (server,
        some (.user1Found userId1 userId2 conn1 conn2 (server.users.getUserByconn conn1)))
  | .user1Found userId1 userId2 conn1 conn2 user1 =>
      .ok (server, some (.fetched
        ⟨userId1, userId2, conn1, conn2, user1, server.users.getUserByconn conn2⟩))
  | .fetched pair =>
      match pair.remaining with
      | none => .ok (server, some (.checked pair))
      | some (user, _) => do
          let server ← server.setStateOf user .online
          pure (server, some (.reset pair))
  | .reset pair =>
      match pair.remaining with
      | none => .ok (server, some (.checked pair))
      | some (_, conn) =>
          .ok (server.sendMsg conn .MATCH_PUSH Server.absentResult, some (.checked pair))
  | .checked pair => .ok (server.openRoom pair roomCount, some (.roomCreated pair))
  | .roomCreated pair => do
      let server ← server.setStateOf pair.user1 .gaming
      pure (server, some (.user1Gaming pair))
  | .user1Gaming pair => do
      let server ← server.setStateOf pair.user2 .gaming
      pure (server, some (.user2Gaming pair))
  | .user2Gaming pair =>
      .ok (server.sendMsg pair.conn1 .MATCH_PUSH (Server.matchedResult 1), some (.user1Told pair))
  | .user1Told pair => .ok (server.sendMsg pair.conn2 .MATCH_PUSH (Server.matchedResult 2), none)

namespace Threads

/-- The server before any call. -/
def new (db : UserDB) : Threads := ⟨Server.new db, .nobody⟩

/-- The next call of the holder of the mutex. -/
def proceed (threads : Threads) (roomCount : UInt32) : Except Fault Threads :=
  match threads.holder with
  | .nobody => .ok threads
  | .addUser userId user => do
      let (server, _) ← threads.server.enqueue userId user
      pure ⟨server, .nobody⟩
  | .removeUser userId user => do
      let (server, _) ← threads.server.dequeue userId user
      pure ⟨server, .nobody⟩
  | .matchThread pc => do
      let (server, pc) ← threads.server.matchStep roomCount pc
      pure ⟨server, (pc.map Holder.matchThread).getD .nobody⟩

/-- Execute one call.  A thread that finds the mutex taken waits. -/
def step (threads : Threads) : ThreadCall → Except Fault Threads
  | .login row conn => do
      let user ← Server.loadUser row conn
      pure { threads with server := { threads.server with
        users := threads.server.users.addOnlineUser user } }
  | .removeOnlineUser userId erased =>
      .ok { threads with server := { threads.server with
        users := threads.server.users.removeOnlineUser userId erased } }
  | .exitRoom userId => do
      let (rooms, users) ← threads.server.rooms.removeUser threads.server.users userId
      pure { threads with server := { threads.server with rooms := rooms, users := users } }
  | .lockToAdd userId =>
      match threads.holder with
      | .nobody =>
          .ok ⟨threads.server, .addUser userId (threads.server.users.getUserByUserId userId)⟩
      | _ => .ok threads
  | .lockToRemove userId =>
      match threads.holder with
      | .nobody =>
          .ok ⟨threads.server, .removeUser userId (threads.server.users.getUserByUserId userId)⟩
      | _ => .ok threads
  | .lockToMatch i =>
      match threads.holder, threads.server.pool.queues i with
      | .nobody, userId1 :: userId2 :: rest =>
          .ok ⟨{ threads.server with pool := threads.server.pool.popped i rest },
            .matchThread (.popped userId1 userId2)⟩
      | _, _ => .ok threads
  | .proceed roomCount => threads.proceed roomCount

/-! ### Calls that nothing comes between -/

/-- Undisturbed, a match request is one event of the server. -/
theorem run_addUser {server next : Server} {userId : UserId} {ret : Bool}
    (called : server.addUser userId = .ok (next, ret)) (roomCount : UInt32) :
    run step ⟨server, .nobody⟩ [.lockToAdd userId, .proceed roomCount] =
      .ok ⟨next, .nobody⟩ := by
  unfold Server.addUser at called
  simp [run, step, proceed, called]

/-- Undisturbed, a cancel request is one event of the server. -/
theorem run_removeUser {server next : Server} {userId : UserId} {ret : Bool}
    (called : server.removeUser userId = .ok (next, ret)) (roomCount : UInt32) :
    run step ⟨server, .nobody⟩ [.lockToRemove userId, .proceed roomCount] =
      .ok ⟨next, .nobody⟩ := by
  unfold Server.removeUser at called
  simp [run, step, proceed, called]

/-- The calls of one turn of the match thread with both players present. -/
def matchTurn (i : Fin 3) (roomCount : UInt32) : List ThreadCall :=
  .lockToMatch i :: List.replicate 10 (.proceed roomCount)

/-- Undisturbed, a turn of the match thread is one event of the server. -/
theorem run_matchTurn {server next : Server} {i : Fin 3} {roomCount : UInt32}
    (enough : 2 ≤ (server.pool.queues i).length)
    (called : server.matchQueue i roomCount = .ok next) :
    run step ⟨server, .nobody⟩ (matchTurn i roomCount) = .ok ⟨next, .nobody⟩ := by
  obtain ⟨short, _⟩ | ⟨userId1, userId2, rest, conn1, conn2, ref1, ref2, sent, queued, online1,
    online2, user1, user2, _⟩ := Server.matchQueue_ok called
  · omega
  · unfold Server.matchQueue at called
    rw [queued] at called
    simp only [Server.lookup, UserManager.getConnByUserId, online1, online2, user1, user2,
      Server.reportAbsent, Pairing.remaining, Server.setStateOf, ok_bind, pure_eq_ok,
      Except.ok.injEq] at called
    simp [run, step, proceed, matchTurn, queued, Server.matchStep, UserManager.getConnByUserId,
      online1, online2, user1, user2, Pairing.remaining, Server.setStateOf, ← called,
      Server.pushResult, Server.openRoom]

end Threads

end GomukuServer.Module
