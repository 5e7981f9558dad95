/-
Module: GomukuServer.Module.MatchMonitor
Layer: Module
Purpose: `MatchPool` with its mutex and its condition variable: handlers that lock it in `addUser`
  and `removeUser`, and the match thread, which keeps the mutex from one wait to the next.  The
  calls in between are those of `Threads`, which lets go of the mutex more often.
Trusted boundary: the other mutexes cover single calls
Main exports: MatchUser, MatchPoint, ManagerCall, MatchMonitor.program, MatchMonitor.step,
  MatchMonitor.threads
-/
import GomukuServer.Base.Monitor
import GomukuServer.Module.Threads

namespace GomukuServer.Module

open Base Base.Monitor Model Manager Db Net

/-- The threads that use the match pool. -/
inductive MatchUser where
  | handler (thread : Nat)
  | matchThread
deriving DecidableEq, Repr

/-- What the holder of `m_mutex` does next. -/
inductive MatchPoint where
  /-- `addUser`: the lookup, the rest up to the notification, the notification. -/
  | addLookup (userId : UserId)
  | addEnqueue (userId : UserId) (user : Option Ref)
  | addNotify
  /-- `removeUser`. -/
  | removeLookup (userId : UserId)
  | removeDequeue (userId : UserId) (user : Option Ref)
  /-- The lock goes out of scope. -/
  | unlock
  /-- `matchThread`: the test of its inner `while` loop. -/
  | whileNobody
  /-- The head of its `for` loop. -/
  | forQueue (i : Nat)
  /-- The body of its `for` loop. -/
  | inBody (i : Nat) (pc : MatchPc)
deriving DecidableEq, Repr

/-- A call that needs no lock of the match pool. -/
inductive ManagerCall where
  | login (row : UserRow) (conn : ConnId)
  | removeOnlineUser (userId : UserId) (erased : ConnId)
  | exitRoom (userId : UserId)

/-- The same call in `Threads`. -/
def ManagerCall.threadCall : ManagerCall → ThreadCall
  | .login row conn => .login row conn
  | .removeOnlineUser userId erased => .removeOnlineUser userId erased
  | .exitRoom userId => .exitRoom userId

namespace MatchMonitor

/-- Where a thread locks `m_mutex`. -/
def entry : MatchUser → MatchPoint → Bool
  | .handler _, .addLookup _ => true
  | .handler _, .removeLookup _ => true
  | .matchThread, .whileNobody => true
  | _, _ => false

/-- One action of the holder; a room that is made in it finds `roomCount` in its counter. -/
def act (roomCount : UInt32) (point : MatchPoint) (server : Server) :
    Except Fault (Server × Effect MatchPoint) :=
  match point with
  | .addLookup userId =>
      .ok (server, .goOn (.addEnqueue userId (server.users.getUserByUserId userId)))
  | .addEnqueue userId user => do
      let (server, ret) ← server.enqueue userId user
      pure (server, if ret then .goOn .addNotify else .leave)
  | .addNotify => .ok (server, .notifyOne .unlock)
  | .removeLookup userId =>
      .ok (server, .goOn (.removeDequeue userId (server.users.getUserByUserId userId)))
  | .removeDequeue userId user => do
      let (server, _) ← server.dequeue userId user
      pure (server, .leave)
  | .unlock => .ok (server, .leave)
  | .whileNobody =>
      .ok (server, if server.NobodyToPair then .wait .whileNobody else .goOn (.forQueue 0))
  | .forQueue i =>
      if inside : i < 3 then
        match server.pool.queues ⟨i, inside⟩ with
        | userId1 :: userId2 :: rest =>
            .ok ({ server with pool := server.pool.popped ⟨i, inside⟩ rest },
              .goOn (.inBody i (.popped userId1 userId2)))
        | _ => .ok (server, .goOn (.forQueue (i + 1)))
      else .ok (server, .goOn .whileNobody)
  | .inBody i pc => do
      let (server, pc) ← server.matchStep roomCount pc
      pure (server, .goOn ((pc.map (MatchPoint.inBody i)).getD (.forQueue (i + 1))))

/-- The users of the match pool around its mutex. -/
def program : Program MatchUser MatchPoint Server UInt32 ManagerCall Fault where
  entry := entry
  act := act
  timeout := id
  outer := fun call server =>
    (Threads.step ⟨server, .nobody⟩ call.threadCall).map Threads.server

/-- The server, and the threads around the match pool. -/
abbrev MonitorState := State MatchUser MatchPoint Server UInt32

/-- What a thread can do. -/
abbrev MonitorEvent := Event MatchUser MatchPoint UInt32 ManagerCall

/-- Let a thread move. -/
def step : MonitorState → MonitorEvent → Except Fault MonitorState := Monitor.step program

/-- What `Threads` knows of the holder: nothing between two calls that belong together there. -/
def holderOf : MatchPoint → Module.Holder
  | .addEnqueue userId user => .addUser userId user
  | .removeDequeue userId user => .removeUser userId user
  | .inBody _ pc => .matchThread pc
  | _ => .nobody

/-- The state as `Threads` has it. -/
def threads (state : MonitorState) : Threads where
  server := state.shared
  holder := (state.holder.map fun holder => holderOf holder.point).getD .nobody

end MatchMonitor

end GomukuServer.Module
