/-
Module: GomukuServer.Module.Locks
Layer: Module
Purpose: What the server's functions do with mutexes.  A definition has the name of the function and
  says which locks it takes, in what order and in which scopes, and which functions it calls; the
  branches it takes are left open.  Functors that a loop runs later are run by the thread of the
  loop.
Trusted boundary: no destructor, log call or call of the client library locks one of the mutexes
Main exports: Mutex, Thread, main
-/
import GomukuServer.Base.LockOrder

namespace GomukuServer.Module.Locks

open Base.LockOrder
open Base.LockOrder.Code (block oneOf maybe guarded)

/-- The mutexes: one for each manager, the match pool, the connection pool and every event loop. -/
inductive Mutex where
  | matchPool
  | gameRoomManager
  | connManager
  | userManager
  | eventLoop (loop : Nat)
  | mysqlConnectionPool
deriving DecidableEq, Repr

/-- What a function does with the mutexes.  The indices are the numbers of loops. -/
abbrev Code := Base.LockOrder.Code Mutex Nat

/-! ### `UserManager` -/

namespace UserManager

def addOnlineUser : Code := guarded .userManager []

def removeOnlineUser : Code := guarded .userManager []

def getUserByUserId : Code := guarded .userManager []

def getUserByconn : Code := guarded .userManager []

def getUserIdByConn : Code := guarded .userManager []

def getConnByUserId : Code := guarded .userManager []

/-- Without a lock. -/
def setUserState : Code := .skip

/-- Without a lock. -/
def winGame : Code := .skip

/-- Without a lock. -/
def loseGame : Code := .skip

def getUserPoints : Code := guarded .userManager []

def getUserTotalCount : Code := guarded .userManager []

def getUserWinCount : Code := guarded .userManager []

end UserManager

/-! ### `EventLoop` and `TcpConnection` -/

namespace EventLoop

/-- The wake-up comes after the scope of the lock. -/
def queueInLoop (loop : Nat) : Code := guarded (.eventLoop loop) []

/-- The callback is run at once in the thread of the loop. -/
def runInLoop (loop : Nat) (cb : Code) : Code := .either cb (queueInLoop loop)

end EventLoop

namespace TcpConnection

open EventLoop

/-- The callbacks for a complete write and for the high-water mark are queued. -/
def sendInLoop (loop : Nat) : Code := block [maybe (queueInLoop loop), maybe (queueInLoop loop)]

def send (loop : Nat) : Code :=
  maybe (.either (sendInLoop loop) (runInLoop loop (sendInLoop loop)))

def shutdownInLoop : Code := .skip

def shutdown (loop : Nat) : Code := maybe (runInLoop loop shutdownInLoop)

end TcpConnection

namespace TimerWheel

open EventLoop

/-- `TimerTaskAdd`, `TimerTaskRefresh` and `TimerTaskCancel`.  What they run in the loop locks
nothing. -/
def timerTask (loop : Nat) : Code := runInLoop loop .skip

/-- Tasks whose last reference goes with their slot call `shutdown`. -/
def OnTime (loop : Nat) : Code := .loop (TcpConnection.shutdown loop)

end TimerWheel

/-! ### `ConnManager` -/

namespace ConnManager

open UserManager

def addConn : Code := guarded .connManager []

def removeConn : Code := guarded .connManager [getUserIdByConn, maybe removeOnlineUser]

def isConnValid : Code := guarded .connManager []

/-- The connection can be one of any loop. -/
def sendMsg : Code := block [isConnValid, maybe (.choose TcpConnection.send)]

end ConnManager

/-! ### `GameRoomManager` -/

namespace GameRoomManager

def createRoom : Code := guarded .gameRoomManager []

def passiveRemoveRoom : Code := guarded .gameRoomManager []

/-- `passiveRemoveRoom` is called in the scope of the lock. -/
def removeUser : Code :=
  guarded .gameRoomManager [maybe (block [maybe passiveRemoveRoom, UserManager.setUserState])]

def getUserIdFromOtherId : Code := guarded .gameRoomManager []

def handChess : Code := guarded .gameRoomManager []

end GameRoomManager

/-! ### The database -/

namespace MysqlConnectionPool

def getMysqlConnection : Code :=
  guarded .mysqlConnectionPool [.loop (.wait .mysqlConnectionPool)]

/-- The deleter of a borrowed connection. -/
def release : Code := guarded .mysqlConnectionPool []

def produceConnectionTask : Code :=
  .loop (guarded .mysqlConnectionPool [.loop (.wait .mysqlConnectionPool)])

def scannerConnectionTask : Code := .loop (guarded .mysqlConnectionPool [])

end MysqlConnectionPool

namespace UserDB

open MysqlConnectionPool

/-- A connection is given back when the operation returns. -/
def registerUser : Code := block [getMysqlConnection, maybe release]

def loginUser : Code := block [getMysqlConnection, maybe release]

def winGame : Code := block [getMysqlConnection, maybe release]

def loseGame : Code := block [getMysqlConnection, maybe release]

end UserDB

/-! ### `MatchPool` -/

namespace MatchPool

open UserManager ConnManager GameRoomManager

def addUser : Code := guarded .matchPool [getUserByUserId]

def removeUser : Code := guarded .matchPool [getUserByUserId]

/-- The body of the `for` loop, for a queue with two users. -/
def pairUp : Code :=
  block [getConnByUserId, getConnByUserId, getUserByconn, getUserByconn, maybe sendMsg, createRoom,
    sendMsg, sendMsg]

/-- The lock is given up in the waits only. -/
def matchThread : Code :=
  guarded .matchPool [.loop (block [.loop (.wait .matchPool), maybe pairUp, maybe pairUp,
    maybe pairUp])]

end MatchPool

/-! ### The request handlers -/

namespace Handlers

open UserManager ConnManager GameRoomManager

def onRegister : Code := block [UserDB.registerUser, sendMsg]

def onLogin : Code := block [UserDB.loginUser, maybe addOnlineUser, sendMsg]

def onMatch : Code := block [MatchPool.addUser, sendMsg]

def onCancelMatch : Code := block [MatchPool.removeUser, sendMsg]

def onChat : Code := block [getUserIdByConn, getUserIdFromOtherId, getConnByUserId, sendMsg]

def onChess : Code :=
  block [getUserIdByConn, getUserIdFromOtherId, getConnByUserId, handChess,
    .either
      (block [UserDB.winGame, UserDB.loseGame, winGame, loseGame,
        getUserPoints, getUserTotalCount, getUserWinCount, sendMsg,
        getUserPoints, getUserTotalCount, getUserWinCount, sendMsg])
      sendMsg]

def onExitRoom : Code := block [getUserIdByConn, GameRoomManager.removeUser]

/-- `ProtocolDispatcher::dispatch`. -/
def dispatch : Code :=
  oneOf [onRegister, onLogin, onMatch, onCancelMatch, onChat, onChess, onExitRoom]

end Handlers

/-! ### Callbacks and loops -/

namespace GameServer

def onConnection : Code := .either ConnManager.addConn ConnManager.removeConn

def onMessage : Code := Handlers.dispatch

end GameServer

namespace TcpServer

open EventLoop

/-- The loop of the server itself. -/
def mainLoop : Nat := 0

def removeConnectionInLoop : Code := .choose queueInLoop

def removeConnection : Code := runInLoop mainLoop removeConnectionInLoop

end TcpServer

namespace TcpConnection

open EventLoop

def connectEstablished : Code := GameServer.onConnection

def connectDestroyed (loop : Nat) : Code :=
  block [maybe GameServer.onConnection, maybe (TimerWheel.timerTask loop)]

def enableInactiveReleaseInLoop (loop : Nat) : Code := TimerWheel.timerTask loop

def handlerClose : Code := block [GameServer.onConnection, TcpServer.removeConnection]

def handleError : Code := .skip

def handleRead : Code := oneOf [GameServer.onMessage, handlerClose, handleError]

def handleWrite (loop : Nat) : Code :=
  maybe (block [maybe (queueInLoop loop), maybe shutdownInLoop])

def handleEvent (loop : Nat) : Code := maybe (TimerWheel.timerTask loop)

end TcpConnection

namespace TcpServer

open EventLoop

/-- A new connection is given to one of the loops. -/
def newConnection : Code :=
  .choose fun loop =>
    block [maybe (runInLoop loop (TcpConnection.enableInactiveReleaseInLoop loop)),
      runInLoop loop TcpConnection.connectEstablished]

end TcpServer

namespace EventLoop

open TcpConnection

/-- `HandlerEvent` of a channel of the loop: that of a connection, of the acceptor or of the timer.
The channel for wake-ups locks nothing. -/
def handlerEvent (loop : Nat) : Code :=
  oneOf [block [maybe handlerClose, maybe handleError, maybe handleRead, maybe (handleWrite loop),
      maybe (handleEvent loop)],
    TcpServer.newConnection, TimerWheel.OnTime loop]

/-- A functor that has been queued. -/
def functor (loop : Nat) : Code :=
  oneOf [sendInLoop loop, shutdownInLoop, connectEstablished, connectDestroyed loop,
    enableInactiveReleaseInLoop loop, TcpServer.removeConnectionInLoop]

/-- The functors are run after the scope of the lock. -/
def doPendingFunctor (loop : Nat) : Code :=
  block [guarded (.eventLoop loop) [], .loop (functor loop)]

def loop (loop : Nat) : Code := .loop (block [.loop (handlerEvent loop), doPendingFunctor loop])

end EventLoop

/-- The threads: any number of event loops, the match thread, the two threads of the connection
pool, and any number of others that give connections back. -/
inductive Thread where
  | eventLoop (loop : Nat)
  | matchThread
  | producer
  | scanner
  | borrower (number : Nat)
deriving DecidableEq, Repr

/-- What a thread runs. -/
def main : Thread → Code
  | .eventLoop loop => EventLoop.loop loop
  | .matchThread => MatchPool.matchThread
  | .producer => MysqlConnectionPool.produceConnectionTask
  | .scanner => MysqlConnectionPool.scannerConnectionTask
  | .borrower _ => .loop MysqlConnectionPool.release

end GomukuServer.Module.Locks
