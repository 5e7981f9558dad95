/-
Module: GomukuServer.Proofs.LockCycles
Layer: Proofs
Purpose: An order of the server's mutexes that every function keeps to: the match pool below rooms
  and connections, these below users, event loops and database connections.  `removeUser` of the
  rooms locks its own mutex again, by which a thread waits for itself but not for another one.
Trusted boundary: none
Main exports: rank, ordered_main, noLockCycle
-/
import GomukuServer.Module.Locks

namespace GomukuServer.Proofs.LockCycles

open Base.LockOrder
open GomukuServer.Module.Locks

/-- The order of the mutexes. -/
def rank : Mutex → Nat
  | .matchPool => 0
  | .gameRoomManager => 1
  | .connManager => 1
  | .userManager => 2
  | .eventLoop _ => 2
  | .mysqlConnectionPool => 2

/-! ### Where the functions lie in the order -/

section Functions

variable {least : Nat}

/-- A lock without anything in its scope. -/
theorem bottom_leaf {mutex : Mutex} (high : least ≤ rank mutex) :
    Bottom rank least (Code.guarded mutex [] : Module.Locks.Code) :=
  bottom_guarded high bottom_block_nil

theorem bottom_queueInLoop (low : least ≤ 2) (loop : Nat) :
    Bottom rank least (EventLoop.queueInLoop loop) :=
  bottom_leaf low

theorem bottom_runInLoop (low : least ≤ 2) (loop : Nat) {cb : Module.Locks.Code} :
    Bottom rank least (EventLoop.runInLoop loop cb) ↔ Bottom rank least cb := by
  simp [EventLoop.runInLoop, bottom_queueInLoop low]

theorem bottom_sendInLoop (low : least ≤ 2) (loop : Nat) :
    Bottom rank least (TcpConnection.sendInLoop loop) := by
  simp [TcpConnection.sendInLoop, bottom_queueInLoop low]

theorem bottom_send (low : least ≤ 2) (loop : Nat) :
    Bottom rank least (TcpConnection.send loop) := by
  simp [TcpConnection.send, bottom_runInLoop low, bottom_sendInLoop low]

theorem bottom_shutdown (low : least ≤ 2) (loop : Nat) :
    Bottom rank least (TcpConnection.shutdown loop) := by
  simp [TcpConnection.shutdown, TcpConnection.shutdownInLoop, bottom_runInLoop low]

theorem bottom_timerTask (low : least ≤ 2) (loop : Nat) :
    Bottom rank least (TimerWheel.timerTask loop) := by
  simp [TimerWheel.timerTask, bottom_runInLoop low]

/-! The connection table is locked below the user table; the rooms are locked below it as well, but
the handlers never lock them together. -/

theorem bottom_removeConn (low : least ≤ 1) : Bottom rank least ConnManager.removeConn := by
  refine bottom_guarded low ?_
  have users : Bottom rank 2 UserManager.getUserIdByConn := bottom_leaf le_rfl
  have entry : Bottom rank 2 UserManager.removeOnlineUser := bottom_leaf le_rfl
  simpa using ⟨users, entry⟩

theorem bottom_sendMsg (low : least ≤ 1) : Bottom rank least ConnManager.sendMsg := by
  have valid : Bottom rank least ConnManager.isConnValid := bottom_leaf low
  have sent : ∀ loop, Bottom rank least (TcpConnection.send loop) :=
    bottom_send (low.trans (by decide))
  simpa [ConnManager.sendMsg] using ⟨valid, sent⟩

/-- The rooms are locked twice, and nothing else in between. -/
theorem bottom_removeUser (low : least ≤ 1) : Bottom rank least GameRoomManager.removeUser := by
  intro held below
  have high : Above rank held .gameRoomManager := above_of_below below low
  simp [GameRoomManager.removeUser, GameRoomManager.passiveRemoveRoom, UserManager.setUserState,
    Code.guarded, Code.block, Code.maybe, Ordered, high, high.again]

/-- The wait gives up the mutex of the pool only. -/
theorem bottom_getMysqlConnection (low : least ≤ 2) :
    Bottom rank least MysqlConnectionPool.getMysqlConnection := by
  intro held below
  have high : Above rank held .mysqlConnectionPool := above_of_below below low
  simp [MysqlConnectionPool.getMysqlConnection, Code.guarded, Code.block, Ordered, high, high.again]

/-- A statement for the database, on a borrowed connection. -/
theorem bottom_borrowed (low : least ≤ 2) :
    Bottom rank least
      (Code.block [MysqlConnectionPool.getMysqlConnection,
        Code.maybe MysqlConnectionPool.release]) := by
  have released : Bottom rank least MysqlConnectionPool.release := bottom_leaf low
  simpa using ⟨bottom_getMysqlConnection low, released⟩

/-! The match pool is at the bottom. -/

/-- What `addUser` and `removeUser` lock. -/
theorem bottom_matchPool :
    Bottom rank 0 (Code.guarded .matchPool [UserManager.getUserByUserId]) := by
  have user : Bottom rank 1 UserManager.getUserByUserId := bottom_leaf (by decide)
  exact bottom_guarded le_rfl (bottom_block_cons.mpr ⟨user, bottom_block_nil⟩)

theorem bottom_pairUp : Bottom rank 1 MatchPool.pairUp := by
  have conn : Bottom rank 1 UserManager.getConnByUserId := bottom_leaf (by decide)
  have user : Bottom rank 1 UserManager.getUserByconn := bottom_leaf (by decide)
  have room : Bottom rank 1 GameRoomManager.createRoom := bottom_leaf le_rfl
  have sent : Bottom rank 1 ConnManager.sendMsg := bottom_sendMsg le_rfl
  simpa [MatchPool.pairUp] using ⟨conn, user, sent, room, sent⟩

/-- The match thread holds its mutex for good, but in the waits. -/
theorem ordered_matchThread : Ordered rank [] MatchPool.matchThread := by
  have first : Above rank [] .matchPool := by simp [Above]
  have paired : Ordered rank [.matchPool] MatchPool.pairUp := bottom_pairUp _ (by simp [rank])
  simp [MatchPool.matchThread, Code.guarded, Code.block, Code.maybe, Ordered, first, first.again,
    paired]

/-! The handlers hold nothing between their calls. -/

/-- The calls that find the other player and the connection. -/
theorem bottom_opponent : Bottom rank 0 UserManager.getUserIdByConn ∧
    Bottom rank 0 GameRoomManager.getUserIdFromOtherId ∧
      Bottom rank 0 UserManager.getConnByUserId :=
  ⟨bottom_leaf (by decide), bottom_leaf (by decide), bottom_leaf (by decide)⟩

theorem bottom_onChess : Bottom rank 0 Handlers.onChess := by
  obtain ⟨userId, other, conn⟩ := bottom_opponent
  have chess : Bottom rank 0 GameRoomManager.handChess := bottom_leaf (by decide)
  have points : Bottom rank 0 UserManager.getUserPoints := bottom_leaf (by decide)
  have total : Bottom rank 0 UserManager.getUserTotalCount := bottom_leaf (by decide)
  have wins : Bottom rank 0 UserManager.getUserWinCount := bottom_leaf (by decide)
  have won : Bottom rank 0 UserDB.winGame := bottom_borrowed (by decide)
  have lost : Bottom rank 0 UserDB.loseGame := bottom_borrowed (by decide)
  have sent : Bottom rank 0 ConnManager.sendMsg := bottom_sendMsg (by decide)
  have noLock : Bottom rank 0 UserManager.winGame ∧ Bottom rank 0 UserManager.loseGame :=
    ⟨bottom_skip, bottom_skip⟩
  simpa [Handlers.onChess] using
    ⟨userId, other, conn, chess, ⟨won, lost, noLock.1, noLock.2, points, total, wins, sent, points,
      total, wins, sent⟩, sent⟩

theorem bottom_dispatch : Bottom rank 0 Handlers.dispatch := by
  have sent : Bottom rank 0 ConnManager.sendMsg := bottom_sendMsg (by decide)
  have register : Bottom rank 0 UserDB.registerUser := bottom_borrowed (by decide)
  have login : Bottom rank 0 UserDB.loginUser := bottom_borrowed (by decide)
  have online : Bottom rank 0 UserManager.addOnlineUser := bottom_leaf (by decide)
  have added : Bottom rank 0 MatchPool.addUser := bottom_matchPool
  have removed : Bottom rank 0 MatchPool.removeUser := bottom_matchPool
  obtain ⟨userId, other, conn⟩ := bottom_opponent
  have left : Bottom rank 0 GameRoomManager.removeUser := bottom_removeUser (by decide)
  simp [Handlers.dispatch, Handlers.onRegister, Handlers.onLogin, Handlers.onMatch,
    Handlers.onCancelMatch, Handlers.onChat, Handlers.onExitRoom, bottom_onChess, sent, register,
    login, online, added, removed, userId, other, conn, left]

/-! The loops lock their own mutex when they take the queued functors, and nothing else around a
callback. -/

theorem bottom_onConnection : Bottom rank 0 GameServer.onConnection := by
  have added : Bottom rank 0 ConnManager.addConn := bottom_leaf (by decide)
  have removed : Bottom rank 0 ConnManager.removeConn := bottom_removeConn (by decide)
  simpa [GameServer.onConnection] using ⟨added, removed⟩

theorem bottom_removeConnectionInLoop : Bottom rank 0 TcpServer.removeConnectionInLoop := by
  simpa [TcpServer.removeConnectionInLoop] using bottom_queueInLoop (by decide)

theorem bottom_handlerClose : Bottom rank 0 TcpConnection.handlerClose := by
  have removed : Bottom rank 0 TcpServer.removeConnection :=
    (bottom_runInLoop (by decide) _).mpr bottom_removeConnectionInLoop
  simpa [TcpConnection.handlerClose] using ⟨bottom_onConnection, removed⟩

theorem bottom_handleRead : Bottom rank 0 TcpConnection.handleRead := by
  have message : Bottom rank 0 GameServer.onMessage := bottom_dispatch
  simpa [TcpConnection.handleRead, TcpConnection.handleError] using ⟨message, bottom_handlerClose⟩

theorem bottom_newConnection : Bottom rank 0 TcpServer.newConnection := by
  have established : Bottom rank 0 TcpConnection.connectEstablished := bottom_onConnection
  have timer : ∀ loop, Bottom rank 0 (TcpConnection.enableInactiveReleaseInLoop loop) :=
    bottom_timerTask (by decide)
  simp [TcpServer.newConnection, bottom_runInLoop, established, timer]

theorem bottom_handlerEvent (loop : Nat) : Bottom rank 0 (EventLoop.handlerEvent loop) := by
  have queued : Bottom rank 0 (EventLoop.queueInLoop loop) := bottom_queueInLoop (by decide) loop
  have written : Bottom rank 0 (TcpConnection.handleWrite loop) := by
    simpa [TcpConnection.handleWrite, TcpConnection.shutdownInLoop] using queued
  have refreshed : Bottom rank 0 (TcpConnection.handleEvent loop) := by
    simpa [TcpConnection.handleEvent] using bottom_timerTask (by decide) loop
  have expired : Bottom rank 0 (TimerWheel.OnTime loop) := by
    simpa [TimerWheel.OnTime] using bottom_shutdown (by decide) loop
  simpa [EventLoop.handlerEvent, TcpConnection.handleError] using
    ⟨⟨bottom_handlerClose, bottom_handleRead, written, refreshed⟩, bottom_newConnection, expired⟩

theorem bottom_functor (loop : Nat) : Bottom rank 0 (EventLoop.functor loop) := by
  have sent : Bottom rank 0 (TcpConnection.sendInLoop loop) := bottom_sendInLoop (by decide) loop
  have established : Bottom rank 0 TcpConnection.connectEstablished := bottom_onConnection
  have timer : Bottom rank 0 (TimerWheel.timerTask loop) := bottom_timerTask (by decide) loop
  have destroyed : Bottom rank 0 (TcpConnection.connectDestroyed loop) := by
    simpa [TcpConnection.connectDestroyed] using ⟨bottom_onConnection, timer⟩
  have enabled : Bottom rank 0 (TcpConnection.enableInactiveReleaseInLoop loop) := timer
  simpa [EventLoop.functor, TcpConnection.shutdownInLoop] using
    ⟨sent, established, destroyed, enabled, bottom_removeConnectionInLoop⟩

theorem bottom_eventLoop (loop : Nat) : Bottom rank 0 (EventLoop.loop loop) := by
  have taken : Bottom rank 0 (Code.guarded (.eventLoop loop) []) := bottom_leaf (Nat.zero_le _)
  simpa [EventLoop.loop, EventLoop.doPendingFunctor] using
    ⟨bottom_handlerEvent loop, taken, bottom_functor loop⟩

end Functions

/-- Every thread keeps to the order. -/
theorem ordered_main (thread : Thread) : Ordered rank [] (main thread) := by
  cases thread with
  | eventLoop loop => exact (bottom_eventLoop loop).ordered
  | matchThread => exact ordered_matchThread
  | producer => exact (bottom_loop.mpr (bottom_getMysqlConnection (Nat.zero_le _))).ordered
  | scanner => exact (bottom_loop.mpr (bottom_leaf (Nat.zero_le _))).ordered
  | borrower number => exact (bottom_loop.mpr (bottom_leaf (Nat.zero_le _))).ordered

/-- In no interleaving do two or more threads wait for mutexes that others of them hold. -/
theorem noLockCycle {state : State Thread Mutex Nat} (reached : Reachable main state)
    (threads : Set Thread) : ¬ Deadlock state threads := by
  have bounded : ∀ mutex, rank mutex < 3 := by
    intro mutex
    cases mutex <;> simp [rank]
  exact no_deadlock bounded ordered_main reached threads

/-- The match thread has the match pool and, in it, the users.  One event loop has the connections
and waits for the users, another one waits for the match pool. -/
theorem noLockCycle_contended : ∃ state : State Thread Mutex Nat,
    state.holder .matchPool = some .matchThread ∧ state.holder .userManager = some .matchThread ∧
      state.holder .connManager = some (.eventLoop 0) ∧ Waits state (.eventLoop 0) .userManager ∧
      Waits state (.eventLoop 1) .matchPool ∧ ∀ threads, ¬ Deadlock state threads := by
  have start : Reachable main _ := @Relation.ReflTransGen.refl _ _ (State.start main)
  -- the match thread, up to the lock in `getConnByUserId`
  have matching := start.acquire .matchThread rfl
    (.head .locked .refl) rfl
  have pairing := matching.acquire .matchThread rfl
    (.head .seq (.head .again (.head .seq (.head .done (.head .seq (.head .left (.head .seq
      (.head .locked .refl)))))))) rfl
  -- a connection of the first loop goes down, up to the lock in `getUserIdByConn`
  have closing := pairing.acquire (.eventLoop 0) rfl
    (.head .again (.head .seq (.head .again (.head .left (.head .seq (.head .left (.head .seq
      (.head .right (.head .locked .refl))))))))) rfl
  have leaving := closing.unfold (.eventLoop 0) rfl
    (.head .seq (.head .locked .refl))
  -- a user of the second loop asks for a match
  have asking := leaving.unfold (.eventLoop 1) rfl
    (.head .again (.head .seq (.head .again (.head .left (.head .seq (.head .right (.head .skip
      (.head .seq (.head .right (.head .skip (.head .seq (.head .left (.head .left (.head .right
        (.head .right (.head .left (.head .seq (.head .locked .refl))))))))))))))))))
  exact ⟨_, rfl, rfl, rfl, ⟨⟨_, rfl⟩, rfl⟩, ⟨⟨_, rfl⟩, rfl⟩, noLockCycle asking⟩

end GomukuServer.Proofs.LockCycles
