/-
Module: GomukuServer.Db.PoolThreads
Layer: Db
Purpose: `MysqlConnectionPool` with its threads: the callers of `getMysqlConnection` and of the
  deleters, the producer and the scanner, around `_queueMutex` and `_cv`.  An action is one access
  to a member, so other threads can be seen to wait, to time out and to miss a notification.
Trusted boundary: whether a connection reached the server is not looked at, as in the source
Main exports: PoolThread, PoolPoint, PoolThreads.program, PoolThreads.step, callOf
-/
import GomukuServer.Base.Monitor
import GomukuServer.Db.MysqlConnectionPool

namespace GomukuServer.Db

open Base Base.Monitor MysqlConnectionPool

/-- The threads that use the pool. -/
inductive PoolThread where
  | caller (thread : Nat)
  | producer
  | scanner
deriving DecidableEq, Repr

/-- What the holder of `_queueMutex` does next. -/
inductive PoolPoint where
  /-- `getMysqlConnection`: the test of its loop. -/
  | whileEmpty
  /-- The test after `wait_for` has reported a timeout. -/
  | timedOut
  /-- The shared pointer is made from `front()`. -/
  | front
  | pop
  | notifyTaken
  /-- The deleter: `refreshAliveTime`. -/
  | refresh (borrower : Nat)
  | giveBack (borrower : Nat) (ref : Ref)
  /-- `produceConnectionTask`: the test of its inner loop. -/
  | whileNotEmpty
  | create
  | push (ref : Ref)
  | countUp
  | notifyMade
  /-- `scannerConnectionTask`: the test of its inner loop. -/
  | whileMore
  | look
  | drop (ref : Ref)
  | countDown (ref : Ref)
  | delete (ref : Ref)
  /-- The lock goes out of scope. -/
  | unlock
deriving DecidableEq, Repr

namespace PoolThreads

/-- Where a thread locks `_queueMutex`. -/
def entry : PoolThread → PoolPoint → Bool
  | .caller _, .whileEmpty => true
  | .caller _, .refresh _ => true
  | .producer, .whileNotEmpty => true
  | .scanner, .whileMore => true
  | _, _ => false

/-- One action of the holder, when `clock()` returns `now`. -/
def act (now : Int) (point : PoolPoint) (pool : MysqlConnectionPool) :
    Except Fault (MysqlConnectionPool × Effect PoolPoint) :=
  match point with
  | .whileEmpty =>
      .ok (pool, if pool.connectionQue = [] then .wait .whileEmpty else .goOn .front)
  | .timedOut => .ok (pool, if pool.connectionQue = [] then .leave else .goOn .whileEmpty)
  | .front =>
      match pool.connectionQue with
      | [] => .error .outOfBounds
      | ref :: _ => .ok ({ pool with borrowed := pool.borrowed ++ [ref] }, .goOn .pop)
  | .pop =>
      .ok ({ pool with connectionQue := pool.connectionQue.tail }, .goOn .notifyTaken)
  | .notifyTaken => .ok (pool, .notifyAll .unlock)
  | .refresh borrower =>
      match pool.borrowed[borrower]? with
      | none => .ok (pool, .leave)
      | some ref =>
          match Owned.object pool.connections ref with
          | none => .error .danglingPointer
          | some _ =>
              .ok ({ pool with
                connections := Owned.update pool.connections ref fun connection =>
                  { connection with alivetime := now } }, .goOn (.giveBack borrower ref))
  | .giveBack borrower ref =>
      .ok ({ pool with
        connectionQue := pool.connectionQue ++ [ref]
        borrowed := pool.borrowed.eraseIdx borrower }, .goOn .unlock)
  | .whileNotEmpty =>
      .ok (pool, if pool.connectionQue ≠ [] then .wait .whileNotEmpty else .goOn .create)
  | .create =>
      if pool.connectionCnt < pool.settings.maxSize then
        .ok ({ pool with connections := Owned.create pool.connections ⟨now⟩ },
          .goOn (.push pool.connections.next))
      else .ok (pool, .goOn .notifyMade)
  | .push ref => .ok ({ pool with connectionQue := pool.connectionQue ++ [ref] }, .goOn .countUp)
  | .countUp => .ok ({ pool with connectionCnt := pool.connectionCnt + 1 }, .goOn .notifyMade)
  | .notifyMade => .ok (pool, .notifyAll .unlock)
  | .whileMore =>
      .ok (pool, if pool.settings.initSize < pool.connectionCnt then .goOn .look else .leave)
  | .look =>
      match pool.connectionQue with
      | [] => .error .outOfBounds
      | ref :: _ =>
          match Owned.object pool.connections ref with
          | none => .error .danglingPointer
          | some connection =>
              .ok (pool, if idleLimit pool.settings ≤ now - connection.alivetime then
                .goOn (.drop ref) else .leave)
  | .drop ref =>
      .ok ({ pool with connectionQue := pool.connectionQue.tail }, .goOn (.countDown ref))
  | .countDown ref =>
      .ok ({ pool with connectionCnt := pool.connectionCnt - 1 }, .goOn (.delete ref))
  | .delete ref =>
      .ok ({ pool with connections := Owned.delete pool.connections ref }, .goOn .whileMore)
  | .unlock => .ok (pool, .leave)

/-- Only a caller's wait has a time limit. -/
def timeout : PoolPoint → PoolPoint
  | .whileEmpty => .timedOut
  | point => point

/-- The pool's threads around `_queueMutex`.  Nothing is done to the pool without it. -/
def program : Program PoolThread PoolPoint MysqlConnectionPool Int Empty Fault where
  entry := entry
  act := act
  timeout := timeout
  outer := fun call _ => nomatch call

/-- The pool and its threads. -/
abbrev PoolState := State PoolThread PoolPoint MysqlConnectionPool Int

/-- Let a thread move. -/
def step : PoolState → Event PoolThread PoolPoint Int Empty → Except Fault PoolState :=
  Monitor.step program

/-- What the clock was read as in a round of the scanner's loop, which reads it in the second of the
five actions of the round. -/
def clockOf (inputs : List Int) (round : Nat) : Int := (inputs[5 * round + 1]?).getD 0

/-- The call that a section under the mutex is. -/
def callOf (done : Section PoolThread PoolPoint Int) : PoolCall :=
  match done.entered with
  | .refresh borrower => .release borrower ((done.inputs[0]?).getD 0)
  | .whileNotEmpty => .produceConnectionTask ((done.inputs[1]?).getD 0)
  | .whileMore => .scannerConnectionTask (clockOf done.inputs)
  | _ => .getMysqlConnection

end PoolThreads

end GomukuServer.Db
