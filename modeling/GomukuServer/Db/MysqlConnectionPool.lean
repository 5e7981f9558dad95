/-
Module: GomukuServer.Db.MysqlConnectionPool
Layer: Db
Purpose: `MysqlConnectionPool`: a queue of idle connections, from which borrowers take and to which
  the deleters of their shared pointers return, a producer that adds connections when the queue is
  empty, and a scanner that deletes idle ones.  Each of the four holds the mutex of the queue while
  it works, so a run is a list of such calls.
Trusted boundary: whether a connection reached the server is not looked at, as in the source
Main exports: Settings, MysqlConnectionPool, getMysqlConnection, release, produceConnectionTask,
  scannerConnectionTask, step
-/
import GomukuServer.Base.Cpp
import GomukuServer.Base.Owned
import Mathlib.Algebra.Group.Nat.Defs

namespace GomukuServer.Db

open Base

/-- `MysqlConnection`: when it became idle. -/
structure MysqlConnection where
  alivetime : Int
deriving DecidableEq, Repr

/-- The settings `loadConfigFile` reads that the pool acts on. -/
structure Settings where
  initSize : Int
  maxSize : Int
  maxIdleTime : Int
deriving DecidableEq, Repr

/-- `MysqlConnectionPool`, with the connections that exist and the pointers that are held by
borrowers.  Each borrower is the owner of one `shared_ptr` and its copies. -/
structure MysqlConnectionPool where
  settings : Settings
  connections : Heap (Option MysqlConnection)
  connectionQue : List Ref
  connectionCnt : Int
  borrowed : List Ref

/-- A call that holds the mutex, with what `clock()` returns in it.  A scanner pass reads the clock
once in each round of its loop. -/
inductive PoolCall where
  | getMysqlConnection
  | release (borrower : Nat) (now : Int)
  | produceConnectionTask (now : Int)
  | scannerConnectionTask (clock : Nat → Int)

namespace MysqlConnectionPool

/-- How long a connection may be idle, an `int` in the units of `clock()`. -/
def idleLimit (settings : Settings) : Int := Int.bmod (settings.maxIdleTime * 1000) (2 ^ 32)

/-- The members of a pool without connections. -/
def empty (settings : Settings) : MysqlConnectionPool where
  settings := settings
  connections := .empty
  connectionQue := []
  connectionCnt := 0
  borrowed := []

/-- Create a connection and push it to the queue. -/
def pushNew (pool : MysqlConnectionPool) (now : Int) : MysqlConnectionPool :=
  { pool with
    connections := Owned.create pool.connections ⟨now⟩
    connectionQue := pool.connectionQue ++ [pool.connections.next]
    connectionCnt := pool.connectionCnt + 1 }

/-- The constructor, after the settings have been loaded. -/
def new (settings : Settings) (clock : Nat → Int) : MysqlConnectionPool :=
  (List.range settings.initSize.toNat).foldl (fun pool round => pool.pushNew (clock round))
    (empty settings)

/-- `getMysqlConnection`, from the test of the queue on.  With an empty queue the caller waits or
gives up. -/
def getMysqlConnection (pool : MysqlConnectionPool) : MysqlConnectionPool :=
  match pool.connectionQue with
  | [] => pool
  | ref :: rest => { pool with connectionQue := rest, borrowed := pool.borrowed ++ [ref] }

/-- The deleter of a borrower's shared pointer. -/
def release (pool : MysqlConnectionPool) (borrower : Nat) (now : Int) :
    Except Fault MysqlConnectionPool :=
  match pool.borrowed[borrower]? with
  | none => .ok pool
  | some ref =>
      match Owned.object pool.connections ref with
      | none => .error .danglingPointer
      | some _ =>
          .ok { pool with
            connections := Owned.update pool.connections ref fun connection =>
              { connection with alivetime := now }
            connectionQue := pool.connectionQue ++ [ref]
            borrowed := pool.borrowed.eraseIdx borrower }

/-- A round of `produceConnectionTask`.  With connections in the queue the producer waits. -/
def produceConnectionTask (pool : MysqlConnectionPool) (now : Int) : MysqlConnectionPool :=
  if pool.connectionQue ≠ [] then pool
  else if pool.connectionCnt < pool.settings.maxSize then pool.pushNew now
  else pool

/-- The loop of `scannerConnectionTask`.  `front()` of an empty queue is undefined. -/
def reclaim (settings : Settings) (clock : Nat → Int) :
    Nat → List Ref → Int → Heap (Option MysqlConnection) →
      Except Fault (List Ref × Int × Heap (Option MysqlConnection))
  | _, [], cnt, connections =>
      if settings.initSize < cnt then .error .outOfBounds else .ok ([], cnt, connections)
  | round, ref :: rest, cnt, connections =>
      if settings.initSize < cnt then
        match Owned.object connections ref with
        | none => .error .danglingPointer
        | some connection =>
            if idleLimit settings ≤ clock round - connection.alivetime then
              reclaim settings clock (round + 1) rest (cnt - 1) (Owned.delete connections ref)
            else .ok (ref :: rest, cnt, connections)
      else .ok (ref :: rest, cnt, connections)

/-- A pass of `scannerConnectionTask`. -/
def scannerConnectionTask (pool : MysqlConnectionPool) (clock : Nat → Int) :
    Except Fault MysqlConnectionPool := do
  let (connectionQue, connectionCnt, connections) ←
    reclaim pool.settings clock 0 pool.connectionQue pool.connectionCnt pool.connections
  pure { pool with
    connections := connections
    connectionQue := connectionQue
    connectionCnt := connectionCnt }

/-- Make a call. -/
def step (pool : MysqlConnectionPool) : PoolCall → Except Fault MysqlConnectionPool
  | .getMysqlConnection => .ok pool.getMysqlConnection
  | .release borrower now => pool.release borrower now
  | .produceConnectionTask now => .ok (pool.produceConnectionTask now)
  | .scannerConnectionTask clock => pool.scannerConnectionTask clock

end MysqlConnectionPool

end GomukuServer.Db
