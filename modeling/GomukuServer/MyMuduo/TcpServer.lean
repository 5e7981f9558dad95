/-
Module: GomukuServer.MyMuduo.TcpServer
Layer: MyMuduo
Purpose: `TcpServer`: it gives every accepted connection a number and a name, hands it to a loop and
  keeps it in two tables, by name and by number, until the connection is removed.
Trusted boundary: memory never runs out
Main exports: InetAddress, EventLoopThreadPool, TcpServer, newConnection, removeConnectionInLoop,
  step, connName_eq
-/
import GomukuServer.Base.Printf
import GomukuServer.Base.Store
import Mathlib.Algebra.Group.Int.Defs
import Mathlib.Algebra.Group.Nat.Defs

namespace GomukuServer.MyMuduo

open Base Base.Printf

/-- `InetAddress`: the four bytes of an IPv4 address, and the port. -/
structure InetAddress where
  first : UInt8
  second : UInt8
  third : UInt8
  fourth : UInt8
  port : UInt16
deriving DecidableEq, Repr

namespace InetAddress

/-- `inet_ntop`, in dotted decimal. -/
def inet_ntop (address : InetAddress) : String :=
  address.first.toNat.repr ++ "." ++ address.second.toNat.repr ++ "." ++
    address.third.toNat.repr ++ "." ++ address.fourth.toNat.repr

/-- `GetIpPort`. -/
def getIpPort (address : InetAddress) : Except Fault String := do
  let port ← snprintf 31 "%d" [.number address.port.toNat]
  pure (address.inet_ntop ++ " : " ++ port)

end InetAddress

/-- Names the loops of the thread pool. -/
abbrev LoopId := Nat

/-- `EventLoopThreadPool` after its start.  The index of the next loop stays in the vector. -/
structure EventLoopThreadPool where
  baseLoop : LoopId
  loops : List LoopId
  next : Nat
  inside : loops ≠ [] → next < loops.length

namespace EventLoopThreadPool

/-- `getNextLoop`: the loops in turn, or the base loop if there are no others. -/
def getNextLoop (pool : EventLoopThreadPool) : LoopId × EventLoopThreadPool :=
  if nonempty : pool.loops ≠ [] then
    (pool.loops.get ⟨pool.next, pool.inside nonempty⟩,
      { pool with
        next := if pool.loops.length ≤ pool.next + 1 then 0 else pool.next + 1
        inside := by
          intro _
          have some := List.length_pos_iff.mpr nonempty
          split <;> omega })
  else (pool.baseLoop, pool)

end EventLoopThreadPool

/-- What the server hands to the loop of a connection. -/
inductive ConnectionTask where
  | enableInactiveReleaseInLoop (conn : Ref) (timeouts : Int)
  | connectEstablished (conn : Ref)
  | connectDestroyed (conn : Ref)
deriving DecidableEq, Repr

/-- The members of a `TcpConnection` that its constructor takes over. -/
structure Accepted where
  loop : LoopId
  id : UInt64
  name : String
  sockfd : Int
  localAddr : InetAddress
  peerAddr : InetAddress

/-- `TcpServer`, with the connections it has created and, in order, what it has handed to their
loops. -/
structure TcpServer where
  ipPort : String
  name : String
  threadPool : EventLoopThreadPool
  nextConnId : Int
  connectionMap : PMap String Ref
  connectionIdMap : PMap Int Ref
  enableInactiveRelease : Bool
  timeouts : Int
  connections : Heap Accepted
  tasks : List (LoopId × ConnectionTask)

/-- A call of the server in its own loop.  A new connection comes with what `getsockname` says. -/
inductive TcpServerCall where
  | setEnableInactiveRelease (timeouts : Int)
  | newConnection (sockfd : Int) (localAddr peerAddr : InetAddress)
  | removeConnectionInLoop (conn : Ref)
deriving DecidableEq, Repr

namespace TcpServer

/-- The constructor, with the thread pool as its start leaves it. -/
def new (listenAddr : InetAddress) (nameArg : String) (threadPool : EventLoopThreadPool) :
    Except Fault TcpServer := do
  let ipPort ← listenAddr.getIpPort
  pure {
    ipPort := ipPort
    name := nameArg
    threadPool := threadPool
    nextConnId := 0
    connectionMap := .empty
    connectionIdMap := .empty
    enableInactiveRelease := false
    timeouts := 0
    connections := .empty
    tasks := [] }

/-- `setEnableInactiveRelease`. -/
def setEnableInactiveRelease (server : TcpServer) (timeouts : Int) : TcpServer :=
  { server with timeouts := timeouts, enableInactiveRelease := true }

/-- The name of a connection, printed into an array of 64 bytes. -/
def connName (server : TcpServer) (connId : Int) : Except Fault String := do
  let buf ← snprintf 63 "-%s#%d" [.text server.ipPort, .number connId]
  pure (server.name ++ c_str buf)

/-- `uint64_t` from `int`. -/
def toId (connId : Int) : UInt64 := UInt64.ofNat (connId % 2 ^ 64).toNat

/-- `int` from `uint64_t`. -/
def ofId (id : UInt64) : Int := Int.bmod id.toNat (2 ^ 32)

/-- What the loop of a new connection is told. -/
def startTasks (server : TcpServer) (ioLoop : LoopId) (conn : Ref) :
    List (LoopId × ConnectionTask) :=
  (if server.enableInactiveRelease then
    [(ioLoop, .enableInactiveReleaseInLoop conn server.timeouts)] else []) ++
      [(ioLoop, .connectEstablished conn)]

/-- `newConnection`. -/
def newConnection (server : TcpServer) (sockfd : Int) (localAddr peerAddr : InetAddress) :
    Except Fault TcpServer := do
  let connId := Int.bmod (server.nextConnId + 1) (2 ^ 32)
  let (ioLoop, threadPool) := server.threadPool.getNextLoop
  let connName ← server.connName connId
  let conn := server.connections.next
  pure { server with
    threadPool := threadPool
    nextConnId := connId
    connections := server.connections.alloc
      ⟨ioLoop, toId connId, connName, sockfd, localAddr, peerAddr⟩
    connectionMap := server.connectionMap.insert connName conn
    connectionIdMap := server.connectionIdMap.insert connId conn
    tasks := server.tasks ++ server.startTasks ioLoop conn }

/-- `removeConnectionInLoop`. -/
def removeConnectionInLoop (server : TcpServer) (conn : Ref) : Except Fault TcpServer :=
  match server.connections.deref conn with
  | none => .error .danglingPointer
  | some accepted =>
      .ok { server with
        connectionMap := server.connectionMap.erase accepted.name
        connectionIdMap := server.connectionIdMap.erase (ofId accepted.id)
        tasks := server.tasks ++ [(accepted.loop, .connectDestroyed conn)] }

/-- Make a call. -/
def step (server : TcpServer) : TcpServerCall → Except Fault TcpServer
  | .setEnableInactiveRelease timeouts => .ok (server.setEnableInactiveRelease timeouts)
  | .newConnection sockfd localAddr peerAddr => server.newConnection sockfd localAddr peerAddr
  | .removeConnectionInLoop conn => server.removeConnectionInLoop conn

end TcpServer

/-! ### The texts -/

namespace InetAddress

/-- The address and the port take 23 characters at most. -/
theorem getIpPort_eq (address : InetAddress) :
    ∃ text, address.getIpPort = .ok text ∧ Printed text 23 := by
  have byte (number : UInt8) : Printed number.toNat.repr 3 :=
    printed_repr (by decide) (Nat.lt_of_lt_of_le number.toNat_lt (by decide))
  have port : Printed address.port.toNat.repr 5 :=
    printed_repr (by decide) (Nat.lt_of_lt_of_le address.port.toNat_lt (by decide))
  have dot : Printed "." 1 := ⟨by decide, by decide⟩
  have colon : Printed " : " 3 := ⟨by decide, by decide⟩
  have ip : Printed address.inet_ntop 15 :=
    ((((((byte address.first).append dot).append (byte address.second)).append dot).append
      (byte address.third)).append dot).append (byte address.fourth)
  have number : sprintf ("%d").toList [.number address.port.toNat] =
      .ok address.port.toNat.repr.toList := by
    have conversion : ("%d").toList = ['%', 'd'] := rfl
    rw [conversion, sprintf_number, toString_natCast]
    simp [sprintf, Except.map]
  have written : snprintf 31 "%d" [.number address.port.toNat] = .ok address.port.toNat.repr := by
    refine snprintf_of_short number ?_
    have short := port.short
    omega
  refine ⟨address.inet_ntop ++ " : " ++ address.port.toNat.repr, ?_, (ip.append colon).append port⟩
  rw [getIpPort, written]
  rfl

end InetAddress

namespace TcpServer

/-- The whole name, with nothing cut off. -/
def fullName (server : TcpServer) (number : Nat) : String :=
  server.name ++ ("-" ++ server.ipPort ++ "#" ++ number.repr)

/-- For every counter of at most ten digits the array has room for the address and the counter. -/
theorem connName_eq {server : TcpServer} (address : Printed server.ipPort 23) {number : Nat}
    (small : number < 10 ^ 10) : server.connName number = .ok (server.fullName number) := by
  have digits : Printed number.repr 10 := printed_repr (by decide) small
  have dash : Printed "-" 1 := ⟨by decide, by decide⟩
  have hash : Printed "#" 1 := ⟨by decide, by decide⟩
  have printed := ((dash.append address).append hash).append digits
  have whole := c_str_of_whole address.whole
  have text : sprintf ("-%s#%d").toList [.text server.ipPort, .number number] =
      .ok ("-" ++ server.ipPort ++ "#" ++ number.repr).toList := by
    have format : ("-%s#%d").toList = ['-'] ++ '%' :: 's' :: (['#'] ++ ['%', 'd']) := rfl
    rw [format, sprintf_plain (by decide), sprintf_text, sprintf_plain (by decide), sprintf_number,
      toString_natCast, whole]
    simp [sprintf, Except.map]
  have short := printed.short
  have written := snprintf_of_short text (show _ < 63 by omega)
  rw [connName, written, ok_bind, c_str_of_whole printed.whole]
  rfl

/-- Different counters make different names. -/
theorem fullName_injective {server : TcpServer} {number other : Nat}
    (same : server.fullName number = server.fullName other) : number = other := by
  apply eq_of_repr_eq
  have texts := congrArg String.toList same
  simp only [fullName, String.toList_append, List.append_assoc, List.append_cancel_left_eq] at texts
  exact String.toList_injective texts

end TcpServer

end GomukuServer.MyMuduo
