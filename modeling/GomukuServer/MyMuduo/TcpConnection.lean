/-
Module: GomukuServer.MyMuduo.TcpConnection
Layer: MyMuduo
Purpose: The sending side of `TcpConnection`, as it runs in the loop of the connection: a message is
  written to the socket if nothing waits in front of it, what the socket does not take waits in the
  output buffer, and `handleWrite` drains the buffer while the channel is registered for writing.
Trusted boundary: a write accepts at most the bytes it is offered
Main exports: TcpConnection, WriteOutcome, sendInLoop, handleWrite, shutdown, handlerClose
-/
import GomukuServer.Base.Pipe
import GomukuServer.MyMuduo.Buffer
import GomukuServer.MyMuduo.Channel
import Mathlib.Algebra.Group.Int.Defs
import Mathlib.Algebra.Group.Nat.Defs

namespace GomukuServer.MyMuduo

open Base

/-- `TcpConnection::StateE`. -/
inductive StateE where
  | kDisconnected
  | kConnecting
  | kConnected
  | kDisconnecting
deriving DecidableEq, Repr

/-- The errors of `write` that the code tells apart. -/
inductive Errno where
  | EWOULDBLOCK
  | EPIPE
  | ECONNRESET
  | other
deriving DecidableEq, Repr

/-- What a `write` call returns: the number of bytes the socket took, or an error. -/
inductive WriteOutcome where
  | accepted (count : Nat)
  | failed (errno : Errno)
deriving DecidableEq, Repr

/-- The kernel's end of the connection: the bytes it took, and whether the write end is shut. -/
structure Socket where
  taken : List Byte
  writeShut : Bool
deriving DecidableEq, Repr

namespace Socket

/-- The effect of `write` on the socket. -/
def write (socket : Socket) (data : List Byte) : WriteOutcome → Socket
  | .accepted count => { socket with taken := socket.taken ++ data.take count }
  | .failed _ => socket

/-- `shutdownWrite`. -/
def shutdownWrite (socket : Socket) : Socket := { socket with writeShut := true }

end Socket

/-- The callbacks that are queued for a later turn of the loop. -/
inductive Functor where
  | writeCompleteCallback
  | hightWaterMarkCallback (size : Nat)
deriving DecidableEq, Repr

/-- `TcpConnection`, with the poller of its loop.  Of the callbacks only their presence matters. -/
structure TcpConnection where
  state : StateE
  socket : Socket
  channel : Channel
  poller : EPollPoller
  writeCompleteCallback : Bool
  hightWaterMarkCallback : Bool
  hightWaterMark : Nat
  outputBuffer : Buffer
  pendingFunctors : List Functor

namespace TcpConnection

/-- The constructor, and the callbacks `TcpServer` and its user set before the connection is used.
-/
def new (fd : Fd) (poller : EPollPoller) (writeCompleteCallback hightWaterMarkCallback : Bool)
    (hightWaterMark : Nat) : TcpConnection where
  state := .kConnecting
  socket := ⟨[], false⟩
  channel := Channel.new fd
  poller := poller
  writeCompleteCallback := writeCompleteCallback
  hightWaterMarkCallback := hightWaterMarkCallback
  hightWaterMark := hightWaterMark
  outputBuffer := Buffer.new
  pendingFunctors := []

/-- `Channel::update`, through the loop to the poller. -/
def update (conn : TcpConnection) (channel : Channel) : Except Fault TcpConnection := do
  let (poller, channel) ← conn.poller.updateChannel channel
  pure { conn with poller := poller, channel := channel }

/-- `queueInLoop`, if the callback is set. -/
def queueInLoop (conn : TcpConnection) (present : Bool) (functor : Functor) : TcpConnection :=
  if present then { conn with pendingFunctors := conn.pendingFunctors ++ [functor] } else conn

/-- `int` from `size_t`. -/
def toInt (size : Nat) : Int := Int.bmod size (2 ^ 32)

/-- `size_t` from a signed number. -/
def toSize (number : Int) : Nat := (number % 2 ^ 64).toNat

/-- The second part of `sendInLoop`: what is left of the message from `nwrote` on goes to the output
buffer, and the channel is registered for writing. -/
def bufferRemaining (conn : TcpConnection) (data : List Byte) (nwrote remaining : Nat) :
    Except Fault TcpConnection :=
  if remaining = 0 then .ok conn
  else if data.length < nwrote + remaining then .error .outOfBounds
  else
    let oldlen := conn.outputBuffer.readableBytes
    let conn := conn.queueInLoop
      (conn.hightWaterMark ≤ oldlen + remaining && oldlen < conn.hightWaterMark &&
        conn.hightWaterMarkCallback)
      (.hightWaterMarkCallback (oldlen + remaining))
    let conn := { conn with
      outputBuffer := conn.outputBuffer.append ((data.drop nwrote).take remaining) }
    if conn.channel.isWriting then .ok conn else conn.update conn.channel.enableWriting

/-- `sendInLoop`.  `outcome` is what `write` returns, if it is called. -/
def sendInLoop (conn : TcpConnection) (buf : List Byte) (outcome : WriteOutcome) :
    Except Fault TcpConnection :=
  let len := toInt buf.length
  if conn.state = .kDisconnected then .ok conn
  else if !conn.channel.isWriting && conn.outputBuffer.readableBytes == 0 then
    if buf.length < toSize len then .error .outOfBounds
    else
      let conn := { conn with socket := conn.socket.write buf outcome }
      match outcome with
      | .accepted nwrote =>
          let remaining := toSize (len - nwrote)
          let conn := conn.queueInLoop (remaining == 0 && conn.writeCompleteCallback)
            .writeCompleteCallback
          conn.bufferRemaining buf nwrote remaining
      | .failed errno =>
          -- a broken connection gets nothing more, any other error is taken for a full socket
          if errno = .EPIPE ∨ errno = .ECONNRESET then .ok conn
          else conn.bufferRemaining buf 0 (toSize len)
  else conn.bufferRemaining buf 0 (toSize len)

/-- `shutdownInLoop`. -/
def shutdownInLoop (conn : TcpConnection) : TcpConnection :=
  if conn.channel.isWriting then conn else { conn with socket := conn.socket.shutdownWrite }

/-- `handleWrite`.  `outcome` is what `write` returns, if it is called. -/
def handleWrite (conn : TcpConnection) (outcome : WriteOutcome) : Except Fault TcpConnection :=
  if conn.channel.isWriting then
    let written := { conn with socket := conn.socket.write conn.outputBuffer.writefd outcome }
    match outcome with
    | .accepted count =>
        if count = 0 then .ok written
        else
          let conn := { written with outputBuffer := written.outputBuffer.retrieve count }
          if conn.outputBuffer.readableBytes = 0 then do
            let conn ← conn.update conn.channel.disableWriting
            let conn := conn.queueInLoop conn.writeCompleteCallback .writeCompleteCallback
            pure (if conn.state = .kDisconnecting then conn.shutdownInLoop else conn)
          else .ok conn
    | .failed _ => .ok written
  else .ok conn

/-- `shutdown`, called in the loop of the connection. -/
def shutdown (conn : TcpConnection) : TcpConnection :=
  if conn.state = .kConnected then { conn with state := .kDisconnecting }.shutdownInLoop else conn

/-- `connectEstablished`. -/
def connectEstablished (conn : TcpConnection) : Except Fault TcpConnection :=
  { conn with state := .kConnected }.update conn.channel.enableReading

/-- `handlerClose`, as far as the connection itself is concerned. -/
def handlerClose (conn : TcpConnection) : Except Fault TcpConnection :=
  { conn with state := .kDisconnected }.update conn.channel.disableAll

/-- The pipe from the messages to the socket. -/
def pipe (conn : TcpConnection) : Pipe Byte := ⟨conn.socket.taken, conn.outputBuffer.readable⟩

@[simp] theorem state_queueInLoop (conn : TcpConnection) (present : Bool) (functor : Functor) :
    (conn.queueInLoop present functor).state = conn.state := by
  unfold queueInLoop
  split <;> rfl

@[simp] theorem channel_queueInLoop (conn : TcpConnection) (present : Bool) (functor : Functor) :
    (conn.queueInLoop present functor).channel = conn.channel := by
  unfold queueInLoop
  split <;> rfl

@[simp] theorem poller_queueInLoop (conn : TcpConnection) (present : Bool) (functor : Functor) :
    (conn.queueInLoop present functor).poller = conn.poller := by
  unfold queueInLoop
  split <;> rfl

@[simp] theorem socket_queueInLoop (conn : TcpConnection) (present : Bool) (functor : Functor) :
    (conn.queueInLoop present functor).socket = conn.socket := by
  unfold queueInLoop
  split <;> rfl

@[simp] theorem outputBuffer_queueInLoop (conn : TcpConnection) (present : Bool)
    (functor : Functor) :
    (conn.queueInLoop present functor).outputBuffer = conn.outputBuffer := by
  unfold queueInLoop
  split <;> rfl

@[simp] theorem pipe_queueInLoop (conn : TcpConnection) (present : Bool) (functor : Functor) :
    (conn.queueInLoop present functor).pipe = conn.pipe := by
  simp [pipe]

@[simp] theorem state_shutdownInLoop (conn : TcpConnection) :
    conn.shutdownInLoop.state = conn.state := by
  unfold shutdownInLoop
  split <;> rfl

@[simp] theorem pipe_shutdownInLoop (conn : TcpConnection) :
    conn.shutdownInLoop.pipe = conn.pipe := by
  unfold shutdownInLoop
  split <;> rfl

/-- An `int` holds the length of a message below 2^31 bytes. -/
theorem toInt_eq {size : Nat} (short : size < 2 ^ 31) : toInt size = size := by
  unfold toInt
  rw [Int.bmod_eq_of_le (by omega) (by omega)]

/-- A `size_t` holds what is left of such a length. -/
theorem toSize_sub {size taken : Nat} (short : size < 2 ^ 31) (inside : taken ≤ size) :
    toSize (size - taken : Int) = size - taken := by
  unfold toSize
  omega

end TcpConnection

end GomukuServer.MyMuduo
