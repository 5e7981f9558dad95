/-
Module: GomukuServer.MyMuduo.ConnectionLoop
Layer: MyMuduo
Purpose: A `TcpConnection` together with its loop and the threads that send on it.  A message that
  is sent by another thread waits as a functor of the loop before it comes to `sendInLoop`, while
  `shutdown` runs in the loop thread.  A step is one access to what the threads share.
Trusted boundary: the functors of others and the handlers act on the connection only through the
  calls modelled here
Main exports: Message, SendPc, ConnectionLoop, ConnectionCall, established, send, proceed, advance,
  shutdown, step, Traffic, carry
-/
import GomukuServer.MyMuduo.EventLoop
import GomukuServer.MyMuduo.TcpConnection

namespace GomukuServer.MyMuduo

open Base

/-- A message, with the number of the call of `send` that it came with. -/
structure Message where
  number : Nat
  buf : List Byte
deriving DecidableEq, Repr

/-- Where a thread that is not the loop thread is in `send`. -/
inductive SendPc where
  | idle
  /-- The connection was found connected, and `runInLoop` is the next thing to do. -/
  | checked (message : Message)
  /-- In `queueInLoop`, with the functor pushed. -/
  | queueing (message : Message)
deriving DecidableEq, Repr

/-- The connection, its loop and the callers of `send`.  A functor of the loop is `sendInLoop` with
a message, or something else.  `handed` records the messages that `sendInLoop` was called with, and
`promised` those whose `send` had returned before `shutdown` was called. -/
structure ConnectionLoop (Thread : Type) where
  loop : EventLoop Thread (Option Message)
  conn : TcpConnection
  sends : Thread → SendPc
  numbered : Nat
  handed : List Message
  promised : List Message
  shutdownCalled : Bool

/-- What happens next.  The loop thread moves in its loop, where `outcome` is what `write` returns
if it is called; it handles writability, sends or shuts down in code of the user; another thread
makes the first or the next step of `send`; or somebody queues another functor. -/
inductive ConnectionCall (Thread : Type) where
  | advance (active : List Ready) (outcome : WriteOutcome)
  | handleWrite (outcome : WriteOutcome)
  | sendHere (buf : List Byte) (outcome : WriteOutcome)
  | shutdown
  | send (thread : Thread) (buf : List Byte)
  | proceed (thread : Thread)
  | queueOther (caller : Option Thread)
  | proceedOther (caller : Option Thread)
deriving DecidableEq, Repr

namespace ConnectionLoop

variable {Thread : Type}

/-- A connection that has just been established. -/
def established (fd : Fd) (poller : EPollPoller)
    (writeCompleteCallback hightWaterMarkCallback : Bool) (hightWaterMark : Nat) :
    Except Fault (ConnectionLoop Thread) := do
  let conn ← (TcpConnection.new fd poller writeCompleteCallback hightWaterMarkCallback
    hightWaterMark).connectEstablished
  pure {
    loop := .new
    conn := conn
    sends := fun _ => .idle
    numbered := 0
    handed := []
    promised := []
    shutdownCalled := false }

/-- The loop thread runs code of the user and is not inside a call of `queueInLoop`. -/
def inUserCode (shared : ConnectionLoop Thread) : Bool :=
  shared.loop.pc.runsUserCode && shared.loop.calls none = .idle

/-- The loop thread is in the handler of a channel. -/
def inHandler (shared : ConnectionLoop Thread) : Bool :=
  shared.loop.pc.inHandler && shared.loop.calls none = .idle

/-- A call of `send` returns. -/
def returned (shared : ConnectionLoop Thread) (message : Message) : ConnectionLoop Thread :=
  { shared with
    promised := if shared.shutdownCalled then shared.promised else shared.promised ++ [message] }

/-- `sendInLoop` with a message. -/
def sendInLoop (shared : ConnectionLoop Thread) (message : Message) (outcome : WriteOutcome) :
    Except Fault (ConnectionLoop Thread) := do
  let conn ← shared.conn.sendInLoop message.buf outcome
  pure { shared with conn := conn, handed := shared.handed ++ [message] }

/-- The next step of the loop thread. -/
def advance (shared : ConnectionLoop Thread) (active : List Ready) (outcome : WriteOutcome) :
    Except Fault (ConnectionLoop Thread) :=
  if shared.loop.calls none = .idle then
    let moved := { shared with loop := shared.loop.advance active }
    match shared.loop.pc.nextFunctor with
    | some (some message) => moved.sendInLoop message outcome
    | _ => .ok moved
  else .ok shared

/-- `handleWrite`, called by the channel. -/
def handleWrite (shared : ConnectionLoop Thread) (outcome : WriteOutcome) :
    Except Fault (ConnectionLoop Thread) :=
  if shared.inHandler then do
    let conn ← shared.conn.handleWrite outcome
    pure { shared with conn := conn }
  else .ok shared

/-- `send`, called in the loop thread. -/
def sendHere (shared : ConnectionLoop Thread) (buf : List Byte) (outcome : WriteOutcome) :
    Except Fault (ConnectionLoop Thread) :=
  if shared.inUserCode then
    let message : Message := ⟨shared.numbered, buf⟩
    let shared := { shared with numbered := shared.numbered + 1 }
    if shared.conn.state = .kConnected then do
      let sent ← shared.sendInLoop message outcome
      pure (sent.returned message)
    else .ok (shared.returned message)
  else .ok shared

/-- `shutdown`, called in the loop thread. -/
def shutdown (shared : ConnectionLoop Thread) : ConnectionLoop Thread :=
  if shared.inUserCode then
    { shared with conn := shared.conn.shutdown, shutdownCalled := true }
  else shared

variable [DecidableEq Thread]

/-- Move a caller to another place in `send`. -/
def setSend (shared : ConnectionLoop Thread) (thread : Thread) (pc : SendPc) :
    ConnectionLoop Thread :=
  { shared with sends := fun other => if other = thread then pc else shared.sends other }

/-- `send`, called in another thread, first step: look at the state. -/
def send (shared : ConnectionLoop Thread) (thread : Thread) (buf : List Byte) :
    ConnectionLoop Thread :=
  if shared.sends thread = .idle ∧ shared.loop.calls (some thread) = .idle then
    let message : Message := ⟨shared.numbered, buf⟩
    let shared := { shared with numbered := shared.numbered + 1 }
    if shared.conn.state = .kConnected then shared.setSend thread (.checked message)
    else shared.returned message
  else shared

/-- The next step of `send`: push the functor, or go on in `queueInLoop` and return. -/
def proceed (shared : ConnectionLoop Thread) (thread : Thread) : ConnectionLoop Thread :=
  match shared.sends thread with
  | .idle => shared
  | .checked message =>
      { shared with
        loop := shared.loop.queueInLoop (some thread) (some message)
      }.setSend thread (.queueing message)
  | .queueing message =>
      let shared := { shared with loop := shared.loop.proceed (some thread) }
      if shared.loop.calls (some thread) = .idle then
        (shared.setSend thread .idle).returned message
      else shared

/-- A thread inside `send` makes no other call. -/
def mayCall (shared : ConnectionLoop Thread) : Option Thread → Bool
  | none => true
  | some thread => shared.sends thread = .idle

/-- Somebody queues another functor. -/
def queueOther (shared : ConnectionLoop Thread) (caller : Option Thread) : ConnectionLoop Thread :=
  if shared.mayCall caller && shared.loop.mayCall caller then
    { shared with loop := shared.loop.queueInLoop caller none }
  else shared

/-- The next step of such a call. -/
def proceedOther (shared : ConnectionLoop Thread) (caller : Option Thread) :
    ConnectionLoop Thread :=
  if shared.mayCall caller then { shared with loop := shared.loop.proceed caller } else shared

/-- Execute one event.  A thread that is somewhere else leaves everything as it is. -/
def step (shared : ConnectionLoop Thread) :
    ConnectionCall Thread → Except Fault (ConnectionLoop Thread)
  | .advance active outcome => shared.advance active outcome
  | .handleWrite outcome => shared.handleWrite outcome
  | .sendHere buf outcome => shared.sendHere buf outcome
  | .shutdown => .ok shared.shutdown
  | .send thread buf => .ok (shared.send thread buf)
  | .proceed thread => .ok (shared.proceed thread)
  | .queueOther caller => .ok (shared.queueOther caller)
  | .proceedOther caller => .ok (shared.proceedOther caller)

/-- `handlerClose`, called by the channel. -/
def handlerClose (shared : ConnectionLoop Thread) : Except Fault (ConnectionLoop Thread) :=
  if shared.inHandler then do
    let conn ← shared.conn.handlerClose
    pure { shared with conn := conn }
  else .ok shared

end ConnectionLoop

/-- What happens next to a connection whose peer may close. -/
inductive Traffic (Thread : Type) where
  | call (call : ConnectionCall Thread)
  | handlerClose
deriving DecidableEq, Repr

/-- Execute one event. -/
def ConnectionLoop.carry {Thread : Type} [DecidableEq Thread] (shared : ConnectionLoop Thread) :
    Traffic Thread → Except Fault (ConnectionLoop Thread)
  | .call call => shared.step call
  | .handlerClose => shared.handlerClose

end GomukuServer.MyMuduo
