/-
Module: GomukuServer.MyMuduo.ConnectionLifetime
Layer: MyMuduo
Purpose: How long a `TcpConnection` lives.  The tables of `TcpServer`, functors that are bound to
  `shared_from_this` or to a `TcpConnectionPtr`, the guard of `HandlerEvent` and other threads hold
  shared pointers to it; functors that are bound to `this`, the task of the inactivity timer and the
  channel in the poller of its loop use it without one.  Its loop, the main loop and any number of
  other threads take turns.
Trusted boundary: the connection is not in the main loop, and the server outlives it; `shutdown` is
  called in the loop, as the inactivity timer does; no other connection has its timer id
Main exports: LoopTask, Sender, Written, ConnectionLifetime, LifetimeEvent, useCount,
  ConnectionLifetime.step
-/
import GomukuServer.Base.Cpp
import GomukuServer.MyMuduo.TcpConnection

namespace GomukuServer.MyMuduo

open Base

/-- A functor of the connection in its loop. -/
inductive LoopTask where
  /-- Bound to the connection. -/
  | connectEstablished
  | connectDestroyed
  | writeCompleteCallback
  | hightWaterMarkCallback
  /-- Bound to `this`. -/
  | enableInactiveReleaseInLoop
  | sendInLoop
deriving DecidableEq, Repr

/-- Whether the functor has a shared pointer in it. -/
def LoopTask.holds : LoopTask → Bool
  | .enableInactiveReleaseInLoop | .sendInLoop => false
  | _ => true

/-- A thread, or a table of the game server, that has a `TcpConnectionPtr`. -/
inductive Sender where
  | idle
  /-- In `send`, after the test of `_state_`. -/
  | inSend
deriving DecidableEq, Repr

/-- What comes of `sendInLoop`. -/
inductive Written where
  /-- The socket has taken everything, and there is a callback for that. -/
  | complete
  /-- The rest waits in the output buffer. -/
  | waits
  /-- The same, and the buffer has passed its mark. -/
  | passesMark
  /-- No callback, or a failed `write`. -/
  | nothing
deriving DecidableEq, Repr

/-- What the lifetime of a connection depends on.  `finished` are the functors of the batch that
have been run: they stay in the vector until the batch is through.  `armed`: the wheel has a task
with `this` that is not cancelled. -/
structure ConnectionLifetime where
  state : StateE
  inTables : Bool
  removals : Nat
  pendingFunctors : List LoopTask
  batch : List LoopTask
  finished : List LoopTask
  inEvent : Bool
  inPoller : Bool
  watched : Bool
  armed : Bool
  senders : List Sender
deriving DecidableEq, Repr

/-- What can happen next. -/
inductive LifetimeEvent where
  /-- Other threads. -/
  | copyPointer
  | dropPointer (place : Nat)
  | testState (place : Nat)
  | queueSend (place : Nat)
  /-- The loop of the connection. -/
  | handlerEvent
  | sendHere (written : Written)
  | shutdown
  | handleWrite (written : Written)
  | handlerClose
  | eventDone
  | timerExpires
  | doPendingFunctor
  | runFunctor (written : Written)
  | batchDone
  /-- The main loop. -/
  | removeConnectionInLoop
deriving DecidableEq, Repr

namespace ConnectionLifetime

/-- A connection that `newConnection` has just made, with an inactivity timer or without. -/
def accepted (enableInactiveRelease : Bool) : ConnectionLifetime where
  state := .kConnecting
  inTables := true
  removals := 0
  pendingFunctors :=
    if enableInactiveRelease then [.enableInactiveReleaseInLoop, .connectEstablished]
    else [.connectEstablished]
  batch := []
  finished := []
  inEvent := false
  inPoller := false
  watched := false
  armed := false
  senders := []

/-- The functors in the loop, those that have been run and not yet been destroyed included. -/
def tasks (conn : ConnectionLifetime) : List LoopTask :=
  conn.finished ++ (conn.batch ++ conn.pendingFunctors)

/-- `use_count`: the tables, the functors of the main loop, those of the own loop, the guard of
`HandlerEvent` and the other threads. -/
def useCount (conn : ConnectionLifetime) : Nat :=
  conn.inTables.toNat + conn.removals + conn.tasks.countP LoopTask.holds + conn.inEvent.toNat +
    conn.senders.length

/-- The loop of the connection is about to wait in `poll`. -/
def Polls (conn : ConnectionLifetime) : Prop :=
  conn.inEvent = false ∧ conn.batch = [] ∧ conn.finished = []

instance (conn : ConnectionLifetime) : Decidable conn.Polls :=
  inferInstanceAs (Decidable (_ ∧ _ ∧ _))

/-- The loop is in code that has the connection: a handler of its channel, or one of another
connection that sends to this one. -/
def AtHand (conn : ConnectionLifetime) : Prop := conn.inEvent = true ∨ .idle ∈ conn.senders

instance (conn : ConnectionLifetime) : Decidable conn.AtHand :=
  inferInstanceAs (Decidable (_ ∨ _))

/-- `EnableReading`, `EnableWriting`: the channel is in the poller and watched by the kernel. -/
def enable (conn : ConnectionLifetime) : ConnectionLifetime :=
  { conn with inPoller := true, watched := true }

/-- `queueInLoop`. -/
def queueInLoop (conn : ConnectionLifetime) (task : LoopTask) : ConnectionLifetime :=
  { conn with pendingFunctors := conn.pendingFunctors ++ [task] }

/-- `sendInLoop`: what the socket does not take makes it ask for `EPOLLOUT`. -/
def sendInLoop (conn : ConnectionLifetime) (written : Written) : ConnectionLifetime :=
  if conn.state = .kDisconnected then conn
  else
    match written with
    | .complete => conn.queueInLoop .writeCompleteCallback
    | .waits => conn.enable
    | .passesMark => (conn.queueInLoop .hightWaterMarkCallback).enable
    | .nothing => conn

/-- `handleWrite`: nothing is written once the channel has been disabled. -/
def handleWrite (conn : ConnectionLifetime) (written : Written) : ConnectionLifetime :=
  if conn.watched ∧ written = .complete then conn.queueInLoop .writeCompleteCallback else conn

/-- `shutdown`. -/
def shutdown (conn : ConnectionLifetime) : ConnectionLifetime :=
  if conn.state = .kConnected then { conn with state := .kDisconnecting } else conn

/-- A use of the connection through `this`. -/
def used (conn next : ConnectionLifetime) : Except Fault ConnectionLifetime :=
  if conn.useCount = 0 then .error .danglingPointer else .ok next

/-- Run a functor. -/
def perform (conn : ConnectionLifetime) (written : Written) :
    LoopTask → Except Fault ConnectionLifetime
  | .connectEstablished => .ok { conn with state := .kConnected }.enable
  | .connectDestroyed =>
      .ok { conn with
        state := if conn.state = .kConnected then .kDisconnected else conn.state
        inPoller := false
        watched := false
        armed := false }
  | .writeCompleteCallback | .hightWaterMarkCallback => .ok conn
  | .enableInactiveReleaseInLoop => conn.used { conn with armed := true }
  | .sendInLoop => conn.used (conn.sendInLoop written)

/-- Let something happen.  What is not possible does not change the state. -/
def step (conn : ConnectionLifetime) : LifetimeEvent → Except Fault ConnectionLifetime
  | .copyPointer =>
      if conn.useCount = 0 then .ok conn
      else .ok { conn with senders := conn.senders ++ [.idle] }
  | .dropPointer place =>
      if conn.senders[place]? = some .idle then
        .ok { conn with senders := conn.senders.eraseIdx place }
      else .ok conn
  | .testState place =>
      if conn.senders[place]? = some .idle ∧ conn.state = .kConnected then
        .ok { conn with senders := conn.senders.set place .inSend }
      else .ok conn
  | .queueSend place =>
      if conn.senders[place]? = some .inSend then
        .ok ({ conn with senders := conn.senders.set place .idle }.queueInLoop .sendInLoop)
      else .ok conn
  | .handlerEvent =>
      -- the channel belongs to the connection
      if conn.Polls ∧ conn.watched then conn.used { conn with inEvent := true } else .ok conn
  | .sendHere written =>
      if conn.AtHand ∧ conn.state = .kConnected then .ok (conn.sendInLoop written) else .ok conn
  | .shutdown => if conn.AtHand then .ok conn.shutdown else .ok conn
  | .handleWrite written => if conn.inEvent then .ok (conn.handleWrite written) else .ok conn
  | .handlerClose =>
      if conn.inEvent then
        -- `DisableAll` adds a channel again that it has taken out of the interest list before
        .ok { conn with
          state := .kDisconnected
          watched := !conn.watched
          removals := conn.removals + 1 }
      else .ok conn
  | .eventDone => .ok { conn with inEvent := false }
  | .timerExpires =>
      if conn.Polls ∧ conn.armed then conn.used { conn.shutdown with armed := false } else .ok conn
  | .doPendingFunctor =>
      if conn.Polls then .ok { conn with batch := conn.pendingFunctors, pendingFunctors := [] }
      else .ok conn
  | .runFunctor written =>
      match conn.batch with
      | [] => .ok conn
      | task :: rest =>
          { conn with batch := rest, finished := conn.finished ++ [task] }.perform written task
  | .batchDone =>
      if conn.batch = [] then .ok { conn with finished := [] } else .ok conn
  | .removeConnectionInLoop =>
      if 0 < conn.removals then
        .ok ({ conn with removals := conn.removals - 1, inTables := false }.queueInLoop
          .connectDestroyed)
      else .ok conn

end ConnectionLifetime

end GomukuServer.MyMuduo
