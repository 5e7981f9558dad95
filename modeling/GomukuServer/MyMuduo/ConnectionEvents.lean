/-
Module: GomukuServer.MyMuduo.ConnectionEvents
Layer: MyMuduo
Purpose: The life of a `TcpConnection` in its loop: how it is established, how the events of its
  channel are handled, how it is destroyed, and which callbacks of its owner it makes on the way.
Trusted boundary: the object is alive, so `tie` never fails; the timers only ask for `shutdown`
Main exports: Callback, Life, ReadOutcome, Request, ConnectionEvent, handlerEventWithGuard,
  connectDestroyed, step
-/
import GomukuServer.Base.Runs
import GomukuServer.MyMuduo.TcpConnection

namespace GomukuServer.MyMuduo

open Base

/-- What `readv` returns: the bytes it read, none of them at the end of the stream, or an error. -/
inductive ReadOutcome where
  | received (data : List Byte)
  | failed
deriving DecidableEq, Repr

/-- The callbacks a connection makes in the loop. -/
inductive Callback where
  | connectionCallback (connected : Bool)
  | messageCallback
  | closeCallback
deriving DecidableEq, Repr

/-- What is asked of a connection in its loop, by the message callback, by the inactivity timer or
by a call that was queued. -/
inductive Request where
  | retrieve (len : Nat)
  | sendInLoop (buf : List Byte) (outcome : WriteOutcome)
  | shutdown
deriving DecidableEq, Repr

/-- What happens to an established connection: its channel is reported by the poller, and the calls
of the handlers return as given, or something is asked of it. -/
inductive ConnectionEvent where
  | channelEvent (revents : Events) (read : ReadOutcome) (replies : List Request)
      (write : WriteOutcome)
  | request (request : Request)
deriving DecidableEq, Repr

namespace TcpConnection

/-- `connected`. -/
def connected (conn : TcpConnection) : Bool := conn.state == .kConnected

end TcpConnection

/-- A connection with its input buffer and the callbacks it has made so far. -/
structure Life where
  conn : TcpConnection
  inputBuffer : Buffer
  log : List Callback

namespace Life

/-- A connection that has just been built. -/
def new (conn : TcpConnection) : Life := ⟨conn, Buffer.new, []⟩

/-- Make a callback. -/
def call (life : Life) (callback : Callback) : Life := { life with log := life.log ++ [callback] }

/-- Do what is asked. -/
def serve (life : Life) : Request → Except Fault Life
  | .retrieve len => .ok { life with inputBuffer := life.inputBuffer.retrieve len }
  | .sendInLoop buf outcome => do
      let conn ← life.conn.sendInLoop buf outcome
      pure { life with conn := conn }
  | .shutdown => .ok { life with conn := life.conn.shutdown }

/-- `connectEstablished`. -/
def connectEstablished (life : Life) : Except Fault Life := do
  let conn ← life.conn.connectEstablished
  pure ({ life with conn := conn }.call (.connectionCallback conn.connected))

/-- `handlerClose`. -/
def handlerClose (life : Life) : Except Fault Life := do
  let conn ← life.conn.handlerClose
  let life := { life with conn := conn }.call (.connectionCallback conn.connected)
  pure (life.call .closeCallback)

/-- `handleRead`.  `replies` is what the message callback asks for. -/
def handleRead (life : Life) (read : ReadOutcome) (replies : List Request) : Except Fault Life :=
  match read with
  | .received data =>
      let life := { life with inputBuffer := life.inputBuffer.readfd data }
      if 0 < data.length then Runs.run serve (life.call .messageCallback) replies
      else life.handlerClose
  -- the error is logged, here and in `handleError`
  | .failed => .ok life

/-- `handleWrite`. -/
def handleWrite (life : Life) (write : WriteOutcome) : Except Fault Life := do
  let conn ← life.conn.handleWrite write
  pure { life with conn := conn }

/-- The branch of `HandlerEventWithGuard` for a hang-up with nothing left to read. -/
def handleHangUp (life : Life) (revents : Events) : Except Fault Life :=
  if revents &&& EPOLLHUP ≠ 0 ∧ ¬ revents &&& EPOLLIN ≠ 0 then life.handlerClose else .ok life

/-- The branch of `HandlerEventWithGuard` for data. -/
def handleReadable (life : Life) (revents : Events) (read : ReadOutcome) (replies : List Request) :
    Except Fault Life :=
  if revents &&& (EPOLLIN ||| EPOLLPRI) ≠ 0 then life.handleRead read replies else .ok life

/-- The branch of `HandlerEventWithGuard` for room to write. -/
def handleWritable (life : Life) (revents : Events) (write : WriteOutcome) : Except Fault Life :=
  if revents &&& EPOLLOUT ≠ 0 then life.handleWrite write else .ok life

/-- `HandlerEventWithGuard`.  The branch for `EPOLLERR` only logs, and the event callback only
touches the timer. -/
def handlerEventWithGuard (life : Life) (revents : Events) (read : ReadOutcome)
    (replies : List Request) (write : WriteOutcome) : Except Fault Life := do
  let life ← life.handleHangUp revents
  let life ← life.handleReadable revents read replies
  life.handleWritable revents write

/-- The part of `connectDestroyed` for a connection that is still up. -/
def disconnect (life : Life) : Except Fault Life :=
  if life.conn.state = .kConnected then do
    let conn ← { life.conn with state := .kDisconnected }.update life.conn.channel.disableAll
    pure ({ life with conn := conn }.call (.connectionCallback conn.connected))
  else .ok life

/-- `Channel::remove`, through the loop to the poller. -/
def remove (life : Life) : Except Fault Life := do
  let (poller, channel) ← life.conn.poller.removeChannel life.conn.channel
  pure { life with conn := { life.conn with poller := poller, channel := channel } }

/-- `connectDestroyed`.  Cancelling the timer has no effect on the connection. -/
def connectDestroyed (life : Life) : Except Fault Life := do
  let life ← life.disconnect
  life.remove

/-- Handle one event. -/
def step (life : Life) : ConnectionEvent → Except Fault Life
  | .channelEvent revents read replies write =>
      life.handlerEventWithGuard revents read replies write
  | .request request => life.serve request

@[simp] theorem log_call (life : Life) (callback : Callback) :
    (life.call callback).log = life.log ++ [callback] := rfl

/-- Requests make no callbacks. -/
theorem log_serve {life next : Life} {request : Request}
    (served : life.serve request = .ok next) : next.log = life.log := by
  cases request with
  | retrieve len => exact Except.ok.inj served ▸ rfl
  | sendInLoop buf outcome =>
      obtain ⟨conn, _, built⟩ := bind_eq_ok.mp served
      exact Except.ok.inj built ▸ rfl
  | shutdown => exact Except.ok.inj served ▸ rfl

theorem log_run_serve {life last : Life} {requests : List Request}
    (served : Runs.run serve life requests = .ok last) : last.log = life.log := by
  induction requests generalizing life with
  | nil => exact Except.ok.inj served ▸ rfl
  | cons request requests inductionHypothesis =>
      obtain ⟨next, first, rest⟩ := Runs.run_cons_ok served
      rw [inductionHypothesis rest, log_serve first]

/-- Closing tells the owner twice. -/
theorem log_handlerClose {life next : Life} (closed : life.handlerClose = .ok next) :
    next.log = life.log ++ [.connectionCallback false, .closeCallback] := by
  obtain ⟨conn, disabled, built⟩ := bind_eq_ok.mp closed
  obtain ⟨⟨poller, channel⟩, _, updated⟩ := bind_eq_ok.mp disabled
  have down : conn.connected = false := by
    rw [← Except.ok.inj updated]
    rfl
  rw [← Except.ok.inj built]
  simp [down]

/-- A read that brings data makes the message callback, one that brings none closes. -/
theorem log_handleRead {life next : Life} {data : List Byte} {replies : List Request}
    (handled : life.handleRead (.received data) replies = .ok next) :
    next.log = life.log ++ if 0 < data.length then [.messageCallback]
      else [.connectionCallback false, .closeCallback] := by
  simp only [handleRead] at handled
  split at handled <;> rename_i some
  · rw [log_run_serve handled, if_pos some]
    rfl
  · rw [log_handlerClose handled, if_neg some]

theorem log_handleWrite {life next : Life} {write : WriteOutcome}
    (handled : life.handleWrite write = .ok next) : next.log = life.log := by
  obtain ⟨conn, _, built⟩ := bind_eq_ok.mp handled
  exact Except.ok.inj built ▸ rfl

end Life

end GomukuServer.MyMuduo
