/-
Module: GomukuServer.Proofs.OutgoingStream
Layer: Proofs
Purpose: What a connection sends.  Whatever the socket accepts of each write, the connection acts as
  a pipe: a message is pushed, and every write drains bytes from the front.  So the socket gets the
  messages in order, and the channel asks for writability exactly while bytes are waiting.
Trusted boundary: none
Main exports: LoopEvent, step, Possible, sendInLoop_refines, handleWrite_refines, outgoing_stream
-/
import GomukuServer.Base.Runs
import GomukuServer.MyMuduo.TcpConnection

namespace GomukuServer.Proofs.OutgoingStream

open Base Base.Runs MyMuduo MyMuduo.TcpConnection

/-- What happens to a connection in its loop. -/
inductive LoopEvent where
  | connectEstablished
  | sendInLoop (buf : List Byte) (outcome : WriteOutcome)
  | handleWrite (outcome : WriteOutcome)
  | shutdown
  | handlerClose

/-- Execute one event. -/
def step (conn : TcpConnection) : LoopEvent → Except Fault TcpConnection
  | .connectEstablished => conn.connectEstablished
  | .sendInLoop buf outcome => conn.sendInLoop buf outcome
  | .handleWrite outcome => conn.handleWrite outcome
  | .shutdown => .ok conn.shutdown
  | .handlerClose => conn.handlerClose

/-- A write of `offered` bytes is taken in part or as a whole, or finds the socket full. -/
def Accepts (offered : Nat) : WriteOutcome → Prop
  | .accepted count => count ≤ offered
  | .failed errno => errno = .EWOULDBLOCK

/-- The events of a connection whose writes do not fail: it is established once, and messages are
shorter than 2^31 bytes. -/
def Possible (conn : TcpConnection) : LoopEvent → Prop
  | .connectEstablished => conn.state = .kConnecting
  | .sendInLoop buf outcome => buf.length < 2 ^ 31 ∧ Accepts buf.length outcome
  | .handleWrite outcome => Accepts conn.outputBuffer.readableBytes outcome
  | .shutdown => True
  | .handlerClose => True

instance (offered : Nat) : (outcome : WriteOutcome) → Decidable (Accepts offered outcome)
  | .accepted count => inferInstanceAs (Decidable (count ≤ offered))
  | .failed errno => inferInstanceAs (Decidable (errno = .EWOULDBLOCK))

instance (conn : TcpConnection) : (event : LoopEvent) → Decidable (Possible conn event)
  | .connectEstablished => inferInstanceAs (Decidable (conn.state = .kConnecting))
  | .sendInLoop buf outcome =>
      inferInstanceAs (Decidable (buf.length < 2 ^ 31 ∧ Accepts buf.length outcome))
  | .handleWrite outcome =>
      inferInstanceAs (Decidable (Accepts conn.outputBuffer.readableBytes outcome))
  | .shutdown => isTrue trivial
  | .handlerClose => isTrue trivial

/-- The bytes an event adds to what has been sent. -/
def message : LoopEvent → List Byte
  | .sendInLoop buf _ => buf
  | _ => []

/-- The poller watches for what the channel asks, and the channel asks for writability exactly while
bytes are waiting. -/
structure Attentive (conn : TcpConnection) : Prop where
  watched : conn.poller.Watches conn.channel
  writing : conn.state ≠ .kDisconnected →
    (conn.channel.isWriting = true ↔ conn.outputBuffer.readable ≠ [])

/-- Updating the channel succeeds and touches nothing else. -/
theorem update_ok (conn : TcpConnection) (watched : conn.poller.Watches conn.channel)
    (events : Events) :
    ∃ poller' index', conn.update { conn.channel with events := events } =
        .ok { conn with poller := poller', channel := ⟨conn.channel.fd, events, index'⟩ } ∧
      poller'.Watches ⟨conn.channel.fd, events, index'⟩ := by
  obtain ⟨poller', index', updated, watched'⟩ := EPollPoller.updateChannel_ok watched events
  exact ⟨poller', index', by simp [update, updated], watched'⟩

/-- A connection with bytes waiting whose channel asks for writability. -/
private theorem attentive_of_waiting {conn : TcpConnection}
    (watched : conn.poller.Watches conn.channel) (asks : conn.channel.isWriting = true)
    (waiting : conn.outputBuffer.readable ≠ []) : Attentive conn where
  watched := watched
  writing := fun _ => by simp [asks, waiting]

/-- A connection with nothing waiting whose channel does not ask for writability. -/
private theorem attentive_of_drained {conn : TcpConnection}
    (watched : conn.poller.Watches conn.channel) (silent : conn.channel.isWriting = false)
    (drained : conn.outputBuffer.readable = []) : Attentive conn where
  watched := watched
  writing := fun _ => by simp [silent, drained]

private theorem attentive_queueInLoop {conn : TcpConnection} (attentive : Attentive conn)
    (present : Bool) (functor : Functor) : Attentive (conn.queueInLoop present functor) where
  watched := by simpa using attentive.watched
  writing := by simpa using attentive.writing

private theorem attentive_shutdownInLoop {conn : TcpConnection} (attentive : Attentive conn) :
    Attentive conn.shutdownInLoop := by
  unfold shutdownInLoop
  split
  · exact attentive
  · exact ⟨attentive.watched, attentive.writing⟩

theorem attentive_shutdown {conn : TcpConnection} (attentive : Attentive conn) :
    Attentive conn.shutdown := by
  unfold shutdown
  split
  · rename_i connected
    exact attentive_shutdownInLoop
      ⟨attentive.watched, fun _ => attentive.writing (by simp [connected])⟩
  · exact attentive

/-- Closing succeeds and brings the connection down. -/
theorem handlerClose_ok {conn : TcpConnection} (attentive : Attentive conn) :
    ∃ next, conn.handlerClose = .ok next ∧ Attentive next ∧ next.state = .kDisconnected := by
  obtain ⟨poller', index', updated, watched'⟩ :=
    update_ok ({ conn with state := .kDisconnected }) attentive.watched
      conn.channel.disableAll.events
  exact ⟨_, updated, ⟨watched', by simp⟩, rfl⟩

/-- What is left of a message is appended to the output buffer, and the channel stays attentive. -/
theorem bufferRemaining_ok {conn : TcpConnection} (attentive : Attentive conn) (data : List Byte)
    {nwrote : Nat} (inside : nwrote ≤ data.length) :
    ∃ next, conn.bufferRemaining data nwrote (data.length - nwrote) = .ok next ∧
      Attentive next ∧ next.state = conn.state ∧
      next.pipe = conn.pipe.push (data.drop nwrote) ∧
      next.socket.writeShut = conn.socket.writeShut := by
  by_cases nothing : data.length - nwrote = 0
  · have whole : data.drop nwrote = [] := List.drop_eq_nil_of_le (by omega)
    refine ⟨conn, ?_, attentive, rfl, ?_, rfl⟩
    · simp [bufferRemaining, nothing]
    · simp [whole, Pipe.push, pipe]
  · have rest : (data.drop nwrote).take (data.length - nwrote) = data.drop nwrote :=
      List.take_of_length_le (by simp)
    have some : data.drop nwrote ≠ [] := by
      intro none
      have length := congrArg List.length none
      simp only [List.length_drop, List.length_nil] at length
      exact nothing length
    have inBounds : ¬ data.length < nwrote + (data.length - nwrote) := by omega
    simp only [bufferRemaining, if_neg nothing, if_neg inBounds, rest]
    generalize queuedEq : conn.queueInLoop _ _ = queued
    have queuedAttentive : Attentive queued := queuedEq ▸ attentive_queueInLoop attentive _ _
    have queuedState : queued.state = conn.state := by simp [← queuedEq]
    have queuedPipe : queued.pipe = conn.pipe := by simp [← queuedEq]
    have queuedShut : queued.socket.writeShut = conn.socket.writeShut := by simp [← queuedEq]
    by_cases writing : queued.channel.isWriting = true
    · rw [if_pos writing]
      refine ⟨_, rfl, ?_, queuedState, ?_, queuedShut⟩
      · exact attentive_of_waiting queuedAttentive.watched writing (by simp [some])
      · rw [← queuedPipe]
        simp [pipe, Pipe.push]
    · rw [if_neg writing]
      obtain ⟨poller', index', updated, watched'⟩ :=
        update_ok ({ queued with
          outputBuffer := queued.outputBuffer.append (data.drop nwrote) })
          queuedAttentive.watched queued.channel.enableWriting.events
      refine ⟨_, updated, ?_, queuedState, ?_, queuedShut⟩
      · exact attentive_of_waiting watched' queued.channel.isWriting_enableWriting (by simp [some])
      · rw [← queuedPipe]
        simp [pipe, Pipe.push]

/-- `sendInLoop` pushes the message, and drains what the socket takes of it at once. -/
theorem sendInLoop_refines {conn : TcpConnection} (attentive : Attentive conn)
    (connected : conn.state ≠ .kDisconnected) {buf : List Byte} {outcome : WriteOutcome}
    (short : buf.length < 2 ^ 31) (accepts : Accepts buf.length outcome) :
    ∃ next count, conn.sendInLoop buf outcome = .ok next ∧ Attentive next ∧
      next.state = conn.state ∧ next.pipe = (conn.pipe.push buf).drain count ∧
      next.socket.writeShut = conn.socket.writeShut := by
  have length : toSize (toInt buf.length) = buf.length := by
    simpa [toInt_eq short] using toSize_sub short (Nat.zero_le _)
  by_cases direct : (!conn.channel.isWriting && conn.outputBuffer.readableBytes == 0) = true
  · have idle : conn.outputBuffer.readable = [] := by
      simp only [Bool.and_eq_true, beq_iff_eq, Buffer.readableBytes_eq_zero] at direct
      exact direct.2
    cases outcome with
    | accepted nwrote =>
        have taken : nwrote ≤ buf.length := accepts
        have remaining : toSize (toInt buf.length - nwrote) = buf.length - nwrote := by
          rw [toInt_eq short, toSize_sub short taken]
        let written := { conn with socket := conn.socket.write buf (.accepted nwrote) }
        have still : Attentive written := ⟨attentive.watched, attentive.writing⟩
        obtain ⟨next, buffered, good, state, pushed, shut⟩ := bufferRemaining_ok
          (attentive_queueInLoop still (buf.length - nwrote == 0 && conn.writeCompleteCallback)
            .writeCompleteCallback) buf taken
        refine ⟨next, nwrote, ?_, good, by simpa using state, ?_, ?_⟩
        · simp only [sendInLoop, if_neg connected, if_pos direct, length, Nat.lt_irrefl, if_false,
            remaining]
          exact buffered
        · -- nothing waited in front of the message, so what the socket took is its beginning
          rw [pushed]
          simp [written, pipe, Pipe.push, Pipe.drain, Socket.write, idle]
        · rw [shut]
          simp [written, Socket.write]
    | failed errno =>
        obtain rfl : errno = .EWOULDBLOCK := accepts
        obtain ⟨next, buffered, good, state, pushed, shut⟩ :=
          bufferRemaining_ok attentive buf (Nat.zero_le _)
        refine ⟨next, 0, ?_, good, state, ?_, shut⟩
        · simpa [sendInLoop, connected, direct, length, Socket.write] using buffered
        · simp [pushed, Pipe.drain]
  · obtain ⟨next, buffered, good, state, pushed, shut⟩ :=
      bufferRemaining_ok attentive buf (Nat.zero_le _)
    refine ⟨next, 0, ?_, good, state, ?_, shut⟩
    · simpa only [sendInLoop, if_neg connected, if_neg direct, length, Nat.sub_zero] using buffered
    · simp [pushed, Pipe.drain]

/-- Asking for writability no more, when nothing waits. -/
private theorem disableWriting_ok (conn : TcpConnection)
    (watched : conn.poller.Watches conn.channel) (drained : conn.outputBuffer.readable = []) :
    ∃ next, conn.update conn.channel.disableWriting = .ok next ∧ Attentive next ∧
      next.state = conn.state ∧ next.pipe = conn.pipe ∧ next.channel.isWriting = false ∧
      next.socket.writeShut = conn.socket.writeShut := by
  obtain ⟨poller', index', updated, watched'⟩ :=
    update_ok conn watched conn.channel.disableWriting.events
  refine ⟨_, updated, ?_, rfl, rfl, conn.channel.isWriting_disableWriting, rfl⟩
  exact attentive_of_drained watched' conn.channel.isWriting_disableWriting drained

/-- The end of `handleWrite` when the buffer has run empty. -/
private def finish (conn : TcpConnection) : Except Fault TcpConnection := do
  let conn ← conn.update conn.channel.disableWriting
  let conn := conn.queueInLoop conn.writeCompleteCallback .writeCompleteCallback
  pure (if conn.state = .kDisconnecting then conn.shutdownInLoop else conn)

/-- It shuts the write side of a connection that is to be shut down. -/
private theorem finish_ok (conn : TcpConnection) (watched : conn.poller.Watches conn.channel)
    (drained : conn.outputBuffer.readable = []) :
    ∃ next, finish conn = .ok next ∧ Attentive next ∧ next.state = conn.state ∧
      next.pipe = conn.pipe ∧ (next.socket.writeShut = true ↔
        conn.socket.writeShut = true ∨ conn.state = .kDisconnecting) := by
  obtain ⟨silent, updated, good, state, pipe, asks, shut⟩ := disableWriting_ok conn watched drained
  let notified := silent.queueInLoop silent.writeCompleteCallback .writeCompleteCallback
  have notifiedGood : Attentive notified := attentive_queueInLoop good _ _
  have notifiedState : notified.state = conn.state := by simp [notified, state]
  have notifiedPipe : notified.pipe = conn.pipe := by simp [notified, pipe]
  have notifiedAsks : notified.channel.isWriting = false := by simp [notified, asks]
  have notifiedShut : notified.socket.writeShut = conn.socket.writeShut := by
    simp [notified, shut]
  refine ⟨if notified.state = .kDisconnecting then notified.shutdownInLoop else notified,
    bind_eq_ok.mpr ⟨silent, updated, rfl⟩, ?_⟩
  by_cases ending : conn.state = .kDisconnecting
  · rw [if_pos (notifiedState.trans ending)]
    refine ⟨attentive_shutdownInLoop notifiedGood, by simp [notifiedState],
      by simp [notifiedPipe], ?_⟩
    simp [shutdownInLoop, notifiedAsks, Socket.shutdownWrite, ending]
  · rw [if_neg (notifiedState ▸ ending)]
    refine ⟨notifiedGood, notifiedState, notifiedPipe, ?_⟩
    simp [notifiedShut, ending]

/-- The write takes all that waits in the output buffer. -/
def Drains (conn : TcpConnection) : WriteOutcome → Prop
  | .accepted count => count ≠ 0 ∧ conn.outputBuffer.readableBytes ≤ count
  | .failed _ => False

instance (conn : TcpConnection) : (outcome : WriteOutcome) → Decidable (Drains conn outcome)
  | .accepted _ => inferInstanceAs (Decidable (_ ∧ _))
  | .failed _ => inferInstanceAs (Decidable False)

/-- `handleWrite` shuts the write side when it has drained the buffer of a connection that is to be
shut down. -/
def ShutsByWriting (conn : TcpConnection) (outcome : WriteOutcome) : Prop :=
  conn.state = .kDisconnecting ∧ conn.channel.isWriting = true ∧ Drains conn outcome

instance (conn : TcpConnection) (outcome : WriteOutcome) :
    Decidable (ShutsByWriting conn outcome) := inferInstanceAs (Decidable (_ ∧ _))

/-- `handleWrite` drains what the socket takes, and stops asking when nothing is left. -/
theorem handleWrite_refines {conn : TcpConnection} (attentive : Attentive conn)
    (outcome : WriteOutcome) :
    ∃ next count, conn.handleWrite outcome = .ok next ∧ Attentive next ∧
      next.state = conn.state ∧ next.pipe = conn.pipe.drain count ∧
      (next.socket.writeShut = true ↔
        conn.socket.writeShut = true ∨ ShutsByWriting conn outcome) ∧
      (ShutsByWriting conn outcome → next.outputBuffer.readable = []) := by
  have unchanged : conn.pipe = conn.pipe.drain 0 := by simp [Pipe.drain]
  by_cases writing : conn.channel.isWriting = true
  · cases outcome with
    | failed errno =>
        exact ⟨conn, 0, by simp [handleWrite, writing, Socket.write], attentive, rfl, unchanged,
          by simp [ShutsByWriting, Drains], by simp [ShutsByWriting, Drains]⟩
    | accepted count =>
        by_cases none : count = 0
        · subst none
          exact ⟨conn, 0, by simp [handleWrite, writing, Socket.write], attentive, rfl, unchanged,
            by simp [ShutsByWriting, Drains], by simp [ShutsByWriting, Drains]⟩
        · let drained : TcpConnection := { conn with
            socket := conn.socket.write conn.outputBuffer.writefd (.accepted count)
            outputBuffer := conn.outputBuffer.retrieve count }
          have drainedPipe : drained.pipe = conn.pipe.drain count := by
            simp [pipe, Pipe.drain, drained, Socket.write, Buffer.writefd_eq]
          have empty_iff : drained.outputBuffer.readableBytes = 0 ↔
              Drains conn (.accepted count) := by
            rw [Buffer.readableBytes_eq_zero, Buffer.readable_retrieve, List.drop_eq_nil_iff,
              Buffer.length_readable]
            exact ⟨fun enough => ⟨none, enough⟩, fun drains => drains.2⟩
          by_cases empty : drained.outputBuffer.readableBytes = 0
          · have nothing := Buffer.readableBytes_eq_zero.mp empty
            obtain ⟨next, finished, good, state, pipe, shut⟩ :=
              finish_ok drained attentive.watched nothing
            refine ⟨next, count, ?_, good, state, pipe.trans drainedPipe, ?_, fun _ => ?_⟩
            · simp only [handleWrite, if_pos writing, if_neg none]
              rw [if_pos empty]
              exact finished
            · rw [shut]
              simp [drained, Socket.write, ShutsByWriting, writing, empty_iff.mp empty]
            · exact (congrArg Pipe.pending pipe).trans nothing
          · refine ⟨drained, count, ?_, ?_, rfl, drainedPipe, ?_, ?_⟩
            · simp only [handleWrite, if_pos writing, if_neg none]
              rw [if_neg empty]
            · exact attentive_of_waiting attentive.watched writing
                (mt Buffer.readableBytes_eq_zero.mpr empty)
            · have stays := mt empty_iff.mpr empty
              simp [drained, Socket.write, ShutsByWriting, stays]
            · exact fun shuts => absurd (empty_iff.mpr shuts.2.2) empty
  · exact ⟨conn, 0, by simp [handleWrite, writing], attentive, rfl, unchanged,
      by simp [ShutsByWriting, writing], by simp [ShutsByWriting, writing]⟩

/-- Between any two events the connection is attentive, and unless it is disconnected the pipe has
carried exactly the messages so far. -/
def Faithful (past : List LoopEvent) (conn : TcpConnection) : Prop :=
  Attentive conn ∧
    (conn.state ≠ .kDisconnected → conn.pipe.stream = (past.map message).flatten)

/-- An event that moves the pipe by its message carries `Faithful` on. -/
private theorem faithful_of_moves {past : List LoopEvent} {conn next : TcpConnection}
    {event : LoopEvent} (faithful : Faithful past conn) (good : Attentive next)
    (connected : next.state ≠ .kDisconnected → conn.state ≠ .kDisconnected)
    (moves : List (Pipe.Move Byte)) (moved : next.pipe = conn.pipe.moves moves)
    (pushed : (moves.map Pipe.Move.pushed).flatten = message event) :
    Faithful (past ++ [event]) next := by
  refine ⟨good, fun up => ?_⟩
  rw [moved, Pipe.stream_moves, pushed, faithful.2 (connected up)]
  simp

/-- One event succeeds and carries `Faithful` on. -/
theorem faithful_step (past : List LoopEvent) (conn : TcpConnection) (event : LoopEvent)
    (faithful : Faithful past conn) (possible : Possible conn event) :
    ∃ next, step conn event = .ok next ∧ Faithful (past ++ [event]) next := by
  have attentive := faithful.1
  cases event with
  | connectEstablished =>
      have connecting : conn.state = .kConnecting := possible
      obtain ⟨poller', index', updated, watched'⟩ :=
        update_ok ({ conn with state := .kConnected }) attentive.watched
          conn.channel.enableReading.events
      refine ⟨_, updated, faithful_of_moves faithful ⟨watched', fun _ => ?_⟩ ?_ [] rfl rfl⟩
      · have writing := attentive.writing (by simp [connecting])
        rwa [← conn.channel.isWriting_enableReading] at writing
      · simp [connecting]
  | sendInLoop buf outcome =>
      by_cases connected : conn.state = .kDisconnected
      · refine ⟨conn, by simp [step, sendInLoop, connected], attentive, ?_⟩
        intro up
        exact absurd connected up
      · obtain ⟨next, count, sent, good, state, moved, _⟩ :=
          sendInLoop_refines attentive connected possible.1 possible.2
        exact ⟨next, sent, faithful_of_moves faithful good (fun _ => connected)
          [.push buf, .drain count] moved (by simp [Pipe.Move.pushed, message])⟩
  | handleWrite outcome =>
      obtain ⟨next, count, written, good, state, moved, _⟩ :=
        handleWrite_refines attentive outcome
      exact ⟨next, written, faithful_of_moves faithful good (by simp [state])
        [.drain count] moved (by simp [Pipe.Move.pushed, message])⟩
  | shutdown =>
      have good : Attentive conn.shutdown := attentive_shutdown attentive
      refine ⟨conn.shutdown, rfl, faithful_of_moves faithful good ?_ [] ?_ rfl⟩
      · unfold shutdown
        split
        · rename_i connected
          simp [connected]
        · exact id
      · unfold shutdown
        split
        · exact pipe_shutdownInLoop _
        · rfl
  | handlerClose =>
      obtain ⟨next, closed, good, state⟩ := handlerClose_ok attentive
      exact ⟨next, closed, good, fun up => absurd state up⟩

/-- A new connection has sent nothing. -/
theorem faithful_new {fd : Fd} {poller : EPollPoller} (fresh : poller.interest.find? fd = none)
    (writeCompleteCallback hightWaterMarkCallback : Bool) (hightWaterMark : Nat) :
    Faithful [] (new fd poller writeCompleteCallback hightWaterMarkCallback hightWaterMark) := by
  refine ⟨attentive_of_drained (EPollPoller.watches_new fresh) ?_ Buffer.readable_new, ?_⟩
  · exact Channel.isWriting_new fd
  · simp [new, pipe, Pipe.stream]

/-- For every connection and every sequence of events in its loop in which no write fails: the
events are handled without a fault, and if the connection is not disconnected, what the socket has
taken followed by what waits in the output buffer is the concatenation of all messages, and the
channel is registered for writing, in its own record and with the kernel, exactly if something
waits. -/
theorem outgoing_stream {fd : Fd} {poller : EPollPoller}
    (fresh : poller.interest.find? fd = none)
    (writeCompleteCallback hightWaterMarkCallback : Bool) (hightWaterMark : Nat)
    (events : List LoopEvent)
    (possible : Admissible step Possible
      (new fd poller writeCompleteCallback hightWaterMarkCallback hightWaterMark) events) :
    ∃ conn, run step
        (new fd poller writeCompleteCallback hightWaterMarkCallback hightWaterMark) events =
          .ok conn ∧
      (conn.state ≠ .kDisconnected →
        conn.socket.taken ++ conn.outputBuffer.readable = (events.map message).flatten ∧
        (conn.channel.isWriting = true ↔ conn.outputBuffer.readable ≠ []) ∧
        (conn.poller.RegisteredForWriting conn.channel.fd ↔ conn.outputBuffer.readable ≠ [])) := by
  obtain ⟨conn, reached, attentive, stream⟩ := exists_run_of_history faithful_step
    (faithful_new fresh writeCompleteCallback hightWaterMarkCallback hightWaterMark) events possible
  refine ⟨conn, reached, fun up => ⟨stream up, attentive.writing up, ?_⟩⟩
  rw [EPollPoller.registeredForWriting_iff attentive.watched]
  exact attentive.writing up

/-- Three bytes are sent while the socket takes one, two more wait behind them, and the next write
takes the rest. -/
def partialWrites : List LoopEvent :=
  [.connectEstablished, .sendInLoop [1, 2, 3] (.accepted 1),
    .sendInLoop [4, 5] (.failed .EWOULDBLOCK), .handleWrite (.accepted 4)]

/-- The socket gets the five bytes in order, and the connection stops asking for writability. -/
theorem outgoing_stream_partialWrites :
    ∃ conn, run step (new 3 ⟨PMap.empty⟩ true false 65536) partialWrites = .ok conn ∧
      conn.socket.taken = [1, 2, 3, 4, 5] ∧ conn.channel.isWriting = false := by
  have possible : Admissible step Possible (new 3 ⟨PMap.empty⟩ true false 65536) partialWrites := by
    decide +kernel
  have fresh : (⟨PMap.empty⟩ : EPollPoller).interest.find? 3 = none := rfl
  obtain ⟨conn, reached, stream⟩ := outgoing_stream fresh true false 65536 partialWrites possible
  have drained : (run step (new 3 ⟨PMap.empty⟩ true false 65536) partialWrites).toOption.map
      (fun conn => (conn.state, conn.outputBuffer.readable)) = some (.kConnected, []) := by
    decide +kernel
  rw [reached] at drained
  obtain ⟨connected, nothing⟩ := Prod.mk.inj (Option.some.inj drained)
  obtain ⟨bytes, writing, _⟩ := stream (by simp [connected])
  refine ⟨conn, reached, ?_, ?_⟩
  · simpa [nothing, partialWrites, message] using bytes
  · simpa [nothing] using writing

end GomukuServer.Proofs.OutgoingStream
