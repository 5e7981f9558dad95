/-
Module: GomukuServer.Proofs.ConnectionLife
Layer: Proofs
Purpose: What the owner of a connection is told over its life.  A connection that is open closes
  once, whatever its channel reports; it is told twice, or hears of a message after the end, exactly
  if one report closes and delivers or a report comes in after the close; and it is not told at all
  if the connection is destroyed while it is shutting down.
Trusted boundary: none
Main exports: WellReported, LivesWell, Quiet, livesWell_iff
-/
import GomukuServer.MyMuduo.ConnectionEvents
import GomukuServer.Proofs.OutgoingStream

namespace GomukuServer.Proofs.ConnectionLife

open Base Base.Runs MyMuduo MyMuduo.Life
open OutgoingStream
  (Accepts Attentive attentive_shutdown handlerClose_ok sendInLoop_refines
    handleWrite_refines update_ok)

/-- A write takes at most what it is offered, or fails. -/
def Within (offered : Nat) : WriteOutcome → Prop
  | .accepted count => count ≤ offered
  | .failed _ => True

/-- A message has a length that an `int` holds. -/
def Askable : Request → Prop
  | .sendInLoop buf outcome => buf.length < 2 ^ 31 ∧ Within buf.length outcome
  | _ => True

/-- What can happen to an established connection: any report of its channel, with any outcome of
reading and writing, and any request. -/
def Possible (_ : Life) : ConnectionEvent → Prop
  | .channelEvent _ _ replies _ => ∀ reply ∈ replies, Askable reply
  | .request request => Askable request

/-- The report makes the connection close before anything else is looked at. -/
def Closes (revents : Events) : Prop := revents &&& EPOLLHUP ≠ 0 ∧ ¬ revents &&& EPOLLIN ≠ 0

/-- The report makes the connection read, and reading brings data or the end of the stream. -/
def Delivers (revents : Events) (read : ReadOutcome) : Prop :=
  revents &&& (EPOLLIN ||| EPOLLPRI) ≠ 0 ∧ read ≠ .failed

instance (offered : Nat) : (outcome : WriteOutcome) → Decidable (Within offered outcome)
  | .accepted count => inferInstanceAs (Decidable (count ≤ offered))
  | .failed _ => isTrue trivial

instance : DecidablePred Askable
  | .sendInLoop buf outcome =>
      inferInstanceAs (Decidable (buf.length < 2 ^ 31 ∧ Within buf.length outcome))
  | .retrieve _ => isTrue trivial
  | .shutdown => isTrue trivial

instance (revents : Events) : Decidable (Closes revents) :=
  inferInstanceAs (Decidable (revents &&& EPOLLHUP ≠ 0 ∧ ¬ revents &&& EPOLLIN ≠ 0))

instance (revents : Events) (read : ReadOutcome) : Decidable (Delivers revents read) :=
  inferInstanceAs (Decidable (revents &&& (EPOLLIN ||| EPOLLPRI) ≠ 0 ∧ read ≠ .failed))

/-- No report closes and delivers at once, and once the connection is down no report does either. -/
def Quiet (life : Life) : ConnectionEvent → Prop
  | .channelEvent revents read _ _ =>
      ¬ (Closes revents ∧ Delivers revents read) ∧
        (life.conn.state = .kDisconnected → ¬ Closes revents ∧ ¬ Delivers revents read)
  | .request _ => True

instance (life : Life) : (event : ConnectionEvent) → Decidable (Quiet life event)
  | .channelEvent revents read _ _ =>
      inferInstanceAs (Decidable (¬ (Closes revents ∧ Delivers revents read) ∧
        (life.conn.state = .kDisconnected → ¬ Closes revents ∧ ¬ Delivers revents read)))
  | .request _ => isTrue trivial

/-- What the owner should hear: first that the connection is up, once; that it is down, once; the
close at most once; and no message after it is down. -/
structure WellReported (log : List Callback) : Prop where
  first : log.head? = some (.connectionCallback true)
  up : log.count (.connectionCallback true) = 1
  down : log.count (.connectionCallback false) = 1
  close : log.count .closeCallback ≤ 1
  silent : ∀ before after, log = before ++ .connectionCallback false :: after →
    .messageCallback ∉ after

/-- A step does not bring a connection back that is down. -/
def StaysDown (life : Life) (event : ConnectionEvent) : Prop :=
  life.conn.state = .kDisconnected →
    ∀ next, step life event = .ok next → next.conn.state = .kDisconnected

/-- The events are handled and the connection is destroyed, the owner hears what it should, and the
connection stays down once it is down. -/
def LivesWell (life : Life) (events : List ConnectionEvent) : Prop :=
  ∃ last gone, run step life events = .ok last ∧ last.connectDestroyed = .ok gone ∧
    WellReported gone.log ∧ Admissible step StaysDown life events ∧
    (last.conn.state = .kDisconnected → gone.conn.state = .kDisconnected)

/-! ### What has been reported -/

/-- The callbacks of a connection that is up. -/
def openLog (messages : Nat) : List Callback :=
  .connectionCallback true :: List.replicate messages .messageCallback

/-- The connection is up and has reported nothing but messages. -/
structure Open (life : Life) : Prop where
  attentive : Attentive life.conn
  state : life.conn.state = .kConnected ∨ life.conn.state = .kDisconnecting
  log : ∃ messages, life.log = openLog messages

/-- The connection is down and has reported that, and the close. -/
structure Closed (life : Life) : Prop where
  attentive : Attentive life.conn
  state : life.conn.state = .kDisconnected
  log : ∃ messages,
    life.log = openLog messages ++ [.connectionCallback false, .closeCallback]

/-- The owner has heard too much. -/
def Spoiled (log : List Callback) : Prop :=
  1 < log.count (.connectionCallback false) ∨
    ∃ before after, log = before ++ .connectionCallback false :: after ∧ .messageCallback ∈ after

/-- What has been heard cannot be taken back. -/
theorem Spoiled.append {log : List Callback} (spoiled : Spoiled log) (more : List Callback) :
    Spoiled (log ++ more) := by
  rcases spoiled with twice | ⟨before, after, rfl, late⟩
  · left
    rw [List.count_append]
    omega
  · exact .inr ⟨before, after ++ more, by simp, by simp [late]⟩

theorem not_wellReported_of_spoiled {log : List Callback} (spoiled : Spoiled log) :
    ¬ WellReported log := by
  intro good
  rcases spoiled with twice | ⟨before, after, split, late⟩
  · have once := good.down
    omega
  · exact good.silent before after split late

/-- A second report that the connection is down is one too many. -/
theorem spoiled_of_down_again {log more : List Callback}
    (told : .connectionCallback false ∈ log) (again : .connectionCallback false ∈ more) :
    Spoiled (log ++ more) := by
  left
  rw [List.count_append]
  have one := List.count_pos_iff.mpr told
  have two := List.count_pos_iff.mpr again
  omega

/-- A message after the report that the connection is down is too late. -/
theorem spoiled_of_late_message {log more : List Callback}
    (told : .connectionCallback false ∈ log) (late : .messageCallback ∈ more) :
    Spoiled (log ++ more) := by
  obtain ⟨before, after, rfl⟩ := List.append_of_mem told
  exact .inr ⟨before, after ++ more, by simp, by simp [late]⟩

/-- A report that the connection is down ends what it reported while it was up. -/
theorem wellReported_openLog (messages : Nat) {more : List Callback}
    (rest : more = [] ∨ more = [.closeCallback]) :
    WellReported (openLog messages ++ .connectionCallback false :: more) where
  first := rfl
  up := by rcases rest with rfl | rfl <;> simp [openLog, List.count_replicate]
  down := by rcases rest with rfl | rfl <;> simp [openLog, List.count_replicate]
  close := by rcases rest with rfl | rfl <;> simp [openLog, List.count_replicate]
  silent := by
    intro before after split
    -- the only report of this kind is the one shown, so the rest of the log is `more`
    have only : after = more := by
      rcases List.append_eq_append_iff.mp split with ⟨gap, _, tail⟩ | ⟨gap, head, tail⟩
      · cases gap with
        | nil => exact (List.cons.inj tail).2.symm
        | cons callback gap =>
            have inMore : Callback.connectionCallback false ∈ more := by
              simp only [List.cons_append] at tail
              rw [(List.cons.inj tail).2]
              simp
            rcases rest with rfl | rfl <;> simp at inMore
      · cases gap with
        | nil => exact (List.cons.inj tail).2
        | cons callback gap =>
            have inOpen : Callback.connectionCallback false ∈ openLog messages := by
              rw [head, ← (List.cons.inj tail).1]
              simp
            simp [openLog] at inOpen
    rw [only]
    rcases rest with rfl | rfl <;> simp

/-! ### Requests -/

/-- Sending succeeds whatever the write returns, and keeps the state. -/
theorem sendInLoop_ok {conn : TcpConnection} (attentive : Attentive conn)
    (connected : conn.state ≠ .kDisconnected) {buf : List Byte} {outcome : WriteOutcome}
    (short : buf.length < 2 ^ 31) (within : Within buf.length outcome) :
    ∃ next, conn.sendInLoop buf outcome = .ok next ∧ Attentive next ∧ next.state = conn.state := by
  cases outcome with
  | accepted nwrote =>
      have accepts : Accepts buf.length (.accepted nwrote) := within
      obtain ⟨next, _, sent, good, state, _⟩ :=
        sendInLoop_refines attentive connected short accepts
      exact ⟨next, sent, good, state⟩
  | failed errno =>
      have accepts : Accepts buf.length (.failed .EWOULDBLOCK) := rfl
      obtain ⟨next, _, sent, good, state, _⟩ :=
        sendInLoop_refines attentive connected short accepts
      by_cases direct : (!conn.channel.isWriting && conn.outputBuffer.readableBytes == 0) = true
      · cases errno with
        | EWOULDBLOCK => exact ⟨next, sent, good, state⟩
        | other =>
            refine ⟨next, ?_, good, state⟩
            simpa [TcpConnection.sendInLoop, connected, direct, Socket.write] using sent
        | EPIPE | ECONNRESET =>
            -- the message is dropped
            have long : ¬ buf.length < TcpConnection.toSize (TcpConnection.toInt buf.length) := by
              intro exceeds
              simp [TcpConnection.sendInLoop, connected, direct, exceeds] at sent
            refine ⟨conn, ?_, attentive, rfl⟩
            simp [TcpConnection.sendInLoop, connected, direct, long, Socket.write]
      · refine ⟨next, ?_, good, state⟩
        simpa [TcpConnection.sendInLoop, connected, direct] using sent

/-- Whatever is asked of an open connection, it stays open. -/
theorem open_serve (life : Life) (request : Request) (up : Open life) (askable : Askable request) :
    ∃ next, life.serve request = .ok next ∧ Open next := by
  cases request with
  | retrieve len => exact ⟨_, rfl, up.attentive, up.state, up.log⟩
  | sendInLoop buf outcome =>
      have connected : life.conn.state ≠ .kDisconnected := by
        rcases up.state with state | state <;> simp [state]
      obtain ⟨conn, sent, good, state⟩ :=
        sendInLoop_ok up.attentive connected askable.1 askable.2
      exact ⟨{ life with conn := conn }, by simp [serve, sent], good, state ▸ up.state, up.log⟩
  | shutdown =>
      refine ⟨_, rfl, ?_, ?_, up.log⟩
      · exact attentive_shutdown up.attentive
      · show life.conn.shutdown.state = _ ∨ life.conn.shutdown.state = _
        unfold TcpConnection.shutdown
        split
        · simp
        · exact up.state

/-- Nothing that is asked of a closed connection has an effect. -/
theorem closed_serve {life : Life} (down : Closed life) (request : Request) :
    ∃ next, life.serve request = .ok next ∧ Closed next := by
  cases request with
  | retrieve len => exact ⟨_, rfl, down.attentive, down.state, down.log⟩
  | sendInLoop buf outcome =>
      exact ⟨life, by simp [serve, TcpConnection.sendInLoop, down.state], down⟩
  | shutdown => exact ⟨life, by simp [serve, TcpConnection.shutdown, down.state], down⟩

theorem open_run_serve {life : Life} (up : Open life) {requests : List Request}
    (askable : ∀ request ∈ requests, Askable request) :
    ∃ next, run serve life requests = .ok next ∧ Open next :=
  exists_run_of_inv open_serve up requests (admissible_of_forall_mem askable life)

/-! ### Reports of the channel -/

/-- Closing an open connection closes it, with one report. -/
theorem open_handlerClose {life : Life} (up : Open life) :
    ∃ next, life.handlerClose = .ok next ∧ Closed next := by
  obtain ⟨messages, log⟩ := up.log
  obtain ⟨conn, closed, good, state⟩ := handlerClose_ok up.attentive
  have closedEq : life.handlerClose = .ok _ := bind_eq_ok.mpr ⟨conn, closed, rfl⟩
  refine ⟨_, closedEq, good, state, messages, ?_⟩
  rw [log_handlerClose closedEq, log]

/-- Reading on an open connection reports a message, closes or fails. -/
theorem open_handleRead {life : Life} (up : Open life) (read : ReadOutcome)
    {replies : List Request} (askable : ∀ reply ∈ replies, Askable reply) :
    ∃ next, life.handleRead read replies = .ok next ∧ (Open next ∨ Closed next) := by
  obtain ⟨messages, log⟩ := up.log
  cases read with
  | failed => exact ⟨life, rfl, .inl up⟩
  | received data =>
      let filled : Life := { life with inputBuffer := life.inputBuffer.readfd data }
      simp only [handleRead]
      split
      · have told : Open (filled.call .messageCallback) := by
          refine ⟨up.attentive, up.state, messages + 1, ?_⟩
          simp [filled, log, openLog, List.replicate_succ']
        obtain ⟨next, served, good⟩ := open_run_serve told askable
        exact ⟨next, served, .inl good⟩
      · have still : Open filled := ⟨up.attentive, up.state, up.log⟩
        obtain ⟨next, closed, good⟩ := open_handlerClose still
        exact ⟨next, closed, .inr good⟩

/-- Writing keeps an open connection open and a closed one closed. -/
theorem handleWrite_ok {life : Life} (good : Open life ∨ Closed life) (write : WriteOutcome) :
    ∃ next, life.handleWrite write = .ok next ∧ (Open life → Open next) ∧
      (Closed life → Closed next) := by
  have attentive : Attentive life.conn := good.elim Open.attentive Closed.attentive
  obtain ⟨conn, _, written, still, state, _⟩ := handleWrite_refines attentive write
  refine ⟨{ life with conn := conn }, by simp [handleWrite, written], fun up => ?_, fun down => ?_⟩
  · exact ⟨still, state ▸ up.state, up.log⟩
  · exact ⟨still, state.trans down.state, down.log⟩

theorem handleHangUp_of_closes {life : Life} {revents : Events} (closes : Closes revents) :
    life.handleHangUp revents = life.handlerClose := if_pos closes

/-- Unless the report closes, the first branch does nothing. -/
theorem handleHangUp_of_not_closes {life : Life} {revents : Events} (stays : ¬ Closes revents) :
    life.handleHangUp revents = .ok life := if_neg stays

/-- Unless the report delivers, the second branch does nothing. -/
theorem handleReadable_of_not_delivers {life : Life} {revents : Events} {read : ReadOutcome}
    {replies : List Request} (silent : ¬ Delivers revents read) :
    life.handleReadable revents read replies = .ok life := by
  unfold handleReadable
  split
  · rename_i reads
    cases read with
    | failed => rfl
    | received data => exact absurd ⟨reads, nofun⟩ silent
  · rfl

theorem open_handleReadable {life : Life} (up : Open life) (revents : Events) (read : ReadOutcome)
    {replies : List Request} (askable : ∀ reply ∈ replies, Askable reply) :
    ∃ next, life.handleReadable revents read replies = .ok next ∧ (Open next ∨ Closed next) := by
  unfold handleReadable
  split
  · exact open_handleRead up read askable
  · exact ⟨life, rfl, .inl up⟩

theorem handleWritable_ok {life : Life} (good : Open life ∨ Closed life) (revents : Events)
    (write : WriteOutcome) :
    ∃ next, life.handleWritable revents write = .ok next ∧ (Open life → Open next) ∧
      (Closed life → Closed next) := by
  unfold handleWritable
  split
  · exact handleWrite_ok good write
  · exact ⟨life, rfl, id, id⟩

/-- An event at an open connection that does not both close and deliver leaves the connection open
or closed. -/
theorem open_step {life : Life} (up : Open life) {event : ConnectionEvent}
    (possible : Possible life event) (quiet : Quiet life event) :
    ∃ next, step life event = .ok next ∧ (Open next ∨ Closed next) := by
  cases event with
  | request request =>
      obtain ⟨next, served, good⟩ := open_serve life request up possible
      exact ⟨next, served, .inl good⟩
  | channelEvent revents read replies write =>
      by_cases closes : Closes revents
      · obtain ⟨closed, closedEq, down⟩ := open_handlerClose up
        have hangUp : life.handleHangUp revents = .ok closed := by
          rw [handleHangUp_of_closes closes, closedEq]
        have silent : ¬ Delivers revents read := fun delivers => quiet.1 ⟨closes, delivers⟩
        obtain ⟨next, written, _, stillClosed⟩ := handleWritable_ok (.inr down) revents write
        refine ⟨next, ?_, .inr (stillClosed down)⟩
        simp only [step, handlerEventWithGuard, hangUp, handleReadable_of_not_delivers silent,
          ok_bind, written]
      · obtain ⟨middle, readEq, good⟩ := open_handleReadable up revents read possible
        obtain ⟨next, written, stillOpen, stillClosed⟩ := handleWritable_ok good revents write
        refine ⟨next, ?_, good.imp stillOpen stillClosed⟩
        simp only [step, handlerEventWithGuard, handleHangUp_of_not_closes closes, readEq, ok_bind,
          written]

/-- An event at a closed connection that neither closes nor delivers leaves it closed. -/
theorem closed_step {life : Life} (down : Closed life) {event : ConnectionEvent}
    (quiet : Quiet life event) : ∃ next, step life event = .ok next ∧ Closed next := by
  cases event with
  | request request => exact closed_serve down request
  | channelEvent revents read replies write =>
      obtain ⟨stays, silent⟩ := quiet.2 down.state
      obtain ⟨next, written, _, stillClosed⟩ := handleWritable_ok (.inr down) revents write
      refine ⟨next, ?_, stillClosed down⟩
      simp only [step, handlerEventWithGuard, handleHangUp_of_not_closes stays,
        handleReadable_of_not_delivers silent, ok_bind, written]

/-- What one event adds to the log: the close if there is one, and then what reading brings. -/
theorem log_handlerEventWithGuard {life next : Life} {revents : Events} {read : ReadOutcome}
    {replies : List Request} {write : WriteOutcome}
    (handled : life.handlerEventWithGuard revents read replies write = .ok next) :
    ∃ delivered, next.log = life.log ++
        (if Closes revents then [.connectionCallback false, .closeCallback] else []) ++ delivered ∧
      (Delivers revents read →
        .messageCallback ∈ delivered ∨ .connectionCallback false ∈ delivered) := by
  obtain ⟨closed, closedEq, rest⟩ := bind_eq_ok.mp handled
  obtain ⟨middle, middleEq, writtenEq⟩ := bind_eq_ok.mp rest
  have closedLog : closed.log = life.log ++
      if Closes revents then [.connectionCallback false, .closeCallback] else [] := by
    by_cases closes : Closes revents
    · rw [handleHangUp_of_closes closes] at closedEq
      rw [if_pos closes, log_handlerClose closedEq]
    · rw [handleHangUp_of_not_closes closes] at closedEq
      rw [if_neg closes, List.append_nil, Except.ok.inj closedEq]
  have written : next.log = middle.log := by
    unfold handleWritable at writtenEq
    split at writtenEq
    · exact log_handleWrite writtenEq
    · exact Except.ok.inj writtenEq ▸ rfl
  rw [written, ← closedLog]
  by_cases delivers : Delivers revents read
  · cases read with
    | failed => exact absurd rfl delivers.2
    | received data =>
        rw [handleReadable, if_pos delivers.1] at middleEq
        refine ⟨_, log_handleRead middleEq, fun _ => ?_⟩
        split <;> simp
  · rw [handleReadable_of_not_delivers delivers] at middleEq
    refine ⟨[], ?_, fun other => absurd other delivers⟩
    rw [List.append_nil, Except.ok.inj middleEq]

/-- The log only grows. -/
theorem log_step {life next : Life} {event : ConnectionEvent}
    (handled : step life event = .ok next) : ∃ more, next.log = life.log ++ more := by
  cases event with
  | request request => exact ⟨[], by rw [log_serve handled, List.append_nil]⟩
  | channelEvent revents read replies write =>
      obtain ⟨delivered, log, _⟩ := log_handlerEventWithGuard handled
      exact ⟨_, log.trans (List.append_assoc _ _ _)⟩

/-- More is heard than should be after an event that is not quiet. -/
theorem spoiled_step {life next : Life} {event : ConnectionEvent} (good : Open life ∨ Closed life)
    (loud : ¬ Quiet life event) (handled : step life event = .ok next) : Spoiled next.log := by
  cases event with
  | request request => exact absurd trivial loud
  | channelEvent revents read replies write =>
      obtain ⟨delivered, log, delivery⟩ := log_handlerEventWithGuard handled
      -- a delivery that comes after the report is too much
      have late : Delivers revents read →
          .connectionCallback false ∈ life.log ++
            (if Closes revents then [.connectionCallback false, .closeCallback] else []) →
          Spoiled next.log := by
        intro delivers told
        rw [log]
        rcases delivery delivers with message | again
        · exact spoiled_of_late_message told message
        · exact spoiled_of_down_again told again
      by_cases both : Closes revents ∧ Delivers revents read
      · exact late both.2 (by simp [both.1])
      · have down : life.conn.state = .kDisconnected ∧
            (Closes revents ∨ Delivers revents read) := by
          by_contra calm
          refine loud ⟨both, fun state => ?_⟩
          exact not_or.mp fun either => calm ⟨state, either⟩
        have told : Callback.connectionCallback false ∈ life.log := by
          rcases good with up | closed
          · rcases up.state with state | state <;> simp [down.1] at state
          · obtain ⟨messages, reported⟩ := closed.log
            simp [reported]
        rcases down.2 with closes | delivers
        · rw [log, List.append_assoc, if_pos closes]
          exact spoiled_of_down_again told (by simp)
        · exact late delivers (by simp [told])

theorem spoiled_persists (life : Life) (event : ConnectionEvent) (next : Life)
    (bad : Spoiled life.log) (stepEq : step life event = .ok next) : Spoiled next.log := by
  obtain ⟨more, log⟩ := log_step stepEq
  exact log ▸ bad.append more

/-! ### The whole life -/

/-- A new connection is established, and reports that it is up. -/
theorem open_connectEstablished {fd : Fd} {poller : EPollPoller}
    (fresh : poller.interest.find? fd = none)
    (writeCompleteCallback hightWaterMarkCallback : Bool) (hightWaterMark : Nat) :
    ∃ life, (Life.new (.new fd poller writeCompleteCallback hightWaterMarkCallback
      hightWaterMark)).connectEstablished = .ok life ∧ Open life := by
  let conn := TcpConnection.new fd poller writeCompleteCallback hightWaterMarkCallback hightWaterMark
  obtain ⟨poller', index', updated, watched'⟩ :=
    update_ok ({ conn with state := .kConnected }) (EPollPoller.watches_new fresh)
      conn.channel.enableReading.events
  refine ⟨_, bind_eq_ok.mpr ⟨_, updated, rfl⟩, ⟨watched', fun _ => ?_⟩, .inl rfl, 0, rfl⟩
  have silent : conn.channel.enableReading.isWriting = false := by
    rw [Channel.isWriting_enableReading]
    exact Channel.isWriting_new fd
  have drained : conn.outputBuffer.readable = [] := Buffer.readable_new
  show conn.channel.enableReading.isWriting = true ↔ conn.outputBuffer.readable ≠ []
  simp [silent, drained]

/-- The channel is removed without a fault. -/
theorem remove_ok {life : Life} (attentive : Attentive life.conn) :
    ∃ gone, life.remove = .ok gone ∧ gone.log = life.log ∧ gone.conn.state = life.conn.state := by
  obtain ⟨poller', removed, _⟩ := EPollPoller.removeChannel_ok attentive.watched
  exact ⟨_, bind_eq_ok.mpr ⟨_, removed, rfl⟩, rfl, rfl⟩

/-- Destroying a connection that is up reports that it is down; no other state is reported. -/
theorem connectDestroyed_ok {life : Life} (good : Open life ∨ Closed life) :
    ∃ gone, life.connectDestroyed = .ok gone ∧
      gone.log = life.log ++
        (if life.conn.state = .kConnected then [.connectionCallback false] else []) ∧
      (life.conn.state = .kDisconnected → gone.conn.state = .kDisconnected) := by
  have attentive : Attentive life.conn := good.elim Open.attentive Closed.attentive
  by_cases connected : life.conn.state = .kConnected
  · obtain ⟨conn, closed, still, state⟩ := handlerClose_ok attentive
    have disconnected : life.disconnect =
        .ok ({ life with conn := conn }.call (.connectionCallback conn.connected)) := by
      rw [disconnect, if_pos connected]
      exact bind_eq_ok.mpr ⟨conn, closed, rfl⟩
    have stillCalled : Attentive
        ({ life with conn := conn }.call (.connectionCallback conn.connected)).conn := still
    obtain ⟨gone, goneEq, goneLog, _⟩ := remove_ok stillCalled
    refine ⟨gone, bind_eq_ok.mpr ⟨_, disconnected, goneEq⟩, ?_, by simp [connected]⟩
    rw [goneLog, if_pos connected, log_call, TcpConnection.connected, state]
    rfl
  · obtain ⟨gone, goneEq, goneLog, state⟩ := remove_ok attentive
    have untouched : life.disconnect = .ok life := if_neg connected
    refine ⟨gone, bind_eq_ok.mpr ⟨life, untouched, goneEq⟩, ?_, state.trans⟩
    rw [goneLog, if_neg connected, List.append_nil]

/-- Destroying a connection does not take back what has been heard. -/
theorem log_connectDestroyed {life gone : Life} (destroyed : life.connectDestroyed = .ok gone) :
    ∃ more, gone.log = life.log ++ more := by
  obtain ⟨down, downEq, goneEq⟩ := bind_eq_ok.mp destroyed
  obtain ⟨_, _, removed⟩ := bind_eq_ok.mp goneEq
  rw [← Except.ok.inj removed]
  unfold disconnect at downEq
  split at downEq
  · obtain ⟨conn, _, called⟩ := bind_eq_ok.mp downEq
    exact ⟨_, by rw [← Except.ok.inj called]; rfl⟩
  · exact ⟨[], by rw [← Except.ok.inj downEq, List.append_nil]⟩

/-- What the owner has heard when the connection is gone is right exactly if the connection was not
shutting down. -/
theorem wellReported_destroyed_iff {life gone : Life} (good : Open life ∨ Closed life)
    (log : gone.log = life.log ++
      (if life.conn.state = .kConnected then [.connectionCallback false] else [])) :
    WellReported gone.log ↔ life.conn.state ≠ .kDisconnecting := by
  rw [log]
  rcases good with up | down
  · obtain ⟨messages, reported⟩ := up.log
    rcases up.state with state | state
    · simpa [state, reported] using wellReported_openLog messages (.inl rfl)
    · simp only [state, reported, ne_eq, not_true_eq_false, iff_false]
      intro told
      have once := told.down
      simp [openLog, List.count_replicate] at once
  · obtain ⟨messages, reported⟩ := down.log
    simpa [down.state, reported] using wellReported_openLog messages (.inr rfl)

/-- Open and closed connections stay what they are or close. -/
theorem good_step (life : Life) (event : ConnectionEvent) (good : Open life ∨ Closed life)
    (possible : Possible life event) (quiet : Quiet life event) :
    ∃ next, step life event = .ok next ∧ (Open next ∨ Closed next) := by
  rcases good with up | down
  · exact open_step up possible quiet
  · obtain ⟨next, stepEq, still⟩ := closed_step down quiet
    exact ⟨next, stepEq, .inr still⟩

theorem staysDown_step (life : Life) (event : ConnectionEvent) (good : Open life ∨ Closed life)
    (quiet : Quiet life event) : StaysDown life event := by
  intro state next stepEq
  rcases good with up | down
  · rcases up.state with other | other <;> simp [state] at other
  · obtain ⟨closed, closedEq, still⟩ := closed_step down quiet
    obtain rfl : closed = next := by simpa [stepEq] using closedEq.symm
    exact still.state

/-- For every new connection it can be established, and for every sequence of events after that: the
events are handled, the connection can be destroyed at the end, its owner hears once that it is up
and once that it is down, at most once of its close and of no message after the end, and the
connection stays down once it is down, if and only if no report of the channel both closes and
delivers, none of either kind comes after the connection is down, and the connection is not
destroyed while it is shutting down. -/
theorem livesWell_iff {fd : Fd} {poller : EPollPoller} (fresh : poller.interest.find? fd = none)
    (writeCompleteCallback hightWaterMarkCallback : Bool) (hightWaterMark : Nat)
    (events : List ConnectionEvent) :
    ∃ life, (Life.new (.new fd poller writeCompleteCallback hightWaterMarkCallback
        hightWaterMark)).connectEstablished = .ok life ∧
      (Admissible step Possible life events →
        (LivesWell life events ↔ Admissible step Quiet life events ∧
          ∀ last, run step life events = .ok last → last.conn.state ≠ .kDisconnecting)) := by
  obtain ⟨life, established, up⟩ :=
    open_connectEstablished fresh writeCompleteCallback hightWaterMarkCallback hightWaterMark
  refine ⟨life, established, fun possible => ?_⟩
  rcases admissible_or_spoiled good_step (fun _ _ _ good _ loud => spoiled_step good loud)
      spoiled_persists (Or.inl up) events possible with
    ⟨quiet, last, reached, good⟩ | ⟨loud, bad⟩
  · obtain ⟨gone, goneEq, log, stays⟩ := connectDestroyed_ok good
    have told := wellReported_destroyed_iff good log
    constructor
    · rintro ⟨other, otherGone, otherEq, otherGoneEq, reported, _, _⟩
      obtain rfl : last = other := by simpa [reached] using otherEq
      obtain rfl : gone = otherGone := by simpa [goneEq] using otherGoneEq
      refine ⟨quiet, fun other otherEq => ?_⟩
      obtain rfl : last = other := by simpa [reached] using otherEq
      exact told.mp reported
    · rintro ⟨_, notDisconnecting⟩
      refine ⟨last, gone, reached, goneEq, told.mpr (notDisconnecting last reached), ?_, stays⟩
      have keeps : ∀ life event next, Open life ∨ Closed life →
          Possible life event ∧ Quiet life event → step life event = .ok next →
          Open next ∨ Closed next := by
        intro life event next good both stepEq
        obtain ⟨other, otherEq, still⟩ := good_step life event good both.1 both.2
        obtain rfl : next = other := by simpa [stepEq] using otherEq
        exact still
      exact Admissible.imp_of_inv keeps
        (fun life event good both => staysDown_step life event good both.2) (Or.inl up)
        (possible.and quiet)
  · constructor
    · rintro ⟨last, gone, reached, destroyed, reported, _, _⟩
      obtain ⟨more, log⟩ := log_connectDestroyed destroyed
      exact absurd (log ▸ reported) (not_wellReported_of_spoiled ((bad last reached).append more))
    · rintro ⟨quiet, _⟩
      exact absurd quiet loud

/-- A connection that has just been established. -/
def established : Except Fault Life :=
  (Life.new (.new 3 ⟨PMap.empty⟩ false false 65536)).connectEstablished

/-- A request is answered, and then the peer hangs up. -/
def answerAndHangUp : List ConnectionEvent :=
  [.channelEvent EPOLLIN (.received [1, 2]) [.retrieve 2, .sendInLoop [7] (.accepted 1)]
      (.failed .other),
    .channelEvent EPOLLHUP .failed [] (.failed .other)]

/-- The owner hears what it should. -/
theorem livesWell_answerAndHangUp :
    ∃ life, established = .ok life ∧ LivesWell life answerAndHangUp := by
  have fresh : (⟨PMap.empty⟩ : EPollPoller).interest.find? 3 = none := rfl
  obtain ⟨life, establishedEq, exactly⟩ :=
    livesWell_iff fresh false false 65536 answerAndHangUp
  have quiet : established.toOption.map
      (fun life => decide (Admissible step Quiet life answerAndHangUp)) = some true := by
    decide +kernel
  have ended : (established.bind fun life => run step life answerAndHangUp).toOption.map
      (fun last => last.conn.state) = some .kDisconnected := by
    decide +kernel
  have here : established = .ok life := establishedEq
  rw [here] at quiet ended
  have askable : ∀ reply ∈ [Request.retrieve 2, .sendInLoop [7] (.accepted 1)], Askable reply := by
    decide
  have possible : Admissible step Possible life answerAndHangUp :=
    ⟨askable, fun _ _ => ⟨nofun, fun _ _ => trivial⟩⟩
  refine ⟨life, here, (exactly possible).mpr ⟨?_, fun last reached => ?_⟩⟩
  · exact of_decide_eq_true (Option.some.inj quiet)
  · have state : last.conn.state = .kDisconnected := by
      simpa [Except.bind, reached, Except.toOption] using ended
    simp [state]

/-- The inactivity timer shuts the connection down. -/
def inactivity : List ConnectionEvent := [.request .shutdown]

/-- When the server is destroyed before the peer closes its end, the owner never hears that the
connection is down. -/
theorem not_livesWell_inactivity :
    ∃ life, established = .ok life ∧ Admissible step Possible life inactivity ∧
      ¬ LivesWell life inactivity := by
  have told : (established.bind fun life =>
      (run step life inactivity).bind connectDestroyed).toOption.map Life.log =
        some [.connectionCallback true] := by
    decide +kernel
  cases establishedEq : established with
  | error fault => simp [establishedEq, Except.bind, Except.toOption] at told
  | ok life =>
      refine ⟨life, rfl, ⟨trivial, fun _ _ => trivial⟩, ?_⟩
      rintro ⟨last, gone, reached, destroyed, reported, _⟩
      have log : gone.log = [.connectionCallback true] := by
        simpa [establishedEq, Except.bind, reached, destroyed, Except.toOption] using told
      have once := reported.down
      simp [log] at once

end GomukuServer.Proofs.ConnectionLife
