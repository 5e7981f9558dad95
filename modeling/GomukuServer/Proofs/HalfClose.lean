/-
Module: GomukuServer.Proofs.HalfClose
Layer: Proofs
Purpose: What has been written when the write side of a connection is shut.  The connection makes
  sure that its output buffer has been written out, but it does not look at the messages that still
  wait in the queue of the loop, although their `send` has returned.
Trusted boundary: none
Main exports: Written, WrittenBeforeShut, Possible, Short, ShutsNow, NothingWaits, Carries, Tracked,
  half_close_after_data
-/
import GomukuServer.MyMuduo.ConnectionLoop
import GomukuServer.Proofs.OutgoingStream
import Mathlib.Data.List.Nodup

namespace GomukuServer.Proofs.HalfClose

open Base Base.Runs MyMuduo MyMuduo.ConnectionLoop
open OutgoingStream
  (Accepts Attentive ShutsByWriting attentive_shutdown sendInLoop_refines handleWrite_refines
    update_ok faithful_new faithful_step)

variable {Thread : Type}

/-- The socket has taken every byte of the message, behind those of the messages before it. -/
def Written (shared : ConnectionLoop Thread) (message : Message) : Prop :=
  message.buf = [] ∨ ∃ earlier later, shared.handed = earlier ++ message :: later ∧
    (earlier.map Message.buf).flatten ++ message.buf <+: shared.conn.socket.taken

/-- When the write side is shut, all messages have been written whose `send` had returned before
`shutdown` was called. -/
def WrittenBeforeShut (shared : ConnectionLoop Thread) : Prop :=
  shared.conn.socket.writeShut = true → ∀ message ∈ shared.promised, Written shared message

/-- No write fails, and none takes more than it is offered. -/
def Possible (shared : ConnectionLoop Thread) : ConnectionCall Thread → Prop
  | .advance _ outcome => ∀ message ∈ shared.loop.pc.nextFunctor.join,
      Accepts message.buf.length outcome
  | .handleWrite outcome => Accepts shared.conn.outputBuffer.readableBytes outcome
  | .sendHere buf outcome => Accepts buf.length outcome
  | .shutdown => True
  | .send _ _ => True
  | .proceed _ => True
  | .queueOther _ => True
  | .proceedOther _ => True

instance (shared : ConnectionLoop Thread) :
    (call : ConnectionCall Thread) → Decidable (Possible shared call)
  | .advance _ outcome => inferInstanceAs (Decidable (∀ message ∈ shared.loop.pc.nextFunctor.join,
      Accepts message.buf.length outcome))
  | .handleWrite outcome =>
      inferInstanceAs (Decidable (Accepts shared.conn.outputBuffer.readableBytes outcome))
  | .sendHere buf outcome => inferInstanceAs (Decidable (Accepts buf.length outcome))
  | .shutdown => isTrue trivial
  | .send _ _ => isTrue trivial
  | .proceed _ => isTrue trivial
  | .queueOther _ => isTrue trivial
  | .proceedOther _ => isTrue trivial

/-- The length of a message whose `send` finds the connection connected fits into an `int`. -/
def Short (shared : ConnectionLoop Thread) : ConnectionCall Thread → Prop
  | .sendHere buf _ => shared.conn.state = .kConnected → buf.length < 2 ^ 31
  | .send _ buf => shared.conn.state = .kConnected → buf.length < 2 ^ 31
  | .advance _ _ => True
  | .handleWrite _ => True
  | .shutdown => True
  | .proceed _ => True
  | .queueOther _ => True
  | .proceedOther _ => True

instance (shared : ConnectionLoop Thread) :
    (call : ConnectionCall Thread) → Decidable (Short shared call)
  | .sendHere buf _ =>
      inferInstanceAs (Decidable (shared.conn.state = .kConnected → buf.length < 2 ^ 31))
  | .send _ buf =>
      inferInstanceAs (Decidable (shared.conn.state = .kConnected → buf.length < 2 ^ 31))
  | .advance _ _ => isTrue trivial
  | .handleWrite _ => isTrue trivial
  | .shutdown => isTrue trivial
  | .proceed _ => isTrue trivial
  | .queueOther _ => isTrue trivial
  | .proceedOther _ => isTrue trivial

/-- The event shuts the write side: `shutdown` finds nothing to be written, or `handleWrite` writes
the last of it after `shutdown`. -/
def ShutsNow (shared : ConnectionLoop Thread) : ConnectionCall Thread → Prop
  | .shutdown => shared.inUserCode = true ∧ shared.conn.state = .kConnected ∧
      shared.conn.channel.isWriting = false
  | .handleWrite outcome => shared.inHandler = true ∧ ShutsByWriting shared.conn outcome
  | .advance _ _ => False
  | .sendHere _ _ => False
  | .send _ _ => False
  | .proceed _ => False
  | .queueOther _ => False
  | .proceedOther _ => False

instance (shared : ConnectionLoop Thread) :
    (call : ConnectionCall Thread) → Decidable (ShutsNow shared call)
  | .shutdown => inferInstanceAs (Decidable (_ ∧ _ ∧ _))
  | .handleWrite outcome =>
      inferInstanceAs (Decidable (shared.inHandler = true ∧ ShutsByWriting shared.conn outcome))
  | .advance _ _ => isFalse id
  | .sendHere _ _ => isFalse id
  | .send _ _ => isFalse id
  | .proceed _ => isFalse id
  | .queueOther _ => isFalse id
  | .proceedOther _ => isFalse id

/-- When the write side is shut, no message whose `send` had returned before `shutdown` waits in the
queue of the loop, unless it is empty. -/
def NothingWaits (shared : ConnectionLoop Thread) (call : ConnectionCall Thread) : Prop :=
  ShutsNow shared call → ∀ message ∈ shared.promised, message.buf ≠ [] →
    some message ∉ shared.loop.waiting

instance (shared : ConnectionLoop Thread) (call : ConnectionCall Thread) :
    Decidable (NothingWaits shared call) := inferInstanceAs (Decidable (_ → _))

/-! ### What every run keeps -/

/-- The messages that have come to `sendInLoop`, and behind them those that wait, in order. -/
def accepted (shared : ConnectionLoop Thread) : List Message :=
  shared.handed ++ shared.loop.waiting.filterMap id

/-- The connection has written, or keeps in its output buffer, what has come to `sendInLoop`. -/
structure Carries (shared : ConnectionLoop Thread) : Prop where
  attentive : Attentive shared.conn
  state : shared.conn.state = if shared.shutdownCalled then .kDisconnecting else .kConnected
  shut : shared.conn.socket.writeShut = true → shared.shutdownCalled = true
  stream : shared.conn.pipe.stream = (shared.handed.map Message.buf).flatten

/-- Every message has its own number, and a message that was pushed, or whose `send` has returned,
has come to `sendInLoop` or waits. -/
structure Tracked (shared : ConnectionLoop Thread) : Prop where
  promised : ∀ message ∈ shared.promised, message ∈ accepted shared
  queueing : ∀ thread message, shared.sends thread = .queueing message → message ∈ accepted shared
  short : ∀ message ∈ accepted shared, message.buf.length < 2 ^ 31
  distinct : ((accepted shared).map Message.number).Nodup
  numbered : ∀ message ∈ accepted shared, message.number < shared.numbered
  checked : ∀ thread message, shared.sends thread = .checked message →
    message.buf.length < 2 ^ 31 ∧ message.number < shared.numbered ∧
      ∀ other ∈ accepted shared, other.number ≠ message.number
  apart : ∀ thread other message otherMessage, shared.sends thread = .checked message →
    shared.sends other = .checked otherMessage → message.number = otherMessage.number →
      thread = other

theorem Carries.connected_iff {shared : ConnectionLoop Thread} (carries : Carries shared) :
    shared.conn.state = .kConnected ↔ shared.shutdownCalled = false := by
  rw [carries.state]
  cases shared.shutdownCalled <;> simp

theorem Carries.called {shared : ConnectionLoop Thread} (carries : Carries shared)
    (down : shared.conn.state ≠ .kConnected) : shared.shutdownCalled = true := by
  cases called : shared.shutdownCalled with
  | true => rfl
  | false => exact absurd (carries.connected_iff.mpr called) down

theorem Carries.up {shared : ConnectionLoop Thread} (carries : Carries shared) :
    shared.conn.state ≠ .kDisconnected := by
  rw [carries.state]
  split <;> simp

theorem mem_accepted {shared : ConnectionLoop Thread} {message : Message} :
    message ∈ accepted shared ↔ message ∈ shared.handed ∨ some message ∈ shared.loop.waiting := by
  simp [accepted]

/-- A message does not wait any more when it has come to `sendInLoop`. -/
theorem Tracked.notMem_waiting {shared : ConnectionLoop Thread} (tracked : Tracked shared)
    {message : Message} (handed : message ∈ shared.handed) :
    some message ∉ shared.loop.waiting := by
  intro waits
  have distinct := List.Nodup.of_map Message.number tracked.distinct
  rw [accepted, List.nodup_append] at distinct
  exact distinct.2.2 message handed message (by simpa using waits) rfl

/-- What has been written stays written. -/
theorem Written.grow {shared next : ConnectionLoop Thread} {message : Message}
    (written : Written shared message) (handed : shared.handed <+: next.handed)
    (taken : shared.conn.socket.taken <+: next.conn.socket.taken) : Written next message := by
  rcases written with nothing | ⟨earlier, later, handedEq, before⟩
  · exact Or.inl nothing
  · obtain ⟨more, moreEq⟩ := handed
    refine Or.inr ⟨earlier, later ++ more, ?_, before.trans taken⟩
    rw [← moreEq, handedEq]
    simp

/-- When the output buffer is empty, everything that has come to `sendInLoop` has been written. -/
theorem Carries.written_of_drained {shared : ConnectionLoop Thread} (carries : Carries shared)
    (drained : shared.conn.outputBuffer.readable = []) {message : Message}
    (handed : message ∈ shared.handed) : Written shared message := by
  obtain ⟨earlier, later, handedEq⟩ := List.append_of_mem handed
  refine Or.inr ⟨earlier, later, handedEq, (later.map Message.buf).flatten, ?_⟩
  have stream := carries.stream
  rw [handedEq] at stream
  simp only [Pipe.stream, TcpConnection.pipe, drained, List.append_nil] at stream
  rw [stream]
  simp

/-! ### The messages -/

/-- Nothing happens to the messages but that numbers are passed over and callers of `send` leave it.
-/
theorem Tracked.weaken {shared next : ConnectionLoop Thread} (tracked : Tracked shared)
    (accepts : accepted next = accepted shared) (promised : next.promised = shared.promised)
    (numbered : shared.numbered ≤ next.numbered)
    (sends : ∀ thread, next.sends thread = shared.sends thread ∨ next.sends thread = .idle) :
    Tracked next where
  promised := by rw [promised, accepts]; exact tracked.promised
  queueing := by
    intro thread message inside
    rw [accepts]
    rcases sends thread with same | idle
    · exact tracked.queueing thread message (same ▸ inside)
    · cases idle.symm.trans inside
  short := by rw [accepts]; exact tracked.short
  distinct := by rw [accepts]; exact tracked.distinct
  numbered := by
    rw [accepts]
    exact fun message member => Nat.lt_of_lt_of_le (tracked.numbered message member) numbered
  checked := by
    intro thread message inside
    rw [accepts]
    rcases sends thread with same | idle
    · obtain ⟨short, small, new⟩ := tracked.checked thread message (same ▸ inside)
      exact ⟨short, Nat.lt_of_lt_of_le small numbered, new⟩
    · cases idle.symm.trans inside
  apart := by
    intro thread other message otherMessage inside otherInside
    rcases sends thread with same | idle
    · rcases sends other with otherSame | otherIdle
      · exact tracked.apart thread other message otherMessage (same ▸ inside)
          (otherSame ▸ otherInside)
      · cases otherIdle.symm.trans otherInside
    · cases idle.symm.trans inside

/-- Nothing happens to the messages. -/
theorem Tracked.congr {shared next : ConnectionLoop Thread} (tracked : Tracked shared)
    (accepts : accepted next = accepted shared) (promised : next.promised = shared.promised)
    (sends : next.sends = shared.sends) (numbered : next.numbered = shared.numbered) :
    Tracked next :=
  tracked.weaken accepts promised (Nat.le_of_eq numbered.symm) fun thread =>
    Or.inl (congrFun sends thread)

/-- A call of `send` returns whose message is there. -/
theorem Tracked.returned {shared : ConnectionLoop Thread} (tracked : Tracked shared)
    {message : Message} (there : message ∈ accepted shared) :
    Tracked (shared.returned message) where
  promised := by
    intro other member
    unfold ConnectionLoop.returned at member
    dsimp only at member
    split at member
    · exact tracked.promised other member
    · rcases List.mem_append.mp member with before | last
      · exact tracked.promised other before
      · obtain rfl := List.mem_singleton.mp last
        exact there
  queueing := tracked.queueing
  short := tracked.short
  distinct := tracked.distinct
  numbered := tracked.numbered
  checked := tracked.checked
  apart := tracked.apart

/-- A message with a new number is among those that are accepted. -/
theorem Tracked.insert {shared next : ConnectionLoop Thread} (tracked : Tracked shared)
    (message : Message) (accepts : (accepted next).Perm (message :: accepted shared))
    (promised : next.promised = shared.promised) (numbered : shared.numbered ≤ next.numbered)
    (small : message.number < next.numbered) (short : message.buf.length < 2 ^ 31)
    (new : ∀ other ∈ accepted shared, other.number ≠ message.number)
    (queueing : ∀ thread other, next.sends thread = .queueing other →
      other = message ∨ shared.sends thread = .queueing other)
    (checked : ∀ thread other, next.sends thread = .checked other →
      shared.sends thread = .checked other ∧ other.number ≠ message.number) :
    Tracked next where
  promised := by
    intro other member
    rw [promised] at member
    exact accepts.mem_iff.mpr (List.mem_cons_of_mem _ (tracked.promised other member))
  queueing := by
    intro thread other inside
    refine accepts.mem_iff.mpr ?_
    rcases queueing thread other inside with rfl | before
    · exact List.mem_cons_self
    · exact List.mem_cons_of_mem _ (tracked.queueing thread other before)
  short := by
    intro other member
    rcases List.mem_cons.mp (accepts.mem_iff.mp member) with rfl | before
    · exact short
    · exact tracked.short other before
  distinct := by
    refine (accepts.map Message.number).nodup_iff.mpr ?_
    rw [List.map_cons, List.nodup_cons]
    refine ⟨fun member => ?_, tracked.distinct⟩
    obtain ⟨other, there, same⟩ := List.mem_map.mp member
    exact new other there same
  numbered := by
    intro other member
    rcases List.mem_cons.mp (accepts.mem_iff.mp member) with rfl | before
    · exact small
    · exact Nat.lt_of_lt_of_le (tracked.numbered other before) numbered
  checked := by
    intro thread other inside
    obtain ⟨before, different⟩ := checked thread other inside
    obtain ⟨otherShort, otherSmall, otherNew⟩ := tracked.checked thread other before
    refine ⟨otherShort, Nat.lt_of_lt_of_le otherSmall numbered, fun third member => ?_⟩
    rcases List.mem_cons.mp (accepts.mem_iff.mp member) with rfl | there
    · exact Ne.symm different
    · exact otherNew third there
  apart := by
    intro thread other first second firstInside secondInside
    exact tracked.apart thread other first second (checked thread first firstInside).1
      (checked other second secondInside).1

/-- The next message has a number that none of the others has. -/
theorem Tracked.new {shared : ConnectionLoop Thread} (tracked : Tracked shared) :
    (∀ other ∈ accepted shared, other.number ≠ shared.numbered) ∧
      ∀ thread other, shared.sends thread = .checked other → other.number ≠ shared.numbered :=
  ⟨fun other member => Nat.ne_of_lt (tracked.numbered other member),
    fun thread other inside => Nat.ne_of_lt (tracked.checked thread other inside).2.1⟩

/-! ### Steps -/

/-- A step that does not shut the write side: the records only grow, and what was promised before
`shutdown` is settled. -/
structure Grows (shared next : ConnectionLoop Thread) : Prop where
  handed : shared.handed <+: next.handed
  taken : shared.conn.socket.taken <+: next.conn.socket.taken
  promised : shared.shutdownCalled = true → next.promised = shared.promised
  shut : next.conn.socket.writeShut = true → shared.conn.socket.writeShut = true

/-- A step that leaves the connection alone. -/
theorem Grows.of_conn_eq {shared next : ConnectionLoop Thread} (conn : next.conn = shared.conn)
    (handed : next.handed = shared.handed)
    (promised : shared.shutdownCalled = true → next.promised = shared.promised) :
    Grows shared next where
  handed := handed.symm ▸ List.prefix_rfl
  taken := conn.symm ▸ List.prefix_rfl
  promised := promised
  shut := by rw [conn]; exact fun shut => shut

theorem WrittenBeforeShut.grow {shared next : ConnectionLoop Thread}
    (written : WrittenBeforeShut shared) (carries : Carries shared) (grows : Grows shared next) :
    WrittenBeforeShut next := by
  intro shut message member
  have before := grows.shut shut
  rw [grows.promised (carries.shut before)] at member
  exact (written before message member).grow grows.handed grows.taken

/-- The connection is as before. -/
theorem Carries.congr {shared next : ConnectionLoop Thread} (carries : Carries shared)
    (conn : next.conn = shared.conn) (handed : next.handed = shared.handed)
    (called : next.shutdownCalled = shared.shutdownCalled) : Carries next where
  attentive := by rw [conn]; exact carries.attentive
  state := by rw [conn, called]; exact carries.state
  shut := by rw [conn, called]; exact carries.shut
  stream := by rw [conn, handed]; exact carries.stream

/-- `sendInLoop` takes the message over. -/
theorem sendInLoop_carries {shared : ConnectionLoop Thread} (carries : Carries shared)
    (message : Message) {outcome : WriteOutcome} (short : message.buf.length < 2 ^ 31)
    (accepts : Accepts message.buf.length outcome) :
    ∃ conn, shared.sendInLoop message outcome =
        .ok { shared with conn := conn, handed := shared.handed ++ [message] } ∧
      Carries { shared with conn := conn, handed := shared.handed ++ [message] } ∧
      shared.conn.socket.taken <+: conn.socket.taken ∧
      conn.socket.writeShut = shared.conn.socket.writeShut := by
  obtain ⟨conn, count, sent, good, state, moved, shut⟩ :=
    sendInLoop_refines carries.attentive carries.up short accepts
  refine ⟨conn, ?_, ⟨good, state.trans carries.state, fun now => carries.shut (shut ▸ now), ?_⟩, ?_,
    shut⟩
  · simp [ConnectionLoop.sendInLoop, sent, ok_bind, pure_eq_ok]
  · have stream := Pipe.stream_moves shared.conn.pipe [.push message.buf, .drain count]
    have before := carries.stream
    change conn.pipe.stream = _
    rw [show conn.pipe = shared.conn.pipe.moves [.push message.buf, .drain count] from moved,
      stream, before]
    simp [Pipe.Move.pushed]
  · have taken := congrArg Pipe.taken moved
    simp only [TcpConnection.pipe, Pipe.push, Pipe.drain] at taken
    rw [taken]
    exact List.prefix_append _ _

/-- A step of the loop thread leaves the messages in order. -/
theorem accepted_advance {shared : ConnectionLoop Thread} {active : List Ready}
    (other : ∀ message, shared.loop.pc.nextFunctor ≠ some (some message)) :
    accepted { shared with loop := shared.loop.advance active } = accepted shared := by
  unfold accepted
  dsimp only
  rw [← shared.loop.waiting_advance active]
  cases next : shared.loop.pc.nextFunctor with
  | none => simp
  | some functor =>
      cases functor with
      | none => simp
      | some message => exact absurd next (other message)

theorem accepted_called {shared : ConnectionLoop Thread} {active : List Ready} {message : Message}
    (next : shared.loop.pc.nextFunctor = some (some message)) (conn : TcpConnection) :
    accepted { shared with
        loop := shared.loop.advance active
        conn := conn
        handed := shared.handed ++ [message] } = accepted shared := by
  unfold accepted
  dsimp only
  rw [← shared.loop.waiting_advance active, next]
  simp

/-- A step that shuts the write side: nothing is left in the output buffer, and the messages are as
before. -/
structure Shuts (shared next : ConnectionLoop Thread) : Prop where
  handed : next.handed = shared.handed
  loop : next.loop = shared.loop
  promised : next.promised = shared.promised
  shut : next.conn.socket.writeShut = true
  drained : next.conn.outputBuffer.readable = []

/-- The write side is shut in time exactly if nothing waits in the queue of the loop. -/
theorem Shuts.writtenBeforeShut_iff {shared next : ConnectionLoop Thread}
    (shuts : Shuts shared next) (carries : Carries next) (tracked : Tracked shared) :
    WrittenBeforeShut next ↔ ∀ message ∈ shared.promised, message.buf ≠ [] →
      some message ∉ shared.loop.waiting := by
  constructor
  · intro written message member some waits
    rw [← shuts.promised] at member
    rcases written shuts.shut message member with nothing | ⟨earlier, later, handedEq, _⟩
    · exact some nothing
    · refine tracked.notMem_waiting ?_ waits
      rw [← shuts.handed, handedEq]
      simp
  · intro nothing _ message member
    rw [shuts.promised] at member
    rcases mem_accepted.mp (tracked.promised message member) with handed | waits
    · rw [← shuts.handed] at handed
      exact carries.written_of_drained shuts.drained handed
    · refine Or.inl (Decidable.byContradiction fun some => ?_)
      exact nothing message member some waits

/-- What a step does: it goes through, and it shuts the write side if it does so now. -/
def StepsTo (shared : ConnectionLoop Thread) (shutsNow : Prop)
    (result : Except Fault (ConnectionLoop Thread)) : Prop :=
  ∃ next, result = .ok next ∧ Carries next ∧ Tracked next ∧
    ((¬ shutsNow ∧ Grows shared next) ∨ (shutsNow ∧ Shuts shared next))

/-- A step in which nothing happens. -/
theorem stepsTo_self {shared : ConnectionLoop Thread} (carries : Carries shared)
    (tracked : Tracked shared) {shutsNow : Prop} (still : ¬ shutsNow) :
    StepsTo shared shutsNow (.ok shared) :=
  ⟨shared, rfl, carries, tracked, Or.inl ⟨still, .of_conn_eq rfl rfl fun _ => rfl⟩⟩

theorem handleWrite_stepsTo {shared : ConnectionLoop Thread} (carries : Carries shared)
    (tracked : Tracked shared) (outcome : WriteOutcome) :
    StepsTo shared (ShutsNow shared (.handleWrite outcome)) (shared.handleWrite outcome) := by
  unfold ConnectionLoop.handleWrite
  split
  · rename_i inHandler
    obtain ⟨conn, count, written, good, state, moved, shut, drained⟩ :=
      handleWrite_refines carries.attentive outcome
    have taken := congrArg Pipe.taken moved
    simp only [TcpConnection.pipe, Pipe.drain] at taken
    have same : Tracked { shared with conn := conn } := tracked.congr rfl rfl rfl rfl
    refine ⟨{ shared with conn := conn }, by simp [written, ok_bind, pure_eq_ok],
      ⟨good, state.trans carries.state, fun now => ?_, ?_⟩, same, ?_⟩
    · rcases shut.mp now with before | ⟨ending, _⟩
      · exact carries.shut before
      · exact carries.called (by simp [ending])
    · have stream := Pipe.stream_moves shared.conn.pipe [.drain count]
      rw [← show conn.pipe = shared.conn.pipe.moves [.drain count] from moved,
        carries.stream] at stream
      simpa [Pipe.Move.pushed] using stream
    · by_cases shutsNow : ShutsByWriting shared.conn outcome
      · exact Or.inr ⟨⟨inHandler, shutsNow⟩, rfl, rfl, rfl, shut.mpr (Or.inr shutsNow),
          drained shutsNow⟩
      · refine Or.inl ⟨fun now => shutsNow now.2, List.prefix_rfl, ?_, fun _ => rfl, fun now => ?_⟩
        · rw [taken]
          exact List.prefix_append _ _
        · exact (shut.mp now).resolve_right shutsNow
  · rename_i elsewhere
    exact stepsTo_self carries tracked fun now => elsewhere now.1

theorem shutdown_stepsTo {shared : ConnectionLoop Thread} (carries : Carries shared)
    (tracked : Tracked shared) :
    StepsTo shared (ShutsNow shared .shutdown) (.ok shared.shutdown) := by
  unfold ConnectionLoop.shutdown
  split
  · rename_i inUserCode
    have same : Tracked
        { shared with conn := shared.conn.shutdown, shutdownCalled := true } :=
      tracked.congr rfl rfl rfl rfl
    have attentive := attentive_shutdown carries.attentive
    refine ⟨_, rfl, ?_⟩
    by_cases connected : shared.conn.state = .kConnected
    · have pipe : shared.conn.shutdown.pipe = shared.conn.pipe := by
        rw [TcpConnection.shutdown, if_pos connected, TcpConnection.pipe_shutdownInLoop]
        rfl
      have state : shared.conn.shutdown.state = .kDisconnecting := by
        rw [TcpConnection.shutdown, if_pos connected, TcpConnection.state_shutdownInLoop]
      refine ⟨⟨attentive, state, fun _ => rfl, ?_⟩, same, ?_⟩
      · rw [pipe]
        exact carries.stream
      · have taken : shared.conn.shutdown.socket.taken = shared.conn.socket.taken :=
          congrArg Pipe.taken pipe
        have effect : shared.conn.shutdown.socket.writeShut =
            (shared.conn.socket.writeShut || !shared.conn.channel.isWriting) := by
          rw [TcpConnection.shutdown, if_pos connected, TcpConnection.shutdownInLoop]
          cases shared.conn.channel.isWriting <;> simp [Socket.shutdownWrite]
        cases writing : shared.conn.channel.isWriting with
        | false =>
            have idle : shared.conn.outputBuffer.readable = [] := by
              refine Decidable.byContradiction fun waiting => ?_
              rw [(carries.attentive.writing carries.up).mpr waiting] at writing
              cases writing
            have buffer : shared.conn.shutdown.outputBuffer.readable =
                shared.conn.outputBuffer.readable := congrArg Pipe.pending pipe
            refine Or.inr ⟨⟨inUserCode, connected, writing⟩, rfl, rfl, rfl, ?_, ?_⟩
            · rw [effect, writing]
              simp
            · rw [buffer, idle]
        | true =>
            refine Or.inl ⟨fun now => ?_, List.prefix_rfl, ?_, fun _ => rfl, fun now => ?_⟩
            · rw [now.2.2] at writing
              cases writing
            · exact taken.symm ▸ List.prefix_rfl
            · rw [effect, writing] at now
              simpa using now
    · have idle : shared.conn.shutdown = shared.conn := if_neg connected
      rw [idle]
      exact ⟨carries.congr rfl rfl (carries.called connected).symm, idle ▸ same,
        Or.inl ⟨fun now => connected now.2.1, .of_conn_eq rfl rfl fun _ => rfl⟩⟩
  · rename_i elsewhere
    exact stepsTo_self carries tracked fun now => elsewhere now.1

theorem advance_stepsTo {shared : ConnectionLoop Thread} (carries : Carries shared)
    (tracked : Tracked shared) {active : List Ready} {outcome : WriteOutcome}
    (accepts : Possible shared (.advance active outcome)) :
    StepsTo shared False (shared.advance active outcome) := by
  unfold ConnectionLoop.advance
  split
  · split
    · rename_i message called
      have waits : some message ∈ shared.loop.waiting := by
        rw [← shared.loop.waiting_advance active, called]
        simp
      have short := tracked.short message (mem_accepted.mpr (Or.inr waits))
      have moved : Carries { shared with loop := shared.loop.advance active } :=
        carries.congr rfl rfl rfl
      obtain ⟨conn, sent, good, taken, shut⟩ :=
        sendInLoop_carries moved message short (accepts message (by simp [called]))
      refine ⟨_, sent, good, tracked.congr (accepted_called called conn) rfl rfl rfl,
        Or.inl ⟨id, List.prefix_append _ _, taken, fun _ => rfl, fun now => shut ▸ now⟩⟩
    · rename_i other
      exact ⟨_, rfl, carries.congr rfl rfl rfl,
        tracked.congr (accepted_advance other) rfl rfl rfl,
        Or.inl ⟨id, .of_conn_eq rfl rfl fun _ => rfl⟩⟩
  · exact stepsTo_self carries tracked id

/-- A call of `send` after `shutdown` only takes a number. -/
theorem refused_stepsTo {shared : ConnectionLoop Thread} (carries : Carries shared)
    (tracked : Tracked shared) (down : shared.conn.state ≠ .kConnected) (message : Message) :
    StepsTo shared False
      (.ok ({ shared with numbered := shared.numbered + 1 }.returned message)) := by
  have called := carries.called down
  have promised : ({ shared with numbered := shared.numbered + 1 }.returned message).promised =
      shared.promised := if_pos called
  exact ⟨_, rfl, carries.congr rfl rfl rfl,
    tracked.weaken rfl promised (Nat.le_succ _) fun _ => Or.inl rfl,
    Or.inl ⟨id, .of_conn_eq rfl rfl fun _ => promised⟩⟩

theorem sendHere_stepsTo {shared : ConnectionLoop Thread} (carries : Carries shared)
    (tracked : Tracked shared) {buf : List Byte} {outcome : WriteOutcome}
    (fits : shared.conn.state = .kConnected → buf.length < 2 ^ 31)
    (accepts : Accepts buf.length outcome) :
    StepsTo shared False (shared.sendHere buf outcome) := by
  unfold ConnectionLoop.sendHere
  split
  · dsimp only
    split
    · rename_i up
      have short := fits up
      let message : Message := ⟨shared.numbered, buf⟩
      have counted : Carries { shared with numbered := shared.numbered + 1 } :=
        carries.congr rfl rfl rfl
      obtain ⟨conn, sent, good, taken, shut⟩ := sendInLoop_carries counted message short accepts
      obtain ⟨newAccepted, newChecked⟩ := tracked.new
      let handed : ConnectionLoop Thread := { shared with
        conn := conn
        numbered := shared.numbered + 1
        handed := shared.handed ++ [message] }
      have inserted : Tracked handed := by
        refine tracked.insert message ?_ rfl (Nat.le_succ _) (Nat.lt_succ_self _) short newAccepted
          (fun _ _ inside => Or.inr inside)
          fun thread other inside => ⟨inside, newChecked thread other inside⟩
        simp only [accepted, handed, List.append_assoc, List.singleton_append]
        exact List.perm_middle
      refine ⟨handed.returned message, ?_, good.congr rfl rfl rfl, inserted.returned ?_,
        Or.inl ⟨id, List.prefix_append _ _, taken, fun called => if_pos called,
          fun now => shut ▸ now⟩⟩
      · exact bind_eq_ok.mpr ⟨handed, sent, rfl⟩
      · exact mem_accepted.mpr (Or.inl (by simp [handed]))
    · rename_i down
      exact refused_stepsTo carries tracked down _
  · exact stepsTo_self carries tracked id

variable [DecidableEq Thread]

/-- A thread has found the connection connected, and its message has a new number. -/
theorem Tracked.check {shared : ConnectionLoop Thread} (tracked : Tracked shared) (thread : Thread)
    {buf : List Byte} (short : buf.length < 2 ^ 31) :
    Tracked ({ shared with numbered := shared.numbered + 1 }.setSend thread
      (.checked ⟨shared.numbered, buf⟩)) := by
  obtain ⟨newAccepted, newChecked⟩ := tracked.new
  have places : ∀ {other message}, ({ shared with numbered := shared.numbered + 1 }.setSend thread
      (.checked ⟨shared.numbered, buf⟩)).sends other = .checked message →
        (other = thread ∧ message = ⟨shared.numbered, buf⟩) ∨
          shared.sends other = .checked message := by
    intro other message inside
    simp only [setSend] at inside
    split at inside
    · rename_i here
      exact Or.inl ⟨here, (SendPc.checked.inj inside).symm⟩
    · exact Or.inr inside
  refine ⟨tracked.promised, fun other message inside => ?_, tracked.short, tracked.distinct,
    fun message member => Nat.lt_succ_of_lt (tracked.numbered message member),
    fun other message inside => ?_, fun first second message otherMessage inside otherInside same =>
      ?_⟩
  · simp only [setSend] at inside
    split at inside
    · cases inside
    · exact tracked.queueing other message inside
  · rcases places inside with ⟨_, rfl⟩ | before
    · exact ⟨short, Nat.lt_succ_self _, newAccepted⟩
    · obtain ⟨otherShort, small, new⟩ := tracked.checked other message before
      exact ⟨otherShort, Nat.lt_succ_of_lt small, new⟩
  · rcases places inside with ⟨rfl, rfl⟩ | before
    · rcases places otherInside with ⟨rfl, _⟩ | otherBefore
      · rfl
      · exact absurd same.symm (newChecked second otherMessage otherBefore)
    · rcases places otherInside with ⟨_, rfl⟩ | otherBefore
      · exact absurd same (newChecked first message before)
      · exact tracked.apart first second message otherMessage before otherBefore same

theorem send_stepsTo {shared : ConnectionLoop Thread} (carries : Carries shared)
    (tracked : Tracked shared) (thread : Thread) {buf : List Byte}
    (fits : shared.conn.state = .kConnected → buf.length < 2 ^ 31) :
    StepsTo shared False (.ok (shared.send thread buf)) := by
  unfold ConnectionLoop.send
  split
  · dsimp only
    split
    · rename_i up
      exact ⟨_, rfl, carries.congr rfl rfl rfl, tracked.check thread (fits up),
        Or.inl ⟨id, .of_conn_eq rfl rfl fun _ => rfl⟩⟩
    · rename_i down
      exact refused_stepsTo carries tracked down _
  · exact stepsTo_self carries tracked id

theorem proceed_stepsTo {shared : ConnectionLoop Thread} (carries : Carries shared)
    (tracked : Tracked shared) (thread : Thread) :
    StepsTo shared False (.ok (shared.proceed thread)) := by
  unfold ConnectionLoop.proceed
  split
  · exact stepsTo_self carries tracked id
  · rename_i message here
    obtain ⟨short, small, new⟩ := tracked.checked thread message here
    refine ⟨_, rfl, carries.congr rfl rfl rfl, ?_, Or.inl ⟨id, .of_conn_eq rfl rfl fun _ => rfl⟩⟩
    refine tracked.insert message ?_ rfl (Nat.le_refl _) small short new
      (fun other later inside => ?_) fun other later inside => ?_
    · simp only [accepted, setSend, EventLoop.waiting_queueInLoop, List.filterMap_append]
      rw [← List.append_assoc]
      exact List.perm_append_singleton message _
    · simp only [setSend] at inside
      split at inside
      · exact Or.inl (SendPc.queueing.inj inside).symm
      · exact Or.inr inside
    · simp only [setSend] at inside
      split at inside
      · cases inside
      · rename_i elsewhere
        exact ⟨inside, fun same => elsewhere
          (tracked.apart other thread later message inside here same)⟩
  · rename_i message here
    have there := tracked.queueing thread message here
    have accepts : accepted { shared with loop := shared.loop.proceed (some thread) } =
        accepted shared := by
      simp only [accepted, EventLoop.waiting_proceed]
    dsimp only
    split
    · let left := { shared with loop := shared.loop.proceed (some thread) }.setSend thread .idle
      have leftAccepts : accepted left = accepted shared := accepts
      have leftTracked : Tracked left := by
        refine tracked.weaken leftAccepts rfl (Nat.le_refl _) fun other => ?_
        simp only [left, setSend]
        split
        · exact Or.inr rfl
        · exact Or.inl rfl
      exact ⟨left.returned message, rfl, carries.congr rfl rfl rfl,
        leftTracked.returned (leftAccepts ▸ there),
        Or.inl ⟨id, .of_conn_eq rfl rfl fun called => if_pos called⟩⟩
    · exact ⟨_, rfl, carries.congr rfl rfl rfl, tracked.congr accepts rfl rfl rfl,
        Or.inl ⟨id, .of_conn_eq rfl rfl fun _ => rfl⟩⟩

theorem queueOther_stepsTo {shared : ConnectionLoop Thread} (carries : Carries shared)
    (tracked : Tracked shared) (caller : Option Thread) :
    StepsTo shared False (.ok (shared.queueOther caller)) := by
  unfold ConnectionLoop.queueOther
  split
  · refine ⟨_, rfl, carries.congr rfl rfl rfl, tracked.congr ?_ rfl rfl rfl,
      Or.inl ⟨id, .of_conn_eq rfl rfl fun _ => rfl⟩⟩
    simp [accepted, EventLoop.waiting_queueInLoop]
  · exact stepsTo_self carries tracked id

theorem proceedOther_stepsTo {shared : ConnectionLoop Thread} (carries : Carries shared)
    (tracked : Tracked shared) (caller : Option Thread) :
    StepsTo shared False (.ok (shared.proceedOther caller)) := by
  unfold ConnectionLoop.proceedOther
  split
  · refine ⟨_, rfl, carries.congr rfl rfl rfl, tracked.congr ?_ rfl rfl rfl,
      Or.inl ⟨id, .of_conn_eq rfl rfl fun _ => rfl⟩⟩
    simp [accepted, EventLoop.waiting_proceed]
  · exact stepsTo_self carries tracked id

/-- Every possible step with a short message goes through. -/
theorem step_stepsTo {shared : ConnectionLoop Thread} (carries : Carries shared)
    (tracked : Tracked shared) {call : ConnectionCall Thread} (possible : Possible shared call)
    (short : Short shared call) : StepsTo shared (ShutsNow shared call) (shared.step call) := by
  cases call with
  | advance active outcome => exact advance_stepsTo carries tracked possible
  | handleWrite outcome => exact handleWrite_stepsTo carries tracked outcome
  | sendHere buf outcome => exact sendHere_stepsTo carries tracked short possible
  | shutdown => exact shutdown_stepsTo carries tracked
  | send thread buf => exact send_stepsTo carries tracked thread short
  | proceed thread => exact proceed_stepsTo carries tracked thread
  | queueOther caller => exact queueOther_stepsTo carries tracked caller
  | proceedOther caller => exact proceedOther_stepsTo carries tracked caller

/-! ### Runs -/

/-- What every run keeps. -/
def Kept (shared : ConnectionLoop Thread) : Prop := Carries shared ∧ Tracked shared

omit [DecidableEq Thread] in
/-- A connection that has just been established. -/
theorem kept_established {fd : Fd} {poller : EPollPoller}
    (fresh : poller.interest.find? fd = none) {writeCompleteCallback hightWaterMarkCallback : Bool}
    {hightWaterMark : Nat} {start : ConnectionLoop Thread}
    (made : established fd poller writeCompleteCallback hightWaterMarkCallback hightWaterMark =
      .ok start) : Kept start ∧ WrittenBeforeShut start := by
  have faithful := faithful_new fresh writeCompleteCallback hightWaterMarkCallback hightWaterMark
  obtain ⟨poller', index', updated, _⟩ := update_ok
    { TcpConnection.new fd poller writeCompleteCallback hightWaterMarkCallback hightWaterMark with
      state := .kConnected }
    faithful.1.watched (Channel.new fd).enableReading.events
  obtain ⟨conn, connected, good⟩ := faithful_step [] _ .connectEstablished faithful rfl
  obtain rfl := Except.ok.inj (updated.symm.trans connected)
  obtain ⟨_, established, startEq⟩ := bind_eq_ok.mp made
  obtain rfl := Except.ok.inj (connected.symm.trans established)
  obtain rfl := Except.ok.inj startEq
  refine ⟨⟨⟨good.1, rfl, fun shut => ?_, good.2 (by simp)⟩, ?_⟩, fun shut => ?_⟩
  · cases shut
  · -- Nothing has been sent yet.
    constructor <;> simp [accepted, EventLoop.waiting, EventLoop.new, LoopPc.batch]
  · cases shut

/-- A step writes everything in time exactly if nothing waits when it shuts the write side. -/
theorem nothingWaits_iff {shared next : ConnectionLoop Thread} {call : ConnectionCall Thread}
    (kept : Kept shared) (written : WrittenBeforeShut shared)
    (inside : Possible shared call ∧ Short shared call) (made : shared.step call = .ok next) :
    NothingWaits shared call ↔ WrittenBeforeShut next := by
  obtain ⟨other, otherMade, carries, _, still | shuts⟩ :=
    step_stepsTo kept.1 kept.2 inside.1 inside.2
  · obtain rfl := Except.ok.inj (made.symm.trans otherMade)
    exact iff_of_true (fun now => absurd now still.1) (written.grow kept.1 still.2)
  · obtain rfl := Except.ok.inj (made.symm.trans otherMade)
    rw [shuts.2.writtenBeforeShut_iff carries kept.2]
    exact ⟨fun nothing => nothing shuts.1, fun nothing _ => nothing⟩

/-- For every interleaving in which no write fails: if the lengths of the messages that find the
connection connected fit into an `int`, and none of the messages whose `send` had returned before
`shutdown` was called waits in the queue of the loop when the write side is shut, then all of them
have been written by then.  Among the interleavings with such messages this is exactly when they
have. -/
theorem half_close_after_data {fd : Fd} {poller : EPollPoller}
    (fresh : poller.interest.find? fd = none) {writeCompleteCallback hightWaterMarkCallback : Bool}
    {hightWaterMark : Nat} {start : ConnectionLoop Thread}
    (made : established fd poller writeCompleteCallback hightWaterMarkCallback hightWaterMark =
      .ok start) (calls : List (ConnectionCall Thread))
    (possible : Admissible step Possible start calls) :
    (Admissible step (fun shared call => Short shared call ∧ NothingWaits shared call) start calls →
        Throughout step WrittenBeforeShut start calls) ∧
      (Admissible step Short start calls →
        (Throughout step WrittenBeforeShut start calls ↔
          Admissible step NothingWaits start calls)) := by
  obtain ⟨kept, written⟩ := kept_established fresh made
  have exactly (short : Admissible step Short start calls) :
      Throughout step WrittenBeforeShut start calls ↔ Admissible step NothingWaits start calls := by
    refine throughout_iff_of_kept (fun shared call kept inside => ?_)
      (fun _ _ _ kept written inside made => nothingWaits_iff kept written inside made) kept written
      calls (possible.and short)
    obtain ⟨next, stepped, carries, tracked, _⟩ := step_stepsTo kept.1 kept.2 inside.1 inside.2
    exact ⟨next, stepped, carries, tracked⟩
  refine ⟨fun condition => ?_, exactly⟩
  exact (exactly (condition.imp fun _ _ both => both.1)).mpr
    (condition.imp fun _ _ both => both.2)

/-- The loop runs into a handler, where another thread sends three bytes. -/
def queued : List (ConnectionCall Unit) :=
  [.advance [] (.accepted 0), .advance [] (.accepted 0), .advance [] (.accepted 0),
    .advance [.other] (.accepted 0), .send () [1, 2, 3], .proceed (), .proceed (), .proceed ()]

/-- The loop goes on to the functors, where the socket takes one of the bytes, and comes round to
the next handler, which shuts down.  Then the socket takes the other bytes. -/
def drained : List (ConnectionCall Unit) :=
  queued ++ [.advance [] (.accepted 0), .advance [] (.accepted 0), .advance [] (.accepted 0),
    .advance [] (.accepted 1), .advance [] (.accepted 0), .advance [] (.accepted 0),
    .advance [] (.accepted 0), .advance [.other] (.accepted 0), .shutdown,
    .handleWrite (.accepted 2)]

/-- The write side is shut after the three bytes. -/
theorem half_close_after_data_drained :
    ∃ start, established 3 ⟨PMap.empty⟩ true false 65536 = .ok start ∧
      Throughout step WrittenBeforeShut start drained := by
  have fresh : (⟨PMap.empty⟩ : EPollPoller).interest.find? 3 = none := rfl
  refine ⟨_, rfl, (half_close_after_data fresh rfl drained ?_).1 ?_⟩
  · decide +kernel
  · decide +kernel

/-- The handler shuts down while the message still waits in the queue of the loop. -/
theorem not_after_data_queued :
    ∃ start, established 3 ⟨PMap.empty⟩ true false 65536 = .ok start ∧
      Admissible step Possible start (queued ++ [.shutdown]) ∧
      ¬ Throughout step WrittenBeforeShut start (queued ++ [.shutdown]) := by
  have early : ∀ start, established 3 ⟨PMap.empty⟩ true false 65536 = .ok start →
      (run step start (queued ++ [.shutdown])).toOption.map
        (fun shared => (shared.conn.socket.writeShut, shared.promised, shared.handed)) =
          some (true, [⟨0, [1, 2, 3]⟩], []) := by
    intro start made
    cases made
    decide +kernel
  refine ⟨_, rfl, by decide +kernel, fun good => ?_⟩
  refine not_always_of_view (early _ rfl) (fun last seen written => ?_) good.always
  simp only [Prod.mk.injEq] at seen
  obtain ⟨shut, promised, handed⟩ := seen
  rcases written shut ⟨0, [1, 2, 3]⟩ (by simp [promised]) with nothing | ⟨_, _, handedEq, _⟩
  · cases nothing
  · simp [handed] at handedEq

end GomukuServer.Proofs.HalfClose
