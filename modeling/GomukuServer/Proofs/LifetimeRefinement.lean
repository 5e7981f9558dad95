/-
Module: GomukuServer.Proofs.LifetimeRefinement
Layer: Proofs
Purpose: `ConnectionLifetime` is about the connections of the other models.  What an operation of
  `TcpConnection` does to the state, to the channel and to the functors of the loop is what the
  operation of the same name does there, and every run of a connection, its loop and the threads
  that send on it is a run of its lifetime.
Trusted boundary: `epoll_wait` reports a channel only while it is in the interest list
Main exports: Reflects, Follows, Stands, Reported, EndsAlike, traffic_refines
-/
import GomukuServer.MyMuduo.ConnectionEvents
import GomukuServer.MyMuduo.ConnectionLoop
import GomukuServer.Proofs.ConnectionTeardown

namespace GomukuServer.Proofs.LifetimeRefinement

open Base Base.Runs MyMuduo
open MyMuduo.TcpConnection (toInt toSize)
open ConnectionTeardown (useCount_pos_of_inTables used_of_pos)

/-! ### The operations of a connection -/

/-- The functor of the loop that a callback is. -/
def taskOf : Functor → LoopTask
  | .writeCompleteCallback => .writeCompleteCallback
  | .hightWaterMarkCallback _ => .hightWaterMarkCallback

/-- The lifetime has the state of the connection and knows where its channel is.  A connection that
is up reads, and no other one asks for events. -/
structure Reflects (conn : TcpConnection) (lifetime : ConnectionLifetime) : Prop where
  state : lifetime.state = conn.state
  inPoller : lifetime.inPoller = true ↔ conn.channel.index ≠ .kNew
  watched : lifetime.watched = true ↔ conn.channel.index = .kAdded
  asks : conn.channel.events ≠ 0 → conn.channel.index = .kAdded
  reads : conn.state = .kConnected ∨ conn.state = .kDisconnecting →
    conn.channel.events &&& kReadEvent ≠ 0
  silent : conn.state = .kConnecting ∨ conn.state = .kDisconnected → conn.channel.events = 0

/-- The lifetime goes along with the connection: it reflects what that has become, and has queued
the same callbacks and nothing else. -/
structure Follows (conn next : TcpConnection) (lifetime after : ConnectionLifetime) : Prop where
  reflects : Reflects next after
  queued : ∃ functors, next.pendingFunctors = conn.pendingFunctors ++ functors ∧
    after = { lifetime with
      state := after.state
      inPoller := after.inPoller
      watched := after.watched
      pendingFunctors := lifetime.pendingFunctors ++ functors.map taskOf }

variable {conn next : TcpConnection} {lifetime : ConnectionLifetime}

/-- Where `Channel::update` leaves the channel. -/
theorem channel_of_update {channel : Channel} (updated : conn.update channel = .ok next) :
    ∃ poller index,
      next = { conn with poller := poller, channel := { channel with index := index } } ∧
      index = if channel.index = .kAdded ∧ channel.events = 0 then .kDeleted else .kAdded := by
  obtain ⟨⟨poller, after⟩, called, built⟩ := bind_eq_ok.mp updated
  obtain rfl := Except.ok.inj built
  suffices same : after = { channel with
      index := if channel.index = .kAdded ∧ channel.events = 0 then .kDeleted else .kAdded } from
    ⟨poller, _, by rw [same], rfl⟩
  unfold EPollPoller.updateChannel at called
  cases indexEq : channel.index with
  | kAdded =>
      simp only [indexEq] at called
      by_cases none : channel.events = 0
      · rw [if_pos (by simp [Channel.isNoneEvent, none, kNoneEvent])] at called
        obtain ⟨_, _, built⟩ := bind_eq_ok.mp called
        obtain ⟨-, rfl⟩ := Prod.mk.inj (Except.ok.inj built)
        simp [none]
      · rw [if_neg (by simpa [Channel.isNoneEvent, kNoneEvent] using none)] at called
        obtain ⟨_, _, built⟩ := bind_eq_ok.mp called
        obtain ⟨-, rfl⟩ := Prod.mk.inj (Except.ok.inj built)
        rw [if_neg fun both => none both.2, ← indexEq]
  | kNew | kDeleted =>
      simp only [indexEq] at called
      obtain ⟨_, _, built⟩ := bind_eq_ok.mp called
      obtain ⟨-, rfl⟩ := Prod.mk.inj (Except.ok.inj built)
      simp

namespace Reflects

/-- Only the state and the channel matter. -/
theorem congr (reflects : Reflects conn lifetime) (state : next.state = conn.state)
    (channel : next.channel = conn.channel) : Reflects next lifetime := by
  obtain ⟨stateEq, inPoller, watched, asks, reads, silent⟩ := reflects
  constructor <;> simp only [state, channel] <;> assumption

/-- Of the lifetime, only these. -/
theorem congr_lifetime (reflects : Reflects conn lifetime) {after : ConnectionLifetime}
    (state : after.state = lifetime.state) (inPoller : after.inPoller = lifetime.inPoller)
    (watched : after.watched = lifetime.watched) : Reflects conn after where
  state := state.trans reflects.state
  inPoller := inPoller ▸ reflects.inPoller
  watched := watched ▸ reflects.watched
  asks := reflects.asks
  reads := reflects.reads
  silent := reflects.silent

/-- A channel that asks for something is known to the poller and to the kernel. -/
theorem enable_of_asks (reflects : Reflects conn lifetime) (asks : conn.channel.events ≠ 0) :
    lifetime.enable = lifetime := by
  have added := reflects.asks asks
  have inPoller := reflects.inPoller.mpr (by simp [added])
  have watched := reflects.watched.mpr added
  cases lifetime
  simp_all [ConnectionLifetime.enable]

theorem asks_of_isWriting (writing : conn.channel.isWriting = true) :
    conn.channel.events ≠ 0 := by
  rintro none
  simp [Channel.isWriting, none] at writing

/-- A channel that asks for readability, at least, is registered. -/
theorem of_update {events : Events}
    (updated : conn.update { conn.channel with events := events } = .ok next)
    (state : lifetime.state = conn.state)
    (up : conn.state = .kConnected ∨ conn.state = .kDisconnecting)
    (reads : events &&& kReadEvent ≠ 0) : Reflects next lifetime.enable := by
  have some : events ≠ 0 := by
    rintro rfl
    simp at reads
  obtain ⟨poller, index, rfl, added⟩ := channel_of_update updated
  obtain rfl : index = .kAdded := added.trans (if_neg fun both => some both.2)
  exact {
    state := state
    inPoller := by simp [ConnectionLifetime.enable]
    watched := by simp [ConnectionLifetime.enable]
    asks := fun _ => rfl
    reads := fun _ => reads
    silent := fun down => by rcases up with up | up <;> simp [up] at down }

end Reflects

/-- A mask that asks for readability still does when writability is asked for, or no more. -/
theorem reads_or_write {events : Events} (reads : events &&& kReadEvent ≠ 0) :
    (events ||| kWriteEvent) &&& kReadEvent ≠ 0 := by
  have apart : kReadEvent &&& kWriteEvent = 0#32 := by decide
  rw [BitVec.and_comm, BitVec.and_or_distrib_left, apart, BitVec.or_zero, BitVec.and_comm]
  exact reads

theorem reads_and_not_write {events : Events} (reads : events &&& kReadEvent ≠ 0) :
    (events &&& ~~~kWriteEvent) &&& kReadEvent ≠ 0 := by
  have apart : ~~~kWriteEvent &&& kReadEvent = kReadEvent := by decide
  rwa [BitVec.and_assoc, apart]

/-- What is queued if the callback is set. -/
theorem pendingFunctors_queueInLoop (conn : TcpConnection) (present : Bool) (functor : Functor) :
    (conn.queueInLoop present functor).pendingFunctors =
      conn.pendingFunctors ++ if present then [functor] else [] := by
  unfold TcpConnection.queueInLoop
  cases present <;> simp

namespace Follows

/-- Nothing has happened that matters. -/
theorem of_same (reflects : Reflects conn lifetime) (state : next.state = conn.state)
    (channel : next.channel = conn.channel)
    (pendingFunctors : next.pendingFunctors = conn.pendingFunctors) :
    Follows conn next lifetime lifetime :=
  ⟨reflects.congr state channel, [], by simp [pendingFunctors], by simp⟩

/-- It does not matter what else the connection was before. -/
theorem congr {middle : TcpConnection} {after : ConnectionLifetime}
    (follows : Follows middle next lifetime after)
    (pendingFunctors : middle.pendingFunctors = conn.pendingFunctors) :
    Follows conn next lifetime after :=
  ⟨follows.reflects, pendingFunctors ▸ follows.queued⟩

/-- A callback is queued, if it is set. -/
theorem of_queued (reflects : Reflects conn lifetime) (present : Bool) (functor : Functor) :
    Follows conn (conn.queueInLoop present functor) lifetime
      (if present then lifetime.queueInLoop (taskOf functor) else lifetime) := by
  refine ⟨?_, _, pendingFunctors_queueInLoop .., ?_⟩
  · have same : Reflects (conn.queueInLoop present functor) lifetime :=
      reflects.congr (by simp) (by simp)
    split
    · exact same.congr_lifetime rfl rfl rfl
    · exact same
  · cases present <;> simp [ConnectionLifetime.queueInLoop]

end Follows

/-- What is left of a message waits, and the buffer may pass its mark. -/
theorem bufferRemaining_follows (reflects : Reflects conn lifetime)
    (up : conn.state = .kConnected ∨ conn.state = .kDisconnecting) {data : List Byte}
    {nwrote remaining : Nat} (called : conn.bufferRemaining data nwrote remaining = .ok next) :
    ∃ written, Follows conn next lifetime (lifetime.sendInLoop written) := by
  unfold TcpConnection.bufferRemaining at called
  split at called
  · obtain rfl := Except.ok.inj called
    refine ⟨.nothing, ?_⟩
    simpa [ConnectionLifetime.sendInLoop] using Follows.of_same reflects rfl rfl rfl
  split at called
  · cases called
  dsimp only at called
  generalize (conn.hightWaterMark ≤ conn.outputBuffer.readableBytes + remaining &&
    conn.outputBuffer.readableBytes < conn.hightWaterMark && conn.hightWaterMarkCallback) = present
    at called
  have alive : lifetime.state ≠ .kDisconnected := by
    rw [reflects.state]
    rcases up with up | up <;> simp [up]
  -- whichever way the channel comes to ask for writability
  have registered : Reflects next lifetime.enable ∧ next.pendingFunctors =
      conn.pendingFunctors ++ if present then
        [.hightWaterMarkCallback (conn.outputBuffer.readableBytes + remaining)] else [] := by
    split at called
    · rename_i writing
      obtain rfl := Except.ok.inj called
      simp only [TcpConnection.channel_queueInLoop] at writing
      refine ⟨?_, pendingFunctors_queueInLoop ..⟩
      rw [reflects.enable_of_asks (Reflects.asks_of_isWriting writing)]
      exact reflects.congr (by simp) (by simp)
    · refine ⟨Reflects.of_update called (by simpa using reflects.state) (by simpa using up) ?_, ?_⟩
      · simpa [Channel.enableWriting] using reads_or_write (reflects.reads up)
      · obtain ⟨_, _, rfl, _⟩ := channel_of_update called
        exact pendingFunctors_queueInLoop ..
  cases present with
  | false =>
      refine ⟨.waits, ?_, [], by simpa using registered.2, ?_⟩
      · simpa [ConnectionLifetime.sendInLoop, alive] using registered.1
      · simp [ConnectionLifetime.sendInLoop, alive, ConnectionLifetime.enable]
  | true =>
      refine ⟨.passesMark, ?_, _, by simpa using registered.2, ?_⟩
      · simp only [ConnectionLifetime.sendInLoop, if_neg alive]
        exact registered.1.congr_lifetime rfl rfl rfl
      · simp [ConnectionLifetime.sendInLoop, alive, ConnectionLifetime.enable,
          ConnectionLifetime.queueInLoop, taskOf]

/-- A message is written, or waits. -/
theorem sendInLoop_follows (reflects : Reflects conn lifetime) (begun : conn.state ≠ .kConnecting)
    {buf : List Byte} {outcome : WriteOutcome} (called : conn.sendInLoop buf outcome = .ok next) :
    ∃ written, Follows conn next lifetime (lifetime.sendInLoop written) := by
  have idle : lifetime.sendInLoop .nothing = lifetime := by simp [ConnectionLifetime.sendInLoop]
  unfold TcpConnection.sendInLoop at called
  dsimp only at called
  split at called
  · obtain rfl := Except.ok.inj called
    exact ⟨.nothing, by rw [idle]; exact .of_same reflects rfl rfl rfl⟩
  rename_i alive
  have up : conn.state = .kConnected ∨ conn.state = .kDisconnecting := by
    cases stateEq : conn.state <;> simp_all
  split at called
  · split at called
    · cases called
    have wrote : Reflects { conn with socket := conn.socket.write buf outcome } lifetime :=
      reflects.congr rfl rfl
    split at called
    · rename_i nwrote
      generalize toSize (toInt buf.length - nwrote) = remaining at called
      by_cases all : remaining = 0
      · -- the socket has taken the whole message
        subst all
        rw [beq_self_eq_true, Bool.true_and, TcpConnection.bufferRemaining, if_pos rfl] at called
        obtain rfl := Except.ok.inj called
        have queued := Follows.of_queued wrote conn.writeCompleteCallback .writeCompleteCallback
        have follows : Follows conn _ lifetime _ := queued.congr rfl
        cases present : conn.writeCompleteCallback with
        | false =>
            simp only [present] at follows
            exact ⟨.nothing, by rw [idle]; exact follows⟩
        | true =>
            simp only [present] at follows
            refine ⟨.complete, ?_⟩
            rwa [ConnectionLifetime.sendInLoop, reflects.state, if_neg alive]
      · have partly : (remaining == 0) = false := by simpa using all
        rw [partly, Bool.false_and] at called
        obtain ⟨written, follows⟩ := bufferRemaining_follows wrote up called
        exact ⟨written, follows.congr rfl⟩
    · split at called
      · obtain rfl := Except.ok.inj called
        exact ⟨.nothing, by rw [idle]; exact .of_same reflects rfl rfl rfl⟩
      · obtain ⟨written, follows⟩ := bufferRemaining_follows wrote up called
        exact ⟨written, follows.congr rfl⟩
  · exact bufferRemaining_follows reflects up called

/-- Writing what waits. -/
theorem handleWrite_follows (reflects : Reflects conn lifetime) {outcome : WriteOutcome}
    (called : conn.handleWrite outcome = .ok next) :
    ∃ written, Follows conn next lifetime (lifetime.handleWrite written) := by
  have idle : lifetime.handleWrite .nothing = lifetime := by
    simp [ConnectionLifetime.handleWrite]
  unfold TcpConnection.handleWrite at called
  split at called
  · rename_i writing
    have asks := Reflects.asks_of_isWriting writing
    have up : conn.state = .kConnected ∨ conn.state = .kDisconnecting := by
      have speaks : ¬ (conn.state = .kConnecting ∨ conn.state = .kDisconnected) :=
        fun silent => asks (reflects.silent silent)
      cases stateEq : conn.state <;> simp_all
    dsimp only at called
    split at called
    · split at called
      · obtain rfl := Except.ok.inj called
        exact ⟨.nothing, by rw [idle]; exact .of_same reflects rfl rfl rfl⟩
      split at called
      · obtain ⟨silent, updated, built⟩ := bind_eq_ok.mp called
        -- the channel still asks for readability, so it stays in the interest list
        have still : Reflects silent lifetime := by
          rw [← reflects.enable_of_asks asks]
          exact Reflects.of_update updated reflects.state up
            (by simpa [Channel.disableWriting] using reads_and_not_write (reflects.reads up))
        have same : silent.pendingFunctors = conn.pendingFunctors := by
          obtain ⟨_, _, rfl, _⟩ := channel_of_update updated
          rfl
        have follows := (Follows.of_queued still silent.writeCompleteCallback
          .writeCompleteCallback).congr same
        have ended : Follows conn next lifetime (if silent.writeCompleteCallback then
            lifetime.queueInLoop .writeCompleteCallback else lifetime) := by
          obtain rfl := Except.ok.inj built
          split
          · unfold TcpConnection.shutdownInLoop
            split
            · exact follows
            · exact ⟨follows.reflects.congr rfl rfl, follows.queued⟩
          · exact follows
        cases present : silent.writeCompleteCallback with
        | false =>
            rw [present] at ended
            exact ⟨.nothing, by rw [idle]; exact ended⟩
        | true =>
            rw [present] at ended
            refine ⟨.complete, ?_⟩
            rwa [ConnectionLifetime.handleWrite,
              if_pos ⟨reflects.watched.mpr (reflects.asks asks), rfl⟩]
      · obtain rfl := Except.ok.inj called
        exact ⟨.nothing, by rw [idle]; exact .of_same reflects rfl rfl rfl⟩
    · obtain rfl := Except.ok.inj called
      exact ⟨.nothing, by rw [idle]; exact .of_same reflects rfl rfl rfl⟩
  · obtain rfl := Except.ok.inj called
    exact ⟨.nothing, by rw [idle]; exact .of_same reflects rfl rfl rfl⟩

/-- Shutting the write side down. -/
theorem shutdown_follows (reflects : Reflects conn lifetime) :
    Follows conn conn.shutdown lifetime lifetime.shutdown := by
  unfold TcpConnection.shutdown ConnectionLifetime.shutdown
  rw [reflects.state]
  split
  · rename_i connected
    have ending : Reflects { conn with state := .kDisconnecting }
        { lifetime with state := .kDisconnecting } :=
      { reflects with
        state := rfl
        reads := fun _ => reflects.reads (.inl connected)
        silent := fun down => by simp at down }
    refine ⟨?_, [], ?_, by simp⟩
    · unfold TcpConnection.shutdownInLoop
      split
      · exact ending
      · exact ending.congr rfl rfl
    · unfold TcpConnection.shutdownInLoop
      split <;> simp
  · exact .of_same reflects rfl rfl rfl

/-- A channel that has been in the poller asks for nothing more.  If it did so already it is added
again. -/
theorem disableAll_follows (reflects : Reflects conn lifetime) (known : lifetime.inPoller = true)
    (updated : { conn with state := .kDisconnected }.update conn.channel.disableAll = .ok next) :
    Follows conn next lifetime
      { lifetime with state := .kDisconnected, watched := !lifetime.watched } := by
  obtain ⟨poller, index, rfl, indexEq⟩ := channel_of_update updated
  have toggled : index = if conn.channel.index = .kAdded then .kDeleted else .kAdded := by
    simpa [Channel.disableAll, kNoneEvent] using indexEq
  have flipped : (!lifetime.watched) = true ↔ index = .kAdded := by
    rw [Bool.not_eq_true', Bool.eq_false_iff, ne_eq, reflects.watched, toggled]
    by_cases added : conn.channel.index = .kAdded <;> simp [added]
  have still : index ≠ .kNew := by
    rw [toggled]
    split <;> decide
  refine ⟨?_, [], by simp, by simp⟩
  exact {
    state := rfl
    inPoller := iff_of_true known still
    watched := flipped
    asks := fun asks => absurd rfl asks
    reads := fun up => by simp at up
    silent := fun _ => rfl }

/-- The functor that establishes the connection. -/
theorem connectEstablished_follows (lifetime : ConnectionLifetime)
    (called : conn.connectEstablished = .ok next) :
    ∃ after, lifetime.perform .nothing .connectEstablished = .ok after ∧
      Follows conn next lifetime after := by
  have reads : (conn.channel.events ||| kReadEvent) &&& kReadEvent ≠ 0 := by
    rw [BitVec.and_comm, BitVec.and_or_distrib_left, BitVec.and_self]
    intro none
    have bit := congrArg (·.getLsbD 0) none
    simp [kReadEvent, EPOLLIN, EPOLLPRI] at bit
  refine ⟨_, rfl, ?_, [], ?_, by simp [ConnectionLifetime.enable]⟩
  · exact @Reflects.of_update { conn with state := .kConnected } next
      { lifetime with state := .kConnected } _ called rfl (.inl rfl) reads
  · obtain ⟨_, _, rfl, _⟩ := channel_of_update called
    simp

/-- The functor that destroys it, if it is not just shutting down.  The timer is cancelled, too. -/
theorem connectDestroyed_follows {life gone : Life} (reflects : Reflects life.conn lifetime)
    (settled : life.conn.state ≠ .kDisconnecting) (called : life.connectDestroyed = .ok gone) :
    ∃ after, lifetime.perform .nothing .connectDestroyed = .ok after ∧
      Follows life.conn gone.conn { lifetime with armed := false } after := by
  obtain ⟨down, disconnected, removed⟩ := bind_eq_ok.mp called
  -- a connection that was up is disconnected first
  have quiet : down.conn.channel.events = 0 ∧
      down.conn.pendingFunctors = life.conn.pendingFunctors ∧
      down.conn.state = if life.conn.state = .kConnected then .kDisconnected else
        life.conn.state := by
    unfold Life.disconnect at disconnected
    split at disconnected
    · rename_i connected
      obtain ⟨conn, updated, built⟩ := bind_eq_ok.mp disconnected
      obtain rfl := Except.ok.inj built
      obtain ⟨_, _, rfl, _⟩ := channel_of_update updated
      exact ⟨rfl, rfl, (if_pos connected).symm⟩
    · rename_i off
      obtain rfl := Except.ok.inj disconnected
      refine ⟨reflects.silent ?_, rfl, (if_neg off).symm⟩
      cases stateEq : life.conn.state <;> simp_all
  obtain ⟨⟨poller, channel⟩, erased, built⟩ := bind_eq_ok.mp removed
  obtain rfl : channel = { down.conn.channel with index := .kNew } := by
    unfold EPollPoller.removeChannel at erased
    split at erased
    · obtain ⟨_, _, pair⟩ := bind_eq_ok.mp erased
      exact (Prod.mk.inj (Except.ok.inj pair)).2.symm
    · exact (Prod.mk.inj (Except.ok.inj erased)).2.symm
  obtain rfl := Except.ok.inj built
  obtain ⟨silent, queue, state⟩ := quiet
  refine ⟨_, rfl, ?_⟩
  rw [reflects.state, ← state]
  refine ⟨?_, [], by simpa using queue, by simp⟩
  refine ⟨rfl, by simp, by simp, fun asks => absurd silent asks, fun up => ?_, fun _ => silent⟩
  rw [state] at up
  split at up
  · simp at up
  · rename_i off
    exact absurd (up.resolve_left off) settled

/-! ### The loop and the senders -/

/-- The functors of the lifetime are the sends among those of the loop, and callbacks. -/
structure Among (functors : List (Option Message)) (tasks : List LoopTask) : Prop where
  sends : tasks.count .sendInLoop = functors.countP Option.isSome
  others : ∀ task ∈ tasks, task ≠ .sendInLoop → ∃ functor, task = taskOf functor

/-- The callbacks among the functors. -/
def callbacks (tasks : List LoopTask) : List LoopTask := tasks.filter (· ≠ .sendInLoop)

variable {Thread : Type}

/-- The lifetime stands for the connection in its loop.  The callbacks that wait are the last ones
that the connection has queued; somebody has a pointer to it all the time, and every thread that is
in front of queueing a send has one. -/
structure Stands (shared : ConnectionLoop Thread) (lifetime : ConnectionLifetime) : Prop where
  reflects : Reflects shared.conn lifetime
  begun : lifetime.state ≠ .kConnecting
  known : lifetime.inPoller = true
  inEvent : lifetime.inEvent = true → shared.loop.pc.inHandler = true
  resting : lifetime.batch ≠ [] ∨ lifetime.finished ≠ [] →
    ∃ batch running, shared.loop.pc = .calling batch running
  batch : Among shared.loop.pc.batch lifetime.batch
  pending : Among shared.loop.pendingFunctors lifetime.pendingFunctors
  waiting : callbacks (lifetime.batch ++ lifetime.pendingFunctors) <:+
    shared.conn.pendingFunctors.map taskOf
  senders : ∃ threads : List Thread, threads.Nodup ∧
    (∀ thread, thread ∈ threads ↔ ∃ message, shared.sends thread = .checked message) ∧
    lifetime.senders = .idle :: List.replicate threads.length .inSend

variable {shared after : ConnectionLoop Thread} {lifetime : ConnectionLifetime}

theorem taskOf_ne_sendInLoop (functor : Functor) : taskOf functor ≠ .sendInLoop := by
  cases functor <;> simp [taskOf]

theorem among_nil : Among [] [] := ⟨rfl, by simp⟩

theorem callbacks_map_taskOf (functors : List Functor) :
    callbacks (functors.map taskOf) = functors.map taskOf := by
  simp [callbacks, taskOf_ne_sendInLoop]

theorem callbacks_append (first second : List LoopTask) :
    callbacks (first ++ second) = callbacks first ++ callbacks second := List.filter_append ..

/-- Callbacks do not change how many sends there are. -/
theorem Among.append_callbacks {functors : List (Option Message)} {tasks : List LoopTask}
    (among : Among functors tasks) (queued : List Functor) :
    Among functors (tasks ++ queued.map taskOf) where
  sends := by
    have none : (queued.map taskOf).count .sendInLoop = 0 := by
      simp [List.count_eq_zero, taskOf_ne_sendInLoop]
    rw [List.count_append, none, among.sends, Nat.add_zero]
  others := by
    intro task inside other
    rcases List.mem_append.mp inside with before | new
    · exact among.others task before other
    · obtain ⟨functor, _, rfl⟩ := List.mem_map.mp new
      exact ⟨functor, rfl⟩

/-- The connection and its lifetime have made a step together, and nothing else has changed. -/
theorem Stands.follow (stands : Stands shared lifetime) {conn : TcpConnection}
    {next : ConnectionLifetime} (follows : Follows shared.conn conn lifetime next)
    (begun : next.state ≠ .kConnecting) (known : next.inPoller = true)
    (connEq : after.conn = conn) (loopEq : after.loop = shared.loop)
    (sendsEq : after.sends = shared.sends) : Stands after next := by
  obtain ⟨reflects, functors, queue, same⟩ := follows
  have batch : next.batch = lifetime.batch := (congrArg ConnectionLifetime.batch same :)
  have finished : next.finished = lifetime.finished := (congrArg ConnectionLifetime.finished same :)
  have inEvent : next.inEvent = lifetime.inEvent := (congrArg ConnectionLifetime.inEvent same :)
  have senders : next.senders = lifetime.senders := (congrArg ConnectionLifetime.senders same :)
  have pending : next.pendingFunctors = lifetime.pendingFunctors ++ functors.map taskOf :=
    congrArg ConnectionLifetime.pendingFunctors same
  subst connEq
  constructor
  · exact reflects
  · exact begun
  · exact known
  · rw [inEvent, loopEq]
    exact stands.inEvent
  · rw [batch, finished, loopEq]
    exact stands.resting
  · rw [batch, loopEq]
    exact stands.batch
  · rw [pending, loopEq]
    exact stands.pending.append_callbacks functors
  · obtain ⟨before, split⟩ := stands.waiting
    have more : callbacks (lifetime.batch ++ (lifetime.pendingFunctors ++ functors.map taskOf)) =
        callbacks (lifetime.batch ++ lifetime.pendingFunctors) ++ functors.map taskOf := by
      rw [← List.append_assoc, callbacks_append, callbacks_map_taskOf]
    rw [batch, pending, queue, more, List.map_append, ← split]
    exact ⟨before, List.append_assoc .. |>.symm⟩
  · rw [senders, sendsEq]
    exact stands.senders

/-- The numbers and the records of the messages do not matter. -/
theorem Stands.congr (stands : Stands shared lifetime) (conn : after.conn = shared.conn)
    (loop : after.loop = shared.loop) (sends : after.sends = shared.sends) :
    Stands after lifetime := by
  cases after
  cases conn
  cases loop
  cases sends
  exact { stands with }

/-- The loop has moved, but not on to another functor. -/
theorem Stands.of_loop (stands : Stands shared lifetime)
    {loop : EventLoop Thread (Option Message)} (batch : loop.pc.batch = shared.loop.pc.batch)
    (pending : loop.pendingFunctors = shared.loop.pendingFunctors)
    (inEvent : lifetime.inEvent = true → loop.pc.inHandler = true)
    (resting : lifetime.batch ≠ [] ∨ lifetime.finished ≠ [] →
      ∃ batch running, loop.pc = .calling batch running) :
    Stands { shared with loop := loop } lifetime :=
  { stands with
    inEvent := inEvent
    resting := resting
    batch := batch ▸ stands.batch
    pending := pending ▸ stands.pending }

/-- Somebody has a pointer to the connection. -/
theorem Stands.alive (stands : Stands shared lifetime) : 0 < lifetime.useCount := by
  obtain ⟨threads, _, _, senders⟩ := stands.senders
  simp only [ConnectionLifetime.useCount, senders, List.length_cons]
  omega

theorem Stands.atHand (stands : Stands shared lifetime) : lifetime.AtHand := by
  obtain ⟨threads, _, _, senders⟩ := stands.senders
  exact .inr (by simp [senders])

/-- Only in `doPendingFunctor` are there functors that have been taken out. -/
theorem Stands.not_busy (stands : Stands shared lifetime)
    (outside : ∀ batch running, shared.loop.pc ≠ .calling batch running) :
    ¬ (lifetime.batch ≠ [] ∨ lifetime.finished ≠ []) := by
  intro busy
  obtain ⟨batch, running, calling⟩ := stands.resting busy
  exact outside batch running calling

/-- Only where the loop handles channels can a handler be running. -/
theorem Stands.not_inEvent (stands : Stands shared lifetime)
    (elsewhere : shared.loop.pc.inHandler = false) : lifetime.inEvent = false := by
  by_contra inEvent
  have inside := stands.inEvent (by simpa using inEvent)
  simp [elsewhere] at inside

/-- Outside of `doPendingFunctor` and of its handler, the loop may poll the channel. -/
theorem Stands.polls (stands : Stands shared lifetime)
    (outside : ∀ batch running, shared.loop.pc ≠ .calling batch running)
    (inEvent : lifetime.inEvent = false) : lifetime.Polls := by
  have idle : lifetime.batch = [] ∧ lifetime.finished = [] := by
    simpa [not_or] using stands.not_busy outside
  exact ⟨inEvent, idle⟩

/-- Callbacks are run without further effect. -/
theorem run_callbacks {front rest : List LoopTask}
    (only : ∀ task ∈ front, ∃ functor, task = taskOf functor)
    (head : lifetime.batch = front ++ rest) :
    run ConnectionLifetime.step lifetime (List.replicate front.length (.runFunctor .nothing)) =
      .ok { lifetime with batch := rest, finished := lifetime.finished ++ front } := by
  induction front generalizing lifetime with
  | nil =>
      rw [List.nil_append] at head
      simp [run, ← head]
  | cons task front inductionHypothesis =>
      obtain ⟨functor, rfl⟩ := only task (by simp)
      have first : lifetime.step (.runFunctor .nothing) = .ok { lifetime with
          batch := front ++ rest
          finished := lifetime.finished ++ [taskOf functor] } := by
        simp only [ConnectionLifetime.step, head, List.cons_append]
        cases functor <;> rfl
      have others := @inductionHypothesis { lifetime with
        batch := front ++ rest
        finished := lifetime.finished ++ [taskOf functor] }
        (fun other inside => only other (by simp [inside])) rfl
      simpa [List.replicate_succ, run, first] using others

/-- A send leaves the state alone and does not take the channel out of the poller. -/
theorem frame_sendInLoop (lifetime : ConnectionLifetime) (written : Written) :
    (lifetime.sendInLoop written).state = lifetime.state ∧
      (lifetime.inPoller = true → (lifetime.sendInLoop written).inPoller = true) := by
  unfold ConnectionLifetime.sendInLoop
  split
  · exact ⟨rfl, id⟩
  · cases written with
    | complete | nothing => exact ⟨rfl, id⟩
    | waits | passesMark => exact ⟨rfl, fun _ => rfl⟩

/-- `sendInLoop` with a message. -/
theorem Stands.sendInLoop (stands : Stands shared lifetime) {message : Message}
    {outcome : WriteOutcome} (sent : shared.sendInLoop message outcome = .ok after) :
    ∃ written, Stands after (lifetime.sendInLoop written) := by
  obtain ⟨conn, called, built⟩ := bind_eq_ok.mp sent
  obtain rfl := Except.ok.inj built
  have begun : shared.conn.state ≠ .kConnecting := stands.reflects.state ▸ stands.begun
  obtain ⟨written, follows⟩ := sendInLoop_follows stands.reflects begun called
  obtain ⟨state, known⟩ := frame_sendInLoop lifetime written
  exact ⟨written, stands.follow follows (state ▸ stands.begun) (known stands.known) rfl rfl rfl⟩

/-- The loop takes a functor out of its batch that is not a send. -/
theorem Stands.call_other (stands : Stands shared lifetime) {batch : List (Option Message)}
    (place : shared.loop.pc = .calling (none :: batch) false) (active : List Ready) :
    Stands { shared with loop := shared.loop.advance active } lifetime := by
  have moved : (shared.loop.advance active).pc = .calling batch true := by
    simp [EventLoop.advance, place]
  have queue : (shared.loop.advance active).pendingFunctors = shared.loop.pendingFunctors := by
    simp [EventLoop.advance, place]
  have among := stands.batch
  exact { stands with
    inEvent := fun inEvent => absurd (stands.inEvent inEvent) (by simp [place, LoopPc.inHandler])
    resting := fun _ => ⟨batch, true, moved⟩
    batch := by
      rw [place] at among
      rw [moved]
      exact ⟨by simpa [LoopPc.batch] using among.sends, among.others⟩
    pending := queue ▸ stands.pending }

/-- The loop takes a send out of its batch, after the callbacks in front of it. -/
theorem Stands.call_send (stands : Stands shared lifetime) {message : Message}
    {batch : List (Option Message)}
    (place : shared.loop.pc = .calling (some message :: batch) false) (active : List Ready) :
    ∃ front rest, lifetime.batch = front ++ .sendInLoop :: rest ∧
      (∀ task ∈ front, ∃ functor, task = taskOf functor) ∧
      Stands { shared with loop := shared.loop.advance active } { lifetime with
        batch := rest
        finished := lifetime.finished ++ front ++ [.sendInLoop] } := by
  have moved : (shared.loop.advance active).pc = .calling batch true := by
    simp [EventLoop.advance, place]
  have queue : (shared.loop.advance active).pendingFunctors = shared.loop.pendingFunctors := by
    simp [EventLoop.advance, place]
  have among := stands.batch
  rw [place] at among
  have some : .sendInLoop ∈ lifetime.batch := by
    rw [← List.count_pos_iff, among.sends]
    simp [LoopPc.batch]
  obtain ⟨front, rest, split, first⟩ := List.eq_append_cons_of_mem some
  have only : ∀ task ∈ front, ∃ functor, task = taskOf functor := fun task inside =>
    among.others task (by simp [split, inside]) fun send => first (send ▸ inside)
  refine ⟨front, rest, split, only, ?_⟩
  exact { stands with
    reflects := stands.reflects.congr_lifetime rfl rfl rfl
    inEvent := fun inEvent => absurd (stands.inEvent inEvent) (by simp [place, LoopPc.inHandler])
    resting := fun _ => ⟨batch, true, moved⟩
    batch := by
      have sends := among.sends
      rw [split, List.count_append, List.count_eq_zero.mpr first, List.count_cons_self] at sends
      rw [moved]
      refine ⟨by simpa [LoopPc.batch] using sends, fun task inside other => ?_⟩
      exact among.others task (by simp [split, inside]) other
    pending := queue ▸ stands.pending
    waiting := by
      have whole : lifetime.batch ++ lifetime.pendingFunctors =
          (front ++ [.sendInLoop]) ++ (rest ++ lifetime.pendingFunctors) := by
        simp [split]
      refine List.IsSuffix.trans ?_ stands.waiting
      rw [whole, callbacks_append (front ++ [LoopTask.sendInLoop])]
      exact List.suffix_append _ _ }

/-- The loop takes all functors. -/
theorem Stands.take (stands : Stands shared lifetime) (place : shared.loop.pc = .flagged)
    (active : List Ready) :
    ∃ events last, run ConnectionLifetime.step lifetime events = .ok last ∧
      Stands { shared with loop := shared.loop.advance active } last := by
  have polls : lifetime.Polls := stands.polls (by simp [place])
    (stands.not_inEvent (by simp [place, LoopPc.inHandler]))
  refine ⟨[.doPendingFunctor],
    { lifetime with batch := lifetime.pendingFunctors, pendingFunctors := [] }, ?_, ?_⟩
  · simp [run, ConnectionLifetime.step, polls]
  · exact { stands with
      reflects := stands.reflects.congr_lifetime rfl rfl rfl
      inEvent := fun inEvent => absurd (polls.1.symm.trans inEvent) (by simp)
      resting := fun _ => ⟨shared.loop.pendingFunctors, false, by simp [EventLoop.advance, place]⟩
      batch := by simpa [EventLoop.advance, place, LoopPc.batch] using stands.pending
      pending := by simpa [EventLoop.advance, place] using among_nil
      waiting := by simpa [polls.2.1] using stands.waiting }

/-- The loop is through with its batch, of which at most callbacks are left. -/
theorem Stands.finish (stands : Stands shared lifetime)
    (place : shared.loop.pc = .calling [] false) (active : List Ready) :
    ∃ events last, run ConnectionLifetime.step lifetime events = .ok last ∧
      Stands { shared with loop := shared.loop.advance active } last := by
  have among := stands.batch
  rw [place] at among
  have only : ∀ task ∈ lifetime.batch, ∃ functor, task = taskOf functor := by
    refine fun task inside => among.others task inside fun send => ?_
    have none := List.count_eq_zero.mp (among.sends.trans rfl)
    exact none (send ▸ inside)
  refine ⟨List.replicate lifetime.batch.length (.runFunctor .nothing) ++ [.batchDone],
    { lifetime with batch := [], finished := [] }, ?_, ?_⟩
  · rw [run_append (run_callbacks only (List.append_nil _).symm)]
    simp [run, ConnectionLifetime.step]
  · exact { stands with
      reflects := stands.reflects.congr_lifetime rfl rfl rfl
      inEvent := fun inEvent => absurd (stands.inEvent inEvent) (by simp [place, LoopPc.inHandler])
      resting := fun busy => by simp at busy
      batch := by simpa [EventLoop.advance, place, LoopPc.batch] using among_nil
      pending := by simpa [EventLoop.advance, place] using stands.pending
      waiting := by
        refine List.IsSuffix.trans ?_ stands.waiting
        rw [callbacks_append lifetime.batch]
        exact List.suffix_append _ _ }

/-- The step of the loop thread is matched. -/
theorem advance_stands (stands : Stands shared lifetime) {active : List Ready}
    {outcome : WriteOutcome} (moved : shared.advance active outcome = .ok after) :
    ∃ events last, run ConnectionLifetime.step lifetime events = .ok last ∧ Stands after last := by
  unfold ConnectionLoop.advance at moved
  split at moved
  case isFalse =>
    obtain rfl := Except.ok.inj moved
    exact ⟨[], lifetime, rfl, stands⟩
  dsimp only at moved
  cases place : shared.loop.pc with
  | outside | started | polling | leaving =>
      simp only [place, LoopPc.nextFunctor] at moved
      obtain rfl := Except.ok.inj moved
      have still := stands.not_inEvent (by simp [place, LoopPc.inHandler])
      refine ⟨[], lifetime, rfl, stands.of_loop ?_ ?_ (by simp [still]) fun busy =>
        absurd busy (stands.not_busy (by simp [place]))⟩ <;>
        simp [EventLoop.advance, place, LoopPc.batch]
  | testing =>
      simp only [place, LoopPc.nextFunctor] at moved
      obtain rfl := Except.ok.inj moved
      have still := stands.not_inEvent (by simp [place, LoopPc.inHandler])
      refine ⟨[], lifetime, rfl, stands.of_loop ?_ ?_ (by simp [still]) fun busy =>
        absurd busy (stands.not_busy (by simp [place]))⟩
      · cases quits : shared.loop.quit <;> simp [EventLoop.advance, place, quits, LoopPc.batch]
      · simp [EventLoop.advance, place]
  | handling channels =>
      simp only [place, LoopPc.nextFunctor] at moved
      obtain rfl := Except.ok.inj moved
      -- whatever handler has been running is done
      have done : Stands shared { lifetime with inEvent := false } :=
        { stands with
          reflects := stands.reflects.congr_lifetime rfl rfl rfl
          inEvent := fun inEvent => by cases inEvent }
      have idle := stands.not_busy (by simp [place])
      refine ⟨[.eventDone], { lifetime with inEvent := false }, rfl, done.of_loop ?_ ?_
        (fun inEvent => by cases inEvent) fun busy => absurd busy idle⟩
      · rcases channels with _ | ⟨_ | _, rest⟩ <;>
          simp [EventLoop.advance, place, LoopPc.batch, EventLoop.handlerRead]
      · rcases channels with _ | ⟨_ | _, rest⟩ <;>
          simp [EventLoop.advance, place, EventLoop.handlerRead]
  | flagged =>
      simp only [place, LoopPc.nextFunctor] at moved
      obtain rfl := Except.ok.inj moved
      exact stands.take place active
  | calling batch running =>
      cases running with
      | true =>
          simp only [place, LoopPc.nextFunctor] at moved
          obtain rfl := Except.ok.inj moved
          have still := stands.not_inEvent (by simp [place, LoopPc.inHandler])
          refine ⟨[], lifetime, rfl, stands.of_loop ?_ ?_ (by simp [still]) fun _ =>
            ⟨batch, false, ?_⟩⟩ <;> simp [EventLoop.advance, place, LoopPc.batch]
      | false =>
          cases batch with
          | nil =>
              simp only [place, LoopPc.nextFunctor] at moved
              obtain rfl := Except.ok.inj moved
              exact stands.finish place active
          | cons cb batch =>
              cases cb with
              | none =>
                  simp only [place, LoopPc.nextFunctor] at moved
                  obtain rfl := Except.ok.inj moved
                  exact ⟨[], lifetime, rfl, stands.call_other place active⟩
              | some message =>
                  simp only [place, LoopPc.nextFunctor] at moved
                  obtain ⟨front, rest, split, only, called⟩ := stands.call_send place active
                  obtain ⟨written, sent⟩ := called.sendInLoop moved
                  refine ⟨List.replicate front.length (.runFunctor .nothing) ++
                    [.runFunctor written], _, ?_, sent⟩
                  rw [run_append (run_callbacks only split)]
                  have alive := called.alive
                  simp only [run, ConnectionLifetime.step, ConnectionLifetime.perform]
                  rw [used_of_pos alive]

/-- The handler of the channel is entered, if it is not running yet. -/
theorem Stands.enter (stands : Stands shared lifetime) (inside : shared.inHandler = true)
    (watched : lifetime.watched = true) :
    ∃ events, run ConnectionLifetime.step lifetime events =
        .ok { lifetime with inEvent := true } ∧
      Stands shared { lifetime with inEvent := true } := by
  have handling : shared.loop.pc.inHandler = true := (Bool.and_eq_true_iff.mp inside).1
  have entered : Stands shared { lifetime with inEvent := true } :=
    { stands with
      reflects := stands.reflects.congr_lifetime rfl rfl rfl
      inEvent := fun _ => handling }
  by_cases inEvent : lifetime.inEvent = true
  · exact ⟨[], by rw [run, ← inEvent], entered⟩
  · have polls : lifetime.Polls := by
      refine stands.polls (fun batch running calling => ?_) (by simpa using inEvent)
      simp [calling, LoopPc.inHandler] at handling
    refine ⟨[.handlerEvent], ?_, entered⟩
    simp [run, ConnectionLifetime.step, polls, watched, used_of_pos stands.alive]

theorem frame_handleWrite (lifetime : ConnectionLifetime) (written : Written) :
    (lifetime.handleWrite written).state = lifetime.state ∧
      (lifetime.handleWrite written).inPoller = lifetime.inPoller := by
  unfold ConnectionLifetime.handleWrite
  split <;> exact ⟨rfl, rfl⟩

/-- Writing in the handler of the channel is matched. -/
theorem handleWrite_stands (stands : Stands shared lifetime) {outcome : WriteOutcome}
    (handled : shared.handleWrite outcome = .ok after) :
    ∃ events last, run ConnectionLifetime.step lifetime events = .ok last ∧ Stands after last := by
  unfold ConnectionLoop.handleWrite at handled
  split at handled
  case isFalse =>
    obtain rfl := Except.ok.inj handled
    exact ⟨[], lifetime, rfl, stands⟩
  rename_i inside
  obtain ⟨conn, called, built⟩ := bind_eq_ok.mp handled
  obtain rfl := Except.ok.inj built
  by_cases writing : shared.conn.channel.isWriting = true
  · have added := stands.reflects.asks (Reflects.asks_of_isWriting writing)
    obtain ⟨events, entered, begun⟩ := stands.enter inside (stands.reflects.watched.mpr added)
    obtain ⟨written, follows⟩ := handleWrite_follows begun.reflects called
    obtain ⟨state, known⟩ := frame_handleWrite { lifetime with inEvent := true } written
    refine ⟨events ++ [.handleWrite written], _, ?_, begun.follow follows
      (by rw [state]; exact begun.begun) (by rw [known]; exact begun.known) rfl rfl rfl⟩
    rw [run_append entered]
    simp [run, ConnectionLifetime.step]
  · -- nothing is written, and the kernel need not even watch the channel
    rw [TcpConnection.handleWrite, if_neg writing] at called
    obtain rfl := Except.ok.inj called
    exact ⟨[], lifetime, rfl, stands⟩

/-- So is closing, if the kernel watches the channel. -/
theorem handlerClose_stands (stands : Stands shared lifetime)
    (reported : shared.inHandler = true → shared.conn.channel.index = .kAdded)
    (closed : shared.handlerClose = .ok after) :
    ∃ events last, run ConnectionLifetime.step lifetime events = .ok last ∧ Stands after last := by
  unfold ConnectionLoop.handlerClose at closed
  split at closed
  case isFalse =>
    obtain rfl := Except.ok.inj closed
    exact ⟨[], lifetime, rfl, stands⟩
  rename_i inside
  obtain ⟨conn, called, built⟩ := bind_eq_ok.mp closed
  obtain rfl := Except.ok.inj built
  have watched := stands.reflects.watched.mpr (reported inside)
  obtain ⟨events, entered, begun⟩ := stands.enter inside watched
  have follows := disableAll_follows begun.reflects begun.known called
  have downed : Stands { shared with conn := conn } _ :=
    begun.follow follows (by simp) begun.known rfl rfl rfl
  refine ⟨events ++ [.handlerClose],
    { lifetime with
      state := .kDisconnected
      watched := !lifetime.watched
      removals := lifetime.removals + 1
      inEvent := true }, ?_, { downed with
    reflects := downed.reflects.congr_lifetime rfl rfl rfl }⟩
  rw [run_append entered]
  simp [run, ConnectionLifetime.step]

/-- So are the calls in the loop thread. -/
theorem sendHere_stands (stands : Stands shared lifetime) {buf : List Byte}
    {outcome : WriteOutcome} (sent : shared.sendHere buf outcome = .ok after) :
    ∃ events last, run ConnectionLifetime.step lifetime events = .ok last ∧ Stands after last := by
  unfold ConnectionLoop.sendHere at sent
  split at sent
  case isFalse =>
    obtain rfl := Except.ok.inj sent
    exact ⟨[], lifetime, rfl, stands⟩
  dsimp only at sent
  split at sent
  · rename_i connected
    obtain ⟨handed, called, built⟩ := bind_eq_ok.mp sent
    obtain rfl := Except.ok.inj built
    have numbered : Stands { shared with numbered := shared.numbered + 1 } lifetime :=
      stands.congr rfl rfl rfl
    obtain ⟨written, matched⟩ := numbered.sendInLoop called
    refine ⟨[.sendHere written], _, ?_, matched.congr rfl rfl rfl⟩
    have state : lifetime.state = .kConnected := stands.reflects.state.trans connected
    simp [run, ConnectionLifetime.step, stands.atHand, state]
  · obtain rfl := Except.ok.inj sent
    exact ⟨[], lifetime, rfl, stands.congr rfl rfl rfl⟩

theorem shutdown_stands (stands : Stands shared lifetime) :
    ∃ events last, run ConnectionLifetime.step lifetime events = .ok last ∧
      Stands shared.shutdown last := by
  unfold ConnectionLoop.shutdown
  split
  · have begun : lifetime.shutdown.state ≠ .kConnecting := by
      unfold ConnectionLifetime.shutdown
      split
      · simp
      · exact stands.begun
    have known : lifetime.shutdown.inPoller = true := by
      unfold ConnectionLifetime.shutdown
      split <;> exact stands.known
    refine ⟨[.shutdown], lifetime.shutdown, ?_,
      stands.follow (shutdown_follows stands.reflects) begun known rfl rfl rfl⟩
    simp [run, ConnectionLifetime.step, stands.atHand]
  · exact ⟨[], lifetime, rfl, stands⟩

/-- The first steps of an accepted connection: its loop starts the timer and establishes it, and
somebody gets a pointer to it. -/
def begin : List LifetimeEvent :=
  [.doPendingFunctor, .runFunctor .nothing, .runFunctor .nothing, .batchDone, .copyPointer]

/-- A connection that has been established is one that has been accepted. -/
theorem stands_established {fd : Fd} {poller : EPollPoller}
    {writeCompleteCallback hightWaterMarkCallback : Bool} {hightWaterMark : Nat}
    {start : ConnectionLoop Thread}
    (made : ConnectionLoop.established fd poller writeCompleteCallback hightWaterMarkCallback
      hightWaterMark = .ok start) (enableInactiveRelease : Bool) :
    ∃ lifetime, run ConnectionLifetime.step (.accepted enableInactiveRelease) begin =
      .ok lifetime ∧ Stands start lifetime := by
  obtain ⟨conn, called, built⟩ := bind_eq_ok.mp made
  obtain rfl := Except.ok.inj built
  obtain ⟨up, performed, follows⟩ :=
    connectEstablished_follows (.accepted enableInactiveRelease) called
  obtain rfl := Except.ok.inj performed
  refine ⟨{ ConnectionLifetime.accepted enableInactiveRelease with
    state := .kConnected
    inPoller := true
    watched := true
    pendingFunctors := []
    armed := enableInactiveRelease
    senders := [.idle] }, ?_, ?_⟩
  · cases enableInactiveRelease <;> rfl
  · exact {
      reflects := follows.reflects.congr_lifetime rfl rfl rfl
      begun := by simp
      known := rfl
      inEvent := fun inEvent => by cases inEvent
      resting := fun busy => by simp [ConnectionLifetime.accepted] at busy
      batch := among_nil
      pending := among_nil
      waiting := List.nil_suffix
      senders := ⟨[], List.nodup_nil, by simp, rfl⟩ }

variable [DecidableEq Thread]

/-- A thread gets a pointer and finds the connection connected. -/
theorem run_test (alive : 0 < lifetime.useCount) (connected : lifetime.state = .kConnected) :
    run ConnectionLifetime.step lifetime [.copyPointer, .testState lifetime.senders.length] =
      .ok { lifetime with senders := lifetime.senders ++ [.inSend] } := by
  simp [run, ConnectionLifetime.step, Nat.ne_of_gt alive, connected]

/-- It queues its send and gives the pointer up. -/
theorem run_queueSend {others : List Sender} {first : Sender}
    (senders : lifetime.senders = first :: .inSend :: others) :
    run ConnectionLifetime.step lifetime [.queueSend 1, .dropPointer 1] =
      .ok { lifetime with
        senders := first :: others
        pendingFunctors := lifetime.pendingFunctors ++ [.sendInLoop] } := by
  simp [run, ConnectionLifetime.step, senders, ConnectionLifetime.queueInLoop]

/-- A thread that begins to send is matched by one that gets a pointer. -/
theorem send_stands (stands : Stands shared lifetime) (thread : Thread) (buf : List Byte) :
    ∃ events last, run ConnectionLifetime.step lifetime events = .ok last ∧
      Stands (shared.send thread buf) last := by
  unfold ConnectionLoop.send
  split
  case isFalse => exact ⟨[], lifetime, rfl, stands⟩
  rename_i idle
  dsimp only
  split
  case isFalse => exact ⟨[], lifetime, rfl, stands.congr rfl rfl rfl⟩
  rename_i connected
  obtain ⟨threads, nodup, checked, senders⟩ := stands.senders
  have away : thread ∉ threads := fun inside => by
    obtain ⟨message, found⟩ := (checked thread).mp inside
    rw [idle.1] at found
    cases found
  refine ⟨_, _, run_test stands.alive (stands.reflects.state.trans connected), { stands with
    reflects := stands.reflects.congr_lifetime rfl rfl rfl
    senders := ⟨thread :: threads, List.nodup_cons.mpr ⟨away, nodup⟩, fun other => ?_, ?_⟩ }⟩
  · by_cases same : other = thread
    · simp [ConnectionLoop.setSend, same]
    · simp [ConnectionLoop.setSend, same, checked]
  · simp [senders, List.replicate_succ']

/-- The other steps of a call leave the functors and the place of the loop thread alone. -/
theorem frame_proceed (loop : EventLoop Thread (Option Message)) (caller : Option Thread) :
    (loop.proceed caller).pc = loop.pc ∧
      (loop.proceed caller).pendingFunctors = loop.pendingFunctors := by
  obtain ⟨counter, woken⟩ := loop.wakeup_eq
  unfold EventLoop.proceed
  split
  · exact ⟨rfl, rfl⟩
  · split <;> exact ⟨rfl, rfl⟩
  · rw [woken]
    exact ⟨rfl, rfl⟩
  · rw [woken]
    exact ⟨rfl, rfl⟩

theorem Stands.proceed (stands : Stands shared lifetime) (caller : Option Thread) :
    Stands { shared with loop := shared.loop.proceed caller } lifetime := by
  obtain ⟨place, pending⟩ := frame_proceed shared.loop caller
  exact stands.of_loop (by rw [place]) pending (place ▸ stands.inEvent) (place ▸ stands.resting)

/-- A thread that goes on sending is matched by one that queues its send. -/
theorem proceed_stands (stands : Stands shared lifetime) (thread : Thread) :
    ∃ events last, run ConnectionLifetime.step lifetime events = .ok last ∧
      Stands (shared.proceed thread) last := by
  obtain ⟨threads, nodup, checked, senders⟩ := stands.senders
  unfold ConnectionLoop.proceed
  split
  · exact ⟨[], lifetime, rfl, stands⟩
  · rename_i message found
    have inside : thread ∈ threads := (checked thread).mpr ⟨message, found⟩
    have some : threads.length = (threads.erase thread).length + 1 := by
      have positive := List.length_pos_of_mem inside
      rw [List.length_erase_of_mem inside]
      omega
    rw [some, List.replicate_succ] at senders
    refine ⟨_, _, run_queueSend senders, { stands with
      reflects := stands.reflects.congr_lifetime rfl rfl rfl
      pending := ?_
      waiting := ?_
      senders := ⟨threads.erase thread, nodup.erase thread, fun other => ?_, rfl⟩ }⟩
    · refine ⟨?_, fun task inside other => ?_⟩
      · simp [ConnectionLoop.setSend, EventLoop.queueInLoop, EventLoop.setCall,
          stands.pending.sends]
      · refine stands.pending.others task ?_ other
        simpa [other] using inside
    · simpa [callbacks, ConnectionLoop.setSend] using stands.waiting
    · by_cases same : other = thread
      · simp [ConnectionLoop.setSend, same, nodup.not_mem_erase]
      · simp [ConnectionLoop.setSend, same, checked, List.mem_erase_of_ne]
  · rename_i message found
    have proceeded := stands.proceed (some thread)
    dsimp only
    split
    · refine ⟨[], lifetime, rfl, { proceeded with
        senders := ⟨threads, nodup, fun other => ?_, senders⟩ }⟩
      by_cases same : other = thread
      · subst same
        simp [ConnectionLoop.setSend, ConnectionLoop.returned, checked, found]
      · simp [ConnectionLoop.setSend, ConnectionLoop.returned, same, checked]
    · exact ⟨[], lifetime, rfl, proceeded⟩

/-- The functors of others are none of the connection's. -/
theorem queueOther_stands (stands : Stands shared lifetime) (caller : Option Thread) :
    Stands (shared.queueOther caller) lifetime := by
  unfold ConnectionLoop.queueOther
  split
  · exact { stands with
      pending := ⟨by simp [EventLoop.queueInLoop, EventLoop.setCall, stands.pending.sends],
        stands.pending.others⟩ }
  · exact stands

/-! ### Runs -/

/-- The kernel reports the channel to its handler only while it watches it. -/
def Reported (shared : ConnectionLoop Thread) : Traffic Thread → Prop
  | .call _ => True
  | .handlerClose => shared.inHandler = true → shared.conn.channel.index = .kAdded

instance (shared : ConnectionLoop Thread) : DecidablePred (Reported shared)
  | .call _ => isTrue trivial
  | .handlerClose => inferInstanceAs (Decidable (_ → _))

/-- Whatever happens to the connection is matched by steps of its lifetime. -/
theorem carry_stands (stands : Stands shared lifetime) {event : Traffic Thread}
    (reported : Reported shared event) (carried : shared.carry event = .ok after) :
    ∃ events last, run ConnectionLifetime.step lifetime events = .ok last ∧ Stands after last := by
  cases event with
  | handlerClose => exact handlerClose_stands stands reported carried
  | call call =>
      cases call with
      | advance active outcome => exact advance_stands stands carried
      | handleWrite outcome => exact handleWrite_stands stands carried
      | sendHere buf outcome => exact sendHere_stands stands carried
      | shutdown =>
          obtain rfl := Except.ok.inj carried
          exact shutdown_stands stands
      | send thread buf =>
          obtain rfl := Except.ok.inj carried
          exact send_stands stands thread buf
      | proceed thread =>
          obtain rfl := Except.ok.inj carried
          exact proceed_stands stands thread
      | queueOther caller =>
          obtain rfl := Except.ok.inj carried
          exact ⟨[], lifetime, rfl, queueOther_stands stands caller⟩
      | proceedOther caller =>
          obtain rfl := Except.ok.inj carried
          refine ⟨[], lifetime, rfl, ?_⟩
          unfold ConnectionLoop.proceedOther
          split
          · exact stands.proceed caller
          · exact stands

/-- To be destroyed next does the same to both, if the connection is not just shutting down. -/
def EndsAlike (conn : TcpConnection) (lifetime : ConnectionLifetime) : Prop :=
  ∀ (life gone : Life), life.conn = conn → conn.state ≠ .kDisconnecting →
    life.connectDestroyed = .ok gone →
      ∃ after, lifetime.perform .nothing .connectDestroyed = .ok after ∧ Reflects gone.conn after

/-- Every run of an established connection, with its loop and the threads that send on it, is a run
of the lifetime of an accepted one, and ends with the same state, with the channel in the same place
and with the same functors of the connection in the loop. -/
theorem traffic_refines {fd : Fd} {poller : EPollPoller}
    {writeCompleteCallback hightWaterMarkCallback : Bool} {hightWaterMark : Nat}
    {start last : ConnectionLoop Thread}
    (made : ConnectionLoop.established fd poller writeCompleteCallback hightWaterMarkCallback
      hightWaterMark = .ok start) (enableInactiveRelease : Bool) {events : List (Traffic Thread)}
    (reported : Admissible ConnectionLoop.carry Reported start events)
    (reached : run ConnectionLoop.carry start events = .ok last) :
    ∃ happened lifetime, run ConnectionLifetime.step (.accepted enableInactiveRelease) happened =
      .ok lifetime ∧ Stands last lifetime ∧ EndsAlike last.conn lifetime := by
  obtain ⟨first, begun, stands⟩ := stands_established made enableInactiveRelease
  obtain ⟨happened, lifetime, matched, ended⟩ := reported.exists_run_of_simulates
    (fun _ _ _ _ stands reported carried => carry_stands stands reported carried) stands reached
  refine ⟨begin ++ happened, lifetime, by rw [run_append begun, matched], ended, ?_⟩
  intro life gone same settled destroyed
  rw [← same] at settled
  obtain ⟨after, performed, follows⟩ :=
    connectDestroyed_follows (same ▸ ended.reflects) settled destroyed
  exact ⟨after, performed, follows.reflects⟩

/-- While the loop handles the channel a thread begins to send, and the loop sends a message of its
own, of which the socket takes a part.  When the other message has come to the buffer too, the
channel is writable, and the connection is closed. -/
def closedWhileSending : List (Traffic (Fin 1)) :=
  List.replicate 3 (.call (.advance [] (.accepted 0))) ++
    [.call (.advance [.other] (.accepted 0)), .call (.send 0 [0, 0, 0, 1, 66]),
      .call (.sendHere [0, 0, 0, 1, 67] (.accepted 2)), .call (.proceed 0)] ++
    List.replicate 7 (.call (.advance [] (.accepted 0))) ++
    [.call (.advance [.other] (.accepted 0)), .call (.handleWrite (.accepted 8)), .handlerClose]

/-- So a connection with an inactivity timer can be closed in this way. -/
theorem traffic_refines_closedWhileSending :
    ∃ start, ConnectionLoop.established 3 ⟨PMap.empty⟩ true false 65536 = .ok start ∧
      ∃ last, run ConnectionLoop.carry start closedWhileSending = .ok last ∧
        ∃ happened lifetime, run ConnectionLifetime.step (.accepted true) happened = .ok lifetime ∧
          Stands last lifetime ∧ EndsAlike last.conn lifetime := by
  refine ⟨_, rfl, (exists_last_of_isOk ?_).imp fun last reached => ⟨reached, traffic_refines
    (show ConnectionLoop.established 3 ⟨PMap.empty⟩ true false 65536 = .ok _ from rfl) true ?_
    reached⟩⟩
  · decide +kernel
  · decide +kernel

end GomukuServer.Proofs.LifetimeRefinement
