/-
Module: GomukuServer.Proofs.SendersInOrder
Layer: Proofs
Purpose: What the peer of a connection reads when any number of threads send on it.  Whichever way
  the threads, the loop and a close of the peer interleave, and however the socket takes the bytes,
  the peer gets messages as they were sent, those of each sender in the order of its calls and none
  of them twice.
Trusted boundary: no write fails while the connection is up
Main exports: Observed, senders_in_order, client_reads
-/
import GomukuServer.Module.SendMsg
import GomukuServer.Proofs.HalfClose

namespace GomukuServer.Proofs.SendersInOrder

open Base Base.Runs Base.Framing MyMuduo MyMuduo.ConnectionLoop
open Net.ProtocolDispatcher (headerSize)
open OutgoingStream (Accepts Attentive attentive_shutdown sendInLoop_refines handleWrite_refines
  update_ok)

variable {Thread : Type}

/-! ### The bytes -/

/-- What has come to `sendInLoop` as one stream. -/
def handedBytes (shared : ConnectionLoop Thread) : List Byte :=
  (shared.handed.map Message.buf).flatten

/-- While the connection is up it keeps what the socket has not taken of the stream.  Once it is
down it writes no more. -/
structure Flows (shared : ConnectionLoop Thread) : Prop where
  attentive : Attentive shared.conn
  up : shared.conn.state ≠ .kDisconnected → shared.conn.pipe.stream = handedBytes shared
  down : shared.conn.state = .kDisconnected →
    shared.conn.channel.isWriting = false ∧ shared.conn.socket.taken <+: handedBytes shared

theorem Flows.taken {shared : ConnectionLoop Thread} (flows : Flows shared) :
    shared.conn.socket.taken <+: handedBytes shared := by
  by_cases down : shared.conn.state = .kDisconnected
  · exact (flows.down down).2
  · rw [← flows.up down]
    exact List.prefix_append _ _

theorem Flows.congr {shared next : ConnectionLoop Thread} (flows : Flows shared)
    (conn : next.conn = shared.conn) (handed : next.handed = shared.handed) : Flows next where
  attentive := by rw [conn]; exact flows.attentive
  up := by rw [handedBytes, conn, handed]; exact flows.up
  down := by rw [handedBytes, conn, handed]; exact flows.down

/-- `sendInLoop` takes the message over, or drops it if the connection is down. -/
theorem Flows.sendInLoop {shared : ConnectionLoop Thread} (flows : Flows shared) (message : Message)
    {outcome : WriteOutcome} (short : message.buf.length < 2 ^ 31)
    (accepts : Accepts message.buf.length outcome) :
    ∃ conn, shared.sendInLoop message outcome =
        .ok { shared with conn := conn, handed := shared.handed ++ [message] } ∧
      Flows { shared with conn := conn, handed := shared.handed ++ [message] } := by
  have longer : handedBytes { shared with handed := shared.handed ++ [message] } =
      handedBytes shared ++ message.buf := by
    simp [handedBytes]
  by_cases down : shared.conn.state = .kDisconnected
  · refine ⟨shared.conn, ?_, flows.attentive, fun up => absurd down up, fun _ => ?_⟩
    · simp [ConnectionLoop.sendInLoop, TcpConnection.sendInLoop, down, ok_bind, pure_eq_ok]
    · obtain ⟨silent, taken⟩ := flows.down down
      exact ⟨silent, longer ▸ taken.trans (List.prefix_append _ _)⟩
  · obtain ⟨conn, count, sent, good, state, moved, _⟩ :=
      sendInLoop_refines flows.attentive down short accepts
    refine ⟨conn, ?_, good, fun _ => ?_, fun below => absurd (state ▸ below) down⟩
    · simp [ConnectionLoop.sendInLoop, sent, ok_bind, pure_eq_ok]
    · have stream := Pipe.stream_moves shared.conn.pipe [.push message.buf, .drain count]
      rw [← show conn.pipe = shared.conn.pipe.moves [.push message.buf, .drain count] from moved,
        flows.up down] at stream
      exact stream.trans (by simp [Pipe.Move.pushed, handedBytes])

/-- `handleWrite` moves bytes to the socket. -/
theorem Flows.handleWrite {shared : ConnectionLoop Thread} (flows : Flows shared)
    (outcome : WriteOutcome) :
    ∃ conn, shared.handleWrite outcome = .ok { shared with conn := conn } ∧
      Flows { shared with conn := conn } := by
  by_cases inside : shared.inHandler = true
  · by_cases down : shared.conn.state = .kDisconnected
    · refine ⟨shared.conn, ?_, flows⟩
      simp [ConnectionLoop.handleWrite, inside, TcpConnection.handleWrite, (flows.down down).1,
        ok_bind, pure_eq_ok]
    · obtain ⟨conn, count, written, good, state, moved, _⟩ :=
        handleWrite_refines flows.attentive outcome
      refine ⟨conn, ?_, good, fun _ => ?_, fun below => absurd (state ▸ below) down⟩
      · simp [ConnectionLoop.handleWrite, inside, written, ok_bind, pure_eq_ok]
      · have stream := Pipe.stream_moves shared.conn.pipe [.drain count]
        rw [← show conn.pipe = shared.conn.pipe.moves [.drain count] from moved,
          flows.up down] at stream
        exact stream.trans (by simp [Pipe.Move.pushed, handedBytes])
  · exact ⟨shared.conn, by simp [ConnectionLoop.handleWrite, inside], flows⟩

/-- `shutdown` leaves the bytes alone. -/
theorem Flows.shutdown {shared : ConnectionLoop Thread} (flows : Flows shared) :
    Flows shared.shutdown := by
  unfold ConnectionLoop.shutdown
  split
  · unfold TcpConnection.shutdown
    split
    · rename_i connected
      have still := attentive_shutdown flows.attentive
      simp only [TcpConnection.shutdown, if_pos connected] at still
      refine ⟨still, fun _ => ?_, fun down => by simp at down⟩
      have pipe := TcpConnection.pipe_shutdownInLoop { shared.conn with state := .kDisconnecting }
      exact (congrArg Pipe.stream pipe).trans (flows.up (by simp [connected]))
    · exact flows.congr rfl rfl
  · exact flows

/-- A connection that has been closed asks for nothing. -/
theorem handlerClose_silent {conn : TcpConnection} (attentive : Attentive conn) :
    ∃ next, conn.handlerClose = .ok next ∧ Attentive next ∧ next.state = .kDisconnected ∧
      next.channel.isWriting = false ∧ next.socket = conn.socket := by
  obtain ⟨poller', index', updated, watched'⟩ :=
    update_ok ({ conn with state := .kDisconnected }) attentive.watched
      conn.channel.disableAll.events
  refine ⟨_, updated, ⟨watched', fun up => absurd rfl up⟩, rfl, ?_, rfl⟩
  have nothing : kNoneEvent &&& kWriteEvent = 0 := by decide
  simp [Channel.isWriting, Channel.disableAll, nothing]

/-- `handlerClose` brings the connection down, whatever is still waiting. -/
theorem Flows.handlerClose {shared : ConnectionLoop Thread} (flows : Flows shared) :
    ∃ conn, shared.handlerClose = .ok { shared with conn := conn } ∧
      Flows { shared with conn := conn } := by
  by_cases inside : shared.inHandler = true
  · obtain ⟨conn, closed, good, down, silent, socket⟩ := handlerClose_silent flows.attentive
    refine ⟨conn, ?_, good, fun up => absurd down up, fun _ => ⟨silent, ?_⟩⟩
    · simp [ConnectionLoop.handlerClose, inside, closed, ok_bind, pure_eq_ok]
    · exact (congrArg Socket.taken socket).symm ▸ flows.taken
  · exact ⟨shared.conn, by simp [ConnectionLoop.handlerClose, inside], flows⟩

/-! ### The order -/

/-- A message with the thread that sends it; `none` is the loop thread. -/
abbrev Sent (Thread : Type) := Option Thread × Message

/-- The connection under observation: `begun` are the calls of `send` that have found it connected,
in the order in which they looked. -/
structure Observed (Thread : Type) where
  shared : ConnectionLoop Thread
  begun : List (Sent Thread)

variable [DecidableEq Thread]

/-- The messages of one sender. -/
def sentBy (sender : Option Thread) (sent : List (Sent Thread)) : List (Sent Thread) :=
  sent.filter fun entry => entry.1 = sender

/-- The call of `send` that an event begins, if it finds the connection connected. -/
def begins (shared : ConnectionLoop Thread) : Traffic Thread → List (Sent Thread)
  | .call (.send thread buf) =>
      if (shared.sends thread = .idle ∧ shared.loop.calls (some thread) = .idle) ∧
          shared.conn.state = .kConnected then
        [(some thread, ⟨shared.numbered, buf⟩)]
      else []
  | .call (.sendHere buf _) =>
      if shared.inUserCode = true ∧ shared.conn.state = .kConnected then
        [(none, ⟨shared.numbered, buf⟩)]
      else []
  | _ => []

/-- Execute one event, and note what it begins. -/
def Observed.step (observed : Observed Thread) (event : Traffic Thread) :
    Except Fault (Observed Thread) := do
  let shared ← observed.shared.carry event
  pure ⟨shared, observed.begun ++ begins observed.shared event⟩

/-- No write fails, and the length of a message whose `send` finds the connection connected fits
into an `int`. -/
def Possible (observed : Observed Thread) : Traffic Thread → Prop
  | .call call => HalfClose.Possible observed.shared call ∧ HalfClose.Short observed.shared call
  | .handlerClose => True

instance (observed : Observed Thread) : DecidablePred (Possible observed)
  | .call _ => inferInstanceAs (Decidable (_ ∧ _))
  | .handlerClose => isTrue trivial

/-- The message of a thread that has found the connection connected and has not pushed it yet. -/
def coming (shared : ConnectionLoop Thread) : Option Thread → List (Sent Thread)
  | none => []
  | some thread =>
      match shared.sends thread with
      | .checked message => [(some thread, message)]
      | _ => []

/-- The messages that have come to `sendInLoop`, and those that wait in the loop, are the messages
that were begun, except that each thread may have one more on its way; the order of each sender's is
kept. -/
structure InOrder (observed : Observed Thread) (handedBy waitingBy : List (Sent Thread)) :
    Prop where
  handed : handedBy.map Prod.snd = observed.shared.handed
  waiting : waitingBy.map Prod.snd = observed.shared.loop.waiting.filterMap id
  queued : ∀ entry ∈ waitingBy, entry.1 ≠ none
  order : ∀ sender, sentBy sender (handedBy ++ waitingBy) ++ coming observed.shared sender =
    sentBy sender observed.begun
  short : ∀ entry ∈ waitingBy, entry.2.buf.length < 2 ^ 31
  checked : ∀ thread message, observed.shared.sends thread = .checked message →
    message.buf.length < 2 ^ 31

/-- What every run keeps. -/
def Kept (observed : Observed Thread) : Prop :=
  Flows observed.shared ∧ ∃ handedBy waitingBy, InOrder observed handedBy waitingBy

theorem sentBy_append (sender : Option Thread) (first second : List (Sent Thread)) :
    sentBy sender (first ++ second) = sentBy sender first ++ sentBy sender second :=
  List.filter_append _ _

theorem sentBy_self (sender : Option Thread) (message : Message) :
    sentBy sender [(sender, message)] = [(sender, message)] := by
  simp [sentBy]

theorem sentBy_other {sender other : Option Thread} (different : other ≠ sender)
    (message : Message) : sentBy sender [(other, message)] = [] := by
  simp [sentBy, different]

/-- A step that moves no message. -/
theorem InOrder.congr {observed next : Observed Thread} {handedBy waitingBy : List (Sent Thread)}
    (ordered : InOrder observed handedBy waitingBy)
    (handed : next.shared.handed = observed.shared.handed)
    (waiting : next.shared.loop.waiting.filterMap id = observed.shared.loop.waiting.filterMap id)
    (sends : ∀ thread message, next.shared.sends thread = .checked message ↔
      observed.shared.sends thread = .checked message)
    (begun : next.begun = observed.begun) : InOrder next handedBy waitingBy where
  handed := handed ▸ ordered.handed
  waiting := waiting ▸ ordered.waiting
  queued := ordered.queued
  order := fun sender => by
    have same : coming next.shared sender = coming observed.shared sender := by
      cases sender with
      | none => rfl
      | some thread =>
          have now := sends thread
          simp only [coming]
          cases place : next.shared.sends thread <;> cases before : observed.shared.sends thread <;>
            simp_all
    rw [same, begun]
    exact ordered.order sender
  short := ordered.short
  checked := fun thread message inside => ordered.checked thread message ((sends _ _).mp inside)

/-! ### Steps -/

/-- The event goes through, and the invariant goes with it. -/
def StepsTo (observed : Observed Thread) (event : Traffic Thread) : Prop :=
  ∃ next, observed.step event = .ok next ∧ Kept next

/-- An event that begins nothing. -/
theorem stepsTo_of_carry {observed : Observed Thread} {event : Traffic Thread}
    (shared : ConnectionLoop Thread) (carryEq : observed.shared.carry event = .ok shared)
    (silent : begins observed.shared event = []) (kept : Kept ⟨shared, observed.begun⟩) :
    StepsTo observed event :=
  ⟨⟨shared, observed.begun⟩, by simp [Observed.step, carryEq, silent, ok_bind, pure_eq_ok], kept⟩

/-- Nothing happens. -/
theorem stepsTo_self {observed : Observed Thread} (kept : Kept observed) {event : Traffic Thread}
    (carryEq : observed.shared.carry event = .ok observed.shared)
    (silent : begins observed.shared event = []) : StepsTo observed event :=
  stepsTo_of_carry observed.shared carryEq silent kept

/-- The loop hands the first of the waiting messages over. -/
theorem InOrder.hand {observed : Observed Thread} {handedBy waitingBy : List (Sent Thread)}
    (ordered : InOrder observed handedBy waitingBy) {message : Message} {rest : List Message}
    (first : observed.shared.loop.waiting.filterMap id = message :: rest) (conn : TcpConnection)
    {loop : EventLoop Thread (Option Message)} (waiting : loop.waiting.filterMap id = rest) :
    message.buf.length < 2 ^ 31 ∧ ∃ handedBy waitingBy, InOrder
      ⟨{ observed.shared with
          loop := loop
          conn := conn
          handed := observed.shared.handed ++ [message] }, observed.begun⟩ handedBy waitingBy := by
  obtain ⟨entry, others, rfl, rfl, othersEq⟩ : ∃ entry others, waitingBy = entry :: others ∧
      entry.2 = message ∧ others.map Prod.snd = rest :=
    List.map_eq_cons_iff.mp (ordered.waiting.trans first)
  refine ⟨ordered.short entry List.mem_cons_self, handedBy ++ [entry], others, ?_⟩
  exact {
    handed := by simp [ordered.handed]
    waiting := othersEq.trans waiting.symm
    queued := fun other member => ordered.queued other (List.mem_cons_of_mem _ member)
    order := fun sender => by
      rw [List.append_assoc]
      exact ordered.order sender
    short := fun other member => ordered.short other (List.mem_cons_of_mem _ member)
    checked := ordered.checked }

/-- The loop thread moves; it may call a functor that hands a message over. -/
theorem advance_stepsTo {observed : Observed Thread} (kept : Kept observed) {active : List Ready}
    {outcome : WriteOutcome}
    (possible : HalfClose.Possible observed.shared (.advance active outcome)) :
    StepsTo observed (.call (.advance active outcome)) := by
  by_cases free : observed.shared.loop.calls none = .idle
  · obtain ⟨flows, handedBy, waitingBy, ordered⟩ := kept
    have advanced := observed.shared.loop.waiting_advance active
    let moved := { observed.shared with loop := observed.shared.loop.advance active }
    have movedFlows : Flows moved := flows.congr rfl rfl
    rcases functor : observed.shared.loop.pc.nextFunctor with _ | _ | message
    · refine stepsTo_of_carry moved ?_ rfl ⟨movedFlows, handedBy, waitingBy, ordered.congr rfl ?_
        (fun _ _ => .rfl) rfl⟩
      · simp only [carry, ConnectionLoop.step, ConnectionLoop.advance, if_pos free, functor, moved]
      · rw [← advanced, functor]
        rfl
    · refine stepsTo_of_carry moved ?_ rfl ⟨movedFlows, handedBy, waitingBy, ordered.congr rfl ?_
        (fun _ _ => .rfl) rfl⟩
      · simp only [carry, ConnectionLoop.step, ConnectionLoop.advance, if_pos free, functor, moved]
      · rw [← advanced, functor]
        rfl
    · have accepts := possible message (by simp [functor])
      have first : observed.shared.loop.waiting.filterMap id =
          message :: (observed.shared.loop.advance active).waiting.filterMap id := by
        rw [← advanced, functor]
        rfl
      obtain ⟨short, _⟩ := ordered.hand first observed.shared.conn rfl
      obtain ⟨conn, sent, sentFlows⟩ := movedFlows.sendInLoop message short accepts
      refine stepsTo_of_carry _ ?_ rfl ⟨sentFlows, (ordered.hand first conn rfl).2⟩
      simp only [carry, ConnectionLoop.step, ConnectionLoop.advance, if_pos free, functor]
      exact sent
  · exact stepsTo_self kept (by simp [carry, ConnectionLoop.step, ConnectionLoop.advance, free]) rfl

/-- `send` in the loop thread overtakes what waits in the loop. -/
theorem sendHere_stepsTo {observed : Observed Thread} (kept : Kept observed) {buf : List Byte}
    {outcome : WriteOutcome}
    (fits : observed.shared.conn.state = .kConnected → buf.length < 2 ^ 31)
    (accepts : Accepts buf.length outcome) :
    StepsTo observed (.call (.sendHere buf outcome)) := by
  by_cases inside : observed.shared.inUserCode = true
  · obtain ⟨flows, handedBy, waitingBy, ordered⟩ := kept
    let numbered := { observed.shared with numbered := observed.shared.numbered + 1 }
    have numberedFlows : Flows numbered := flows.congr rfl rfl
    by_cases connected : observed.shared.conn.state = .kConnected
    · let message : Message := ⟨observed.shared.numbered, buf⟩
      obtain ⟨conn, sent, sentFlows⟩ :=
        numberedFlows.sendInLoop message (fits connected) accepts
      let next := { numbered with conn := conn, handed := numbered.handed ++ [message] }
      have others : sentBy none waitingBy = [] :=
        List.filter_eq_nil_iff.mpr fun other member => by simp [ordered.queued other member]
      refine ⟨⟨next.returned message, observed.begun ++ [(none, message)]⟩, ?_,
        sentFlows.congr rfl rfl, handedBy ++ [(none, message)], waitingBy, ?_⟩
      · have here : observed.shared.sendHere buf outcome = .ok (next.returned message) := by
          simp only [sendHere, if_pos inside, if_pos connected]
          exact bind_eq_ok.mpr ⟨next, sent, rfl⟩
        simp [Observed.step, carry, ConnectionLoop.step, here, begins, inside, connected, ok_bind,
          pure_eq_ok, message]
      · exact {
          handed := by simp [ordered.handed, next, numbered, ConnectionLoop.returned]
          waiting := ordered.waiting
          queued := ordered.queued
          order := fun sender => by
            have before := ordered.order sender
            simp only [sentBy_append] at before ⊢
            rw [← before]
            cases sender with
            | none => simp [sentBy_self, others, coming]
            | some thread =>
                rw [sentBy_other (by simp)]
                simp [coming, next, numbered, ConnectionLoop.returned]
          short := ordered.short
          checked := ordered.checked }
    · refine stepsTo_of_carry (numbered.returned ⟨observed.shared.numbered, buf⟩) ?_ ?_
        ⟨flows.congr rfl rfl, handedBy, waitingBy, ordered.congr rfl rfl (fun _ _ => .rfl) rfl⟩
      · simp [carry, ConnectionLoop.step, sendHere, inside, connected, numbered]
      · simp [begins, connected]
  · exact stepsTo_self kept (by simp [carry, ConnectionLoop.step, sendHere, inside])
      (by simp [begins, inside])

/-- Moving a thread to a place outside `send`, or to where its message is pushed, leaves the
messages of the others coming. -/
theorem coming_setSend (shared : ConnectionLoop Thread) (thread : Thread) (pc : SendPc)
    {sender : Option Thread} (other : sender ≠ some thread) :
    coming (shared.setSend thread pc) sender = coming shared sender := by
  cases sender with
  | none => rfl
  | some thread' =>
      have different : thread' ≠ thread := fun same => other (congrArg some same)
      simp [coming, setSend, different]

/-- `send` in another thread looks at the state. -/
theorem send_stepsTo {observed : Observed Thread} (kept : Kept observed) (thread : Thread)
    {buf : List Byte} (fits : observed.shared.conn.state = .kConnected → buf.length < 2 ^ 31) :
    StepsTo observed (.call (.send thread buf)) := by
  by_cases inside : observed.shared.sends thread = .idle ∧
      observed.shared.loop.calls (some thread) = .idle
  · obtain ⟨flows, handedBy, waitingBy, ordered⟩ := kept
    let message : Message := ⟨observed.shared.numbered, buf⟩
    let numbered := { observed.shared with numbered := observed.shared.numbered + 1 }
    by_cases connected : observed.shared.conn.state = .kConnected
    · refine ⟨⟨numbered.setSend thread (.checked message), observed.begun ++
        [(some thread, message)]⟩, ?_, flows.congr rfl rfl, handedBy, waitingBy, ?_⟩
      · simp [Observed.step, carry, ConnectionLoop.step, send, inside, connected, begins, ok_bind,
          pure_eq_ok, message, numbered]
      · exact {
          handed := ordered.handed
          waiting := ordered.waiting
          queued := ordered.queued
          order := fun sender => by
            have before := ordered.order sender
            rw [sentBy_append _ observed.begun]
            by_cases same : sender = some thread
            · subst same
              rw [sentBy_self, ← before]
              simp [coming, setSend, inside.1]
            · rw [sentBy_other (Ne.symm same), List.append_nil, ← before, coming_setSend _ _ _ same]
              rfl
          short := ordered.short
          checked := fun other message' found => by
            simp only [setSend] at found
            split at found
            · cases found
              exact fits connected
            · exact ordered.checked other message' found }
    · refine stepsTo_of_carry (numbered.returned message) ?_ ?_
        ⟨flows.congr rfl rfl, handedBy, waitingBy, ordered.congr rfl rfl (fun _ _ => .rfl) rfl⟩
      · simp [carry, ConnectionLoop.step, send, inside, connected, numbered, message]
      · simp [begins, connected]
  · refine stepsTo_self kept ?_ ?_
    · simp only [carry, ConnectionLoop.step, send, if_neg inside]
    · simp only [begins]
      rw [if_neg fun both => inside both.1]

/-- `send` pushes the message behind what waits, or goes on in `queueInLoop`. -/
theorem proceed_stepsTo {observed : Observed Thread} (kept : Kept observed) (thread : Thread) :
    StepsTo observed (.call (.proceed thread)) := by
  obtain ⟨flows, handedBy, waitingBy, ordered⟩ := kept
  cases place : observed.shared.sends thread with
  | idle =>
      refine stepsTo_self ⟨flows, handedBy, waitingBy, ordered⟩ ?_ rfl
      simp only [carry, ConnectionLoop.step, ConnectionLoop.proceed, place]
  | checked message =>
      let next := { observed.shared with
        loop := observed.shared.loop.queueInLoop (some thread) (some message)
      }.setSend thread (.queueing message)
      refine stepsTo_of_carry next ?_ rfl
        ⟨flows.congr rfl rfl, handedBy, waitingBy ++ [(some thread, message)], ?_⟩
      · simp only [carry, ConnectionLoop.step, ConnectionLoop.proceed, place, next]
      · exact {
          handed := ordered.handed
          waiting := by
            simp only [next, setSend, EventLoop.waiting_queueInLoop, List.filterMap_append,
              List.map_append, ordered.waiting]
            rfl
          queued := fun entry member => by
            rcases List.mem_append.mp member with there | last
            · exact ordered.queued entry there
            · simp [List.mem_singleton.mp last]
          order := fun sender => by
            have before := ordered.order sender
            rw [← List.append_assoc, sentBy_append]
            by_cases same : sender = some thread
            · subst same
              rw [sentBy_self, ← before]
              simp [coming, next, setSend, place]
            · rw [sentBy_other (Ne.symm same), List.append_nil, ← before]
              exact congrArg _ (coming_setSend _ thread (.queueing message) same)
          short := fun entry member => by
            rcases List.mem_append.mp member with there | last
            · exact ordered.short entry there
            · simpa [List.mem_singleton.mp last] using ordered.checked thread message place
          checked := fun other message' found => by
            simp only [next, setSend] at found
            split at found
            · cases found
            · exact ordered.checked other message' found }
  | queueing message =>
      let moved := { observed.shared with loop := observed.shared.loop.proceed (some thread) }
      have waiting : moved.loop.waiting.filterMap id =
          observed.shared.loop.waiting.filterMap id := by
        simp only [moved, EventLoop.waiting_proceed]
      by_cases done : moved.loop.calls (some thread) = .idle
      · refine stepsTo_of_carry ((moved.setSend thread .idle).returned message) ?_ rfl
          ⟨flows.congr rfl rfl, handedBy, waitingBy, ordered.congr rfl waiting ?_ rfl⟩
        · simp only [carry, ConnectionLoop.step, ConnectionLoop.proceed, place]
          rw [if_pos done]
        · intro other message'
          by_cases same : other = thread
          · simp [ConnectionLoop.returned, setSend, same, place]
          · simp [ConnectionLoop.returned, setSend, same, moved]
      · refine stepsTo_of_carry moved ?_ rfl
          ⟨flows.congr rfl rfl, handedBy, waitingBy, ordered.congr rfl waiting
            (fun _ _ => .rfl) rfl⟩
        simp only [carry, ConnectionLoop.step, ConnectionLoop.proceed, place]
        rw [if_neg done]

/-- Functors of others wait among the messages. -/
theorem queueOther_stepsTo {observed : Observed Thread} (kept : Kept observed)
    (caller : Option Thread) : StepsTo observed (.call (.queueOther caller)) := by
  obtain ⟨flows, handedBy, waitingBy, ordered⟩ := kept
  refine stepsTo_of_carry (observed.shared.queueOther caller) rfl rfl ?_
  unfold ConnectionLoop.queueOther
  split
  · refine ⟨flows.congr rfl rfl, handedBy, waitingBy, ordered.congr rfl ?_ (fun _ _ => .rfl) rfl⟩
    simp [EventLoop.waiting_queueInLoop]
  · exact ⟨flows, handedBy, waitingBy, ordered⟩

theorem proceedOther_stepsTo {observed : Observed Thread} (kept : Kept observed)
    (caller : Option Thread) : StepsTo observed (.call (.proceedOther caller)) := by
  obtain ⟨flows, handedBy, waitingBy, ordered⟩ := kept
  refine stepsTo_of_carry (observed.shared.proceedOther caller) rfl rfl ?_
  unfold ConnectionLoop.proceedOther
  split
  · refine ⟨flows.congr rfl rfl, handedBy, waitingBy, ordered.congr rfl ?_ (fun _ _ => .rfl) rfl⟩
    simp [EventLoop.waiting_proceed]
  · exact ⟨flows, handedBy, waitingBy, ordered⟩

/-- Every possible event goes through. -/
theorem step_stepsTo {observed : Observed Thread} (kept : Kept observed) {event : Traffic Thread}
    (possible : Possible observed event) : StepsTo observed event := by
  cases event with
  | handlerClose =>
      obtain ⟨conn, closed, flows⟩ := kept.1.handlerClose
      obtain ⟨handedBy, waitingBy, ordered⟩ := kept.2
      exact stepsTo_of_carry _ closed rfl
        ⟨flows, handedBy, waitingBy, ordered.congr rfl rfl (fun _ _ => .rfl) rfl⟩
  | call call =>
      obtain ⟨writes, short⟩ := possible
      cases call with
      | advance active outcome => exact advance_stepsTo kept writes
      | sendHere buf outcome => exact sendHere_stepsTo kept short writes
      | send thread buf => exact send_stepsTo kept thread short
      | proceed thread => exact proceed_stepsTo kept thread
      | queueOther caller => exact queueOther_stepsTo kept caller
      | proceedOther caller => exact proceedOther_stepsTo kept caller
      | handleWrite outcome =>
          obtain ⟨conn, written, flows⟩ := kept.1.handleWrite outcome
          obtain ⟨handedBy, waitingBy, ordered⟩ := kept.2
          exact stepsTo_of_carry _ written rfl
            ⟨flows, handedBy, waitingBy, ordered.congr rfl rfl (fun _ _ => .rfl) rfl⟩
      | shutdown =>
          obtain ⟨handedBy, waitingBy, ordered⟩ := kept.2
          refine stepsTo_of_carry observed.shared.shutdown rfl rfl
            ⟨kept.1.shutdown, handedBy, waitingBy, ?_⟩
          unfold ConnectionLoop.shutdown
          split
          · exact ordered.congr rfl rfl (fun _ _ => .rfl) rfl
          · exact ordered

/-! ### Runs -/

omit [DecidableEq Thread] in
/-- Nothing has been sent on a connection that has just been established. -/
theorem flows_established {fd : Fd} {poller : EPollPoller} (fresh : poller.interest.find? fd = none)
    {writeCompleteCallback hightWaterMarkCallback : Bool} {hightWaterMark : Nat}
    {start : ConnectionLoop Thread}
    (made : established fd poller writeCompleteCallback hightWaterMarkCallback hightWaterMark =
      .ok start) : Flows start := by
  obtain ⟨⟨carries, _⟩, _⟩ := HalfClose.kept_established fresh made
  exact ⟨carries.attentive, fun _ => carries.stream, fun down => absurd down carries.up⟩

theorem kept_established {fd : Fd} {poller : EPollPoller}
    (fresh : poller.interest.find? fd = none) {writeCompleteCallback hightWaterMarkCallback : Bool}
    {hightWaterMark : Nat} {start : ConnectionLoop Thread}
    (made : established fd poller writeCompleteCallback hightWaterMarkCallback hightWaterMark =
      .ok start) : Kept ⟨start, []⟩ := by
  refine ⟨flows_established fresh made, [], [], ?_⟩
  obtain ⟨_, _, startEq⟩ := bind_eq_ok.mp made
  obtain rfl := Except.ok.inj startEq
  exact {
    handed := rfl
    waiting := rfl
    queued := fun entry member => by cases member
    order := fun sender => by cases sender <;> rfl
    short := fun entry member => by cases member
    checked := fun thread message found => by cases found }

/-- Nothing of the sender's is on its way to `sendInLoop`. -/
def Settled (shared : ConnectionLoop Thread) (sender : Option Thread) : Prop :=
  coming shared sender = [] ∧ shared.loop.waiting.filterMap id = []

/-- For every interleaving of senders, loop and a close, in which no write fails: what comes to
`sendInLoop` are the messages whose `send` has found the connection connected, those of each sender
in the order of its calls, none of them twice, and all of them once nothing is on its way.  The
socket has taken the beginning of exactly these bytes; while the connection is up the rest waits in
the output buffer. -/
theorem senders_in_order {fd : Fd} {poller : EPollPoller}
    (fresh : poller.interest.find? fd = none) {writeCompleteCallback hightWaterMarkCallback : Bool}
    {hightWaterMark : Nat} {start : ConnectionLoop Thread}
    (made : established fd poller writeCompleteCallback hightWaterMarkCallback hightWaterMark =
      .ok start) (events : List (Traffic Thread))
    (possible : Admissible Observed.step Possible ⟨start, []⟩ events) :
    ∃ last, run Observed.step ⟨start, []⟩ events = .ok last ∧
      last.shared.conn.socket.taken <+: (last.shared.handed.map Message.buf).flatten ∧
      (last.shared.conn.state ≠ .kDisconnected →
        last.shared.conn.socket.taken ++ last.shared.conn.outputBuffer.readable =
          (last.shared.handed.map Message.buf).flatten) ∧
      ∃ handedBy, handedBy.map Prod.snd = last.shared.handed ∧ ∀ sender,
        sentBy sender handedBy <+: sentBy sender last.begun ∧
        (Settled last.shared sender → sentBy sender handedBy = sentBy sender last.begun) := by
  obtain ⟨last, reached, flows, handedBy, waitingBy, ordered⟩ := exists_run_of_inv
    (fun _ _ kept inside => step_stepsTo kept inside) (kept_established fresh made) events possible
  refine ⟨last, reached, flows.taken, flows.up, handedBy, ordered.handed, fun sender => ?_⟩
  have order := ordered.order sender
  rw [sentBy_append, List.append_assoc] at order
  refine ⟨⟨_, order⟩, fun settled => ?_⟩
  have nothing : waitingBy = [] := List.map_eq_nil_iff.mp (ordered.waiting.trans settled.2)
  rw [← order, settled.1, nothing]
  simp [sentBy]

/-- Two threads send, and the loop thread overtakes them from a handler; the socket takes two bytes
and in the next handler nine. -/
def threeSenders : List (Traffic (Fin 2)) :=
  List.replicate 3 (.call (.advance [] (.accepted 0))) ++
    [.call (.advance [.other] (.accepted 0)), .call (.send 0 [0, 0, 0, 1, 65]),
      .call (.send 1 [0, 0, 0, 1, 66]), .call (.proceed 1), .call (.proceed 0),
      .call (.sendHere [0, 0, 0, 1, 67] (.accepted 2))] ++
    List.replicate 9 (.call (.advance [] (.accepted 0))) ++
    [.call (.advance [.other] (.accepted 0)), .call (.handleWrite (.accepted 9)), .handlerClose]

/-- The close cuts the last message. -/
theorem senders_in_order_threeSenders :
    ∃ start, established 3 ⟨PMap.empty⟩ true false 65536 = .ok start ∧
      ∃ last, run Observed.step ⟨start, []⟩ threeSenders = .ok last ∧
        last.shared.conn.socket.taken <+: (last.shared.handed.map Message.buf).flatten := by
  have fresh : (⟨PMap.empty⟩ : EPollPoller).interest.find? 3 = none := rfl
  refine ⟨_, rfl, (senders_in_order fresh rfl threeSenders ?_).imp fun last carried =>
    ⟨carried.1, carried.2.1⟩⟩
  decide +kernel

/-! ### The peer -/

/-- A message as `sendMsg` builds it. -/
def FromSendMsg (buf : List Byte) : Prop :=
  ∃ text, text.length + 4 < 2 ^ 31 ∧ Module.SendMsg.realmsg text = .ok buf

/-- The users of the connection send only such messages. -/
def SendsMessages : Traffic Thread → Prop
  | .call (.send _ buf) => FromSendMsg buf
  | .call (.sendHere buf _) => FromSendMsg buf
  | _ => True

omit [DecidableEq Thread] in
/-- A message is a frame. -/
theorem FromSendMsg.frame_eq {buf : List Byte} (built : FromSendMsg buf) :
    ∃ text, text.length < 256 ^ headerSize ∧ frame headerSize text = buf := by
  obtain ⟨text, short, builtEq⟩ := built
  refine ⟨text, ?_, Except.ok.inj ((Module.SendMsg.realmsg_eq short).symm.trans builtEq)⟩
  simp only [headerSize]
  omega

/-- What has been begun are such messages. -/
theorem begun_fromSendMsg {start last : Observed Thread} {events : List (Traffic Thread)}
    (reached : run Observed.step start events = .ok last)
    (built : ∀ event ∈ events, SendsMessages event)
    (before : ∀ entry ∈ start.begun, FromSendMsg entry.2.buf) :
    ∀ entry ∈ last.begun, FromSendMsg entry.2.buf := by
  refine (@always_of_admissible _ _ _ Observed.step
    (fun observed => ∀ entry ∈ observed.begun, FromSendMsg entry.2.buf) (fun _ => SendsMessages)
    ?_ _ before _ (admissible_of_forall_mem built start)).last reached
  intro observed event next good sends stepEq entry member
  obtain ⟨shared, _, nextEq⟩ := bind_eq_ok.mp stepEq
  obtain rfl := Except.ok.inj nextEq
  rcases List.mem_append.mp member with there | now
  · exact good entry there
  · unfold begins at now
    split at now
    · split at now
      · exact List.mem_singleton.mp now ▸ sends
      · cases now
    · split at now
      · exact List.mem_singleton.mp now ▸ sends
      · cases now
    · cases now

omit [DecidableEq Thread] in
/-- The texts of framed messages, with their senders. -/
theorem exists_texts {sent : List (Sent Thread)}
    (framed : ∀ entry ∈ sent, ∃ text, text.length < 256 ^ headerSize ∧
      frame headerSize text = entry.2.buf) :
    ∃ texts : List (Option Thread × List Byte),
      (∀ entry ∈ texts, entry.2.length < 256 ^ headerSize) ∧
      texts.map (fun entry => (entry.1, frame headerSize entry.2)) =
        sent.map fun entry => (entry.1, entry.2.buf) := by
  induction sent with
  | nil => exact ⟨[], by simp, rfl⟩
  | cons entry sent inductionHypothesis =>
      obtain ⟨texts, short, same⟩ := inductionHypothesis fun other member =>
        framed other (List.mem_cons_of_mem _ member)
      obtain ⟨text, fits, whole⟩ := framed entry List.mem_cons_self
      refine ⟨(entry.1, text) :: texts, ?_, ?_⟩
      · simpa [fits] using short
      · simp [whole, same]

/-- The texts of one sender, as frames, are its messages. -/
theorem frames_of_sender {texts : List (Option Thread × List Byte)} {sent : List (Sent Thread)}
    (same : texts.map (fun entry => (entry.1, frame headerSize entry.2)) =
      sent.map fun entry => (entry.1, entry.2.buf)) (sender : Option Thread) :
    (texts.filter fun entry => entry.1 = sender).map (fun entry => frame headerSize entry.2) =
      (sentBy sender sent).map fun entry => entry.2.buf := by
  have filtered :=
    congrArg (fun all => (all.filter fun entry => entry.1 = sender).map Prod.snd) same
  simpa [List.filter_map, Function.comp_def, sentBy] using filtered

/-- For every interleaving of senders, loop and a close, in which no write fails: when the threads
send what `sendMsg` builds, the peer at any time has read whole messages, as they were sent, those
of each sender in the order of its calls from the first on, and none of them twice; and it has read
all messages of a sender when none of them is on its way any more and the output buffer is empty. -/
theorem client_reads {fd : Fd} {poller : EPollPoller} (fresh : poller.interest.find? fd = none)
    {writeCompleteCallback hightWaterMarkCallback : Bool} {hightWaterMark : Nat}
    {start : ConnectionLoop Thread}
    (made : established fd poller writeCompleteCallback hightWaterMarkCallback hightWaterMark =
      .ok start) (events : List (Traffic Thread))
    (possible : Admissible Observed.step Possible ⟨start, []⟩ events)
    (built : ∀ event ∈ events, SendsMessages event) :
    ∃ last, run Observed.step ⟨start, []⟩ events = .ok last ∧
      ∃ readBy : List (Option Thread × List Byte),
        received headerSize last.shared.conn.socket.taken = readBy.map Prod.snd ∧ ∀ sender,
          (readBy.filter fun entry => entry.1 = sender).map (fun entry => frame headerSize entry.2)
            <+: (sentBy sender last.begun).map (fun entry => entry.2.buf) ∧
          (Settled last.shared sender → last.shared.conn.state ≠ .kDisconnected →
            last.shared.conn.outputBuffer.readable = [] →
            (readBy.filter fun entry => entry.1 = sender).map
                (fun entry => frame headerSize entry.2) =
              (sentBy sender last.begun).map fun entry => entry.2.buf) := by
  obtain ⟨last, reached, taken, whole, handedBy, handed, order⟩ :=
    senders_in_order fresh made events possible
  have fromSendMsg := begun_fromSendMsg reached built (by simp)
  have framed : ∀ entry ∈ handedBy, ∃ text, text.length < 256 ^ headerSize ∧
      frame headerSize text = entry.2.buf := by
    intro entry member
    have mine : entry ∈ sentBy entry.1 handedBy := List.mem_filter.mpr ⟨member, by simp⟩
    have begun := List.mem_of_mem_filter ((order entry.1).1.subset mine)
    exact (fromSendMsg entry begun).frame_eq
  obtain ⟨texts, fits, same⟩ := exists_texts framed
  have bytes : (last.shared.handed.map Message.buf).flatten =
      ((texts.map Prod.snd).map (frame headerSize)).flatten := by
    have bufs := congrArg (List.map Prod.snd) same
    simp only [List.map_map] at bufs
    rw [← handed, List.map_map, List.map_map]
    exact congrArg List.flatten bufs.symm
  have short : ∀ text ∈ texts.map Prod.snd, text.length < 256 ^ headerSize := by
    intro text member
    obtain ⟨entry, there, rfl⟩ := List.mem_map.mp member
    exact fits entry there
  have wide : 0 < headerSize := by decide
  have read := received_of_prefix wide short (bytes ▸ taken)
  refine ⟨last, reached, texts.take (received headerSize last.shared.conn.socket.taken).length, ?_,
    fun sender => ⟨?_, fun settled up drained => ?_⟩⟩
  · rw [List.map_take]
    exact List.prefix_iff_eq_take.mp read
  · refine List.IsPrefix.trans ?_ ((order sender).1.map _)
    rw [← frames_of_sender same]
    exact ((List.take_prefix _ _).filter _).map _
  · have all : received headerSize last.shared.conn.socket.taken = texts.map Prod.snd := by
      have stream := whole up
      rw [drained, List.append_nil, bytes] at stream
      rw [stream, received_frames wide short]
    rw [← (order sender).2 settled, ← frames_of_sender same, all, List.length_map, List.take_length]

/-- Each of the three senders sends one message, so the peer reads at most that one of each. -/
theorem client_reads_threeSenders :
    ∃ start, established 3 ⟨PMap.empty⟩ true false 65536 = .ok start ∧
      ∃ last, run Observed.step ⟨start, []⟩ threeSenders = .ok last ∧
        ∃ readBy : List (Option (Fin 2) × List Byte),
          received headerSize last.shared.conn.socket.taken = readBy.map Prod.snd ∧ ∀ sender,
            (readBy.filter fun entry => entry.1 = sender).map
                (fun entry => frame headerSize entry.2) <+:
              (sentBy sender last.begun).map fun entry => entry.2.buf := by
  have fresh : (⟨PMap.empty⟩ : EPollPoller).interest.find? 3 = none := rfl
  have built : ∀ event ∈ threeSenders, SendsMessages event := by
    have framed (byte : Byte) : FromSendMsg [0, 0, 0, 1, byte] :=
      have short : [byte].length + 4 < 2 ^ 31 := by simp
      have built : frame headerSize [byte] = [0, 0, 0, 1, byte] := by
        simp [frame, headerSize, encode]
      ⟨[byte], short, (Module.SendMsg.realmsg_eq short).trans (congrArg _ built)⟩
    simp [threeSenders, SendsMessages, framed, or_imp, forall_and]
  refine ⟨_, rfl, (client_reads fresh rfl threeSenders ?_ built).imp fun last carried =>
    ⟨carried.1, carried.2.imp fun readBy read => ⟨read.1, fun sender => (read.2 sender).1⟩⟩⟩
  decide +kernel

end GomukuServer.Proofs.SendersInOrder
