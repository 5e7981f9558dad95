/-
Module: GomukuServer.Proofs.StreamReassembly
Layer: Proofs
Purpose: Which ways of cutting a stream of messages into reads `dispatch` puts together again.  Its
  length comparison is the wrong way round: it takes a message out when there is no more in the
  buffer than the message, complete or not.  So the handlers get exactly the messages if and only if
  every frame ends with a chunk and is cut, if at all, only within its header, and no message brings
  down the log call in front of its handler.
Trusted boundary: the JSON reader is a parameter
Main exports: Message, deliver, Complete, Reassembled, reassembled_iff, not_reassembled_twoInOne
-/
import GomukuServer.Net.ProtocolDispatcher

namespace GomukuServer.Proofs.StreamReassembly

open Base Base.Framing Base.Printf MyMuduo Net Net.ProtocolDispatcher

/-- A message the server knows: the body is the text of a JSON object that names a registered
protocol. -/
structure Message (disp : ProtocolDispatcher) where
  body : List Byte
  members : List (String × Json.Value)
  protocol : Int
  nonempty : body ≠ []
  short : body.length ≤ 1024
  parsed : disp.parse body = .ok (some (.object members))
  named : Json.Value.find? "protocol" members = some (.int protocol)
  inRange : -2 ^ 31 ≤ protocol ∧ protocol < 2 ^ 31
  registered : disp.registered protocol = true

variable {disp : ProtocolDispatcher}

namespace Message

/-- The call the message asks for. -/
def call (message : Message disp) : Call :=
  ⟨message.protocol, (Json.Value.find? "data" message.members).getD .null⟩

/-- The message on the wire. -/
def frame (message : Message disp) : List Byte := Framing.frame headerSize message.body

/-- The text of the message has no conversion that takes an argument. -/
def Printable (message : Message disp) : Prop :=
  takesArgument (disp.receivedStyledString message.body) = false

/-- `dispatch` finds the handler of a message, and logs the message before it calls it. -/
theorem handle_eq (message : Message disp) :
    disp.handle message.body = (do
      dlog (disp.receivedStyledString message.body)
      pure (some message.call)) := by
  have number : (Json.Value.int message.protocol).asInt = .ok message.protocol := by
    unfold Json.Value.asInt
    exact if_pos message.inRange
  simp [handle, message.parsed, Json.Value.subscript, message.named, number, message.registered,
    call]

theorem handle_of_printable {message : Message disp} (printable : message.Printable) :
    disp.handle message.body = .ok (some message.call) := by
  rw [handle_eq, dlog_eq_ok.mpr printable]
  rfl

end Message

/-- One `handleRead` for each chunk, and the handler calls they lead to. -/
def deliver (disp : ProtocolDispatcher) :
    Buffer → List (List Byte) → Except Fault (Buffer × List Dispatched)
  | buf, [] => .ok (buf, [])
  | buf, chunk :: chunks => do
      let (buf, call) ← disp.handleRead buf chunk
      let (buf, calls) ← deliver disp buf chunks
      pure (buf, call.toList ++ calls)

/-- The whole message had been received when its handler was called. -/
def Complete (called : Dispatched) : Prop := called.frame <+: called.received

/-- The chunks lead to one handler call for each message, in order, and each is for a complete body.
-/
def Reassembled (messages : List (Message disp)) (chunks : List (List Byte)) : Prop :=
  ∃ buf calls, deliver disp Buffer.new chunks = .ok (buf, calls) ∧
    calls.map (fun called => (called.msg, called.call)) =
      messages.map (fun message => (message.body, message.call)) ∧
    ∀ called ∈ calls, Complete called

/-! ### Frames that end with a chunk -/

theorem deliver_cons {buf last : Buffer} {chunk : List Byte} {chunks : List (List Byte)}
    {calls : List Dispatched} :
    deliver disp buf (chunk :: chunks) = .ok (last, calls) ↔
      ∃ next call rest, disp.handleRead buf chunk = .ok (next, call) ∧
        deliver disp next chunks = .ok (last, rest) ∧ calls = call.toList ++ rest := by
  simp only [deliver, bind_eq_ok, pure_eq_ok, Except.ok.injEq, Prod.exists, Prod.mk.injEq]
  constructor
  · rintro ⟨next, call, read, rest, calls', delivered, rfl, rfl⟩
    exact ⟨next, call, calls', read, delivered, rfl⟩
  · rintro ⟨next, call, calls', read, delivered, rfl⟩
    exact ⟨next, call, read, last, calls', delivered, rfl, rfl⟩

/-- Deliveries compose. -/
theorem deliver_append {buf middle last : Buffer} {first second : List (List Byte)}
    {calls rest : List Dispatched} (firstOk : deliver disp buf first = .ok (middle, calls))
    (secondOk : deliver disp middle second = .ok (last, rest)) :
    deliver disp buf (first ++ second) = .ok (last, calls ++ rest) := by
  induction first generalizing buf calls with
  | nil =>
      simp only [deliver, Except.ok.injEq, Prod.mk.injEq] at firstOk
      obtain ⟨rfl, rfl⟩ := firstOk
      exact secondOk
  | cons chunk first inductionHypothesis =>
      obtain ⟨next, call, calls', read, delivered, rfl⟩ := deliver_cons.mp firstOk
      exact deliver_cons.mpr
        ⟨next, call, calls' ++ rest, read, inductionHypothesis delivered, by simp⟩

/-- As long as no more than a header has arrived, nothing is dispatched. -/
theorem deliver_short {buf : Buffer} {chunks : List (List Byte)}
    (short : (buf.readable ++ chunks.flatten).length ≤ headerSize) :
    ∃ last, deliver disp buf chunks = .ok (last, []) ∧
      last.readable = buf.readable ++ chunks.flatten := by
  induction chunks generalizing buf with
  | nil => exact ⟨buf, rfl, by simp⟩
  | cons chunk chunks inductionHypothesis =>
      have arrived : (buf.readfd chunk).readable = buf.readable ++ chunk := by simp
      have shortHere : (buf.readfd chunk).readableBytes ≤ headerSize := by
        rw [← Buffer.length_readable, arrived]
        simp only [List.flatten_cons, List.length_append] at short ⊢
        omega
      obtain ⟨last, delivered, readable⟩ := @inductionHypothesis (buf.readfd chunk) (by
        simpa using short)
      refine ⟨last, deliver_cons.mpr ⟨buf.readfd chunk, none, [], ?_, delivered, rfl⟩, ?_⟩
      · simp only [handleRead, dispatch, extract_short shortHere]
        split <;> rfl
      · simp [readable]

/-- The chunk that completes a frame leads to the call for its message. -/
theorem handleRead_frame {buf : Buffer} {chunk : List Byte} {message : Message disp}
    (printable : message.Printable) (nonempty : chunk ≠ [])
    (whole : buf.readable ++ chunk = message.frame) :
    ∃ next, disp.handleRead buf chunk =
        .ok (next, some ⟨message.frame, message.body, message.call⟩) ∧ next.readable = [] := by
  have arrived : (buf.readfd chunk).readable = message.frame := by simp [whole]
  obtain ⟨next, taken, empty⟩ := extract_frame message.nonempty message.short arrived
  refine ⟨next, ?_, empty⟩
  simp only [handleRead, dispatch, if_neg nonempty, taken, arrived, ok_bind,
    Message.handle_of_printable printable]
  rfl

/-- A frame that ends with a chunk and is cut only in its header leads to the call for its message.
-/
theorem deliver_group {buf : Buffer} {group : List (List Byte)} {message : Message disp}
    (printable : message.Printable) (empty : buf.readable = [])
    (nonempty : ∀ chunk ∈ group, chunk ≠ [])
    (cut : CutIn headerSize group message.frame) :
    ∃ last, deliver disp buf group =
        .ok (last, [⟨message.frame, message.body, message.call⟩]) ∧ last.readable = [] := by
  obtain ⟨whole, header⟩ := cut
  have some : group ≠ [] := by
    rintro rfl
    simp [Message.frame, Framing.frame, message.nonempty] at whole
  have split : group.dropLast ++ [group.getLast some] = group := List.dropLast_append_getLast some
  obtain ⟨middle, waiting, readable⟩ := @deliver_short disp buf group.dropLast (by
    simpa [empty] using header)
  have completes : middle.readable ++ group.getLast some = message.frame := by
    rw [readable, empty, ← whole]
    conv_rhs => rw [← split]
    simp
  obtain ⟨last, read, drained⟩ := handleRead_frame printable
    (nonempty _ (List.getLast_mem some)) completes
  refine ⟨last, ?_, drained⟩
  rw [← split]
  exact deliver_append waiting (deliver_cons.mpr ⟨last, _, [], read, rfl, rfl⟩)

/-- Frame after frame: one complete call for each. -/
theorem deliver_groups {buf : Buffer} {groups : List (List (List Byte))}
    {messages : List (Message disp)} (printable : ∀ message ∈ messages, message.Printable)
    (empty : buf.readable = []) (nonempty : ∀ chunk ∈ groups.flatten, chunk ≠ [])
    (cut : List.Forall₂ (CutIn headerSize) groups (messages.map Message.frame)) :
    ∃ last, deliver disp buf groups.flatten =
      .ok (last, messages.map fun message => ⟨message.frame, message.body, message.call⟩) := by
  induction messages generalizing buf groups with
  | nil =>
      obtain rfl := List.forall₂_nil_right_iff.mp cut
      exact ⟨buf, rfl⟩
  | cons message messages inductionHypothesis =>
      obtain ⟨group, rest, first, others, rfl⟩ := List.forall₂_cons_right_iff.mp cut
      simp only [List.flatten_cons, List.mem_append] at nonempty
      obtain ⟨middle, firstOk, drained⟩ := deliver_group
        (printable message (List.mem_cons_self ..)) empty
        (fun chunk inside => nonempty chunk (Or.inl inside)) first
      obtain ⟨last, restOk⟩ := inductionHypothesis
        (fun other inside => printable other (List.mem_cons_of_mem _ inside)) drained
        (fun chunk inside => nonempty chunk (Or.inr inside)) others
      exact ⟨last, deliver_append firstOk restOk⟩

/-! ### What a call says about the chunks -/

/-- There is more than a header, and `extract` will not touch it however much arrives: the length is
beyond the limit, or there is more in the buffer than the message. -/
def Stuck (buf : Buffer) : Prop :=
  headerSize < buf.readableBytes ∧
    (maxSize < readSize buf ∨ toSize (readSize buf) < buf.readableBytes - headerSize)

/-- What a normally returning `extract` did. -/
theorem extract_cases {buf rest : Buffer} {msg : Option (List Byte)}
    (taken : extract buf = .ok (rest, msg)) :
    (msg = none ∧ rest = buf ∧ (buf.readableBytes ≤ headerSize ∨ Stuck buf)) ∨
      ∃ text, msg = some text ∧ rest.readable = [] ∧ headerSize < buf.readableBytes ∧
        readSize buf ≤ maxSize ∧ text.length = toSize (readSize buf) ∧
        buf.readableBytes ≤ headerSize + text.length := by
  unfold extract at taken
  split at taken
  case isFalse short =>
    simp only [Except.ok.injEq, Prod.mk.injEq] at taken
    exact .inl ⟨taken.2.symm, taken.1.symm, .inl (Nat.le_of_not_lt short)⟩
  case isTrue header =>
    dsimp only at taken
    split at taken
    case isTrue long =>
      simp only [Except.ok.injEq, Prod.mk.injEq] at taken
      exact .inl ⟨taken.2.symm, taken.1.symm, .inr ⟨header, .inl long⟩⟩
    case isFalse accepted =>
      split at taken
      case isFalse more =>
        simp only [Except.ok.injEq, Prod.mk.injEq] at taken
        exact .inl ⟨taken.2.symm, taken.1.symm, .inr ⟨header, .inr (Nat.lt_of_not_le more)⟩⟩
      case isTrue noMore =>
        obtain ⟨⟨text, tail⟩, retrieved, returned⟩ := bind_eq_ok.mp taken
        simp only [pure_eq_ok, Except.ok.injEq, Prod.mk.injEq] at returned
        obtain ⟨rfl, rfl⟩ := returned
        unfold Buffer.retrieveAsString at retrieved
        split at retrieved
        · simp at retrieved
        · split at retrieved
          · simp at retrieved
          · rename_i inVector
            simp only [Except.ok.injEq, Prod.mk.injEq] at retrieved
            obtain ⟨rfl, rfl⟩ := retrieved
            have length := List.length_take_of_le (Nat.le_of_not_lt inVector)
            refine .inr ⟨_, rfl, ?_, header, Int.not_lt.mp accepted, length, ?_⟩
            · rw [Buffer.readable_retrieve, List.drop_eq_nil_of_le]
              rw [Buffer.readable_retrieve, List.length_drop, Buffer.length_readable]
              exact noMore
            · rw [length]
              omega

/-- What a normally returning `handleRead` of a chunk did. -/
theorem handleRead_cases {buf next : Buffer} {chunk : List Byte} {call : Option Dispatched}
    (nonempty : chunk ≠ []) (read : disp.handleRead buf chunk = .ok (next, call)) :
    (call = none ∧ next.readable = buf.readable ++ chunk ∧
        (next.readableBytes ≤ headerSize ∨ Stuck next)) ∨
      (call = none ∧ next.readable = [] ∧ headerSize < (buf.readable ++ chunk).length) ∨
      ∃ called, call = some called ∧ next.readable = [] ∧ called.received = buf.readable ++ chunk ∧
        called.received.length ≤ called.frame.length := by
  have arrived : (buf.readfd chunk).readable = buf.readable ++ chunk := by simp
  simp only [handleRead, dispatch, if_neg nonempty] at read
  obtain ⟨⟨rest, msg⟩, taken, handled⟩ := bind_eq_ok.mp read
  rcases extract_cases taken with ⟨rfl, rfl, waiting⟩ | ⟨text, rfl, empty, header, _, _, noMore⟩
  · simp only [pure_eq_ok, Except.ok.injEq, Prod.mk.injEq] at handled
    obtain ⟨rfl, rfl⟩ := handled
    exact .inl ⟨rfl, arrived, waiting⟩
  · obtain ⟨answer, answered, returned⟩ := bind_eq_ok.mp handled
    simp only [pure_eq_ok, Except.ok.injEq, Prod.mk.injEq] at returned
    obtain ⟨rfl, rfl⟩ := returned
    rw [← Buffer.length_readable, arrived] at header noMore
    cases answer with
    | none => exact .inr (.inl ⟨rfl, empty, header⟩)
    | some answer =>
        refine .inr (.inr ⟨_, rfl, empty, arrived, ?_⟩)
        rw [Dispatched.frame, length_frame, arrived]
        exact noMore

/-- More bytes do not help a stuck buffer. -/
theorem Stuck.readfd {buf : Buffer} (stuck : Stuck buf) (chunk : List Byte) :
    Stuck (buf.readfd chunk) := by
  obtain ⟨header, cannot⟩ := stuck
  have arrived : (buf.readfd chunk).readableBytes = buf.readableBytes + chunk.length := by
    rw [← Buffer.length_readable, Buffer.readable_readfd, List.length_append,
      Buffer.length_readable]
  have sameHeader : (buf.readfd chunk).readable.take headerSize = buf.readable.take headerSize := by
    rw [Buffer.readable_readfd]
    exact List.take_append_of_le_length (by rw [Buffer.length_readable]; omega)
  have sameSize : readSize (buf.readfd chunk) = readSize buf := by
    rw [readSize_eq (by omega), readSize_eq (by omega), sameHeader]
  refine ⟨by omega, ?_⟩
  rw [sameSize, arrived]
  rcases cannot with long | more
  · exact .inl long
  · exact .inr (by omega)

/-- `extract` leaves a stuck buffer alone. -/
theorem extract_stuck {buf : Buffer} (stuck : Stuck buf) : extract buf = .ok (buf, none) := by
  obtain ⟨header, long | more⟩ := stuck
  · rw [extract, if_pos header, if_pos long]
  · rw [extract, if_pos header]
    dsimp only
    split
    · rfl
    · rw [if_neg (Nat.not_le.mpr more)]

/-- Nothing is ever dispatched from a stuck buffer. -/
theorem deliver_stuck {buf last : Buffer} {chunks : List (List Byte)} {calls : List Dispatched}
    (stuck : Stuck buf) (nonempty : ∀ chunk ∈ chunks, chunk ≠ [])
    (delivered : deliver disp buf chunks = .ok (last, calls)) : calls = [] := by
  induction chunks generalizing buf calls with
  | nil =>
      simp only [deliver, Except.ok.injEq, Prod.mk.injEq] at delivered
      exact delivered.2.symm
  | cons chunk chunks inductionHypothesis =>
      obtain ⟨next, call, rest, read, others, rfl⟩ := deliver_cons.mp delivered
      have still := stuck.readfd chunk
      simp only [handleRead, dispatch, if_neg (nonempty chunk (by simp)), extract_stuck still,
        ok_bind, pure_eq_ok, Except.ok.injEq, Prod.mk.injEq] at read
      obtain ⟨rfl, rfl⟩ := read
      simpa using inductionHypothesis still
        (fun chunk inside => nonempty chunk (List.mem_cons_of_mem _ inside)) others

/-- A complete call was made with nothing but its frame in the buffer. -/
theorem received_eq_frame {called : Dispatched} (complete : Complete called)
    (noMore : called.received.length ≤ called.frame.length) : called.received = called.frame :=
  (complete.eq_of_length_le noMore).symm

/-- Complete calls use up bytes that have arrived, each the bytes of its own frame. -/
theorem length_frames_le {buf last : Buffer} {chunks : List (List Byte)} {calls : List Dispatched}
    (nonempty : ∀ chunk ∈ chunks, chunk ≠ [])
    (delivered : deliver disp buf chunks = .ok (last, calls))
    (complete : ∀ called ∈ calls, Complete called) :
    (calls.map Dispatched.frame).flatten.length ≤
      buf.readable.length + chunks.flatten.length := by
  induction chunks generalizing buf calls with
  | nil =>
      simp only [deliver, Except.ok.injEq, Prod.mk.injEq] at delivered
      obtain ⟨_, rfl⟩ := delivered
      simp
  | cons chunk chunks inductionHypothesis =>
      obtain ⟨next, call, rest, read, others, rfl⟩ := deliver_cons.mp delivered
      have later := inductionHypothesis
        (fun chunk inside => nonempty chunk (List.mem_cons_of_mem _ inside)) others
        (fun called inside => complete called (List.mem_append_right _ inside))
      simp only [List.flatten_cons, List.length_append]
      rcases handleRead_cases (nonempty chunk (by simp)) read with
        ⟨rfl, readable, _⟩ | ⟨rfl, empty, _⟩ | ⟨called, rfl, empty, received, noMore⟩
      · rw [readable, List.length_append] at later
        simpa [Nat.add_assoc] using later
      · rw [empty, List.length_nil] at later
        simp only [Option.toList_none, List.nil_append]
        omega
      · rw [empty, List.length_nil] at later
        have whole := congrArg List.length
          (received_eq_frame (complete called (by simp)) noMore)
        rw [received, List.length_append] at whole
        simp only [Option.toList_some, List.singleton_append, List.map_cons, List.flatten_cons,
          List.length_append]
        omega

/-- If complete calls have used up all bytes, the chunks end with the frames.  `waiting` are the
chunks that have arrived since the last call. -/
theorem endsWithFrames_of_deliver {buf last : Buffer} {waiting chunks : List (List Byte)}
    {calls : List Dispatched} (readable : buf.readable = waiting.flatten)
    (header : waiting.flatten.length ≤ headerSize)
    (nonempty : ∀ chunk ∈ waiting ++ chunks, chunk ≠ [])
    (delivered : deliver disp buf chunks = .ok (last, calls))
    (complete : ∀ called ∈ calls, Complete called)
    (total : (calls.map Dispatched.frame).flatten.length =
      waiting.flatten.length + chunks.flatten.length) :
    EndsWithFrames headerSize (waiting ++ chunks) (calls.map Dispatched.frame) := by
  induction chunks generalizing buf waiting calls with
  | nil =>
      simp only [deliver, Except.ok.injEq, Prod.mk.injEq] at delivered
      obtain ⟨_, rfl⟩ := delivered
      have none : waiting = [] := by
        cases waiting with
        | nil => rfl
        | cons chunk waiting =>
            have some := List.length_pos_iff.mpr (nonempty chunk (by simp))
            simp only [List.map_nil, List.flatten_nil, List.length_nil, List.flatten_cons,
              List.length_append] at total
            omega
      subst none
      exact ⟨[], rfl, .nil⟩
  | cons chunk chunks inductionHypothesis =>
      obtain ⟨next, call, rest, read, others, rfl⟩ := deliver_cons.mp delivered
      have nonemptyRest : ∀ chunk ∈ chunks, chunk ≠ [] := fun chunk inside =>
        nonempty chunk (List.mem_append_right _ (List.mem_cons_of_mem _ inside))
      have completeRest : ∀ called ∈ rest, Complete called := fun called inside =>
        complete called (List.mem_append_right _ inside)
      simp only [List.flatten_cons, List.length_append] at total
      rcases handleRead_cases (nonempty chunk (by simp)) read with
        ⟨rfl, arrived, short | stuck⟩ | ⟨rfl, empty, some⟩ | ⟨called, rfl, empty, received, noMore⟩
      · -- still within the header
        rw [readable] at arrived
        have shorter : (waiting ++ [chunk]).flatten.length ≤ headerSize := by
          rw [← Buffer.length_readable, arrived] at short
          simpa using short
        have grouped := @inductionHypothesis next (waiting ++ [chunk]) rest
          (by simpa using arrived) shorter (by simpa using nonempty) others completeRest
          (by simpa [Nat.add_assoc] using total)
        simpa using grouped
      · -- stuck: the bytes in the buffer are never used up
        obtain rfl := deliver_stuck stuck nonemptyRest others
        have some := stuck.1
        rw [← Buffer.length_readable, arrived, readable, List.length_append] at some
        simp only [Option.toList_none, List.append_nil, List.map_nil, List.flatten_nil,
          List.length_nil] at total
        omega
      · -- lost: the rest of the bytes is not enough
        have later := length_frames_le nonemptyRest others completeRest
        rw [empty, List.length_nil] at later
        rw [readable, List.length_append] at some
        simp only [Option.toList_none, List.nil_append] at total
        omega
      · have whole := received_eq_frame (complete called (by simp)) noMore
        rw [received, readable] at whole
        have length := congrArg List.length whole
        rw [List.length_append] at length
        simp only [Option.toList_some, List.singleton_append, List.map_cons, List.flatten_cons,
          List.length_append] at total
        have totalRest : (rest.map Dispatched.frame).flatten.length =
            ([] : List (List Byte)).flatten.length + chunks.flatten.length := by
          rw [List.flatten_nil, List.length_nil]
          omega
        obtain ⟨groups, flat, cut⟩ := inductionHypothesis empty
          (by simp) nonemptyRest others completeRest totalRest
        refine ⟨(waiting ++ [chunk]) :: groups, ?_, .cons ⟨?_, ?_⟩ cut⟩
        · rw [List.flatten_cons, flat]
          simp
        · simpa using whole
        · simpa using header

/-- A message for which a handler has been called was logged before. -/
theorem printable_of_handleRead {buf next : Buffer} {chunk : List Byte} {called : Dispatched}
    (read : disp.handleRead buf chunk = .ok (next, some called)) {message : Message disp}
    (same : called.msg = message.body) : message.Printable := by
  unfold handleRead at read
  split at read
  · cases read
  · obtain ⟨⟨rest, msg⟩, _, handled⟩ := bind_eq_ok.mp read
    cases msg with
    | none => cases handled
    | some text =>
        obtain ⟨answer, answered, returned⟩ := bind_eq_ok.mp handled
        cases answer with
        | none => cases returned
        | some answer =>
            obtain rfl := Option.some.inj (Prod.mk.inj (Except.ok.inj returned)).2
            rw [show text = message.body from same, message.handle_eq] at answered
            obtain ⟨_, logged, _⟩ := bind_eq_ok.mp answered
            exact dlog_eq_ok.mp logged

/-- Messages for which handlers have been called were all logged. -/
theorem printable_of_deliver {buf last : Buffer} {chunks : List (List Byte)}
    {calls : List Dispatched} (delivered : deliver disp buf chunks = .ok (last, calls)) :
    ∀ called ∈ calls, ∀ message : Message disp, called.msg = message.body →
      message.Printable := by
  induction chunks generalizing buf calls with
  | nil =>
      simp only [deliver, Except.ok.injEq, Prod.mk.injEq] at delivered
      obtain ⟨_, rfl⟩ := delivered
      simp
  | cons chunk chunks inductionHypothesis =>
      obtain ⟨next, call, rest, read, others, rfl⟩ := deliver_cons.mp delivered
      intro called inside message same
      rcases List.mem_append.mp inside with here | there
      · rw [Option.mem_toList] at here
        obtain rfl : call = some called := here
        exact printable_of_handleRead read same
      · exact inductionHypothesis others called there message same

/-- For every sequence of messages and every way of cutting their frames into chunks that are not
empty: the handlers are called for exactly the messages, in order and each with a complete body, if
and only if every frame ends with a chunk and is cut, if at all, only within its header, and no text
of a message has a conversion that takes an argument. -/
theorem reassembled_iff (messages : List (Message disp)) (chunks : List (List Byte))
    (nonempty : ∀ chunk ∈ chunks, chunk ≠ [])
    (cut : chunks.flatten = (messages.map Message.frame).flatten) :
    Reassembled messages chunks ↔
      EndsWithFrames headerSize chunks (messages.map Message.frame) ∧
        ∀ message ∈ messages, message.Printable := by
  constructor
  · rintro ⟨last, calls, delivered, sameCalls, complete⟩
    have printable : ∀ message ∈ messages, message.Printable := by
      intro message inside
      have listed : (message.body, message.call) ∈ calls.map fun called =>
          (called.msg, called.call) := sameCalls ▸ List.mem_map_of_mem inside
      obtain ⟨called, there, same⟩ := List.mem_map.mp listed
      exact printable_of_deliver delivered called there message (Prod.mk.inj same).1
    refine ⟨?_, printable⟩
    have sameFrames : calls.map Dispatched.frame = messages.map Message.frame := by
      have bodies := congrArg (List.map (Framing.frame headerSize ∘ Prod.fst)) sameCalls
      simp only [List.map_map, Function.comp_def] at bodies
      exact bodies
    have total : (calls.map Dispatched.frame).flatten.length = 0 + chunks.flatten.length := by
      rw [sameFrames, ← cut, Nat.zero_add]
    rw [← sameFrames]
    have start : Buffer.new.readable = ([] : List (List Byte)).flatten := Buffer.readable_new
    exact endsWithFrames_of_deliver start (by simp) nonempty delivered complete total
  · rintro ⟨⟨groups, rfl, grouped⟩, printable⟩
    obtain ⟨last, delivered⟩ := deliver_groups printable Buffer.readable_new nonempty grouped
    refine ⟨last, _, delivered, ?_, ?_⟩
    · simp
    · intro called inside
      obtain ⟨message, _, rfl⟩ := List.mem_map.mp inside
      exact List.prefix_refl _

/-- The text of a match request, an object whose only member is the protocol number 2001. -/
def matchStartText : List Byte :=
  [0x7b, 0x22, 0x70, 0x72, 0x6f, 0x74, 0x6f, 0x63, 0x6f, 0x6c, 0x22, 0x3a, 0x32, 0x30, 0x30, 0x31,
    0x7d]

/-- A dispatcher for match requests. -/
def matchDispatcher : ProtocolDispatcher where
  parse text :=
    .ok (if text = matchStartText then some (.object [("protocol", .int 2001)]) else none)
  receivedStyledString _ := "\x7b\n\t\"protocol\" : 2001\n\x7d\n"
  registered protocol := protocol == 2001

/-- A match request. -/
def matchStart : Message matchDispatcher where
  body := matchStartText
  members := [("protocol", .int 2001)]
  protocol := 2001
  nonempty := by decide
  short := by decide
  parsed := by simp [matchDispatcher]
  named := rfl
  inRange := by decide
  registered := rfl

/-- A request that is cut in the middle of its header is put together again. -/
theorem reassembled_cutInHeader :
    Reassembled [matchStart] [[0, 0], [0, 17] ++ matchStartText] := by
  refine (reassembled_iff [matchStart] [[0, 0], [0, 17] ++ matchStartText] ?_ ?_).mpr ?_
  · simp
  · decide
  · refine ⟨⟨[[[0, 0], [0, 17] ++ matchStartText]], rfl, .cons ⟨by decide, by decide⟩ .nil⟩, ?_⟩
    rw [List.forall_mem_singleton]
    exact takesArgument_of_no_percent (by decide +kernel)

/-- Two requests in one read: neither handler is ever called. -/
theorem not_reassembled_twoInOne :
    ¬ Reassembled [matchStart, matchStart] [matchStart.frame ++ matchStart.frame] := by
  rintro ⟨last, calls, delivered, sameCalls, _⟩
  have nothing : (deliver matchDispatcher Buffer.new
      [matchStart.frame ++ matchStart.frame]).toOption.map (fun result => result.2.length) =
        some 0 := by
    decide +kernel
  rw [delivered] at nothing
  have count := congrArg List.length sameCalls
  simp only [List.length_map] at count
  have none : calls.length = 0 := Option.some.inj nothing
  simp [none] at count

end GomukuServer.Proofs.StreamReassembly
