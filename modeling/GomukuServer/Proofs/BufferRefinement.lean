/-
Module: GomukuServer.Proofs.BufferRefinement
Layer: Proofs
Purpose: A `Buffer` is a queue of bytes.  The queue is stated on its own, with what has been removed
  from its front; the code on the bare members goes through every sequence of calls without a copy
  that leaves the vector, and its readable bytes are the queue, unless the size asked of the
  constructor is so close to `2 ^ 64` that its sum with `kCheapPrepend` wraps around.
Trusted boundary: `readv` delivers no more than the buffers it is given hold
Main exports: ByteQueue, Operation, Session, Positioned, buffer_refines_byteQueue,
  not_positioned_wrapped
-/
import GomukuServer.Base.Runs
import GomukuServer.MyMuduo.BufferMemory

namespace GomukuServer.Proofs.BufferRefinement

open Base Base.Runs MyMuduo

/-- A call on a buffer.  `readfd` comes with what `readv` delivers, or nothing if it fails. -/
inductive Operation where
  | append (data : List Byte)
  | readfd (incoming : Option (List Byte))
  | retrieve (len : Nat)
  | retrieveAll
  | retrieveAsString (len : Nat)
deriving DecidableEq, Repr

/-! ### The queue -/

/-- A queue of bytes, with the bytes that have left it and the strings its user has received. -/
structure ByteQueue where
  content : List Byte
  removed : List Byte
  returned : List (List Byte)
deriving DecidableEq, Repr

/-- An empty queue. -/
def ByteQueue.new : ByteQueue := ⟨[], [], []⟩

/-- Bytes arrive at the end. -/
def ByteQueue.push (queue : ByteQueue) (data : List Byte) : ByteQueue :=
  { queue with content := queue.content ++ data }

/-- Bytes leave at the front, all of them if there are not enough. -/
def ByteQueue.pop (queue : ByteQueue) (count : Nat) : ByteQueue :=
  { queue with
    content := queue.content.drop count
    removed := queue.removed ++ queue.content.take count }

/-- What a call on a buffer means for the queue. -/
def ByteQueue.apply (queue : ByteQueue) : Operation → ByteQueue
  | .append data => queue.push data
  | .readfd incoming => queue.push (incoming.getD [])
  | .retrieve len => queue.pop len
  | .retrieveAll => queue.pop queue.content.length
  | .retrieveAsString len =>
      { queue.pop len with returned := queue.returned ++ [queue.content.take len] }

/-- The queue after a sequence of calls. -/
def queueAfter (operations : List Operation) : ByteQueue :=
  operations.foldl ByteQueue.apply .new

/-- What a call appends or reads. -/
def Operation.arriving : Operation → List Byte
  | .append data => data
  | .readfd incoming => incoming.getD []
  | .retrieve _ => []
  | .retrieveAll => []
  | .retrieveAsString _ => []

/-- Everything that has been appended or read. -/
def arrived (operations : List Operation) : List Byte := operations.flatMap Operation.arriving

/-- A call keeps the bytes in order: what has left and what is left grow by what arrives. -/
theorem apply_accounts (queue : ByteQueue) (operation : Operation) :
    (queue.apply operation).removed ++ (queue.apply operation).content =
      queue.removed ++ queue.content ++ operation.arriving := by
  cases operation <;> simp [ByteQueue.apply, ByteQueue.push, ByteQueue.pop, Operation.arriving]

@[simp] theorem queueAfter_append (operations : List Operation) (operation : Operation) :
    queueAfter (operations ++ [operation]) = (queueAfter operations).apply operation := by
  simp [queueAfter]

/-- A sequence of calls keeps the bytes in order. -/
theorem foldl_accounts (queue : ByteQueue) (operations : List Operation) :
    (operations.foldl ByteQueue.apply queue).removed ++
      (operations.foldl ByteQueue.apply queue).content =
        queue.removed ++ queue.content ++ arrived operations := by
  induction operations generalizing queue with
  | nil => simp [arrived]
  | cons operation operations inductionHypothesis =>
      rw [List.foldl_cons, inductionHypothesis, apply_accounts]
      simp [arrived]

/-- What has left the queue and what is in it are everything that arrived. -/
theorem queueAfter_accounts (operations : List Operation) :
    (queueAfter operations).removed ++ (queueAfter operations).content = arrived operations :=
  foldl_accounts .new operations

/-! ### The buffer -/

/-- A buffer in use, with the strings its user has received. -/
structure Session where
  buf : RawBuffer
  returned : List (List Byte)
deriving DecidableEq, Repr

/-- A new buffer. -/
def Session.new (initialSize : UInt64) : Session := ⟨RawBuffer.new initialSize, []⟩

/-- Make a call. -/
def step (session : Session) : Operation → Except Fault Session
  | .append data => do
      pure { session with buf := ← session.buf.append data data.length }
  | .readfd incoming => do
      pure { session with buf := ← session.buf.readfd incoming }
  | .retrieve len => .ok { session with buf := session.buf.retrieve len }
  | .retrieveAll => .ok { session with buf := session.buf.retrieveAll }
  | .retrieveAsString len => do
      let (result, buf) ← session.buf.retrieveAsString len
      pure ⟨buf, session.returned ++ [result]⟩

/-- The calls that may be made: `readv` keeps to the buffers it is given, and no string is asked
for that is longer than what can be read. -/
def Allowed (session : Session) : Operation → Prop
  | .append _ => True
  | .readfd incoming => (incoming.getD []).length ≤ session.buf.readCapacity
  | .retrieve _ => True
  | .retrieveAll => True
  | .retrieveAsString len => len ≤ session.buf.readableBytes

instance (session : Session) : (operation : Operation) → Decidable (Allowed session operation)
  | .append _ => inferInstanceAs (Decidable True)
  | .readfd incoming =>
      inferInstanceAs (Decidable ((incoming.getD []).length ≤ session.buf.readCapacity))
  | .retrieve _ => inferInstanceAs (Decidable True)
  | .retrieveAll => inferInstanceAs (Decidable True)
  | .retrieveAsString len => inferInstanceAs (Decidable (len ≤ session.buf.readableBytes))

/-- The positions are in order and inside the vector. -/
def Positioned (session : Session) : Prop :=
  kCheapPrepend ≤ session.buf.readerIndex ∧ session.buf.readerIndex ≤ session.buf.writerIndex ∧
    session.buf.writerIndex ≤ session.buf.buffer.length

instance (session : Session) : Decidable (Positioned session) :=
  inferInstanceAs (Decidable (_ ∧ _ ∧ _))

/-- The members are those of a `Buffer` that holds the queue. -/
def Holds (queue : ByteQueue) (session : Session) : Prop :=
  ∃ buf : Buffer, session.buf = buf.raw ∧ buf.readable = queue.content ∧
    session.returned = queue.returned

theorem holds_new {initialSize : UInt64} (room : kCheapPrepend + initialSize.toNat < 2 ^ 64) :
    Holds .new (Session.new initialSize) :=
  ⟨Buffer.newOfSize initialSize room, RawBuffer.new_eq room, Cells.slice_self _ _, rfl⟩

theorem positioned_of_holds {queue : ByteQueue} {session : Session} (holds : Holds queue session) :
    Positioned session := by
  obtain ⟨buf, bufEq, _, _⟩ := holds
  rw [Positioned, bufEq]
  exact ⟨buf.prepend_le, buf.reader_le, buf.writer_le⟩

/-- Every call goes through and does to the buffer what it means for the queue. -/
theorem step_holds {queue : ByteQueue} {session : Session} {operation : Operation}
    (holds : Holds queue session) (allowed : Allowed session operation) :
    ∃ next, step session operation = .ok next ∧ Holds (queue.apply operation) next := by
  obtain ⟨buf, bufEq, contentEq, returnedEq⟩ := holds
  obtain ⟨raw, returned⟩ := session
  obtain rfl : raw = buf.raw := bufEq
  cases operation with
  | append data =>
      refine ⟨⟨(buf.append data).raw, returned⟩, ?_, buf.append data, rfl, ?_, returnedEq⟩
      · rw [step, RawBuffer.append_raw]
        rfl
      · rw [Buffer.readable_append, contentEq]
        rfl
  | readfd incoming =>
      cases incoming with
      | none =>
          refine ⟨⟨buf.raw, returned⟩, rfl, buf, rfl, ?_, returnedEq⟩
          simp [ByteQueue.apply, ByteQueue.push, contentEq]
      | some incoming =>
          have possible : incoming.length ≤ buf.readCapacity := by
            rw [← RawBuffer.readCapacity_raw]
            exact allowed
          refine ⟨⟨(buf.readfd incoming).raw, returned⟩, ?_, buf.readfd incoming, rfl, ?_,
            returnedEq⟩
          · rw [step, RawBuffer.readfd_raw possible]
            rfl
          · rw [Buffer.readable_readfd, contentEq]
            rfl
  | retrieve len =>
      refine ⟨⟨(buf.retrieve len).raw, returned⟩, ?_, buf.retrieve len, rfl, ?_, returnedEq⟩
      · rw [step, RawBuffer.retrieve_raw]
      · rw [Buffer.readable_retrieve, contentEq]
        rfl
  | retrieveAll =>
      refine ⟨⟨buf.retrieveAll.raw, returned⟩, rfl, buf.retrieveAll, rfl, ?_, returnedEq⟩
      simp [ByteQueue.apply, ByteQueue.pop]
  | retrieveAsString len =>
      have enough : len ≤ buf.readableBytes := by
        rw [← RawBuffer.readableBytes_raw]
        exact allowed
      refine ⟨⟨(buf.retrieve len).raw, returned ++ [buf.readable.take len]⟩, ?_, buf.retrieve len,
        rfl, ?_, ?_⟩
      · rw [step, RawBuffer.retrieveAsString_raw enough]
        rfl
      · rw [Buffer.readable_retrieve, contentEq]
        rfl
      · rw [contentEq]
        exact congrArg (· ++ [queue.content.take len]) returnedEq

/-- One call carries the refinement from the calls so far to the calls with it. -/
theorem step_refines (past : List Operation) (session : Session) (operation : Operation)
    (holds : Holds (queueAfter past) session) (allowed : Allowed session operation) :
    ∃ next, step session operation = .ok next ∧ Holds (queueAfter (past ++ [operation])) next := by
  rw [queueAfter_append]
  exact step_holds holds allowed

/-- Every sequence of calls on a new buffer goes through, with the positions in order before and
after every call, if the size of the vector is not cut off at `2 ^ 64`.  At its end the readable
bytes are the queue, and the strings that were taken out are the ones taken from the queue; what was
removed and what is readable are everything that arrived. -/
theorem buffer_refines_byteQueue (initialSize : UInt64) (operations : List Operation)
    (room : kCheapPrepend + initialSize.toNat < 2 ^ 64)
    (allowed : Admissible step Allowed (Session.new initialSize) operations) :
    Throughout step Positioned (Session.new initialSize) operations ∧
      ∃ last, run step (Session.new initialSize) operations = .ok last ∧
        last.buf.readable = (queueAfter operations).content ∧
        last.returned = (queueAfter operations).returned ∧
        (queueAfter operations).removed ++ last.buf.readable = arrived operations := by
  have start : Holds (queueAfter []) (Session.new initialSize) := holds_new room
  have throughout := throughout_of_history step_refines (fun _ _ => positioned_of_holds) start
    operations allowed
  obtain ⟨last, reached, holds⟩ := exists_run_of_history step_refines start operations allowed
  rw [List.nil_append] at holds
  obtain ⟨buf, bufEq, contentEq, returnedEq⟩ := holds
  have readable : last.buf.readable = (queueAfter operations).content := by
    rw [bufEq, RawBuffer.readable_raw, contentEq]
  refine ⟨throughout, last, reached, readable, returnedEq, ?_⟩
  rw [readable, queueAfter_accounts]

/-- A buffer without room of its own that grows, slides its bytes down, is asked for more than it
holds, and gives out strings. -/
theorem buffer_refines_byteQueue_growing :
    let operations := [.append [1, 2, 3], .retrieveAsString 1, .append [4], .retrieveAsString 3,
      .readfd (some [5]), .readfd none, .append [6, 7], .retrieve 9]
    ∃ last, run step (Session.new 0) operations = .ok last ∧
      last.returned = [[1], [2, 3, 4]] ∧ last.buf.readable = [] := by
  intro operations
  obtain ⟨_, last, reached, readable, returned, _⟩ :=
    buffer_refines_byteQueue 0 operations (by decide) (by decide)
  exact ⟨last, reached, returned, readable⟩

/-- `kCheapPrepend + initialSize` comes round to 0: both positions of the new buffer lie behind the
end of its vector, and the first byte that is appended is written outside it. -/
theorem not_positioned_wrapped :
    ¬ Throughout step Positioned (Session.new 0xFFFFFFFFFFFFFFF8) [] ∧
      run step (Session.new 0xFFFFFFFFFFFFFFF8) [.append [1]] = .error .outOfBounds := by
  constructor
  · show ¬ Positioned (Session.new 0xFFFFFFFFFFFFFFF8)
    decide
  · rfl

end GomukuServer.Proofs.BufferRefinement
