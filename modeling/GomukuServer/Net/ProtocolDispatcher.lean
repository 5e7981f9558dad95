/-
Module: GomukuServer.Net.ProtocolDispatcher
Layer: Net
Purpose: `ProtocolDispatcher::dispatch`, called once for every chunk that `handleRead` has appended
  to the input buffer.  It takes at most one message out of the buffer, parses it, logs it and calls
  the handler registered for its protocol number.
Trusted boundary: the JSON reader, the styled text of what it has read and the set of registered
  protocol numbers are parameters
Main exports: ProtocolDispatcher, Call, extract, handle, dispatch, handleRead, returns_handle,
  handle_eq_some, extract_frame
-/
import GomukuServer.Base.Framing
import GomukuServer.Base.Printf
import GomukuServer.MyMuduo.Buffer
import GomukuServer.Net.Json
import Mathlib.Algebra.Group.Int.Defs
import Mathlib.Algebra.Group.Nat.Defs

namespace GomukuServer.Net

open Base Base.Framing Base.Printf MyMuduo

/-- `ProtocolDispatcher`: the protocol numbers with a handler in `m_handlerMap`.  `parse` is
`Json::Reader::parse`, which throws on values that are nested too deeply, and `receivedStyledString`
is `toStyledString` of the root that it makes of a body. -/
structure ProtocolDispatcher where
  parse : List Byte → Except Fault (Option Json.Value)
  receivedStyledString : List Byte → String
  registered : Int → Bool

/-- What a handler is called with. -/
structure Call where
  protocol : Int
  data : Json.Value

namespace ProtocolDispatcher

/-- The bytes of a message header. -/
def headerSize : Nat := 4

/-- The longest body that is accepted. -/
def maxSize : Int := 1024

/-- `memcpy` of the first four bytes into an `int`, then `ntohl`. -/
def readSize (buf : Buffer) : Int := Int.bmod (decode (buf.peek.take headerSize)) (2 ^ 32)

/-- `size_t` from `int`. -/
def toSize (number : Int) : Nat := (number % 2 ^ 64).toNat

/-- The first half of `dispatch`: take a message out of the buffer.  The length is compared as an
unsigned number. -/
def extract (buf : Buffer) : Except Fault (Buffer × Option (List Byte)) :=
  if headerSize < buf.readableBytes then
    let size := readSize buf
    if maxSize < size then .ok (buf, none)
    else if buf.readableBytes - headerSize ≤ toSize size then do
      let (msg, buf) ← (buf.retrieve headerSize).retrieveAsString (toSize size)
      pure (buf, some msg)
    else .ok (buf, none)
  else .ok (buf, none)

/-- The second half of `dispatch`: parse the message, look for a handler, and log the message if
there is one.  Its text is the format of the log call. -/
def handle (disp : ProtocolDispatcher) (msg : List Byte) : Except Fault (Option Call) := do
  match ← disp.parse msg with
  | none => pure none
  | some root => do
      let msgProtocol ← (← root.subscript "protocol").asInt
      let data ← root.subscript "data"
      if disp.registered msgProtocol then do
        dlog (disp.receivedStyledString msg)
        pure (some ⟨msgProtocol, data⟩)
      else pure none

/-- A handler call, with the message it was made for and the bytes that were readable when the
message was taken out. -/
structure Dispatched where
  received : List Byte
  msg : List Byte
  call : Call

/-- The message on the wire. -/
def Dispatched.frame (called : Dispatched) : List Byte := Framing.frame headerSize called.msg

/-- `dispatch`.  The handler itself is not run here. -/
def dispatch (disp : ProtocolDispatcher) (buf : Buffer) :
    Except Fault (Buffer × Option Dispatched) := do
  match ← extract buf with
  | (rest, none) => pure (rest, none)
  | (rest, some msg) => do
      let call ← disp.handle msg
      pure (rest, call.map fun call => ⟨buf.readable, msg, call⟩)

/-- `TcpConnection::handleRead` with `GameServer::onMessage` as message callback, when `readv`
delivers `incoming`.  Nothing to read means that the peer has closed, and no message callback. -/
def handleRead (disp : ProtocolDispatcher) (inputBuffer : Buffer) (incoming : List Byte) :
    Except Fault (Buffer × Option Dispatched) :=
  let inputBuffer := inputBuffer.readfd incoming
  if incoming = [] then .ok (inputBuffer, none) else disp.dispatch inputBuffer

/-! ### What becomes of a message -/

/-- An exception of the reader leaves `dispatch`. -/
theorem handle_of_thrown {disp : ProtocolDispatcher} {msg : List Byte} {fault : Fault}
    (thrown : disp.parse msg = .error fault) : disp.handle msg = .error fault := by
  rw [handle, thrown]
  rfl

/-- A message that is not JSON is ignored. -/
theorem handle_of_refused {disp : ProtocolDispatcher} {msg : List Byte}
    (refused : disp.parse msg = .ok none) : disp.handle msg = .ok none := by
  rw [handle, refused]
  rfl

/-- The call that a root asks for, if its protocol number is registered. -/
def called (disp : ProtocolDispatcher) (root : Json.Value) : Option Call :=
  if disp.registered (root.member "protocol").toInt then
    some ⟨(root.member "protocol").toInt, root.member "data"⟩
  else none

/-- A message that is JSON gets through if its protocol number can be read and, in case there is a
handler, its text can be a format. -/
theorem returns_handle {disp : ProtocolDispatcher} {msg : List Byte} {root : Json.Value}
    (parsed : disp.parse msg = .ok (some root)) {post : Option Call → Prop} :
    Returns (disp.handle msg) post ↔
      root.IsRecord ∧ (root.member "protocol").ConvertsToInt ∧
        (disp.registered (root.member "protocol").toInt →
          takesArgument (disp.receivedStyledString msg) = false) ∧ post (disp.called root) := by
  have logged {value : Option Call} :
      Returns (do dlog (disp.receivedStyledString msg); pure value) post ↔
        takesArgument (disp.receivedStyledString msg) = false ∧ post value := by
    rw [returns_bind, ← dlog_eq_ok]
    exact ⟨fun ⟨(), logged, good⟩ => ⟨logged, returns_pure.mp good⟩,
      fun ⟨logged, good⟩ => ⟨(), logged, returns_pure.mpr good⟩⟩
  simp only [handle, parsed, ok_bind, returns_bind, Json.Value.returns_subscript,
    Json.Value.returns_asInt, called]
  by_cases registered : disp.registered (root.member "protocol").toInt = true
  · simp only [registered, if_true, logged, forall_const]
    tauto
  · simp only [registered, Bool.false_eq_true, if_false, returns_pure, false_imp_iff, true_and]
    tauto

/-- The call that `dispatch` has made asks for a registered protocol, with the data of the root. -/
theorem handle_eq_some {disp : ProtocolDispatcher} {msg : List Byte} {call : Call}
    (handled : disp.handle msg = .ok (some call)) :
    disp.registered call.protocol = true ∧
      ∃ root, disp.parse msg = .ok (some root) ∧ call.data = root.member "data" := by
  cases parsed : disp.parse msg with
  | error fault =>
      rw [handle_of_thrown parsed] at handled
      cases handled
  | ok answer =>
      cases answer with
      | none =>
          rw [handle_of_refused parsed] at handled
          cases handled
      | some root =>
          obtain ⟨_, _, _, asked⟩ := (returns_handle parsed).mp ⟨_, handled, rfl⟩
          unfold called at asked
          split at asked
          · rename_i registered
            obtain rfl := Option.some.inj asked
            exact ⟨registered, root, rfl, rfl⟩
          · cases asked

/-! ### What is taken out of the buffer -/

/-- Nothing happens before there is more than a header. -/
theorem extract_short {buf : Buffer} (short : buf.readableBytes ≤ headerSize) :
    extract buf = .ok (buf, none) := by
  rw [extract, if_neg (Nat.not_lt.mpr short)]

/-- The header is read from the first four readable bytes. -/
theorem readSize_eq {buf : Buffer} (enough : headerSize ≤ buf.readableBytes) :
    readSize buf = Int.bmod (decode (buf.readable.take headerSize)) (2 ^ 32) := by
  have header := Buffer.take_peek enough
  unfold readSize
  rw [header]

/-- The header of a frame in front of the buffer gives the length of its body. -/
theorem readSize_frame {buf : Buffer} {body : List Byte} (short : body.length < 2 ^ 31)
    (starts : frame headerSize body <+: buf.readable) : readSize buf = body.length := by
  have enough : headerSize ≤ buf.readableBytes := by
    have length := starts.length_le
    rw [length_frame, Buffer.length_readable] at length
    exact Nat.le_trans (Nat.le_add_right _ _) length
  have fits : body.length < 256 ^ headerSize := by
    have wider : 2 ^ 31 ≤ 256 ^ headerSize := by decide
    exact Nat.lt_of_lt_of_le short wider
  rw [readSize_eq enough, decode_frame fits starts, Int.bmod_eq_of_le (by omega) (by omega)]

/-- A whole frame and nothing behind it: the body comes out and the buffer is empty. -/
theorem extract_frame {buf : Buffer} {body : List Byte} (nonempty : body ≠ [])
    (short : body.length ≤ 1024) (whole : buf.readable = frame headerSize body) :
    ∃ rest, extract buf = .ok (rest, some body) ∧ rest.readable = [] := by
  have length : buf.readableBytes = headerSize + body.length := by
    rw [← Buffer.length_readable, whole, length_frame]
  have some : 0 < body.length := List.length_pos_iff.mpr nonempty
  have size : readSize buf = body.length :=
    readSize_frame (by omega) (whole ▸ List.prefix_refl _)
  have sizeNat : toSize body.length = body.length := by
    simp only [toSize]
    omega
  have tail : (buf.retrieve headerSize).readable = body := by
    rw [Buffer.readable_retrieve, whole, drop_frame]
  have tailLength : (buf.retrieve headerSize).readableBytes = body.length := by
    rw [← Buffer.length_readable, tail]
  have taken := Buffer.retrieveAsString_ok (show body.length ≤ maxStringSize by
    simp only [maxStringSize]; omega) (Nat.le_of_eq tailLength.symm)
  refine ⟨(buf.retrieve headerSize).retrieve body.length, ?_, ?_⟩
  · rw [extract, if_pos (by omega), size, if_neg (by simp only [maxSize]; omega), sizeNat,
      if_pos (by omega), taken, tail, List.take_length]
    rfl
  · rw [Buffer.readable_retrieve, tail, List.drop_length]

end ProtocolDispatcher

end GomukuServer.Net
