/-
Module: GomukuServer.Module.SendMsg
Layer: Module
Purpose: What `ConnManager::sendMsg` puts on the wire: the text of the message behind its length, an
  `int` in network byte order.
Trusted boundary: JsonCpp's writer is a parameter
Main exports: message, realmsg, sendMsgBytes, realmsg_eq
-/
import GomukuServer.Module.Dispatch

namespace GomukuServer.Module.SendMsg

open Base Base.Cells MyMuduo Net Net.ProtocolDispatcher

/-- The value that `sendMsg` builds. -/
def message (protocol : Int) (msg : Json.Value) : Json.Value :=
  .object [("data", msg), ("protocol", .int protocol)]

/-- An access that has to stay inside its string. -/
def inBounds {Result : Type} : Option Result → Except Fault Result
  | some result => .ok result
  | none => .error .outOfBounds

/-- The string that is sent for a text: `size` is an `int`, and so is `4 + size`, which must not
overflow; `resize` takes it as a `size_t`. -/
def realmsg (jsonStr : List Byte) : Except Fault (List Byte) := do
  let size := Int.bmod jsonStr.length (2 ^ 32)
  let nsize := Framing.encode headerSize (size % 2 ^ 32).toNat
  if 2 ^ 31 ≤ 4 + size then .error .outOfBounds
  else if maxStringSize < toSize (4 + size) then
    .error (.uncaughtException "basic_string::_M_replace_aux")
  else
    let realmsg := resize [] (toSize (4 + size)) 0
    let realmsg ← inBounds (writeCells realmsg 0 nsize)
    inBounds (writeCells realmsg 4 (← inBounds (readCells jsonStr 0 (toSize size))))

/-- The bytes that `sendMsg` hands to the connection.  `write` is `Json::FastWriter::write`. -/
def sendMsgBytes (write : Json.Value → List Byte) (protocol : Int) (msg : Json.Value) :
    Except Fault (List Byte) :=
  realmsg (write (message protocol msg))

/-- The value is the one whose text is logged. -/
theorem message_eq_response (protocol : ProtocolId) (data : Json.Value) :
    message protocol.code data = response protocol data := rfl

/-- A text of fewer than two gigabytes is framed. -/
theorem realmsg_eq {jsonStr : List Byte} (short : jsonStr.length + 4 < 2 ^ 31) :
    realmsg jsonStr = .ok (Framing.frame headerSize jsonStr) := by
  have size : Int.bmod jsonStr.length (2 ^ 32) = jsonStr.length :=
    Int.bmod_eq_of_le (by omega) (by omega)
  have nsize : ((jsonStr.length : Int) % 2 ^ 32).toNat = jsonStr.length := by omega
  have whole : toSize (4 + jsonStr.length) = 4 + jsonStr.length := by
    simp only [toSize]
    omega
  have part : toSize jsonStr.length = jsonStr.length := by
    simp only [toSize]
    omega
  have read : readCells jsonStr 0 jsonStr.length = some jsonStr := by
    simp [readCells, slice]
  have header : (Framing.encode headerSize jsonStr.length).length = 4 :=
    Framing.length_encode headerSize jsonStr.length
  have first : writeCells (resize [] (4 + jsonStr.length) (0 : Byte)) 0
      (Framing.encode headerSize jsonStr.length) =
        some (Framing.encode headerSize jsonStr.length ++ List.replicate jsonStr.length 0) := by
    simp [writeCells, overwrite, resize, header]
  have second : writeCells (Framing.encode headerSize jsonStr.length ++
      List.replicate jsonStr.length (0 : Byte)) 4 jsonStr =
        some (Framing.frame headerSize jsonStr) := by
    simp [writeCells, overwrite, Framing.frame, header]
  unfold realmsg
  simp only [size, nsize, whole, part]
  rw [if_neg (by omega), if_neg (by simp only [maxStringSize]; omega), first, read]
  simp only [inBounds, ok_bind, second]

end GomukuServer.Module.SendMsg
