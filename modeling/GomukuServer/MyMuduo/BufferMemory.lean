/-
Module: GomukuServer.MyMuduo.BufferMemory
Layer: MyMuduo
Purpose: The code of `Buffer.h` and `readfd` on its bare members, with nothing known of the two
  positions: every copy says which bytes it reads and writes, and one that leaves the vector is a
  fault.  On the members of a `Buffer` each operation is the operation of that name there.
Trusted boundary: memory never runs out, for a vector and for a string alike, so that a vector has
  whatever size a `size_t` can say; the vector and the bytes that are appended to it are in one
  memory, so that no sum of a position and their number reaches `2 ^ 64`
Main exports: RawBuffer, Buffer.raw, append_raw, readfd_raw, retrieve_raw, retrieveAsString_raw
-/
import GomukuServer.MyMuduo.Buffer

namespace GomukuServer.MyMuduo

open Base Base.Cells

/-- The members of `Buffer`. -/
structure RawBuffer where
  buffer : List Byte
  readerIndex : Nat
  writerIndex : Nat
deriving DecidableEq, Repr

namespace RawBuffer

/-- The difference of two `size_t`.  A negative one wraps around. -/
def sizeDiff (high low : Nat) : Nat := if low ≤ high then high - low else 2 ^ 64 - (low - high)

/-- A copy that leaves the array it works on is undefined behaviour. -/
def inRange {Value : Type} : Option Value → Except Fault Value
  | some value => .ok value
  | none => .error .outOfBounds

/-- The constructor.  The size of the vector is a sum of two `size_t`. -/
def new (initialSize : UInt64) : RawBuffer where
  buffer := List.replicate (UInt64.ofNat kCheapPrepend + initialSize).toNat 0
  readerIndex := kCheapPrepend
  writerIndex := kCheapPrepend

/-- `readableBytes`. -/
def readableBytes (raw : RawBuffer) : Nat := sizeDiff raw.writerIndex raw.readerIndex

/-- `writeableBytes`. -/
def writeableBytes (raw : RawBuffer) : Nat := sizeDiff raw.buffer.length raw.writerIndex

/-- `prependableBytes`. -/
def prependableBytes (raw : RawBuffer) : Nat := raw.readerIndex

/-- The bytes between the two positions. -/
def readable (raw : RawBuffer) : List Byte := slice raw.buffer raw.readerIndex raw.writerIndex

/-- `retrieveAll`. -/
def retrieveAll (raw : RawBuffer) : RawBuffer :=
  { raw with readerIndex := kCheapPrepend, writerIndex := kCheapPrepend }

/-- `retrieve`. -/
def retrieve (raw : RawBuffer) (len : Nat) : RawBuffer :=
  if len < raw.readableBytes then { raw with readerIndex := raw.readerIndex + len }
  else raw.retrieveAll

/-- `retrieveAsString`: the string is copied from `peek()` for `len` bytes. -/
def retrieveAsString (raw : RawBuffer) (len : Nat) : Except Fault (List Byte × RawBuffer) := do
  let result ← inRange (readCells raw.buffer raw.readerIndex len)
  pure (result, raw.retrieve len)

/-- `makePlace`.  The number of readable bytes is saved before the read position moves. -/
def makePlace (raw : RawBuffer) (len : Nat) : Except Fault RawBuffer :=
  if raw.writeableBytes + raw.prependableBytes < len + kCheapPrepend then
    .ok { raw with buffer := resize raw.buffer (raw.writerIndex + len) 0 }
  else do
    let readable := raw.readableBytes
    let buffer ← inRange (copyWithin raw.buffer raw.readerIndex kCheapPrepend readable)
    pure ⟨buffer, kCheapPrepend, kCheapPrepend + readable⟩

/-- `ensureWriteableBytes`. -/
def ensureWriteableBytes (raw : RawBuffer) (len : Nat) : Except Fault RawBuffer :=
  if raw.writeableBytes < len then raw.makePlace len else .ok raw

/-- `append` of the first `len` bytes at `data`. -/
def append (raw : RawBuffer) (data : List Byte) (len : Nat) : Except Fault RawBuffer := do
  let raw ← raw.ensureWriteableBytes len
  let copied ← inRange (readCells data 0 len)
  let buffer ← inRange (writeCells raw.buffer raw.writerIndex copied)
  pure { raw with buffer, writerIndex := raw.writerIndex + len }

/-- What `readv` can deliver to the two buffers it is given; the second one is `extrabuffer`, and
it is left out if the vector has as much room. -/
def readCapacity (raw : RawBuffer) : Nat :=
  if raw.writeableBytes < Buffer.extrabufferSize then
    raw.writeableBytes + Buffer.extrabufferSize
  else raw.writeableBytes

/-- `readfd`, with what `readv` delivers, or nothing if it fails.  `readv` fills the tail of the
vector first, and only the rest goes to `extrabuffer`. -/
def readfd (raw : RawBuffer) : Option (List Byte) → Except Fault RawBuffer
  | none => .ok raw
  | some incoming => do
      let writeable := raw.writeableBytes
      let buffer ← inRange (writeCells raw.buffer raw.writerIndex (incoming.take writeable))
      if incoming.length ≤ writeable then
        pure { raw with buffer, writerIndex := raw.writerIndex + incoming.length }
      else do
        let extrabuffer ← inRange
          (writeCells (List.replicate Buffer.extrabufferSize 0) 0 (incoming.drop writeable))
        { raw with buffer, writerIndex := buffer.length }.append extrabuffer
          (sizeDiff incoming.length writeable)

end RawBuffer

namespace Buffer

/-- Forget what is known of the positions. -/
def raw (buf : Buffer) : RawBuffer := ⟨buf.buffer, buf.readerIndex, buf.writerIndex⟩

/-- The sum of the constructor does not wrap around. -/
theorem toNat_kCheapPrepend_add {initialSize : UInt64}
    (room : kCheapPrepend + initialSize.toNat < 2 ^ 64) :
    (UInt64.ofNat kCheapPrepend + initialSize).toNat = kCheapPrepend + initialSize.toNat := by
  rw [UInt64.toNat_add]
  exact Nat.mod_eq_of_lt room

/-- A new buffer of any size that leaves room for the bytes in front of the data. -/
def newOfSize (initialSize : UInt64) (room : kCheapPrepend + initialSize.toNat < 2 ^ 64) :
    Buffer where
  buffer := List.replicate (UInt64.ofNat kCheapPrepend + initialSize).toNat 0
  readerIndex := kCheapPrepend
  writerIndex := kCheapPrepend
  prepend_le := Nat.le_refl _
  reader_le := Nat.le_refl _
  writer_le := by
    rw [List.length_replicate, toNat_kCheapPrepend_add room]
    exact Nat.le_add_right _ _

end Buffer

namespace RawBuffer

@[simp] theorem inRange_some {Value : Type} (value : Value) : inRange (some value) = .ok value := rfl

@[simp] theorem buffer_raw (buf : Buffer) : buf.raw.buffer = buf.buffer := rfl

@[simp] theorem readerIndex_raw (buf : Buffer) : buf.raw.readerIndex = buf.readerIndex := rfl

@[simp] theorem writerIndex_raw (buf : Buffer) : buf.raw.writerIndex = buf.writerIndex := rfl

theorem sizeDiff_eq {high low : Nat} (ordered : low ≤ high) : sizeDiff high low = high - low :=
  if_pos ordered

@[simp] theorem readableBytes_raw (buf : Buffer) : buf.raw.readableBytes = buf.readableBytes :=
  sizeDiff_eq buf.reader_le

@[simp] theorem writeableBytes_raw (buf : Buffer) : buf.raw.writeableBytes = buf.writeableBytes :=
  sizeDiff_eq buf.writer_le

@[simp] theorem prependableBytes_raw (buf : Buffer) :
    buf.raw.prependableBytes = buf.prependableBytes := rfl

@[simp] theorem readable_raw (buf : Buffer) : buf.raw.readable = buf.readable := rfl

@[simp] theorem readCapacity_raw (buf : Buffer) : buf.raw.readCapacity = buf.readCapacity := by
  simp only [readCapacity, Buffer.readCapacity, writeableBytes_raw]

theorem new_eq {initialSize : UInt64} (room : kCheapPrepend + initialSize.toNat < 2 ^ 64) :
    new initialSize = (Buffer.newOfSize initialSize room).raw := rfl

theorem newOfSize_kInitiaSize :
    Buffer.newOfSize (UInt64.ofNat kInitiaSize) (by decide) = Buffer.new := rfl

theorem retrieveAll_raw (buf : Buffer) : buf.raw.retrieveAll = buf.retrieveAll.raw := rfl

theorem retrieve_raw (buf : Buffer) (len : Nat) : buf.raw.retrieve len = (buf.retrieve len).raw := by
  unfold retrieve Buffer.retrieve
  rw [readableBytes_raw]
  split <;> rfl

/-- The string that is taken out is the front of the queue. -/
theorem retrieveAsString_raw {buf : Buffer} {len : Nat} (enough : len ≤ buf.readableBytes) :
    buf.raw.retrieveAsString len = .ok (buf.readable.take len, (buf.retrieve len).raw) := by
  have reader := buf.reader_le
  have writer := buf.writer_le
  have within : buf.readerIndex + len ≤ buf.writerIndex := by
    simp only [Buffer.readableBytes] at enough
    omega
  have inside : buf.readerIndex + len ≤ buf.buffer.length := Nat.le_trans within writer
  have taken : readCells buf.buffer buf.readerIndex len = some (buf.readable.take len) := by
    rw [readCells, if_pos inside, Buffer.readable, take_slice within]
  rw [retrieveAsString, buffer_raw, readerIndex_raw, taken, retrieve_raw]
  rfl

/-- Making place reads and writes inside the vector: it moves the data only towards the front. -/
theorem makePlace_raw (buf : Buffer) (len : Nat) :
    buf.raw.makePlace len = .ok (buf.makePlace len).raw := by
  have whole : buf.readerIndex + buf.readableBytes = buf.writerIndex :=
    Nat.add_sub_cancel' buf.reader_le
  have inside : buf.readerIndex + buf.readableBytes ≤ buf.buffer.length :=
    Nat.le_trans (Nat.le_of_eq whole) buf.writer_le
  have moved := copyWithin_eq buf.prepend_le inside
  rw [whole] at moved
  unfold makePlace Buffer.makePlace
  simp only [writeableBytes_raw, prependableBytes_raw, readableBytes_raw, buffer_raw,
    readerIndex_raw, moved, inRange_some, ok_bind, pure_eq_ok]
  split <;> rfl

theorem ensureWriteableBytes_raw (buf : Buffer) (len : Nat) :
    buf.raw.ensureWriteableBytes len = .ok (buf.ensureWriteableBytes len).raw := by
  unfold ensureWriteableBytes Buffer.ensureWriteableBytes
  rw [writeableBytes_raw]
  split
  · exact makePlace_raw buf len
  · rfl

/-- A block that fits behind the write position is written inside the vector. -/
theorem writeCells_raw {buf : Buffer} {data : List Byte} (fits : data.length ≤ buf.writeableBytes) :
    writeCells buf.buffer buf.writerIndex data = some (buf.copyIn data fits).buffer := by
  have writer := buf.writer_le
  simp only [Buffer.writeableBytes] at fits
  exact if_pos (by omega)

/-- Appending some of the bytes of an array appends them to the queue. -/
theorem append_take_raw (buf : Buffer) {data : List Byte} {len : Nat} (enough : len ≤ data.length) :
    buf.raw.append data len = .ok (buf.append (data.take len)).raw := by
  have length : (data.take len).length = len := List.length_take_of_le enough
  have copied : readCells data 0 len = some (data.take len) := by
    rw [readCells, if_pos (by omega), slice, List.drop_zero, Nat.zero_add]
  have room : (data.take len).length ≤ (buf.ensureWriteableBytes len).writeableBytes := by
    rw [length]
    exact buf.writeableBytes_ensureWriteableBytes len
  have appended : buf.append (data.take len) =
      (buf.ensureWriteableBytes len).copyIn (data.take len) room := by
    unfold Buffer.append
    congr 1
    rw [length]
  unfold append
  simp only [ensureWriteableBytes_raw, copied, inRange_some, ok_bind, buffer_raw, writerIndex_raw,
    writeCells_raw room, pure_eq_ok, appended]
  simp only [Buffer.raw, Buffer.copyIn, length]

theorem append_raw (buf : Buffer) (data : List Byte) :
    buf.raw.append data data.length = .ok (buf.append data).raw := by
  rw [append_take_raw buf (Nat.le_refl _), List.take_length]

/-- When the block fills the vector, the write position is the size of the vector. -/
theorem copyIn_filled_raw {buf : Buffer} {data : List Byte}
    (filled : data.length = buf.writeableBytes) :
    ({ buf.raw with
      buffer := (buf.copyIn data (Nat.le_of_eq filled)).buffer
      writerIndex := (buf.copyIn data (Nat.le_of_eq filled)).buffer.length } : RawBuffer) =
        (buf.copyIn data (Nat.le_of_eq filled)).raw := by
  have full : buf.writerIndex + data.length = buf.buffer.length := by
    rw [filled]
    exact Nat.add_sub_cancel' buf.writer_le
  simp only [Buffer.raw, Buffer.copyIn, length_overwrite (Nat.le_of_eq full), full]

/-- What `readv` may deliver is read inside the two buffers. -/
theorem readfd_raw {buf : Buffer} {incoming : List Byte}
    (possible : incoming.length ≤ buf.readCapacity) :
    buf.raw.readfd (some incoming) = .ok (buf.readfd incoming).raw := by
  have front := writeCells_raw (List.length_take_le buf.writeableBytes incoming)
  unfold readfd Buffer.readfd
  simp only [writeableBytes_raw, buffer_raw, writerIndex_raw, front, inRange_some, ok_bind]
  by_cases fits : incoming.length ≤ buf.writeableBytes
  · have whole : incoming.take buf.writeableBytes = incoming := List.take_of_length_le fits
    rw [dif_pos fits, if_pos fits]
    simp only [whole, pure_eq_ok]
    rfl
  · have rest : (incoming.drop buf.writeableBytes).length = incoming.length - buf.writeableBytes :=
      List.length_drop
    have short : 0 + (incoming.drop buf.writeableBytes).length ≤
        (List.replicate Buffer.extrabufferSize (0 : Byte)).length := by
      rw [List.length_replicate, rest]
      unfold Buffer.readCapacity at possible
      split at possible <;> omega
    have filled := copyIn_filled_raw
      (show (incoming.take buf.writeableBytes).length = buf.writeableBytes from
        List.length_take_of_le (by omega))
    have enough : incoming.length - buf.writeableBytes ≤
        (overwrite (List.replicate Buffer.extrabufferSize (0 : Byte)) 0
          (incoming.drop buf.writeableBytes)).length := by
      rw [length_overwrite short]
      omega
    have front := take_overwrite_zero (List.replicate Buffer.extrabufferSize (0 : Byte))
      (incoming.drop buf.writeableBytes)
    rw [rest] at front
    rw [dif_neg fits, if_neg fits, writeCells, if_pos short, inRange_some, ok_bind, filled,
      sizeDiff_eq (by omega), append_take_raw _ enough, front]

end RawBuffer

end GomukuServer.MyMuduo
