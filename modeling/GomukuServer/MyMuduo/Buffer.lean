/-
Module: GomukuServer.MyMuduo.Buffer
Layer: MyMuduo
Purpose: `Buffer`: a vector of bytes with a read and a write position, which compacts or grows when
  there is no room for an append.  What it is for is a queue of bytes, `readable`; every operation
  has one lemma that says what it does to that queue.
Trusted boundary: memory never runs out
Main exports: Buffer, readable, readable_retrieve, readable_append, readable_readfd,
  retrieveAsString_ok
-/
import GomukuServer.Base.Cells
import GomukuServer.Base.Cpp
import Mathlib.Algebra.Group.Nat.Defs

namespace GomukuServer.MyMuduo

open Base Base.Cells

/-- A byte of a `std::string` or a `std::vector<char>`. -/
abbrev Byte := UInt8

/-- Room in front of the data. -/
def kCheapPrepend : Nat := 8

/-- Room for data in a new buffer. -/
def kInitiaSize : Nat := 1024

/-- The longest `std::string`; a longer one makes its constructor throw. -/
def maxStringSize : Nat := 2 ^ 62 - 1

/-- `Buffer`.  The read position never passes the write position, and both lie in the vector. -/
structure Buffer where
  buffer : List Byte
  readerIndex : Nat
  writerIndex : Nat
  prepend_le : kCheapPrepend ≤ readerIndex
  reader_le : readerIndex ≤ writerIndex
  writer_le : writerIndex ≤ buffer.length
deriving DecidableEq, Repr

namespace Buffer

/-- The constructor. -/
def new : Buffer where
  buffer := List.replicate (kCheapPrepend + kInitiaSize) 0
  readerIndex := kCheapPrepend
  writerIndex := kCheapPrepend
  prepend_le := Nat.le_refl _
  reader_le := Nat.le_refl _
  writer_le := by simp

/-- `readableBytes`. -/
def readableBytes (buf : Buffer) : Nat := buf.writerIndex - buf.readerIndex

/-- `writeableBytes`. -/
def writeableBytes (buf : Buffer) : Nat := buf.buffer.length - buf.writerIndex

/-- `prependableBytes`. -/
def prependableBytes (buf : Buffer) : Nat := buf.readerIndex

/-- The bytes from `peek()` to the end of the vector: what the pointer can be followed over. -/
def peek (buf : Buffer) : List Byte := buf.buffer.drop buf.readerIndex

/-- The bytes that have been appended and not yet retrieved. -/
def readable (buf : Buffer) : List Byte := slice buf.buffer buf.readerIndex buf.writerIndex

/-- `retrieveAll`. -/
def retrieveAll (buf : Buffer) : Buffer where
  buffer := buf.buffer
  readerIndex := kCheapPrepend
  writerIndex := kCheapPrepend
  prepend_le := Nat.le_refl _
  reader_le := Nat.le_refl _
  writer_le := Nat.le_trans buf.prepend_le (Nat.le_trans buf.reader_le buf.writer_le)

/-- `retrieve`. -/
def retrieve (buf : Buffer) (len : Nat) : Buffer :=
  if part : len < buf.readableBytes then
    { buf with
      readerIndex := buf.readerIndex + len
      prepend_le := Nat.le_trans buf.prepend_le (Nat.le_add_right _ _)
      reader_le := by simp only [readableBytes] at part; omega }
  else buf.retrieveAll

/-- `retrieveAsString`.  The string is copied from `peek()` for `len` bytes, whether or not they
have been written: the bytes after the write position are whatever the vector holds. -/
def retrieveAsString (buf : Buffer) (len : Nat) : Except Fault (List Byte × Buffer) :=
  if maxStringSize < len then .error (.uncaughtException "basic_string::_M_create")
  else if buf.peek.length < len then .error .outOfBounds
  else .ok (buf.peek.take len, buf.retrieve len)

/-- `makePlace`: grow if the free room on both sides does not suffice, else move the data down. -/
def makePlace (buf : Buffer) (len : Nat) : Buffer :=
  if buf.writeableBytes + buf.prependableBytes < len + kCheapPrepend then
    { buf with
      buffer := resize buf.buffer (buf.writerIndex + len) 0
      writer_le := by simp }
  else
    { buffer := overwrite buf.buffer kCheapPrepend buf.readable
      readerIndex := kCheapPrepend
      writerIndex := kCheapPrepend + buf.readableBytes
      prepend_le := Nat.le_refl _
      reader_le := Nat.le_add_right _ _
      writer_le := by
        have prepend := buf.prepend_le
        have reader := buf.reader_le
        have writer := buf.writer_le
        have length : buf.readable.length = buf.readableBytes := length_slice writer
        rw [length_overwrite (by rw [length, readableBytes]; omega), readableBytes]
        omega }

/-- `ensureWriteableBytes`. -/
def ensureWriteableBytes (buf : Buffer) (len : Nat) : Buffer :=
  if buf.writeableBytes < len then buf.makePlace len else buf

@[simp] theorem length_readable (buf : Buffer) : buf.readable.length = buf.readableBytes :=
  length_slice buf.writer_le

@[simp] theorem readable_new : new.readable = [] := slice_self _ _

@[simp] theorem readable_retrieveAll (buf : Buffer) : buf.retrieveAll.readable = [] :=
  slice_self _ _

theorem readableBytes_eq_zero {buf : Buffer} : buf.readableBytes = 0 ↔ buf.readable = [] := by
  rw [← length_readable, List.length_eq_zero_iff]

/-- What can be read is what `peek()` starts with. -/
theorem take_peek {buf : Buffer} {len : Nat} (enough : len ≤ buf.readableBytes) :
    buf.peek.take len = buf.readable.take len := by
  rw [readable, slice, peek, List.drop_take, List.take_take]
  congr 1
  exact (Nat.min_eq_left enough).symm

/-- Retrieving takes bytes from the front of the queue. -/
@[simp] theorem readable_retrieve (buf : Buffer) (len : Nat) :
    (buf.retrieve len).readable = buf.readable.drop len := by
  unfold retrieve
  split
  · exact (drop_slice _ _ _ _).symm
  · rename_i whole
    rw [readable_retrieveAll, List.drop_eq_nil_of_le]
    rw [length_readable]
    omega

/-- Retrieving a string no longer than the queue takes it from the front of the queue. -/
theorem retrieveAsString_ok {buf : Buffer} {len : Nat} (short : len ≤ maxStringSize)
    (enough : len ≤ buf.readableBytes) :
    buf.retrieveAsString len = .ok (buf.readable.take len, buf.retrieve len) := by
  have inside : ¬ buf.peek.length < len := by
    have writer := buf.writer_le
    simp only [peek, List.length_drop, readableBytes] at enough ⊢
    omega
  rw [retrieveAsString, if_neg (Nat.not_lt.mpr short), if_neg inside, take_peek enough]

/-- Making place leaves the queue as it is. -/
@[simp] theorem readable_makePlace (buf : Buffer) (len : Nat) :
    (buf.makePlace len).readable = buf.readable := by
  unfold makePlace
  split
  · exact slice_resize buf.writer_le (Nat.le_add_right _ _)
  · have inside : kCheapPrepend ≤ buf.buffer.length :=
      Nat.le_trans buf.prepend_le (Nat.le_trans buf.reader_le buf.writer_le)
    have moved : slice (overwrite buf.buffer kCheapPrepend buf.readable) kCheapPrepend
        (kCheapPrepend + buf.readable.length) = buf.readable := slice_overwrite_self inside
    rwa [length_readable] at moved

@[simp] theorem readable_ensureWriteableBytes (buf : Buffer) (len : Nat) :
    (buf.ensureWriteableBytes len).readable = buf.readable := by
  unfold ensureWriteableBytes
  split <;> simp

/-- There is room after `ensureWriteableBytes`. -/
theorem writeableBytes_ensureWriteableBytes (buf : Buffer) (len : Nat) :
    len ≤ (buf.ensureWriteableBytes len).writeableBytes := by
  have prepend := buf.prepend_le
  have reader := buf.reader_le
  have writer := buf.writer_le
  have length : buf.readable.length = buf.readableBytes := buf.length_readable
  unfold ensureWriteableBytes
  split
  · unfold makePlace
    split
    · simp only [writeableBytes, length_resize]
      omega
    · rename_i room
      have fits : kCheapPrepend + buf.readable.length ≤ buf.buffer.length := by
        rw [length, readableBytes]
        omega
      simp only [writeableBytes, prependableBytes, readableBytes, length_overwrite fits] at room ⊢
      omega
  · rename_i enough
    omega

/-- Copy `data` to the write position and move it past the data. -/
def copyIn (buf : Buffer) (data : List Byte) (fits : data.length ≤ buf.writeableBytes) :
    Buffer where
  buffer := overwrite buf.buffer buf.writerIndex data
  readerIndex := buf.readerIndex
  writerIndex := buf.writerIndex + data.length
  prepend_le := buf.prepend_le
  reader_le := Nat.le_trans buf.reader_le (Nat.le_add_right _ _)
  writer_le := by
    have writer := buf.writer_le
    simp only [writeableBytes] at fits
    rw [length_overwrite (by omega)]
    omega

@[simp] theorem readable_copyIn (buf : Buffer) (data : List Byte)
    (fits : data.length ≤ buf.writeableBytes) :
    (buf.copyIn data fits).readable = buf.readable ++ data :=
  slice_overwrite_end buf.reader_le buf.writer_le

/-- `append`. -/
def append (buf : Buffer) (data : List Byte) : Buffer :=
  (buf.ensureWriteableBytes data.length).copyIn data
    (buf.writeableBytes_ensureWriteableBytes data.length)

/-- Appending puts bytes at the end of the queue. -/
@[simp] theorem readable_append (buf : Buffer) (data : List Byte) :
    (buf.append data).readable = buf.readable ++ data := by
  simp [append]

/-- The size of the second buffer that `readfd` hands to `readv`. -/
def extrabufferSize : Nat := 65536

/-- How many bytes `readv` can deliver at most: the second buffer is offered only if the vector has
less room than it. -/
def readCapacity (buf : Buffer) : Nat :=
  if buf.writeableBytes < extrabufferSize then buf.writeableBytes + extrabufferSize
  else buf.writeableBytes

/-- `readfd` when `readv` delivers `incoming`. -/
def readfd (buf : Buffer) (incoming : List Byte) : Buffer :=
  if fits : incoming.length ≤ buf.writeableBytes then buf.copyIn incoming fits
  else
    (buf.copyIn (incoming.take buf.writeableBytes) (List.length_take_le _ _)).append
      (incoming.drop buf.writeableBytes)

/-- What arrives goes to the end of the queue. -/
@[simp] theorem readable_readfd (buf : Buffer) (incoming : List Byte) :
    (buf.readfd incoming).readable = buf.readable ++ incoming := by
  unfold readfd
  split <;> simp

/-- The bytes `writefd` offers to the socket. -/
def writefd (buf : Buffer) : List Byte := buf.peek.take buf.readableBytes

/-- `writefd` offers the whole queue. -/
theorem writefd_eq (buf : Buffer) : buf.writefd = buf.readable := by
  rw [writefd, take_peek (Nat.le_refl _), ← length_readable, List.take_length]

end Buffer

end GomukuServer.MyMuduo
