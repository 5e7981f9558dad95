/-
Module: GomukuServer.Proofs.FrameBounds
Layer: Proofs
Purpose: When `dispatch` takes a frame out of the buffer without reading past what was received. 
  The length in the header comes from the client, and what it is compared with decides how many
  bytes are copied.
Trusted boundary: none
Main exports: retrieval, extract_eq_retrieval, FrameInBounds, frameInBounds_iff
-/
import GomukuServer.Net.ProtocolDispatcher

namespace GomukuServer.Proofs.FrameBounds

open Base MyMuduo Net Net.ProtocolDispatcher

/-- The call of `retrieveAsString` that `dispatch` makes: its argument, before the conversion to
`size_t`, and the buffer at that moment. -/
def retrieval (buf : Buffer) : Option (Int × Buffer) :=
  if headerSize < buf.readableBytes then
    if maxSize < readSize buf then none
    else if buf.readableBytes - headerSize ≤ toSize (readSize buf) then
      some (readSize buf, buf.retrieve headerSize)
    else none
  else none

/-- Taking a frame out of the buffer is making this call. -/
theorem extract_eq_retrieval (buf : Buffer) :
    extract buf = match retrieval buf with
      | none => .ok (buf, none)
      | some (size, rest) =>
          (rest.retrieveAsString (toSize size)).map fun taken => (taken.2, some taken.1) := by
  unfold extract retrieval
  by_cases header : headerSize < buf.readableBytes
  · rw [if_pos header, if_pos header]
    by_cases long : maxSize < readSize buf
    · rw [if_pos long, if_pos long]
    · rw [if_neg long, if_neg long]
      by_cases whole : buf.readableBytes - headerSize ≤ toSize (readSize buf)
      · rw [if_pos whole, if_pos whole]
        dsimp only
        cases (buf.retrieve headerSize).retrieveAsString (toSize (readSize buf)) <;> rfl
      · rw [if_neg whole, if_neg whole]
  · rw [if_neg header, if_neg header]

/-- The call asks for bytes that are readable, and what is taken out of the buffer are bytes that
were received behind the header. -/
structure FrameInBounds (buf : Buffer) : Prop where
  call : ∀ size rest, retrieval buf = some (size, rest) → toSize size ≤ rest.readableBytes
  message : ∃ rest msg, extract buf = .ok (rest, msg) ∧
    ∀ text, msg = some text → text <+: buf.readable.drop headerSize

/-- The header announces no more than has been received behind it. -/
def Announced (buf : Buffer) : Prop :=
  toSize (readSize buf) < buf.readableBytes - headerSize ∨
    (0 ≤ readSize buf ∧ readSize buf = (buf.readableBytes - headerSize : Nat))

/-- A negative length is more than any string can hold. -/
theorem maxStringSize_lt_toSize {buf : Buffer} (negative : readSize buf < 0) :
    maxStringSize < toSize (readSize buf) := by
  have lower : -((2 ^ 32 : Nat) / 2 : Int) ≤ readSize buf := by
    unfold readSize
    exact Int.le_bmod (by decide)
  simp only [toSize, maxStringSize] at lower ⊢
  omega

/-- The bytes behind the header are what is readable when the call is made. -/
theorem readableBytes_retrieve (buf : Buffer) (len : Nat) :
    (buf.retrieve len).readableBytes = buf.readableBytes - len := by
  rw [← Buffer.length_readable, Buffer.readable_retrieve, List.length_drop, Buffer.length_readable]

/-- Without a call nothing is taken out. -/
theorem frameInBounds_of_none {buf : Buffer} (none : retrieval buf = none) : FrameInBounds buf where
  call := fun _ _ made => nomatch none.symm.trans made
  message := by
    refine ⟨buf, Option.none, ?_, fun _ taken => nomatch taken⟩
    rw [extract_eq_retrieval, none]

/-- A call that asks for a whole message of received bytes. -/
theorem frameInBounds_of_some {buf : Buffer} {size : Int}
    (made : retrieval buf = some (size, buf.retrieve headerSize))
    (short : toSize size ≤ maxStringSize)
    (received : toSize size ≤ (buf.retrieve headerSize).readableBytes) : FrameInBounds buf where
  call := by
    intro other rest otherMade
    obtain ⟨rfl, rfl⟩ := Prod.mk.inj (Option.some.inj (made.symm.trans otherMade))
    exact received
  message := by
    have taken := Buffer.retrieveAsString_ok short received
    refine ⟨_, _, by rw [extract_eq_retrieval, made]; dsimp only; rw [taken]; rfl, ?_⟩
    intro text same
    obtain rfl := Option.some.inj same
    rw [Buffer.readable_retrieve]
    exact List.take_prefix _ _

/-- A call with a negative length throws. -/
theorem not_negative {buf : Buffer} (inBounds : FrameInBounds buf)
    (made : retrieval buf = some (readSize buf, buf.retrieve headerSize)) : 0 ≤ readSize buf := by
  by_contra negative
  have long := maxStringSize_lt_toSize (Int.not_le.mp negative)
  obtain ⟨rest, msg, extracted, _⟩ := inBounds.message
  rw [extract_eq_retrieval, made] at extracted
  dsimp only at extracted
  rw [Buffer.retrieveAsString, if_pos long] at extracted
  cases extracted

/-- A length that is not refused and not negative is converted to itself. -/
theorem toSize_readSize {buf : Buffer} (accepted : ¬ maxSize < readSize buf)
    (positive : 0 ≤ readSize buf) :
    (toSize (readSize buf) : Int) = readSize buf ∧ toSize (readSize buf) ≤ maxStringSize := by
  simp only [maxSize] at accepted
  simp only [toSize, maxStringSize]
  omega

/-- For every content of the buffer: the frame is taken out in bounds exactly if there is no whole
header with a byte behind it, or the length is refused as too large, or the header announces no more
than has been received. -/
theorem frameInBounds_iff (buf : Buffer) :
    FrameInBounds buf ↔
      buf.readableBytes ≤ headerSize ∨ maxSize < readSize buf ∨ Announced buf := by
  by_cases header : headerSize < buf.readableBytes
  · by_cases long : maxSize < readSize buf
    · have none : retrieval buf = none := by rw [retrieval, if_pos header, if_pos long]
      simp [frameInBounds_of_none none, long]
    · by_cases whole : buf.readableBytes - headerSize ≤ toSize (readSize buf)
      · have made : retrieval buf = some (readSize buf, buf.retrieve headerSize) := by
          rw [retrieval, if_pos header, if_neg long, if_pos whole]
        have readable := readableBytes_retrieve buf headerSize
        constructor
        · intro inBounds
          have received := inBounds.call _ _ made
          have positive := not_negative inBounds made
          obtain ⟨same, _⟩ := toSize_readSize long positive
          exact Or.inr (Or.inr (Or.inr ⟨positive, by omega⟩))
        · rintro (short | tooLong | less | ⟨positive, exactly⟩)
          · omega
          · exact absurd tooLong long
          · omega
          · obtain ⟨same, short⟩ := toSize_readSize long positive
            exact frameInBounds_of_some made short (by omega)
      · have none : retrieval buf = none := by
          rw [retrieval, if_pos header, if_neg long, if_neg whole]
        simp only [frameInBounds_of_none none, true_iff]
        exact Or.inr (Or.inr (Or.inl (Nat.lt_of_not_le whole)))
  · have none : retrieval buf = none := by rw [retrieval, if_neg header]
    simp [frameInBounds_of_none none, Nat.le_of_not_lt header]

/-- What a client has sent, in a new buffer. -/
def received (bytes : List Byte) : Buffer := Buffer.new.append bytes

/-- One byte of a body of five, and a body behind a negative length: the call asks for more bytes
than are readable. -/
theorem not_frameInBounds_partial :
    ¬ FrameInBounds (received [0, 0, 0, 5, 0x7b]) ∧
      ¬ FrameInBounds (received [0xff, 0xff, 0xff, 0xff, 0x7b]) := by
  have refuted (bytes : List Byte) (size readable : Nat) (more : readable < size)
      (seen : (retrieval (received bytes)).map
        (fun made => (toSize made.1, made.2.readableBytes)) = some (size, readable)) :
      ¬ FrameInBounds (received bytes) := by
    intro inBounds
    obtain ⟨⟨length, rest⟩, made, same⟩ := Option.map_eq_some_iff.mp seen
    obtain ⟨rfl, rfl⟩ := Prod.mk.inj same
    exact absurd (inBounds.call length rest made) (Nat.not_le.mpr more)
  constructor
  · exact refuted _ 5 1 (by decide) (by decide +kernel)
  · exact refuted _ (2 ^ 64 - 1) 1 (by decide) (by decide +kernel)

end GomukuServer.Proofs.FrameBounds
