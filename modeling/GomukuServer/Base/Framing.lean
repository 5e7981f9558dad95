/-
Module: GomukuServer.Base.Framing
Layer: Base
Purpose: Length-prefixed framing with a big-endian length of any width, and what can be said about a
  stream of frames that is cut into chunks.  `EndsWithFrames` is the kind of cutting that a receiver
  copes with that looks at its buffer once per chunk.  `received` is what a receiver gets that keeps
  what it has until a frame is whole.
Trusted boundary: none
Main exports: encode, decode, decode_encode, frame, decode_frame, CutIn, EndsWithFrames, received,
  received_of_prefix, received_frames
-/
import Mathlib.Data.List.Forall2
import Mathlib.Algebra.Group.Int.Defs
import Mathlib.Algebra.Group.Nat.Defs

namespace GomukuServer.Base.Framing

/-- The big-endian text of a number in `width` bytes.  Higher digits are dropped. -/
def encode : Nat → Nat → List UInt8
  | 0, _ => []
  | width + 1, number => encode width (number / 256) ++ [UInt8.ofNat (number % 256)]

/-- The number a big-endian text stands for. -/
def decode (bytes : List UInt8) : Nat :=
  bytes.foldl (fun number byte => number * 256 + byte.toNat) 0

@[simp] theorem length_encode (width number : Nat) : (encode width number).length = width := by
  induction width generalizing number with
  | zero => rfl
  | succ width inductionHypothesis => simp [encode, inductionHypothesis]

theorem decode_append_singleton (bytes : List UInt8) (byte : UInt8) :
    decode (bytes ++ [byte]) = decode bytes * 256 + byte.toNat := by
  simp [decode]

/-- Decoding undoes encoding, up to the digits that did not fit. -/
theorem decode_encode (width number : Nat) :
    decode (encode width number) = number % 256 ^ width := by
  induction width generalizing number with
  | zero => simp [encode, decode, Nat.mod_one]
  | succ width inductionHypothesis =>
      rw [encode, decode_append_singleton, inductionHypothesis]
      have digit : (UInt8.ofNat (number % 256)).toNat = number % 256 := by simp
      rw [digit, Nat.pow_succ, Nat.mul_comm (256 ^ width), Nat.mod_mul, Nat.mul_comm, Nat.add_comm]

/-- A body behind its length. -/
def frame (width : Nat) (body : List UInt8) : List UInt8 := encode width body.length ++ body

@[simp] theorem length_frame (width : Nat) (body : List UInt8) :
    (frame width body).length = width + body.length := by
  simp [frame]

/-- The header of whatever starts with a frame gives the length of its body. -/
theorem decode_frame {width : Nat} {body received : List UInt8}
    (short : body.length < 256 ^ width) (starts : frame width body <+: received) :
    decode (received.take width) = body.length := by
  obtain ⟨rest, rfl⟩ := starts
  have header : (frame width body ++ rest).take width = encode width body.length := by
    rw [frame, List.append_assoc]
    exact List.take_left' (length_encode width body.length)
  rw [header, decode_encode, Nat.mod_eq_of_lt short]

/-- Behind the header of a frame comes its body. -/
theorem drop_frame (width : Nat) (body : List UInt8) : (frame width body).drop width = body :=
  List.drop_left' (length_encode width body.length)

/-- The chunks make up the frame, and all but the last of them lie within its first `width` bytes.
-/
def CutIn (width : Nat) (chunks : List (List UInt8)) (frame : List UInt8) : Prop :=
  chunks.flatten = frame ∧ chunks.dropLast.flatten.length ≤ width

/-- The chunks can be divided up so that each frame consists of whole chunks and is cut, if at all,
only in its first `width` bytes. -/
def EndsWithFrames (width : Nat) (chunks frames : List (List UInt8)) : Prop :=
  ∃ groups : List (List (List UInt8)), groups.flatten = chunks ∧
    List.Forall₂ (CutIn width) groups frames

/-! ### A receiver -/

/-- The bodies of at most `count` whole frames at the front of a stream. -/
def bodies (width : Nat) : Nat → List UInt8 → List (List UInt8)
  | 0, _ => []
  | count + 1, stream =>
      let size := decode (stream.take width)
      if stream.length < width then []
      else if stream.length < width + size then []
      else (stream.drop width).take size :: bodies width count (stream.drop (width + size))

/-- The bodies of the whole frames at the front of a stream. -/
def received (width : Nat) (stream : List UInt8) : List (List UInt8) :=
  bodies width stream.length stream

/-- A stream shorter than a header has no frame. -/
theorem bodies_of_short {width count : Nat} {stream : List UInt8} (short : stream.length < width) :
    bodies width count stream = [] := by
  cases count with
  | zero => rfl
  | succ count => simp only [bodies, if_pos short]

/-- The first frame is read, and then the rest. -/
theorem bodies_frame_append {width : Nat} {body : List UInt8} (fits : body.length < 256 ^ width)
    (count : Nat) (rest : List UInt8) :
    bodies width (count + 1) (frame width body ++ rest) = body :: bodies width count rest := by
  have size := decode_frame fits (List.prefix_append (frame width body) rest)
  have behind : (frame width body ++ rest).drop width = body ++ rest := by
    rw [frame, List.append_assoc]
    exact List.drop_left' (length_encode width body.length)
  have rested : (frame width body ++ rest).drop (width + body.length) = rest :=
    List.drop_left' (length_frame width body)
  simp only [bodies, size, behind, rested, List.length_append, length_frame]
  rw [if_neg (by omega), if_neg (by omega)]
  simp

/-- A part of a frame is not read. -/
theorem bodies_of_part {width : Nat} {body stream : List UInt8} (fits : body.length < 256 ^ width)
    (part : stream <+: frame width body) (short : stream.length < width + body.length)
    (count : Nat) : bodies width count stream = [] := by
  by_cases header : stream.length < width
  · exact bodies_of_short header
  · cases count with
    | zero => rfl
    | succ count =>
        -- the header is whole, so it gives the length of the body
        obtain ⟨rest, whole⟩ := part
        have size : decode (stream.take width) = body.length := by
          have first := decode_frame fits (List.prefix_refl (frame width body))
          rwa [← whole, List.take_append_of_le_length (by omega)] at first
        simp only [bodies, size, if_neg header, if_pos short]

/-- Whatever part of a stream of frames has come, only its bodies are read, in order and from the
first on. -/
theorem bodies_of_prefix {width : Nat} (wide : 0 < width) {texts : List (List UInt8)}
    (fits : ∀ text ∈ texts, text.length < 256 ^ width) {stream : List UInt8}
    (part : stream <+: (texts.map (frame width)).flatten) (count : Nat) :
    bodies width count stream <+: texts := by
  induction texts generalizing stream count with
  | nil =>
      obtain rfl := List.prefix_nil.mp part
      have nothing : bodies width count ([] : List UInt8) = [] := bodies_of_short wide
      exact (congrArg (· <+: []) nothing).mpr (List.prefix_refl [])
  | cons text texts inductionHypothesis =>
      have fit := fits text List.mem_cons_self
      simp only [List.map_cons, List.flatten_cons] at part
      by_cases short : stream.length < width + text.length
      · have first := List.prefix_of_prefix_length_le part (List.prefix_append _ _)
          (by rw [length_frame]; omega)
        rw [bodies_of_part fit first short]
        exact List.nil_prefix
      · obtain ⟨rest, rfl⟩ := List.prefix_of_prefix_length_le (List.prefix_append _ _) part
          (by rw [length_frame]; omega)
        cases count with
        | zero => exact List.nil_prefix
        | succ count =>
            rw [bodies_frame_append fit]
            exact List.cons_prefix_cons.mpr ⟨rfl, inductionHypothesis
              (fun other member => fits other (List.mem_cons_of_mem _ member))
              ((List.prefix_append_right_inj _).mp part) count⟩

/-- A receiver gets the bodies in order, from the first on. -/
theorem received_of_prefix {width : Nat} (wide : 0 < width) {texts : List (List UInt8)}
    (fits : ∀ text ∈ texts, text.length < 256 ^ width) {stream : List UInt8}
    (part : stream <+: (texts.map (frame width)).flatten) : received width stream <+: texts :=
  bodies_of_prefix wide fits part stream.length

/-- Frames that have come as a whole are read, before anything behind them. -/
theorem bodies_frames_append {width : Nat} {texts : List (List UInt8)}
    (fits : ∀ text ∈ texts, text.length < 256 ^ width) (count : Nat) (rest : List UInt8) :
    bodies width (texts.length + count) ((texts.map (frame width)).flatten ++ rest) =
      texts ++ bodies width count rest := by
  induction texts with
  | nil => simp
  | cons text texts inductionHypothesis =>
      have following := inductionHypothesis fun other member =>
        fits other (List.mem_cons_of_mem _ member)
      rw [List.length_cons, Nat.add_right_comm, List.map_cons, List.flatten_cons,
        List.append_assoc, bodies_frame_append (fits text List.mem_cons_self), following]
      rfl

/-- A stream of frames is at least as long as they are many. -/
theorem length_le_length_frames {width : Nat} (wide : 0 < width) (texts : List (List UInt8)) :
    texts.length ≤ ((texts.map (frame width)).flatten).length := by
  induction texts with
  | nil => simp
  | cons text texts inductionHypothesis =>
      simp only [List.map_cons, List.flatten_cons, List.length_append, List.length_cons,
        length_frame]
      omega

/-- When all of the stream has come, the receiver has got every body. -/
theorem received_frames {width : Nat} (wide : 0 < width) {texts : List (List UInt8)}
    (fits : ∀ text ∈ texts, text.length < 256 ^ width) :
    received width (texts.map (frame width)).flatten = texts := by
  obtain ⟨more, length⟩ := Nat.exists_eq_add_of_le (length_le_length_frames wide texts)
  have whole := bodies_frames_append fits more []
  have nothing : bodies width more [] = [] := bodies_of_short wide
  rw [List.append_nil, nothing, List.append_nil] at whole
  rw [received, length, whole]

end GomukuServer.Base.Framing
