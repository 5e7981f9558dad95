/-
Module: GomukuServer.Proofs.BadFrames
Layer: Proofs
Purpose: Which frames disturb the frames behind them, when every frame arrives whole in a read of
  its own.  A frame without a body and a frame that is too long stay in the buffer, and `dispatch`
  finds their header in front of everything that comes later; the other bad frames leave nothing
  behind, unless JsonCpp throws on them.  A good frame does harm if its text brings down the log
  call in front of the handler.
Trusted boundary: the JSON reader is a parameter
Main exports: Frame, asked, Receptive, Undisturbed, Understood, Harmless, Deaf, undisturbed_iff,
  not_undisturbed_empty
-/
import GomukuServer.Proofs.FrameBounds
import GomukuServer.Proofs.StreamReassembly

namespace GomukuServer.Proofs.BadFrames

open Base Base.Framing Base.Printf MyMuduo Net Net.ProtocolDispatcher StreamReassembly

/-- A frame as a client can send it: any body whose length the header has room for. -/
structure Frame where
  body : List Byte
  fits : body.length < 2 ^ 32

/-- The frame on the wire. -/
def Frame.wire (frame : Frame) : List Byte := Framing.frame headerSize frame.body

/-- A parsed body of which `dispatch` can read the protocol number. -/
def HasProtocol (root : Json.Value) : Prop :=
  root.IsRecord ∧ (root.member "protocol").ConvertsToInt

instance : DecidablePred HasProtocol := fun _ => inferInstanceAs (Decidable (_ ∧ _))

/-- The handler call a body asks for, if it is well formed and its protocol is registered. -/
def requested (disp : ProtocolDispatcher) (body : List Byte) : Option Call :=
  match disp.parse body with
  | .ok (some root) =>
      if HasProtocol root ∧ disp.registered (root.member "protocol").toInt then
        some ⟨(root.member "protocol").toInt, root.member "data"⟩
      else none
  | _ => none

/-- The handler call a frame asks for: that of its body, if the length is between 1 and 1024. -/
def asked (disp : ProtocolDispatcher) (frame : Frame) : Option Call :=
  if frame.body ≠ [] ∧ frame.body.length ≤ 1024 then requested disp frame.body else none

/-- A buffer out of which the next frame of an acceptable length would be taken. -/
def Receptive (buf : Buffer) : Prop :=
  ∀ body : List Byte, body ≠ [] → body.length ≤ 1024 →
    ∃ rest, extract (buf.readfd (Framing.frame headerSize body)) = .ok (rest, some body)

/-- Frames delivered one at a time lead to the calls they ask for, in order, as if the others had
not been sent, and the buffer is ready for the next one.  `dispatch` never closes a connection. -/
def Undisturbed (disp : ProtocolDispatcher) (frames : List Frame) : Prop :=
  ∃ last calls, deliver disp Buffer.new (frames.map Frame.wire) = .ok (last, calls) ∧
    calls.map (fun called => (called.msg, called.call)) =
      frames.filterMap (fun frame => (asked disp frame).map fun call => (frame.body, call)) ∧
    Receptive last

/-- A body that `dispatch` gets through: the reader does not throw, what it reads has a readable
protocol number, and if that number is registered the text can be a format. -/
structure Understood (disp : ProtocolDispatcher) (body : List Byte) : Prop where
  parses : ∃ parsed, disp.parse body = .ok parsed
  named : ∀ root, disp.parse body = .ok (some root) → HasProtocol root
  printable : (requested disp body).isSome → takesArgument (disp.receivedStyledString body) = false

/-- A frame of an acceptable length whose body is understood, as JSON or as no JSON. -/
structure Harmless (disp : ProtocolDispatcher) (frame : Frame) : Prop where
  nonempty : frame.body ≠ []
  short : frame.body.length ≤ 1024
  understood : Understood disp frame.body

/-- A buffer that is stuck as soon as another byte arrives. -/
def Deaf (buf : Buffer) : Prop := ∀ chunk : List Byte, chunk ≠ [] → Stuck (buf.readfd chunk)

variable {disp : ProtocolDispatcher}

/-! ### Frames that do no harm -/

theorem Frame.wire_ne_nil (frame : Frame) : frame.wire ≠ [] := by
  have length := length_frame headerSize frame.body
  intro empty
  rw [Frame.wire] at empty
  rw [empty, List.length_nil, headerSize] at length
  omega

/-- The second half of `dispatch` returns exactly if the body is understood, and then it finds the
call the body asks for. -/
theorem handle_eq_ok {body : List Byte} {call : Option Call} :
    disp.handle body = .ok call ↔ Understood disp body ∧ call = requested disp body := by
  cases parsed : disp.parse body with
  | error fault =>
      rw [handle_of_thrown parsed]
      refine iff_of_false nofun fun both => ?_
      obtain ⟨_, returned⟩ := both.1.parses
      cases parsed.symm.trans returned
  | ok answer =>
      cases answer with
      | none =>
          have none : requested disp body = none := by simp [requested, parsed]
          have understood : Understood disp body := ⟨⟨_, parsed⟩, by simp [parsed], by simp [none]⟩
          rw [handle_of_refused parsed, none, Except.ok.injEq, eq_comm]
          exact (and_iff_right understood).symm
      | some root =>
          have asReturns : disp.handle body = .ok call ↔ Returns (disp.handle body) (· = call) := by
            simp [Returns]
          rw [asReturns, returns_handle parsed]
          constructor
          · rintro ⟨record, int, printable, rfl⟩
            have readable : HasProtocol root := ⟨record, int⟩
            have same : requested disp body = disp.called root := by
              simp [requested, called, parsed, readable]
            refine ⟨⟨⟨_, parsed⟩, ?_, fun asks => printable ?_⟩, same.symm⟩
            · rintro other again
              obtain rfl := Option.some.inj (Except.ok.inj (parsed.symm.trans again))
              exact readable
            · rw [same, called] at asks
              by_contra other
              simp [other] at asks
          · rintro ⟨understood, rfl⟩
            have readable := understood.named root parsed
            have same : requested disp body = disp.called root := by
              simp [requested, called, parsed, readable]
            refine ⟨readable.1, readable.2, fun registered => understood.printable ?_, same.symm⟩
            simp [same, called, registered]

/-- A harmless frame leads to the call it asks for and leaves nothing in the buffer. -/
theorem handleRead_harmless {buf : Buffer} {frame : Frame} (harmless : Harmless disp frame)
    (empty : buf.readable = []) :
    ∃ next, disp.handleRead buf frame.wire =
        .ok (next, (asked disp frame).map fun call => ⟨frame.wire, frame.body, call⟩) ∧
      next.readable = [] := by
  have arrived : (buf.readfd frame.wire).readable = frame.wire := by simp [empty]
  obtain ⟨next, taken, drained⟩ := extract_frame harmless.nonempty harmless.short arrived
  have handled := handle_eq_ok.mpr ⟨harmless.understood, rfl⟩
  refine ⟨next, ?_, drained⟩
  simp only [handleRead, dispatch, if_neg frame.wire_ne_nil, taken, ok_bind, handled, arrived,
    pure_eq_ok, asked, harmless.nonempty, harmless.short, ne_eq, not_false_eq_true, and_self,
    if_true]

/-- Harmless frames lead to the calls they ask for. -/
theorem deliver_harmless {buf : Buffer} {frames : List Frame}
    (harmless : ∀ frame ∈ frames, Harmless disp frame) (empty : buf.readable = []) :
    ∃ last, deliver disp buf (frames.map Frame.wire) = .ok (last, frames.filterMap fun frame =>
        (asked disp frame).map fun call => ⟨frame.wire, frame.body, call⟩) ∧
      last.readable = [] := by
  induction frames generalizing buf with
  | nil => exact ⟨buf, rfl, empty⟩
  | cons frame frames inductionHypothesis =>
      obtain ⟨next, read, drained⟩ := handleRead_harmless (harmless frame (by simp)) empty
      obtain ⟨last, delivered, lastEmpty⟩ := inductionHypothesis
        (fun other inside => harmless other (List.mem_cons_of_mem _ inside)) drained
      refine ⟨last, deliver_cons.mpr ⟨next, _, _, read, delivered, ?_⟩, lastEmpty⟩
      rw [List.filterMap_cons]
      cases asked disp frame <;> rfl

/-- An empty buffer is ready for the next frame. -/
theorem receptive_of_empty {buf : Buffer} (empty : buf.readable = []) : Receptive buf := by
  intro body nonempty short
  have arrived : (buf.readfd (Framing.frame headerSize body)).readable =
      Framing.frame headerSize body := by simp [empty]
  obtain ⟨rest, taken, _⟩ := extract_frame nonempty short arrived
  exact ⟨rest, taken⟩

/-! ### Frames that do harm -/

/-- A stuck buffer stays stuck. -/
theorem deaf_of_stuck {buf : Buffer} (stuck : Stuck buf) : Deaf buf :=
  fun chunk _ => stuck.readfd chunk

/-- What arrives in a deaf buffer stays there. -/
theorem handleRead_deaf {buf next : Buffer} {chunk : List Byte} {call : Option Dispatched}
    (deaf : Deaf buf) (nonempty : chunk ≠ [])
    (read : disp.handleRead buf chunk = .ok (next, call)) : call = none ∧ Deaf next := by
  have stuck := deaf chunk nonempty
  simp only [handleRead, dispatch, if_neg nonempty, extract_stuck stuck, ok_bind, pure_eq_ok,
    Except.ok.injEq, Prod.mk.injEq] at read
  obtain ⟨rfl, rfl⟩ := read
  exact ⟨rfl, deaf_of_stuck stuck⟩

/-- No frame is ever dispatched from a deaf buffer. -/
theorem deliver_deaf {buf last : Buffer} {frames : List Frame} {calls : List Dispatched}
    (deaf : Deaf buf) (delivered : deliver disp buf (frames.map Frame.wire) = .ok (last, calls)) :
    calls = [] ∧ Deaf last := by
  induction frames generalizing buf calls with
  | nil =>
      simp only [List.map_nil, deliver, Except.ok.injEq, Prod.mk.injEq] at delivered
      obtain ⟨rfl, rfl⟩ := delivered
      exact ⟨rfl, deaf⟩
  | cons frame frames inductionHypothesis =>
      obtain ⟨next, call, rest, read, others, rfl⟩ := deliver_cons.mp delivered
      obtain ⟨rfl, still⟩ := handleRead_deaf deaf frame.wire_ne_nil read
      simpa using inductionHypothesis still others

/-- A deaf buffer is not ready for any frame. -/
theorem not_receptive_of_deaf {buf : Buffer} (deaf : Deaf buf) : ¬ Receptive buf := by
  intro receptive
  obtain ⟨rest, taken⟩ := receptive [0] (by simp) (by simp)
  rw [extract_stuck (deaf _ (by simp [Framing.frame]))] at taken
  simp at taken

/-- The header of a frame without a body stays in front of what comes later. -/
theorem deaf_of_empty {buf : Buffer} (header : buf.readable = Framing.frame headerSize []) :
    Deaf buf := by
  intro chunk nonempty
  have arrived : (buf.readfd chunk).readable = Framing.frame headerSize [] ++ chunk := by
    simp [header]
  have length : (buf.readfd chunk).readableBytes = headerSize + chunk.length := by
    rw [← Buffer.length_readable, arrived, List.length_append, length_frame, List.length_nil,
      Nat.add_zero]
  have size : readSize (buf.readfd chunk) = 0 :=
    readSize_frame (by simp) (arrived ▸ List.prefix_append _ _)
  have some : 0 < chunk.length := List.length_pos_iff.mpr nonempty
  refine ⟨by omega, .inr ?_⟩
  rw [size, length, toSize]
  simpa using some

/-- The header of a frame that is too long stays where it is, if its length is a positive `int`. -/
theorem stuck_of_long {buf : Buffer} {body : List Byte}
    (whole : buf.readable = Framing.frame headerSize body) (long : 1024 < body.length)
    (positive : body.length < 2 ^ 31) : Stuck buf := by
  have length : buf.readableBytes = headerSize + body.length := by
    rw [← Buffer.length_readable, whole, length_frame]
  have size : readSize buf = body.length :=
    readSize_frame positive (whole ▸ List.prefix_refl _)
  refine ⟨by omega, .inl ?_⟩
  rw [size, maxSize]
  omega

/-- A length that is a negative `int` makes the extraction throw. -/
theorem extract_negative {buf : Buffer} {body : List Byte}
    (whole : buf.readable = Framing.frame headerSize body) (negative : 2 ^ 31 ≤ body.length)
    (fits : body.length < 2 ^ 32) : ∀ taken, extract buf ≠ .ok taken := by
  have length : buf.readableBytes = headerSize + body.length := by
    rw [← Buffer.length_readable, whole, length_frame]
  have size : readSize buf < 0 := by
    have room : 256 ^ headerSize = 2 ^ 32 := by decide
    have decoded : decode (buf.readable.take headerSize) = body.length :=
      decode_frame (room ▸ fits) (whole ▸ List.prefix_refl _)
    rw [readSize_eq (by omega), decoded, Int.bmod_def]
    split <;> omega
  have lower : maxStringSize < toSize (readSize buf) := FrameBounds.maxStringSize_lt_toSize size
  have made : FrameBounds.retrieval buf = some (readSize buf, buf.retrieve headerSize) := by
    rw [FrameBounds.retrieval, if_pos (by omega), if_neg (by simp only [maxSize]; omega), if_pos]
    simp only [maxStringSize] at lower
    omega
  intro taken extracted
  rw [FrameBounds.extract_eq_retrieval, made] at extracted
  dsimp only at extracted
  rw [Buffer.retrieveAsString, if_pos lower] at extracted
  cases extracted

/-- A frame that is not harmless leaves the buffer deaf, if `handleRead` returns. -/
theorem deaf_of_not_harmless {buf next : Buffer} {frame : Frame} {call : Option Dispatched}
    (harmful : ¬ Harmless disp frame) (empty : buf.readable = [])
    (read : disp.handleRead buf frame.wire = .ok (next, call)) : Deaf next := by
  have arrived : (buf.readfd frame.wire).readable = frame.wire := by simp [empty]
  simp only [handleRead, dispatch, if_neg frame.wire_ne_nil] at read
  by_cases nonempty : frame.body = []
  · have header : (buf.readfd frame.wire).readable = Framing.frame headerSize [] := by
      rw [arrived, Frame.wire, nonempty]
    have short : (buf.readfd frame.wire).readableBytes ≤ headerSize := by
      rw [← Buffer.length_readable, header, length_frame, List.length_nil, Nat.add_zero]
    rw [extract_short short] at read
    simp only [ok_bind, pure_eq_ok, Except.ok.injEq, Prod.mk.injEq] at read
    exact read.1 ▸ deaf_of_empty header
  by_cases short : frame.body.length ≤ 1024
  · obtain ⟨rest, taken, _⟩ := extract_frame nonempty short arrived
    simp only [taken, ok_bind] at read
    obtain ⟨answer, handled, _⟩ := bind_eq_ok.mp read
    exact absurd ⟨nonempty, short, (handle_eq_ok.mp handled).1⟩ harmful
  by_cases positive : frame.body.length < 2 ^ 31
  · have stuck := stuck_of_long arrived (Nat.lt_of_not_le short) positive
    rw [extract_stuck stuck] at read
    simp only [ok_bind, pure_eq_ok, Except.ok.injEq, Prod.mk.injEq] at read
    exact read.1 ▸ deaf_of_stuck stuck
  · obtain ⟨taken, extracted, _⟩ := bind_eq_ok.mp read
    exact absurd extracted
      (extract_negative arrived (Nat.le_of_not_lt positive) frame.fits taken)

/-- A delivery after which the buffer is ready was one of harmless frames. -/
theorem harmless_of_deliver {buf last : Buffer} {frames : List Frame} {calls : List Dispatched}
    (empty : buf.readable = [])
    (delivered : deliver disp buf (frames.map Frame.wire) = .ok (last, calls))
    (receptive : Receptive last) : ∀ frame ∈ frames, Harmless disp frame := by
  induction frames generalizing buf calls with
  | nil => simp
  | cons frame frames inductionHypothesis =>
      obtain ⟨next, call, rest, read, others, rfl⟩ := deliver_cons.mp delivered
      by_cases harmless : Harmless disp frame
      · obtain ⟨other, readAgain, drained⟩ := handleRead_harmless harmless empty
        obtain ⟨rfl, rfl⟩ := Prod.mk.inj (Except.ok.inj (readAgain.symm.trans read))
        exact List.forall_mem_cons.mpr ⟨harmless, inductionHypothesis drained others⟩
      · have deaf := deaf_of_not_harmless harmless empty read
        exact absurd receptive (not_receptive_of_deaf (deliver_deaf deaf others).2)

/-! ### The claim -/

/-- For every sequence of frames, each delivered whole: the handlers are called for exactly the
well-formed ones and the buffer stays ready if and only if no body is empty or longer than 1024
bytes, the reader throws on none, the protocol number of every one that is JSON can be read, and no
text that is logged has a conversion that takes an argument. -/
theorem undisturbed_iff (disp : ProtocolDispatcher) (frames : List Frame) :
    Undisturbed disp frames ↔ ∀ frame ∈ frames, Harmless disp frame := by
  constructor
  · rintro ⟨last, calls, delivered, _, receptive⟩
    exact harmless_of_deliver Buffer.readable_new delivered receptive
  · intro harmless
    obtain ⟨last, delivered, empty⟩ := deliver_harmless harmless Buffer.readable_new
    refine ⟨last, _, delivered, ?_, receptive_of_empty empty⟩
    simp [List.map_filterMap, Option.map_map, Function.comp_def]

/-- The frame of a match request. -/
def matchStartFrame : Frame := ⟨matchStartText, by decide⟩

/-- A frame with a body of 1025 bytes. -/
def longFrame : Frame := ⟨List.replicate 1025 0, by rw [List.length_replicate]; decide⟩

/-- A frame without a body, or one with a body of 1025 bytes, and the match request behind it is
never dispatched. -/
theorem not_undisturbed_empty :
    ¬ Undisturbed matchDispatcher [⟨[], by decide⟩, matchStartFrame] ∧
      ¬ Undisturbed matchDispatcher [longFrame, matchStartFrame] := by
  have refuted (bad : Frame) (good : asked matchDispatcher bad = none)
      (seen : (deliver matchDispatcher Buffer.new [bad.wire, matchStartFrame.wire]).toOption.map
        (fun result => result.2.length) = some 0) :
      ¬ Undisturbed matchDispatcher [bad, matchStartFrame] := by
    rintro ⟨last, calls, delivered, sameCalls, _⟩
    have call : (asked matchDispatcher matchStartFrame).isSome = true := by decide
    obtain ⟨call, asks⟩ := Option.isSome_iff_exists.mp call
    simp only [List.map_cons, List.map_nil] at delivered
    rw [delivered] at seen
    have none : calls.length = 0 := Option.some.inj seen
    have count := congrArg List.length sameCalls
    simp [none, good, asks] at count
  constructor
  · exact refuted _ (by decide) (by decide +kernel)
  · have long : ¬ longFrame.body.length ≤ 1024 := by
      rw [longFrame, List.length_replicate]
      decide
    exact refuted _ (if_neg fun both => long both.2) (by decide +kernel)

end GomukuServer.Proofs.BadFrames
