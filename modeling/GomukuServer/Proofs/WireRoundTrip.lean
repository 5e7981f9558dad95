/-
Module: GomukuServer.Proofs.WireRoundTrip
Layer: Proofs
Purpose: The wire format in both directions: what `sendMsg` writes is what `dispatch` reads.  But
  `dispatch` logs the message before it calls the handler, with its text as the format, so the
  handler is called only if the text has no conversion that takes an argument.
Trusted boundary: JsonCpp reads back what it has written
Main exports: RoundTrips, roundTrips_of_frame, dispatches_what_was_sent_iff
-/
import GomukuServer.Module.SendMsg
import GomukuServer.Proofs.MessageSafety

namespace GomukuServer.Proofs.WireRoundTrip

open Base Base.Printf Db GomukuServer.Module GomukuServer.Module.SendMsg MyMuduo Net
open Net.ProtocolDispatcher
open MessageSafety (ascii styledChat)

/-- The numbers of the protocols are ints. -/
theorem code_inRange (protocol : ProtocolId) :
    -2 ^ 31 ≤ protocol.code ∧ protocol.code < 2 ^ 31 := by
  cases protocol <;> decide

/-- Only protocols have handlers. -/
theorem inRange_of_findHandler {protocol : Int}
    {handler : Manager.ConnId → Json.Value → DbOutcomes → ServerEvent}
    (found : findHandler protocol = some handler) :
    -2 ^ 31 ≤ protocol ∧ protocol < 2 ^ 31 := by
  obtain ⟨entry, isEntry, _⟩ := Option.map_eq_some_iff.mp found
  have same := List.find?_some isEntry
  rw [beq_iff_eq] at same
  exact same ▸ code_inRange entry.1

/-- Reading a message that was built by `sendMsg` gives its protocol number and its data, if the log
call returns. -/
theorem handle_message {disp : ProtocolDispatcher} {body : List Byte} {protocol : Int}
    {msg : Json.Value} (parsed : disp.parse body = .ok (some (message protocol msg)))
    (inRange : -2 ^ 31 ≤ protocol ∧ protocol < 2 ^ 31) (registered : disp.registered protocol) :
    disp.handle body = (do
      dlog (disp.receivedStyledString body)
      pure (some ⟨protocol, msg⟩)) := by
  have number : Json.Value.asInt (.int protocol) = .ok protocol := if_pos inRange
  have named : (message protocol msg).subscript "protocol" = .ok (.int protocol) := rfl
  have data : (message protocol msg).subscript "data" = .ok msg := rfl
  rw [handle, parsed]
  simp only [named, number, data, ok_bind, registered, if_true]

/-- `dispatch` takes the body out of the buffer, leaves the buffer empty and calls the handler of
the protocol with the message. -/
def RoundTrips (json : JsonCpp) (protocol : Int)
    (handler : Manager.ConnId → Json.Value → DbOutcomes → ServerEvent) (msg : Json.Value)
    (body : List Byte) (buf : Buffer) : Prop :=
  ∃ rest, rest.readable = [] ∧
    (dispatcher json).dispatch buf = .ok (rest, some ⟨buf.readable, body, ⟨protocol, msg⟩⟩) ∧
    ∀ (server : Server) conn outcomes, server.onMessage json conn buf outcomes =
      (server.stepAndLog json (handler conn msg outcomes)).map fun server => (server, rest)

/-- A buffer that holds one frame, whose body is the text of a message with a handler. -/
theorem roundTrips_of_frame {json : JsonCpp} {protocol : Int}
    {handler : Manager.ConnId → Json.Value → DbOutcomes → ServerEvent}
    (found : findHandler protocol = some handler) {msg : Json.Value} {body : List Byte}
    (readBack : json.parse body = .ok (some (message protocol msg))) (nonempty : 1 ≤ body.length)
    (short : body.length ≤ 1024) {buf : Buffer}
    (whole : buf.readable = Framing.frame headerSize body) :
    RoundTrips json protocol handler msg body buf ↔
      takesArgument (json.receivedStyledString body) = false := by
  have registered : (dispatcher json).registered protocol = true := by
    simp only [dispatcher, found, Option.isSome_some]
  have parsed : (dispatcher json).parse body = .ok (some (message protocol msg)) := readBack
  have handled := handle_message parsed (inRange_of_findHandler found) registered
  have text : (dispatcher json).receivedStyledString body = json.receivedStyledString body := rfl
  obtain ⟨rest, extracted, empty⟩ :=
    extract_frame (List.ne_nil_of_length_pos nonempty) short whole
  rw [← dlog_eq_ok]
  constructor
  · rintro ⟨_, _, dispatched, _⟩
    rw [dispatch, extracted, ok_bind] at dispatched
    obtain ⟨call, answered, _⟩ := bind_eq_ok.mp dispatched
    rw [handled] at answered
    obtain ⟨_, logged, _⟩ := bind_eq_ok.mp answered
    exact logged
  · intro logged
    rw [text, logged] at handled
    refine ⟨rest, empty, ?_, fun server conn outcomes => ?_⟩
    · rw [dispatch, extracted, ok_bind]
      simp only [handled, ok_bind, pure_eq_ok, Option.map_some]
    · rw [Server.onMessage, extracted, ok_bind]
      simp only [Server.receive, handled, ok_bind, pure_eq_ok, found]

/-- For every protocol with a handler and every message whose text is neither empty nor longer than
1024 bytes: `sendMsg` has bytes to send, and out of any buffer that holds just these bytes
`dispatch` takes the message, leaves the buffer empty and calls the handler of the protocol with the
message, exactly if the styled text of what it has parsed has no conversion that takes an argument.
-/
theorem dispatches_what_was_sent_iff (json : JsonCpp) (write : Json.Value → List Byte)
    {protocol : Int} {handler : Manager.ConnId → Json.Value → DbOutcomes → ServerEvent}
    (found : findHandler protocol = some handler) {msg : Json.Value}
    (readBack : json.parse (write (message protocol msg)) = .ok (some (message protocol msg)))
    (nonempty : 1 ≤ (write (message protocol msg)).length)
    (short : (write (message protocol msg)).length ≤ 1024) :
    ∃ bytes, sendMsgBytes write protocol msg = .ok bytes ∧
      ∀ buf : Buffer, buf.readable = bytes →
        (RoundTrips json protocol handler msg (write (message protocol msg)) buf ↔
          takesArgument (json.receivedStyledString (write (message protocol msg))) = false) :=
  ⟨_, realmsg_eq (by omega), fun _ whole =>
    roundTrips_of_frame found readBack nonempty short whole⟩

/-- A request for a match as a client writes it. -/
def matchText : List Byte := ascii "\x7b\"data\":\x7b\"userId\":7\x7d,\"protocol\":2001\x7d\n"

/-- Its data. -/
def matchData : Json.Value := .object [("userId", .int 7)]

/-- JsonCpp, as far as this text goes. -/
def matchJson : JsonCpp where
  parse body := .ok (if body = matchText then some (message 2001 matchData) else none)
  receivedStyledString _ :=
    "\x7b\n\t\"data\" : \n\t\x7b\n\t\t\"userId\" : 7\n\t\x7d,\n\t\"protocol\" : 2001\n\x7d\n"
  toStyledString _ := ""

/-- The request reaches the handler for matches. -/
theorem dispatches_what_was_sent_match :
    ∃ bytes, sendMsgBytes (fun _ => matchText) 2001 matchData = .ok bytes ∧
      ∀ buf : Buffer, buf.readable = bytes →
        RoundTrips matchJson 2001 (fun conn data _ => .matchStart conn data) matchData matchText
          buf := by
  have found : findHandler 2001 = some fun conn data _ => .matchStart conn data := rfl
  have readBack : matchJson.parse matchText = .ok (some (message 2001 matchData)) := by
    simp [matchJson]
  obtain ⟨bytes, sent, received⟩ := dispatches_what_was_sent_iff matchJson (fun _ => matchText)
    found readBack (by decide) (by decide)
  refine ⟨bytes, sent, fun buf whole => (received buf whole).mpr ?_⟩
  exact takesArgument_of_no_percent (by decide +kernel)

/-- A chat of percent signs as a client writes it. -/
def percentText : List Byte :=
  ascii "\x7b\"data\":\x7b\"message\":\"%s%s%s%s\"\x7d,\"protocol\":4001\x7d\n"

/-- Its data. -/
def percentData : Json.Value := .object [("message", .string "%s%s%s%s")]

/-- JsonCpp, as far as this text goes. -/
def percentJson : JsonCpp where
  parse body := .ok (if body = percentText then some (message 4001 percentData) else none)
  receivedStyledString _ := styledChat "4001" "%s%s%s%s"
  toStyledString _ := styledChat "4002" "%s%s%s%s"

/-- The chat is written in 1 to 1024 bytes and read back, and out of no buffer it reaches the
handler for chats. -/
theorem not_roundTrips_percents :
    percentJson.parse percentText = .ok (some (message 4001 percentData)) ∧
      1 ≤ percentText.length ∧ percentText.length ≤ 1024 ∧
      ∃ bytes, sendMsgBytes (fun _ => percentText) 4001 percentData = .ok bytes ∧
        ∀ buf : Buffer, buf.readable = bytes →
          ¬ RoundTrips percentJson 4001 (fun conn data _ => .chat conn data) percentData
            percentText buf := by
  have found : findHandler 4001 = some fun conn data _ => .chat conn data := rfl
  have readBack : percentJson.parse percentText = .ok (some (message 4001 percentData)) := by
    simp [percentJson]
  have length : 1 ≤ percentText.length ∧ percentText.length ≤ 1024 := by decide
  have sent := realmsg_eq (show percentText.length + 4 < 2 ^ 31 by omega)
  refine ⟨readBack, length.1, length.2, _, sent, fun buf whole received => ?_⟩
  have printable := (roundTrips_of_frame found readBack length.1 length.2 whole).mp received
  exact absurd printable (by decide +kernel)

end GomukuServer.Proofs.WireRoundTrip
