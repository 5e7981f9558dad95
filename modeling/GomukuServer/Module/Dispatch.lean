/-
Module: GomukuServer.Module.Dispatch
Layer: Module
Purpose: A message on its way through the server: the dispatcher takes it out of the input buffer,
  JsonCpp parses it, the handler of its protocol number is called, and on the way the message and
  every answer are logged, with their text as the format of the log call.
Trusted boundary: JsonCpp's reader and its styled writer are parameters; a frame is handled to its
  end before the next one
Main exports: DbOutcomes, JsonCpp, handlers, stepAndLog, receive, onMessage, Arrival, arrive,
  stepAndLog_eq_ok, onMessage_frame
-/
import GomukuServer.Module.GameServer
import GomukuServer.Net.ProtocolDispatcher

namespace GomukuServer.Module

open Base Base.Printf Model Manager Db Net MyMuduo

/-- How the database calls go, whichever of them the handler makes. -/
structure DbOutcomes where
  register : RegisterOutcome
  login : LoginOutcome
  win : DbOutcome
  lose : DbOutcome

/-- What the code uses of JsonCpp: `Reader::parse`, which may throw, `toStyledString` of the root
that was parsed from a body, which has the comments of the body in it, and `toStyledString` of a
value that the server has built. -/
structure JsonCpp where
  parse : List Byte → Except Fault (Option Json.Value)
  receivedStyledString : List Byte → String
  toStyledString : Json.Value → String

/-- `m_handlerMap`, as the three modules fill it. -/
def handlers : List (ProtocolId × (ConnId → Json.Value → DbOutcomes → ServerEvent)) :=
  [(.REGISTER_REQ, fun conn data outcomes => .register conn data outcomes.register),
    (.LOGIN_REQ, fun conn data outcomes => .login conn data outcomes.login),
    (.MATCH_START_REQ, fun conn data _ => .matchStart conn data),
    (.MATCH_CANCEL_REQ, fun conn data _ => .matchCancel conn data),
    (.GAME_CHAT_REQ, fun conn data _ => .chat conn data),
    (.CHESS_DOWN_REQ, fun conn data outcomes => .chess conn data outcomes.win outcomes.lose),
    (.EXIT_ROOM_REQ, fun conn _ _ => .exitRoom conn)]

/-- `m_handlerMap.find`. -/
def findHandler (protocol : Int) : Option (ConnId → Json.Value → DbOutcomes → ServerEvent) :=
  (handlers.find? fun entry => entry.1.code == protocol).map Prod.snd

/-- The dispatcher of the server. -/
def dispatcher (json : JsonCpp) : ProtocolDispatcher where
  parse := json.parse
  receivedStyledString := json.receivedStyledString
  registered := fun protocol => (findHandler protocol).isSome

/-- What `sendMsg` makes of a message before it is written: the value whose text is logged. -/
def response (protocol : ProtocolId) (data : Json.Value) : Json.Value :=
  .object [("data", data), ("protocol", .int protocol.code)]

namespace Server

/-- The log calls of `sendMsg` for some messages: the text of each is a format. -/
def logAnswers (json : JsonCpp) : List Sent → Except Fault Unit
  | [] => .ok ()
  | message :: messages => do
      dlog (json.toStyledString (response message.protocol message.data))
      logAnswers json messages

/-- A step with the log calls of `sendMsg` for what it sends.  They stand at its end here: one that
faults ends the run wherever it stands. -/
def stepAndLog (json : JsonCpp) (server : Server) (event : ServerEvent) : Except Fault Server := do
  let next ← server.step event
  logAnswers json (next.sent.drop server.sent.length)
  pure next

/-- `dispatch` from the parsing on, and the handler it calls. -/
def receive (json : JsonCpp) (server : Server) (conn : ConnId) (body : List Byte)
    (outcomes : DbOutcomes) : Except Fault Server := do
  match ← (dispatcher json).handle body with
  | none => pure server
  | some call =>
      match findHandler call.protocol with
      | none => pure server
      | some handler => server.stepAndLog json (handler conn call.data outcomes)

/-- `onMessage`. -/
def onMessage (json : JsonCpp) (server : Server) (conn : ConnId) (buf : Buffer)
    (outcomes : DbOutcomes) : Except Fault (Server × Buffer) := do
  match ← ProtocolDispatcher.extract buf with
  | (rest, none) => pure (server, rest)
  | (rest, some body) =>
      (server.receive json conn body outcomes).map fun server => (server, rest)

/-- What reaches the server: the body of a frame, or any other event. -/
inductive Arrival where
  | message (conn : ConnId) (body : List Byte) (outcomes : DbOutcomes)
  | other (event : ServerEvent)

/-- Handle what has arrived. -/
def arrive (json : JsonCpp) (server : Server) : Arrival → Except Fault Server
  | .message conn body outcomes => server.receive json conn body outcomes
  | .other event => server.stepAndLog json event

/-- The log calls return if no text has a conversion that takes an argument. -/
theorem logAnswers_eq_ok {json : JsonCpp} {messages : List Sent} :
    logAnswers json messages = .ok () ↔ ∀ message ∈ messages,
      takesArgument (json.toStyledString (response message.protocol message.data)) = false := by
  induction messages with
  | nil => simp [logAnswers]
  | cons message messages inductionHypothesis =>
      rw [logAnswers, bind_eq_ok, List.forall_mem_cons, ← inductionHypothesis, ← dlog_eq_ok]
      exact ⟨fun ⟨(), logged, rest⟩ => ⟨logged, rest⟩, fun ⟨logged, rest⟩ => ⟨(), logged, rest⟩⟩

/-- A step that is logged is a step. -/
theorem stepAndLog_eq_ok {json : JsonCpp} {server next : Server} {event : ServerEvent} :
    server.stepAndLog json event = .ok next ↔ server.step event = .ok next ∧
      ∀ message ∈ next.sent.drop server.sent.length,
        takesArgument (json.toStyledString (response message.protocol message.data)) = false := by
  simp only [stepAndLog, bind_eq_ok, pure_eq_ok, Except.ok.injEq]
  constructor
  · rintro ⟨_, stepEq, _, logged, rfl⟩
    exact ⟨stepEq, logAnswers_eq_ok.mp logged⟩
  · rintro ⟨stepEq, logged⟩
    exact ⟨next, stepEq, (), logAnswers_eq_ok.mpr logged, rfl⟩

/-- When a buffer holds one whole frame, `onMessage` hands its body on and leaves the buffer empty.
-/
theorem onMessage_frame (json : JsonCpp) (server : Server) (conn : ConnId) {buf : Buffer}
    {body : List Byte} (outcomes : DbOutcomes) (nonempty : body ≠ []) (short : body.length ≤ 1024)
    (whole : buf.readable = Framing.frame ProtocolDispatcher.headerSize body) :
    ∃ rest, rest.readable = [] ∧ server.onMessage json conn buf outcomes =
      (server.receive json conn body outcomes).map fun server => (server, rest) := by
  obtain ⟨rest, extracted, empty⟩ := ProtocolDispatcher.extract_frame nonempty short whole
  exact ⟨rest, empty, by simp only [onMessage, extracted, ok_bind]⟩

end Server

end GomukuServer.Module
