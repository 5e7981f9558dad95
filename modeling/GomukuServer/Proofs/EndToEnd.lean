/-
Module: GomukuServer.Proofs.EndToEnd
Layer: Proofs
Purpose: From the bytes that come in to the answers that go out.  The requests a connection sends as
  frames are answered on it, one by one and in their order, whatever bytes the other connections
  send in between.
Trusted boundary: JsonCpp is a parameter; a chunk is handled to its end before the next one
Main exports: answerIn, answersOn_arrive, requests_answered
-/
import GomukuServer.Proofs.Answers
import GomukuServer.Proofs.ByteStreams
import GomukuServer.Proofs.MessageSafety

namespace GomukuServer.Proofs.EndToEnd

open Base Base.Runs Base.Framing Manager Net Net.ProtocolDispatcher MyMuduo
open GomukuServer.Module GomukuServer.Module.Server
open Answers (answersOn asked answerTo OnOpenConn)
open ByteStreams (bodiesOf chunksOf StaysUp)
open MessageSafety (ascii answering)

/-- The requests that are answered, and their answers. -/
def answers : List (ProtocolId × ProtocolId) :=
  [(.REGISTER_REQ, .REGISTER_ACK), (.LOGIN_REQ, .LOGIN_ACK), (.MATCH_START_REQ, .MATCH_START_ACK),
    (.MATCH_CANCEL_REQ, .MATCH_CANCEL_ACK)]

/-- The answer to a protocol number. -/
def answerCode (protocol : Int) : Option ProtocolId :=
  (answers.find? fun entry => entry.1.code == protocol).map Prod.snd

/-- The answer that the body of a frame asks for. -/
def answerIn (json : JsonCpp) (body : List Byte) : Option ProtocolId :=
  match (dispatcher json).handle body with
  | .ok (some call) => answerCode call.protocol
  | _ => none

/-- Nothing takes the connection down, and nobody but the dispatcher asks for an answer. -/
def Plain (conn : ConnId) : Arrival → Prop
  | .message _ _ _ => True
  | .other event => answerTo event = none ∧ ∀ erased, event ≠ .disconnect conn erased

/-! ### Connections -/

/-- A connection stays in the set until it goes down. -/
theorem mem_conns_of_step {server next : Server} {event : ServerEvent} {conn : ConnId}
    (stepEq : server.step event = .ok next) (up : conn ∈ server.conns.conns)
    (stays : ∀ erased, event ≠ .disconnect conn erased) : conn ∈ next.conns.conns := by
  cases event with
  | connect other =>
      obtain rfl := Except.ok.inj stepEq
      simp [onConnect, ConnManager.addConn, up]
  | disconnect other erased =>
      obtain rfl := Except.ok.inj stepEq
      have elsewhere : conn ≠ other := by
        rintro rfl
        exact stays erased rfl
      simp [onDisconnect_eq, elsewhere, up]
  | register =>
      obtain ⟨_, _, _, _, _, _, same⟩ := onRegister_ok stepEq
      rw [same]
      exact up
  | login =>
      obtain ⟨_, ⟨_, rfl⟩ | ⟨_, _, _, _, rfl⟩⟩ := onLogin_ok stepEq
      · exact up
      · exact up
  | matchStart =>
      obtain ⟨_, after, _, _, _, added, rfl⟩ := onMatch_ok stepEq
      exact (Answers.quiet_addUser added).2 ▸ up
  | matchCancel =>
      obtain ⟨_, after, _, _, _, removed, rfl⟩ := onCancelMatch_ok stepEq
      exact (Answers.quiet_removeUser removed).2 ▸ up
  | matchQueue =>
      rcases matchQueue_ok stepEq with ⟨_, rfl⟩ | ⟨_, _, _, _, _, _, _, _, _, _, _, _, _, rfl⟩
      · exact up
      · exact up
  | chess =>
      obtain ⟨_, _, _, _, _, _, _, _, settled, rfl, _⟩ := onChess_ok stepEq
      rw [afterMove_ok settled]
      exact up
  | chat =>
      obtain ⟨_, rfl, _⟩ := onChat_ok stepEq
      exact up
  | exitRoom =>
      obtain ⟨_, same⟩ := onExitRoom_ok stepEq
      rw [same]
      exact up

/-! ### Requests -/

/-- What a registered handler answers. -/
theorem asked_of_findHandler {protocol : Int}
    {handler : ConnId → Json.Value → DbOutcomes → ServerEvent}
    (found : findHandler protocol = some handler) (conn sender : ConnId) (data : Json.Value)
    (outcomes : DbOutcomes) :
    asked conn (handler sender data outcomes) =
        (if sender = conn then answerCode protocol else none) ∧
      ∀ erased, handler sender data outcomes ≠ .disconnect conn erased := by
  obtain ⟨entry, there, rfl⟩ := Option.map_eq_some_iff.mp found
  have code : entry.1.code = protocol := by simpa using List.find?_some there
  have registered := List.mem_of_find?_eq_some there
  subst code
  simp only [handlers, List.mem_cons, List.not_mem_nil, or_false] at registered
  rcases registered with rfl | rfl | rfl | rfl | rfl | rfl | rfl <;>
    refine ⟨?_, fun _ => by simp⟩ <;>
    by_cases mine : sender = conn <;> simp [asked, answerTo, mine] <;> rfl

/-- What the body of a frame leads to. -/
theorem answersOn_receive {json : JsonCpp} {server next : Server} {conn sender : ConnId}
    {body : List Byte} {outcomes : DbOutcomes}
    (received : server.receive json sender body outcomes = .ok next)
    (up : conn ∈ server.conns.conns) :
    answersOn conn next.sent = answersOn conn server.sent ++
        (if sender = conn then answerIn json body else none).toList ∧
      conn ∈ next.conns.conns := by
  obtain ⟨call, handled, rest⟩ := bind_eq_ok.mp received
  cases call with
  | none =>
      obtain rfl := Except.ok.inj rest
      simp [answerIn, handled, up]
  | some call =>
      cases found : findHandler call.protocol with
      | none =>
          have registered : (findHandler call.protocol).isSome = true :=
            (handle_eq_some handled).1
          simp [found] at registered
      | some handler =>
          simp only [found] at rest
          have stepEq := (stepAndLog_eq_ok.mp rest).1
          obtain ⟨asks, stays⟩ := asked_of_findHandler found conn sender call.data outcomes
          obtain ⟨more, sent, spoken⟩ := Answers.sent_of_step stepEq
          refine ⟨?_, mem_conns_of_step stepEq up stays⟩
          rw [sent, Answers.answersOn_append, Answers.answersOn_of_event spoken fun _ => up, asks]
          simp [answerIn, handled]

/-- What one arrival leads to. -/
theorem answersOn_arrive {json : JsonCpp} {server next : Server} {conn : ConnId}
    {arrival : Arrival} (plain : Plain conn arrival) (up : conn ∈ server.conns.conns)
    (arrived : server.arrive json arrival = .ok next) :
    answersOn conn next.sent = answersOn conn server.sent ++
        (bodiesOf conn [arrival]).filterMap (answerIn json) ∧
      conn ∈ next.conns.conns := by
  cases arrival with
  | message sender body outcomes =>
      obtain ⟨answered, stays⟩ := answersOn_receive arrived up
      refine ⟨?_, stays⟩
      rw [answered]
      by_cases mine : sender = conn
      · subst mine
        cases found : answerIn json body <;> simp [bodiesOf, found]
      · simp [bodiesOf, mine]
  | other event =>
      obtain ⟨quiet, stays⟩ := plain
      have stepEq := (stepAndLog_eq_ok.mp arrived).1
      have none : asked conn event = none := by simp [asked, quiet]
      obtain ⟨more, sent, spoken⟩ := Answers.sent_of_step stepEq
      refine ⟨?_, mem_conns_of_step stepEq up stays⟩
      rw [sent, Answers.answersOn_append,
        Answers.answersOn_of_event spoken (by simp [OnOpenConn, none]), none]
      simp [bodiesOf]

/-- What a run of arrivals leads to. -/
theorem answersOn_arrivals {json : JsonCpp} {server last : Server} {conn : ConnId}
    {arrivals : List Arrival} (plain : ∀ arrival ∈ arrivals, Plain conn arrival)
    (up : conn ∈ server.conns.conns)
    (ran : run (Server.arrive json) server arrivals = .ok last) :
    answersOn conn last.sent = answersOn conn server.sent ++
      (bodiesOf conn arrivals).filterMap (answerIn json) := by
  induction arrivals generalizing server with
  | nil =>
      obtain rfl := Except.ok.inj ran
      simp [bodiesOf]
  | cons arrival arrivals inductionHypothesis =>
      obtain ⟨next, arrived, rest⟩ := run_cons_ok ran
      obtain ⟨answered, stays⟩ :=
        answersOn_arrive (plain arrival (List.mem_cons_self ..)) up arrived
      have bodiesEq : bodiesOf conn (arrival :: arrivals) =
          bodiesOf conn [arrival] ++ bodiesOf conn arrivals :=
        List.filterMap_append (l := [arrival])
      have plainLater (other : Arrival) (inside : other ∈ arrivals) :=
        plain other (List.mem_cons_of_mem _ inside)
      rw [inductionHypothesis plainLater stays rest, answered, bodiesEq, List.filterMap_append,
        List.append_assoc]

/-! ### Bytes -/

/-- What comes out of the input buffers is plain for a connection that stays up. -/
theorem plain_of_intakes {conn : ConnId} {inputs after : PMap ConnId Buffer}
    {events : List ByteEvent} {arrivals : List Arrival}
    (up : ∀ event ∈ events, StaysUp conn event)
    (taken : ByteServer.intakes inputs events = .ok (after, arrivals)) :
    ∀ arrival ∈ arrivals, Plain conn arrival := by
  induction events generalizing inputs arrivals with
  | nil =>
      cases taken
      simp
  | cons event events inductionHypothesis =>
      obtain ⟨⟨middle, first⟩, intake, others⟩ := bind_eq_ok.mp taken
      obtain ⟨⟨final, later⟩, rest, built⟩ := bind_eq_ok.mp others
      cases built
      have stays := up event (List.mem_cons_self ..)
      have one : ∀ arrival ∈ first, Plain conn arrival := by
        cases event with
        | connected other =>
            cases intake
            simp [Plain, answerTo]
        | disconnected other erased =>
            cases intake
            simpa [Plain, answerTo, StaysUp] using stays
        | matchQueue i roomCount =>
            cases intake
            simp [Plain, answerTo]
        | received other incoming outcomes =>
            simp only [ByteServer.intake] at intake
            split at intake
            · cases intake
              simp
            · split at intake
              · cases intake
                simp
              · obtain ⟨⟨rest', body⟩, _, built⟩ := bind_eq_ok.mp intake
                cases built
                cases body <;> simp [Plain]
      intro arrival inside
      rcases List.mem_append.mp inside with here | there
      · exact one arrival (Option.mem_toList.mp here)
      · exact inductionHypothesis (fun other member => up other (List.mem_cons_of_mem _ member))
          rest arrival there

/-- A connection that stays up, starts with nothing in its input buffer and sends frames with bodies
that are accepted, each of which ends with a chunk and is cut only in its header: in every run that
returns, whatever bytes the other connections send in between, the answers it is sent are those that
its own bodies ask for, one for each and in their order. -/
theorem requests_answered {json : JsonCpp} {state last : ByteServer} {events : List ByteEvent}
    (reached : run (ByteServer.step json) state events = .ok last) {conn : ConnId} {buf : Buffer}
    {bodies : List (List Byte)} (up : conn ∈ state.server.conns.conns)
    (mine : state.inputs.find? conn = some buf) (empty : buf.readable = [])
    (stays : ∀ event ∈ events, StaysUp conn event)
    (accepted : ∀ body ∈ bodies, body ≠ [] ∧ body.length ≤ 1024)
    (cut : EndsWithFrames headerSize (chunksOf conn events) (bodies.map (frame headerSize))) :
    answersOn conn last.server.sent =
      answersOn conn state.server.sent ++ bodies.filterMap (answerIn json) := by
  obtain ⟨arrivals, taken, ran⟩ := ByteStreams.run_eq_ok reached
  have whole := (ByteStreams.intakes_frames taken mine empty stays accepted cut).1
  rw [answersOn_arrivals (plain_of_intakes stays taken) up ran, whole]

/-- A login of ann. -/
def loginBody : List Byte :=
  ascii "\x7b\"protocol\":1003,\"data\":\x7b\"username\":\"ann\",\"password\":\"\"\x7d\x7d"

/-- Her request to be matched. -/
def matchBody : List Byte := ascii "\x7b\"protocol\":2001,\"data\":\x7b\"userId\":1\x7d\x7d"

/-- JsonCpp on these two texts. -/
def twoRequests : JsonCpp where
  parse body :=
    if body = loginBody then
      .ok (some (.object [("protocol", .int 1003),
        ("data", .object [("username", .string "ann"), ("password", .string "")])]))
    else if body = matchBody then
      .ok (some (.object [("protocol", .int 2001), ("data", .object [("userId", .int 1)])]))
    else .ok none
  receivedStyledString _ := ""
  toStyledString _ := ""

/-- Two connections that have come up. -/
def twoOpen : ByteServer :=
  ⟨((Server.new annAndBob).onConnect 10).onConnect 11, (PMap.empty.insert 10 .new).insert 11 .new⟩

/-- One of them logs in and asks for a match, with a header that is cut, and the other one sends
bytes that are no frame. -/
def loginAndMatch : List ByteEvent :=
  [.received 10 (frame headerSize loginBody) answering, .received 11 [9, 9, 9, 9, 9] answering,
    .received 10 [0, 0] answering, .received 11 [9] answering,
    .received 10 ((frame headerSize matchBody).drop 2) answering]

/-- The first connection is sent both of its answers. -/
theorem requests_answered_loginAndMatch :
    ∃ last, run (ByteServer.step twoRequests) twoOpen loginAndMatch = .ok last ∧
      answersOn 10 last.server.sent = [.LOGIN_ACK, .MATCH_START_ACK] := by
  have returns : (run (ByteServer.step twoRequests) twoOpen loginAndMatch).isOk = true := by
    decide +kernel
  obtain ⟨last, reached⟩ := exists_last_of_isOk returns
  have answered : [loginBody, matchBody].filterMap (answerIn twoRequests) =
      [.LOGIN_ACK, .MATCH_START_ACK] := by decide +kernel
  have mine : twoOpen.inputs.find? 10 = some .new := by simp [twoOpen]
  refine ⟨last, reached, ?_⟩
  rw [requests_answered reached (by decide +kernel) mine Buffer.readable_new ?_ ?_ ?_, answered]
  · rfl
  · simp [loginAndMatch, StaysUp]
    decide +kernel
  · decide +kernel
  · exact ⟨[[frame headerSize loginBody], [[0, 0], (frame headerSize matchBody).drop 2]],
      by decide +kernel, .cons ⟨by decide +kernel, by decide +kernel⟩
        (.cons ⟨by decide +kernel, by decide +kernel⟩ .nil)⟩

end GomukuServer.Proofs.EndToEnd
