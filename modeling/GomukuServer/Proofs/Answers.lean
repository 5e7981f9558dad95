/-
Module: GomukuServer.Proofs.Answers
Layer: Proofs
Purpose: Which messages an event makes the server send, and from that what a connection gets over a
  whole run: every registration, login, match and cancel request is answered once, on its own
  connection and in the order of the requests.
Trusted boundary: none
Main exports: deliver, Says, sent_of_step, answersOn, answers_in_order
-/
import GomukuServer.Module.GameServer

namespace GomukuServer.Proofs.Answers

open Base Base.Runs Model Manager Db Net
open GomukuServer.Module GomukuServer.Module.Server

/-- What `sendMsg` adds to the record of messages. -/
def deliver (server : Server) (conn : Option ConnId) (protocol : ProtocolId)
    (data : Json.Value) : List Sent :=
  match conn with
  | none => []
  | some conn => if conn ∈ server.conns.conns then [⟨conn, protocol, data⟩] else []

theorem sent_sendMsg (server : Server) (conn : Option ConnId) (protocol : ProtocolId)
    (data : Json.Value) :
    (server.sendMsg conn protocol data).sent =
      server.sent ++ deliver server conn protocol data := by
  cases conn with
  | none => simp [sendMsg, deliver]
  | some conn => rw [sendMsg_some]; rfl

/-- The answer a request gets on its own connection. -/
def answerTo : ServerEvent → Option (ConnId × ProtocolId)
  | .register conn _ _ => some (conn, .REGISTER_ACK)
  | .login conn _ _ => some (conn, .LOGIN_ACK)
  | .matchStart conn _ => some (conn, .MATCH_START_ACK)
  | .matchCancel conn _ => some (conn, .MATCH_CANCEL_ACK)
  | _ => none

/-- The events that make the server say nothing. -/
def Silent (server : Server) : ServerEvent → Prop
  | .connect _ | .disconnect _ _ | .exitRoom _ => True
  | .matchQueue i _ => (server.pool.queues i).length < 2
  | _ => False

/-- What an event makes the server say. -/
inductive Says (server : Server) : ServerEvent → List Sent → Prop where
  | nothing {event} (silent : Silent server event) : Says server event []
  | answer {event conn protocol} (asked : answerTo event = some (conn, protocol))
      (data : Json.Value) : Says server event (deliver server (some conn) protocol data)
  /-- The match thread has paired the first two of a queue. -/
  | paired {i roomCount userId1 userId2 rest}
      (queued : server.pool.queues i = userId1 :: userId2 :: rest) :
      Says server (.matchQueue i roomCount)
        (deliver server (server.users.getConnByUserId userId1) .MATCH_PUSH (matchedResult 1) ++
          deliver server (server.users.getConnByUserId userId2) .MATCH_PUSH (matchedResult 2))
  | told {conn req} (data : Json.Value) :
      Says server (.chat conn req)
        (deliver server (server.users.getConnByUserId
          (server.rooms.getUserIdFromOtherId (server.users.getUserIdByConn conn)))
          .GAME_CHAT_ACK data)
  /-- A move that does not win. -/
  | moved {conn req winOutcome loseOutcome x y rooms} (move : moveOf req = .ok (x, y))
      (handled : server.rooms.handChess x y (server.users.getUserIdByConn conn) =
        .ok (rooms, false)) :
      Says server (.chess conn req winOutcome loseOutcome)
        (deliver server (server.users.getConnByUserId
          (server.rooms.getUserIdFromOtherId (server.users.getUserIdByConn conn)))
          .CHESS_DOWN_ACK (moveResult x y))
  /-- A move that wins; `users` are the records after the settlement. -/
  | won {conn req winOutcome loseOutcome x y rooms} (move : moveOf req = .ok (x, y))
      (handled : server.rooms.handChess x y (server.users.getUserIdByConn conn) =
        .ok (rooms, true)) (users : UserManager) :
      Says server (.chess conn req winOutcome loseOutcome)
        (deliver server (some conn) .CHESS_DOWN_ACK
            (chessResult users x y true (server.users.getUserIdByConn conn)) ++
          deliver server (server.users.getConnByUserId
            (server.rooms.getUserIdFromOtherId (server.users.getUserIdByConn conn)))
            .CHESS_DOWN_ACK (chessResult users x y false
              (server.rooms.getUserIdFromOtherId (server.users.getUserIdByConn conn))))

theorem sent_register {server next : Server} {conn : ConnId} {req : Json.Value}
    {outcome : RegisterOutcome} (called : server.onRegister conn req outcome = .ok next) :
    ∃ data, next.sent = server.sent ++ deliver server (some conn) .REGISTER_ACK data := by
  simp only [onRegister, bind_eq_ok] at called
  obtain ⟨_, _, _, _, _, _, _, _, ⟨db, success, reason⟩, _, sentEq⟩ := called
  obtain rfl := Except.ok.inj sentEq
  exact ⟨_, sent_sendMsg _ _ _ _⟩

theorem sent_login {server next : Server} {conn : ConnId} {req : Json.Value}
    {outcome : LoginOutcome} (called : server.onLogin conn req outcome = .ok next) :
    ∃ data, next.sent = server.sent ++ deliver server (some conn) .LOGIN_ACK data := by
  simp only [onLogin, bind_eq_ok] at called
  obtain ⟨_, _, _, _, _, _, _, _, answer, _, entered⟩ := called
  cases answer with
  | none =>
      obtain rfl := Except.ok.inj entered
      exact ⟨_, sent_sendMsg _ _ _ _⟩
  | some row =>
      obtain ⟨user, _, entered⟩ := bind_eq_ok.mp entered
      obtain rfl := Except.ok.inj entered
      exact ⟨_, sent_sendMsg _ _ _ _⟩

/-- `addUser` sends nothing and closes nothing. -/
theorem quiet_addUser {server after : Server} {userId : UserId} {ret : Bool}
    (added : server.addUser userId = .ok (after, ret)) :
    after.sent = server.sent ∧ after.conns = server.conns := by
  obtain ⟨_, _, _, _, ⟨_, rfl⟩ | ⟨_, rfl⟩⟩ := addUser_ok added
  · exact ⟨rfl, rfl⟩
  · exact ⟨rfl, rfl⟩

theorem quiet_removeUser {server after : Server} {userId : UserId} {ret : Bool}
    (removed : server.removeUser userId = .ok (after, ret)) :
    after.sent = server.sent ∧ after.conns = server.conns := by
  obtain ⟨_, _, _, _, ⟨_, rfl⟩ | ⟨_, rfl⟩⟩ := removeUser_ok removed
  · exact ⟨rfl, rfl⟩
  · exact ⟨rfl, rfl⟩

theorem deliver_congr {server after : Server} (conns : after.conns = server.conns)
    (conn : Option ConnId) (protocol : ProtocolId) (data : Json.Value) :
    deliver after conn protocol data = deliver server conn protocol data := by
  unfold deliver
  rw [conns]

theorem sent_matchStart {server next : Server} {conn : ConnId} {req : Json.Value}
    (called : server.onMatch conn req = .ok next) :
    ∃ data, next.sent = server.sent ++ deliver server (some conn) .MATCH_START_ACK data := by
  simp only [onMatch, bind_eq_ok] at called
  obtain ⟨_, _, userId, _, ⟨after, ret⟩, added, sentEq⟩ := called
  obtain rfl := Except.ok.inj sentEq
  obtain ⟨sent, conns⟩ := quiet_addUser added
  refine ⟨matchAnswer ret "开始匹配成功" "开始匹配失败", ?_⟩
  rw [sent_sendMsg, sent, deliver_congr conns]

theorem sent_matchCancel {server next : Server} {conn : ConnId} {req : Json.Value}
    (called : server.onCancelMatch conn req = .ok next) :
    ∃ data, next.sent = server.sent ++ deliver server (some conn) .MATCH_CANCEL_ACK data := by
  simp only [onCancelMatch, bind_eq_ok] at called
  obtain ⟨_, _, userId, _, ⟨after, ret⟩, removed, sentEq⟩ := called
  obtain rfl := Except.ok.inj sentEq
  obtain ⟨sent, conns⟩ := quiet_removeUser removed
  refine ⟨matchAnswer ret "取消匹配成功" "取消匹配失败", ?_⟩
  rw [sent_sendMsg, sent, deliver_congr conns]

theorem sent_chat {server next : Server} {conn : ConnId} {req : Json.Value}
    (called : server.onChat conn req = .ok next) :
    ∃ data, next.sent = server.sent ++ deliver server (server.users.getConnByUserId
      (server.rooms.getUserIdFromOtherId (server.users.getUserIdByConn conn)))
      .GAME_CHAT_ACK data := by
  simp only [onChat, bind_eq_ok] at called
  obtain ⟨_, _, text, _, sentEq⟩ := called
  obtain rfl := Except.ok.inj sentEq
  exact ⟨_, sent_sendMsg _ _ _ _⟩

theorem sent_chess {server next : Server} {conn : ConnId} {req : Json.Value}
    {winOutcome loseOutcome : DbOutcome}
    (called : server.onChess conn req winOutcome loseOutcome = .ok next) :
    ∃ more, next.sent = server.sent ++ more ∧
      Says server (.chess conn req winOutcome loseOutcome) more := by
  simp only [onChess, bind_eq_ok] at called
  obtain ⟨jsonX, memberX, x, readX, jsonY, memberY, y, readY, ⟨rooms, ret⟩, handled, rest⟩ := called
  have move : moveOf req = .ok (x, y) := by
    simp only [moveOf, bind_eq_ok]
    exact ⟨jsonX, memberX, x, readX, jsonY, memberY, y, readY, rfl⟩
  cases ret with
  | false =>
      obtain rfl := Except.ok.inj rest
      exact ⟨_, sent_sendMsg _ _ _ _, .moved move handled⟩
  | true =>
      obtain ⟨settled, settledOk, sentEq⟩ := bind_eq_ok.mp rest
      obtain rfl := Except.ok.inj sentEq
      obtain ⟨_, _, _, same⟩ := settle_ok settledOk
      have quiet : settled.sent = server.sent ∧ settled.conns = server.conns := by
        rw [same]
        exact ⟨rfl, rfl⟩
      refine ⟨_, ?_, .won move handled settled.users⟩
      rw [sent_sendMsg, sent_sendMsg, quiet.1, List.append_assoc, deliver_congr (conns_sendMsg ..),
        deliver_congr quiet.2, deliver_congr quiet.2, users_sendMsg]

theorem sent_matchQueue {server next : Server} {i : Fin 3} {roomCount : UInt32}
    (called : server.matchQueue i roomCount = .ok next) :
    ∃ more, next.sent = server.sent ++ more ∧ Says server (.matchQueue i roomCount) more := by
  rcases matchQueue_ok called with ⟨short, rfl⟩ |
    ⟨userId1, userId2, rest, conn1, conn2, ref1, ref2, _, queued, online1, online2, user1, user2, _⟩
  · exact ⟨[], by simp, .nothing short⟩
  · rw [matchQueue_online roomCount queued online1 online2 user1 user2] at called
    obtain rfl := Except.ok.inj called
    refine ⟨_, ?_, .paired queued⟩
    have found1 : server.users.getConnByUserId userId1 = some conn1 := online1
    have found2 : server.users.getConnByUserId userId2 = some conn2 := online2
    simp only [deliver, found1, found2, List.append_assoc]

/-- The messages of an event that returns. -/
theorem sent_of_step {server next : Server} {event : ServerEvent}
    (stepEq : server.step event = .ok next) :
    ∃ more, next.sent = server.sent ++ more ∧ Says server event more := by
  cases event with
  | connect | disconnect =>
      obtain rfl := Except.ok.inj stepEq
      exact ⟨[], by simp [onConnect, onDisconnect], .nothing trivial⟩
  | exitRoom =>
      obtain ⟨_, same⟩ := onExitRoom_ok stepEq
      exact ⟨[], by rw [same]; simp, .nothing trivial⟩
  | register =>
      obtain ⟨data, sent⟩ := sent_register stepEq
      exact ⟨_, sent, .answer rfl data⟩
  | login =>
      obtain ⟨data, sent⟩ := sent_login stepEq
      exact ⟨_, sent, .answer rfl data⟩
  | matchStart =>
      obtain ⟨data, sent⟩ := sent_matchStart stepEq
      exact ⟨_, sent, .answer rfl data⟩
  | matchCancel =>
      obtain ⟨data, sent⟩ := sent_matchCancel stepEq
      exact ⟨_, sent, .answer rfl data⟩
  | matchQueue => exact sent_matchQueue stepEq
  | chess => exact sent_chess stepEq
  | chat =>
      obtain ⟨data, sent⟩ := sent_chat stepEq
      exact ⟨_, sent, .told data⟩

/-! ### Requests and answers -/

/-- The answers to requests; all other messages come unasked. -/
def answerIds : List ProtocolId := [.REGISTER_ACK, .LOGIN_ACK, .MATCH_START_ACK, .MATCH_CANCEL_ACK]

/-- The answers a connection has been sent, in order. -/
def answersOn (conn : ConnId) (sent : List Sent) : List ProtocolId :=
  (sent.filter fun message => message.conn = conn ∧ message.protocol ∈ answerIds).map Sent.protocol

/-- The answer to a request of this connection. -/
def asked (conn : ConnId) (event : ServerEvent) : Option ProtocolId :=
  (answerTo event).bind fun answer => if answer.1 = conn then some answer.2 else none

/-- The requests of a connection come while it is up. -/
def OnOpenConn (conn : ConnId) (server : Server) (event : ServerEvent) : Prop :=
  (asked conn event).isSome → conn ∈ server.conns.conns

instance (conn : ConnId) (server : Server) (event : ServerEvent) :
    Decidable (OnOpenConn conn server event) :=
  inferInstanceAs (Decidable (_ → _))

theorem answersOn_append (conn : ConnId) (first second : List Sent) :
    answersOn conn (first ++ second) = answersOn conn first ++ answersOn conn second := by
  simp [answersOn]

/-- A message that comes unasked is no answer. -/
theorem answersOn_deliver_of_not {protocol : ProtocolId} (unasked : protocol ∉ answerIds)
    (conn : ConnId) (server : Server) (recv : Option ConnId) (data : Json.Value) :
    answersOn conn (deliver server recv protocol data) = [] := by
  unfold deliver
  split
  · rfl
  · split <;> simp [answersOn, unasked]

/-- The answer that an event makes the server send. -/
theorem answersOn_of_event {server : Server} {event : ServerEvent} {more : List Sent}
    {conn : ConnId} (spoken : Says server event more) (onOpen : OnOpenConn conn server event) :
    answersOn conn more = (asked conn event).toList := by
  cases spoken with
  | nothing silent => cases event <;> first | rfl | cases silent
  | @answer event recv protocol request data =>
      have answers : protocol ∈ answerIds := by
        cases event <;> simp only [answerTo, Option.some.injEq, Prod.mk.injEq, reduceCtorEq]
          at request <;> obtain ⟨_, rfl⟩ := request <;> decide
      by_cases mine : recv = conn
      · subst mine
        have up : recv ∈ server.conns.conns := onOpen (by simp [asked, request])
        simp [asked, request, deliver, up, answersOn, answers]
      · have none : asked conn event = none := by simp [asked, request, mine]
        rw [none]
        unfold deliver
        dsimp only
        split <;> simp [answersOn, mine]
  | paired =>
      rw [answersOn_append, answersOn_deliver_of_not (by decide),
        answersOn_deliver_of_not (by decide)]
      rfl
  | told =>
      rw [answersOn_deliver_of_not (by decide)]
      rfl
  | moved =>
      rw [answersOn_deliver_of_not (by decide)]
      rfl
  | won =>
      rw [answersOn_append, answersOn_deliver_of_not (by decide),
        answersOn_deliver_of_not (by decide)]
      rfl

/-- In every run that returns, whatever else happens in between: if the requests of a connection
come while it is up, each of its registration, login, match and cancel requests is answered exactly
once, on that connection, with the answer that belongs to it, and the answers come in the order of
the requests. -/
theorem answers_in_order {server last : Server} {events : List ServerEvent} {conn : ConnId}
    (onOpen : Admissible step (OnOpenConn conn) server events)
    (reached : run step server events = .ok last) :
    answersOn conn last.sent = answersOn conn server.sent ++ events.filterMap (asked conn) := by
  induction events generalizing server with
  | nil =>
      obtain rfl := Except.ok.inj reached
      simp
  | cons event events inductionHypothesis =>
      obtain ⟨next, stepEq, rest⟩ := run_cons_ok reached
      obtain ⟨more, sent, spoken⟩ := sent_of_step stepEq
      have answers := answersOn_of_event spoken onOpen.1
      rw [inductionHypothesis (onOpen.2 next stepEq) rest, sent, answersOn_append, answers,
        List.append_assoc, List.filterMap_cons]
      cases asked conn event <;> rfl

/-- Two users log in and are matched, and one of them asks again and moves. -/
def pairUpAndAsk : List ServerEvent :=
  pairUp ++ [startMatch 10 1,
    .chess 10 (.object [("x", .int 7), ("y", .int 7)]) .succeeded .succeeded]

/-- The connection of that user gets three answers, to a login and to two match requests. -/
theorem answers_in_order_pairUpAndAsk :
    ∃ last, run step (Server.new annAndBob) pairUpAndAsk = .ok last ∧
      answersOn 10 last.sent = [.LOGIN_ACK, .MATCH_START_ACK, .MATCH_START_ACK] := by
  obtain ⟨last, reached⟩ := exists_last_of_isOk
    (show (run step (Server.new annAndBob) pairUpAndAsk).isOk = true by decide +kernel)
  have onOpen : Admissible step (OnOpenConn 10) (Server.new annAndBob) pairUpAndAsk := by
    decide +kernel
  exact ⟨last, reached, answers_in_order onOpen reached⟩

end GomukuServer.Proofs.Answers
