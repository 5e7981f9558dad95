/-
Module: GomukuServer.Proofs.OneTable
Layer: Proofs
Purpose: A room refines a table with two players and nothing else.  As long as nothing parts two
  users who are in a room, its board and all that they are told of the game and of each other's chat
  are what the table makes of their own requests alone; so a game does not depend on anything else
  that happens on the server.
Trusted boundary: none
Main exports: heardOn, tableEvent, HasBoard, Shows, room_refines_table, same_game
-/
import GomukuServer.Model.Table
import GomukuServer.Proofs.PlayersAgree

namespace GomukuServer.Proofs.OneTable

open Base Base.Runs Model Manager Db Net
open GomukuServer.Module GomukuServer.Module.Server
open Answers (deliver Says sent_of_step)
open PartedPlayers PlayersAgree

/-! ### What belongs to a table -/

/-- A message as one of a game or of a chat. -/
def tableMessage (message : Sent) : Option TableMessage :=
  match message.protocol with
  | .GAME_CHAT_ACK =>
      match message.data.member "message" with
      | .string text => some (.line text)
      | _ => none
  | .CHESS_DOWN_ACK =>
      let x := (message.data.member "x").toInt
      let y := (message.data.member "y").toInt
      match message.data.member "win" with
      | .bool win => some (.result x y win)
      | _ => some (.move x y)
  | _ => none

/-- What a connection has been told of its game, in order. -/
def heardOn (conn : ConnId) (sent : List Sent) : List TableMessage :=
  (sent.filter fun message => message.conn = conn).filterMap tableMessage

/-- The line of a chat request. -/
def lineOf (req : Json.Value) : Except Fault String := do
  (← req.getMember "message").asCString

/-- Which of the two players a connection belongs to. -/
def sideOf (conns : Side → ConnId) (conn : ConnId) : Option Side :=
  if conn = conns .white then some .white
  else if conn = conns .black then some .black
  else none

/-- A request as one of the two players. -/
def tableEvent (conns : Side → ConnId) : ServerEvent → Option TableEvent
  | .chat conn req =>
      match sideOf conns conn, lineOf req with
      | some who, .ok text => some (.line who text)
      | _, _ => none
  | .chess conn req _ _ =>
      match sideOf conns conn, moveOf req with
      | some who, .ok (x, y) => some (.move who x y)
      | _, _ => none
  | _ => none

/-- The room is there with this board. -/
def HasBoard (ref : Ref) (users : Side → UserId) (server : Server) (board : Board) : Prop :=
  ∃ room, server.rooms.rooms.deref ref = some room ∧ room.whiteId = users .white ∧
    room.board = board

/-- The room shows the board of the table, and the players have been told what they hear there. -/
structure Shows (ref : Ref) (users : Side → UserId) (conns : Side → ConnId) (server : Server)
    (table : Table) : Prop where
  room : HasBoard ref users server table.board
  heard : ∀ side, heardOn (conns side) server.sent = table.heard side

variable {server next : Server} {ref : Ref} {users : Side → UserId} {conns : Side → ConnId}
  {table : Table}

theorem eq_of_sideOf {conn : ConnId} {side : Side} (found : sideOf conns conn = some side) :
    conn = conns side := by
  unfold sideOf at found
  split at found
  · obtain rfl := Option.some.inj found
    assumption
  · split at found
    · obtain rfl := Option.some.inj found
      assumption
    · cases found

theorem ne_of_sideOf {conn : ConnId} (none : sideOf conns conn = none) (side : Side) :
    conn ≠ conns side := by
  unfold sideOf at none
  split at none
  · cases none
  · split at none
    · cases none
    · cases side <;> assumption

/-! ### What a player is told -/

theorem heardOn_append (conn : ConnId) (first second : List Sent) :
    heardOn conn (first ++ second) = heardOn conn first ++ heardOn conn second := by
  simp [heardOn]

theorem heardOn_of_away {conn : ConnId} {more : List Sent} (away : Away conn more) :
    heardOn conn more = [] := by
  have none : (more.filter fun message => message.conn = conn) = [] := by
    simpa [Away] using away
  rw [heardOn, none]
  rfl

/-- A message that is not of the game. -/
theorem heardOn_quiet {protocol : ProtocolId} (noLine : protocol ≠ .GAME_CHAT_ACK)
    (noMove : protocol ≠ .CHESS_DOWN_ACK) (conn : ConnId) (recv : Option ConnId)
    (data : Json.Value) : heardOn conn (deliver server recv protocol data) = [] := by
  have quiet (message : Sent) (same : message.protocol = protocol) :
      tableMessage message = none := by
    unfold tableMessage
    split
    · rename_i line
      exact absurd (same.symm.trans line) noLine
    · rename_i move
      exact absurd (same.symm.trans move) noMove
    · rfl
  unfold deliver
  split
  · rfl
  · split
    · by_cases mine : ‹ConnId› = conn <;> simp [heardOn, mine, quiet]
    · rfl

/-- A message of the game is heard by the one it is for. -/
theorem heardOn_deliver (inRoom : InRoom ref users conns server) (side peer : Side)
    (protocol : ProtocolId) (data : Json.Value) :
    heardOn (conns side) (deliver server (some (conns peer)) protocol data) =
      if side = peer then (tableMessage ⟨conns peer, protocol, data⟩).toList else [] := by
  rw [deliver_self server (inRoom.at peer).first.up]
  by_cases same : side = peer
  · subst same
    cases told : tableMessage ⟨conns side, protocol, data⟩ <;> simp [heardOn, told]
  · have apart : conns peer ≠ conns side := fun equal => same (inRoom.conns_inj.mp equal.symm)
    simp [heardOn, apart, same]

/-- What the messages tell. -/
theorem tableMessage_moveResult (conn : ConnId) (x y : Int) :
    tableMessage ⟨conn, .CHESS_DOWN_ACK, moveResult x y⟩ = some (.move x y) := rfl

theorem tableMessage_chessResult (conn : ConnId) (records : UserManager) (x y : Int) (win : Bool)
    (user : UserId) :
    tableMessage ⟨conn, .CHESS_DOWN_ACK, chessResult records x y win user⟩ =
      some (.result x y win) := rfl

theorem tableMessage_line (conn : ConnId) (text : String) :
    tableMessage ⟨conn, .GAME_CHAT_ACK, .object [("message", .string text)]⟩ =
      some (.line text) := rfl

/-! ### Steps -/

/-- Nothing happens at the table. -/
theorem Shows.quiet (showing : Shows ref users conns server table)
    (inRoom : InRoom ref users conns server)
    (unmoved : Unmoved server next (users .white) (users .black)) {more : List Sent}
    (sent : next.sent = server.sent ++ more) (none : ∀ side, heardOn (conns side) more = []) :
    Shows ref users conns next table where
  room := by
    obtain ⟨room, held, white, board⟩ := showing.room
    obtain ⟨_, _, same⟩ := unmoved ref (inRoom.sits .white) (inRoom.sits .black)
    obtain ⟨after, nextHeld, sameBoard, sameWhite⟩ := same room held
    exact ⟨after, nextHeld, sameWhite.trans white, sameBoard.trans board⟩
  heard := fun side => by
    rw [sent, heardOn_append, none, List.append_nil, showing.heard]

/-- A line of chat reaches the opponent. -/
theorem Shows.line (showing : Shows ref users conns server table)
    (inRoom : InRoom ref users conns server) {who : Side} {text : String}
    (rooms : next.rooms = server.rooms)
    (sent : next.sent = server.sent ++ deliver server (some (conns who.other)) .GAME_CHAT_ACK
      (.object [("message", .string text)])) :
    Shows ref users conns next (table.tell who.other (.line text)) where
  room := by
    rw [HasBoard, rooms]
    exact showing.room
  heard := fun side => by
    rw [sent, heardOn_append, heardOn_deliver inRoom, tableMessage_line, showing.heard,
      Table.heard_tell]
    rfl

/-- The stones of a user are those of its side. -/
theorem chessOf_eq (inRoom : InRoom ref users conns server) {room : GameRoomInfo}
    (white : room.whiteId = users .white) (side : Side) :
    room.chessOf (users side) = side.chess := by
  cases side with
  | white => rw [GameRoomInfo.chessOf, if_pos white.symm, Side.chess]
  | black =>
      have notWhite : users .black ≠ room.whiteId := white ▸ inRoom.table.distinct.symm
      rw [GameRoomInfo.chessOf, if_neg notWhite, Side.chess]

/-- A stone that is put down in the room is put down on the table. -/
theorem Shows.move (showing : Shows ref users conns server table)
    (inRoom : InRoom ref users conns server) {who : Side} {x y : Int} {rooms : GameRoomManager}
    {ret : Bool} (handled : server.rooms.handChess x y (users who) = .ok (rooms, ret))
    (nextRooms : next.rooms = rooms) {more : List Sent} (sent : next.sent = server.sent ++ more)
    (told : ret = false ∧
        more = deliver server (some (conns who.other)) .CHESS_DOWN_ACK (moveResult x y) ∨
      ret = true ∧ ∃ records, more = deliver server (some (conns who)) .CHESS_DOWN_ACK
          (chessResult records x y true (users who)) ++
        deliver server (some (conns who.other)) .CHESS_DOWN_ACK
          (chessResult records x y false (users who.other))) :
    ∃ final, table.step (.move who x y) = .ok final ∧ Shows ref users conns next final := by
  obtain ⟨room, held, white, boardEq⟩ := showing.room
  by_cases inBoard : InBoard x y
  · obtain ⟨board, rooms', ret', written, handled', deref, wonIff⟩ :=
      GameRoomManager.handChess_of_inBoard (users who) (inRoom.sits who) held inBoard
    obtain ⟨rfl, rfl⟩ := Prod.mk.inj (Except.ok.inj (handled'.symm.trans handled))
    rw [chessOf_eq inRoom white, boardEq] at written
    rw [chessOf_eq inRoom white] at wonIff
    refine ⟨_, Table.step_move written wonIff, ?_, fun side => ?_⟩
    · refine ⟨{ room with board := board }, by rw [nextRooms, deref, if_pos rfl], white, ?_⟩
      split <;> rfl
    · rw [sent, heardOn_append, showing.heard]
      rcases told with ⟨rfl, rfl⟩ | ⟨rfl, records, rfl⟩
      · rw [heardOn_deliver inRoom, tableMessage_moveResult]
        rfl
      · rw [heardOn_append, heardOn_deliver inRoom, heardOn_deliver inRoom,
          tableMessage_chessResult, tableMessage_chessResult, ← List.append_assoc]
        rfl
  · rw [GameRoomManager.handChess_of_outOfBoard (inRoom.sits who) held inBoard] at handled
    cases handled

/-- A chat request with its line. -/
theorem onChat_line {conn : ConnId} {req : Json.Value}
    (called : server.onChat conn req = .ok next) :
    ∃ text, lineOf req = .ok text ∧ next.rooms = server.rooms ∧
      next.sent = server.sent ++ deliver server (server.users.getConnByUserId
        (server.rooms.getUserIdFromOtherId (server.users.getUserIdByConn conn))) .GAME_CHAT_ACK
        (.object [("message", .string text)]) := by
  simp only [onChat, bind_eq_ok] at called
  obtain ⟨member, found, text, read, sentEq⟩ := called
  obtain rfl := Except.ok.inj sentEq
  exact ⟨text, by simp [lineOf, found, read], rooms_sendMsg .., Answers.sent_sendMsg ..⟩

/-- Chat, whoever it is. -/
theorem shows_chat (showing : Shows ref users conns server table)
    (inRoom : InRoom ref users conns server) {conn : ConnId} {req : Json.Value}
    (called : server.onChat conn req = .ok next) :
    ∃ final, run Table.step table (tableEvent conns (.chat conn req)).toList = .ok final ∧
      Shows ref users conns next final := by
  obtain ⟨text, line, rooms, sent⟩ := onChat_line called
  cases found : sideOf conns conn with
  | none =>
      obtain ⟨_, away1, away2⟩ :=
        inRoom.table.stranger (ne_of_sideOf found .white) (ne_of_sideOf found .black) rfl
      refine ⟨table, by simp [tableEvent, found, run],
        showing.quiet inRoom (unmoved_of_rooms rooms) sent fun side => ?_⟩
      cases side with
      | white => exact heardOn_of_away (away_deliver away1 _ _ _)
      | black => exact heardOn_of_away (away_deliver away2 _ _ _)
  | some who =>
      obtain rfl := eq_of_sideOf found
      have sender := ((inRoom.at who).first.user_iff _).mpr rfl
      have receiver := ((inRoom.at who).second.conn_iff _).mpr rfl
      rw [sender, (inRoom.at who).opponent, receiver] at sent
      exact ⟨_, by simp [tableEvent, found, line, run, Table.step],
        showing.line inRoom rooms sent⟩

/-- A move, whoever makes it. -/
theorem shows_chess (showing : Shows ref users conns server table)
    (inRoom : InRoom ref users conns server) {conn : ConnId} {req : Json.Value}
    {winOutcome loseOutcome : DbOutcome}
    (called : server.onChess conn req winOutcome loseOutcome = .ok next) {more : List Sent}
    (sent : next.sent = server.sent ++ more)
    (spoken : Says server (.chess conn req winOutcome loseOutcome) more) :
    ∃ final, run Table.step table
        (tableEvent conns (.chess conn req winOutcome loseOutcome)).toList = .ok final ∧
      Shows ref users conns next final := by
  obtain ⟨x, y, rooms, ret, settled, _, move, handled, after, nextEq, _⟩ := onChess_ok called
  have nextRooms : next.rooms = rooms := by
    rw [nextEq, afterMove_ok after]
  cases found : sideOf conns conn with
  | none =>
      have first := ne_of_sideOf found .white
      have second := ne_of_sideOf found .black
      obtain ⟨⟨sender1, sender2⟩, _⟩ := inRoom.table.stranger first second rfl
      obtain ⟨away1, away2⟩ := away_of_chess inRoom.table first second spoken move handled
      refine ⟨table, by simp [tableEvent, found, run], showing.quiet inRoom
        (unmoved_elsewhere inRoom.table sender1 sender2 handled nextRooms) sent fun side => ?_⟩
      cases side with
      | white => exact heardOn_of_away away1
      | black => exact heardOn_of_away away2
  | some who =>
      obtain rfl := eq_of_sideOf found
      have sender := ((inRoom.at who).first.user_iff _).mpr rfl
      rw [sender] at handled
      have told := told_of_chess spoken move sender (inRoom.at who).opponent
        (((inRoom.at who).second.conn_iff _).mpr rfl) handled
      obtain ⟨final, stepped, shown⟩ := showing.move inRoom handled nextRooms sent told
      exact ⟨final, by simp [tableEvent, found, move, run, stepped], shown⟩

/-- A turn of the match thread that pairs others. -/
theorem shows_paired (showing : Shows ref users conns server table)
    (inRoom : InRoom ref users conns server) (after : InRoom ref users conns next) {i : Fin 3}
    {roomCount : UInt32} (turn : server.matchQueue i roomCount = .ok next)
    {userId1 userId2 : UserId} {rest : List UserId}
    (queued : server.pool.queues i = userId1 :: userId2 :: rest)
    (sent : next.sent = server.sent ++
      (deliver server (server.users.getConnByUserId userId1) .MATCH_PUSH (matchedResult 1) ++
        deliver server (server.users.getConnByUserId userId2) .MATCH_PUSH (matchedResult 2))) :
    Shows ref users conns next table := by
  obtain ⟨opened, _⟩ := paired_ok turn queued
  have others := inRoom.not_paired after opened
  refine showing.quiet inRoom (unmoved_opened opened (others .white) (others .black)) sent
    fun side => ?_
  cases side with
  | white => exact heardOn_of_away (away_of_paired inRoom.table.first (others .white))
  | black => exact heardOn_of_away (away_of_paired inRoom.table.second (others .black))

/-- Whatever happens on the server, the table does what its players ask for. -/
theorem shows_step (showing : Shows ref users conns server table)
    (inRoom : InRoom ref users conns server) (after : InRoom ref users conns next)
    {event : ServerEvent} (stepEq : server.step event = .ok next) :
    ∃ final, run Table.step table (tableEvent conns event).toList = .ok final ∧
      Shows ref users conns next final := by
  obtain ⟨more, sent, spoken⟩ := sent_of_step stepEq
  obtain ⟨rooms, nextRooms, change⟩ : ∃ rooms, next.rooms = rooms ∧ RoomsStep server event rooms :=
    ⟨_, rfl, roomsStep_of_step stepEq⟩
  cases event with
  | chat => exact shows_chat showing inRoom stepEq
  | chess => exact shows_chess showing inRoom stepEq sent spoken
  | exitRoom =>
      cases spoken with
      | nothing => exact ⟨table, rfl, showing.quiet inRoom
          (unmoved_exitRoom after.table stepEq) sent fun _ => rfl⟩
      | answer asked => cases asked
  | matchQueue i roomCount =>
      cases spoken with
      | answer asked => cases asked
      | nothing short =>
          rcases matchQueue_ok stepEq with ⟨_, rfl⟩ | ⟨_, _, _, _, _, _, _, _, queued, _⟩
          · exact ⟨table, rfl, showing⟩
          · exact absurd short (by simp [Answers.Silent, queued])
      | paired queued =>
          exact ⟨table, rfl, shows_paired showing inRoom after stepEq queued sent⟩
  | connect | disconnect =>
      cases change with
      | same =>
          cases spoken with
          | nothing =>
              exact ⟨table, rfl, showing.quiet inRoom (unmoved_of_rooms nextRooms) sent
                fun _ => rfl⟩
          | answer asked => cases asked
  | register | login | matchStart | matchCancel =>
      cases change with
      | same =>
          cases spoken with
          | nothing silent => cases silent
          | answer asked =>
              cases asked
              exact ⟨table, rfl, showing.quiet inRoom (unmoved_of_rooms nextRooms) sent
                fun _ => heardOn_quiet (by decide) (by decide) ..⟩

/-! ### Whole runs -/

/-- As long as the players are in their room, the table follows a whole run. -/
theorem Shows.run (showing : Shows ref users conns server table) {events : List ServerEvent}
    {last : Server} (inRoom : Always Server.step (InRoom ref users conns) server events)
    (reached : run Server.step server events = .ok last) :
    ∃ final, run Table.step table (events.filterMap (tableEvent conns)) = .ok final ∧
      Shows ref users conns last final := by
  refine exists_run_of_projects
    (fun server table event next here after shown stepEq => ?_) showing inRoom reached
  exact shows_step shown here after stepEq

/-- A room refines a table.  Two users are in the room, each of them logged in on one connection
alone, and no event parts them: whatever is sent to the server by whomever and however the match
thread runs in between, the board of the room and what its players have been told are those of a
table at which only their own requests have been made. -/
theorem room_refines_table (showing : Shows ref users conns server table)
    (start : InRoom ref users conns server) (nonzero : ∀ side, users side ≠ 0)
    {events : List ServerEvent} {last : Server}
    (stays : Admissible Server.step (WhenReturns Server.step (Stays users conns)) server events)
    (reached : run Server.step server events = .ok last) :
    ∃ final, run Table.step table (events.filterMap (tableEvent conns)) = .ok final ∧
      Shows ref users conns last final :=
  showing.run (start.always nonzero stays) reached

theorem hasBoard_twoPaired : HasBoard 0 twoUsers twoPaired Board.new :=
  ⟨GameRoomInfo.new 2 GameRoomManager.new.roomNextId 1 2, rfl, rfl, rfl⟩

/-- Nothing of what goes on around the two moves parts the players. -/
theorem stays_movesAmongOthers : Admissible Server.step
    (WhenReturns Server.step (Stays twoUsers twoConns)) twoPaired movesAmongOthers := by
  decide +kernel

/-- The two moves on the table. -/
theorem room_refines_table_movesAmongOthers : ∃ last final,
    run Server.step twoPaired movesAmongOthers = .ok last ∧
      run Table.step (Table.new Board.new) [.move .white 7 7, .move .black 7 8] = .ok final ∧
      Shows 0 twoUsers twoConns last final := by
  obtain ⟨last, reached⟩ := exists_last_of_isOk
    (show (run Server.step twoPaired movesAmongOthers).isOk = true by decide +kernel)
  have showing : Shows 0 twoUsers twoConns twoPaired (Table.new Board.new) :=
    ⟨hasBoard_twoPaired, fun side => by cases side <;> rfl⟩
  obtain ⟨final, tableRun, shown⟩ := room_refines_table showing inRoom_twoPaired nonzero_twoUsers
    stays_movesAmongOthers reached
  exact ⟨last, final, reached, tableRun, shown⟩

/-- The room shows a table at which nothing has been heard yet, and what is heard there comes after
what has been heard before. -/
theorem HasBoard.refines {board : Board} (start : HasBoard ref users server board)
    {events : List ServerEvent} {last : Server}
    (inRoom : Always Server.step (InRoom ref users conns) server events)
    (reached : run Server.step server events = .ok last) :
    ∃ final, run Table.step (Table.new board) (events.filterMap (tableEvent conns)) = .ok final ∧
      HasBoard ref users last final.board ∧ ∀ side,
        heardOn (conns side) last.sent = heardOn (conns side) server.sent ++ final.heard side := by
  have showing : Shows ref users conns server
      ((Table.new board).since fun side => heardOn (conns side) server.sent) :=
    ⟨start, fun side => (List.append_nil _).symm⟩
  obtain ⟨late, lateRun, shown⟩ := showing.run inRoom reached
  rw [run_of_commutes (Table.step_since _)] at lateRun
  cases fresh : run Table.step (Table.new board) (events.filterMap (tableEvent conns)) with
  | error fault =>
      rw [fresh] at lateRun
      cases lateRun
  | ok final =>
      rw [fresh] at lateRun
      obtain rfl := Except.ok.inj lateRun
      exact ⟨final, rfl, shown.room, shown.heard⟩

/-- A game depends on nothing but the requests of its players.  Two rooms, on one server or on two,
with other users, connections and neighbours, each with two users in it whom no event parts, that
start with the same board and whose players ask for the same, in the same order, end with the same
board, and the players have been told the same. -/
theorem same_game {board : Board} (start : HasBoard ref users server board)
    (inRoom : InRoom ref users conns server) (nonzero : ∀ side, users side ≠ 0)
    {events : List ServerEvent} {last : Server}
    (stays : Admissible Server.step (WhenReturns Server.step (Stays users conns)) server events)
    (reached : run Server.step server events = .ok last)
    {server' last' : Server} {ref' : Ref} {users' : Side → UserId} {conns' : Side → ConnId}
    (start' : HasBoard ref' users' server' board) (inRoom' : InRoom ref' users' conns' server')
    (nonzero' : ∀ side, users' side ≠ 0) {events' : List ServerEvent}
    (stays' : Admissible Server.step (WhenReturns Server.step (Stays users' conns')) server'
      events')
    (reached' : run Server.step server' events' = .ok last')
    (same : events.filterMap (tableEvent conns) = events'.filterMap (tableEvent conns')) :
    ∃ (after : Board) (news : Side → List TableMessage),
      (HasBoard ref users last after ∧ ∀ side,
        heardOn (conns side) last.sent = heardOn (conns side) server.sent ++ news side) ∧
      HasBoard ref' users' last' after ∧ ∀ side,
        heardOn (conns' side) last'.sent = heardOn (conns' side) server'.sent ++ news side := by
  obtain ⟨final, tableRun, shown⟩ := start.refines (inRoom.always nonzero stays) reached
  obtain ⟨final', tableRun', shown'⟩ := start'.refines (inRoom'.always nonzero' stays') reached'
  rw [same, tableRun'] at tableRun
  obtain rfl := Except.ok.inj tableRun
  exact ⟨final'.board, final'.heard, shown, shown'⟩

/-- The two moves with nobody else there. -/
def movesAlone : List ServerEvent :=
  [.chess 10 (.object [("x", .int 7), ("y", .int 7)]) .succeeded .succeeded,
    .chess 11 (.object [("x", .int 7), ("y", .int 8)]) .succeeded .succeeded]

/-- They make the same game. -/
theorem same_game_movesAlone : ∃ last last' after, ∃ news : Side → List TableMessage,
    run Server.step twoPaired movesAlone = .ok last ∧
      run Server.step twoPaired movesAmongOthers = .ok last' ∧
      (HasBoard 0 twoUsers last after ∧ ∀ side,
        heardOn (twoConns side) last.sent = heardOn (twoConns side) twoPaired.sent ++ news side) ∧
      HasBoard 0 twoUsers last' after ∧ ∀ side,
        heardOn (twoConns side) last'.sent =
          heardOn (twoConns side) twoPaired.sent ++ news side := by
  obtain ⟨last, reached⟩ := exists_last_of_isOk
    (show (run Server.step twoPaired movesAlone).isOk = true by decide +kernel)
  obtain ⟨last', reached'⟩ := exists_last_of_isOk
    (show (run Server.step twoPaired movesAmongOthers).isOk = true by decide +kernel)
  have alone : Admissible Server.step (WhenReturns Server.step (Stays twoUsers twoConns)) twoPaired
      movesAlone := by
    decide +kernel
  obtain ⟨after, news, shown⟩ := same_game hasBoard_twoPaired inRoom_twoPaired nonzero_twoUsers
    alone reached hasBoard_twoPaired inRoom_twoPaired nonzero_twoUsers stays_movesAmongOthers
    reached' rfl
  exact ⟨last, last', after, news, reached, reached', shown⟩

end GomukuServer.Proofs.OneTable
