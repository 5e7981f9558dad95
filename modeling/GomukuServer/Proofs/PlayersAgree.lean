/-
Module: GomukuServer.Proofs.PlayersAgree
Layer: Proofs
Purpose: The two players of a room can follow the game from the messages.  A player who starts with
  the colour the match message names, puts down its own stones when it asks for them and its
  opponent's when it is told of them has, after every event, the board of the room in front of it,
  as long as nothing parts the two.
Trusted boundary: the client is not in the repository, so what a player makes of the messages is a
  reading of them; a message is taken in before the next event
Main exports: PlayerView, hear, play, Watched, Agree, players_agree
-/
import GomukuServer.Proofs.Answers
import GomukuServer.Proofs.PartedPlayers

namespace GomukuServer.Proofs.PlayersAgree

open Base Base.Runs Model Manager Db Net
open GomukuServer.Module GomukuServer.Module.Server
open Answers (deliver Says sent_of_step)
open PartedPlayers

/-! ### A player -/

/-- What a player has in front of it. -/
structure PlayerView where
  color : Int
  board : Board
deriving DecidableEq

/-- The colour of the opponent. -/
def otherColor (color : Int) : Int := if color = whiteChess then blackChess else whiteChess

/-- Put a stone down. -/
def PlayerView.place (view : PlayerView) (x y color : Int) : PlayerView :=
  match view.board.write x y color with
  | .ok board => { view with board := board }
  | .error _ => view

/-- What a player makes of a message: a match begins with an empty board, a move that has won is its
own, and any other move is its opponent's. -/
def hear (view : Option PlayerView) (message : Sent) : Option PlayerView :=
  match message.protocol with
  | .MATCH_PUSH =>
      match message.data.member "success", message.data.member "color" with
      | .bool true, .int color => some ⟨color, Board.new⟩
      | _, _ => view
  | .CHESS_DOWN_ACK =>
      view.map fun view => view.place (message.data.member "x").toInt
        (message.data.member "y").toInt
        (match message.data.member "win" with
          | .bool true => view.color
          | _ => otherColor view.color)
  | _ => view

/-- What it makes of its own requests. -/
def play (conn : ConnId) (view : Option PlayerView) : ServerEvent → Option PlayerView
  | .chess sender req _ _ =>
      if sender = conn then
        match moveOf req with
        | .ok (x, y) => view.map fun view => view.place x y view.color
        | .error _ => view
      else view
  | _ => view

/-- An event, and the messages it leads to. -/
def follow (conn : ConnId) (view : Option PlayerView) (event : ServerEvent)
    (more : List Sent) : Option PlayerView :=
  (more.filter fun message => message.conn = conn).foldl hear (play conn view event)

/-- The server with the players on two of its connections. -/
structure Watched where
  server : Server
  view1 : Option PlayerView
  view2 : Option PlayerView

/-- Execute one event, and let the players follow. -/
def Watched.step (conn1 conn2 : ConnId) (watched : Watched) (event : ServerEvent) :
    Except Fault Watched := do
  let next ← watched.server.step event
  let more := next.sent.drop watched.server.sent.length
  pure ⟨next, follow conn1 watched.view1 event more, follow conn2 watched.view2 event more⟩

/-- Both players have the board of their room in front of them, and know their colours. -/
def Agree (server : Server) (user1 user2 : UserId) (view1 view2 : Option PlayerView) : Prop :=
  ∃ ref room, server.rooms.userId2Room.find? user1 = some ref ∧
    server.rooms.userId2Room.find? user2 = some ref ∧
    server.rooms.rooms.deref ref = some room ∧
    view1 = some ⟨room.chessOf user1, room.board⟩ ∧
    view2 = some ⟨room.chessOf user2, room.board⟩

variable {server next : Server} {user1 user2 : UserId} {conn1 conn2 : ConnId} {ref : Ref}
  {users : Side → UserId} {conns : Side → ConnId}

theorem Agree.symm {view1 view2 : Option PlayerView}
    (agree : Agree server user1 user2 view1 view2) : Agree server user2 user1 view2 view1 := by
  obtain ⟨ref, room, first, second, held, mine, theirs⟩ := agree
  exact ⟨ref, room, second, first, held, theirs, mine⟩

/-- The players have different colours. -/
theorem otherColor_eq (table : AtTable server user1 user2 conn1 conn2) {ref : Ref}
    {room : GameRoomInfo} (seated : server.rooms.userId2Room.find? user1 = some ref)
    (held : server.rooms.rooms.deref ref = some room) :
    otherColor (room.chessOf user2) = room.chessOf user1 := by
  have colors : blackChess ≠ whiteChess := by decide
  rcases table.players seated held with ⟨white, _⟩ | ⟨white, _⟩
  · have notWhite : user2 ≠ room.whiteId := white ▸ table.distinct.symm
    rw [GameRoomInfo.chessOf, GameRoomInfo.chessOf, if_neg notWhite, if_pos white, otherColor,
      if_neg colors]
  · have notWhite : user1 ≠ room.whiteId := white ▸ table.distinct
    rw [GameRoomInfo.chessOf, GameRoomInfo.chessOf, if_neg notWhite, if_pos white, otherColor,
      if_pos rfl]

/-! ### What reaches a player -/

/-- None of the messages is for this connection. -/
def Away (conn : ConnId) (more : List Sent) : Prop := ∀ message ∈ more, message.conn ≠ conn

theorem away_deliver {conn : ConnId} {recv : Option ConnId} (other : recv ≠ some conn)
    (server : Server) (protocol : ProtocolId) (data : Json.Value) :
    Away conn (deliver server recv protocol data) := by
  intro message member
  unfold deliver at member
  split at member
  · cases member
  · split at member
    · obtain rfl := List.mem_singleton.mp member
      exact fun same => other (congrArg some same)
    · cases member

theorem Away.append {conn : ConnId} {first second : List Sent} (one : Away conn first)
    (two : Away conn second) : Away conn (first ++ second) := fun message member =>
  (List.mem_append.mp member).elim (one message) (two message)

/-- Messages for others. -/
theorem follow_of_away {conn : ConnId} {more : List Sent} (away : Away conn more)
    (view : Option PlayerView) (event : ServerEvent) :
    follow conn view event more = play conn view event := by
  have none : (more.filter fun message => message.conn = conn) = [] := by
    simpa [Away] using away
  rw [follow, none]
  rfl

/-- A message for the player. -/
theorem deliver_self (server : Server) {conn : ConnId} (up : conn ∈ server.conns.conns)
    (protocol : ProtocolId) (data : Json.Value) :
    deliver server (some conn) protocol data = [⟨conn, protocol, data⟩] := by
  simp [deliver, up]

/-- What only the match and the move messages change. -/
theorem hear_of_quiet {message : Sent} (noMatch : message.protocol ≠ .MATCH_PUSH)
    (noMove : message.protocol ≠ .CHESS_DOWN_ACK) (view : Option PlayerView) :
    hear view message = view := by
  unfold hear
  split
  · rename_i same
    exact absurd same noMatch
  · rename_i same
    exact absurd same noMove
  · rfl

/-- An answer or a line of chat. -/
theorem follow_quiet {protocol : ProtocolId} (noMatch : protocol ≠ .MATCH_PUSH)
    (noMove : protocol ≠ .CHESS_DOWN_ACK) (conn : ConnId) (view : Option PlayerView)
    (event : ServerEvent) (server : Server) (recv : Option ConnId) (data : Json.Value) :
    follow conn view event (deliver server recv protocol data) = play conn view event := by
  by_cases mine : recv = some conn
  · subst mine
    unfold deliver
    dsimp only
    split
    · simp [follow, hear_of_quiet, noMatch, noMove]
    · rfl
  · exact follow_of_away (away_deliver mine _ _ _) view event

/-! ### Events elsewhere -/

/-- The room has the same board, and the same players. -/
def SameBoard (server next : Server) (ref : Ref) : Prop :=
  ∀ room, server.rooms.rooms.deref ref = some room → ∃ after,
    next.rooms.rooms.deref ref = some after ∧ after.board = room.board ∧
      after.whiteId = room.whiteId

/-- A room that both users are in is as it was, and they are in it. -/
def Unmoved (server next : Server) (user1 user2 : UserId) : Prop :=
  ∀ ref, server.rooms.userId2Room.find? user1 = some ref →
    server.rooms.userId2Room.find? user2 = some ref →
    next.rooms.userId2Room.find? user1 = some ref ∧
      next.rooms.userId2Room.find? user2 = some ref ∧ SameBoard server next ref

/-- The players go on to agree when their room is as it was. -/
theorem Agree.keep {view1 view2 : Option PlayerView} (agree : Agree server user1 user2 view1 view2)
    (unmoved : Unmoved server next user1 user2) : Agree next user1 user2 view1 view2 := by
  obtain ⟨ref, room, first, second, held, rfl, rfl⟩ := agree
  obtain ⟨nextFirst, nextSecond, same⟩ := unmoved ref first second
  obtain ⟨after, nextHeld, board, white⟩ := same room held
  refine ⟨ref, after, nextFirst, nextSecond, nextHeld, ?_, ?_⟩ <;>
    simp [GameRoomInfo.chessOf, board, white]

/-- The rooms are not touched. -/
theorem unmoved_of_rooms (rooms : next.rooms = server.rooms) :
    Unmoved server next user1 user2 := by
  intro ref first second
  rw [SameBoard, rooms]
  exact ⟨first, second, fun room held => ⟨room, held, rfl, rfl⟩⟩

/-- Somebody else leaves a room. -/
theorem unmoved_exitRoom (after : AtTable next user1 user2 conn1 conn2) {conn : ConnId}
    (called : server.onExitRoom conn = .ok next) : Unmoved server next user1 user2 := by
  obtain ⟨removed, _⟩ := onExitRoom_ok called
  cases found : server.rooms.userId2Room.find? (server.users.getUserIdByConn conn) with
  | none =>
      rw [GameRoomManager.removeUser_of_absent _ found] at removed
      exact unmoved_of_rooms (Prod.mk.inj (Except.ok.inj removed)).1.symm
  | some left =>
      obtain ⟨room, held, _⟩ := GameRoomManager.exists_room found
      rw [GameRoomManager.removeUser_of_seated _ found held] at removed
      split at removed
      · cases removed
      · have rooms := (Prod.mk.inj (Except.ok.inj removed)).1.symm
        obtain ⟨_, stays1, stays2⟩ := after.together
        intro ref first second
        -- the one who leaves has no entry any more, the players have
        have present : ∀ user, next.rooms.userId2Room.find? user ≠ none →
            next.rooms.userId2Room.find? user = server.rooms.userId2Room.find? user := by
          intro user there
          rw [rooms] at there ⊢
          simp only [GameRoomManager.updateRoom, GameRoomManager.eraseUser, PMap.find?_erase]
            at there ⊢
          split at there
          · exact absurd rfl there
          · rename_i other
            rw [if_neg other]
        refine ⟨(present user1 (by simp [stays1])).trans first,
          (present user2 (by simp [stays2])).trans second, fun old oldHeld => ?_⟩
        rw [rooms]
        by_cases same : ref = left
        · subst same
          exact ⟨old.subCount, by
            simp [GameRoomManager.updateRoom, GameRoomManager.eraseUser, oldHeld], rfl, rfl⟩
        · exact ⟨old, by
            simp [GameRoomManager.updateRoom, GameRoomManager.eraseUser, same, oldHeld], rfl, rfl⟩

/-- A move in another room. -/
theorem unmoved_elsewhere (table : AtTable server user1 user2 conn1 conn2) {sender : UserId}
    {x y : Int} {ret : Bool} {rooms : GameRoomManager} (first : sender ≠ user1)
    (second : sender ≠ user2) (handled : server.rooms.handChess x y sender = .ok (rooms, ret))
    (nextRooms : next.rooms = rooms) : Unmoved server next user1 user2 := by
  have seats := GameRoomManager.userId2Room_handChess handled
  intro ref seat1 seat2
  rw [SameBoard, nextRooms, seats]
  refine ⟨seat1, seat2, fun room held => ?_⟩
  cases found : server.rooms.userId2Room.find? sender with
  | none =>
      simp only [GameRoomManager.handChess, found, Except.ok.injEq, Prod.mk.injEq] at handled
      rw [← handled.1]
      exact ⟨room, held, rfl, rfl⟩
  | some there =>
      obtain ⟨other, otherHeld, player⟩ := GameRoomManager.exists_room found
      have away : ref ≠ there := by
        rintro rfl
        obtain rfl := Option.some.inj (otherHeld.symm.trans held)
        rcases table.players seat1 held with ⟨white, black⟩ | ⟨white, black⟩ <;>
          rcases player with rfl | rfl
        · exact first white.symm
        · exact second black.symm
        · exact second white.symm
        · exact first black.symm
      by_cases inBoard : InBoard x y
      · obtain ⟨_, rooms', _, _, handled', deref, _⟩ :=
          GameRoomManager.handChess_of_inBoard sender found otherHeld inBoard
        obtain ⟨rfl, _⟩ := Prod.mk.inj (Except.ok.inj (handled'.symm.trans handled))
        exact ⟨room, by rw [deref, if_neg away, held], rfl, rfl⟩
      · rw [GameRoomManager.handChess_of_outOfBoard found otherHeld inBoard] at handled
        cases handled

/-! ### Moves of the players -/

theorem place_of_write {color x y chess : Int} {board after : Board}
    (written : board.write x y chess = .ok after) :
    (⟨color, board⟩ : PlayerView).place x y chess = ⟨color, after⟩ := by
  simp [PlayerView.place, written]

/-- A stone that is put down twice. -/
theorem write_again {board after : Board} {x y chess : Int}
    (written : board.write x y chess = .ok after) : after.write x y chess = .ok after :=
  Board.write_of_read (by rw [Board.read_write written, if_pos ⟨rfl, rfl⟩])

/-- The opponent hears of a move. -/
theorem hear_moveResult (color : Int) (board : Board) (conn : ConnId) (x y : Int) :
    hear (some ⟨color, board⟩) ⟨conn, .CHESS_DOWN_ACK, moveResult x y⟩ =
      some (PlayerView.place ⟨color, board⟩ x y (otherColor color)) := rfl

/-- The players hear that one of them has won. -/
theorem hear_chessResult (color : Int) (board : Board) (conn : ConnId) (users : UserManager)
    (x y : Int) (win : Bool) (user : UserId) :
    hear (some ⟨color, board⟩) ⟨conn, .CHESS_DOWN_ACK, chessResult users x y win user⟩ =
      some (PlayerView.place ⟨color, board⟩ x y (if win then color else otherColor color)) := by
  cases win <;> rfl

/-- Both players follow a move of the first. -/
theorem Agree.move {view1 view2 : Option PlayerView}
    (agree : Agree server user1 user2 view1 view2)
    (table : AtTable server user1 user2 conn1 conn2) {req : Json.Value}
    {winOutcome loseOutcome : DbOutcome} {x y : Int} {rooms : GameRoomManager} {ret : Bool}
    (move : moveOf req = .ok (x, y)) (handled : server.rooms.handChess x y user1 = .ok (rooms, ret))
    (nextRooms : next.rooms = rooms) {more : List Sent}
    (told : ret = false ∧ more = deliver server (some conn2) .CHESS_DOWN_ACK (moveResult x y) ∨
      ret = true ∧ ∃ users, more = deliver server (some conn1) .CHESS_DOWN_ACK
          (chessResult users x y true user1) ++
        deliver server (some conn2) .CHESS_DOWN_ACK (chessResult users x y false user2)) :
    Agree next user1 user2
      (follow conn1 view1 (.chess conn1 req winOutcome loseOutcome) more)
      (follow conn2 view2 (.chess conn1 req winOutcome loseOutcome) more) := by
  obtain ⟨ref, room, seat1, seat2, held, rfl, rfl⟩ := agree
  have apart := table.conns_ne
  have colors := otherColor_eq table seat1 held
  by_cases inBoard : InBoard x y
  · obtain ⟨board, rooms', _, written, handled', deref, _⟩ :=
      GameRoomManager.handChess_of_inBoard user1 seat1 held inBoard
    obtain ⟨rfl, _⟩ := Prod.mk.inj (Except.ok.inj (handled'.symm.trans handled))
    have seats := GameRoomManager.userId2Room_handChess handled
    refine ⟨ref, { room with board := board }, by rw [nextRooms, seats, seat1],
      by rw [nextRooms, seats, seat2], by rw [nextRooms, deref, if_pos rfl], ?_⟩
    have mine : (⟨room.chessOf user1, room.board⟩ : PlayerView).place x y (room.chessOf user1) =
        ⟨room.chessOf user1, board⟩ := place_of_write written
    have theirs : (⟨room.chessOf user2, room.board⟩ : PlayerView).place x y (room.chessOf user1) =
        ⟨room.chessOf user2, board⟩ := place_of_write written
    have again : (⟨room.chessOf user1, board⟩ : PlayerView).place x y (room.chessOf user1) =
        ⟨room.chessOf user1, board⟩ := place_of_write (write_again written)
    change _ = some (⟨room.chessOf user1, board⟩ : PlayerView) ∧
      _ = some (⟨room.chessOf user2, board⟩ : PlayerView)
    rcases told with ⟨_, rfl⟩ | ⟨_, users, rfl⟩
    · rw [deliver_self server table.second.up]
      simp [follow, play, move, apart, apart.symm, hear_moveResult, mine, colors, theirs]
    · rw [deliver_self server table.first.up, deliver_self server table.second.up]
      simp [follow, play, move, apart, apart.symm, hear_chessResult, mine, colors, theirs, again]
  · rw [GameRoomManager.handChess_of_outOfBoard seat1 held inBoard] at handled
    cases handled

/-- A request of somebody else. -/
theorem play_of_other {conn sender : ConnId} (other : sender ≠ conn) (view : Option PlayerView)
    (req : Json.Value) (winOutcome loseOutcome : DbOutcome) :
    play conn view (.chess sender req winOutcome loseOutcome) = view := by
  simp [play, other]

/-- The messages of a move. -/
theorem told_of_chess {conn : ConnId} {req : Json.Value} {winOutcome loseOutcome : DbOutcome}
    {more : List Sent} (spoken : Says server (.chess conn req winOutcome loseOutcome) more)
    {x y : Int} (move : moveOf req = .ok (x, y)) {sender recvId : UserId} {recv : Option ConnId}
    (sends : server.users.getUserIdByConn conn = sender)
    (opponent : server.rooms.getUserIdFromOtherId sender = recvId)
    (receives : server.users.getConnByUserId recvId = recv) {rooms : GameRoomManager} {ret : Bool}
    (handled : server.rooms.handChess x y sender = .ok (rooms, ret)) :
    ret = false ∧ more = deliver server recv .CHESS_DOWN_ACK (moveResult x y) ∨
      ret = true ∧ ∃ users, more = deliver server (some conn) .CHESS_DOWN_ACK
          (chessResult users x y true sender) ++
        deliver server recv .CHESS_DOWN_ACK (chessResult users x y false recvId) := by
  subst sends opponent receives
  cases spoken with
  | nothing silent => cases silent
  | answer asked => cases asked
  | moved move' handled' =>
      obtain ⟨rfl, rfl⟩ := Prod.mk.inj (Except.ok.inj (move'.symm.trans move))
      obtain ⟨_, rfl⟩ := Prod.mk.inj (Except.ok.inj (handled'.symm.trans handled))
      exact .inl ⟨rfl, rfl⟩
  | won move' handled' users =>
      obtain ⟨rfl, rfl⟩ := Prod.mk.inj (Except.ok.inj (move'.symm.trans move))
      obtain ⟨_, rfl⟩ := Prod.mk.inj (Except.ok.inj (handled'.symm.trans handled))
      exact .inr ⟨rfl, users, rfl⟩

/-- The players do not hear of a move of somebody else. -/
theorem away_of_chess (table : AtTable server user1 user2 conn1 conn2) {conn : ConnId}
    (first : conn ≠ conn1) (second : conn ≠ conn2) {req : Json.Value}
    {winOutcome loseOutcome : DbOutcome} {more : List Sent}
    (spoken : Says server (.chess conn req winOutcome loseOutcome) more) {x y : Int}
    (move : moveOf req = .ok (x, y)) {rooms : GameRoomManager} {ret : Bool}
    (handled : server.rooms.handChess x y (server.users.getUserIdByConn conn) = .ok (rooms, ret)) :
    Away conn1 more ∧ Away conn2 more := by
  obtain ⟨_, away1, away2⟩ := table.stranger first second rfl
  have notFirst : some conn ≠ some conn1 := fun same => first (Option.some.inj same)
  have notSecond : some conn ≠ some conn2 := fun same => second (Option.some.inj same)
  rcases told_of_chess spoken move rfl rfl rfl handled with ⟨_, rfl⟩ | ⟨_, users, rfl⟩
  · exact ⟨away_deliver away1 _ _ _, away_deliver away2 _ _ _⟩
  · exact ⟨(away_deliver notFirst _ _ _).append (away_deliver away1 _ _ _),
      (away_deliver notSecond _ _ _).append (away_deliver away2 _ _ _)⟩

/-- The players follow a move, whoever makes it. -/
theorem agree_chess {view1 view2 : Option PlayerView}
    (agree : Agree server user1 user2 view1 view2)
    (table : AtTable server user1 user2 conn1 conn2) {conn : ConnId} {req : Json.Value}
    {winOutcome loseOutcome : DbOutcome}
    (called : server.onChess conn req winOutcome loseOutcome = .ok next) {more : List Sent}
    (spoken : Says server (.chess conn req winOutcome loseOutcome) more) :
    Agree next user1 user2
      (follow conn1 view1 (.chess conn req winOutcome loseOutcome) more)
      (follow conn2 view2 (.chess conn req winOutcome loseOutcome) more) := by
  obtain ⟨x, y, rooms, ret, settled, _, move, handled, after, nextEq, _⟩ := onChess_ok called
  have nextRooms : next.rooms = rooms := by
    rw [nextEq, afterMove_ok after]
  by_cases mine : conn = conn1
  · subst mine
    have sender := (table.first.user_iff conn).mpr rfl
    rw [sender] at handled
    exact agree.move table move handled nextRooms (told_of_chess spoken move sender table.opponent
      ((table.second.conn_iff user2).mpr rfl) handled)
  · by_cases theirs : conn = conn2
    · subst theirs
      have sender := (table.second.user_iff conn).mpr rfl
      rw [sender] at handled
      exact (agree.symm.move table.symm move handled nextRooms (told_of_chess spoken move sender
        table.symm.opponent ((table.first.conn_iff user1).mpr rfl) handled)).symm
    · obtain ⟨⟨sender1, sender2⟩, _⟩ := table.stranger mine theirs rfl
      have told := away_of_chess table mine theirs spoken move handled
      rw [follow_of_away told.1, follow_of_away told.2, play_of_other mine, play_of_other theirs]
      exact agree.keep (unmoved_elsewhere table sender1 sender2 handled nextRooms)

/-! ### A new match -/

/-- A player hears of its match. -/
theorem hear_matchedResult (view : Option PlayerView) (conn : ConnId) (color : Int) :
    hear view ⟨conn, .MATCH_PUSH, matchedResult color⟩ = some ⟨color, Board.new⟩ := rfl

/-- Both players begin with the empty board of the new room, the first with white. -/
theorem agree_opened (after : AtTable next user1 user2 conn1 conn2) {i : Fin 3}
    {roomCount : UInt32} (opened : next.rooms = server.rooms.createRoom roomCount user1 user2)
    (conns : next.conns = server.conns)
    (online : ∀ user, server.users.getConnByUserId user = next.users.getConnByUserId user)
    (view1 view2 : Option PlayerView) :
    Agree next user1 user2
      (follow conn1 view1 (.matchQueue i roomCount)
        (deliver server (server.users.getConnByUserId user1) .MATCH_PUSH (matchedResult 1) ++
          deliver server (server.users.getConnByUserId user2) .MATCH_PUSH (matchedResult 2)))
      (follow conn2 view2 (.matchQueue i roomCount)
        (deliver server (server.users.getConnByUserId user1) .MATCH_PUSH (matchedResult 1) ++
          deliver server (server.users.getConnByUserId user2) .MATCH_PUSH (matchedResult 2))) := by
  have apart := after.conns_ne
  have found1 : server.users.getConnByUserId user1 = some conn1 :=
    (online user1).trans ((after.first.conn_iff user1).mpr rfl)
  have found2 : server.users.getConnByUserId user2 = some conn2 :=
    (online user2).trans ((after.second.conn_iff user2).mpr rfl)
  have up1 : conn1 ∈ server.conns.conns := conns ▸ after.first.up
  have up2 : conn2 ∈ server.conns.conns := conns ▸ after.second.up
  refine ⟨server.rooms.rooms.next,
    GameRoomInfo.new roomCount server.rooms.roomNextId user1 user2, ?_, ?_, ?_, ?_, ?_⟩
  · rw [opened, GameRoomManager.find?_createRoom, if_pos (.inl rfl)]
  · rw [opened, GameRoomManager.find?_createRoom, if_pos (.inr rfl)]
  · rw [opened, GameRoomManager.createRoom, Heap.deref_alloc, if_pos rfl]
  · rw [found1, found2, deliver_self server up1, deliver_self server up2]
    simp [follow, apart.symm, hear_matchedResult, GameRoomInfo.chessOf, GameRoomInfo.new,
      whiteChess]
  · rw [found1, found2, deliver_self server up1, deliver_self server up2]
    simp [follow, apart, hear_matchedResult, GameRoomInfo.chessOf, GameRoomInfo.new,
      after.distinct.symm, blackChess]

/-- A room that is opened for others. -/
theorem unmoved_opened {roomCount : UInt32} {userId1 userId2 : UserId}
    (opened : next.rooms = server.rooms.createRoom roomCount userId1 userId2)
    (first : ¬ (user1 = userId1 ∨ user1 = userId2))
    (second : ¬ (user2 = userId1 ∨ user2 = userId2)) : Unmoved server next user1 user2 := by
  intro ref seat1 seat2
  rw [SameBoard, opened, GameRoomManager.find?_createRoom, GameRoomManager.find?_createRoom,
    if_neg first, if_neg second]
  refine ⟨seat1, seat2, fun room held => ⟨room, ?_, rfl, rfl⟩⟩
  rw [GameRoomManager.createRoom, Heap.deref_alloc, if_neg (Heap.ne_next_of_deref held), held]

/-- A player does not hear of a match of others. -/
theorem away_of_paired {user opponent : UserId} {conn : ConnId}
    (sits : Sits server user conn opponent) {userId1 userId2 : UserId}
    (other : ¬ (user = userId1 ∨ user = userId2)) :
    Away conn (deliver server (server.users.getConnByUserId userId1) .MATCH_PUSH
        (matchedResult 1) ++
      deliver server (server.users.getConnByUserId userId2) .MATCH_PUSH (matchedResult 2)) := by
  have notFirst : server.users.getConnByUserId userId1 ≠ some conn :=
    fun same => other (.inl ((sits.conn_iff userId1).mp same).symm)
  have notSecond : server.users.getConnByUserId userId2 ≠ some conn :=
    fun same => other (.inr ((sits.conn_iff userId2).mp same).symm)
  exact (away_deliver notFirst _ _ _).append (away_deliver notSecond _ _ _)

/-- The players do not hear of a turn of the match thread that pairs others. -/
theorem agree_paired {view1 view2 : Option PlayerView}
    (agree : Agree server (users .white) (users .black) view1 view2)
    (inRoom : InRoom ref users conns server) (after : InRoom ref users conns next) {i : Fin 3}
    {roomCount : UInt32} (turn : server.matchQueue i roomCount = .ok next)
    {userId1 userId2 : UserId} {rest : List UserId}
    (queued : server.pool.queues i = userId1 :: userId2 :: rest) :
    Agree next (users .white) (users .black)
      (follow (conns .white) view1 (.matchQueue i roomCount)
        (deliver server (server.users.getConnByUserId userId1) .MATCH_PUSH (matchedResult 1) ++
          deliver server (server.users.getConnByUserId userId2) .MATCH_PUSH (matchedResult 2)))
      (follow (conns .black) view2 (.matchQueue i roomCount)
        (deliver server (server.users.getConnByUserId userId1) .MATCH_PUSH (matchedResult 1) ++
          deliver server (server.users.getConnByUserId userId2) .MATCH_PUSH
            (matchedResult 2))) := by
  obtain ⟨opened, _⟩ := paired_ok turn queued
  have others := inRoom.not_paired after opened
  rw [follow_of_away (away_of_paired inRoom.table.first (others .white)),
    follow_of_away (away_of_paired inRoom.table.second (others .black))]
  exact agree.keep (unmoved_opened opened (others .white) (others .black))

/-! ### Whole runs -/

/-- The players follow every event. -/
theorem agree_step {view1 view2 : Option PlayerView}
    (agree : Agree server (users .white) (users .black) view1 view2)
    (inRoom : InRoom ref users conns server) (after : InRoom ref users conns next)
    {event : ServerEvent} (stepEq : server.step event = .ok next) {more : List Sent}
    (spoken : Says server event more) :
    Agree next (users .white) (users .black) (follow (conns .white) view1 event more)
      (follow (conns .black) view2 event more) := by
  obtain ⟨rooms, nextRooms, change⟩ : ∃ rooms, next.rooms = rooms ∧ RoomsStep server event rooms :=
    ⟨_, rfl, roomsStep_of_step stepEq⟩
  cases spoken with
  | nothing silent =>
      cases event with
      | connect | disconnect =>
          cases change with
          | same => exact agree.keep (unmoved_of_rooms nextRooms)
      | exitRoom conn => exact agree.keep (unmoved_exitRoom after.table stepEq)
      | matchQueue =>
          rcases matchQueue_ok stepEq with ⟨_, rfl⟩ | ⟨_, _, _, _, _, _, _, _, queued, _⟩
          · exact agree
          · exact absurd silent (by simp [Answers.Silent, queued])
      | _ => cases silent
  | answer asked data =>
      have same : next.rooms = server.rooms := by
        cases change with
        | same => exact nextRooms
        | _ => cases asked
      cases event with
      | register | login | matchStart | matchCancel =>
          cases asked
          rw [follow_quiet (by decide) (by decide), follow_quiet (by decide) (by decide)]
          exact agree.keep (unmoved_of_rooms same)
      | _ => cases asked
  | paired queued => exact agree_paired agree inRoom after stepEq queued
  | told data =>
      cases change with
      | same =>
          rw [follow_quiet (by decide) (by decide), follow_quiet (by decide) (by decide)]
          exact agree.keep (unmoved_of_rooms nextRooms)
  | moved move handled => exact agree_chess agree inRoom.table stepEq (.moved move handled)
  | won move handled users => exact agree_chess agree inRoom.table stepEq (.won move handled users)

/-- A step of the watched server is a step of the server, and the players hear its messages. -/
theorem Watched.step_ok {watched after : Watched} {event : ServerEvent}
    (stepEq : watched.step conn1 conn2 event = .ok after) :
    ∃ next more, watched.server.step event = .ok next ∧ Says watched.server event more ∧
      after = ⟨next, follow conn1 watched.view1 event more,
        follow conn2 watched.view2 event more⟩ := by
  obtain ⟨next, stepped, rest⟩ := bind_eq_ok.mp stepEq
  obtain ⟨more, sent, spoken⟩ := sent_of_step stepped
  refine ⟨next, more, stepped, spoken, ?_⟩
  rw [← Except.ok.inj rest, sent, List.drop_left]

/-- As long as the players are in their room, they follow a whole run. -/
theorem always_agree {watched : Watched} {events : List ServerEvent}
    (inRoom : Always Server.step (InRoom ref users conns) watched.server events)
    (agree : Agree watched.server (users .white) (users .black) watched.view1 watched.view2) :
    Always (Watched.step (conns .white) (conns .black))
      (fun watched => Agree watched.server (users .white) (users .black) watched.view1
        watched.view2) watched events := by
  induction events generalizing watched with
  | nil => exact agree
  | cons event events inductionHypothesis =>
      refine ⟨agree, fun after stepEq => ?_⟩
      obtain ⟨next, more, stepped, spoken, rfl⟩ := Watched.step_ok stepEq
      have later := inRoom.2 next stepped
      exact inductionHypothesis later (agree_step agree inRoom.1 later.first stepped spoken)

/-! ### The result -/

/-- From the turn of the match thread that pairs them on, both players can follow the game.  They
are logged in before that turn, each on one connection of its own, and nobody has one of them for an
opponent; and then no event parts them.  Each of them has the board of the room in front of it after
every event, with its own colour the one the server puts down for it, whatever else happens. -/
theorem players_agree (ready : Ready users conns server) (nonzero : ∀ side, users side ≠ 0)
    (distinct : users .white ≠ users .black) {i : Fin 3} {roomCount : UInt32} {rest : List UserId}
    (queued : server.pool.queues i = users .white :: users .black :: rest)
    {view1 view2 : Option PlayerView} {paired : Watched}
    (turn : Watched.step (conns .white) (conns .black) ⟨server, view1, view2⟩
      (.matchQueue i roomCount) = .ok paired)
    {events : List ServerEvent}
    (stays : Admissible Server.step (WhenReturns Server.step (Stays users conns)) paired.server
      events) :
    Always (Watched.step (conns .white) (conns .black))
      (fun watched => Agree watched.server (users .white) (users .black) watched.view1
        watched.view2) paired events := by
  obtain ⟨next, more, stepped, spoken, rfl⟩ := Watched.step_ok turn
  have inRoom := inRoom_paired ready distinct queued stepped
  obtain ⟨opened, sameConns, online, _⟩ := paired_ok stepped queued
  refine always_agree (inRoom.always nonzero stays) ?_
  cases spoken with
  | nothing short => exact absurd short (by simp [Answers.Silent, queued])
  | answer asked => cases asked
  | paired queued' =>
      obtain ⟨rfl, pair⟩ := List.cons.inj (queued.symm.trans queued')
      obtain ⟨rfl, _⟩ := List.cons.inj pair
      exact agree_opened inRoom.table opened sameConns online view1 view2

/-- Both put a stone down, while somebody else comes, asks to leave a room and goes. -/
def movesAmongOthers : List ServerEvent :=
  [.chess 10 (.object [("x", .int 7), ("y", .int 7)]) .succeeded .succeeded, .connect 12,
    .exitRoom 12, .chess 11 (.object [("x", .int 7), ("y", .int 8)]) .succeeded .succeeded,
    .disconnect 12 0]

/-- They have both stones in front of them. -/
theorem players_agree_movesAmongOthers : ∃ last,
    run (Watched.step 10 11) ⟨twoWaiting, none, none⟩ (.matchQueue 0 2 :: movesAmongOthers) =
        .ok last ∧
      Agree last.server 1 2 last.view1 last.view2 := by
  obtain ⟨last, reached⟩ := exists_last_of_isOk
    (show (run (Watched.step 10 11) ⟨twoWaiting, none, none⟩
      (.matchQueue 0 2 :: movesAmongOthers)).isOk = true by decide +kernel)
  obtain ⟨paired, turn, rest⟩ := run_cons_ok reached
  have stays : Admissible Server.step (WhenReturns Server.step (Stays twoUsers twoConns))
      paired.server movesAmongOthers := by
    obtain ⟨next, _, stepped, _, rfl⟩ := Watched.step_ok turn
    obtain rfl := Except.ok.inj (matchQueue_twoWaiting.symm.trans stepped)
    show Admissible Server.step (WhenReturns Server.step (Stays twoUsers twoConns)) twoPaired _
    decide +kernel
  have agree := @players_agree twoWaiting twoUsers twoConns ready_twoWaiting nonzero_twoUsers
    (by decide) 0 2 [] rfl none none paired turn movesAmongOthers stays
  exact ⟨last, reached, agree.last rest⟩

end GomukuServer.Proofs.PlayersAgree
