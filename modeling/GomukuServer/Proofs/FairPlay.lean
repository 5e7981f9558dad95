/-
Module: GomukuServer.Proofs.FairPlay
Layer: Proofs
Purpose: The server checks no rule of the game, but two players who keep to the rules on their own
  boards need no more than its messages to do so.  Stones and messages are on their way for as long
  as they like, and anything may happen on the server in between: the board of the room is always a
  position of the game, and when nothing is on its way both players have it in front of them.
Trusted boundary: the clients are not in the repository; what a connection carries arrives in order
Main exports: Play, PlayEvent, Play.step, Fair, fair_game
-/
import GomukuServer.Model.FairGame
import GomukuServer.Proofs.OneTable

namespace GomukuServer.Proofs.FairPlay

open Base Base.Runs Model Manager Db Net
open GomukuServer.Module GomukuServer.Module.Server
open OneTable PartedPlayers

/-- The server and two players, the stones that the server has not been asked for yet, and the
messages of the game that the players have not taken in yet. -/
structure Play where
  server : Server
  players : Side → Player
  requests : Side → List (Int × Int)
  mail : Side → List TableMessage

/-- What can happen: a player puts a stone down, the server gets a request of a player for a stone,
a player takes in a message, or something else happens on the server. -/
inductive PlayEvent where
  | move (who : Side) (x y : Int)
  | serve (who : Side) (winOutcome loseOutcome : DbOutcome)
  | hear (who : Side)
  | elsewhere (event : ServerEvent)

/-- The data of a request for a stone. -/
def moveRequest (x y : Int) : Json.Value := .object [("x", .int x), ("y", .int y)]

namespace Play

/-- The server makes a step, and what it sends is on its way to the players. -/
def serverStep (conns : Side → ConnId) (play : Play) (event : ServerEvent) :
    Except Fault Play := do
  let next ← play.server.step event
  pure { play with
    server := next
    mail := fun side =>
      play.mail side ++ heardOn (conns side) (next.sent.drop play.server.sent.length) }

/-- Execute one event.  A player who may not put a stone down does not. -/
def step (conns : Side → ConnId) (play : Play) : PlayEvent → Except Fault Play
  | .move who x y =>
      match (play.players who).move who x y with
      | none => .ok play
      | some player => .ok { play with
          players := Function.update play.players who player
          requests := Function.update play.requests who (play.requests who ++ [(x, y)]) }
  | .serve who winOutcome loseOutcome =>
      match play.requests who with
      | [] => .ok play
      | (x, y) :: rest => serverStep conns
          { play with requests := Function.update play.requests who rest }
          (.chess (conns who) (moveRequest x y) winOutcome loseOutcome)
  | .hear who =>
      match play.mail who with
      | [] => .ok play
      | message :: rest => .ok { play with
          players := Function.update play.players who ((play.players who).hear who message)
          mail := Function.update play.mail who rest }
  | .elsewhere event => serverStep conns play event

end Play

/-- No request for a stone on this connection. -/
def NoMove (conn : ConnId) : ServerEvent → Prop
  | .chess sender _ _ _ => sender ≠ conn
  | _ => True

/-- The players ask for no stones but those that they put down, and nothing parts them. -/
def Fair (users : Side → UserId) (conns : Side → ConnId) (play : Play) : PlayEvent → Prop
  | .elsewhere event =>
      Stays users conns play.server event ∧ ∀ side, NoMove (conns side) event
  | _ => True

instance (conn : ConnId) : (event : ServerEvent) → Decidable (NoMove conn event)
  | .chess sender _ _ _ => inferInstanceAs (Decidable (sender ≠ conn))
  | .connect _ | .disconnect _ _ | .register _ _ _ | .login _ _ _ | .matchStart _ _
  | .matchCancel _ _ | .matchQueue _ _ | .chat _ _ | .exitRoom _ => isTrue trivial

instance (users : Side → UserId) (conns : Side → ConnId) (play : Play) :
    (event : PlayEvent) → Decidable (Fair users conns play event)
  | .elsewhere event => inferInstanceAs
      (Decidable (Stays users conns play.server event ∧ ∀ side, NoMove (conns side) event))
  | .move _ _ _ | .serve _ _ _ | .hear _ => isTrue trivial

/-- The players are in their room, its board is a position of the game, and the stones that are on
their way fit it. -/
structure Goes (ref : Ref) (users : Side → UserId) (conns : Side → ConnId) (play : Play)
    (board : Board) (turn : Option Side) : Prop where
  inRoom : InRoom ref users conns play.server
  shown : HasBoard ref users play.server board
  legal : Legal board turn
  phase : Phase board play.players play.requests (fun side => stones (play.mail side)) turn

variable {ref : Ref} {users : Side → UserId} {conns : Side → ConnId} {play next : Play}
  {board : Board} {turn : Option Side}

theorem sideOf_self (distinct : conns .white ≠ conns .black) (side : Side) :
    sideOf conns (conns side) = some side := by
  cases side <;> simp [sideOf, distinct.symm]

/-- A request for a cell of the board is read as it was written. -/
theorem moveOf_moveRequest {x y : Int} (inBoard : InBoard x y) :
    moveOf (moveRequest x y) = .ok (x, y) := by
  simp only [InBoard, boardSize] at inBoard
  have readX : Json.Value.asInt (.int x) = .ok x := if_pos (by omega)
  have readY : Json.Value.asInt (.int y) = .ok y := if_pos (by omega)
  have memberX : (moveRequest x y).getMember "x" = .ok (.int x) := rfl
  have memberY : (moveRequest x y).getMember "y" = .ok (.int y) := rfl
  simp only [moveOf, memberX, memberY, readX, readY, ok_bind, pure_eq_ok]

/-- What a step of the server does to the table, and what the players are sent of it. -/
theorem table_of_serverStep {event : ServerEvent}
    (stepEq : play.serverStep conns event = .ok next) (inRoom : InRoom ref users conns play.server)
    (shown : HasBoard ref users play.server board) (nonzero : ∀ side, users side ≠ 0)
    (stays : Stays users conns play.server event) :
    ∃ final, run Table.step (Table.new board) (tableEvent conns event).toList = .ok final ∧
      InRoom ref users conns next.server ∧ HasBoard ref users next.server final.board ∧
      next = { play with
        server := next.server
        mail := fun side => play.mail side ++ final.heard side } := by
  obtain ⟨server, stepped, built⟩ := bind_eq_ok.mp stepEq
  obtain rfl := Except.ok.inj built
  have after := (inRoom_step_iff inRoom nonzero stepped).mp stays
  have always : Always Server.step (InRoom ref users conns) play.server [event] := by
    refine ⟨inRoom, fun other again => ?_⟩
    obtain rfl := Except.ok.inj (stepped.symm.trans again)
    exact after
  obtain ⟨final, tableRun, shownAfter, heard⟩ :=
    shown.refines always (show run Server.step play.server [event] = .ok server by
      simp [run, stepped])
  obtain ⟨more, sent, _⟩ := Answers.sent_of_step stepped
  have told : ∀ side, heardOn (conns side) more = final.heard side := by
    intro side
    have both := heard side
    rw [sent, heardOn_append] at both
    exact List.append_cancel_left both
  refine ⟨final, ?_, after, shownAfter, ?_⟩
  · cases mine : tableEvent conns event <;> simpa [mine] using tableRun
  · simp only [sent, List.drop_left, told]

/-- What happens elsewhere puts no stone down, and the players hear of none. -/
theorem quiet_of_noMove {event : ServerEvent} (noMove : ∀ side, NoMove (conns side) event)
    {final : Table}
    (ran : run Table.step (Table.new board) (tableEvent conns event).toList = .ok final) :
    final.board = board ∧ ∀ side, stones (final.heard side) = [] := by
  cases found : tableEvent conns event with
  | none =>
      rw [found] at ran
      obtain rfl := Except.ok.inj ran
      exact ⟨rfl, fun _ => rfl⟩
  | some asked =>
      cases asked with
      | line who text =>
          rw [found] at ran
          obtain rfl := Except.ok.inj ran
          refine ⟨rfl, fun side => ?_⟩
          by_cases told : side = who.other <;> simp [Table.new, stones, told]
      | move who x y =>
          cases event with
          | chess conn req winOutcome loseOutcome =>
              have stranger : sideOf conns conn = none := by
                simp [sideOf, show conn ≠ conns .white from noMove .white,
                  show conn ≠ conns .black from noMove .black]
              simp [tableEvent, stranger] at found
          | chat conn req =>
              simp only [tableEvent] at found
              split at found <;> cases found
          | _ => cases found

/-- Whatever happens, the game goes on. -/
theorem goes_step (goes : Goes ref users conns play board turn) (nonzero : ∀ side, users side ≠ 0)
    {event : PlayEvent} (fair : Fair users conns play event)
    (stepEq : play.step conns event = .ok next) :
    ∃ board turn, Goes ref users conns next board turn := by
  obtain ⟨inRoom, shown, legal, phase⟩ := goes
  cases event with
  | move who x y =>
      simp only [Play.step] at stepEq
      split at stepEq
      · obtain rfl := Except.ok.inj stepEq
        exact ⟨board, turn, inRoom, shown, legal, phase⟩
      · rename_i player moved
        obtain rfl := Except.ok.inj stepEq
        exact ⟨board, turn, inRoom, shown, legal, phase.move moved⟩
  | hear who =>
      simp only [Play.step] at stepEq
      split at stepEq
      · obtain rfl := Except.ok.inj stepEq
        exact ⟨board, turn, inRoom, shown, legal, phase⟩
      · rename_i message rest mail
        obtain rfl := Except.ok.inj stepEq
        exact ⟨board, turn, inRoom, shown, legal, phase.hear_first mail⟩
  | serve who winOutcome loseOutcome =>
      simp only [Play.step] at stepEq
      split at stepEq
      · obtain rfl := Except.ok.inj stepEq
        exact ⟨board, turn, inRoom, shown, legal, phase⟩
      · rename_i x y rest requested
        obtain ⟨_, free, _⟩ := phase.asked requested
        have inBoard := (board.exists_read_iff x y).mp ⟨0, free⟩
        obtain ⟨final, ran, after, shownAfter, same⟩ :=
          table_of_serverStep stepEq inRoom shown nonzero trivial
        have asked : tableEvent conns (.chess (conns who) (moveRequest x y) winOutcome
            loseOutcome) = some (.move who x y) := by
          simp [tableEvent, sideOf_self inRoom.table.conns_ne, moveOf_moveRequest inBoard]
        rw [asked] at ran
        obtain ⟨table, stepped, rest'⟩ := run_cons_ok ran
        obtain rfl := Except.ok.inj rest'
        obtain ⟨nextTurn, nextLegal, nextPhase⟩ := phase.serve legal requested stepped
        refine ⟨table.board, nextTurn, after, shownAfter, nextLegal, ?_⟩
        rw [same]
        simpa using nextPhase
  | elsewhere event =>
      obtain ⟨final, ran, after, shownAfter, same⟩ :=
        table_of_serverStep stepEq inRoom shown nonzero fair.1
      obtain ⟨boardEq, quiet⟩ := quiet_of_noMove fair.2 ran
      refine ⟨board, turn, after, boardEq ▸ shownAfter, legal, ?_⟩
      rw [same]
      simpa [quiet] using phase

/-! ### Whole games -/

/-- The board of the room is a position of the game, nobody but the side to move thinks that it is
its turn, and when nothing is on its way both players have the board in front of them. -/
structure Proper (ref : Ref) (users : Side → UserId) (play : Play) (board : Board)
    (turn : Option Side) : Prop where
  shown : HasBoard ref users play.server board
  legal : Legal board turn
  turn_eq : ∀ side, (play.players side).turn = true → turn = some side
  boards_eq : (∀ side, play.requests side = []) → (∀ side, stones (play.mail side) = []) →
    ∀ side, (play.players side).board = board

theorem Goes.proper (goes : Goes ref users conns play board turn) :
    Proper ref users play board turn where
  shown := goes.shown
  legal := goes.legal
  turn_eq := fun _ => goes.phase.turn_eq
  boards_eq := goes.phase.boards_eq

/-- A game that begins. -/
def Play.new (server : Server) : Play := ⟨server, Player.new, fun _ => [], fun _ => []⟩

/-- Two users are in a room with an empty board, no event parts them, and both keep to the rules on
their own boards.  Whatever the delays and whatever else happens on the server, the board of their
room is always a position that the rules allow, and each of them knows it as well as it can. -/
theorem fair_game {server : Server} (inRoom : InRoom ref users conns server)
    (shown : HasBoard ref users server Board.new) (nonzero : ∀ side, users side ≠ 0)
    {events : List PlayEvent}
    (fair : Admissible (Play.step conns) (WhenReturns (Play.step conns) (Fair users conns))
      (Play.new server) events) :
    Always (Play.step conns) (fun play => ∃ board turn, Proper ref users play board turn)
      (Play.new server) events := by
  have start : Goes ref users conns (Play.new server) Board.new (some .white) :=
    ⟨inRoom, shown, .start, .thinking .white rfl rfl (fun _ => rfl) fun _ => rfl⟩
  have goes : Always (Play.step conns)
      (fun play => ∃ board turn, Goes ref users conns play board turn) (Play.new server)
        events := by
    refine always_of_admissible (fun play event next here kept stepEq => ?_)
      ⟨_, _, start⟩ fair
    obtain ⟨board, turn, here⟩ := here
    exact goes_step here nonzero (kept (by rw [stepEq]; rfl)) stepEq
  exact goes.imp fun play ⟨board, turn, here⟩ => ⟨board, turn, here.proper⟩

/-- Each of them puts a stone down, and there is some talk in between. -/
def firstMoves : List PlayEvent :=
  [.move .white 7 7, .elsewhere (.connect 12), .serve .white .succeeded .succeeded, .hear .black,
    .elsewhere (.chat 11 (.object [("message", .string "hello")])), .move .black 7 8, .hear .white,
    .elsewhere (.disconnect 12 0), .serve .black .succeeded .succeeded, .hear .white]

/-- It is white's turn again, and both have the two stones in front of them. -/
theorem fair_game_firstMoves : ∃ last,
    run (Play.step twoConns) (Play.new twoPaired) firstMoves = .ok last ∧
      ∃ board, Proper 0 twoUsers last board (some .white) ∧
        ∀ side, (last.players side).board = board := by
  obtain ⟨last, reached⟩ := exists_last_of_isOk
    (show (run (Play.step twoConns) (Play.new twoPaired) firstMoves).isOk = true by
      decide +kernel)
  have fair : Admissible (Play.step twoConns)
      (WhenReturns (Play.step twoConns) (Fair twoUsers twoConns)) (Play.new twoPaired)
      firstMoves := by
    decide +kernel
  obtain ⟨board, turn, proper⟩ :=
    (fair_game inRoom_twoPaired hasBoard_twoPaired nonzero_twoUsers fair).last reached
  have seen : (run (Play.step twoConns) (Play.new twoPaired) firstMoves).toOption.map
      (fun play => decide ((play.players .white).turn = true ∧
        (∀ side, play.requests side = []) ∧ ∀ side, play.mail side = [])) = some true := by
    decide +kernel
  rw [reached] at seen
  obtain ⟨thinks, asked, told⟩ := of_decide_eq_true (Option.some.inj seen)
  obtain rfl := proper.turn_eq .white thinks
  refine ⟨last, reached, board, proper, proper.boards_eq asked fun side => ?_⟩
  rw [told]
  rfl

end GomukuServer.Proofs.FairPlay
