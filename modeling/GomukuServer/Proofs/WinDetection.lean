/-
Module: GomukuServer.Proofs.WinDetection
Layer: Proofs
Purpose: The win test over whole games.  `checkWin` looks only at the lines through the last stone.
  While no call has returned true the board carries no line of exactly five at all, and one legal
  stone can add such a line only through its own cell and only in its own colour, so the local test
  answers the global question after every move of a game.
Trusted boundary: none
Main exports: play, NoFiveLine, noFiveLine_of_play, handleChess_detects_fiveLine
-/
import GomukuServer.Model.GameRoomInfo

namespace GomukuServer.Proofs.WinDetection

open Base Base.Lines Model Model.GameRoomInfo

/-- One `handleChess` call. -/
structure Move where
  x : Int
  y : Int
  userId : UserId
deriving DecidableEq, Repr

/-- A move the rules allow: made by one of the room's two users, on an empty cell of the board. -/
def Legal (room : GameRoomInfo) (move : Move) : Prop :=
  (move.userId = room.whiteId ∨ move.userId = room.blackId) ∧
    room.isValidPosition move.x move.y = true

instance (room : GameRoomInfo) (move : Move) : Decidable (Legal room move) :=
  inferInstanceAs (Decidable (_ ∧ _))

/-- Play the moves in order and give the room they lead to.  There is none when a move is not legal
or when a call returns true, which ends the game. -/
def play (room : GameRoomInfo) : List Move → Option GameRoomInfo
  | [] => some room
  | move :: moves =>
      if Legal room move then
        match room.handleChess move.x move.y move.userId with
        | .ok (next, false) => play next moves
        | _ => none
      else none

/-- The colours of the two players. -/
def Color (color : Int) : Prop := color = whiteChess ∨ color = blackChess

/-- The board carries no line of exactly five, in neither colour. -/
def NoFiveLine (board : Board) : Prop :=
  ∀ color first dir, Color color → ¬ FiveLine board color first dir

theorem noFiveLine_new : NoFiveLine Board.new := by
  intro color first dir isColor line
  have stone : Stone Board.new color (first + 0 • dir) := line.line.cells 0 (by omega)
  have empty : color = 0 := Board.read_new stone
  rcases isColor with rfl | rfl <;> simp [whiteChess, blackChess] at empty

/-- Putting a stone down marks its cell for its own colour. -/
theorem stone_write_iff {board after : Board} {x y chess : Int}
    (written : board.write x y chess = .ok after) (cell : Int × Int) :
    Stone after chess cell ↔ Stone board chess cell ∨ cell = (x, y) := by
  unfold Stone at *
  rw [Board.read_write written]
  by_cases here : cell.1 = x ∧ cell.2 = y
  · have cellEq : cell = (x, y) := Prod.ext here.1 here.2
    simp [cellEq]
  · have cellNe : cell ≠ (x, y) := fun cellEq => here (by simp [cellEq])
    simp [here, cellNe]

/-- Putting a stone on an empty cell changes nothing for the other colour. -/
theorem stone_write_other_iff {board after : Board} {x y chess color : Int}
    (empty : Stone board 0 (x, y)) (colorNonzero : color ≠ 0) (other : color ≠ chess)
    (written : board.write x y chess = .ok after) (cell : Int × Int) :
    Stone after color cell ↔ Stone board color cell := by
  unfold Stone at *
  rw [Board.read_write written]
  by_cases here : cell.1 = x ∧ cell.2 = y
  · obtain ⟨rowEq, colEq⟩ := here
    simp only at empty
    simp [rowEq, colEq, empty, Ne.symm other, Ne.symm colorNonzero]
  · simp [here]

/-- A stone on an empty cell of a board without lines of five makes at most lines of five of its own
colour through its own cell. -/
theorem fiveLine_of_write {board after : Board} {x y chess : Int} (clear : NoFiveLine board)
    (empty : Stone board 0 (x, y)) (isColor : Color chess)
    (written : board.write x y chess = .ok after) {color : Int} {first dir : Int × Int}
    (lineColor : Color color) (line : FiveLine after color first dir) :
    color = chess ∧ Through first dir 5 (x, y) := by
  have nonzero : ∀ {c}, Color c → c ≠ 0 := by
    rintro c (rfl | rfl) <;> simp [whiteChess, blackChess]
  by_cases same : color = chess
  · subst same
    refine ⟨rfl, ?_⟩
    by_contra avoids
    have grow := stone_write_iff written
    exact clear color first dir lineColor ⟨line.straight, line.line.of_mark grow avoids⟩
  · have unchanged := stone_write_other_iff empty (nonzero lineColor) same written
    have old : MaximalLine (Stone board color) first dir 5 := by
      have sameMarks : Stone after color = Stone board color := funext fun cell =>
        propext (unchanged cell)
      exact sameMarks ▸ line.line
    exact absurd ⟨line.straight, old⟩ (clear color first dir lineColor)

/-- One legal move on a board without lines of five: the answer is true exactly if there is one now,
and every one there is belongs to the mover and passes through the played cell. -/
theorem handleChess_step {room : GameRoomInfo} {move : Move} (clear : NoFiveLine room.board)
    (legal : Legal room move) :
    ∃ next won, room.handleChess move.x move.y move.userId = .ok (next, won) ∧
      (won = true ↔ ∃ color first dir, Color color ∧ FiveLine next.board color first dir) ∧
      ∀ color first dir, Color color → FiveLine next.board color first dir →
        color = room.chessOf move.userId ∧ Through first dir 5 (move.x, move.y) := by
  have empty := (room.isValidPosition_iff move.x move.y).mp legal.2
  obtain ⟨board, won, written, called, wonIff⟩ :=
    room.handleChess_spec move.userId empty.inBoard
  have moverColor : Color (room.chessOf move.userId) := room.chessOf_eq move.userId
  have onlyHere : ∀ color first dir, Color color → FiveLine board color first dir →
      color = room.chessOf move.userId ∧ Through first dir 5 (move.x, move.y) :=
    fun _ _ _ lineColor line =>
      fiveLine_of_write clear empty moverColor written lineColor line
  refine ⟨{ room with board := board }, won, called, ?_, onlyHere⟩
  rw [wonIff]
  constructor
  · rintro ⟨first, dir, line, _⟩
    exact ⟨_, first, dir, moverColor, line⟩
  · rintro ⟨color, first, dir, lineColor, line⟩
    obtain ⟨rfl, through⟩ := onlyHere color first dir lineColor line
    exact ⟨first, dir, line, through⟩

/-- As long as every call has returned false, there is no line of five anywhere on the board. -/
theorem noFiveLine_of_play {start room : GameRoomInfo} {moves : List Move}
    (clear : NoFiveLine start.board) (game : play start moves = some room) :
    NoFiveLine room.board := by
  induction moves generalizing start with
  | nil =>
      simp only [play, Option.some.injEq] at game
      exact game ▸ clear
  | cons move moves inductionHypothesis =>
      simp only [play] at game
      split at game
      case isFalse => simp at game
      case isTrue legal =>
        obtain ⟨next, won, called, wonIff, _⟩ := handleChess_step clear legal
        rw [called] at game
        cases won with
        | true => simp at game
        | false =>
            have nextClear : NoFiveLine next.board := by
              intro color first dir lineColor line
              exact absurd (wonIff.mpr ⟨color, first, dir, lineColor, line⟩) (by simp)
            exact inductionHypothesis nextClear game

/-- In every game from a new room, the next legal call returns true exactly if the board after it
carries a horizontal, vertical or diagonal maximal line of exactly five stones of one colour, and
every such line is of the mover's colour and passes through the cell just played. -/
theorem handleChess_detects_fiveLine (roomCount : UInt32) (roomId : RoomId)
    (whiteId blackId : UserId) (moves : List Move) (room : GameRoomInfo)
    (game : play (GameRoomInfo.new roomCount roomId whiteId blackId) moves = some room)
    (last : Move) (legal : Legal room last) :
    ∃ next won, room.handleChess last.x last.y last.userId = .ok (next, won) ∧
      (won = true ↔ ∃ color first dir, Color color ∧ FiveLine next.board color first dir) ∧
      ∀ color first dir, Color color → FiveLine next.board color first dir →
        color = room.chessOf last.userId ∧ Through first dir 5 (last.x, last.y) :=
  handleChess_step (noFiveLine_of_play noFiveLine_new game) legal

/-- A game in which white has four in a column and black four beside them. -/
def fourInAColumn : List Move :=
  [⟨0, 0, 1⟩, ⟨0, 1, 2⟩, ⟨1, 0, 1⟩, ⟨1, 1, 2⟩, ⟨2, 0, 1⟩, ⟨2, 1, 2⟩, ⟨3, 0, 1⟩, ⟨3, 1, 2⟩]

/-- White completes the column, and the call reports it. -/
theorem handleChess_detects_column :
    ∃ room, play (GameRoomInfo.new 0 1 1 2) fourInAColumn = some room ∧
      ∃ next, room.handleChess 4 0 1 = .ok (next, true) ∧
        ∃ color first dir, Color color ∧ FiveLine next.board color first dir := by
  let room := (play (GameRoomInfo.new 0 1 1 2) fourInAColumn).get (by decide +kernel)
  have game : play (GameRoomInfo.new 0 1 1 2) fourInAColumn = some room := by
    simp [room]
  have legal : Legal room ⟨4, 0, 1⟩ := by decide +kernel
  obtain ⟨next, won, called, wonIff, _⟩ :=
    handleChess_detects_fiveLine 0 1 1 2 fourInAColumn room game ⟨4, 0, 1⟩ legal
  have reported : (room.handleChess 4 0 1).map Prod.snd = .ok true := by decide +kernel
  have wonTrue : won = true := by simpa [called, Except.map] using reported
  exact ⟨room, game, next, wonTrue ▸ called, wonIff.mp wonTrue⟩

end GomukuServer.Proofs.WinDetection
