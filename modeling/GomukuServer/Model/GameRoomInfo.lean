/-
Module: GomukuServer.Model.GameRoomInfo
Layer: Model
Purpose: One game room: the two players' ids fixed at creation, the count of users in the room, the
  15 by 15 board, and the five-in-a-row test that runs after every stone.
Trusted boundary: what the storage of a room holds before its constructor is an argument
Main exports: Board, GameRoomInfo, isValidPosition, handleChess, five, checkWin, handleChess_spec
-/
import GomukuServer.Base.Cpp
import GomukuServer.Base.Lines
import Mathlib.Data.Int.Basic
import Mathlib.Algebra.Group.Prod
import Mathlib.Algebra.Group.Int.Defs

namespace GomukuServer.Model

open Base

/-- `BOARD_SIZE`. -/
abbrev boardSize : Nat := 15

/-- `WHITE_CHESS`. -/
def whiteChess : Int := 1

/-- `BLACK_CHESS`. -/
def blackChess : Int := 2

/-- User ids are `uint32_t`. -/
abbrev UserId := UInt32

/-- Room ids are `uint32_t`. -/
abbrev RoomId := UInt32

/-- The coordinates of the board, the loop condition of `five` and the range test of
`isValidPosition`. -/
def InBoard (x y : Int) : Prop := 0 ≤ x ∧ x < boardSize ∧ 0 ≤ y ∧ y < boardSize

instance (x y : Int) : Decidable (InBoard x y) := inferInstanceAs (Decidable (_ ∧ _))

theorem InBoard.toNat_lt {x y : Int} (inBoard : InBoard x y) :
    x.toNat < boardSize ∧ y.toNat < boardSize := by
  simp only [InBoard, boardSize] at inBoard ⊢
  omega

/-- `_board`: `BOARD_SIZE` rows of `BOARD_SIZE` cells, resized and filled once in the constructor.
-/
abbrev Board := Vector (Vector Int boardSize) boardSize

namespace Board

/-- The board the constructor leaves. -/
def new : Board := Vector.replicate boardSize (Vector.replicate boardSize 0)

/-- `_board[x][y]` as a value. -/
def read (board : Board) (x y : Int) : Except Fault Int :=
  if inBoard : InBoard x y then
    have bounds := inBoard.toNat_lt
    .ok (board[x.toNat][y.toNat])
  else .error .outOfBounds

/-- `_board[x][y] = chess`. -/
def write (board : Board) (x y chess : Int) : Except Fault Board :=
  if inBoard : InBoard x y then
    have bounds := inBoard.toNat_lt
    .ok (board.set x.toNat (board[x.toNat].set y.toNat chess))
  else .error .outOfBounds

/-- Reading succeeds exactly on the board. -/
theorem exists_read_iff (board : Board) (x y : Int) :
    (∃ cell, board.read x y = .ok cell) ↔ InBoard x y := by
  unfold read
  split <;> simp_all

/-- Writing succeeds exactly on the board. -/
theorem exists_write_iff (board : Board) (x y chess : Int) :
    (∃ after, board.write x y chess = .ok after) ↔ InBoard x y := by
  unfold write
  split <;> simp_all

/-- The constructor leaves no stone. -/
theorem read_new {x y cell : Int} (found : new.read x y = .ok cell) : cell = 0 := by
  unfold read at found
  split at found
  · simpa [new] using found.symm
  · simp at found

/-- A write changes the written cell and no other. -/
theorem read_write {board after : Board} {x y chess : Int}
    (written : board.write x y chess = .ok after) (u v : Int) :
    after.read u v = if u = x ∧ v = y then .ok chess else board.read u v := by
  unfold write at written
  split at written
  case isFalse => simp at written
  case isTrue inBoard =>
    simp only [Except.ok.injEq] at written
    subst written
    unfold read
    by_cases other : InBoard u v
    · have sameRow : x.toNat = u.toNat ↔ u = x := by
        simp only [InBoard] at inBoard other
        omega
      have sameCol : y.toNat = v.toNat ↔ v = y := by
        simp only [InBoard] at inBoard other
        omega
      simp only [other, dif_pos, Vector.getElem_set, sameRow]
      by_cases row : u = x
      · subst row
        simp only [if_true, Vector.getElem_set, sameCol, true_and]
        split <;> rfl
      · simp [row]
    · have elsewhere : ¬ (u = x ∧ v = y) := by
        rintro ⟨rfl, rfl⟩
        exact other inBoard
      simp [other, elsewhere]

/-- Putting down what lies there already changes nothing. -/
theorem write_of_read {board : Board} {x y chess : Int} (found : board.read x y = .ok chess) :
    board.write x y chess = .ok board := by
  unfold read at found
  split at found
  · rename_i inBoard
    obtain rfl := Except.ok.inj found
    simp [write, inBoard]
  · simp at found

end Board

/-- `GameRoomState`. -/
inductive GameRoomState where
  | start
  | over
deriving DecidableEq, Repr, Inhabited

/-- `GameRoomInfo`.  `_state` is set by the constructor and by nothing else. -/
structure GameRoomInfo where
  state : GameRoomState
  roomCount : UInt32
  roomId : RoomId
  whiteId : UserId
  blackId : UserId
  board : Board
deriving DecidableEq

namespace GameRoomInfo

/-- The constructor.  It does not initialise `_roomCount`, so the value found there is an argument.
-/
def new (roomCount : UInt32) (roomId : RoomId) (whiteId blackId : UserId) : GameRoomInfo :=
  { state := .start
    roomCount := roomCount
    roomId := roomId
    whiteId := whiteId
    blackId := blackId
    board := Board.new }

/-- `getOtherId`. -/
def getOtherId (room : GameRoomInfo) (id : UserId) : UserId :=
  if id = room.whiteId then room.blackId else room.whiteId

/-- `subCount`, on an unsigned counter. -/
def subCount (room : GameRoomInfo) : GameRoomInfo := { room with roomCount := room.roomCount - 1 }

/-- The counter comes down to zero exactly from one. -/
theorem countdown_iff {count : UInt32} : count - 1 = 0 ↔ count = 1 := by
  constructor
  · intro zero
    have same : count = count - 1 + 1 := by simp
    rw [same, zero]
    rfl
  · intro one
    simp [one]

/-- `isValidPosition`. -/
def isValidPosition (room : GameRoomInfo) (x y : Int) : Bool :=
  match room.board.read x y with
  | .ok cell => cell = 0
  | .error _ => false

/-- One of the two `while` loops of `five`: count cells of `color` from `(row, col)` on in direction
`(offsetRow, offsetCol)`.  The loop leaves the board after at most `BOARD_SIZE` turns unless the
offset is zero, so `fuel` separates the loop that ends from the one that does not. -/
def countLine (board : Board) (offsetRow offsetCol color : Int) :
    Nat → Int → Int → Int → Except Fault Int
  | 0, _, _, _ => .error .nonTermination
  | fuel + 1, tmpRow, tmpCol, count =>
      if InBoard tmpRow tmpCol then do
        let cell ← board.read tmpRow tmpCol
        if cell = color then
          countLine board offsetRow offsetCol color fuel (tmpRow + offsetRow) (tmpCol + offsetCol)
            (count + 1)
        else .ok count
      else .ok count

/-- `five`: whether the cell lies on a line of exactly five in one direction. -/
def five (room : GameRoomInfo) (row col offsetRow offsetCol color : Int) : Except Fault Bool := do
  let ahead ← countLine room.board offsetRow offsetCol color (boardSize + 1)
    (row + offsetRow) (col + offsetCol) 1
  let count ← countLine room.board (-offsetRow) (-offsetCol) color (boardSize + 1)
    (row - offsetRow) (col - offsetCol) ahead
  return count == 5

/-- `checkWin`, with the short circuit of `||`. -/
def checkWin (room : GameRoomInfo) (x y color : Int) : Except Fault Bool := do
  if ← room.five x y 1 0 color then return true
  if ← room.five x y 0 1 color then return true
  if ← room.five x y (-1) (-1) color then return true
  room.five x y (-1) 1 color

/-- The stone `handleChess` puts down for a user. -/
def chessOf (room : GameRoomInfo) (userId : UserId) : Int :=
  if userId = room.whiteId then whiteChess else blackChess

/-- `handleChess`: put the stone down and report whether it makes a line of five.  The cell is
written without a look at `isValidPosition` or at `_state`. -/
def handleChess (room : GameRoomInfo) (x y : Int) (userId : UserId) :
    Except Fault (GameRoomInfo × Bool) := do
  let chess := room.chessOf userId
  let board ← room.board.write x y chess
  let room := { room with board := board }
  let won ← room.checkWin x y chess
  return (room, won)

end GameRoomInfo

/-! ### What the line scan computes

A cell of the board carries a stone of `color` when reading it gives `color`.  The scan of `five`
then measures the maximal line of such cells through the played one. -/

open Lines

/-- The cell lies on the board and carries `color`. -/
def Stone (board : Board) (color : Int) (cell : Int × Int) : Prop :=
  board.read cell.1 cell.2 = .ok color

theorem Stone.inBoard {board : Board} {color : Int} {cell : Int × Int}
    (stone : Stone board color cell) : InBoard cell.1 cell.2 :=
  (board.exists_read_iff cell.1 cell.2).mp ⟨color, stone⟩

/-- The directions of a line on the board: down, right and the two diagonals. -/
def lineDirections : List (Int × Int) := [(1, 0), (0, 1), (1, 1), (1, -1)]

/-- A maximal line of exactly five stones of one colour. -/
structure FiveLine (board : Board) (color : Int) (first dir : Int × Int) : Prop where
  straight : dir ∈ lineDirections
  line : MaximalLine (Stone board color) first dir 5

/-- A step that moves at most one row and one column, but moves. -/
def UnitStep (dir : Int × Int) : Prop :=
  dir ≠ 0 ∧ -1 ≤ dir.1 ∧ dir.1 ≤ 1 ∧ -1 ≤ dir.2 ∧ dir.2 ≤ 1

theorem UnitStep.neg {dir : Int × Int} (unit : UnitStep dir) : UnitStep (-dir) := by
  obtain ⟨nonzero, bounds⟩ := unit
  refine ⟨neg_ne_zero.mpr nonzero, ?_⟩
  simp only [Prod.fst_neg, Prod.snd_neg]
  omega

/-- Fifteen unit steps lead off the board. -/
theorem UnitStep.leaves {dir cell : Int × Int} (unit : UnitStep dir)
    (inBoard : InBoard cell.1 cell.2) :
    ¬ InBoard (cell + boardSize • dir).1 (cell + boardSize • dir).2 := by
  obtain ⟨nonzero, bounds⟩ := unit
  have moves : dir.1 ≠ 0 ∨ dir.2 ≠ 0 := by
    by_contra still
    push Not at still
    exact nonzero (Prod.ext still.1 still.2)
  simp only [InBoard, boardSize, Prod.fst_add, Prod.snd_add, Prod.smul_fst, Prod.smul_snd]
    at inBoard ⊢
  simp only [nsmul_eq_mul]
  push_cast
  omega

namespace GameRoomInfo

/-- The loop, entered after `steps` stones, goes on to the end of the scan. -/
private theorem countLine_from (board : Board) (color : Int) {dir cell : Int × Int}
    (leaves : ¬ InBoard (cell + boardSize • dir).1 (cell + boardSize • dir).2)
    (fuel steps : Nat) (count : Int) (enough : boardSize < fuel + steps)
    (passed : ∀ i < steps, Stone board color (cell + (i + 1) • dir)) :
    ∃ total, Scan (Stone board color) cell dir (steps + total) ∧
      countLine board dir.1 dir.2 color fuel (cell + (steps + 1) • dir).1
        (cell + (steps + 1) • dir).2 count = .ok (count + total) := by
  induction fuel generalizing steps count with
  | zero => exact absurd (passed (boardSize - 1) (by omega)).inBoard leaves
  | succ fuel inductionHypothesis =>
      by_cases stone : Stone board color (cell + (steps + 1) • dir)
      · obtain ⟨total, scan, counted⟩ := inductionHypothesis (steps + 1) (count + 1) (by omega)
          (fun i inside => by
            rcases Nat.lt_succ_iff_lt_or_eq.mp inside with before | rfl
            · exact passed i before
            · exact stone)
        refine ⟨total + 1, by simpa [Nat.add_assoc, Nat.add_comm 1] using scan, ?_⟩
        have nextCell : cell + (steps + 1 + 1) • dir = cell + (steps + 1) • dir + dir := by
          rw [succ_nsmul dir (steps + 1)]
          exact (add_assoc _ _ _).symm
        rw [nextCell] at counted
        simp only [Prod.fst_add, Prod.snd_add] at counted
        have readEq := stone
        rw [Stone] at readEq
        simp only [Prod.fst_add, Prod.snd_add] at readEq ⊢
        rw [countLine, if_pos (by simpa using stone.inBoard), readEq, ok_bind, if_pos rfl, counted]
        push_cast
        congr 1
        omega
      · refine ⟨0, ⟨passed, stone⟩, ?_⟩
        rw [countLine]
        split
        · rename_i inBoard
          obtain ⟨found, readEq⟩ := (board.exists_read_iff _ _).mpr inBoard
          have other : found ≠ color := by
            rintro rfl
            exact stone readEq
          rw [readEq, ok_bind, if_neg other]
          simp
        · simp

/-- `five` returns, and it answers whether the maximal line that its two loops measure has length
five. -/
theorem five_measures (room : GameRoomInfo) {color : Int} {dir cell : Int × Int}
    (unit : UnitStep dir) (stone : Stone room.board color cell) :
    ∃ first length won, MaximalLine (Stone room.board color) first dir length ∧
      Through first dir length cell ∧ room.five cell.1 cell.2 dir.1 dir.2 color = .ok won ∧
      (won = true ↔ length = 5) := by
  have inBoard := stone.inBoard
  obtain ⟨ahead, forward, countAhead⟩ := countLine_from room.board color
    (unit.leaves inBoard) (boardSize + 1) 0 1 (by omega) (by simp)
  obtain ⟨behind, backward, countBehind⟩ := countLine_from room.board color
    (unit.neg.leaves inBoard) (boardSize + 1) 0 (1 + ahead) (by omega) (by simp)
  simp only [Nat.zero_add, one_nsmul, Prod.fst_add, Prod.snd_add, Prod.fst_neg, Prod.snd_neg,
    Prod.fst_sub, Prod.snd_sub, ← sub_eq_add_neg] at forward countAhead backward countBehind
  refine ⟨_, _, _, maximalLine_of_scan stone forward backward, through_of_scan cell dir ahead behind,
    by rw [five, countAhead, ok_bind, countBehind, ok_bind, pure_eq_ok], ?_⟩
  rw [beq_iff_eq]
  omega

/-- In other words, whether the stone lies on a maximal line of length five. -/
theorem five_spec (room : GameRoomInfo) {color : Int} {dir cell : Int × Int} (unit : UnitStep dir)
    (stone : Stone room.board color cell) :
    ∃ won, room.five cell.1 cell.2 dir.1 dir.2 color = .ok won ∧
      (won = true ↔ ∃ first, MaximalLine (Stone room.board color) first dir 5 ∧
        Through first dir 5 cell) := by
  obtain ⟨first, length, won, line, through, answer, wonIff⟩ := room.five_measures unit stone
  refine ⟨won, answer, wonIff.trans ⟨?_, ?_⟩⟩
  · rintro rfl
    exact ⟨first, line, through⟩
  · rintro ⟨other, otherLine, otherThrough⟩
    exact (line.unique_of_through otherLine through otherThrough).2

/-- A line of five walked in direction `-dir` is one walked in direction `dir`. -/
private theorem exists_line_neg {marked : Int × Int → Prop} {dir cell : Int × Int}
    (line : ∃ first, MaximalLine marked first dir 5 ∧ Through first dir 5 cell) :
    ∃ first, MaximalLine marked first (-dir) 5 ∧ Through first (-dir) 5 cell := by
  obtain ⟨first, maximal, through⟩ := line
  exact ⟨_, maximal.reverse, through.reverse⟩

/-- The directions `checkWin` tries. -/
def checkedDirections : List (Int × Int) := [(1, 0), (0, 1), (-1, -1), (-1, 1)]

theorem UnitStep.of_checked {dir : Int × Int} (checked : dir ∈ checkedDirections) :
    UnitStep dir := by
  simp only [checkedDirections, List.mem_cons, List.not_mem_nil, or_false] at checked
  rcases checked with rfl | rfl | rfl | rfl <;> simp [UnitStep]

/-- Up to the sense in which a line is walked, `checkWin` tries every direction. -/
private theorem exists_checked_iff (marked : Int × Int → Prop) (cell : Int × Int) :
    (∃ dir ∈ checkedDirections, ∃ first,
        MaximalLine marked first dir 5 ∧ Through first dir 5 cell) ↔
      ∃ dir ∈ lineDirections, ∃ first,
        MaximalLine marked first dir 5 ∧ Through first dir 5 cell := by
  have falling : (∃ first, MaximalLine marked first (-1, -1) 5 ∧ Through first (-1, -1) 5 cell) ↔
      ∃ first, MaximalLine marked first (1, 1) 5 ∧ Through first (1, 1) 5 cell :=
    ⟨fun line => by simpa using exists_line_neg line,
      fun line => by simpa using exists_line_neg line⟩
  have rising : (∃ first, MaximalLine marked first (-1, 1) 5 ∧ Through first (-1, 1) 5 cell) ↔
      ∃ first, MaximalLine marked first (1, -1) 5 ∧ Through first (1, -1) 5 cell :=
    ⟨fun line => by simpa using exists_line_neg line,
      fun line => by simpa using exists_line_neg line⟩
  simp only [checkedDirections, lineDirections, List.mem_cons, List.not_mem_nil, or_false,
    exists_eq_or_imp, exists_eq_left, falling, rising]

/-- `checkWin` returns, and it answers whether the stone lies on a maximal line of length five in
one of the directions it tries. -/
theorem checkWin_tries (room : GameRoomInfo) {color : Int} {cell : Int × Int}
    (stone : Stone room.board color cell) :
    ∃ won, room.checkWin cell.1 cell.2 color = .ok won ∧
      (won = true ↔ ∃ dir ∈ checkedDirections, ∃ first,
        MaximalLine (Stone room.board color) first dir 5 ∧ Through first dir 5 cell) := by
  have fiveOf := fun dir (checked : dir ∈ checkedDirections) =>
    five_spec room (UnitStep.of_checked checked) stone
  obtain ⟨vertical, verticalEq, verticalIff⟩ := fiveOf (1, 0) (by simp [checkedDirections])
  obtain ⟨horizontal, horizontalEq, horizontalIff⟩ := fiveOf (0, 1) (by simp [checkedDirections])
  obtain ⟨falling, fallingEq, fallingIff⟩ := fiveOf (-1, -1) (by simp [checkedDirections])
  obtain ⟨rising, risingEq, risingIff⟩ := fiveOf (-1, 1) (by simp [checkedDirections])
  have answer : room.checkWin cell.1 cell.2 color =
      .ok (vertical || horizontal || falling || rising) := by
    unfold checkWin
    simp only at verticalEq horizontalEq fallingEq risingEq
    rw [verticalEq, horizontalEq, fallingEq, risingEq]
    cases vertical <;> cases horizontal <;> cases falling <;> rfl
  refine ⟨_, answer, ?_⟩
  simp only [checkedDirections, List.mem_cons, List.not_mem_nil, or_false, exists_eq_or_imp,
    exists_eq_left, ← verticalIff, ← horizontalIff, ← fallingIff, ← risingIff, Bool.or_eq_true,
    or_assoc]

/-- In other words, whether the stone lies on a line of exactly five. -/
theorem checkWin_spec (room : GameRoomInfo) {color : Int} {cell : Int × Int}
    (stone : Stone room.board color cell) :
    ∃ won, room.checkWin cell.1 cell.2 color = .ok won ∧
      (won = true ↔ ∃ first dir, FiveLine room.board color first dir ∧
        Through first dir 5 cell) := by
  obtain ⟨won, answer, tried⟩ := room.checkWin_tries stone
  rw [exists_checked_iff] at tried
  refine ⟨won, answer, tried.trans ⟨?_, ?_⟩⟩
  · rintro ⟨dir, straight, first, line, through⟩
    exact ⟨first, dir, ⟨straight, line⟩, through⟩
  · rintro ⟨first, dir, ⟨straight, line⟩, through⟩
    exact ⟨dir, straight, first, line, through⟩

/-- `handleChess` on a cell of the board: the stone is put down, nothing else changes, and the
answer is whether the stone lies on a line of exactly five. -/
theorem handleChess_spec (room : GameRoomInfo) {x y : Int} (userId : UserId)
    (inBoard : InBoard x y) :
    ∃ board won, room.board.write x y (room.chessOf userId) = .ok board ∧
      room.handleChess x y userId = .ok ({ room with board := board }, won) ∧
      (won = true ↔ ∃ first dir, FiveLine board (room.chessOf userId) first dir ∧
        Through first dir 5 (x, y)) := by
  obtain ⟨board, written⟩ := (room.board.exists_write_iff x y (room.chessOf userId)).mpr inBoard
  have stone : Stone board (room.chessOf userId) (x, y) := by
    simp [Stone, Board.read_write written]
  obtain ⟨won, checked, wonIff⟩ := checkWin_spec { room with board := board } stone
  refine ⟨board, won, written, ?_, wonIff⟩
  simp only [handleChess, written, ok_bind, checked, pure_eq_ok]

/-- Off the board `handleChess` indexes outside `_board`. -/
theorem handleChess_outOfBoard (room : GameRoomInfo) {x y : Int} (userId : UserId)
    (outside : ¬ InBoard x y) : room.handleChess x y userId = .error .outOfBounds := by
  simp [handleChess, Board.write, outside]

/-- A position is valid when it is on the board and carries no stone. -/
theorem isValidPosition_iff (room : GameRoomInfo) (x y : Int) :
    room.isValidPosition x y = true ↔ Stone room.board 0 (x, y) := by
  unfold isValidPosition Stone
  cases room.board.read x y <;> simp

/-- A stone of the user on the named cell of the room lies on a maximal line of exactly five of its
colour. -/
def MakesFive (room : GameRoomInfo) (x y : Int) (userId : UserId) : Prop :=
  ∃ board first dir, room.board.write x y (room.chessOf userId) = .ok board ∧
    FiveLine board (room.chessOf userId) first dir ∧ Through first dir 5 (x, y)

theorem chessOf_eq (room : GameRoomInfo) (userId : UserId) :
    room.chessOf userId = whiteChess ∨ room.chessOf userId = blackChess := by
  unfold chessOf
  split <;> simp

end GameRoomInfo

end GomukuServer.Model
