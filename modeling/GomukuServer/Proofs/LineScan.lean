/-
Module: GomukuServer.Proofs.LineScan
Layer: Proofs
Purpose: What the scan of `five` computes on any board at all, legal or not: it measures the run of
  cells of one colour through a cell, so it gives one answer for all cells of a run.
Trusted boundary: none
Main exports: RunThrough, line_scan_exact
-/
import GomukuServer.Model.GameRoomInfo

namespace GomukuServer.Proofs.LineScan

open Base Base.Lines Model Model.GameRoomInfo

/-- A run of `length` consecutive cells of one colour, with no more of them at its ends, and the
cell is one of them. -/
structure RunThrough (board : Board) (color : Int) (dir cell first : Int × Int) (length : Nat) :
    Prop where
  line : MaximalLine (Stone board color) first dir length
  through : Through first dir length cell

variable {room : GameRoomInfo} {board : Board} {color : Int} {dir cell first : Int × Int}
  {length : Nat}

/-- There is one run through a cell in each direction. -/
theorem RunThrough.unique {other : Int × Int} {otherLength : Nat}
    (run : RunThrough board color dir cell first length)
    (otherRun : RunThrough board color dir cell other otherLength) :
    other = first ∧ otherLength = length :=
  otherRun.line.unique_of_through run.line otherRun.through run.through

/-- The run is the run through each of its cells. -/
theorem RunThrough.at_cell (run : RunThrough board color dir cell first length)
    {played : Int × Int} (inside : Through first dir length played) :
    RunThrough board color dir played first length := ⟨run.line, inside⟩

/-- Its cells carry the colour. -/
theorem RunThrough.stone (run : RunThrough board color dir cell first length) :
    Stone board color cell := by
  obtain ⟨place, inside, rfl⟩ := run.through
  exact run.line.cells place inside

/-- `five` returns whether the run has length five. -/
theorem five_of_run (unit : UnitStep dir)
    (run : RunThrough room.board color dir cell first length) :
    room.five cell.1 cell.2 dir.1 dir.2 color = .ok (decide (length = 5)) := by
  obtain ⟨other, measured, won, line, through, answer, wonIff⟩ :=
    room.five_measures unit run.stone
  obtain ⟨rfl, rfl⟩ := run.unique ⟨line, through⟩
  have same : won = decide (measured = 5) := by
    rw [Bool.eq_iff_iff, wonIff, decide_eq_true_iff]
  rw [answer, same]

/-- `checkWin` returns whether the run has length five in some direction. -/
theorem checkWin_iff (stone : Stone room.board color cell) :
    ∃ won, room.checkWin cell.1 cell.2 color = .ok won ∧
      (won = true ↔ ∃ dir ∈ checkedDirections, ∃ first,
        RunThrough room.board color dir cell first 5) := by
  obtain ⟨won, answer, tried⟩ := room.checkWin_tries stone
  refine ⟨won, answer, tried.trans ⟨?_, ?_⟩⟩
  · rintro ⟨dir, checked, first, line, through⟩
    exact ⟨dir, checked, first, line, through⟩
  · rintro ⟨dir, checked, first, run⟩
    exact ⟨dir, checked, first, run.line, run.through⟩

/-- On every board and for every cell with its colour: in each of the four directions there is one
run through the cell, and `five` returns whether its length is five, whichever cell of the run was
played; `checkWin` returns whether there is a run of five in some direction, and returns true for
every other cell of such a run as well. -/
theorem line_scan_exact (room : GameRoomInfo) {color : Int} {cell : Int × Int}
    (stone : Stone room.board color cell) :
    (∀ dir ∈ checkedDirections, ∃ first length,
      RunThrough room.board color dir cell first length ∧
      (∀ other otherLength, RunThrough room.board color dir cell other otherLength →
        other = first ∧ otherLength = length) ∧
      ∀ played, Through first dir length played →
        room.five played.1 played.2 dir.1 dir.2 color = .ok (decide (length = 5))) ∧
    ∃ won, room.checkWin cell.1 cell.2 color = .ok won ∧
      (won = true ↔ ∃ dir ∈ checkedDirections, ∃ first,
        RunThrough room.board color dir cell first 5) ∧
      ∀ dir ∈ checkedDirections, ∀ first, RunThrough room.board color dir cell first 5 →
        ∀ played, Through first dir 5 played →
          room.checkWin played.1 played.2 color = .ok true := by
  constructor
  · intro dir checked
    have unit := UnitStep.of_checked checked
    obtain ⟨first, length, _, line, through, _⟩ := room.five_measures unit stone
    have run : RunThrough room.board color dir cell first length := ⟨line, through⟩
    exact ⟨first, length, run, fun other otherLength => run.unique,
      fun played inside => five_of_run unit (run.at_cell inside)⟩
  · obtain ⟨won, answer, wonIff⟩ := checkWin_iff stone
    refine ⟨won, answer, wonIff, fun dir checked first run played inside => ?_⟩
    have there := run.at_cell inside
    obtain ⟨wins, answerThere, winsIff⟩ := checkWin_iff there.stone
    rw [answerThere, winsIff.mpr ⟨dir, checked, first, there⟩]

/-- A board whose last row carries five stones of one colour up to the corner, and more of them
beyond a gap. -/
def cornerRoom : GameRoomInfo where
  state := .start
  roomCount := 2
  roomId := 1
  whiteId := 1
  blackId := 2
  board := Board.new.set 14 (Vector.replicate 15 1 |>.set 9 0)

/-- The stone in the corner wins, and so does every other one of the five. -/
theorem line_scan_exact_corner :
    (∃ first length, RunThrough cornerRoom.board 1 (0, 1) (14, 14) first length ∧
      ∀ played, Through first (0, 1) length played →
        cornerRoom.five played.1 played.2 0 1 1 = .ok (decide (length = 5))) ∧
    cornerRoom.checkWin 14 14 1 = .ok true ∧
      ∃ dir ∈ checkedDirections, ∃ first, RunThrough cornerRoom.board 1 dir (14, 14) first 5 ∧
        ∀ played, Through first dir 5 played →
          cornerRoom.checkWin played.1 played.2 1 = .ok true := by
  have stone : Stone cornerRoom.board 1 (14, 14) := by
    unfold Stone
    decide +kernel
  obtain ⟨lines, won, answer, wonIff, everywhere⟩ := line_scan_exact cornerRoom stone
  obtain ⟨first, length, run, _, measured⟩ := lines (0, 1) (by decide)
  have wins : (cornerRoom.checkWin 14 14 1).toOption = some true := by decide +kernel
  rw [answer] at wins
  obtain rfl : won = true := Option.some.inj wins
  obtain ⟨dir, checked, start, five⟩ := wonIff.mp rfl
  exact ⟨⟨first, length, run, measured⟩, answer, dir, checked, start, five,
    everywhere dir checked start five⟩

end GomukuServer.Proofs.LineScan
