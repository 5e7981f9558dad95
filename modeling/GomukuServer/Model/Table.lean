/-
Module: GomukuServer.Model.Table
Layer: Model
Purpose: What a room is for: two players at a board, who put stones down and talk to each other.
  There are no users, connections or other rooms here.  A stone may be put down at any time and on
  any cell of the board; it is told to the opponent, or, if it makes a line of five, to both.
Trusted boundary: none; this is the abstract level
Main exports: Side, TableMessage, Table, TableEvent, Table.step, step_move, step_since
-/
import GomukuServer.Model.GameRoomInfo

namespace GomukuServer.Model

open Base Lines

/-- The two sides of a table. -/
inductive Side where
  | white
  | black
deriving DecidableEq, Repr

namespace Side

/-- The opponent. -/
def other : Side → Side
  | white => black
  | black => white

/-- The stones of a side. -/
def chess : Side → Int
  | white => whiteChess
  | black => blackChess

@[simp] theorem other_other (side : Side) : side.other.other = side := by
  cases side <;> rfl

theorem other_ne (side : Side) : side.other ≠ side := by
  cases side <;> decide

/-- A statement about both sides. -/
theorem forall_iff {P : Side → Prop} (who : Side) : (∀ side, P side) ↔ P who ∧ P who.other := by
  constructor
  · exact fun all => ⟨all who, all who.other⟩
  · rintro ⟨mine, theirs⟩ side
    cases who <;> cases side <;> assumption

theorem eq_or_eq_other (who side : Side) : side = who ∨ side = who.other := by
  cases who <;> cases side <;> simp [other]

instance {P : Side → Prop} [DecidablePred P] : Decidable (∀ side, P side) :=
  decidable_of_iff (P white ∧ P white.other) (forall_iff white).symm

end Side

/-- What a player is told. -/
inductive TableMessage where
  /-- A line of chat from the opponent. -/
  | line (text : String)
  /-- A stone of the opponent that does not end the game. -/
  | move (x y : Int)
  /-- The stone that has made a line of five. -/
  | result (x y : Int) (win : Bool)
deriving DecidableEq, Repr

/-- The board, and what each player has been told. -/
structure Table where
  board : Board
  heard : Side → List TableMessage

/-- What the players do. -/
inductive TableEvent where
  | line (who : Side) (text : String)
  | move (who : Side) (x y : Int)
deriving DecidableEq, Repr

namespace Table

/-- A table at which nobody has been told anything yet. -/
def new (board : Board) : Table := ⟨board, fun _ => []⟩

/-- The table, with what has been heard before put in front. -/
def since (past : Side → List TableMessage) (table : Table) : Table :=
  { table with heard := fun side => past side ++ table.heard side }

/-- Tell a player something. -/
def tell (table : Table) (who : Side) (message : TableMessage) : Table :=
  { table with
    heard := fun side => table.heard side ++ if side = who then [message] else [] }

theorem since_tell (past : Side → List TableMessage) (table : Table) (who : Side)
    (message : TableMessage) :
    (table.since past).tell who message = (table.tell who message).since past := by
  simp [since, tell, List.append_assoc]

/-- The cell is on a line of exactly five stones of this kind. -/
def OnFive (board : Board) (chess x y : Int) : Prop :=
  ∃ first dir, FiveLine board chess first dir ∧ Through first dir 5 (x, y)

open Classical in
/-- A player does something. -/
noncomputable def step (table : Table) : TableEvent → Except Fault Table
  | .line who text => .ok (table.tell who.other (.line text))
  | .move who x y => do
      let board ← table.board.write x y who.chess
      let table := { table with board := board }
      if OnFive board who.chess x y then
        pure ((table.tell who (.result x y true)).tell who.other (.result x y false))
      else pure (table.tell who.other (.move x y))

/-- A stone that has been put down. -/
theorem step_move {table : Table} {who : Side} {x y : Int} {board : Board}
    (written : table.board.write x y who.chess = .ok board) {won : Bool}
    (wonIff : won = true ↔ OnFive board who.chess x y) :
    table.step (.move who x y) = .ok (if won then
      ({ table with board := board }.tell who (.result x y true)).tell who.other
        (.result x y false)
      else { table with board := board }.tell who.other (.move x y)) := by
  simp only [step, written, ok_bind, ← wonIff]
  split <;> rfl

/-- What has been heard before makes no difference. -/
theorem step_since (past : Side → List TableMessage) (table : Table) (event : TableEvent) :
    (table.since past).step event = (table.step event).map (since past) := by
  cases event with
  | line who text => simp [step, since_tell, Except.map]
  | move who x y =>
      cases written : table.board.write x y who.chess with
      | error fault =>
          have late : (table.since past).board.write x y who.chess = .error fault := written
          simp only [step, written, late]
          rfl
      | ok board =>
          have late : (table.since past).board.write x y who.chess = .ok board := written
          obtain ⟨won, wonIff⟩ : ∃ won : Bool, won = true ↔ OnFive board who.chess x y := by
            classical exact ⟨decide _, decide_eq_true_iff⟩
          have moved : ({ table.since past with board := board } : Table) =
              ({ table with board := board } : Table).since past := rfl
          rw [step_move written wonIff, step_move late wonIff, moved]
          cases won <;> simp [since_tell, Except.map]

@[simp] theorem board_tell (table : Table) (who : Side) (message : TableMessage) :
    (table.tell who message).board = table.board := rfl

@[simp] theorem heard_tell (table : Table) (who side : Side) (message : TableMessage) :
    (table.tell who message).heard side =
      table.heard side ++ if side = who then [message] else [] := rfl

end Table

end GomukuServer.Model
