/-
Module: GomukuServer.Model.FairGame
Layer: Model
Purpose: The game that the two at a table mean to play: white begins, they take turns, a stone goes
  to a free cell and stays there, and a line of five ends the game.  A room asks for none of this;
  here is also a player who does, with nothing to go by but the messages it gets.
Trusted boundary: none; the clients are not in the repository
Main exports: Legal, Player, Player.move, Player.hear, Phase, Phase.move, Phase.serve, Phase.hear
-/
import GomukuServer.Model.Table
import Mathlib.Logic.Function.Basic

namespace GomukuServer.Model

open Base

/-! ### The rules -/

/-- The positions that can come up, with the side that is to move while the game goes on. -/
inductive Legal : Board → Option Side → Prop
  | start : Legal Board.new (some .white)
  | move {board after : Board} {who : Side} {x y : Int} (before : Legal board (some who))
      (free : board.read x y = .ok 0) (written : board.write x y who.chess = .ok after)
      (goesOn : ¬ Table.OnFive after who.chess x y) : Legal after (some who.other)
  | win {board after : Board} {who : Side} {x y : Int} (before : Legal board (some who))
      (free : board.read x y = .ok 0) (written : board.write x y who.chess = .ok after)
      (five : Table.OnFive after who.chess x y) : Legal after none

/-! ### A player -/

/-- A player's own board, and whether it is its turn. -/
structure Player where
  board : Board
  turn : Bool
deriving DecidableEq

namespace Player

/-- A player whose game begins. -/
def new (side : Side) : Player := ⟨Board.new, decide (side = .white)⟩

/-- Put a stone down, in its turn and on a cell that is free on its board. -/
def move (player : Player) (side : Side) (x y : Int) : Option Player :=
  match player.board.read x y, player.board.write x y side.chess with
  | .ok 0, .ok board => if player.turn then some ⟨board, false⟩ else none
  | _, _ => none

/-- A stone that the player is told of. -/
def put (board : Board) (x y chess : Int) : Board :=
  match board.write x y chess with
  | .ok after => after
  | .error _ => board

/-- What the player makes of a message: after a move of its opponent it is its turn, and after the
result nobody moves. -/
def hear (player : Player) (side : Side) : TableMessage → Player
  | .line _ => player
  | .move x y => ⟨put player.board x y side.other.chess, true⟩
  | .result x y win =>
      ⟨put player.board x y (if win then side.chess else side.other.chess), false⟩

theorem put_of_write {board after : Board} {x y chess : Int}
    (written : board.write x y chess = .ok after) : put board x y chess = after := by
  rw [put, written]

theorem move_eq_some {player after : Player} {side : Side} {x y : Int}
    (moved : player.move side x y = some after) :
    player.turn = true ∧ player.board.read x y = .ok 0 ∧
      ∃ board, player.board.write x y side.chess = .ok board ∧ after = ⟨board, false⟩ := by
  unfold move at moved
  split at moved
  · rename_i board free written
    split at moved
    · rename_i turn
      exact ⟨turn, free, board, written, (Option.some.inj moved).symm⟩
    · cases moved
  · cases moved

end Player

/-! ### A game with its messages -/

/-- The messages that tell of a stone. -/
def stones (mail : List TableMessage) : List TableMessage :=
  mail.filter fun
    | .line _ => false
    | .move _ _ | .result _ _ _ => true

@[simp] theorem stones_append (first second : List TableMessage) :
    stones (first ++ second) = stones first ++ stones second := List.filter_append ..

/-- Where a game is, with the stones that are on their way: as requests to the server, or as
messages to the players. -/
inductive Phase (board : Board) (players : Side → Player) (requests : Side → List (Int × Int))
    (moves : Side → List TableMessage) : Option Side → Prop
  /-- A player thinks, and nothing is on its way. -/
  | thinking (who : Side) (mine : players who = ⟨board, true⟩)
      (theirs : players who.other = ⟨board, false⟩) (asked : ∀ side, requests side = [])
      (told : ∀ side, moves side = []) : Phase board players requests moves (some who)
  /-- It has put a stone down, which the server has not seen yet. -/
  | asking (who : Side) (x y : Int) {after : Board} (free : board.read x y = .ok 0)
      (written : board.write x y who.chess = .ok after) (mine : players who = ⟨after, false⟩)
      (theirs : players who.other = ⟨board, false⟩) (asked : requests who = [(x, y)])
      (quiet : requests who.other = []) (told : ∀ side, moves side = []) :
      Phase board players requests moves (some who)
  /-- The opponent has not heard of the stone yet. -/
  | telling (who : Side) (x y : Int) {before : Board}
      (written : before.write x y who.chess = .ok board) (mine : players who = ⟨board, false⟩)
      (theirs : players who.other = ⟨before, false⟩) (asked : ∀ side, requests side = [])
      (quiet : moves who = []) (told : moves who.other = [.move x y]) :
      Phase board players requests moves (some who.other)
  /-- The stone has won, and one of them or both have to hear of it. -/
  | ending (who : Side) (x y : Int) {before : Board}
      (written : before.write x y who.chess = .ok board) (mine : players who = ⟨board, false⟩)
      (asked : ∀ side, requests side = []) (told : moves who = [] ∨ moves who = [.result x y true])
      (theirs : moves who.other = [] ∧ players who.other = ⟨board, false⟩ ∨
        moves who.other = [.result x y false] ∧ players who.other = ⟨before, false⟩) :
      Phase board players requests moves none

variable {board : Board} {players : Side → Player} {requests : Side → List (Int × Int)}
  {moves : Side → List TableMessage} {turn : Option Side}

/-- Only the player whose turn it is thinks so. -/
theorem Phase.turn_eq (phase : Phase board players requests moves turn) {side : Side}
    (thinks : (players side).turn = true) : turn = some side := by
  cases phase with
  | thinking who mine theirs =>
      rcases Side.eq_or_eq_other who side with rfl | rfl
      · rfl
      · simp [theirs] at thinks
  | asking who x y free written mine theirs
  | telling who x y written mine theirs =>
      rcases Side.eq_or_eq_other who side with rfl | rfl
      · simp [mine] at thinks
      · simp [theirs] at thinks
  | ending who x y written mine asked told theirs =>
      rcases Side.eq_or_eq_other who side with rfl | rfl
      · simp [mine] at thinks
      · rcases theirs with ⟨_, theirs⟩ | ⟨_, theirs⟩ <;> simp [theirs] at thinks

/-- With nothing on its way, both have the board. -/
theorem Phase.boards_eq (phase : Phase board players requests moves turn)
    (asked : ∀ side, requests side = []) (told : ∀ side, moves side = []) (side : Side) :
    (players side).board = board := by
  cases phase with
  | thinking who mine theirs =>
      rcases Side.eq_or_eq_other who side with rfl | rfl
      · rw [mine]
      · rw [theirs]
  | asking who x y free written mine theirs pending =>
      rw [asked] at pending
      cases pending
  | telling who x y written mine theirs pending quiet news =>
      rw [told] at news
      cases news
  | ending who x y written mine pending heard theirs =>
      rcases Side.eq_or_eq_other who side with rfl | rfl
      · rw [mine]
      · rcases theirs with ⟨_, theirs⟩ | ⟨news, _⟩
        · rw [theirs]
        · rw [told] at news
          cases news

/-- A player moves. -/
theorem Phase.move (phase : Phase board players requests moves turn) {who : Side} {x y : Int}
    {player : Player} (moved : (players who).move who x y = some player) :
    Phase board (Function.update players who player)
      (Function.update requests who (requests who ++ [(x, y)])) moves turn := by
  obtain ⟨thinks, free, after, written, rfl⟩ := Player.move_eq_some moved
  cases phase with
  | thinking mover mine theirs asked told =>
      rcases Side.eq_or_eq_other mover who with rfl | rfl
      · rw [mine] at free written
        refine .asking who x y free written (by simp) ?_ (by simp [asked]) ?_ told
        · rw [Function.update_of_ne who.other_ne, theirs]
        · rw [Function.update_of_ne who.other_ne, asked]
      · simp [theirs] at thinks
  | asking mover _ _ _ _ mine theirs
  | telling mover _ _ _ mine theirs =>
      rcases Side.eq_or_eq_other mover who with rfl | rfl
      · simp [mine] at thinks
      · simp [theirs] at thinks
  | ending mover _ _ _ mine _ _ theirs =>
      rcases Side.eq_or_eq_other mover who with rfl | rfl
      · simp [mine] at thinks
      · rcases theirs with ⟨_, theirs⟩ | ⟨_, theirs⟩ <;> simp [theirs] at thinks

/-- A request that comes to the server is for a free cell, and its sender is to move. -/
theorem Phase.asked (phase : Phase board players requests moves turn) {who : Side} {x y : Int}
    {rest : List (Int × Int)} (request : requests who = (x, y) :: rest) :
    turn = some who ∧ board.read x y = .ok 0 ∧
      ∃ after, board.write x y who.chess = .ok after ∧
        players who = ⟨after, false⟩ ∧ players who.other = ⟨board, false⟩ ∧ rest = [] ∧
        requests who.other = [] ∧ ∀ side, moves side = [] := by
  cases phase with
  | thinking _ _ _ asked => simp [asked] at request
  | telling _ _ _ _ _ _ asked => simp [asked] at request
  | ending _ _ _ _ _ asked => simp [asked] at request
  | asking mover x' y' free written mine theirs asked quiet told =>
      rcases Side.eq_or_eq_other mover who with rfl | rfl
      · obtain ⟨same, rfl⟩ := List.cons.inj (request.symm.trans asked)
        obtain ⟨rfl, rfl⟩ := Prod.mk.inj same
        exact ⟨rfl, free, _, written, mine, theirs, rfl, quiet, told⟩
      · simp [quiet] at request

/-- The server puts down the stone it is asked for, and tells of it. -/
theorem Phase.serve (phase : Phase board players requests moves turn) (legal : Legal board turn)
    {who : Side} {x y : Int} {rest : List (Int × Int)} (request : requests who = (x, y) :: rest)
    {final : Table} (stepped : (Table.new board).step (.move who x y) = .ok final) :
    ∃ next, Legal final.board next ∧
      Phase final.board players (Function.update requests who rest)
        (fun side => moves side ++ stones (final.heard side)) next := by
  obtain ⟨rfl, free, after, written, mine, theirs, rfl, quiet, told⟩ := phase.asked request
  have none : ∀ side, Function.update requests who [] side = [] :=
    (Side.forall_iff who).mpr ⟨by simp, by rw [Function.update_of_ne who.other_ne, quiet]⟩
  by_cases five : Table.OnFive after who.chess x y
  · have won : true = true ↔ Table.OnFive after who.chess x y := iff_of_true rfl five
    rw [Table.step_move written won] at stepped
    obtain rfl := Except.ok.inj stepped
    refine ⟨_, .win legal free written five, .ending who x y written mine none (.inr ?_)
      (.inr ⟨?_, theirs⟩)⟩
    · simp [told, Table.new, stones, who.other_ne.symm]
    · simp [told, Table.new, stones, who.other_ne]
  · have goesOn : false = true ↔ Table.OnFive after who.chess x y := iff_of_false nofun five
    rw [Table.step_move written goesOn] at stepped
    obtain rfl := Except.ok.inj stepped
    refine ⟨_, .move legal free written five, .telling who x y written mine theirs none ?_ ?_⟩
    · simp [told, Table.new, stones, who.other_ne.symm]
    · simp [told, Table.new, stones]

/-- No player has more than one stone to hear of. -/
theorem Phase.told_eq (phase : Phase board players requests moves turn) {who : Side}
    {message : TableMessage} {rest : List TableMessage} (told : moves who = message :: rest) :
    rest = [] := by
  cases phase with
  | thinking _ _ _ _ none => simp [none] at told
  | asking _ _ _ _ _ _ _ _ _ none => simp [none] at told
  | telling mover _ _ _ _ _ _ quiet news =>
      rcases Side.eq_or_eq_other mover who with rfl | rfl
      · simp [quiet] at told
      · exact (List.cons.inj (news.symm.trans told)).2.symm
  | ending mover _ _ _ _ _ mineTold theirs =>
      rcases Side.eq_or_eq_other mover who with rfl | rfl
      · obtain none | news := mineTold
        · simp [none] at told
        · exact (List.cons.inj (news.symm.trans told)).2.symm
      · obtain ⟨none, _⟩ | ⟨news, _⟩ := theirs
        · simp [none] at told
        · exact (List.cons.inj (news.symm.trans told)).2.symm

/-- A player hears of a stone. -/
theorem Phase.hear (phase : Phase board players requests moves turn) {who : Side}
    {message : TableMessage} (told : moves who = [message]) :
    Phase board (Function.update players who ((players who).hear who message)) requests
      (Function.update moves who []) turn := by
  cases phase with
  | thinking _ _ _ _ none => simp [none] at told
  | asking _ _ _ _ _ _ _ _ _ none => simp [none] at told
  | telling mover x y written mine theirs asked quiet news =>
      rcases Side.eq_or_eq_other mover who with rfl | rfl
      · simp [quiet] at told
      · obtain rfl := (List.cons.inj (news.symm.trans told)).1
        refine .thinking mover.other ?_ ?_ asked ((Side.forall_iff mover).mpr ⟨?_, by simp⟩)
        · rw [Function.update_self, theirs, Player.hear, Side.other_other,
            Player.put_of_write written]
        · rw [Side.other_other, Function.update_of_ne mover.other_ne.symm, mine]
        · rw [Function.update_of_ne mover.other_ne.symm, quiet]
  | ending mover x y written mine asked mineTold theirs =>
      have again : board.write x y mover.chess = .ok board :=
        Board.write_of_read (by rw [Board.read_write written, if_pos ⟨rfl, rfl⟩])
      rcases Side.eq_or_eq_other mover who with rfl | rfl
      · obtain none | news := mineTold
        · simp [none] at told
        · obtain rfl := (List.cons.inj (news.symm.trans told)).1
          refine .ending who x y written ?_ asked (.inl (by simp)) ?_
          · rw [Function.update_self, mine, Player.hear, if_pos rfl, Player.put_of_write again]
          · rwa [Function.update_of_ne who.other_ne, Function.update_of_ne who.other_ne]
      · obtain ⟨none, _⟩ | ⟨news, theirs⟩ := theirs
        · simp [none] at told
        · obtain rfl := (List.cons.inj (news.symm.trans told)).1
          refine .ending mover x y written ?_ asked ?_ (.inl ⟨by simp, ?_⟩)
          · rw [Function.update_of_ne mover.other_ne.symm, mine]
          · rwa [Function.update_of_ne mover.other_ne.symm]
          · rw [Function.update_self, theirs, Player.hear, if_neg (by decide), Side.other_other,
              Player.put_of_write written]

/-- A player takes in the first of its messages. -/
theorem Phase.hear_first {mail : Side → List TableMessage}
    (phase : Phase board players requests (fun side => stones (mail side)) turn) {who : Side}
    {message : TableMessage} {rest : List TableMessage} (first : mail who = message :: rest) :
    Phase board (Function.update players who ((players who).hear who message)) requests
      (fun side => stones (Function.update mail who rest side)) turn := by
  have updated : (fun side => stones (Function.update mail who rest side)) =
      Function.update (fun side => stones (mail side)) who (stones rest) := by
    funext side
    by_cases same : side = who
    · subst same
      simp
    · simp [same]
  rw [updated]
  cases message with
  | line text =>
      have same : stones rest = stones (mail who) := by
        rw [first]
        rfl
      rw [same, Player.hear]
      simpa using phase
  | move | result =>
      have told := congrArg stones first
      have none : stones rest = [] := phase.told_eq told
      rw [none]
      exact phase.hear (told.trans (congrArg _ none))

end GomukuServer.Model
