/-
Module: GomukuServer.Proofs.Settlement
Layer: Proofs
Purpose: How often a room is settled.  A room has a state `OVER`, but no code path sets it or looks
  at it, so every move that makes a line of five is settled again.  Nothing is settled twice exactly
  as long as no move after the first winning one makes a line.
Trusted boundary: none
Main exports: Game, GameMove, step, FromRoom, Calm, SettledOnce, settledOnce_always,
  not_settledOnce_winning_cell_again
-/
import GomukuServer.Module.GameServer

namespace GomukuServer.Proofs.Settlement

open Base Base.Lines Base.Runs Model Manager Db Net
open GomukuServer.Module

/-- A `CHESS_DOWN_REQ`, and how the two updates would go. -/
structure GameMove where
  conn : ConnId
  req : Json.Value
  winOutcome : DbOutcome
  loseOutcome : DbOutcome

/-- The server, the number of moves for which `handleChess` has returned true, and the server right
after the first of them. -/
structure Game where
  server : Server
  wins : Nat
  settled : Option Server

namespace GameMove

/-- The user a move comes from. -/
def sender (move : GameMove) (server : Server) : UserId :=
  server.users.getUserIdByConn move.conn

/-- What `handleChess` returns for the move; false if it does not return. -/
def wins (move : GameMove) (server : Server) : Bool :=
  match Server.moveOf move.req with
  | .ok (x, y) =>
      match server.rooms.handChess x y (move.sender server) with
      | .ok (_, ret) => ret
      | .error _ => false
  | .error _ => false

end GameMove

/-- Execute one `CHESS_DOWN_REQ`. -/
def step (game : Game) (move : GameMove) : Except Fault Game := do
  let next ← game.server.onChess move.conn move.req move.winOutcome move.loseOutcome
  pure (if move.wins game.server then
    { server := next, wins := game.wins + 1, settled := game.settled.or (some next) }
  else { game with server := next })

/-- A new room for two users, on any server. -/
def Game.start (server : Server) (roomCount : UInt32) (whiteId blackId : UserId) : Game where
  server := { server with rooms := server.rooms.createRoom roomCount whiteId blackId }
  wins := 0
  settled := none

/-- The move comes from one of the two users of the room. -/
def FromRoom (whiteId blackId : UserId) (game : Game) (move : GameMove) : Prop :=
  move.sender game.server = whiteId ∨ move.sender game.server = blackId

instance (whiteId blackId : UserId) (game : Game) (move : GameMove) :
    Decidable (FromRoom whiteId blackId game move) :=
  inferInstanceAs (Decidable (_ ∨ _))

/-- Once a move has won, no further move makes a line of five in the room `ref`. -/
def Calm (ref : Ref) (game : Game) (move : GameMove) : Prop :=
  0 < game.wins → ∀ room x y, game.server.rooms.rooms.deref ref = some room →
    Server.moveOf move.req = .ok (x, y) → ¬ room.MakesFive x y (move.sender game.server)

/-- There has been at most one winning move, and since then neither the users in memory nor the
database have changed. -/
structure SettledOnce (game : Game) : Prop where
  once : game.wins ≤ 1
  unchanged : ∀ after, game.settled = some after →
    game.server.users = after.users ∧ game.server.db = after.db

/-- `SettledOnce` with what the induction needs: the two users stay in the room, and the server
after the first win is on record exactly if there was one. -/
structure Played (ref : Ref) (whiteId blackId : UserId) (game : Game) : Prop where
  settledOnce : SettledOnce game
  recorded : game.settled.isSome = true ↔ 0 < game.wins
  white : game.server.rooms.userId2Room.find? whiteId = some ref
  black : game.server.rooms.userId2Room.find? blackId = some ref

/-- A new room has been won by nobody. -/
theorem played_start (server : Server) (roomCount : UInt32) (whiteId blackId : UserId) :
    Played server.rooms.rooms.next whiteId blackId
      (Game.start server roomCount whiteId blackId) where
  settledOnce := ⟨by simp [Game.start], by simp [Game.start]⟩
  recorded := by simp [Game.start]
  white := by
    simp only [Game.start, GameRoomManager.createRoom, PMap.find?_insert]
    split <;> simp
  black := by simp [Game.start, GameRoomManager.createRoom]

/-- A move by a user of the room: the tables stay, and unless it wins nothing is settled. -/
theorem onChess_settles {ref : Ref} {room : GameRoomInfo} {game : Game} {move : GameMove}
    {after : Server}
    (seated : game.server.rooms.userId2Room.find? (move.sender game.server) = some ref)
    (held : game.server.rooms.rooms.deref ref = some room)
    (called : game.server.onChess move.conn move.req move.winOutcome move.loseOutcome = .ok after) :
    after.rooms.userId2Room = game.server.rooms.userId2Room ∧
      (move.wins game.server = true ↔ ∃ x y, Server.moveOf move.req = .ok (x, y) ∧
        room.MakesFive x y (move.sender game.server)) ∧
      (move.wins game.server = false →
        after.users = game.server.users ∧ after.db = game.server.db) := by
  obtain ⟨x, y, rooms, ret, settled, more, moved, handled, settledEq, rfl, _⟩ :=
    Server.onChess_ok called
  have wins : move.wins game.server = ret := by
    simp only [GameMove.wins, moved]
    rw [show game.server.rooms.handChess x y (move.sender game.server) = .ok (rooms, ret)
      from handled]
  have tables := GameRoomManager.userId2Room_handChess handled
  refine ⟨?_, ?_, ?_⟩
  · rw [Server.afterMove_ok settledEq]
    exact tables
  · rw [wins, GameRoomManager.handChess_iff seated held handled]
    constructor
    · intro five
      exact ⟨x, y, moved, five⟩
    · rintro ⟨otherX, otherY, otherMoved, five⟩
      rw [moved, Except.ok.injEq, Prod.mk.injEq] at otherMoved
      obtain ⟨rfl, rfl⟩ := otherMoved
      exact five
  · intro lost
    rw [wins] at lost
    subst lost
    obtain rfl : settled = { game.server with rooms := rooms } := settledEq
    exact ⟨rfl, rfl⟩

/-- Whoever moves sits in the room. -/
theorem Played.seated {ref : Ref} {whiteId blackId : UserId} {game : Game} {move : GameMove}
    (played : Played ref whiteId blackId game) (fromRoom : FromRoom whiteId blackId game move) :
    game.server.rooms.userId2Room.find? (move.sender game.server) = some ref := by
  rcases fromRoom with white | black
  · rw [white]
    exact played.white
  · rw [black]
    exact played.black

/-- One calm move keeps `Played`. -/
theorem played_step {ref : Ref} {whiteId blackId : UserId} (game : Game) (move : GameMove)
    (next : Game) (played : Played ref whiteId blackId game)
    (guard : FromRoom whiteId blackId game move ∧ Calm ref game move)
    (stepEq : step game move = .ok next) : Played ref whiteId blackId next := by
  obtain ⟨fromRoom, calm⟩ := guard
  obtain ⟨after, called, built⟩ := bind_eq_ok.mp stepEq
  simp only [pure_eq_ok, Except.ok.injEq] at built
  have seated := played.seated fromRoom
  obtain ⟨room, held, _⟩ := GameRoomManager.exists_room seated
  obtain ⟨tables, winsIff, unsettled⟩ := onChess_settles seated held called
  cases won : move.wins game.server with
  | false =>
      simp only [won, Bool.false_eq_true, if_false] at built
      subst built
      obtain ⟨users, db⟩ := unsettled won
      refine ⟨⟨played.settledOnce.once, fun first recorded => ?_⟩, played.recorded, ?_, ?_⟩
      · rw [users, db]
        exact played.settledOnce.unchanged first recorded
      · exact tables ▸ played.white
      · exact tables ▸ played.black
  | true =>
      -- a winning move is the first one, because the condition excludes any other
      obtain ⟨x, y, moved, five⟩ := winsIff.mp won
      have first : game.wins = 0 := by
        by_contra later
        exact calm (Nat.pos_of_ne_zero later) room x y held moved five
      have unrecorded : game.settled = none := by
        rw [← Option.not_isSome_iff_eq_none, played.recorded]
        omega
      simp only [won, if_true, unrecorded, Option.none_or, first] at built
      subst built
      refine ⟨⟨Nat.le_refl 1, fun recorded same => ?_⟩, by simp, ?_, ?_⟩
      · obtain rfl := Option.some.inj same
        exact ⟨rfl, rfl⟩
      · exact tables ▸ played.white
      · exact tables ▸ played.black

/-- The condition leaves nothing out: a move that makes a line after the game was won, if it
returns, is settled again. -/
theorem settled_again {ref : Ref} {whiteId blackId : UserId} {game next : Game} {move : GameMove}
    (played : Played ref whiteId blackId game) (fromRoom : FromRoom whiteId blackId game move)
    (wild : ¬ Calm ref game move) (stepEq : step game move = .ok next) : ¬ SettledOnce next := by
  simp only [Calm, not_forall, not_not] at wild
  obtain ⟨won, room, x, y, held, moved, five⟩ := wild
  obtain ⟨after, called, built⟩ := bind_eq_ok.mp stepEq
  simp only [pure_eq_ok, Except.ok.injEq] at built
  have seated := played.seated fromRoom
  have again := (onChess_settles seated held called).2.1.mpr ⟨x, y, moved, five⟩
  rw [if_pos again] at built
  intro once
  have count := once.once
  rw [← built] at count
  simp only at count
  omega

/-- For every room and every sequence of moves by its two users: if no move makes a line of five
after the first one that won, then at every moment at most one move has won, and neither the users
in memory nor the database have changed since. -/
theorem settledOnce_always (server : Server) (roomCount : UInt32) (whiteId blackId : UserId)
    (moves : List GameMove)
    (fromRoom : Admissible step (FromRoom whiteId blackId)
      (Game.start server roomCount whiteId blackId) moves)
    (calm : Admissible step (Calm server.rooms.rooms.next)
      (Game.start server roomCount whiteId blackId) moves) :
    Always step SettledOnce (Game.start server roomCount whiteId blackId) moves :=
  (always_of_admissible played_step (played_start server roomCount whiteId blackId)
    (fromRoom.and calm)).imp fun _ played => played.settledOnce

/-- Two users who are online, on connections 10 and 11. -/
def twoPlayers : Server :=
  { Server.new annAndBob with
    conns := ⟨{10, 11}⟩
    users := (UserManager.new.addOnlineUser (UserInfo.new "ann" 1 1000 0 0 10)).addOnlineUser
      (UserInfo.new "bob" 2 1000 0 0 11) }

/-- A move whose updates go well. -/
def play (conn : ConnId) (x y : Int) : GameMove :=
  ⟨conn, .object [("x", .int x), ("y", .int y)], .succeeded, .succeeded⟩

/-- White takes five cells of a column, black four cells beside them. -/
def columnGame : List GameMove :=
  [play 10 0 0, play 11 0 1, play 10 1 0, play 11 1 1, play 10 2 0, play 11 2 1, play 10 3 0,
    play 11 3 1, play 10 4 0]

/-- The column is settled once. -/
theorem settledOnce_columnGame :
    Always step SettledOnce (Game.start twoPlayers 2 1 2) columnGame := by
  have unwon : Admissible step (fun game _ => game.wins = 0) (Game.start twoPlayers 2 1 2)
      columnGame := by
    decide +kernel
  exact settledOnce_always twoPlayers 2 1 2 columnGame (by decide +kernel)
    (unwon.imp fun game move none later => absurd later (by omega))

/-- White plays the winning cell again and is credited a second time. -/
theorem not_settledOnce_winning_cell_again :
    Admissible step (FromRoom 1 2) (Game.start twoPlayers 2 1 2) (columnGame ++ [play 10 4 0]) ∧
      ¬ Always step SettledOnce (Game.start twoPlayers 2 1 2) (columnGame ++ [play 10 4 0]) := by
  refine ⟨by decide +kernel, ?_⟩
  have twice : (run step (Game.start twoPlayers 2 1 2)
      (columnGame ++ [play 10 4 0])).toOption.map
        (fun game => (game.wins, game.server.users.getUserPoints 1)) = some (2, 1020) := by
    decide +kernel
  refine not_always_of_view twice fun last seen settledOnce => ?_
  have wins : last.wins = 2 := congrArg Prod.fst seen
  have once := settledOnce.once
  omega

end GomukuServer.Proofs.Settlement
