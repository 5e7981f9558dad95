/-
Module: GomukuServer.Proofs.LegalMoves
Layer: Proofs
Purpose: Which moves are applied as the rules of the game say.  `handleChess` writes the cell
  without asking `isValidPosition`, so a move is treated by the rules exactly if its position is
  valid, or if it puts down again what lies there and completes no line.  As long as all moves are
  like that, no stone is removed or recoloured.
Trusted boundary: none
Main exports: Applied, Repeats, applied_iff, StonesKept, LegalMove, playedByTheRules_iff,
  not_playedByTheRules_recoloured
-/
import GomukuServer.Module.GameServer

namespace GomukuServer.Proofs.LegalMoves

open Base Base.Lines Base.Runs Model Manager Db Net
open GomukuServer.Module

/-- A move of a user in the room `ref`, treated by the rules: on a valid position exactly the named
cell changes, from empty to the colour of the user; on any other position `handChess` answers false,
having touched nothing outside the board, and every room stays as it is. -/
def Applied (mgr : GameRoomManager) (ref : Ref) (room : GameRoomInfo) (x y : Int)
    (userId : UserId) : Prop :=
  if room.isValidPosition x y then
    room.board.read x y = .ok 0 ∧ ∃ rooms ret board, mgr.handChess x y userId = .ok (rooms, ret) ∧
      (∀ other, rooms.rooms.deref other =
        if other = ref then some { room with board := board } else mgr.rooms.deref other) ∧
      ∀ u v, board.read u v =
        if u = x ∧ v = y then .ok (room.chessOf userId) else room.board.read u v
  else ∃ rooms, mgr.handChess x y userId = .ok (rooms, false) ∧
    ∀ other, rooms.rooms.deref other = mgr.rooms.deref other

/-- The cell has a stone of the user already, which lies on no line of exactly five. -/
def Repeats (room : GameRoomInfo) (x y : Int) (userId : UserId) : Prop :=
  room.board.read x y = .ok (room.chessOf userId) ∧
    ¬ ∃ first dir, FiveLine room.board (room.chessOf userId) first dir ∧
      Through first dir 5 (x, y)

/-- A stone can be put down on a valid position. -/
theorem applied_of_valid {mgr : GameRoomManager} {ref : Ref} {room : GameRoomInfo} {x y : Int}
    {userId : UserId} (seated : mgr.userId2Room.find? userId = some ref)
    (held : mgr.rooms.deref ref = some room) (valid : room.isValidPosition x y = true) :
    Applied mgr ref room x y userId := by
  have free := (room.isValidPosition_iff x y).mp valid
  obtain ⟨board, rooms, ret, written, handled, heap, _⟩ :=
    GameRoomManager.handChess_of_inBoard userId seated held free.inBoard
  rw [Applied, if_pos valid]
  exact ⟨free, rooms, ret, board, handled, heap, Board.read_write written⟩

/-- On a position that is not valid nothing happens exactly if the user puts down again what lies
there, without a line of five. -/
theorem applied_iff_repeats {mgr : GameRoomManager} {ref : Ref} {room : GameRoomInfo} {x y : Int}
    {userId : UserId} (seated : mgr.userId2Room.find? userId = some ref)
    (held : mgr.rooms.deref ref = some room) (invalid : ¬ room.isValidPosition x y = true) :
    Applied mgr ref room x y userId ↔ Repeats room x y userId := by
  rw [Applied, if_neg invalid]
  by_cases inBoard : InBoard x y
  · obtain ⟨board, rooms, ret, written, handled, heap, wonIff⟩ :=
      GameRoomManager.handChess_of_inBoard userId seated held inBoard
    constructor
    · rintro ⟨rooms', handled', same⟩
      obtain ⟨rfl, rfl⟩ := Prod.mk.inj (Except.ok.inj (handled.symm.trans handled'))
      have sameBoard : board = room.board := by
        have unchanged := same ref
        rw [heap, if_pos rfl, held, Option.some.injEq] at unchanged
        exact congrArg GameRoomInfo.board unchanged
      subst sameBoard
      have stone := Board.read_write written x y
      rw [if_pos ⟨rfl, rfl⟩] at stone
      exact ⟨stone, fun five => Bool.false_ne_true (wonIff.mpr five)⟩
    · rintro ⟨stone, noFive⟩
      obtain rfl := Except.ok.inj ((Board.write_of_read stone).symm.trans written)
      have lost : ret = false := Bool.eq_false_iff.mpr (mt wonIff.mp noFive)
      refine ⟨rooms, lost ▸ handled, fun other => ?_⟩
      rw [heap]
      split
      · rename_i same
        rw [same, held]
      · rfl
  · constructor
    · rintro ⟨rooms, handled, _⟩
      rw [GameRoomManager.handChess_of_outOfBoard seated held inBoard] at handled
      cases handled
    · rintro ⟨stone, _⟩
      exact absurd ((room.board.exists_read_iff x y).mp ⟨_, stone⟩) inBoard

/-- For every room, every user in it and all coordinates. -/
theorem applied_iff {mgr : GameRoomManager} {ref : Ref} {room : GameRoomInfo} {x y : Int}
    {userId : UserId} (seated : mgr.userId2Room.find? userId = some ref)
    (held : mgr.rooms.deref ref = some room) :
    Applied mgr ref room x y userId ↔
      room.isValidPosition x y = true ∨ Repeats room x y userId := by
  by_cases valid : room.isValidPosition x y = true
  · simp only [applied_of_valid seated held valid, valid, true_or]
  · simp only [applied_iff_repeats seated held valid, valid, Bool.false_eq_true, false_or]

/-! ### Stones on the boards of a run -/

/-- Every stone of every room is still there, in its colour. -/
def StonesKept (before after : GameRoomManager) : Prop :=
  ∀ ref room, before.rooms.deref ref = some room → ∃ next, after.rooms.deref ref = some next ∧
    ∀ x y chess, chess ≠ 0 → room.board.read x y = .ok chess → next.board.read x y = .ok chess

/-- The move of a request satisfies a condition, if the sender has a room. -/
def OfMove (condition : GameRoomManager → Ref → GameRoomInfo → Int → Int → UserId → Prop)
    (server : Server) : ServerEvent → Prop
  | .chess conn req _ _ => ∀ ref room x y,
      server.rooms.userId2Room.find? (server.users.getUserIdByConn conn) = some ref →
      server.rooms.rooms.deref ref = some room → Server.moveOf req = .ok (x, y) →
      condition server.rooms ref room x y (server.users.getUserIdByConn conn)
  | _ => True

/-- The position is valid, or the move puts down again what lies there, without a line of five. -/
def LegalMove (server : Server) (event : ServerEvent) : Prop :=
  OfMove (fun _ _ room x y userId => room.isValidPosition x y = true ∨ Repeats room x y userId)
    server event

/-- All moves of a run are treated by the rules, and between any two of its states no stone is
removed or recoloured. -/
def PlayedByTheRules (db : UserDB) (events : List ServerEvent) : Prop :=
  Admissible Server.step (OfMove Applied) (Server.new db) events ∧
    ∀ before after middle last, before ++ after = events →
      run Server.step (Server.new db) before = .ok middle →
      run Server.step middle after = .ok last → StonesKept middle.rooms last.rooms

theorem StonesKept.refl (rooms : GameRoomManager) : StonesKept rooms rooms :=
  fun _ room held => ⟨room, held, fun _ _ _ _ stone => stone⟩

theorem StonesKept.trans {first second third : GameRoomManager} (one : StonesKept first second)
    (two : StonesKept second third) : StonesKept first third := by
  intro ref room held
  obtain ⟨middle, middleHeld, kept⟩ := one ref room held
  obtain ⟨last, lastHeld, keptAgain⟩ := two ref middle middleHeld
  exact ⟨last, lastHeld, fun x y chess some stone =>
    keptAgain x y chess some (kept x y chess some stone)⟩

/-- A move that is treated by the rules keeps the stones. -/
theorem stonesKept_applied {mgr rooms : GameRoomManager} {ref : Ref} {room : GameRoomInfo}
    {x y : Int} {userId : UserId} {ret : Bool} (held : mgr.rooms.deref ref = some room)
    (applied : Applied mgr ref room x y userId)
    (called : mgr.handChess x y userId = .ok (rooms, ret)) : StonesKept mgr rooms := by
  unfold Applied at applied
  split at applied
  · obtain ⟨free, rooms', ret', board, called', heap, cells⟩ := applied
    obtain ⟨rfl, rfl⟩ := Prod.mk.inj (Except.ok.inj (called'.symm.trans called))
    intro other before otherHeld
    by_cases same : other = ref
    · subst same
      obtain rfl := Option.some.inj (held.symm.trans otherHeld)
      refine ⟨{ room with board := board }, by rw [heap, if_pos rfl], ?_⟩
      intro u v chess some stone
      have elsewhere : ¬ (u = x ∧ v = y) := by
        rintro ⟨rfl, rfl⟩
        exact some (Except.ok.inj (stone.symm.trans free))
      rw [cells, if_neg elsewhere]
      exact stone
    · exact ⟨before, by rw [heap, if_neg same, otherHeld], fun _ _ _ _ stone => stone⟩
  · obtain ⟨rooms', called', heap⟩ := applied
    obtain ⟨rfl, rfl⟩ := Prod.mk.inj (Except.ok.inj (called'.symm.trans called))
    intro other before otherHeld
    exact ⟨before, by rw [heap, otherHeld], fun _ _ _ _ stone => stone⟩

/-- A departure keeps the stones. -/
theorem stonesKept_removeUser {mgr next : GameRoomManager} {users nextUsers : UserManager}
    {userId : UserId} (called : mgr.removeUser users userId = .ok (next, nextUsers)) :
    StonesKept mgr next := by
  cases found : mgr.userId2Room.find? userId with
  | none =>
      rw [GameRoomManager.removeUser_of_absent users found] at called
      obtain ⟨rfl, _⟩ := Prod.mk.inj (Except.ok.inj called)
      exact .refl mgr
  | some ref =>
      obtain ⟨room, held, _⟩ := GameRoomManager.exists_room found
      rw [GameRoomManager.removeUser_of_seated users found held] at called
      split at called
      · cases called
      · obtain ⟨rfl, _⟩ := Prod.mk.inj (Except.ok.inj called)
        intro other before otherHeld
        by_cases same : other = ref
        · refine ⟨before.subCount, ?_, fun _ _ _ _ stone => stone⟩
          simp [GameRoomManager.updateRoom, GameRoomManager.eraseUser, same, same ▸ otherHeld]
        · refine ⟨before, ?_, fun _ _ _ _ stone => stone⟩
          simp [GameRoomManager.updateRoom, GameRoomManager.eraseUser, same, otherHeld]

/-- A new room keeps the stones of the others. -/
theorem stonesKept_createRoom (mgr : GameRoomManager) (roomCount : UInt32)
    (userId1 userId2 : UserId) : StonesKept mgr (mgr.createRoom roomCount userId1 userId2) := by
  intro ref room held
  refine ⟨room, ?_, fun _ _ _ _ stone => stone⟩
  simp [GameRoomManager.createRoom, Heap.ne_next_of_deref held, held]

/-- A step that meets the condition keeps the stones. -/
theorem stonesKept_step (server : Server) (event : ServerEvent) (next : Server)
    (legal : LegalMove server event) (stepEq : server.step event = .ok next) :
    StonesKept server.rooms next.rooms := by
  have change := Server.roomsStep_of_step stepEq
  generalize next.rooms = rooms at change ⊢
  cases change with
  | same => exact .refl server.rooms
  | opened => exact stonesKept_createRoom server.rooms _ _ _
  | @played conn _ _ _ x y _ _ move handled =>
      cases seated : server.rooms.userId2Room.find? (server.users.getUserIdByConn conn) with
      | none =>
          simp only [GameRoomManager.handChess, seated, Except.ok.injEq, Prod.mk.injEq] at handled
          rw [← handled.1]
          exact .refl server.rooms
      | some ref =>
          obtain ⟨room, held, _⟩ := GameRoomManager.exists_room seated
          have applied := (applied_iff seated held).mpr (legal ref room x y seated held move)
          exact stonesKept_applied held applied handled
  | exited removed => exact stonesKept_removeUser removed

/-- A move is treated by the rules exactly if it meets the condition. -/
theorem ofMove_applied_iff (server : Server) (event : ServerEvent) :
    OfMove Applied server event ↔ LegalMove server event := by
  cases event with
  | chess conn req winOutcome loseOutcome =>
      constructor
      · intro applied ref room x y seated held moved
        exact (applied_iff seated held).mp (applied ref room x y seated held moved)
      · intro legal ref room x y seated held moved
        exact (applied_iff seated held).mpr (legal ref room x y seated held moved)
  | _ => exact Iff.rfl

/-- In every run of the server: all moves are treated by the rules, and no stone is ever removed or
recoloured, if and only if every move names a valid position, or a cell where a stone of the user
lies already, on no line of five. -/
theorem playedByTheRules_iff (db : UserDB) (events : List ServerEvent) :
    PlayedByTheRules db events ↔ Admissible Server.step LegalMove (Server.new db) events := by
  have same : Admissible Server.step (OfMove Applied) (Server.new db) events ↔
      Admissible Server.step LegalMove (Server.new db) events :=
    admissible_congr ofMove_applied_iff (Server.new db) events
  constructor
  · rintro ⟨applied, _⟩
    exact same.mp applied
  · intro legal
    refine ⟨same.mpr legal, ?_⟩
    rintro before after middle last rfl reached later
    have legalAfter := legal.after_run reached
    exact legalAfter.related stonesKept_step (fun server => .refl server.rooms)
      (fun _ _ _ one two => one.trans two) later

/-! ### The same cell twice -/

/-- A request to put a stone on a cell. -/
def putStone (conn : ConnId) (x y : Int) : ServerEvent :=
  .chess conn (.object [("x", .int x), ("y", .int y)]) .succeeded .succeeded

/-- Bob puts his stone on Ann's. -/
theorem not_playedByTheRules_recoloured :
    ¬ PlayedByTheRules annAndBob (pairUp ++ [putStone 10 7 7] ++ [putStone 11 7 7]) := by
  rintro ⟨_, kept⟩
  have cell (events : List ServerEvent) (chess : Int)
      (seen : (run Server.step (Server.new annAndBob) events).toOption.bind
        (fun server => (server.rooms.rooms.deref 0).map fun room => room.board[7][7]) =
          some chess) :
      ∃ server room, run Server.step (Server.new annAndBob) events = .ok server ∧
        server.rooms.rooms.deref 0 = some room ∧ room.board.read 7 7 = .ok chess := by
    cases reached : run Server.step (Server.new annAndBob) events with
    | error fault => simp [reached, Except.toOption] at seen
    | ok server =>
        rw [reached] at seen
        obtain ⟨room, held, stone⟩ := Option.map_eq_some_iff.mp seen
        exact ⟨server, room, rfl, held, congrArg Except.ok stone⟩
  obtain ⟨middle, room, reached, held, white⟩ := cell (pairUp ++ [putStone 10 7 7]) whiteChess
    (by decide +kernel)
  obtain ⟨last, after, reachedLast, heldLast, black⟩ :=
    cell (pairUp ++ [putStone 10 7 7] ++ [putStone 11 7 7]) blackChess (by decide +kernel)
  rw [run_append reached] at reachedLast
  obtain ⟨other, otherHeld, stays⟩ := kept _ _ middle last rfl reached reachedLast 0 room held
  obtain rfl := Option.some.inj (heldLast.symm.trans otherHeld)
  have still := stays 7 7 whiteChess (by decide) white
  rw [black] at still
  exact absurd (Except.ok.inj still) (by decide)

end GomukuServer.Proofs.LegalMoves
