/-
Module: GomukuServer.Proofs.PartedPlayers
Layer: Proofs
Purpose: Two players in a room, and what parts them.  Neither moves nor chat, requests to be matched
  or registrations do, nor whatever others do to their own rooms; exactly the events named here do,
  a disconnect of somebody else among them, which forgets a connection that it has not looked up.
Trusted boundary: none
Main exports: AtTable, InRoom, Stays, Ready, inRoom_step_iff, InRoom.always, inRoom_paired,
  inRoom_always_iff
-/
import GomukuServer.Model.Table
import GomukuServer.Module.GameServer

namespace GomukuServer.Proofs.PartedPlayers

open Base Base.Runs Model Manager Db Net
open GomukuServer.Module GomukuServer.Module.Server

/-! ### Two players -/

/-- The user is logged in on this connection and on no other, nobody else is logged in there, and
nobody but its opponent has the user for an opponent. -/
structure Sits (server : Server) (user : UserId) (conn : ConnId) (opponent : UserId) : Prop where
  up : conn ∈ server.conns.conns
  conn_iff : ∀ other, server.users.getConnByUserId other = some conn ↔ other = user
  user_iff : ∀ other, server.users.getUserIdByConn other = user ↔ other = conn
  opponent_iff : ∀ other, server.rooms.getUserIdFromOtherId other = user ↔ other = opponent

/-- Two users are in one room, and nowhere else. -/
structure AtTable (server : Server) (user1 user2 : UserId) (conn1 conn2 : ConnId) : Prop where
  first : Sits server user1 conn1 user2
  second : Sits server user2 conn2 user1
  together : ∃ ref, server.rooms.userId2Room.find? user1 = some ref ∧
    server.rooms.userId2Room.find? user2 = some ref
  distinct : user1 ≠ user2

/-- Two users are in this room, white and black, and nowhere else. -/
structure InRoom (ref : Ref) (users : Side → UserId) (conns : Side → ConnId)
    (server : Server) : Prop where
  table : AtTable server (users .white) (users .black) (conns .white) (conns .black)
  seat : server.rooms.userId2Room.find? (users .white) = some ref

/-- The event does not part the two: no connection of theirs goes down or is taken out of the table
in place of another one, nobody logs in as one of them elsewhere or as somebody else on a connection
of theirs, neither asks to leave and neither is paired again. -/
def Stays (users : Side → UserId) (conns : Side → ConnId) (server : Server) : ServerEvent → Prop
  | .disconnect conn erased => ∀ side, conn ≠ conns side ∧
      (server.users.getUserIdByConn conn ≠ 0 →
        server.users.getConnByUserId (server.users.getUserIdByConn conn) ≠ none →
        erased ≠ conns side)
  | .login conn req outcome => ∀ row, requestedRow server req outcome = .ok (some row) →
      ∀ side, conn = conns side ↔ UserDB.toUInt32 row.userId = users side
  | .exitRoom conn => ∀ side, conn ≠ conns side
  | .matchQueue i _ => ∀ userId1 userId2 rest,
      server.pool.queues i = userId1 :: userId2 :: rest →
      ∀ side, users side ≠ userId1 ∧ users side ≠ userId2
  | _ => True

instance (users : Side → UserId) (conns : Side → ConnId) (server : Server) :
    (event : ServerEvent) → Decidable (Stays users conns server event)
  | .disconnect conn erased => inferInstanceAs (Decidable (∀ side, conn ≠ conns side ∧
      (server.users.getUserIdByConn conn ≠ 0 →
        server.users.getConnByUserId (server.users.getUserIdByConn conn) ≠ none →
        erased ≠ conns side)))
  | .login conn req outcome =>
      match found : requestedRow server req outcome with
      | .ok (some row) =>
          decidable_of_iff (∀ side, conn = conns side ↔ UserDB.toUInt32 row.userId = users side)
            (by simp [Stays, found])
      | .ok none | .error _ => isTrue (by simp [Stays, found])
  | .exitRoom conn => inferInstanceAs (Decidable (∀ side, conn ≠ conns side))
  | .matchQueue i _ =>
      match queued : server.pool.queues i with
      | userId1 :: userId2 :: _ =>
          decidable_of_iff (∀ side, users side ≠ userId1 ∧ users side ≠ userId2)
            (by simp [Stays, queued])
      | [] | [_] => isTrue (by simp [Stays, queued])
  | .connect _ | .register _ _ _ | .matchStart _ _ | .matchCancel _ _ | .chess _ _ _ _
  | .chat _ _ => isTrue trivial

/-- The two are logged in, each on one connection, where nobody else is, and no third user has one
of them for an opponent. -/
structure Ready (users : Side → UserId) (conns : Side → ConnId) (server : Server) : Prop where
  up : ∀ side, conns side ∈ server.conns.conns
  conn_iff : ∀ side other,
    server.users.getConnByUserId other = some (conns side) ↔ other = users side
  user_iff : ∀ side other, server.users.getUserIdByConn other = users side ↔ other = conns side
  unopposed : ∀ side other, (∀ who, other ≠ users who) →
    server.rooms.getUserIdFromOtherId other ≠ users side

variable {server next : Server} {ref : Ref} {users : Side → UserId} {conns : Side → ConnId}
  {user1 user2 : UserId} {conn1 conn2 : ConnId}

theorem AtTable.symm (table : AtTable server user1 user2 conn1 conn2) :
    AtTable server user2 user1 conn2 conn1 where
  first := table.second
  second := table.first
  together := table.together.imp fun _ both => ⟨both.2, both.1⟩
  distinct := table.distinct.symm

theorem AtTable.conns_ne (table : AtTable server user1 user2 conn1 conn2) : conn1 ≠ conn2 := by
  rintro rfl
  exact table.distinct ((table.second.conn_iff user1).mp ((table.first.conn_iff user1).mpr rfl))

theorem AtTable.opponent (table : AtTable server user1 user2 conn1 conn2) :
    server.rooms.getUserIdFromOtherId user1 = user2 :=
  (table.second.opponent_iff user1).mpr rfl

/-- The room was created for the two. -/
theorem AtTable.players (table : AtTable server user1 user2 conn1 conn2) {ref : Ref}
    {room : GameRoomInfo} (seated : server.rooms.userId2Room.find? user1 = some ref)
    (held : server.rooms.rooms.deref ref = some room) :
    user1 = room.whiteId ∧ user2 = room.blackId ∨ user2 = room.whiteId ∧ user1 = room.blackId := by
  obtain ⟨other, first, second⟩ := table.together
  obtain rfl := Option.some.inj (first.symm.trans seated)
  obtain ⟨room1, held1, seat1⟩ := GameRoomManager.exists_room first
  obtain ⟨room2, held2, seat2⟩ := GameRoomManager.exists_room second
  obtain rfl := Option.some.inj (held1.symm.trans held)
  obtain rfl := Option.some.inj (held2.symm.trans held)
  have distinct := table.distinct
  rcases seat1 with rfl | rfl <;> rcases seat2 with rfl | rfl
  · exact absurd rfl distinct
  · exact .inl ⟨rfl, rfl⟩
  · exact .inr ⟨rfl, rfl⟩
  · exact absurd rfl distinct

/-- Whoever is logged in on another connection is neither of the two, and has neither of them for an
opponent. -/
theorem AtTable.stranger (table : AtTable server user1 user2 conn1 conn2) {conn : ConnId}
    (first : conn ≠ conn1) (second : conn ≠ conn2) {sender : UserId}
    (sends : server.users.getUserIdByConn conn = sender) :
    (sender ≠ user1 ∧ sender ≠ user2) ∧
      server.users.getConnByUserId (server.rooms.getUserIdFromOtherId sender) ≠ some conn1 ∧
      server.users.getConnByUserId (server.rooms.getUserIdFromOtherId sender) ≠ some conn2 := by
  have sender1 : sender ≠ user1 := fun same => first ((table.first.user_iff conn).mp (sends ▸ same))
  have sender2 : sender ≠ user2 :=
    fun same => second ((table.second.user_iff conn).mp (sends ▸ same))
  refine ⟨⟨sender1, sender2⟩, fun same => ?_, fun same => ?_⟩
  · exact sender2 ((table.first.opponent_iff _).mp ((table.first.conn_iff _).mp same))
  · exact sender1 ((table.second.opponent_iff _).mp ((table.second.conn_iff _).mp same))

theorem InRoom.at (inRoom : InRoom ref users conns server) (side : Side) :
    AtTable server (users side) (users side.other) (conns side) (conns side.other) := by
  cases side with
  | white => exact inRoom.table
  | black => exact inRoom.table.symm

theorem InRoom.sits (inRoom : InRoom ref users conns server) (side : Side) :
    server.rooms.userId2Room.find? (users side) = some ref := by
  obtain ⟨there, white, black⟩ := inRoom.table.together
  obtain rfl := Option.some.inj (white.symm.trans inRoom.seat)
  cases side with
  | white => exact white
  | black => exact black

theorem InRoom.conns_inj (inRoom : InRoom ref users conns server) {side other : Side} :
    conns side = conns other ↔ side = other := by
  have distinct := inRoom.table.conns_ne
  cases side <;> cases other <;> simp [distinct, distinct.symm]

/-- Somebody on another connection is neither of the two. -/
theorem InRoom.stranger (inRoom : InRoom ref users conns server) {conn : ConnId}
    (other : ∀ side, conn ≠ conns side) (side : Side) :
    server.users.getUserIdByConn conn ≠ users side :=
  fun same => other side (((inRoom.at side).first.user_iff conn).mp same)

/-- Two who stay in their room are not put into a new one. -/
theorem InRoom.not_paired (inRoom : InRoom ref users conns server)
    (after : InRoom ref users conns next) {roomCount : UInt32} {userId1 userId2 : UserId}
    (opened : next.rooms = server.rooms.createRoom roomCount userId1 userId2) (side : Side) :
    ¬ (users side = userId1 ∨ users side = userId2) := by
  intro again
  have seat := after.sits side
  rw [opened, GameRoomManager.find?_createRoom, if_pos again] at seat
  exact GameRoomManager.find?_ne_next server.rooms (users side)
    ((inRoom.sits side).trans seat.symm)

/-- What the tables of the server say of two users in a room. -/
theorem inRoom_of_tables (up : ∀ side, conns side ∈ server.conns.conns)
    (conn_iff : ∀ side other,
      server.users.getConnByUserId other = some (conns side) ↔ other = users side)
    (user_iff : ∀ side other, server.users.getUserIdByConn other = users side ↔ other = conns side)
    (opponent_iff : ∀ side other,
      server.rooms.getUserIdFromOtherId other = users side ↔ other = users side.other)
    (seats : ∀ side, server.rooms.userId2Room.find? (users side) = some ref)
    (distinct : users .white ≠ users .black) : InRoom ref users conns server where
  table :=
    { first := ⟨up .white, conn_iff .white, user_iff .white, opponent_iff .white⟩
      second := ⟨up .black, conn_iff .black, user_iff .black, opponent_iff .black⟩
      together := ⟨ref, seats .white, seats .black⟩
      distinct := distinct }
  seat := seats .white

/-! ### What keeps the players in their room -/

/-- A user sits where it sat when the tables are as they were. -/
theorem Sits.of_tables {user opponent : UserId} {conn : ConnId}
    (sits : Sits server user conn opponent) (conns : next.conns = server.conns)
    (online : ∀ other, next.users.getConnByUserId other = server.users.getConnByUserId other)
    (users : ∀ other, next.users.getUserIdByConn other = server.users.getUserIdByConn other)
    (opponents : ∀ other, next.rooms.getUserIdFromOtherId other =
      server.rooms.getUserIdFromOtherId other) : Sits next user conn opponent where
  up := conns ▸ sits.up
  conn_iff other := (online other) ▸ sits.conn_iff other
  user_iff other := (users other) ▸ sits.user_iff other
  opponent_iff other := (opponents other) ▸ sits.opponent_iff other

/-- No move takes the players from their table. -/
theorem AtTable.chess (table : AtTable server user1 user2 conn1 conn2) {conn : ConnId}
    {req : Json.Value} {winOutcome loseOutcome : DbOutcome}
    (called : server.onChess conn req winOutcome loseOutcome = .ok next) :
    AtTable next user1 user2 conn1 conn2 := by
  obtain ⟨x, y, rooms, ret, settled, _, move, handled, after, nextEq, _⟩ := onChess_ok called
  have opponents := GameRoomManager.getUserIdFromOtherId_handChess handled
  have seats := GameRoomManager.userId2Room_handChess handled
  have kept : next.conns = server.conns ∧ next.rooms = rooms ∧
      (∀ other, next.users.getConnByUserId other = server.users.getConnByUserId other) ∧
      ∀ other, next.users.getUserIdByConn other = server.users.getUserIdByConn other := by
    cases ret with
    | false =>
        obtain rfl : settled = { server with rooms := rooms } := after
        subst nextEq
        exact ⟨rfl, rfl, fun _ => rfl, fun _ => rfl⟩
    | true =>
        obtain ⟨_, _, _, same⟩ := settle_ok after
        rw [nextEq, same]
        refine ⟨rfl, rfl, fun other => ?_, fun other => ?_⟩
        · exact (UserManager.getConnByUserId_updateById ..).trans
            (UserManager.getConnByUserId_updateById ..)
        · exact (UserManager.getUserIdByConn_updateById ..).trans
            (UserManager.getUserIdByConn_updateById ..)
  obtain ⟨conns, nextRooms, online, users⟩ := kept
  rw [← nextRooms] at opponents seats
  exact
    { first := table.first.of_tables conns online users opponents
      second := table.second.of_tables conns online users opponents
      together := seats ▸ table.together
      distinct := table.distinct }

/-- Nothing that counts has changed. -/
theorem InRoom.of_same (inRoom : InRoom ref users conns server)
    (sameConns : next.conns = server.conns)
    (online : ∀ other, next.users.getConnByUserId other = server.users.getConnByUserId other)
    (sameUsers : ∀ other, next.users.getUserIdByConn other = server.users.getUserIdByConn other)
    (sameRooms : next.rooms = server.rooms) : InRoom ref users conns next where
  table :=
    { first := inRoom.table.first.of_tables sameConns online sameUsers fun _ => by rw [sameRooms]
      second := inRoom.table.second.of_tables sameConns online sameUsers fun _ => by rw [sameRooms]
      together := sameRooms ▸ inRoom.table.together
      distinct := inRoom.table.distinct }
  seat := sameRooms ▸ inRoom.seat

/-- No move takes them from it. -/
theorem InRoom.chess (inRoom : InRoom ref users conns server) {conn : ConnId} {req : Json.Value}
    {winOutcome loseOutcome : DbOutcome}
    (called : server.onChess conn req winOutcome loseOutcome = .ok next) :
    InRoom ref users conns next where
  table := inRoom.table.chess called
  seat := by
    obtain ⟨_, _, rooms, _, settled, _, _, handled, after, nextEq, _⟩ := onChess_ok called
    have nextRooms : next.rooms = rooms := by
      rw [nextEq, afterMove_ok after]
    rw [nextRooms, GameRoomManager.userId2Room_handChess handled, inRoom.seat]

/-- Nor does anybody who connects. -/
theorem InRoom.connect (inRoom : InRoom ref users conns server) (conn : ConnId) :
    InRoom ref users conns (server.onConnect conn) where
  table :=
    { inRoom.table with
      first := { inRoom.table.first with up := Finset.mem_insert_of_mem inRoom.table.first.up }
      second := { inRoom.table.second with up := Finset.mem_insert_of_mem inRoom.table.second.up } }
  seat := inRoom.seat

/-! ### Disconnects and logins -/

theorem inRoom_disconnect_iff (inRoom : InRoom ref users conns server)
    (nonzero : ∀ side, users side ≠ 0) (conn erased : ConnId) :
    Stays users conns server (.disconnect conn erased) ↔
      InRoom ref users conns (server.onDisconnect conn erased) := by
  rw [onDisconnect_eq]
  constructor
  · intro stays
    have stranger := inRoom.stranger fun side => (stays side).1
    refine inRoom_of_tables (fun side => ?_) (fun side other => ?_) (fun side other => ?_)
      (fun side => (inRoom.at side).first.opponent_iff) inRoom.sits inRoom.table.distinct
    · exact Finset.mem_erase.mpr ⟨(stays side).1.symm, (inRoom.at side).first.up⟩
    · have before := (inRoom.at side).first.conn_iff other
      dsimp only
      split
      · rw [UserManager.getConnByUserId, UserManager.find?_userId2Conn_removeOnlineUser]
        split
        · rename_i gone
          exact iff_of_false (by simp) (gone ▸ stranger side)
        · exact before
      · exact before
    · have before := (inRoom.at side).first.user_iff other
      dsimp only
      split
      · rename_i loggedIn
        by_cases online : server.users.getConnByUserId (server.users.getUserIdByConn conn) = none
        · rw [UserManager.removeOnlineUser_of_offline erased online]
          exact before
        · rw [UserManager.getUserIdByConn,
            UserManager.find?_conn2UserId_removeOnlineUser online]
          split
          · rename_i taken
            exact iff_of_false (nonzero side).symm (taken ▸ (stays side).2 loggedIn online)
          · exact before
      · exact before
  · intro after side
    refine ⟨fun down => ?_, fun loggedIn online taken => ?_⟩
    · exact (Finset.mem_erase.mp (after.at side).first.up).1 down.symm
    · have mine := ((after.at side).first.user_iff (conns side)).mpr rfl
      dsimp only at mine
      rw [if_pos loggedIn, UserManager.getUserIdByConn,
        UserManager.find?_conn2UserId_removeOnlineUser online, if_pos taken.symm] at mine
      exact nonzero side mine.symm

theorem inRoom_login_iff (inRoom : InRoom ref users conns server) {conn : ConnId} {req : Json.Value}
    {outcome : LoginOutcome} (called : server.onLogin conn req outcome = .ok next) :
    Stays users conns server (.login conn req outcome) ↔ InRoom ref users conns next := by
  obtain ⟨sent, ⟨requested, rfl⟩ | ⟨row, user, requested, loaded, rfl⟩⟩ := onLogin_ok called
  · refine iff_of_true (fun row found => ?_) (inRoom.of_same rfl (fun _ => rfl) (fun _ => rfl) rfl)
    cases requested.symm.trans found
  · obtain ⟨rfl, _⟩ := loadUser_ok loaded
    constructor
    · intro stays
      have named := stays row requested
      refine inRoom_of_tables (fun side => (inRoom.at side).first.up) (fun side other => ?_)
        (fun side other => ?_) (fun side => (inRoom.at side).first.opponent_iff) inRoom.sits
        inRoom.table.distinct
      · simp only [UserManager.getConnByUserId, UserManager.addOnlineUser, UserInfo.new,
          PMap.find?_insert]
        split
        · rename_i same
          rw [same, Option.some.injEq]
          exact named side
        · exact (inRoom.at side).first.conn_iff other
      · simp only [UserManager.getUserIdByConn, UserManager.addOnlineUser, UserInfo.new,
          PMap.find?_insert]
        split
        · rename_i same
          rw [same, Option.getD_some]
          exact (named side).symm
        · exact (inRoom.at side).first.user_iff other
    · intro after other found side
      obtain rfl := Option.some.inj (Except.ok.inj (found.symm.trans requested))
      have named := (after.at side).first.conn_iff (UserDB.toUInt32 other.userId)
      simpa [UserManager.getConnByUserId, UserManager.addOnlineUser, UserInfo.new] using named

/-! ### Rooms of others -/

theorem inRoom_matchQueue_iff (inRoom : InRoom ref users conns server) {i : Fin 3}
    {roomCount : UInt32} (turn : server.matchQueue i roomCount = .ok next) :
    Stays users conns server (.matchQueue i roomCount) ↔ InRoom ref users conns next := by
  rcases matchQueue_ok turn with
    ⟨short, rfl⟩ | ⟨userId1, userId2, rest, _, _, _, _, _, queued, _, _, _, _, rfl⟩
  · refine iff_of_true (fun userId1 userId2 rest queued => ?_) inRoom
    simp only [queued, List.length_cons] at short
    omega
  · constructor
    · intro stays
      have others := stays userId1 userId2 rest queued
      refine inRoom_of_tables (fun side => (inRoom.at side).first.up)
        (fun side => (inRoom.at side).first.conn_iff)
        (fun side => (inRoom.at side).first.user_iff) (fun side other => ?_) (fun side => ?_)
        inRoom.table.distinct
      · rw [GameRoomManager.getUserIdFromOtherId_createRoom]
        split
        · rename_i first
          exact iff_of_false (others side).2.symm (first ▸ (others side.other).1.symm)
        · split
          · rename_i second
            exact iff_of_false (others side).1.symm (second ▸ (others side.other).2.symm)
          · exact (inRoom.at side).first.opponent_iff other
      · rw [GameRoomManager.find?_createRoom, if_neg (not_or.mpr (others side)), inRoom.sits side]
    · intro after first second rest' queued' side
      obtain ⟨rfl, pair⟩ := List.cons.inj (queued.symm.trans queued')
      obtain ⟨rfl, _⟩ := List.cons.inj pair
      exact not_or.mp (inRoom.not_paired after rfl side)

theorem inRoom_exitRoom_iff (inRoom : InRoom ref users conns server)
    (nonzero : ∀ side, users side ≠ 0) {conn : ConnId}
    (called : server.onExitRoom conn = .ok next) :
    Stays users conns server (.exitRoom conn) ↔ InRoom ref users conns next := by
  obtain ⟨removed, same⟩ := onExitRoom_ok called
  obtain ⟨seats, _, _, states⟩ := GameRoomManager.removeUser_ok removed
  constructor
  · intro stays
    have stranger := inRoom.stranger stays
    have online : ∀ other, next.users.getConnByUserId other =
        server.users.getConnByUserId other := by
      intro other
      rw [states]
      split
      · rfl
      · exact UserManager.getConnByUserId_updateById ..
    have sameUsers : ∀ other, next.users.getUserIdByConn other =
        server.users.getUserIdByConn other := by
      intro other
      rw [states]
      split
      · rfl
      · exact UserManager.getUserIdByConn_updateById ..
    refine inRoom_of_tables (fun side => ?_) (fun side other => ?_) (fun side other => ?_)
      (fun side other => ?_) (fun side => ?_) inRoom.table.distinct
    · rw [same]
      exact (inRoom.at side).first.up
    · rw [online]
      exact (inRoom.at side).first.conn_iff other
    · rw [sameUsers]
      exact (inRoom.at side).first.user_iff other
    · rw [GameRoomManager.getUserIdFromOtherId_removeUser removed]
      split
      · rename_i gone
        exact iff_of_false (nonzero side).symm (gone ▸ stranger side.other)
      · exact (inRoom.at side).first.opponent_iff other
    · rw [seats, PMap.find?_erase, if_neg (stranger side).symm, inRoom.sits side]
  · intro after side mine
    have seat := after.sits side
    rw [seats, ((inRoom.at side).first.user_iff conn).mpr mine, PMap.find?_erase,
      if_pos rfl] at seat
    cases seat

/-! ### Every event -/

/-- A step parts the two exactly if it is one of the events that are named. -/
theorem inRoom_step_iff (inRoom : InRoom ref users conns server)
    (nonzero : ∀ side, users side ≠ 0) {event : ServerEvent}
    (stepEq : server.step event = .ok next) :
    Stays users conns server event ↔ InRoom ref users conns next := by
  cases event with
  | connect conn =>
      obtain rfl := Except.ok.inj stepEq
      exact iff_of_true trivial (inRoom.connect conn)
  | disconnect conn erased =>
      obtain rfl := Except.ok.inj stepEq
      exact inRoom_disconnect_iff inRoom nonzero conn erased
  | register =>
      obtain ⟨_, _, _, _, _, _, same⟩ := onRegister_ok stepEq
      rw [same]
      exact iff_of_true trivial (inRoom.of_same rfl (fun _ => rfl) (fun _ => rfl) rfl)
  | login => exact inRoom_login_iff inRoom stepEq
  | matchStart =>
      obtain ⟨_, after, _, _, _, added, rfl⟩ := onMatch_ok stepEq
      obtain ⟨_, _, _, _, ⟨_, rfl⟩ | ⟨_, rfl⟩⟩ := addUser_ok added
      · exact iff_of_true trivial (inRoom.of_same rfl (fun _ => rfl) (fun _ => rfl) rfl)
      · exact iff_of_true trivial (inRoom.of_same rfl (fun _ => rfl) (fun _ => rfl) rfl)
  | matchCancel =>
      obtain ⟨_, after, _, _, _, removed, rfl⟩ := onCancelMatch_ok stepEq
      obtain ⟨_, _, _, _, ⟨_, rfl⟩ | ⟨_, rfl⟩⟩ := removeUser_ok removed
      · exact iff_of_true trivial (inRoom.of_same rfl (fun _ => rfl) (fun _ => rfl) rfl)
      · exact iff_of_true trivial (inRoom.of_same rfl (fun _ => rfl) (fun _ => rfl) rfl)
  | matchQueue => exact inRoom_matchQueue_iff inRoom stepEq
  | chess => exact iff_of_true trivial (inRoom.chess stepEq)
  | chat =>
      obtain ⟨_, rfl, _⟩ := onChat_ok stepEq
      exact iff_of_true trivial (inRoom.of_same rfl (fun _ => rfl) (fun _ => rfl) rfl)
  | exitRoom => exact inRoom_exitRoom_iff inRoom nonzero stepEq

/-- Two players stay together in their room if no step is one of the events that part them. -/
theorem InRoom.always (start : InRoom ref users conns server) (nonzero : ∀ side, users side ≠ 0)
    {events : List ServerEvent}
    (stays : Admissible Server.step (WhenReturns Server.step (Stays users conns)) server events) :
    Always Server.step (InRoom ref users conns) server events := by
  refine always_of_admissible (fun _ _ _ inRoom kept stepEq => ?_) start stays
  exact (inRoom_step_iff inRoom nonzero stepEq).mp (kept (by rw [stepEq]; rfl))

/-- Pairing two users opens a room and leaves the tables of who is on line alone. -/
theorem paired_ok {i : Fin 3} {roomCount : UInt32}
    (turn : server.matchQueue i roomCount = .ok next) {userId1 userId2 : UserId}
    {rest : List UserId} (queued : server.pool.queues i = userId1 :: userId2 :: rest) :
    next.rooms = server.rooms.createRoom roomCount userId1 userId2 ∧ next.conns = server.conns ∧
      (∀ user, server.users.getConnByUserId user = next.users.getConnByUserId user) ∧
      ∀ conn, server.users.getUserIdByConn conn = next.users.getUserIdByConn conn := by
  rcases matchQueue_ok turn with ⟨short, _⟩ |
    ⟨first, second, others, _, _, _, _, _, queued', _, _, _, _, rfl⟩
  · exact absurd short (by simp [queued])
  · obtain ⟨rfl, pair⟩ := List.cons.inj (queued.symm.trans queued')
    obtain ⟨rfl, _⟩ := List.cons.inj pair
    exact ⟨rfl, rfl, fun _ => rfl, fun _ => rfl⟩

/-- A turn of the match thread puts two who are ready into a new room. -/
theorem inRoom_paired (ready : Ready users conns server) (distinct : users .white ≠ users .black)
    {i : Fin 3} {roomCount : UInt32} {rest : List UserId}
    (queued : server.pool.queues i = users .white :: users .black :: rest)
    (turn : server.matchQueue i roomCount = .ok next) :
    InRoom server.rooms.rooms.next users conns next := by
  obtain ⟨opened, sameConns, online, sameUsers⟩ := paired_ok turn queued
  refine inRoom_of_tables (fun side => sameConns ▸ ready.up side)
    (fun side other => online other ▸ ready.conn_iff side other)
    (fun side other => sameUsers other ▸ ready.user_iff side other) (fun side other => ?_)
    (fun side => ?_) distinct
  · rw [opened, GameRoomManager.getUserIdFromOtherId_createRoom]
    split
    · rename_i first
      cases side with
      | white => exact iff_of_false distinct.symm fun same => distinct (first.symm.trans same)
      | black => exact iff_of_true rfl first
    · rename_i notFirst
      split
      · rename_i second
        cases side with
        | white => exact iff_of_true rfl second
        | black => exact iff_of_false distinct fun same => distinct (same.symm.trans second)
      · rename_i notSecond
        have third : ∀ who, other ≠ users who := (Side.forall_iff .white).mpr ⟨notFirst, notSecond⟩
        exact iff_of_false (ready.unopposed side other third) (third side.other)
  · rw [opened, GameRoomManager.find?_createRoom, if_pos (by cases side <;> simp)]

/-! ### Users 1 and 2 -/

/-- Users 1 and 2 are on line and wait in the first queue. -/
def twoWaiting : Server :=
  { Server.new annAndBob with
    conns := ⟨{10, 11}⟩
    users := (UserManager.new.addOnlineUser (UserInfo.new "ann" 1 1000 0 0 10)).addOnlineUser
      (UserInfo.new "bob" 2 1000 0 0 11)
    pool := (MatchPool.new.pushBack (MatchPool.band 1000) 1).pushBack (MatchPool.band 1000) 2 }

/-- The server after they have been paired. -/
def twoPaired : Server :=
  { twoWaiting with
    pool := twoWaiting.pool.popped (MatchPool.band 1000) []
    rooms := GameRoomManager.new.createRoom 2 1 2
    users := (twoWaiting.users.setState 0 .gaming).setState 1 .gaming
    sent := [⟨10, .MATCH_PUSH, matchedResult 1⟩, ⟨11, .MATCH_PUSH, matchedResult 2⟩] }

theorem matchQueue_twoWaiting : twoWaiting.matchQueue 0 2 = .ok twoPaired :=
  @matchQueue_online twoWaiting 0 1 2 [] 10 11 0 1 2 rfl rfl rfl rfl rfl

/-- Users 1 and 2, who have been paired. -/
def twoUsers : Side → UserId
  | .white => 1
  | .black => 2

/-- Their connections. -/
def twoConns : Side → ConnId
  | .white => 10
  | .black => 11

/-- Both are logged in, and nobody has an opponent yet. -/
theorem ready_twoWaiting : Ready twoUsers twoConns twoWaiting := by
  have conns (user : UserId) : twoWaiting.users.getConnByUserId user =
      if user = 2 then some 11 else if user = 1 then some 10 else none := rfl
  have users (conn : ConnId) : twoWaiting.users.getUserIdByConn conn =
      (if conn = 11 then some 2 else if conn = 10 then some 1 else none : Option UserId).getD 0 :=
    rfl
  refine ⟨by decide, fun side user => ?_, fun side conn => ?_, fun side user _ => ?_⟩
  · rw [conns]
    cases side <;> simp only [twoUsers, twoConns] <;> grind
  · rw [users]
    cases side <;> simp only [twoUsers, twoConns] <;> grind
  · have none : twoWaiting.rooms.getUserIdFromOtherId user = 0 := rfl
    rw [none]
    cases side <;> decide

/-- Now they sit in one room. -/
theorem inRoom_twoPaired : InRoom 0 twoUsers twoConns twoPaired :=
  @inRoom_paired _ _ twoUsers twoConns ready_twoWaiting (by decide) 0 2 [] rfl matchQueue_twoWaiting

theorem nonzero_twoUsers (side : Side) : twoUsers side ≠ 0 := by
  cases side <;> decide

/-! ### Whole runs -/

/-- Two players stay together in their room throughout a run exactly if none of its steps is one of
the events that part them. -/
theorem inRoom_always_iff (start : InRoom ref users conns server)
    (nonzero : ∀ side, users side ≠ 0) (events : List ServerEvent) :
    Always Server.step (InRoom ref users conns) server events ↔
      Admissible Server.step (WhenReturns Server.step (Stays users conns)) server events :=
  always_iff_whenReturns
    (fun _ _ _ inRoom stepEq => inRoom_step_iff inRoom nonzero stepEq) start events

/-- The first player logs in once more, on another connection, and is parted from the second. -/
theorem not_inRoom_always_secondLogin :
    ¬ Always Server.step (InRoom 0 twoUsers twoConns) twoPaired (enter 12 "ann") := by
  rw [inRoom_always_iff inRoom_twoPaired nonzero_twoUsers]
  rintro ⟨_, rest⟩
  obtain ⟨stays, _⟩ := rest (twoPaired.onConnect 12) rfl
  have elsewhere := stays (by decide +kernel) (UserDB.newRow 1 "ann" "") rfl .white
  exact absurd (elsewhere.mpr rfl) (by decide)

end GomukuServer.Proofs.PartedPlayers
