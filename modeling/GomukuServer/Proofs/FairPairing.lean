/-
Module: GomukuServer.Proofs.FairPairing
Layer: Proofs
Purpose: What the match thread makes of three queues of users who are all online, until it waits
  again.  Every turn of its loop serves a desk with three queues; the rooms, the states and the
  messages follow the log of that desk.
Trusted boundary: none
Main exports: Ready, PairedOff, Opened, Serves, matchThread_pairsOff
-/
import GomukuServer.Base.PairingOff
import GomukuServer.Module.MatchHandler

namespace GomukuServer.Proofs.FairPairing

open Base Base.PairingOff Base.PairingOff.Desk Model Manager Db Net
open GomukuServer.Module GomukuServer.Module.Server

/-- The queues have different users, who are online, each on a connection that leads back to it. -/
structure Ready (server : Server) : Prop where
  apart : Apart server.pool.queues
  mapped : ∀ i, ∀ userId ∈ server.pool.queues i, ∃ conn,
    server.users.userId2Conn.find? userId = some conn ∧
      server.users.conn2UserId.find? conn = some userId

/-- In every room of the two, whatever has been played there, `handleChess` puts down stones of this
colour for the user. -/
def Plays (room : GameRoomInfo) (userId : UserId) (color : Int) : Prop :=
  ∀ later : GameRoomInfo, later.whiteId = room.whiteId → later.blackId = room.blackId →
    ∀ x y, InBoard x y → ∃ after won, later.handleChess x y userId = .ok (after, won) ∧
      after.board.read x y = .ok color

/-- The user sits in the room, and in no other new one, is `GAMING`, and has been told, once and if
its connection is up, the colour it plays. -/
structure Seated (start next : Server) (ref : Ref) (room : GameRoomInfo) (userId : UserId)
    (color : Int) : Prop where
  seat : next.rooms.userId2Room.find? userId = some ref
  only : ∀ other otherRoom, start.rooms.rooms.next ≤ other →
    next.rooms.rooms.deref other = some otherRoom →
    userId = otherRoom.whiteId ∨ userId = otherRoom.blackId → other = ref
  gaming : next.users.stateOf userId = some .gaming
  told : ∀ conn, start.users.getConnByUserId userId = some conn →
    (next.sent.drop start.sent.length).filter (·.conn = conn) =
      if conn ∈ start.conns.conns then [⟨conn, .MATCH_PUSH, matchedResult color⟩] else []
  plays : Plays room userId color

/-- The log lists the pairs in the order of their rooms.  Every queue has produced its users two by
two and has one user left at most; each pair sits in its room. -/
structure PairedOff (start next : Server) (log : List (Fin 3 × UserId × UserId)) : Prop where
  inOrder : ∀ i, start.pool.queues i =
    members ((log.filter (·.1 = i)).map (·.2)) ++ next.pool.queues i
  fewLeft : ∀ i, (next.pool.queues i).length ≤ 1
  rooms : next.rooms.rooms.next = start.rooms.rooms.next + log.length
  together : ∀ k i userId1 userId2, log[k]? = some (i, userId1, userId2) →
    ∃ room, next.rooms.rooms.deref (start.rooms.rooms.next + k) = some room ∧
      room.whiteId = userId1 ∧ room.blackId = userId2 ∧
      Seated start next (start.rooms.rooms.next + k) room userId1 1 ∧
      Seated start next (start.rooms.rooms.next + k) room userId2 2
  distinctIds : log.length < 2 ^ 32 → ∀ k other room otherRoom,
    next.rooms.rooms.deref (start.rooms.rooms.next + k) = some room →
    next.rooms.rooms.deref (start.rooms.rooms.next + other) = some otherRoom →
    room.roomId = otherRoom.roomId → k = other

/-! ### Rooms -/

/-- The rooms of some pairs have been opened, one after the other. -/
structure Opened (storage : Ref → UInt32) (before after : GameRoomManager)
    (pairs : List (UserId × UserId)) : Prop where
  next : after.rooms.next = before.rooms.next + pairs.length
  nextId : after.roomNextId = before.roomNextId + UInt32.ofNat pairs.length
  room : ∀ k (pair : UserId × UserId), pairs[k]? = some pair →
    after.rooms.deref (before.rooms.next + k) = some (GameRoomInfo.new
      (storage (before.rooms.next + k)) (before.roomNextId + UInt32.ofNat k) pair.1 pair.2)
  seat : ∀ k (pair : UserId × UserId), pairs[k]? = some pair →
    ∀ userId, userId = pair.1 ∨ userId = pair.2 →
      after.userId2Room.find? userId = some (before.rooms.next + k)

theorem opened_nil (storage : Ref → UInt32) (rooms : GameRoomManager) :
    Opened storage rooms rooms [] where
  next := rfl
  nextId := by simp
  room := by simp
  seat := by simp

/-- An entry of a list with one more at the end. -/
theorem entry_append {Entry : Type} {entries : List Entry} {last entry : Entry} {k : Nat}
    (found : (entries ++ [last])[k]? = some entry) :
    (k < entries.length ∧ entries[k]? = some entry) ∨ (k = entries.length ∧ last = entry) := by
  rcases lt_trichotomy k entries.length with earlier | rfl | later
  · rw [List.getElem?_append_left earlier] at found
    exact .inl ⟨earlier, found⟩
  · simp only [List.getElem?_concat_length, Option.some.injEq] at found
    exact .inr ⟨rfl, found⟩
  · rw [List.getElem?_eq_none (by simp; omega)] at found
    simp at found

/-- A room for two users who have none yet. -/
theorem Opened.createRoom {storage : Ref → UInt32} {before after : GameRoomManager}
    {pairs : List (UserId × UserId)} (opened : Opened storage before after pairs)
    {userId1 userId2 : UserId} (fresh1 : userId1 ∉ members pairs)
    (fresh2 : userId2 ∉ members pairs) :
    Opened storage before (after.createRoom (storage after.rooms.next) userId1 userId2)
      (pairs ++ [(userId1, userId2)]) where
  next := by
    simp only [GameRoomManager.createRoom, Heap.next_alloc, opened.next, List.length_append,
      List.length_singleton, Nat.add_assoc]
  nextId := by
    simp only [GameRoomManager.createRoom, opened.nextId, List.length_append,
      List.length_singleton, UInt32.ofNat_add, UInt32.add_assoc]
    rfl
  room := by
    intro k pair entry
    simp only [GameRoomManager.createRoom, Heap.deref_alloc, opened.next, Nat.add_left_cancel_iff]
    rcases entry_append entry with ⟨earlier, old⟩ | ⟨rfl, rfl⟩
    · rw [if_neg (Nat.ne_of_lt earlier)]
      exact opened.room k pair old
    · rw [if_pos rfl, ← opened.nextId]
  seat := by
    intro k pair entry userId one
    simp only [GameRoomManager.createRoom, PMap.find?_insert, opened.next]
    rcases entry_append entry with ⟨_, old⟩ | ⟨rfl, rfl⟩
    · have inside : userId ∈ members pairs :=
        mem_members.mpr ⟨pair, List.mem_of_getElem? old, one⟩
      have other1 : userId ≠ userId1 := fun same => fresh1 (same ▸ inside)
      have other2 : userId ≠ userId2 := fun same => fresh2 (same ▸ inside)
      rw [if_neg other2, if_neg other1]
      exact opened.seat k pair old userId one
    · rcases one with rfl | rfl <;> simp

/-- The ids of fewer than `2 ^ 32` rooms that have been opened one after the other. -/
theorem roomId_injective {first : RoomId} {k other : Nat} (kSmall : k < 2 ^ 32)
    (otherSmall : other < 2 ^ 32)
    (same : first + UInt32.ofNat k = first + UInt32.ofNat other) : k = other := by
  have numbers := congrArg UInt32.toNat ((UInt32.add_right_inj first).mp same)
  rwa [UInt32.toNat_ofNat_of_lt' kSmall, UInt32.toNat_ofNat_of_lt' otherSmall] at numbers

/-! ### Messages -/

/-- What a user is told, if its connection is up. -/
def push (start : Server) (userId : UserId) (color : Int) : List Sent :=
  match start.users.getConnByUserId userId with
  | some conn =>
      if conn ∈ start.conns.conns then [⟨conn, .MATCH_PUSH, matchedResult color⟩] else []
  | none => []

/-- What the two users of a pair are told. -/
def pushes (start : Server) (pair : UserId × UserId) : List Sent :=
  push start pair.1 1 ++ push start pair.2 2

/-- A message to another connection. -/
theorem filter_push_of_ne {start : Server} {userId : UserId} {conn : ConnId} (color : Int)
    (other : start.users.getConnByUserId userId ≠ some conn) :
    (push start userId color).filter (·.conn = conn) = [] := by
  unfold push
  split
  · rename_i found
    have ne : ∀ {peer : ConnId}, start.users.getConnByUserId userId = some peer → peer ≠ conn :=
      fun there same => other (same ▸ there)
    split <;> simp [ne found]
  · rfl

/-- A message to the connection itself. -/
theorem filter_push_self {start : Server} {userId : UserId} {conn : ConnId} (color : Int)
    (there : start.users.getConnByUserId userId = some conn) :
    (push start userId color).filter (·.conn = conn) =
      if conn ∈ start.conns.conns then [⟨conn, .MATCH_PUSH, matchedResult color⟩] else [] := by
  unfold push
  rw [there]
  dsimp only
  split <;> simp

/-- Who is in no pair is told nothing. -/
theorem filter_pushes_of_notMem {start : Server} {pairs : List (UserId × UserId)} {conn : ConnId}
    (nobody : ∀ other ∈ members pairs, start.users.getConnByUserId other ≠ some conn) :
    (pairs.flatMap (pushes start)).filter (·.conn = conn) = [] := by
  rw [List.filter_flatMap, List.flatMap_eq_nil_iff]
  intro pair inside
  have ne : ∀ other, other = pair.1 ∨ other = pair.2 →
      start.users.getConnByUserId other ≠ some conn :=
    fun other one => nobody other (mem_members.mpr ⟨pair, inside, one⟩)
  rw [pushes, List.filter_append, filter_push_of_ne 1 (ne _ (.inl rfl)),
    filter_push_of_ne 2 (ne _ (.inr rfl)), List.append_nil]

/-- The user is in the pair, and this is its colour. -/
def HasColor (pair : UserId × UserId) (userId : UserId) (color : Int) : Prop :=
  (userId = pair.1 ∧ color = 1) ∨ (userId = pair.2 ∧ color = 2)

theorem HasColor.mem {pair : UserId × UserId} {userId : UserId} {color : Int}
    (has : HasColor pair userId color) : userId = pair.1 ∨ userId = pair.2 :=
  has.imp And.left And.left

/-- A user of one pair is told once, and its own colour. -/
theorem filter_pushes {start : Server} {pairs : List (UserId × UserId)} {userId : UserId}
    {conn : ConnId} (once : (members pairs).Nodup)
    (own : ∀ other ∈ members pairs, start.users.getConnByUserId other = some conn → other = userId)
    (there : start.users.getConnByUserId userId = some conn) {pair : UserId × UserId}
    (inside : pair ∈ pairs) {color : Int} (has : HasColor pair userId color) :
    (pairs.flatMap (pushes start)).filter (·.conn = conn) =
      if conn ∈ start.conns.conns then [⟨conn, .MATCH_PUSH, matchedResult color⟩] else [] := by
  induction pairs with
  | nil => simp at inside
  | cons first pairs inductionHypothesis =>
      rw [show first :: pairs = [first] ++ pairs from rfl, members_append,
        List.nodup_append] at once
      obtain ⟨firstOnce, restOnce, apart⟩ := once
      have restOwn : ∀ other ∈ members pairs, start.users.getConnByUserId other = some conn →
          other = userId := fun other later => own other (List.mem_append_right _ later)
      rw [List.flatMap_cons, List.filter_append]
      rcases List.mem_cons.mp inside with rfl | later
      · have absent : userId ∉ members pairs :=
          fun again => apart userId (by simpa using has.mem) userId again rfl
        rw [filter_pushes_of_notMem
          fun other later told => absent (restOwn other later told ▸ later), List.append_nil,
          pushes, List.filter_append]
        have ne : pair.1 ≠ pair.2 := by simpa using firstOnce
        rcases has with ⟨rfl, rfl⟩ | ⟨rfl, rfl⟩
        · rw [filter_push_self 1 there, filter_push_of_ne 2
            fun told => ne (own pair.2 (by simp [members]) told).symm, List.append_nil]
        · rw [filter_push_self 2 there, filter_push_of_ne 1
            fun told => ne (own pair.1 (by simp [members]) told), List.nil_append]
      · have inRest : userId ∈ members pairs := mem_members.mpr ⟨pair, later, has.mem⟩
        have ne : ∀ other, other ∈ members [first] →
            start.users.getConnByUserId other ≠ some conn := by
          intro other inFirst told
          obtain rfl := own other (List.mem_append_left _ inFirst) told
          exact apart other inFirst other inRest rfl
        rw [inductionHypothesis restOnce restOwn later, pushes, List.filter_append,
          filter_push_of_ne 1 (ne _ (by simp)), filter_push_of_ne 2 (ne _ (by simp))]
        rfl

/-! ### One turn -/

/-- The server has done for the pairs of a desk's log what a turn of the match thread does for a
pair, and nothing else. -/
structure Serves (storage : Ref → UInt32) (start server : Server) (desk : Desk (Fin 3) UserId) :
    Prop where
  queues : server.pool.queues = desk.queues
  accounts : Accounts start.pool.queues desk
  once : (members (desk.log.map (·.2))).Nodup
  conns : server.conns = start.conns
  userId2Conn : server.users.userId2Conn = start.users.userId2Conn
  conn2UserId : server.users.conn2UserId = start.users.conn2UserId
  gaming : ∀ userId ∈ members (desk.log.map (·.2)), server.users.stateOf userId = some .gaming
  opened : Opened storage start.rooms server.rooms (desk.log.map (·.2))
  sent : server.sent = start.sent ++ (desk.log.map (·.2)).flatMap (pushes start)

theorem serves_start {start : Server} (storage : Ref → UInt32) :
    Serves storage start start ⟨start.pool.queues, []⟩ where
  queues := rfl
  accounts := accounts_start start.pool.queues
  once := List.nodup_nil
  conns := rfl
  userId2Conn := rfl
  conn2UserId := rfl
  gaming := by simp
  opened := opened_nil storage start.rooms
  sent := by simp

/-- What a user of the queues has in the tables. -/
theorem Ready.exists_user {start : Server} (ready : Ready start) {i : Fin 3} {userId : UserId}
    (waits : userId ∈ start.pool.queues i) {users : UserManager}
    (userId2Conn : users.userId2Conn = start.users.userId2Conn)
    (conn2UserId : users.conn2UserId = start.users.conn2UserId) :
    ∃ conn ref, users.userId2Conn.find? userId = some conn ∧
      start.users.getConnByUserId userId = some conn ∧
      users.getUserByconn (some conn) = some ref ∧ users.userId2User.find? userId = some ref := by
  obtain ⟨conn, there, back⟩ := ready.mapped i userId waits
  rw [← userId2Conn] at there
  rw [← conn2UserId] at back
  have online := users.same_online userId
  rw [there] at online
  obtain ⟨ref, found⟩ := Option.isSome_iff_exists.mp online.symm
  refine ⟨conn, ref, there, ?_, ?_, found⟩
  · rw [UserManager.getConnByUserId, ← userId2Conn, there]
  · simp [UserManager.getUserByconn, back, found]

/-- No two users of the queues have one connection. -/
theorem Ready.eq_of_conn {start : Server} (ready : Ready start) {userId other : UserId}
    (waits : ∃ i, userId ∈ start.pool.queues i) (otherWaits : ∃ i, other ∈ start.pool.queues i)
    {conn : ConnId} (there : start.users.getConnByUserId userId = some conn)
    (otherThere : start.users.getConnByUserId other = some conn) : userId = other := by
  obtain ⟨i, waits⟩ := waits
  obtain ⟨j, otherWaits⟩ := otherWaits
  obtain ⟨one, found, back⟩ := ready.mapped i userId waits
  obtain ⟨two, otherFound, otherBack⟩ := ready.mapped j other otherWaits
  obtain rfl := Option.some.inj (found.symm.trans there)
  obtain rfl := Option.some.inj (otherFound.symm.trans otherThere)
  exact Option.some.inj (back.symm.trans otherBack)

/-- Who has been paired has waited. -/
theorem Serves.mem_start {storage : Ref → UInt32} {start server : Server}
    {desk : Desk (Fin 3) UserId} (serves : Serves storage start server desk) {userId : UserId}
    (inLog : userId ∈ members (desk.log.map (·.2))) : ∃ i, userId ∈ start.pool.queues i := by
  obtain ⟨pair, inside, one⟩ := mem_members.mp inLog
  obtain ⟨⟨i, _⟩, taken, rfl⟩ := List.mem_map.mp inside
  exact ⟨i, (serves.accounts.mem_of_log taken one).2⟩

/-- A turn of the loop serves the desk. -/
theorem Serves.matchQueue {storage : Ref → UInt32} {start server : Server}
    {desk : Desk (Fin 3) UserId} (ready : Ready start) (serves : Serves storage start server desk)
    (i : Fin 3) :
    ∃ next, server.matchQueue i (storage server.rooms.rooms.next) = .ok next ∧
      Serves storage start next (desk.serve i) := by
  rcases desk.short_or_two i with short | ⟨userId1, userId2, rest, queued⟩
  · rw [serve_of_short short]
    exact ⟨server, matchQueue_short _ (serves.queues ▸ short), serves⟩
  · have wait1 : userId1 ∈ desk.queues i := by simp [queued]
    have wait2 : userId2 ∈ desk.queues i := by simp [queued]
    obtain ⟨ne, fresh1, fresh2⟩ := serves.accounts.fresh ready.apart queued
    obtain ⟨conn1, ref1, there1, start1, user1, found1⟩ := ready.exists_user
      (serves.accounts.mem_of_waiting wait1) serves.userId2Conn serves.conn2UserId
    obtain ⟨conn2, ref2, there2, start2, user2, found2⟩ := ready.exists_user
      (serves.accounts.mem_of_waiting wait2) serves.userId2Conn serves.conn2UserId
    have accounts := serves.accounts.serve i
    have once := serves.accounts.nodup_serve ready.apart serves.once i
    rw [serve_of_two queued] at accounts once ⊢
    refine ⟨_, matchQueue_online _ (serves.queues ▸ queued) there1 there2 user1 user2, ?_⟩
    exact {
      queues := by simp [MatchPool.popped, serves.queues]
      accounts := accounts
      once := once
      conns := serves.conns
      userId2Conn := serves.userId2Conn
      conn2UserId := serves.conn2UserId
      gaming := by
        intro userId inside
        have found2' : (server.users.setState ref1 .gaming).userId2User.find? userId2 = some ref2 :=
          found2
        change ((server.users.setState ref1 .gaming).setState ref2 .gaming).stateOf userId = _
        rw [UserManager.stateOf_setState_of_found found2',
          UserManager.stateOf_setState_of_found found1]
        split
        · rfl
        · split
          · rfl
          · refine serves.gaming userId ?_
            simpa [*] using inside
      opened := by
        simpa using serves.opened.createRoom fresh1 fresh2
      sent := by
        simp only [serves.sent, serves.conns, List.map_append, List.map_cons, List.map_nil,
          List.flatMap_append, List.flatMap_cons, List.flatMap_nil, pushes, push, start1, start2,
          List.append_assoc, List.append_nil] }

/-- A round of turns serves the desk. -/
theorem Serves.matchRound {storage : Ref → UInt32} {start server : Server}
    {desk : Desk (Fin 3) UserId} (ready : Ready start)
    (serves : Serves storage start server desk) :
    ∃ next, server.matchRound storage = .ok next ∧
      Serves storage start next (desk.round (List.finRange 3)) := by
  unfold Server.matchRound
  generalize List.finRange 3 = turns
  induction turns generalizing server desk with
  | nil => exact ⟨server, rfl, serves⟩
  | cons i turns inductionHypothesis =>
      obtain ⟨middle, turned, middleServes⟩ := serves.matchQueue ready i
      obtain ⟨next, rest, nextServes⟩ := inductionHypothesis middleServes
      exact ⟨next, by rw [List.foldlM_cons, turned, ok_bind, rest], nextServes⟩

/-- The thread waits again after at most as many rounds as there are users in the queues. -/
theorem Serves.matchThread {storage : Ref → UInt32} {start server : Server}
    {desk : Desk (Fin 3) UserId} (ready : Ready start)
    (serves : Serves storage start server desk) :
    ∃ next last, Serves storage start next last ∧ next.NobodyToPair ∧
      ∀ turns, desk.waiting < turns → server.matchThread storage turns = .ok next := by
  induction waits : desk.waiting using Nat.strong_induction_on generalizing server desk with
  | _ count inductionHypothesis =>
      subst waits
      by_cases idle : server.NobodyToPair
      · refine ⟨server, desk, serves, idle, fun turns enough => ?_⟩
        obtain ⟨more, rfl⟩ := Nat.exists_eq_succ_of_ne_zero (Nat.ne_zero_of_lt enough)
        rw [Server.matchThread, if_pos idle]
      · have busy := idle
        rw [NobodyToPair, not_forall] at busy
        obtain ⟨i, two⟩ := busy
        rw [serves.queues] at two
        have fewer := waiting_round_lt (List.mem_finRange i)
          (by omega : 2 ≤ (desk.queues i).length)
        obtain ⟨middle, turned, middleServes⟩ := serves.matchRound ready
        obtain ⟨next, last, nextServes, done, ends⟩ :=
          inductionHypothesis _ fewer middleServes rfl
        refine ⟨next, last, nextServes, done, fun turns enough => ?_⟩
        obtain ⟨more, rfl⟩ := Nat.exists_eq_succ_of_ne_zero (Nat.ne_zero_of_lt enough)
        rw [Server.matchThread, if_neg idle, turned, ok_bind]
        exact ends _ (by omega)

/-! ### What is left behind -/

/-- A user plays the colour that `handleChess` has for it. -/
theorem plays_chessOf (room : GameRoomInfo) (userId : UserId) :
    Plays room userId (room.chessOf userId) := by
  intro later white _ x y inBoard
  have same : later.chessOf userId = room.chessOf userId := by
    rw [GameRoomInfo.chessOf, GameRoomInfo.chessOf, white]
  obtain ⟨board, won, written, handled, _⟩ := later.handleChess_spec userId inBoard
  refine ⟨_, won, handled, ?_⟩
  rw [Board.read_write written, if_pos ⟨rfl, rfl⟩, same]

/-- The rooms that are new belong to the pairs. -/
theorem Opened.entry_of_deref {storage : Ref → UInt32} {before after : GameRoomManager}
    {pairs : List (UserId × UserId)} (opened : Opened storage before after pairs) {ref : Ref}
    {room : GameRoomInfo} (new : before.rooms.next ≤ ref)
    (held : after.rooms.deref ref = some room) :
    ∃ k pair, ref = before.rooms.next + k ∧ pairs[k]? = some pair ∧
      room = GameRoomInfo.new (storage (before.rooms.next + k))
        (before.roomNextId + UInt32.ofNat k) pair.1 pair.2 := by
  obtain ⟨k, rfl⟩ := Nat.exists_eq_add_of_le new
  have small := Heap.lt_next_of_deref held
  rw [opened.next] at small
  have kSmall : k < pairs.length := Nat.lt_of_add_lt_add_left small
  have entry := List.getElem?_eq_getElem kSmall
  refine ⟨k, _, rfl, entry, ?_⟩
  rw [opened.room k _ entry] at held
  exact (Option.some.inj held).symm

/-- The user of a pair is where it should be. -/
theorem Serves.seated {storage : Ref → UInt32} {start next : Server} {desk : Desk (Fin 3) UserId}
    (ready : Ready start) (serves : Serves storage start next desk) {k : Nat} {i : Fin 3}
    {pair : UserId × UserId} (entry : desk.log[k]? = some (i, pair)) {room : GameRoomInfo}
    (held : next.rooms.rooms.deref (start.rooms.rooms.next + k) = some room) {userId : UserId}
    {color : Int} (has : HasColor pair userId color) :
    Seated start next (start.rooms.rooms.next + k) room userId color := by
  have taken := List.mem_of_getElem? entry
  have pairEntry : (desk.log.map (·.2))[k]? = some pair := by simp [entry]
  have inside := List.mem_of_getElem? pairEntry
  have among : userId ∈ members (desk.log.map (·.2)) := mem_members.mpr ⟨pair, inside, has.mem⟩
  obtain rfl := Option.some.inj ((serves.opened.room k pair pairEntry).symm.trans held)
  exact {
    seat := serves.opened.seat k pair pairEntry userId has.mem
    only := by
      intro other otherRoom new otherHeld one
      obtain ⟨k', pair', rfl, entry', rfl⟩ := serves.opened.entry_of_deref new otherHeld
      rw [entry_unique serves.once pairEntry entry' has.mem one]
    gaming := serves.gaming userId among
    told := by
      intro conn there
      have own : ∀ other ∈ members (desk.log.map (·.2)),
          start.users.getConnByUserId other = some conn → other = userId := by
        intro other inLog told
        exact ready.eq_of_conn (serves.mem_start inLog) (serves.mem_start among) told there
      rw [serves.sent, List.drop_left]
      exact filter_pushes serves.once own there inside has
    plays := by
      have color := plays_chessOf (GameRoomInfo.new
        (storage (start.rooms.rooms.next + k)) (start.rooms.roomNextId + UInt32.ofNat k)
        pair.1 pair.2) userId
      have ne := ne_of_mem_members serves.once inside
      rcases has with ⟨rfl, rfl⟩ | ⟨rfl, rfl⟩
      · simpa [GameRoomInfo.chessOf, GameRoomInfo.new, whiteChess] using color
      · simpa [GameRoomInfo.chessOf, GameRoomInfo.new, blackChess, Ne.symm ne] using color }

/-- Whatever the queues have, as long as their users are different and online, each on a connection
that leads back to it: the match thread waits again after some rounds.  By then every queue has been
paired off in order, with one user left at most, every pair plays in a room of its own, and each
player has been told the colour of its stones. -/
theorem matchThread_pairsOff {start : Server} (ready : Ready start) (storage : Ref → UInt32) :
    ∃ rounds next log, (∀ turns, rounds < turns → start.matchThread storage turns = .ok next) ∧
      next.NobodyToPair ∧ PairedOff start next log := by
  obtain ⟨next, desk, serves, idle, ends⟩ := (serves_start storage).matchThread ready
  refine ⟨_, next, desk.log, ends, idle, ?_⟩
  exact {
    inOrder := fun i => by rw [serves.queues]; exact serves.accounts i
    fewLeft := idle
    rooms := by rw [serves.opened.next, List.length_map]
    together := by
      intro k i userId1 userId2 entry
      have held := serves.opened.room k (userId1, userId2) (by simp [entry])
      exact ⟨_, held, rfl, rfl, serves.seated ready entry held (.inl ⟨rfl, rfl⟩),
        serves.seated ready entry held (.inr ⟨rfl, rfl⟩)⟩
    distinctIds := by
      intro few k other room otherRoom held otherHeld same
      obtain ⟨k', pair, kEq, entry, rfl⟩ :=
        serves.opened.entry_of_deref (Nat.le_add_right _ _) held
      obtain ⟨other', otherPair, otherEq, otherEntry, rfl⟩ :=
        serves.opened.entry_of_deref (Nat.le_add_right _ _) otherHeld
      have small := (List.getElem?_eq_some_iff.mp entry).1
      have otherSmall := (List.getElem?_eq_some_iff.mp otherEntry).1
      rw [List.length_map] at small otherSmall
      rw [Nat.add_left_cancel kEq, Nat.add_left_cancel otherEq]
      exact roomId_injective (by omega) (by omega) same }

/-- A server on which users 1, 2 and 3 wait in the first queue, on connections 11, 12 and 13. -/
def threeWaiting : Server :=
  { Server.new UserDB.new with
    conns := ⟨{11, 12, 13}⟩
    users := [1, 2, 3].foldl (fun users userId => users.addOnlineUser
      (UserInfo.new "" (UInt32.ofNat userId) 1000 0 0 (userId + 10))) UserManager.new
    pool := ⟨fun i => if i = MatchPool.band 1000 then [1, 2, 3] else []⟩ }

theorem matchThread_pairsOff_three : ∃ rounds next log,
    (∀ turns, rounds < turns → threeWaiting.matchThread (fun _ => 7) turns = .ok next) ∧
      next.NobodyToPair ∧ PairedOff threeWaiting next log := by
  have first : ∀ i userId, userId ∈ threeWaiting.pool.queues i → i = MatchPool.band 1000 := by
    intro i userId inside
    by_contra other
    simp [threeWaiting, other] at inside
  refine matchThread_pairsOff ⟨⟨by decide, ?_⟩, ?_⟩ fun _ => 7
  · intro i j userId one two
    rw [first i userId one, first j userId two]
  · intro i userId inside
    obtain rfl := first i userId inside
    have named : userId = 1 ∨ userId = 2 ∨ userId = 3 := by simpa [threeWaiting] using inside
    rcases named with rfl | rfl | rfl
    · exact ⟨11, rfl, rfl⟩
    · exact ⟨12, rfl, rfl⟩
    · exact ⟨13, rfl, rfl⟩

end GomukuServer.Proofs.FairPairing
