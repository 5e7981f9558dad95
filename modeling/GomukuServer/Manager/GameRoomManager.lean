/-
Module: GomukuServer.Manager.GameRoomManager
Layer: Manager
Purpose: The rooms and the two tables that lead to them, by user and by room id.  Both tables hold
  pointers to one room object, so the rooms live in a heap.
Trusted boundary: calls do not overlap; a room that nothing points to any more stays in the heap
Main exports: GameRoomManager, createRoom, passiveRemoveRoom, removeUser, getUserIdFromOtherId,
  handChess, removeUser_ok, handChess_true_iff, find?_createRoom, getUserIdFromOtherId_createRoom,
  getUserIdFromOtherId_removeUser, getUserIdFromOtherId_handChess
-/
import GomukuServer.Manager.UserManager

namespace GomukuServer.Manager

open Base Base.Lines Model

/-- `GameRoomManager`.  The two laws hold for every state the operations can build: an entry of
`userId2Room` points to a room that was created for its user, and an entry of `roomId2Room` to a
room with its id. -/
structure GameRoomManager where
  roomNextId : RoomId
  rooms : Heap GameRoomInfo
  userId2Room : PMap UserId Ref
  roomId2Room : PMap RoomId Ref
  user_seated : ∀ user ref, userId2Room.find? user = some ref →
    ∃ room, rooms.deref ref = some room ∧ (user = room.whiteId ∨ user = room.blackId)
  room_named : ∀ id ref, roomId2Room.find? id = some ref →
    ∃ room, rooms.deref ref = some room ∧ room.roomId = id

namespace GameRoomManager

/-- The constructor. -/
def new : GameRoomManager where
  roomNextId := 1
  rooms := Heap.empty
  userId2Room := PMap.empty
  roomId2Room := PMap.empty
  user_seated := by simp
  room_named := by simp

/-- `createRoom`.  `roomCount` is the value the room's constructor finds in its counter. -/
def createRoom (mgr : GameRoomManager) (roomCount : UInt32) (userId1 userId2 : UserId) :
    GameRoomManager where
  roomNextId := mgr.roomNextId + 1
  rooms := mgr.rooms.alloc (GameRoomInfo.new roomCount mgr.roomNextId userId1 userId2)
  userId2Room := (mgr.userId2Room.insert userId1 mgr.rooms.next).insert userId2 mgr.rooms.next
  roomId2Room := mgr.roomId2Room.insert mgr.roomNextId mgr.rooms.next
  user_seated := by
    intro user ref found
    simp only [PMap.find?_insert] at found
    split at found
    · simp only [Option.some.injEq] at found
      exact ⟨_, by rw [Heap.deref_alloc, if_pos found.symm], Or.inr (by assumption)⟩
    · split at found
      · simp only [Option.some.injEq] at found
        exact ⟨_, by rw [Heap.deref_alloc, if_pos found.symm], Or.inl (by assumption)⟩
      · obtain ⟨room, held, seated⟩ := mgr.user_seated user ref found
        exact ⟨room, by simp [Heap.ne_next_of_deref held, held], seated⟩
  room_named := by
    intro id ref found
    simp only [PMap.find?_insert] at found
    split at found
    · simp only [Option.some.injEq] at found
      exact ⟨_, by rw [Heap.deref_alloc, if_pos found.symm], by simp_all [GameRoomInfo.new]⟩
    · obtain ⟨room, held, named⟩ := mgr.room_named id ref found
      exact ⟨room, by simp [Heap.ne_next_of_deref held, held], named⟩

/-- `m_userId2Room.erase(userId)`. -/
def eraseUser (mgr : GameRoomManager) (userId : UserId) : GameRoomManager :=
  { mgr with
    userId2Room := mgr.userId2Room.erase userId
    user_seated := by
      intro user ref found
      by_cases same : user = userId
      · simp [same] at found
      · simp only [PMap.find?_erase, same, if_false] at found
        exact mgr.user_seated user ref found }

/-- `m_roomId2Room.erase(roomId)`. -/
def eraseRoom (mgr : GameRoomManager) (roomId : RoomId) : GameRoomManager :=
  { mgr with
    roomId2Room := mgr.roomId2Room.erase roomId
    room_named := by
      intro id ref found
      by_cases same : id = roomId
      · simp [same] at found
      · simp only [PMap.find?_erase, same, if_false] at found
        exact mgr.room_named id ref found }

/-- What no member function of a room changes. -/
def KeepsIds (change : GameRoomInfo → GameRoomInfo) : Prop :=
  ∀ room, (change room).roomId = room.roomId ∧ (change room).whiteId = room.whiteId ∧
    (change room).blackId = room.blackId

/-- Update a room through a pointer to it. -/
def updateRoom (mgr : GameRoomManager) (ref : Ref) (change : GameRoomInfo → GameRoomInfo)
    (keeps : KeepsIds change) : GameRoomManager :=
  { mgr with
    rooms := mgr.rooms.modify ref change
    user_seated := by
      intro user other found
      obtain ⟨room, held, seated⟩ := mgr.user_seated user other found
      by_cases same : other = ref
      · subst same
        refine ⟨change room, by simp [held], ?_⟩
        rw [(keeps room).2.1, (keeps room).2.2]
        exact seated
      · exact ⟨room, by simp [same, held], seated⟩
    room_named := by
      intro id other found
      obtain ⟨room, held, named⟩ := mgr.room_named id other found
      by_cases same : other = ref
      · subst same
        exact ⟨change room, by simp [held], (keeps room).1.trans named⟩
      · exact ⟨room, by simp [same, held], named⟩ }

/-- Locking `m_mutex`, which is not recursive. -/
def lock (held : Bool) : Except Fault Unit :=
  if held then .error .selfDeadlock else .ok ()

/-- `passiveRemoveRoom`.  `held` tells whether the calling frame already owns `m_mutex`. -/
def passiveRemoveRoom (mgr : GameRoomManager) (held : Bool) (roomId : RoomId) :
    Except Fault GameRoomManager := do
  lock held
  return mgr.eraseRoom roomId

/-- `removeUser`, with the `UserManager` singleton it calls.  The lock is taken at the top and held
to the end, also across the call of `passiveRemoveRoom`. -/
def removeUser (mgr : GameRoomManager) (users : UserManager) (userId : UserId) :
    Except Fault (GameRoomManager × UserManager) := do
  lock false
  match mgr.userId2Room.find? userId with
  | none => return (mgr, users)
  | some ref =>
      let some room := mgr.rooms.deref ref | .error .nullDereference
      let roomId := room.roomId
      let mgr := (mgr.eraseUser userId).updateRoom ref GameRoomInfo.subCount
        fun _ => ⟨rfl, rfl, rfl⟩
      let mgr ←
        if room.subCount.roomCount = 0 then mgr.passiveRemoveRoom true roomId else .ok mgr
      return (mgr, users.setUserState userId .online)

/-- `getUserIdFromOtherId`, zero for a user without a room. -/
def getUserIdFromOtherId (mgr : GameRoomManager) (id : UserId) : UserId :=
  match (mgr.userId2Room.find? id).bind mgr.rooms.deref with
  | none => 0
  | some room => room.getOtherId id

/-- `handChess`, false for a user without a room. -/
def handChess (mgr : GameRoomManager) (x y : Int) (sendId : UserId) :
    Except Fault (GameRoomManager × Bool) :=
  match mgr.userId2Room.find? sendId with
  | none => .ok (mgr, false)
  | some ref => do
      let some room := mgr.rooms.deref ref | .error .nullDereference
      let (after, won) ← room.handleChess x y sendId
      let board := after.board
      return (mgr.updateRoom ref (fun room => { room with board := board })
        fun _ => ⟨rfl, rfl, rfl⟩, won)

/-! ### Where the users sit -/

/-- A user's entry leads to a room the user was created for. -/
theorem exists_room {mgr : GameRoomManager} {user : UserId} {ref : Ref}
    (found : mgr.userId2Room.find? user = some ref) :
    ∃ room, mgr.rooms.deref ref = some room ∧ (user = room.whiteId ∨ user = room.blackId) :=
  mgr.user_seated user ref found

/-- `removeUser` on a user without a room changes nothing. -/
theorem removeUser_of_absent {mgr : GameRoomManager} {userId : UserId} (users : UserManager)
    (absent : mgr.userId2Room.find? userId = none) :
    mgr.removeUser users userId = .ok (mgr, users) := by
  simp [removeUser, lock, absent]

/-- `removeUser` on a user in a room: when the counter comes down to zero the call locks `m_mutex` a
second time, and otherwise only the user's entry and the counter change. -/
theorem removeUser_of_seated {mgr : GameRoomManager} {userId : UserId} {ref : Ref}
    {room : GameRoomInfo} (users : UserManager)
    (found : mgr.userId2Room.find? userId = some ref) (held : mgr.rooms.deref ref = some room) :
    mgr.removeUser users userId =
      if room.roomCount - 1 = 0 then .error .selfDeadlock
      else .ok ((mgr.eraseUser userId).updateRoom ref GameRoomInfo.subCount
        fun _ => ⟨rfl, rfl, rfl⟩, users.setUserState userId .online) := by
  simp only [removeUser, lock, found, held, passiveRemoveRoom, GameRoomInfo.subCount]
  split <;> simp_all

/-- What a normally returning `removeUser` did to the two tables and to the users. -/
theorem removeUser_ok {mgr next : GameRoomManager} {users nextUsers : UserManager}
    {userId : UserId} (called : mgr.removeUser users userId = .ok (next, nextUsers)) :
    next.userId2Room = mgr.userId2Room.erase userId ∧ next.roomId2Room = mgr.roomId2Room ∧
      next.roomNextId = mgr.roomNextId ∧
      nextUsers = if mgr.userId2Room.find? userId = none then users
        else users.setUserState userId .online := by
  cases found : mgr.userId2Room.find? userId with
  | none =>
      rw [removeUser_of_absent users found] at called
      simp only [Except.ok.injEq, Prod.mk.injEq] at called
      obtain ⟨rfl, rfl⟩ := called
      exact ⟨(PMap.erase_of_find?_eq_none found).symm, rfl, rfl, by simp⟩
  | some ref =>
      obtain ⟨room, held, _⟩ := exists_room found
      rw [removeUser_of_seated users found held] at called
      split at called
      · simp at called
      · simp only [Except.ok.injEq, Prod.mk.injEq] at called
        obtain ⟨rfl, rfl⟩ := called
        exact ⟨rfl, rfl, rfl, by simp⟩

/-! ### Moves -/

/-- `handChess` leaves the tables alone. -/
theorem userId2Room_handChess {mgr rooms : GameRoomManager} {x y : Int} {userId : UserId}
    {ret : Bool} (called : mgr.handChess x y userId = .ok (rooms, ret)) :
    rooms.userId2Room = mgr.userId2Room := by
  unfold handChess at called
  split at called
  · simp only [Except.ok.injEq, Prod.mk.injEq] at called
    rw [← called.1]
  · split at called
    · obtain ⟨⟨after, won⟩, _, built⟩ := bind_eq_ok.mp called
      simp only [pure_eq_ok, Except.ok.injEq, Prod.mk.injEq] at built
      rw [← built.1]
      rfl
    · simp at called

/-- What `handChess` does for a user in a room, on the board. -/
theorem handChess_of_inBoard {mgr : GameRoomManager} {x y : Int} (userId : UserId) {ref : Ref}
    {room : GameRoomInfo} (seated : mgr.userId2Room.find? userId = some ref)
    (held : mgr.rooms.deref ref = some room) (inBoard : InBoard x y) :
    ∃ board rooms ret, room.board.write x y (room.chessOf userId) = .ok board ∧
      mgr.handChess x y userId = .ok (rooms, ret) ∧
      (∀ other, rooms.rooms.deref other =
        if other = ref then some { room with board := board } else mgr.rooms.deref other) ∧
      (ret = true ↔ ∃ first dir, FiveLine board (room.chessOf userId) first dir ∧
        Through first dir 5 (x, y)) := by
  obtain ⟨board, won, written, handled, wonIff⟩ := room.handleChess_spec userId inBoard
  refine ⟨board, _, won, written, by simp only [handChess, seated, held, handled]; rfl, ?_, wonIff⟩
  intro other
  by_cases same : other = ref
  · simp [updateRoom, same, held]
  · simp [updateRoom, same]

/-- Off the board `handChess` indexes outside the board of the room. -/
theorem handChess_of_outOfBoard {mgr : GameRoomManager} {x y : Int} {userId : UserId} {ref : Ref}
    {room : GameRoomInfo} (seated : mgr.userId2Room.find? userId = some ref)
    (held : mgr.rooms.deref ref = some room) (outside : ¬ InBoard x y) :
    mgr.handChess x y userId = .error .outOfBounds := by
  simp [handChess, seated, held, room.handleChess_outOfBoard userId outside]

/-- For a user in a room `handChess` answers whether the stone makes a line of five there. -/
theorem handChess_iff {mgr rooms : GameRoomManager} {x y : Int} {userId : UserId} {ret : Bool}
    {ref : Ref} {room : GameRoomInfo} (seated : mgr.userId2Room.find? userId = some ref)
    (held : mgr.rooms.deref ref = some room)
    (called : mgr.handChess x y userId = .ok (rooms, ret)) :
    ret = true ↔ room.MakesFive x y userId := by
  by_cases inBoard : InBoard x y
  · obtain ⟨board, rooms', ret', written, handled, _, wonIff⟩ :=
      handChess_of_inBoard userId seated held inBoard
    obtain ⟨rfl, rfl⟩ := Prod.mk.inj (Except.ok.inj (handled.symm.trans called))
    rw [wonIff, GameRoomInfo.MakesFive]
    simp [written]
  · rw [handChess_of_outOfBoard seated held inBoard] at called
    cases called

/-- `handChess` answers true exactly to a user in a room who makes a line of five there. -/
theorem handChess_true_iff {mgr rooms : GameRoomManager} {x y : Int} {userId : UserId} {ret : Bool}
    (called : mgr.handChess x y userId = .ok (rooms, ret)) :
    ret = true ↔ ∃ ref room, mgr.userId2Room.find? userId = some ref ∧
      mgr.rooms.deref ref = some room ∧ room.MakesFive x y userId := by
  cases seated : mgr.userId2Room.find? userId with
  | none =>
      simp only [handChess, seated, Except.ok.injEq, Prod.mk.injEq] at called
      simp [← called.2]
  | some ref =>
      obtain ⟨room, held, _⟩ := exists_room seated
      rw [handChess_iff seated held called]
      simp [held]

/-- `handChess` answers a move that makes a line of five with true. -/
theorem exists_handChess_of_makesFive {mgr : GameRoomManager} {x y : Int} {userId : UserId}
    {ref : Ref} {room : GameRoomInfo} (seated : mgr.userId2Room.find? userId = some ref)
    (held : mgr.rooms.deref ref = some room) (five : room.MakesFive x y userId) :
    ∃ rooms, mgr.handChess x y userId = .ok (rooms, true) := by
  obtain ⟨board, first, dir, written, line, through⟩ := five
  have inBoard := (room.board.exists_write_iff x y _).mp ⟨board, written⟩
  obtain ⟨board', rooms, ret, written', handled, _, wonIff⟩ :=
    handChess_of_inBoard userId seated held inBoard
  obtain rfl := Except.ok.inj (written.symm.trans written')
  have won := wonIff.mpr ⟨first, dir, line, through⟩
  exact ⟨rooms, won ▸ handled⟩

/-! ### Seats and opponents -/

/-- The seats after a room has been opened. -/
theorem find?_createRoom (mgr : GameRoomManager) (roomCount : UInt32)
    (userId1 userId2 user : UserId) :
    (mgr.createRoom roomCount userId1 userId2).userId2Room.find? user =
      if user = userId1 ∨ user = userId2 then some mgr.rooms.next
      else mgr.userId2Room.find? user := by
  simp only [createRoom, PMap.find?_insert]
  by_cases first : user = userId1 <;> by_cases second : user = userId2 <;> simp [first, second]

/-- A seat that was there before is in another room. -/
theorem find?_ne_next (mgr : GameRoomManager) (user : UserId) :
    mgr.userId2Room.find? user ≠ some mgr.rooms.next := by
  intro found
  obtain ⟨_, held, _⟩ := exists_room found
  exact Heap.ne_next_of_deref held rfl

/-- Who the opponents are after a room has been opened. -/
theorem getUserIdFromOtherId_createRoom (mgr : GameRoomManager) (roomCount : UInt32)
    (userId1 userId2 user : UserId) :
    (mgr.createRoom roomCount userId1 userId2).getUserIdFromOtherId user =
      if user = userId1 then userId2 else if user = userId2 then userId1
      else mgr.getUserIdFromOtherId user := by
  rw [getUserIdFromOtherId, find?_createRoom]
  by_cases first : user = userId1
  · rw [if_pos (.inl first), if_pos first, first]
    simp [createRoom, GameRoomInfo.new, GameRoomInfo.getOtherId]
  · by_cases second : user = userId2
    · rw [if_pos (.inr second), if_neg first, if_pos second]
      simp [createRoom, GameRoomInfo.new, GameRoomInfo.getOtherId, first]
    · rw [if_neg (not_or.mpr ⟨first, second⟩), if_neg first, if_neg second,
        getUserIdFromOtherId]
      cases found : mgr.userId2Room.find? user with
      | none => rfl
      | some there =>
          obtain ⟨room, held, _⟩ := exists_room found
          simp [createRoom, held, Heap.ne_next_of_deref held]

/-- Who the opponents are after somebody has left. -/
theorem getUserIdFromOtherId_removeUser {mgr next : GameRoomManager} {online after : UserManager}
    {gone : UserId} (removed : mgr.removeUser online gone = .ok (next, after)) (user : UserId) :
    next.getUserIdFromOtherId user =
      if user = gone then 0 else mgr.getUserIdFromOtherId user := by
  cases found : mgr.userId2Room.find? gone with
  | none =>
      rw [removeUser_of_absent _ found] at removed
      obtain ⟨rfl, _⟩ := Prod.mk.inj (Except.ok.inj removed)
      split
      · rename_i same
        rw [same, getUserIdFromOtherId, found]
        rfl
      · rfl
  | some left =>
      obtain ⟨room, held, _⟩ := exists_room found
      rw [removeUser_of_seated _ found held] at removed
      split at removed
      · cases removed
      · obtain ⟨rfl, _⟩ := Prod.mk.inj (Except.ok.inj removed)
        by_cases same : user = gone
        · simp [getUserIdFromOtherId, updateRoom,
            eraseUser, same]
        · simp only [getUserIdFromOtherId, updateRoom,
            eraseUser, PMap.find?_erase, if_neg same]
          cases mgr.userId2Room.find? user with
          | none => rfl
          | some there =>
              by_cases here : there = left
              · simp [here, held, GameRoomInfo.subCount, GameRoomInfo.getOtherId]
              · simp [here]

/-- A move changes nobody's opponent. -/
theorem getUserIdFromOtherId_handChess {mgr rooms : GameRoomManager} {x y : Int}
    {sender : UserId} {ret : Bool} (handled : mgr.handChess x y sender = .ok (rooms, ret))
    (user : UserId) : rooms.getUserIdFromOtherId user = mgr.getUserIdFromOtherId user := by
  cases found : mgr.userId2Room.find? sender with
  | none =>
      simp only [handChess, found, Except.ok.injEq, Prod.mk.injEq] at handled
      rw [handled.1]
  | some there =>
      obtain ⟨room, held, _⟩ := exists_room found
      by_cases inBoard : InBoard x y
      · obtain ⟨board, rooms', _, _, handled', deref, _⟩ :=
          handChess_of_inBoard sender found held inBoard
        obtain ⟨rfl, _⟩ := Prod.mk.inj (Except.ok.inj (handled'.symm.trans handled))
        rw [getUserIdFromOtherId, getUserIdFromOtherId,
          userId2Room_handChess handled]
        cases mgr.userId2Room.find? user with
        | none => rfl
        | some ref =>
            rw [Option.bind_some, Option.bind_some, deref]
            by_cases same : ref = there
            · subst same
              rw [if_pos rfl, held]
              rfl
            · rw [if_neg same]
      · rw [handChess_of_outOfBoard found held inBoard] at handled
        cases handled

end GameRoomManager

end GomukuServer.Manager
