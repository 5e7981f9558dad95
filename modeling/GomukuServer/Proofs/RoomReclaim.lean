/-
Module: GomukuServer.Proofs.RoomReclaim
Layer: Proofs
Purpose: When rooms are given back.  `roomId2Room` should hold a room exactly as long as one of its
  users is mapped to it, and `removeUser` should return.  The counter that decides about the removal
  is never initialised, and the removal locks a mutex its caller holds, so this works out only in
  the runs in which no room loses its second user and no counter happens to start at one.
Trusted boundary: none
Main exports: RoomEvent, step, PairsOfNewcomers, Reclaimed, RoomKept, reclaimed_throughout_iff,
  not_reclaimed_when_both_leave
-/
import GomukuServer.Base.Runs
import GomukuServer.Manager.GameRoomManager

namespace GomukuServer.Proofs.RoomReclaim

open Base Base.Runs Model Manager Manager.GameRoomManager

/-- The calls that change who sits where.  `roomCount` is what the constructor of the new room finds
in its counter. -/
inductive RoomEvent where
  | createRoom (roomCount : UInt32) (userId1 userId2 : UserId)
  | removeUser (userId : UserId)
deriving DecidableEq, Repr

/-- The room manager and the user manager it calls. -/
abbrev State := GameRoomManager × UserManager

/-- Execute one call. -/
def step (state : State) : RoomEvent → Except Fault State
  | .createRoom roomCount userId1 userId2 =>
      .ok (state.1.createRoom roomCount userId1 userId2, state.2)
  | .removeUser userId => state.1.removeUser state.2 userId

/-- Rooms are created for two different users who are in no room. -/
def PairsOfNewcomers (state : State) : RoomEvent → Prop
  | .createRoom _ userId1 userId2 =>
      userId1 ≠ userId2 ∧ state.1.userId2Room.find? userId1 = none ∧
        state.1.userId2Room.find? userId2 = none
  | .removeUser _ => True

/-- `roomId2Room` leads to the room. -/
def Listed (mgr : GameRoomManager) (ref : Ref) (room : GameRoomInfo) : Prop :=
  mgr.roomId2Room.find? room.roomId = some ref

/-- A user is mapped to the room. -/
def Occupied (mgr : GameRoomManager) (ref : Ref) : Prop :=
  ∃ user, mgr.userId2Room.find? user = some ref

/-- Every room ever created is listed exactly as long as one of its users is mapped to it. -/
def Reclaimed (state : State) : Prop :=
  ∀ ref room, state.1.rooms.deref ref = some room → (Listed state.1 ref room ↔ Occupied state.1 ref)

/-- The steps that keep `Reclaimed`: a room is created under an id that is not in use, and a user
who leaves a room leaves the other one behind in it, with a counter that does not read one. -/
def RoomKept (state : State) : RoomEvent → Prop
  | .createRoom _ _ _ => state.1.roomId2Room.find? state.1.roomNextId = none
  | .removeUser userId =>
      ∀ ref room, state.1.userId2Room.find? userId = some ref →
        state.1.rooms.deref ref = some room →
        room.roomCount ≠ 1 ∧ ∃ other ≠ userId, state.1.userId2Room.find? other = some ref

/-- Nothing has been created at the start. -/
theorem reclaimed_new (users : UserManager) : Reclaimed (GameRoomManager.new, users) := by
  intro ref room held
  simp [GameRoomManager.new] at held

/-- A listed room was created under the id it is listed by. -/
private theorem listed_of_find {mgr : GameRoomManager} {id : RoomId} {ref : Ref}
    (found : mgr.roomId2Room.find? id = some ref) :
    ∃ room, mgr.rooms.deref ref = some room ∧ room.roomId = id ∧ Listed mgr ref room := by
  obtain ⟨room, held, named⟩ := mgr.room_named id ref found
  exact ⟨room, held, named, by rw [Listed, named, found]⟩

/-- Creating a room for two newcomers seats nobody in an old room. -/
private theorem occupied_createRoom_iff {mgr : GameRoomManager} {userId1 userId2 : UserId}
    {ref : Ref} (roomCount : UInt32) (first : mgr.userId2Room.find? userId1 = none)
    (second : mgr.userId2Room.find? userId2 = none) (old : ref ≠ mgr.rooms.next) :
    Occupied (mgr.createRoom roomCount userId1 userId2) ref ↔ Occupied mgr ref := by
  simp only [Occupied, createRoom, PMap.find?_insert]
  constructor
  · rintro ⟨user, found⟩
    refine ⟨user, ?_⟩
    split at found
    · exact absurd (Option.some.inj found).symm old
    · split at found
      · exact absurd (Option.some.inj found).symm old
      · exact found
  · rintro ⟨user, found⟩
    have notFirst : user ≠ userId1 := by
      rintro rfl
      simp [first] at found
    have notSecond : user ≠ userId2 := by
      rintro rfl
      simp [second] at found
    exact ⟨user, by simp [notFirst, notSecond, found]⟩

/-- Creating a room keeps `Reclaimed` exactly if its id is free. -/
theorem reclaimed_createRoom_iff {mgr : GameRoomManager} {users : UserManager}
    {userId1 userId2 : UserId} (roomCount : UInt32) (good : Reclaimed (mgr, users))
    (first : mgr.userId2Room.find? userId1 = none)
    (second : mgr.userId2Room.find? userId2 = none) :
    Reclaimed (mgr.createRoom roomCount userId1 userId2, users) ↔
      mgr.roomId2Room.find? mgr.roomNextId = none := by
  constructor
  · -- an id in use belongs to an occupied room, which the new entry displaces
    intro kept
    cases taken : mgr.roomId2Room.find? mgr.roomNextId with
    | none => rfl
    | some ref =>
        obtain ⟨room, held, named, listed⟩ := listed_of_find taken
        have old := Heap.ne_next_of_deref held
        have occupied := (good ref room held).mp listed
        have heldAfter : (mgr.createRoom roomCount userId1 userId2).rooms.deref ref =
            some room := by
          simp [createRoom, old, held]
        have listedAfter := (kept ref room heldAfter).mpr
          ((occupied_createRoom_iff roomCount first second old).mpr occupied)
        simp only [Listed, createRoom, PMap.find?_insert, named, if_true, Option.some.injEq]
          at listedAfter
        exact absurd listedAfter.symm old
  · intro free ref room held
    by_cases fresh : ref = mgr.rooms.next
    · subst fresh
      have roomEq : GameRoomInfo.new roomCount mgr.roomNextId userId1 userId2 = room := by
        simpa [createRoom] using held
      subst roomEq
      constructor
      · intro _
        exact ⟨userId2, by simp [createRoom]⟩
      · intro _
        simp [Listed, createRoom, GameRoomInfo.new]
    · have heldBefore : mgr.rooms.deref ref = some room := by
        simpa [createRoom, fresh] using held
      rw [occupied_createRoom_iff roomCount first second fresh, ← good ref room heldBefore]
      simp only [Listed, createRoom, PMap.find?_insert]
      by_cases same : room.roomId = mgr.roomNextId
      · simp [same, free, Ne.symm fresh]
      · simp [same]

/-- The two tables and the rooms' ids after a user's entry and the counter have been updated. -/
private theorem reclaimed_leave_iff {mgr : GameRoomManager} {users after : UserManager}
    {userId : UserId} {left : Ref} (good : Reclaimed (mgr, users))
    (found : mgr.userId2Room.find? userId = some left) :
    Reclaimed ((mgr.eraseUser userId).updateRoom left GameRoomInfo.subCount
        fun _ => ⟨rfl, rfl, rfl⟩, after) ↔
      ∃ other ≠ userId, mgr.userId2Room.find? other = some left := by
  have stays : ∀ ref, (∃ user, (mgr.userId2Room.erase userId).find? user = some ref) ↔
      ∃ other ≠ userId, mgr.userId2Room.find? other = some ref := by
    intro ref
    simp only [PMap.find?_erase]
    constructor
    · rintro ⟨user, still⟩
      split at still
      · simp at still
      · exact ⟨user, by assumption, still⟩
    · rintro ⟨other, ne, still⟩
      exact ⟨other, by simp [ne, still]⟩
  obtain ⟨room, held, _⟩ := exists_room found
  have listed : Listed mgr left room := (good left room held).mpr ⟨userId, found⟩
  constructor
  · intro kept
    have heldAfter : (((mgr.eraseUser userId).updateRoom left GameRoomInfo.subCount
        fun _ => ⟨rfl, rfl, rfl⟩).rooms).deref left = some room.subCount := by
      simp [updateRoom, eraseUser, held]
    exact (stays left).mp ((kept left room.subCount heldAfter).mp listed)
  · intro remains ref other heldAfter
    simp only [updateRoom, eraseUser, Heap.deref_modify] at heldAfter
    by_cases same : ref = left
    · subst same
      have otherEq : room.subCount = other := by simpa [held] using heldAfter
      subst otherEq
      exact ⟨fun _ => (stays ref).mpr remains, fun _ => listed⟩
    · have heldBefore : mgr.rooms.deref ref = some other := by simpa [same] using heldAfter
      refine (good ref other heldBefore).trans ?_
      constructor
      · rintro ⟨user, seated⟩
        have ne : user ≠ userId := by
          rintro rfl
          exact same (Option.some.inj (seated.symm.trans found))
        exact (stays ref).mpr ⟨user, ne, seated⟩
      · intro occupied
        obtain ⟨user, _, seated⟩ := (stays ref).mp occupied
        exact ⟨user, seated⟩

/-- `RoomKept` for a user who sits in a room. -/
theorem roomKept_removeUser_iff {mgr : GameRoomManager} (users : UserManager) {userId : UserId}
    {ref : Ref} {room : GameRoomInfo} (found : mgr.userId2Room.find? userId = some ref)
    (held : mgr.rooms.deref ref = some room) :
    RoomKept (mgr, users) (.removeUser userId) ↔
      room.roomCount ≠ 1 ∧ ∃ other ≠ userId, mgr.userId2Room.find? other = some ref := by
  constructor
  · intro kept
    exact kept ref room found held
  · intro kept ref' room' found' held'
    obtain rfl : ref = ref' := Option.some.inj (found.symm.trans found')
    obtain rfl : room = room' := Option.some.inj (held.symm.trans held')
    exact kept

/-- One call returns and keeps `Reclaimed` exactly if it meets `RoomKept`. -/
theorem roomKept_iff (state : State) (event : RoomEvent) (good : Reclaimed state)
    (newcomers : PairsOfNewcomers state event) :
    RoomKept state event ↔ ∃ next, step state event = .ok next ∧ Reclaimed next := by
  obtain ⟨mgr, users⟩ := state
  cases event with
  | createRoom roomCount userId1 userId2 =>
      obtain ⟨_, first, second⟩ := newcomers
      simp only [RoomKept, step, Except.ok.injEq, exists_eq_left',
        reclaimed_createRoom_iff roomCount good first second]
  | removeUser userId =>
      cases found : mgr.userId2Room.find? userId with
      | none =>
          simp only [RoomKept, step, found, removeUser_of_absent users found]
          simp [good]
      | some ref =>
          obtain ⟨room, held, _⟩ := exists_room found
          rw [roomKept_removeUser_iff users found held]
          simp only [step, removeUser_of_seated users found held,
            GameRoomInfo.countdown_iff]
          by_cases one : room.roomCount = 1
          · simp [one]
          · simp only [one, if_false, Except.ok.injEq, exists_eq_left',
              reclaimed_leave_iff good found, ne_eq, not_false_eq_true, true_and]

/-- In every run of `createRoom` for pairs of newcomers and of `removeUser`: every call returns and
the rooms are listed exactly as long as they are occupied, if and only if no room is created under
an id in use and every user who leaves a room leaves the other one behind, with a counter that does
not read one. -/
theorem reclaimed_throughout_iff (users : UserManager) (events : List RoomEvent)
    (newcomers : Admissible step PairsOfNewcomers (GameRoomManager.new, users) events) :
    Throughout step Reclaimed (GameRoomManager.new, users) events ↔
      Admissible step RoomKept (GameRoomManager.new, users) events :=
  throughout_iff_admissible roomKept_iff (reclaimed_new users) events newcomers

/-- One player of a room leaves it. -/
def oneLeaves : List RoomEvent := [.createRoom 7 1 2, .removeUser 1]

theorem reclaimed_when_one_leaves :
    Throughout step Reclaimed (GameRoomManager.new, UserManager.new) oneLeaves := by
  refine (reclaimed_throughout_iff UserManager.new oneLeaves ?_).mpr ?_
  · simp [oneLeaves, Admissible, PairsOfNewcomers, GameRoomManager.new]
  · refine ⟨rfl, fun next created => ?_⟩
    obtain rfl := Except.ok.inj created
    have seated : (GameRoomManager.new.createRoom 7 1 2).userId2Room.find? 1 = some 0 := rfl
    have remains : (GameRoomManager.new.createRoom 7 1 2).userId2Room.find? 2 = some 0 := rfl
    exact ⟨(roomKept_removeUser_iff UserManager.new seated rfl).mpr
      ⟨by decide, 2, by decide, remains⟩, fun _ _ => trivial⟩

/-- Both players leave a room whose counter started at two, the number of its users. -/
def bothLeave : List RoomEvent := [.createRoom 2 1 2, .removeUser 1, .removeUser 2]

/-- The second departure never returns: it locks `m_mutex` twice. -/
theorem not_reclaimed_when_both_leave :
    Admissible step PairsOfNewcomers (GameRoomManager.new, UserManager.new) bothLeave ∧
      run step (GameRoomManager.new, UserManager.new) bothLeave = .error .selfDeadlock ∧
      ¬ Throughout step Reclaimed (GameRoomManager.new, UserManager.new) bothLeave := by
  have stuck : run step (GameRoomManager.new, UserManager.new) bothLeave =
      .error .selfDeadlock := rfl
  refine ⟨by simp [bothLeave, Admissible, PairsOfNewcomers, GameRoomManager.new], stuck, ?_⟩
  intro good
  obtain ⟨last, reached⟩ := exists_run_of_throughout good
  simp [stuck] at reached

end GomukuServer.Proofs.RoomReclaim
