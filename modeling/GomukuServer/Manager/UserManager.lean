/-
Module: GomukuServer.Manager.UserManager
Layer: Manager
Purpose: The online users.  A login allocates a `UserInfo` object and enters it in three tables, a
  disconnect removes the entries again.  The objects live in a heap, because the match thread keeps
  pointers to them across calls of other threads.
Trusted boundary: calls do not overlap, also those that take no mutex; an object that nothing points
  to any more stays in the heap
Main exports: UserInfo, UserManager, addOnlineUser, removeOnlineUser, userInfo, ConnManager,
  ConnManager.removeConn
-/
import GomukuServer.Base.Cpp
import GomukuServer.Base.Store
import GomukuServer.Model.GameRoomInfo
import Mathlib.Data.Finset.Insert
import Mathlib.Data.Finset.Erase

namespace GomukuServer.Manager

open Base Model

/-- The identity of a `TcpConnection` object.  `Option ConnId` is a `TcpConnectionPtr` that may be
null. -/
abbrev ConnId := Nat

/-- `UserState`. -/
inductive UserState where
  | offline
  | online
  | matching
  | gaming
deriving DecidableEq, Repr, Inhabited

/-- `UserInfo`. -/
structure UserInfo where
  state : UserState
  userName : String
  userId : UserId
  userPoints : UInt32
  totalCount : UInt32
  winCount : UInt32
  con : ConnId
deriving DecidableEq, Repr

namespace UserInfo

/-- The constructor: a new user is online and idle. -/
def new (userName : String) (userId : UserId) (userPoints totalCount winCount : UInt32)
    (con : ConnId) : UserInfo :=
  { state := .online
    userName := userName
    userId := userId
    userPoints := userPoints
    totalCount := totalCount
    winCount := winCount
    con := con }

/-- `UserInfo::setState`. -/
def setState (state : UserState) (user : UserInfo) : UserInfo := { user with state := state }

/-- `UserInfo::winGame`, on unsigned counters. -/
def winGame (user : UserInfo) : UserInfo :=
  { user with
    userPoints := user.userPoints + 10
    totalCount := user.totalCount + 1
    winCount := user.winCount + 1 }

/-- `UserInfo::loseGame`.  The subtraction wraps below zero. -/
def loseGame (user : UserInfo) : UserInfo :=
  { user with
    userPoints := user.userPoints - 5
    totalCount := user.totalCount + 1 }

end UserInfo

/-- `UserManager`.  The two laws say that an entry of `userId2User` points to an object of its own
user, and that the tables keyed by user ids have the same keys; both hold for every state the
operations can build, whatever they are called with. -/
structure UserManager where
  users : Heap UserInfo
  userId2Conn : PMap UserId ConnId
  conn2UserId : PMap ConnId UserId
  userId2User : PMap UserId Ref
  user_owned : ∀ user ref, userId2User.find? user = some ref →
    ∃ info, users.deref ref = some info ∧ info.userId = user
  same_online : ∀ user, (userId2Conn.find? user).isSome = (userId2User.find? user).isSome

namespace UserManager

/-- The constructor: nobody is online. -/
def new : UserManager where
  users := Heap.empty
  userId2Conn := PMap.empty
  conn2UserId := PMap.empty
  userId2User := PMap.empty
  user_owned := by simp
  same_online := by simp

/-- `addOnlineUser`: the three assignments replace what was there without looking at it. -/
def addOnlineUser (mgr : UserManager) (user : UserInfo) : UserManager where
  users := mgr.users.alloc user
  userId2Conn := mgr.userId2Conn.insert user.userId user.con
  conn2UserId := mgr.conn2UserId.insert user.con user.userId
  userId2User := mgr.userId2User.insert user.userId mgr.users.next
  user_owned := by
    intro other ref found
    by_cases same : other = user.userId
    · subst same
      simp only [PMap.find?_insert, if_true, Option.some.injEq] at found
      exact ⟨user, by simp [← found], rfl⟩
    · simp only [PMap.find?_insert, same, if_false] at found
      obtain ⟨info, held, owned⟩ := mgr.user_owned other ref found
      exact ⟨info, by simp [Heap.ne_next_of_deref held, held], owned⟩
  same_online := by
    intro other
    by_cases same : other = user.userId
    · simp [same]
    · simp [same, mgr.same_online]

/-- `removeOnlineUser`.  The connection to forget is read through the iterator of an entry that has
been erased by then; `erased` is the value that read gives, so that nothing is assumed about it. -/
def removeOnlineUser (mgr : UserManager) (userId : UserId) (erased : ConnId) : UserManager :=
  match mgr.userId2Conn.find? userId with
  | none => mgr
  | some _ =>
      { mgr with
        userId2Conn := mgr.userId2Conn.erase userId
        conn2UserId := mgr.conn2UserId.erase erased
        userId2User := mgr.userId2User.erase userId
        user_owned := by
          intro other ref found
          by_cases same : other = userId
          · simp [same] at found
          · simp only [PMap.find?_erase, same, if_false] at found
            exact mgr.user_owned other ref found
        same_online := by
          intro other
          by_cases same : other = userId
          · simp [same]
          · simp [same, mgr.same_online] }

/-- `removeOnlineUser`, where the iterator is followed: it stands for the entry of its key, and it
is read when that entry has gone. -/
def removeOnlineUserChecked (mgr : UserManager) (userId : UserId) : Except Fault UserManager :=
  match mgr.userId2Conn.find? userId with
  | none => .ok mgr
  | some _ =>
      match (mgr.userId2Conn.erase userId).find? userId with
      | none => .error .outOfBounds
      | some second => .ok (mgr.removeOnlineUser userId second)

/-- Update a `UserInfo` object through a pointer to it.  No member function changes the id. -/
def updateUser (mgr : UserManager) (ref : Ref) (change : UserInfo → UserInfo)
    (keepsId : ∀ info, (change info).userId = info.userId) : UserManager :=
  { mgr with
    users := mgr.users.modify ref change
    user_owned := by
      intro user other found
      obtain ⟨info, held, owned⟩ := mgr.user_owned user other found
      by_cases same : other = ref
      · subst same
        exact ⟨change info, by simp [held], (keepsId info).trans owned⟩
      · exact ⟨info, by simp [same, held], owned⟩ }

/-- `getUserByUserId`. -/
def getUserByUserId (mgr : UserManager) (userId : UserId) : Option Ref :=
  mgr.userId2User.find? userId

/-- `getUserIdByConn`, zero when nobody is logged in on the connection. -/
def getUserIdByConn (mgr : UserManager) (conn : ConnId) : UserId :=
  (mgr.conn2UserId.find? conn).getD 0

/-- `getUserByconn`.  The null pointer is never a key. -/
def getUserByconn (mgr : UserManager) (conn : Option ConnId) : Option Ref :=
  conn.bind fun conn => (mgr.conn2UserId.find? conn).bind mgr.userId2User.find?

/-- `getConnByUserId`. -/
def getConnByUserId (mgr : UserManager) (userId : UserId) : Option ConnId :=
  mgr.userId2Conn.find? userId

/-- `UserInfo::setState` through a pointer. -/
def setState (mgr : UserManager) (ref : Ref) (state : UserState) : UserManager :=
  mgr.updateUser ref (UserInfo.setState state) fun _ => rfl

/-- Look a user up by id and update the object found; the shape of the three setters below. -/
def updateById (mgr : UserManager) (userId : UserId) (change : UserInfo → UserInfo)
    (keepsId : ∀ info, (change info).userId = info.userId) : UserManager :=
  match mgr.userId2User.find? userId with
  | none => mgr
  | some ref => mgr.updateUser ref change keepsId

/-- `setUserState`. -/
def setUserState (mgr : UserManager) (userId : UserId) (state : UserState) : UserManager :=
  mgr.updateById userId (UserInfo.setState state) fun _ => rfl

/-- `winGame`. -/
def winGame (mgr : UserManager) (userId : UserId) : UserManager :=
  mgr.updateById userId UserInfo.winGame fun _ => rfl

/-- `loseGame`. -/
def loseGame (mgr : UserManager) (userId : UserId) : UserManager :=
  mgr.updateById userId UserInfo.loseGame fun _ => rfl

/-- The current `UserInfo` of an online user. -/
def userInfo (mgr : UserManager) (userId : UserId) : Option UserInfo :=
  (mgr.userId2User.find? userId).bind mgr.users.deref

/-- The state of an online user, nothing for a user who is not online. -/
def stateOf (mgr : UserManager) (userId : UserId) : Option UserState :=
  (mgr.userInfo userId).map UserInfo.state

/-- The state of the object behind a pointer. -/
def stateAt (mgr : UserManager) (ref : Ref) : Option UserState :=
  (mgr.users.deref ref).map UserInfo.state

/-- `getUserPoints`, zero for a user who is not online. -/
def getUserPoints (mgr : UserManager) (userId : UserId) : UInt32 :=
  ((mgr.userInfo userId).map UserInfo.userPoints).getD 0

/-- `getUserTotalCount`. -/
def getUserTotalCount (mgr : UserManager) (userId : UserId) : UInt32 :=
  ((mgr.userInfo userId).map UserInfo.totalCount).getD 0

/-- `getUserWinCount`. -/
def getUserWinCount (mgr : UserManager) (userId : UserId) : UInt32 :=
  ((mgr.userInfo userId).map UserInfo.winCount).getD 0

/-- Removing a user who is not online changes nothing. -/
theorem removeOnlineUser_of_offline {mgr : UserManager} {userId : UserId} (erased : ConnId)
    (offline : mgr.userId2Conn.find? userId = none) : mgr.removeOnlineUser userId erased = mgr := by
  unfold removeOnlineUser
  split
  · rfl
  · rename_i found
    cases offline.symm.trans found

theorem find?_userId2Conn_removeOnlineUser (mgr : UserManager) (gone userId : UserId)
    (erased : ConnId) : (mgr.removeOnlineUser gone erased).userId2Conn.find? userId =
      if userId = gone then none else mgr.userId2Conn.find? userId := by
  unfold removeOnlineUser
  split
  · rename_i absent
    split
    · rename_i same
      rw [same, absent]
    · rfl
  · rfl

/-- Removing an online user takes one connection out of the table keyed by connections. -/
theorem find?_conn2UserId_removeOnlineUser {mgr : UserManager} {gone : UserId}
    (online : mgr.userId2Conn.find? gone ≠ none) (erased conn : ConnId) :
    (mgr.removeOnlineUser gone erased).conn2UserId.find? conn =
      if conn = erased then none else mgr.conn2UserId.find? conn := by
  unfold removeOnlineUser
  split
  · rename_i absent
    exact absurd absent online
  · rfl

/-- The read of the erased entry is the only thing that can go wrong, and it does go wrong whenever
there is someone to remove. -/
theorem removeOnlineUserChecked_eq (mgr : UserManager) (userId : UserId) :
    mgr.removeOnlineUserChecked userId =
      if mgr.userId2Conn.find? userId = none then .ok mgr else .error .outOfBounds := by
  unfold removeOnlineUserChecked
  cases found : mgr.userId2Conn.find? userId with
  | none => rfl
  | some conn => simp

/-! ### What the operations do to the current records -/

theorem userInfo_eq_some_iff {mgr : UserManager} {userId : UserId} {info : UserInfo} :
    mgr.userInfo userId = some info ↔
      ∃ ref, mgr.userId2User.find? userId = some ref ∧ mgr.users.deref ref = some info := by
  simp [userInfo, Option.bind_eq_some_iff]

/-- An entry of `userId2User` gives a current record. -/
theorem exists_userInfo {mgr : UserManager} {userId : UserId} {ref : Ref}
    (found : mgr.userId2User.find? userId = some ref) :
    ∃ info, mgr.userInfo userId = some info ∧ mgr.users.deref ref = some info := by
  obtain ⟨info, held, _⟩ := mgr.user_owned userId ref found
  exact ⟨info, userInfo_eq_some_iff.mpr ⟨ref, found, held⟩, held⟩

/-- The current record of a user carries its id. -/
theorem userId_of_userInfo {mgr : UserManager} {userId : UserId} {info : UserInfo}
    (current : mgr.userInfo userId = some info) : info.userId = userId := by
  obtain ⟨ref, found, held⟩ := userInfo_eq_some_iff.mp current
  obtain ⟨other, otherHeld, owned⟩ := mgr.user_owned userId ref found
  rw [held] at otherHeld
  exact Option.some.inj otherHeld ▸ owned

/-- Different users have different objects. -/
theorem user_eq_of_ref {mgr : UserManager} {user other : UserId} {ref : Ref}
    (found : mgr.userId2User.find? user = some ref)
    (otherFound : mgr.userId2User.find? other = some ref) : user = other := by
  obtain ⟨info, held, owned⟩ := mgr.user_owned user ref found
  obtain ⟨otherInfo, otherHeld, otherOwned⟩ := mgr.user_owned other ref otherFound
  rw [held] at otherHeld
  rw [← owned, ← otherOwned, Option.some.inj otherHeld]

/-- A user has a connection on record exactly if it has a current record. -/
theorem isSome_userInfo (mgr : UserManager) (userId : UserId) :
    (mgr.userInfo userId).isSome = (mgr.userId2Conn.find? userId).isSome := by
  rw [mgr.same_online]
  cases found : mgr.userId2User.find? userId with
  | none => simp [userInfo, found]
  | some ref =>
      obtain ⟨info, current, _⟩ := exists_userInfo found
      simp [current]

@[simp] theorem userInfo_new (userId : UserId) : new.userInfo userId = none := rfl

@[simp] theorem userInfo_addOnlineUser (mgr : UserManager) (user : UserInfo) (userId : UserId) :
    (mgr.addOnlineUser user).userInfo userId =
      if userId = user.userId then some user else mgr.userInfo userId := by
  by_cases same : userId = user.userId
  · simp [userInfo, addOnlineUser, same]
  · simp only [userInfo, addOnlineUser, PMap.find?_insert, same, if_false]
    cases found : mgr.userId2User.find? userId with
    | none => rfl
    | some ref =>
        obtain ⟨info, held, _⟩ := mgr.user_owned userId ref found
        simp [Heap.ne_next_of_deref held]

theorem userInfo_removeOnlineUser (mgr : UserManager) (gone userId : UserId) (erased : ConnId) :
    (mgr.removeOnlineUser gone erased).userInfo userId =
      if userId = gone then none else mgr.userInfo userId := by
  unfold removeOnlineUser
  split
  · rename_i absent
    by_cases same : userId = gone
    · have nobody := mgr.isSome_userInfo gone
      simp only [absent, Option.isSome_none, Option.isSome_eq_false_iff,
        Option.isNone_iff_eq_none] at nobody
      simp [same, nobody]
    · simp [same]
  · by_cases same : userId = gone <;> simp [userInfo, same]

/-- An update through a pointer is seen by the user whose current object it is. -/
theorem userInfo_updateUser (mgr : UserManager) (ref : Ref) (change : UserInfo → UserInfo)
    (keepsId : ∀ info, (change info).userId = info.userId) (userId : UserId) :
    (mgr.updateUser ref change keepsId).userInfo userId =
      if mgr.userId2User.find? userId = some ref then (mgr.userInfo userId).map change
      else mgr.userInfo userId := by
  simp only [userInfo, updateUser]
  cases found : mgr.userId2User.find? userId with
  | none => simp
  | some other => by_cases same : other = ref <;> simp [same]

theorem userInfo_updateById (mgr : UserManager) (target : UserId)
    (change : UserInfo → UserInfo) (keepsId : ∀ info, (change info).userId = info.userId)
    (userId : UserId) :
    (mgr.updateById target change keepsId).userInfo userId =
      if userId = target then (mgr.userInfo userId).map change else mgr.userInfo userId := by
  unfold updateById
  cases found : mgr.userId2User.find? target with
  | none =>
      by_cases same : userId = target
      · simp [same, userInfo, found]
      · simp [same]
  | some ref =>
      simp only [userInfo_updateUser]
      by_cases same : userId = target
      · simp [same, found]
      · have other : mgr.userId2User.find? userId ≠ some ref :=
          fun otherFound => same (user_eq_of_ref otherFound found)
        simp [same, other]

theorem userInfo_winGame (mgr : UserManager) (winner userId : UserId) :
    (mgr.winGame winner).userInfo userId =
      if userId = winner then (mgr.userInfo userId).map UserInfo.winGame
      else mgr.userInfo userId :=
  mgr.userInfo_updateById winner UserInfo.winGame _ userId

theorem userInfo_loseGame (mgr : UserManager) (loser userId : UserId) :
    (mgr.loseGame loser).userInfo userId =
      if userId = loser then (mgr.userInfo userId).map UserInfo.loseGame
      else mgr.userInfo userId :=
  mgr.userInfo_updateById loser UserInfo.loseGame _ userId

theorem userInfo_setState (mgr : UserManager) (ref : Ref) (state : UserState) (userId : UserId) :
    (mgr.setState ref state).userInfo userId =
      if mgr.userId2User.find? userId = some ref then
        (mgr.userInfo userId).map (UserInfo.setState state)
      else mgr.userInfo userId :=
  mgr.userInfo_updateUser ref (UserInfo.setState state) _ userId

/-- `setUserState` writes through the entry of the user. -/
theorem setUserState_of_found {mgr : UserManager} {userId : UserId} {ref : Ref}
    (found : mgr.userId2User.find? userId = some ref) (state : UserState) :
    mgr.setUserState userId state = mgr.setState ref state := by
  unfold setUserState updateById
  rw [found]
  rfl

theorem userInfo_setUserState (mgr : UserManager) (target userId : UserId) (state : UserState) :
    (mgr.setUserState target state).userInfo userId =
      if userId = target then (mgr.userInfo userId).map (UserInfo.setState state)
      else mgr.userInfo userId :=
  mgr.userInfo_updateById target (UserInfo.setState state) _ userId

theorem stateOf_addOnlineUser (mgr : UserManager) (user : UserInfo) (userId : UserId) :
    (mgr.addOnlineUser user).stateOf userId =
      if userId = user.userId then some user.state else mgr.stateOf userId := by
  simp only [stateOf, userInfo_addOnlineUser]
  split <;> rfl

theorem stateOf_removeOnlineUser (mgr : UserManager) (gone userId : UserId) (erased : ConnId) :
    (mgr.removeOnlineUser gone erased).stateOf userId =
      if userId = gone then none else mgr.stateOf userId := by
  simp only [stateOf, userInfo_removeOnlineUser]
  split <;> rfl

/-- A state set through a pointer is the state of the user whose current object it is. -/
theorem stateOf_setState (mgr : UserManager) (ref : Ref) (state : UserState) (userId : UserId) :
    (mgr.setState ref state).stateOf userId =
      if mgr.userId2User.find? userId = some ref then some state else mgr.stateOf userId := by
  simp only [stateOf, userInfo_setState]
  split
  · rename_i found
    obtain ⟨info, current, _⟩ := exists_userInfo found
    simp [current, UserInfo.setState]
  · rfl

/-- A state set through the pointer of a user is the state of that user and of no other. -/
theorem stateOf_setState_of_found {mgr : UserManager} {target : UserId} {ref : Ref}
    (found : mgr.userId2User.find? target = some ref) (state : UserState) (userId : UserId) :
    (mgr.setState ref state).stateOf userId =
      if userId = target then some state else mgr.stateOf userId := by
  rw [stateOf_setState]
  by_cases same : userId = target
  · simp [same, found]
  · have other : mgr.userId2User.find? userId ≠ some ref :=
      fun otherFound => same (user_eq_of_ref otherFound found)
    simp [same, other]

theorem stateOf_setUserState (mgr : UserManager) (target userId : UserId) (state : UserState) :
    (mgr.setUserState target state).stateOf userId =
      if userId = target then (mgr.stateOf userId).map fun _ => state else mgr.stateOf userId := by
  simp only [stateOf, userInfo_setUserState]
  split
  · simp [Function.comp_def, UserInfo.setState]
  · rfl

@[simp] theorem stateOf_winGame (mgr : UserManager) (winner userId : UserId) :
    (mgr.winGame winner).stateOf userId = mgr.stateOf userId := by
  simp only [stateOf, userInfo_winGame]
  split
  · simp [Function.comp_def, UserInfo.winGame]
  · rfl

@[simp] theorem stateOf_loseGame (mgr : UserManager) (loser userId : UserId) :
    (mgr.loseGame loser).stateOf userId = mgr.stateOf userId := by
  simp only [stateOf, userInfo_loseGame]
  split
  · simp [Function.comp_def, UserInfo.loseGame]
  · rfl

/-- An update of a record changes neither table. -/
@[simp] theorem getConnByUserId_updateById (mgr : UserManager) (target : UserId)
    (change : UserInfo → UserInfo) (keepsId : ∀ info, (change info).userId = info.userId)
    (userId : UserId) :
    (mgr.updateById target change keepsId).getConnByUserId userId =
      mgr.getConnByUserId userId := by
  unfold updateById
  split <;> rfl

@[simp] theorem getUserIdByConn_updateById (mgr : UserManager) (target : UserId)
    (change : UserInfo → UserInfo) (keepsId : ∀ info, (change info).userId = info.userId)
    (conn : ConnId) :
    (mgr.updateById target change keepsId).getUserIdByConn conn = mgr.getUserIdByConn conn := by
  unfold updateById
  split <;> rfl

@[simp] theorem userId2User_updateById (mgr : UserManager) (target : UserId)
    (change : UserInfo → UserInfo) (keepsId : ∀ info, (change info).userId = info.userId) :
    (mgr.updateById target change keepsId).userId2User = mgr.userId2User := by
  unfold updateById
  split <;> rfl

/-! ### Objects and their states -/

/-- The current object of a user has a state. -/
theorem exists_stateAt {mgr : UserManager} {userId : UserId} {ref : Ref}
    (found : mgr.userId2User.find? userId = some ref) : ∃ state, mgr.stateAt ref = some state := by
  obtain ⟨info, _, held⟩ := exists_userInfo found
  exact ⟨info.state, by simp [stateAt, held]⟩

/-- A pointer that is looked up by connection points to an object. -/
theorem isSome_stateAt_of_getUserByconn {mgr : UserManager} {conn : Option ConnId} {ref : Ref}
    (found : mgr.getUserByconn conn = some ref) : (mgr.stateAt ref).isSome = true := by
  simp only [getUserByconn, Option.bind_eq_some_iff] at found
  obtain ⟨_, _, userId, _, entry⟩ := found
  obtain ⟨state, held⟩ := exists_stateAt entry
  simp [held]

/-- A pointer that is looked up by the connection of a user has been looked up by one. -/
theorem exists_conn_of_getUserByconn {mgr : UserManager} {userId : UserId} {ref : Ref}
    (found : mgr.getUserByconn (mgr.getConnByUserId userId) = some ref) :
    ∃ conn, mgr.userId2Conn.find? userId = some conn ∧
      mgr.getUserByconn (some conn) = some ref := by
  rw [getConnByUserId] at found
  cases online : mgr.userId2Conn.find? userId with
  | none => simp [online, getUserByconn] at found
  | some conn => exact ⟨conn, rfl, online ▸ found⟩

@[simp] theorem userId2User_setState (mgr : UserManager) (ref : Ref) (state : UserState) :
    (mgr.setState ref state).userId2User = mgr.userId2User := rfl

@[simp] theorem userId2User_setUserState (mgr : UserManager) (target : UserId)
    (state : UserState) : (mgr.setUserState target state).userId2User = mgr.userId2User :=
  mgr.userId2User_updateById target (UserInfo.setState state) _

@[simp] theorem find?_userId2User_addOnlineUser (mgr : UserManager) (user : UserInfo)
    (userId : UserId) : (mgr.addOnlineUser user).userId2User.find? userId =
      if userId = user.userId then some mgr.users.next else mgr.userId2User.find? userId := rfl

@[simp] theorem find?_userId2User_removeOnlineUser (mgr : UserManager) (gone userId : UserId)
    (erased : ConnId) : (mgr.removeOnlineUser gone erased).userId2User.find? userId =
      if userId = gone then none else mgr.userId2User.find? userId := by
  unfold removeOnlineUser
  split
  · rename_i absent
    have nobody := mgr.same_online gone
    simp only [absent, Option.isSome_none] at nobody
    by_cases same : userId = gone
    · subst same
      simpa using nobody.symm
    · simp [same]
  · simp

@[simp] theorem stateAt_removeOnlineUser (mgr : UserManager) (gone : UserId) (erased : ConnId)
    (ref : Ref) : (mgr.removeOnlineUser gone erased).stateAt ref = mgr.stateAt ref := by
  unfold removeOnlineUser
  split <;> rfl

@[simp] theorem stateAt_addOnlineUser (mgr : UserManager) (user : UserInfo) (ref : Ref) :
    (mgr.addOnlineUser user).stateAt ref =
      if ref = mgr.users.next then some user.state else mgr.stateAt ref := by
  simp only [stateAt, addOnlineUser, Heap.deref_alloc]
  split <;> rfl

@[simp] theorem stateAt_setState (mgr : UserManager) (ref other : Ref) (state : UserState) :
    (mgr.setState ref state).stateAt other =
      if other = ref then (mgr.stateAt other).map fun _ => state else mgr.stateAt other := by
  simp only [stateAt, setState, updateUser, Heap.deref_modify]
  split
  · simp [Function.comp_def, UserInfo.setState]
  · rfl

@[simp] theorem stateAt_setUserState (mgr : UserManager) (target : UserId) (ref : Ref)
    (state : UserState) : (mgr.setUserState target state).stateAt ref =
      if mgr.userId2User.find? target = some ref then (mgr.stateAt ref).map fun _ => state
      else mgr.stateAt ref := by
  unfold setUserState updateById
  cases found : mgr.userId2User.find? target with
  | none => simp
  | some current =>
      have written := mgr.stateAt_setState current ref state
      simp only [Option.some.injEq, eq_comm]
      exact written

end UserManager

/-- `ConnManager`: the connections that are up. -/
structure ConnManager where
  conns : Finset ConnId
deriving DecidableEq

namespace ConnManager

/-- The constructor. -/
def new : ConnManager := ⟨∅⟩

/-- `addConn`. -/
def addConn (mgr : ConnManager) (conn : ConnId) : ConnManager := ⟨insert conn mgr.conns⟩

/-- `removeConn`, with the `UserManager` singleton it calls.  `erased` is handed on to
`removeOnlineUser`. -/
def removeConn (mgr : ConnManager) (users : UserManager) (conn erased : ConnId) :
    ConnManager × UserManager :=
  let mgr := ⟨mgr.conns.erase conn⟩
  let userId := users.getUserIdByConn conn
  if userId ≠ 0 then (mgr, users.removeOnlineUser userId erased) else (mgr, users)

/-- `removeConn`, where the iterator in `removeOnlineUser` is followed: to read the connection
through it is undefined behaviour once the entry it points to has been erased. -/
def removeConnChecked (mgr : ConnManager) (users : UserManager) (conn : ConnId) :
    Except Fault (ConnManager × UserManager) := do
  let mgr : ConnManager := ⟨mgr.conns.erase conn⟩
  let userId := users.getUserIdByConn conn
  if userId ≠ 0 then
    let users ← users.removeOnlineUserChecked userId
    pure (mgr, users)
  else pure (mgr, users)

/-- `isConnValid`. -/
def isConnValid (mgr : ConnManager) (conn : Option ConnId) : Bool :=
  match conn with
  | none => false
  | some conn => conn ∈ mgr.conns

end ConnManager

end GomukuServer.Manager
