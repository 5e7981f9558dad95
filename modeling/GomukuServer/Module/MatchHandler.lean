/-
Module: GomukuServer.Module.MatchHandler
Layer: Module
Purpose: `MatchPool` and `MatchHandler`: users join and leave the queues, and the match thread pairs
  the first two of a queue.  The thread looks the players up once and then goes on with the pointers
  it got, so the pieces of its loop body are definitions of their own.
Trusted boundary: nothing comes between the pieces of a turn; `Module.Threads` lets other threads in
Main exports: addUser, removeUser, Pairing, lookup, reportAbsent, openRoom, setStateOf, matchQueue,
  matchRound, matchThread, onMatch, onCancelMatch
-/
import GomukuServer.Module.Server

namespace GomukuServer.Module

open Base Model Manager Net

/-- What the match thread holds in local variables about the two users it took out of a queue. -/
structure Pairing where
  userId1 : UserId
  userId2 : UserId
  conn1 : Option ConnId
  conn2 : Option ConnId
  user1 : Option Ref
  user2 : Option Ref
deriving DecidableEq, Repr

/-- When one of the two has no connection: the record and the connection of the player the match
thread turns to. -/
def Pairing.remaining (pair : Pairing) : Option (Option Ref × Option ConnId) :=
  match pair.conn1, pair.conn2 with
  | some _, some _ => none
  | none, _ => some (pair.user2, pair.conn2)
  | some _, none => some (pair.user1, pair.conn1)

namespace Server

/-- `user->setState(state)` through a pointer that may be null. -/
def setStateOf (server : Server) (user : Option Ref) (state : UserState) : Except Fault Server :=
  match user with
  | none => .error .nullDereference
  | some ref => .ok { server with users := server.users.setState ref state }

/-- The object behind a pointer to a user. -/
def userAt (server : Server) (user : Option Ref) : Except Fault UserInfo :=
  match user.bind server.users.users.deref with
  | none => .error .nullDereference
  | some info => .ok info

/-- `addUser` after the user has been looked up.  A user who is not online is not refused: the code
goes on with the null pointer. -/
def enqueue (server : Server) (userId : UserId) (user : Option Ref) :
    Except Fault (Server × Bool) := do
  let info ← server.userAt user
  if info.state ≠ .online then pure (server, false)
  else do
    let pool := server.pool.pushBack (MatchPool.band info.userPoints) userId
    let server ← { server with pool := pool }.setStateOf user .matching
    pure (server, true)

/-- `MatchPool::addUser`. -/
def addUser (server : Server) (userId : UserId) : Except Fault (Server × Bool) :=
  server.enqueue userId (server.users.getUserByUserId userId)

/-- `removeUser` after the user has been looked up: the queue is the one for the points of now. -/
def dequeue (server : Server) (userId : UserId) (user : Option Ref) :
    Except Fault (Server × Bool) := do
  let info ← server.userAt user
  if info.state ≠ .matching then pure (server, false)
  else do
    let pool := server.pool.remove (MatchPool.band info.userPoints) userId
    let server ← { server with pool := pool }.setStateOf user .online
    pure (server, true)

/-- `MatchPool::removeUser`. -/
def removeUser (server : Server) (userId : UserId) : Except Fault (Server × Bool) :=
  server.dequeue userId (server.users.getUserByUserId userId)

/-- The four lookups of the match thread. -/
def lookup (server : Server) (userId1 userId2 : UserId) : Pairing :=
  let conn1 := server.users.getConnByUserId userId1
  let conn2 := server.users.getConnByUserId userId2
  { userId1 := userId1
    userId2 := userId2
    conn1 := conn1
    conn2 := conn2
    user1 := server.users.getUserByconn conn1
    user2 := server.users.getUserByconn conn2 }

/-- The message to the player whose opponent is gone. -/
def absentResult : Json.Value :=
  .object [("success", .bool false), ("reason", .string "对方掉线，匹配失败")]

/-- The first numbered part of the loop body: when a player has no connection, the other one goes
back to `ONLINE` and is told. -/
def reportAbsent (server : Server) (pair : Pairing) : Except Fault Server :=
  match pair.remaining with
  | none => .ok server
  | some (user, conn) => do
      let server ← server.setStateOf user .online
      pure (server.sendMsg conn .MATCH_PUSH absentResult)

/-- `createRoom` for the pair; `roomCount` is what the room finds in its counter. -/
def openRoom (server : Server) (pair : Pairing) (roomCount : UInt32) : Server :=
  { server with rooms := server.rooms.createRoom roomCount pair.userId1 pair.userId2 }

/-- The message to a player whose room is ready. -/
def matchedResult (color : Int) : Json.Value :=
  .object [("success", .bool true), ("reason", .string "匹配成功，准备进入游戏房间"),
    ("color", .int color)]

/-- The last two calls of the loop body. -/
def pushResult (server : Server) (pair : Pairing) : Server :=
  (server.sendMsg pair.conn1 .MATCH_PUSH (matchedResult 1)).sendMsg pair.conn2 .MATCH_PUSH
    (matchedResult 2)

/-- One turn of the `for` loop of `matchThread`.  The part for an absent player does not leave the
loop body, so the second part follows it in any case. -/
def matchQueue (server : Server) (i : Fin 3) (roomCount : UInt32) : Except Fault Server :=
  match server.pool.queues i with
  | userId1 :: userId2 :: rest => do
      let server := { server with pool := server.pool.popped i rest }
      let pair := server.lookup userId1 userId2
      let server ← server.reportAbsent pair
      let server := server.openRoom pair roomCount
      let server ← server.setStateOf pair.user1 .gaming
      let server ← server.setStateOf pair.user2 .gaming
      pure (server.pushResult pair)
  | _ => .ok server

/-- The `for` loop of `matchThread`.  A new room finds in its counter what `storage` has at the
place of the room. -/
def matchRound (storage : Ref → UInt32) (server : Server) : Except Fault Server :=
  (List.finRange 3).foldlM
    (fun server i => server.matchQueue i (storage server.rooms.rooms.next)) server

/-- The condition under which `matchThread` waits: each of the three queues has one user at most. -/
def NobodyToPair (server : Server) : Prop := ∀ i, (server.pool.queues i).length ≤ 1

instance (server : Server) : Decidable server.NobodyToPair :=
  inferInstanceAs (Decidable (∀ i, (server.pool.queues i).length ≤ 1))

/-- `matchThread` until it waits, if it does after fewer than `turns` rounds. -/
def matchThread (storage : Ref → UInt32) : Nat → Server → Except Fault Server
  | 0, _ => .error .nonTermination
  | turns + 1, server =>
      if server.NobodyToPair then .ok server
      else do matchThread storage turns (← server.matchRound storage)

/-- The answer to a match or cancel request. -/
def matchAnswer (ret : Bool) (success failure : String) : Json.Value :=
  .object [("success", .bool ret), ("reason", .string (if ret then success else failure))]

/-- `onMatch`. -/
def onMatch (server : Server) (conn : ConnId) (req : Json.Value) : Except Fault Server := do
  let userId ← (← req.getMember "userId").asUInt
  let (server, ret) ← server.addUser userId
  pure (server.sendMsg conn .MATCH_START_ACK (matchAnswer ret "开始匹配成功" "开始匹配失败"))

/-- `onCancelMatch`. -/
def onCancelMatch (server : Server) (conn : ConnId) (req : Json.Value) : Except Fault Server := do
  let userId ← (← req.getMember "userId").asUInt
  let (server, ret) ← server.removeUser userId
  pure (server.sendMsg conn .MATCH_CANCEL_ACK (matchAnswer ret "取消匹配成功" "取消匹配失败"))

/-! ### What the calls do -/

/-- A state is set through a pointer that is not null. -/
theorem setStateOf_eq_ok {server next : Server} {user : Option Ref} {state : UserState} :
    server.setStateOf user state = .ok next ↔
      ∃ ref, user = some ref ∧ { server with users := server.users.setState ref state } = next := by
  cases user <;> simp [setStateOf]

/-- A pointer that is followed leads to an object. -/
theorem userAt_eq_ok {server : Server} {user : Option Ref} {info : UserInfo} :
    server.userAt user = .ok info ↔
      ∃ ref, user = some ref ∧ server.users.users.deref ref = some info := by
  unfold userAt
  split
  · rename_i dangling
    simp [← Option.bind_eq_some_iff, dangling]
  · rename_i found
    simp [← Option.bind_eq_some_iff, found]

/-- `enqueue` puts an idle user at the end of a queue and into the state `MATCHING`; in any other
state it refuses. -/
theorem enqueue_ok {server next : Server} {userId : UserId} {user : Option Ref} {ret : Bool}
    (called : server.enqueue userId user = .ok (next, ret)) :
    ∃ ref info, user = some ref ∧ server.users.users.deref ref = some info ∧
      ((info.state ≠ .online ∧ next = server) ∨
        (info.state = .online ∧ next = { server with
          pool := server.pool.pushBack (MatchPool.band info.userPoints) userId
          users := server.users.setState ref .matching })) := by
  obtain ⟨info, read, rest⟩ := bind_eq_ok.mp called
  obtain ⟨ref, rfl, held⟩ := userAt_eq_ok.mp read
  refine ⟨ref, info, rfl, held, ?_⟩
  split at rest
  · rename_i busy
    simp only [pure_eq_ok, Except.ok.injEq, Prod.mk.injEq] at rest
    exact .inl ⟨busy, rest.1.symm⟩
  · rename_i idle
    simp only [setStateOf, ok_bind, pure_eq_ok, Except.ok.injEq, Prod.mk.injEq] at rest
    exact .inr ⟨not_not.mp idle, rest.1.symm⟩

/-- `dequeue` takes a matching user out of the queue of its points and sets it back to `ONLINE`; in
any other state it refuses. -/
theorem dequeue_ok {server next : Server} {userId : UserId} {user : Option Ref} {ret : Bool}
    (called : server.dequeue userId user = .ok (next, ret)) :
    ∃ ref info, user = some ref ∧ server.users.users.deref ref = some info ∧
      ((info.state ≠ .matching ∧ next = server) ∨
        (info.state = .matching ∧ next = { server with
          pool := server.pool.remove (MatchPool.band info.userPoints) userId
          users := server.users.setState ref .online })) := by
  obtain ⟨info, read, rest⟩ := bind_eq_ok.mp called
  obtain ⟨ref, rfl, held⟩ := userAt_eq_ok.mp read
  refine ⟨ref, info, rfl, held, ?_⟩
  split at rest
  · rename_i other
    simp only [pure_eq_ok, Except.ok.injEq, Prod.mk.injEq] at rest
    exact .inl ⟨other, rest.1.symm⟩
  · rename_i matching
    simp only [setStateOf, ok_bind, pure_eq_ok, Except.ok.injEq, Prod.mk.injEq] at rest
    exact .inr ⟨not_not.mp matching, rest.1.symm⟩

/-- `addUser` enqueues a user who is online. -/
theorem addUser_ok {server next : Server} {userId : UserId} {ret : Bool}
    (called : server.addUser userId = .ok (next, ret)) :
    ∃ ref info, server.users.userId2User.find? userId = some ref ∧
      server.users.userInfo userId = some info ∧
      ((info.state ≠ .online ∧ next = server) ∨
        (info.state = .online ∧ next = { server with
          pool := server.pool.pushBack (MatchPool.band info.userPoints) userId
          users := server.users.setState ref .matching })) := by
  obtain ⟨ref, info, found, held, rest⟩ := enqueue_ok called
  exact ⟨ref, info, found, UserManager.userInfo_eq_some_iff.mpr ⟨ref, found, held⟩, rest⟩

/-- `removeUser` dequeues a user who is online. -/
theorem removeUser_ok {server next : Server} {userId : UserId} {ret : Bool}
    (called : server.removeUser userId = .ok (next, ret)) :
    ∃ ref info, server.users.userId2User.find? userId = some ref ∧
      server.users.userInfo userId = some info ∧
      ((info.state ≠ .matching ∧ next = server) ∨
        (info.state = .matching ∧ next = { server with
          pool := server.pool.remove (MatchPool.band info.userPoints) userId
          users := server.users.setState ref .online })) := by
  obtain ⟨ref, info, found, held, rest⟩ := dequeue_ok called
  exact ⟨ref, info, found, UserManager.userInfo_eq_some_iff.mpr ⟨ref, found, held⟩, rest⟩

/-- The user a match or cancel request names. -/
def requestedUser (req : Json.Value) : Except Fault UserId := do
  (← req.getMember "userId").asUInt

/-- A match request is one call of `addUser`. -/
theorem onMatch_ok {server next : Server} {conn : ConnId} {req : Json.Value}
    (called : server.onMatch conn req = .ok next) :
    ∃ userId after ret sent, requestedUser req = .ok userId ∧
      server.addUser userId = .ok (after, ret) ∧ next = { after with sent := sent } := by
  simp only [onMatch, bind_eq_ok] at called
  obtain ⟨member, found, userId, read, ⟨after, ret⟩, added, sentEq⟩ := called
  have requested : requestedUser req = .ok userId := by
    simp only [requestedUser, bind_eq_ok]
    exact ⟨member, found, read⟩
  simp only [pure_eq_ok, Except.ok.injEq] at sentEq
  obtain ⟨more, same, _⟩ := sendMsg_eq after conn .MATCH_START_ACK _
  exact ⟨userId, after, ret, _, requested, added, sentEq.symm.trans same⟩

/-- A cancel request is one call of `removeUser`. -/
theorem onCancelMatch_ok {server next : Server} {conn : ConnId} {req : Json.Value}
    (called : server.onCancelMatch conn req = .ok next) :
    ∃ userId after ret sent, requestedUser req = .ok userId ∧
      server.removeUser userId = .ok (after, ret) ∧ next = { after with sent := sent } := by
  simp only [onCancelMatch, bind_eq_ok] at called
  obtain ⟨member, found, userId, read, ⟨after, ret⟩, removed, sentEq⟩ := called
  have requested : requestedUser req = .ok userId := by
    simp only [requestedUser, bind_eq_ok]
    exact ⟨member, found, read⟩
  simp only [pure_eq_ok, Except.ok.injEq] at sentEq
  obtain ⟨more, same, _⟩ := sendMsg_eq after conn .MATCH_CANCEL_ACK _
  exact ⟨userId, after, ret, _, requested, removed, sentEq.symm.trans same⟩

/-- A user who is online can be looked at. -/
theorem userAt_of_userInfo {server : Server} {userId : UserId} {info : UserInfo}
    (current : server.users.userInfo userId = some info) :
    ∃ ref, server.users.getUserByUserId userId = some ref ∧
      server.userAt (some ref) = .ok info := by
  obtain ⟨ref, found, held⟩ := UserManager.userInfo_eq_some_iff.mp current
  exact ⟨ref, found, userAt_eq_ok.mpr ⟨ref, rfl, held⟩⟩

/-- `addUser` follows a null pointer for a user who is not online. -/
theorem addUser_offline {server : Server} {userId : UserId}
    (offline : server.users.userInfo userId = none) :
    server.addUser userId = .error .nullDereference := by
  have nobody : userAt server (server.users.getUserByUserId userId) = .error .nullDereference := by
    rw [userAt, UserManager.getUserByUserId, ← UserManager.userInfo, offline]
  rw [addUser, enqueue, nobody, error_bind]

/-- `removeUser` follows a null pointer for a user who is not online. -/
theorem removeUser_offline {server : Server} {userId : UserId}
    (offline : server.users.userInfo userId = none) :
    server.removeUser userId = .error .nullDereference := by
  have nobody : userAt server (server.users.getUserByUserId userId) = .error .nullDereference := by
    rw [userAt, UserManager.getUserByUserId, ← UserManager.userInfo, offline]
  rw [removeUser, dequeue, nobody, error_bind]

/-- `addUser` for a user who is online. -/
theorem addUser_online {server : Server} {userId : UserId} {info : UserInfo}
    (current : server.users.userInfo userId = some info) :
    server.addUser userId =
      if info.state = .online then
        .ok ({ server with
          pool := server.pool.pushBack (MatchPool.band info.userPoints) userId
          users := server.users.setUserState userId .matching }, true)
      else .ok (server, false) := by
  obtain ⟨ref, found, read⟩ := userAt_of_userInfo current
  have entry : server.users.userId2User.find? userId = some ref := found
  rw [addUser, enqueue, found, read, ok_bind]
  by_cases idle : info.state = .online
  · rw [if_neg (not_not.mpr idle), if_pos idle, UserManager.setUserState_of_found entry]
    rfl
  · rw [if_pos idle, if_neg idle]
    rfl

/-- `removeUser` for a user who is online. -/
theorem removeUser_online {server : Server} {userId : UserId} {info : UserInfo}
    (current : server.users.userInfo userId = some info) :
    server.removeUser userId =
      if info.state = .matching then
        .ok ({ server with
          pool := server.pool.remove (MatchPool.band info.userPoints) userId
          users := server.users.setUserState userId .online }, true)
      else .ok (server, false) := by
  obtain ⟨ref, found, read⟩ := userAt_of_userInfo current
  have entry : server.users.userId2User.find? userId = some ref := found
  rw [removeUser, dequeue, found, read, ok_bind]
  by_cases waiting : info.state = .matching
  · rw [if_neg (not_not.mpr waiting), if_pos waiting, UserManager.setUserState_of_found entry]
    rfl
  · rw [if_pos waiting, if_neg waiting]
    rfl

/-- `addUser` returns for a user who is online. -/
theorem exists_addUser {server : Server} {userId : UserId} {info : UserInfo}
    (current : server.users.userInfo userId = some info) :
    ∃ after ret, server.addUser userId = .ok (after, ret) := by
  rw [addUser_online current]
  split
  · exact ⟨_, _, rfl⟩
  · exact ⟨_, _, rfl⟩

/-- `removeUser` returns for a user who is online. -/
theorem exists_removeUser {server : Server} {userId : UserId} {info : UserInfo}
    (current : server.users.userInfo userId = some info) :
    ∃ after ret, server.removeUser userId = .ok (after, ret) := by
  rw [removeUser_online current]
  split
  · exact ⟨_, _, rfl⟩
  · exact ⟨_, _, rfl⟩

/-- A match request for a user who is online returns. -/
theorem exists_onMatch {server : Server} {req : Json.Value} {userId : UserId} {info : UserInfo}
    (conn : ConnId) (requested : requestedUser req = .ok userId)
    (current : server.users.userInfo userId = some info) :
    ∃ next, server.onMatch conn req = .ok next := by
  obtain ⟨member, found, read⟩ := bind_eq_ok.mp requested
  obtain ⟨after, ret, added⟩ := exists_addUser current
  exact ⟨_, by rw [onMatch, found, ok_bind, read, ok_bind, added]; rfl⟩

/-- A cancel request for a user who is online returns. -/
theorem exists_onCancelMatch {server : Server} {req : Json.Value} {userId : UserId}
    {info : UserInfo} (conn : ConnId) (requested : requestedUser req = .ok userId)
    (current : server.users.userInfo userId = some info) :
    ∃ next, server.onCancelMatch conn req = .ok next := by
  obtain ⟨member, found, read⟩ := bind_eq_ok.mp requested
  obtain ⟨after, ret, removed⟩ := exists_removeUser current
  exact ⟨_, by rw [onCancelMatch, found, ok_bind, read, ok_bind, removed]; rfl⟩

/-- A turn of the match thread leaves a queue with fewer than two users alone. -/
theorem matchQueue_short {server : Server} {i : Fin 3} (roomCount : UInt32)
    (short : (server.pool.queues i).length ≤ 1) : server.matchQueue i roomCount = .ok server := by
  unfold matchQueue
  split
  · rename_i queued
    simp [queued] at short
  · rfl

/-- What a turn of the match thread does with two users whose connections lead to records. -/
theorem matchQueue_online {server : Server} {i : Fin 3} {userId1 userId2 : UserId}
    {rest : List UserId} {conn1 conn2 : ConnId} {ref1 ref2 : Ref} (roomCount : UInt32)
    (queued : server.pool.queues i = userId1 :: userId2 :: rest)
    (online1 : server.users.userId2Conn.find? userId1 = some conn1)
    (online2 : server.users.userId2Conn.find? userId2 = some conn2)
    (user1 : server.users.getUserByconn (some conn1) = some ref1)
    (user2 : server.users.getUserByconn (some conn2) = some ref2) :
    server.matchQueue i roomCount = .ok { server with
      pool := server.pool.popped i rest
      rooms := server.rooms.createRoom roomCount userId1 userId2
      users := (server.users.setState ref1 .gaming).setState ref2 .gaming
      sent := server.sent ++
        (if conn1 ∈ server.conns.conns then [⟨conn1, .MATCH_PUSH, matchedResult 1⟩] else []) ++
        if conn2 ∈ server.conns.conns then [⟨conn2, .MATCH_PUSH, matchedResult 2⟩] else [] } := by
  have found1 : server.users.getConnByUserId userId1 = some conn1 := online1
  have found2 : server.users.getConnByUserId userId2 = some conn2 := online2
  unfold matchQueue
  rw [queued]
  simp only [lookup, found1, found2, user1, user2, reportAbsent, Pairing.remaining, ok_bind,
    openRoom, setStateOf, pushResult, sendMsg_some, pure_eq_ok]

/-- A turn of the match thread that returns leaves a queue with fewer than two users alone.  From a
longer one it takes the first two; both have a connection then, since the pointer that belongs to a
missing one is used later on. -/
theorem matchQueue_ok {server next : Server} {i : Fin 3} {roomCount : UInt32}
    (called : server.matchQueue i roomCount = .ok next) :
    ((server.pool.queues i).length < 2 ∧ next = server) ∨
      ∃ userId1 userId2 rest conn1 conn2 ref1 ref2 sent,
        server.pool.queues i = userId1 :: userId2 :: rest ∧
        server.users.userId2Conn.find? userId1 = some conn1 ∧
        server.users.userId2Conn.find? userId2 = some conn2 ∧
        server.users.getUserByconn (some conn1) = some ref1 ∧
        server.users.getUserByconn (some conn2) = some ref2 ∧
        next = { server with
          pool := server.pool.popped i rest
          rooms := server.rooms.createRoom roomCount userId1 userId2
          users := (server.users.setState ref1 .gaming).setState ref2 .gaming
          sent := sent } := by
  have turn := called
  unfold matchQueue at called
  split at called
  · rename_i userId1 userId2 rest queued
    simp only [bind_eq_ok, setStateOf_eq_ok] at called
    obtain ⟨_, _, _, ⟨ref1, user1, rfl⟩, _, ⟨ref2, user2, rfl⟩, _⟩ := called
    obtain ⟨conn1, online1, user1⟩ := UserManager.exists_conn_of_getUserByconn user1
    obtain ⟨conn2, online2, user2⟩ := UserManager.exists_conn_of_getUserByconn user2
    rw [matchQueue_online roomCount queued online1 online2 user1 user2] at turn
    exact .inr ⟨userId1, userId2, rest, conn1, conn2, ref1, ref2, _, queued, online1, online2,
      user1, user2, (Except.ok.inj turn).symm⟩
  · rename_i short
    refine .inl ⟨?_, (Except.ok.inj called).symm⟩
    cases queued : server.pool.queues i with
    | nil => simp
    | cons userId1 others =>
        cases others with
        | nil => simp
        | cons userId2 rest => exact absurd queued (short userId1 userId2 rest)

end Server

end GomukuServer.Module
