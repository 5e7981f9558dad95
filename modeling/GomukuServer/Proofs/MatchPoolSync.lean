/-
Module: GomukuServer.Proofs.MatchPoolSync
Layer: Proofs
Purpose: The queues of the match pool and the states of the users.  Only `addUser` and `removeUser`
  write both; a login, a disconnect, a departure from a room and the match thread write one of the
  two.  For each event the condition under which the two stay in step is exact.
Trusted boundary: none
Main exports: PoolInStep, Keeps, paired_once, poolInStep_always_iff,
  not_poolInStep_after_relogin
-/
import GomukuServer.Module.GameServer

namespace GomukuServer.Proofs.MatchPoolSync

open Base Base.Runs Model Manager Db Net
open GomukuServer.Module

/-! ### In step -/

/-- Every id waits at most once, and the ids that wait are those of the users in state `MATCHING`.
-/
structure PoolInStep (server : Server) : Prop where
  once : ∀ userId, server.pool.occurrences userId ≤ 1
  waits_iff : ∀ userId, (∃ i, userId ∈ server.pool.queues i) ↔
    server.users.stateOf userId = some .matching

/-- The same with numbers. -/
theorem poolInStep_iff {server : Server} :
    PoolInStep server ↔ ∀ userId, server.pool.occurrences userId =
      if server.users.stateOf userId = some .matching then 1 else 0 := by
  constructor
  · intro good userId
    have once := good.once userId
    have waits := good.waits_iff userId
    rw [← MatchPool.occurrences_pos] at waits
    split
    · have := waits.mpr (by assumption)
      omega
    · have := mt waits.mp (by assumption)
      omega
  · intro counts
    refine ⟨fun userId => ?_, fun userId => ?_⟩
    · rw [counts userId]
      split <;> omega
    · rw [← MatchPool.occurrences_pos, counts userId]
      split <;> simp_all

/-- Two users who are taken out of a queue together are different, and neither waits any longer. -/
theorem paired_once {server : Server} {i : Fin 3} {first second : UserId} {rest : List UserId}
    (good : PoolInStep server) (queued : server.pool.queues i = first :: second :: rest) :
    first ≠ second ∧ ∀ userId ∈ [first, second],
      (server.pool.popped i rest).occurrences userId = 0 := by
  have onceFirst := good.once first
  have onceSecond := good.once second
  rw [MatchPool.occurrences_popped queued] at onceFirst onceSecond
  simp only [if_true] at onceFirst onceSecond
  have different : first ≠ second := by
    rintro rfl
    simp only [if_true] at onceFirst
    omega
  refine ⟨different, fun userId player => ?_⟩
  simp only [List.mem_cons, List.not_mem_nil, or_false] at player
  rcases player with rfl | rfl <;> omega

/-- Taking two users out of a queue leaves the others where they wait. -/
theorem occurrences_popped_of_inStep {server : Server} {i : Fin 3} {first second : UserId}
    {rest : List UserId} (good : PoolInStep server)
    (queued : server.pool.queues i = first :: second :: rest) (userId : UserId) :
    (server.pool.popped i rest).occurrences userId =
      if userId ∈ [first, second] then 0 else server.pool.occurrences userId := by
  split
  · rename_i player
    exact (paired_once good queued).2 userId player
  · rename_i stranger
    have popped := MatchPool.occurrences_popped queued userId
    simp only [List.mem_cons, List.not_mem_nil, or_false, not_or] at stranger
    simpa [Ne.symm stranger.1, Ne.symm stranger.2] using popped.symm

/-- Whoever waits is in state `MATCHING`. -/
theorem matching_of_queued {server : Server} {i : Fin 3} {first second : UserId}
    {rest : List UserId} (good : PoolInStep server)
    (queued : server.pool.queues i = first :: second :: rest) {userId : UserId}
    (player : userId ∈ [first, second]) : server.users.stateOf userId = some .matching := by
  refine (good.waits_iff userId).mp ⟨i, ?_⟩
  rw [queued]
  exact List.mem_append_left rest player

/-- The user whose id the connection of the given user leads to. -/
def owner (users : UserManager) (userId : UserId) : Option UserId :=
  (users.userId2Conn.find? userId).bind users.conn2UserId.find?

/-- What each event needs to keep pool and states in step: whoever logs in, goes off line or leaves
a room does not wait; whoever cancels waits in the queue of its points of now; and the connections
of the two users who are matched lead back to these users. -/
def Keeps (server : Server) : ServerEvent → Prop
  | .login _ req outcome => ∀ row, Server.requestedRow server req outcome = .ok (some row) →
      server.pool.occurrences (UserDB.toUInt32 row.userId) = 0
  | .disconnect conn _ => server.users.getUserIdByConn conn ≠ 0 →
      server.pool.occurrences (server.users.getUserIdByConn conn) = 0
  | .matchCancel _ req => ∀ userId, Server.requestedUser req = .ok userId →
      ∀ info, server.users.userInfo userId = some info → info.state = .matching →
        userId ∈ server.pool.queues (MatchPool.band info.userPoints)
  | .matchQueue i _ => ∀ first second rest, server.pool.queues i = first :: second :: rest →
      ∀ userId ∈ [first, second],
        some userId ∈ [owner server.users first, owner server.users second]
  | .exitRoom conn =>
      (server.rooms.userId2Room.find? (server.users.getUserIdByConn conn)).isSome →
        server.pool.occurrences (server.users.getUserIdByConn conn) = 0
  | _ => True

/-! ### One event -/

/-- An event that leaves the pool and the states alone keeps them in step. -/
theorem PoolInStep.of_same {server next : Server} (good : PoolInStep server)
    (pool : next.pool = server.pool)
    (states : ∀ userId, next.users.stateOf userId = server.users.stateOf userId) :
    PoolInStep next := by
  rw [poolInStep_iff] at good ⊢
  intro userId
  rw [pool, states]
  exact good userId

/-- When one user gets a state other than `MATCHING`, or none, pool and states stay in step exactly
if that user does not wait. -/
theorem poolInStep_iff_of_changed {server next : Server} (changed : UserId)
    (good : PoolInStep server) (pool : next.pool = server.pool)
    (states : ∀ userId, userId ≠ changed →
      next.users.stateOf userId = server.users.stateOf userId)
    (notMatching : next.users.stateOf changed ≠ some .matching) :
    server.pool.occurrences changed = 0 ↔ PoolInStep next := by
  rw [poolInStep_iff] at good ⊢
  constructor
  · intro absent userId
    rw [pool]
    by_cases same : userId = changed
    · rw [same, if_neg notMatching, absent]
    · rw [states userId same]
      exact good userId
  · intro counts
    have count := counts changed
    rwa [pool, if_neg notMatching] at count

theorem poolInStep_login_iff {server next : Server} {conn : ConnId} {req : Json.Value}
    {outcome : LoginOutcome} (good : PoolInStep server)
    (called : server.onLogin conn req outcome = .ok next) :
    Keeps server (.login conn req outcome) ↔ PoolInStep next := by
  obtain ⟨sent, ⟨nobody, rfl⟩ | ⟨row, user, requested, loaded, rfl⟩⟩ := Server.onLogin_ok called
  · exact ⟨fun _ => good.of_same rfl fun _ => rfl, fun _ row found => by simp [nobody] at found⟩
  · obtain ⟨built, _⟩ := Server.loadUser_ok loaded
    refine Iff.trans ?_ (poolInStep_iff_of_changed user.userId good ?_ ?_ ?_)
    · simp only [Keeps, requested, Except.ok.injEq, Option.some.injEq, forall_eq', built,
        UserInfo.new]
    · rfl
    · intro userId other
      simp [UserManager.stateOf_addOnlineUser, other]
    · simp [UserManager.stateOf_addOnlineUser, built, UserInfo.new]

theorem poolInStep_disconnect_iff {server : Server} (good : PoolInStep server)
    (conn erased : ConnId) :
    Keeps server (.disconnect conn erased) ↔ PoolInStep (server.onDisconnect conn erased) := by
  rw [Server.onDisconnect_eq]
  by_cases loggedIn : server.users.getUserIdByConn conn ≠ 0
  · refine Iff.trans ?_
      (poolInStep_iff_of_changed (server.users.getUserIdByConn conn) good ?_ ?_ ?_)
    · simp only [Keeps, loggedIn, ne_eq, not_false_eq_true, forall_const]
    · rfl
    · intro userId other
      simp [loggedIn, UserManager.stateOf_removeOnlineUser, other]
    · simp [loggedIn, UserManager.stateOf_removeOnlineUser]
  · refine ⟨fun _ => good.of_same rfl fun userId => ?_, fun _ present => absurd present loggedIn⟩
    simp only [if_neg loggedIn]

theorem poolInStep_exitRoom_iff {server next : Server} {conn : ConnId} (good : PoolInStep server)
    (called : server.onExitRoom conn = .ok next) :
    Keeps server (.exitRoom conn) ↔ PoolInStep next := by
  obtain ⟨removed, same⟩ := Server.onExitRoom_ok called
  obtain ⟨_, _, _, users⟩ := GameRoomManager.removeUser_ok removed
  have pool : next.pool = server.pool := by rw [same]
  simp only [Keeps]
  split at users
  · rename_i absent
    simp only [absent, Option.isSome_none, Bool.false_eq_true, false_imp_iff, true_iff]
    exact good.of_same pool fun userId => by rw [users]
  · rename_i seated
    refine Iff.trans ?_
      (poolInStep_iff_of_changed (server.users.getUserIdByConn conn) good pool ?_ ?_)
    · simp [Option.isSome_iff_ne_none, seated]
    · intro userId other
      rw [users, UserManager.stateOf_setUserState, if_neg other]
    · rw [users, UserManager.stateOf_setUserState, if_pos rfl]
      simp

/-- A match request puts an idle user into a queue and into the state `MATCHING`. -/
theorem poolInStep_matchStart {server next : Server} {conn : ConnId} {req : Json.Value}
    (good : PoolInStep server) (called : server.onMatch conn req = .ok next) : PoolInStep next := by
  obtain ⟨added, after, ret, sent, _, entered, rfl⟩ := Server.onMatch_ok called
  obtain ⟨ref, info, found, current, ⟨_, rfl⟩ | ⟨idle, rfl⟩⟩ := Server.addUser_ok entered
  · exact good.of_same rfl fun _ => rfl
  · rw [poolInStep_iff] at good ⊢
    have online : server.users.stateOf added = some .online := by
      rw [UserManager.stateOf, current, Option.map_some, idle]
    intro userId
    rw [MatchPool.occurrences_pushBack, UserManager.stateOf_setState_of_found found, good userId]
    by_cases same : userId = added
    · simp [same, online]
    · simp [same]

/-- A cancel request takes a user out of a queue exactly if it looks into the right one. -/
theorem poolInStep_matchCancel_iff {server next : Server} {conn : ConnId} {req : Json.Value}
    (good : PoolInStep server) (called : server.onCancelMatch conn req = .ok next) :
    Keeps server (.matchCancel conn req) ↔ PoolInStep next := by
  obtain ⟨removed, after, ret, sent, requested, left, rfl⟩ := Server.onCancelMatch_ok called
  obtain ⟨ref, info, found, current, rest⟩ := Server.removeUser_ok left
  simp only [Keeps, requested, Except.ok.injEq, forall_eq', current, Option.some.injEq]
  obtain ⟨other, rfl⟩ | ⟨matching, rfl⟩ := rest
  · exact ⟨fun _ => good.of_same rfl fun _ => rfl, fun _ state => absurd state other⟩
  · have once := good.once removed
    have part := server.pool.count_le_occurrences (MatchPool.band info.userPoints) removed
    have waits : server.users.stateOf removed = some .matching := by
      rw [UserManager.stateOf, current, Option.map_some, matching]
    rw [poolInStep_iff] at good ⊢
    simp only [matching, forall_const, ← List.count_pos_iff, MatchPool.occurrences_remove,
      UserManager.stateOf_setState_of_found found]
    have before := good removed
    rw [if_pos waits] at before
    constructor
    · intro inside userId
      by_cases same : userId = removed
      · subst same
        simp only [if_true, reduceCtorEq, if_false, Option.some.injEq]
        omega
      · simp [same, good userId]
    · intro counts
      have count := counts removed
      simp only [if_true, reduceCtorEq, if_false, Option.some.injEq] at count
      omega

/-- The match thread keeps pool and states in step exactly if the connections of the two users lead
back to them. -/
theorem poolInStep_matchQueue_iff {server next : Server} {i : Fin 3} {roomCount : UInt32}
    (good : PoolInStep server) (called : server.matchQueue i roomCount = .ok next) :
    Keeps server (.matchQueue i roomCount) ↔ PoolInStep next := by
  obtain ⟨short, rfl⟩ | ⟨first, second, rest, conn1, conn2, ref1, ref2, sent, queued, online1,
    online2, user1, user2, rfl⟩ := Server.matchQueue_ok called
  · refine ⟨fun _ => good, fun _ first second rest queued => ?_⟩
    simp only [queued, List.length_cons] at short
    omega
  · have counts := occurrences_popped_of_inStep good queued
    have waiting := fun {userId} => @matching_of_queued _ _ _ _ _ good queued userId
    simp only [UserManager.getUserByconn, Option.bind_some, Option.bind_eq_some_iff] at user1 user2
    obtain ⟨owner1, owned1, found1⟩ := user1
    obtain ⟨owner2, owned2, found2⟩ := user2
    have ownerFirst : owner server.users first = some owner1 := by simp [owner, online1, owned1]
    have ownerSecond : owner server.users second = some owner2 := by simp [owner, online2, owned2]
    have states : ∀ userId, ((server.users.setState ref1 .gaming).setState ref2 .gaming).stateOf
        userId = if userId ∈ [owner1, owner2] then some .gaming
          else server.users.stateOf userId := by
      intro userId
      rw [UserManager.stateOf_setState_of_found (by simpa using found2),
        UserManager.stateOf_setState_of_found found1]
      by_cases one : userId = owner1 <;> by_cases two : userId = owner2 <;> simp [one, two]
    have different := (paired_once good queued).1
    rw [poolInStep_iff] at good ⊢
    simp only [states, counts]
    constructor
    · intro keeps userId
      have ownFirst := keeps first second rest queued first (by simp)
      have ownSecond := keeps first second rest queued second (by simp)
      simp only [ownerFirst, ownerSecond, List.mem_cons, Option.some.injEq, List.not_mem_nil,
        or_false] at ownFirst ownSecond
      -- the two owners are the two players, in one order or the other
      have sameTwo : userId ∈ [owner1, owner2] ↔ userId ∈ [first, second] := by
        simp only [List.mem_cons, List.not_mem_nil, or_false]
        grind
      by_cases player : userId ∈ [first, second]
      · simp only [player, sameTwo, if_true, Option.some.injEq, reduceCtorEq, if_false]
      · rw [if_neg player, if_neg (mt sameTwo.mp player)]
        exact good userId
    · intro balanced first' second' rest' queued' userId player
      rw [queued] at queued'
      simp only [List.cons.injEq] at queued'
      obtain ⟨rfl, rfl, rfl⟩ := queued'
      have count := balanced userId
      rw [if_pos player] at count
      by_contra stranger
      have noOwner : userId ∉ [owner1, owner2] := by
        simpa [ownerFirst, ownerSecond] using stranger
      rw [if_neg noOwner, if_pos (waiting player)] at count
      omega

/-- A move settles points, not states. -/
theorem poolInStep_chess {server next : Server} {conn : ConnId} {req : Json.Value}
    {winOutcome loseOutcome : DbOutcome} (good : PoolInStep server)
    (called : server.onChess conn req winOutcome loseOutcome = .ok next) : PoolInStep next := by
  obtain ⟨_, _, rooms, ret, settled, more, _, _, settledEq, rfl, _⟩ := Server.onChess_ok called
  cases ret with
  | false =>
      obtain rfl : settled = { server with rooms := rooms } := settledEq
      exact good.of_same rfl fun _ => rfl
  | true =>
      obtain ⟨_, _, _, same⟩ := Server.settle_ok settledEq
      refine good.of_same ?_ fun userId => ?_ <;> rw [same]
      simp

/-! ### Runs -/

/-- An event that returns keeps pool and states in step exactly if it meets its condition. -/
theorem poolInStep_step_iff {server next : Server} {event : ServerEvent} (good : PoolInStep server)
    (stepEq : server.step event = .ok next) : Keeps server event ↔ PoolInStep next := by
  cases event with
  | connect conn =>
      obtain rfl := Except.ok.inj stepEq
      exact ⟨fun _ => good.of_same rfl fun _ => rfl, fun _ => trivial⟩
  | disconnect conn erased =>
      obtain rfl := Except.ok.inj stepEq
      exact poolInStep_disconnect_iff good conn erased
  | register conn req outcome =>
      obtain ⟨_, _, _, _, _, _, same⟩ := Server.onRegister_ok stepEq
      exact ⟨fun _ => good.of_same (by rw [same]) (by rw [same]; exact fun _ => rfl),
        fun _ => trivial⟩
  | login conn req outcome => exact poolInStep_login_iff good stepEq
  | matchStart conn req => exact ⟨fun _ => poolInStep_matchStart good stepEq, fun _ => trivial⟩
  | matchCancel conn req => exact poolInStep_matchCancel_iff good stepEq
  | matchQueue i roomCount => exact poolInStep_matchQueue_iff good stepEq
  | chess conn req winOutcome loseOutcome =>
      exact ⟨fun _ => poolInStep_chess good stepEq, fun _ => trivial⟩
  | chat conn req =>
      obtain ⟨_, rfl, _⟩ := Server.onChat_ok stepEq
      exact ⟨fun _ => good.of_same rfl fun _ => rfl, fun _ => trivial⟩
  | exitRoom conn => exact poolInStep_exitRoom_iff good stepEq

/-- In every run of the server, pool and states are in step at every moment exactly if every event
that returns meets its condition. -/
theorem poolInStep_always_iff (db : UserDB) (events : List ServerEvent) :
    Always Server.step PoolInStep (Server.new db) events ↔
      Admissible Server.step (WhenReturns Server.step Keeps) (Server.new db) events := by
  refine always_iff_whenReturns (fun _ _ _ good stepEq => poolInStep_step_iff good stepEq) ?_ events
  rw [poolInStep_iff]
  intro userId
  rfl

/-- Ann asks to be matched, logs in a second time and asks again. -/
def matchTwice : List ServerEvent :=
  enter 10 "ann" ++ [startMatch 10 1] ++ enter 11 "ann" ++ [startMatch 11 1]

/-- Ann waits twice. -/
theorem not_poolInStep_after_relogin :
    ¬ Always Server.step PoolInStep (Server.new annAndBob) matchTwice := by
  have twice : (run Server.step (Server.new annAndBob) matchTwice).toOption.map
      (fun server => server.pool.occurrences 1) = some 2 := by
    decide +kernel
  refine not_always_of_view twice fun last count inStep => ?_
  have once := inStep.once 1
  omega

end GomukuServer.Proofs.MatchPoolSync
