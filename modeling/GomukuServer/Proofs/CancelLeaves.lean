/-
Module: GomukuServer.Proofs.CancelLeaves
Layer: Proofs
Purpose: When a cancelled match request is out of the queues.  `removeUser` looks only in the queue
  for the points the user has now, while `addUser` has chosen the queue by the points of then, and a
  game can be settled in between.  The cancel empties the queues of the user exactly if it is in no
  other queue; as long as no step moves the points of a waiting user out of its band, that is so.
Trusted boundary: none
Main exports: CancelEmpties, NotPaired, CancelsLeave, QueuedByPoints, cancelsLeave_iff, Steady,
  queuedByPoints_of_steady, not_cancelsLeave_afterLostGame
-/
import GomukuServer.Proofs.RoomIsolation

namespace GomukuServer.Proofs.CancelLeaves

open Base Base.Runs Model Manager Db Net RoomIsolation
open GomukuServer.Module GomukuServer.Module.Server

/-- A cancel that `removeUser` answers with true leaves its user in none of the three queues. -/
def CancelEmpties (server : Server) : ServerEvent → Prop
  | .matchCancel _ req => ∀ userId after, requestedUser req = .ok userId →
      server.removeUser userId = .ok (after, true) → ∀ i, userId ∉ after.pool.queues i
  | _ => True

/-- The event is a match request for the user. -/
def Asks (userId : UserId) (event : ServerEvent) : Prop :=
  ∃ conn req, event = .matchStart conn req ∧ requestedUser req = .ok userId

/-- The event is not a turn of the match thread that puts the user into a room. -/
def NotPaired (userId : UserId) (server : Server) (event : ServerEvent) : Prop :=
  ∀ i roomCount next, event = .matchQueue i roomCount → server.step event = .ok next →
    next.rooms.userId2Room.find? userId = server.rooms.userId2Room.find? userId

/-- Every cancel answered with true leaves its user in no queue, and from then on the match thread
puts the user into no room until a request asks for it again. -/
def CancelsLeave (db : UserDB) (events : List ServerEvent) : Prop :=
  Admissible Server.step CancelEmpties (Server.new db) events ∧
    ∀ before conn req after middle userId answered next,
      before ++ .matchCancel conn req :: after = events →
      run Server.step (Server.new db) before = .ok middle → requestedUser req = .ok userId →
      middle.removeUser userId = .ok (answered, true) →
      middle.step (.matchCancel conn req) = .ok next → (∀ event ∈ after, ¬ Asks userId event) →
      Admissible Server.step (NotPaired userId) next after

/-- The user of a cancel, if it is waiting, is in no queue but the one for its points. -/
def QueuedByPoints (server : Server) : ServerEvent → Prop
  | .matchCancel _ req => ∀ userId info, requestedUser req = .ok userId →
      server.users.userInfo userId = some info → info.state = .matching →
      ∀ i, userId ∈ server.pool.queues i → i = MatchPool.band info.userPoints
  | _ => True

/-- A cancel empties the queues of its user exactly if the user is in no queue but the one for its
points. -/
theorem cancelEmpties_iff (server : Server) (event : ServerEvent) :
    CancelEmpties server event ↔ QueuedByPoints server event := by
  cases event with
  | matchCancel conn req =>
      constructor
      · intro empties userId info requested current waiting i queued
        have removed := removeUser_online current
        rw [if_pos waiting] at removed
        by_contra elsewhere
        refine empties userId _ requested removed i (MatchPool.mem_remove.mpr ⟨queued, ?_⟩)
        exact fun both => elsewhere both.1
      · intro queued userId after requested removed i inside
        obtain ⟨_, info, _, current, _⟩ := removeUser_ok removed
        rw [removeUser_online current] at removed
        split at removed
        · rename_i waiting
          obtain ⟨rfl, _⟩ := Prod.mk.inj (Except.ok.inj removed)
          obtain ⟨queuedHere, kept⟩ := MatchPool.mem_remove.mp inside
          exact kept ⟨queued userId info requested current waiting i queuedHere, rfl⟩
        · simp at removed
  | _ => exact Iff.rfl

/-! ### Who is in no queue stays out -/

/-- Whoever is in a queue after a step was in it, or asks to be matched and has the points for it.
-/
theorem mem_queues_of_step {server next : Server} {event : ServerEvent}
    (stepEq : server.step event = .ok next) {userId : UserId} {i : Fin 3}
    (inside : userId ∈ next.pool.queues i) :
    userId ∈ server.pool.queues i ∨ Asks userId event ∧ ∃ info,
      server.users.userInfo userId = some info ∧ i = MatchPool.band info.userPoints := by
  have change := poolStep_of_step stepEq
  generalize next.pool = pool at change inside
  cases change with
  | same => exact .inl inside
  | @joined conn req _ info requested current =>
      rcases MatchPool.mem_pushBack.mp inside with before | ⟨rfl, rfl⟩
      · exact .inl before
      · exact .inr ⟨⟨conn, req, rfl, requested⟩, info, current, rfl⟩
  | left => exact .inl (MatchPool.mem_remove.mp inside).1
  | taken queued =>
      rw [MatchPool.queues_popped] at inside
      split at inside
      · rename_i same
        exact .inl (by rw [same, queued]; simp [inside])
      · exact .inl inside

/-- A user who is in no queue gets into one only by a match request. -/
theorem notQueued_step {server next : Server} {event : ServerEvent} {userId : UserId}
    (absent : ∀ i, userId ∉ server.pool.queues i) (quiet : ¬ Asks userId event)
    (stepEq : server.step event = .ok next) : ∀ i, userId ∉ next.pool.queues i := by
  intro i inside
  rcases mem_queues_of_step stepEq inside with before | ⟨asks, _⟩
  · exact absent i before
  · exact quiet asks

/-- The match thread pairs nobody who is in no queue. -/
theorem notPaired_of_notQueued {server : Server} {event : ServerEvent} {userId : UserId}
    (absent : ∀ i, userId ∉ server.pool.queues i) : NotPaired userId server event := by
  rintro i roomCount next rfl stepEq
  have change := roomsStep_of_step stepEq
  generalize next.rooms = rooms at change ⊢
  cases change with
  | same => rfl
  | @opened _ _ userId1 userId2 _ queued =>
      have first : userId ≠ userId1 := by
        rintro rfl
        exact absent i (queued ▸ by simp)
      have second : userId ≠ userId2 := by
        rintro rfl
        exact absent i (queued ▸ by simp)
      simp [GameRoomManager.createRoom, first, second]

/-- The match thread pairs nobody who is in no queue and does not ask. -/
theorem notPaired_run {server : Server} {events : List ServerEvent} {userId : UserId}
    (absent : ∀ i, userId ∉ server.pool.queues i) (quiet : ∀ event ∈ events, ¬ Asks userId event) :
    Admissible Server.step (NotPaired userId) server events := by
  have stays : ∀ (server : Server) (event : ServerEvent) (next : Server),
      (∀ i, userId ∉ server.pool.queues i) → ¬ Asks userId event →
      server.step event = .ok next → ∀ i, userId ∉ next.pool.queues i :=
    fun _ _ _ out quiet stepEq => notQueued_step out quiet stepEq
  exact Admissible.imp_of_inv stays (fun _ _ out _ => notPaired_of_notQueued out) absent
    (admissible_of_forall_mem quiet server)

/-- In every run of the server: every cancel that is answered with true leaves its user in none of
the queues, and out of the rooms the match thread opens, if and only if the user of every cancel, if
it is waiting, is in no queue but the one for its present points. -/
theorem cancelsLeave_iff (db : UserDB) (events : List ServerEvent) :
    CancelsLeave db events ↔ Admissible Server.step QueuedByPoints (Server.new db) events := by
  have same : Admissible Server.step CancelEmpties (Server.new db) events ↔
      Admissible Server.step QueuedByPoints (Server.new db) events :=
    admissible_congr cancelEmpties_iff (Server.new db) events
  constructor
  · rintro ⟨empties, _⟩
    exact same.mp empties
  · intro queued
    have empties := same.mpr queued
    refine ⟨empties, ?_⟩
    rintro before conn req after middle userId answered next rfl reached requested removed stepEq
      quiet
    have gone : ∀ i, userId ∉ answered.pool.queues i :=
      empties.guard_of_run reached userId answered requested removed
    obtain ⟨other, after', ret, sent, otherRequested, removedAgain, rfl⟩ := onCancelMatch_ok stepEq
    obtain rfl := Except.ok.inj (requested.symm.trans otherRequested)
    obtain ⟨rfl, _⟩ := Prod.mk.inj (Except.ok.inj (removed.symm.trans removedAgain))
    exact notPaired_run gone quiet

/-! ### Points of users who wait

The condition holds of itself as long as nobody's points cross the boundary of a band while the user
waits. -/

/-- The points of an online user. -/
def pointsOf (users : UserManager) (userId : UserId) : Option UInt32 :=
  (users.userInfo userId).map UserInfo.userPoints

/-- The users with these records, as far as they wait, wait in the queues for their points. -/
def BandedIn (pool : MatchPool) (users : UserManager) : Prop :=
  ∀ userId points i, userId ∈ pool.queues i → pointsOf users userId = some points →
    MatchPool.band points = i

/-- A login does not give a waiting user points of another band, and neither does a game that is
won. -/
def Steady (server : Server) : ServerEvent → Prop
  | .login conn req outcome => ∀ row user, requestedRow server req outcome = .ok (some row) →
      loadUser row conn = .ok user → ∀ i, user.userId ∈ server.pool.queues i →
        MatchPool.band user.userPoints = i
  | .chess conn req _ _ =>
      let sender := server.users.getUserIdByConn conn
      Wins server sender req → BandedIn server.pool
        ((server.users.winGame sender).loseGame (server.rooms.getUserIdFromOtherId sender))
  | _ => True

/-- A change of state leaves the points. -/
theorem pointsOf_setState (users : UserManager) (ref : Ref) (state : UserState) (userId : UserId) :
    pointsOf (users.setState ref state) userId = pointsOf users userId := by
  rw [pointsOf, UserManager.userInfo_setState]
  split
  · rw [Option.map_map]
    rfl
  · rfl

/-- A change of state by id leaves the points. -/
theorem pointsOf_setUserState (users : UserManager) (target : UserId) (state : UserState)
    (userId : UserId) : pointsOf (users.setUserState target state) userId =
      pointsOf users userId := by
  rw [pointsOf, UserManager.userInfo_setUserState]
  split
  · rw [Option.map_map]
    rfl
  · rfl

/-- The event is no login and no move. -/
def KeepsPoints : ServerEvent → Prop
  | .login .. => False
  | .chess .. => False
  | _ => True

/-- Points change at logins and moves only. -/
theorem pointsOf_step {server next : Server} {event : ServerEvent}
    (stepEq : server.step event = .ok next) (keeps : KeepsPoints event) {userId : UserId}
    {points : UInt32} (read : pointsOf next.users userId = some points) :
    pointsOf server.users userId = some points := by
  cases event with
  | connect =>
      obtain rfl := Except.ok.inj stepEq
      exact read
  | disconnect =>
      obtain rfl := Except.ok.inj stepEq
      rw [onDisconnect_eq] at read
      dsimp only at read
      split at read
      · rw [pointsOf, UserManager.userInfo_removeOnlineUser] at read
        split at read
        · simp at read
        · exact read
      · exact read
  | register =>
      obtain ⟨_, _, _, _, _, _, same⟩ := onRegister_ok stepEq
      rwa [same] at read
  | login | chess => exact keeps.elim
  | matchStart =>
      obtain ⟨_, after, _, _, _, added, rfl⟩ := onMatch_ok stepEq
      obtain ⟨_, _, _, _, ⟨_, rfl⟩ | ⟨_, rfl⟩⟩ := addUser_ok added
      · exact read
      · rwa [pointsOf_setState] at read
  | matchCancel =>
      obtain ⟨_, after, _, _, _, removed, rfl⟩ := onCancelMatch_ok stepEq
      obtain ⟨_, _, _, _, ⟨_, rfl⟩ | ⟨_, rfl⟩⟩ := removeUser_ok removed
      · exact read
      · rwa [pointsOf_setState] at read
  | matchQueue =>
      rcases matchQueue_ok stepEq with ⟨_, rfl⟩ | ⟨_, _, _, _, _, _, _, _, _, _, _, _, _, rfl⟩
      · exact read
      · rwa [pointsOf_setState, pointsOf_setState] at read
  | chat =>
      obtain ⟨_, rfl, _⟩ := onChat_ok stepEq
      exact read
  | exitRoom =>
      obtain ⟨removed, _⟩ := onExitRoom_ok stepEq
      obtain ⟨_, _, _, users⟩ := GameRoomManager.removeUser_ok removed
      rw [users] at read
      split at read
      · exact read
      · rwa [pointsOf_setUserState] at read

/-- A step that moves no waiting user's points keeps everybody in the right queue. -/
theorem bandedIn_step (server : Server) (event : ServerEvent) (next : Server)
    (good : BandedIn server.pool server.users) (steady : Steady server event)
    (stepEq : server.step event = .ok next) : BandedIn next.pool next.users := by
  cases event with
  | login conn req outcome =>
      obtain ⟨_, ⟨_, rfl⟩ | ⟨row, user, requested, loaded, rfl⟩⟩ := onLogin_ok stepEq
      · exact good
      · intro userId points i inside read
        rw [pointsOf, UserManager.userInfo_addOnlineUser] at read
        split at read
        · rename_i same
          obtain rfl := Option.some.inj read
          exact steady row user requested loaded i (same ▸ inside)
        · exact good userId points i inside read
  | chess conn req winOutcome loseOutcome =>
      obtain ⟨x, y, rooms, ret, settled, more, moved, handled, settledEq, rfl, _⟩ :=
        onChess_ok stepEq
      cases ret with
      | false =>
          obtain rfl : settled = { server with rooms := rooms } := settledEq
          exact good
      | true =>
          obtain ⟨ref, room, seated, held, five⟩ :=
            (GameRoomManager.handChess_true_iff handled).mp rfl
          obtain ⟨_, _, _, same⟩ := settle_ok settledEq
          rw [same]
          exact steady ⟨x, y, ref, room, moved, seated, held, five⟩
  | _ =>
      intro userId points i inside read
      have before := pointsOf_step stepEq trivial read
      rcases mem_queues_of_step stepEq inside with queued | ⟨_, info, current, rfl⟩
      · exact good userId points i queued before
      · rw [pointsOf, current] at before
        rw [Option.some.inj before]

/-- In a run in which no step moves the points of a waiting user out of its band, the user of every
cancel is in no queue but the one for its points. -/
theorem queuedByPoints_of_steady {db : UserDB} {events : List ServerEvent}
    (steady : Admissible Server.step Steady (Server.new db) events) :
    Admissible Server.step QueuedByPoints (Server.new db) events := by
  refine Admissible.imp_of_inv bandedIn_step (fun server event good _ => ?_)
    (fun _ _ _ inside => ?_) steady
  · cases event with
    | matchCancel conn req =>
        intro userId info _ current _ i queued
        exact (good userId info.userPoints i queued (by rw [pointsOf, current]; rfl)).symm
    | _ => exact trivial
  · exact absurd inside List.not_mem_nil

/-! ### A game that is lost while the loser waits -/

/-- Two users with 2000 points. -/
def equals : UserDB where
  rows := [{ UserDB.newRow 1 "ann" "" with userPoint := 2000 },
    { UserDB.newRow 2 "bob" "" with userPoint := 2000 }]
  statements := []
  primaryKey := by decide

/-- Ann and Bob are matched.  Bob leaves the room and asks for another match; Ann, who has stayed,
puts down five stones. -/
def lostWhileWaiting : List ServerEvent :=
  enter 10 "ann" ++ enter 11 "bob" ++
    [startMatch 10 1, startMatch 11 2, .matchQueue (MatchPool.band 2000) 2, .exitRoom 11,
      startMatch 11 2] ++
    [0, 1, 2, 3, 4].map fun row =>
      .chess 10 (.object [("x", .int row), ("y", .int 0)]) .succeeded .succeeded

/-- Bob's request to be taken out of the queue. -/
def cancelBob : ServerEvent := .matchCancel 11 (.object [("userId", .int 2)])

/-- Bob has lost five points while he waited; his cancel is granted, and he waits on. -/
theorem not_cancelsLeave_afterLostGame :
    ¬ CancelsLeave equals (lostWhileWaiting ++ [cancelBob]) := by
  rintro ⟨empties, _⟩
  have seen : (run Server.step (Server.new equals) lostWhileWaiting).toOption.bind
      (fun server => (server.removeUser 2).toOption.map fun answer =>
        (answer.2, answer.1.pool.queues 1)) = some (true, [2]) := by
    decide +kernel
  cases reached : run Server.step (Server.new equals) lostWhileWaiting with
  | error fault => simp [reached, Except.toOption] at seen
  | ok server =>
      cases removed : server.removeUser 2 with
      | error fault => simp [reached, removed, Except.toOption] at seen
      | ok answer =>
          obtain ⟨after, ret⟩ := answer
          simp only [reached, removed, Except.toOption, Option.bind_some, Option.map_some,
            Option.some.injEq, Prod.mk.injEq] at seen
          obtain ⟨rfl, queue⟩ := seen
          exact empties.guard_of_run reached 2 after rfl removed 1 (queue ▸ by simp)

end GomukuServer.Proofs.CancelLeaves
