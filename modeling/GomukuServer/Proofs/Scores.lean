/-
Module: GomukuServer.Proofs.Scores
Layer: Proofs
Purpose: The score of a user in memory and in the database.  A settled game updates both, in SQL
  over the integers with a floor at zero and in C++ on unsigned numbers without one.  They agree at
  every moment of a run exactly if every loser who is online can pay for the loss and no counter
  overflows.
Trusted boundary: none
Main exports: Score, ScoreEvent, step, InSync, Solvent, inSync_always_iff, points_le_of_lost,
  not_inSync_after_losing_streak
-/
import GomukuServer.Module.GameServer

namespace GomukuServer.Proofs.Scores

open Base Base.Runs Model Manager Db Net
open GomukuServer.Module

/-- A score, as numbers without bounds. -/
@[ext] structure Score where
  points : Int
  total : Int
  wins : Int
deriving DecidableEq, Repr

namespace Score

/-- What `WIN_USER` makes of a score. -/
def won (score : Score) : Score := ⟨score.points + 10, score.total + 1, score.wins + 1⟩

/-- What `LOST_USER` makes of a score. -/
def lost (score : Score) : Score := ⟨max (score.points - 5) 0, score.total + 1, score.wins⟩

/-- What a settled game makes of the score of a user who won it, lost it, both or neither. -/
def settled (isWinner isLoser : Bool) (score : Score) : Score :=
  let score := if isWinner then score.won else score
  if isLoser then score.lost else score

/-- The score in a row of the table. -/
def ofRow (row : UserRow) : Score := ⟨row.userPoint, row.totalCount, row.winCount⟩

/-- The score in a record in memory. -/
def ofInfo (info : UserInfo) : Score :=
  ⟨info.userPoints.toNat, info.totalCount.toNat, info.winCount.toNat⟩

end Score

/-- What a settled game makes of the record of a user. -/
def settledInfo (isWinner isLoser : Bool) (info : UserInfo) : UserInfo :=
  let info := if isWinner then info.winGame else info
  if isLoser then info.loseGame else info

/-- The record has enough points for a loss, and its counters have room for one more game. -/
def Fits (isWinner isLoser : Bool) (info : UserInfo) : Prop :=
  let gain := if isWinner then 1 else 0
  let loss := if isLoser then 1 else 0
  5 * loss ≤ info.userPoints.toNat + 10 * gain ∧
    info.userPoints.toNat + 10 * gain < 2 ^ 32 + 5 * loss ∧
    info.totalCount.toNat + gain + loss < 2 ^ 32 ∧
    info.winCount.toNat + gain < 2 ^ 32

instance (isWinner isLoser : Bool) (info : UserInfo) : Decidable (Fits isWinner isLoser info) := by
  unfold Fits
  infer_instance

/-- The unsigned update of a record agrees with the integer update exactly if the record fits. -/
theorem ofInfo_settledInfo_iff (isWinner isLoser : Bool) (info : UserInfo) :
    Score.ofInfo (settledInfo isWinner isLoser info) =
        (Score.ofInfo info).settled isWinner isLoser ↔
      Fits isWinner isLoser info := by
  have points := info.userPoints.toNat_lt
  have total := info.totalCount.toNat_lt
  have wins := info.winCount.toNat_lt
  simp only [Score.ext_iff]
  cases isWinner <;> cases isLoser <;>
    simp [settledInfo, Score.settled, Score.won, Score.lost, Score.ofInfo, Fits,
      UserInfo.winGame, UserInfo.loseGame, UInt32.toNat_add, UInt32.toNat_sub] <;>
    omega

/-- A game of others asks nothing of a record. -/
theorem fits_of_neither (info : UserInfo) : Fits false false info := by
  have points := info.userPoints.toNat_lt
  have total := info.totalCount.toNat_lt
  have wins := info.winCount.toNat_lt
  simp only [Fits, Bool.false_eq_true, if_false]
  omega

/-- A registration, a login, the end of a connection, or a settled game. -/
inductive ScoreEvent where
  | register (conn : ConnId) (req : Json.Value) (outcome : RegisterOutcome)
  | login (conn : ConnId) (req : Json.Value) (outcome : LoginOutcome)
  | disconnect (conn erased : ConnId)
  | settle (winner loser : UserId)

/-- Execute one event.  The updates of a settled game succeed. -/
def step (server : Server) : ScoreEvent → Except Fault Server
  | .register conn req outcome => server.onRegister conn req outcome
  | .login conn req outcome => server.onLogin conn req outcome
  | .disconnect conn erased => .ok (server.onDisconnect conn erased)
  | .settle winner loser => server.settle winner loser .succeeded .succeeded

/-- Whoever is online has the score of its row. -/
def InSync (server : Server) : Prop :=
  ∀ user info, server.users.userInfo user = some info →
    ∃ row, server.db.rowOf (UserDB.printed user) = some row ∧
      Score.ofRow row = Score.ofInfo info

/-- No number in the table is negative. -/
def NonNegative (server : Server) : Prop :=
  ∀ row ∈ server.db.rows, 0 ≤ row.userPoint ∧ 0 ≤ row.totalCount ∧ 0 ≤ row.winCount

/-- A player who is online has enough points to lose and room for one more game. -/
def Solvent (server : Server) : ScoreEvent → Prop
  | .settle winner loser =>
      ∀ user ∈ [winner, loser], ∀ info ∈ server.users.userInfo user,
        Fits (user = winner) (user = loser) info
  | _ => True

instance : ∀ server event, Decidable (Solvent server event)
  | server, .settle winner loser =>
      List.decidableBAll (fun user => ∀ info ∈ server.users.userInfo user,
        Fits (user = winner) (user = loser) info) [winner, loser]
  | _, .register .. => isTrue trivial
  | _, .login .. => isTrue trivial
  | _, .disconnect .. => isTrue trivial

/-! ### What a settled game does -/

/-- The score in a row after a statement whose `SET` clause changes scores by `change`. -/
theorem ofRow_apply (statement : Statement) (change : Score → Score)
    (sets : ∀ row, Score.ofRow (UserDB.Statement.set statement row) = change (Score.ofRow row))
    (row : UserRow) :
    Score.ofRow (UserDB.Statement.apply statement row) =
      if row.userId = UserDB.Statement.target statement then change (Score.ofRow row)
      else Score.ofRow row := by
  rw [UserDB.Statement.apply, apply_ite Score.ofRow, sets]

theorem ofRow_apply_winUser (userId : Int) (row : UserRow) :
    Score.ofRow (UserDB.Statement.apply (.winUser userId) row) =
      if row.userId = userId then (Score.ofRow row).won else Score.ofRow row :=
  ofRow_apply (.winUser userId) Score.won (fun _ => rfl) row

theorem ofRow_apply_lostUser (userId : Int) (row : UserRow) :
    Score.ofRow (UserDB.Statement.apply (.lostUser userId) row) =
      if row.userId = userId then (Score.ofRow row).lost else Score.ofRow row :=
  ofRow_apply (.lostUser userId) Score.lost (fun _ => rfl) row

/-- The row of a user after a settled game. -/
theorem rowOf_settle {server next : Server} {winner loser : UserId}
    (called : server.settle winner loser .succeeded .succeeded = .ok next) (user : UserId) :
    (next.db.rowOf (UserDB.printed user)).map Score.ofRow =
      ((server.db.rowOf (UserDB.printed user)).map Score.ofRow).map
        (Score.settled (user = winner) (user = loser)) := by
  obtain ⟨db, won, lost, _⟩ := Server.settle_ok called
  simp only [UserDB.winGame, UserDB.loseGame, UserDB.update, Except.ok.injEq] at won lost
  rw [← lost, ← won, UserDB.rowOf_execute, UserDB.rowOf_execute]
  cases found : server.db.rowOf (UserDB.printed user) with
  | none => rfl
  | some row =>
      have key := (UserDB.rowOf_eq_some_iff.mp found).2
      have isWinner : row.userId = UserDB.printed winner ↔ user = winner := by
        rw [key, UserDB.printed_eq_iff]
      have isLoser : row.userId = UserDB.printed loser ↔ user = loser := by
        rw [key, UserDB.printed_eq_iff]
      simp only [Option.map_some, ofRow_apply_lostUser, ofRow_apply_winUser,
        UserDB.Statement.userId_apply, isWinner, isLoser, Score.settled, decide_eq_true_eq]

/-- The record of a user after a win of one and a loss of another user. -/
theorem userInfo_winGame_loseGame (users : UserManager) (winner loser user : UserId) :
    ((users.winGame winner).loseGame loser).userInfo user =
      (users.userInfo user).map (settledInfo (user = winner) (user = loser)) := by
  rw [UserManager.userInfo_loseGame, UserManager.userInfo_winGame]
  cases users.userInfo user with
  | none => simp
  | some info =>
      simp only [settledInfo, Option.map_some, decide_eq_true_eq, apply_ite some]
      split <;> split <;> rfl

/-- The record of a user after a settled game. -/
theorem userInfo_settle {server next : Server} {winner loser : UserId}
    (called : server.settle winner loser .succeeded .succeeded = .ok next) (user : UserId) :
    next.users.userInfo user =
      (server.users.userInfo user).map (settledInfo (user = winner) (user = loser)) := by
  obtain ⟨_, _, _, same⟩ := Server.settle_ok called
  rw [same]
  exact userInfo_winGame_loseGame server.users winner loser user

/-- A settled game keeps memory and database in step exactly if every record fits. -/
theorem inSync_settle_iff {server next : Server} {winner loser : UserId} (good : InSync server)
    (called : server.settle winner loser .succeeded .succeeded = .ok next) :
    InSync next ↔ ∀ user info, server.users.userInfo user = some info →
      Fits (user = winner) (user = loser) info := by
  have after : ∀ user info, server.users.userInfo user = some info →
      ((∃ row, next.db.rowOf (UserDB.printed user) = some row ∧ Score.ofRow row =
          Score.ofInfo (settledInfo (user = winner) (user = loser) info)) ↔
        Fits (user = winner) (user = loser) info) := by
    intro user info current
    obtain ⟨row, found, same⟩ := good user info current
    have scores := rowOf_settle called user
    rw [found, Option.map_some, Option.map_some, Option.map_eq_some_iff] at scores
    obtain ⟨rowAfter, foundAfter, scoreAfter⟩ := scores
    rw [← ofInfo_settledInfo_iff, ← same, ← scoreAfter]
    constructor
    · rintro ⟨other, otherFound, otherSame⟩
      rw [foundAfter, Option.some.injEq] at otherFound
      rw [otherFound, otherSame]
    · intro equal
      exact ⟨rowAfter, foundAfter, equal.symm⟩
  constructor
  · intro kept user info current
    refine (after user info current).mp ?_
    exact kept user _ (by rw [userInfo_settle called, current, Option.map_some])
  · intro fits user infoAfter current
    rw [userInfo_settle called, Option.map_eq_some_iff] at current
    obtain ⟨info, before, rfl⟩ := current
    exact (after user info before).mpr (fits user info before)

/-- The condition on the two players is a condition on everybody. -/
theorem solvent_settle_iff {server : Server} {winner loser : UserId} :
    Solvent server (.settle winner loser) ↔
      ∀ user info, server.users.userInfo user = some info →
        Fits (user = winner) (user = loser) info := by
  constructor
  · intro solvent user info current
    by_cases player : user ∈ [winner, loser]
    · exact solvent user player info current
    · simp only [List.mem_cons, List.not_mem_nil, or_false, not_or] at player
      simpa [player] using fits_of_neither info
  · intro fits user _ info current
    exact fits user info current

/-! ### What the other events do -/

/-- A registration keeps the rows of the users there are. -/
theorem inSync_register {server next : Server} {conn : ConnId} {req : Json.Value}
    {outcome : RegisterOutcome} (good : InSync server)
    (called : server.onRegister conn req outcome = .ok next) : InSync next := by
  obtain ⟨username, password, _, _, _, registered, same⟩ := Server.onRegister_ok called
  intro user info current
  rw [same] at current
  obtain ⟨row, found, equal⟩ := good user info current
  refine ⟨row, ?_, equal⟩
  rcases UserDB.registerUser_ok registered with kept | ⟨userId, appended⟩
  · rw [kept]
    exact found
  · obtain ⟨inside, key⟩ := UserDB.rowOf_eq_some_iff.mp found
    rw [UserDB.rowOf_eq_some_iff, appended]
    exact ⟨List.mem_append_left _ inside, key⟩

/-- A login brings the numbers of the row into memory. -/
theorem inSync_login {server next : Server} {conn : ConnId} {req : Json.Value}
    {outcome : LoginOutcome} (good : InSync server) (nonNegative : NonNegative server)
    (called : server.onLogin conn req outcome = .ok next) : InSync next := by
  obtain ⟨sent, ⟨_, rfl⟩ | ⟨row, entered, requested, loaded, rfl⟩⟩ := Server.onLogin_ok called
  · exact good
  · intro user info current
    rw [UserManager.userInfo_addOnlineUser] at current
    split at current
    · rename_i same
      obtain rfl := Option.some.inj current
      obtain ⟨built, idRange, pointsRange, totalRange, winsRange⟩ := Server.loadUser_ok loaded
      have inside := Server.mem_rows_of_requestedRow requested
      have nonneg := nonNegative row inside
      refine ⟨row, UserDB.rowOf_eq_some_iff.mpr ⟨inside, ?_⟩, ?_⟩
      · rw [same, built]
        exact (UserDB.printed_toUInt32 idRange).symm
      · rw [built]
        simp only [Score.ofRow, Score.ofInfo, UserInfo.new, UserDB.toNat_toUInt32, Score.mk.injEq]
        omega
    · exact good user info current

/-- A disconnect only takes users away. -/
theorem inSync_disconnect {server : Server} (good : InSync server) (conn erased : ConnId) :
    InSync (server.onDisconnect conn erased) := by
  intro user info current
  rw [Server.onDisconnect_eq] at current ⊢
  refine good user info ?_
  split at current
  · rw [UserManager.userInfo_removeOnlineUser] at current
    split at current
    · simp at current
    · exact current
  · exact current

/-- No statement makes a number negative. -/
theorem nonNegative_step {server next : Server} {event : ScoreEvent}
    (nonNegative : NonNegative server) (stepEq : step server event = .ok next) :
    NonNegative next := by
  cases event with
  | register conn req outcome =>
      obtain ⟨username, password, _, _, _, registered, _⟩ := Server.onRegister_ok stepEq
      intro row inside
      rcases UserDB.registerUser_ok registered with kept | ⟨userId, appended⟩
      · exact nonNegative row (kept ▸ inside)
      · rw [appended, List.mem_append, List.mem_singleton] at inside
        rcases inside with old | rfl
        · exact nonNegative row old
        · simp [UserDB.newRow]
  | login conn req outcome =>
      obtain ⟨sent, ⟨_, rfl⟩ | ⟨row, user, _, _, rfl⟩⟩ := Server.onLogin_ok stepEq <;>
        exact nonNegative
  | disconnect conn erased =>
      obtain rfl := Except.ok.inj stepEq
      rw [Server.onDisconnect_eq]
      exact nonNegative
  | settle winner loser =>
      obtain ⟨db, won, lost, _⟩ := Server.settle_ok stepEq
      have kept : ∀ (statement : Statement) (row : UserRow),
          0 ≤ row.userPoint ∧ 0 ≤ row.totalCount ∧ 0 ≤ row.winCount →
            0 ≤ (UserDB.Statement.apply statement row).userPoint ∧
              0 ≤ (UserDB.Statement.apply statement row).totalCount ∧
              0 ≤ (UserDB.Statement.apply statement row).winCount := by
        intro statement row old
        unfold UserDB.Statement.apply
        split
        · cases statement <;> simp only [UserDB.Statement.set] <;> omega
        · exact old
      intro row inside
      simp only [UserDB.winGame, UserDB.loseGame, UserDB.update, Except.ok.injEq] at won lost
      rw [← lost, ← won] at inside
      simp only [UserDB.execute, List.mem_map] at inside
      obtain ⟨_, ⟨old, inTable, rfl⟩, rfl⟩ := inside
      exact kept _ _ (kept _ _ (nonNegative old inTable))

/-! ### Runs -/

/-- A step from a state in step ends in one exactly if it meets the condition. -/
theorem inSync_step_iff {server : Server} {event : ScoreEvent}
    (good : InSync server ∧ NonNegative server) :
    Solvent server event ↔
      ∀ next, step server event = .ok next → InSync next ∧ NonNegative next := by
  cases event with
  | register conn req outcome =>
      exact ⟨fun _ next stepEq => ⟨inSync_register good.1 stepEq, nonNegative_step good.2 stepEq⟩,
        fun _ => trivial⟩
  | login conn req outcome =>
      exact ⟨fun _ next stepEq =>
        ⟨inSync_login good.1 good.2 stepEq, nonNegative_step good.2 stepEq⟩, fun _ => trivial⟩
  | disconnect conn erased =>
      refine ⟨fun _ next stepEq => ⟨?_, nonNegative_step good.2 stepEq⟩, fun _ => trivial⟩
      exact Except.ok.inj stepEq ▸ inSync_disconnect good.1 conn erased
  | settle winner loser =>
      rw [solvent_settle_iff]
      constructor
      · intro fits next stepEq
        exact ⟨(inSync_settle_iff good.1 stepEq).mpr fits, nonNegative_step good.2 stepEq⟩
      · intro kept
        obtain ⟨next, settled⟩ :
            ∃ next, server.settle winner loser .succeeded .succeeded = .ok next := ⟨_, rfl⟩
        exact (inSync_settle_iff good.1 settled).mp (kept next settled).1

/-- Memory and database agree at every moment exactly if every player who is online can pay for the
games that are settled. -/
theorem inSync_always_iff {db : UserDB} (nonNegative : NonNegative (Server.new db))
    (events : List ScoreEvent) :
    Always step InSync (Server.new db) events ↔ Admissible step Solvent (Server.new db) events := by
  have start : InSync (Server.new db) := by
    intro user info current
    simp [Server.new] at current
  have tableAlways : Always step NonNegative (Server.new db) events :=
    always_of_admissible (fun _ _ _ kept _ stepEq => nonNegative_step kept stepEq) nonNegative
      (admissible_of_forall (fun _ _ => trivial) _ events)
  rw [← always_iff_admissible (fun _ _ good _ => inSync_step_iff good) ⟨start, nonNegative⟩ events
    (admissible_of_forall (fun _ _ => trivial) _ events)]
  exact ⟨fun always => always.and tableAlways, fun both => both.imp fun _ => And.left⟩

/-- Where memory and database agree before and after a lost game, the loss has not made the points
in memory larger. -/
theorem points_le_of_lost {server next : Server} {winner loser : UserId} {before after : UserInfo}
    (other : loser ≠ winner) (good : InSync server) (kept : InSync next)
    (called : server.settle winner loser .succeeded .succeeded = .ok next)
    (current : server.users.userInfo loser = some before)
    (later : next.users.userInfo loser = some after) : after.userPoints ≤ before.userPoints := by
  have fits := (inSync_settle_iff good called).mp kept loser before current
  rw [userInfo_settle called, current, Option.map_some, Option.some.injEq] at later
  have agrees := congrArg Score.points ((ofInfo_settledInfo_iff _ _ before).mpr fits)
  rw [later] at agrees
  simp only [Score.ofInfo, Score.settled, Score.lost, other, decide_false, decide_true, if_true,
    Bool.false_eq_true, if_false] at agrees
  rw [UInt32.le_iff_toNat_le]
  omega

/-! ### A losing streak -/

/-- Black registers and logs in on connection 20. -/
def blackEnters : List ScoreEvent :=
  let req : Json.Value := .object [("username", .string "black"), ("password", .string "1234")]
  [.register 20 req (.inserted 2), .login 20 req byName]

/-- Black loses 201 games in a row. -/
def losingStreak : List ScoreEvent := blackEnters ++ List.replicate 201 (.settle 1 2)

/-- Black wins one game and loses one. -/
theorem inSync_after_two_games :
    Always step InSync (Server.new UserDB.new) (blackEnters ++ [.settle 2 1, .settle 1 2]) :=
  (inSync_always_iff (by intro row inside; simp [Server.new, UserDB.new] at inside) _).mpr
    (by decide +kernel)

/-- Black loses all its points and then one more game. -/
theorem not_inSync_after_losing_streak :
    ¬ Always step InSync (Server.new UserDB.new) losingStreak := by
  have scores : (run step (Server.new UserDB.new) losingStreak).toOption.map
        (fun server => ((server.users.userInfo 2).map Score.ofInfo,
          (server.db.rowOf (UserDB.printed 2)).map Score.ofRow)) =
      some (some ⟨4294967291, 201, 0⟩, some ⟨0, 201, 0⟩) := by
    decide +kernel
  refine not_always_of_view scores fun last seen inSync => ?_
  simp only [Prod.mk.injEq, Option.map_eq_some_iff] at seen
  obtain ⟨⟨info, current, inMemory⟩, row, found, inTable⟩ := seen
  obtain ⟨other, otherFound, same⟩ := inSync 2 info current
  rw [found, Option.some.injEq] at otherFound
  rw [← otherFound, inTable, inMemory] at same
  simp at same

end GomukuServer.Proofs.Scores
