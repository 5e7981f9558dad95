/-
Module: GomukuServer.Proofs.AtomicSettlement
Layer: Proofs
Purpose: Whether a won game is settled as a whole.  Two rows and two records are updated one after
  another, and nobody looks at how an update of a row went; the records are updated in any case.  So
  the four updates are all done or all left out exactly if both statements are executed, or if there
  is nothing to update.
Trusted boundary: none
Main exports: BothUpdated, NothingChanged, Reported, AllOrNothing, Undivided, allOrNothing_iff,
  not_allOrNothing_failedUpdate
-/
import GomukuServer.Proofs.RoomIsolation
import GomukuServer.Proofs.Scores

namespace GomukuServer.Proofs.AtomicSettlement

open Base Base.Runs Model Manager Db Net RoomIsolation
open GomukuServer.Module GomukuServer.Module.Server
open Scores (settledInfo userInfo_winGame_loseGame)
open UserDB (printed)

/-- What a statement makes of a row, if MySQL executes it. -/
def executed (outcome : DbOutcome) (statement : Statement) (row : UserRow) : UserRow :=
  if outcome = .succeeded then UserDB.Statement.apply statement row else row

/-- The rows of winner and loser have been updated, as far as they have one, and so have their
records, as far as they are online; nothing else has changed in either place. -/
structure BothUpdated (server next : Server) (winner loser : UserId) : Prop where
  rows : ∀ id, next.db.rowOf id = (server.db.rowOf id).map fun row =>
    UserDB.Statement.apply (.lostUser (printed loser))
      (UserDB.Statement.apply (.winUser (printed winner)) row)
  records : ∀ user, next.users.userInfo user =
    (server.users.userInfo user).map (settledInfo (user = winner) (user = loser))

/-- No row and no record has changed. -/
structure NothingChanged (server next : Server) : Prop where
  rows : ∀ id, next.db.rowOf id = server.db.rowOf id
  records : ∀ user, next.users.userInfo user = server.users.userInfo user

/-- A message shows the numbers of a user. -/
structure Shows (users : UserManager) (userId : UserId) (data : Json.Value) : Prop where
  points : data.member "userPoint" = .int (users.getUserPoints userId).toNat
  total : data.member "totalCount" = .int (users.getUserTotalCount userId).toNat
  wins : data.member "winCount" = .int (users.getUserWinCount userId).toNat

/-- One message has been sent to the winner and one to the loser, each with the numbers its receiver
has now. -/
def Reported (server next : Server) (conn : ConnId) (winner loser : UserId) : Prop :=
  ∃ winnerData loserData, next.sent =
      ((server.sendMsg conn .CHESS_DOWN_ACK winnerData).sendMsg
        (server.users.getConnByUserId loser) .CHESS_DOWN_ACK loserData).sent ∧
    Shows next.users winner winnerData ∧ Shows next.users loser loserData

/-- A winning move is settled as a whole or not at all, and reported as it was settled. -/
def AllOrNothing (server : Server) : ServerEvent → Prop
  | .chess conn req winOutcome loseOutcome =>
      let winner := server.users.getUserIdByConn conn
      let loser := server.rooms.getUserIdFromOtherId winner
      Wins server winner req →
        ∃ next, server.onChess conn req winOutcome loseOutcome = .ok next ∧
          (BothUpdated server next winner loser ∨ NothingChanged server next) ∧
          Reported server next conn winner loser
  | _ => True

/-- The user has no row that a statement could change. -/
def NoRow (server : Server) (user : UserId) : Prop := server.db.rowOf (printed user) = none

/-- Both calls of the database get a connection, and either each of the two statements is executed
or has no row to change, or neither of them changes a row and neither of the two players is online.
-/
def Undivided (server : Server) : ServerEvent → Prop
  | .chess conn req winOutcome loseOutcome =>
      let winner := server.users.getUserIdByConn conn
      let loser := server.rooms.getUserIdFromOtherId winner
      Wins server winner req →
        (winOutcome ≠ .noConnection ∧ loseOutcome ≠ .noConnection) ∧
        (((winOutcome = .succeeded ∨ NoRow server winner) ∧
            (loseOutcome = .succeeded ∨ NoRow server loser)) ∨
          (((winOutcome ≠ .succeeded ∨ NoRow server winner) ∧
              (loseOutcome ≠ .succeeded ∨ NoRow server loser)) ∧
            server.users.userInfo winner = none ∧ server.users.userInfo loser = none))
  | _ => True

/-! ### The rows -/

theorem executed_succeeded (statement : Statement) (row : UserRow) :
    executed .succeeded statement row = UserDB.Statement.apply statement row := if_pos rfl

theorem executed_failed (statement : Statement) (row : UserRow) :
    executed .failed statement row = row := if_neg (by simp)

@[simp] theorem userId_executed (outcome : DbOutcome) (statement : Statement) (row : UserRow) :
    (executed outcome statement row).userId = row.userId := by
  unfold executed
  split <;> simp

/-- A statement counts one more game for its row. -/
theorem totalCount_executed (outcome : DbOutcome) (statement : Statement) (row : UserRow) :
    (executed outcome statement row).totalCount = row.totalCount +
      if outcome = .succeeded ∧ row.userId = UserDB.Statement.target statement then 1 else 0 := by
  unfold executed UserDB.Statement.apply
  by_cases done : outcome = .succeeded
  · by_cases named : row.userId = UserDB.Statement.target statement
    · cases statement <;> simp_all [UserDB.Statement.set]
    · simp [done, named]
  · simp [done]

/-- Two outcomes make the same of a row, if the statement is executed in both or in neither, or if
it names another row. -/
theorem executed_congr {outcome other : DbOutcome} {statement : Statement} {row : UserRow}
    (same : (outcome = .succeeded ↔ other = .succeeded) ∨
      row.userId ≠ UserDB.Statement.target statement) :
    executed outcome statement row = executed other statement row := by
  rcases same with same | elsewhere
  · simp only [executed, same]
  · simp [executed, UserDB.Statement.apply, elsewhere]

/-- The rows after the update of one. -/
theorem rowOf_update_eq {db next : UserDB} {statement : Statement} {outcome : DbOutcome}
    (called : db.update statement outcome = .ok next) (id : Int) :
    next.rowOf id = (db.rowOf id).map (executed outcome statement) := by
  cases outcome with
  | noConnection => cases called
  | failed =>
      obtain rfl := Except.ok.inj called
      exact Option.map_id.symm ▸ rfl
  | succeeded =>
      obtain rfl := Except.ok.inj called
      exact UserDB.rowOf_execute db statement id

/-- The rows after a settlement. -/
theorem rowOf_settle {server next : Server} {winner loser : UserId}
    {winOutcome loseOutcome : DbOutcome}
    (called : server.settle winner loser winOutcome loseOutcome = .ok next) (id : Int) :
    next.db.rowOf id = (server.db.rowOf id).map fun row =>
      executed loseOutcome (.lostUser (printed loser))
        (executed winOutcome (.winUser (printed winner)) row) := by
  obtain ⟨db, won, lost, _⟩ := settle_ok called
  rw [rowOf_update_eq lost, rowOf_update_eq won, Option.map_map]
  rfl

/-- A key without a row is the key of no row. -/
theorem ne_of_rowOf_eq_none {db : UserDB} {key id : Int} {row : UserRow}
    (absent : db.rowOf key = none) (found : db.rowOf id = some row) : row.userId ≠ key := by
  intro same
  rw [(UserDB.rowOf_eq_some_iff.mp found).2] at same
  rw [← same, found] at absent
  cases absent

/-- Two things that count as often as if a third stood for both of them agree with it where they
count. -/
theorem agree_of_count {one two third first second : Prop} [Decidable one] [Decidable two]
    [Decidable third] [Decidable first] [Decidable second]
    (count : (if one ∧ first then 1 else 0) + (if two ∧ second then 1 else 0) =
      (if third ∧ first then 1 else 0) + if third ∧ second then (1 : Int) else 0) :
    (first → (one ↔ third)) ∧ (second → (two ↔ third)) := by
  by_cases one <;> by_cases two <;> by_cases third <;> by_cases first <;> by_cases second <;>
    simp_all

/-- The rows end up as if both statements had had a third outcome exactly if each of the two agrees
with it, or has no row to change. -/
theorem rows_eq_iff (db : UserDB) (winner loser : Int)
    (winOutcome loseOutcome outcome : DbOutcome) :
    (∀ id, ((db.rowOf id).map fun row =>
        executed loseOutcome (.lostUser loser) (executed winOutcome (.winUser winner) row)) =
      (db.rowOf id).map fun row =>
        executed outcome (.lostUser loser) (executed outcome (.winUser winner) row)) ↔
      ((winOutcome = .succeeded ↔ outcome = .succeeded) ∨ db.rowOf winner = none) ∧
        ((loseOutcome = .succeeded ↔ outcome = .succeeded) ∨ db.rowOf loser = none) := by
  constructor
  · intro same
    -- a statement that is left out, or should have been, shows in the count of games
    have agree (id : Int) (row : UserRow) (found : db.rowOf id = some row) :
        (id = winner → (winOutcome = .succeeded ↔ outcome = .succeeded)) ∧
          (id = loser → (loseOutcome = .succeeded ↔ outcome = .succeeded)) := by
      have key := (UserDB.rowOf_eq_some_iff.mp found).2
      have total := same id
      rw [found, Option.map_some, Option.map_some, Option.some.injEq] at total
      have count := congrArg UserRow.totalCount total
      simp only [totalCount_executed, userId_executed, key, UserDB.Statement.target,
        add_assoc] at count
      exact agree_of_count (Int.add_left_cancel count)
    constructor
    · by_contra missing
      rw [not_or] at missing
      obtain ⟨row, found⟩ := Option.ne_none_iff_exists'.mp missing.2
      exact missing.1 ((agree winner row found).1 rfl)
    · by_contra missing
      rw [not_or] at missing
      obtain ⟨row, found⟩ := Option.ne_none_iff_exists'.mp missing.2
      exact missing.1 ((agree loser row found).2 rfl)
  · rintro ⟨won, lost⟩ id
    cases found : db.rowOf id with
    | none => rfl
    | some row =>
        have first : executed winOutcome (.winUser winner) row =
            executed outcome (.winUser winner) row :=
          executed_congr (won.imp_right fun absent => ne_of_rowOf_eq_none absent found)
        rw [Option.map_some, Option.map_some, first]
        refine congrArg some (executed_congr (lost.imp_right fun absent => ?_))
        rw [userId_executed]
        exact ne_of_rowOf_eq_none absent found

/-! ### The records -/

/-- A settled game changes the record of every player who is online. -/
theorem records_unchanged_iff (users : UserManager) (winner loser : UserId) :
    (∀ user, (users.userInfo user).map (settledInfo (user = winner) (user = loser)) =
        users.userInfo user) ↔
      users.userInfo winner = none ∧ users.userInfo loser = none := by
  have changes (isWinner isLoser : Bool) (played : isWinner = true ∨ isLoser = true)
      (info : UserInfo) : settledInfo isWinner isLoser info ≠ info := by
    intro same
    have count := congrArg UserInfo.totalCount same
    have once : info.totalCount + 1 ≠ info.totalCount := by grind
    have twice : info.totalCount + 1 + 1 ≠ info.totalCount := by grind
    cases isWinner with
    | false =>
        obtain rfl : isLoser = true := by simpa using played
        exact once count
    | true =>
        cases isLoser with
        | false => exact once count
        | true => exact twice count
  constructor
  · intro same
    constructor
    · by_contra online
      obtain ⟨info, current⟩ := Option.ne_none_iff_exists'.mp online
      have kept := same winner
      rw [current, Option.map_some, Option.some.injEq] at kept
      exact changes _ _ (.inl (decide_eq_true rfl)) info kept
    · by_contra online
      obtain ⟨info, current⟩ := Option.ne_none_iff_exists'.mp online
      have kept := same loser
      rw [current, Option.map_some, Option.some.injEq] at kept
      exact changes _ _ (.inr (decide_eq_true rfl)) info kept
  · rintro ⟨winnerOff, loserOff⟩ user
    cases current : users.userInfo user with
    | none => rfl
    | some info =>
        have first : user ≠ winner := by
          rintro rfl
          simp [current] at winnerOff
        have second : user ≠ loser := by
          rintro rfl
          simp [current] at loserOff
        simp [settledInfo, first, second]

/-! ### Winning moves -/

/-- The messages a call of `sendMsg` adds do not depend on users, rooms and rows. -/
theorem sent_sendMsg_congr {server other : Server} (conns : server.conns = other.conns)
    (sent : server.sent = other.sent) (conn : Option ConnId) (protocol : ProtocolId)
    (data : Json.Value) :
    (server.sendMsg conn protocol data).sent = (other.sendMsg conn protocol data).sent := by
  cases conn with
  | none => exact sent
  | some conn => rw [sendMsg_some, sendMsg_some, conns, sent]

/-- The numbers in a result are those of its user. -/
theorem shows_chessResult (users : UserManager) (x y : Int) (win : Bool) (userId : UserId) :
    Shows users userId (chessResult users x y win userId) := ⟨rfl, rfl, rfl⟩

/-- A winning move is handled to its end exactly if both calls of the database get a connection. -/
theorem exists_onChess_iff {server : Server} {conn : ConnId} {req : Json.Value}
    {winOutcome loseOutcome : DbOutcome}
    (wins : Wins server (server.users.getUserIdByConn conn) req) :
    (∃ next, server.onChess conn req winOutcome loseOutcome = .ok next) ↔
      winOutcome ≠ .noConnection ∧ loseOutcome ≠ .noConnection := by
  obtain ⟨x, y, ref, room, moved, seated, held, five⟩ := wins
  obtain ⟨rooms, handled⟩ := GameRoomManager.exists_handChess_of_makesFive seated held five
  have settles := onChess_of_won winOutcome loseOutcome moved handled
  rw [settles, ← exists_settle_iff]
  constructor
  · rintro ⟨next, called⟩
    obtain ⟨settled, settledEq, _⟩ := map_eq_ok.mp called
    exact ⟨settled, settledEq⟩
  · rintro ⟨settled, settledEq⟩
    exact ⟨_, map_eq_ok.mpr ⟨settled, settledEq, rfl⟩⟩

/-- What a winning move that is handled to its end has done to rows and records, and what it has
reported. -/
theorem settled_of_onChess {server next : Server} {conn : ConnId} {req : Json.Value}
    {winOutcome loseOutcome : DbOutcome}
    (wins : Wins server (server.users.getUserIdByConn conn) req)
    (called : server.onChess conn req winOutcome loseOutcome = .ok next) :
    let winner := server.users.getUserIdByConn conn
    let loser := server.rooms.getUserIdFromOtherId winner
    (∀ id, next.db.rowOf id = (server.db.rowOf id).map fun row =>
        executed loseOutcome (.lostUser (printed loser))
          (executed winOutcome (.winUser (printed winner)) row)) ∧
      (∀ user, next.users.userInfo user =
        (server.users.userInfo user).map (settledInfo (user = winner) (user = loser))) ∧
      Reported server next conn winner loser := by
  intro winner loser
  obtain ⟨x, y, ref, room, moved, seated, held, five⟩ := wins
  obtain ⟨rooms, handled⟩ := GameRoomManager.exists_handChess_of_makesFive seated held five
  have settles := onChess_of_won winOutcome loseOutcome moved handled
  rw [settles] at called
  obtain ⟨settled, settledEq, rfl⟩ := map_eq_ok.mp called
  obtain ⟨_, _, _, same⟩ := settle_ok settledEq
  have conns : settled.conns = server.conns := by rw [same]
  have sent : settled.sent = server.sent := by rw [same]
  refine ⟨fun id => ?_, fun user => ?_, chessResult settled.users x y true winner,
    chessResult settled.users x y false loser, ?_, ?_, ?_⟩
  · rw [db_sendMsg, db_sendMsg]
    exact rowOf_settle settledEq id
  · rw [users_sendMsg, users_sendMsg, same]
    exact userInfo_winGame_loseGame server.users winner loser user
  · refine sent_sendMsg_congr ?_ (sent_sendMsg_congr conns sent _ _ _) _ _ _
    rw [conns_sendMsg, conns_sendMsg, conns]
  · rw [users_sendMsg, users_sendMsg]
    exact shows_chessResult settled.users x y true winner
  · rw [users_sendMsg, users_sendMsg]
    exact shows_chessResult settled.users x y false loser

/-- Both updated or nothing changed, in terms of the outcomes. -/
theorem updated_or_unchanged_iff {server next : Server} {winner loser : UserId}
    {winOutcome loseOutcome : DbOutcome}
    (rows : ∀ id, next.db.rowOf id = (server.db.rowOf id).map fun row =>
      executed loseOutcome (.lostUser (printed loser))
        (executed winOutcome (.winUser (printed winner)) row))
    (records : ∀ user, next.users.userInfo user =
      (server.users.userInfo user).map (settledInfo (user = winner) (user = loser))) :
    (BothUpdated server next winner loser ∨ NothingChanged server next) ↔
      ((winOutcome = .succeeded ∨ NoRow server winner) ∧
          (loseOutcome = .succeeded ∨ NoRow server loser)) ∨
        (((winOutcome ≠ .succeeded ∨ NoRow server winner) ∧
            (loseOutcome ≠ .succeeded ∨ NoRow server loser)) ∧
          server.users.userInfo winner = none ∧ server.users.userInfo loser = none) := by
  have both := rows_eq_iff server.db (printed winner) (printed loser) winOutcome loseOutcome
    .succeeded
  have neither := rows_eq_iff server.db (printed winner) (printed loser) winOutcome loseOutcome
    .failed
  have idle := records_unchanged_iff server.users winner loser
  simp only [executed_succeeded, iff_true] at both
  simp only [executed_failed, reduceCtorEq, iff_false, Option.map_id'] at neither
  refine or_congr ?_ ?_
  · rw [NoRow, NoRow, ← both]
    exact ⟨fun updated id => (rows id).symm.trans (updated.rows id),
      fun same => ⟨fun id => (rows id).trans (same id), records⟩⟩
  · rw [NoRow, NoRow, ← neither, ← idle]
    exact ⟨fun unchanged => ⟨fun id => (rows id).symm.trans (unchanged.rows id),
        fun user => (records user).symm.trans (unchanged.records user)⟩,
      fun same => ⟨fun id => (rows id).trans (same.1 id),
        fun user => (records user).trans (same.2 user)⟩⟩

theorem allOrNothing_iff_undivided (server : Server) (event : ServerEvent) :
    AllOrNothing server event ↔ Undivided server event := by
  cases event with
  | chess conn req winOutcome loseOutcome =>
      refine imp_congr_right fun wins => ?_
      constructor
      · rintro ⟨next, called, settled, _⟩
        obtain ⟨rows, records, _⟩ := settled_of_onChess wins called
        exact ⟨(exists_onChess_iff wins).mp ⟨next, called⟩,
          (updated_or_unchanged_iff rows records).mp settled⟩
      · rintro ⟨connected, settled⟩
        obtain ⟨next, called⟩ := (exists_onChess_iff wins).mpr connected
        obtain ⟨rows, records, reported⟩ := settled_of_onChess wins called
        exact ⟨next, called, (updated_or_unchanged_iff rows records).mpr settled, reported⟩
  | _ => exact Iff.rfl

/-- In every run of the server, every winning move is settled as a whole or not at all, and reported
as it was settled, if and only if for every winning move both calls of the database get a connection
and either every row there is to update is updated, or there is no row that is and no player who is
online. -/
theorem allOrNothing_iff (db : UserDB) (events : List ServerEvent) :
    Admissible Server.step AllOrNothing (Server.new db) events ↔
      Admissible Server.step Undivided (Server.new db) events :=
  admissible_congr allOrNothing_iff_undivided (Server.new db) events

/-! ### An update that fails -/

/-- Ann puts a stone into the first column. -/
def columnStone (row : Int) (loseOutcome : DbOutcome) : ServerEvent :=
  .chess 10 (.object [("x", .int row), ("y", .int 0)]) .succeeded loseOutcome

/-- Ann and Bob play, and Ann has four stones in a column. -/
def fourInColumn : List ServerEvent :=
  pairUp ++ [columnStone 0 .succeeded, columnStone 1 .succeeded, columnStone 2 .succeeded,
    columnStone 3 .succeeded]

/-- The fifth stone wins, and the update of Bob's row fails: his record has one more game, his row
has not. -/
theorem not_allOrNothing_failedUpdate :
    ¬ Admissible Server.step AllOrNothing (Server.new annAndBob)
      (fourInColumn ++ [columnStone 4 .failed]) := by
  intro settled
  have seen : (run Server.step (Server.new annAndBob) fourInColumn).toOption.map
      (fun server => ((server.rooms.handChess 4 0 1).toOption.map Prod.snd,
        server.users.getUserIdByConn 10, server.rooms.getUserIdFromOtherId 1,
        server.db.rowOf 2, (server.users.userInfo 2).map UserInfo.totalCount)) =
      some (some true, 1, 2, some (UserDB.newRow 2 "bob" ""), some 0) := by
    decide +kernel
  have after : (run Server.step (Server.new annAndBob)
      (fourInColumn ++ [columnStone 4 .failed])).toOption.map
        (fun next => ((next.db.rowOf 2).map UserRow.totalCount,
          (next.users.userInfo 2).map UserInfo.totalCount)) = some (some 0, some 1) := by
    decide +kernel
  cases reached : run Server.step (Server.new annAndBob) fourInColumn with
  | error fault => simp [reached, Except.toOption] at seen
  | ok server =>
      simp only [reached, Except.toOption, Option.map_some, Option.some.injEq,
        Prod.mk.injEq] at seen
      obtain ⟨won, ann, bob, row, record⟩ := seen
      cases handled : server.rooms.handChess 4 0 1 with
      | error fault => simp [handled] at won
      | ok answer =>
          obtain ⟨rooms, ret⟩ := answer
          obtain rfl : ret = true := by simpa [handled] using won
          obtain ⟨ref, room, seated, held, five⟩ :=
            (GameRoomManager.handChess_true_iff handled).mp rfl
          have wins : Wins server (server.users.getUserIdByConn 10)
              (.object [("x", .int 4), ("y", .int 0)]) :=
            ⟨4, 0, ref, room, rfl, ann ▸ seated, held, ann ▸ five⟩
          obtain ⟨next, called, outcome, _⟩ := settled.guard_of_run reached wins
          have stepEq : server.step (columnStone 4 .failed) = .ok next := called
          rw [run_append reached] at after
          simp only [run, stepEq, Except.toOption, Option.map_some, Option.some.injEq,
            Prod.mk.injEq] at after
          rw [ann, bob] at outcome
          rcases outcome with both | nothing
          · have rowAfter := both.rows 2
            rw [row, Option.map_some] at rowAfter
            rw [rowAfter, Option.map_some] at after
            exact absurd after.1 (by decide)
          · rw [nothing.records 2, record] at after
            exact absurd after.2 (by decide)

end GomukuServer.Proofs.AtomicSettlement
