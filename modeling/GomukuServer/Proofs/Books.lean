/-
Module: GomukuServer.Proofs.Books
Layer: Proofs
Purpose: The books of the table `users` over whole runs.  Every row stays one that games have
  earned: no more wins than games, no negative points, and as many points as its games allow.  Over
  all rows every game that somebody has won has been lost by somebody, exactly as long as for each
  won game both statements are executed or neither.  All of this is about user names and passwords
  that reach MySQL as data: with any other one MySQL may do anything.
Trusted boundary: MySQL evaluates the arithmetic of the statements over the integers, and answers a
  login that reads as it is meant with a row of the table
Main exports: AsData, mysqlStep, Earned, earned_always, games, wins, Balanced, Known, Settles,
  balanced_iff
-/
import GomukuServer.Proofs.AtomicSettlement
import GomukuServer.Proofs.Credentials

namespace GomukuServer.Proofs.Books

open Base Base.Runs Model Manager Db Net
open GomukuServer.Module GomukuServer.Module.Server
open Credentials (CarriedAsData carriedAsData_iff harmless_of_plain)
open RoomIsolation (Wins)
open AtomicSettlement (columnStone fourInColumn)
open UserDB (printed)

/-! ### Names and passwords -/

/-- The user name and the password of a request, if it has both, reach MySQL as data. -/
def CredentialsAsData (req : Json.Value) : Prop :=
  ∀ username password, (do (← req.getMember "username").asCString) = .ok username →
    (do (← req.getMember "password").asCString) = .ok password → CarriedAsData username password

/-- The event puts no text into a statement that MySQL does not read as data. -/
def AsData : ServerEvent → Prop
  | .register _ req _ => CredentialsAsData req
  | .login _ req _ => CredentialsAsData req
  | _ => True

open Classical in
/-- A step of the server in front of MySQL.  A text that MySQL does not read as data makes another
statement of the template, which has its own effect on the table and its own answer. -/
noncomputable def mysqlStep (injected : Server → ServerEvent → Except Fault Server)
    (server : Server) (event : ServerEvent) : Except Fault Server :=
  if AsData event then server.step event else injected server event

theorem mysqlStep_of_asData {injected : Server → ServerEvent → Except Fault Server}
    {events : List ServerEvent} (asData : ∀ event ∈ events, AsData event) :
    ∀ event ∈ events, ∀ server, mysqlStep injected server event = server.step event :=
  fun event inside _ => if_pos (asData event inside)

/-! ### Sums over a table -/

/-- When one row of a table is changed, a sum over the table changes as that row does. -/
theorem sum_map_change {Row Key : Type} [DecidableEq Key] {key : Row → Key} (value : Row → Int)
    (target : Key) {change : Row → Row} (difference : Int)
    (raises : ∀ row, value (change row) = value row + difference) {rows : List Row}
    (keys : (rows.map key).Nodup) :
    ((rows.map fun row => if key row = target then change row else row).map value).sum =
      (rows.map value).sum + if target ∈ rows.map key then difference else 0 := by
  induction rows with
  | nil => simp
  | cons row rows inductionHypothesis =>
      rw [List.map_cons, List.nodup_cons] at keys
      have rest := inductionHypothesis keys.2
      simp only [List.map_cons, List.sum_cons, List.mem_cons] at rest ⊢
      rw [rest]
      by_cases here : key row = target
      · have notThere : target ∉ rows.map key := here ▸ keys.1
        rw [if_pos here, raises, if_neg notThere, if_pos (.inl here.symm)]
        omega
      · have same : (target = key row ∨ target ∈ rows.map key) ↔ target ∈ rows.map key :=
          or_iff_right (Ne.symm here)
        rw [if_neg here]
        simp only [same]
        omega

/-! ### The rows -/

/-- A row as a sequence of games can have left it. -/
structure Earned (row : UserRow) : Prop where
  wins : 0 ≤ row.winCount ∧ row.winCount ≤ row.totalCount
  positive : 0 ≤ row.userPoint
  atMost : row.userPoint ≤ 1000 + 10 * row.winCount
  atLeast : 1000 + 10 * row.winCount - 5 * (row.totalCount - row.winCount) ≤ row.userPoint

theorem earned_newRow (userId : Int) (username password : String) :
    Earned (UserDB.newRow userId username password) := by
  constructor <;> simp [UserDB.newRow]

theorem Earned.apply {row : UserRow} (earned : Earned row) (statement : Statement) :
    Earned (UserDB.Statement.apply statement row) := by
  obtain ⟨wins, positive, atMost, atLeast⟩ := earned
  unfold UserDB.Statement.apply
  split
  · cases statement with
    | winUser => constructor <;> simp only [UserDB.Statement.set] <;> omega
    | lostUser => constructor <;> simp only [UserDB.Statement.set] <;> omega
  · exact ⟨wins, positive, atMost, atLeast⟩

/-- All rows of the table are such. -/
def AllEarned (db : UserDB) : Prop := ∀ row ∈ db.rows, Earned row

theorem AllEarned.update {db next : UserDB} (earned : AllEarned db)
    {statement : Statement} {outcome : DbOutcome}
    (called : db.update statement outcome = .ok next) : AllEarned next := by
  cases outcome with
  | noConnection => cases called
  | failed => exact Except.ok.inj called ▸ earned
  | succeeded =>
      obtain rfl := Except.ok.inj called
      intro row inside
      obtain ⟨before, there, rfl⟩ := List.mem_map.mp inside
      exact (earned before there).apply statement

/-! ### What a step does to the table -/

/-- The event is a move that wins. -/
def WinsGame (server : Server) : ServerEvent → Prop
  | .chess conn req _ _ => Wins server (server.users.getUserIdByConn conn) req
  | _ => False

/-- What becomes of the table. -/
inductive TableStep (server : Server) : ServerEvent → UserDB → Prop where
  | same {event} (quiet : ¬ WinsGame server event) : TableStep server event server.db
  | registered {conn req outcome username password success reason db}
      (called : server.db.registerUser username password outcome = .ok (db, success, reason)) :
      TableStep server (.register conn req outcome) db
  /-- A game that is won. -/
  | settled {conn req winOutcome loseOutcome db after}
      (wins : Wins server (server.users.getUserIdByConn conn) req)
      (won : server.db.winGame (server.users.getUserIdByConn conn) winOutcome = .ok db)
      (lost : db.loseGame (server.rooms.getUserIdFromOtherId (server.users.getUserIdByConn conn))
        loseOutcome = .ok after) :
      TableStep server (.chess conn req winOutcome loseOutcome) after

/-- A step does one of these things to the table. -/
theorem tableStep_of_step {server next : Server} {event : ServerEvent}
    (stepEq : server.step event = .ok next) : TableStep server event next.db := by
  cases event with
  | connect | disconnect =>
      obtain rfl := Except.ok.inj stepEq
      exact .same id
  | register =>
      obtain ⟨_, _, _, _, _, called, _⟩ := onRegister_ok stepEq
      exact .registered called
  | login =>
      obtain ⟨_, ⟨_, rfl⟩ | ⟨_, _, _, _, rfl⟩⟩ := onLogin_ok stepEq
      · exact .same id
      · exact .same id
  | matchStart =>
      obtain ⟨_, after, _, _, _, added, rfl⟩ := onMatch_ok stepEq
      obtain ⟨_, _, _, _, ⟨_, rfl⟩ | ⟨_, rfl⟩⟩ := addUser_ok added
      · exact .same id
      · exact .same id
  | matchCancel =>
      obtain ⟨_, after, _, _, _, removed, rfl⟩ := onCancelMatch_ok stepEq
      obtain ⟨_, _, _, _, ⟨_, rfl⟩ | ⟨_, rfl⟩⟩ := removeUser_ok removed
      · exact .same id
      · exact .same id
  | matchQueue =>
      rcases matchQueue_ok stepEq with ⟨_, rfl⟩ | ⟨_, _, _, _, _, _, _, _, _, _, _, _, _, rfl⟩
      · exact .same id
      · exact .same id
  | chess conn req winOutcome loseOutcome =>
      obtain ⟨x, y, rooms, ret, settled, _, move, handled, after, rfl, _⟩ := onChess_ok stepEq
      cases ret with
      | false =>
          obtain rfl : settled = { server with rooms := rooms } := after
          refine .same ?_
          rintro ⟨x', y', ref, room, move', seat, held, five⟩
          obtain ⟨rfl, rfl⟩ := Prod.mk.inj (Except.ok.inj (move'.symm.trans move))
          have won := (GameRoomManager.handChess_true_iff handled).mpr ⟨ref, room, seat, held, five⟩
          cases won
      | true =>
          obtain ⟨ref, room, seat, held, five⟩ :=
            (GameRoomManager.handChess_true_iff handled).mp rfl
          obtain ⟨db, won, lost, _⟩ := settle_ok after
          exact .settled ⟨x, y, ref, room, move, seat, held, five⟩ won lost
  | chat =>
      obtain ⟨_, rfl, _⟩ := onChat_ok stepEq
      exact .same id
  | exitRoom =>
      obtain ⟨_, same⟩ := onExitRoom_ok stepEq
      rw [same]
      exact .same id

/-- A step keeps them such. -/
theorem AllEarned.step {server next : Server} {event : ServerEvent}
    (earned : AllEarned server.db) (stepEq : server.step event = .ok next) :
    AllEarned next.db := by
  have change := tableStep_of_step stepEq
  generalize next.db = db at change
  cases change with
  | same => exact earned
  | registered called =>
      rcases UserDB.registerUser_ok called with rfl | ⟨userId, rows⟩
      · exact earned
      · intro row inside
        rw [rows, List.mem_append, List.mem_singleton] at inside
        rcases inside with there | rfl
        · exact earned row there
        · exact earned_newRow ..
  | settled _ won lost => exact (earned.update won).update lost

variable {injected : Server → ServerEvent → Except Fault Server} {events : List ServerEvent}

/-- In every run in which names and passwords are data, whatever statements are executed: if games
have earned the rows at the start, they have so always, those of new users included. -/
theorem earned_always {server : Server} (earned : AllEarned server.db)
    (asData : ∀ event ∈ events, AsData event) :
    Always (mysqlStep injected) (fun server => AllEarned server.db) server events := by
  have keeps (server : Server) (event : ServerEvent) (next : Server)
      (good : AllEarned server.db) (_ : True) (stepEq : server.step event = .ok next) :
      AllEarned next.db := good.step stepEq
  rw [always_iff_of_same_steps (mysqlStep_of_asData asData)]
  exact always_of_admissible keeps earned (admissible_of_forall (fun _ _ => trivial) server events)

/-- A user logs in with a name that is data. -/
theorem asData_enter {username : String} (whole : '\x00' ∉ username.toList)
    (carried : CarriedAsData username "") (conn : ConnId) :
    ∀ event ∈ enter conn username, AsData event := by
  simp only [enter, List.forall_mem_cons, AsData, true_and, List.not_mem_nil, false_implies,
    implies_true, and_true]
  intro name password nameEq passwordEq
  have sameName : Printf.c_str username = name := Except.ok.inj nameEq
  have samePassword : Printf.c_str "" = password := Except.ok.inj passwordEq
  rw [Printf.c_str_of_whole whole] at sameName
  rw [Printf.c_str_of_whole (by decide)] at samePassword
  rw [← sameName, ← samePassword]
  exact carried

/-- Ann and Bob do, and the other requests bring no names. -/
theorem asData_fourInColumn (loseOutcome : DbOutcome) :
    ∀ event ∈ fourInColumn ++ [columnStone 4 loseOutcome], AsData event := by
  have plain {username : String} (whole : '\x00' ∉ username.toList)
      (noQuote : '\'' ∉ username.toList) (noEscape : '\\' ∉ username.toList)
      (short : username.utf8ByteSize < 3979) : CarriedAsData username "" :=
    (carriedAsData_iff whole (by decide)).mpr ⟨harmless_of_plain noQuote noEscape,
      harmless_of_plain (by decide) (by decide), short⟩
  simp only [fourInColumn, pairUp, List.forall_mem_append]
  refine ⟨⟨⟨⟨asData_enter (by decide) (plain (by decide) (by decide) (by decide) (by decide)) 10,
    asData_enter (by decide) (plain (by decide) (by decide) (by decide) (by decide)) 11⟩, ?_⟩, ?_⟩,
    ?_⟩
  all_goals simp [startMatch, columnStone, AsData]

/-- A table with a row that no game has earned. -/
def richTable : UserDB where
  rows := [{ UserDB.newRow 3 "eve" "" with userPoint := 999999 }]
  statements := []
  primaryKey := by decide

/-- An injected statement can make any table, this one for example. -/
def enrich (server : Server) (_ : ServerEvent) : Except Fault Server :=
  .ok { server with db := richTable }

/-- Ann and Bob have what they earn, also when the update of Bob's row fails. -/
theorem earned_always_failedUpdate :
    Always (mysqlStep enrich) (fun server => AllEarned server.db) (Server.new annAndBob)
      (fourInColumn ++ [columnStone 4 .failed]) := by
  refine earned_always (fun row inside => ?_) (asData_fourInColumn .failed)
  have rows : row = UserDB.newRow 1 "ann" "" ∨ row = UserDB.newRow 2 "bob" "" := by
    simpa [Server.new, annAndBob] using inside
  rcases rows with rfl | rfl
  · exact earned_newRow ..
  · exact earned_newRow ..

/-! ### Who has a row -/

/-- The user has a row. -/
def HasRow (db : UserDB) (user : UserId) : Prop := printed user ∈ db.rows.map UserRow.userId

/-- Whoever is on line, waits for a match or has been put into a room has a row. -/
structure Known (server : Server) : Prop where
  online : ∀ user ref, server.users.userId2User.find? user = some ref → HasRow server.db user
  waiting : ∀ i, ∀ user ∈ server.pool.queues i, HasRow server.db user
  seated : ∀ ref room, server.rooms.rooms.deref ref = some room →
    HasRow server.db room.whiteId ∧ HasRow server.db room.blackId

theorem ids_update {db next : UserDB} {statement : Statement} {outcome : DbOutcome}
    (called : db.update statement outcome = .ok next) :
    next.rows.map UserRow.userId = db.rows.map UserRow.userId := by
  cases outcome with
  | noConnection => cases called
  | failed => rw [Except.ok.inj called]
  | succeeded =>
      obtain rfl := Except.ok.inj called
      simp [UserDB.execute, Function.comp_def]

/-- No row is ever removed. -/
theorem HasRow.step {server next : Server} {event : ServerEvent} {user : UserId}
    (row : HasRow server.db user) (stepEq : server.step event = .ok next) :
    HasRow next.db user := by
  have change := tableStep_of_step stepEq
  generalize next.db = db at change
  cases change with
  | same => exact row
  | registered called =>
      rcases UserDB.registerUser_ok called with rfl | ⟨userId, rows⟩
      · exact row
      · rw [HasRow, rows, List.map_append, List.mem_append]
        exact .inl row
  | settled _ won lost =>
      rw [HasRow, ids_update lost, ids_update won]
      exact row

/-- Who is on line after a step has been so before, or has logged in with a row. -/
theorem online_of_step {server next : Server} {event : ServerEvent}
    (stepEq : server.step event = .ok next) {user : UserId} {ref : Ref}
    (now : next.users.userId2User.find? user = some ref) :
    server.users.userId2User.find? user = some ref ∨ HasRow server.db user := by
  cases event with
  | connect conn =>
      obtain rfl := Except.ok.inj stepEq
      exact .inl now
  | disconnect conn erased =>
      obtain rfl := Except.ok.inj stepEq
      rw [onDisconnect_eq] at now
      dsimp only at now
      split at now
      · rw [UserManager.find?_userId2User_removeOnlineUser] at now
        split at now
        · cases now
        · exact .inl now
      · exact .inl now
  | register =>
      obtain ⟨_, _, _, _, _, _, same⟩ := onRegister_ok stepEq
      rw [same] at now
      exact .inl now
  | login conn req outcome =>
      obtain ⟨_, ⟨_, rfl⟩ | ⟨row, info, found, loaded, rfl⟩⟩ := onLogin_ok stepEq
      · exact .inl now
      · rw [UserManager.find?_userId2User_addOnlineUser] at now
        split at now
        · rename_i itself
          obtain ⟨built, inRange, _⟩ := loadUser_ok loaded
          have id : printed user = row.userId := by
            rw [itself, built, UserInfo.new, UserDB.printed_toUInt32 inRange]
          rw [HasRow, id]
          exact .inr (List.mem_map_of_mem (mem_rows_of_requestedRow found))
        · exact .inl now
  | matchStart =>
      obtain ⟨_, after, _, _, _, added, rfl⟩ := onMatch_ok stepEq
      obtain ⟨_, _, _, _, ⟨_, rfl⟩ | ⟨_, rfl⟩⟩ := addUser_ok added
      · exact .inl now
      · exact .inl now
  | matchCancel =>
      obtain ⟨_, after, _, _, _, removed, rfl⟩ := onCancelMatch_ok stepEq
      obtain ⟨_, _, _, _, ⟨_, rfl⟩ | ⟨_, rfl⟩⟩ := removeUser_ok removed
      · exact .inl now
      · exact .inl now
  | matchQueue =>
      rcases matchQueue_ok stepEq with ⟨_, rfl⟩ | ⟨_, _, _, _, _, _, _, _, _, _, _, _, _, rfl⟩
      · exact .inl now
      · exact .inl now
  | chess =>
      obtain ⟨_, _, rooms, ret, settled, _, _, _, after, rfl, _⟩ := onChess_ok stepEq
      cases ret with
      | false =>
          obtain rfl : settled = { server with rooms := rooms } := after
          exact .inl now
      | true =>
          obtain ⟨_, _, _, same⟩ := settle_ok after
          rw [same] at now
          have table (winner loser : UserId) :
              ((server.users.winGame winner).loseGame loser).userId2User =
                server.users.userId2User :=
            (UserManager.userId2User_updateById ..).trans (UserManager.userId2User_updateById ..)
          exact .inl (table .. ▸ now)
  | chat =>
      obtain ⟨_, rfl, _⟩ := onChat_ok stepEq
      exact .inl now
  | exitRoom =>
      obtain ⟨removed, _⟩ := onExitRoom_ok stepEq
      rw [(GameRoomManager.removeUser_ok removed).2.2.2] at now
      split at now
      · exact .inl now
      · exact .inl (by simpa using now)

/-- Who waits after a step has waited before, or is on line. -/
theorem waiting_of_step {server next : Server} {event : ServerEvent}
    (stepEq : server.step event = .ok next) {i : Fin 3} {user : UserId}
    (now : user ∈ next.pool.queues i) :
    (∃ j, user ∈ server.pool.queues j) ∨ ∃ ref, server.users.userId2User.find? user = some ref := by
  have change := poolStep_of_step stepEq
  generalize next.pool = pool at change now
  cases change with
  | same => exact .inl ⟨i, now⟩
  | joined _ current =>
      rcases MatchPool.mem_pushBack.mp now with before | ⟨_, rfl⟩
      · exact .inl ⟨i, before⟩
      · obtain ⟨ref, found, _⟩ := UserManager.userInfo_eq_some_iff.mp current
        exact .inr ⟨ref, found⟩
  | left => exact .inl ⟨i, (MatchPool.mem_remove.mp now).1⟩
  | @taken j _ _ _ rest queued =>
      rw [MatchPool.queues_popped] at now
      split at now
      · exact .inl ⟨j, by simp [queued, now]⟩
      · exact .inl ⟨i, now⟩

/-- Whoever a room is for after a step, it was for before, or waited in a queue. -/
theorem seated_of_step {server next : Server} {event : ServerEvent}
    (stepEq : server.step event = .ok next) {ref : Ref} {room : GameRoomInfo}
    (now : next.rooms.rooms.deref ref = some room) :
    (∃ before, server.rooms.rooms.deref ref = some before ∧ before.whiteId = room.whiteId ∧
        before.blackId = room.blackId) ∨
      ∃ i, room.whiteId ∈ server.pool.queues i ∧ room.blackId ∈ server.pool.queues i := by
  have change := roomsStep_of_step stepEq
  generalize next.rooms = rooms at change now
  cases change with
  | same => exact .inl ⟨room, now, rfl, rfl⟩
  | @opened i roomCount userId1 userId2 rest queued =>
      rw [GameRoomManager.createRoom, Heap.deref_alloc] at now
      split at now
      · obtain rfl := Option.some.inj now
        exact .inr ⟨i, by simp [GameRoomInfo.new, queued], by simp [GameRoomInfo.new, queued]⟩
      · exact .inl ⟨room, now, rfl, rfl⟩
  | @played conn _ _ _ x y _ _ _ handled =>
      cases found : server.rooms.userId2Room.find? (server.users.getUserIdByConn conn) with
      | none =>
          simp only [GameRoomManager.handChess, found, Except.ok.injEq, Prod.mk.injEq] at handled
          exact .inl ⟨room, handled.1 ▸ now, rfl, rfl⟩
      | some there =>
          obtain ⟨old, held, _⟩ := GameRoomManager.exists_room found
          by_cases inBoard : InBoard x y
          · obtain ⟨board, rooms', _, _, handled', deref, _⟩ :=
              GameRoomManager.handChess_of_inBoard _ found held inBoard
            obtain ⟨rfl, _⟩ := Prod.mk.inj (Except.ok.inj (handled'.symm.trans handled))
            rw [deref] at now
            split at now
            · rename_i same
              obtain rfl := Option.some.inj now
              exact .inl ⟨old, same ▸ held, rfl, rfl⟩
            · exact .inl ⟨room, now, rfl, rfl⟩
          · rw [GameRoomManager.handChess_of_outOfBoard found held inBoard] at handled
            cases handled
  | @exited conn _ _ removed =>
      cases found : server.rooms.userId2Room.find? (server.users.getUserIdByConn conn) with
      | none =>
          rw [GameRoomManager.removeUser_of_absent _ found] at removed
          exact .inl ⟨room, (Prod.mk.inj (Except.ok.inj removed)).1 ▸ now, rfl, rfl⟩
      | some left =>
          obtain ⟨old, held, _⟩ := GameRoomManager.exists_room found
          rw [GameRoomManager.removeUser_of_seated _ found held] at removed
          split at removed
          · cases removed
          · obtain rfl := (Prod.mk.inj (Except.ok.inj removed)).1
            simp only [GameRoomManager.updateRoom, GameRoomManager.eraseUser,
              Heap.deref_modify] at now
            split at now
            · rename_i same
              rw [same, held, Option.map_some] at now
              obtain rfl := Option.some.inj now
              exact .inl ⟨old, same ▸ held, rfl, rfl⟩
            · exact .inl ⟨room, now, rfl, rfl⟩

theorem known_new (db : UserDB) : Known (Server.new db) where
  online user ref found := by
    rw [Server.new] at found
    cases found
  waiting i user inside := by
    rw [Server.new, MatchPool.new] at inside
    cases inside
  seated ref room held := by simp [Server.new, GameRoomManager.new] at held

theorem Known.step {server next : Server} {event : ServerEvent} (known : Known server)
    (stepEq : server.step event = .ok next) : Known next where
  online user ref now := by
    rcases online_of_step stepEq now with before | row
    · exact (known.online user ref before).step stepEq
    · exact row.step stepEq
  waiting i user now := by
    rcases waiting_of_step stepEq now with ⟨j, before⟩ | ⟨ref, online⟩
    · exact (known.waiting j user before).step stepEq
    · exact (known.online user ref online).step stepEq
  seated ref room now := by
    rcases seated_of_step stepEq now with ⟨before, held, white, black⟩ | ⟨i, white, black⟩
    · obtain ⟨first, second⟩ := known.seated ref before held
      exact ⟨(white ▸ first).step stepEq, (black ▸ second).step stepEq⟩
    · exact ⟨(known.waiting i _ white).step stepEq, (known.waiting i _ black).step stepEq⟩

/-- Both players of a move that wins have a row. -/
theorem Known.rows_of_wins {server : Server} (known : Known server) {winner : UserId}
    {req : Json.Value} (wins : Wins server winner req) :
    HasRow server.db winner ∧
      HasRow server.db (server.rooms.getUserIdFromOtherId winner) := by
  obtain ⟨x, y, ref, room, _, seat, held, _⟩ := wins
  obtain ⟨white, black⟩ := known.seated ref room held
  obtain ⟨room', held', player⟩ := GameRoomManager.exists_room seat
  obtain rfl := Option.some.inj (held'.symm.trans held)
  have opponent : server.rooms.getUserIdFromOtherId winner = room'.getOtherId winner := by
    rw [GameRoomManager.getUserIdFromOtherId, seat, Option.bind_some, held]
  rw [opponent, GameRoomInfo.getOtherId]
  constructor
  · rcases player with rfl | rfl
    · exact white
    · exact black
  · split
    · exact black
    · exact white

/-! ### Games and wins -/

/-- The games that the rows have counted. -/
def games (db : UserDB) : Int := (db.rows.map UserRow.totalCount).sum

/-- The wins among them. -/
def wins (db : UserDB) : Int := (db.rows.map UserRow.winCount).sum

/-- Every game has been counted twice, and won once. -/
def Balanced (server : Server) : Prop := games server.db = 2 * wins server.db

/-- The two statements of a game that is won are both executed, or neither is. -/
def Settles (server : Server) : ServerEvent → Prop
  | .chess conn req winOutcome loseOutcome =>
      Wins server (server.users.getUserIdByConn conn) req →
        (winOutcome = .succeeded ↔ loseOutcome = .succeeded)
  | _ => True

/-- Whether a statement is a win. -/
def isWin : Statement → Int
  | .winUser _ => 1
  | .lostUser _ => 0

/-- A statement that names a row, if it is executed, counts one game, and `WIN_USER` a win. -/
theorem counts_update {db next : UserDB} {statement : Statement} {outcome : DbOutcome}
    (called : db.update statement outcome = .ok next)
    (row : UserDB.Statement.target statement ∈ db.rows.map UserRow.userId) :
    games next = games db + (if outcome = .succeeded then 1 else 0) ∧
      wins next = wins db + (if outcome = .succeeded then isWin statement else 0) := by
  cases outcome with
  | noConnection => cases called
  | failed =>
      obtain rfl := Except.ok.inj called
      simp
  | succeeded =>
      obtain rfl := Except.ok.inj called
      have played := sum_map_change UserRow.totalCount (UserDB.Statement.target statement) 1
        (fun row => by cases statement <;> rfl : ∀ row,
          (UserDB.Statement.set statement row).totalCount = row.totalCount + 1) db.primaryKey
      have won := sum_map_change UserRow.winCount (UserDB.Statement.target statement)
        (isWin statement)
        (fun row => by cases statement <;> simp [isWin, UserDB.Statement.set] : ∀ row,
          (UserDB.Statement.set statement row).winCount = row.winCount + isWin statement)
        db.primaryKey
      rw [if_pos row] at played won
      exact ⟨by rw [if_pos rfl]; exact played, by rw [if_pos rfl]; exact won⟩

theorem counts_winGame {db next : UserDB} {user : UserId} {outcome : DbOutcome}
    (called : db.winGame user outcome = .ok next) (row : HasRow db user) :
    games next = games db + (if outcome = .succeeded then 1 else 0) ∧
      wins next = wins db + (if outcome = .succeeded then 1 else 0) := by
  unfold UserDB.winGame at called
  simpa only [isWin] using counts_update called (by rwa [UserDB.Statement.target])

theorem counts_loseGame {db next : UserDB} {user : UserId} {outcome : DbOutcome}
    (called : db.loseGame user outcome = .ok next) (row : HasRow db user) :
    games next = games db + (if outcome = .succeeded then 1 else 0) ∧
      wins next = wins db + (if outcome = .succeeded then 0 else 0) := by
  unfold UserDB.loseGame at called
  simpa only [isWin] using counts_update called (by rwa [UserDB.Statement.target])

/-- One game more and one win, as far as they are counted. -/
theorem balance_iff {played won : Int} (balanced : played = 2 * won) (first second : Prop)
    [Decidable first] [Decidable second] :
    (first ↔ second) ↔ played + (if first then 1 else 0) + (if second then 1 else 0) =
      2 * (won + (if first then 1 else 0) + if second then 0 else 0) := by
  by_cases one : first <;> by_cases two : second <;> grind

/-- A step keeps the balance exactly if it settles both sides of a won game or neither. -/
theorem balanced_step_iff {server next : Server} {event : ServerEvent} (known : Known server)
    (balanced : Balanced server) (stepEq : server.step event = .ok next) :
    Settles server event ↔ Balanced next := by
  have change := tableStep_of_step stepEq
  rw [Balanced] at balanced ⊢
  generalize next.db = db at change ⊢
  cases change with
  | same quiet =>
      refine iff_of_true ?_ balanced
      cases event with
      | chess => exact fun wins => absurd wins quiet
      | _ => trivial
  | registered called =>
      refine iff_of_true trivial ?_
      rcases UserDB.registerUser_ok called with rfl | ⟨userId, rows⟩
      · exact balanced
      · simpa [games, wins, rows, UserDB.newRow] using balanced
  | @settled conn req winOutcome loseOutcome middle _ won winEq loseEq =>
      obtain ⟨winner, loser⟩ := known.rows_of_wins won
      obtain ⟨gamesWin, winsWin⟩ := counts_winGame winEq winner
      obtain ⟨gamesLose, winsLose⟩ := counts_loseGame loseEq (by
        rw [HasRow, ids_update winEq]
        exact loser)
      have both : Settles server (.chess conn req winOutcome loseOutcome) ↔
          (winOutcome = .succeeded ↔ loseOutcome = .succeeded) := ⟨fun settles => settles won,
        fun same _ => same⟩
      rw [both, gamesLose, winsLose, gamesWin, winsWin]
      exact balance_iff balanced _ _

/-- In every run of the server alone from a table whose books balance. -/
theorem balanced_step_always_iff {db : UserDB} (balanced : games db = 2 * wins db)
    (events : List ServerEvent) :
    Always Server.step Balanced (Server.new db) events ↔
      Admissible Server.step (WhenReturns Server.step Settles) (Server.new db) events := by
  have exactly (server : Server) (event : ServerEvent) (next : Server)
      (good : Known server ∧ Balanced server) (stepEq : server.step event = .ok next) :
      Settles server event ↔ Known next ∧ Balanced next := by
    rw [balanced_step_iff good.1 good.2 stepEq]
    exact ⟨fun after => ⟨good.1.step stepEq, after⟩, And.right⟩
  have keeps (server : Server) (event : ServerEvent) (next : Server) (known : Known server)
      (_ : True) (stepEq : server.step event = .ok next) : Known next := known.step stepEq
  have known : Always Server.step Known (Server.new db) events :=
    always_of_admissible keeps (known_new db) (admissible_of_forall (fun _ _ => trivial) _ _)
  rw [← always_iff_whenReturns exactly ⟨known_new db, balanced⟩ events]
  exact ⟨known.and, Always.imp fun _ => And.right⟩

/-- In every run from a table whose books balance, and in which names and passwords are data, they
balance always, exactly if of every game that is won both statements are executed or neither. -/
theorem balanced_iff {db : UserDB} (balanced : games db = 2 * wins db)
    (asData : ∀ event ∈ events, AsData event) :
    Always (mysqlStep injected) Balanced (Server.new db) events ↔
      Admissible (mysqlStep injected) (WhenReturns (mysqlStep injected) Settles) (Server.new db)
        events := by
  have same : ∀ event ∈ events, ∀ server, mysqlStep injected server event = server.step event :=
    mysqlStep_of_asData asData
  have settles : ∀ event ∈ events, ∀ server, WhenReturns (mysqlStep injected) Settles server event ↔
      WhenReturns Server.step Settles server event := by
    intro event inside server
    rw [WhenReturns, WhenReturns, same event inside]
  rw [always_iff_of_same_steps same, admissible_iff_of_same_steps same settles]
  exact balanced_step_always_iff balanced events

/-- MySQL would execute both statements. -/
def BothExecuted : ServerEvent → Prop
  | .chess _ _ winOutcome loseOutcome => winOutcome = .succeeded ∧ loseOutcome = .succeeded
  | _ => True

/-- Ann wins, and both statements are executed. -/
theorem balanced_iff_bothExecuted :
    Always (mysqlStep enrich) Balanced (Server.new annAndBob)
      (fourInColumn ++ [columnStone 4 .succeeded]) := by
  refine (balanced_iff (by decide) (asData_fourInColumn .succeeded)).mpr ?_
  have executed : Admissible (mysqlStep enrich) (fun _ event => BothExecuted event)
      (Server.new annAndBob) (fourInColumn ++ [columnStone 4 .succeeded]) := by
    refine admissible_of_forall_mem ?_ _
    simp [BothExecuted, fourInColumn, columnStone, pairUp, enter, startMatch]
  refine executed.imp fun server event both _ => ?_
  cases event with
  | chess => exact fun _ => iff_of_true both.1 both.2
  | _ => trivial

end GomukuServer.Proofs.Books
