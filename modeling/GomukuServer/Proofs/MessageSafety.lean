/-
Module: GomukuServer.Proofs.MessageSafety
Layer: Proofs
Purpose: Which message bodies the server survives.  The accessors of JsonCpp throw on a value of the
  wrong type and nobody catches, the handlers follow null pointers, and the text of a message is the
  format of a log call; `HandlesSafely` says, handler by handler, when none of this goes wrong.
Trusted boundary: none
Main exports: ReturnsNormally, WellFormed, HandlesSafely, returnsNormally_iff,
  messages_returnNormally_iff
-/
import GomukuServer.Base.Printf
import GomukuServer.Base.Returns
import GomukuServer.Module.Dispatch

namespace GomukuServer.Proofs.MessageSafety

open Base Base.Runs Base.Printf Model Manager Db MyMuduo Net Net.Json.Value
open GomukuServer.Module GomukuServer.Module.Server

/-- The styled writer puts no percent sign into a text that is not in the strings of the value. -/
def Literal (json : JsonCpp) : Prop :=
  ∀ value : Json.Value, (∀ text ∈ value.texts, '%' ∉ text.toList) →
    '%' ∉ (json.toStyledString value).toList

/-- Dispatching a message and running its handler return, the log calls on the way included. -/
def ReturnsNormally (json : JsonCpp) (server : Server) : Arrival → Prop
  | .message conn body outcomes =>
      Returns (server.receive json conn body outcomes) fun _ => True
  | .other _ => True

/-- The text of an answer can be a format. -/
def Printable (json : JsonCpp) (protocol : ProtocolId) (data : Json.Value) : Prop :=
  takesArgument (json.toStyledString (response protocol data)) = false

/-- The request has the user name and the password as strings. -/
def HasCredentials (req : Json.Value) : Prop :=
  IsRecord req ∧ IsString (req.member "username") ∧ IsString (req.member "password")

/-- The request has a number in the place of the user id, and the user is online. -/
def NamesOnlineUser (server : Server) (req : Json.Value) : Prop :=
  IsRecord req ∧ ConvertsToUInt (req.member "userId") ∧
    (server.users.userInfo (req.member "userId").toUInt).isSome

/-- A connection to the database was there and the query was answered. -/
def Answered : LoginOutcome → Prop
  | .answered _ => True
  | _ => False

/-- A column that `stoi` can read. -/
def FitsInt (value : Int) : Prop := -2 ^ 31 ≤ value ∧ value < 2 ^ 31

/-- All number columns of the row can be read. -/
def Readable (row : UserRow) : Prop :=
  FitsInt row.userId ∧ FitsInt row.userPoint ∧ FitsInt row.totalCount ∧ FitsInt row.winCount

/-- The user of a row. -/
def userOf (row : UserRow) (conn : ConnId) : UserInfo :=
  UserInfo.new row.userName (UserDB.toUInt32 row.userId) (UserDB.toUInt32 row.userPoint)
    (UserDB.toUInt32 row.totalCount) (UserDB.toUInt32 row.winCount) conn

/-- The answer to a login that succeeds. -/
def welcome (user : UserInfo) : Json.Value :=
  .object [("success", .bool true), ("reason", .string "登录成功"),
    ("userId", .int user.userId.toNat), ("userName", .string user.userName),
    ("userPoint", .int user.userPoints.toNat), ("totalCount", .int user.totalCount.toNat),
    ("winCount", .int user.winCount.toNat)]

/-- The room the user of a connection is in. -/
def roomOf (server : Server) (conn : ConnId) : Option GameRoomInfo :=
  (server.rooms.userId2Room.find? (server.users.getUserIdByConn conn)).bind server.rooms.rooms.deref

/-- The connection of the other id of that room. -/
def opponentOf (server : Server) (conn : ConnId) : Option ConnId :=
  server.users.getConnByUserId
    (server.rooms.getUserIdFromOtherId (server.users.getUserIdByConn conn))

/-- When a handler returns and its answers can be formats. -/
def HandlesSafely (json : JsonCpp) (server : Server) : ServerEvent → Prop
  | .register _ req outcome => HasCredentials req ∧ outcome ≠ .noConnection
  | .login conn req outcome =>
      HasCredentials req ∧ Answered outcome ∧
        ∀ row, requestedRow server req outcome = .ok (some row) →
          Readable row ∧
            (conn ∈ server.conns.conns → Printable json .LOGIN_ACK (welcome (userOf row conn)))
  | .matchStart _ req => NamesOnlineUser server req
  | .matchCancel _ req => NamesOnlineUser server req
  | .chess conn req winOutcome loseOutcome =>
      IsRecord req ∧ ConvertsToInt (req.member "x") ∧ ConvertsToInt (req.member "y") ∧
        ∀ room, roomOf server conn = some room →
          InBoard (req.member "x").toInt (req.member "y").toInt ∧
            (room.MakesFive (req.member "x").toInt (req.member "y").toInt
              (server.users.getUserIdByConn conn) →
                winOutcome ≠ .noConnection ∧ loseOutcome ≠ .noConnection)
  | .chat conn req =>
      IsRecord req ∧ IsString (req.member "message") ∧
        ∀ peer ∈ server.conns.conns, opponentOf server conn = some peer →
          Printable json .GAME_CHAT_ACK
            (.object [("message", .string (req.member "message").toText)])
  | .exitRoom conn => ∀ room, roomOf server conn = some room → room.roomCount ≠ 1
  | _ => True

/-- JsonCpp does not throw on the body, and if it parses it, the root is an object or null with a
protocol number in it; if there is a handler for the number, the text of the message can be a
format, and the handler is safe. -/
def WellFormed (json : JsonCpp) (server : Server) : Arrival → Prop
  | .message conn body outcomes =>
      (∃ answer, json.parse body = .ok answer) ∧ ∀ root, json.parse body = .ok (some root) →
        IsRecord root ∧ ConvertsToInt (root.member "protocol") ∧
          ∀ handler, findHandler (root.member "protocol").toInt = some handler →
            takesArgument (json.receivedStyledString body) = false ∧
              HandlesSafely json server (handler conn (root.member "data") outcomes)
  | .other _ => True

/-! ### Answers -/

/-- All that has been sent between two states can be printed. -/
def Clean (json : JsonCpp) (server next : Server) : Prop :=
  ∀ message ∈ next.sent.drop server.sent.length, Printable json message.protocol message.data

theorem clean_refl (json : JsonCpp) {server next : Server} (same : next.sent = server.sent) :
    Clean json server next := by
  simp [Clean, same]

/-- An answer whose strings have no percent sign can be printed. -/
theorem printable_of_texts {json : JsonCpp} (literal : Literal json) (protocol : ProtocolId)
    {data : Json.Value} (plain : ∀ text ∈ data.texts, '%' ∉ text.toList) :
    Printable json protocol data := by
  refine takesArgument_of_no_percent (literal _ fun text inside => ?_)
  simp only [response, texts, memberTexts, List.mem_append, List.mem_cons, List.append_nil,
    List.not_mem_nil, or_false] at inside
  rcases inside with (rfl | nested) | rfl
  · decide
  · exact plain text nested
  · decide

/-- `sendMsg` adds one message if the connection is up. -/
theorem sent_sendMsg (server : Server) (conn : Option ConnId) (protocol : ProtocolId)
    (data : Json.Value) :
    (∃ peer ∈ server.conns.conns, conn = some peer ∧
        (server.sendMsg conn protocol data).sent = server.sent ++ [⟨peer, protocol, data⟩]) ∨
      ((∀ peer ∈ server.conns.conns, conn ≠ some peer) ∧
        (server.sendMsg conn protocol data).sent = server.sent) := by
  cases conn with
  | none => exact .inr ⟨fun _ _ => nofun, rfl⟩
  | some conn =>
      by_cases up : conn ∈ server.conns.conns
      · exact .inl ⟨conn, up, rfl, by rw [sendMsg_some, if_pos up]⟩
      · refine .inr ⟨fun peer inside same => up ?_, by simp [sendMsg_some, up]⟩
        exact Option.some.inj same ▸ inside

/-- One answer is all that is sent. -/
theorem clean_sendMsg_iff {json : JsonCpp} {server middle : Server}
    (same : middle.sent = server.sent) (conn : Option ConnId) (protocol : ProtocolId)
    (data : Json.Value) :
    Clean json server (middle.sendMsg conn protocol data) ↔
      ∀ peer ∈ middle.conns.conns, conn = some peer → Printable json protocol data := by
  rcases sent_sendMsg middle conn protocol data with ⟨peer, up, rfl, sent⟩ | ⟨down, sent⟩
  · simp only [Clean, sent, same, List.drop_left, List.forall_mem_singleton]
    exact ⟨fun printable _ _ _ => printable, fun printable => printable peer up rfl⟩
  · exact iff_of_true (clean_refl json (sent.trans same)) fun peer inside same =>
      absurd same (down peer inside)

theorem clean_answer {json : JsonCpp} {server middle : Server} (same : middle.sent = server.sent)
    (conn : Option ConnId) {protocol : ProtocolId} {data : Json.Value}
    (printable : Printable json protocol data) :
    Clean json server (middle.sendMsg conn protocol data) :=
  (clean_sendMsg_iff same conn protocol data).mpr fun _ _ _ => printable

/-- Two answers. -/
theorem clean_answers {json : JsonCpp} {server middle : Server} (same : middle.sent = server.sent)
    (first second : Option ConnId) {protocol : ProtocolId} {data other : Json.Value}
    (printable : Printable json protocol data) (otherPrintable : Printable json protocol other) :
    Clean json server ((middle.sendMsg first protocol data).sendMsg second protocol other) := by
  have before := clean_answer same first printable
  rcases sent_sendMsg (middle.sendMsg first protocol data) second protocol other with
    ⟨peer, _, _, sent⟩ | ⟨_, sent⟩
  · have longer : server.sent.length ≤ (middle.sendMsg first protocol data).sent.length := by
      rcases sent_sendMsg middle first protocol data with ⟨_, _, _, sent⟩ | ⟨_, sent⟩
      · simp [sent, same]
      · rw [sent, same]
    intro message inside
    rw [sent, List.drop_append_of_le_length longer, List.mem_append, List.mem_singleton] at inside
    rcases inside with old | rfl
    · exact before message old
    · exact otherPrintable
  · simpa [Clean, sent] using before

/-! ### Handlers -/

/-- A registration returns if there is a connection, and neither reason has a percent sign. -/
theorem returns_registerUser {db : UserDB} {username password : String}
    {outcome : RegisterOutcome} {post : UserDB × Bool × String → Prop}
    (good : ∀ db success reason, '%' ∉ reason.toList → post (db, success, reason)) :
    Returns (db.registerUser username password outcome) post ↔ outcome ≠ .noConnection := by
  cases outcome with
  | noConnection => simp [UserDB.registerUser]
  | failed => simpa [UserDB.registerUser] using good _ _ _ (by decide)
  | inserted userId =>
      refine iff_of_true ?_ (by simp)
      simp only [UserDB.registerUser]
      split
      · exact returns_ok.mpr (good _ _ _ (by decide))
      · exact returns_ok.mpr (good _ _ _ (by decide))

theorem returns_onRegister {json : JsonCpp} (literal : Literal json) (server : Server)
    (conn : ConnId) (req : Json.Value) (outcome : RegisterOutcome) :
    Returns (server.onRegister conn req outcome) (Clean json server) ↔
      HandlesSafely json server (.register conn req outcome) := by
  simp only [onRegister, returns_bind, returns_getMember, returns_asCString]
  rw [returns_registerUser]
  · simp only [HandlesSafely, HasCredentials]
    tauto
  · intro db success reason plain
    refine returns_pure.mpr (clean_answer ?_ _ (printable_of_texts literal _ ?_))
    · rfl
    · simp [texts, memberTexts, plain]

theorem returns_stoi {value : Int} {post : Int → Prop} :
    Returns (UserDB.stoi value) post ↔ FitsInt value ∧ post value := by
  unfold UserDB.stoi
  split <;> rename_i fits
  · exact returns_ok.trans (and_iff_right fits).symm
  · exact iff_of_false returns_error fun both => fits both.1

/-- A row can be loaded if its columns can be read. -/
theorem returns_loadUser {row : UserRow} {conn : ConnId} {post : UserInfo → Prop} :
    Returns (loadUser row conn) post ↔ Readable row ∧ post (userOf row conn) := by
  simp only [loadUser, returns_bind, returns_stoi, returns_pure, Readable, userOf]
  tauto

/-- With both strings there, a login asks the database. -/
theorem requestedRow_eq {req : Json.Value} (credentials : HasCredentials req) (server : Server)
    (outcome : LoginOutcome) :
    requestedRow server req outcome =
      server.db.loginUser (req.member "username").toText (req.member "password").toText
        outcome := by
  obtain ⟨record, username, password⟩ := credentials
  simp only [requestedRow, getMember_of_isRecord record, ok_bind, asCString_of_isString username,
    asCString_of_isString password]

/-- A query for a login returns if it is answered. -/
theorem returns_loginUser {db : UserDB} {username password : String} {outcome : LoginOutcome}
    {post : Option UserRow → Prop} :
    Returns (db.loginUser username password outcome) post ↔
      Answered outcome ∧ ∀ answer, db.loginUser username password outcome = .ok answer →
        post answer := by
  cases outcome <;> simp [UserDB.loginUser, Answered]

theorem returns_onLogin {json : JsonCpp} (literal : Literal json) (server : Server)
    (conn : ConnId) (req : Json.Value) (outcome : LoginOutcome) :
    Returns (server.onLogin conn req outcome) (Clean json server) ↔
      HandlesSafely json server (.login conn req outcome) := by
  simp only [onLogin, returns_bind, returns_getMember, returns_asCString, returns_loginUser]
  have failure : Printable json .LOGIN_ACK
      (.object [("success", .bool false), ("reason", .string "用户名或密码错误")]) :=
    printable_of_texts literal _ (by decide)
  simp only [HandlesSafely]
  constructor
  · rintro ⟨record, username, _, password, answered, later⟩
    refine ⟨⟨record, username, password⟩, answered, fun row found => ?_⟩
    rw [requestedRow_eq ⟨record, username, password⟩] at found
    have entered := later _ found
    simp only [returns_bind, returns_loadUser, returns_pure] at entered
    obtain ⟨readable, clean⟩ := entered
    exact ⟨readable, fun up => (clean_sendMsg_iff (by rfl) _ _ _).mp clean conn up rfl⟩
  · rintro ⟨⟨record, username, password⟩, answered, later⟩
    refine ⟨record, username, record, password, answered, fun answer found => ?_⟩
    cases answer with
    | none => exact returns_pure.mpr (clean_answer rfl _ failure)
    | some row =>
        have requested : requestedRow server req outcome = .ok (some row) := by
          rw [requestedRow_eq ⟨record, username, password⟩, found]
        obtain ⟨readable, printable⟩ := later row requested
        simp only [returns_bind, returns_loadUser, returns_pure]
        refine ⟨readable, (clean_sendMsg_iff (by rfl) _ _ _).mpr fun peer up same => ?_⟩
        exact printable (Option.some.inj same ▸ up)

/-- The answer to a match or cancel request can be printed. -/
theorem printable_matchAnswer {json : JsonCpp} (literal : Literal json) (protocol : ProtocolId)
    (ret : Bool) {success failure : String} (plainSuccess : '%' ∉ success.toList)
    (plainFailure : '%' ∉ failure.toList) :
    Printable json protocol (matchAnswer ret success failure) := by
  refine printable_of_texts literal _ ?_
  cases ret <;> simp [matchAnswer, texts, memberTexts, plainSuccess, plainFailure]

/-- `addUser` and `removeUser` return for a user who is online, and send nothing. -/
theorem returns_of_online {server : Server} {userId : UserId}
    {call : Server → UserId → Except Fault (Server × Bool)} {post : Server × Bool → Prop}
    (returned : ∀ info, server.users.userInfo userId = some info →
      ∃ after ret, call server userId = .ok (after, ret))
    (online : ∀ after ret, call server userId = .ok (after, ret) →
      (server.users.userInfo userId).isSome ∧ post (after, ret)) :
    Returns (call server userId) post ↔ (server.users.userInfo userId).isSome := by
  constructor
  · rintro ⟨⟨after, ret⟩, called, _⟩
    exact (online after ret called).1
  · intro current
    obtain ⟨info, current⟩ := Option.isSome_iff_exists.mp current
    obtain ⟨after, ret, called⟩ := returned info current
    exact ⟨(after, ret), called, (online after ret called).2⟩

theorem returns_onMatch {json : JsonCpp} (literal : Literal json) (server : Server)
    (conn : ConnId) (req : Json.Value) :
    Returns (server.onMatch conn req) (Clean json server) ↔
      HandlesSafely json server (.matchStart conn req) := by
  simp only [onMatch, returns_bind, returns_getMember, returns_asUInt, HandlesSafely,
    NamesOnlineUser]
  refine and_congr_right fun _ => and_congr_right fun _ =>
    returns_of_online (fun _ => exists_addUser) fun after ret added => ?_
  obtain ⟨ref, info, _, current, outcome⟩ := addUser_ok added
  have same : after.sent = server.sent := by
    rcases outcome with ⟨_, rfl⟩ | ⟨_, rfl⟩ <;> rfl
  refine ⟨by simp [current], returns_pure.mpr (clean_answer same _ ?_)⟩
  exact printable_matchAnswer literal _ ret (by decide) (by decide)

theorem returns_onCancelMatch {json : JsonCpp} (literal : Literal json) (server : Server)
    (conn : ConnId) (req : Json.Value) :
    Returns (server.onCancelMatch conn req) (Clean json server) ↔
      HandlesSafely json server (.matchCancel conn req) := by
  simp only [onCancelMatch, returns_bind, returns_getMember, returns_asUInt, HandlesSafely,
    NamesOnlineUser]
  refine and_congr_right fun _ => and_congr_right fun _ =>
    returns_of_online (fun _ => exists_removeUser) fun after ret removed => ?_
  obtain ⟨ref, info, _, current, outcome⟩ := removeUser_ok removed
  have same : after.sent = server.sent := by
    rcases outcome with ⟨_, rfl⟩ | ⟨_, rfl⟩ <;> rfl
  refine ⟨by simp [current], returns_pure.mpr (clean_answer same _ ?_)⟩
  exact printable_matchAnswer literal _ ret (by decide) (by decide)

/-- A chat returns if its text is a string, and its text goes on to the opponent. -/
theorem returns_onChat {json : JsonCpp} (server : Server) (conn : ConnId) (req : Json.Value) :
    Returns (server.onChat conn req) (Clean json server) ↔
      HandlesSafely json server (.chat conn req) := by
  simp only [onChat, returns_bind, returns_getMember, returns_asCString, returns_pure,
    HandlesSafely]
  exact and_congr_right fun _ => and_congr_right fun _ =>
    clean_sendMsg_iff rfl (opponentOf server conn) _ _

/-- A departure returns unless it brings the counter of the room to zero. -/
theorem returns_onExitRoom {json : JsonCpp} (server : Server) (conn : ConnId) :
    Returns (server.onExitRoom conn) (Clean json server) ↔
      HandlesSafely json server (.exitRoom conn) := by
  simp only [onExitRoom, returns_bind, HandlesSafely, roomOf]
  cases seated : server.rooms.userId2Room.find? (server.users.getUserIdByConn conn) with
  | none =>
      rw [GameRoomManager.removeUser_of_absent _ seated]
      simpa using clean_refl json rfl
  | some ref =>
      obtain ⟨room, held, _⟩ := GameRoomManager.exists_room seated
      rw [GameRoomManager.removeUser_of_seated _ seated held]
      simp only [Option.bind_some, held, Option.some.injEq, forall_eq', GameRoomInfo.countdown_iff]
      split <;> rename_i counter
      · simp [counter]
      · refine iff_of_true (returns_ok.mpr (returns_pure.mpr ?_)) counter
        exact clean_refl json rfl

/-- An update of a row returns if there is a connection. -/
theorem returns_update {db : UserDB} {statement : Statement} {outcome : DbOutcome}
    {post : UserDB → Prop} :
    Returns (db.update statement outcome) post ↔
      outcome ≠ .noConnection ∧ ∀ next, db.update statement outcome = .ok next → post next := by
  cases outcome <;> simp [UserDB.update]

/-- A settlement returns if there is a connection for each of its updates, and sends nothing. -/
theorem returns_settle {server : Server} {sendId recvId : UserId}
    {winOutcome loseOutcome : DbOutcome} {post : Server → Prop}
    (good : ∀ next, next.sent = server.sent → post next) :
    Returns (server.settle sendId recvId winOutcome loseOutcome) post ↔
      winOutcome ≠ .noConnection ∧ loseOutcome ≠ .noConnection := by
  simp only [settle, UserDB.winGame, UserDB.loseGame, returns_bind, returns_update, returns_pure]
  constructor
  · rintro ⟨won, lost⟩
    obtain ⟨db, _, lost, _⟩ := returns_update.mpr ⟨won, lost⟩
    exact ⟨won, lost⟩
  · rintro ⟨won, lost⟩
    exact ⟨won, fun db _ => ⟨lost, fun _ _ => good _ rfl⟩⟩

/-- A move returns if the cell is on the board, and for a user without a room. -/
theorem returns_handChess {rooms : GameRoomManager} {x y : Int} {user : UserId}
    {post : GameRoomManager × Bool → Prop} :
    Returns (rooms.handChess x y user) post ↔
      (∀ room, (rooms.userId2Room.find? user).bind rooms.rooms.deref = some room → InBoard x y) ∧
        ∀ after ret, rooms.handChess x y user = .ok (after, ret) → post (after, ret) := by
  cases seated : rooms.userId2Room.find? user with
  | none => simp [GameRoomManager.handChess, seated]
  | some ref =>
      obtain ⟨room, held, _⟩ := GameRoomManager.exists_room seated
      by_cases inBoard : InBoard x y
      · obtain ⟨board, moved, ret, _, handled, _⟩ :=
          GameRoomManager.handChess_of_inBoard user seated held inBoard
        simp [handled, held, inBoard]
      · rw [GameRoomManager.handChess_of_outOfBoard seated held inBoard]
        simp [held, inBoard]

/-- A result of a game can be printed. -/
theorem printable_chessResult {json : JsonCpp} (literal : Literal json) (users : UserManager)
    (x y : Int) (win : Bool) (userId : UserId) :
    Printable json .CHESS_DOWN_ACK (chessResult users x y win userId) :=
  printable_of_texts literal _ (by simp [chessResult, texts, memberTexts])

theorem printable_moveResult {json : JsonCpp} (literal : Literal json) (x y : Int) :
    Printable json .CHESS_DOWN_ACK (moveResult x y) :=
  printable_of_texts literal _ (by simp [moveResult, texts, memberTexts])

/-- A won game is settled and both players are told, otherwise the other player is told. -/
theorem returns_afterMove {json : JsonCpp} (literal : Literal json) {server moved : Server}
    (same : moved.sent = server.sent) (conn : ConnId) (recvConn : Option ConnId) (x y : Int)
    (sendId recvId : UserId) (winOutcome loseOutcome : DbOutcome) (ret : Bool) :
    Returns (if ret then do
        let server ← moved.settle sendId recvId winOutcome loseOutcome
        let server := server.sendMsg conn .CHESS_DOWN_ACK
          (chessResult server.users x y true sendId)
        pure (server.sendMsg recvConn .CHESS_DOWN_ACK (chessResult server.users x y false recvId))
      else pure (moved.sendMsg recvConn .CHESS_DOWN_ACK (moveResult x y)) : Except Fault Server)
        (Clean json server) ↔
      (ret = true → winOutcome ≠ .noConnection ∧ loseOutcome ≠ .noConnection) := by
  cases ret with
  | false =>
      simp only [Bool.false_eq_true, if_false, false_imp_iff, iff_true, returns_pure]
      exact clean_answer same _ (printable_moveResult literal x y)
  | true =>
      simp only [if_true, forall_const, returns_bind]
      refine returns_settle fun settled quiet => returns_pure.mpr ?_
      exact clean_answers (quiet.trans same) _ _ (printable_chessResult literal _ x y true sendId)
        (printable_chessResult literal _ x y false recvId)

/-- A move wins if it makes a line of five in the room of the sender. -/
theorem handChess_true_iff {server : Server} {conn : ConnId} {x y : Int} {after : GameRoomManager}
    {ret : Bool}
    (called : server.rooms.handChess x y (server.users.getUserIdByConn conn) = .ok (after, ret)) :
    ret = true ↔ ∃ room, roomOf server conn = some room ∧
      room.MakesFive x y (server.users.getUserIdByConn conn) := by
  rw [GameRoomManager.handChess_true_iff called]
  simp only [roomOf, Option.bind_eq_some_iff]
  constructor
  · rintro ⟨ref, room, seated, held, five⟩
    exact ⟨room, ⟨ref, seated, held⟩, five⟩
  · rintro ⟨room, ⟨ref, seated, held⟩, five⟩
    exact ⟨ref, room, seated, held, five⟩

/-- A move needs the database only if it wins. -/
theorem returns_onChess {json : JsonCpp} (literal : Literal json) (server : Server)
    (conn : ConnId) (req : Json.Value) (winOutcome loseOutcome : DbOutcome) :
    Returns (server.onChess conn req winOutcome loseOutcome) (Clean json server) ↔
      HandlesSafely json server (.chess conn req winOutcome loseOutcome) := by
  simp only [onChess, returns_bind, returns_getMember, returns_asInt, returns_handChess]
  constructor
  · rintro ⟨record, intX, _, intY, onBoard, later⟩
    refine ⟨record, intX, intY, fun room seated => ⟨onBoard room seated, fun five => ?_⟩⟩
    have moves : Returns (server.rooms.handChess (req.member "x").toInt (req.member "y").toInt
        (server.users.getUserIdByConn conn)) fun _ => True :=
      returns_handChess.mpr ⟨onBoard, fun _ _ _ => trivial⟩
    obtain ⟨⟨after, ret⟩, called, _⟩ := moves
    refine (returns_afterMove literal ?_ _ _ _ _ _ _ _ _ _).mp (later after ret called)
      ((handChess_true_iff called).mpr ⟨room, seated, five⟩)
    rfl
  · rintro ⟨record, intX, intY, move⟩
    refine ⟨record, intX, record, intY, fun room seated => (move room seated).1,
      fun after ret called => ?_⟩
    refine (returns_afterMove literal ?_ _ _ _ _ _ _ _ _ _).mpr fun won => ?_
    · rfl
    · obtain ⟨room, seated, five⟩ := (handChess_true_iff called).mp won
      exact (move room seated).2 five

/-! ### Messages -/

/-- A step with its log calls returns if the step does and what it has sent can be printed. -/
theorem returns_stepAndLog {json : JsonCpp} {server : Server} {event : ServerEvent} :
    Returns (server.stepAndLog json event) (fun _ => True) ↔
      Returns (server.step event) (Clean json server) := by
  unfold Returns
  simp only [stepAndLog_eq_ok, and_true]
  rfl

/-- A handler of the table. -/
theorem returns_handler {json : JsonCpp} (literal : Literal json) (server : Server)
    {protocol : Int} {handler : ConnId → Json.Value → DbOutcomes → ServerEvent}
    (found : findHandler protocol = some handler) (conn : ConnId) (data : Json.Value)
    (outcomes : DbOutcomes) :
    Returns (server.stepAndLog json (handler conn data outcomes)) (fun _ => True) ↔
      HandlesSafely json server (handler conn data outcomes) := by
  rw [returns_stepAndLog]
  obtain ⟨entry, inside, rfl⟩ := Option.map_eq_some_iff.mp found
  have registered := List.mem_of_find?_eq_some inside
  simp only [handlers, List.mem_cons, List.not_mem_nil, or_false] at registered
  rcases registered with rfl | rfl | rfl | rfl | rfl | rfl | rfl
  · exact returns_onRegister literal server conn data outcomes.register
  · exact returns_onLogin literal server conn data outcomes.login
  · exact returns_onMatch literal server conn data
  · exact returns_onCancelMatch literal server conn data
  · exact returns_onChat server conn data
  · exact returns_onChess literal server conn data outcomes.win outcomes.lose
  · exact returns_onExitRoom server conn

/-- A message is handled without harm exactly if its body is well formed. -/
theorem returnsNormally_iff {json : JsonCpp} (literal : Literal json) (server : Server)
    (arrival : Arrival) :
    ReturnsNormally json server arrival ↔ WellFormed json server arrival := by
  cases arrival with
  | other event => exact Iff.rfl
  | message conn body outcomes =>
      simp only [ReturnsNormally, WellFormed, Server.receive, returns_bind]
      cases parsed : json.parse body with
      | error fault =>
          have thrown : (dispatcher json).handle body = .error fault :=
            ProtocolDispatcher.handle_of_thrown parsed
          simp [thrown]
      | ok answer =>
          cases answer with
          | none =>
              have refused : (dispatcher json).handle body = .ok none :=
                ProtocolDispatcher.handle_of_refused parsed
              simp [refused]
          | some root =>
              have read : (dispatcher json).parse body = .ok (some root) := parsed
              simp only [ProtocolDispatcher.returns_handle read, Except.ok.injEq, Option.some.injEq,
                exists_eq', true_and, forall_eq']
              refine and_congr_right fun record => and_congr_right fun int => ?_
              cases found : findHandler (root.member "protocol").toInt with
              | none => simp [ProtocolDispatcher.called, dispatcher, found]
              | some handler =>
                  simp [ProtocolDispatcher.called, dispatcher, found,
                    returns_handler literal server found]

/-- The bytes of a text. -/
def ascii (text : String) : List Byte := text.toList.map fun char => UInt8.ofNat char.toNat

/-- A request to chat. -/
def chat (message : String) : List Byte :=
  ascii ("\x7b\"protocol\":4001,\"data\":\x7b\"message\":\"" ++ message ++ "\"\x7d\x7d")

/-- The styled text of a chat, with the protocol number of the request or of the answer. -/
def styledChat (protocol message : String) : String :=
  "\x7b\n\t\"data\" : \n\t\x7b\n\t\t\"message\" : \"" ++ message ++
    "\"\n\t\x7d,\n\t\"protocol\" : " ++ protocol ++ "\n\x7d\n"

/-- JsonCpp on the body of a chat and on the answer to it. -/
def chatJson (message : String) : JsonCpp where
  parse _ := .ok (some (.object [("protocol", .int 4001),
    ("data", .object [("message", .string message)])]))
  receivedStyledString _ := styledChat "4001" message
  toStyledString _ := styledChat "4002" message

/-- JsonCpp on an array. -/
def arrayJson : JsonCpp where
  parse _ := .ok (some (.array []))
  receivedStyledString _ := "[]\n"
  toStyledString _ := "[]\n"

/-- A database that answers. -/
def answering : DbOutcomes := ⟨.failed, byName, .succeeded, .succeeded⟩

end GomukuServer.Proofs.MessageSafety
