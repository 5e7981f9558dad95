/-
Module: GomukuServer.Module.Server
Layer: Module
Purpose: The singletons the handlers share, as one state, and `ConnManager::sendMsg`.  A message
  that is handed to a connection is recorded, since nothing on the server remembers it.
Trusted boundary: connections take every message; the log calls of `sendMsg` are in
  `Module.Dispatch`
Main exports: ProtocolId, MatchPool, Server, sendMsg
-/
import GomukuServer.Db.UserDB
import GomukuServer.Manager.GameRoomManager
import GomukuServer.Net.Json

namespace GomukuServer.Module

open Base Model Manager Db Net

/-- `ProtocolId`. -/
inductive ProtocolId where
  | ACK
  | REGISTER_REQ
  | REGISTER_ACK
  | LOGIN_REQ
  | LOGIN_ACK
  | MATCH_START_REQ
  | MATCH_START_ACK
  | MATCH_CANCEL_REQ
  | MATCH_CANCEL_ACK
  | MATCH_PUSH
  | CHESS_DOWN_REQ
  | CHESS_DOWN_ACK
  | EXIT_ROOM_REQ
  | EXIT_ROOM_ACK
  | GAME_CHAT_REQ
  | GAME_CHAT_ACK
deriving DecidableEq, Repr

/-- The number of a protocol. -/
def ProtocolId.code : ProtocolId → Int
  | .ACK => 0
  | .REGISTER_REQ => 1001
  | .REGISTER_ACK => 1002
  | .LOGIN_REQ => 1003
  | .LOGIN_ACK => 1004
  | .MATCH_START_REQ => 2001
  | .MATCH_START_ACK => 2002
  | .MATCH_CANCEL_REQ => 2003
  | .MATCH_CANCEL_ACK => 2004
  | .MATCH_PUSH => 2006
  | .CHESS_DOWN_REQ => 3001
  | .CHESS_DOWN_ACK => 3002
  | .EXIT_ROOM_REQ => 3003
  | .EXIT_ROOM_ACK => 3004
  | .GAME_CHAT_REQ => 4001
  | .GAME_CHAT_ACK => 4002

/-- The queues of `MatchPool`, one for each band of points. -/
structure MatchPool where
  queues : Fin 3 → List UserId

namespace MatchPool

/-- The constructor: three empty queues. -/
def new : MatchPool := ⟨fun _ => []⟩

/-- The queue a user with these points waits in. -/
def band (points : UInt32) : Fin 3 :=
  if points < 2000 then 0 else if points < 4000 then 1 else 2

/-- `push_back` on one queue. -/
def pushBack (pool : MatchPool) (i : Fin 3) (userId : UserId) : MatchPool :=
  ⟨Function.update pool.queues i (pool.queues i ++ [userId])⟩

/-- `remove` on one queue: every element equal to the id goes. -/
def remove (pool : MatchPool) (i : Fin 3) (userId : UserId) : MatchPool :=
  ⟨Function.update pool.queues i ((pool.queues i).filter (· ≠ userId))⟩

/-- The queue after `pop_front`. -/
def popped (pool : MatchPool) (i : Fin 3) (rest : List UserId) : MatchPool :=
  ⟨Function.update pool.queues i rest⟩

/-- How often an id occurs over the three queues. -/
def occurrences (pool : MatchPool) (userId : UserId) : Nat :=
  (pool.queues 0).count userId + (pool.queues 1).count userId + (pool.queues 2).count userId

/-- What one queue contributes. -/
theorem count_le_occurrences (pool : MatchPool) (i : Fin 3) (userId : UserId) :
    (pool.queues i).count userId ≤ pool.occurrences userId := by
  unfold occurrences
  match i with
  | 0 | 1 | 2 => omega

/-- An id waits if one of the queues has it. -/
theorem occurrences_pos {pool : MatchPool} {userId : UserId} :
    0 < pool.occurrences userId ↔ ∃ i, userId ∈ pool.queues i := by
  constructor
  · intro waits
    by_contra absent
    push Not at absent
    simp [occurrences, List.count_eq_zero_of_not_mem (absent _)] at waits
  · rintro ⟨i, inside⟩
    exact Nat.lt_of_lt_of_le (List.count_pos_iff.mpr inside) (count_le_occurrences pool i userId)

/-- Replacing one queue replaces its contribution. -/
theorem occurrences_update (pool : MatchPool) (i : Fin 3) (queue : List UserId)
    (userId : UserId) :
    occurrences ⟨Function.update pool.queues i queue⟩ userId + (pool.queues i).count userId =
      pool.occurrences userId + queue.count userId := by
  unfold occurrences
  match i with
  | 0 | 1 | 2 =>
    simp [Function.update]
    omega

/-- Who waits after a `push_back`. -/
theorem mem_pushBack {pool : MatchPool} {i j : Fin 3} {added userId : UserId} :
    userId ∈ (pool.pushBack i added).queues j ↔
      userId ∈ pool.queues j ∨ (j = i ∧ userId = added) := by
  by_cases same : j = i
  · subst same
    simp [MatchPool.pushBack]
  · simp [MatchPool.pushBack, same]

/-- Who waits after a `remove`. -/
theorem mem_remove {pool : MatchPool} {i j : Fin 3} {removed userId : UserId} :
    userId ∈ (pool.remove i removed).queues j ↔
      userId ∈ pool.queues j ∧ ¬ (j = i ∧ userId = removed) := by
  by_cases same : j = i
  · subst same
    simp [MatchPool.remove]
  · simp [MatchPool.remove, same]

/-- The queues after the first two of one have been taken out. -/
theorem queues_popped (pool : MatchPool) (i j : Fin 3) (rest : List UserId) :
    (pool.popped i rest).queues j = if j = i then rest else pool.queues j := by
  simp only [MatchPool.popped, Function.update_apply]

theorem occurrences_pushBack (pool : MatchPool) (i : Fin 3) (added userId : UserId) :
    (pool.pushBack i added).occurrences userId =
      pool.occurrences userId + if userId = added then 1 else 0 := by
  have updated := occurrences_update pool i (pool.queues i ++ [added]) userId
  rw [List.count_append, List.count_singleton] at updated
  unfold MatchPool.pushBack
  by_cases same : userId = added
  · subst same
    simp only [beq_self_eq_true, if_true] at updated ⊢
    omega
  · simp only [beq_iff_eq, Ne.symm same, if_false, same] at updated ⊢
    omega

theorem occurrences_remove (pool : MatchPool) (i : Fin 3) (removed userId : UserId) :
    (pool.remove i removed).occurrences userId =
      pool.occurrences userId - if userId = removed then (pool.queues i).count userId else 0 := by
  have updated := occurrences_update pool i ((pool.queues i).filter (· ≠ removed)) userId
  have part := count_le_occurrences pool i userId
  unfold MatchPool.remove
  by_cases same : userId = removed
  · subst same
    have gone : ((pool.queues i).filter (· ≠ userId)).count userId = 0 :=
      List.count_eq_zero_of_not_mem (by simp)
    simp only [if_true]
    omega
  · have kept : ((pool.queues i).filter (· ≠ removed)).count userId =
        (pool.queues i).count userId := List.count_filter (by simpa using same)
    simp only [same, if_false]
    omega

theorem occurrences_popped {pool : MatchPool} {i : Fin 3} {first second : UserId}
    {rest : List UserId} (queued : pool.queues i = first :: second :: rest) (userId : UserId) :
    pool.occurrences userId = (pool.popped i rest).occurrences userId +
      (if first = userId then 1 else 0) + if second = userId then 1 else 0 := by
  have updated := occurrences_update pool i rest userId
  rw [queued, List.count_cons, List.count_cons] at updated
  unfold MatchPool.popped
  simp only [beq_iff_eq] at updated
  omega

end MatchPool

/-- A message that has been handed to a connection. -/
structure Sent where
  conn : ConnId
  protocol : ProtocolId
  data : Json.Value

/-- The singletons, and the messages sent so far. -/
structure Server where
  conns : ConnManager
  users : UserManager
  rooms : GameRoomManager
  pool : MatchPool
  db : UserDB
  sent : List Sent

namespace Server

/-- The server before the first connection, on a given table of users. -/
def new (db : UserDB) : Server where
  conns := ConnManager.new
  users := UserManager.new
  rooms := GameRoomManager.new
  pool := MatchPool.new
  db := db
  sent := []

/-- `sendMsg`: only a connection that is up gets the message. -/
def sendMsg (server : Server) (conn : Option ConnId) (protocol : ProtocolId) (data : Json.Value) :
    Server :=
  match conn with
  | none => server
  | some conn =>
      if server.conns.isConnValid (some conn) then
        { server with sent := server.sent ++ [⟨conn, protocol, data⟩] }
      else server

/-- `sendMsg` changes nothing but the record of messages, which grows by one message if the
connection is up. -/
theorem sendMsg_eq (server : Server) (conn : Option ConnId) (protocol : ProtocolId)
    (data : Json.Value) :
    ∃ more, server.sendMsg conn protocol data = { server with sent := server.sent ++ more } ∧
      ∀ peer, peer ∈ more.map Sent.conn ↔ peer ∈ server.conns.conns ∧ conn = some peer := by
  cases conn with
  | none => exact ⟨[], by simp [sendMsg]⟩
  | some conn =>
      by_cases up : conn ∈ server.conns.conns
      · refine ⟨[⟨conn, protocol, data⟩], by simp [sendMsg, ConnManager.isConnValid, up], ?_⟩
        intro peer
        simp only [List.map_cons, List.map_nil, List.mem_singleton, Option.some.injEq]
        constructor
        · rintro rfl
          exact ⟨up, rfl⟩
        · rintro ⟨_, same⟩
          exact same.symm
      · refine ⟨[], by simp [sendMsg, ConnManager.isConnValid, up], ?_⟩
        intro peer
        simp only [List.map_nil, List.not_mem_nil, Option.some.injEq, false_iff, not_and]
        rintro inside rfl
        exact up inside

/-- What `sendMsg` adds to the record of messages for a connection. -/
theorem sendMsg_some (server : Server) (conn : ConnId) (protocol : ProtocolId)
    (data : Json.Value) :
    server.sendMsg (some conn) protocol data = { server with sent := server.sent ++
      if conn ∈ server.conns.conns then [⟨conn, protocol, data⟩] else [] } := by
  by_cases up : conn ∈ server.conns.conns <;> simp [sendMsg, ConnManager.isConnValid, up]

@[simp] theorem conns_sendMsg (server : Server) (conn : Option ConnId) (protocol : ProtocolId)
    (data : Json.Value) : (server.sendMsg conn protocol data).conns = server.conns := by
  obtain ⟨_, same, _⟩ := server.sendMsg_eq conn protocol data
  rw [same]

@[simp] theorem users_sendMsg (server : Server) (conn : Option ConnId) (protocol : ProtocolId)
    (data : Json.Value) : (server.sendMsg conn protocol data).users = server.users := by
  obtain ⟨_, same, _⟩ := server.sendMsg_eq conn protocol data
  rw [same]

@[simp] theorem rooms_sendMsg (server : Server) (conn : Option ConnId) (protocol : ProtocolId)
    (data : Json.Value) : (server.sendMsg conn protocol data).rooms = server.rooms := by
  obtain ⟨_, same, _⟩ := server.sendMsg_eq conn protocol data
  rw [same]

@[simp] theorem pool_sendMsg (server : Server) (conn : Option ConnId) (protocol : ProtocolId)
    (data : Json.Value) : (server.sendMsg conn protocol data).pool = server.pool := by
  obtain ⟨_, same, _⟩ := server.sendMsg_eq conn protocol data
  rw [same]

@[simp] theorem db_sendMsg (server : Server) (conn : Option ConnId) (protocol : ProtocolId)
    (data : Json.Value) : (server.sendMsg conn protocol data).db = server.db := by
  obtain ⟨_, same, _⟩ := server.sendMsg_eq conn protocol data
  rw [same]

end Server

end GomukuServer.Module
