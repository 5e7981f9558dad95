/-
Module: GomukuServer.Proofs.RefusedRequests
Layer: Proofs
Purpose: What a match or cancel request does to the queues and the users.  The test of `addUser` and
  `removeUser` asks for a user who exists and is in another state, so it lets a user through who
  does not exist; every other request is granted or refused as it should be.
Trusted boundary: none
Main exports: Refused, Granted, Answered, RequestAnswered, NamesOnline, requestAnswered_iff,
  not_requestAnswered_unknown
-/
import GomukuServer.Module.GameServer

namespace GomukuServer.Proofs.RefusedRequests

open Base Base.Runs Model Manager Db Net
open GomukuServer.Module GomukuServer.Module.Server

/-- The call returns false and has changed nothing. -/
def Refused (server : Server) (called : Except Fault (Server × Bool)) : Prop :=
  called = .ok (server, false)

/-- The call returns true, and it has changed the state of the user and, in one queue, the places of
the user. -/
def Granted (server : Server) (userId : UserId) (state : UserState)
    (called : Except Fault (Server × Bool)) : Prop :=
  ∃ pool, called = .ok ({ server with
      pool := pool, users := server.users.setUserState userId state }, true) ∧
    ∃ i, (∀ j, j ≠ i → pool.queues j = server.pool.queues j) ∧
      (pool.queues i).filter (· ≠ userId) = (server.pool.queues i).filter (· ≠ userId)

/-- A request is granted to a user who is in the state for it, and refused to every other id. -/
def Answered (server : Server) (userId : UserId) (granted moved : UserState)
    (called : Except Fault (Server × Bool)) : Prop :=
  if server.users.stateOf userId = some granted then Granted server userId moved called
  else Refused server called

/-- A match or cancel request is answered as its user's state demands. -/
def RequestAnswered (server : Server) : ServerEvent → Prop
  | .matchStart _ req => ∀ userId, requestedUser req = .ok userId →
      Answered server userId .online .matching (server.addUser userId)
  | .matchCancel _ req => ∀ userId, requestedUser req = .ok userId →
      Answered server userId .matching .online (server.removeUser userId)
  | _ => True

/-- A match or cancel request names a user who is online. -/
def NamesOnline (server : Server) : ServerEvent → Prop
  | .matchStart _ req => ∀ userId, requestedUser req = .ok userId →
      (server.users.userInfo userId).isSome = true
  | .matchCancel _ req => ∀ userId, requestedUser req = .ok userId →
      (server.users.userInfo userId).isSome = true
  | _ => True

/-- Joining a queue moves nobody else. -/
theorem granted_pushBack (server : Server) (i : Fin 3) (userId : UserId) (state : UserState) :
    Granted server userId state (.ok ({ server with
      pool := server.pool.pushBack i userId
      users := server.users.setUserState userId state }, true)) := by
  refine ⟨_, rfl, i, fun j other => ?_, ?_⟩
  · simp [MatchPool.pushBack, other]
  · simp [MatchPool.pushBack]

/-- Leaving a queue moves nobody else. -/
theorem granted_remove (server : Server) (i : Fin 3) (userId : UserId) (state : UserState) :
    Granted server userId state (.ok ({ server with
      pool := server.pool.remove i userId
      users := server.users.setUserState userId state }, true)) := by
  refine ⟨_, rfl, i, fun j other => ?_, ?_⟩
  · simp [MatchPool.remove, other]
  · simp [MatchPool.remove]

/-- A user who is not online is let through to the null pointer. -/
theorem not_answered_offline {server : Server} {userId : UserId} {granted moved : UserState}
    {fault : Fault} (offline : server.users.userInfo userId = none) :
    ¬ Answered server userId granted moved (.error fault) := by
  simp [Answered, UserManager.stateOf, offline, Refused]

/-- `addUser` answers as it should exactly if the user is online. -/
theorem answered_addUser_iff (server : Server) (userId : UserId) :
    Answered server userId .online .matching (server.addUser userId) ↔
      (server.users.userInfo userId).isSome = true := by
  cases current : server.users.userInfo userId with
  | none => simp [addUser_offline current, not_answered_offline current]
  | some info =>
      rw [addUser_online current, Answered, UserManager.stateOf, current]
      simp only [Option.map_some, Option.some.injEq, Option.isSome_some, iff_true]
      by_cases idle : info.state = .online
      · rw [if_pos idle, if_pos idle]
        exact granted_pushBack server _ userId .matching
      · rw [if_neg idle, if_neg idle]
        exact rfl

/-- `removeUser` answers as it should exactly if the user is online. -/
theorem answered_removeUser_iff (server : Server) (userId : UserId) :
    Answered server userId .matching .online (server.removeUser userId) ↔
      (server.users.userInfo userId).isSome = true := by
  cases current : server.users.userInfo userId with
  | none => simp [removeUser_offline current, not_answered_offline current]
  | some info =>
      rw [removeUser_online current, Answered, UserManager.stateOf, current]
      simp only [Option.map_some, Option.some.injEq, Option.isSome_some, iff_true]
      by_cases waiting : info.state = .matching
      · rw [if_pos waiting, if_pos waiting]
        exact granted_remove server _ userId .online
      · rw [if_neg waiting, if_neg waiting]
        exact rfl

theorem requestAnswered_iff_namesOnline (server : Server) (event : ServerEvent) :
    RequestAnswered server event ↔ NamesOnline server event := by
  cases event with
  | matchStart =>
      exact forall_congr' fun userId => imp_congr_right fun _ => answered_addUser_iff server userId
  | matchCancel =>
      exact forall_congr' fun userId =>
        imp_congr_right fun _ => answered_removeUser_iff server userId
  | _ => exact Iff.rfl

/-- In every run of the server, every match and cancel request is granted or refused as the state of
the user it names demands, and changes nothing else, if and only if every one of them names a user
who is online. -/
theorem requestAnswered_iff (db : UserDB) (events : List ServerEvent) :
    Admissible Server.step RequestAnswered (Server.new db) events ↔
      Admissible Server.step NamesOnline (Server.new db) events :=
  admissible_congr requestAnswered_iff_namesOnline (Server.new db) events

/-- A request for user 7, whom nobody knows, follows a null pointer. -/
theorem not_requestAnswered_unknown :
    ¬ Admissible Server.step RequestAnswered (Server.new annAndBob)
      [.connect 10, startMatch 10 7] := by
  rintro ⟨_, later⟩
  obtain ⟨answered, _⟩ := later _ rfl
  have unknown : ((Server.new annAndBob).onConnect 10).users.userInfo 7 = none := rfl
  have refused := answered 7 rfl
  rw [addUser_offline unknown] at refused
  exact not_answered_offline unknown refused

end GomukuServer.Proofs.RefusedRequests
