/-
Module: GomukuServer.Proofs.MatchSender
Layer: Proofs
Purpose: Whom a match or cancel request acts for.  The handlers take the user from the body of the
  request, where the room handlers ask `getUserIdByConn`, so a request can move any user in or out
  of a queue; it stays with its sender exactly if it names its sender or is refused.
Trusted boundary: none
Main exports: OthersUntouched, ActsForSender, NamesSender, actsForSender_iff
-/
import GomukuServer.Module.GameServer

namespace GomukuServer.Proofs.MatchSender

open Base Base.Runs Model Manager Db Net
open GomukuServer.Module GomukuServer.Module.Server

/-- Nothing has changed but the messages sent. -/
def OnlySent (server next : Server) : Prop := ∃ sent, next = { server with sent := sent }

/-- Every user who is not logged in on the connection has the same record and stands in the queues
as often as before; if nobody is logged in there, nothing has changed. -/
structure OthersUntouched (server next : Server) (conn : ConnId) : Prop where
  others : ∀ user, server.users.conn2UserId.find? conn ≠ some user →
    next.users.userInfo user = server.users.userInfo user ∧
      next.pool.occurrences user = server.pool.occurrences user
  nobody : server.users.conn2UserId.find? conn = none → OnlySent server next

/-- A match or cancel request acts for its sender alone. -/
def ActsForSender (server : Server) (event : ServerEvent) : Prop :=
  match event with
  | .matchStart conn _ => ∀ next, server.step event = .ok next → OthersUntouched server next conn
  | .matchCancel conn _ => ∀ next, server.step event = .ok next → OthersUntouched server next conn
  | _ => True

/-- A match or cancel request names the user who is logged in on its connection, or a user who is
not in the state in which the request would be granted. -/
def NamesSender (server : Server) : ServerEvent → Prop
  | .matchStart conn req => ∀ user, requestedUser req = .ok user →
      server.users.conn2UserId.find? conn = some user ∨
        server.users.stateOf user ≠ some .online
  | .matchCancel conn req => ∀ user, requestedUser req = .ok user →
      server.users.conn2UserId.find? conn = some user ∨
        server.users.stateOf user ≠ some .matching
  | _ => True

/-- A request that sends an answer and no more touches nobody. -/
theorem othersUntouched_of_onlySent {server next : Server} (conn : ConnId)
    (same : OnlySent server next) : OthersUntouched server next conn := by
  obtain ⟨sent, rfl⟩ := same
  exact ⟨fun _ _ => ⟨rfl, rfl⟩, fun _ => ⟨sent, rfl⟩⟩

/-- A granted request changes the state of the user it names and the queues in that user alone.  The
others are untouched exactly if this user is the sender. -/
theorem othersUntouched_granted_iff {server next : Server} {conn : ConnId} {user : UserId}
    {ref : Ref} {info : UserInfo} {state : UserState}
    (found : server.users.userId2User.find? user = some ref)
    (current : server.users.userInfo user = some info) (changes : info.state ≠ state)
    (users : next.users = server.users.setState ref state)
    (queues : ∀ other, other ≠ user →
      next.pool.occurrences other = server.pool.occurrences other) :
    OthersUntouched server next conn ↔ server.users.conn2UserId.find? conn = some user := by
  constructor
  · intro untouched
    by_contra stranger
    have kept := (untouched.others user stranger).1
    rw [users, UserManager.userInfo_setState, if_pos found, current] at kept
    exact changes (congrArg UserInfo.state (Option.some.inj kept)).symm
  · intro sender
    refine ⟨fun other notSender => ?_, fun nobody => nomatch nobody.symm.trans sender⟩
    have different : other ≠ user := by
      rintro rfl
      exact notSender sender
    have notFound : server.users.userId2User.find? other ≠ some ref := fun otherFound =>
      different (UserManager.user_eq_of_ref otherFound found)
    refine ⟨?_, queues other different⟩
    rw [users, UserManager.userInfo_setState, if_neg notFound]

/-- What the two handlers have in common: a request for a user who is on line returns; it is granted
to a user in one state, who is moved to another state, and refused to all others. -/
structure MovesNamed (server : Server) (req : Json.Value) (granted moved : UserState)
    (called : Except Fault Server) : Prop where
  returns : ∀ {user info}, requestedUser req = .ok user → server.users.userInfo user = some info →
    ∃ next, called = .ok next
  moves : ∀ {next}, called = .ok next → ∃ user ref info, requestedUser req = .ok user ∧
    server.users.userId2User.find? user = some ref ∧ server.users.userInfo user = some info ∧
      ((info.state ≠ granted ∧ OnlySent server next) ∨
        (info.state = granted ∧ next.users = server.users.setState ref moved ∧
          ∀ other, other ≠ user →
            next.pool.occurrences other = server.pool.occurrences other))

/-- Such a request leaves the others untouched exactly if it names its sender or is refused. -/
theorem MovesNamed.othersUntouched_iff {server : Server} {req : Json.Value}
    {granted moved : UserState} {called : Except Fault Server}
    (handler : MovesNamed server req granted moved called) (different : granted ≠ moved)
    (conn : ConnId) :
    (∀ next, called = .ok next → OthersUntouched server next conn) ↔
      ∀ user, requestedUser req = .ok user →
        server.users.conn2UserId.find? conn = some user ∨
          server.users.stateOf user ≠ some granted := by
  constructor
  · intro untouched user requested
    by_cases ready : server.users.stateOf user = some granted
    · obtain ⟨info, current, state⟩ := Option.map_eq_some_iff.mp ready
      obtain ⟨next, returned⟩ := handler.returns requested current
      obtain ⟨other, ref, otherInfo, otherRequested, found, otherCurrent, outcome⟩ :=
        handler.moves returned
      obtain rfl := Except.ok.inj (requested.symm.trans otherRequested)
      obtain rfl := Option.some.inj (current.symm.trans otherCurrent)
      rcases outcome with ⟨refused, _⟩ | ⟨_, users, queues⟩
      · exact absurd state refused
      · have changes : info.state ≠ moved := state ▸ different
        exact Or.inl ((othersUntouched_granted_iff found current changes users queues).mp
          (untouched next returned))
    · exact Or.inr ready
  · intro names next returned
    obtain ⟨user, ref, info, requested, found, current, outcome⟩ := handler.moves returned
    rcases outcome with ⟨_, onlySent⟩ | ⟨state, users, queues⟩
    · exact othersUntouched_of_onlySent conn onlySent
    · have changes : info.state ≠ moved := state ▸ different
      refine (othersUntouched_granted_iff found current changes users queues).mpr ?_
      refine (names user requested).resolve_right fun other => other ?_
      rw [UserManager.stateOf, current, Option.map_some, state]

/-- `onMatch` moves an idle user into a queue. -/
theorem movesNamed_onMatch (server : Server) (conn : ConnId) (req : Json.Value) :
    MovesNamed server req .online .matching (server.onMatch conn req) where
  returns := exists_onMatch conn
  moves := by
    intro next called
    obtain ⟨user, after, ret, sent, requested, added, rfl⟩ := onMatch_ok called
    obtain ⟨ref, info, found, current, outcome⟩ := addUser_ok added
    refine ⟨user, ref, info, requested, found, current, ?_⟩
    rcases outcome with ⟨busy, rfl⟩ | ⟨idle, rfl⟩
    · exact Or.inl ⟨busy, sent, rfl⟩
    · refine Or.inr ⟨idle, rfl, fun other different => ?_⟩
      dsimp only
      rw [MatchPool.occurrences_pushBack, if_neg different, Nat.add_zero]

/-- `onCancelMatch` moves a waiting user out of a queue. -/
theorem movesNamed_onCancelMatch (server : Server) (conn : ConnId) (req : Json.Value) :
    MovesNamed server req .matching .online (server.onCancelMatch conn req) where
  returns := exists_onCancelMatch conn
  moves := by
    intro next called
    obtain ⟨user, after, ret, sent, requested, removed, rfl⟩ := onCancelMatch_ok called
    obtain ⟨ref, info, found, current, outcome⟩ := removeUser_ok removed
    refine ⟨user, ref, info, requested, found, current, ?_⟩
    rcases outcome with ⟨busy, rfl⟩ | ⟨waiting, rfl⟩
    · exact Or.inl ⟨busy, sent, rfl⟩
    · refine Or.inr ⟨waiting, rfl, fun other different => ?_⟩
      dsimp only
      rw [MatchPool.occurrences_remove, if_neg different, Nat.sub_zero]

theorem actsForSender_iff (server : Server) (event : ServerEvent) :
    ActsForSender server event ↔ NamesSender server event := by
  cases event with
  | matchStart conn req =>
      exact (movesNamed_onMatch server conn req).othersUntouched_iff (by decide) conn
  | matchCancel conn req =>
      exact (movesNamed_onCancelMatch server conn req).othersUntouched_iff (by decide) conn
  | _ => exact Iff.rfl

/-- In every history of the server, from any table of users, all match and cancel requests act for
their senders alone exactly if every one of them names its sender or is refused. -/
theorem matchRequests_actForSender_iff (db : UserDB) (events : List ServerEvent) :
    Admissible Server.step ActsForSender (Server.new db) events ↔
      Admissible Server.step NamesSender (Server.new db) events :=
  admissible_congr actsForSender_iff (Server.new db) events

/-- Ann asks that Bob be matched: Bob, on the other connection, waits in a queue now. -/
theorem not_actForSender_namingBob :
    ¬ Admissible Server.step ActsForSender (Server.new annAndBob)
      (enter 10 "ann" ++ enter 11 "bob" ++ [startMatch 10 2]) := by
  intro acts
  have seen : (run Server.step (Server.new annAndBob)
      (enter 10 "ann" ++ enter 11 "bob")).toOption.bind
        (fun server => (server.step (startMatch 10 2)).toOption.map fun next =>
          (server.users.conn2UserId.find? 10, server.pool.occurrences 2,
            next.pool.occurrences 2)) = some (some 1, 0, 1) := by
    decide +kernel
  cases reached : run Server.step (Server.new annAndBob) (enter 10 "ann" ++ enter 11 "bob") with
  | error fault => simp [reached, Except.toOption] at seen
  | ok server =>
      cases stepEq : server.step (startMatch 10 2) with
      | error fault => simp [reached, stepEq, Except.toOption] at seen
      | ok next =>
          simp only [reached, stepEq, Except.toOption, Option.bind_some, Option.map_some,
            Option.some.injEq, Prod.mk.injEq] at seen
          obtain ⟨ann, before, after⟩ := seen
          have guard := acts.guard_of_run reached
          have untouched : OthersUntouched server next 10 := guard next stepEq
          have kept := (untouched.others 2 (by rw [ann]; simp)).2
          omega

end GomukuServer.Proofs.MatchSender
