/-
Module: GomukuServer.Proofs.AbsentPlayers
Layer: Proofs
Purpose: What a turn of the match thread does with a pair of which a player may be gone.  The part
  for an absent player does not leave the loop body, so the part for two present ones follows, with
  the null pointer of the absent player.  A pair is treated as it should be exactly if both players
  are there, each on a connection of its own.
Trusted boundary: none
Main exports: ToldOnce, TurnedAway, BroughtTogether, PairTreated, BothThere, pairTreated_iff,
  not_pairTreated_absent
-/
import GomukuServer.Module.GameServer

namespace GomukuServer.Proofs.AbsentPlayers

open Base Base.Runs Model Manager Db Net
open GomukuServer.Module GomukuServer.Module.Server

/-- The connection has been sent exactly one message, a `MATCH_PUSH` that reports success or
failure. -/
def ToldOnce (server next : Server) (conn : ConnId) (success : Bool) : Prop :=
  ∃ message, (next.sent.drop server.sent.length).filter (·.conn = conn) = [message] ∧
    message.protocol = .MATCH_PUSH ∧ message.data.member "success" = .bool success

/-- No room has been opened, and each of the two who is online is idle and has been told of the
failure. -/
def TurnedAway (server next : Server) (userId1 userId2 : UserId) : Prop :=
  next.rooms = server.rooms ∧ ∀ userId, userId = userId1 ∨ userId = userId2 →
    ∀ conn, server.users.getConnByUserId userId = some conn →
      next.users.stateOf userId = some .online ∧ ToldOnce server next conn false

/-- One room has been opened, for the two, and each of them plays and has been told so. -/
def BroughtTogether (server next : Server) (roomCount : UInt32) (userId1 userId2 : UserId) :
    Prop :=
  next.rooms = server.rooms.createRoom roomCount userId1 userId2 ∧
    ∀ userId, userId = userId1 ∨ userId = userId2 →
      next.users.stateOf userId = some .gaming ∧
        ∀ conn, server.users.getConnByUserId userId = some conn → ToldOnce server next conn true

/-- The pair that a turn of the match thread takes out of a queue is brought together if both are
online, and turned away otherwise, without a fault. -/
def PairTreated (server : Server) : ServerEvent → Prop
  | .matchQueue i roomCount => ∀ userId1 userId2 rest,
      server.pool.queues i = userId1 :: userId2 :: rest →
      ∃ next, server.matchQueue i roomCount = .ok next ∧
        if (server.users.getConnByUserId userId1).isSome ∧
            (server.users.getConnByUserId userId2).isSome then
          BroughtTogether server next roomCount userId1 userId2
        else TurnedAway server next userId1 userId2
  | _ => True

/-- Both users have a connection, two different ones that are up and that lead back to online users;
the two are among these, or play already. -/
def BothThere (server : Server) (userId1 userId2 : UserId) : Prop :=
  ∃ conn1 conn2 ref1 ref2,
    server.users.getConnByUserId userId1 = some conn1 ∧
    server.users.getConnByUserId userId2 = some conn2 ∧
    conn1 ≠ conn2 ∧ conn1 ∈ server.conns.conns ∧ conn2 ∈ server.conns.conns ∧
    server.users.getUserByconn (some conn1) = some ref1 ∧
    server.users.getUserByconn (some conn2) = some ref2 ∧
    ∀ userId, userId = userId1 ∨ userId = userId2 →
      server.users.getUserByUserId userId = some ref1 ∨
        server.users.getUserByUserId userId = some ref2 ∨
        server.users.stateOf userId = some .gaming

/-- The two users at the front of the queue are there. -/
def PairThere (server : Server) : ServerEvent → Prop
  | .matchQueue i _ => ∀ userId1 userId2 rest,
      server.pool.queues i = userId1 :: userId2 :: rest → BothThere server userId1 userId2
  | _ => True

/-- Who plays after two states have been set through pointers. -/
theorem gaming_iff (users : UserManager) (ref1 ref2 : Ref) (userId : UserId) :
    ((users.setState ref1 .gaming).setState ref2 .gaming).stateOf userId = some .gaming ↔
      users.getUserByUserId userId = some ref1 ∨ users.getUserByUserId userId = some ref2 ∨
        users.stateOf userId = some .gaming := by
  simp only [UserManager.stateOf_setState, UserManager.userId2User_setState,
    UserManager.getUserByUserId]
  split
  · simp [*]
  · split <;> simp [*]

/-- Two messages of success to two connections tell each of them once exactly if the connections are
different and up. -/
theorem toldOnce_iff {server next : Server} {conn1 conn2 : ConnId}
    (sent : next.sent = server.sent ++
      (if conn1 ∈ server.conns.conns then [⟨conn1, .MATCH_PUSH, matchedResult 1⟩] else []) ++
      if conn2 ∈ server.conns.conns then [⟨conn2, .MATCH_PUSH, matchedResult 2⟩] else []) :
    ToldOnce server next conn1 true ∧ ToldOnce server next conn2 true ↔
      conn1 ≠ conn2 ∧ conn1 ∈ server.conns.conns ∧ conn2 ∈ server.conns.conns := by
  simp only [ToldOnce, sent, List.append_assoc, List.drop_left]
  have reports (color : Int) : (matchedResult color).member "success" = .bool true := rfl
  by_cases up1 : conn1 ∈ server.conns.conns
  · by_cases up2 : conn2 ∈ server.conns.conns
    · by_cases same : conn1 = conn2
      · simp [up2, same]
      · simp [up1, up2, same, Ne.symm same, reports]
    · simp only [up1, up2, if_true, if_false, List.append_nil, and_false, iff_false]
      rintro ⟨_, message, two, _⟩
      by_cases same : conn1 = conn2
      · exact up2 (same ▸ up1)
      · simp [same] at two
  · simp only [up1, if_false, List.nil_append, false_and, and_false, iff_false]
    rintro ⟨⟨message, one, _⟩, _⟩
    split at one
    · rename_i up2
      have different : ¬ conn2 = conn1 := by
        rintro rfl
        exact up1 up2
      simp [different] at one
    · simp at one

/-- A turn that returns has found both connections. -/
theorem online_of_matchQueue {server next : Server} {i : Fin 3} {userId1 userId2 : UserId}
    {rest : List UserId} {roomCount : UInt32}
    (queued : server.pool.queues i = userId1 :: userId2 :: rest)
    (called : server.matchQueue i roomCount = .ok next) :
    ∃ conn1 conn2 ref1 ref2, server.users.getConnByUserId userId1 = some conn1 ∧
      server.users.getConnByUserId userId2 = some conn2 ∧
      server.users.getUserByconn (some conn1) = some ref1 ∧
      server.users.getUserByconn (some conn2) = some ref2 := by
  rcases matchQueue_ok called with
    ⟨short, _⟩ | ⟨_, _, _, conn1, conn2, ref1, ref2, _, same, online1, online2, user1, user2, _⟩
  · rw [queued, List.length_cons, List.length_cons] at short
    omega
  · rw [queued, List.cons.injEq, List.cons.injEq] at same
    obtain ⟨rfl, rfl, _⟩ := same
    exact ⟨conn1, conn2, ref1, ref2, online1, online2, user1, user2⟩

/-- Two users with connections that lead back to records are brought together exactly if they are
there. -/
theorem broughtTogether_iff {server next : Server} {i : Fin 3} {userId1 userId2 : UserId}
    {rest : List UserId} {conn1 conn2 : ConnId} {ref1 ref2 : Ref} {roomCount : UInt32}
    (queued : server.pool.queues i = userId1 :: userId2 :: rest)
    (online1 : server.users.getConnByUserId userId1 = some conn1)
    (online2 : server.users.getConnByUserId userId2 = some conn2)
    (user1 : server.users.getUserByconn (some conn1) = some ref1)
    (user2 : server.users.getUserByconn (some conn2) = some ref2)
    (called : server.matchQueue i roomCount = .ok next) :
    BroughtTogether server next roomCount userId1 userId2 ↔
      BothThere server userId1 userId2 := by
  have done := matchQueue_online roomCount queued online1 online2 user1 user2
  have same := Except.ok.inj (done.symm.trans called)
  have told := toldOnce_iff (congrArg Server.sent same).symm
  have users : next.users = (server.users.setState ref1 .gaming).setState ref2 .gaming :=
    (congrArg Server.users same).symm
  constructor
  · rintro ⟨_, both⟩
    obtain ⟨different, up1, up2⟩ := told.mp
      ⟨(both userId1 (.inl rfl)).2 conn1 online1, (both userId2 (.inr rfl)).2 conn2 online2⟩
    refine ⟨conn1, conn2, ref1, ref2, online1, online2, different, up1, up2, user1, user2, ?_⟩
    intro userId named
    have gaming := (both userId named).1
    rw [users] at gaming
    exact (gaming_iff server.users ref1 ref2 userId).mp gaming
  · rintro ⟨conn1', conn2', ref1', ref2', online1', online2', different, up1, up2, user1', user2',
      found⟩
    obtain rfl := Option.some.inj (online1.symm.trans online1')
    obtain rfl := Option.some.inj (online2.symm.trans online2')
    obtain rfl := Option.some.inj (user1.symm.trans user1')
    obtain rfl := Option.some.inj (user2.symm.trans user2')
    obtain ⟨told1, told2⟩ := told.mpr ⟨different, up1, up2⟩
    refine ⟨(congrArg Server.rooms same).symm, fun userId named => ⟨?_, fun conn online => ?_⟩⟩
    · rw [users]
      exact (gaming_iff server.users ref1 ref2 userId).mpr (found userId named)
    · rcases named with rfl | rfl
      · obtain rfl := Option.some.inj (online1.symm.trans online)
        exact told1
      · obtain rfl := Option.some.inj (online2.symm.trans online)
        exact told2

/-- A pair is treated as it should be exactly if both users are there. -/
theorem pairTreated_matchQueue_iff (server : Server) (i : Fin 3) (roomCount : UInt32) :
    PairTreated server (.matchQueue i roomCount) ↔ PairThere server (.matchQueue i roomCount) := by
  refine forall_congr' fun userId1 => forall_congr' fun userId2 => forall_congr' fun rest =>
    imp_congr_right fun queued => ?_
  constructor
  · rintro ⟨next, called, treated⟩
    obtain ⟨conn1, conn2, ref1, ref2, online1, online2, user1, user2⟩ :=
      online_of_matchQueue queued called
    rw [if_pos (by simp [online1, online2])] at treated
    exact (broughtTogether_iff queued online1 online2 user1 user2 called).mp treated
  · intro there
    have ⟨conn1, conn2, ref1, ref2, online1, online2, _, _, _, user1, user2, _⟩ := there
    have called := matchQueue_online roomCount queued online1 online2 user1 user2
    refine ⟨_, called, ?_⟩
    rw [if_pos (by simp [online1, online2])]
    exact (broughtTogether_iff queued online1 online2 user1 user2 called).mpr there

theorem pairTreated_iff_pairThere (server : Server) (event : ServerEvent) :
    PairTreated server event ↔ PairThere server event := by
  cases event with
  | matchQueue i roomCount => exact pairTreated_matchQueue_iff server i roomCount
  | _ => exact Iff.rfl

/-- In every run of the server, every pair the match thread takes out of a queue is treated as its
presence demands if and only if both users of every pair are there. -/
theorem pairTreated_iff (db : UserDB) (events : List ServerEvent) :
    Admissible Server.step PairTreated (Server.new db) events ↔
      Admissible Server.step PairThere (Server.new db) events :=
  admissible_congr pairTreated_iff_pairThere (Server.new db) events

/-- Ann and Bob wait, and Bob's connection goes down. -/
def bobIsGone : List ServerEvent :=
  enter 10 "ann" ++ enter 11 "bob" ++ [startMatch 10 1, startMatch 11 2, .disconnect 11 11]

/-- The turn of the match thread follows a null pointer instead of telling Ann. -/
theorem not_pairTreated_absent :
    ¬ Admissible Server.step PairTreated (Server.new annAndBob)
      (bobIsGone ++ [.matchQueue (MatchPool.band 1000) 2]) := by
  intro treated
  have seen : (run Server.step (Server.new annAndBob) bobIsGone).toOption.map
      (fun server => (server.pool.queues (MatchPool.band 1000),
        server.users.getConnByUserId 2)) = some ([1, 2], none) := by
    decide +kernel
  cases reached : run Server.step (Server.new annAndBob) bobIsGone with
  | error fault => simp [reached, Except.toOption] at seen
  | ok server =>
      simp only [reached, Except.toOption, Option.map_some, Option.some.injEq,
        Prod.mk.injEq] at seen
      obtain ⟨queued, offline⟩ := seen
      obtain ⟨next, called, _⟩ := treated.guard_of_run reached 1 2 [] queued
      obtain ⟨_, _, _, _, _, online, _⟩ := online_of_matchQueue queued called
      rw [offline] at online
      cases online

end GomukuServer.Proofs.AbsentPlayers
