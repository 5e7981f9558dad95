/-
Module: GomukuServer.Proofs.DisconnectFrame
Layer: Proofs
Purpose: Who is affected when a connection goes down.  `removeConn` finds the account in one table
  and `removeOnlineUser` takes it out of the others, reading an entry that it has erased.  As the
  code stands the frame holds exactly where nobody is removed; where the read gives what the entry
  held, it holds exactly where the account is not on another connection that is still up.
Trusted boundary: none
Main exports: Spared, AffectsOnlyOwnUser, affectsOnlyOwnUser_iff, disconnects_affectOnlyOwnUser_iff,
  spared_removeConn_iff
-/
import GomukuServer.Module.GameServer

namespace GomukuServer.Proofs.DisconnectFrame

open Base Base.Runs Model Manager Manager.UserManager Db
open GomukuServer.Module

/-- After the removal of a connection nobody is bound to it, and everybody who is bound to another
connection that is up is online as before. -/
structure Spared (conns : ConnManager) (users : UserManager) (conn : ConnId)
    (result : ConnManager × UserManager) : Prop where
  gone : ∀ user, result.2.userId2Conn.find? user ≠ some conn
  others : ∀ user other, users.userId2Conn.find? user = some other → other ≠ conn →
    other ∈ conns.conns →
      result.2.userId2Conn.find? user = some other ∧
        result.2.userId2User.find? user = users.userId2User.find? user ∧
        result.2.conn2UserId.find? other = users.conn2UserId.find? other ∧
        result.2.userInfo user = users.userInfo user

/-- The removal follows no iterator to an erased entry and spares the others. -/
def AffectsOnlyOwnUser (conns : ConnManager) (users : UserManager) (conn : ConnId) : Prop :=
  ∃ result, conns.removeConnChecked users conn = .ok result ∧ Spared conns users conn result

/-- The account that the connection leads to is not online. -/
def NobodyToRemove (users : UserManager) (conn : ConnId) : Prop :=
  users.getUserIdByConn conn = 0 ∨
    users.userId2Conn.find? (users.getUserIdByConn conn) = none

/-- Nobody is bound to the connection. -/
def NobodyBound (users : UserManager) (conn : ConnId) : Prop :=
  ∀ user, users.userId2Conn.find? user ≠ some conn

/-- The connection is bound to its own account alone, and this account is not bound to another
connection that is up. -/
def OwnAccountOnly (conns : ConnManager) (users : UserManager) (conn : ConnId) : Prop :=
  (∀ user, users.userId2Conn.find? user = some conn →
    user = users.getUserIdByConn conn ∧ user ≠ 0) ∧
  (users.getUserIdByConn conn ≠ 0 →
    ∀ other, users.userId2Conn.find? (users.getUserIdByConn conn) = some other →
      other = conn ∨ other ∉ conns.conns)

/-- Where nobody is removed, the tables stay as they are. -/
theorem removeConn_of_nobody {users : UserManager} {conn : ConnId} (conns : ConnManager)
    (erased : ConnId) (nobody : NobodyToRemove users conn) :
    conns.removeConn users conn erased = (⟨conns.conns.erase conn⟩, users) := by
  unfold ConnManager.removeConn
  rcases nobody with zero | offline
  · simp [zero]
  · dsimp only
    rw [removeOnlineUser_of_offline erased offline, ite_self]

/-- Following the iterator goes well exactly if nobody is removed, and then it changes nothing. -/
theorem removeConnChecked_eq_ok_iff {conns : ConnManager} {users : UserManager} {conn : ConnId}
    {result : ConnManager × UserManager} :
    conns.removeConnChecked users conn = .ok result ↔
      NobodyToRemove users conn ∧ result = (⟨conns.conns.erase conn⟩, users) := by
  unfold ConnManager.removeConnChecked NobodyToRemove
  by_cases zero : users.getUserIdByConn conn = 0
  · simp [zero, eq_comm]
  · by_cases offline : users.userId2Conn.find? (users.getUserIdByConn conn) = none
    · simp [zero, offline, removeOnlineUserChecked_eq, eq_comm]
    · simp [zero, offline, removeOnlineUserChecked_eq]

/-- A removal that goes well is the removal with any value of the erased entry. -/
theorem removeConn_of_checked {conns : ConnManager} {users : UserManager} {conn : ConnId}
    {result : ConnManager × UserManager}
    (removed : conns.removeConnChecked users conn = .ok result) (erased : ConnId) :
    conns.removeConn users conn erased = result := by
  obtain ⟨nobody, rfl⟩ := removeConnChecked_eq_ok_iff.mp removed
  exact removeConn_of_nobody conns erased nobody

/-- Tables that stay as they are spare everybody, but also those who are bound to the connection. -/
theorem spared_unchanged_iff (conns : ConnManager) (users : UserManager) (conn : ConnId) :
    Spared conns users conn (⟨conns.conns.erase conn⟩, users) ↔ NobodyBound users conn :=
  ⟨fun spared => spared.gone, fun nobody =>
    ⟨nobody, fun _ _ bound _ _ => ⟨bound, rfl, rfl, rfl⟩⟩⟩

/-- A disconnect affects its own user only, without reading an erased entry, exactly if it has no
user to take off line and nobody is bound to the connection. -/
theorem affectsOnlyOwnUser_iff (conns : ConnManager) (users : UserManager) (conn : ConnId) :
    AffectsOnlyOwnUser conns users conn ↔ NobodyToRemove users conn ∧ NobodyBound users conn := by
  rw [← spared_unchanged_iff conns users conn]
  constructor
  · rintro ⟨result, removed, spared⟩
    obtain ⟨nobody, rfl⟩ := removeConnChecked_eq_ok_iff.mp removed
    exact ⟨nobody, spared⟩
  · rintro ⟨nobody, spared⟩
    exact ⟨_, removeConnChecked_eq_ok_iff.mpr ⟨nobody, rfl⟩, spared⟩

/-- A disconnect affects its own user only. -/
def DisconnectSpares (server : Server) : ServerEvent → Prop
  | .disconnect conn _ => AffectsOnlyOwnUser server.conns server.users conn
  | _ => True

/-- A disconnect finds nobody to take off line, and nobody is bound to its connection. -/
def DisconnectFindsNobody (server : Server) : ServerEvent → Prop
  | .disconnect conn _ => NobodyToRemove server.users conn ∧ NobodyBound server.users conn
  | _ => True

/-- In every history of the server, all disconnects affect their own users only, exactly if none of
them finds a user to take off line or one that is bound to its connection. -/
theorem disconnects_affectOnlyOwnUser_iff (db : UserDB) (events : List ServerEvent) :
    Admissible Server.step DisconnectSpares (Server.new db) events ↔
      Admissible Server.step DisconnectFindsNobody (Server.new db) events := by
  refine admissible_congr (fun server event => ?_) (Server.new db) events
  cases event with
  | disconnect conn erased => exact affectsOnlyOwnUser_iff server.conns server.users conn
  | _ => exact Iff.rfl

/-- What a removal does to the tables when there is someone to remove. -/
theorem removeConn_of_online {users : UserManager} {conn : ConnId} (conns : ConnManager)
    (erased : ConnId) (loggedIn : users.getUserIdByConn conn ≠ 0) :
    conns.removeConn users conn erased = (⟨conns.conns.erase conn⟩,
      users.removeOnlineUser (users.getUserIdByConn conn) erased) :=
  if_pos loggedIn

/-- Were the erased entry to read as it was, a disconnect would spare the others exactly if the
connection is bound to its own account alone and this account is on no other connection that is
up. -/
theorem spared_removeConn_iff (conns : ConnManager) {users : UserManager} {conn erased : ConnId}
    (held : ∀ other, users.userId2Conn.find? (users.getUserIdByConn conn) = some other →
      erased = other) :
    Spared conns users conn (conns.removeConn users conn erased) ↔
      OwnAccountOnly conns users conn := by
  by_cases nobody : NobodyToRemove users conn
  · rw [removeConn_of_nobody conns erased nobody, spared_unchanged_iff]
    constructor
    · intro unbound
      refine ⟨fun user bound => absurd bound (unbound user), fun loggedIn other online => ?_⟩
      cases (nobody.resolve_left loggedIn).symm.trans online
    · rintro ⟨own, _⟩ user bound
      obtain ⟨rfl, loggedIn⟩ := own user bound
      cases (nobody.resolve_left loggedIn).symm.trans bound
  · obtain ⟨loggedIn, online⟩ := not_or.mp nobody
    obtain ⟨current, bound⟩ := Option.ne_none_iff_exists'.mp online
    obtain rfl := held current bound
    rw [removeConn_of_online conns erased loggedIn]
    constructor
    · rintro ⟨gone, others⟩
      refine ⟨fun user userBound => ?_, fun _ other otherBound => ?_⟩
      · by_contra stranger
        have notRemoved : user ≠ users.getUserIdByConn conn := fun same =>
          stranger ⟨same, same ▸ loggedIn⟩
        refine gone user ?_
        rw [find?_userId2Conn_removeOnlineUser, if_neg notRemoved]
        exact userBound
      · by_contra elsewhere
        obtain ⟨different, down⟩ := not_or.mp elsewhere
        have kept := (others _ other otherBound different (not_not.mp down)).1
        rw [find?_userId2Conn_removeOnlineUser, if_pos rfl] at kept
        cases kept
    · rintro ⟨own, elsewhere⟩
      refine ⟨fun user => ?_, fun user other userBound different up => ?_⟩
      · rw [find?_userId2Conn_removeOnlineUser]
        split
        · simp
        · rename_i notRemoved
          exact fun userBound => notRemoved (own user userBound).1
      · have notErased : other ≠ erased := by
          rintro rfl
          exact (elsewhere loggedIn other bound).elim different fun down => down up
        have notRemoved : user ≠ users.getUserIdByConn conn := by
          rintro rfl
          exact notErased (Option.some.inj (userBound.symm.trans bound))
        refine ⟨?_, ?_, ?_, ?_⟩
        · rw [find?_userId2Conn_removeOnlineUser, if_neg notRemoved, userBound]
        · rw [find?_userId2User_removeOnlineUser, if_neg notRemoved]
        · rw [find?_conn2UserId_removeOnlineUser online, if_neg notErased]
        · rw [userInfo_removeOnlineUser, if_neg notRemoved]

/-- One account logs in on connection 10 and again on connection 11, and connection 10 goes down:
the account is removed although it is on connection 11, through the erased entry. -/
theorem not_affectsOnlyOwnUser_secondLogin :
    ∃ server, run Server.step (Server.new annAndBob) (enter 10 "ann" ++ enter 11 "ann") =
      .ok server ∧ ¬ AffectsOnlyOwnUser server.conns server.users 10 := by
  have seen : (run Server.step (Server.new annAndBob)
      (enter 10 "ann" ++ enter 11 "ann")).toOption.map
        (fun server => (server.users.getUserIdByConn 10, server.users.userId2Conn.find? 1)) =
          some (1, some 11) := by
    decide +kernel
  cases reached : run Server.step (Server.new annAndBob) (enter 10 "ann" ++ enter 11 "ann") with
  | error fault => simp [reached, Except.toOption] at seen
  | ok server =>
      rw [reached] at seen
      obtain ⟨account, current⟩ := Prod.mk.inj (Option.some.inj seen)
      refine ⟨server, rfl, ?_⟩
      rintro ⟨result, removed, _⟩
      obtain ⟨zero | offline, _⟩ := removeConnChecked_eq_ok_iff.mp removed
      · rw [account] at zero
        cases zero
      · rw [account, current] at offline
        cases offline

end GomukuServer.Proofs.DisconnectFrame
