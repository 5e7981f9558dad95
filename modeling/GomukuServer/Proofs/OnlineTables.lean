/-
Module: GomukuServer.Proofs.OnlineTables
Layer: Proofs
Purpose: The tables of `UserManager` over runs of logins and disconnects.  They should be inverse to
  each other and forget a connection when it goes.  `addOnlineUser` never looks at the entries it
  replaces and `removeOnlineUser` reads the connection to forget from an entry it has erased, so the
  tables stay in step exactly in the runs that never reuse an account or a connection while it is
  taken, and whose erased entries still read as they were.
Trusted boundary: none
Main exports: TableEvent, step, InStep, Exclusive, inStep_always_iff, not_inStep_after_second_login
-/
import GomukuServer.Base.Runs
import GomukuServer.Manager.UserManager

namespace GomukuServer.Proofs.OnlineTables

open Base Base.Runs Model Manager Manager.UserManager

/-- A login that passed the database, with the user's row, or a connection that goes down.  `erased`
is what `removeOnlineUser` reads through the iterator of the entry it has erased. -/
inductive TableEvent where
  | login (userName : String) (userId : UserId) (userPoints totalCount winCount : UInt32)
      (conn : ConnId)
  | disconnect (conn erased : ConnId)
deriving DecidableEq, Repr

/-- The managers, and the connections `removeConn` has been called for. -/
structure TableState where
  conns : ConnManager
  users : UserManager
  removed : Finset ConnId

/-- Nobody is online at the start. -/
def TableState.new (conns : ConnManager) : TableState := ⟨conns, UserManager.new, ∅⟩

/-- The end of `onLogin`, and `ConnManager::removeConn`. -/
def step (state : TableState) : TableEvent → Except Fault TableState
  | .login userName userId userPoints totalCount winCount conn =>
      .ok { state with
        users := state.users.addOnlineUser
          (UserInfo.new userName userId userPoints totalCount winCount conn) }
  | .disconnect conn erased =>
      let (conns, users) := state.conns.removeConn state.users conn erased
      .ok ⟨conns, users, insert conn state.removed⟩

/-- The tables agree with each other and mention no connection that has been removed. -/
structure InStep (state : TableState) : Prop where
  inverse : ∀ user conn, state.users.userId2Conn.find? user = some conn ↔
    state.users.conn2UserId.find? conn = some user
  sameKeys : ∀ user, (state.users.userId2User.find? user).isSome =
    (state.users.userId2Conn.find? user).isSome
  record : ∀ user info, state.users.userInfo user = some info →
    info.userId = user ∧ state.users.userId2Conn.find? user = some info.con
  forgotten : ∀ conn ∈ state.removed, state.users.conn2UserId.find? conn = none ∧
    (∀ user, state.users.userId2Conn.find? user ≠ some conn) ∧
    ∀ user info, state.users.userInfo user = some info → info.con ≠ conn

/-- A login takes an account that is not online elsewhere, on a connection that is still up and
carries nobody else; a user who disconnects has an id other than zero, and the erased entry still
reads as the connection. -/
def Exclusive (state : TableState) : TableEvent → Prop
  | .login _ userId _ _ _ conn =>
      conn ∉ state.removed ∧
        (∀ other, state.users.userId2Conn.find? userId = some other → other = conn) ∧
        ∀ other, state.users.conn2UserId.find? conn = some other → other = userId
  | .disconnect conn erased =>
      ∀ user, state.users.conn2UserId.find? conn = some user → user ≠ 0 ∧ erased = conn

theorem inStep_new (conns : ConnManager) : InStep (TableState.new conns) where
  inverse := by simp [TableState.new, UserManager.new]
  sameKeys := by simp [TableState.new, UserManager.new]
  record := by simp [TableState.new]
  forgotten := by simp [TableState.new]

/-- What the tables say about one user is enough for the law about its record. -/
private theorem inStep_of_mirrored {state : TableState}
    (mirrored : PMap.Mirrored state.users.userId2Conn state.users.conn2UserId)
    (record : ∀ user info, state.users.userInfo user = some info →
      state.users.userId2Conn.find? user = some info.con)
    (forgotten : ∀ conn ∈ state.removed, state.users.conn2UserId.find? conn = none) :
    InStep state where
  inverse := mirrored
  sameKeys := fun user => (state.users.same_online user).symm
  record := fun user info current => ⟨userId_of_userInfo current, record user info current⟩
  forgotten := by
    intro conn gone
    have nobody := forgotten conn gone
    have noEntry : ∀ user, state.users.userId2Conn.find? user ≠ some conn := by
      intro user found
      simp [(mirrored user conn).mp found] at nobody
    exact ⟨nobody, noEntry, fun user info current same =>
      noEntry user (same ▸ record user info current)⟩

/-- The two tables lead back to each other. -/
private theorem mirrored_of_inStep {state : TableState} (good : InStep state) :
    PMap.Mirrored state.users.userId2Conn state.users.conn2UserId := good.inverse

/-- A login keeps the tables in step exactly if it is exclusive. -/
theorem inStep_login_iff {state : TableState} (good : InStep state) (user : UserInfo) :
    InStep { state with users := state.users.addOnlineUser user } ↔
      user.con ∉ state.removed ∧
        (∀ other, state.users.userId2Conn.find? user.userId = some other → other = user.con) ∧
        ∀ other, state.users.conn2UserId.find? user.con = some other → other = user.userId := by
  rw [← (mirrored_of_inStep good).insert_iff]
  constructor
  · intro kept
    refine ⟨fun gone => ?_, mirrored_of_inStep kept⟩
    have nobody := (kept.forgotten user.con gone).1
    simp [addOnlineUser] at nobody
  · rintro ⟨up, mirrored⟩
    refine inStep_of_mirrored mirrored ?_ ?_
    · intro other info current
      rw [userInfo_addOnlineUser] at current
      split at current
      · rename_i account
        obtain rfl := Option.some.inj current
        simp [addOnlineUser, account]
      · rename_i account
        simp [addOnlineUser, account, (good.record other info current).2]
    · intro conn gone
      have connection : conn ≠ user.con := by
        rintro rfl
        exact up gone
      simp [addOnlineUser, connection, (good.forgotten conn gone).1]

/-- Removing a user keeps the tables in step exactly if its erased entry still reads right. -/
theorem inStep_removeOnlineUser_iff {state : TableState} (good : InStep state) {user : UserId}
    {conn : ConnId} (erased : ConnId) (conns : ConnManager)
    (found : state.users.conn2UserId.find? conn = some user) :
    InStep ⟨conns, state.users.removeOnlineUser user erased, insert conn state.removed⟩ ↔
      erased = conn := by
  have online := (good.inverse user conn).mpr found
  rw [← (mirrored_of_inStep good).erase_iff online]
  constructor
  · intro kept
    have mirrored := mirrored_of_inStep kept
    simpa [removeOnlineUser, online] using mirrored
  · intro mirrored
    have same : erased = conn := ((mirrored_of_inStep good).erase_iff online erased).mp mirrored
    subst same
    apply inStep_of_mirrored
    · simpa [removeOnlineUser, online] using mirrored
    · intro other info current
      rw [userInfo_removeOnlineUser] at current
      split at current
      · simp at current
      · rename_i account
        simp [removeOnlineUser, online, account, (good.record other info current).2]
    · intro other gone
      simp only [removeOnlineUser, online, PMap.find?_erase]
      rcases Finset.mem_insert.mp gone with rfl | before
      · simp
      · simp [(good.forgotten other before).1]

/-- A connection nobody is logged in on leaves the tables as they are. -/
private theorem inStep_remove_unused {state : TableState} (good : InStep state) {conn : ConnId}
    (conns : ConnManager) (nobody : state.users.conn2UserId.find? conn = none) :
    InStep ⟨conns, state.users, insert conn state.removed⟩ := by
  apply inStep_of_mirrored
  · exact good.inverse
  · exact fun user info current => (good.record user info current).2
  · intro other gone
    rcases Finset.mem_insert.mp gone with rfl | before
    · exact nobody
    · exact (good.forgotten other before).1

/-- One login or disconnect keeps the tables in step exactly if it is exclusive. -/
theorem exclusive_iff (state : TableState) (event : TableEvent) (good : InStep state)
    (_ : True) :
    Exclusive state event ↔ ∀ next, step state event = .ok next → InStep next := by
  cases event with
  | login userName userId userPoints totalCount winCount conn =>
      simp only [Exclusive, step, Except.ok.injEq, forall_eq']
      exact (inStep_login_iff good
        (UserInfo.new userName userId userPoints totalCount winCount conn)).symm
  | disconnect conn erased =>
      cases found : state.users.conn2UserId.find? conn with
      | none =>
          simp [Exclusive, step, ConnManager.removeConn, getUserIdByConn, found,
            inStep_remove_unused good _ found]
      | some user =>
          by_cases zero : user = 0
          · -- user zero passes for nobody, so its entries stay behind
            have left : ¬ InStep ⟨⟨state.conns.conns.erase conn⟩, state.users,
                insert conn state.removed⟩ := by
              intro kept
              have nobody := (kept.forgotten conn (by simp)).1
              simp [found] at nobody
            simp [Exclusive, step, ConnManager.removeConn, getUserIdByConn, found, zero, left]
          · simp [Exclusive, step, ConnManager.removeConn, getUserIdByConn, found, zero,
              inStep_removeOnlineUser_iff good erased _ found]

/-- After every sequence of logins and disconnects the tables are in step in every state on the way,
if and only if every login is exclusive and every disconnect reads the connection it has erased. -/
theorem inStep_always_iff (conns : ConnManager) (events : List TableEvent) :
    Always step InStep (TableState.new conns) events ↔
      Admissible step Exclusive (TableState.new conns) events :=
  always_iff_admissible exclusive_iff (inStep_new conns) events
    (admissible_of_forall (fun _ _ => trivial) _ _)

/-- One account logs in on connection 10 and again on connection 11. -/
def secondLogin : List TableEvent :=
  [.login "ann" 1 1000 0 0 10, .login "ann" 1 1000 0 0 11]

/-- The first connection still leads to the account, which is on the second one. -/
theorem not_inStep_after_second_login :
    ¬ Always step InStep (TableState.new ConnManager.new) secondLogin := by
  intro always
  have first := (always.2 _ rfl).2 _ rfl
  have stale := (first.inverse 1 10).mpr rfl
  have current : (some 11 : Option ConnId) = some 10 := stale
  simp at current

end GomukuServer.Proofs.OnlineTables
