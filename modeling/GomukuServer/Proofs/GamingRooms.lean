/-
Module: GomukuServer.Proofs.GamingRooms
Layer: Proofs
Purpose: Who is in state `GAMING` and who has a room.  The match thread first creates the room and
  then writes the two states, through pointers it fetched before, while other threads log users in
  and out and take them out of rooms.  The invariant counts the records that the match thread is
  still going to write as gaming; for each call the condition under which it is kept is exact.
Trusted boundary: none
Main exports: GamingIffRoom, Agreed, Keeps, agreed_always_iff, gamingIffRoom_always,
  not_gamingIffRoom_after_relogin
-/
import GomukuServer.Module.GameServer
import GomukuServer.Module.Threads

namespace GomukuServer.Proofs.GamingRooms

open Base Base.Runs Model Manager Db Net
open GomukuServer.Module

/-- The user has an entry in `m_userId2Room`. -/
def Seated (rooms : GameRoomManager) (userId : UserId) : Prop :=
  (rooms.userId2Room.find? userId).isSome = true

instance (rooms : GameRoomManager) (userId : UserId) : Decidable (Seated rooms userId) :=
  inferInstanceAs (Decidable (_ = true))

/-- The match thread is between `createRoom` and its last `setState`. -/
def Between : Holder → Prop
  | .matchThread (.roomCreated _) => True
  | .matchThread (.user1Gaming _) => True
  | _ => False

/-- Outside that stretch, an online user is in state `GAMING` exactly if it has a room. -/
def GamingIffRoom (threads : Threads) : Prop :=
  ¬ Between threads.holder → ∀ userId state, threads.server.users.stateOf userId = some state →
    (state = .gaming ↔ Seated threads.server.rooms userId)

/-- The pointers through which the match thread is still going to write `GAMING`. -/
def pending : Holder → List (Option Ref)
  | .matchThread (.roomCreated pair) => [pair.user1, pair.user2]
  | .matchThread (.user1Gaming pair) => [pair.user2]
  | _ => []

/-- The pointers the match thread has fetched. -/
def pointers : Holder → List (Option Ref)
  | .matchThread (.user1Found _ _ _ _ user1) => [user1]
  | .matchThread (.fetched pair) => [pair.user1, pair.user2]
  | .matchThread (.reset pair) => [pair.user1, pair.user2]
  | .matchThread (.checked pair) => [pair.user1, pair.user2]
  | .matchThread (.roomCreated pair) => [pair.user1, pair.user2]
  | .matchThread (.user1Gaming pair) => [pair.user1, pair.user2]
  | .matchThread (.user2Gaming pair) => [pair.user1, pair.user2]
  | .matchThread (.user1Told pair) => [pair.user1, pair.user2]
  | _ => []

theorem pending_subset (holder : Holder) : pending holder ⊆ pointers holder := by
  unfold pending
  split
  · exact List.Subset.refl _
  · exact List.subset_cons_self _ _
  · exact List.nil_subset _

/-- The match thread keeps its pointers' objects alive. -/
def Alive (threads : Threads) : Prop :=
  ∀ ref, some ref ∈ pointers threads.holder →
    (threads.server.users.stateAt ref).isSome = true

/-- Everybody's current record is gaming, or about to be, exactly if its user has a room. -/
def Agreed (threads : Threads) : Prop :=
  ∀ userId ref, threads.server.users.userId2User.find? userId = some ref →
    (Seated threads.server.rooms userId ↔
      threads.server.users.stateAt ref = some .gaming ∨ some ref ∈ pending threads.holder)

/-- The record the match thread sets back to `ONLINE` because the other player is absent, if
somebody's current one, is that of a user without a room. -/
def ResetsNobody (threads : Threads) (pair : Pairing) : Prop :=
  ∀ remaining ∈ pair.remaining, ∀ ref ∈ remaining.1,
    ∀ info ∈ threads.server.users.users.deref ref,
      threads.server.users.userId2User.find? info.userId = some ref →
        ¬ Seated threads.server.rooms info.userId

/-- The pointers the match thread has fetched are the current records of the two players: as far as
those are online and have no room yet, and as far as the pointers are current and lead to users
without a room. -/
def FetchedPlayers (threads : Threads) (pair : Pairing) : Prop :=
  (∀ userId ∈ [pair.userId1, pair.userId2],
    ∀ ref ∈ threads.server.users.userId2User.find? userId,
      ¬ Seated threads.server.rooms userId → some ref ∈ [pair.user1, pair.user2]) ∧
  (∀ user ∈ [pair.user1, pair.user2], ∀ ref ∈ user,
    ∀ info ∈ threads.server.users.users.deref ref,
      threads.server.users.userId2User.find? info.userId = some ref →
        ¬ Seated threads.server.rooms info.userId → info.userId ∈ [pair.userId1, pair.userId2])

/-- What the next call of the holder of the mutex needs. -/
def HolderKeeps (threads : Threads) : Holder → Prop
  | .matchThread (.fetched pair) => ResetsNobody threads pair
  | .matchThread (.checked pair) => FetchedPlayers threads pair
  | _ => True

/-- What each call needs: whoever logs in has no room; whoever leaves a room is not about to be set
`GAMING`; the match thread resets nobody in a room, and creates rooms for the players whose records
it holds. -/
def Keeps (threads : Threads) : ThreadCall → Prop
  | .login row _ => ¬ Seated threads.server.rooms (UserDB.toUInt32 row.userId)
  | .exitRoom userId => Seated threads.server.rooms userId →
      ∀ ref ∈ threads.server.users.userId2User.find? userId, some ref ∉ pending threads.holder
  | .proceed _ => HolderKeeps threads threads.holder
  | _ => True

instance (threads : Threads) (pair : Pairing) : Decidable (ResetsNobody threads pair) :=
  inferInstanceAs (Decidable (∀ remaining ∈ pair.remaining, ∀ ref ∈ remaining.1,
    ∀ info ∈ threads.server.users.users.deref ref,
      threads.server.users.userId2User.find? info.userId = some ref →
        ¬ Seated threads.server.rooms info.userId))

instance (threads : Threads) (pair : Pairing) : Decidable (FetchedPlayers threads pair) :=
  @instDecidableAnd _ _ (List.decidableBAll _ [pair.userId1, pair.userId2])
    (List.decidableBAll _ [pair.user1, pair.user2])

instance (threads : Threads) : ∀ holder, Decidable (HolderKeeps threads holder)
  | .matchThread (.fetched pair) => inferInstanceAs (Decidable (ResetsNobody threads pair))
  | .matchThread (.checked pair) => inferInstanceAs (Decidable (FetchedPlayers threads pair))
  | .nobody | .addUser .. | .removeUser .. => isTrue trivial
  | .matchThread (.popped ..) | .matchThread (.conn1Found ..) => isTrue trivial
  | .matchThread (.connsFound ..) | .matchThread (.user1Found ..) => isTrue trivial
  | .matchThread (.reset _) | .matchThread (.roomCreated _) => isTrue trivial
  | .matchThread (.user1Gaming _) | .matchThread (.user2Gaming _) => isTrue trivial
  | .matchThread (.user1Told _) => isTrue trivial

instance (threads : Threads) : ∀ call, Decidable (Keeps threads call)
  | .login row _ =>
      inferInstanceAs (Decidable (¬ Seated threads.server.rooms (UserDB.toUInt32 row.userId)))
  | .exitRoom userId => inferInstanceAs (Decidable (Seated threads.server.rooms userId →
      ∀ ref ∈ threads.server.users.userId2User.find? userId, some ref ∉ pending threads.holder))
  | .proceed _ => inferInstanceAs (Decidable (HolderKeeps threads threads.holder))
  | .removeOnlineUser .. | .lockToAdd _ | .lockToRemove _ | .lockToMatch _ => isTrue trivial

/-! ### Calls of the event-loop threads -/

/-- A call that leaves tables, states and pending writes alone keeps the agreement. -/
theorem Agreed.of_same {threads next : Threads} (good : Agreed threads)
    (rooms : next.server.rooms = threads.server.rooms)
    (users : next.server.users = threads.server.users)
    (writes : pending next.holder = pending threads.holder) : Agreed next := by
  intro userId ref found
  simp only [Seated, rooms, users, writes] at found ⊢
  exact good userId ref found

/-- A record that is allocated now has been fetched by nobody. -/
theorem next_notMem_pending {threads : Threads} (alive : Alive threads) :
    some threads.server.users.users.next ∉ pending threads.holder := by
  intro inside
  simpa [UserManager.stateAt] using alive _ (pending_subset _ inside)

/-- A login replaces the record of its user by an idle one. -/
theorem agreed_login_iff {threads next : Threads} {row : UserRow} {conn : ConnId}
    (good : Agreed threads) (alive : Alive threads)
    (called : threads.step (.login row conn) = .ok next) :
    Keeps threads (.login row conn) ↔ Agreed next := by
  obtain ⟨user, loaded, built⟩ := bind_eq_ok.mp called
  simp only [pure_eq_ok, Except.ok.injEq] at built
  obtain ⟨userEq, _⟩ := Server.loadUser_ok loaded
  have userId : user.userId = UserDB.toUInt32 row.userId := by rw [userEq, UserInfo.new]
  have idle : user.state = .online := by rw [userEq, UserInfo.new]
  have fresh := next_notMem_pending alive
  subst built
  simp only [Keeps, ← userId]
  constructor
  · intro roomless other ref found
    simp only [UserManager.find?_userId2User_addOnlineUser] at found
    split at found
    · rename_i same
      obtain rfl := Option.some.inj found
      simpa [idle, same, fresh] using roomless
    · obtain ⟨info, held, _⟩ := threads.server.users.user_owned other ref found
      have old := Heap.ne_next_of_deref held
      simpa [old] using good other ref found
  · intro agreed seated
    have entry := agreed user.userId threads.server.users.users.next (by simp)
    simp only [UserManager.stateAt_addOnlineUser, if_true, idle] at entry
    rcases entry.mp seated with gaming | written
    · simp at gaming
    · exact fresh written

/-- A user who goes off line takes its record with it. -/
theorem agreed_removeOnlineUser {threads : Threads} (good : Agreed threads) (gone : UserId)
    (erased : ConnId) : Agreed { threads with server := { threads.server with
      users := threads.server.users.removeOnlineUser gone erased } } := by
  intro userId ref found
  simp only [UserManager.find?_userId2User_removeOnlineUser] at found
  split at found
  · simp at found
  · simp only [UserManager.stateAt_removeOnlineUser]
    exact good userId ref found

/-- A departure makes a user idle who has no room any more. -/
theorem agreed_exitRoom_iff {threads next : Threads} {gone : UserId} (good : Agreed threads)
    (called : threads.step (.exitRoom gone) = .ok next) :
    Keeps threads (.exitRoom gone) ↔ Agreed next := by
  obtain ⟨⟨rooms, users⟩, removed, built⟩ := bind_eq_ok.mp called
  simp only [pure_eq_ok, Except.ok.injEq] at built
  subst built
  obtain ⟨tables, _, _, usersEq⟩ := GameRoomManager.removeUser_ok removed
  split at usersEq
  · rename_i absent
    have same : rooms = threads.server.rooms := by
      rw [GameRoomManager.removeUser_of_absent _ absent] at removed
      exact (Prod.mk.inj (Except.ok.inj removed)).1.symm
    refine ⟨fun _ => good.of_same same usersEq rfl, fun _ seated => ?_⟩
    simp [Seated, absent] at seated
  · rename_i seatedHere
    have seated : Seated threads.server.rooms gone := Option.isSome_iff_ne_none.mpr seatedHere
    simp only [Keeps, seated, forall_const]
    constructor
    · intro unwritten userId ref found
      rw [usersEq] at found ⊢
      simp only [UserManager.userId2User_setUserState] at found
      simp only [Seated, tables, PMap.find?_erase, UserManager.stateAt_setUserState]
      by_cases same : userId = gone
      · subst same
        obtain ⟨state, held⟩ := UserManager.exists_stateAt found
        simpa [found, held] using unwritten ref found
      · have other : threads.server.users.userId2User.find? gone ≠ some ref :=
          fun goneFound => same (UserManager.user_eq_of_ref found goneFound)
        simpa [same, other, Seated] using good userId ref found
    · intro agreed ref found written
      have entry := agreed gone ref (by rw [usersEq]; simpa using found)
      simp [Seated, tables, written] at entry

/-! ### Calls of the holder of the mutex -/

/-- The calls that take the mutex, or wait for it. -/
def TakesMutex : ThreadCall → Prop
  | .lockToAdd _ => True
  | .lockToRemove _ => True
  | .lockToMatch _ => True
  | _ => False

/-- Taking the mutex, or waiting for it, changes neither users nor rooms. -/
theorem lock_same {threads next : Threads} {call : ThreadCall}
    (called : threads.step call = .ok next) (lock : TakesMutex call) :
    next.server.rooms = threads.server.rooms ∧ next.server.users = threads.server.users ∧
      pending next.holder = pending threads.holder ∧
      pointers next.holder ⊆ pointers threads.holder := by
  cases call with
  | lockToAdd | lockToRemove | lockToMatch =>
      simp only [Threads.step] at called
      split at called <;> obtain rfl := Except.ok.inj called <;> simp_all [pending, pointers]
  | _ => exact absurd lock id

/-- Writing a state other than `GAMING` over one that is not `GAMING` keeps the agreement while no
writes are pending. -/
theorem Agreed.setState {threads next : Threads} {ref : Ref} {state : UserState}
    (good : Agreed threads) (before : threads.server.users.stateAt ref ≠ some .gaming)
    (notGaming : state ≠ .gaming)
    (rooms : next.server.rooms = threads.server.rooms)
    (users : next.server.users = threads.server.users.setState ref state)
    (unwritten : pending threads.holder = []) (writes : pending next.holder = []) :
    Agreed next := by
  intro userId other found
  rw [users, UserManager.userId2User_setState] at found
  have entry := good userId other found
  rw [rooms, users, writes, entry, unwritten, UserManager.stateAt_setState]
  by_cases same : other = ref
  · subst same
    simpa [notGaming] using before
  · simp [same]

/-- The match thread's reset of a record keeps the agreement exactly if the record's user has no
room. -/
theorem agreed_reset_iff {threads next : Threads} {pair : Pairing} {ref : Ref}
    {conn : Option ConnId} (good : Agreed threads) (left : pair.remaining = some (some ref, conn))
    (rooms : next.server.rooms = threads.server.rooms)
    (users : next.server.users = threads.server.users.setState ref .online)
    (unwritten : pending threads.holder = []) (writes : pending next.holder = []) :
    ResetsNobody threads pair ↔ Agreed next := by
  simp only [ResetsNobody, left, Option.mem_def, Option.some.injEq, forall_eq']
  constructor
  · intro roomless userId other found
    rw [users, UserManager.userId2User_setState] at found
    have entry := good userId other found
    rw [rooms, users, writes, UserManager.stateAt_setState]
    by_cases same : other = ref
    · subst same
      obtain ⟨info, current, held⟩ := UserManager.exists_userInfo found
      have owned := UserManager.userId_of_userInfo current
      have unseated := roomless info held (owned.symm ▸ found)
      rw [owned] at unseated
      simp [unseated]
    · rw [entry, unwritten]
      simp [same]
  · intro agreed info held found
    have entry := agreed info.userId ref (by rw [users]; exact found)
    rw [rooms, users, writes, UserManager.stateAt_setState] at entry
    simp [entry]

/-- A new room keeps the agreement exactly if it is for the players whose records the match thread
holds. -/
theorem agreed_openRoom_iff {threads next : Threads} {pair : Pairing} {roomCount : UInt32}
    (good : Agreed threads)
    (rooms : next.server.rooms =
      threads.server.rooms.createRoom roomCount pair.userId1 pair.userId2)
    (users : next.server.users = threads.server.users)
    (unwritten : pending threads.holder = [])
    (writes : pending next.holder = [pair.user1, pair.user2]) :
    FetchedPlayers threads pair ↔ Agreed next := by
  have seatedAfter : ∀ userId, Seated next.server.rooms userId ↔
      userId ∈ [pair.userId1, pair.userId2] ∨ Seated threads.server.rooms userId := by
    intro userId
    rw [rooms]
    simp only [Seated, GameRoomManager.createRoom, PMap.find?_insert]
    split
    · simp_all
    · split <;> simp_all
  constructor
  · rintro ⟨players, fetched⟩ userId ref found
    rw [users] at found
    have entry := good userId ref found
    rw [unwritten] at entry
    simp only [List.not_mem_nil, or_false] at entry
    rw [seatedAfter, users, writes, ← entry]
    by_cases seated : Seated threads.server.rooms userId
    · simp [seated]
    · simp only [seated, or_false, false_or]
      constructor
      · intro player
        exact players userId player ref found seated
      · intro held
        obtain ⟨info, current, object⟩ := UserManager.exists_userInfo found
        have owned := UserManager.userId_of_userInfo current
        have player := fetched _ held ref rfl info object (owned.symm ▸ found)
          (owned.symm ▸ seated)
        rwa [owned] at player
  · intro agreed
    refine ⟨fun userId player ref found unseated => ?_,
      fun user held ref pointer info object found unseated => ?_⟩
    · have before := good userId ref found
      have after := agreed userId ref (by rw [users]; exact found)
      simp only [unwritten, List.not_mem_nil, or_false] at before
      rw [seatedAfter, users, writes] at after
      simpa [player, mt before.mpr unseated] using after.mp (.inl player)
    · obtain rfl : user = some ref := pointer
      have after := agreed info.userId ref (by rw [users]; exact found)
      rw [seatedAfter, users, writes] at after
      exact (after.mpr (.inr held)).resolve_right unseated

/-- Writing `GAMING` through a pending pointer keeps the agreement. -/
theorem Agreed.setGaming {threads next : Threads} {ref : Ref} {later : List (Option Ref)}
    (good : Agreed threads) (rooms : next.server.rooms = threads.server.rooms)
    (users : next.server.users = threads.server.users.setState ref .gaming)
    (unwritten : pending threads.holder = some ref :: later)
    (writes : pending next.holder = later) : Agreed next := by
  intro userId other found
  rw [users, UserManager.userId2User_setState] at found
  have entry := good userId other found
  rw [rooms, users, writes, entry, unwritten, UserManager.stateAt_setState]
  by_cases same : other = ref
  · subst same
    obtain ⟨old, held⟩ := UserManager.exists_stateAt found
    simp [held]
  · simp [same]

/-- The next call of the match thread. -/
theorem agreed_matchStep_iff {threads next : Threads} {pc : MatchPc} {roomCount : UInt32}
    (good : Agreed threads) (holder : threads.holder = .matchThread pc)
    (called : threads.proceed roomCount = .ok next) :
    Keeps threads (.proceed roomCount) ↔ Agreed next := by
  simp only [Threads.proceed, holder] at called
  obtain ⟨⟨server, after⟩, stepped, built⟩ := bind_eq_ok.mp called
  simp only [pure_eq_ok, Except.ok.injEq] at built
  subst built
  simp only [Keeps, holder, HolderKeeps]
  have writes : pending threads.holder = pending (.matchThread pc) := by rw [holder]
  cases pc with
  | popped | conn1Found | connsFound | user1Found =>
      obtain ⟨rfl, rfl⟩ := Prod.mk.inj (Except.ok.inj stepped)
      exact ⟨fun _ => good.of_same rfl rfl writes.symm, fun _ => trivial⟩
  | fetched pair =>
      simp only [Server.matchStep] at stepped
      split at stepped
      · rename_i present
        obtain ⟨rfl, rfl⟩ := Prod.mk.inj (Except.ok.inj stepped)
        refine ⟨fun _ => good.of_same rfl rfl writes.symm, fun _ remaining left => ?_⟩
        simp [present] at left
      · rename_i user conn left
        simp only [bind_eq_ok, Server.setStateOf_eq_ok, pure_eq_ok, Except.ok.injEq,
          Prod.mk.injEq] at stepped
        obtain ⟨_, ⟨ref, rfl, rfl⟩, rfl, rfl⟩ := stepped
        exact agreed_reset_iff good left rfl rfl writes rfl
  | reset pair =>
      simp only [Server.matchStep] at stepped
      split at stepped <;> obtain ⟨rfl, rfl⟩ := Prod.mk.inj (Except.ok.inj stepped)
      · exact ⟨fun _ => good.of_same rfl rfl writes.symm, fun _ => trivial⟩
      · refine ⟨fun _ => ?_, fun _ => trivial⟩
        exact good.of_same (Server.rooms_sendMsg ..) (Server.users_sendMsg ..) writes.symm
  | checked pair =>
      obtain ⟨rfl, rfl⟩ := Prod.mk.inj (Except.ok.inj stepped)
      exact agreed_openRoom_iff good rfl rfl writes rfl
  | roomCreated pair =>
      simp only [Server.matchStep, bind_eq_ok, Server.setStateOf_eq_ok, pure_eq_ok,
        Except.ok.injEq, Prod.mk.injEq] at stepped
      obtain ⟨_, ⟨ref, user1, rfl⟩, rfl, rfl⟩ := stepped
      refine ⟨fun _ => good.setGaming rfl rfl ?_ rfl, fun _ => trivial⟩
      rw [writes]
      show [pair.user1, pair.user2] = [some ref, pair.user2]
      rw [user1]
  | user1Gaming pair =>
      simp only [Server.matchStep, bind_eq_ok, Server.setStateOf_eq_ok, pure_eq_ok,
        Except.ok.injEq, Prod.mk.injEq] at stepped
      obtain ⟨_, ⟨ref, user2, rfl⟩, rfl, rfl⟩ := stepped
      refine ⟨fun _ => good.setGaming rfl rfl ?_ rfl, fun _ => trivial⟩
      rw [writes]
      show [pair.user2] = [some ref]
      rw [user2]
  | user2Gaming pair | user1Told pair =>
      obtain ⟨rfl, rfl⟩ := Prod.mk.inj (Except.ok.inj stepped)
      exact ⟨fun _ => good.of_same (Server.rooms_sendMsg ..) (Server.users_sendMsg ..) writes.symm,
        fun _ => trivial⟩

/-- The next call of whoever holds the mutex. -/
theorem agreed_proceed_iff {threads next : Threads} {roomCount : UInt32} (good : Agreed threads)
    (called : threads.proceed roomCount = .ok next) :
    Keeps threads (.proceed roomCount) ↔ Agreed next := by
  cases holder : threads.holder with
  | nobody =>
      simp only [Threads.proceed, holder, Except.ok.injEq] at called
      simp only [Keeps, holder, HolderKeeps, called ▸ good]
  | addUser userId user =>
      simp only [Threads.proceed, holder] at called
      obtain ⟨⟨server, ret⟩, added, built⟩ := bind_eq_ok.mp called
      simp only [pure_eq_ok, Except.ok.injEq] at built
      subst built
      simp only [Keeps, holder, HolderKeeps, true_iff]
      have unwritten : pending threads.holder = [] := by rw [holder]; rfl
      obtain ⟨ref, info, _, held, ⟨_, rfl⟩ | ⟨idle, rfl⟩⟩ := Server.enqueue_ok added
      · exact good.of_same rfl rfl unwritten.symm
      · exact good.setState (by simp [UserManager.stateAt, held, idle]) (by decide) rfl rfl
          unwritten rfl
  | removeUser userId user =>
      simp only [Threads.proceed, holder] at called
      obtain ⟨⟨server, ret⟩, removed, built⟩ := bind_eq_ok.mp called
      simp only [pure_eq_ok, Except.ok.injEq] at built
      subst built
      simp only [Keeps, holder, HolderKeeps, true_iff]
      have unwritten : pending threads.holder = [] := by rw [holder]; rfl
      obtain ⟨ref, info, _, held, ⟨_, rfl⟩ | ⟨matching, rfl⟩⟩ := Server.dequeue_ok removed
      · exact good.of_same rfl rfl unwritten.symm
      · exact good.setState (by simp [UserManager.stateAt, held, matching]) (by decide) rfl rfl
          unwritten rfl
  | matchThread pc => exact agreed_matchStep_iff good holder called

/-! ### Pointers stay alive -/

/-- The match thread writes one state at most in one call, and a pointer it did not have before is
one it has just looked up. -/
theorem matchStep_ok {server next : Server} {roomCount : UInt32} {pc : MatchPc}
    {after : Option MatchPc} (stepped : server.matchStep roomCount pc = .ok (next, after)) :
    (next.users = server.users ∨
      ∃ ref state, next.users = server.users.setState ref state) ∧
    ∀ ref, some ref ∈ pointers ((after.map Holder.matchThread).getD .nobody) →
      some ref ∈ pointers (.matchThread pc) ∨ (server.users.stateAt ref).isSome = true := by
  cases pc with
  | popped | conn1Found =>
      obtain ⟨rfl, rfl⟩ := Prod.mk.inj (Except.ok.inj stepped)
      exact ⟨.inl rfl, by simp [pointers]⟩
  | connsFound userId1 userId2 conn1 conn2 =>
      obtain ⟨rfl, rfl⟩ := Prod.mk.inj (Except.ok.inj stepped)
      refine ⟨.inl rfl, fun ref held => .inr ?_⟩
      simp only [Option.map_some, Option.getD_some, pointers, List.mem_singleton] at held
      exact UserManager.isSome_stateAt_of_getUserByconn held.symm
  | user1Found userId1 userId2 conn1 conn2 user1 =>
      obtain ⟨rfl, rfl⟩ := Prod.mk.inj (Except.ok.inj stepped)
      refine ⟨.inl rfl, fun ref held => ?_⟩
      simp only [Option.map_some, Option.getD_some, pointers, List.mem_cons, List.not_mem_nil,
        or_false] at held ⊢
      exact held.imp id fun second => UserManager.isSome_stateAt_of_getUserByconn second.symm
  | fetched pair =>
      simp only [Server.matchStep] at stepped
      split at stepped
      · obtain ⟨rfl, rfl⟩ := Prod.mk.inj (Except.ok.inj stepped)
        exact ⟨.inl rfl, fun ref held => .inl held⟩
      · simp only [bind_eq_ok, Server.setStateOf_eq_ok, pure_eq_ok, Except.ok.injEq,
          Prod.mk.injEq] at stepped
        obtain ⟨_, ⟨ref, rfl, rfl⟩, rfl, rfl⟩ := stepped
        exact ⟨.inr ⟨ref, _, rfl⟩, fun ref held => .inl held⟩
  | reset pair =>
      simp only [Server.matchStep] at stepped
      split at stepped <;> obtain ⟨rfl, rfl⟩ := Prod.mk.inj (Except.ok.inj stepped)
      · exact ⟨.inl rfl, fun ref held => .inl held⟩
      · exact ⟨.inl (Server.users_sendMsg ..), fun ref held => .inl held⟩
  | checked pair =>
      obtain ⟨rfl, rfl⟩ := Prod.mk.inj (Except.ok.inj stepped)
      exact ⟨.inl rfl, fun ref held => .inl held⟩
  | roomCreated pair | user1Gaming pair =>
      simp only [Server.matchStep, bind_eq_ok, Server.setStateOf_eq_ok, pure_eq_ok,
        Except.ok.injEq, Prod.mk.injEq] at stepped
      obtain ⟨_, ⟨ref, _, rfl⟩, rfl, rfl⟩ := stepped
      exact ⟨.inr ⟨ref, _, rfl⟩, fun ref held => .inl held⟩
  | user2Gaming pair =>
      obtain ⟨rfl, rfl⟩ := Prod.mk.inj (Except.ok.inj stepped)
      exact ⟨.inl (Server.users_sendMsg ..), fun ref held => .inl held⟩
  | user1Told pair =>
      obtain ⟨rfl, rfl⟩ := Prod.mk.inj (Except.ok.inj stepped)
      exact ⟨.inl (Server.users_sendMsg ..), by simp [pointers]⟩

/-- A pointer's object stays alive when a state is written. -/
theorem isSome_stateAt_setState {users : UserManager} {ref other : Ref} {state : UserState}
    (alive : (users.stateAt other).isSome = true) :
    ((users.setState ref state).stateAt other).isSome = true := by
  rw [UserManager.stateAt_setState]
  split <;> simp [alive]

/-- Every call keeps the pointers alive. -/
theorem alive_step {threads next : Threads} {call : ThreadCall} (alive : Alive threads)
    (called : threads.step call = .ok next) : Alive next := by
  intro ref held
  cases call with
  | login row conn =>
      obtain ⟨user, _, built⟩ := bind_eq_ok.mp called
      simp only [pure_eq_ok, Except.ok.injEq] at built
      subst built
      simp only [UserManager.stateAt_addOnlineUser]
      split
      · rfl
      · exact alive ref held
  | removeOnlineUser userId erased =>
      obtain rfl := Except.ok.inj called
      simp only [UserManager.stateAt_removeOnlineUser]
      exact alive ref held
  | exitRoom userId =>
      obtain ⟨⟨rooms, users⟩, removed, built⟩ := bind_eq_ok.mp called
      simp only [pure_eq_ok, Except.ok.injEq] at built
      subst built
      obtain ⟨_, _, _, usersEq⟩ := GameRoomManager.removeUser_ok removed
      have before := alive ref held
      simp only [usersEq]
      split
      · exact before
      · simp only [UserManager.stateAt_setUserState]
        split <;> simp [before]
  | lockToAdd | lockToRemove | lockToMatch =>
      obtain ⟨_, users, _, fewer⟩ := lock_same called trivial
      rw [users]
      exact alive ref (fewer held)
  | proceed roomCount =>
      simp only [Threads.step, Threads.proceed] at called
      split at called
      · obtain rfl := Except.ok.inj called
        exact alive ref held
      · obtain ⟨_, _, built⟩ := bind_eq_ok.mp called
        simp only [pure_eq_ok, Except.ok.injEq] at built
        simp [← built, pointers] at held
      · obtain ⟨_, _, built⟩ := bind_eq_ok.mp called
        simp only [pure_eq_ok, Except.ok.injEq] at built
        simp [← built, pointers] at held
      · rename_i pc holder
        obtain ⟨⟨server, after⟩, stepped, built⟩ := bind_eq_ok.mp called
        simp only [pure_eq_ok, Except.ok.injEq] at built
        subst built
        obtain ⟨users, fetched⟩ := matchStep_ok stepped
        have before : (threads.server.users.stateAt ref).isSome = true := by
          rcases fetched ref held with old | new
          · exact alive ref (by rw [holder]; exact old)
          · exact new
        rcases users with same | ⟨written, state, changed⟩
        · simp only [same, before]
        · simp only [changed, isSome_stateAt_setState before]

/-! ### Runs -/

/-- A call that returns keeps the agreement exactly if it meets its condition. -/
theorem agreed_step_iff {threads next : Threads} {call : ThreadCall}
    (good : Agreed threads ∧ Alive threads) (called : threads.step call = .ok next) :
    Keeps threads call ↔ Agreed next ∧ Alive next := by
  simp only [alive_step good.2 called, and_true]
  cases call with
  | login row conn => exact agreed_login_iff good.1 good.2 called
  | removeOnlineUser userId erased =>
      obtain rfl := Except.ok.inj called
      exact ⟨fun _ => agreed_removeOnlineUser good.1 userId erased, fun _ => trivial⟩
  | exitRoom userId => exact agreed_exitRoom_iff good.1 called
  | lockToAdd | lockToRemove | lockToMatch =>
      obtain ⟨rooms, users, writes, _⟩ := lock_same called trivial
      exact ⟨fun _ => good.1.of_same rooms users writes, fun _ => trivial⟩
  | proceed roomCount => exact agreed_proceed_iff good.1 called

/-- In every interleaving the agreement holds at every moment exactly if every call that returns
meets its condition. -/
theorem agreed_always_iff (db : UserDB) (calls : List ThreadCall) :
    Always Threads.step Agreed (Threads.new db) calls ↔
      Admissible Threads.step (WhenReturns Threads.step Keeps) (Threads.new db) calls := by
  have start : Agreed (Threads.new db) := fun userId ref found => by
    simp [Threads.new, Server.new, UserManager.new] at found
  have aliveStart : Alive (Threads.new db) := fun ref held => by
    simp [Threads.new, pointers] at held
  have aliveAlways : Always Threads.step Alive (Threads.new db) calls :=
    always_of_admissible (fun _ _ _ alive _ called => alive_step alive called) aliveStart
      (admissible_of_forall (fun _ _ => trivial) _ calls)
  rw [← always_iff_whenReturns (fun _ _ _ good called => agreed_step_iff good called)
    ⟨start, aliveStart⟩ calls]
  exact ⟨fun always => always.and aliveAlways, fun both => both.imp fun _ => And.left⟩

/-- Where the agreement holds and no writes are pending, gaming and having a room are the same. -/
theorem Agreed.gamingIffRoom {threads : Threads} (good : Agreed threads) :
    GamingIffRoom threads := by
  intro outside userId state current
  have unwritten : pending threads.holder = [] := by
    unfold pending
    split
    · rename_i holder
      simp [holder, Between] at outside
    · rename_i holder
      simp [holder, Between] at outside
    · rfl
  obtain ⟨info, online, rfl⟩ := Option.map_eq_some_iff.mp current
  obtain ⟨ref, found, held⟩ := UserManager.userInfo_eq_some_iff.mp online
  have entry := good userId ref found
  rw [entry, unwritten, UserManager.stateAt, held]
  simp

/-- In every interleaving whose calls meet their conditions, whenever the match thread is not
between `createRoom` and its last `setState`, an online user is gaming exactly if it has a room. -/
theorem gamingIffRoom_always {db : UserDB} {calls : List ThreadCall}
    (keeps : Admissible Threads.step (WhenReturns Threads.step Keeps) (Threads.new db) calls) :
    Always Threads.step GamingIffRoom (Threads.new db) calls :=
  ((agreed_always_iff db calls).mpr keeps).imp fun _ good => good.gamingIffRoom

/-- Ann and Bob log in, on connections 10 and 11, and ask to be matched. -/
def bothWait : List ThreadCall :=
  [.login (UserDB.newRow 1 "ann" "") 10, .login (UserDB.newRow 2 "bob" "") 11,
    .lockToAdd 1, .proceed 0, .lockToAdd 2, .proceed 0]

/-- The two are matched, and Bob leaves the room and asks again. -/
theorem gamingIffRoom_matched :
    Always Threads.step GamingIffRoom (Threads.new annAndBob)
      (bothWait ++ Threads.matchTurn (MatchPool.band 1000) 2 ++
        [.exitRoom 2, .lockToAdd 2, .proceed 0]) :=
  gamingIffRoom_always (by unfold WhenReturns; decide +kernel)

/-- The two are matched, and Ann logs in a second time. -/
def reloginInRoom : List ThreadCall :=
  bothWait ++ Threads.matchTurn (MatchPool.band 1000) 2 ++ [.login (UserDB.newRow 1 "ann" "") 12]

/-- Ann has a room and is idle. -/
theorem not_gamingIffRoom_after_relogin :
    ¬ Always Threads.step GamingIffRoom (Threads.new annAndBob) reloginInRoom := by
  have ann : (run Threads.step (Threads.new annAndBob) reloginInRoom).toOption.map
      (fun threads => (threads.holder, threads.server.users.stateOf 1,
        (threads.server.rooms.userId2Room.find? 1).isSome)) =
      some (.nobody, some .online, true) := by
    decide +kernel
  refine not_always_of_view ann fun last seen gamingIffRoom => ?_
  simp only [Prod.mk.injEq] at seen
  obtain ⟨holder, state, seated⟩ := seen
  have entry := gamingIffRoom (by simp [holder, Between]) 1 .online state
  simp [Seated, seated] at entry

end GomukuServer.Proofs.GamingRooms
