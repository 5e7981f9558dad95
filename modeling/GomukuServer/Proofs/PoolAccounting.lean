/-
Module: GomukuServer.Proofs.PoolAccounting
Layer: Proofs
Purpose: Who owns the connections of the pool.  Every connection is in the queue or lent to one
  borrower, and the counter counts both, as long as the scanner does not ask an empty queue for its
  front, which it does when more connections are lent than the pool keeps and all others are idle.
Trusted boundary: none
Main exports: Accounted, StopsInTime, accounted_iff
-/
import GomukuServer.Base.Runs
import GomukuServer.Db.MysqlConnectionPool
import Mathlib.Data.List.Perm.Basic

namespace GomukuServer.Proofs.PoolAccounting

open Base Base.Runs Base.Owned Db Db.MysqlConnectionPool

/-- Every connection that exists is in the queue or held by a borrower, once and not both, and the
counter is the number of both, between the two sizes. -/
structure Accounted (pool : MysqlConnectionPool) : Prop where
  kept : Kept pool.connections (pool.connectionQue ++ pool.borrowed)
  counted : pool.connectionCnt = pool.connectionQue.length + pool.borrowed.length
  atLeast : pool.settings.initSize ≤ pool.connectionCnt
  atMost : pool.connectionCnt ≤ pool.settings.maxSize

/-- Since when the connection in some place of a queue has been idle. -/
def idleSince (connections : Heap (Option MysqlConnection)) (queue : List Ref) (place : Nat) :
    Option Int :=
  queue[place]?.bind fun ref => (object connections ref).map MysqlConnection.alivetime

/-- Some connection of the queue has not been idle for too long when its turn comes. -/
def SomeFresh (settings : Settings) (clock : Nat → Int) (round : Nat) (queue : List Ref)
    (connections : Heap (Option MysqlConnection)) : Prop :=
  ∃ place < queue.length, ∃ since ∈ idleSince connections queue place,
    clock (round + place) - since < idleLimit settings

/-- A pass of the scanner starts with no more connections lent than the pool keeps, or with one in
the queue that has not been idle for too long. -/
def StopsInTime (pool : MysqlConnectionPool) : PoolCall → Prop
  | .scannerConnectionTask clock =>
      (pool.borrowed.length : Int) ≤ pool.settings.initSize ∨
        SomeFresh pool.settings clock 0 pool.connectionQue pool.connections
  | _ => True

instance (settings : Settings) (clock : Nat → Int) (round : Nat) (queue : List Ref)
    (connections : Heap (Option MysqlConnection)) :
    Decidable (SomeFresh settings clock round queue connections) :=
  inferInstanceAs (Decidable (∃ place < queue.length, ∃ since ∈ idleSince connections queue place,
    clock (round + place) - since < idleLimit settings))

instance (pool : MysqlConnectionPool) : DecidablePred (StopsInTime pool)
  | .scannerConnectionTask clock =>
      inferInstanceAs (Decidable ((pool.borrowed.length : Int) ≤ pool.settings.initSize ∨
        SomeFresh pool.settings clock 0 pool.connectionQue pool.connections))
  | .getMysqlConnection => isTrue trivial
  | .release _ _ => isTrue trivial
  | .produceConnectionTask _ => isTrue trivial

/-! ### The constructor -/

/-- A pool that is accounted for but for the two sizes. -/
structure Balanced (pool : MysqlConnectionPool) : Prop where
  kept : Kept pool.connections (pool.connectionQue ++ pool.borrowed)
  counted : pool.connectionCnt = pool.connectionQue.length + pool.borrowed.length

theorem Accounted.balanced {pool : MysqlConnectionPool} (accounted : Accounted pool) :
    Balanced pool := ⟨accounted.kept, accounted.counted⟩

theorem balanced_empty (settings : Settings) : Balanced (empty settings) := ⟨kept_empty, rfl⟩

/-- A new connection is in the queue. -/
theorem balanced_pushNew {pool : MysqlConnectionPool} (balanced : Balanced pool) (now : Int) :
    Balanced (pool.pushNew now) where
  kept := by
    refine (balanced.kept.create ⟨now⟩).perm ?_
    simp only [pushNew, List.append_assoc, List.singleton_append]
    exact List.perm_middle.symm
  counted := by
    simp only [pushNew, balanced.counted, List.length_append, List.length_singleton]
    omega

/-- The loop of the constructor counts what it creates. -/
theorem foldl_pushNew (clock : Nat → Int) (rounds : List Nat) {pool : MysqlConnectionPool}
    (balanced : Balanced pool) :
    ∃ last, rounds.foldl (fun pool round => pool.pushNew (clock round)) pool = last ∧
      Balanced last ∧ last.settings = pool.settings ∧ last.borrowed = pool.borrowed ∧
      last.connectionCnt = pool.connectionCnt + rounds.length := by
  induction rounds generalizing pool with
  | nil => exact ⟨pool, rfl, balanced, rfl, rfl, by simp⟩
  | cons round rounds inductionHypothesis =>
      obtain ⟨last, built, good, settings, borrowed, counted⟩ :=
        inductionHypothesis (balanced_pushNew balanced (clock round))
      refine ⟨last, built, good, settings, borrowed, ?_⟩
      rw [counted, List.length_cons]
      simp only [pushNew]
      omega

/-- A new pool has its initial connections. -/
theorem balanced_new (settings : Settings) (clock : Nat → Int) :
    Balanced (new settings clock) ∧ (new settings clock).settings = settings ∧
      (new settings clock).connectionCnt = settings.initSize.toNat := by
  obtain ⟨pool, built, balanced, same, _, counted⟩ :=
    foldl_pushNew clock (List.range settings.initSize.toNat) (balanced_empty settings)
  have built : new settings clock = pool := built
  rw [built]
  exact ⟨balanced, same, by simpa [empty] using counted⟩

/-- That is all right if it may have them. -/
theorem accounted_new_iff {settings : Settings} (sizes : settings.initSize ≤ settings.maxSize)
    (clock : Nat → Int) : Accounted (new settings clock) ↔ 0 ≤ settings.maxSize := by
  obtain ⟨balanced, same, number⟩ := balanced_new settings clock
  constructor
  · intro accounted
    have above := accounted.atMost
    rw [same, number] at above
    omega
  · intro room
    exact ⟨balanced.kept, balanced.counted, by rw [same, number]; omega,
      by rw [same, number]; omega⟩

/-! ### The calls -/

/-- A borrower takes what leaves the queue. -/
theorem balanced_getMysqlConnection {pool : MysqlConnectionPool} (balanced : Balanced pool) :
    Balanced pool.getMysqlConnection := by
  unfold getMysqlConnection
  cases queueEq : pool.connectionQue with
  | nil => exact balanced
  | cons ref rest =>
      have kept := balanced.kept
      have counted := balanced.counted
      rw [queueEq] at kept counted
      refine ⟨kept.perm ?_, ?_⟩
      · simp only [List.cons_append, ← List.append_assoc]
        exact (List.perm_append_singleton ref (rest ++ pool.borrowed)).symm
      · simp only [List.length_cons, List.length_append, List.length_nil] at counted ⊢
        omega

/-- A deleter returns a connection that exists, and the queue gets what the borrower had. -/
theorem balanced_release {pool : MysqlConnectionPool} (balanced : Balanced pool)
    (borrower : Nat) (now : Int) :
    ∃ next, pool.release borrower now = .ok next ∧ Balanced next ∧
      next.settings = pool.settings ∧ next.connectionCnt = pool.connectionCnt := by
  unfold release
  cases heldEq : pool.borrowed[borrower]? with
  | none => exact ⟨pool, rfl, balanced, rfl, rfl⟩
  | some ref =>
      obtain ⟨inside, found⟩ := List.getElem?_eq_some_iff.mp heldEq
      have listed : ref ∈ pool.connectionQue ++ pool.borrowed :=
        List.mem_append_right _ (found ▸ List.getElem_mem inside)
      obtain ⟨connection, exists_⟩ := balanced.kept.exists_object listed
      simp only [exists_]
      refine ⟨_, rfl, ⟨(balanced.kept.perm ?_).update ref _, ?_⟩, rfl, rfl⟩
      · have back : pool.borrowed.Perm (ref :: pool.borrowed.eraseIdx borrower) := by
          rw [← found]
          exact (List.getElem_cons_eraseIdx_perm inside).symm
        simpa using List.Perm.append_left pool.connectionQue back
      · have counted := balanced.counted
        have length := List.length_eraseIdx_add_one inside
        simp only [List.length_append, List.length_singleton] at counted ⊢
        omega

/-- The producer adds a connection or does nothing. -/
theorem balanced_produceConnectionTask {pool : MysqlConnectionPool} (balanced : Balanced pool)
    (now : Int) : Balanced (pool.produceConnectionTask now) := by
  unfold produceConnectionTask
  split
  · exact balanced
  · split
    · exact balanced_pushNew balanced now
    · exact balanced

/-- Borrowing changes no size. -/
theorem accounted_getMysqlConnection {pool : MysqlConnectionPool} (accounted : Accounted pool) :
    Accounted pool.getMysqlConnection := by
  obtain ⟨kept, counted⟩ := balanced_getMysqlConnection accounted.balanced
  refine ⟨kept, counted, ?_, ?_⟩
  · unfold getMysqlConnection
    split <;> exact accounted.atLeast
  · unfold getMysqlConnection
    split <;> exact accounted.atMost

/-- Nor does returning. -/
theorem accounted_release {pool : MysqlConnectionPool} (accounted : Accounted pool)
    (borrower : Nat) (now : Int) :
    ∃ next, pool.release borrower now = .ok next ∧ Accounted next := by
  obtain ⟨next, released, balanced, settings, counter⟩ :=
    balanced_release accounted.balanced borrower now
  refine ⟨next, released, balanced.kept, balanced.counted, ?_, ?_⟩
  · rw [settings, counter]
    exact accounted.atLeast
  · rw [settings, counter]
    exact accounted.atMost

/-- The producer adds a connection only below the limit. -/
theorem accounted_produceConnectionTask {pool : MysqlConnectionPool} (accounted : Accounted pool)
    (now : Int) : Accounted (pool.produceConnectionTask now) := by
  obtain ⟨kept, counted⟩ := balanced_produceConnectionTask accounted.balanced now
  refine ⟨kept, counted, ?_, ?_⟩
  · have above := accounted.atLeast
    unfold produceConnectionTask
    split
    · exact above
    · split
      · simp only [pushNew]
        omega
      · exact above
  · have below := accounted.atMost
    unfold produceConnectionTask
    split
    · exact below
    · split
      · simp only [pushNew]
        omega
      · exact below

/-! ### The scanner -/

/-- Deleting another connection does not change since when those of a queue have been idle. -/
theorem idleSince_delete {connections : Heap (Option MysqlConnection)} {queue : List Ref}
    {ref : Ref} (other : ref ∉ queue) (place : Nat) :
    idleSince (delete connections ref) queue place = idleSince connections queue place := by
  unfold idleSince
  cases found : queue[place]? with
  | none => rfl
  | some inside =>
      have differs : inside ≠ ref := by
        rintro rfl
        exact other (List.mem_of_getElem? found)
      simp [differs]

/-- Whether a connection is fresh when its turn comes is decided at the front or behind it. -/
theorem someFresh_cons {settings : Settings} {clock : Nat → Int} {round : Nat} {ref : Ref}
    {rest : List Ref} {connections : Heap (Option MysqlConnection)} {connection : MysqlConnection}
    (there : object connections ref = some connection) (other : ref ∉ rest) :
    SomeFresh settings clock round (ref :: rest) connections ↔
      clock round - connection.alivetime < idleLimit settings ∨
        SomeFresh settings clock (round + 1) rest (delete connections ref) := by
  have front : idleSince connections (ref :: rest) 0 = some connection.alivetime := by
    simp [idleSince, there]
  have behind (place : Nat) : idleSince connections (ref :: rest) (place + 1) =
      idleSince (delete connections ref) rest place := by
    rw [idleSince_delete other]
    simp [idleSince]
  constructor
  · rintro ⟨place, inside, since, idle, fresh⟩
    cases place with
    | zero =>
        obtain rfl : connection.alivetime = since := by simpa [front] using idle
        exact .inl fresh
    | succ place =>
        refine .inr ⟨place, by simpa using inside, since, behind place ▸ idle, ?_⟩
        rwa [Nat.add_assoc, Nat.add_comm 1]
  · rintro (fresh | ⟨place, inside, since, idle, fresh⟩)
    · exact ⟨0, by simp, connection.alivetime, front, fresh⟩
    · refine ⟨place + 1, by simpa using inside, since, (behind place).symm ▸ idle, ?_⟩
      rwa [Nat.add_comm place, ← Nat.add_assoc]

/-- What a pass of the scanner has done when it returns: it has deleted connections from the front
of the queue, each of them idle for too long when its turn came, and has stopped with no more left
than the pool keeps, or at a connection that has not been idle for too long. -/
structure Reclaimed (pool : MysqlConnectionPool) (clock : Nat → Int) (round : Nat)
    (deleted : List Ref) (next : MysqlConnectionPool) : Prop where
  frame : next.settings = pool.settings ∧ next.borrowed = pool.borrowed
  fromFront : pool.connectionQue = deleted ++ next.connectionQue
  counter : next.connectionCnt = pool.connectionCnt - deleted.length
  gone : ∀ ref, object next.connections ref =
    if ref ∈ deleted then none else object pool.connections ref
  idle : ∀ place, ∀ since ∈ idleSince pool.connections deleted place,
    idleLimit pool.settings ≤ clock (round + place) - since
  stopped : next.connectionCnt ≤ pool.settings.initSize ∨
    ∃ since ∈ idleSince next.connections next.connectionQue 0,
      clock (round + deleted.length) - since < idleLimit pool.settings

/-- A pass that deletes nothing. -/
theorem reclaimed_nothing {pool : MysqlConnectionPool} {clock : Nat → Int} {round : Nat}
    (stopped : pool.connectionCnt ≤ pool.settings.initSize ∨
      ∃ since ∈ idleSince pool.connections pool.connectionQue 0,
        clock round - since < idleLimit pool.settings) : Reclaimed pool clock round [] pool where
  frame := ⟨rfl, rfl⟩
  fromFront := rfl
  counter := by simp
  gone := by simp
  idle := by simp [idleSince]
  stopped := stopped

/-- The loop keeps the balance, and does what a pass is for. -/
theorem reclaim_reclaims (settings : Settings) (clock : Nat → Int) (borrowed queue : List Ref)
    (round : Nat) (cnt : Int) (connections : Heap (Option MysqlConnection))
    (balanced : Balanced ⟨settings, connections, queue, cnt, borrowed⟩)
    {queue' : List Ref} {cnt' : Int} {connections' : Heap (Option MysqlConnection)}
    (looped : reclaim settings clock round queue cnt connections =
      .ok (queue', cnt', connections')) :
    Balanced ⟨settings, connections', queue', cnt', borrowed⟩ ∧
      ∃ deleted, Reclaimed ⟨settings, connections, queue, cnt, borrowed⟩ clock round deleted
        ⟨settings, connections', queue', cnt', borrowed⟩ := by
  induction queue generalizing round cnt connections with
  | nil =>
      unfold reclaim at looped
      split at looped
      · cases looped
      · rename_i few
        obtain ⟨rfl, rfl, rfl⟩ : [] = queue' ∧ cnt = cnt' ∧ connections = connections' := by
          simpa using looped
        exact ⟨balanced, [], reclaimed_nothing (.inl (Int.not_lt.mp few))⟩
  | cons ref rest inductionHypothesis =>
      have kept : Kept connections (ref :: (rest ++ borrowed)) := balanced.kept
      obtain ⟨connection, there⟩ := kept.exists_object List.mem_cons_self
      have other : ref ∉ rest := fun inside =>
        (List.nodup_cons.mp kept.nodup).1 (List.mem_append_left _ inside)
      unfold reclaim at looped
      by_cases more : settings.initSize < cnt
      · by_cases old : idleLimit settings ≤ clock round - connection.alivetime
        · simp only [if_pos more, there, if_pos old] at looped
          have counted : cnt = (rest.length + 1 : Nat) + borrowed.length := balanced.counted
          have fewer : Balanced ⟨settings, delete connections ref, rest, cnt - 1, borrowed⟩ :=
            ⟨kept.delete, by dsimp only; omega⟩
          obtain ⟨good, deleted, passed⟩ :=
            inductionHypothesis (round + 1) (cnt - 1) (delete connections ref) fewer looped
          have fromFront : rest = deleted ++ queue' := passed.fromFront
          have behind : ref ∉ deleted := fun inside =>
            other (fromFront ▸ List.mem_append_left _ inside)
          refine ⟨good, ref :: deleted, ⟨rfl, rfl⟩, congrArg (ref :: ·) fromFront, ?_, ?_, ?_, ?_⟩
          · have counter : cnt' = cnt - 1 - deleted.length := passed.counter
            simp only [List.length_cons]
            omega
          · intro one
            refine (passed.gone one).trans ?_
            simp only [object_delete, List.mem_cons]
            by_cases same : one = ref <;> simp [same]
          · intro place since idle
            cases place with
            | zero =>
                obtain rfl : connection.alivetime = since := by
                  simpa [idleSince, there] using idle
                exact old
            | succ place =>
                have later := passed.idle place since
                  (by rw [idleSince_delete behind]; simpa [idleSince] using idle)
                rwa [Nat.add_assoc, Nat.add_comm 1] at later
          · have stopped := passed.stopped
            rwa [Nat.add_assoc, Nat.add_comm 1] at stopped
        · simp only [if_pos more, there, if_neg old] at looped
          obtain ⟨rfl, rfl, rfl⟩ :
              ref :: rest = queue' ∧ cnt = cnt' ∧ connections = connections' := by
            simpa using looped
          refine ⟨balanced, [], reclaimed_nothing (.inr ⟨connection.alivetime, ?_, ?_⟩)⟩
          · simp [idleSince, there]
          · exact Int.not_le.mp old
      · simp only [if_neg more] at looped
        obtain ⟨rfl, rfl, rfl⟩ :
            ref :: rest = queue' ∧ cnt = cnt' ∧ connections = connections' := by
          simpa using looped
        exact ⟨balanced, [], reclaimed_nothing (.inl (Int.not_lt.mp more))⟩

/-- A pass that returns keeps the balance and has reclaimed what it deleted. -/
theorem scannerConnectionTask_reclaims {pool next : MysqlConnectionPool} {clock : Nat → Int}
    (balanced : Balanced pool) (passed : pool.scannerConnectionTask clock = .ok next) :
    Balanced next ∧ ∃ deleted, Reclaimed pool clock 0 deleted next := by
  simp only [scannerConnectionTask, bind_eq_ok, Prod.exists] at passed
  obtain ⟨queue', cnt', connections', looped, built⟩ := passed
  obtain rfl := Except.ok.inj built
  exact reclaim_reclaims pool.settings clock pool.borrowed pool.connectionQue 0
    pool.connectionCnt pool.connections balanced looped

/-- Every call that returns keeps the balance. -/
theorem balanced_step {pool next : MysqlConnectionPool} {call : PoolCall}
    (balanced : Balanced pool) (stepEq : step pool call = .ok next) : Balanced next := by
  cases call with
  | getMysqlConnection =>
      obtain rfl := Except.ok.inj stepEq
      exact balanced_getMysqlConnection balanced
  | release borrower now =>
      obtain ⟨after, released, good, _⟩ := balanced_release balanced borrower now
      obtain rfl : after = next := by simpa [step, released] using stepEq
      exact good
  | produceConnectionTask now =>
      obtain rfl := Except.ok.inj stepEq
      exact balanced_produceConnectionTask balanced now
  | scannerConnectionTask clock => exact (scannerConnectionTask_reclaims balanced stepEq).1

/-- The loop of the scanner ends well exactly if it cannot empty the queue with more connections
lent than the pool keeps. -/
theorem reclaim_iff (settings : Settings) (clock : Nat → Int) (borrowed queue : List Ref)
    (round : Nat) (cnt : Int) (connections : Heap (Option MysqlConnection))
    (accounted : Accounted ⟨settings, connections, queue, cnt, borrowed⟩) :
    ((borrowed.length : Int) ≤ settings.initSize ∨
        SomeFresh settings clock round queue connections) ↔
      ∃ queue' cnt' connections',
        reclaim settings clock round queue cnt connections = .ok (queue', cnt', connections') ∧
          Accounted ⟨settings, connections', queue', cnt', borrowed⟩ := by
  induction queue generalizing round cnt connections with
  | nil =>
      have lent : cnt = borrowed.length := by simpa using accounted.counted
      have none : ¬ SomeFresh settings clock round [] connections := by simp [SomeFresh]
      rw [or_iff_left none]
      by_cases more : settings.initSize < cnt
      · simp only [reclaim, if_pos more, reduceCtorEq, false_and, exists_false, iff_false]
        omega
      · refine iff_of_true (by omega) ⟨[], cnt, connections, ?_, accounted⟩
        simp only [reclaim, if_neg more]
  | cons ref rest inductionHypothesis =>
      have kept : Kept connections (ref :: (rest ++ borrowed)) := accounted.kept
      obtain ⟨connection, there⟩ := kept.exists_object List.mem_cons_self
      have other : ref ∉ rest := by
        have nodup := (List.nodup_cons.mp kept.nodup).1
        exact fun inside => nodup (List.mem_append_left _ inside)
      have counted : cnt = (rest.length + 1 : Nat) + borrowed.length := accounted.counted
      have atMost : cnt ≤ settings.maxSize := accounted.atMost
      have stops (looped : reclaim settings clock round (ref :: rest) cnt connections =
          .ok (ref :: rest, cnt, connections)) : ∃ queue' cnt' connections',
          reclaim settings clock round (ref :: rest) cnt connections =
            .ok (queue', cnt', connections') ∧
              Accounted ⟨settings, connections', queue', cnt', borrowed⟩ :=
        ⟨ref :: rest, cnt, connections, looped, accounted⟩
      by_cases more : settings.initSize < cnt
      · by_cases idle : idleLimit settings ≤ clock round - connection.alivetime
        · have fewer : Accounted ⟨settings, delete connections ref, rest, cnt - 1, borrowed⟩ := by
            refine ⟨kept.delete, ?_, ?_, ?_⟩ <;> dsimp only <;> omega
          rw [someFresh_cons there other, or_iff_right (Int.not_lt.mpr idle),
            inductionHypothesis (round + 1) (cnt - 1) (delete connections ref) fewer]
          simp only [reclaim, if_pos more, there, if_pos idle]
        · refine iff_of_true (.inr ((someFresh_cons there other).mpr (.inl (Int.not_le.mp idle))))
            (stops ?_)
          simp only [reclaim, if_pos more, there, if_neg idle]
      · refine iff_of_true (.inl (by omega)) (stops ?_)
        simp only [reclaim, if_neg more]

/-- A call keeps the account exactly if the scanner stops in time. -/
theorem accounted_step_iff (pool : MysqlConnectionPool) (call : PoolCall)
    (accounted : Accounted pool) :
    StopsInTime pool call ↔ ∃ next, step pool call = .ok next ∧ Accounted next := by
  cases call with
  | getMysqlConnection =>
      exact iff_of_true trivial ⟨_, rfl, accounted_getMysqlConnection accounted⟩
  | release borrower now => exact iff_of_true trivial (accounted_release accounted borrower now)
  | produceConnectionTask now =>
      exact iff_of_true trivial ⟨_, rfl, accounted_produceConnectionTask accounted now⟩
  | scannerConnectionTask clock =>
      refine (reclaim_iff pool.settings clock pool.borrowed pool.connectionQue 0 pool.connectionCnt
        pool.connections accounted).trans ?_
      simp only [step, scannerConnectionTask, bind_eq_ok, Prod.exists]
      constructor
      · rintro ⟨queue', cnt', connections', looped, good⟩
        exact ⟨_, ⟨queue', cnt', connections', looped, rfl⟩, good⟩
      · rintro ⟨next, ⟨queue', cnt', connections', looped, built⟩, good⟩
        obtain rfl := Except.ok.inj built
        exact ⟨queue', cnt', connections', looped, good⟩

/-- For every pool whose first size is at most its second, and every interleaving of calls: nothing
goes wrong and every connection is in the queue or with one borrower, counted and between the two
sizes, throughout, if and only if the second size is not negative and every pass of the scanner
stops in time. -/
theorem accounted_iff {settings : Settings} (sizes : settings.initSize ≤ settings.maxSize)
    (clock : Nat → Int) (calls : List PoolCall) :
    Throughout step Accounted (new settings clock) calls ↔
      0 ≤ settings.maxSize ∧ Admissible step StopsInTime (new settings clock) calls := by
  have inside : Admissible step (fun _ _ => True) (new settings clock) calls :=
    admissible_of_forall (fun _ _ => trivial) _ calls
  by_cases room : 0 ≤ settings.maxSize
  · rw [and_iff_right room]
    exact throughout_iff_admissible (fun pool call good _ => accounted_step_iff pool call good)
      ((accounted_new_iff sizes clock).mpr room) calls inside
  · refine iff_of_false (fun good => room ?_) (fun both => room both.1)
    apply (accounted_new_iff sizes clock).mp
    cases calls with
    | nil => exact good
    | cons call calls => exact good.1

/-- The sizes of `Mysql.ini`. -/
def mysqlIni : Settings := ⟨10, 1024, 60⟩

/-- One borrower more than the pool keeps connections, and one of them is done before the scanner
comes. -/
def busyMinute : List PoolCall :=
  List.replicate 10 .getMysqlConnection ++
    [.produceConnectionTask 5, .getMysqlConnection, .release 3 59000,
      .scannerConnectionTask fun round => 60000 + round]

/-- The account is kept. -/
theorem accounted_busyMinute : Throughout step Accounted (new mysqlIni fun _ => 0) busyMinute :=
  (accounted_iff (by decide) (fun _ => 0) busyMinute).mpr ⟨by decide, by decide +kernel⟩

/-- One borrower more than the pool keeps connections, and none of them is done when the scanner
comes. -/
def longQueries : List PoolCall :=
  List.replicate 10 .getMysqlConnection ++
    [.produceConnectionTask 5, .getMysqlConnection,
      .scannerConnectionTask fun round => 60000 + round]

/-- The scanner asks the empty queue for its front. -/
theorem not_accounted_longQueries :
    ¬ Throughout step Accounted (new mysqlIni fun _ => 0) longQueries := by
  intro good
  obtain ⟨last, reached⟩ := exists_run_of_throughout good
  have failed : (run step (new mysqlIni fun _ => 0) longQueries).isOk = false := by
    decide +kernel
  simp [reached, Except.isOk, Except.toBool] at failed

end GomukuServer.Proofs.PoolAccounting
