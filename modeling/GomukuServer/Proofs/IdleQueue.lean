/-
Module: GomukuServer.Proofs.IdleQueue
Layer: Proofs
Purpose: The order of the idle connections.  All three places that push to the queue have just read
  the clock, so as long as the clock does not go back the queue is ordered from the connection that
  has been idle for longest to the one that came last, and the scanner may stop at the first one
  that has not been idle for too long.
Trusted boundary: the clock, as the sequence of the values that it returns
Main exports: clockReads, Ordered, PassInOrder, idle_queue_ordered
-/
import GomukuServer.Proofs.PoolAccounting

namespace GomukuServer.Proofs.IdleQueue

open Base Base.Runs Base.Owned Db Db.MysqlConnectionPool PoolAccounting

/-! ### What the clock returns -/

/-- What `clock()` returns in the loop of a scanner pass, once for each connection it looks at. -/
def reclaimReads (settings : Settings) (clock : Nat → Int) :
    Nat → List Ref → Int → Heap (Option MysqlConnection) → List Int
  | _, [], _, _ => []
  | round, ref :: rest, cnt, connections =>
      if settings.initSize < cnt then
        match object connections ref with
        | none => []
        | some connection =>
            clock round ::
              if idleLimit settings ≤ clock round - connection.alivetime then
                reclaimReads settings clock (round + 1) rest (cnt - 1) (delete connections ref)
              else []
      else []

/-- What `clock()` returns in a call. -/
def readsOf (pool : MysqlConnectionPool) : PoolCall → List Int
  | .getMysqlConnection => []
  | .release borrower now => if borrower < pool.borrowed.length then [now] else []
  | .produceConnectionTask now =>
      if pool.connectionQue = [] ∧ pool.connectionCnt < pool.settings.maxSize then [now] else []
  | .scannerConnectionTask clock =>
      reclaimReads pool.settings clock 0 pool.connectionQue pool.connectionCnt pool.connections

/-- What `clock()` returns in the calls of a run, one after another. -/
def clockReads (pool : MysqlConnectionPool) : List PoolCall → List Int
  | [] => []
  | call :: calls =>
      readsOf pool call ++
        match step pool call with
        | .ok next => clockReads next calls
        | .error _ => []

/-- What `clock()` returns in the constructor. -/
def constructorReads (settings : Settings) (clock : Nat → Int) : List Int :=
  (List.range settings.initSize.toNat).map clock

/-! ### The order of the queue -/

/-- Since when the connections of a queue have been idle, from front to back. -/
def idleTimes (connections : Heap (Option MysqlConnection)) (queue : List Ref) :
    List (Option Int) :=
  queue.map fun ref => (object connections ref).map MysqlConnection.alivetime

/-- The connections of the queue exist and are ordered by the time since when they are idle. -/
def Ordered (pool : MysqlConnectionPool) : Prop :=
  ∃ times : List Int, idleTimes pool.connections pool.connectionQue = times.map some ∧
    times.Pairwise (· ≤ ·)

/-- What a pass of the scanner has done: it has deleted connections that were idle for too long, the
oldest first, and if more are left than the pool keeps, then because no connection in the queue is
idle for too long by the last reading of the clock. -/
structure PassInOrder (pool : MysqlConnectionPool) (clock : Nat → Int) (deleted : List Ref)
    (times left : List Int) (next : MysqlConnectionPool) : Prop where
  reclaimed : Reclaimed pool clock 0 deleted next
  timesEq : idleTimes pool.connections deleted = times.map some
  leftEq : idleTimes next.connections next.connectionQue = left.map some
  oldestFirst : (times ++ left).Pairwise (· ≤ ·)
  idle : ∀ (place : Nat) (inside : place < times.length),
    idleLimit pool.settings ≤ clock place - times[place]
  othersFresh : pool.settings.initSize < next.connectionCnt →
    ∀ since ∈ left, clock deleted.length - since < idleLimit pool.settings

/-- Every pass of the scanner that returns has been in order. -/
def ScansInOrder (pool : MysqlConnectionPool) : PoolCall → Prop
  | .scannerConnectionTask clock => ∀ next, pool.scannerConnectionTask clock = .ok next →
      ∃ deleted times left, PassInOrder pool clock deleted times left next
  | _ => True

/-- The queue is ordered, and nothing in it is younger than what the clock is going to return. -/
structure OrderedBefore (pool : MysqlConnectionPool) (times reads : List Int) : Prop where
  balanced : Balanced pool
  timesEq : idleTimes pool.connections pool.connectionQue = times.map some
  ordered : (times ++ reads).Pairwise (· ≤ ·)

theorem OrderedBefore.isOrdered {pool : MysqlConnectionPool} {times reads : List Int}
    (before : OrderedBefore pool times reads) : Ordered pool :=
  ⟨times, before.timesEq, (List.pairwise_append.mp before.ordered).1⟩

/-! ### Single calls -/

/-- The time of one place is found in the list of all. -/
theorem idleSince_eq {connections : Heap (Option MysqlConnection)} {queue : List Ref}
    {times : List Int} (timesEq : idleTimes connections queue = times.map some) (place : Nat) :
    idleSince connections queue place = times[place]? := by
  have there := congrArg (·[place]?) timesEq
  simp only [idleTimes, List.getElem?_map] at there
  rw [idleSince]
  cases queued : queue[place]? with
  | none =>
      cases timed : times[place]? with
      | none => rfl
      | some time => simp [queued, timed] at there
  | some ref =>
      cases timed : times[place]? with
      | none => simp [queued, timed] at there
      | some time => simpa [queued, timed] using there

/-- Creating a connection does not change since when the others have been idle. -/
theorem idleTimes_create {connections : Heap (Option MysqlConnection)} {queue : List Ref}
    (connection : MysqlConnection) (there : connections.next ∉ queue) :
    idleTimes (create connections connection) queue = idleTimes connections queue := by
  refine List.map_congr_left fun ref inside => ?_
  have differs : ref ≠ connections.next := fun same => there (same ▸ inside)
  simp [differs]

/-- Nor does changing one that is not in the queue. -/
theorem idleTimes_update {connections : Heap (Option MysqlConnection)} {queue : List Ref}
    {ref : Ref} (change : MysqlConnection → MysqlConnection) (outside : ref ∉ queue) :
    idleTimes (update connections ref change) queue = idleTimes connections queue := by
  refine List.map_congr_left fun one inside => ?_
  have differs : one ≠ ref := fun same => outside (same ▸ inside)
  simp [differs]

/-- A new connection comes last. -/
theorem orderedBefore_pushNew {pool : MysqlConnectionPool} {times reads : List Int} {now : Int}
    (before : OrderedBefore pool times (now :: reads)) :
    OrderedBefore (pool.pushNew now) (times ++ [now]) reads where
  balanced := balanced_pushNew before.balanced now
  timesEq := by
    have fresh : pool.connections.next ∉ pool.connectionQue := by
      intro inside
      obtain ⟨connection, there⟩ :=
        before.balanced.kept.exists_object (List.mem_append_left _ inside)
      simp at there
    have same := (idleTimes_create ⟨now⟩ fresh).trans before.timesEq
    simp only [pushNew]
    rw [idleTimes, List.map_append, List.map_append]
    refine congrArg₂ (· ++ ·) same ?_
    simp
  ordered := by
    have ordered := before.ordered
    rwa [List.append_cons] at ordered

/-- The constructor reads the clock for each connection. -/
theorem orderedBefore_new (settings : Settings) (clock : Nat → Int) (reads : List Int)
    (monotone : (constructorReads settings clock ++ reads).Pairwise (· ≤ ·)) :
    ∃ times, OrderedBefore (new settings clock) times reads := by
  have loop (rounds : List Nat) (pool : MysqlConnectionPool) (times : List Int)
      (before : OrderedBefore pool times (rounds.map clock ++ reads)) :
      ∃ times', OrderedBefore
        (rounds.foldl (fun pool round => pool.pushNew (clock round)) pool) times' reads := by
    induction rounds generalizing pool times with
    | nil => exact ⟨times, before⟩
    | cons round rounds inductionHypothesis =>
        exact inductionHypothesis (pool.pushNew (clock round)) (times ++ [clock round])
          (orderedBefore_pushNew before)
  exact loop (List.range settings.initSize.toNat) (empty settings) []
    ⟨balanced_empty settings, rfl, monotone⟩

/-- A borrower takes the connection that has been idle for longest. -/
theorem orderedBefore_getMysqlConnection {pool : MysqlConnectionPool} {times reads : List Int}
    (before : OrderedBefore pool times reads) :
    ∃ times', OrderedBefore pool.getMysqlConnection times' reads := by
  have balanced := balanced_getMysqlConnection before.balanced
  have timesEq := before.timesEq
  have ordered := before.ordered
  unfold getMysqlConnection at balanced ⊢
  cases queueEq : pool.connectionQue with
  | nil => exact ⟨times, before⟩
  | cons ref rest =>
      simp only [queueEq] at balanced ⊢
      rw [queueEq] at timesEq
      cases times with
      | nil => cases timesEq
      | cons since times =>
          refine ⟨times, balanced, ?_, (List.pairwise_cons.mp ordered).2⟩
          exact (List.cons.inj timesEq).2

/-- A connection that is returned has just become idle and comes last. -/
theorem orderedBefore_release {pool next : MysqlConnectionPool} {times reads : List Int}
    {borrower : Nat} {now : Int}
    (before : OrderedBefore pool times (readsOf pool (.release borrower now) ++ reads))
    (released : pool.release borrower now = .ok next) :
    ∃ times', OrderedBefore next times' reads := by
  have stepEq : step pool (.release borrower now) = .ok next := released
  have balanced := balanced_step before.balanced stepEq
  have ordered := before.ordered
  unfold release at released
  cases heldEq : pool.borrowed[borrower]? with
  | none =>
      simp only [heldEq] at released
      obtain rfl := Except.ok.inj released
      have outside : ¬ borrower < pool.borrowed.length := by simpa using heldEq
      rw [readsOf, if_neg outside, List.nil_append] at ordered
      exact ⟨times, balanced, before.timesEq, ordered⟩
  | some ref =>
      obtain ⟨inside, found⟩ := List.getElem?_eq_some_iff.mp heldEq
      have listed : ref ∈ pool.borrowed := found ▸ List.getElem_mem inside
      have outside : ref ∉ pool.connectionQue := fun queued =>
        (List.nodup_append.mp before.balanced.kept.nodup).2.2 ref queued ref listed rfl
      obtain ⟨connection, there⟩ :=
        before.balanced.kept.exists_object (List.mem_append_right _ listed)
      simp only [heldEq, there] at released
      obtain rfl := Except.ok.inj released
      rw [readsOf, if_pos inside, List.singleton_append, List.append_cons] at ordered
      refine ⟨times ++ [now], balanced, ?_, ordered⟩
      have same := (idleTimes_update (fun connection => { connection with alivetime := now })
        outside).trans before.timesEq
      rw [idleTimes, List.map_append, List.map_append]
      refine congrArg₂ (· ++ ·) same ?_
      simp [there]

/-- The producer pushes a connection only when it has just read the clock. -/
theorem orderedBefore_produceConnectionTask {pool : MysqlConnectionPool} {times reads : List Int}
    {now : Int}
    (before : OrderedBefore pool times (readsOf pool (.produceConnectionTask now) ++ reads)) :
    ∃ times', OrderedBefore (pool.produceConnectionTask now) times' reads := by
  rw [readsOf] at before
  unfold produceConnectionTask
  by_cases waiting : pool.connectionQue = []
  · rw [if_neg (not_not.mpr waiting)]
    by_cases room : pool.connectionCnt < pool.settings.maxSize
    · rw [if_pos ⟨waiting, room⟩] at before
      rw [if_pos room]
      exact ⟨times ++ [now], orderedBefore_pushNew before⟩
    · rw [if_neg fun both => room both.2] at before
      rw [if_neg room]
      exact ⟨times, before⟩
  · rw [if_neg fun both => waiting both.1] at before
    rw [if_pos waiting]
    exact ⟨times, before⟩

/-- A pass deletes from the front of an ordered queue, which leaves it ordered, and what stopped it
is the oldest connection that is left. -/
theorem passInOrder {pool next : MysqlConnectionPool} {clock : Nat → Int} {times reads : List Int}
    (before : OrderedBefore pool times reads)
    (passed : pool.scannerConnectionTask clock = .ok next) :
    ∃ deleted gone left, times = gone ++ left ∧
      PassInOrder pool clock deleted gone left next := by
  obtain ⟨_, deleted, reclaimed⟩ := scannerConnectionTask_reclaims before.balanced passed
  have timesEq := before.timesEq
  rw [reclaimed.fromFront, idleTimes, List.map_append] at timesEq
  obtain ⟨gone, left, rfl, goneEq, leftEq⟩ := List.map_eq_append_iff.mp timesEq.symm
  have unique := before.balanced.kept.nodup
  rw [reclaimed.fromFront, List.append_assoc, List.nodup_append] at unique
  have stays : idleTimes next.connections next.connectionQue = left.map some := by
    rw [leftEq]
    refine List.map_congr_left fun ref inside => ?_
    have survives : ref ∉ deleted := fun dead =>
      unique.2.2 ref dead ref (List.mem_append_left _ inside) rfl
    rw [reclaimed.gone, if_neg survives]
  have ordered := (List.pairwise_append.mp before.ordered).1
  refine ⟨deleted, gone, left, rfl, reclaimed, goneEq.symm, stays, ordered, ?_, ?_⟩
  · intro place inside
    have since : gone[place] ∈ idleSince pool.connections deleted place := by
      rw [idleSince_eq goneEq.symm, List.getElem?_eq_getElem inside]
      rfl
    simpa using reclaimed.idle place gone[place] since
  · intro more since inside
    rcases reclaimed.stopped with few | ⟨oldest, front, fresh⟩
    · omega
    · rw [idleSince_eq stays] at front
      cases left with
      | nil => cases inside
      | cons first left =>
          obtain rfl : first = oldest := by simpa using front
          have least : first ≤ since := by
            have rest := (List.pairwise_append.mp ordered).2.1
            rcases List.mem_cons.mp inside with rfl | later
            · exact Int.le_refl _
            · exact (List.pairwise_cons.mp rest).1 since later
          rw [Nat.zero_add] at fresh
          omega

/-! ### Runs -/

/-- Every call that returns leaves the queue ordered. -/
theorem orderedBefore_step {pool next : MysqlConnectionPool} {call : PoolCall}
    {times reads : List Int} (before : OrderedBefore pool times (readsOf pool call ++ reads))
    (stepEq : step pool call = .ok next) : ∃ times', OrderedBefore next times' reads := by
  cases call with
  | getMysqlConnection =>
      obtain rfl := Except.ok.inj stepEq
      exact orderedBefore_getMysqlConnection before
  | release borrower now => exact orderedBefore_release before stepEq
  | produceConnectionTask now =>
      obtain rfl := Except.ok.inj stepEq
      exact orderedBefore_produceConnectionTask before
  | scannerConnectionTask clock =>
      obtain ⟨deleted, gone, left, rfl, pass⟩ := passInOrder before stepEq
      refine ⟨left, balanced_step before.balanced stepEq, pass.leftEq, ?_⟩
      have ordered := before.ordered
      simp only [List.append_assoc, List.pairwise_append, List.mem_append] at ordered ⊢
      refine ⟨ordered.2.1.1, ordered.2.1.2.1.2.1, fun since inside read later => ?_⟩
      exact ordered.2.1.2.2 since inside read (.inr later)

/-- With a clock that does not go back, in every run the queue is ordered at every moment, and every
pass of the scanner that returns has deleted only connections that were idle for too long, the
oldest first, and has left none such in the queue if it has left more than the pool keeps. -/
theorem idle_queue_ordered (settings : Settings) (clock : Nat → Int) (calls : List PoolCall)
    (monotone : (constructorReads settings clock ++
      clockReads (new settings clock) calls).Pairwise (· ≤ ·)) :
    Always step Ordered (new settings clock) calls ∧
      Admissible step ScansInOrder (new settings clock) calls := by
  obtain ⟨times, before⟩ := orderedBefore_new settings clock _ monotone
  clear monotone
  generalize new settings clock = pool at before ⊢
  induction calls generalizing pool times with
  | nil => exact ⟨before.isOrdered, trivial⟩
  | cons call calls inductionHypothesis =>
      have later (next : MysqlConnectionPool) (stepEq : step pool call = .ok next) :
          Always step Ordered next calls ∧ Admissible step ScansInOrder next calls := by
        rw [clockReads, stepEq] at before
        obtain ⟨times', after⟩ := orderedBefore_step before stepEq
        exact inductionHypothesis times' next after
      refine ⟨⟨before.isOrdered, fun next stepEq => (later next stepEq).1⟩, ?_,
        fun next stepEq => (later next stepEq).2⟩
      cases call with
      | scannerConnectionTask clock =>
          intro next passed
          obtain ⟨deleted, gone, left, _, pass⟩ := passInOrder before passed
          exact ⟨deleted, gone, left, pass⟩
      | getMysqlConnection => trivial
      | release borrower now => trivial
      | produceConnectionTask now => trivial

/-- Three borrowers return their connections one after another, and the scanner comes when two of
them have been idle for too long. -/
def threeReturns : List PoolCall :=
  [.getMysqlConnection, .produceConnectionTask 10, .getMysqlConnection,
    .produceConnectionTask 20, .getMysqlConnection, .release 1 100, .release 0 200,
    .release 0 90000, .scannerConnectionTask fun round => 100000 + round]

/-- The two are deleted and the pool keeps the third. -/
theorem idle_queue_ordered_threeReturns :
    Always step Ordered (new ⟨1, 8, 60⟩ fun _ => 0) threeReturns ∧
      Admissible step ScansInOrder (new ⟨1, 8, 60⟩ fun _ => 0) threeReturns :=
  idle_queue_ordered ⟨1, 8, 60⟩ (fun _ => 0) threeReturns (by decide +kernel)

end GomukuServer.Proofs.IdleQueue
