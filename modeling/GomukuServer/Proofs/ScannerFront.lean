/-
Module: GomukuServer.Proofs.ScannerFront
Layer: Proofs
Purpose: What the scanner looks at.  Its loop is guarded by the number of all connections, so it
  asks an empty queue for its front as soon as it has popped every idle connection and more are
  borrowed than the pool keeps.
Trusted boundary: none
Main exports: fronts, LooksAtConnections, looks_at_connections_iff
-/
import GomukuServer.Proofs.PoolAccounting

namespace GomukuServer.Proofs.ScannerFront

open Base Base.Runs Base.Owned Db Db.MysqlConnectionPool PoolAccounting

/-- The queues whose front the loop of a scanner pass evaluates, one for each round. -/
def fronts (settings : Settings) (clock : Nat → Int) :
    Nat → List Ref → Int → Heap (Option MysqlConnection) → List (List Ref)
  | _, [], cnt, _ => if settings.initSize < cnt then [[]] else []
  | round, ref :: rest, cnt, connections =>
      if settings.initSize < cnt then
        (ref :: rest) ::
          match object connections ref with
          | none => []
          | some connection =>
              if idleLimit settings ≤ clock round - connection.alivetime then
                fronts settings clock (round + 1) rest (cnt - 1) (delete connections ref)
              else []
      else []

/-- A pass of the scanner evaluates `front()` of no empty queue. -/
def LooksAtConnections (pool : MysqlConnectionPool) : PoolCall → Prop
  | .scannerConnectionTask clock =>
      ∀ queue ∈ fronts pool.settings clock 0 pool.connectionQue pool.connectionCnt
        pool.connections, queue ≠ []
  | _ => True

instance (pool : MysqlConnectionPool) : DecidablePred (LooksAtConnections pool)
  | .scannerConnectionTask clock =>
      inferInstanceAs (Decidable (∀ queue ∈ fronts pool.settings clock 0 pool.connectionQue
        pool.connectionCnt pool.connections, queue ≠ []))
  | .getMysqlConnection => isTrue trivial
  | .release _ _ => isTrue trivial
  | .produceConnectionTask _ => isTrue trivial

/-- The loop goes wrong exactly where it evaluates the front of an empty queue. -/
theorem reclaim_eq_outOfBounds_iff (settings : Settings) (clock : Nat → Int) (queue : List Ref)
    (round : Nat) (cnt : Int) (connections : Heap (Option MysqlConnection)) :
    reclaim settings clock round queue cnt connections = .error .outOfBounds ↔
      [] ∈ fronts settings clock round queue cnt connections := by
  induction queue generalizing round cnt connections with
  | nil =>
      unfold reclaim fronts
      split <;> simp
  | cons ref rest inductionHypothesis =>
      unfold reclaim fronts
      by_cases more : settings.initSize < cnt
      · simp only [if_pos more, List.mem_cons, reduceCtorEq, false_or]
        cases object connections ref with
        | none => simp
        | some connection =>
            dsimp only
            split
            · exact inductionHypothesis (round + 1) (cnt - 1) (delete connections ref)
            · simp
      · simp [if_neg more]

/-- The loop sees a connection in every round exactly if no more connections are lent than the pool
keeps, or it comes to one that has not been idle for too long. -/
theorem fronts_ne_nil_iff (settings : Settings) (clock : Nat → Int) (borrowed queue : List Ref)
    (round : Nat) (cnt : Int) (connections : Heap (Option MysqlConnection))
    (balanced : Balanced ⟨settings, connections, queue, cnt, borrowed⟩) :
    (∀ seen ∈ fronts settings clock round queue cnt connections, seen ≠ []) ↔
      (borrowed.length : Int) ≤ settings.initSize ∨
        SomeFresh settings clock round queue connections := by
  induction queue generalizing round cnt connections with
  | nil =>
      have lent : cnt = borrowed.length := by simpa using balanced.counted
      have none : ¬ SomeFresh settings clock round [] connections := by simp [SomeFresh]
      rw [or_iff_left none]
      unfold fronts
      split
      · rename_i more
        exact iff_of_false (by simp) (by omega)
      · rename_i few
        exact iff_of_true (by simp) (by omega)
  | cons ref rest inductionHypothesis =>
      have kept : Kept connections (ref :: (rest ++ borrowed)) := balanced.kept
      obtain ⟨connection, there⟩ := kept.exists_object List.mem_cons_self
      have other : ref ∉ rest := fun inside =>
        (List.nodup_cons.mp kept.nodup).1 (List.mem_append_left _ inside)
      have counted : cnt = (rest.length + 1 : Nat) + borrowed.length := balanced.counted
      unfold fronts
      by_cases more : settings.initSize < cnt
      · simp only [if_pos more, there, List.forall_mem_cons, ne_eq, reduceCtorEq,
          not_false_eq_true, true_and]
        rw [someFresh_cons there other]
        by_cases old : idleLimit settings ≤ clock round - connection.alivetime
        · have fewer : Balanced ⟨settings, delete connections ref, rest, cnt - 1, borrowed⟩ :=
            ⟨kept.delete, by dsimp only; omega⟩
          rw [if_pos old, or_iff_right (Int.not_lt.mpr old)]
          exact inductionHypothesis (round + 1) (cnt - 1) (delete connections ref) fewer
        · rw [if_neg old]
          exact iff_of_true (by simp) (.inr (.inl (Int.not_le.mp old)))
      · rw [if_neg more]
        exact iff_of_true (by simp) (.inl (by omega))

/-- For one call of a balanced pool this is what `StopsInTime` says. -/
theorem looks_at_connections_step_iff {pool : MysqlConnectionPool} (balanced : Balanced pool)
    (call : PoolCall) : LooksAtConnections pool call ↔ StopsInTime pool call := by
  cases call with
  | scannerConnectionTask clock =>
      exact fronts_ne_nil_iff pool.settings clock pool.borrowed pool.connectionQue 0
        pool.connectionCnt pool.connections balanced
  | getMysqlConnection => exact Iff.rfl
  | release borrower now => exact Iff.rfl
  | produceConnectionTask now => exact Iff.rfl

/-- For all settings and every interleaving of calls from the constructed pool: the scanner never
evaluates the front of an empty queue if and only if every pass starts with no more connections lent
than the pool keeps, or comes to one that has not been idle for too long. -/
theorem looks_at_connections_iff (settings : Settings) (clock : Nat → Int)
    (calls : List PoolCall) :
    Admissible step LooksAtConnections (new settings clock) calls ↔
      Admissible step StopsInTime (new settings clock) calls := by
  have inside : Admissible step (fun _ _ => True) (new settings clock) calls :=
    admissible_of_forall (fun _ _ => trivial) (new settings clock) calls
  exact admissible_congr_of_inv (fun _ _ _ balanced _ => balanced_step balanced)
    (fun pool call balanced _ => looks_at_connections_step_iff balanced call)
    (balanced_new settings clock).1 inside

/-- Two borrowers, one more than the pool keeps connections, and a third connection that is idle. -/
def twoBorrowers : List PoolCall :=
  [.getMysqlConnection, .produceConnectionTask 10, .getMysqlConnection,
    .produceConnectionTask 20, .scannerConnectionTask fun round => 70000 + round]

/-- The scanner deletes the idle connection, and then looks at the front of the empty queue. -/
theorem not_looks_at_connections_twoBorrowers :
    ¬ Admissible step LooksAtConnections (new ⟨1, 8, 60⟩ fun _ => 0) twoBorrowers := by
  decide +kernel

end GomukuServer.Proofs.ScannerFront
