/-
Module: GomukuServer.Proofs.PoolWakeups
Layer: Proofs
Purpose: Who sleeps on the condition variable of the connection pool beside a queue that it waits
  for.  The scanner and the deleters change the queue without a notification: the producer can sleep
  beside a queue that the scanner has emptied, a caller beside a connection that has been given
  back, and neither in any other way.
Trusted boundary: none
Main exports: ProducerAlert, CallersAlert, producerAlert_iff, callersAlert_iff
-/
import GomukuServer.Db.PoolThreads

namespace GomukuServer.Proofs.PoolWakeups

open Base Base.Runs Base.Monitor Db Db.PoolThreads

/-- The producer sleeps only while there are connections in the queue, or a caller who has taken one
is about to notify it. -/
def ProducerAlert : PoolState → Prop :=
  Covered (fun asleep pool => asleep = .whileNotEmpty → pool.connectionQue ≠ [])
    fun point _ => point = .notifyTaken

/-- Callers sleep only while the queue is empty, or the producer, which has added to it, is about to
notify them. -/
def CallersAlert : PoolState → Prop :=
  Covered (fun asleep pool => asleep = .whileEmpty → pool.connectionQue = [])
    fun point _ => point = .countUp ∨ point = .notifyMade

/-- A thread sleeps at the point. -/
def SleepsAt (state : PoolState) (point : PoolPoint) : Prop :=
  ∃ sleeper ∈ state.sleeping, sleeper.2 = point

/-- The scanner does not take the last connection out of the queue while the producer sleeps. -/
def LeavesOne (state : PoolState) : Event PoolThread PoolPoint Int Empty → Prop
  | .act _ _ => ∀ holder ∈ state.holder, (∃ ref, holder.point = .drop ref) →
      state.shared.connectionQue.tail = [] → ¬ SleepsAt state .whileNotEmpty
  | _ => True

/-- No deleter gives a connection back while a caller sleeps. -/
def NobodyMisses (state : PoolState) : Event PoolThread PoolPoint Int Empty → Prop
  | .act _ _ => ∀ holder ∈ state.holder, (∃ borrower ref, holder.point = .giveBack borrower ref) →
      ¬ SleepsAt state .whileEmpty
  | _ => True

/-- What an action of the holder does to the queue, and what it comes to. -/
inductive Queued (queue : List Ref) : PoolPoint → List Ref → Effect PoolPoint → Prop
  | taken : Queued queue .pop queue.tail (.goOn .notifyTaken)
  | dropped {ref} : Queued queue (.drop ref) queue.tail (.goOn (.countDown ref))
  | given {borrower ref} : Queued queue (.giveBack borrower ref) (queue ++ [ref]) (.goOn .unlock)
  | made {ref} : Queued queue (.push ref) (queue ++ [ref]) (.goOn .countUp)
  | counted : Queued queue .countUp queue (.goOn .notifyMade)
  | toldTaken : Queued queue .notifyTaken queue (.notifyAll .unlock)
  | toldMade : Queued queue .notifyMade queue (.notifyAll .unlock)
  | callerWaits (empty : queue = []) : Queued queue .whileEmpty queue (.wait .whileEmpty)
  | producerWaits (filled : queue ≠ []) : Queued queue .whileNotEmpty queue (.wait .whileNotEmpty)
  /-- Any other action, from a point at which nobody is owed a notification. -/
  | other {point effect} (owes : point ∉ [.notifyTaken, .countUp, .notifyMade])
      (plain : effect = .leave ∨ ∃ next, effect = .goOn next)
      (unchanging : (∀ ref, point ≠ .drop ref) ∧ ∀ borrower ref, point ≠ .giveBack borrower ref) :
      Queued queue point queue effect

/-- Every notification goes to all. -/
theorem Queued.ne_notifyOne {queue after : List Ref} {point : PoolPoint}
    {effect : Effect PoolPoint} (queued : Queued queue point after effect) (next : PoolPoint) :
    effect ≠ .notifyOne next := by
  cases queued with
  | other _ plain => rcases plain with rfl | ⟨_, rfl⟩ <;> simp
  | _ => simp

/-- Every action is one of these. -/
theorem queued_of_act {now : Int} {point : PoolPoint} {pool after : MysqlConnectionPool}
    {effect : Effect PoolPoint} (actEq : act now point pool = .ok (after, effect)) :
    Queued pool.connectionQue point after.connectionQue effect := by
  cases point with
  | whileEmpty =>
      obtain ⟨rfl, rfl⟩ := Prod.mk.inj (Except.ok.inj actEq)
      split
      · exact .callerWaits (by assumption)
      · exact .other (by simp) (.inr ⟨_, rfl⟩) (by simp)
  | whileNotEmpty =>
      obtain ⟨rfl, rfl⟩ := Prod.mk.inj (Except.ok.inj actEq)
      split
      · exact .producerWaits (by assumption)
      · exact .other (by simp) (.inr ⟨_, rfl⟩) (by simp)
  | timedOut | whileMore =>
      obtain ⟨rfl, rfl⟩ := Prod.mk.inj (Except.ok.inj actEq)
      refine .other (by simp) ?_ (by simp)
      split
      · simp
      · simp
  | pop =>
      obtain ⟨rfl, rfl⟩ := Prod.mk.inj (Except.ok.inj actEq)
      exact .taken
  | drop ref =>
      obtain ⟨rfl, rfl⟩ := Prod.mk.inj (Except.ok.inj actEq)
      exact .dropped
  | giveBack borrower ref =>
      obtain ⟨rfl, rfl⟩ := Prod.mk.inj (Except.ok.inj actEq)
      exact .given
  | push ref =>
      obtain ⟨rfl, rfl⟩ := Prod.mk.inj (Except.ok.inj actEq)
      exact .made
  | countUp =>
      obtain ⟨rfl, rfl⟩ := Prod.mk.inj (Except.ok.inj actEq)
      exact .counted
  | notifyTaken =>
      obtain ⟨rfl, rfl⟩ := Prod.mk.inj (Except.ok.inj actEq)
      exact .toldTaken
  | notifyMade =>
      obtain ⟨rfl, rfl⟩ := Prod.mk.inj (Except.ok.inj actEq)
      exact .toldMade
  | countDown ref | delete ref | unlock =>
      obtain ⟨rfl, rfl⟩ := Prod.mk.inj (Except.ok.inj actEq)
      exact .other (by simp) (by simp) (by simp)
  | front | create =>
      simp only [act] at actEq
      split at actEq
      all_goals cases actEq
      all_goals exact .other (by simp) (by simp) (by simp)
  | refresh borrower =>
      simp only [act] at actEq
      split at actEq
      · cases actEq
        exact .other (by simp) (by simp) (by simp)
      · split at actEq
        all_goals cases actEq
        exact .other (by simp) (by simp) (by simp)
  | look =>
      simp only [act] at actEq
      split at actEq
      · cases actEq
      · split at actEq
        all_goals cases actEq
        refine .other (by simp) ?_ (by simp)
        split
        · simp
        · simp

/-- The producer stays alert through an action exactly if the action leaves it a connection. -/
theorem producerAlert_apply_iff {state : PoolState} {holder : Holder PoolThread PoolPoint Int}
    {now : Int} {after : MysqlConnectionPool} {effect : Effect PoolPoint}
    (alert : ProducerAlert state) (holds : state.holder = some holder)
    (actEq : act now holder.point state.shared = .ok (after, effect)) (chosen : Nat) :
    LeavesOne state (.act now chosen) ↔
      ProducerAlert ({ state with shared := after }.apply (holder.reads now) chosen effect) := by
  have queued := queued_of_act actEq
  have filled : holder.point ≠ .notifyTaken → ∀ sleeper ∈ state.sleeping,
      sleeper.2 = .whileNotEmpty → state.shared.connectionQue ≠ [] := by
    intro noDebt sleeper asleep producer
    have covered := alert sleeper asleep
    simp only [holds, Option.mem_def, Option.some.injEq, exists_eq_left'] at covered
    exact covered.resolve_right noDebt producer
  rw [ProducerAlert, covered_apply_iff chosen queued.ne_notifyOne]
  simp only [LeavesOne, holds, Option.mem_def, Option.some.injEq, forall_eq', SleepsAt, not_exists,
    not_and]
  generalize holder.point = point at queued filled ⊢
  generalize queueEq : after.connectionQue = queue at queued
  cases queued with
  | taken => simp [Discharged]
  | @dropped ref =>
      -- the scanner notifies nobody
      constructor
      · intro leaves
        refine ⟨fun sleeper asleep => .inl fun producer none => ?_, by simp⟩
        exact leaves ⟨ref, rfl⟩ (queueEq.symm.trans none) sleeper asleep producer
      · rintro ⟨sees, _⟩ _ none sleeper asleep producer
        rcases sees sleeper asleep with some | owed
        · exact some producer (queueEq.trans none)
        · exact absurd owed (by simp)
  | given | made => simp [Discharged, queueEq]
  | toldTaken | toldMade => simp [Discharged]
  | counted | callerWaits =>
      have filled := filled (by simp)
      simpa [Discharged, queueEq] using fun thread point => filled (thread, point)
  | producerWaits some =>
      have filled := filled (by simp)
      simp [Discharged, queueEq, some]
  | other owes plain unchanging =>
      have filled := filled (by simp at owes; exact owes.1)
      refine iff_of_true (fun drops => absurd drops.choose_spec (unchanging.1 _)) ?_
      rcases plain with rfl | ⟨next, rfl⟩
      · simpa [Discharged, queueEq] using fun thread point => filled (thread, point)
      · refine ⟨fun sleeper asleep => .inl ?_, by simp⟩
        simpa only [queueEq] using filled sleeper asleep

/-- Callers stay alert through an action exactly if it is no deleter's that gives a connection back
while one of them sleeps. -/
theorem callersAlert_apply_iff {state : PoolState} {holder : Holder PoolThread PoolPoint Int}
    {now : Int} {after : MysqlConnectionPool} {effect : Effect PoolPoint}
    (alert : CallersAlert state) (holds : state.holder = some holder)
    (actEq : act now holder.point state.shared = .ok (after, effect)) (chosen : Nat) :
    NobodyMisses state (.act now chosen) ↔
      CallersAlert ({ state with shared := after }.apply (holder.reads now) chosen effect) := by
  have queued := queued_of_act actEq
  have empty : holder.point ≠ .countUp → holder.point ≠ .notifyMade →
      ∀ sleeper ∈ state.sleeping, sleeper.2 = .whileEmpty → state.shared.connectionQue = [] := by
    intro counted told sleeper asleep caller
    have covered := alert sleeper asleep
    simp only [holds, Option.mem_def, Option.some.injEq, exists_eq_left'] at covered
    exact covered.resolve_right (by simp [counted, told]) caller
  rw [CallersAlert, covered_apply_iff chosen queued.ne_notifyOne]
  simp only [NobodyMisses, holds, Option.mem_def, Option.some.injEq, forall_eq', SleepsAt,
    not_exists, not_and]
  generalize holder.point = point at queued empty ⊢
  generalize queueEq : after.connectionQue = queue at queued
  cases queued with
  | @given borrower ref =>
      -- the deleter notifies nobody
      constructor
      · intro misses
        refine ⟨fun sleeper asleep => .inl fun caller => ?_, by simp⟩
        exact absurd caller (misses ⟨borrower, ref, rfl⟩ sleeper asleep)
      · rintro ⟨sees, _⟩ _ sleeper asleep caller
        rcases sees sleeper asleep with none | owed
        · simp [queueEq] at none
          exact none caller
        · exact absurd owed (by simp)
  | taken | dropped =>
      have empty := empty (by simp) (by simp)
      refine iff_of_true (by simp) ⟨fun sleeper asleep => .inl fun caller => ?_, by simp⟩
      rw [queueEq, empty sleeper asleep caller, List.tail_nil]
  | made | counted => simp [Discharged]
  | toldTaken | toldMade => simp [Discharged]
  | callerWaits none =>
      simp [Discharged, queueEq, none]
  | producerWaits =>
      have empty := empty (by simp) (by simp)
      simpa [Discharged, queueEq] using fun thread point => empty (thread, point)
  | other owes plain unchanging =>
      simp only [List.mem_cons, List.not_mem_nil, or_false, not_or] at owes
      have empty := empty owes.2.1 owes.2.2
      refine iff_of_true (fun gives => absurd gives.choose_spec.choose_spec (unchanging.2 _ _)) ?_
      rcases plain with rfl | ⟨next, rfl⟩
      · simpa [Discharged, queueEq] using fun thread point => empty (thread, point)
      · refine ⟨fun sleeper asleep => .inl ?_, by simp⟩
        simpa only [queueEq] using empty sleeper asleep

/-! ### Runs -/

/-- In every run of the threads, the producer never sleeps beside an empty queue without a
notification on its way, if and only if the scanner never takes the last connection out of the queue
while the producer sleeps. -/
theorem producerAlert_iff (pool : MysqlConnectionPool)
    (events : List (Event PoolThread PoolPoint Int Empty)) :
    Always PoolThreads.step ProducerAlert (.start pool) events ↔
      Admissible PoolThreads.step LeavesOne (.start pool) events := by
  unfold PoolThreads.step
  refine covered_always_iff ?_ ?_ ?_ (fun call => nomatch call) ?_ pool events
  · intro state event other
    cases event with
    | act now chosen => exact absurd rfl (other now chosen)
    | _ => trivial
  · intro state event free
    cases event <;> simp [LeavesOne, free]
  · rintro state holder now chosen fault holds actEq other same ⟨ref, drops⟩
    obtain rfl : holder = other := by simpa [holds] using same
    simp [drops, program, act] at actEq
  · intro state holder now chosen after effect alert holds actEq
    exact producerAlert_apply_iff alert holds actEq chosen

/-- A caller takes the only connection, the producer makes a second one and sleeps, and after a
quiet minute the scanner deletes that. -/
def quietMinute : List (Event PoolThread PoolPoint Int Empty) :=
  [.enter .producer .whileNotEmpty, .act 0 0, .enter (.caller 1) .whileEmpty] ++
    List.replicate 5 (.act 0 0) ++ [.relock 0] ++ List.replicate 6 (.act 0 0) ++
      [.enter .producer .whileNotEmpty, .act 0 0, .enter .scanner .whileMore] ++
        List.replicate 6 (.act 60000 0)

/-- The producer sleeps on, beside an empty queue and with room for another connection. -/
theorem not_producerAlert_quietMinute :
    ¬ Always PoolThreads.step ProducerAlert (.start (MysqlConnectionPool.new ⟨1, 2, 60⟩ fun _ => 0))
      quietMinute := by
  have observed : (run PoolThreads.step
      (.start (MysqlConnectionPool.new ⟨1, 2, 60⟩ fun _ => 0)) quietMinute).toOption.map
        (fun state => (state.sleeping, state.shared.connectionQue, state.holder.isNone)) =
      some ([(.producer, .whileNotEmpty)], [], true) := by
    decide +kernel
  refine not_always_of_view observed fun last seen alert => ?_
  obtain ⟨asleep, rest⟩ := Prod.mk.inj seen
  obtain ⟨empty, free⟩ := Prod.mk.inj rest
  have filled := Covered.idle_of_free alert (Option.isNone_iff_eq_none.mp free)
    (show (.producer, .whileNotEmpty) ∈ last.sleeping by
      rw [asleep]
      exact List.mem_singleton.mpr rfl)
  exact filled rfl empty

/-- In every run of the threads, no caller sleeps beside a connection in the queue without a
notification on its way, if and only if no deleter ever gives a connection back while a caller
sleeps. -/
theorem callersAlert_iff (pool : MysqlConnectionPool)
    (events : List (Event PoolThread PoolPoint Int Empty)) :
    Always PoolThreads.step CallersAlert (.start pool) events ↔
      Admissible PoolThreads.step NobodyMisses (.start pool) events := by
  unfold PoolThreads.step
  refine covered_always_iff ?_ ?_ ?_ (fun call => nomatch call) ?_ pool events
  · intro state event other
    cases event with
    | act now chosen => exact absurd rfl (other now chosen)
    | _ => trivial
  · intro state event free
    cases event <;> simp [NobodyMisses, free]
  · rintro state holder now chosen fault holds actEq other same ⟨borrower, ref, gives⟩
    obtain rfl : holder = other := by simpa [holds] using same
    simp [gives, program, act] at actEq
  · intro state holder now chosen after effect alert holds actEq
    exact callersAlert_apply_iff alert holds actEq chosen

end GomukuServer.Proofs.PoolWakeups
