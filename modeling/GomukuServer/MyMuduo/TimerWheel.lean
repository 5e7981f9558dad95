/-
Module: GomukuServer.MyMuduo.TimerWheel
Layer: MyMuduo
Purpose: `TimerWheel` and `TimerTask`.  A task stands in the slots of the wheel through shared
  pointers, one for its addition and one for each refresh, and runs its callback in its destructor,
  when the slot with the last of them is cleared.
Trusted boundary: the callbacks do not call the wheel
Main exports: TimerTask, TimerWheel, release, wheelRunOne, timerTaskAddInLoop,
  timerTaskRefreshInLoop, timerTaskCancelInLoop, timerTaskIsExist, step
-/
import GomukuServer.Base.Cpp
import GomukuServer.Base.Shared
import Mathlib.Algebra.Group.Nat.Defs

namespace GomukuServer.MyMuduo

open Base

/-- The id of a timer task. -/
abbrev TaskId := UInt64

/-- `TimerTask`.  The callback is known by the reference of the task. -/
structure TimerTask where
  id : TaskId
  delayTime : UInt32
  isCancel : Bool
deriving DecidableEq, Repr

/-- `TimerWheel`, with the shared objects it points to.  `ticks` counts the steps of the wheel, and
`fired` records the callbacks that were run, each with the step in which it ran. -/
structure TimerWheel where
  tasks : Heap (Shared TimerTask)
  tick : Nat
  wheel : Nat → List Ref
  weakPtrMap : PMap TaskId Ref
  ticks : Nat
  fired : List (Nat × Ref)

/-- A call of the wheel in its loop thread. -/
inductive TimerCall where
  | add (id : TaskId) (delayTime : UInt32)
  | refresh (id : TaskId)
  | cancel (id : TaskId)
  | runOne
deriving DecidableEq, Repr

namespace TimerWheel

/-- The number of slots. -/
def capacity : Nat := 60

/-- The constructor. -/
def new : TimerWheel where
  tasks := .empty
  tick := 0
  wheel := fun _ => []
  weakPtrMap := .empty
  ticks := 0
  fired := []

/-- `(_tick_ + delay_time) % _capacity_`, in 32 bits. -/
def slotAfter (timer : TimerWheel) (delayTime : UInt32) : Nat :=
  (timer.tick + delayTime.toNat) % 2 ^ 32 % capacity

/-- `push_back` of a copy of a shared pointer to a slot. -/
def pushBack (timer : TimerWheel) (slot : Nat) (task : Ref) : TimerWheel :=
  { timer with
    tasks := Shared.copy timer.tasks task
    wheel := fun other => if other = slot then timer.wheel other ++ [task] else timer.wheel other }

/-- `~TimerTask`: run the callback unless the task is cancelled, then remove the weak pointer. -/
def destroy (timer : TimerWheel) (ref : Ref) (task : TimerTask) : TimerWheel :=
  { timer with
    fired := if task.isCancel = false then timer.fired ++ [(timer.ticks, ref)] else timer.fired
    weakPtrMap := timer.weakPtrMap.erase task.id }

/-- Destroy a shared pointer, and with the last one the task. -/
def release (timer : TimerWheel) (ref : Ref) : TimerWheel :=
  let dropped := { timer with tasks := Shared.drop timer.tasks ref }
  match Shared.object timer.tasks ref with
  | none => dropped
  | some task => if Shared.count timer.tasks ref = 1 then dropped.destroy ref task else dropped

/-- `WheelRunOne`.  Clearing a slot destroys its pointers from the front. -/
def wheelRunOne (timer : TimerWheel) : TimerWheel :=
  let moved := { timer with tick := (timer.tick + 1) % capacity, ticks := timer.ticks + 1 }
  let cleared := (moved.wheel moved.tick).foldl release moved
  { cleared with
    wheel := fun other => if other = moved.tick then [] else cleared.wheel other }

/-- `TimerTaskAddInLoop`. -/
def timerTaskAddInLoop (timer : TimerWheel) (id : TaskId) (delayTime : UInt32) : TimerWheel :=
  let task := timer.tasks.next
  let timer := { timer with tasks := Shared.make timer.tasks ⟨id, delayTime, false⟩ }
  let timer := timer.pushBack (timer.slotAfter delayTime) task
  { timer with weakPtrMap := timer.weakPtrMap.insert id task }.release task

/-- `TimerTaskRefreshInLoop`.  The locked pointer is used without a check. -/
def timerTaskRefreshInLoop (timer : TimerWheel) (id : TaskId) : Except Fault TimerWheel :=
  match timer.weakPtrMap.find? id with
  | none => .ok timer
  | some ref =>
      match Shared.lock timer.tasks ref with
      | none => .error .nullDereference
      | some task =>
          let timer := { timer with tasks := Shared.copy timer.tasks ref }
          .ok ((timer.pushBack (timer.slotAfter task.delayTime) ref).release ref)

/-- `TimerTaskCancelInLoop`. -/
def timerTaskCancelInLoop (timer : TimerWheel) (id : TaskId) : TimerWheel :=
  match timer.weakPtrMap.find? id with
  | none => timer
  | some ref =>
      match Shared.lock timer.tasks ref with
      | none => timer
      | some _ =>
          let timer := { timer with tasks := Shared.copy timer.tasks ref }
          { timer with
            tasks := Shared.update timer.tasks ref fun task => { task with isCancel := true }
          }.release ref

/-- `TimerTaskIsExist`. -/
def timerTaskIsExist (timer : TimerWheel) (id : TaskId) : Bool := (timer.weakPtrMap.find? id).isSome

/-- The callbacks of one task that were run. -/
def firedBy (timer : TimerWheel) (ref : Ref) : List (Nat × Ref) :=
  timer.fired.filter fun entry => entry.2 = ref

/-- Make a call. -/
def step (timer : TimerWheel) : TimerCall → Except Fault TimerWheel
  | .add id delayTime => .ok (timer.timerTaskAddInLoop id delayTime)
  | .refresh id => timer.timerTaskRefreshInLoop id
  | .cancel id => .ok (timer.timerTaskCancelInLoop id)
  | .runOne => .ok timer.wheelRunOne

/-! ### Single calls -/

theorem mem_pushBack (timer : TimerWheel) (slot : Nat) (task : Ref) (other : Nat) (ref : Ref) :
    ref ∈ (timer.pushBack slot task).wheel other ↔
      ref ∈ timer.wheel other ∨ (other = slot ∧ ref = task) := by
  unfold pushBack
  dsimp only
  split <;> simp [*]

/-- A pointer that is not the last one goes without further effect. -/
theorem release_of_shared {timer : TimerWheel} {ref : Ref}
    (more : Shared.count timer.tasks ref ≠ 1) :
    timer.release ref = { timer with tasks := Shared.drop timer.tasks ref } := by
  unfold release
  split
  · rfl
  · exact if_neg more

/-- With the last pointer the task dies. -/
theorem release_of_last {timer : TimerWheel} {ref : Ref} {task : TimerTask}
    (made : Shared.object timer.tasks ref = some task) (last : Shared.count timer.tasks ref = 1) :
    timer.release ref =
      { timer with tasks := Shared.drop timer.tasks ref }.destroy ref task := by
  unfold release
  rw [made]
  exact if_pos last

@[simp] theorem tasks_release (timer : TimerWheel) (ref : Ref) :
    (timer.release ref).tasks = Shared.drop timer.tasks ref := by
  unfold release
  split
  · rfl
  · split <;> rfl

/-- What is left of an addition. -/
theorem timerTaskAddInLoop_eq (timer : TimerWheel) (id : TaskId) (delayTime : UInt32) :
    timer.timerTaskAddInLoop id delayTime =
      { timer with
        tasks := Shared.make timer.tasks ⟨id, delayTime, false⟩
        wheel := (timer.pushBack (timer.slotAfter delayTime) timer.tasks.next).wheel
        weakPtrMap := timer.weakPtrMap.insert id timer.tasks.next } := by
  have made := Shared.object_make timer.tasks ⟨id, delayTime, false⟩ timer.tasks.next
  rw [if_pos rfl] at made
  have more : Shared.count
      (Shared.copy (Shared.make timer.tasks ⟨id, delayTime, false⟩) timer.tasks.next)
        timer.tasks.next ≠ 1 := by
    rw [Shared.count_copy made]
    simp
  unfold timerTaskAddInLoop
  rw [release_of_shared more]
  simp only [pushBack, Shared.drop_copy]
  rfl

/-- A refresh of a live task is one more pointer to it. -/
theorem timerTaskRefreshInLoop_of_live {timer : TimerWheel} {id : TaskId} {ref : Ref}
    {task : TimerTask} (found : timer.weakPtrMap.find? id = some ref)
    (made : Shared.object timer.tasks ref = some task) (live : 0 < Shared.count timer.tasks ref) :
    timer.timerTaskRefreshInLoop id =
      .ok (timer.pushBack (timer.slotAfter task.delayTime) ref) := by
  have copied : Shared.object (Shared.copy timer.tasks ref) ref = some task := by
    rw [Shared.object_copy, made]
  have more : Shared.count (Shared.copy (Shared.copy timer.tasks ref) ref) ref ≠ 1 := by
    rw [Shared.count_copy copied, Shared.count_copy made]
    simp
  unfold timerTaskRefreshInLoop
  rw [found]
  simp only [Shared.lock_of_live live, made]
  rw [release_of_shared more]
  simp only [pushBack, Shared.drop_copy]
  rfl

/-- A cancellation of a live task sets its flag. -/
theorem timerTaskCancelInLoop_of_live {timer : TimerWheel} {id : TaskId} {ref : Ref}
    {task : TimerTask} (found : timer.weakPtrMap.find? id = some ref)
    (made : Shared.object timer.tasks ref = some task) (live : 0 < Shared.count timer.tasks ref) :
    timer.timerTaskCancelInLoop id =
      { timer with
        tasks := Shared.update timer.tasks ref fun task => { task with isCancel := true } } := by
  have more : Shared.count (Shared.update (Shared.copy timer.tasks ref) ref
      fun task => { task with isCancel := true }) ref ≠ 1 := by
    rw [Shared.count_update, Shared.count_copy made]
    simp
    omega
  unfold timerTaskCancelInLoop
  rw [found]
  simp only [Shared.lock_of_live live, made]
  rw [release_of_shared more]
  simp only [Shared.update_copy, Shared.drop_copy]

/-! ### Clearing a slot -/

/-- The pointers of a list are all that are left of a task. -/
def LastIn (timer : TimerWheel) (refs : List Ref) (ref : Ref) : Prop :=
  ref ∈ refs ∧ Shared.count timer.tasks ref = refs.count ref

/-- Releasing pointers moves nothing else. -/
theorem foldl_release_frame (refs : List Ref) (timer : TimerWheel) :
    (refs.foldl release timer).wheel = timer.wheel ∧ (refs.foldl release timer).tick = timer.tick ∧
      (refs.foldl release timer).ticks = timer.ticks := by
  induction refs generalizing timer with
  | nil => exact ⟨rfl, rfl, rfl⟩
  | cons ref refs inductionHypothesis =>
      have first : (timer.release ref).wheel = timer.wheel ∧
          (timer.release ref).tick = timer.tick ∧ (timer.release ref).ticks = timer.ticks := by
        unfold release
        split
        · exact ⟨rfl, rfl, rfl⟩
        · split <;> exact ⟨rfl, rfl, rfl⟩
      obtain ⟨wheel, tick, ticks⟩ := inductionHypothesis (timer.release ref)
      exact ⟨wheel.trans first.1, tick.trans first.2.1, ticks.trans first.2.2⟩

/-- Releasing pointers only adds to the record. -/
theorem fired_foldl_release (refs : List Ref) (timer : TimerWheel) :
    ∃ ran, (refs.foldl release timer).fired = timer.fired ++ ran := by
  induction refs generalizing timer with
  | nil => exact ⟨[], by simp⟩
  | cons ref refs inductionHypothesis =>
      have first : ∃ ran, (timer.release ref).fired = timer.fired ++ ran := by
        unfold release
        split
        · exact ⟨[], by simp⟩
        · split
          · unfold destroy
            dsimp only
            split
            · exact ⟨_, rfl⟩
            · exact ⟨[], by simp⟩
          · exact ⟨[], by simp⟩
      obtain ⟨firstRan, firstEq⟩ := first
      obtain ⟨ran, ranEq⟩ := inductionHypothesis (timer.release ref)
      exact ⟨firstRan ++ ran, by rw [List.foldl_cons, ranEq, firstEq, List.append_assoc]⟩

theorem object_foldl_release (refs : List Ref) (timer : TimerWheel) (ref : Ref) :
    Shared.object (refs.foldl release timer).tasks ref = Shared.object timer.tasks ref := by
  induction refs generalizing timer with
  | nil => rfl
  | cons head refs inductionHypothesis =>
      rw [List.foldl_cons, inductionHypothesis, tasks_release, Shared.object_drop]

theorem next_foldl_release (refs : List Ref) (timer : TimerWheel) :
    (refs.foldl release timer).tasks.next = timer.tasks.next := by
  induction refs generalizing timer with
  | nil => rfl
  | cons head refs inductionHypothesis =>
      rw [List.foldl_cons, inductionHypothesis, tasks_release, Shared.next_drop]

theorem count_foldl_release (refs : List Ref) (timer : TimerWheel) (ref : Ref) :
    Shared.count (refs.foldl release timer).tasks ref =
      Shared.count timer.tasks ref - refs.count ref := by
  induction refs generalizing timer with
  | nil => rfl
  | cons head refs inductionHypothesis =>
      rw [List.foldl_cons, inductionHypothesis, tasks_release, Shared.count_drop, List.count_cons]
      by_cases same : ref = head
      · subst same
        simp
        omega
      · rw [if_neg same, if_neg (by simpa using Ne.symm same)]
        rfl

instance (timer : TimerWheel) (refs : List Ref) (ref : Ref) : Decidable (timer.LastIn refs ref) :=
  inferInstanceAs (Decidable (_ ∧ _))

/-- The last pointer of a task comes first, or among the others. -/
theorem lastIn_cons {timer : TimerWheel} {head : Ref} {refs : List Ref}
    (held : ∀ ref, (head :: refs).count ref ≤ Shared.count timer.tasks ref) (ref : Ref) :
    timer.LastIn (head :: refs) ref ↔
      (ref = head ∧ Shared.count timer.tasks ref = 1) ∨ (timer.release head).LastIn refs ref := by
  have bound := held ref
  have member : ref ∈ refs ↔ 0 < refs.count ref := List.count_pos_iff.symm
  unfold LastIn
  rw [tasks_release, Shared.count_drop, List.mem_cons, member]
  rw [List.count_cons] at bound ⊢
  by_cases same : ref = head
  · subst same
    simp only [BEq.rfl, if_true, true_and, true_or] at bound ⊢
    omega
  · have other : (head == ref) = false := by simpa using Ne.symm same
    simp [same, other]

/-- The first pointer is not the last one if others follow. -/
theorem not_lastIn_release {timer : TimerWheel} {head : Ref} {refs : List Ref}
    (held : ∀ ref, (head :: refs).count ref ≤ Shared.count timer.tasks ref)
    (last : Shared.count timer.tasks head = 1) : ¬ (timer.release head).LastIn refs head := by
  have bound := held head
  rw [List.count_cons_self, last] at bound
  rintro ⟨inside, _⟩
  have some := List.count_pos_iff.mpr inside
  omega

theorem held_release {timer : TimerWheel} {head : Ref} {refs : List Ref}
    (held : ∀ ref, (head :: refs).count ref ≤ Shared.count timer.tasks ref) (ref : Ref) :
    refs.count ref ≤ Shared.count (timer.release head).tasks ref := by
  have bound := held ref
  rw [List.count_cons] at bound
  rw [tasks_release, Shared.count_drop]
  by_cases same : ref = head
  · subst same
    simp only [BEq.rfl, if_true] at bound ⊢
    omega
  · rw [if_neg same]
    omega

/-- Releasing a pointer runs no callback of another task, nor of a task that was never made. -/
theorem firedBy_release_of_ne {timer : TimerWheel} {head ref : Ref}
    (other : ref ≠ head ∨ Shared.object timer.tasks ref = none) :
    (timer.release head).firedBy ref = timer.firedBy ref := by
  unfold release
  split
  · rfl
  · rename_i task made
    have different : ref ≠ head := by
      rcases other with different | absent
      · exact different
      · rintro rfl
        cases absent.symm.trans made
    split
    · by_cases cancelled : task.isCancel = false
      · simp [firedBy, destroy, cancelled, Ne.symm different]
      · simp [firedBy, destroy, cancelled]
    · rfl

/-- Releasing the last pointer of a task runs its callback unless the task is cancelled. -/
theorem firedBy_release {timer : TimerWheel} {head ref : Ref} {task : TimerTask}
    (made : Shared.object timer.tasks ref = some task) :
    (timer.release head).firedBy ref = timer.firedBy ref ++
      if (ref = head ∧ Shared.count timer.tasks ref = 1) ∧ task.isCancel = false then
        [(timer.ticks, ref)] else [] := by
  by_cases same : ref = head
  · subst same
    by_cases last : Shared.count timer.tasks ref = 1
    · rw [release_of_last made last]
      by_cases cancelled : task.isCancel = false
      · simp [firedBy, destroy, cancelled, last]
      · simp [firedBy, destroy, cancelled]
    · rw [release_of_shared last, if_neg fun found => last found.1.2, List.append_nil]
      rfl
  · rw [firedBy_release_of_ne (Or.inl same), if_neg fun found => same found.1.1, List.append_nil]

/-- Releasing pointers runs the callbacks of the tasks that die, each once. -/
theorem firedBy_foldl_release {refs : List Ref} {timer : TimerWheel}
    (held : ∀ ref, refs.count ref ≤ Shared.count timer.tasks ref) {ref : Ref} {task : TimerTask}
    (made : Shared.object timer.tasks ref = some task) :
    (refs.foldl release timer).firedBy ref = timer.firedBy ref ++
      if timer.LastIn refs ref ∧ task.isCancel = false then [(timer.ticks, ref)] else [] := by
  induction refs generalizing timer with
  | nil => simp [LastIn]
  | cons head refs inductionHypothesis =>
      have stillMade : Shared.object (timer.release head).tasks ref = some task := by
        rw [tasks_release, Shared.object_drop, made]
      have ticks := (foldl_release_frame [head] timer).2.2
      rw [List.foldl_cons, inductionHypothesis (held_release held) stillMade, firedBy_release made]
      simp only [List.foldl_cons, List.foldl_nil] at ticks
      simp only [lastIn_cons held, ticks]
      by_cases first : ref = head ∧ Shared.count timer.tasks ref = 1
      · obtain ⟨rfl, last⟩ := first
        simp [last, not_lastIn_release held last]
      · simp [first]

/-- Releasing pointers runs no callback of a task that was never made. -/
theorem firedBy_foldl_release_of_none {refs : List Ref} {timer : TimerWheel} {ref : Ref}
    (absent : Shared.object timer.tasks ref = none) :
    (refs.foldl release timer).firedBy ref = timer.firedBy ref := by
  induction refs generalizing timer with
  | nil => rfl
  | cons head refs inductionHypothesis =>
      have stillAbsent : Shared.object (timer.release head).tasks ref = none := by
        rw [tasks_release, Shared.object_drop, absent]
      rw [List.foldl_cons, inductionHypothesis stillAbsent,
        firedBy_release_of_ne (Or.inr absent)]

/-- Releasing the last pointer of a task removes the weak pointer under the id of the task. -/
theorem find?_release {timer : TimerWheel} {head : Ref} {task : TimerTask}
    (made : Shared.object timer.tasks head = some task) (id : TaskId) (ref : Ref) :
    (timer.release head).weakPtrMap.find? id = some ref ↔
      timer.weakPtrMap.find? id = some ref ∧
        ¬ (Shared.count timer.tasks head = 1 ∧ task.id = id) := by
  by_cases last : Shared.count timer.tasks head = 1
  · rw [release_of_last made last]
    by_cases same : task.id = id
    · simp [destroy, same, last]
    · simp [destroy, same, Ne.symm same]
  · rw [release_of_shared last]
    simp [last]

/-- Releasing pointers removes the weak pointers under the ids of the tasks that die. -/
theorem find?_foldl_release {refs : List Ref} {timer : TimerWheel}
    (held : ∀ ref, refs.count ref ≤ Shared.count timer.tasks ref) (id : TaskId) (ref : Ref) :
    (refs.foldl release timer).weakPtrMap.find? id = some ref ↔
      timer.weakPtrMap.find? id = some ref ∧
        ∀ other task, timer.LastIn refs other → Shared.object timer.tasks other = some task →
          task.id ≠ id := by
  induction refs generalizing timer with
  | nil => simp [LastIn]
  | cons head refs inductionHypothesis =>
      rw [List.foldl_cons, inductionHypothesis (held_release held)]
      have bound := held head
      rw [List.count_cons_self] at bound
      obtain ⟨first, made⟩ : ∃ first, Shared.object timer.tasks head = some first := by
        cases found : Shared.object timer.tasks head with
        | none =>
            have zero := Shared.count_eq_zero found
            omega
        | some first => exact ⟨first, rfl⟩
      rw [find?_release made]
      simp only [lastIn_cons held, tasks_release, Shared.object_drop]
      constructor
      · rintro ⟨⟨found, survives⟩, others⟩
        refine ⟨found, ?_⟩
        rintro other task (⟨rfl, last⟩ | later) otherMade sameId
        · obtain rfl := Option.some.inj (made.symm.trans otherMade)
          exact survives ⟨last, sameId⟩
        · exact others other task later otherMade sameId
      · rintro ⟨found, others⟩
        refine ⟨⟨found, ?_⟩, fun other task later => others other task (Or.inr later)⟩
        rintro ⟨last, sameId⟩
        exact others head first (Or.inl ⟨rfl, last⟩) made sameId

end TimerWheel

end GomukuServer.MyMuduo
