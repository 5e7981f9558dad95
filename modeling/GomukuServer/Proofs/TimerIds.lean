/-
Module: GomukuServer.Proofs.TimerIds
Layer: Proofs
Purpose: What an id of the timer wheel names.  The entry of an id always leads to the task that was
  added last under it, but it outlives a cancellation, and it goes with any task of that id.  So the
  ids name their latest tasks exactly in the runs in which no running task is cancelled and no older
  task dies before the one that has replaced it.
Trusted boundary: none
Main exports: Latest, Running, NamesLatest, Sound, Harmless, names_latest_iff
-/
import GomukuServer.MyMuduo.InactiveRelease
import GomukuServer.Proofs.TimerExactness

namespace GomukuServer.Proofs.TimerIds

open Base Base.Runs MyMuduo MyMuduo.TimerWheel Proofs.TimerExactness

/-- The task was added last under the id.  Tasks are numbered in the order of their addition. -/
def Latest (timer : TimerWheel) (id : TaskId) (ref : Ref) : Prop :=
  (∃ task, Shared.object timer.tasks ref = some task ∧ task.id = id) ∧
    ∀ other task, Shared.object timer.tasks other = some task → task.id = id → other ≤ ref

/-- The task has neither fired nor been cancelled. -/
def Running (timer : TimerWheel) (ref : Ref) : Prop :=
  timer.firedBy ref = [] ∧
    ∃ task, Shared.object timer.tasks ref = some task ∧ task.isCancel = false

/-- The call does not take the wheel to this slot. -/
def Elsewhere (slot : Nat) (timer : TimerWheel) : TimerCall → Prop
  | .runOne => (moved timer).tick ≠ slot
  | .add _ _ => True
  | .refresh _ => True
  | .cancel _ => True

/-- Whatever is called, the task does not fire before the wheel comes to this slot. -/
def Postponed (timer : TimerWheel) (slot : Nat) (ref : Ref) : Prop :=
  ∀ calls last, Admissible TimerWheel.step (Elsewhere slot) timer calls →
    run TimerWheel.step timer calls = .ok last → last.firedBy ref = []

/-- The task is cancelled, and whatever is called, it does not fire. -/
def Silenced (timer : TimerWheel) (ref : Ref) : Prop :=
  (∃ task, Shared.object timer.tasks ref = some task ∧ task.isCancel = true) ∧
    ∀ calls last, run TimerWheel.step timer calls = .ok last → last.firedBy ref = []

/-- The ids name the latest tasks: an id exists as long as its latest task is running, while it does
a refresh postpones this task and a cancellation cancels it, and a connection that enables its timer
has a running one. -/
structure NamesLatest (timer : TimerWheel) : Prop where
  exist : ∀ id, timer.timerTaskIsExist id = true ↔ ∃ ref, Latest timer id ref ∧ Running timer ref
  refresh : ∀ {id ref task}, timer.timerTaskIsExist id = true → Latest timer id ref →
    Shared.object timer.tasks ref = some task →
      ∃ next, timer.timerTaskRefreshInLoop id = .ok next ∧
        Postponed next (timer.slotAfter task.delayTime) ref
  cancel : ∀ {id ref}, timer.timerTaskIsExist id = true → Latest timer id ref →
    Silenced (timer.timerTaskCancelInLoop id) ref
  enable : ∀ (conn : TimedConnection) (timeouts : Int), conn.timer = timer →
    ∃ next, conn.enableInactiveReleaseInLoop timeouts = .ok next ∧
      ∃ ref, Latest next.timer conn.id ref ∧ Running next.timer ref

/-! ### What every run keeps -/

/-- What holds of the wheel after any calls.  An entry leads to the latest task of its id, which is
alive, and of the tasks just those have fired that are dead and were not cancelled. -/
structure Sound (timer : TimerWheel) : Prop where
  counted : Counted timer
  mapped : ∀ {id ref}, timer.weakPtrMap.find? id = some ref →
    Latest timer id ref ∧ 0 < Shared.count timer.tasks ref
  fired : ∀ ref, timer.firedBy ref = [] ↔
    ∀ task, Shared.object timer.tasks ref = some task → task.isCancel = false →
      0 < Shared.count timer.tasks ref

theorem sound_new : Sound TimerWheel.new where
  counted := counted_new
  mapped := fun found => by simp [TimerWheel.new] at found
  fired := fun ref => by simp [TimerWheel.new, firedBy, Shared.object]

/-- An id has one latest task. -/
theorem Latest.unique {timer : TimerWheel} {id : TaskId} {ref other : Ref}
    (latest : Latest timer id ref) (also : Latest timer id other) : other = ref := by
  obtain ⟨⟨task, made, same⟩, newest⟩ := latest
  obtain ⟨⟨otherTask, otherMade, otherSame⟩, otherNewest⟩ := also
  exact Nat.le_antisymm (newest other otherTask otherMade otherSame)
    (otherNewest ref task made same)

/-- What is latest depends only on the ids of the tasks. -/
theorem latest_congr {timer next : TimerWheel}
    (same : ∀ ref, (Shared.object next.tasks ref).map TimerTask.id =
      (Shared.object timer.tasks ref).map TimerTask.id) (id : TaskId) (ref : Ref) :
    Latest next id ref ↔ Latest timer id ref := by
  have named : ∀ other, (∃ task, Shared.object next.tasks other = some task ∧ task.id = id) ↔
      ∃ task, Shared.object timer.tasks other = some task ∧ task.id = id := by
    intro other
    rw [← Option.map_eq_some_iff, ← Option.map_eq_some_iff, same]
  unfold Latest
  rw [named]
  refine and_congr_right fun _ => forall_congr' fun other => ?_
  have here := named other
  constructor
  · intro bound task made sameId
    obtain ⟨nextTask, nextMade, nextSame⟩ := here.mpr ⟨task, made, sameId⟩
    exact bound nextTask nextMade nextSame
  · intro bound task made sameId
    obtain ⟨nextTask, nextMade, nextSame⟩ := here.mp ⟨task, made, sameId⟩
    exact bound nextTask nextMade nextSame

/-- A task is running as long as it is alive and not cancelled. -/
theorem Sound.running_iff {timer : TimerWheel} (sound : Sound timer) (ref : Ref) :
    Running timer ref ↔ ∃ task, Shared.object timer.tasks ref = some task ∧
      task.isCancel = false ∧ 0 < Shared.count timer.tasks ref := by
  unfold Running
  rw [sound.fired]
  constructor
  · rintro ⟨alive, task, made, active⟩
    exact ⟨task, made, active, alive task made active⟩
  · rintro ⟨task, made, active, alive⟩
    exact ⟨fun _ _ _ => alive, task, made, active⟩

/-! ### Additions -/

/-- A new task is the latest of its id, and the other ids keep theirs. -/
theorem latest_add (timer : TimerWheel) (id : TaskId) (delayTime : UInt32) (other : TaskId)
    (ref : Ref) : Latest (timer.timerTaskAddInLoop id delayTime) other ref ↔
      if other = id then ref = timer.tasks.next else Latest timer other ref := by
  unfold Latest
  rw [timerTaskAddInLoop_eq]
  simp only [Shared.object_make]
  by_cases here : other = id
  · subst here
    rw [if_pos rfl]
    constructor
    · rintro ⟨⟨task, made, same⟩, newest⟩
      have after := newest timer.tasks.next _ (if_pos rfl) rfl
      split at made
      · assumption
      · obtain ⟨shared, held, _⟩ := Option.map_eq_some_iff.mp made
        exact absurd after (Nat.not_le.mpr (Heap.lt_next_of_deref held))
    · rintro rfl
      refine ⟨⟨_, if_pos rfl, rfl⟩, fun older task made _ => ?_⟩
      split at made
      · rename_i same
        exact Nat.le_of_eq same
      · obtain ⟨shared, held, _⟩ := Option.map_eq_some_iff.mp made
        exact Nat.le_of_lt (Heap.lt_next_of_deref held)
  · rw [if_neg here]
    have named : ∀ ref task, (if ref = timer.tasks.next then
          some (⟨id, delayTime, false⟩ : TimerTask) else Shared.object timer.tasks ref) = some task ∧
        task.id = other ↔ Shared.object timer.tasks ref = some task ∧ task.id = other := by
      intro ref task
      by_cases last : ref = timer.tasks.next
      · subst last
        rw [if_pos rfl, Shared.object_next]
        simp only [Option.some.injEq, reduceCtorEq, false_and, iff_false]
        rintro ⟨rfl, same⟩
        exact here same.symm
      · rw [if_neg last]
    simp only [named, ← and_imp]

theorem sound_add {timer : TimerWheel} (sound : Sound timer) (id : TaskId) (delayTime : UInt32) :
    Sound (timer.timerTaskAddInLoop id delayTime) where
  counted := sound.counted.add id delayTime
  mapped := by
    intro other ref found
    rw [latest_add]
    rw [timerTaskAddInLoop_eq] at found ⊢
    simp only [PMap.find?_insert] at found
    rw [Shared.count_make]
    split at found
    · rename_i here
      obtain rfl := Option.some.inj found
      simp [here]
    · rename_i elsewhere
      obtain ⟨latest, alive⟩ := sound.mapped found
      rw [if_neg elsewhere]
      refine ⟨latest, ?_⟩
      split
      · exact Nat.zero_lt_one
      · exact alive
  fired := by
    intro ref
    rw [timerTaskAddInLoop_eq]
    refine Iff.trans (sound.fired ref) ?_
    simp only [Shared.object_make, Shared.count_make]
    by_cases last : ref = timer.tasks.next
    · subst last
      simp
    · simp only [if_neg last]

/-- A new task is running, and the others are as before. -/
theorem running_add {timer : TimerWheel} (sound : Sound timer) (id : TaskId) (delayTime : UInt32)
    (ref : Ref) : Running (timer.timerTaskAddInLoop id delayTime) ref ↔
      ref = timer.tasks.next ∨ Running timer ref := by
  rw [(sound_add sound id delayTime).running_iff, sound.running_iff, timerTaskAddInLoop_eq]
  simp only [Shared.object_make, Shared.count_make]
  by_cases last : ref = timer.tasks.next
  · simp [last]
  · simp [last]

/-! ### Refreshes -/

/-- A refresh goes through.  It gives the latest task of an id that exists one more pointer. -/
theorem Sound.refresh {timer : TimerWheel} (sound : Sound timer) (id : TaskId) :
    (timer.timerTaskIsExist id = false ∧ timer.timerTaskRefreshInLoop id = .ok timer) ∨
      ∃ ref task, timer.weakPtrMap.find? id = some ref ∧
        Shared.object timer.tasks ref = some task ∧
        timer.timerTaskRefreshInLoop id =
          .ok (timer.pushBack (timer.slotAfter task.delayTime) ref) := by
  cases found : timer.weakPtrMap.find? id with
  | none =>
      left
      rw [timerTaskIsExist, timerTaskRefreshInLoop, found]
      exact ⟨rfl, rfl⟩
  | some ref =>
      obtain ⟨⟨⟨task, made, _⟩, _⟩, alive⟩ := sound.mapped found
      exact Or.inr ⟨ref, task, rfl, made, timerTaskRefreshInLoop_of_live found made alive⟩

/-- One more pointer to a task leaves all ids alone. -/
theorem latest_pushBack (timer : TimerWheel) (slot : Nat) (task : Ref) (id : TaskId) (ref : Ref) :
    Latest (timer.pushBack slot task) id ref ↔ Latest timer id ref :=
  latest_congr (fun other => by simp [TimerWheel.pushBack]) id ref

theorem sound_pushBack {timer : TimerWheel} (sound : Sound timer) {ref : Ref} {task : TimerTask}
    (made : Shared.object timer.tasks ref = some task) (alive : 0 < Shared.count timer.tasks ref)
    {slot : Nat} (inside : slot < capacity) : Sound (timer.pushBack slot ref) where
  counted := sound.counted.pushBack made inside
  mapped := by
    intro id other found
    obtain ⟨latest, otherAlive⟩ := sound.mapped found
    refine ⟨(latest_pushBack ..).mpr latest, ?_⟩
    simp only [TimerWheel.pushBack, Shared.count_copy made]
    split
    · exact Nat.succ_pos _
    · exact otherAlive
  fired := by
    intro other
    refine (sound.fired other).trans ?_
    simp only [TimerWheel.pushBack, Shared.object_copy, Shared.count_copy made]
    by_cases here : other = ref
    · subst here
      simp [alive]
    · simp [here]

/-- One more pointer starts and stops nothing. -/
theorem running_pushBack (timer : TimerWheel) (slot : Nat) (task ref : Ref) :
    Running (timer.pushBack slot task) ref ↔ Running timer ref := by
  unfold Running
  simp only [TimerWheel.pushBack, Shared.object_copy]
  rfl

/-! ### Cancellations -/

/-- A cancellation sets the flag of the latest task of an id that exists. -/
theorem Sound.cancel {timer : TimerWheel} (sound : Sound timer) (id : TaskId) :
    (timer.timerTaskIsExist id = false ∧ timer.timerTaskCancelInLoop id = timer) ∨
      ∃ ref task, timer.weakPtrMap.find? id = some ref ∧
        Shared.object timer.tasks ref = some task ∧
        timer.timerTaskCancelInLoop id =
          { timer with
            tasks := Shared.update timer.tasks ref fun task => { task with isCancel := true } } := by
  cases found : timer.weakPtrMap.find? id with
  | none =>
      left
      rw [timerTaskIsExist, timerTaskCancelInLoop, found]
      exact ⟨rfl, rfl⟩
  | some ref =>
      obtain ⟨⟨⟨task, made, _⟩, _⟩, alive⟩ := sound.mapped found
      exact Or.inr ⟨ref, task, rfl, made, timerTaskCancelInLoop_of_live found made alive⟩

/-- A cancellation leaves all ids alone. -/
theorem latest_cancel {timer : TimerWheel} (sound : Sound timer) (id other : TaskId) (ref : Ref) :
    Latest (timer.timerTaskCancelInLoop id) other ref ↔ Latest timer other ref := by
  rcases sound.cancel id with ⟨_, same⟩ | ⟨task, _, _, _, same⟩
  · rw [same]
  · rw [same]
    refine latest_congr (fun position => ?_) other ref
    simp only [Shared.object_update]
    split
    · cases Shared.object timer.tasks position <;> rfl
    · rfl

theorem sound_cancel {timer : TimerWheel} (sound : Sound timer) (id : TaskId) :
    Sound (timer.timerTaskCancelInLoop id) := by
  have kept := latest_cancel sound id
  rcases sound.cancel id with ⟨_, same⟩ | ⟨ref, task, found, made, same⟩
  · rwa [same]
  · have alive := (sound.mapped found).2
    rw [same] at kept ⊢
    refine ⟨fun other => ?_, fun otherFound => ?_, fun other => ?_⟩
    · rw [Shared.count_update]
      exact sound.counted other
    · obtain ⟨latest, otherAlive⟩ := sound.mapped otherFound
      refine ⟨(kept _ _).mpr latest, ?_⟩
      rw [Shared.count_update]
      exact otherAlive
    · refine (sound.fired other).trans ?_
      simp only [Shared.object_update, Shared.count_update]
      by_cases here : other = ref
      · subst here
        simp [made, alive]
      · simp [here]

/-! ### Steps of the wheel -/

/-- The slot that the wheel clears next holds all pointers that are left of the task. -/
def Dies (timer : TimerWheel) (ref : Ref) : Prop :=
  (moved timer).LastIn (timer.wheel (moved timer).tick) ref

instance (timer : TimerWheel) (ref : Ref) : Decidable (Dies timer ref) :=
  inferInstanceAs (Decidable ((moved timer).LastIn (timer.wheel (moved timer).tick) ref))

/-- A step leaves the tasks alone. -/
theorem object_runOne (timer : TimerWheel) (ref : Ref) :
    Shared.object timer.wheelRunOne.tasks ref = Shared.object timer.tasks ref :=
  object_foldl_release (timer.wheel (moved timer).tick) (moved timer) ref

theorem latest_runOne (timer : TimerWheel) (id : TaskId) (ref : Ref) :
    Latest timer.wheelRunOne id ref ↔ Latest timer id ref :=
  latest_congr (fun other => by rw [object_runOne]) id ref

/-- A task is alive after a step if it was before and does not die. -/
theorem alive_runOne {timer : TimerWheel} (counted : Counted timer) (ref : Ref) :
    0 < Shared.count timer.wheelRunOne.tasks ref ↔
      0 < Shared.count timer.tasks ref ∧ ¬ Dies timer ref := by
  have held : (timer.wheel (moved timer).tick).count ref ≤ Shared.count timer.tasks ref :=
    counted.held ref
  have member : ref ∈ timer.wheel (moved timer).tick ↔
      0 < (timer.wheel (moved timer).tick).count ref := List.count_pos_iff.symm
  have same : Shared.count (moved timer).tasks ref = Shared.count timer.tasks ref := rfl
  rw [count_runOne, Dies, LastIn, member, same]
  omega

/-- The entries of the ids of the tasks that die are erased. -/
theorem find?_runOne {timer : TimerWheel} (counted : Counted timer) (id : TaskId) (ref : Ref) :
    timer.wheelRunOne.weakPtrMap.find? id = some ref ↔
      timer.weakPtrMap.find? id = some ref ∧
        ∀ other task, Dies timer other → Shared.object timer.tasks other = some task →
          task.id ≠ id :=
  find?_foldl_release counted.held id ref

/-- A step fires the tasks that die, unless they are cancelled. -/
theorem firedBy_runOne {timer : TimerWheel} (counted : Counted timer) (ref : Ref) :
    timer.wheelRunOne.firedBy ref = [] ↔ timer.firedBy ref = [] ∧
      ∀ task, Shared.object timer.tasks ref = some task → task.isCancel = false →
        ¬ Dies timer ref := by
  cases made : Shared.object timer.tasks ref with
  | none =>
      have released : timer.wheelRunOne.firedBy ref = timer.firedBy ref :=
        firedBy_foldl_release_of_none (show Shared.object (moved timer).tasks ref = none from made)
      simp [released]
  | some task =>
      have released : timer.wheelRunOne.firedBy ref = timer.firedBy ref ++
          if Dies timer ref ∧ task.isCancel = false then [((moved timer).ticks, ref)] else [] :=
        firedBy_foldl_release counted.held
          (show Shared.object (moved timer).tasks ref = some task from made)
      rw [released, List.append_eq_nil_iff]
      by_cases dies : Dies timer ref
      · simp [dies]
      · simp [dies]

theorem sound_runOne {timer : TimerWheel} (sound : Sound timer) : Sound timer.wheelRunOne where
  counted := sound.counted.runOne
  mapped := by
    intro id ref found
    obtain ⟨foundBefore, others⟩ := (find?_runOne sound.counted id ref).mp found
    obtain ⟨latest, alive⟩ := sound.mapped foundBefore
    refine ⟨(latest_runOne ..).mpr latest, (alive_runOne sound.counted ref).mpr ⟨alive, ?_⟩⟩
    intro dies
    obtain ⟨task, made, same⟩ := latest.1
    exact others ref task dies made same
  fired := by
    intro ref
    rw [firedBy_runOne sound.counted, sound.fired, object_runOne, alive_runOne sound.counted]
    constructor
    · rintro ⟨alive, survives⟩ task made active
      exact ⟨alive task made active, survives task made active⟩
    · intro both
      exact ⟨fun task made active => (both task made active).1,
        fun task made active => (both task made active).2⟩

theorem running_runOne {timer : TimerWheel} (sound : Sound timer) (ref : Ref) :
    Running timer.wheelRunOne ref ↔ Running timer ref ∧ ¬ Dies timer ref := by
  rw [(sound_runOne sound).running_iff, sound.running_iff, object_runOne,
    alive_runOne sound.counted]
  constructor
  · rintro ⟨task, made, active, alive, survives⟩
    exact ⟨⟨task, made, active, alive⟩, survives⟩
  · rintro ⟨⟨task, made, active, alive⟩, survives⟩
    exact ⟨task, made, active, alive, survives⟩

/-! ### All calls -/

/-- A call goes through and keeps the wheel sound. -/
theorem sound_step {timer : TimerWheel} (sound : Sound timer) (call : TimerCall) :
    ∃ next, timer.step call = .ok next ∧ Sound next := by
  cases call with
  | add id delayTime => exact ⟨_, rfl, sound_add sound id delayTime⟩
  | refresh id =>
      rcases sound.refresh id with ⟨_, same⟩ | ⟨ref, task, found, made, pushed⟩
      · exact ⟨timer, same, sound⟩
      · exact ⟨_, pushed, sound_pushBack sound made (sound.mapped found).2 (mod_capacity_lt _)⟩
  | cancel id => exact ⟨_, rfl, sound_cancel sound id⟩
  | runOne => exact ⟨_, rfl, sound_runOne sound⟩

/-- A task that was made stays, with its id, and its flag is never taken back. -/
theorem object_step {timer next : TimerWheel} (sound : Sound timer) {call : TimerCall}
    (made : timer.step call = .ok next) {ref : Ref} {task : TimerTask}
    (here : Shared.object timer.tasks ref = some task) :
    ∃ after, Shared.object next.tasks ref = some after ∧
      (task.isCancel = true → after.isCancel = true) := by
  cases call with
  | add id delayTime =>
      obtain rfl := Except.ok.inj made
      refine ⟨task, ?_, fun flag => flag⟩
      rw [timerTaskAddInLoop_eq, Shared.object_make, if_neg, here]
      rintro rfl
      rw [Shared.object_next] at here
      cases here
  | refresh id =>
      rcases sound.refresh id with ⟨_, same⟩ | ⟨_, _, _, _, pushed⟩
      · obtain rfl := Except.ok.inj (same.symm.trans made)
        exact ⟨task, here, fun flag => flag⟩
      · obtain rfl := Except.ok.inj (pushed.symm.trans made)
        exact ⟨task, by simp [TimerWheel.pushBack, here], fun flag => flag⟩
  | cancel id =>
      obtain rfl := Except.ok.inj made
      rcases sound.cancel id with ⟨_, same⟩ | ⟨named, _, _, _, same⟩
      · exact ⟨task, by rw [same, here], fun flag => flag⟩
      · rw [same]
        simp only [Shared.object_update, here]
        split
        · exact ⟨_, rfl, fun _ => rfl⟩
        · exact ⟨task, rfl, fun flag => flag⟩
  | runOne =>
      obtain rfl := Except.ok.inj made
      exact ⟨task, (object_runOne timer ref).trans here, fun flag => flag⟩

/-- A cancelled task stays silent. -/
theorem silenced_of_cancelled {timer : TimerWheel} (sound : Sound timer) {ref : Ref}
    (cancelled : ∃ task, Shared.object timer.tasks ref = some task ∧ task.isCancel = true) :
    Silenced timer ref := by
  refine ⟨cancelled, fun calls last reached => ?_⟩
  have keeps : ∀ state call next, (Sound state ∧
      ∃ task, Shared.object state.tasks ref = some task ∧ task.isCancel = true) → True →
        TimerWheel.step state call = .ok next → (Sound next ∧
          ∃ task, Shared.object next.tasks ref = some task ∧ task.isCancel = true) := by
    rintro state call next ⟨good, task, made, flag⟩ _ stepEq
    obtain ⟨after, stillMade, stillFlag⟩ := object_step good stepEq made
    obtain ⟨other, otherEq, kept⟩ := sound_step good call
    obtain rfl := Except.ok.inj (otherEq.symm.trans stepEq)
    exact ⟨kept, after, stillMade, stillFlag flag⟩
  obtain ⟨good, task, made, flag⟩ := (always_of_admissible keeps ⟨sound, cancelled⟩
    (admissible_of_forall (fun _ _ => trivial) timer calls)).last reached
  rw [good.fired]
  intro other otherMade active
  obtain rfl := Option.some.inj (made.symm.trans otherMade)
  rw [flag] at active
  cases active

/-- A pointer stays in its slot until the wheel comes there. -/
theorem mem_step {timer next : TimerWheel} (sound : Sound timer) {slot : Nat} {ref : Ref}
    {call : TimerCall} (member : ref ∈ timer.wheel slot) (elsewhere : Elsewhere slot timer call)
    (made : timer.step call = .ok next) : ref ∈ next.wheel slot := by
  cases call with
  | add id delayTime =>
      obtain rfl := Except.ok.inj made
      rw [timerTaskAddInLoop_eq]
      exact (mem_pushBack ..).mpr (Or.inl member)
  | refresh id =>
      rcases sound.refresh id with ⟨_, same⟩ | ⟨_, _, _, _, pushed⟩
      · obtain rfl := Except.ok.inj (same.symm.trans made)
        exact member
      · obtain rfl := Except.ok.inj (pushed.symm.trans made)
        exact (mem_pushBack ..).mpr (Or.inl member)
  | cancel id =>
      obtain rfl := Except.ok.inj made
      rcases sound.cancel id with ⟨_, same⟩ | ⟨_, _, _, _, same⟩
      · rwa [same]
      · rw [same]
        exact member
  | runOne =>
      obtain rfl := Except.ok.inj made
      have different : slot ≠ (moved timer).tick := Ne.symm elsewhere
      rw [wheel_wheelRunOne]
      simpa [different] using member

/-- A task with a pointer in a slot does not fire before the wheel comes there. -/
theorem postponed_of_mem {timer : TimerWheel} (sound : Sound timer) {slot : Nat}
    (inside : slot < capacity) {ref : Ref} (member : ref ∈ timer.wheel slot) :
    Postponed timer slot ref := by
  intro calls last admissible reached
  have keeps : ∀ state call next, (Sound state ∧ ref ∈ state.wheel slot) →
      Elsewhere slot state call → TimerWheel.step state call = .ok next →
        (Sound next ∧ ref ∈ next.wheel slot) := by
    rintro state call next ⟨good, here⟩ elsewhere stepEq
    obtain ⟨other, otherEq, kept⟩ := sound_step good call
    obtain rfl := Except.ok.inj (otherEq.symm.trans stepEq)
    exact ⟨kept, mem_step good here elsewhere stepEq⟩
  obtain ⟨good, here⟩ :=
    (always_of_admissible keeps ⟨sound, member⟩ admissible).last reached
  rw [good.fired]
  intro _ _ _
  rw [good.counted]
  exact copies_pos inside here

/-! ### The ids -/

theorem exist_iff (timer : TimerWheel) (id : TaskId) :
    timer.timerTaskIsExist id = true ↔ ∃ ref, timer.weakPtrMap.find? id = some ref :=
  Option.isSome_iff_exists

/-- If the ids exist that should, they name the tasks they should. -/
theorem namesLatest_of_exist {timer : TimerWheel} (sound : Sound timer)
    (exist : ∀ id, timer.timerTaskIsExist id = true ↔
      ∃ ref, Latest timer id ref ∧ Running timer ref) : NamesLatest timer where
  exist := exist
  refresh := by
    intro id ref task there latest made
    rcases sound.refresh id with ⟨missing, _⟩ | ⟨other, otherTask, found, otherMade, pushed⟩
    · rw [missing] at there
      cases there
    · obtain ⟨otherLatest, alive⟩ := sound.mapped found
      obtain rfl := latest.unique otherLatest
      obtain rfl := Option.some.inj (made.symm.trans otherMade)
      exact ⟨_, pushed, postponed_of_mem
        (sound_pushBack sound made alive (mod_capacity_lt _)) (mod_capacity_lt _)
        ((mem_pushBack ..).mpr (Or.inr ⟨rfl, rfl⟩))⟩
  cancel := by
    intro id ref there latest
    have kept := sound_cancel sound id
    rcases sound.cancel id with ⟨missing, _⟩ | ⟨other, task, found, made, same⟩
    · rw [missing] at there
      cases there
    · obtain rfl := latest.unique (sound.mapped found).1
      refine silenced_of_cancelled kept ⟨{ task with isCancel := true }, ?_, rfl⟩
      rw [same, Shared.object_update, if_pos rfl, made]
      rfl
  enable := by
    rintro conn timeouts rfl
    unfold TimedConnection.enableInactiveReleaseInLoop
    dsimp only
    split
    · rename_i there
      obtain ⟨ref, latest, running⟩ := (exist conn.id).mp there
      rcases sound.refresh conn.id with ⟨missing, _⟩ | ⟨_, _, _, _, pushed⟩
      · rw [missing] at there
        cases there
      · refine ⟨_, by rw [TimedConnection.timerRefresh, pushed]; rfl, ref, ?_, ?_⟩
        · exact (latest_pushBack ..).mpr latest
        · exact (running_pushBack ..).mpr running
    · refine ⟨_, rfl, conn.timer.tasks.next, ?_, ?_⟩
      · exact (latest_add ..).mpr (by rw [if_pos rfl])
      · exact (running_add sound ..).mpr (Or.inl rfl)

/-- The call takes no running task from its id: it cancels none, and no task dies whose id has a
latest task that goes on running. -/
def Harmless (timer : TimerWheel) : TimerCall → Prop
  | .add _ _ => True
  | .refresh _ => True
  | .cancel id => ∀ ref, Latest timer id ref → ¬ Running timer ref
  | .runOne => ∀ old task ref, Dies timer old → Shared.object timer.tasks old = some task →
      Latest timer task.id ref → Running timer ref → Dies timer ref

theorem namesLatest_new : NamesLatest TimerWheel.new :=
  namesLatest_of_exist sound_new fun id => by
    rw [exist_iff]
    simp [Latest, TimerWheel.new, Shared.object]

theorem namesLatest_add {timer : TimerWheel} (sound : Sound timer) (names : NamesLatest timer)
    (id : TaskId) (delayTime : UInt32) : NamesLatest (timer.timerTaskAddInLoop id delayTime) := by
  refine namesLatest_of_exist (sound_add sound id delayTime) fun other => ?_
  simp only [latest_add, running_add sound]
  have before := names.exist other
  rw [exist_iff] at before ⊢
  rw [timerTaskAddInLoop_eq]
  simp only [PMap.find?_insert]
  by_cases here : other = id
  · simp [here]
  · simp only [if_neg here]
    rw [before]
    refine exists_congr fun ref => and_congr_right fun latest => ?_
    obtain ⟨⟨task, made, _⟩, _⟩ := latest
    have older : ref ≠ timer.tasks.next := by
      rintro rfl
      rw [Shared.object_next] at made
      cases made
    simp [older]

theorem namesLatest_pushBack {timer : TimerWheel} {slot : Nat} {task : Ref}
    (pushed : Sound (timer.pushBack slot task)) (names : NamesLatest timer) :
    NamesLatest (timer.pushBack slot task) := by
  refine namesLatest_of_exist pushed fun id => ?_
  simp only [latest_pushBack, running_pushBack]
  exact names.exist id

/-- After a cancellation that finds its task the id still exists, but names no running task. -/
theorem namesLatest_cancel_iff {timer : TimerWheel} (sound : Sound timer)
    (names : NamesLatest timer) (id : TaskId) :
    (∀ ref, Latest timer id ref → ¬ Running timer ref) ↔
      NamesLatest (timer.timerTaskCancelInLoop id) := by
  have kept := latest_cancel sound id
  rcases sound.cancel id with ⟨missing, same⟩ | ⟨ref, task, found, made, same⟩
  · have idle : ∀ ref, Latest timer id ref → ¬ Running timer ref := by
      intro ref latest running
      rw [(names.exist id).mpr ⟨ref, latest, running⟩] at missing
      cases missing
    rw [same]
    exact iff_of_true idle names
  · have there : timer.timerTaskIsExist id = true := (exist_iff timer id).mpr ⟨ref, found⟩
    have busy : ¬ ∀ ref, Latest timer id ref → ¬ Running timer ref := by
      obtain ⟨other, latest, running⟩ := (names.exist id).mp there
      exact fun idle => idle other latest running
    refine iff_of_false busy fun after => ?_
    have still : (timer.timerTaskCancelInLoop id).timerTaskIsExist id = true := by
      rw [same]
      exact there
    obtain ⟨other, latest, _, otherTask, otherMade, active⟩ := (after.exist id).mp still
    obtain rfl := (sound.mapped found).1.unique ((kept id other).mp latest)
    rw [same] at otherMade
    simp only [Shared.object_update, if_pos, made, Option.map_some,
      Option.some.injEq] at otherMade
    rw [← otherMade] at active
    cases active

/-- A step takes the entry of an id away from its latest task exactly if an older one dies. -/
theorem namesLatest_runOne_iff {timer : TimerWheel} (sound : Sound timer)
    (names : NamesLatest timer) : Harmless timer .runOne ↔ NamesLatest timer.wheelRunOne := by
  constructor
  · intro harmless
    refine namesLatest_of_exist (sound_runOne sound) fun id => ?_
    simp only [latest_runOne, running_runOne sound]
    rw [exist_iff]
    simp only [find?_runOne sound.counted]
    constructor
    · rintro ⟨ref, found, others⟩
      obtain ⟨other, latest, running⟩ := (names.exist id).mp ((exist_iff timer id).mpr ⟨ref, found⟩)
      obtain ⟨task, made, same⟩ := latest.1
      exact ⟨other, latest, running, fun dies => others other task dies made same⟩
    · rintro ⟨ref, latest, running, survives⟩
      obtain ⟨other, found⟩ := (exist_iff timer id).mp ((names.exist id).mpr ⟨ref, latest, running⟩)
      refine ⟨other, found, fun old task dies made same => ?_⟩
      subst same
      exact survives (harmless old task ref dies made latest running)
  · intro after old task ref dies made latest running
    by_contra survives
    have there := (after.exist task.id).mpr
      ⟨ref, (latest_runOne ..).mpr latest, (running_runOne sound ref).mpr ⟨running, survives⟩⟩
    obtain ⟨other, found⟩ := (exist_iff _ _).mp there
    exact ((find?_runOne sound.counted _ _).mp found).2 old task dies made rfl

/-- From a wheel whose ids name their latest tasks, exactly the harmless calls keep it so. -/
theorem harmless_iff {timer next : TimerWheel} (sound : Sound timer) (names : NamesLatest timer)
    {call : TimerCall} (made : timer.step call = .ok next) :
    Harmless timer call ↔ NamesLatest next := by
  cases call with
  | add id delayTime =>
      obtain rfl := Except.ok.inj made
      exact iff_of_true trivial (namesLatest_add sound names id delayTime)
  | refresh id =>
      refine iff_of_true trivial ?_
      rcases sound.refresh id with ⟨_, same⟩ | ⟨ref, task, found, object, pushed⟩
      · obtain rfl := Except.ok.inj (same.symm.trans made)
        exact names
      · obtain rfl := Except.ok.inj (pushed.symm.trans made)
        exact namesLatest_pushBack
          (sound_pushBack sound object (sound.mapped found).2 (mod_capacity_lt _)) names
  | cancel id =>
      obtain rfl := Except.ok.inj made
      exact namesLatest_cancel_iff sound names id
  | runOne =>
      obtain rfl := Except.ok.inj made
      exact namesLatest_runOne_iff sound names

/-- In a sequence of calls the ids name the latest tasks throughout exactly if every call is
harmless. -/
theorem names_latest_iff (calls : List TimerCall) :
    Throughout TimerWheel.step NamesLatest TimerWheel.new calls ↔
      Admissible TimerWheel.step Harmless TimerWheel.new calls :=
  throughout_iff_of_kept (fun _ call sound _ => sound_step sound call)
    (fun _ _ _ sound names _ made => harmless_iff sound names made) sound_new namesLatest_new calls
    (admissible_of_forall (fun _ _ => trivial) _ calls)

/-- A cancelled task keeps its id, so that a connection that enables its timer again only refreshes
the cancelled task, and an older task of an id takes the entry of a newer one along when it dies. -/
theorem not_names_latest_cancelled :
    ¬ Throughout TimerWheel.step NamesLatest TimerWheel.new [.add 7 5, .cancel 7] ∧
      ¬ Throughout TimerWheel.step NamesLatest TimerWheel.new
        [.add 7 1, .add 7 2, .runOne] := by
  constructor
  · rintro ⟨_, added, addEq, names, cancelled, cancelEq, after⟩
    obtain rfl := Except.ok.inj addEq
    obtain rfl := Except.ok.inj cancelEq
    have idle := (namesLatest_cancel_iff (sound_add sound_new 7 5) names 7).mpr after
    exact idle 0 ((latest_add ..).mpr rfl) ((running_add sound_new ..).mpr (Or.inl rfl))
  · rintro ⟨_, first, firstEq, _, second, secondEq, names, stepped, stepEq, after⟩
    obtain rfl := Except.ok.inj firstEq
    obtain rfl := Except.ok.inj secondEq
    obtain rfl := Except.ok.inj stepEq
    have sound := sound_add sound_new 7 1
    have harmless := (namesLatest_runOne_iff (sound_add sound 7 2) names).mpr after
    have newerDies := harmless 0 ⟨7, 1, false⟩ 1 (by decide) (by decide)
      ((latest_add ..).mpr rfl) ((running_add sound ..).mpr (Or.inl rfl))
    revert newerDies
    decide

end GomukuServer.Proofs.TimerIds
