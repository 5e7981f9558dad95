/-
Module: GomukuServer.Proofs.TimerExactness
Layer: Proofs
Purpose: The timer wheel rings its tasks exactly as the alarms they stand for.  A task can stand in
  several slots; every one of its pointers is in a slot that is cleared no later than the task is
  due, and the newest one in the slot that is cleared just then, so the last pointer goes at the
  right step.
Trusted boundary: none
Main exports: Admitted, copies, Tracks, LocksLive, alarmsAfter, timerWheel_rings_exactly
-/
import GomukuServer.Base.Alarms
import GomukuServer.Base.Runs
import GomukuServer.MyMuduo.TimerWheel
import Mathlib.Algebra.BigOperators.Group.Finset.Basic

namespace GomukuServer.Proofs.TimerExactness

open Base Base.Runs MyMuduo MyMuduo.TimerWheel

/-- A task is added under an id that is not in use, with a delay that fits on the wheel. -/
def Admitted (timer : TimerWheel) : TimerCall → Prop
  | .add id delayTime =>
      timer.weakPtrMap.find? id = none ∧ 1 ≤ delayTime.toNat ∧ delayTime.toNat ≤ capacity
  | .refresh _ => True
  | .cancel _ => True
  | .runOne => True

instance (timer : TimerWheel) : (call : TimerCall) → Decidable (Admitted timer call)
  | .add _ _ => inferInstanceAs (Decidable (_ ∧ _))
  | .refresh _ => inferInstanceAs (Decidable True)
  | .cancel _ => inferInstanceAs (Decidable True)
  | .runOne => inferInstanceAs (Decidable True)

/-- What a call means for the alarms. -/
def applyCall (service : Alarms TaskId) : TimerCall → Alarms TaskId
  | .add id delayTime => service.set id delayTime.toNat
  | .refresh id => service.refresh id
  | .cancel id => service.cancel id
  | .runOne => service.tick

/-- The alarms after a sequence of calls. -/
def alarmsAfter (calls : List TimerCall) : Alarms TaskId := calls.foldl applyCall .new

/-- What an alarm that has rung leaves in the record: one entry, at its due time. -/
def ringsOf (service : Alarms TaskId) (ref : Ref) : List (Nat × Ref) :=
  match service.alarms[ref]? with
  | none => []
  | some alarm => if service.Rung alarm then [(alarm.due, ref)] else []

/-- Every weak pointer in the map can be locked. -/
def LocksLive (timer : TimerWheel) : Prop :=
  ∀ id ref, timer.weakPtrMap.find? id = some ref → Shared.lock timer.tasks ref ≠ none

/-- How often a task stands in the slots of a wheel. -/
def copies (wheel : Nat → List Ref) (ref : Ref) : Nat :=
  ∑ slot ∈ Finset.range capacity, (wheel slot).count ref

/-- The task an alarm stands for. -/
def taskOf (alarm : Alarm TaskId) : TimerTask :=
  ⟨alarm.id, UInt32.ofNat alarm.delay, alarm.cancelled⟩

/-- The wheel stands for the alarms. -/
structure Tracks (service : Alarms TaskId) (timer : TimerWheel) : Prop where
  ticks : timer.ticks = service.now
  tick : timer.tick = service.now % capacity
  next : timer.tasks.next = service.alarms.length
  objects : ∀ ref, Shared.object timer.tasks ref = (service.alarms[ref]?).map taskOf
  counts : ∀ ref, Shared.count timer.tasks ref = copies timer.wheel ref
  bounds : ∀ {ref : Ref} {alarm}, service.alarms[ref]? = some alarm →
    1 ≤ alarm.delay ∧ alarm.delay ≤ capacity ∧ alarm.due ≤ service.now + alarm.delay
  newest : ∀ {ref : Ref} {alarm}, service.alarms[ref]? = some alarm → service.Pending alarm →
    ref ∈ timer.wheel (alarm.due % capacity)
  placed : ∀ {slot ref}, slot < capacity → ref ∈ timer.wheel slot →
    ∃ alarm, service.alarms[ref]? = some alarm ∧
      ∃ time, service.now < time ∧ time ≤ alarm.due ∧ time % capacity = slot
  mapped : ∀ id ref, timer.weakPtrMap.find? id = some ref ↔
    ∃ alarm, service.alarms[ref]? = some alarm ∧ alarm.id = id ∧ service.Pending alarm
  fired : ∀ ref, timer.firedBy ref = ringsOf service ref

/-! ### Copies in the wheel -/

/-- When one slot changes, the number of pointers changes by what it gains. -/
theorem copies_change (first second : Nat → List Ref) {position : Nat}
    (inside : position < capacity)
    (same : ∀ other, other ≠ position → first other = second other) (ref : Ref) :
    copies first ref + (second position).count ref =
      copies second ref + (first position).count ref := by
  have member : position ∈ Finset.range capacity := Finset.mem_range.mpr inside
  have rest : ∑ slot ∈ (Finset.range capacity).erase position, (first slot).count ref =
      ∑ slot ∈ (Finset.range capacity).erase position, (second slot).count ref :=
    Finset.sum_congr rfl fun other found => by rw [same other (Finset.ne_of_mem_erase found)]
  have firstSum := Finset.add_sum_erase _ (fun slot => (first slot).count ref) member
  have secondSum := Finset.add_sum_erase _ (fun slot => (second slot).count ref) member
  simp only [copies, ← firstSum, ← secondSum, rest]
  omega

/-- One more pointer in a slot. -/
theorem copies_pushBack (timer : TimerWheel) {slot : Nat} (inside : slot < capacity)
    (task ref : Ref) : copies (timer.pushBack slot task).wheel ref =
      if ref = task then copies timer.wheel ref + 1 else copies timer.wheel ref := by
  have changed := copies_change (timer.pushBack slot task).wheel timer.wheel inside
    (fun other different => by simp [pushBack, different]) ref
  have here : (timer.pushBack slot task).wheel slot = timer.wheel slot ++ [task] := by
    simp [pushBack]
  rw [here, List.count_append, List.count_singleton] at changed
  by_cases same : ref = task
  · rw [if_pos same]
    simp only [same, BEq.rfl, if_true] at changed ⊢
    omega
  · have different : (task == ref) = false := by simpa using Ne.symm same
    rw [if_neg same]
    simp only [different, Bool.false_eq_true, if_false] at changed
    omega

/-- Emptying a slot takes its pointers away. -/
theorem copies_cleared (wheel : Nat → List Ref) {slot : Nat} (inside : slot < capacity)
    (ref : Ref) : copies (fun other => if other = slot then [] else wheel other) ref +
      (wheel slot).count ref = copies wheel ref := by
  have changed := copies_change (fun other => if other = slot then [] else wheel other) wheel inside
    (fun other different => if_neg different) ref
  simpa using changed

/-- A pointer in some slot counts. -/
theorem copies_pos {wheel : Nat → List Ref} {slot : Nat} (inside : slot < capacity) {ref : Ref}
    (member : ref ∈ wheel slot) : 0 < copies wheel ref := by
  have cleared := copies_cleared wheel inside ref
  have some := List.count_pos_iff.mpr member
  omega

/-- No pointer in any slot, no copy. -/
theorem copies_eq_zero {wheel : Nat → List Ref} {ref : Ref}
    (nowhere : ∀ slot, slot < capacity → ref ∉ wheel slot) : copies wheel ref = 0 :=
  Finset.sum_eq_zero fun slot member =>
    List.count_eq_zero.mpr (nowhere slot (Finset.mem_range.mp member))

theorem mod_capacity_lt (time : Nat) : time % capacity < capacity := Nat.mod_lt _ (by decide)

/-- The shared pointers are those in the slots. -/
def Counted (timer : TimerWheel) : Prop :=
  ∀ ref, Shared.count timer.tasks ref = copies timer.wheel ref

theorem counted_new : Counted TimerWheel.new :=
  fun _ => by simp [copies, TimerWheel.new, Shared.count]

/-- A task that was never made stands nowhere. -/
theorem Counted.add {timer : TimerWheel} (counted : Counted timer) (id : TaskId)
    (delayTime : UInt32) : Counted (timer.timerTaskAddInLoop id delayTime) := by
  intro ref
  have counts := counted ref
  rw [timerTaskAddInLoop_eq, Shared.count_make]
  refine Eq.trans ?_ (copies_pushBack timer (mod_capacity_lt _) _ ref).symm
  split
  · rename_i same
    have absent : Shared.object timer.tasks ref = none := by
      rw [same]
      exact Shared.object_next _
    rw [Shared.count_eq_zero absent] at counts
    omega
  · exact counts

theorem Counted.pushBack {timer : TimerWheel} (counted : Counted timer) {task : TimerTask}
    {ref : Ref} (made : Shared.object timer.tasks ref = some task) {slot : Nat}
    (inside : slot < capacity) : Counted (timer.pushBack slot ref) := by
  intro other
  rw [copies_pushBack timer inside]
  have counts := counted other
  simp only [TimerWheel.pushBack, Shared.count_copy made, counts]

/-- The wheel at its next slot, before the slot is cleared. -/
def moved (timer : TimerWheel) : TimerWheel :=
  { timer with tick := (timer.tick + 1) % capacity, ticks := timer.ticks + 1 }

/-- The wheel after a step: one slot is empty. -/
theorem wheel_wheelRunOne (timer : TimerWheel) : timer.wheelRunOne.wheel =
    fun other => if other = (moved timer).tick then [] else timer.wheel other := by
  obtain ⟨frame, _, _⟩ := foldl_release_frame (timer.wheel (moved timer).tick) (moved timer)
  funext other
  exact if_congr Iff.rfl rfl (congrFun frame other)

/-- The pointers of a slot are among all pointers. -/
theorem Counted.held {timer : TimerWheel} (counted : Counted timer) (ref : Ref) :
    (timer.wheel (moved timer).tick).count ref ≤ Shared.count (moved timer).tasks ref := by
  have cleared := copies_cleared timer.wheel (mod_capacity_lt (timer.tick + 1)) ref
  have counts := counted ref
  simp only [moved, counts]
  omega

/-- A step of the wheel destroys the pointers of one slot. -/
theorem count_runOne (timer : TimerWheel) (ref : Ref) :
    Shared.count timer.wheelRunOne.tasks ref =
      Shared.count timer.tasks ref - (timer.wheel (moved timer).tick).count ref :=
  count_foldl_release (timer.wheel (moved timer).tick) (moved timer) ref

theorem Counted.runOne {timer : TimerWheel} (counted : Counted timer) :
    Counted timer.wheelRunOne := by
  intro ref
  have counts := counted ref
  have cleared := copies_cleared timer.wheel
    (show (moved timer).tick < capacity from mod_capacity_lt _) ref
  rw [wheel_wheelRunOne, count_runOne]
  omega

/-- Where a task stands that dies in a given step of the wheel: its newest pointer is in the slot
that is cleared then, and the others are in slots that are cleared before. -/
structure Stands (timer : TimerWheel) (ref : Ref) (due : Nat) : Prop where
  near : due ≤ timer.ticks + capacity
  newest : timer.ticks < due → ref ∈ timer.wheel (due % capacity)
  placed : ∀ {slot}, slot < capacity → ref ∈ timer.wheel slot →
    ∃ time, timer.ticks < time ∧ time ≤ due ∧ time % capacity = slot

/-- The slot that a step of the wheel clears. -/
theorem moved_tick {timer : TimerWheel} (phase : timer.tick = timer.ticks % capacity) :
    (moved timer).tick = (timer.ticks + 1) % capacity := by
  rw [moved, phase]
  simp only [capacity]
  omega

theorem ticks_runOne (timer : TimerWheel) :
    timer.wheelRunOne.ticks = timer.ticks + 1 ∧
      timer.wheelRunOne.tick = (moved timer).tick := by
  obtain ⟨_, frameTick, frameTicks⟩ :=
    foldl_release_frame (timer.wheel (moved timer).tick) (moved timer)
  exact ⟨frameTicks, frameTick⟩

/-- The pointers in the other slots stay. -/
theorem Stands.runOne {timer : TimerWheel} {ref : Ref} {due : Nat}
    (stands : Stands timer ref due) (phase : timer.tick = timer.ticks % capacity) :
    Stands timer.wheelRunOne ref due := by
  have ticks := (ticks_runOne timer).1
  have tick := moved_tick phase
  have near := stands.near
  refine ⟨by omega, fun pending => ?_, fun {slot} inside member => ?_⟩
  · have elsewhere : due % capacity ≠ (moved timer).tick := by
      rw [tick]
      simp only [capacity] at near ⊢
      omega
    rw [wheel_wheelRunOne]
    dsimp only
    rw [if_neg elsewhere]
    exact stands.newest (by omega)
  · rw [wheel_wheelRunOne] at member
    dsimp only at member
    split at member
    · cases member
    · rename_i different
      obtain ⟨time, later, before, residue⟩ := stands.placed inside member
      refine ⟨time, ?_, before, residue⟩
      have notNow : time ≠ timer.ticks + 1 := by
        rintro rfl
        exact different (residue.symm.trans tick.symm)
      omega

/-- The slot that is cleared holds the last pointers of a task exactly if the task is due. -/
theorem Stands.lastIn_iff {timer : TimerWheel} {ref : Ref} {due : Nat}
    (stands : Stands timer ref due) (counted : Counted timer)
    (phase : timer.tick = timer.ticks % capacity) :
    (moved timer).LastIn (timer.wheel (moved timer).tick) ref ↔ due = timer.ticks + 1 := by
  have tick := moved_tick phase
  have inside : (moved timer).tick < capacity := mod_capacity_lt _
  have cleared := copies_cleared timer.wheel inside ref
  have counts : Shared.count (moved timer).tasks ref = copies timer.wheel ref := counted ref
  have near := stands.near
  unfold LastIn
  rw [counts]
  constructor
  · rintro ⟨member, whole⟩
    obtain ⟨time, later, before, _⟩ := stands.placed inside member
    by_contra notDue
    have elsewhere : due % capacity ≠ (moved timer).tick := by
      rw [tick]
      simp only [capacity] at near ⊢
      omega
    have left : 0 < copies (fun other => if other = (moved timer).tick then []
        else timer.wheel other) ref :=
      copies_pos (mod_capacity_lt due) (by
        rw [if_neg elsewhere]
        exact stands.newest (Nat.lt_of_lt_of_le later before))
    omega
  · intro isDue
    have member := stands.newest (by omega)
    rw [isDue, ← tick] at member
    have nothing : copies (fun other => if other = (moved timer).tick then []
        else timer.wheel other) ref = 0 := by
      refine copies_eq_zero fun slot slotInside still => ?_
      split at still
      · cases still
      · rename_i different
        obtain ⟨time, later, before, residue⟩ := stands.placed slotInside still
        rw [tick, ← residue] at different
        exact different (by rw [show time = timer.ticks + 1 by omega])
    exact ⟨member, by omega⟩

/-! ### Single calls -/

theorem tracks_new : Tracks .new TimerWheel.new where
  ticks := rfl
  tick := rfl
  next := rfl
  objects := fun _ => rfl
  counts := counted_new
  bounds := fun found => by simp [Alarms.new] at found
  newest := fun found => by simp [Alarms.new] at found
  placed := fun _ member => by simp [TimerWheel.new] at member
  mapped := fun _ _ => by simp [TimerWheel.new, Alarms.new]
  fired := fun _ => rfl

/-- The slot of a new pointer is the one of the due time. -/
theorem slotAfter_eq {timer : TimerWheel} {delayTime : UInt32} {now : Nat}
    (tick : timer.tick = now % capacity) (fits : delayTime.toNat ≤ capacity) :
    timer.slotAfter delayTime = (now + delayTime.toNat) % capacity := by
  rw [slotAfter, tick]
  simp only [capacity] at fits ⊢
  omega

/-- A task that is still to ring is alive. -/
theorem Tracks.live {service : Alarms TaskId} {timer : TimerWheel} (tracks : Tracks service timer)
    {ref : Ref} {alarm : Alarm TaskId} (found : service.alarms[ref]? = some alarm)
    (pending : service.Pending alarm) : 0 < Shared.count timer.tasks ref := by
  rw [tracks.counts]
  exact copies_pos (mod_capacity_lt _) (tracks.newest found pending)

theorem Tracks.locksLive {service : Alarms TaskId} {timer : TimerWheel}
    (tracks : Tracks service timer) : LocksLive timer := by
  intro id ref mapped
  obtain ⟨alarm, found, _, pending⟩ := (tracks.mapped id ref).mp mapped
  rw [Shared.lock_of_live (tracks.live found pending), tracks.objects, found]
  simp

/-- A task stands for its alarm. -/
theorem Tracks.stands {service : Alarms TaskId} {timer : TimerWheel} (tracks : Tracks service timer)
    {ref : Ref} {alarm : Alarm TaskId} (found : service.alarms[ref]? = some alarm) :
    Stands timer ref alarm.due := by
  obtain ⟨_, fits, bounded⟩ := tracks.bounds found
  have ticks := tracks.ticks
  refine ⟨by omega, fun pending => ?_, fun inside member => ?_⟩
  · rw [ticks] at pending
    exact tracks.newest found pending
  · obtain ⟨other, sameFound, time, later, before, residue⟩ := tracks.placed inside member
    obtain rfl := Option.some.inj (found.symm.trans sameFound)
    exact ⟨time, by rwa [ticks], before, residue⟩

/-- Another state of the alarms, in which one of them is new or is due no earlier than before. -/
structure Revised (service next : Alarms TaskId) (ref : Ref) (after : Alarm TaskId) : Prop where
  now : next.now = service.now
  alarms : ∀ other, next.alarms[other]? = if other = ref then some after else service.alarms[other]?
  bounds : 1 ≤ after.delay ∧ after.delay ≤ capacity ∧ after.due ≤ service.now + after.delay
  later : ∀ {before}, service.alarms[ref]? = some before → before.due ≤ after.due

/-- The bounds hold of the revised alarm as well. -/
theorem Revised.bounds_next {service next : Alarms TaskId} {timer : TimerWheel} {ref : Ref}
    {after : Alarm TaskId} (revised : Revised service next ref after)
    (tracks : Tracks service timer) {other : Ref} {alarm : Alarm TaskId}
    (found : next.alarms[other]? = some alarm) :
    1 ≤ alarm.delay ∧ alarm.delay ≤ capacity ∧ alarm.due ≤ next.now + alarm.delay := by
  rw [revised.alarms] at found
  rw [revised.now]
  split at found
  · obtain rfl := Option.some.inj found
    exact revised.bounds
  · exact tracks.bounds found

/-- The old pointers are still cleared no later than their tasks are due. -/
theorem Revised.placed_next {service next : Alarms TaskId} {timer : TimerWheel} {ref : Ref}
    {after : Alarm TaskId} (revised : Revised service next ref after)
    (tracks : Tracks service timer) {slot : Nat} {other : Ref} (inside : slot < capacity)
    (member : other ∈ timer.wheel slot) :
    ∃ alarm, next.alarms[other]? = some alarm ∧
      ∃ time, next.now < time ∧ time ≤ alarm.due ∧ time % capacity = slot := by
  obtain ⟨alarm, found, time, afterNow, before, residue⟩ := tracks.placed inside member
  rw [revised.alarms, revised.now]
  by_cases here : other = ref
  · subst here
    rw [if_pos rfl]
    exact ⟨_, rfl, time, afterNow, Nat.le_trans before (revised.later found), residue⟩
  · rw [if_neg here]
    exact ⟨alarm, found, time, afterNow, before, residue⟩

/-- A pointer in the slot of the new due time is the newest one. -/
theorem Revised.newest_pushBack {service next : Alarms TaskId} {timer : TimerWheel} {ref : Ref}
    {after : Alarm TaskId} (revised : Revised service next ref after)
    (tracks : Tracks service timer) {other : Ref} {alarm : Alarm TaskId}
    (found : next.alarms[other]? = some alarm) (pending : next.Pending alarm) :
    other ∈ (timer.pushBack (after.due % capacity) ref).wheel (alarm.due % capacity) := by
  rw [revised.alarms] at found
  rw [mem_pushBack]
  split at found
  · rename_i here
    obtain rfl := Option.some.inj found
    exact Or.inr ⟨rfl, here⟩
  · rw [Alarms.Pending, revised.now] at pending
    exact Or.inl (tracks.newest found pending)

/-- With this pointer all of them are still cleared no later than their tasks are due. -/
theorem Revised.placed_pushBack {service next : Alarms TaskId} {timer : TimerWheel} {ref : Ref}
    {after : Alarm TaskId} (revised : Revised service next ref after)
    (tracks : Tracks service timer) (pending : next.Pending after) {slot : Nat} {other : Ref}
    (inside : slot < capacity)
    (member : other ∈ (timer.pushBack (after.due % capacity) ref).wheel slot) :
    ∃ alarm, next.alarms[other]? = some alarm ∧
      ∃ time, next.now < time ∧ time ≤ alarm.due ∧ time % capacity = slot := by
  rw [mem_pushBack] at member
  rcases member with old | ⟨rfl, rfl⟩
  · exact revised.placed_next tracks inside old
  · rw [revised.alarms, if_pos rfl]
    exact ⟨after, rfl, after.due, pending, Nat.le_refl _, rfl⟩

/-- A name is in use after an alarm was set if it was before, or if it is the name of the alarm. -/
theorem exists_pending_set_iff (service : Alarms TaskId) {id : TaskId} {delay : Nat}
    (positive : 1 ≤ delay) (other : TaskId) (ref : Ref) :
    (∃ alarm, (service.set id delay).alarms[ref]? = some alarm ∧ alarm.id = other ∧
        (service.set id delay).Pending alarm) ↔
      (ref = service.alarms.length ∧ id = other) ∨
        ∃ alarm, service.alarms[ref]? = some alarm ∧ alarm.id = other ∧
          service.Pending alarm := by
  rw [Alarms.getElem?_set]
  by_cases last : ref = service.alarms.length
  · subst last
    have waiting : service.now < service.now + delay := Nat.lt_add_of_pos_right positive
    simp [Alarms.Pending, Alarms.set, waiting]
  · simp [last, Alarms.Pending, Alarms.set]

/-- An alarm that is set does not ring at once. -/
theorem ringsOf_set (service : Alarms TaskId) (id : TaskId) {delay : Nat} (positive : 1 ≤ delay)
    (ref : Ref) : ringsOf (service.set id delay) ref = ringsOf service ref := by
  unfold ringsOf
  rw [Alarms.getElem?_set]
  by_cases last : ref = service.alarms.length
  · subst last
    have waiting : ¬ (service.set id delay).Rung ⟨id, delay, service.now + delay, false⟩ := by
      simp only [Alarms.Rung, Alarms.set]
      omega
    simp [waiting]
  · rw [if_neg last]
    rfl

theorem tracks_add {service : Alarms TaskId} {timer : TimerWheel} (tracks : Tracks service timer)
    {id : TaskId} {delayTime : UInt32} (admitted : Admitted timer (.add id delayTime)) :
    Tracks (service.set id delayTime.toNat) (timer.timerTaskAddInLoop id delayTime) := by
  obtain ⟨unused, positive, fits⟩ := admitted
  have slot := slotAfter_eq tracks.tick fits
  have revised : Revised service (service.set id delayTime.toNat) timer.tasks.next
      ⟨id, delayTime.toNat, service.now + delayTime.toNat, false⟩ := by
    refine ⟨rfl, ?_, ⟨positive, fits, Nat.le_refl _⟩, ?_⟩
    · intro ref
      rw [tracks.next, Alarms.getElem?_set]
    · intro before found
      rw [tracks.next, List.getElem?_eq_none (Nat.le_refl _)] at found
      cases found
  have counted := Counted.add tracks.counts id delayTime
  rw [timerTaskAddInLoop_eq, slot] at counted ⊢
  refine ⟨tracks.ticks, tracks.tick, ?_, ?_, counted, revised.bounds_next tracks,
    revised.newest_pushBack tracks,
    revised.placed_pushBack tracks (Nat.lt_add_of_pos_right positive), ?_, ?_⟩
  · have next := tracks.next
    simp only [Shared.make, Heap.alloc, Heap.next, Alarms.set, List.length_append] at next ⊢
    rw [next]
    rfl
  · intro ref
    rw [Shared.object_make, revised.alarms]
    split
    · simp [taskOf]
    · exact tracks.objects ref
  · intro other ref
    rw [exists_pending_set_iff service positive, PMap.find?_insert, ← tracks.mapped,
      ← tracks.next]
    by_cases same : other = id
    · subst same
      simp [unused, eq_comm]
    · simp [same, Ne.symm same]
  · intro ref
    rw [ringsOf_set service id positive]
    exact tracks.fired ref

/-- A name that is not in the map is the name of no alarm that is still to ring. -/
theorem Tracks.changePending_of_unused {service : Alarms TaskId} {timer : TimerWheel}
    (tracks : Tracks service timer) {id : TaskId} (unused : timer.weakPtrMap.find? id = none)
    (change : Alarm TaskId → Alarm TaskId) : service.changePending id change = service := by
  refine Alarms.changePending_of_none change fun alarm member same pending => ?_
  obtain ⟨ref, found⟩ := List.mem_iff_getElem?.mp member
  have mapped := (tracks.mapped id ref).mpr ⟨alarm, found, same, pending⟩
  cases unused.symm.trans mapped

/-- A name in the map is the name of one alarm that is still to ring, and no other changes. -/
theorem Tracks.getElem?_changePending {service : Alarms TaskId} {timer : TimerWheel}
    (tracks : Tracks service timer) {id : TaskId} {ref : Ref} {alarm : Alarm TaskId}
    (mapped : timer.weakPtrMap.find? id = some ref) (found : service.alarms[ref]? = some alarm)
    (same : alarm.id = id) (pending : service.Pending alarm)
    (change : Alarm TaskId → Alarm TaskId) (other : Ref) :
    (service.changePending id change).alarms[other]? =
      if other = ref then some (change alarm) else service.alarms[other]? := by
  rw [Alarms.getElem?_changePending]
  by_cases here : other = ref
  · rw [if_pos here, here, found, Option.map_some, if_pos ⟨same, pending⟩]
  · rw [if_neg here]
    cases otherFound : service.alarms[other]? with
    | none => rfl
    | some otherAlarm =>
        have different : ¬ (otherAlarm.id = id ∧ service.Pending otherAlarm) := by
          rintro ⟨sameId, otherPending⟩
          have otherMapped := (tracks.mapped id other).mpr ⟨_, otherFound, sameId, otherPending⟩
          exact here (Option.some.inj (otherMapped.symm.trans mapped))
        rw [Option.map_some, if_neg different]

/-- Another state of the same alarms, in which one alarm that is still to ring has been replaced by
one of the same name that is still to ring too. -/
structure Replaced (service next : Alarms TaskId) (ref : Ref) (before after : Alarm TaskId) :
    Prop where
  now : next.now = service.now
  found : service.alarms[ref]? = some before
  alarms : ∀ other, next.alarms[other]? = if other = ref then some after else service.alarms[other]?
  id : after.id = before.id
  pendingBefore : service.Pending before
  pendingAfter : next.Pending after

/-- The names in use stay in use. -/
theorem Replaced.exists_pending_iff {service next : Alarms TaskId} {ref : Ref}
    {before after : Alarm TaskId} (replaced : Replaced service next ref before after)
    (id : TaskId) (other : Ref) :
    (∃ alarm, next.alarms[other]? = some alarm ∧ alarm.id = id ∧ next.Pending alarm) ↔
      ∃ alarm, service.alarms[other]? = some alarm ∧ alarm.id = id ∧ service.Pending alarm := by
  rw [replaced.alarms]
  by_cases here : other = ref
  · subst here
    simp [replaced.found, replaced.id, replaced.pendingBefore, replaced.pendingAfter]
  · rw [if_neg here]
    simp only [Alarms.Pending, replaced.now]

/-- Nothing rings. -/
theorem Replaced.ringsOf_eq {service next : Alarms TaskId} {ref : Ref}
    {before after : Alarm TaskId} (replaced : Replaced service next ref before after)
    (other : Ref) : ringsOf next other = ringsOf service other := by
  unfold ringsOf
  rw [replaced.alarms]
  by_cases here : other = ref
  · have waitingBefore : ¬ service.Rung before := fun rung =>
      absurd replaced.pendingBefore (Nat.not_lt.mpr rung.1)
    have waitingAfter : ¬ next.Rung after := fun rung =>
      absurd replaced.pendingAfter (Nat.not_lt.mpr rung.1)
    rw [if_pos here, here, replaced.found]
    simp only [if_neg waitingBefore, if_neg waitingAfter]
  · rw [if_neg here]
    cases service.alarms[other]? with
    | none => rfl
    | some alarm => exact if_congr (by simp only [Alarms.Rung, replaced.now]) rfl rfl

/-- What a found name says of its task. -/
theorem Tracks.object_of_found {service : Alarms TaskId} {timer : TimerWheel}
    (tracks : Tracks service timer) {ref : Ref} {alarm : Alarm TaskId}
    (found : service.alarms[ref]? = some alarm) :
    Shared.object timer.tasks ref = some (taskOf alarm) ∧
      (taskOf alarm).delayTime.toNat = alarm.delay := by
  obtain ⟨_, fits, _⟩ := tracks.bounds found
  constructor
  · rw [tracks.objects, found]
    rfl
  · simp only [taskOf, capacity] at fits ⊢
    rw [UInt32.toNat_ofNat']
    omega

theorem tracks_refresh {service : Alarms TaskId} {timer : TimerWheel} (tracks : Tracks service timer)
    (id : TaskId) : ∃ next, timer.timerTaskRefreshInLoop id = .ok next ∧
      Tracks (service.refresh id) next := by
  cases mapped : timer.weakPtrMap.find? id with
  | none =>
      rw [Alarms.refresh, tracks.changePending_of_unused mapped]
      exact ⟨timer, by rw [timerTaskRefreshInLoop, mapped], tracks⟩
  | some ref =>
      obtain ⟨alarm, found, same, pending⟩ := (tracks.mapped id ref).mp mapped
      obtain ⟨positive, fits, bounded⟩ := tracks.bounds found
      obtain ⟨made, delayTime⟩ := tracks.object_of_found found
      have slot := slotAfter_eq tracks.tick (delayTime.symm ▸ fits)
      rw [delayTime] at slot
      have alarms := tracks.getElem?_changePending mapped found same pending fun alarm =>
        { alarm with due := service.now + alarm.delay }
      have replaced : Replaced service (service.refresh id) ref alarm
          { alarm with due := service.now + alarm.delay } :=
        ⟨rfl, found, alarms, rfl, pending, Nat.lt_add_of_pos_right positive⟩
      have revised : Revised service (service.refresh id) ref
          { alarm with due := service.now + alarm.delay } :=
        ⟨rfl, alarms, ⟨positive, fits, Nat.le_refl _⟩, fun before =>
          Option.some.inj (found.symm.trans before) ▸ bounded⟩
      refine ⟨_, timerTaskRefreshInLoop_of_live mapped made (tracks.live found pending), ?_⟩
      rw [slot]
      refine ⟨tracks.ticks, tracks.tick, ?_, ?_,
        Counted.pushBack tracks.counts made (mod_capacity_lt _), revised.bounds_next tracks,
        revised.newest_pushBack tracks,
        revised.placed_pushBack tracks (Nat.lt_add_of_pos_right positive),
        fun other number => (tracks.mapped other number).trans
          (replaced.exists_pending_iff other number).symm,
        fun other => (tracks.fired other).trans (replaced.ringsOf_eq other).symm⟩
      · have next := tracks.next
        simpa [pushBack, Alarms.refresh, Alarms.changePending] using next
      · intro other
        rw [replaced.alarms]
        have objects := tracks.objects other
        simp only [pushBack, Shared.object_copy, objects]
        by_cases here : other = ref
        · rw [if_pos here, here, found]
          rfl
        · rw [if_neg here]

theorem tracks_cancel {service : Alarms TaskId} {timer : TimerWheel} (tracks : Tracks service timer)
    (id : TaskId) : Tracks (service.cancel id) (timer.timerTaskCancelInLoop id) := by
  cases mapped : timer.weakPtrMap.find? id with
  | none =>
      rw [Alarms.cancel, tracks.changePending_of_unused mapped, timerTaskCancelInLoop, mapped]
      exact tracks
  | some ref =>
      obtain ⟨alarm, found, same, pending⟩ := (tracks.mapped id ref).mp mapped
      have bounds := tracks.bounds found
      have newest := tracks.newest found pending
      obtain ⟨made, _⟩ := tracks.object_of_found found
      have alarms := tracks.getElem?_changePending mapped found same pending fun alarm =>
        { alarm with cancelled := true }
      have replaced : Replaced service (service.cancel id) ref alarm
          { alarm with cancelled := true } :=
        ⟨rfl, found, alarms, rfl, pending, pending⟩
      have revised : Revised service (service.cancel id) ref { alarm with cancelled := true } :=
        ⟨rfl, alarms, bounds, fun before =>
          Option.some.inj (found.symm.trans before) ▸ Nat.le_refl _⟩
      rw [timerTaskCancelInLoop_of_live mapped made (tracks.live found pending)]
      refine ⟨tracks.ticks, tracks.tick, ?_, ?_, ?_, revised.bounds_next tracks, ?_,
        revised.placed_next tracks,
        fun other number => (tracks.mapped other number).trans
          (replaced.exists_pending_iff other number).symm,
        fun other => (tracks.fired other).trans (replaced.ringsOf_eq other).symm⟩
      · have next := tracks.next
        simpa [Alarms.cancel, Alarms.changePending] using next
      · intro other
        rw [replaced.alarms]
        have objects := tracks.objects other
        simp only [Shared.object_update, objects]
        by_cases here : other = ref
        · rw [if_pos here, if_pos here, here, found]
          rfl
        · rw [if_neg here, if_neg here]
      · intro other
        rw [Shared.count_update]
        exact tracks.counts other
      · intro other otherAlarm otherFound otherPending
        rw [replaced.alarms] at otherFound
        split at otherFound
        · rename_i here
          obtain rfl := Option.some.inj otherFound
          exact here ▸ newest
        · exact tracks.newest otherFound otherPending

/-! ### A step of the wheel -/

/-- The wheel is at the slot of the time. -/
theorem Tracks.phase {service : Alarms TaskId} {timer : TimerWheel}
    (tracks : Tracks service timer) : timer.tick = timer.ticks % capacity := by
  rw [tracks.tick, tracks.ticks]

/-- The slot that is cleared holds the last pointers of exactly the tasks that are due. -/
theorem Tracks.lastIn_iff {service : Alarms TaskId} {timer : TimerWheel}
    (tracks : Tracks service timer) {ref : Ref} {alarm : Alarm TaskId}
    (found : service.alarms[ref]? = some alarm) :
    (moved timer).LastIn (timer.wheel (moved timer).tick) ref ↔ alarm.due = service.now + 1 := by
  rw [← tracks.ticks]
  exact (tracks.stands found).lastIn_iff tracks.counts tracks.phase

/-- The names of the tasks that are due go out of use. -/
theorem mapped_runOne {service : Alarms TaskId} {timer : TimerWheel} (tracks : Tracks service timer)
    (id : TaskId) (ref : Ref) : timer.wheelRunOne.weakPtrMap.find? id = some ref ↔
      ∃ alarm, service.tick.alarms[ref]? = some alarm ∧ alarm.id = id ∧
        service.tick.Pending alarm := by
  have released := find?_foldl_release (Counted.held tracks.counts) id ref
  refine Iff.trans released ?_
  have before : (moved timer).weakPtrMap.find? id = some ref ↔ _ := tracks.mapped id ref
  rw [before]
  constructor
  · rintro ⟨⟨alarm, found, same, pending⟩, others⟩
    refine ⟨alarm, found, same, ?_⟩
    have notDue : alarm.due ≠ service.now + 1 := fun due =>
      others ref (taskOf alarm) ((tracks.lastIn_iff found).mpr due)
        (tracks.object_of_found found).1 same
    simp only [Alarms.Pending, Alarms.tick] at pending ⊢
    omega
  · rintro ⟨alarm, found, same, pending⟩
    have pendingBefore : service.Pending alarm := Nat.lt_of_succ_lt pending
    refine ⟨⟨alarm, found, same, pendingBefore⟩, fun other task last made sameId => ?_⟩
    have madeBefore : Shared.object timer.tasks other = some task := made
    rw [tracks.objects] at madeBefore
    obtain ⟨otherAlarm, otherFound, rfl⟩ := Option.map_eq_some_iff.mp madeBefore
    have due := (tracks.lastIn_iff otherFound).mp last
    have otherPending : service.Pending otherAlarm := by
      rw [Alarms.Pending, due]
      exact Nat.lt_succ_self _
    have mapped := (tracks.mapped id ref).mpr ⟨alarm, found, same, pendingBefore⟩
    have otherMapped := (tracks.mapped id other).mpr ⟨_, otherFound, sameId, otherPending⟩
    obtain rfl := Option.some.inj (mapped.symm.trans otherMapped)
    obtain rfl := Option.some.inj (found.symm.trans otherFound)
    simp only [Alarms.Pending, Alarms.tick] at pending
    omega

/-- The tasks that are due run their callbacks, unless they are cancelled. -/
theorem fired_runOne {service : Alarms TaskId} {timer : TimerWheel} (tracks : Tracks service timer)
    (ref : Ref) : timer.wheelRunOne.firedBy ref = ringsOf service.tick ref := by
  have before := tracks.fired ref
  have objects : Shared.object (moved timer).tasks ref = _ := tracks.objects ref
  unfold ringsOf at before ⊢
  cases found : service.alarms[ref]? with
  | none =>
      rw [found] at before objects
      have released : timer.wheelRunOne.firedBy ref = timer.firedBy ref :=
        firedBy_foldl_release_of_none objects
      rw [released, before, show service.tick.alarms[ref]? = none from found]
  | some alarm =>
      rw [found] at before objects
      have released : timer.wheelRunOne.firedBy ref = timer.firedBy ref ++ _ :=
        firedBy_foldl_release (Counted.held tracks.counts) objects
      rw [released, before, show service.tick.alarms[ref]? = some alarm from found]
      have ticks : (moved timer).ticks = service.now + 1 := congrArg (· + 1) tracks.ticks
      have last := tracks.lastIn_iff found
      simp only [last, ticks, taskOf, Alarms.Rung, Alarms.tick]
      by_cases cancelled : alarm.cancelled = false
      · simp only [cancelled, and_true]
        by_cases due : alarm.due = service.now + 1
        · simp [due]
        · by_cases rung : alarm.due ≤ service.now
          · rw [if_pos rung, if_neg due, if_pos (by omega), List.append_nil]
          · rw [if_neg rung, if_neg due, if_neg (by omega)]
            rfl
      · simp [cancelled]

theorem tracks_runOne {service : Alarms TaskId} {timer : TimerWheel} (tracks : Tracks service timer) :
    Tracks service.tick timer.wheelRunOne := by
  have phase := tracks.phase
  obtain ⟨stepTicks, stepTick⟩ := ticks_runOne timer
  have ticks : timer.wheelRunOne.ticks = service.tick.now :=
    stepTicks.trans (congrArg (· + 1) tracks.ticks)
  refine ⟨ticks, ?_, ?_, ?_, Counted.runOne tracks.counts, ?_, ?_, ?_, mapped_runOne tracks,
    fired_runOne tracks⟩
  · rw [stepTick, moved_tick phase, ← stepTicks, ticks]
  · exact (next_foldl_release _ (moved timer)).trans tracks.next
  · exact fun ref => (object_foldl_release _ (moved timer) ref).trans (tracks.objects ref)
  · intro ref alarm found
    obtain ⟨positive, fits, bounded⟩ := tracks.bounds found
    exact ⟨positive, fits, by simp only [Alarms.tick]; omega⟩
  · intro ref alarm found pending
    exact ((tracks.stands found).runOne phase).newest (ticks.symm ▸ pending)
  · intro slot ref inside member
    have before : ref ∈ timer.wheel slot := by
      rw [wheel_wheelRunOne] at member
      dsimp only at member
      split at member
      · cases member
      · exact member
    obtain ⟨alarm, found, _⟩ := tracks.placed inside before
    obtain ⟨time, later, sooner, residue⟩ :=
      ((tracks.stands found).runOne phase).placed inside member
    exact ⟨alarm, found, time, ticks ▸ later, sooner, residue⟩

/-! ### Runs -/

/-- An admitted call goes through and does to the wheel what it means for the alarms. -/
theorem step_tracks {service : Alarms TaskId} {timer : TimerWheel} {call : TimerCall}
    (tracks : Tracks service timer) (admitted : Admitted timer call) :
    ∃ next, timer.step call = .ok next ∧ Tracks (applyCall service call) next := by
  cases call with
  | add id delayTime => exact ⟨_, rfl, tracks_add tracks admitted⟩
  | refresh id => exact tracks_refresh tracks id
  | cancel id => exact ⟨_, rfl, tracks_cancel tracks id⟩
  | runOne => exact ⟨_, rfl, tracks_runOne tracks⟩

/-- One call carries the refinement from the calls so far to the calls with it. -/
theorem step_refines (past : List TimerCall) (timer : TimerWheel) (call : TimerCall)
    (tracks : Tracks (alarmsAfter past) timer) (admitted : Admitted timer call) :
    ∃ next, timer.step call = .ok next ∧ Tracks (alarmsAfter (past ++ [call])) next := by
  have after : alarmsAfter (past ++ [call]) = applyCall (alarmsAfter past) call := by
    simp [alarmsAfter]
  rw [after]
  exact step_tracks tracks admitted

/-- After every sequence of calls the record holds, for every task, one callback at the time its
alarm was due if the alarm has rung, and none if it is still to ring or was cancelled.  On the way
every weak pointer in the map can be locked. -/
theorem timerWheel_rings_exactly (calls : List TimerCall)
    (admitted : Admissible TimerWheel.step Admitted TimerWheel.new calls) :
    Throughout TimerWheel.step LocksLive TimerWheel.new calls ∧
      ∃ last, run TimerWheel.step TimerWheel.new calls = .ok last ∧
        last.ticks = (alarmsAfter calls).now ∧
        ∀ ref, last.firedBy ref = ringsOf (alarmsAfter calls) ref := by
  have start : Tracks (alarmsAfter []) TimerWheel.new := tracks_new
  refine ⟨throughout_of_history step_refines (fun _ _ => Tracks.locksLive) start calls admitted, ?_⟩
  obtain ⟨last, reached, tracks⟩ := exists_run_of_history step_refines start calls admitted
  rw [List.nil_append] at tracks
  exact ⟨last, reached, tracks.ticks, tracks.fired⟩

/-- A task that is refreshed rings two steps after its refresh, a cancelled one never. -/
theorem timerWheel_rings_exactly_refreshed :
    ∃ last, run TimerWheel.step TimerWheel.new
        [.add 1 2, .add 2 3, .runOne, .refresh 1, .cancel 2, .runOne, .runOne] = .ok last ∧
      last.firedBy 0 = [(3, 0)] ∧ last.firedBy 1 = [] := by
  obtain ⟨_, last, reached, _, fired⟩ := timerWheel_rings_exactly
    [.add 1 2, .add 2 3, .runOne, .refresh 1, .cancel 2, .runOne, .runOne] (by decide)
  exact ⟨last, reached, (fired 0).trans (by decide), (fired 1).trans (by decide)⟩

end GomukuServer.Proofs.TimerExactness
