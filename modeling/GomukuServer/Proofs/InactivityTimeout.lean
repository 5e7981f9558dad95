/-
Module: GomukuServer.Proofs.InactivityTimeout
Layer: Proofs
Purpose: When the inactivity timer shuts a connection down.  The slots of the wheel tell delays
  apart only up to the length of the wheel, so a longer timeout is cut down to its remainder, and a
  connection that stays idle for that long is shut down too early.
Trusted boundary: none
Main exports: Watched, established, OnTime, Lively, Honoured, dueAfter, NotIdle, Watches,
  timeout_honoured_iff
-/
import GomukuServer.Proofs.TimerIds

namespace GomukuServer.Proofs.InactivityTimeout

open Base Base.Runs MyMuduo MyMuduo.TimerWheel Proofs.TimerExactness Proofs.TimerIds

/-- A connection, and the step of the wheel in which it was created or had its last event. -/
structure Watched where
  conn : TimedConnection
  lastActive : Nat

/-- Make a call. -/
def step (watched : Watched) (call : TimedCall) : Except Fault Watched := do
  let conn ← watched.conn.step call
  pure {
    conn := conn
    lastActive := if call = .handleEvent then conn.timer.ticks else watched.lastActive }

/-- What `newConnection` asks of the loop when the timeout is enabled. -/
def established (timer : TimerWheel) (id : TaskId) (timeouts : Int) : Except Fault Watched := do
  let conn ← (TimedConnection.new timer id).enableInactiveReleaseInLoop timeouts
  pure ⟨conn.connectEstablished, timer.ticks⟩

/-- The call is made for another id. -/
def ForOther (id : TaskId) : TimerCall → Prop
  | .add other _ => other ≠ id
  | .refresh other => other ≠ id
  | .cancel other => other ≠ id
  | .runOne => True

instance (id : TaskId) : (call : TimerCall) → Decidable (ForOther id call)
  | .add other _ => inferInstanceAs (Decidable (other ≠ id))
  | .refresh other => inferInstanceAs (Decidable (other ≠ id))
  | .cancel other => inferInstanceAs (Decidable (other ≠ id))
  | .runOne => inferInstanceAs (Decidable True)

/-- Nobody else uses the id of the connection, and the wheel does not step unseen. -/
def Own (id : TaskId) : TimedCall → Prop
  | .elsewhere call => ForOther id call ∧ call ≠ .runOne
  | .handleEvent => True
  | .wheelRunOne => True
  | .shutdown => True
  | .handlerClose => True
  | .connectDestroyed => True

instance (id : TaskId) : (call : TimedCall) → Decidable (Own id call)
  | .elsewhere call => inferInstanceAs (Decidable (ForOther id call ∧ call ≠ .runOne))
  | .handleEvent => inferInstanceAs (Decidable True)
  | .wheelRunOne => inferInstanceAs (Decidable True)
  | .shutdown => inferInstanceAs (Decidable True)
  | .handlerClose => inferInstanceAs (Decidable True)
  | .connectDestroyed => inferInstanceAs (Decidable True)

/-- The call goes through, and the timer shuts the connection down in it exactly if it is the step
of the wheel that comes the timeout after the last event of the established connection. -/
def OnTime (timeouts : Int) (watched : Watched) (call : TimedCall) : Prop :=
  ∃ next, step watched call = .ok next ∧
    (next.conn.timedOut ≠ watched.conn.timedOut ↔
      call = .wheelRunOne ∧ watched.conn.state = .kConnected ∧
        (next.conn.timer.ticks : Int) = watched.lastActive + timeouts)

/-- The last event is never as long ago as the timeout. -/
def Lively (timeouts : Int) (watched : Watched) (call : TimedCall) : Prop :=
  call = .wheelRunOne → (watched.conn.timer.ticks : Int) + 1 < watched.lastActive + timeouts

/-- The timeout is honoured, and a connection with an event in every shorter time is never shut down
by the timer. -/
structure Honoured (timeouts : Int) (watched : Watched) (calls : List TimedCall) : Prop where
  onTime : Admissible step (OnTime timeouts) watched calls
  lively : Admissible step (Lively timeouts) watched calls →
    Always step (fun visited => visited.conn.timedOut = []) watched calls

/-- After how many steps the wheel comes to the slot of a timeout. -/
def dueAfter (timeouts : Int) : Nat := (timeouts.toNat - 1) % capacity + 1

/-- The connection is not established and without an event for just as many steps. -/
def NotIdle (timeouts : Int) (watched : Watched) (call : TimedCall) : Prop :=
  call = .wheelRunOne → watched.conn.state = .kConnected →
    watched.conn.timer.ticks + 1 ≠ watched.lastActive + dueAfter timeouts

/-! ### A task in the slots -/

/-- The slots count a timeout only up to their number. -/
theorem slotAfter_toDelay {timer : TimerWheel} (phase : timer.tick = timer.ticks % capacity)
    {timeouts : Int} (positive : 0 < timeouts) (fits : timeouts < 2 ^ 31) :
    timer.slotAfter (TimedConnection.toDelay timeouts) =
      (timer.ticks + dueAfter timeouts) % capacity := by
  obtain ⟨number, rfl⟩ := Int.eq_ofNat_of_zero_le (Int.le_of_lt positive)
  have whole : (TimedConnection.toDelay number).toNat = number := by
    unfold TimedConnection.toDelay
    rw [UInt32.toNat_ofNat']
    omega
  rw [slotAfter, whole, phase, dueAfter, Int.toNat_natCast]
  simp only [capacity]
  omega

theorem dueAfter_le (timeouts : Int) : 1 ≤ dueAfter timeouts ∧ dueAfter timeouts ≤ capacity := by
  simp only [dueAfter, capacity]
  omega

/-- A task stands where it did if its pointers are where they were. -/
theorem stands_congr {timer next : TimerWheel} {ref : Ref} {due : Nat}
    (stands : Stands timer ref due) (ticks : next.ticks = timer.ticks)
    (same : ∀ slot, ref ∈ next.wheel slot ↔ ref ∈ timer.wheel slot) : Stands next ref due where
  near := ticks ▸ stands.near
  newest := fun pending => (same _).mpr (stands.newest (ticks ▸ pending))
  placed := by
    intro slot inside member
    obtain ⟨time, later, before, residue⟩ := stands.placed inside ((same slot).mp member)
    exact ⟨time, ticks ▸ later, before, residue⟩

/-- A new pointer is in the slot that is cleared last. -/
theorem stands_pushBack {timer : TimerWheel} {ref : Ref} {due later : Nat}
    (placed : ∀ {slot}, slot < capacity → ref ∈ timer.wheel slot →
      ∃ time, timer.ticks < time ∧ time ≤ due ∧ time % capacity = slot)
    (near : later ≤ timer.ticks + capacity) (pending : timer.ticks < later) (after : due ≤ later) :
    Stands (timer.pushBack (later % capacity) ref) ref later where
  near := near
  newest := fun _ => (mem_pushBack ..).mpr (Or.inr ⟨rfl, rfl⟩)
  placed := by
    intro slot inside member
    rcases (mem_pushBack ..).mp member with old | ⟨rfl, _⟩
    · obtain ⟨time, afterNow, before, residue⟩ := placed inside old
      exact ⟨time, afterNow, Nat.le_trans before after, residue⟩
    · exact ⟨later, pending, Nat.le_refl _, rfl⟩

/-! ### The task of the connection -/

/-- The one task of an id waits, neither cancelled nor fired, to be due. -/
structure Waits (timer : TimerWheel) (id : TaskId) (delayTime : UInt32) (ref : Ref) (due : Nat) :
    Prop where
  mapped : timer.weakPtrMap.find? id = some ref
  made : Shared.object timer.tasks ref = some ⟨id, delayTime, false⟩
  only : ∀ {other task}, Shared.object timer.tasks other = some task → task.id = id → other = ref
  stands : Stands timer ref due
  pending : timer.ticks < due

/-- A task that is added under a new id waits for its first time. -/
theorem waits_add {timer : TimerWheel} (sound : Sound timer) {id : TaskId}
    (fresh : ∀ ref task, Shared.object timer.tasks ref = some task → task.id ≠ id)
    {delayTime : UInt32} {due : Nat} (slot : timer.slotAfter delayTime = due % capacity)
    (near : due ≤ timer.ticks + capacity) (pending : timer.ticks < due) :
    Waits (timer.timerTaskAddInLoop id delayTime) id delayTime timer.tasks.next due := by
  have nowhere : ∀ {slot}, slot < capacity → timer.tasks.next ∈ timer.wheel slot →
      ∃ time, timer.ticks < time ∧ time ≤ due ∧ time % capacity = slot := by
    intro slot inside member
    have alive := copies_pos inside member
    rw [← sound.counted, Shared.count_eq_zero (Shared.object_next _)] at alive
    cases alive
  rw [timerTaskAddInLoop_eq, slot]
  refine ⟨?_, ?_, ?_, ?_, pending⟩
  · simp
  · simp
  · intro other task made same
    rw [Shared.object_make] at made
    split at made
    · assumption
    · exact absurd same (fresh other task made)
  · exact stands_congr (stands_pushBack nowhere near pending (Nat.le_refl _)) rfl
      fun _ => Iff.rfl

/-- A refresh starts the time again. -/
theorem waits_refresh {timer : TimerWheel} {id : TaskId} {delayTime : UInt32} {ref : Ref}
    {due later : Nat} (waits : Waits timer id delayTime ref due)
    (slot : timer.slotAfter delayTime = later % capacity)
    (near : later ≤ timer.ticks + capacity) (pending : timer.ticks < later) (after : due ≤ later) :
    Waits (timer.pushBack (timer.slotAfter delayTime) ref) id delayTime ref later := by
  rw [slot]
  refine ⟨waits.mapped, ?_, ?_, stands_pushBack waits.stands.placed near pending after, pending⟩
  · simpa [TimerWheel.pushBack] using waits.made
  · intro other task made
    simp only [TimerWheel.pushBack, Shared.object_copy] at made
    exact waits.only made

/-- A step of the wheel before the task is due. -/
theorem waits_runOne {timer : TimerWheel} (sound : Sound timer)
    (phase : timer.tick = timer.ticks % capacity) {id : TaskId} {delayTime : UInt32} {ref : Ref}
    {due : Nat} (waits : Waits timer id delayTime ref due) (early : due ≠ timer.ticks + 1) :
    Waits timer.wheelRunOne id delayTime ref due := by
  have survives : ¬ Dies timer ref := fun dies =>
    early ((waits.stands.lastIn_iff sound.counted phase).mp dies)
  have ticks := (ticks_runOne timer).1
  have pending := waits.pending
  refine ⟨?_, (object_runOne timer ref).trans waits.made, ?_, waits.stands.runOne phase, by omega⟩
  · refine (find?_runOne sound.counted id ref).mpr
      ⟨waits.mapped, fun other task dies made same => ?_⟩
    obtain rfl := waits.only made same
    exact survives dies
  · intro other task made
    rw [object_runOne] at made
    exact waits.only made

/-- A call other than a step of the wheel leaves the time and the record alone. -/
theorem frame_step {timer next : TimerWheel} (sound : Sound timer) {call : TimerCall}
    (still : call ≠ .runOne) (made : timer.step call = .ok next) :
    (next.tick = timer.tick ∧ next.ticks = timer.ticks) ∧ next.fired = timer.fired := by
  cases call with
  | add id delayTime =>
      obtain rfl := Except.ok.inj made
      rw [timerTaskAddInLoop_eq]
      exact ⟨⟨rfl, rfl⟩, rfl⟩
  | refresh id =>
      rcases sound.refresh id with ⟨_, same⟩ | ⟨_, _, _, _, pushed⟩
      · obtain rfl := Except.ok.inj (same.symm.trans made)
        exact ⟨⟨rfl, rfl⟩, rfl⟩
      · obtain rfl := Except.ok.inj (pushed.symm.trans made)
        exact ⟨⟨rfl, rfl⟩, rfl⟩
  | cancel id =>
      obtain rfl := Except.ok.inj made
      rcases sound.cancel id with ⟨_, same⟩ | ⟨_, _, _, _, same⟩
      · rw [same]
        exact ⟨⟨rfl, rfl⟩, rfl⟩
      · rw [same]
        exact ⟨⟨rfl, rfl⟩, rfl⟩
  | runOne => exact absurd rfl still

/-- A call for another id makes no task of this one and changes none. -/
theorem object_step_other {timer next : TimerWheel} (sound : Sound timer) {id : TaskId}
    {call : TimerCall} (other : ForOther id call) (made : timer.step call = .ok next) (ref : Ref)
    (task : TimerTask) : Shared.object next.tasks ref = some task ∧ task.id = id ↔
      Shared.object timer.tasks ref = some task ∧ task.id = id := by
  cases call with
  | add otherId delayTime =>
      obtain rfl := Except.ok.inj made
      rw [timerTaskAddInLoop_eq, Shared.object_make]
      by_cases last : ref = timer.tasks.next
      · subst last
        rw [if_pos rfl, Shared.object_next]
        simp only [Option.some.injEq, reduceCtorEq, false_and, iff_false]
        rintro ⟨rfl, same⟩
        exact other same
      · rw [if_neg last]
  | refresh otherId =>
      rcases sound.refresh otherId with ⟨_, same⟩ | ⟨_, _, _, _, pushed⟩
      · obtain rfl := Except.ok.inj (same.symm.trans made)
        exact Iff.rfl
      · obtain rfl := Except.ok.inj (pushed.symm.trans made)
        simp [TimerWheel.pushBack]
  | cancel otherId =>
      obtain rfl := Except.ok.inj made
      rcases sound.cancel otherId with ⟨_, same⟩ | ⟨named, namedTask, found, namedMade, same⟩
      · rw [same]
      · rw [same]
        simp only [Shared.object_update]
        by_cases here : ref = named
        · subst here
          obtain ⟨⟨⟨sameTask, sameMade, sameId⟩, _⟩, _⟩ := sound.mapped found
          obtain rfl := Option.some.inj (namedMade.symm.trans sameMade)
          rw [if_pos rfl, namedMade]
          have different : namedTask.id ≠ id := fun equal => other (sameId.symm.trans equal)
          simp only [Option.map_some, Option.some.injEq]
          constructor
          · rintro ⟨rfl, equal⟩
            exact absurd equal different
          · rintro ⟨rfl, equal⟩
            exact absurd equal different
        · rw [if_neg here]
  | runOne =>
      obtain rfl := Except.ok.inj made
      rw [object_runOne]

/-- A call for another id leaves the waiting task alone. -/
theorem waits_step_other {timer next : TimerWheel} (sound : Sound timer) {id : TaskId}
    {delayTime : UInt32} {ref : Ref} {due : Nat} (waits : Waits timer id delayTime ref due)
    {call : TimerCall} (other : ForOther id call) (still : call ≠ .runOne)
    (made : timer.step call = .ok next) : Waits next id delayTime ref due := by
  have objects := object_step_other sound other made
  have ticks := (frame_step sound still made).1.2
  have stillMade : Shared.object next.tasks ref = some ⟨id, delayTime, false⟩ :=
    ((objects ref _).mpr ⟨waits.made, rfl⟩).1
  have stillOnly : ∀ {position task}, Shared.object next.tasks position = some task →
      task.id = id → position = ref := by
    intro position task here same
    obtain ⟨before, _⟩ := (objects position task).mp ⟨here, same⟩
    exact waits.only before same
  -- where another task gets a pointer, this one gets none
  have stranger : ∀ {named otherId}, otherId ≠ id → Latest timer otherId named → ref ≠ named := by
    rintro named otherId different ⟨⟨task, namedMade, same⟩, _⟩ rfl
    obtain rfl := Option.some.inj (waits.made.symm.trans namedMade)
    exact different same.symm
  have pushed : ∀ {named}, ref ≠ named → ∀ slot position,
      ref ∈ (timer.pushBack slot named).wheel position ↔ ref ∈ timer.wheel position := by
    intro named different slot position
    rw [mem_pushBack]
    simp [different]
  cases call with
  | add otherId delay =>
      obtain rfl := Except.ok.inj made
      have older : ref ≠ timer.tasks.next := by
        rintro rfl
        have absent := waits.made
        rw [Shared.object_next] at absent
        cases absent
      refine ⟨?_, stillMade, stillOnly, ?_, ticks.symm ▸ waits.pending⟩
      · rw [timerTaskAddInLoop_eq, PMap.find?_insert, if_neg (Ne.symm other)]
        exact waits.mapped
      · refine stands_congr waits.stands ticks fun slot => ?_
        rw [timerTaskAddInLoop_eq]
        exact pushed older _ slot
  | refresh otherId =>
      rcases sound.refresh otherId with ⟨_, same⟩ | ⟨named, task, found, _, again⟩
      · obtain rfl := Except.ok.inj (same.symm.trans made)
        exact waits
      · obtain rfl := Except.ok.inj (again.symm.trans made)
        have different := stranger other (sound.mapped found).1
        exact ⟨waits.mapped, stillMade, stillOnly,
          stands_congr waits.stands ticks (pushed different _), waits.pending⟩
  | cancel otherId =>
      obtain rfl := Except.ok.inj made
      rcases sound.cancel otherId with ⟨_, same⟩ | ⟨_, _, _, _, same⟩
      · rwa [same]
      · rw [same] at stillMade stillOnly ⊢
        exact ⟨waits.mapped, stillMade, stillOnly,
          stands_congr waits.stands rfl fun _ => Iff.rfl, waits.pending⟩
  | runOne => exact absurd rfl still

/-! ### The connection -/

/-- The connection has one task, and as long as it is established, the task waits for the time that
the wheel gives it after the last event. -/
structure Watches (timeouts : Int) (id : TaskId) (ref : Ref) (watched : Watched) : Prop where
  sound : Sound watched.conn.timer
  phase : watched.conn.timer.tick = watched.conn.timer.ticks % capacity
  past : watched.lastActive ≤ watched.conn.timer.ticks
  named : watched.conn.id = id
  tasks : watched.conn.onTimerTasks = [ref]
  enabled : watched.conn.state = .kConnected → watched.conn.enableInactiveRelease = true
  waits : watched.conn.state = .kConnected →
    Waits watched.conn.timer id (TimedConnection.toDelay timeouts) ref
      (watched.lastActive + dueAfter timeouts)

/-- Which callbacks a step of the wheel runs for the task of an established connection. -/
theorem ran_runOne_iff {timer : TimerWheel} (sound : Sound timer) {id : TaskId}
    {delayTime : UInt32} {ref : Ref} {due : Nat} (waits : Waits timer id delayTime ref due) :
    (∃ entry ∈ timer.wheelRunOne.fired.drop timer.fired.length, entry.2 ∈ [ref]) ↔
      Dies timer ref := by
  obtain ⟨ran, fired⟩ :=
    fired_foldl_release (timer.wheel (moved timer).tick) (moved timer)
  have fired : timer.wheelRunOne.fired = timer.fired ++ ran := fired
  have alive : 0 < Shared.count timer.tasks ref := (sound.mapped waits.mapped).2
  have silent : timer.firedBy ref = [] := (sound.fired ref).mpr fun _ _ _ => alive
  have after := firedBy_runOne sound.counted ref
  have split : timer.wheelRunOne.firedBy ref =
      timer.firedBy ref ++ ran.filter fun entry => entry.2 = ref := by
    rw [firedBy, fired, List.filter_append]
    rfl
  rw [split, silent, waits.made] at after
  simp only [List.nil_append, true_and, Option.some.injEq, forall_eq', forall_const,
    List.filter_eq_nil_iff, decide_eq_true_eq] at after
  rw [fired, List.drop_left]
  constructor
  · rintro ⟨entry, member, own⟩
    by_contra survives
    exact after.mpr survives entry member (List.mem_singleton.mp own)
  · intro dies
    by_contra nobody
    refine after.mp (fun entry member own => nobody ⟨entry, member, ?_⟩) dies
    exact List.mem_singleton.mpr own

/-- A step of the wheel shuts an established connection down exactly if its task is due, and leaves
every other connection as it is. -/
theorem watches_runOne {timeouts : Int} {id : TaskId} {ref : Ref} {watched : Watched}
    (watches : Watches timeouts id ref watched) :
    Watches timeouts id ref { watched with conn := watched.conn.wheelRunOne } ∧
      watched.conn.wheelRunOne.timer.ticks = watched.conn.timer.ticks + 1 ∧
      (watched.conn.wheelRunOne.timedOut ≠ watched.conn.timedOut ↔
        watched.conn.state = .kConnected ∧
          watched.lastActive + dueAfter timeouts = watched.conn.timer.ticks + 1) := by
  obtain ⟨conn, lastActive⟩ := watched
  obtain ⟨sound, phase, past, named, tasks, enabled, waits⟩ := watches
  dsimp only at sound phase past named tasks enabled waits ⊢
  obtain ⟨ticks, tick⟩ := ticks_runOne conn.timer
  have pastNext : lastActive ≤ conn.timer.wheelRunOne.ticks := by omega
  have phaseNext : conn.timer.wheelRunOne.tick = conn.timer.wheelRunOne.ticks % capacity := by
    rw [tick, moved_tick phase, ticks]
  have soundNext := sound_runOne sound
  by_cases up : conn.state = .kConnected
  · have waiting := waits up
    have dies_iff : Dies conn.timer ref ↔ lastActive + dueAfter timeouts = conn.timer.ticks + 1 :=
      waiting.stands.lastIn_iff sound.counted phase
    have ran_iff := ran_runOne_iff sound waiting
    rw [← tasks] at ran_iff
    by_cases dies : Dies conn.timer ref
    · obtain ⟨entryTick, shut⟩ := TimedConnection.foldl_onTimerTask_of_own
        (show ({ conn with timer := conn.timer.wheelRunOne } : TimedConnection).state = _ from up)
        (ran_iff.mpr dies)
      rw [show conn.wheelRunOne = _ from shut]
      refine ⟨⟨soundNext, phaseNext, pastNext, named, tasks, fun still => ?_, fun still => ?_⟩,
        ticks, ?_⟩
      · cases still
      · cases still
      · simp [up, dies_iff.mp dies]
    · have same : conn.wheelRunOne = { conn with timer := conn.timer.wheelRunOne } :=
        TimedConnection.foldl_onTimerTask_of_others fun entry member own =>
          dies (ran_iff.mp ⟨entry, member, own⟩)
      have early : lastActive + dueAfter timeouts ≠ conn.timer.ticks + 1 := fun due =>
        dies (dies_iff.mpr due)
      rw [same]
      refine ⟨⟨soundNext, phaseNext, pastNext, named, tasks, enabled, fun _ => ?_⟩, ticks, ?_⟩
      · exact waits_runOne sound phase waiting early
      · simp [up, early]
  · have same : conn.wheelRunOne = { conn with timer := conn.timer.wheelRunOne } :=
      TimedConnection.foldl_onTimerTask_of_down
        (show ({ conn with timer := conn.timer.wheelRunOne } : TimedConnection).state ≠ _ from up) _
    rw [same]
    refine ⟨⟨soundNext, phaseNext, pastNext, named, tasks, fun still => ?_, fun still => ?_⟩,
      ticks, ?_⟩
    · exact absurd still up
    · exact absurd still up
    · simp [up]

/-- A connection that is not established any more has only a sound wheel to keep. -/
theorem watches_of_down {timeouts : Int} {id : TaskId} {ref : Ref} {watched next : Watched}
    (watches : Watches timeouts id ref watched) (sound : Sound next.conn.timer)
    (frame : next.conn.timer.tick = watched.conn.timer.tick ∧
      next.conn.timer.ticks = watched.conn.timer.ticks)
    (past : next.lastActive ≤ next.conn.timer.ticks) (named : next.conn.id = watched.conn.id)
    (tasks : next.conn.onTimerTasks = watched.conn.onTimerTasks)
    (down : next.conn.state ≠ .kConnected) : Watches timeouts id ref next where
  sound := sound
  phase := by rw [frame.1, frame.2, watches.phase]
  past := past
  named := named.trans watches.named
  tasks := tasks.trans watches.tasks
  enabled := fun up => absurd up down
  waits := fun up => absurd up down

/-- An event starts the time again. -/
theorem watches_handleEvent {timeouts : Int} (positive : 0 < timeouts) (fits : timeouts < 2 ^ 31)
    {id : TaskId} {ref : Ref} {watched : Watched} (watches : Watches timeouts id ref watched) :
    ∃ conn, watched.conn.handleEvent = .ok conn ∧ conn.timedOut = watched.conn.timedOut ∧
      Watches timeouts id ref ⟨conn, conn.timer.ticks⟩ := by
  obtain ⟨conn, lastActive⟩ := watched
  have sound := watches.sound
  have phase := watches.phase
  unfold TimedConnection.handleEvent TimedConnection.timerRefresh
  dsimp only at sound phase ⊢
  by_cases up : conn.state = .kConnected
  · have waiting := watches.waits up
    have alive := (sound.mapped waiting.mapped).2
    have found : conn.timer.weakPtrMap.find? conn.id = some ref := by
      rw [watches.named]
      exact waiting.mapped
    have again := timerTaskRefreshInLoop_of_live found waiting.made alive
    have near := dueAfter_le timeouts
    have slot := slotAfter_toDelay phase positive fits
    rw [if_pos (watches.enabled up), again]
    refine ⟨_, rfl, rfl, ?_, phase, Nat.le_refl _, watches.named, watches.tasks,
      fun _ => watches.enabled up, fun _ => ?_⟩
    · exact sound_pushBack sound waiting.made alive (mod_capacity_lt _)
    · exact waits_refresh waiting slot (Nat.add_le_add_left near.2 _)
        (Nat.lt_add_of_pos_right near.1) (Nat.add_le_add_right watches.past _)
  · split
    · rcases sound.refresh conn.id with ⟨_, same⟩ | ⟨other, task, found, made, pushed⟩
      · rw [same]
        exact ⟨_, rfl, rfl, watches_of_down watches sound ⟨rfl, rfl⟩ (Nat.le_refl _) rfl rfl up⟩
      · rw [pushed]
        exact ⟨_, rfl, rfl, watches_of_down watches
          (sound_pushBack sound made (sound.mapped found).2 (mod_capacity_lt _))
          ⟨rfl, rfl⟩ (Nat.le_refl _) rfl rfl up⟩
    · exact ⟨_, rfl, rfl, watches_of_down watches sound ⟨rfl, rfl⟩ (Nat.le_refl _) rfl rfl up⟩

/-- The calls that take the connection down leave the wheel as it is, or cancel its task. -/
theorem watches_connectDestroyed {timeouts : Int} {id : TaskId} {ref : Ref} {watched : Watched}
    (watches : Watches timeouts id ref watched) :
    watched.conn.connectDestroyed.timedOut = watched.conn.timedOut ∧
      Watches timeouts id ref { watched with conn := watched.conn.connectDestroyed } := by
  obtain ⟨conn, lastActive⟩ := watched
  have sound := watches.sound
  have past := watches.past
  dsimp only at sound past ⊢
  obtain ⟨⟨tick, ticks⟩, _⟩ := frame_step sound (by simp)
    (show conn.timer.step (.cancel conn.id) = .ok _ from rfl)
  have pastNext : lastActive ≤ (conn.timer.timerTaskCancelInLoop conn.id).ticks := by
    rw [ticks]
    exact past
  unfold TimedConnection.connectDestroyed TimedConnection.cancelInactiveReleaseInLoop
  dsimp only
  by_cases up : conn.state = .kConnected
  · rw [if_pos up]
    dsimp only
    split
    · exact ⟨rfl, watches_of_down watches (sound_cancel sound conn.id) ⟨tick, ticks⟩ pastNext rfl
        rfl (by simp)⟩
    · exact ⟨rfl, watches_of_down watches sound ⟨rfl, rfl⟩ past rfl rfl (by simp)⟩
  · rw [if_neg up]
    split
    · exact ⟨rfl, watches_of_down watches (sound_cancel sound conn.id) ⟨tick, ticks⟩ pastNext rfl
        rfl up⟩
    · exact ⟨rfl, watches_of_down watches sound ⟨rfl, rfl⟩ past rfl rfl up⟩

/-- The connection is shut down by the timer in this call. -/
def Due (timeouts : Int) (watched : Watched) (call : TimedCall) : Prop :=
  call = .wheelRunOne ∧ watched.conn.state = .kConnected ∧
    watched.lastActive + dueAfter timeouts = watched.conn.timer.ticks + 1

/-- Every call goes through, and the timer shuts the connection down exactly when its task is due.
-/
theorem watches_step {timeouts : Int} (positive : 0 < timeouts) (fits : timeouts < 2 ^ 31)
    {id : TaskId} {ref : Ref} {watched : Watched} (watches : Watches timeouts id ref watched)
    {call : TimedCall} (own : Own id call) :
    ∃ next, step watched call = .ok next ∧ Watches timeouts id ref next ∧
      (next.conn.timedOut ≠ watched.conn.timedOut ↔ Due timeouts watched call) ∧
      (call = .wheelRunOne → next.conn.timer.ticks = watched.conn.timer.ticks + 1) := by
  cases call with
  | handleEvent =>
      obtain ⟨conn, handled, silent, kept⟩ := watches_handleEvent positive fits watches
      refine ⟨⟨conn, conn.timer.ticks⟩, ?_, kept, ?_, by simp⟩
      · simp [step, TimedConnection.step, handled, ok_bind, pure_eq_ok]
      · simp [silent, Due]
  | wheelRunOne =>
      obtain ⟨kept, ticks, shut⟩ := watches_runOne watches
      refine ⟨_, rfl, kept, ?_, fun _ => ticks⟩
      rw [shut]
      simp [Due]
  | shutdown =>
      have silent : watched.conn.shutdown.timedOut = watched.conn.timedOut ∧
          Watches timeouts id ref { watched with conn := watched.conn.shutdown } := by
        unfold TimedConnection.shutdown
        split
        · exact ⟨rfl, watches_of_down watches watches.sound ⟨rfl, rfl⟩ watches.past rfl rfl
            (by simp)⟩
        · exact ⟨rfl, watches⟩
      exact ⟨_, rfl, silent.2, by simp [silent.1, Due], by simp⟩
  | handlerClose =>
      refine ⟨_, rfl, watches_of_down watches watches.sound ⟨rfl, rfl⟩ watches.past rfl rfl ?_,
        ?_, by simp⟩
      · simp [TimedConnection.handlerClose]
      · simp [TimedConnection.handlerClose, Due]
  | connectDestroyed =>
      obtain ⟨silent, kept⟩ := watches_connectDestroyed watches
      exact ⟨_, rfl, kept, by simp [silent, Due], by simp⟩
  | elsewhere call =>
      obtain ⟨other, still⟩ := own
      obtain ⟨timer, made, sound⟩ := sound_step watches.sound call
      obtain ⟨⟨tick, ticks⟩, _⟩ := frame_step watches.sound still made
      refine ⟨⟨{ watched.conn with timer := timer }, watched.lastActive⟩, ?_, ?_, ?_, by simp⟩
      · simp [step, TimedConnection.step, made, ok_bind, pure_eq_ok]
      · refine ⟨sound, ?_, ?_, watches.named, watches.tasks, watches.enabled, fun up => ?_⟩
        · exact (tick.trans watches.phase).trans (by rw [ticks])
        · exact Nat.le_trans watches.past (Nat.le_of_eq ticks.symm)
        · exact waits_step_other watches.sound (watches.waits up) other still made
      · simp [Due]

/-! ### Runs -/

/-- What holds of a wheel that was never called with the id. -/
structure Unused (id : TaskId) (timer : TimerWheel) : Prop where
  sound : Sound timer
  phase : timer.tick = timer.ticks % capacity
  fresh : ∀ ref task, Shared.object timer.tasks ref = some task → task.id ≠ id

theorem unused_new (id : TaskId) : Unused id TimerWheel.new where
  sound := sound_new
  phase := rfl
  fresh := fun ref task made => by simp [TimerWheel.new, Shared.object] at made

theorem unused_step {id : TaskId} {timer : TimerWheel} {call : TimerCall} (unused : Unused id timer)
    (other : ForOther id call) : ∃ next, timer.step call = .ok next ∧ Unused id next := by
  obtain ⟨next, made, sound⟩ := sound_step unused.sound call
  refine ⟨next, made, sound, ?_, fun ref task here same => ?_⟩
  · by_cases still : call = .runOne
    · subst still
      obtain rfl := Except.ok.inj made
      obtain ⟨ticks, tick⟩ := ticks_runOne timer
      rw [tick, moved_tick unused.phase, ticks]
    · obtain ⟨⟨tick, ticks⟩, _⟩ := frame_step unused.sound still made
      rw [tick, unused.phase, ticks]
  · obtain ⟨before, _⟩ := (object_step_other unused.sound other made ref task).mp ⟨here, same⟩
    exact unused.fresh ref task before same

/-- So it does not exist. -/
theorem Unused.absent {id : TaskId} {timer : TimerWheel} (unused : Unused id timer) :
    ¬ timer.timerTaskIsExist id = true := by
  intro there
  obtain ⟨ref, found⟩ := (exist_iff timer id).mp there
  obtain ⟨⟨task, made, same⟩, _⟩ := (unused.sound.mapped found).1
  exact unused.fresh ref task made same

/-- The connection that enables its timer has a task that waits. -/
theorem watches_established {timeouts : Int} (positive : 0 < timeouts) (fits : timeouts < 2 ^ 31)
    {id : TaskId} {timer : TimerWheel} (unused : Unused id timer) :
    ∃ start, established timer id timeouts = .ok start ∧ start.conn.timedOut = [] ∧
      Watches timeouts id timer.tasks.next start := by
  have near := dueAfter_le timeouts
  have waits := waits_add unused.sound unused.fresh
    (slotAfter_toDelay unused.phase positive fits) (Nat.add_le_add_left near.2 _)
    (Nat.lt_add_of_pos_right near.1)
  have sound := sound_add unused.sound id (TimedConnection.toDelay timeouts)
  have phase := unused.phase
  have past : timer.ticks ≤
      (timer.timerTaskAddInLoop id (TimedConnection.toDelay timeouts)).ticks := by
    rw [timerTaskAddInLoop_eq]
  have phaseNext : (timer.timerTaskAddInLoop id (TimedConnection.toDelay timeouts)).tick =
      (timer.timerTaskAddInLoop id (TimedConnection.toDelay timeouts)).ticks % capacity := by
    rw [timerTaskAddInLoop_eq]
    exact phase
  unfold established TimedConnection.enableInactiveReleaseInLoop
  dsimp only [TimedConnection.new]
  rw [if_neg unused.absent]
  exact ⟨_, rfl, rfl, sound, phaseNext, past, rfl, rfl, fun _ => rfl, fun _ => waits⟩

/-- In a call the timer is on time unless it cuts the timeout down and the connection is idle. -/
theorem onTime_iff {timeouts : Int} (positive : 0 < timeouts) (fits : timeouts < 2 ^ 31)
    {id : TaskId} {ref : Ref} {watched : Watched} (watches : Watches timeouts id ref watched)
    {call : TimedCall} (own : Own id call) :
    OnTime timeouts watched call ↔ timeouts ≤ 60 ∨ NotIdle timeouts watched call := by
  obtain ⟨next, stepEq, _, shut, ticks⟩ := watches_step positive fits watches own
  have returned : OnTime timeouts watched call ↔ (Due timeouts watched call ↔
      call = .wheelRunOne ∧ watched.conn.state = .kConnected ∧
        (next.conn.timer.ticks : Int) = watched.lastActive + timeouts) := by
    unfold OnTime
    rw [stepEq, ← shut]
    simp
  rw [returned]
  unfold Due NotIdle
  by_cases tick : call = .wheelRunOne
  · by_cases up : watched.conn.state = .kConnected
    · have pending := (watches.waits up).pending
      simp only [tick, up, true_and, true_implies, ticks tick]
      simp only [dueAfter, capacity] at pending ⊢
      omega
    · simp [tick, up]
  · simp [tick]

/-- What an established connection keeps throughout. -/
theorem watches_keeps {timeouts : Int} (positive : 0 < timeouts) (fits : timeouts < 2 ^ 31)
    {id : TaskId} {ref : Ref} {watched next : Watched} {call : TimedCall}
    (watches : Watches timeouts id ref watched) (own : Own id call)
    (stepEq : step watched call = .ok next) : Watches timeouts id ref next := by
  obtain ⟨other, otherEq, kept, _⟩ := watches_step positive fits watches own
  obtain rfl := Except.ok.inj (otherEq.symm.trans stepEq)
  exact kept

/-- A connection that is never idle for the timeout is never shut down by a timer that is on time.
-/
theorem never_timedOut {timeouts : Int} (positive : 0 < timeouts) (fits : timeouts < 2 ^ 31)
    {id : TaskId} {ref : Ref} {watched : Watched} (watches : Watches timeouts id ref watched)
    (start : watched.conn.timedOut = []) {calls : List TimedCall}
    (own : ∀ call ∈ calls, Own id call)
    (onTime : Admissible step (OnTime timeouts) watched calls)
    (lively : Admissible step (Lively timeouts) watched calls) :
    Always step (fun visited => visited.conn.timedOut = []) watched calls := by
  have keeps : ∀ state call next, (Watches timeouts id ref state ∧ state.conn.timedOut = []) →
      (Own id call ∧ (OnTime timeouts state call ∧ Lively timeouts state call)) →
        step state call = .ok next →
          (Watches timeouts id ref next ∧ next.conn.timedOut = []) := by
    rintro state call next ⟨kept, silent⟩ ⟨mine, good, busy⟩ stepEq
    refine ⟨watches_keeps positive fits kept mine stepEq, ?_⟩
    obtain ⟨other, otherEq, _, _, ticks⟩ := watches_step positive fits kept mine
    obtain rfl := Except.ok.inj (otherEq.symm.trans stepEq)
    obtain ⟨same, sameEq, exactly⟩ := good
    obtain rfl := Except.ok.inj (sameEq.symm.trans stepEq)
    by_contra grown
    obtain ⟨tick, _, late⟩ := exactly.mp (silent ▸ grown)
    have early := busy tick
    rw [ticks tick] at late
    omega
  exact (always_of_admissible keeps ⟨watches, start⟩
    ((admissible_of_forall_mem own watched).and (onTime.and lively))).imp fun _ both => both.2

/-- For every timeout and on every wheel, the inactivity timer of an established connection is
honoured in a run exactly if the timeout fits on the wheel or the connection is never idle for as
long as the wheel makes of it. -/
theorem timeout_honoured_iff (timeouts : Int) (positive : 0 < timeouts) (fits : timeouts < 2 ^ 31)
    (id : TaskId) (before : List TimerCall) (others : ∀ call ∈ before, ForOther id call)
    (timer : TimerWheel) (reached : run TimerWheel.step TimerWheel.new before = .ok timer)
    (calls : List TimedCall) (own : ∀ call ∈ calls, Own id call) :
    ∃ start, established timer id timeouts = .ok start ∧
      (Honoured timeouts start calls ↔
        timeouts ≤ 60 ∨ Admissible step (NotIdle timeouts) start calls) := by
  obtain ⟨last, lastEq, unused⟩ := exists_run_of_inv
    (fun _ _ (kept : Unused id _) other => unused_step kept other) (unused_new id) before
    (admissible_of_forall_mem others TimerWheel.new)
  obtain rfl := Except.ok.inj (lastEq.symm.trans reached)
  obtain ⟨start, startEq, silent, watches⟩ := watches_established positive fits unused
  have inside : Admissible step (fun _ call => Own id call) start calls :=
    admissible_of_forall_mem own start
  have exactly : Admissible step (OnTime timeouts) start calls ↔
      Admissible step (fun watched call => timeouts ≤ 60 ∨ NotIdle timeouts watched call)
        start calls :=
    admissible_congr_of_inv (fun _ _ _ kept => watches_keeps positive fits kept)
      (fun _ _ kept => onTime_iff positive fits kept) watches inside
  refine ⟨start, startEq, fun honoured => ?_, fun condition => ?_⟩
  · by_cases short : timeouts ≤ 60
    · exact Or.inl short
    · refine Or.inr ((exactly.mp honoured.onTime).imp fun _ _ met => ?_)
      exact met.resolve_left short
  · have onTime : Admissible step (OnTime timeouts) start calls := by
      refine exactly.mpr ?_
      rcases condition with short | notIdle
      · exact admissible_of_forall (fun _ _ => Or.inl short) start calls
      · exact notIdle.imp fun _ _ => Or.inr
    exact ⟨onTime, never_timedOut positive fits watches silent own onTime⟩

/-- A connection with an event after one step, and none after that. -/
def idleAfterOne : List TimedCall :=
  [.wheelRunOne, .handleEvent, .elsewhere (.cancel 3)] ++ List.replicate 10 .wheelRunOne

/-- A timeout of ten steps is honoured next to the task of another connection: ten steps after the
event, in the twelfth step of the wheel, the connection is shut down. -/
theorem timeout_honoured_iff_ten :
    ∃ timer start last, run TimerWheel.step TimerWheel.new [.add 3 7, .runOne] = .ok timer ∧
      established timer 5 10 = .ok start ∧ run step start idleAfterOne = .ok last ∧
      last.lastActive = 2 ∧ last.conn.timedOut = [12] ∧ Honoured 10 start idleAfterOne := by
  refine ⟨_, _, _, rfl, rfl, rfl, by decide +kernel, by decide +kernel, ?_⟩
  obtain ⟨start, startEq, exactly⟩ := timeout_honoured_iff 10 (by decide) (by decide) 5
    [.add 3 7, .runOne] (by decide) _ rfl idleAfterOne (by decide)
  obtain rfl := Except.ok.inj startEq
  exact exactly.mpr (Or.inl (by decide))

/-- With a timeout of 61 steps an idle connection is shut down after one. -/
theorem not_honoured_sixtyOne :
    ∃ start, established TimerWheel.new 5 61 = .ok start ∧ ¬ Honoured 61 start [.wheelRunOne] := by
  refine ⟨_, rfl, fun honoured => ?_⟩
  obtain ⟨next, stepEq, exactly⟩ := honoured.onTime.1
  obtain rfl := Except.ok.inj stepEq
  have shut := exactly.mp (by decide)
  revert shut
  decide

end GomukuServer.Proofs.InactivityTimeout
