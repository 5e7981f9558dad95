/-
Module: GomukuServer.Proofs.LifetimeEnds
Layer: Proofs
Purpose: What begins and ends the lifetime of a connection: the server, which hands it to its loop
  and takes it back, and the inactivity timer, which shuts it down.  The timer of a lifetime is
  armed exactly as long as the wheel has a task of the connection that has neither fired nor been
  cancelled, and the tables and the functors of a lifetime are those of the server.
Trusted boundary: nobody else uses the timer id of a connection
Main exports: OnlyTask, Orderly, Times, timed_refines, handedOver, served, Agrees, server_refines
-/
import GomukuServer.Proofs.ConnectionTables
import GomukuServer.Proofs.InactivityTimeout
import GomukuServer.Proofs.LifetimeRefinement
import GomukuServer.Proofs.LoopTurns

namespace GomukuServer.Proofs.LifetimeEnds

open Base Base.Runs MyMuduo MyMuduo.TimerWheel
open TimerExactness (moved)
open TimerIds InactivityTimeout
open ConnectionTeardown (upcoming used_of_pos closesAfterSend)
open LifetimeRefinement (begin)
open ConnectionTables (Proper Alive accepted removed accepted_append)
open LoopTurns (tasksOf createdBy enabledBy)

/-! ### The task of a connection -/

/-- There has never been another task of this id, and as long as it is to fire, it has its entry. -/
structure OnlyTask (id : TaskId) (ref : Ref) (timer : TimerWheel) : Prop where
  sound : Sound timer
  made : ∃ task, Shared.object timer.tasks ref = some task ∧ task.id = id
  only : ∀ other task, Shared.object timer.tasks other = some task → task.id = id → other = ref
  mapped : Running timer ref → timer.weakPtrMap.find? id = some ref

variable {id : TaskId} {ref : Ref} {timer next : TimerWheel}

/-- The first task of an id. -/
theorem onlyTask_add (unused : Unused id timer) (delayTime : UInt32) :
    OnlyTask id timer.tasks.next (timer.timerTaskAddInLoop id delayTime) ∧
      Running (timer.timerTaskAddInLoop id delayTime) timer.tasks.next := by
  have running := (running_add unused.sound id delayTime timer.tasks.next).mpr (.inl rfl)
  refine ⟨⟨sound_add unused.sound id delayTime, ?_, fun other task made same => ?_, fun _ => ?_⟩,
    running⟩
  · rw [timerTaskAddInLoop_eq]
    exact ⟨_, by rw [Shared.object_make, if_pos rfl], rfl⟩
  · rw [timerTaskAddInLoop_eq, Shared.object_make] at made
    split at made
    · assumption
    · exact absurd same (unused.fresh other task made)
  · rw [timerTaskAddInLoop_eq, PMap.find?_insert, if_pos rfl]

/-- Whether it is to fire depends on the record and on its flag. -/
theorem running_congr (fired : next.fired = timer.fired)
    (same : ∀ task, Shared.object next.tasks ref = some task ↔
      Shared.object timer.tasks ref = some task) : Running next ref ↔ Running timer ref := by
  simp only [Running, firedBy, fired, same]

/-- A call for another id. -/
theorem OnlyTask.step_other (kept : OnlyTask id ref timer) {call : TimerCall}
    (other : ForOther id call) (still : call ≠ .runOne) (stepEq : timer.step call = .ok next) :
    OnlyTask id ref next ∧ (Running next ref ↔ Running timer ref) := by
  have objects := object_step_other kept.sound other stepEq
  have fired := (frame_step kept.sound still stepEq).2
  obtain ⟨task, made, named⟩ := kept.made
  have madeNext := ((objects ref task).mpr ⟨made, named⟩).1
  have running : Running next ref ↔ Running timer ref := by
    refine running_congr fired fun found => ?_
    rw [made, madeNext]
  have sound : Sound next := by
    obtain ⟨after, stepAfter, sound⟩ := sound_step kept.sound call
    obtain rfl := Except.ok.inj (stepAfter.symm.trans stepEq)
    exact sound
  refine ⟨⟨sound, ⟨task, madeNext, named⟩, fun position found here same => ?_, fun runs => ?_⟩,
    running⟩
  · obtain ⟨before, _⟩ := (objects position found).mp ⟨here, same⟩
    exact kept.only position found before same
  · have mapped := kept.mapped (running.mp runs)
    cases call with
    | add otherId delayTime =>
        obtain rfl := Except.ok.inj stepEq
        rw [timerTaskAddInLoop_eq, PMap.find?_insert, if_neg (Ne.symm other)]
        exact mapped
    | refresh otherId =>
        rcases kept.sound.refresh otherId with ⟨_, same⟩ | ⟨_, _, _, _, pushed⟩
        · obtain rfl := Except.ok.inj (same.symm.trans stepEq)
          exact mapped
        · obtain rfl := Except.ok.inj (pushed.symm.trans stepEq)
          exact mapped
    | cancel otherId =>
        obtain rfl := Except.ok.inj stepEq
        rcases kept.sound.cancel otherId with ⟨_, same⟩ | ⟨_, _, _, _, same⟩
        · rwa [same]
        · rwa [same]
    | runOne => exact absurd rfl still

/-- A refresh neither starts the task nor stops it. -/
theorem OnlyTask.refresh (kept : OnlyTask id ref timer)
    (called : timer.timerTaskRefreshInLoop id = .ok next) :
    OnlyTask id ref next ∧ (Running next ref ↔ Running timer ref) := by
  rcases kept.sound.refresh id with ⟨_, same⟩ | ⟨found, task, mapped, made, pushed⟩
  · obtain rfl := Except.ok.inj (same.symm.trans called)
    exact ⟨kept, Iff.rfl⟩
  · obtain rfl := Except.ok.inj (pushed.symm.trans called)
    have alive := (kept.sound.mapped mapped).2
    have running := running_pushBack timer (timer.slotAfter task.delayTime) found ref
    refine ⟨⟨sound_pushBack kept.sound made alive (TimerExactness.mod_capacity_lt _), ?_, ?_,
      fun runs => kept.mapped (running.mp runs)⟩, running⟩
    · simpa [TimerWheel.pushBack] using kept.made
    · simpa [TimerWheel.pushBack] using kept.only

/-- A cancellation stops it. -/
theorem OnlyTask.cancel (kept : OnlyTask id ref timer) :
    OnlyTask id ref (timer.timerTaskCancelInLoop id) ∧
      ¬ Running (timer.timerTaskCancelInLoop id) ref := by
  have sound := sound_cancel kept.sound id
  rcases kept.sound.cancel id with ⟨absent, same⟩ | ⟨found, task, mapped, made, same⟩
  · rw [same]
    refine ⟨kept, fun runs => ?_⟩
    simp [timerTaskIsExist, kept.mapped runs] at absent
  · obtain ⟨⟨latest, latestMade, named⟩, _⟩ := (kept.sound.mapped mapped).1
    obtain rfl := kept.only found latest latestMade named
    obtain rfl := Option.some.inj (made.symm.trans latestMade)
    rw [same] at sound ⊢
    have stopped : ¬ Running { timer with tasks := Shared.update timer.tasks found fun task =>
        { task with isCancel := true } } found := by
      rintro ⟨_, other, otherMade, active⟩
      rw [Shared.object_update, if_pos rfl, made, Option.map_some, Option.some.injEq] at otherMade
      subst otherMade
      cases active
    refine ⟨⟨sound, ⟨{ task with isCancel := true }, ?_, named⟩, fun other otherTask => ?_,
      fun runs => absurd runs stopped⟩, stopped⟩
    · rw [Shared.object_update, if_pos rfl, made, Option.map_some]
    · rw [Shared.object_update]
      split
      · exact fun _ _ => by assumption
      · exact kept.only other otherTask

/-- A step of the wheel stops the task if it clears its last slot. -/
theorem OnlyTask.runOne (kept : OnlyTask id ref timer) : OnlyTask id ref timer.wheelRunOne where
  sound := sound_runOne kept.sound
  made := by
    rw [object_runOne]
    exact kept.made
  only := fun other task made => kept.only other task (object_runOne timer other ▸ made)
  mapped := fun runs => by
    obtain ⟨running, survives⟩ := (running_runOne kept.sound ref).mp runs
    refine (find?_runOne kept.sound.counted id ref).mpr
      ⟨kept.mapped running, fun other task dies made same => ?_⟩
    obtain rfl := kept.only other task made same
    exact survives dies

/-- It fires in the step that stops it. -/
theorem OnlyTask.fires_iff (kept : OnlyTask id ref timer) :
    (∃ entry ∈ timer.wheelRunOne.fired.drop timer.fired.length, entry.2 = ref) ↔
      Running timer ref ∧ ¬ Running timer.wheelRunOne ref := by
  obtain ⟨task, made, _⟩ := kept.made
  obtain ⟨ran, firedEq⟩ := fired_foldl_release (timer.wheel (moved timer).tick) (moved timer)
  have fired : timer.wheelRunOne.fired = timer.fired ++ ran := firedEq
  have mine : ran.filter (fun entry => entry.2 = ref) =
      if Dies timer ref ∧ task.isCancel = false then [((moved timer).ticks, ref)] else [] := by
    have released : timer.wheelRunOne.firedBy ref = timer.firedBy ref ++
        if Dies timer ref ∧ task.isCancel = false then [((moved timer).ticks, ref)] else [] :=
      firedBy_foldl_release kept.sound.counted.held
        (show Shared.object (moved timer).tasks ref = some task from made)
    rw [firedBy, fired, List.filter_append] at released
    exact List.append_cancel_left released
  have some : (∃ entry ∈ ran, entry.2 = ref) ↔ Dies timer ref ∧ task.isCancel = false := by
    have nonempty : (∃ entry ∈ ran, entry.2 = ref) ↔
        ran.filter (fun entry => entry.2 = ref) ≠ [] := by
      simp [List.filter_eq_nil_iff]
    rw [nonempty, mine]
    split <;> simp [*]
  -- a task with a last pointer is alive
  have alive (dies : Dies timer ref) : 0 < Shared.count timer.tasks ref := by
    have held := List.count_pos_iff.mpr dies.1
    rwa [← dies.2] at held
  rw [fired, List.drop_left, some, running_runOne kept.sound, kept.sound.running_iff]
  constructor
  · rintro ⟨dies, active⟩
    exact ⟨⟨task, made, active, alive dies⟩, fun survives => survives.2 dies⟩
  · rintro ⟨⟨other, otherMade, active, _⟩, stops⟩
    obtain rfl := Option.some.inj (made.symm.trans otherMade)
    refine ⟨by_contra fun survives => stops ⟨⟨task, made, active, ?_⟩, survives⟩, active⟩
    assumption

/-! ### The timer -/

/-- What happens to a connection after it has been established.  It is closed once, while it is up,
and destroyed when it has been closed. -/
def Orderly (timed : TimedConnection) : TimedCall → Prop
  | .handlerClose => timed.state = .kConnected ∨ timed.state = .kDisconnecting
  | .connectDestroyed => timed.state = .kDisconnected
  | .elsewhere call => ForOther timed.id call ∧ call ≠ .runOne
  | .handleEvent | .wheelRunOne | .shutdown => True

instance (timed : TimedConnection) : DecidablePred (Orderly timed)
  | .handlerClose => inferInstanceAs (Decidable (_ ∨ _))
  | .connectDestroyed => inferInstanceAs (Decidable (_ = _))
  | .elsewhere _ => inferInstanceAs (Decidable (_ ∧ _))
  | .handleEvent | .wheelRunOne | .shutdown => isTrue trivial

/-- The lifetime has the state of the connection, and its timer is armed as long as the task is to
fire.  Its loop is about to poll, and somebody has a pointer to it. -/
structure Times (ref : Ref) (timed : TimedConnection) (lifetime : ConnectionLifetime) : Prop where
  task : OnlyTask timed.id ref timed.timer
  own : timed.onTimerTasks = [ref]
  state : lifetime.state = timed.state
  armed : lifetime.armed = true ↔ Running timed.timer ref
  polls : lifetime.Polls
  senders : lifetime.senders = [.idle]
  pending : lifetime.pendingFunctors = []
  watched : timed.state = .kConnected ∨ timed.state = .kDisconnecting → lifetime.watched = true
  closed : timed.state = .kDisconnected → lifetime.armed = true → 0 < lifetime.removals

variable {timed after : TimedConnection} {lifetime : ConnectionLifetime}

/-- Only the wheel has changed, and not what it has of the connection. -/
theorem Times.of_timer (times : Times ref timed lifetime) (task : OnlyTask timed.id ref timer)
    (running : Running timer ref ↔ Running timed.timer ref) :
    Times ref { timed with timer := timer } lifetime :=
  { times with
    task := task
    armed := times.armed.trans running.symm }

theorem Times.alive (times : Times ref timed lifetime) : 0 < lifetime.useCount := by
  simp only [ConnectionLifetime.useCount, times.senders, List.length_cons]
  omega

theorem Times.shutdown (times : Times ref timed lifetime) :
    Times ref timed.shutdown lifetime.shutdown := by
  unfold TimedConnection.shutdown ConnectionLifetime.shutdown
  rw [times.state]
  split
  · rename_i connected
    exact { times with
      state := rfl
      watched := fun _ => times.watched (.inl connected)
      closed := fun down => by cases down }
  · exact times

/-- An event of the channel starts the time again. -/
theorem Times.handleEvent (times : Times ref timed lifetime)
    (handled : timed.handleEvent = .ok after) : Times ref after lifetime := by
  unfold TimedConnection.handleEvent at handled
  split at handled
  · obtain ⟨timer, called, built⟩ := bind_eq_ok.mp handled
    obtain rfl := Except.ok.inj built
    obtain ⟨task, running⟩ := times.task.refresh called
    exact times.of_timer task running
  · obtain rfl := Except.ok.inj handled
    exact times

/-- The callback of the task of a connection is `shutdown`. -/
theorem wheelRunOne_of_own (own : timed.onTimerTasks = [ref])
    (fires : ∃ entry ∈ timed.timer.wheelRunOne.fired.drop timed.timer.fired.length, entry.2 = ref) :
    ∃ timedOut, timed.wheelRunOne =
      { timed.shutdown with timer := timed.timer.wheelRunOne, timedOut := timedOut } := by
  unfold TimedConnection.shutdown
  by_cases connected : timed.state = .kConnected
  · obtain ⟨tick, shut⟩ := TimedConnection.foldl_onTimerTask_of_own
      (show ({ timed with timer := timed.timer.wheelRunOne } : TimedConnection).state = _ from
        connected)
      (by simpa [own] using fires)
    rw [if_pos connected]
    exact ⟨_, shut⟩
  · have same := TimedConnection.foldl_onTimerTask_of_down
      (show ({ timed with timer := timed.timer.wheelRunOne } : TimedConnection).state ≠ _ from
        connected) (timed.timer.wheelRunOne.fired.drop timed.timer.fired.length)
    rw [if_neg connected]
    exact ⟨timed.timedOut, same⟩

/-- A step of the wheel is matched by the expiry of the timer if the task fires in it. -/
theorem wheelRunOne_times (times : Times ref timed lifetime) :
    ∃ events last, run ConnectionLifetime.step lifetime events = .ok last ∧
      Times ref timed.wheelRunOne last := by
  have task := times.task.runOne
  have fires_iff := times.task.fires_iff
  by_cases fires : Running timed.timer ref ∧ ¬ Running timed.timer.wheelRunOne ref
  · obtain ⟨timedOut, shut⟩ := wheelRunOne_of_own times.own (fires_iff.mpr fires)
    have armed := times.armed.mpr fires.1
    refine ⟨[.timerExpires], { lifetime.shutdown with armed := false }, ?_, ?_⟩
    · simp [run, ConnectionLifetime.step, times.polls, armed, used_of_pos times.alive]
    · have down := times.shutdown
      have named : timed.shutdown.id = timed.id := by
        unfold TimedConnection.shutdown
        split <;> rfl
      rw [shut]
      exact { down with
        task := named ▸ task
        armed := iff_of_false (by simp) fires.2
        closed := fun _ armed => by cases armed }
  · have same : timed.wheelRunOne = { timed with timer := timed.timer.wheelRunOne } := by
      refine TimedConnection.foldl_onTimerTask_of_others fun entry member own => ?_
      rw [times.own, List.mem_singleton] at own
      exact fires (fires_iff.mp ⟨entry, member, own⟩)
    rw [same]
    refine ⟨[], lifetime, rfl, times.of_timer task ⟨fun runs => ?_, fun runs => ?_⟩⟩
    · exact ((running_runOne times.task.sound ref).mp runs).1
    · by_contra stops
      exact fires ⟨runs, stops⟩

/-- Closing. -/
theorem handlerClose_times (times : Times ref timed lifetime)
    (up : timed.state = .kConnected ∨ timed.state = .kDisconnecting) :
    ∃ events last, run ConnectionLifetime.step lifetime events = .ok last ∧
      Times ref timed.handlerClose last := by
  have watched := times.watched up
  have polls := times.polls
  refine ⟨[.handlerEvent, .handlerClose, .eventDone], { lifetime with
    state := .kDisconnected
    watched := !lifetime.watched
    removals := lifetime.removals + 1 }, ?_, { times with
    state := rfl
    watched := fun up => ?_
    closed := fun _ _ => Nat.succ_pos _ }⟩
  · simp [run, ConnectionLifetime.step, polls, watched, used_of_pos times.alive, polls.1]
  · simp [TimedConnection.handlerClose] at up

/-- The end of a connection that has been closed. -/
theorem connectDestroyed_times (times : Times ref timed lifetime)
    (down : timed.state = .kDisconnected) :
    ∃ events last, run ConnectionLifetime.step lifetime events = .ok last ∧
      Times ref timed.connectDestroyed last := by
  have off : ¬ timed.state = .kConnected := by simp [down]
  -- the task is not to fire any more
  obtain ⟨timer, enableInactiveRelease, gone, task, stopped⟩ :
      ∃ timer enableInactiveRelease, timed.connectDestroyed =
          { timed with timer := timer, enableInactiveRelease := enableInactiveRelease } ∧
        OnlyTask timed.id ref timer ∧ ¬ Running timer ref := by
    unfold TimedConnection.connectDestroyed TimedConnection.cancelInactiveReleaseInLoop
    dsimp only
    rw [if_neg off]
    split
    · exact ⟨_, _, rfl, times.task.cancel⟩
    · rename_i absent
      refine ⟨_, _, rfl, times.task, fun runs => absent ?_⟩
      simp [timerTaskIsExist, times.task.mapped runs]
  rw [gone]
  by_cases armed : lifetime.armed = true
  · have some := times.closed down armed
    obtain ⟨inEvent, batch, finished⟩ := times.polls
    refine ⟨[.removeConnectionInLoop, .doPendingFunctor, .runFunctor .nothing, .batchDone],
      { lifetime with
        inTables := false
        removals := lifetime.removals - 1
        inPoller := false
        watched := false
        armed := false }, ?_, { times with
      task := task
      armed := iff_of_false (by simp) stopped
      watched := fun up => ?_
      closed := fun _ armed => by cases armed }⟩
    · have state : lifetime.state = .kDisconnected := times.state.trans down
      simp [run, ConnectionLifetime.step, some, ConnectionLifetime.queueInLoop,
        ConnectionLifetime.Polls, ConnectionLifetime.perform, times.pending, inEvent, batch,
        finished, state]
    · simp [down] at up
  · exact ⟨[], lifetime, rfl, { times with
      task := task
      armed := iff_of_false armed stopped }⟩

/-- Whatever happens to the connection is matched by steps of its lifetime. -/
theorem step_times (times : Times ref timed lifetime) {call : TimedCall}
    (orderly : Orderly timed call) (stepEq : timed.step call = .ok after) :
    ∃ events last, run ConnectionLifetime.step lifetime events = .ok last ∧
      Times ref after last := by
  cases call with
  | handleEvent => exact ⟨[], lifetime, rfl, times.handleEvent stepEq⟩
  | wheelRunOne =>
      obtain rfl := Except.ok.inj stepEq
      exact wheelRunOne_times times
  | shutdown =>
      obtain rfl := Except.ok.inj stepEq
      refine ⟨[.shutdown], lifetime.shutdown, ?_, times.shutdown⟩
      have atHand : lifetime.AtHand := .inr (by simp [times.senders])
      simp [run, ConnectionLifetime.step, atHand]
  | handlerClose =>
      obtain rfl := Except.ok.inj stepEq
      exact handlerClose_times times orderly
  | connectDestroyed =>
      obtain rfl := Except.ok.inj stepEq
      exact connectDestroyed_times times orderly
  | elsewhere call =>
      obtain ⟨timer, called, built⟩ := bind_eq_ok.mp stepEq
      obtain rfl := Except.ok.inj built
      obtain ⟨task, running⟩ := times.task.step_other orderly.1 orderly.2 called
      exact ⟨[], lifetime, rfl, times.of_timer task running⟩

/-- A connection that has been established with a timer is one that has been accepted with one. -/
theorem times_established (unused : Unused id timer) {timeouts : Int} {start : Watched}
    (made : established timer id timeouts = .ok start) :
    ∃ lifetime, run ConnectionLifetime.step (.accepted true) begin = .ok lifetime ∧
      Times timer.tasks.next start.conn lifetime := by
  obtain ⟨task, running⟩ := onlyTask_add unused (TimedConnection.toDelay timeouts)
  obtain ⟨conn, enabled, built⟩ := bind_eq_ok.mp made
  obtain rfl := Except.ok.inj built
  unfold TimedConnection.enableInactiveReleaseInLoop at enabled
  dsimp only [TimedConnection.new] at enabled
  rw [if_neg unused.absent] at enabled
  obtain rfl := Except.ok.inj enabled
  refine ⟨{ ConnectionLifetime.accepted true with
    state := .kConnected
    inPoller := true
    watched := true
    pendingFunctors := []
    armed := true
    senders := [.idle] }, rfl, ?_⟩
  exact {
    task := task
    own := rfl
    state := rfl
    armed := iff_of_true rfl running
    polls := ⟨rfl, rfl, rfl⟩
    senders := rfl
    pending := rfl
    watched := fun _ => rfl
    closed := fun down => by cases down }

/-- Every run of a connection with an inactivity timer, on a wheel that has not been called with its
id before, is a run of the lifetime of an accepted one: it ends in the same state, and the timer is
armed if and only if a task of the connection is still to fire. -/
theorem timed_refines (unused : Unused id timer) {timeouts : Int} {start : Watched}
    (made : established timer id timeouts = .ok start) {calls : List TimedCall}
    {last : TimedConnection} (orderly : Admissible TimedConnection.step Orderly start.conn calls)
    (reached : run TimedConnection.step start.conn calls = .ok last) :
    ∃ happened lifetime, run ConnectionLifetime.step (.accepted true) happened = .ok lifetime ∧
      lifetime.state = last.state ∧
      (lifetime.armed = true ↔ ∃ ref ∈ last.onTimerTasks, Running last.timer ref) := by
  obtain ⟨first, begun, times⟩ := times_established unused made
  obtain ⟨happened, lifetime, matched, ended⟩ := orderly.exists_run_of_simulates
    (fun _ _ _ _ times orderly stepEq => step_times times orderly stepEq) times reached
  refine ⟨begin ++ happened, lifetime, by rw [run_append begun, matched], ended.state, ?_⟩
  rw [ended.armed, ended.own]
  simp

/-- An event puts the time off by a step of the wheel.  Then the connection is shut down, another
connection starts its timer, and this one is closed and destroyed. -/
def shutDownAndClosed : List TimedCall :=
  [.wheelRunOne, .handleEvent, .wheelRunOne, .wheelRunOne, .elsewhere (.add 8 2), .handlerClose,
    .connectDestroyed, .wheelRunOne]

/-- The timer has expired by then. -/
theorem timed_refines_shutDownAndClosed :
    ∃ start, established .new 7 2 = .ok start ∧
      ∃ last, run TimedConnection.step start.conn shutDownAndClosed = .ok last ∧
        ∃ happened lifetime, run ConnectionLifetime.step (.accepted true) happened = .ok lifetime ∧
          lifetime.state = last.state ∧
          (lifetime.armed = true ↔ ∃ ref ∈ last.onTimerTasks, Running last.timer ref) := by
  refine ⟨_, rfl, (exists_last_of_isOk ?_).imp fun last reached => ⟨reached,
    timed_refines (unused_new 7) (show established .new 7 2 = .ok _ from rfl) ?_ reached⟩⟩
  · decide +kernel
  · decide +kernel

/-! ### The server -/

/-- The functor that the loop is handed with a task of the server. -/
def functorOf : ConnectionTask → LoopTask
  | .enableInactiveReleaseInLoop .. => .enableInactiveReleaseInLoop
  | .connectEstablished _ => .connectEstablished
  | .connectDestroyed _ => .connectDestroyed

/-- What the server has handed over of a connection, in order. -/
def handedOver (server : TcpServer) (conn : Ref) : List LoopTask :=
  (tasksOf conn server.tasks).map fun task => functorOf task.2

/-- The functors from the server that are still to be run. -/
def served (lifetime : ConnectionLifetime) : List LoopTask :=
  (upcoming lifetime).filter
    (· ∈ [LoopTask.enableInactiveReleaseInLoop, .connectEstablished, .connectDestroyed])

/-- The main loop removes a connection only for a close callback. -/
def Called (lifetime : ConnectionLifetime) : LifetimeEvent → Prop
  | .removeConnectionInLoop => 0 < lifetime.removals
  | _ => True

instance (lifetime : ConnectionLifetime) : DecidablePred (Called lifetime)
  | .removeConnectionInLoop => inferInstanceAs (Decidable (0 < lifetime.removals))
  | .copyPointer | .dropPointer _ | .testState _ | .queueSend _ | .handlerEvent | .sendHere _
  | .shutdown | .handleWrite _ | .handlerClose | .eventDone | .timerExpires | .doPendingFunctor
  | .runFunctor _ | .batchDone => isTrue trivial

/-- Only a removal takes the connection out of the tables, and hands over something more. -/
theorem served_step {next : ConnectionLifetime} {event : LifetimeEvent}
    (called : Called lifetime event) (stepEq : lifetime.step event = .ok next) :
    if event = .removeConnectionInLoop then
      next.inTables = false ∧ served next = served lifetime ++ [.connectDestroyed]
    else next.inTables = lifetime.inTables ∧ served next <:+ served lifetime := by
  split
  · rename_i ended
    subst ended
    have some : 0 < lifetime.removals := called
    simp only [ConnectionLifetime.step, if_pos some] at stepEq
    obtain rfl := Except.ok.inj stepEq
    simp [served, upcoming, ConnectionLifetime.queueInLoop]
  · rename_i other
    rcases ConnectionTeardown.upcoming_of_step stepEq with ⟨_, _, _, tables, more⟩ | ⟨ended, _⟩ |
      ⟨tables, suffix | ⟨task, callback, suffix⟩⟩
    · exact ⟨tables, by simp [served, more]⟩
    · exact absurd ended other
    · exact ⟨tables, suffix.filter _⟩
    · refine ⟨tables, (suffix.filter _).trans ?_⟩
      have which : task = .writeCompleteCallback ∨ task = .hightWaterMarkCallback := by
        simpa using callback
      rcases which with rfl | rfl <;> simp [served]

/-- In a whole run it is as many things more as there are removals. -/
theorem served_run {last : ConnectionLifetime} {events : List LifetimeEvent}
    (called : Admissible ConnectionLifetime.step Called lifetime events)
    (reached : run ConnectionLifetime.step lifetime events = .ok last) {handed : List LoopTask}
    (before : served lifetime <:+ handed) :
    (last.inTables = true ↔
      lifetime.inTables = true ∧ events.count .removeConnectionInLoop = 0) ∧
    served last <:+
      handed ++ List.replicate (events.count .removeConnectionInLoop) .connectDestroyed := by
  induction events generalizing lifetime handed with
  | nil =>
      obtain rfl := Except.ok.inj reached
      simpa using before
  | cons event events inductionHypothesis =>
      obtain ⟨next, stepEq, rest⟩ := run_cons_ok reached
      have one := served_step called.1 stepEq
      have others := @inductionHypothesis next (called.2 next stepEq) rest
      by_cases ended : event = .removeConnectionInLoop
      · subst ended
        rw [if_pos rfl] at one
        obtain ⟨tables, more⟩ := one
        have longer : served next <:+ handed ++ [.connectDestroyed] := by
          rw [more]
          exact List.suffix_append_self_iff.mpr before
        obtain ⟨lastTables, suffix⟩ := others longer
        refine ⟨by simp [lastTables, tables], ?_⟩
        rwa [List.count_cons_self, List.replicate_succ, List.append_cons]
      · rw [if_neg ended] at one
        obtain ⟨lastTables, suffix⟩ := others (one.2.trans before)
        rw [List.count_cons_of_ne ended]
        exact ⟨lastTables.trans (by rw [one.1]), suffix⟩

/-- Removed is what has been asked to be. -/
theorem mem_removed_iff (calls : List TcpServerCall) (conn : Ref) :
    conn ∈ removed calls ↔ .removeConnectionInLoop conn ∈ calls := by
  induction calls with
  | nil => simp [removed]
  | cons call calls inductionHypothesis =>
      cases call <;> simp [removed, inductionHypothesis]

/-- Every connection that is created is accepted. -/
theorem accepted_eq_createdBy (calls : List TcpServerCall) : accepted calls = createdBy calls := by
  induction calls with
  | nil => rfl
  | cons call calls inductionHypothesis =>
      cases call <;> simpa [accepted, createdBy] using inductionHypothesis

/-- A table has a connection, under whatever key, if it has not been removed. -/
theorem exists_find?_iff {Key : Type} [DecidableEq Key] {map : PMap Key Ref} {key : Accepted → Key}
    {calls : List TcpServerCall} {server : TcpServer} {conn : Ref} {held : Accepted}
    (indexes : map.Indexes fun conn name => ∃ held, Alive calls server conn held ∧ key held = name)
    (there : server.connections.deref conn = some held) :
    (∃ name, map.find? name = some conn) ↔ conn ∉ removed calls := by
  constructor
  · rintro ⟨name, found⟩
    obtain ⟨_, ⟨_, kept⟩, _⟩ := (indexes name conn).mp found
    exact kept
  · exact fun kept => ⟨key held, (indexes _ _).mpr ⟨held, ⟨there, kept⟩, rfl⟩⟩

/-- A connection is removed after it has been created. -/
theorem count_removals {calls before later : List TcpServerCall} (proper : Proper calls)
    {sockfd : Int} {localAddr peerAddr : InetAddress}
    (split : calls = before ++ .newConnection sockfd localAddr peerAddr :: later) :
    later.count (.removeConnectionInLoop (createdBy before)) =
      calls.count (.removeConnectionInLoop (createdBy before)) := by
  have none : before.count (.removeConnectionInLoop (createdBy before)) = 0 := by
    rw [List.count_eq_zero]
    intro inside
    obtain ⟨past, future, parts⟩ := List.append_of_mem inside
    have early := (proper.once past _ _ (by
      rw [split]
      nth_rewrite 1 [parts]
      rw [List.append_assoc, List.cons_append])).1
    rw [← accepted_eq_createdBy, parts, accepted_append] at early
    omega
  rw [split, List.count_append, none, List.count_cons_of_ne (by simp), Nat.zero_add]

/-- The lifetimes of a connection that are removed as often as the server removes it agree with the
server: they are in its tables if the connection is, and what the loop still has to run of its
functors are the last that it has handed over. -/
structure Agrees (server : TcpServer) (conn : Ref) (enableInactiveRelease : Bool)
    (removals : Nat) : Prop where
  handed : handedOver server conn =
    (ConnectionLifetime.accepted enableInactiveRelease).pendingFunctors ++
      List.replicate removals .connectDestroyed
  lives : ∀ happened lifetime,
    Admissible ConnectionLifetime.step Called (.accepted enableInactiveRelease) happened →
    run ConnectionLifetime.step (.accepted enableInactiveRelease) happened = .ok lifetime →
    happened.count .removeConnectionInLoop = removals →
    (lifetime.inTables = true ↔ ∃ name, server.connectionMap.find? name = some conn) ∧
      (lifetime.inTables = true ↔ ∃ id, server.connectionIdMap.find? id = some conn) ∧
      served lifetime <:+ handedOver server conn

/-- Whatever the server is called for, if it removes each connection once at most: the lifetimes of
all its connections agree with it. -/
theorem server_refines {listenAddr : InetAddress} {nameArg : String}
    {threadPool : EventLoopThreadPool} {start server : TcpServer}
    (built : TcpServer.new listenAddr nameArg threadPool = .ok start) {calls : List TcpServerCall}
    (proper : Proper calls) (reached : run TcpServer.step start calls = .ok server) {conn : Ref}
    {held : Accepted} (there : server.connections.deref conn = some held) :
    ∃ before later,
      calls = before ++ .newConnection held.sockfd held.localAddr held.peerAddr :: later ∧
      createdBy before = conn ∧
      Agrees server conn (enabledBy before).isSome
        (calls.count (.removeConnectionInLoop conn)) := by
  obtain ⟨begun, made, first⟩ := ConnectionTables.maintained_new listenAddr nameArg threadPool
  obtain rfl := Except.ok.inj (made.symm.trans built)
  obtain ⟨last, ran, maintained⟩ := ConnectionTables.maintained_run first proper
  obtain rfl := Except.ok.inj (ran.symm.trans reached)
  have byName := exists_find?_iff maintained.byName there
  have byId := exists_find?_iff maintained.byId there
  obtain ⟨before, later, split, number, tasks⟩ :=
    ((LoopTurns.served_of_run built reached).handed conn held there).inOrder
  have removals := count_removals proper split
  rw [number] at removals
  have handed : handedOver last conn =
      (ConnectionLifetime.accepted (enabledBy before).isSome).pendingFunctors ++
        List.replicate (calls.count (.removeConnectionInLoop conn)) .connectDestroyed := by
    rw [handedOver, tasks, removals]
    cases enabledBy before <;> simp [ConnectionLifetime.accepted, functorOf]
  refine ⟨before, later, split, number, handed, fun happened lifetime called lived same => ?_⟩
  have all : served (.accepted (enabledBy before).isSome) <:+
      (ConnectionLifetime.accepted (enabledBy before).isSome).pendingFunctors := by
    cases enabledBy before <;> simp [served, upcoming, ConnectionLifetime.accepted]
  obtain ⟨tables, suffix⟩ := served_run called lived all
  rw [same] at tables suffix
  have inTables : lifetime.inTables = true ↔ conn ∉ removed calls := by
    rw [tables, mem_removed_iff, ← List.count_eq_zero]
    exact and_iff_right rfl
  exact ⟨inTables.trans byName.symm, inTables.trans byId.symm, handed ▸ suffix⟩

/-- A connection without a timer, which is removed, and one with. -/
def oneRemoved : List TcpServerCall :=
  [.newConnection 5 ⟨0, 0, 0, 0, 1000⟩ ⟨0, 0, 0, 0, 2000⟩, .setEnableInactiveRelease 10,
    .newConnection 6 ⟨0, 0, 0, 0, 1000⟩ ⟨0, 0, 0, 0, 2001⟩, .removeConnectionInLoop 0]

/-- The life of a connection that is closed while a thread sends agrees with the removal. -/
theorem server_refines_oneRemoved :
    ∃ start server, TcpServer.new ⟨0, 0, 0, 0, 1000⟩ "server" ⟨0, [], 0, by decide⟩ = .ok start ∧
      run TcpServer.step start oneRemoved = .ok server ∧ Agrees server 0 false 1 ∧
      ∃ lifetime, run ConnectionLifetime.step (.accepted false) closesAfterSend = .ok lifetime ∧
        (lifetime.inTables = true ↔ ∃ name, server.connectionMap.find? name = some 0) ∧
        served lifetime <:+ handedOver server 0 := by
  have seen : ((TcpServer.new ⟨0, 0, 0, 0, 1000⟩ "server" ⟨0, [], 0, by decide⟩).bind
      fun start => run TcpServer.step start oneRemoved).toOption.map
        (fun server => (server.connections.deref 0).isSome) = some true := by
    decide +kernel
  have proper : Proper oneRemoved := by
    refine ⟨by decide, fun past conn future equal => ?_⟩
    rcases past with _ | ⟨_, _ | ⟨_, _ | ⟨_, _ | ⟨_, past⟩⟩⟩⟩ <;> simp [oneRemoved] at equal
    obtain ⟨rfl, rfl, rfl, rfl, _⟩ := equal
    decide
  cases built : TcpServer.new ⟨0, 0, 0, 0, 1000⟩ "server" ⟨0, [], 0, by decide⟩ with
  | error fault => simp [built, Except.bind, Except.toOption] at seen
  | ok start =>
      cases reached : run TcpServer.step start oneRemoved with
      | error fault => simp [built, reached, Except.bind, Except.toOption] at seen
      | ok server =>
          simp only [built, reached, Except.bind, Except.toOption, Option.map_some,
            Option.some.injEq] at seen
          obtain ⟨held, there⟩ := Option.isSome_iff_exists.mp seen
          obtain ⟨before, later, split, first, agrees⟩ := server_refines built proper reached there
          -- nothing is called before the connection is created
          obtain rfl : before = [] := by
            rcases before with _ | ⟨call, before⟩
            · rfl
            · obtain ⟨rfl, _⟩ := List.cons.inj split
              simp [createdBy] at first
          obtain ⟨lifetime, lived⟩ : ∃ lifetime, run ConnectionLifetime.step (.accepted false)
              closesAfterSend = .ok lifetime := exists_last_of_isOk (by decide +kernel)
          obtain ⟨table, _, suffix⟩ :=
            agrees.lives closesAfterSend lifetime (by decide +kernel) lived (by decide)
          exact ⟨start, server, rfl, reached, agrees, lifetime, lived, table, suffix⟩

end GomukuServer.Proofs.LifetimeEnds
