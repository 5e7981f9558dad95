/-
Module: GomukuServer.Proofs.LostQuit
Layer: Proofs
Purpose: When a loop forgets that it was asked to quit.  `loop()` resets the flag when it starts,
  and the loop is published before, so a `quit` that comes in between is lost; one that comes later
  is kept until the loop has been left.
Trusted boundary: none
Main exports: Remembered, ResetFirst, Orderly, remembered_iff
-/
import GomukuServer.Base.Runs
import GomukuServer.MyMuduo.EventLoopThread

namespace GomukuServer.Proofs.LostQuit

open Base Base.Runs MyMuduo MyMuduo.EventLoopThread

variable {Thread Functor : Type}

/-- The loop remembers that another thread has called `quit` until it has been left, it has begun no
iteration since, and who waits in `join` waits for a loop that is to quit or has been left. -/
structure Remembered (thread : EventLoopThread Thread Functor) : Prop where
  kept : thread.asked = true → thread.exited = false → thread.loop.quit = true
  notRenewed : thread.renewed = 0
  joined : thread.ownerPc = .joining → thread.exited = false → thread.loop.quit = true

/-- `loop()` resets the flag only if no other thread has called `quit` before. -/
def ResetFirst (thread : EventLoopThread Thread Functor) : ThreadEvent Thread Functor → Prop
  | .thread _ =>
      thread.threadPc = .looping → thread.loop.pc.resets = true → thread.asked = false
  | .startLoop => True
  | .destroy => True
  | .owner => True
  | .queueInLoop _ _ => True
  | .quit _ => True
  | .proceed _ => True

/-- What every run keeps: the loop thread makes calls only from code of the user, and the owner has
called `quit` before it joins. -/
structure Orderly (thread : EventLoopThread Thread Functor) : Prop where
  ownCall : thread.loop.calls none ≠ .idle → thread.loop.pc.runsUserCode = true
  ownerAsked : thread.ownerPc = .waking ∨ thread.ownerPc = .joining → thread.asked = true

theorem orderly_new : Orderly (EventLoopThread.new : EventLoopThread Thread Functor) where
  ownCall := fun busy => absurd rfl busy
  ownerAsked := fun late => by rcases late with waking | joining <;> simp [new] at *

theorem remembered_new : Remembered (EventLoopThread.new : EventLoopThread Thread Functor) where
  kept := fun asked => by simp [new] at asked
  notRenewed := rfl
  joined := fun joining => by simp [new] at joining

/-! ### The flag of the loop -/

/-- Only the reset takes the flag back. -/
theorem quit_advance {loop : EventLoop Thread Functor} (later : loop.pc.resets = false)
    (active : List Ready) : (loop.advance active).quit = loop.quit := by
  unfold EventLoop.advance
  split <;> simp_all [LoopPc.resets, EventLoop.handlerRead]

/-- A loop that is to quit is left at the next test. -/
theorem returns_advance {loop : EventLoop Thread Functor} (testing : loop.pc.tests = true)
    (quit : loop.quit = true) (active : List Ready) :
    (loop.advance active).pc.returns = true := by
  unfold LoopPc.tests at testing
  split at testing
  · rename_i here
    simp [EventLoop.advance, here, quit, LoopPc.returns]
  · cases testing

/-- The loop moves on in its own thread. -/
theorem calls_advance (loop : EventLoop Thread Functor) (active : List Ready) :
    (loop.advance active).calls = loop.calls := by
  unfold EventLoop.advance
  split <;> rfl

/-! ### Steps outside the loop -/

/-- What a call does with a loop that is still there. -/
theorem withLoop_eq_ok {thread next : EventLoopThread Thread Functor}
    {call : EventLoop Thread Functor → EventLoop Thread Functor}
    (made : thread.withLoop call = .ok next) : next = { thread with loop := call thread.loop } := by
  unfold withLoop at made
  split at made
  · cases made
  · exact (Except.ok.inj made).symm

/-- A step outside `loop()`: the loop thread stays where it is, the flag is not taken back, and who
has called `quit` has set it. -/
structure Outside (thread next : EventLoopThread Thread Functor) : Prop where
  place : next.loop.pc = thread.loop.pc
  calls : next.loop.calls none ≠ .idle →
    thread.loop.calls none ≠ .idle ∨ thread.loop.pc.runsUserCode = true
  quit : thread.loop.quit = true → next.loop.quit = true
  asked : thread.asked = true → next.asked = true
  asks : next.asked = true → thread.asked = true ∨ next.loop.quit = true
  renewed : next.renewed = thread.renewed
  exited : thread.exited = true → next.exited = true
  owner : next.ownerPc = .waking ∨ next.ownerPc = .joining →
    thread.ownerPc = .waking ∨ thread.ownerPc = .joining ∨ next.asked = true

/-- A step that leaves the loop alone. -/
theorem Outside.of_loop_eq {thread next : EventLoopThread Thread Functor}
    (loop : next.loop = thread.loop) (asked : next.asked = thread.asked)
    (renewed : next.renewed = thread.renewed)
    (exited : thread.exited = true → next.exited = true)
    (owner : next.ownerPc = .waking ∨ next.ownerPc = .joining →
      thread.ownerPc = .waking ∨ thread.ownerPc = .joining) : Outside thread next where
  place := by rw [loop]
  calls := fun busy => Or.inl (loop ▸ busy)
  quit := fun quit => loop ▸ quit
  asked := fun before => asked.trans before
  asks := fun after => Or.inl (asked ▸ after)
  renewed := renewed
  exited := exited
  owner := fun late => (owner late).elim Or.inl fun joining => Or.inr (Or.inl joining)

theorem outside_startLoop (thread : EventLoopThread Thread Functor) :
    Outside thread thread.startLoop := by
  unfold startLoop
  split
  · rename_i fresh
    exact .of_loop_eq rfl rfl rfl (fun left => by simp [exited, fresh.2] at left) (by simp)
  · exact .of_loop_eq rfl rfl rfl (fun left => left) fun late => late

theorem outside_destroy (thread : EventLoopThread Thread Functor) :
    Outside thread thread.destroy := by
  unfold destroy
  split
  · exact .of_loop_eq rfl rfl rfl (fun left => left) (by simp)
  · exact .of_loop_eq rfl rfl rfl (fun left => left) fun late => late

/-- The owner sets the flag when it quits, and comes to `join` only after that. -/
theorem outside_owner {thread next : EventLoopThread Thread Functor}
    (made : thread.owner = .ok next) : Outside thread next := by
  unfold owner at made
  split at made
  · obtain rfl := Except.ok.inj made
    exact .of_loop_eq rfl rfl rfl (fun left => left) fun late => late
  · obtain rfl := Except.ok.inj made
    split
    · exact .of_loop_eq rfl rfl rfl (fun left => left) (by simp)
    · exact .of_loop_eq rfl rfl rfl (fun left => left) fun late => late
  · obtain rfl := Except.ok.inj made
    refine .of_loop_eq rfl rfl rfl (fun left => left) fun late => ?_
    dsimp only at late
    split at late <;> simp at late
  · obtain rfl := withLoop_eq_ok made
    exact {
      place := rfl
      calls := Or.inl
      quit := fun _ => rfl
      asked := fun _ => rfl
      asks := fun _ => Or.inr rfl
      renewed := rfl
      exited := fun left => left
      owner := fun _ => Or.inr (Or.inr rfl) }
  · rename_i waking
    obtain rfl := withLoop_eq_ok made
    obtain ⟨counter, woken⟩ := thread.loop.wakeup_eq
    dsimp only
    rw [woken]
    exact {
      place := rfl
      calls := Or.inl
      quit := fun quit => quit
      asked := fun asked => asked
      asks := Or.inl
      renewed := rfl
      exited := fun left => left
      owner := fun _ => Or.inl waking }
  · obtain rfl := Except.ok.inj made
    split
    · exact .of_loop_eq rfl rfl rfl (fun left => left) (by simp)
    · exact .of_loop_eq rfl rfl rfl (fun left => left) fun late => late
  · obtain rfl := Except.ok.inj made
    exact .of_loop_eq rfl rfl rfl (fun left => left) fun late => late

variable [DecidableEq Thread]

/-- A caller that goes on in its call was in one before, and so were all that are in one then. -/
theorem busy_of_setCall {loop : EventLoop Thread Functor} {caller : Option Thread} {pc : CallPc}
    (inCall : loop.calls caller ≠ .idle) (busy : (loop.setCall caller pc).calls none ≠ .idle) :
    loop.calls none ≠ .idle := by
  rw [EventLoop.calls_setCall] at busy
  split at busy
  · rename_i own
    exact own ▸ inCall
  · exact busy

/-- A step of a call leaves the flag and the place of the loop thread alone, and starts no call. -/
theorem proceed_frame (loop : EventLoop Thread Functor) (caller : Option Thread) :
    (loop.proceed caller).quit = loop.quit ∧ (loop.proceed caller).pc = loop.pc ∧
      ((loop.proceed caller).calls none ≠ .idle → loop.calls none ≠ .idle) := by
  obtain ⟨counter, woken⟩ := loop.wakeup_eq
  unfold EventLoop.proceed
  split <;> rename_i here
  · exact ⟨rfl, rfl, fun busy => busy⟩
  · have inCall : loop.calls caller ≠ .idle := by simp [here]
    split
    · exact ⟨rfl, rfl, busy_of_setCall inCall⟩
    · exact ⟨rfl, rfl, busy_of_setCall inCall⟩
  · have inCall : loop.calls caller ≠ .idle := by simp [here]
    rw [woken]
    exact ⟨rfl, rfl, busy_of_setCall inCall⟩
  · have inCall : loop.calls caller ≠ .idle := by simp [here]
    rw [woken]
    exact ⟨rfl, rfl, busy_of_setCall inCall⟩

theorem outside_callQueueInLoop {thread next : EventLoopThread Thread Functor}
    {caller : Option Thread} {cb : Functor} (made : thread.callQueueInLoop caller cb = .ok next) :
    Outside thread next := by
  unfold callQueueInLoop at made
  split at made
  · rename_i may
    obtain rfl := withLoop_eq_ok made
    refine {
      place := rfl
      calls := fun busy => ?_
      quit := fun quit => quit
      asked := fun asked => asked
      asks := Or.inl
      renewed := rfl
      exited := fun left => left
      owner := fun late => late.elim Or.inl fun joining => Or.inr (Or.inl joining) }
    by_cases own : caller = none
    · exact Or.inr ((EventLoop.mayCall_iff.mp (Bool.and_eq_true_iff.mp may).2).2 own)
    · exact Or.inl (by simpa [EventLoop.queueInLoop, Ne.symm own] using busy)
  · obtain rfl := Except.ok.inj made
    exact .of_loop_eq rfl rfl rfl (fun left => left) fun late => late

theorem outside_callQuit {thread next : EventLoopThread Thread Functor} {caller : Option Thread}
    (made : thread.callQuit caller = .ok next) : Outside thread next := by
  unfold callQuit at made
  split at made
  · obtain rfl := withLoop_eq_ok made
    have effect : (thread.loop.quitLoop caller).pc = thread.loop.pc ∧
        (thread.loop.quitLoop caller).quit = true ∧
          (thread.loop.quitLoop caller).calls none = thread.loop.calls none := by
      unfold EventLoop.quitLoop
      cases caller with
      | none => exact ⟨rfl, rfl, rfl⟩
      | some other => exact ⟨rfl, rfl, rfl⟩
    exact {
      place := effect.1
      calls := fun busy => Or.inl (effect.2.2 ▸ busy)
      quit := fun _ => effect.2.1
      asked := fun asked => by simp [asked]
      asks := fun _ => Or.inr effect.2.1
      renewed := rfl
      exited := fun left => left
      owner := fun late => late.elim Or.inl fun joining => Or.inr (Or.inl joining) }
  · obtain rfl := Except.ok.inj made
    exact .of_loop_eq rfl rfl rfl (fun left => left) fun late => late

theorem outside_proceed {thread next : EventLoopThread Thread Functor} {caller : Option Thread}
    (made : thread.proceed caller = .ok next) : Outside thread next := by
  unfold EventLoopThread.proceed at made
  split at made
  · obtain rfl := Except.ok.inj made
    exact .of_loop_eq rfl rfl rfl (fun left => left) fun late => late
  · obtain rfl := withLoop_eq_ok made
    obtain ⟨quit, place, calls⟩ := proceed_frame thread.loop caller
    exact {
      place := place
      calls := fun busy => Or.inl (calls busy)
      quit := fun before => quit.trans before
      asked := fun asked => asked
      asks := Or.inl
      renewed := rfl
      exited := fun left => left
      owner := fun late => late.elim Or.inl fun joining => Or.inr (Or.inl joining) }

/-! ### All steps -/

/-- The thread moves in its loop. -/
def advanced (thread : EventLoopThread Thread Functor) (active : List Ready) :
    EventLoopThread Thread Functor :=
  { thread with
    loop := thread.loop.advance active
    threadPc := if thread.loop.pc.returns then .withdrawing else .looping
    renewed :=
      if thread.asked && thread.loop.pc.tests && !(thread.loop.advance active).pc.returns then
        thread.renewed + 1 else thread.renewed }

omit [DecidableEq Thread] in
/-- Inside a call the loop thread is in code of the user. -/
theorem Orderly.busy {thread : EventLoopThread Thread Functor} (orderly : Orderly thread)
    (busy : thread.loop.calls none ≠ .idle) :
    thread.loop.pc.resets = false ∧ thread.loop.pc.tests = false ∧
      thread.loop.pc.returns = false := by
  have inside := orderly.ownCall busy
  revert inside
  unfold LoopPc.runsUserCode LoopPc.returns LoopPc.resets LoopPc.tests
  cases thread.loop.pc <;> simp

/-- The new thread moves in its loop, or its step is one outside. -/
theorem thread_cases {thread : EventLoopThread Thread Functor} (orderly : Orderly thread)
    (active : List Ready) :
    (thread.threadPc = .looping ∧ thread.loop.calls none = .idle ∧
        thread.threadFunc active = .ok (advanced thread active)) ∨
      ((thread.threadPc = .looping → thread.loop.calls none ≠ .idle) ∧
        ∀ next, thread.threadFunc active = .ok next → Outside thread next) := by
  by_cases moves : thread.threadPc = .looping ∧ thread.loop.calls none = .idle
  · left
    unfold threadFunc
    simp [EventLoop.step, moves, ok_bind, pure_eq_ok, advanced]
  · refine Or.inr ⟨fun looping free => moves ⟨looping, free⟩, fun next made => ?_⟩
    unfold threadFunc at made
    split at made <;> rename_i place
    · obtain rfl := Except.ok.inj made
      exact .of_loop_eq rfl rfl rfl (fun left => left) fun late => late
    · obtain rfl := Except.ok.inj made
      exact .of_loop_eq rfl rfl rfl (fun left => by simp [exited, place] at left) fun late => late
    · obtain rfl := Except.ok.inj made
      exact .of_loop_eq rfl rfl rfl (fun left => by simp [exited, place] at left) fun late => late
    · have busy : thread.loop.calls none ≠ .idle := fun free => moves ⟨place, free⟩
      obtain ⟨_, tests, returns⟩ := orderly.busy busy
      simp only [EventLoop.step, busy, if_false, ok_bind, pure_eq_ok, tests, returns,
        Bool.and_false, Bool.false_and, Bool.false_eq_true] at made
      obtain rfl := Except.ok.inj made
      exact .of_loop_eq rfl rfl rfl (fun left => by simp [exited, place] at left) fun late => late
    · obtain rfl := Except.ok.inj made
      exact .of_loop_eq rfl rfl rfl (fun _ => rfl) fun late => late
    · obtain rfl := Except.ok.inj made
      exact .of_loop_eq rfl rfl rfl (fun left => left) fun late => late

/-- Every other step is one outside. -/
theorem outside_step {thread next : EventLoopThread Thread Functor}
    {event : ThreadEvent Thread Functor} (other : ∀ active, event ≠ .thread active)
    (made : thread.step event = .ok next) : Outside thread next := by
  cases event with
  | thread active => exact absurd rfl (other active)
  | startLoop => exact Except.ok.inj made ▸ outside_startLoop thread
  | destroy => exact Except.ok.inj made ▸ outside_destroy thread
  | owner => exact outside_owner made
  | queueInLoop caller cb => exact outside_callQueueInLoop made
  | quit caller => exact outside_callQuit made
  | proceed caller => exact outside_proceed made

omit [DecidableEq Thread] in
theorem Orderly.outside {thread next : EventLoopThread Thread Functor} (orderly : Orderly thread)
    (outside : Outside thread next) : Orderly next where
  ownCall := by
    intro busy
    rw [outside.place]
    rcases outside.calls busy with before | inside
    · exact orderly.ownCall before
    · exact inside
  ownerAsked := by
    intro late
    rcases outside.owner late with waking | joining | asked
    · exact outside.asked (orderly.ownerAsked (Or.inl waking))
    · exact outside.asked (orderly.ownerAsked (Or.inr joining))
    · exact asked

omit [DecidableEq Thread] in
/-- Outside `loop()` nothing is forgotten. -/
theorem Remembered.outside {thread next : EventLoopThread Thread Functor}
    (remembered : Remembered thread) (orderly : Orderly thread) (outside : Outside thread next) :
    Remembered next := by
  have kept : next.asked = true → next.exited = false → next.loop.quit = true := by
    intro asked inside
    rcases outside.asks asked with before | set
    · refine outside.quit (remembered.kept before ?_)
      cases left : thread.exited with
      | false => rfl
      | true => exact inside ▸ (outside.exited left).symm
    · exact set
  exact ⟨kept, outside.renewed.trans remembered.notRenewed, fun joining =>
    kept ((orderly.outside outside).ownerAsked (Or.inr joining))⟩

omit [DecidableEq Thread] in
theorem Orderly.advanced {thread : EventLoopThread Thread Functor} (orderly : Orderly thread)
    (free : thread.loop.calls none = .idle) (active : List Ready) :
    Orderly (LostQuit.advanced thread active) where
  ownCall := by
    intro busy
    refine absurd ?_ busy
    change (thread.loop.advance active).calls none = _
    rw [calls_advance]
    exact free
  ownerAsked := orderly.ownerAsked

omit [DecidableEq Thread] in
/-- A move in the loop keeps the call of `quit` exactly if it is not the reset after one. -/
theorem remembered_advanced_iff {thread : EventLoopThread Thread Functor} (orderly : Orderly thread)
    (remembered : Remembered thread) (looping : thread.threadPc = .looping) (active : List Ready) :
    (thread.loop.pc.resets = true → thread.asked = false) ↔
      Remembered (advanced thread active) := by
  have inside : thread.exited = false := by simp [exited, looping]
  constructor
  · intro first
    have kept : thread.asked = true → (thread.loop.advance active).quit = true := by
      intro asked
      have later : thread.loop.pc.resets = false := by
        refine Bool.eq_false_iff.mpr fun reset => ?_
        rw [first reset] at asked
        cases asked
      rw [quit_advance later]
      exact remembered.kept asked inside
    refine ⟨fun asked _ => kept asked, ?_, fun joining _ =>
      kept (orderly.ownerAsked (Or.inr joining))⟩
    change (if _ then _ else _) = 0
    rw [if_neg]
    · exact remembered.notRenewed
    · rw [Bool.and_eq_true_iff, Bool.and_eq_true_iff]
      rintro ⟨⟨asked, testing⟩, another⟩
      rw [returns_advance testing (remembered.kept asked inside)] at another
      cases another
  · intro after reset
    refine Bool.eq_false_iff.mpr fun asked => ?_
    have place : thread.loop.pc.returns = false ∧
        (thread.loop.advance active).quit = false := by
      unfold LoopPc.resets at reset
      split at reset
      · rename_i here
        simp [EventLoop.advance, here, LoopPc.returns]
      · cases reset
    have still : (advanced thread active).exited = false := by
      simp [advanced, exited, place.1]
    have quit : (thread.loop.advance active).quit = true :=
      after.kept asked still
    rw [place.2] at quit
    cases quit

/-! ### Runs -/

theorem orderly_step {thread next : EventLoopThread Thread Functor} (orderly : Orderly thread)
    {event : ThreadEvent Thread Functor} (made : thread.step event = .ok next) : Orderly next := by
  cases event with
  | thread active =>
      rcases thread_cases orderly active with ⟨_, free, moved⟩ | ⟨_, outside⟩
      · obtain rfl := Except.ok.inj (moved.symm.trans made)
        exact orderly.advanced free active
      · exact orderly.outside (outside next made)
  | _ => exact orderly.outside (outside_step (by simp) made)

/-- A step keeps the call of `quit` exactly if it does not reset the flag after it. -/
theorem resetFirst_iff {thread : EventLoopThread Thread Functor} (orderly : Orderly thread)
    (remembered : Remembered thread) (event : ThreadEvent Thread Functor) :
    ResetFirst thread event ↔
      ∀ next, thread.step event = .ok next → Orderly next ∧ Remembered next := by
  cases event with
  | thread active =>
      rcases thread_cases orderly active with ⟨looping, free, moved⟩ | ⟨busy, outside⟩
      · have exactly := remembered_advanced_iff orderly remembered looping active
        simp only [ResetFirst, looping, true_implies, exactly]
        constructor
        · intro good next made
          obtain rfl := Except.ok.inj (moved.symm.trans made)
          exact ⟨orderly.advanced free active, good⟩
        · intro both
          exact (both _ moved).2
      · refine iff_of_true (fun looping reset => ?_) fun next made =>
          ⟨orderly.outside (outside next made), remembered.outside orderly (outside next made)⟩
        rw [(orderly.busy (busy looping)).1] at reset
        cases reset
  | _ =>
      exact iff_of_true trivial fun next made =>
        have outside := outside_step (by simp) made
        ⟨orderly.outside outside, remembered.outside orderly outside⟩

/-- In a run the call of `quit` is remembered exactly if `loop()` does not reset the flag after it.
-/
theorem remembered_iff (events : List (ThreadEvent Thread Functor)) :
    Always EventLoopThread.step Remembered EventLoopThread.new events ↔
      Admissible EventLoopThread.step ResetFirst EventLoopThread.new events := by
  have inside : Admissible EventLoopThread.step (fun _ _ => True)
      (EventLoopThread.new : EventLoopThread Thread Functor) events :=
    admissible_of_forall (fun _ _ => trivial) _ events
  have orderly : Always EventLoopThread.step Orderly
      (EventLoopThread.new : EventLoopThread Thread Functor) events :=
    always_of_admissible (fun _ _ _ kept _ made => orderly_step kept made) orderly_new inside
  have exactly := always_iff_admissible
    (fun thread event (both : Orderly thread ∧ Remembered thread) _ =>
      resetFirst_iff both.1 both.2 event) ⟨orderly_new, remembered_new⟩ events inside
  rw [← exactly]
  exact ⟨fun always => orderly.and always, fun both => both.imp fun _ pair => pair.2⟩

/-- The destructor comes right after `startLoop`, before the thread has entered its loop. -/
def earlyQuit : List (ThreadEvent Unit Unit) :=
  [.startLoop, .thread [], .thread [], .owner, .destroy, .owner, .owner, .owner,
    .thread [], .thread [], .thread []]

/-- Then the loop waits in `poll` again, and the owner in `join`. -/
theorem not_remembered_earlyQuit :
    ¬ Always EventLoopThread.step Remembered EventLoopThread.new earlyQuit := by
  have stuck : (run EventLoopThread.step EventLoopThread.new earlyQuit).toOption.map
      (fun thread => (thread.ownerPc, thread.exited, thread.loop.quit)) =
        some (.joining, false, false) := by decide
  refine not_always_of_view stuck fun last seen remembered => ?_
  simp only [Prod.mk.injEq] at seen
  have quit := remembered.joined seen.1 seen.2.1
  rw [seen.2.2] at quit
  cases quit

end GomukuServer.Proofs.LostQuit
