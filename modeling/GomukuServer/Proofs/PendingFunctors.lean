/-
Module: GomukuServer.Proofs.PendingFunctors
Layer: Proofs
Purpose: No functor and no wakeup is lost in an event loop.  The functors of the calls of
  `queueInLoop` are called in the order of the calls, and when the loop thread goes to wait although
  functors are pending, the wakeup descriptor is readable or will be made so by a thread that is
  inside `queueInLoop`.
Trusted boundary: none
Main exports: pushedBy, pushes, Accounted, Signalled, WokenBeforePoll, Invariant,
  no_functor_or_wakeup_lost
-/
import GomukuServer.Base.Runs
import GomukuServer.MyMuduo.EventLoop

namespace GomukuServer.Proofs.PendingFunctors

open Base Base.Runs MyMuduo MyMuduo.EventLoop

variable {Thread Functor : Type}

/-- The functors that have been called, then the rest of the batch, then the pending ones, are all
that were pushed, in order. -/
def Accounted (pushed : List Functor) (loop : EventLoop Thread Functor) : Prop :=
  loop.called ++ loop.pc.batch ++ loop.pendingFunctors = pushed

/-- The caller has pushed a functor and not yet woken the loop. -/
def OwesWakeup (loop : EventLoop Thread Functor) (caller : Option Thread) : Prop :=
  loop.calls caller = .pushed ∨ loop.calls caller = .waking

/-- The wakeup descriptor is readable, or another thread is about to make it so. -/
def Signalled (loop : EventLoop Thread Functor) : Prop :=
  0 < loop.wakeupCounter ∨ ∃ thread : Thread, OwesWakeup loop (some thread)

/-- The loop does not go to wait for long while functors are pending. -/
def WokenBeforePoll (loop : EventLoop Thread Functor) : Prop :=
  loop.pc = .polling → loop.pendingFunctors ≠ [] → Signalled loop

/-- Pending functors of this iteration are not swapped out any more: the next swap comes only after
the next poll. -/
def SwapPassed : LoopPc Functor → Prop
  | .handling _ => False
  | .flagged => False
  | _ => True

/-- The loop thread is in `doPendingFunctor`, from setting the flag to clearing it. -/
def InPendingFunctors : LoopPc Functor → Bool
  | .flagged => true
  | .calling _ _ => true
  | _ => false

/-- What holds between any two steps.  The wakeup may also be owed by the loop thread itself, but
only while it is inside a functor. -/
structure Invariant (pushed : List Functor) (loop : EventLoop Thread Functor) : Prop where
  accounted : Accounted pushed loop
  flag : loop.callingPendingFunctors = InPendingFunctors loop.pc
  ownCall : loop.calls none ≠ .idle → loop.pc.runsUserCode = true
  signalled : SwapPassed loop.pc → loop.pendingFunctors ≠ [] →
    Signalled loop ∨ OwesWakeup loop none

variable {pushed : List Functor}

theorem Invariant.wokenBeforePoll {loop : EventLoop Thread Functor}
    (invariant : Invariant pushed loop) : WokenBeforePoll loop := by
  intro polling pending
  have passed : SwapPassed loop.pc := by rw [polling]; trivial
  rcases invariant.signalled passed pending with signalled | owes
  · exact signalled
  · have busy : loop.calls none ≠ .idle := by
      rcases owes with pushed | waking
      · rw [pushed]; simp
      · rw [waking]; simp
    have inside := invariant.ownCall busy
    rw [polling] at inside
    cases inside

theorem invariant_new : Invariant [] (EventLoop.new : EventLoop Thread Functor) where
  accounted := rfl
  flag := rfl
  ownCall := fun busy => absurd rfl busy
  signalled := fun _ pending => absurd rfl pending

/-- A move of the loop thread that touches neither the functors nor the wakeup. -/
theorem Invariant.moveTo {loop : EventLoop Thread Functor} (invariant : Invariant pushed loop)
    {here : LoopPc Functor} (place : loop.pc = here) (free : loop.calls none = .idle)
    (looping quit : Bool) (pc : LoopPc Functor) (batch : here.batch = pc.batch)
    (inside : InPendingFunctors here = InPendingFunctors pc)
    (passed : SwapPassed pc → SwapPassed here) :
    Invariant pushed { loop with looping, quit, pc } where
  accounted := by
    have accounted := invariant.accounted
    rwa [Accounted, place, batch] at accounted
  flag := invariant.flag.trans (place ▸ inside)
  ownCall := fun busy => absurd free busy
  signalled := fun swapped pending => invariant.signalled (place ▸ passed swapped) pending

/-- A step of the loop thread outside its own calls. -/
theorem invariant_advance {loop : EventLoop Thread Functor} (invariant : Invariant pushed loop)
    (free : loop.calls none = .idle) (active : List Ready) :
    Invariant pushed (loop.advance active) := by
  have accounted := invariant.accounted
  have flag := invariant.flag
  have signalled := invariant.signalled
  unfold EventLoop.advance
  cases place : loop.pc with
  | outside => exact invariant.moveTo place free true loop.quit .started rfl rfl id
  | started => exact invariant.moveTo place free loop.looping false .testing rfl rfl id
  | testing =>
      cases loop.quit with
      | false => exact invariant.moveTo place free loop.looping false .polling rfl rfl id
      | true => exact invariant.moveTo place free loop.looping true .leaving rfl rfl id
  | polling =>
      exact invariant.moveTo place free loop.looping loop.quit (.handling active) rfl rfl
        False.elim
  | handling channels =>
      rw [Accounted, place] at accounted
      rw [place] at flag
      cases channels with
      | nil => exact ⟨accounted, rfl, fun busy => absurd free busy, False.elim⟩
      | cons channel rest =>
          -- The read of the wakeup descriptor loses nothing: the swap is still to come.
          cases channel <;> exact ⟨accounted, flag, fun busy => absurd free busy, False.elim⟩
  | flagged =>
      rw [Accounted, place] at accounted
      rw [place] at flag
      refine ⟨?_, flag, fun busy => absurd free busy, fun _ pending => absurd rfl pending⟩
      simpa [Accounted, LoopPc.batch] using accounted
  | calling batch running =>
      rw [Accounted, place] at accounted
      rw [place] at flag signalled
      cases running with
      | true =>
          cases batch <;>
            exact invariant.moveTo place free loop.looping loop.quit (.calling _ false) rfl rfl id
      | false =>
          cases batch with
          | nil => exact ⟨accounted, rfl, fun busy => absurd free busy, signalled⟩
          | cons cb batch =>
              refine ⟨?_, flag, fun busy => absurd free busy, signalled⟩
              simpa [Accounted, LoopPc.batch] using accounted
  | leaving => exact invariant.moveTo place free false loop.quit .outside rfl rfl id

/-- A caller that owes a wakeup signals the loop. -/
theorem signalled_of_owes {loop : EventLoop Thread Functor} {caller : Option Thread}
    (owes : OwesWakeup loop caller) : Signalled loop ∨ OwesWakeup loop none := by
  cases caller with
  | none => exact Or.inr owes
  | some thread => exact Or.inl (Or.inr ⟨thread, owes⟩)

variable [DecidableEq Thread]

/-- What the others owe stays owed when a caller moves. -/
theorem owes_setCall {loop : EventLoop Thread Functor} {caller other : Option Thread} {pc : CallPc}
    (owes : OwesWakeup loop other) (still : other = caller → pc = .pushed ∨ pc = .waking) :
    OwesWakeup (loop.setCall caller pc) other := by
  unfold OwesWakeup
  rw [calls_setCall]
  by_cases same : other = caller
  · rw [if_pos same]
    exact still same
  · rw [if_neg same]
    exact owes

/-- The wakeup is not lost when a caller moves, unless it moves away from one that it owes. -/
theorem signalled_setCall {loop : EventLoop Thread Functor} {caller : Option Thread} {pc : CallPc}
    (signalled : Signalled loop ∨ OwesWakeup loop none)
    (still : OwesWakeup loop caller → pc = .pushed ∨ pc = .waking) :
    Signalled (loop.setCall caller pc) ∨ OwesWakeup (loop.setCall caller pc) none := by
  rcases signalled with (readable | ⟨thread, owes⟩) | owes
  · exact Or.inl (Or.inl readable)
  · exact Or.inl (Or.inr ⟨thread, owes_setCall owes fun same => still (same ▸ owes)⟩)
  · exact Or.inr (owes_setCall owes fun same => still (same ▸ owes))

/-- A caller moves in code of the user, if it is the loop thread. -/
theorem ownCall_setCall {loop : EventLoop Thread Functor} (invariant : Invariant pushed loop)
    {caller : Option Thread} (inside : caller = none → loop.pc.runsUserCode = true) {pc : CallPc}
    (busy : (loop.setCall caller pc).calls none ≠ .idle) : loop.pc.runsUserCode = true := by
  cases caller with
  | none => exact inside rfl
  | some thread => exact invariant.ownCall busy

/-- Pushing a functor leaves the caller owing a wakeup. -/
theorem invariant_queueInLoop {loop : EventLoop Thread Functor} (invariant : Invariant pushed loop)
    {caller : Option Thread} (may : loop.mayCall caller = true) (cb : Functor) :
    Invariant (pushed ++ [cb]) (loop.queueInLoop caller cb) where
  accounted := by
    have accounted := invariant.accounted
    unfold Accounted at accounted
    unfold Accounted EventLoop.queueInLoop setCall
    rw [← accounted, ← List.append_assoc]
  flag := invariant.flag
  ownCall := ownCall_setCall invariant (mayCall_iff.mp may).2
  signalled := by
    intro _ _
    refine signalled_of_owes (Or.inl (?_ : (loop.queueInLoop caller cb).calls caller = .pushed))
    simp [EventLoop.queueInLoop]

/-- Asking the loop to quit touches no functor. -/
theorem invariant_quitLoop {loop : EventLoop Thread Functor} (invariant : Invariant pushed loop)
    {caller : Option Thread} (may : loop.mayCall caller = true) :
    Invariant pushed (loop.quitLoop caller) := by
  obtain ⟨idle, inside⟩ := mayCall_iff.mp may
  unfold quitLoop
  split
  · exact ⟨invariant.accounted, invariant.flag, invariant.ownCall, invariant.signalled⟩
  · have nothing : ¬ OwesWakeup loop caller := by
      rintro (pushed | waking)
      · cases idle.symm.trans pushed
      · cases idle.symm.trans waking
    refine ⟨invariant.accounted, invariant.flag, ownCall_setCall invariant inside, ?_⟩
    intro passed pending
    exact signalled_setCall (invariant.signalled passed pending) fun owes => absurd owes nothing

/-- Waking the loop ends the call of the caller. -/
theorem invariant_wakeup {loop : EventLoop Thread Functor} (invariant : Invariant pushed loop)
    {caller : Option Thread} (inside : caller = none → loop.pc.runsUserCode = true) :
    Invariant pushed (loop.wakeup.setCall caller .idle) := by
  have readable := loop.wakeupCounter_wakeup
  obtain ⟨wakeupCounter, woken⟩ := loop.wakeup_eq
  rw [woken] at readable ⊢
  exact ⟨invariant.accounted, invariant.flag, ownCall_setCall invariant inside,
    fun _ _ => Or.inl (Or.inl readable)⟩

/-- The loop thread leaves out the wakeup only where the swap is still to come. -/
theorem not_swapPassed {pc : LoopPc Functor} (inside : pc.runsUserCode = true)
    (flag : InPendingFunctors pc = false) : ¬ SwapPassed pc := by
  cases pc with
  | handling channels => exact id
  | calling batch running => cases flag
  | _ => cases inside

/-- The second and the third step of a call. -/
theorem invariant_proceed {loop : EventLoop Thread Functor} (invariant : Invariant pushed loop)
    (caller : Option Thread) : Invariant pushed (loop.proceed caller) := by
  have inside (busy : loop.calls caller ≠ .idle) : caller = none → loop.pc.runsUserCode = true :=
    fun own => invariant.ownCall (own ▸ busy)
  unfold EventLoop.proceed
  cases place : loop.calls caller with
  | idle => exact invariant
  | waking => exact invariant_wakeup invariant (inside (by rw [place]; simp))
  | quitting => exact invariant_wakeup invariant (inside (by rw [place]; simp))
  | pushed =>
      have own := inside (by rw [place]; simp)
      dsimp only
      split
      · exact ⟨invariant.accounted, invariant.flag, ownCall_setCall invariant own,
          fun passed pending =>
            signalled_setCall (invariant.signalled passed pending) fun _ => Or.inr rfl⟩
      · rename_i skipped
        obtain ⟨thread, flag⟩ : caller = none ∧ loop.callingPendingFunctors = false := by
          simpa [isInLoopThread] using skipped
        have coming := not_swapPassed (own thread) (invariant.flag.symm.trans flag)
        exact ⟨invariant.accounted, invariant.flag, ownCall_setCall invariant own,
          fun passed _ => absurd passed coming⟩

/-! ### Runs -/

/-- The functor that an event pushes: the one of a call of `queueInLoop` that its thread can start
where it is. -/
def pushedBy (loop : EventLoop Thread Functor) : LoopEvent Thread Functor → Option Functor
  | .queueInLoop caller cb => if loop.mayCall caller then some cb else none
  | _ => none

/-- The functors that the events push, in order. -/
def pushes : EventLoop Thread Functor → List (LoopEvent Thread Functor) → List Functor
  | _, [] => []
  | loop, event :: events =>
      (pushedBy loop event).toList ++
        match loop.step event with
        | .ok next => pushes next events
        | .error _ => []

/-- A step keeps the invariant, with the functor that it pushes behind the others. -/
theorem invariant_step {loop : EventLoop Thread Functor} (invariant : Invariant pushed loop)
    (event : LoopEvent Thread Functor) :
    ∃ next, loop.step event = .ok next ∧
      Invariant (pushed ++ (pushedBy loop event).toList) next := by
  cases event with
  | advance active =>
      refine ⟨_, rfl, ?_⟩
      simp only [pushedBy, Option.toList_none, List.append_nil]
      split
      · rename_i free
        exact invariant_advance invariant free active
      · exact invariant
  | queueInLoop caller cb =>
      refine ⟨_, rfl, ?_⟩
      rw [pushedBy]
      split
      · rename_i may
        exact invariant_queueInLoop invariant may cb
      · rwa [Option.toList_none, List.append_nil]
  | quit caller =>
      refine ⟨_, rfl, ?_⟩
      simp only [pushedBy, Option.toList_none, List.append_nil]
      split
      · rename_i may
        exact invariant_quitLoop invariant may
      · exact invariant
  | proceed caller =>
      refine ⟨_, rfl, ?_⟩
      simp only [pushedBy, Option.toList_none, List.append_nil]
      exact invariant_proceed invariant caller

/-- A run keeps the invariant, with the functors that it pushes behind the others. -/
theorem invariant_run {loop : EventLoop Thread Functor} (invariant : Invariant pushed loop)
    (events : List (LoopEvent Thread Functor)) :
    ∃ last, run EventLoop.step loop events = .ok last ∧
      Invariant (pushed ++ pushes loop events) last := by
  induction events generalizing loop pushed with
  | nil => exact ⟨loop, rfl, by rwa [pushes, List.append_nil]⟩
  | cons event events inductionHypothesis =>
      obtain ⟨next, stepEq, kept⟩ := invariant_step invariant event
      obtain ⟨last, reached, held⟩ := inductionHypothesis kept
      refine ⟨last, by simp only [run, stepEq, reached], ?_⟩
      simpa only [pushes, stepEq, List.append_assoc] using held

/-- In every interleaving, for any number of threads, no functor is lost, called twice or overtaken,
and the loop never goes to wait over pending functors without a wakeup on its way. -/
theorem no_functor_or_wakeup_lost (events : List (LoopEvent Thread Functor)) :
    ∃ last, run EventLoop.step EventLoop.new events = .ok last ∧
      Accounted (pushes EventLoop.new events) last ∧ WokenBeforePoll last := by
  obtain ⟨last, reached, invariant⟩ := invariant_run invariant_new events
  exact ⟨last, reached, invariant.accounted, invariant.wokenBeforePoll⟩

/-- Two threads push a functor each, and the first of these pushes a third when it is called.  The
loop goes to wait again before the first thread has written to the wakeup descriptor. -/
def nestedPush : List (LoopEvent Bool Nat) :=
  [.advance [], .advance [], .advance [], .queueInLoop (some true) 1, .queueInLoop (some false) 2,
    .proceed (some false), .proceed (some false), .advance [.wakeupChannel], .advance [],
    .advance [], .advance [], .advance [], .queueInLoop none 3, .proceed none, .proceed none,
    .advance [], .advance [], .advance [], .advance [], .queueInLoop (some false) 4, .advance []]

/-- Two of the functors have been called, the others wait for the next round, and the loop will be
woken. -/
theorem no_functor_or_wakeup_lost_nestedPush :
    ∃ last, run EventLoop.step EventLoop.new nestedPush = .ok last ∧
      last.pc = .polling ∧ last.pendingFunctors = [3, 4] ∧
      Accounted [1, 2, 3, 4] last ∧ Signalled last := by
  have seen : (run EventLoop.step EventLoop.new nestedPush).toOption.map
      (fun loop => (loop.pc, loop.pendingFunctors)) = some (.polling, [3, 4]) := by decide +kernel
  have order : pushes EventLoop.new nestedPush = [1, 2, 3, 4] := by decide +kernel
  obtain ⟨last, reached, accounted, woken⟩ := no_functor_or_wakeup_lost nestedPush
  rw [reached] at seen
  obtain ⟨place, pending⟩ := Prod.mk.inj (Option.some.inj seen)
  exact ⟨last, reached, place, pending, order ▸ accounted, woken place (by rw [pending]; simp)⟩

end GomukuServer.Proofs.PendingFunctors
