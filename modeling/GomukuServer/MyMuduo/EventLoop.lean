/-
Module: GomukuServer.MyMuduo.EventLoop
Layer: MyMuduo
Purpose: `EventLoop`: the loop thread goes round poll, handlers and pending functors, and any thread
  may queue a functor or ask the loop to quit.  A step is one access to what the threads share, so a
  call of `queueInLoop` is three steps and every interleaving is a list of events.
Trusted boundary: `epoll_wait` may report anything; the functors and handlers of the loop thread act
  on the loop only through the calls modelled here
Main exports: LoopPc, CallPc, EventLoop, Event, advance, queueInLoop, quitLoop, proceed, step
-/
import GomukuServer.Base.Cpp
import Mathlib.Algebra.Group.Nat.Defs

namespace GomukuServer.MyMuduo

open Base

/-- A channel that `epoll_wait` reports: the one of the wakeup descriptor, or another one, whose
handler runs code of the user. -/
inductive Ready where
  | wakeupChannel
  | other
deriving DecidableEq, Repr

/-- Where the loop thread is in `loop()`, with the active channels that are still to be handled or
the batch of functors that are still to be called. -/
inductive LoopPc (Functor : Type) where
  /-- `loop()` has not been called, or has returned. -/
  | outside
  /-- `_looping_` is set, `_quit_` is not reset yet. -/
  | started
  /-- In front of the test of `_quit_`. -/
  | testing
  /-- In front of `poll`, or waiting in it. -/
  | polling
  /-- The handler of the first channel of the list is running. -/
  | handling (active : List Ready)
  /-- In `doPendingFunctor`, between setting the flag and the swap. -/
  | flagged
  /-- Behind the swap; `running` tells whether a functor is being called. -/
  | calling (batch : List Functor) (running : Bool)
  /-- Behind the loop, `_looping_` still set. -/
  | leaving
deriving DecidableEq, Repr

/-- Where a thread is in a call of `queueInLoop` or `quit`. -/
inductive CallPc where
  | idle
  /-- The functor is pushed; whether to wake the loop is not decided yet. -/
  | pushed
  /-- The functor is pushed, and `wakeup()` is the next thing to do. -/
  | waking
  /-- `_quit_` is set, and `wakeup()` is the next thing to do. -/
  | quitting
deriving DecidableEq, Repr

/-- The functors that have been swapped out and not called yet. -/
def LoopPc.batch {Functor : Type} : LoopPc Functor → List Functor
  | .calling batch _ => batch
  | _ => []

/-- The functor that the loop thread calls in its next step. -/
def LoopPc.nextFunctor {Functor : Type} : LoopPc Functor → Option Functor
  | .calling (cb :: _) false => some cb
  | _ => none

/-- The loop thread is inside a handler of the user. -/
def LoopPc.inHandler {Functor : Type} : LoopPc Functor → Bool
  | .handling (.other :: _) => true
  | _ => false

/-- The loop thread is inside a handler of the user or inside a functor. -/
def LoopPc.runsUserCode {Functor : Type} : LoopPc Functor → Bool
  | .handling (.other :: _) => true
  | .calling _ running => running
  | _ => false

/-- `EventLoop`.  `none` stands for the loop thread among the callers.  `called` records the
functors whose call was ever started. -/
structure EventLoop (Thread Functor : Type) where
  looping : Bool
  quit : Bool
  wakeupCounter : Nat
  callingPendingFunctors : Bool
  pendingFunctors : List Functor
  pc : LoopPc Functor
  calls : Option Thread → CallPc
  called : List Functor

/-- What happens next: a step of the loop thread outside its own calls, with what `epoll_wait`
reports if it is there; the first step of a call; or the next step of a call. -/
inductive LoopEvent (Thread Functor : Type) where
  | advance (active : List Ready)
  | queueInLoop (caller : Option Thread) (cb : Functor)
  | quit (caller : Option Thread)
  | proceed (caller : Option Thread)

namespace EventLoop

variable {Thread Functor : Type}

/-- The largest value of the counter of an `eventfd`. -/
def maxCounter : Nat := 2 ^ 64 - 2

/-- The constructor. -/
def new : EventLoop Thread Functor where
  looping := false
  quit := false
  wakeupCounter := 0
  callingPendingFunctors := false
  pendingFunctors := []
  pc := .outside
  calls := fun _ => .idle
  called := []

/-- `isInLoopThread`. -/
def isInLoopThread (caller : Option Thread) : Bool := caller.isNone

/-- `wakeup`.  A write that would overflow the counter fails and is only logged. -/
def wakeup (loop : EventLoop Thread Functor) : EventLoop Thread Functor :=
  if loop.wakeupCounter < maxCounter then { loop with wakeupCounter := loop.wakeupCounter + 1 }
  else loop

/-- `handlerRead`: reading takes the whole counter.  With nothing to read it fails and is only
logged. -/
def handlerRead (loop : EventLoop Thread Functor) : EventLoop Thread Functor :=
  { loop with wakeupCounter := 0 }

/-- The next step of the loop thread in `loop()` and `doPendingFunctor()`. -/
def advance (loop : EventLoop Thread Functor) (active : List Ready) : EventLoop Thread Functor :=
  match loop.pc with
  | .outside => { loop with looping := true, pc := .started }
  | .started => { loop with quit := false, pc := .testing }
  | .testing => { loop with pc := if loop.quit then .leaving else .polling }
  | .polling => { loop with pc := .handling active }
  | .handling [] => { loop with callingPendingFunctors := true, pc := .flagged }
  | .handling (.wakeupChannel :: rest) => { loop.handlerRead with pc := .handling rest }
  | .handling (.other :: rest) => { loop with pc := .handling rest }
  | .flagged => { loop with pendingFunctors := [], pc := .calling loop.pendingFunctors false }
  | .calling (cb :: batch) false =>
      { loop with called := loop.called ++ [cb], pc := .calling batch true }
  | .calling batch true => { loop with pc := .calling batch false }
  | .calling [] false => { loop with callingPendingFunctors := false, pc := .testing }
  | .leaving => { loop with looping := false, pc := .outside }

/-- A thread can start a call when it is in none; the loop thread only from code of the user. -/
def mayCall (loop : EventLoop Thread Functor) (caller : Option Thread) : Bool :=
  loop.calls caller = .idle && (!isInLoopThread caller || loop.pc.runsUserCode)

/-- The functors that were pushed and not called yet, in order. -/
def waiting (loop : EventLoop Thread Functor) : List Functor :=
  loop.pc.batch ++ loop.pendingFunctors

/-- A step of the loop thread calls the next functor or leaves all of them waiting. -/
theorem waiting_advance (loop : EventLoop Thread Functor) (active : List Ready) :
    loop.pc.nextFunctor.toList ++ (loop.advance active).waiting = loop.waiting := by
  unfold waiting advance
  cases place : loop.pc with
  | testing => cases loop.quit <;> rfl
  | handling channels =>
      cases channels with
      | nil => rfl
      | cons channel rest => cases channel <;> rfl
  | flagged => simp [LoopPc.nextFunctor, LoopPc.batch]
  | calling batch running => cases running <;> cases batch <;> rfl
  | _ => rfl

/-- After `wakeup` the descriptor is readable, whether or not the write went through. -/
theorem wakeupCounter_wakeup (loop : EventLoop Thread Functor) :
    0 < loop.wakeup.wakeupCounter := by
  unfold wakeup
  split
  · exact Nat.succ_pos _
  · rename_i full
    exact Nat.lt_of_lt_of_le (by decide) (Nat.not_lt.mp full)

/-- `wakeup` touches the descriptor alone. -/
theorem wakeup_eq (loop : EventLoop Thread Functor) :
    ∃ wakeupCounter, loop.wakeup = { loop with wakeupCounter } := by
  unfold wakeup
  split
  · exact ⟨_, rfl⟩
  · exact ⟨loop.wakeupCounter, rfl⟩

/-- A thread in no call starts one; the loop thread does so in code of the user. -/
theorem mayCall_iff {loop : EventLoop Thread Functor} {caller : Option Thread} :
    loop.mayCall caller = true ↔
      loop.calls caller = .idle ∧ (caller = none → loop.pc.runsUserCode = true) := by
  cases caller <;> simp [mayCall, isInLoopThread]

variable [DecidableEq Thread]

/-- Move a caller to another place in its call. -/
def setCall (loop : EventLoop Thread Functor) (caller : Option Thread) (pc : CallPc) :
    EventLoop Thread Functor :=
  { loop with calls := fun other => if other = caller then pc else loop.calls other }

/-- `queueInLoop`, first step: push under the mutex. -/
def queueInLoop (loop : EventLoop Thread Functor) (caller : Option Thread) (cb : Functor) :
    EventLoop Thread Functor :=
  { loop with pendingFunctors := loop.pendingFunctors ++ [cb] }.setCall caller .pushed

/-- `quit`, first step: set the flag.  The loop thread does not wake itself. -/
def quitLoop (loop : EventLoop Thread Functor) (caller : Option Thread) :
    EventLoop Thread Functor :=
  if isInLoopThread caller then { loop with quit := true }
  else { loop with quit := true }.setCall caller .quitting

/-- The next step of a call: decide whether to wake the loop, or wake it. -/
def proceed (loop : EventLoop Thread Functor) (caller : Option Thread) :
    EventLoop Thread Functor :=
  match loop.calls caller with
  | .idle => loop
  | .pushed =>
      if !isInLoopThread caller || loop.callingPendingFunctors then loop.setCall caller .waking
      else loop.setCall caller .idle
  | .waking => loop.wakeup.setCall caller .idle
  | .quitting => loop.wakeup.setCall caller .idle

/-- Execute one event.  A thread that is somewhere else leaves everything as it is. -/
def step (loop : EventLoop Thread Functor) :
    LoopEvent Thread Functor → Except Fault (EventLoop Thread Functor)
  | .advance active => .ok (if loop.calls none = .idle then loop.advance active else loop)
  | .queueInLoop caller cb => .ok (if loop.mayCall caller then loop.queueInLoop caller cb else loop)
  | .quit caller => .ok (if loop.mayCall caller then loop.quitLoop caller else loop)
  | .proceed caller => .ok (loop.proceed caller)

/-- A functor that is pushed waits behind the others. -/
theorem waiting_queueInLoop (loop : EventLoop Thread Functor) (caller : Option Thread)
    (cb : Functor) : (loop.queueInLoop caller cb).waiting = loop.waiting ++ [cb] := by
  simp [waiting, queueInLoop, setCall]

/-- The other steps of a call leave all functors waiting. -/
theorem waiting_proceed (loop : EventLoop Thread Functor) (caller : Option Thread) :
    (loop.proceed caller).waiting = loop.waiting := by
  obtain ⟨counter, woken⟩ := loop.wakeup_eq
  unfold proceed
  split
  · rfl
  · split <;> rfl
  · rw [woken]
    rfl
  · rw [woken]
    rfl

@[simp] theorem calls_setCall (loop : EventLoop Thread Functor) (caller other : Option Thread)
    (pc : CallPc) : (loop.setCall caller pc).calls other =
      if other = caller then pc else loop.calls other := rfl

end EventLoop

end GomukuServer.MyMuduo
