/-
Module: GomukuServer.MyMuduo.EventLoopThread
Layer: MyMuduo
Purpose: `EventLoopThread`: a thread that owns a loop and runs it, and the thread that starts and
  destroys it.  The loop is published before it is entered, and a step is one access to what the
  threads share, as in the model of the loop itself.
Trusted boundary: the thread callback does not touch the flags of the loop
Main exports: ThreadPc, OwnerPc, EventLoopThread, ThreadEvent, threadFunc, destroy, callQuit, step
-/
import GomukuServer.MyMuduo.EventLoop

namespace GomukuServer.MyMuduo

open Base

/-- Where the new thread is in `threadFunc`. -/
inductive ThreadPc where
  /-- The thread has not been started. -/
  | unstarted
  /-- In front of the construction of the loop and the thread callback. -/
  | starting
  /-- In front of `_loop_ = &loop`. -/
  | publishing
  /-- In `loop.loop()`. -/
  | looping
  /-- In front of `_loop_ = nullptr`. -/
  | withdrawing
  /-- `threadFunc` has returned, and its loop is gone. -/
  | finished
deriving DecidableEq, Repr

/-- Where the owner is in `startLoop` or in the destructor. -/
inductive OwnerPc where
  /-- In neither of them. -/
  | idle
  /-- In `startLoop`, waiting for the loop to be published. -/
  | waiting
  /-- In front of the test of `_loop_` in the destructor. -/
  | testing
  /-- In front of `_loop_->quit()`. -/
  | quitting
  /-- In `quit`, with the flag set; `wakeup()` is the next thing to do. -/
  | waking
  /-- In `join`. -/
  | joining
  /-- The destructor has returned. -/
  | gone
deriving DecidableEq, Repr

/-- `EventLoopThread`, with the loop of its thread.  `asked` records that a thread other than that
of the loop has called `quit`, and `renewed` counts the iterations that were begun after that. -/
structure EventLoopThread (Thread Functor : Type) where
  loop : EventLoop Thread Functor
  published : Bool
  exiting : Bool
  threadPc : ThreadPc
  ownerPc : OwnerPc
  asked : Bool
  renewed : Nat

/-- What happens next: a step of the new thread, with what `epoll_wait` reports if it is there; the
first step of a call of the owner; its next step; or a step of a call of the loop, by another thread
or by the loop thread itself. -/
inductive ThreadEvent (Thread Functor : Type) where
  | thread (active : List Ready)
  | startLoop
  | destroy
  | owner
  | queueInLoop (caller : Option Thread) (cb : Functor)
  | quit (caller : Option Thread)
  | proceed (caller : Option Thread)

/-- In front of `_quit_ = false`. -/
def LoopPc.resets {Functor : Type} : LoopPc Functor → Bool
  | .started => true
  | _ => false

/-- In front of the test of `_quit_`. -/
def LoopPc.tests {Functor : Type} : LoopPc Functor → Bool
  | .testing => true
  | _ => false

/-- In front of the return from `loop()`. -/
def LoopPc.returns {Functor : Type} : LoopPc Functor → Bool
  | .leaving => true
  | _ => false

namespace EventLoopThread

variable {Thread Functor : Type}

/-- The constructor. -/
def new : EventLoopThread Thread Functor where
  loop := .new
  published := false
  exiting := false
  threadPc := .unstarted
  ownerPc := .idle
  asked := false
  renewed := 0

/-- The address of the loop has been published. -/
def handedOut (thread : EventLoopThread Thread Functor) : Bool :=
  thread.threadPc = .looping || thread.threadPc = .withdrawing || thread.threadPc = .finished

/-- The loop has been left. -/
def exited (thread : EventLoopThread Thread Functor) : Bool :=
  thread.threadPc = .withdrawing || thread.threadPc = .finished

/-- What a thread with the address of the loop does with it, as long as the loop is there. -/
def withLoop (thread : EventLoopThread Thread Functor)
    (call : EventLoop Thread Functor → EventLoop Thread Functor) :
    Except Fault (EventLoopThread Thread Functor) :=
  if thread.threadPc = .finished then .error .danglingPointer
  else .ok { thread with loop := call thread.loop }

/-- `startLoop`, first step: start the thread. -/
def startLoop (thread : EventLoopThread Thread Functor) : EventLoopThread Thread Functor :=
  if thread.ownerPc = .idle ∧ thread.threadPc = .unstarted then
    { thread with threadPc := .starting, ownerPc := .waiting }
  else thread

/-- `~EventLoopThread`, first step. -/
def destroy (thread : EventLoopThread Thread Functor) : EventLoopThread Thread Functor :=
  if thread.ownerPc = .idle then { thread with exiting := true, ownerPc := .testing } else thread

/-- The next step of the owner. -/
def owner (thread : EventLoopThread Thread Functor) :
    Except Fault (EventLoopThread Thread Functor) :=
  match thread.ownerPc with
  | .idle => .ok thread
  | .waiting => .ok (if thread.published then { thread with ownerPc := .idle } else thread)
  | .testing =>
      .ok { thread with ownerPc := if thread.published then .quitting else .gone }
  | .quitting =>
      { thread with ownerPc := .waking, asked := true }.withLoop fun loop =>
        { loop with quit := true }
  | .waking => { thread with ownerPc := .joining }.withLoop EventLoop.wakeup
  | .joining =>
      .ok (if thread.threadPc = .finished then { thread with ownerPc := .gone } else thread)
  | .gone => .ok thread

variable [DecidableEq Thread]

/-- The next step of the new thread. -/
def threadFunc (thread : EventLoopThread Thread Functor) (active : List Ready) :
    Except Fault (EventLoopThread Thread Functor) :=
  match thread.threadPc with
  | .unstarted => .ok thread
  | .starting => .ok { thread with threadPc := .publishing }
  | .publishing => .ok { thread with published := true, threadPc := .looping }
  | .looping => do
      let loop ← thread.loop.step (.advance active)
      pure { thread with
        loop := loop
        threadPc := if thread.loop.pc.returns then .withdrawing else .looping
        renewed := if thread.asked && thread.loop.pc.tests && !loop.pc.returns then
          thread.renewed + 1 else thread.renewed }
  | .withdrawing => .ok { thread with published := false, threadPc := .finished }
  | .finished => .ok thread

/-- The first step of a call of `quit`, by a thread that got the loop from `startLoop` or by the
loop thread. -/
def callQuit (thread : EventLoopThread Thread Functor) (caller : Option Thread) :
    Except Fault (EventLoopThread Thread Functor) :=
  if thread.handedOut && thread.loop.mayCall caller then
    { thread with asked := thread.asked || caller.isSome }.withLoop fun loop =>
      loop.quitLoop caller
  else .ok thread

/-- The first step of a call of `queueInLoop`. -/
def callQueueInLoop (thread : EventLoopThread Thread Functor) (caller : Option Thread)
    (cb : Functor) : Except Fault (EventLoopThread Thread Functor) :=
  if thread.handedOut && thread.loop.mayCall caller then
    thread.withLoop fun loop => loop.queueInLoop caller cb
  else .ok thread

/-- The next step of a call of the loop. -/
def proceed (thread : EventLoopThread Thread Functor) (caller : Option Thread) :
    Except Fault (EventLoopThread Thread Functor) :=
  if thread.loop.calls caller = .idle then .ok thread
  else thread.withLoop fun loop => loop.proceed caller

/-- Execute one event.  A thread that is somewhere else leaves everything as it is. -/
def step (thread : EventLoopThread Thread Functor) :
    ThreadEvent Thread Functor → Except Fault (EventLoopThread Thread Functor)
  | .thread active => thread.threadFunc active
  | .startLoop => .ok thread.startLoop
  | .destroy => .ok thread.destroy
  | .owner => thread.owner
  | .queueInLoop caller cb => thread.callQueueInLoop caller cb
  | .quit caller => thread.callQuit caller
  | .proceed caller => thread.proceed caller

end EventLoopThread

end GomukuServer.MyMuduo
