/-
Module: GomukuServer.MyMuduo.Channel
Layer: MyMuduo
Purpose: `Channel`, the events a descriptor is registered for, and `EPollPoller`, which passes them
  on to the kernel.  `Watches` says that the kernel's interest list is what the channel asks for;
  every update of a watched channel succeeds and keeps it watched.
Trusted boundary: `epoll_ctl` fails only on an entry that exists already or is missing
Main exports: Channel, EPollPoller, Watches, updateChannel_ok, registeredForWriting_iff
-/
import Mathlib.Tactic.ByContra
import GomukuServer.Base.Store
import GomukuServer.Base.Cpp

namespace GomukuServer.MyMuduo

open Base

/-- File descriptors. -/
abbrev Fd := Nat

/-- Event masks of `epoll`. -/
abbrev Events := BitVec 32

/-- Data to read. -/
def EPOLLIN : Events := 0x1

/-- Urgent data to read. -/
def EPOLLPRI : Events := 0x2

/-- Room to write. -/
def EPOLLOUT : Events := 0x4

/-- The peer has hung up. -/
def EPOLLHUP : Events := 0x10

def kNoneEvent : Events := 0
def kReadEvent : Events := EPOLLIN ||| EPOLLPRI
def kWriteEvent : Events := EPOLLOUT

/-- Where a channel stands with the poller. -/
inductive Index where
  | kNew
  | kAdded
  | kDeleted
deriving DecidableEq, Repr

/-- `Channel`. -/
structure Channel where
  fd : Fd
  events : Events
  index : Index
deriving DecidableEq, Repr

/-- The commands of `epoll_ctl`. -/
inductive EpollOperation where
  | EPOLL_CTL_ADD
  | EPOLL_CTL_DEL
  | EPOLL_CTL_MOD
deriving DecidableEq, Repr

/-- `EPollPoller`: the kernel's interest list behind its descriptor. -/
structure EPollPoller where
  interest : PMap Fd Events

namespace Channel

/-- The constructor. -/
def new (fd : Fd) : Channel := ⟨fd, 0, .kNew⟩

/-- `IsNoneEvent`. -/
def isNoneEvent (channel : Channel) : Bool := channel.events == kNoneEvent

/-- `IsWriting`. -/
def isWriting (channel : Channel) : Bool := channel.events &&& kWriteEvent != 0

end Channel

namespace EPollPoller

/-- `epoll_ctl`: the new interest list, or nothing if the call fails. -/
def epollCtl (interest : PMap Fd Events) (operation : EpollOperation) (fd : Fd) (events : Events) :
    Option (PMap Fd Events) :=
  match operation, interest.find? fd with
  | .EPOLL_CTL_ADD, none => some (interest.insert fd events)
  | .EPOLL_CTL_ADD, some _ => none
  | .EPOLL_CTL_MOD, some _ => some (interest.insert fd events)
  | .EPOLL_CTL_MOD, none => none
  | .EPOLL_CTL_DEL, some _ => some (interest.erase fd)
  | .EPOLL_CTL_DEL, none => none

/-- `EPollPoller::update`.  A failed deletion is logged; any other failure ends the process. -/
def update (poller : EPollPoller) (operation : EpollOperation) (channel : Channel) :
    Except Fault EPollPoller :=
  match epollCtl poller.interest operation channel.fd channel.events with
  | some interest => .ok ⟨interest⟩
  | none => if operation = .EPOLL_CTL_DEL then .ok poller else .error .exit

/-- `updateChannel`. -/
def updateChannel (poller : EPollPoller) (channel : Channel) :
    Except Fault (EPollPoller × Channel) :=
  match channel.index with
  | .kNew | .kDeleted => do
      let channel := { channel with index := .kAdded }
      let poller ← poller.update .EPOLL_CTL_ADD channel
      pure (poller, channel)
  | .kAdded =>
      if channel.isNoneEvent then do
        let poller ← poller.update .EPOLL_CTL_DEL channel
        pure (poller, { channel with index := .kDeleted })
      else do
        let poller ← poller.update .EPOLL_CTL_MOD channel
        pure (poller, channel)

/-- `removeChannel`. -/
def removeChannel (poller : EPollPoller) (channel : Channel) :
    Except Fault (EPollPoller × Channel) := do
  let poller ←
    if channel.index = .kAdded then poller.update .EPOLL_CTL_DEL channel else pure poller
  pure (poller, { channel with index := .kNew })

/-- The kernel watches the descriptor for writability. -/
def RegisteredForWriting (poller : EPollPoller) (fd : Fd) : Prop :=
  ∃ mask, poller.interest.find? fd = some mask ∧ mask &&& EPOLLOUT ≠ 0

/-- The kernel watches for what the channel asks for, and a channel that asks for something has been
added. -/
structure Watches (poller : EPollPoller) (channel : Channel) : Prop where
  interest : poller.interest.find? channel.fd =
    if channel.index = .kAdded then some channel.events else none
  added : channel.events ≠ 0 → channel.index = .kAdded

/-- A new channel of a descriptor that is not being watched. -/
theorem watches_new {poller : EPollPoller} {fd : Fd} (fresh : poller.interest.find? fd = none) :
    poller.Watches (Channel.new fd) where
  interest := by simp [Channel.new, fresh]
  added := by simp [Channel.new]

/-- Updating a channel whose events have changed succeeds, and the kernel then watches for the new
events. -/
theorem updateChannel_ok {poller : EPollPoller} {channel : Channel}
    (watched : poller.Watches channel) (events : Events) :
    ∃ poller' index', poller.updateChannel { channel with events := events } =
        .ok (poller', ⟨channel.fd, events, index'⟩) ∧
      poller'.Watches ⟨channel.fd, events, index'⟩ := by
  have interest := watched.interest
  cases indexEq : channel.index with
  | kAdded =>
      simp only [indexEq, if_true] at interest
      by_cases none : events = kNoneEvent
      · refine ⟨⟨poller.interest.erase channel.fd⟩, .kDeleted, ?_, ?_⟩
        · simp [updateChannel, update, epollCtl, Channel.isNoneEvent, interest, none]
        · constructor <;> simp [none, kNoneEvent]
      · refine ⟨⟨poller.interest.insert channel.fd events⟩, .kAdded, ?_, ?_⟩
        · simp [updateChannel, update, epollCtl, Channel.isNoneEvent, interest, none]
        · constructor <;> simp
  | kNew | kDeleted =>
      refine ⟨⟨poller.interest.insert channel.fd events⟩, .kAdded, ?_, ?_⟩
      · simp_all [updateChannel, update, epollCtl]
      · constructor <;> simp

/-- Removing a watched channel succeeds. -/
theorem removeChannel_ok {poller : EPollPoller} {channel : Channel}
    (watched : poller.Watches channel) :
    ∃ poller', poller.removeChannel channel = .ok (poller', { channel with index := .kNew }) ∧
      poller'.interest.find? channel.fd = none := by
  have interest := watched.interest
  by_cases added : channel.index = .kAdded
  · rw [if_pos added] at interest
    refine ⟨⟨poller.interest.erase channel.fd⟩, ?_, by simp⟩
    simp [removeChannel, update, epollCtl, added, interest]
  · rw [if_neg added] at interest
    exact ⟨poller, by simp [removeChannel, added], interest⟩

/-- The kernel reports writability exactly for the channels that ask for it. -/
theorem registeredForWriting_iff {poller : EPollPoller} {channel : Channel}
    (watched : poller.Watches channel) :
    poller.RegisteredForWriting channel.fd ↔ channel.isWriting = true := by
  unfold RegisteredForWriting Channel.isWriting
  rw [watched.interest]
  by_cases added : channel.index = .kAdded
  · simp [added, kWriteEvent]
  · have silent : channel.events = 0 := by
      by_contra asks
      exact added (watched.added asks)
    simp [added, silent]

end EPollPoller

namespace Channel

/-- `EnableReading`: the events it asks `update` to register. -/
def enableReading (channel : Channel) : Channel :=
  { channel with events := channel.events ||| kReadEvent }

/-- `DisableReading`. -/
def disableReading (channel : Channel) : Channel :=
  { channel with events := channel.events &&& ~~~kReadEvent }

/-- `EnableWriting`. -/
def enableWriting (channel : Channel) : Channel :=
  { channel with events := channel.events ||| kWriteEvent }

/-- `DisableWriting`. -/
def disableWriting (channel : Channel) : Channel :=
  { channel with events := channel.events &&& ~~~kWriteEvent }

/-- `DisableAll`. -/
def disableAll (channel : Channel) : Channel := { channel with events := kNoneEvent }

@[simp] theorem isWriting_new (fd : Fd) : (new fd).isWriting = false := by
  simp [isWriting, new]

@[simp] theorem isWriting_enableReading (channel : Channel) :
    channel.enableReading.isWriting = channel.isWriting := by
  have mask : (channel.events ||| kReadEvent) &&& kWriteEvent = channel.events &&& kWriteEvent := by
    have apart : kReadEvent &&& kWriteEvent = 0 := by decide
    rw [BitVec.and_comm, BitVec.and_or_distrib_left]
    simp [BitVec.and_comm, apart]
  simp [isWriting, enableReading, mask]

@[simp] theorem isWriting_enableWriting (channel : Channel) :
    channel.enableWriting.isWriting = true := by
  have bit : ((channel.events ||| kWriteEvent) &&& kWriteEvent).getLsbD 2 = true := by
    simp [kWriteEvent, EPOLLOUT]
  have asks : (channel.events ||| kWriteEvent) &&& kWriteEvent ≠ 0 := by
    intro none
    simp [none] at bit
  simpa [isWriting, enableWriting] using asks

@[simp] theorem isWriting_disableWriting (channel : Channel) :
    channel.disableWriting.isWriting = false := by
  simp [isWriting, disableWriting, BitVec.and_assoc]

end Channel

end GomukuServer.MyMuduo
