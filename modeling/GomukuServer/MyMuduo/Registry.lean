/-
Module: GomukuServer.MyMuduo.Registry
Layer: MyMuduo
Purpose: All channels of a loop with their poller.  A channel's registration is kept three times, in
  its index, in the poller's map and in the kernel's interest list; this module has the functions
  that change them, and a record of the calls of `epoll_ctl` that the kernel refuses.  For a single
  channel and without the record they are those of `EPollPoller`.
Trusted boundary: `epoll_ctl` fails only on an entry that exists already or is missing
Main exports: Registry, updateChannel, removeChannel, ChannelCall, step, updateChannel_refines,
  removeChannel_refines
-/
import GomukuServer.MyMuduo.Channel

namespace GomukuServer.MyMuduo

open Base

/-- The channels of a loop, its poller with the map from descriptors to channels, and the calls of
`epoll_ctl` that have been refused. -/
structure Registry (Name : Type) where
  channels : Name → Channel
  channelmap : PMap Fd Name
  poller : EPollPoller
  refused : List (EpollOperation × Fd)

/-- The calls of a channel that change its registration. -/
inductive ChannelCall where
  | EnableReading
  | DisableReading
  | EnableWriting
  | DisableWriting
  | DisableAll
  | remove
deriving DecidableEq, Repr

namespace Registry

variable {Name : Type} [DecidableEq Name]

omit [DecidableEq Name] in
/-- A loop whose channels have just been built on the given descriptors. -/
def new (fd : Name → Fd) : Registry Name where
  channels := fun name => Channel.new (fd name)
  channelmap := ⟨fun _ => none⟩
  poller := ⟨PMap.empty⟩
  refused := []

/-- Replace a channel. -/
def setChannel (registry : Registry Name) (name : Name) (channel : Channel) : Registry Name :=
  { registry with
    channels := fun other => if other = name then channel else registry.channels other }

/-- `Set_Index`. -/
def setIndex (registry : Registry Name) (name : Name) (index : Index) : Registry Name :=
  registry.setChannel name { registry.channels name with index := index }

omit [DecidableEq Name] in
/-- `EPollPoller::update`. -/
def update (registry : Registry Name) (operation : EpollOperation) (name : Name) :
    Except Fault (Registry Name) :=
  let channel := registry.channels name
  let accepted := EPollPoller.epollCtl registry.poller.interest operation channel.fd channel.events
  (registry.poller.update operation channel).map fun poller =>
    { registry with
      poller := poller
      refused := if accepted.isSome then registry.refused
        else registry.refused ++ [(operation, channel.fd)] }

/-- `EPollPoller::updateChannel`. -/
def updateChannel (registry : Registry Name) (name : Name) : Except Fault (Registry Name) :=
  let channel := registry.channels name
  match channel.index with
  | .kNew =>
      let mapped := { registry with channelmap := registry.channelmap.insert channel.fd name }
      (mapped.setIndex name .kAdded).update .EPOLL_CTL_ADD name
  | .kDeleted => (registry.setIndex name .kAdded).update .EPOLL_CTL_ADD name
  | .kAdded =>
      if channel.isNoneEvent then do
        let registry ← registry.update .EPOLL_CTL_DEL name
        pure (registry.setIndex name .kDeleted)
      else registry.update .EPOLL_CTL_MOD name

/-- `EPollPoller::removeChannel`. -/
def removeChannel (registry : Registry Name) (name : Name) : Except Fault (Registry Name) := do
  let channel := registry.channels name
  let erased := { registry with channelmap := registry.channelmap.erase channel.fd }
  let registry ← (if channel.index = .kAdded then erased.update .EPOLL_CTL_DEL name
    else .ok erased)
  pure (registry.setIndex name .kNew)

/-- Make a call on a channel. -/
def step (registry : Registry Name) (call : Name × ChannelCall) : Except Fault (Registry Name) :=
  let name := call.1
  let channel := registry.channels name
  match call.2 with
  | .EnableReading => (registry.setChannel name channel.enableReading).updateChannel name
  | .DisableReading => (registry.setChannel name channel.disableReading).updateChannel name
  | .EnableWriting => (registry.setChannel name channel.enableWriting).updateChannel name
  | .DisableWriting => (registry.setChannel name channel.disableWriting).updateChannel name
  | .DisableAll => (registry.setChannel name channel.disableAll).updateChannel name
  | .remove => registry.removeChannel name

@[simp] theorem channels_setChannel (registry : Registry Name) (name other : Name)
    (channel : Channel) :
    (registry.setChannel name channel).channels other =
      if other = name then channel else registry.channels other := rfl

@[simp] theorem poller_setChannel (registry : Registry Name) (name : Name) (channel : Channel) :
    (registry.setChannel name channel).poller = registry.poller := rfl

/-- A change of a channel and then of its index is one change. -/
theorem channels_setIndex_setChannel (registry : Registry Name) (name : Name) (channel : Channel)
    (index : Index) (other : Name) :
    ((registry.setChannel name channel).setIndex name index).channels other =
      if other = name then { channel with index := index } else registry.channels other := by
  simp only [setIndex, channels_setChannel, if_true]
  split <;> rfl

omit [DecidableEq Name] in
/-- A call the kernel accepts is not recorded. -/
theorem update_of_accepted {registry : Registry Name} {operation : EpollOperation} {name : Name}
    {interest : PMap Fd Events}
    (accepted : EPollPoller.epollCtl registry.poller.interest operation
      (registry.channels name).fd (registry.channels name).events = some interest) :
    registry.update operation name = .ok { registry with poller := ⟨interest⟩ } := by
  simp [update, EPollPoller.update, accepted, Except.map]

/-- For the channel it is called on, `updateChannel` is that of `EPollPoller`. -/
theorem updateChannel_refines (registry : Registry Name) (name : Name) :
    (registry.updateChannel name).map (fun next => (next.poller, next.channels name)) =
      registry.poller.updateChannel (registry.channels name) := by
  unfold updateChannel EPollPoller.updateChannel
  cases indexEq : (registry.channels name).index with
  | kNew | kDeleted =>
      simp only [indexEq, update, setIndex, poller_setChannel, channels_setChannel, if_true]
      cases registry.poller.update .EPOLL_CTL_ADD
        { registry.channels name with index := .kAdded } <;> simp [Except.map]
  | kAdded =>
      simp only [indexEq, update]
      split
      · cases registry.poller.update .EPOLL_CTL_DEL (registry.channels name) <;>
          simp [Except.map, setIndex]
      · cases registry.poller.update .EPOLL_CTL_MOD (registry.channels name) <;>
          simp [Except.map]

/-- For the channel it is called on, `removeChannel` is that of `EPollPoller`. -/
theorem removeChannel_refines (registry : Registry Name) (name : Name) :
    (registry.removeChannel name).map (fun next => (next.poller, next.channels name)) =
      registry.poller.removeChannel (registry.channels name) := by
  unfold removeChannel EPollPoller.removeChannel
  by_cases added : (registry.channels name).index = .kAdded
  · simp only [added, if_true, update]
    cases registry.poller.update .EPOLL_CTL_DEL (registry.channels name) <;>
      simp [Except.map, setIndex]
  · simp [added, Except.map, setIndex]

end Registry

end GomukuServer.MyMuduo
