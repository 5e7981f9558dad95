/-
Module: GomukuServer.MyMuduo.Polling
Layer: MyMuduo
Purpose: The poller at work.  The kernel keeps a pointer to the channel beside the events of each
  descriptor and gives it back from `epoll_wait`, into a vector that is doubled when it has been
  filled; from there the events go to the channels, which become the active ones of the loop.  The
  calls that change a registration are those of `Registry`.
Trusted boundary: `epoll_wait` returns what the descriptors were last registered with
Main exports: EpollEvent, Polling, poll, PollerEvent, step, Reports, registry_updateChannel,
  registry_removeChannel
-/
import GomukuServer.MyMuduo.Registry

namespace GomukuServer.MyMuduo

open Base

/-- An error on the descriptor. -/
def EPOLLERR : Events := 0x8

/-- `epoll_event`, with the pointer of its union. -/
structure EpollEvent (Name : Type) where
  events : Events
  ptr : Option Name
deriving DecidableEq, Repr

/-- A loop's poller and its channels: the registrations, the pointers that the kernel keeps with
them, the events that each channel was last active with, the vector for `epoll_wait` and the active
channels of the loop. -/
structure Polling (Name : Type) where
  registry : Registry Name
  pointers : PMap Fd Name
  revents : Name → Events
  events : List (EpollEvent Name)
  activeChannels : List Name

/-- What the thread of the loop does.  A poll comes with what is ready, in the order in which the
kernel has it, or with nothing if `epoll_wait` fails. -/
inductive PollerEvent (Name : Type) where
  | call (name : Name) (call : ChannelCall)
  | poll (answer : Option (List (Fd × Events)))
deriving DecidableEq, Repr

/-- The size of the vector at first. -/
def kInitEventListSize : Nat := 16

namespace Polling

variable {Name : Type} [DecidableEq Name]

omit [DecidableEq Name] in
/-- The poller of a loop whose channels have just been built on the given descriptors. -/
def new (fd : Name → Fd) : Polling Name where
  registry := Registry.new fd
  pointers := .empty
  revents := fun _ => 0
  events := List.replicate kInitEventListSize ⟨0, none⟩
  activeChannels := []

omit [DecidableEq Name] in
/-- `hasPoller`: the map has this channel, and not another one, on the descriptor. -/
def HasPoller (polling : Polling Name) (name : Name) : Prop :=
  polling.registry.channelmap.find? (polling.registry.channels name).fd = some name

omit [DecidableEq Name] in
/-- What an accepted call of `epoll_ctl` does to the pointers in the kernel. -/
def setPointer (pointers : PMap Fd Name) (operation : EpollOperation) (fd : Fd) (name : Name) :
    PMap Fd Name :=
  match operation with
  | .EPOLL_CTL_ADD | .EPOLL_CTL_MOD => pointers.insert fd name
  | .EPOLL_CTL_DEL => pointers.erase fd

omit [DecidableEq Name] in
/-- `EPollPoller::update`, which gives the kernel the events together with the pointer. -/
def update (polling : Polling Name) (operation : EpollOperation) (name : Name) :
    Except Fault (Polling Name) :=
  let channel := polling.registry.channels name
  let accepted := EPollPoller.epollCtl polling.registry.poller.interest operation channel.fd
    channel.events
  (polling.registry.update operation name).map fun registry =>
    { polling with
      registry := registry
      pointers :=
        if accepted.isSome then setPointer polling.pointers operation channel.fd name
        else polling.pointers }

/-- `Set_Index`. -/
def setIndex (polling : Polling Name) (name : Name) (index : Index) : Polling Name :=
  { polling with registry := polling.registry.setIndex name index }

/-- `EPollPoller::updateChannel`. -/
def updateChannel (polling : Polling Name) (name : Name) : Except Fault (Polling Name) :=
  let channel := polling.registry.channels name
  match channel.index with
  | .kNew =>
      let mapped := { polling with
        registry := { polling.registry with
          channelmap := polling.registry.channelmap.insert channel.fd name } }
      (mapped.setIndex name .kAdded).update .EPOLL_CTL_ADD name
  | .kDeleted => (polling.setIndex name .kAdded).update .EPOLL_CTL_ADD name
  | .kAdded =>
      if channel.isNoneEvent then do
        let polling ← polling.update .EPOLL_CTL_DEL name
        pure (polling.setIndex name .kDeleted)
      else polling.update .EPOLL_CTL_MOD name

/-- `EPollPoller::removeChannel`. -/
def removeChannel (polling : Polling Name) (name : Name) : Except Fault (Polling Name) := do
  let channel := polling.registry.channels name
  let erased := { polling with
    registry := { polling.registry with
      channelmap := polling.registry.channelmap.erase channel.fd } }
  let polling ← (if channel.index = .kAdded then erased.update .EPOLL_CTL_DEL name
    else .ok erased)
  pure (polling.setIndex name .kNew)

/-- Change the events that a channel asks for, and update it. -/
def updateWith (polling : Polling Name) (name : Name) (channel : Channel) :
    Except Fault (Polling Name) :=
  { polling with registry := polling.registry.setChannel name channel }.updateChannel name

/-- Make a call on a channel. -/
def makeCall (polling : Polling Name) (name : Name) (call : ChannelCall) :
    Except Fault (Polling Name) :=
  let channel := polling.registry.channels name
  match call with
  | .EnableReading => polling.updateWith name channel.enableReading
  | .DisableReading => polling.updateWith name channel.disableReading
  | .EnableWriting => polling.updateWith name channel.enableWriting
  | .DisableWriting => polling.updateWith name channel.disableWriting
  | .DisableAll => polling.updateWith name channel.disableAll
  | .remove => polling.removeChannel name

/-- One turn of the loop of `fillActiveChannel`: `SetRevents` through the pointer, and
`push_back`. -/
def activate (polling : Polling Name) (event : EpollEvent Name) : Except Fault (Polling Name) :=
  match event.ptr with
  | none => .error .nullDereference
  | some name => .ok { polling with
      revents := fun other => if other = name then event.events else polling.revents other
      activeChannels := polling.activeChannels ++ [name] }

/-- `fillActiveChannel`. -/
def fillActiveChannel (polling : Polling Name) (numEvents : Nat) : Except Fault (Polling Name) :=
  (polling.events.take numEvents).foldlM activate polling

omit [DecidableEq Name] in
/-- `epoll_wait`: of what is ready, as much as there is room for goes to the front of the vector,
each with its pointer.  The result comes with the number of these. -/
def epollWait (polling : Polling Name) (ready : List (Fd × Events)) : Nat × Polling Name :=
  let stored := (ready.take polling.events.length).map fun entry =>
    (⟨entry.2, polling.pointers.find? entry.1⟩ : EpollEvent Name)
  (stored.length, { polling with events := stored ++ polling.events.drop stored.length })

omit [DecidableEq Name] in
/-- The vector is resized to twice its size if the events have filled it. -/
def enlarge (polling : Polling Name) (numEvents : Nat) : Polling Name :=
  if numEvents = polling.events.length then
    { polling with events := polling.events ++ List.replicate polling.events.length ⟨0, none⟩ }
  else polling

/-- `poll`, into the list that the loop has cleared. -/
def poll (polling : Polling Name) (answer : Option (List (Fd × Events))) :
    Except Fault (Polling Name) :=
  let cleared := { polling with activeChannels := [] }
  match answer with
  | none => .ok cleared
  | some ready => do
      let (numEvents, waited) := cleared.epollWait ready
      if 0 < numEvents then do
        let filled ← waited.fillActiveChannel numEvents
        pure (filled.enlarge numEvents)
      else pure waited

/-- What the thread of the loop does next. -/
def step (polling : Polling Name) : PollerEvent Name → Except Fault (Polling Name)
  | .call name call => polling.makeCall name call
  | .poll answer => polling.poll answer

omit [DecidableEq Name] in
/-- What the kernel may report: descriptors that are registered, each once, with events that they
are registered for, or an error or a hangup, which are reported always. -/
structure Reports (polling : Polling Name) (ready : List (Fd × Events)) : Prop where
  once : (ready.map Prod.fst).Nodup
  asked : ∀ fd events, (fd, events) ∈ ready →
    ∃ mask, polling.registry.poller.interest.find? fd = some mask ∧
      events &&& ~~~(mask ||| EPOLLERR ||| EPOLLHUP) = 0

/-! ### The vector -/

omit [DecidableEq Name] in
@[simp] theorem numEvents_epollWait (polling : Polling Name) (ready : List (Fd × Events)) :
    (polling.epollWait ready).1 = min polling.events.length ready.length := by
  simp [epollWait]

omit [DecidableEq Name] in
@[simp] theorem length_epollWait (polling : Polling Name) (ready : List (Fd × Events)) :
    (polling.epollWait ready).2.events.length = polling.events.length := by
  simp only [epollWait, List.length_append, List.length_map, List.length_take, List.length_drop]
  omega

omit [DecidableEq Name] in
theorem take_epollWait (polling : Polling Name) (ready : List (Fd × Events)) :
    (polling.epollWait ready).2.events.take (polling.epollWait ready).1 =
      (ready.take polling.events.length).map fun entry =>
        ⟨entry.2, polling.pointers.find? entry.1⟩ :=
  List.take_left

omit [DecidableEq Name] in
/-- Only the vector changes. -/
theorem enlarge_fields (polling : Polling Name) (numEvents : Nat) :
    (polling.enlarge numEvents).registry = polling.registry ∧
      (polling.enlarge numEvents).pointers = polling.pointers ∧
      (polling.enlarge numEvents).revents = polling.revents ∧
      (polling.enlarge numEvents).activeChannels = polling.activeChannels := by
  unfold enlarge
  split <;> exact ⟨rfl, rfl, rfl, rfl⟩

omit [DecidableEq Name] in
theorem length_enlarge (polling : Polling Name) (numEvents : Nat) :
    (polling.enlarge numEvents).events.length =
      if numEvents = polling.events.length then 2 * polling.events.length
      else polling.events.length := by
  unfold enlarge
  split
  · simp only [List.length_append, List.length_replicate]
    omega
  · rfl

/-! ### The registrations -/

omit [DecidableEq Name] in
theorem registry_update (polling : Polling Name) (operation : EpollOperation) (name : Name) :
    (polling.update operation name).map registry = polling.registry.update operation name := by
  unfold update
  cases polling.registry.update operation name <;> rfl

/-- On the registrations, `updateChannel` is that of `Registry`. -/
theorem registry_updateChannel (polling : Polling Name) (name : Name) :
    (polling.updateChannel name).map registry = polling.registry.updateChannel name := by
  unfold updateChannel Registry.updateChannel
  cases indexEq : (polling.registry.channels name).index with
  | kNew | kDeleted =>
      simp only [indexEq]
      exact registry_update _ _ _
  | kAdded =>
      simp only [indexEq]
      split
      · rw [← registry_update]
        cases polling.update .EPOLL_CTL_DEL name <;> rfl
      · exact registry_update _ _ _

/-- On the registrations, `removeChannel` is that of `Registry`. -/
theorem registry_removeChannel (polling : Polling Name) (name : Name) :
    (polling.removeChannel name).map registry = polling.registry.removeChannel name := by
  unfold removeChannel Registry.removeChannel
  by_cases added : (polling.registry.channels name).index = .kAdded
  · simp only [if_pos added]
    rw [← registry_update { polling with registry := { polling.registry with
      channelmap := polling.registry.channelmap.erase (polling.registry.channels name).fd } }]
    cases update _ _ name <;> rfl
  · simp only [if_neg added]
    rfl

/-- On the registrations, a call is that of `Registry`. -/
theorem registry_makeCall (polling : Polling Name) (name : Name) (call : ChannelCall) :
    (polling.makeCall name call).map registry = polling.registry.step (name, call) := by
  cases call with
  | remove => exact registry_removeChannel polling name
  | EnableReading | DisableReading | EnableWriting | DisableWriting | DisableAll =>
      exact registry_updateChannel _ name

end Polling

end GomukuServer.MyMuduo
