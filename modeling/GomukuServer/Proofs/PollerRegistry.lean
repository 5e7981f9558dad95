/-
Module: GomukuServer.Proofs.PollerRegistry
Layer: Proofs
Purpose: The three copies of a registration agree.  Whatever is called on whatever channels, the
  kernel watches the channels whose index says so, for the events they ask for, the poller's map has
  the channels that are not new, and the kernel refuses nothing.
Trusted boundary: none
Main exports: InStep, Mirrors, Updated, mirrors_updateChannel, mirrors_removeChannel, poller_inStep
-/
import GomukuServer.Base.Runs
import GomukuServer.MyMuduo.Registry

namespace GomukuServer.Proofs.PollerRegistry

open Base Base.Runs MyMuduo MyMuduo.Registry

/-- The index of a channel, the kernel's interest list and the poller's map tell the same, and no
call of `epoll_ctl` has been refused. -/
structure InStep {Name : Type} (registry : Registry Name) : Prop where
  added : ∀ name, (registry.channels name).index = .kAdded ↔
    (registry.poller.interest.find? (registry.channels name).fd).isSome
  mask : ∀ name mask, registry.poller.interest.find? (registry.channels name).fd = some mask →
    mask = (registry.channels name).events
  mapped : ∀ name, registry.channelmap.find? (registry.channels name).fd = some name ↔
    (registry.channels name).index ≠ .kNew
  accepted : registry.refused = []

/-- What the kernel and the map hold for each descriptor is what the channel on it says. -/
structure Mirrors {Name : Type} (fd : Name → Fd) (registry : Registry Name) : Prop where
  fds : ∀ name, (registry.channels name).fd = fd name
  interest : ∀ name, registry.poller.interest.find? (fd name) =
    if (registry.channels name).index = .kAdded then some (registry.channels name).events else none
  channelmap : ∀ name, registry.channelmap.find? (fd name) =
    if (registry.channels name).index = .kNew then none else some name
  accepted : registry.refused = []

variable {Name : Type} {fd : Name → Fd} {registry : Registry Name}

theorem Mirrors.inStep (mirrors : Mirrors fd registry) : InStep registry where
  added := by
    intro name
    rw [mirrors.fds, mirrors.interest]
    split <;> simp [*]
  mask := by
    intro name mask found
    rw [mirrors.fds, mirrors.interest] at found
    split at found
    · exact (Option.some.inj found).symm
    · simp at found
  mapped := by
    intro name
    rw [mirrors.fds, mirrors.channelmap]
    split <;> simp [*]
  accepted := mirrors.accepted

/-- At first there are no registrations. -/
theorem mirrors_new (fd : Name → Fd) : Mirrors fd (Registry.new fd) where
  fds := fun _ => rfl
  interest := fun _ => rfl
  channelmap := fun _ => rfl
  accepted := rfl

variable [DecidableEq Name]

/-- A new entry of a map from descriptors is seen by the one channel on the descriptor. -/
theorem find?_insert_fd {Value : Type} (distinct : Function.Injective fd) (map : PMap Fd Value)
    (name other : Name) (value : Value) :
    (map.insert (fd name) value).find? (fd other) =
      if other = name then some value else map.find? (fd other) := by
  by_cases same : other = name
  · simp [same]
  · simp [same, distinct.ne same]

/-- The same for a removed entry. -/
theorem find?_erase_fd {Value : Type} (distinct : Function.Injective fd) (map : PMap Fd Value)
    (name other : Name) :
    (map.erase (fd name)).find? (fd other) =
      if other = name then none else map.find? (fd other) := by
  by_cases same : other = name
  · simp [same]
  · simp [same, distinct.ne same]

/-- A map that is not changed. -/
theorem find?_of_unchanged {Value : Type} {map : PMap Fd Value} {name : Name} {value : Option Value}
    (there : map.find? (fd name) = value) (other : Name) :
    map.find? (fd other) = if other = name then value else map.find? (fd other) := by
  split
  · rename_i same
    rw [same, there]
  · rfl

/-- When a channel and its entries in the kernel and the map change together, the copies still
agree. -/
theorem mirrors_set (mirrors : Mirrors fd registry) (name : Name) (channel : Channel)
    {next : Registry Name} (onFd : channel.fd = fd name)
    (channels : ∀ other, next.channels other =
      if other = name then channel else registry.channels other)
    (interest : ∀ other, next.poller.interest.find? (fd other) =
      if other = name then (if channel.index = .kAdded then some channel.events else none)
      else registry.poller.interest.find? (fd other))
    (channelmap : ∀ other, next.channelmap.find? (fd other) =
      if other = name then (if channel.index = .kNew then none else some name)
      else registry.channelmap.find? (fd other))
    (refused : next.refused = registry.refused) : Mirrors fd next where
  fds := by
    intro other
    rw [channels]
    split
    · rename_i same
      rw [onFd, same]
    · exact mirrors.fds other
  interest := by
    intro other
    rw [interest, channels]
    split
    · rfl
    · exact mirrors.interest other
  channelmap := by
    intro other
    rw [channelmap, channels]
    split
    · rename_i same
      rw [same]
    · exact mirrors.channelmap other
  accepted := refused.trans mirrors.accepted

/-- A channel has been updated with new events.  If there are any, it has been added. -/
structure Updated (registry : Registry Name) (name : Name) (events : Events)
    (next : Registry Name) : Prop where
  asks : (next.channels name).events = events
  added : events ≠ kNoneEvent → (next.channels name).index = .kAdded
  others : ∀ other, other ≠ name → next.channels other = registry.channels other

theorem updated_of_channels {name : Name} {changed : Channel} {index : Index}
    {next : Registry Name} (added : changed.events ≠ kNoneEvent → index = .kAdded)
    (channels : ∀ other, next.channels other =
      if other = name then { changed with index := index } else registry.channels other) :
    Updated registry name changed.events next where
  asks := by rw [channels, if_pos rfl]
  added := by rwa [channels, if_pos rfl]
  others other away := by rw [channels, if_neg away]

/-- Updating a channel whose events have changed succeeds, and the copies agree on the new
events. -/
theorem mirrors_updateChannel (distinct : Function.Injective fd) (mirrors : Mirrors fd registry)
    (name : Name) {changed : Channel} (onFd : changed.fd = fd name)
    (sameIndex : changed.index = (registry.channels name).index) :
    ∃ next, (registry.setChannel name changed).updateChannel name = .ok next ∧
      Mirrors fd next ∧ Updated registry name changed.events next := by
  have interest := mirrors.interest name
  have channelmap := mirrors.channelmap name
  unfold updateChannel
  rw [← sameIndex] at interest channelmap
  cases indexEq : changed.index with
  | kNew =>
      -- the map and the kernel get the channel
      simp only [indexEq, reduceCtorEq, if_false] at interest
      simp only [channels_setChannel, if_true, indexEq, onFd]
      let prepared := ({ registry.setChannel name changed with
        channelmap := registry.channelmap.insert (fd name) name }).setIndex name .kAdded
      have accepted : EPollPoller.epollCtl prepared.poller.interest .EPOLL_CTL_ADD
          (prepared.channels name).fd (prepared.channels name).events =
            some (registry.poller.interest.insert (fd name) changed.events) := by
        simp [prepared, setIndex, EPollPoller.epollCtl, onFd, interest]
      have channels := channels_setIndex_setChannel registry name changed .kAdded
      refine ⟨_, update_of_accepted accepted,
        mirrors_set mirrors name { changed with index := .kAdded } onFd channels ?_ ?_ rfl,
        updated_of_channels (fun _ => rfl) channels⟩
      · exact fun other => find?_insert_fd distinct registry.poller.interest name other _
      · exact fun other => find?_insert_fd distinct registry.channelmap name other name
  | kDeleted =>
      -- the map has it already
      simp only [indexEq, reduceCtorEq, if_false] at interest channelmap
      simp only [channels_setChannel, if_true, indexEq]
      let prepared := (registry.setChannel name changed).setIndex name .kAdded
      have accepted : EPollPoller.epollCtl prepared.poller.interest .EPOLL_CTL_ADD
          (prepared.channels name).fd (prepared.channels name).events =
            some (registry.poller.interest.insert (fd name) changed.events) := by
        simp [prepared, setIndex, EPollPoller.epollCtl, onFd, interest]
      have channels := channels_setIndex_setChannel registry name changed .kAdded
      refine ⟨_, update_of_accepted accepted,
        mirrors_set mirrors name { changed with index := .kAdded } onFd channels ?_ ?_ rfl,
        updated_of_channels (fun _ => rfl) channels⟩
      · exact fun other => find?_insert_fd distinct registry.poller.interest name other _
      · exact find?_of_unchanged channelmap
  | kAdded =>
      simp only [indexEq, reduceCtorEq, if_false, if_true] at interest channelmap
      simp only [channels_setChannel, if_true, indexEq]
      let prepared := registry.setChannel name changed
      split
      · rename_i silent
        have accepted : EPollPoller.epollCtl prepared.poller.interest .EPOLL_CTL_DEL
            (prepared.channels name).fd (prepared.channels name).events =
              some (registry.poller.interest.erase (fd name)) := by
          simp [prepared, EPollPoller.epollCtl, onFd, interest]
        have channels := channels_setIndex_setChannel registry name changed .kDeleted
        refine ⟨_, bind_eq_ok.mpr ⟨_, update_of_accepted accepted, rfl⟩,
          mirrors_set mirrors name { changed with index := .kDeleted } onFd channels ?_ ?_ rfl,
          updated_of_channels (fun some => absurd (by simpa [Channel.isNoneEvent] using silent) some)
            channels⟩
        · exact find?_erase_fd distinct registry.poller.interest name
        · exact find?_of_unchanged channelmap
      · have accepted : EPollPoller.epollCtl prepared.poller.interest .EPOLL_CTL_MOD
            (prepared.channels name).fd (prepared.channels name).events =
              some (registry.poller.interest.insert (fd name) changed.events) := by
          simp [prepared, EPollPoller.epollCtl, onFd, interest]
        have channels (other : Name) : prepared.channels other =
            if other = name then { changed with index := .kAdded } else registry.channels other := by
          rw [← indexEq]
          rfl
        refine ⟨_, update_of_accepted accepted,
          mirrors_set mirrors name changed onFd (fun _ => rfl) ?_ ?_ rfl,
          updated_of_channels (fun _ => rfl) channels⟩
        · rw [if_pos indexEq]
          exact fun other => find?_insert_fd distinct registry.poller.interest name other _
        · simp only [indexEq, reduceCtorEq, if_false]
          exact find?_of_unchanged channelmap

/-- Removing a channel succeeds, and the copies forget it. -/
theorem mirrors_removeChannel (distinct : Function.Injective fd) (mirrors : Mirrors fd registry)
    (name : Name) : ∃ next, registry.removeChannel name = .ok next ∧ Mirrors fd next := by
  have onFd := mirrors.fds name
  have interest := mirrors.interest name
  let erased := { registry with channelmap := registry.channelmap.erase (fd name) }
  have forgotten (interest' : PMap Fd Events)
      (gone : ∀ other, interest'.find? (fd other) =
        if other = name then none else registry.poller.interest.find? (fd other)) :
      Mirrors fd ({ erased with poller := ⟨interest'⟩ }.setIndex name .kNew) :=
    mirrors_set mirrors name { registry.channels name with index := .kNew } onFd
      (fun _ => rfl) gone (find?_erase_fd distinct registry.channelmap name) rfl
  unfold removeChannel
  by_cases added : (registry.channels name).index = .kAdded
  · rw [if_pos added] at interest
    have accepted : EPollPoller.epollCtl erased.poller.interest .EPOLL_CTL_DEL
        (erased.channels name).fd (erased.channels name).events =
          some (registry.poller.interest.erase (fd name)) := by
      simp [erased, EPollPoller.epollCtl, onFd, interest]
    refine ⟨_, ?_, forgotten (registry.poller.interest.erase (fd name))
      (find?_erase_fd distinct registry.poller.interest name)⟩
    simp only [onFd, if_pos added]
    exact bind_eq_ok.mpr ⟨_, update_of_accepted accepted, rfl⟩
  · rw [if_neg added] at interest
    refine ⟨_, ?_, forgotten registry.poller.interest (find?_of_unchanged interest)⟩
    simp only [onFd, if_neg added]
    rfl

/-- Every call succeeds, and the copies still agree. -/
theorem mirrors_step (distinct : Function.Injective fd) (registry : Registry Name)
    (call : Name × ChannelCall) (mirrors : Mirrors fd registry) :
    ∃ next, step registry call = .ok next ∧ Mirrors fd next := by
  obtain ⟨name, call⟩ := call
  have updates {changed : Channel} (onFd : changed.fd = fd name)
      (sameIndex : changed.index = (registry.channels name).index) :
      ∃ next, (registry.setChannel name changed).updateChannel name = .ok next ∧
        Mirrors fd next := by
    obtain ⟨next, updated, mirrorsNext, _⟩ :=
      mirrors_updateChannel distinct mirrors name onFd sameIndex
    exact ⟨next, updated, mirrorsNext⟩
  cases call with
  | remove => exact mirrors_removeChannel distinct mirrors name
  | EnableReading | DisableReading | EnableWriting | DisableWriting | DisableAll =>
      exact updates (mirrors.fds name) rfl

/-- For all channels on distinct descriptors of a loop and every sequence of their six calls: every
call succeeds, so the process does not exit, and after each one the index of a channel, the
kernel's interest list and the poller's map tell the same, and the kernel has refused nothing. -/
theorem poller_inStep (distinct : Function.Injective fd)
    (calls : List (Name × ChannelCall)) : Throughout step InStep (Registry.new fd) calls :=
  throughout_of_inv (fun registry call mirrors _ => mirrors_step distinct registry call mirrors)
    (fun _ => Mirrors.inStep) (mirrors_new fd) calls
    (admissible_of_forall (fun _ _ => trivial) _ calls)

/-- Two channels, one of which is silenced, asks again and is removed, and then asks once more. -/
def twoChannels : List (Bool × ChannelCall) :=
  [(true, .EnableReading), (false, .EnableWriting), (true, .DisableAll), (true, .EnableReading),
    (true, .remove), (false, .DisableWriting), (true, .EnableWriting)]

/-- The copies agree all the time. -/
theorem poller_inStep_twoChannels :
    Throughout step InStep (Registry.new fun name => if name then 4 else 5) twoChannels :=
  poller_inStep (fun first second same => by
    cases first <;> cases second <;> simp_all) twoChannels

end GomukuServer.Proofs.PollerRegistry
