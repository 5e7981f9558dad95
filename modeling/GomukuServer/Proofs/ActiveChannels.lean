/-
Module: GomukuServer.Proofs.ActiveChannels
Layer: Proofs
Purpose: What the kernel reports reaches the channels.  After every run of calls and polls, a poll
  makes active exactly the channels of the reported descriptors, each with its own events; each of
  them is registered.  Since the vector for the reports is doubled when it is full, there are only
  logarithmically many polls that leave out something that is ready.
Trusted boundary: none
Main exports: Points, Polled, poll_ok, poll_reports, leavesOut_le
-/
import Mathlib.Data.List.Nodup
import GomukuServer.Base.Runs
import GomukuServer.MyMuduo.Polling
import GomukuServer.Proofs.PollerRegistry

namespace GomukuServer.Proofs.ActiveChannels

open Base Base.Runs MyMuduo MyMuduo.Polling
open Proofs.PollerRegistry (Mirrors mirrors_new mirrors_step mirrors_updateChannel)

/-- The kernel has a pointer for each descriptor it watches, and it leads to a channel on that
descriptor. -/
structure Points {Name : Type} (polling : Polling Name) : Prop where
  watched : ∀ fd, (polling.pointers.find? fd).isSome =
    (polling.registry.poller.interest.find? fd).isSome
  own : ∀ fd name, polling.pointers.find? fd = some name →
    (polling.registry.channels name).fd = fd

/-- What no call changes, and the pointers. -/
structure Keeps {Name : Type} (polling next : Polling Name) : Prop where
  events : next.events = polling.events
  points : Points polling → Points next

/-- What a poll has done with the report. -/
structure Polled {Name : Type} (fd : Name → Fd) (polling : Polling Name)
    (ready : List (Fd × Events)) (next : Polling Name) : Prop where
  active : next.activeChannels.map (fun name => (fd name, next.revents name)) =
    ready.take polling.events.length
  once : next.activeChannels.Nodup
  registered : ∀ name ∈ next.activeChannels,
    (next.registry.channels name).index = .kAdded ∧ next.HasPoller name
  asked : ∀ name ∈ next.activeChannels, next.revents name &&&
    ~~~((next.registry.channels name).events ||| EPOLLERR ||| EPOLLHUP) = 0
  others : ∀ name, name ∉ next.activeChannels → next.revents name = polling.revents name
  registry : next.registry = polling.registry

variable {Name : Type} {fd : Name → Fd} {polling next : Polling Name}

namespace Keeps

theorem refl (polling : Polling Name) : Keeps polling polling := ⟨rfl, id⟩

theorem trans {middle last : Polling Name} (first : Keeps polling middle)
    (second : Keeps middle last) : Keeps polling last :=
  ⟨second.events.trans first.events, second.points ∘ first.points⟩

/-- The pointers do not depend on the map, on indexes or on what a channel asks for. -/
theorem of_registry {registry : Registry Name}
    (poller : registry.poller = polling.registry.poller)
    (fds : ∀ name, (registry.channels name).fd = (polling.registry.channels name).fd) :
    Keeps polling { polling with registry := registry } where
  events := rfl
  points := fun points =>
    ⟨fun fd => poller ▸ points.watched fd,
      fun fd name found => (fds name).trans (points.own fd name found)⟩

end Keeps

/-- What the kernel does with a call that it accepts. -/
theorem epollCtl_eq_some {interest changed : PMap Fd Events} {operation : EpollOperation}
    {fd : Fd} {events : Events}
    (accepted : EPollPoller.epollCtl interest operation fd events = some changed) :
    (operation ≠ .EPOLL_CTL_DEL ∧ changed = interest.insert fd events) ∨
      (operation = .EPOLL_CTL_DEL ∧ changed = interest.erase fd) := by
  unfold EPollPoller.epollCtl at accepted
  split at accepted <;> simp_all

/-- A call of `epoll_ctl` keeps the pointers beside the events. -/
theorem keeps_update {operation : EpollOperation} {name : Name}
    (called : polling.update operation name = .ok next) : Keeps polling next := by
  unfold Polling.update at called
  obtain ⟨registry, updated, rfl⟩ := map_eq_ok.mp called
  obtain ⟨poller, given, rfl⟩ := map_eq_ok.mp updated
  refine ⟨rfl, fun points => ?_⟩
  unfold EPollPoller.update at given
  split at given
  · rename_i changed accepted
    obtain rfl := Except.ok.inj given
    simp only [accepted, Option.isSome_some, if_true]
    rcases epollCtl_eq_some accepted with ⟨inserts, rfl⟩ | ⟨rfl, rfl⟩
    · have inserted : setPointer polling.pointers operation (polling.registry.channels name).fd
          name = polling.pointers.insert (polling.registry.channels name).fd name := by
        cases operation with
        | EPOLL_CTL_ADD | EPOLL_CTL_MOD => rfl
        | EPOLL_CTL_DEL => exact absurd rfl inserts
      rw [inserted]
      refine ⟨fun fd => ?_, fun fd other found => ?_⟩
      · simp only [PMap.find?_insert]
        split
        · rfl
        · exact points.watched fd
      · simp only [PMap.find?_insert] at found
        split at found
        · rename_i same
          obtain rfl := Option.some.inj found
          exact same.symm
        · exact points.own fd other found
    · simp only [setPointer]
      refine ⟨fun fd => ?_, fun fd other found => ?_⟩
      · simp only [PMap.find?_erase]
        split
        · rfl
        · exact points.watched fd
      · simp only [PMap.find?_erase] at found
        split at found
        · cases found
        · exact points.own fd other found
  · rename_i refused
    split at given
    · obtain rfl := Except.ok.inj given
      simp only [refused, Option.isSome_none, if_false, Bool.false_eq_true]
      exact ⟨points.watched, points.own⟩
    · cases given

variable [DecidableEq Name]

theorem keeps_setIndex (polling : Polling Name) (name : Name) (index : Index) :
    Keeps polling (polling.setIndex name index) := by
  refine Keeps.of_registry rfl fun other => ?_
  simp only [Registry.setIndex, Registry.channels_setChannel]
  split
  · rename_i same
    rw [same]
  · rfl

theorem keeps_updateChannel {name : Name} (called : polling.updateChannel name = .ok next) :
    Keeps polling next := by
  unfold Polling.updateChannel at called
  cases indexEq : (polling.registry.channels name).index with
  | kNew =>
      simp only [indexEq] at called
      refine Keeps.trans ?_ (keeps_update called)
      refine Keeps.trans ?_ (keeps_setIndex _ name .kAdded)
      exact Keeps.of_registry rfl fun _ => rfl
  | kDeleted =>
      simp only [indexEq] at called
      exact (keeps_setIndex polling name .kAdded).trans (keeps_update called)
  | kAdded =>
      simp only [indexEq] at called
      split at called
      · obtain ⟨middle, updated, ended⟩ := bind_eq_ok.mp called
        obtain rfl := Except.ok.inj ended
        exact (keeps_update updated).trans (keeps_setIndex middle name .kDeleted)
      · exact keeps_update called

theorem keeps_removeChannel {name : Name} (called : polling.removeChannel name = .ok next) :
    Keeps polling next := by
  obtain ⟨middle, updated, ended⟩ := bind_eq_ok.mp called
  obtain rfl := Except.ok.inj ended
  refine Keeps.trans ?_ (keeps_setIndex middle name .kNew)
  split at updated
  · refine Keeps.trans ?_ (keeps_update updated)
    exact Keeps.of_registry rfl fun _ => rfl
  · obtain rfl := Except.ok.inj updated
    exact Keeps.of_registry rfl fun _ => rfl

theorem keeps_updateWith {name : Name} {channel : Channel}
    (sameFd : channel.fd = (polling.registry.channels name).fd)
    (called : polling.updateWith name channel = .ok next) : Keeps polling next := by
  unfold Polling.updateWith at called
  refine Keeps.trans ?_ (keeps_updateChannel called)
  refine Keeps.of_registry rfl fun other => ?_
  rw [Registry.channels_setChannel]
  split
  · rename_i same
    rw [same, sameFd]
  · rfl

theorem keeps_makeCall {name : Name} {call : ChannelCall}
    (called : polling.makeCall name call = .ok next) : Keeps polling next := by
  cases call with
  | remove => exact keeps_removeChannel called
  | EnableReading | DisableReading | EnableWriting | DisableWriting | DisableAll =>
      unfold Polling.makeCall at called
      exact keeps_updateWith (by rfl) called

/-! ### Runs -/

/-- The copies of the registrations agree, and there is room for reports. -/
structure Good (fd : Name → Fd) (polling : Polling Name) : Prop where
  mirrors : Mirrors fd polling.registry
  points : Points polling
  room : 0 < polling.events.length

omit [DecidableEq Name] in
theorem good_new (fd : Name → Fd) : Good fd (Polling.new fd) where
  mirrors := mirrors_new fd
  points := ⟨fun _ => rfl, fun _ _ found => by simp [Polling.new] at found⟩
  room := by simp [Polling.new, kInitEventListSize]

/-- Every call succeeds. -/
theorem Good.makeCall (distinct : Function.Injective fd) (good : Good fd polling) (name : Name)
    (call : ChannelCall) : ∃ next, polling.makeCall name call = .ok next ∧ Good fd next ∧
      next.events = polling.events := by
  obtain ⟨registry, stepped, mirrors⟩ :=
    mirrors_step distinct polling.registry (name, call) good.mirrors
  rw [← registry_makeCall] at stepped
  obtain ⟨next, called, rfl⟩ := map_eq_ok.mp stepped
  have keeps := keeps_makeCall called
  exact ⟨next, called, ⟨mirrors, keeps.points good.points, keeps.events ▸ good.room⟩, keeps.events⟩

omit [DecidableEq Name] in
/-- A reported descriptor is that of a registered channel, and the pointer leads to it. -/
theorem Good.reported (good : Good fd polling) {ready : List (Fd × Events)}
    (reports : Reports polling ready) {entry : Fd × Events} (here : entry ∈ ready) :
    ∃ name, polling.pointers.find? entry.1 = some name ∧ fd name = entry.1 := by
  obtain ⟨mask, watched, _⟩ := reports.asked entry.1 entry.2 here
  have pointed := good.points.watched entry.1
  rw [watched] at pointed
  obtain ⟨name, found⟩ := Option.isSome_iff_exists.mp pointed
  exact ⟨name, found, (good.mirrors.fds name).symm.trans (good.points.own entry.1 name found)⟩

/-- The loop of `fillActiveChannel`, over reports whose pointers lead to the channels on the
descriptors. -/
theorem foldlM_activate {pointers : PMap Fd Name} (entries : List (Fd × Events))
    (named : ∀ entry ∈ entries, ∃ name, pointers.find? entry.1 = some name ∧ fd name = entry.1)
    (polling : Polling Name)
    (once : (polling.activeChannels.map fd ++ entries.map Prod.fst).Nodup) :
    ∃ revents names,
      (entries.map fun entry => (⟨entry.2, pointers.find? entry.1⟩ : EpollEvent Name)).foldlM
        activate polling =
          .ok { polling with
            revents := revents
            activeChannels := polling.activeChannels ++ names } ∧
      names.map (fun name => (fd name, revents name)) = entries ∧
      ∀ name, name ∉ names → revents name = polling.revents name := by
  induction entries generalizing polling with
  | nil => exact ⟨polling.revents, [], by simp, rfl, fun _ _ => rfl⟩
  | cons entry entries inductionHypothesis =>
      obtain ⟨name, found, onFd⟩ := named entry (List.mem_cons_self ..)
      let middle : Polling Name := { polling with
        revents := fun other => if other = name then entry.2 else polling.revents other
        activeChannels := polling.activeChannels ++ [name] }
      have onceMiddle : (middle.activeChannels.map fd ++ entries.map Prod.fst).Nodup := by
        simpa [middle, onFd] using once
      obtain ⟨revents, names, filled, reported, others⟩ := inductionHypothesis
        (fun other later => named other (List.mem_cons_of_mem _ later)) middle onceMiddle
      have fresh : name ∉ names := by
        intro later
        have again : fd name ∈ entries.map Prod.fst := by
          rw [← reported, List.map_map]
          exact List.mem_map_of_mem later
        have before : fd name ∈ middle.activeChannels.map fd := by simp [middle]
        exact (List.nodup_append.mp onceMiddle).2.2 _ before _ again rfl
      refine ⟨revents, name :: names, ?_, ?_, fun other away => ?_⟩
      · rw [List.map_cons, List.foldlM_cons, activate]
        simp only [found, ok_bind]
        rw [filled]
        simp [middle]
      · rw [List.map_cons, reported, others name fresh]
        simp [middle, onFd]
      · have apart := List.ne_of_not_mem_cons away
        rw [others other (List.not_mem_of_not_mem_cons away)]
        simp [middle, apart]

omit [DecidableEq Name] in
/-- Channels that carry the report are the ones the kernel means. -/
theorem Good.polled (good : Good fd polling) {ready : List (Fd × Events)}
    (reports : Reports polling ready)
    (active : next.activeChannels.map (fun name => (fd name, next.revents name)) =
      ready.take polling.events.length)
    (others : ∀ name, name ∉ next.activeChannels → next.revents name = polling.revents name)
    (registry : next.registry = polling.registry) : Polled fd polling ready next := by
  have watched : ∀ name ∈ next.activeChannels, ∃ mask,
      polling.registry.poller.interest.find? (fd name) = some mask ∧
        next.revents name &&& ~~~(mask ||| EPOLLERR ||| EPOLLHUP) = 0 := by
    intro name here
    have reported : (fd name, next.revents name) ∈ ready.take polling.events.length :=
      active ▸ List.mem_map_of_mem here
    exact reports.asked _ _ (List.mem_of_mem_take reported)
  refine ⟨active, ?_, fun name here => ?_, fun name here => ?_, others, registry⟩
  · have fds : next.activeChannels.map fd = (ready.map Prod.fst).take polling.events.length := by
      rw [← List.map_take, ← active, List.map_map]
      rfl
    have once : (next.activeChannels.map fd).Nodup :=
      fds ▸ reports.once.sublist (List.take_sublist ..)
    exact List.Nodup.of_map fd once
  · obtain ⟨mask, found, _⟩ := watched name here
    have interest := good.mirrors.interest name
    rw [found] at interest
    split at interest
    · rename_i added
      have mapped := good.mirrors.channelmap name
      rw [if_neg (by simp [added])] at mapped
      rw [HasPoller, registry, good.mirrors.fds]
      exact ⟨added, mapped⟩
    · cases interest
  · obtain ⟨mask, found, asked⟩ := watched name here
    have interest := good.mirrors.interest name
    rw [found] at interest
    split at interest
    · obtain rfl := Option.some.inj interest
      rw [registry]
      exact asked
    · cases interest

/-- What has been reported can be handed to the channels. -/
theorem Good.fillActiveChannel (good : Good fd polling) {ready : List (Fd × Events)}
    (reports : Reports polling ready) :
    ∃ revents names,
      ({ polling with activeChannels := [] }.epollWait ready).2.fillActiveChannel
        ({ polling with activeChannels := [] }.epollWait ready).1 =
          .ok { ({ polling with activeChannels := [] }.epollWait ready).2 with
            revents := revents, activeChannels := names } ∧
      names.map (fun name => (fd name, revents name)) = ready.take polling.events.length ∧
      ∀ name, name ∉ names → revents name = polling.revents name := by
  rw [Polling.fillActiveChannel, take_epollWait]
  refine foldlM_activate (ready.take polling.events.length) (fun entry here => ?_) _ ?_
  · exact good.reported reports (List.mem_of_mem_take here)
  · simp only [epollWait, List.map_take, List.map_nil, List.nil_append]
    exact reports.once.sublist (List.take_sublist ..)

/-- A poll succeeds and makes the reported channels active. -/
theorem Good.poll (good : Good fd polling) {ready : List (Fd × Events)}
    (reports : Reports polling ready) : ∃ next, polling.poll (some ready) = .ok next ∧
      Good fd next ∧ Polled fd polling ready next ∧
      next.events.length = if polling.events.length ≤ ready.length then
        2 * polling.events.length else polling.events.length := by
  have room := good.room
  obtain ⟨revents, names, filled, reported, others⟩ := good.fillActiveChannel reports
  let waited := ({ polling with activeChannels := [] }.epollWait ready).2
  let numEvents := ({ polling with activeChannels := [] }.epollWait ready).1
  have stored : numEvents = min polling.events.length ready.length :=
    numEvents_epollWait { polling with activeChannels := [] } ready
  have size : waited.events.length = polling.events.length :=
    length_epollWait { polling with activeChannels := [] } ready
  by_cases some : 0 < numEvents
  · let made : Polling Name := { waited with revents := revents, activeChannels := names }
    obtain ⟨registry, pointers, sameRevents, sameActive⟩ := enlarge_fields made numEvents
    have grown : (made.enlarge numEvents).events.length =
        if polling.events.length ≤ ready.length then 2 * polling.events.length
        else polling.events.length := by
      rw [length_enlarge, size]
      congr 1
      rw [eq_iff_iff]
      omega
    refine ⟨made.enlarge numEvents, ?_, ⟨?_, ⟨?_, ?_⟩, ?_⟩,
      good.polled reports ?_ ?_ registry, grown⟩
    · simp only [Polling.poll, numEvents] at some ⊢
      rw [if_pos some, filled]
      rfl
    · rw [registry]
      exact good.mirrors
    · rw [registry, pointers]
      exact good.points.watched
    · rw [registry, pointers]
      exact good.points.own
    · rw [grown]
      split <;> omega
    · rw [sameActive, sameRevents, reported]
    · rw [sameActive, sameRevents]
      exact others
  · have nothing : ready = [] := by
      apply List.length_eq_zero_iff.mp
      omega
    refine ⟨waited, ?_, ⟨good.mirrors, ⟨good.points.watched, good.points.own⟩, size ▸ room⟩,
      good.polled reports ?_ (fun _ _ => rfl) rfl, ?_⟩
    · simp only [Polling.poll, numEvents] at some ⊢
      rw [if_neg some]
      rfl
    · rw [nothing, List.take_nil]
      rfl
    · rw [size, if_neg]
      simp only [nothing, List.length_nil]
      omega

omit [DecidableEq Name] in
/-- What the kernel may answer in a state. -/
def KernelAllows (polling : Polling Name) (event : PollerEvent Name) : Prop :=
  ∀ ready, event = .poll (some ready) → Reports polling ready

omit [DecidableEq Name] in
/-- The size of the vector afterwards: it is doubled by the reports that fill it. -/
def sizeAfter (polling : Polling Name) : PollerEvent Name → Nat
  | .poll (some ready) =>
      if polling.events.length ≤ ready.length then 2 * polling.events.length
      else polling.events.length
  | _ => polling.events.length

/-- What the thread does next succeeds. -/
theorem Good.step (distinct : Function.Injective fd) (good : Good fd polling)
    {event : PollerEvent Name} (allowed : KernelAllows polling event) :
    ∃ next, polling.step event = .ok next ∧ Good fd next ∧
      next.events.length = sizeAfter polling event := by
  cases event with
  | call name call =>
      obtain ⟨next, called, goodNext, events⟩ := good.makeCall distinct name call
      exact ⟨next, called, goodNext, congrArg List.length events⟩
  | poll answer =>
      cases answer with
      | none =>
          exact ⟨_, rfl, ⟨good.mirrors, ⟨good.points.watched, good.points.own⟩, good.room⟩, rfl⟩
      | some ready =>
          obtain ⟨next, polled, goodNext, _, grown⟩ := good.poll (allowed ready rfl)
          exact ⟨next, polled, goodNext, grown⟩

/-- For all channels on distinct descriptors of a loop, every sequence of their calls and of polls
and whatever the kernel answers: everything succeeds, and the next poll makes active the channels of
the reported descriptors, as many as there is room for, each once and with its own events, which it
has asked for.  All of them are registered. -/
theorem poll_reports (distinct : Function.Injective fd) (events : List (PollerEvent Name))
    (allowed : Admissible Polling.step KernelAllows (Polling.new fd) events) :
    ∃ polling, run Polling.step (Polling.new fd) events = .ok polling ∧
      ∀ ready, Reports polling ready → ∃ next, polling.poll (some ready) = .ok next ∧
        Polled fd polling ready next := by
  obtain ⟨polling, reached, good⟩ := exists_run_of_inv
    (fun polling event good allowed => by
      obtain ⟨next, stepEq, goodNext, _⟩ := Good.step distinct good allowed
      exact ⟨next, stepEq, goodNext⟩) (good_new fd) events allowed
  refine ⟨polling, reached, fun ready reports => ?_⟩
  obtain ⟨next, polled, _, reported, _⟩ := good.poll reports
  exact ⟨next, polled, reported⟩

omit [DecidableEq Name] in
/-- A call does not wait for the kernel. -/
theorem kernelAllows_call (polling : Polling Name) (name : Name) (call : ChannelCall) :
    KernelAllows polling (.call name call) := by
  intro ready answered
  cases answered

omit [DecidableEq Name] in
/-- An answer that is allowed. -/
theorem kernelAllows_poll {ready : List (Fd × Events)} (reports : Reports polling ready) :
    KernelAllows polling (.poll (some ready)) := by
  intro other answered
  cases answered
  exact reports

/-- Two channels, one of which has something to read and is silenced after it. -/
def oneReady : List (PollerEvent Bool) :=
  [.call true .EnableReading, .call false .EnableReading, .poll (some [(4, EPOLLIN)]),
    .call true .DisableAll]

/-- The kernel may answer so. -/
theorem oneReady_allowed :
    Admissible Polling.step KernelAllows (Polling.new fun name => if name then 4 else 5)
      oneReady := by
  refine ⟨kernelAllows_call _ true _, fun first firstEq => ?_⟩
  obtain rfl := Except.ok.inj firstEq
  refine ⟨kernelAllows_call _ false _, fun second secondEq => ?_⟩
  obtain rfl := Except.ok.inj secondEq
  refine ⟨fun ready answered => ?_, fun _ _ => ⟨kernelAllows_call _ true _, fun _ _ => trivial⟩⟩
  cases answered
  refine ⟨by decide, fun fd events here => ?_⟩
  obtain ⟨rfl, rfl⟩ := Prod.mk.inj (List.mem_singleton.mp here)
  exact ⟨kReadEvent, rfl, by decide⟩

/-- After it the kernel watches the other channel, whose turn may come next. -/
theorem poll_reports_oneReady :
    ∃ polling, run Polling.step (Polling.new fun name => if name then 4 else 5) oneReady =
        .ok polling ∧
      ∀ ready, Reports polling ready → ∃ next, polling.poll (some ready) = .ok next ∧
        Polled (fun name => if name then 4 else 5) polling ready next :=
  poll_reports (fun first second same => by cases first <;> cases second <;> simp_all) oneReady
    oneReady_allowed

omit [DecidableEq Name] in
/-- The step is a poll that leaves something out, since there is no room for it. -/
def leavesOut (polling : Polling Name) : PollerEvent Name → Bool
  | .poll (some ready) => polling.events.length < ready.length
  | _ => false

omit [DecidableEq Name] in
/-- A poll that leaves something out doubles the vector, and nothing makes it smaller. -/
theorem le_sizeAfter (polling : Polling Name) (event : PollerEvent Name) :
    (if leavesOut polling event then 2 else 1) * polling.events.length ≤
      sizeAfter polling event := by
  cases event with
  | call name call => simp [leavesOut, sizeAfter]
  | poll answer =>
      cases answer with
      | none => simp [leavesOut, sizeAfter]
      | some ready =>
          simp only [leavesOut, sizeAfter, decide_eq_true_eq]
          split <;> split <;> omega

omit [DecidableEq Name] in
/-- The vector does not become larger than twice what has to go into it. -/
theorem sizeAfter_le {most : Nat} {event : PollerEvent Name}
    (small : polling.events.length ≤ max 16 (2 * most))
    (few : ∀ ready, event = .poll (some ready) → ready.length ≤ most) :
    sizeAfter polling event ≤ max 16 (2 * most) := by
  unfold sizeAfter
  split
  · rename_i ready
    have fits := few ready rfl
    split <;> omega
  · exact small

/-- When no more than `most` descriptors are ready at once, the vector grows to at most twice as
many, or keeps its size of 16 from the start, and `log2 (most / 8)` polls at most leave out
something that is ready. -/
theorem leavesOut_le (distinct : Function.Injective fd) (most : Nat)
    (events : List (PollerEvent Name))
    (allowed : Admissible Polling.step
      (fun polling event => KernelAllows polling event ∧
        ∀ ready, event = .poll (some ready) → ready.length ≤ most) (Polling.new fd) events) :
    ∃ polling, run Polling.step (Polling.new fd) events = .ok polling ∧
      polling.events.length ≤ max 16 (2 * most) ∧
      8 * 2 ^ stepsThat Polling.step leavesOut (Polling.new fd) events ≤ max 8 most := by
  have keeps (polling : Polling Name) (event : PollerEvent Name)
      (good : Good fd polling ∧ polling.events.length ≤ max 16 (2 * most))
      (inside : KernelAllows polling event ∧
        ∀ ready, event = .poll (some ready) → ready.length ≤ most) :
      ∃ next, polling.step event = .ok next ∧
        (Good fd next ∧ next.events.length ≤ max 16 (2 * most)) ∧
        (if leavesOut polling event then 2 else 1) * polling.events.length ≤
          next.events.length := by
    obtain ⟨next, stepEq, goodNext, size⟩ := good.1.step distinct inside.1
    exact ⟨next, stepEq, ⟨goodNext, size ▸ sizeAfter_le good.2 inside.2⟩,
      size ▸ le_sizeAfter polling event⟩
  have start : (Polling.new fd).events.length = 16 := List.length_replicate
  obtain ⟨polling, reached, ⟨_, bound⟩, doubled⟩ :=
    exists_run_of_doubling keeps ⟨good_new fd, by omega⟩ events allowed
  refine ⟨polling, reached, bound, ?_⟩
  rw [start] at doubled
  omega

/-! ### A full vector -/

omit [DecidableEq Name] in
/-- The channel is registered, and asks for reading. -/
def Reads (polling : Polling Name) (name : Name) : Prop :=
  (polling.registry.channels name).index = .kAdded ∧
    kReadEvent &&& ~~~(polling.registry.channels name).events = 0

/-- A channel that asks for reading reads, and those that have read before still do. -/
theorem Good.enableReading (distinct : Function.Injective fd) (good : Good fd polling)
    (name : Name) : ∃ next, polling.step (.call name .EnableReading) = .ok next ∧ Good fd next ∧
      next.events = polling.events ∧ Reads next name ∧
      ∀ other, Reads polling other → Reads next other := by
  obtain ⟨next, called, goodNext, events⟩ := good.makeCall distinct name .EnableReading
  obtain ⟨registry, updatedEq, _, updated⟩ := mirrors_updateChannel distinct good.mirrors name
    (show (polling.registry.channels name).enableReading.fd = fd name from good.mirrors.fds name)
    rfl
  have same : next.registry = registry := by
    have stepped := registry_makeCall polling name .EnableReading
    rw [called] at stepped
    exact Except.ok.inj (stepped.trans updatedEq)
  have reads : Reads next name := by
    have asks : (next.registry.channels name).events =
        (polling.registry.channels name).events ||| kReadEvent := same ▸ updated.asks
    refine ⟨same ▸ updated.added fun none => ?_, ?_⟩
    · exact absurd (BitVec.or_eq_zero_iff.mp none).2 (by decide)
    · rw [asks, BitVec.not_or, BitVec.and_comm, BitVec.and_assoc]
      simp
  refine ⟨next, called, goodNext, events, reads, fun other before => ?_⟩
  by_cases itself : other = name
  · exact itself ▸ reads
  · rw [Reads, same, updated.others other itself]
    exact before

/-- Any channels can ask for reading one after the other. -/
theorem Good.enableReadings (distinct : Function.Injective fd) (good : Good fd polling)
    (names : List Name) :
    ∃ next, run Polling.step polling (names.map fun name => .call name .EnableReading) =
        .ok next ∧ Good fd next ∧ next.events = polling.events ∧ (∀ name ∈ names, Reads next name) ∧
      ∀ other, Reads polling other → Reads next other := by
  induction names generalizing polling with
  | nil => exact ⟨polling, rfl, good, rfl, by simp, fun _ => id⟩
  | cons name names inductionHypothesis =>
      obtain ⟨middle, called, goodMiddle, sameMiddle, reads, kept⟩ :=
        good.enableReading distinct name
      obtain ⟨next, reached, goodNext, same, read, keptLater⟩ := inductionHypothesis goodMiddle
      refine ⟨next, by simp only [List.map_cons, run, called, reached], goodNext,
        same.trans sameMiddle, ?_, fun other before => keptLater other (kept other before)⟩
      rw [List.forall_mem_cons]
      exact ⟨keptLater name reads, read⟩

omit [DecidableEq Name] in
/-- The kernel may report that there is something to read on all of them. -/
theorem Good.reports (distinct : Function.Injective fd) (good : Good fd polling)
    {names : List Name} (once : names.Nodup) (reads : ∀ name ∈ names, Reads polling name) :
    Reports polling (names.map fun name => (fd name, EPOLLIN)) where
  once := by
    rw [List.map_map]
    exact once.map distinct
  asked := by
    intro onFd events here
    obtain ⟨name, inside, same⟩ := List.mem_map.mp here
    obtain ⟨rfl, rfl⟩ := Prod.mk.inj same
    obtain ⟨added, asks⟩ := reads name inside
    refine ⟨_, by rw [good.mirrors.interest, if_pos added], ?_⟩
    have part : EPOLLIN = EPOLLIN &&& kReadEvent := by decide
    rw [BitVec.not_or, BitVec.not_or, part, ← BitVec.and_assoc, ← BitVec.and_assoc,
      BitVec.and_assoc EPOLLIN, asks]
    simp

/-- Seventeen descriptors that have something to read. -/
def crowd : List (Fd × Events) := (List.finRange 17).map fun name => (4 + name, EPOLLIN)

/-- Their channels ask for it, and the kernel is polled twice. -/
def crowded : List (PollerEvent (Fin 17)) :=
  ((List.finRange 17).map fun name => .call name .EnableReading) ++
    [.poll (some crowd), .poll (some crowd)]

/-- The first poll leaves one of them out and doubles the vector, the second leaves out nothing. -/
theorem leavesOut_le_crowded :
    ∃ polling, run Polling.step (Polling.new fun name : Fin 17 => 4 + name) crowded =
        .ok polling ∧
      (polling.events.length ≤ max 16 (2 * 17) ∧
        8 * 2 ^ stepsThat Polling.step leavesOut (Polling.new fun name : Fin 17 => 4 + name)
          crowded ≤ max 8 17) ∧
      polling.events.length = 32 := by
  have distinct : Function.Injective fun name : Fin 17 => 4 + (name : Nat) := by
    intro first second same
    exact Fin.ext (Nat.add_left_cancel same)
  obtain ⟨asked, called, good, size, reads, _⟩ :=
    (good_new _).enableReadings distinct (List.finRange 17)
  have reports : Reports asked crowd := good.reports distinct (List.nodup_finRange 17) reads
  obtain ⟨once, first, goodOnce, polled, doubled⟩ := good.poll reports
  have again : Reports once crowd :=
    ⟨reports.once, fun fd events here => polled.registry ▸ reports.asked fd events here⟩
  obtain ⟨twice, second, _, _, kept⟩ := goodOnce.poll again
  have reached : run Polling.step (Polling.new fun name : Fin 17 => 4 + name) crowded =
      .ok twice := by
    rw [crowded, run_append called]
    simp only [run, Polling.step, first, second]
  have allowed : Admissible Polling.step KernelAllows (Polling.new fun name : Fin 17 => 4 + name)
      crowded := by
    have calls : ∀ event ∈ (List.finRange 17).map fun name => PollerEvent.call name .EnableReading,
        ∀ polling, KernelAllows polling event := by
      intro event here polling
      obtain ⟨name, _, rfl⟩ := List.mem_map.mp here
      exact kernelAllows_call polling name _
    refine ((admissible_of_forall_mem calls _).imp fun polling _ allows => allows polling).append ?_
    intro middle calledToo
    obtain rfl := Except.ok.inj (called.symm.trans calledToo)
    refine ⟨kernelAllows_poll reports, fun next polledToo => ?_⟩
    obtain rfl := Except.ok.inj (first.symm.trans polledToo)
    exact ⟨kernelAllows_poll again, fun _ _ => trivial⟩
  have few : ∀ event ∈ crowded, ∀ ready, event = .poll (some ready) → ready.length ≤ 17 := by
    rintro event here ready rfl
    have same : ready = crowd := by simpa [crowded] using here
    rw [same]
    decide
  obtain ⟨polling, reached', bounds⟩ :=
    leavesOut_le distinct 17 crowded (allowed.and (admissible_of_forall_mem few _))
  obtain rfl := Except.ok.inj (reached'.symm.trans reached)
  refine ⟨polling, reached, bounds, ?_⟩
  have sixteen : asked.events.length = 16 := by
    rw [size]
    rfl
  have seventeen : crowd.length = 17 := by decide
  rw [sixteen, seventeen] at doubled
  rw [kept, doubled, seventeen]
  decide

end GomukuServer.Proofs.ActiveChannels
