/-
Module: GomukuServer.Proofs.ConnectionTeardown
Layer: Proofs
Purpose: A connection is not freed while the poller of its loop has its channel or the wheel its
  timer, however closes, other threads and the main loop interleave.  A send from another thread is
  bound to `this` and can outlive the connection; it does not if every such send is queued while the
  server has the connection in its tables.
Trusted boundary: none
Main exports: Kept, polled_alive, QueuesInTime, sends_alive
-/
import GomukuServer.Base.Runs
import GomukuServer.MyMuduo.ConnectionLifetime

namespace GomukuServer.Proofs.ConnectionTeardown

open Base Base.Runs MyMuduo MyMuduo.ConnectionLifetime

/-- The functors that are still to be run, in order. -/
def upcoming (conn : ConnectionLifetime) : List LoopTask := conn.batch ++ conn.pendingFunctors

/-- Something uses the connection without a pointer to it. -/
def Attached (conn : ConnectionLifetime) : Prop := conn.inPoller = true ∨ conn.armed = true

/-- What holds between the steps of a teardown.  Before it is established nothing happens to a
connection; while it is up it is in the tables; and until poller and wheel have let go of it
something that has a pointer to it is on its way to `connectDestroyed`. -/
structure Kept (conn : ConnectionLifetime) : Prop where
  connecting : conn.state = .kConnecting → conn.watched = false ∧ conn.inEvent = false ∧
    .inSend ∉ conn.senders ∧
    upcoming conn <:+ [.enableInactiveReleaseInLoop, .connectEstablished]
  established : conn.state ≠ .kConnecting →
    .connectEstablished ∉ upcoming conn ∧ .enableInactiveReleaseInLoop ∉ upcoming conn
  up : conn.state ≠ .kDisconnected →
    conn.inTables = true ∧ conn.removals = 0 ∧ .connectDestroyed ∉ upcoming conn
  coming : Attached conn →
    conn.inTables = true ∨ 0 < conn.removals ∨ .connectDestroyed ∈ upcoming conn
  known : conn.watched = true ∨ conn.inEvent = true → conn.inPoller = true
  calm : conn.inEvent = true → conn.batch = []

theorem kept_accepted (enableInactiveRelease : Bool) : Kept (accepted enableInactiveRelease) := by
  cases enableInactiveRelease <;>
    constructor <;> simp [accepted, upcoming, Attached, List.suffix_cons]

/-- A pending functor with a pointer keeps the connection alive. -/
theorem useCount_pos_of_mem {conn : ConnectionLifetime} {task : LoopTask}
    (pending : task ∈ upcoming conn) (holds : task.holds = true) : 0 < conn.useCount := by
  have counted : 0 < conn.tasks.countP LoopTask.holds :=
    List.countP_pos_iff.mpr ⟨task, List.mem_append_right _ pending, holds⟩
  simp only [useCount]
  omega

/-- The tables keep it alive. -/
theorem useCount_pos_of_inTables {conn : ConnectionLifetime} (tables : conn.inTables = true) :
    0 < conn.useCount := by
  simp only [useCount, tables, Bool.toNat_true]
  omega

/-- So a connection that the poller or the wheel uses is alive. -/
theorem Kept.alive {conn : ConnectionLifetime} (kept : Kept conn) (attached : Attached conn) :
    0 < conn.useCount := by
  rcases kept.coming attached with tables | removals | destroyed
  · exact useCount_pos_of_inTables tables
  · simp only [useCount]
    omega
  · exact useCount_pos_of_mem destroyed rfl

@[simp]
theorem used_of_pos {conn next : ConnectionLifetime} (alive : 0 < conn.useCount) :
    conn.used next = .ok next := by
  simp [used, Nat.ne_of_gt alive]

/-- What `used` returns. -/
theorem eq_of_used {conn next after : ConnectionLifetime} (usedEq : conn.used next = .ok after) :
    after = next := by
  unfold used at usedEq
  split at usedEq
  · cases usedEq
  · exact (Except.ok.inj usedEq).symm

/-! ### The parts of a step -/

@[simp]
theorem upcoming_queueInLoop (conn : ConnectionLifetime) (task : LoopTask) :
    upcoming (conn.queueInLoop task) = upcoming conn ++ [task] := by
  simp [upcoming, queueInLoop]

/-- A functor of an established connection that neither establishes nor destroys it. -/
theorem Kept.queueInLoop {conn : ConnectionLifetime} (kept : Kept conn)
    (begun : conn.state ≠ .kConnecting) {task : LoopTask} (establishes : task ≠ .connectEstablished)
    (enables : task ≠ .enableInactiveReleaseInLoop) (destroys : task ≠ .connectDestroyed) :
    Kept (conn.queueInLoop task) where
  connecting := fun connecting => absurd connecting begun
  established := fun _ => by
    obtain ⟨one, two⟩ := kept.established begun
    simp only [upcoming_queueInLoop, List.mem_append, List.mem_singleton, not_or]
    exact ⟨⟨one, establishes.symm⟩, two, enables.symm⟩
  up := fun up => by
    obtain ⟨tables, removals, pending⟩ := kept.up up
    refine ⟨tables, removals, ?_⟩
    simp only [upcoming_queueInLoop, List.mem_append, List.mem_singleton, not_or]
    exact ⟨pending, destroys.symm⟩
  coming := fun attached => by
    rw [upcoming_queueInLoop]
    exact (kept.coming attached).imp_right (Or.imp_right (List.mem_append_left _))
  known := kept.known
  calm := kept.calm

/-- The poller gets the channel of a connection that is up. -/
theorem Kept.enable {conn : ConnectionLifetime} (kept : Kept conn)
    (begun : conn.state ≠ .kConnecting) (up : conn.state ≠ .kDisconnected) : Kept conn.enable where
  connecting := fun connecting => absurd connecting begun
  established := kept.established
  up := kept.up
  coming := fun _ => .inl (kept.up up).1
  known := fun _ => rfl
  calm := kept.calm

theorem Kept.sendInLoop {conn : ConnectionLifetime} (kept : Kept conn)
    (begun : conn.state ≠ .kConnecting) (written : Written) : Kept (conn.sendInLoop written) := by
  unfold ConnectionLifetime.sendInLoop
  split
  · exact kept
  · rename_i up
    cases written with
    | complete => exact kept.queueInLoop begun (by decide) (by decide) (by decide)
    | waits => exact kept.enable begun up
    | passesMark =>
        exact (kept.queueInLoop begun (by decide) (by decide) (by decide)).enable begun up
    | nothing => exact kept

theorem Kept.handleWrite {conn : ConnectionLifetime} (kept : Kept conn)
    (begun : conn.state ≠ .kConnecting) (written : Written) : Kept (conn.handleWrite written) := by
  unfold ConnectionLifetime.handleWrite
  split
  · exact kept.queueInLoop begun (by decide) (by decide) (by decide)
  · exact kept

theorem Kept.shutdown {conn : ConnectionLifetime} (kept : Kept conn) : Kept conn.shutdown := by
  unfold ConnectionLifetime.shutdown
  split
  · rename_i connected
    exact {
      connecting := fun connecting => by cases connecting
      established := fun _ => kept.established (by simp [connected])
      up := fun _ => kept.up (by simp [connected])
      coming := kept.coming
      known := kept.known
      calm := kept.calm }
  · exact kept

/-- Other threads get and give up pointers.  None is in `send` before the connection is
established. -/
theorem Kept.senders {conn : ConnectionLifetime} (kept : Kept conn) {senders : List Sender}
    (idle : conn.state = .kConnecting → .inSend ∉ senders) :
    Kept { conn with senders := senders } where
  connecting := fun connecting => by
    obtain ⟨watched, inEvent, _, pending⟩ := kept.connecting connecting
    exact ⟨watched, inEvent, idle connecting, pending⟩
  established := kept.established
  up := kept.up
  coming := kept.coming
  known := kept.known
  calm := kept.calm

/-- A thread in `send`, or an event of the channel, shows that the connection is established. -/
theorem Kept.begun_of_inSend {conn : ConnectionLifetime} (kept : Kept conn)
    (inSend : .inSend ∈ conn.senders) : conn.state ≠ .kConnecting :=
  fun connecting => (kept.connecting connecting).2.2.1 inSend

theorem Kept.begun_of_watched {conn : ConnectionLifetime} (kept : Kept conn)
    (watched : conn.watched = true) : conn.state ≠ .kConnecting :=
  fun connecting => by simp [(kept.connecting connecting).1] at watched

theorem Kept.begun_of_inEvent {conn : ConnectionLifetime} (kept : Kept conn)
    (inEvent : conn.inEvent = true) : conn.state ≠ .kConnecting :=
  fun connecting => by simp [(kept.connecting connecting).2.1] at inEvent

/-- The functors that a connection which is not yet established can have. -/
theorem Kept.connecting_of_mem {conn : ConnectionLifetime} (kept : Kept conn)
    (pending : .connectEstablished ∈ upcoming conn ∨ .enableInactiveReleaseInLoop ∈ upcoming conn) :
    conn.state = .kConnecting := by
  cases stateEq : conn.state with
  | kConnecting => rfl
  | _ =>
      obtain ⟨one, two⟩ := kept.established (by simp [stateEq])
      exact absurd pending (by simp [one, two])

/-! ### Functors -/

/-- The loop has taken a functor out of its batch. -/
def taken (conn : ConnectionLifetime) (task : LoopTask) (rest : List LoopTask) :
    ConnectionLifetime :=
  { conn with batch := rest, finished := conn.finished ++ [task] }

theorem upcoming_eq_cons {conn : ConnectionLifetime} {task : LoopTask} {rest : List LoopTask}
    (head : conn.batch = task :: rest) :
    upcoming conn = task :: upcoming (taken conn task rest) := by
  simp [upcoming, taken, head]

/-- The batch without its first functor. -/
theorem Kept.taken {conn : ConnectionLifetime} (kept : Kept conn) {task : LoopTask}
    {rest : List LoopTask} (head : conn.batch = task :: rest)
    (destroys : task ≠ .connectDestroyed) :
    Kept (taken conn task rest) := by
  have whole := upcoming_eq_cons head
  have part : ∀ other, other ∉ upcoming conn →
      other ∉ upcoming (ConnectionTeardown.taken conn task rest) :=
    fun other absent pending => absent (whole ▸ List.mem_cons_of_mem _ pending)
  exact {
    connecting := fun connecting => by
      obtain ⟨watched, inEvent, idle, pending⟩ := kept.connecting connecting
      exact ⟨watched, inEvent, idle, (List.suffix_cons _ _).trans (whole ▸ pending)⟩
    established := fun begun => (kept.established begun).imp (part _) (part _)
    up := fun up => by
      obtain ⟨tables, removals, pending⟩ := kept.up up
      exact ⟨tables, removals, part _ pending⟩
    coming := fun attached => by
      refine (kept.coming attached).imp_right (Or.imp_right fun pending => ?_)
      rw [whole] at pending
      exact (List.mem_cons.mp pending).resolve_left destroys.symm
    known := kept.known
    calm := fun inEvent => absurd (kept.calm inEvent) (by simp [head]) }

/-- A functor that the loop runs keeps all that. -/
theorem Kept.perform {conn next : ConnectionLifetime} (kept : Kept conn) {task : LoopTask}
    {rest : List LoopTask} (head : conn.batch = task :: rest) {written : Written}
    (performEq : (ConnectionTeardown.taken conn task rest).perform written task = .ok next) :
    Kept next := by
  have whole := upcoming_eq_cons head
  have pending : task ∈ upcoming conn := whole ▸ List.mem_cons_self
  cases task with
  | connectEstablished =>
      obtain rfl := Except.ok.inj performEq
      have connecting := kept.connecting_of_mem (.inl pending)
      obtain ⟨tables, removals, destroyed⟩ := kept.up (by simp [connecting])
      have nothing : ∀ other,
          other ∉ upcoming (ConnectionTeardown.taken conn .connectEstablished rest) := by
        have last := (kept.connecting connecting).2.2.2
        rw [whole] at last
        have rested : upcoming (ConnectionTeardown.taken conn .connectEstablished rest) = [] := by
          simpa [List.suffix_cons_iff] using last
        simp [rested]
      exact {
        connecting := fun connecting => by cases connecting
        established := fun _ => ⟨nothing _, nothing _⟩
        up := fun _ => ⟨tables, removals, nothing _⟩
        coming := fun _ => .inl tables
        known := fun _ => rfl
        calm := fun inEvent => absurd (kept.calm inEvent) (by simp [head]) }
  | connectDestroyed =>
      obtain rfl := Except.ok.inj performEq
      have down : conn.state = .kDisconnected := by
        by_cases down : conn.state = .kDisconnected
        · exact down
        · exact absurd pending (kept.up down).2.2
      have gone : ∀ other, other ∉ upcoming conn →
          other ∉ upcoming (ConnectionTeardown.taken conn .connectDestroyed rest) :=
        fun other absent pending => absent (whole ▸ List.mem_cons_of_mem _ pending)
      exact {
        connecting := fun connecting => by simp [ConnectionTeardown.taken, down] at connecting
        established := fun _ => (kept.established (by simp [down])).imp (gone _) (gone _)
        up := fun up => by simp [ConnectionTeardown.taken, down] at up
        coming := fun attached => by simp [Attached] at attached
        known := fun busy => by
          rcases busy with watched | inEvent
          · cases watched
          · exact absurd (kept.calm inEvent) (by simp [head])
        calm := fun inEvent => absurd (kept.calm inEvent) (by simp [head]) }
  | writeCompleteCallback =>
      obtain rfl := Except.ok.inj performEq
      exact kept.taken head (by decide)
  | hightWaterMarkCallback =>
      obtain rfl := Except.ok.inj performEq
      exact kept.taken head (by decide)
  | enableInactiveReleaseInLoop =>
      obtain rfl := eq_of_used performEq
      have tables := (kept.up (by simp [kept.connecting_of_mem (.inr pending)])).1
      have rested := kept.taken head (by decide)
      exact { rested with coming := fun _ => .inl tables }
  | sendInLoop =>
      obtain rfl := eq_of_used performEq
      refine (kept.taken head (by decide)).sendInLoop (fun connecting => ?_) written
      have among := (kept.connecting connecting).2.2.2.subset pending
      simp at among

/-- What happens next keeps it as well. -/
theorem kept_step {conn next : ConnectionLifetime} (kept : Kept conn) {event : LifetimeEvent}
    (stepEq : conn.step event = .ok next) : Kept next := by
  cases event with
  | copyPointer =>
      simp only [step] at stepEq
      split at stepEq <;> obtain rfl := Except.ok.inj stepEq
      · exact kept
      · refine kept.senders fun connecting => ?_
        simp [(kept.connecting connecting).2.2.1]
  | dropPointer place =>
      simp only [step] at stepEq
      split at stepEq <;> obtain rfl := Except.ok.inj stepEq
      · exact kept.senders fun connecting inSend =>
          (kept.connecting connecting).2.2.1 (List.mem_of_mem_eraseIdx inSend)
      · exact kept
  | testState place =>
      simp only [step] at stepEq
      split at stepEq <;> obtain rfl := Except.ok.inj stepEq
      · rename_i tested
        exact kept.senders fun connecting => by simp [tested.2] at connecting
      · exact kept
  | queueSend place =>
      simp only [step] at stepEq
      split at stepEq <;> obtain rfl := Except.ok.inj stepEq
      · rename_i inSend
        have begun := kept.begun_of_inSend (List.mem_of_getElem? inSend)
        have idle : Kept { conn with senders := conn.senders.set place .idle } :=
          kept.senders fun connecting => absurd connecting begun
        refine idle.queueInLoop begun ?_ ?_ ?_ <;> decide
      · exact kept
  | handlerEvent =>
      simp only [step] at stepEq
      split at stepEq
      · rename_i polled
        have begun := kept.begun_of_watched polled.2
        obtain rfl := eq_of_used stepEq
        exact { kept with
          connecting := fun connecting => absurd connecting begun
          known := fun _ => kept.known (.inl polled.2)
          calm := fun _ => polled.1.2.1 }
      · obtain rfl := Except.ok.inj stepEq
        exact kept
  | sendHere written =>
      simp only [step] at stepEq
      split at stepEq <;> obtain rfl := Except.ok.inj stepEq
      · rename_i connected
        exact kept.sendInLoop (by simp [connected.2]) written
      · exact kept
  | shutdown =>
      simp only [step] at stepEq
      split at stepEq <;> obtain rfl := Except.ok.inj stepEq
      · exact kept.shutdown
      · exact kept
  | handleWrite written =>
      simp only [step] at stepEq
      split at stepEq <;> obtain rfl := Except.ok.inj stepEq
      · rename_i inEvent
        exact kept.handleWrite (kept.begun_of_inEvent inEvent) written
      · exact kept
  | handlerClose =>
      simp only [step] at stepEq
      split at stepEq <;> obtain rfl := Except.ok.inj stepEq
      · rename_i inEvent
        exact {
          connecting := fun connecting => by cases connecting
          established := fun _ => kept.established (kept.begun_of_inEvent inEvent)
          up := fun up => absurd rfl up
          coming := fun _ => .inr (.inl (Nat.succ_pos _))
          known := fun _ => kept.known (.inr inEvent)
          calm := kept.calm }
      · exact kept
  | eventDone =>
      obtain rfl := Except.ok.inj stepEq
      exact { kept with
        connecting := fun connecting => by
          obtain ⟨watched, _, rest⟩ := kept.connecting connecting
          exact ⟨watched, rfl, rest⟩
        known := fun busy => kept.known (busy.imp_right fun inEvent => by cases inEvent)
        calm := fun inEvent => by cases inEvent }
  | timerExpires =>
      simp only [step] at stepEq
      split at stepEq
      · obtain rfl := eq_of_used stepEq
        exact { kept.shutdown with
          coming := fun attached =>
            kept.shutdown.coming (attached.imp_right fun armed => by cases armed) }
      · obtain rfl := Except.ok.inj stepEq
        exact kept
  | doPendingFunctor =>
      simp only [step] at stepEq
      split at stepEq <;> obtain rfl := Except.ok.inj stepEq
      · rename_i polls
        have same : upcoming { conn with batch := conn.pendingFunctors, pendingFunctors := [] } =
            upcoming conn := by
          simp [upcoming, polls.2.1]
        exact {
          connecting := fun connecting => same ▸ kept.connecting connecting
          established := fun begun => same ▸ kept.established begun
          up := fun up => same ▸ kept.up up
          coming := fun attached => same ▸ kept.coming attached
          known := kept.known
          calm := fun inEvent => by simp [polls.1] at inEvent }
      · exact kept
  | runFunctor written =>
      simp only [step] at stepEq
      split at stepEq
      · obtain rfl := Except.ok.inj stepEq
        exact kept
      · rename_i task rest head
        exact kept.perform head stepEq
  | batchDone =>
      simp only [step] at stepEq
      split at stepEq <;> obtain rfl := Except.ok.inj stepEq
      · exact { kept with }
      · exact kept
  | removeConnectionInLoop =>
      simp only [step] at stepEq
      split at stepEq <;> obtain rfl := Except.ok.inj stepEq
      · rename_i removal
        have down : conn.state = .kDisconnected := by
          by_cases down : conn.state = .kDisconnected
          · exact down
          · exact absurd (kept.up down).2.1 (Nat.ne_of_gt removal)
        exact {
          connecting := fun connecting => by simp [queueInLoop, down] at connecting
          established := fun _ => by
            obtain ⟨one, two⟩ := kept.established (by simp [down])
            simp only [upcoming_queueInLoop, List.mem_append, List.mem_singleton, not_or]
            exact ⟨⟨one, by decide⟩, two, by decide⟩
          up := fun up => by simp [queueInLoop, down] at up
          coming := fun _ => .inr (.inr (by simp))
          known := kept.known
          calm := kept.calm }
      · exact kept

/-! ### A connection that is in use is alive -/

/-- The one use that the invariant does not cover: a send from another thread. -/
theorem sendInLoop_of_fault {conn : ConnectionLifetime} (kept : Kept conn) {event : LifetimeEvent}
    {fault : Fault} (stepEq : conn.step event = .error fault) :
    (∃ written, event = .runFunctor written) ∧ conn.batch.head? = some .sendInLoop := by
  cases event with
  | runFunctor written =>
      refine ⟨⟨written, rfl⟩, ?_⟩
      simp only [step] at stepEq
      split at stepEq
      · cases stepEq
      · rename_i task rest head
        have pending : task ∈ upcoming conn := upcoming_eq_cons head ▸ List.mem_cons_self
        cases task with
        | sendInLoop => simp [head]
        | enableInactiveReleaseInLoop =>
            have tables := (kept.up (by simp [kept.connecting_of_mem (.inr pending)])).1
            have alive : 0 < (taken conn .enableInactiveReleaseInLoop rest).useCount :=
              useCount_pos_of_inTables tables
            simp only [perform, taken] at alive stepEq
            simp [used_of_pos alive] at stepEq
        | _ => cases stepEq
  | handlerEvent =>
      simp only [step] at stepEq
      split at stepEq
      · rename_i polled
        rw [used_of_pos (kept.alive (.inl (kept.known (.inl polled.2))))] at stepEq
        cases stepEq
      · cases stepEq
  | timerExpires =>
      simp only [step] at stepEq
      split at stepEq
      · rename_i expired
        rw [used_of_pos (kept.alive (.inr expired.2))] at stepEq
        cases stepEq
      · cases stepEq
  | eventDone => cases stepEq
  | _ =>
      simp only [step] at stepEq
      split at stepEq <;> cases stepEq

/-- A connection outlives its registration with the poller and the task of its timer: as long as the
poller has its channel or the wheel its timer there is a pointer to it, so no event of the channel
and no expiry of the timer finds it freed, and neither does any functor of its own other than a send
that another thread has queued. -/
theorem polled_alive (enableInactiveRelease : Bool) (events : List LifetimeEvent) :
    Always step
      (fun conn =>
        (conn.inPoller = true ∨ conn.armed = true → 0 < conn.useCount) ∧
          ∀ event fault, conn.step event = .error fault →
            (∃ written, event = .runFunctor written) ∧ conn.batch.head? = some .sendInLoop)
      (accepted enableInactiveRelease) events := by
  have always : Always step Kept (accepted enableInactiveRelease) events := by
    refine @always_of_admissible _ _ _ _ Kept (fun _ _ => True) ?_ _
      (kept_accepted enableInactiveRelease) _ (admissible_of_forall (fun _ _ => trivial) _ _)
    exact fun conn event next kept _ stepEq => kept_step kept stepEq
  exact always.imp fun conn kept =>
    ⟨fun attached => kept.alive attached, fun event fault => sendInLoop_of_fault kept⟩

/-! ### Sends from other threads -/

/-- A send is queued while the server still has the connection in its tables. -/
def QueuesInTime (conn : ConnectionLifetime) : LifetimeEvent → Prop
  | .queueSend place => conn.senders[place]? = some .inSend → conn.inTables = true
  | _ => True

instance (conn : ConnectionLifetime) : DecidablePred (QueuesInTime conn)
  | .queueSend place =>
      inferInstanceAs (Decidable (conn.senders[place]? = some .inSend → conn.inTables = true))
  | .copyPointer | .dropPointer _ | .testState _ | .handlerEvent | .sendHere _ | .shutdown
  | .handleWrite _ | .handlerClose | .eventDone | .timerExpires | .doPendingFunctor
  | .runFunctor _ | .batchDone | .removeConnectionInLoop => isTrue trivial

/-- Every queued send has a functor behind it that destroys the connection. -/
def DestroyedAfter (pending : List LoopTask) : Prop :=
  ∀ part, part <:+ pending → .sendInLoop ∈ part → .connectDestroyed ∈ part

/-- No queued send finds the connection freed. -/
def SendsCovered (conn : ConnectionLifetime) : Prop :=
  conn.inTables = true ∨ DestroyedAfter (upcoming conn)

theorem DestroyedAfter.suffix {pending rest : List LoopTask} (after : DestroyedAfter pending)
    (suffix : rest <:+ pending) : DestroyedAfter rest :=
  fun part ends => after part (ends.trans suffix)

theorem DestroyedAfter.append {pending : List LoopTask} (after : DestroyedAfter pending)
    {task : LoopTask} (other : task ≠ .sendInLoop) : DestroyedAfter (pending ++ [task]) := by
  intro part ends sends
  rcases List.suffix_concat_iff.mp (by simpa using ends) with rfl | ⟨init, rfl, initial⟩
  · cases sends
  · simp only [List.mem_append, List.mem_singleton] at sends ⊢
    exact .inl (after init initial (sends.resolve_right other.symm))

theorem destroyedAfter_append_destroyed (pending : List LoopTask) :
    DestroyedAfter (pending ++ [.connectDestroyed]) := by
  intro part ends sends
  rcases List.suffix_concat_iff.mp (by simpa using ends) with rfl | ⟨init, rfl, _⟩
  · cases sends
  · simp

/-- A covered send is run on a connection that is alive. -/
theorem SendsCovered.alive {conn : ConnectionLifetime} (covered : SendsCovered conn)
    (sends : .sendInLoop ∈ upcoming conn) : 0 < conn.useCount := by
  rcases covered with tables | after
  · exact useCount_pos_of_inTables tables
  · exact useCount_pos_of_mem (after _ (List.suffix_refl _) sends) rfl

/-- What a step can do to the functors that are to be run, when it leaves the tables alone. -/
def Advances (pending after : List LoopTask) : Prop :=
  after <:+ pending ∨ ∃ task ∈ [LoopTask.writeCompleteCallback, .hightWaterMarkCallback],
    after <:+ pending ++ [task]

theorem Advances.rfl {pending : List LoopTask} : Advances pending pending :=
  .inl (List.suffix_refl _)

theorem DestroyedAfter.advances {pending after : List LoopTask} (covered : DestroyedAfter pending)
    (advances : Advances pending after) : DestroyedAfter after := by
  rcases advances with suffix | ⟨task, callback, suffix⟩
  · exact covered.suffix suffix
  · have other : task ≠ .sendInLoop := by
      rintro rfl
      simp at callback
    exact (covered.append other).suffix suffix

/-- After a functor has been taken out. -/
theorem Advances.cons {pending after : List LoopTask} {task : LoopTask}
    (advances : Advances pending after) : Advances (task :: pending) after := by
  rcases advances with suffix | ⟨more, other, suffix⟩
  · exact .inl (suffix.trans (List.suffix_cons _ _))
  · exact .inr ⟨more, other, suffix.trans (List.suffix_cons _ _)⟩

theorem advances_sendInLoop (conn : ConnectionLifetime) (written : Written) :
    (conn.sendInLoop written).inTables = conn.inTables ∧
      Advances (upcoming conn) (upcoming (conn.sendInLoop written)) := by
  unfold ConnectionLifetime.sendInLoop
  split
  · exact ⟨rfl, .rfl⟩
  · cases written with
    | complete => exact ⟨rfl, .inr ⟨.writeCompleteCallback, by decide, by simp⟩⟩
    | passesMark =>
        exact ⟨rfl, .inr ⟨.hightWaterMarkCallback, by decide, by
          simp [upcoming, queueInLoop, enable]⟩⟩
    | _ => exact ⟨rfl, .rfl⟩

/-- A step queues a send, or the functor that destroys the connection, or does neither. -/
theorem upcoming_of_step {conn next : ConnectionLifetime} {event : LifetimeEvent}
    (stepEq : conn.step event = .ok next) :
    (∃ place, event = .queueSend place ∧ conn.senders[place]? = some .inSend ∧
      next.inTables = conn.inTables ∧ upcoming next = upcoming conn ++ [.sendInLoop]) ∨
    (event = .removeConnectionInLoop ∧ upcoming next = upcoming conn ++ [.connectDestroyed]) ∨
    next.inTables = conn.inTables ∧ Advances (upcoming conn) (upcoming next) := by
  cases event with
  | queueSend place =>
      simp only [step] at stepEq
      split at stepEq <;> obtain rfl := Except.ok.inj stepEq
      · rename_i inSend
        exact .inl ⟨place, rfl, inSend, rfl, by simp [upcoming, queueInLoop]⟩
      · exact .inr (.inr ⟨rfl, .rfl⟩)
  | sendHere written =>
      simp only [step] at stepEq
      split at stepEq <;> obtain rfl := Except.ok.inj stepEq
      · exact .inr (.inr (advances_sendInLoop conn written))
      · exact .inr (.inr ⟨rfl, .rfl⟩)
  | shutdown =>
      simp only [step, ConnectionLifetime.shutdown] at stepEq
      refine .inr (.inr ?_)
      split at stepEq
      · split at stepEq <;> obtain rfl := Except.ok.inj stepEq <;> exact ⟨rfl, .rfl⟩
      · obtain rfl := Except.ok.inj stepEq
        exact ⟨rfl, .rfl⟩
  | handleWrite written =>
      simp only [step, ConnectionLifetime.handleWrite] at stepEq
      refine .inr (.inr ?_)
      split at stepEq
      · split at stepEq <;> obtain rfl := Except.ok.inj stepEq
        · exact ⟨rfl, .inr ⟨.writeCompleteCallback, by decide, by simp⟩⟩
        · exact ⟨rfl, .rfl⟩
      · obtain rfl := Except.ok.inj stepEq
        exact ⟨rfl, .rfl⟩
  | handlerEvent =>
      simp only [step] at stepEq
      refine .inr (.inr ?_)
      split at stepEq
      · obtain rfl := eq_of_used stepEq
        exact ⟨rfl, .rfl⟩
      · obtain rfl := Except.ok.inj stepEq
        exact ⟨rfl, .rfl⟩
  | timerExpires =>
      simp only [step, ConnectionLifetime.shutdown] at stepEq
      refine .inr (.inr ?_)
      split at stepEq
      · obtain rfl := eq_of_used stepEq
        split <;> exact ⟨rfl, .rfl⟩
      · obtain rfl := Except.ok.inj stepEq
        exact ⟨rfl, .rfl⟩
  | doPendingFunctor =>
      simp only [step] at stepEq
      split at stepEq <;> obtain rfl := Except.ok.inj stepEq
      · rename_i polls
        exact .inr (.inr ⟨rfl, .inl (by simp [upcoming, polls.2.1])⟩)
      · exact .inr (.inr ⟨rfl, .rfl⟩)
  | runFunctor written =>
      simp only [step] at stepEq
      refine .inr (.inr ?_)
      split at stepEq
      · obtain rfl := Except.ok.inj stepEq
        exact ⟨rfl, .rfl⟩
      · rename_i task rest head
        rw [upcoming_eq_cons head]
        cases task with
        | sendInLoop =>
            obtain rfl := eq_of_used stepEq
            have advances := advances_sendInLoop (taken conn .sendInLoop rest) written
            exact ⟨advances.1, advances.2.cons⟩
        | enableInactiveReleaseInLoop =>
            obtain rfl := eq_of_used stepEq
            exact ⟨rfl, Advances.rfl.cons⟩
        | _ =>
            obtain rfl := Except.ok.inj stepEq
            exact ⟨rfl, Advances.rfl.cons⟩
  | removeConnectionInLoop =>
      simp only [step] at stepEq
      split at stepEq <;> obtain rfl := Except.ok.inj stepEq
      · exact .inr (.inl ⟨rfl, by simp [upcoming, queueInLoop]⟩)
      · exact .inr (.inr ⟨rfl, .rfl⟩)
  | eventDone =>
      obtain rfl := Except.ok.inj stepEq
      exact .inr (.inr ⟨rfl, .rfl⟩)
  | _ =>
      simp only [step] at stepEq
      split at stepEq <;> obtain rfl := Except.ok.inj stepEq <;> exact .inr (.inr ⟨rfl, .rfl⟩)

/-- Sends that are queued in time stay covered. -/
theorem covered_step {conn next : ConnectionLifetime} (covered : SendsCovered conn)
    {event : LifetimeEvent} (inTime : QueuesInTime conn event)
    (stepEq : conn.step event = .ok next) : SendsCovered next := by
  rcases upcoming_of_step stepEq with ⟨place, rfl, inSend, tables, _⟩ | ⟨_, destroyed⟩ |
    ⟨tables, advances⟩
  · exact .inl (tables.trans (inTime inSend))
  · exact .inr (destroyed ▸ destroyedAfter_append_destroyed _)
  · exact covered.imp tables.trans fun after => after.advances advances

/-- If every send of another thread is queued while the server has the connection in its tables, no
functor that is bound to `this` is run, or waits to be run, on a connection that has been freed. -/
theorem sends_alive (enableInactiveRelease : Bool) (events : List LifetimeEvent)
    (inTime : Admissible step QueuesInTime (accepted enableInactiveRelease) events) :
    Throughout step (fun conn => .sendInLoop ∈ upcoming conn → 0 < conn.useCount)
      (accepted enableInactiveRelease) events := by
  refine @throughout_of_inv _ _ _ _ (fun conn => Kept conn ∧ SendsCovered conn) _ QueuesInTime ?_
    (fun conn good => good.2.alive) _ ⟨kept_accepted enableInactiveRelease, .inl rfl⟩ _ inTime
  rintro conn event ⟨kept, covered⟩ inTime
  cases stepEq : conn.step event with
  | ok next => exact ⟨next, rfl, kept_step kept stepEq, covered_step covered inTime stepEq⟩
  | error fault =>
      obtain ⟨⟨written, rfl⟩, head⟩ := sendInLoop_of_fault kept stepEq
      obtain ⟨rest, batch⟩ := List.head?_eq_some_iff.mp head
      have alive : 0 < (taken conn .sendInLoop rest).useCount := by
        rcases covered with tables | destroyed
        · exact useCount_pos_of_inTables tables
        · have behind := destroyed _ (List.suffix_refl _)
            (upcoming_eq_cons batch ▸ List.mem_cons_self)
          rw [upcoming_eq_cons batch] at behind
          exact useCount_pos_of_mem ((List.mem_cons.mp behind).resolve_left (by decide)) rfl
      simp only [step, batch, perform] at stepEq
      simp only [taken] at alive
      simp [used_of_pos alive] at stepEq

/-- A send that is queued before the close reaches the main loop. -/
def closesAfterSend : List LifetimeEvent :=
  [.doPendingFunctor, .runFunctor .nothing, .runFunctor .nothing, .batchDone, .copyPointer,
    .testState 0, .handlerEvent, .handlerClose, .eventDone, .queueSend 0, .removeConnectionInLoop,
    .dropPointer 0, .doPendingFunctor, .runFunctor .nothing, .runFunctor .nothing, .batchDone]

/-- The functor is run although the thread has given up its pointer, and after the batch the
connection is freed. -/
theorem sends_alive_closesAfterSend :
    Throughout step (fun conn => .sendInLoop ∈ upcoming conn → 0 < conn.useCount) (accepted true)
      closesAfterSend :=
  sends_alive true closesAfterSend (by decide +kernel)

/-- The same send, queued after `connectDestroyed`: the functor finds the connection freed. -/
example :
    (run step (accepted false)
      [.doPendingFunctor, .runFunctor .nothing, .batchDone, .copyPointer, .testState 0,
        .handlerEvent, .handlerClose, .eventDone, .removeConnectionInLoop, .doPendingFunctor,
        .queueSend 0, .dropPointer 0, .runFunctor .nothing, .batchDone, .doPendingFunctor,
        .runFunctor .nothing]).isOk = false := by
  decide +kernel

end GomukuServer.Proofs.ConnectionTeardown
