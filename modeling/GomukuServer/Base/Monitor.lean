/-
Module: GomukuServer.Base.Monitor
Layer: Base
Purpose: Threads around one mutex and its condition variable.  The holder of the mutex works through
  a section action by action; a wait gives the mutex up, and a thread that has been notified, has
  timed out or woke up for no reason needs the mutex before it looks again.  The rules say where
  threads can be, that sections follow each other as if each were one call, and when no thread
  sleeps while it has something to do.
Trusted boundary: none
Main exports: Program, State, Event, step, Sound, sound_step, perform, Serial, serial_of_run,
  Covered, covered_step
-/
import GomukuServer.Base.Cpp
import GomukuServer.Base.Runs
import Mathlib.Data.List.Nodup
import Mathlib.Data.List.Perm.Basic

namespace GomukuServer.Base.Monitor

open Runs

universe u v

variable {Thread Point Shared Input Call : Type u} {Fault : Type v}

/-- What an action of the holder comes to. -/
inductive Effect (Point : Type u) where
  | goOn (next : Point)
  | notifyOne (next : Point)
  | notifyAll (next : Point)
  | wait (again : Point)
  | leave
deriving DecidableEq, Repr

/-- Where the holder is then, if it still holds the mutex. -/
def Effect.next : Effect Point → Option Point
  | .goOn next => some next
  | .notifyOne next => some next
  | .notifyAll next => some next
  | .wait _ => none
  | .leave => none

/-- What the threads do: where a thread may ask for the mutex, the actions of the holder, where a
wait goes on that has timed out, and what is done to the shared state without the mutex. -/
structure Program (Thread Point Shared Input Call : Type u) (Fault : Type v) where
  entry : Thread → Point → Bool
  act : Input → Point → Shared → Except Fault (Shared × Effect Point)
  timeout : Point → Point
  outer : Call → Shared → Except Fault Shared

/-- A stretch of actions under the mutex: who has taken it, where, and what the actions so far have
read from outside. -/
structure Section (Thread Point Input : Type u) where
  thread : Thread
  entered : Point
  inputs : List Input

/-- The holder of the mutex, at the point of its next action. -/
structure Holder (Thread Point Input : Type u) where
  current : Section Thread Point Input
  point : Point

/-- The shared state, who holds the mutex, who is asleep on the condition variable and who is awake
again but still needs the mutex.  `completed` is the history of the sections. -/
structure State (Thread Point Shared Input : Type u) where
  shared : Shared
  holder : Option (Holder Thread Point Input)
  sleeping : List (Thread × Point)
  woken : List (Thread × Point)
  completed : List (Section Thread Point Input)

/-- What can happen next.  A notification of one thread goes to whichever is `chosen`. -/
inductive Event (Thread Point Input Call : Type u) where
  | enter (thread : Thread) (point : Point)
  | relock (place : Nat)
  | wake (place : Nat) (timedOut : Bool)
  | act (input : Input) (chosen : Nat)
  | outer (call : Call)

namespace State

/-- Nobody has come yet. -/
def start (shared : Shared) : State Thread Point Shared Input where
  shared := shared
  holder := none
  sleeping := []
  woken := []
  completed := []

/-- The threads that hold the mutex or wait, each with the point where it will go on. -/
def places (state : State Thread Point Shared Input) : List (Thread × Point) :=
  (state.holder.map fun holder => (holder.current.thread, holder.point)).toList ++
    (state.sleeping ++ state.woken)

/-- The thread has the mutex now. -/
def lock (state : State Thread Point Shared Input) (thread : Thread) (point : Point) :
    State Thread Point Shared Input :=
  { state with holder := some ⟨⟨thread, point, []⟩, point⟩ }

/-- The holder after an action. -/
def apply (state : State Thread Point Shared Input) (holder : Holder Thread Point Input)
    (chosen : Nat) : Effect Point → State Thread Point Shared Input
  | .goOn next => { state with holder := some { holder with point := next } }
  | .notifyOne next =>
      { state with
        holder := some { holder with point := next }
        sleeping := state.sleeping.eraseIdx (chosen % state.sleeping.length)
        woken := state.woken ++ (state.sleeping[chosen % state.sleeping.length]?).toList }
  | .notifyAll next =>
      { state with
        holder := some { holder with point := next }
        sleeping := []
        woken := state.woken ++ state.sleeping }
  | .wait again =>
      { state with
        holder := none
        sleeping := state.sleeping ++ [(holder.current.thread, again)]
        completed := state.completed ++ [holder.current] }
  | .leave =>
      { state with
        holder := none
        completed := state.completed ++ [holder.current] }

end State

/-- The holder, with one more input read. -/
def Holder.reads (holder : Holder Thread Point Input) (input : Input) :
    Holder Thread Point Input :=
  { holder with current := { holder.current with inputs := holder.current.inputs ++ [input] } }

variable [DecidableEq Thread]

/-- Let something happen.  What is not possible does not change the state: a thread that asks for a
mutex that is taken goes on asking. -/
def step (program : Program Thread Point Shared Input Call Fault)
    (state : State Thread Point Shared Input) :
    Event Thread Point Input Call → Except Fault (State Thread Point Shared Input)
  | .enter thread point =>
      if state.holder.isNone ∧ thread ∉ state.places.map Prod.fst ∧ program.entry thread point then
        .ok (state.lock thread point)
      else .ok state
  | .relock place =>
      match state.holder, state.woken[place]? with
      | none, some (thread, point) =>
          .ok ({ state with woken := state.woken.eraseIdx place }.lock thread point)
      | _, _ => .ok state
  | .wake place timedOut =>
      match state.sleeping[place]? with
      | none => .ok state
      | some (thread, point) =>
          .ok { state with
            sleeping := state.sleeping.eraseIdx place
            woken := state.woken ++ [(thread, if timedOut then program.timeout point else point)] }
  | .act input chosen =>
      match state.holder with
      | none => .ok state
      | some holder =>
          match program.act input holder.point state.shared with
          | .error fault => .error fault
          | .ok (shared, effect) =>
              .ok ({ state with shared := shared }.apply (holder.reads input) chosen effect)
  | .outer call =>
      match program.outer call state.shared with
      | .error fault => .error fault
      | .ok shared => .ok { state with shared := shared }

variable {program : Program Thread Point Shared Input Call Fault}

/-! ### What a step can do -/

/-- The ways a step can go. -/
inductive Moved (program : Program Thread Point Shared Input Call Fault)
    (state : State Thread Point Shared Input) :
    Event Thread Point Input Call → State Thread Point Shared Input → Prop
  | nothing {event} : Moved program state event state
  | entered {thread point} (free : state.holder = none)
      (outside : thread ∉ state.places.map Prod.fst) (entry : program.entry thread point = true) :
      Moved program state (.enter thread point) (state.lock thread point)
  | relocked {place thread point} (free : state.holder = none)
      (awake : state.woken[place]? = some (thread, point)) :
      Moved program state (.relock place)
        ({ state with woken := state.woken.eraseIdx place }.lock thread point)
  | woke {place timedOut thread point} (asleep : state.sleeping[place]? = some (thread, point)) :
      Moved program state (.wake place timedOut) { state with
        sleeping := state.sleeping.eraseIdx place
        woken := state.woken ++ [(thread, if timedOut then program.timeout point else point)] }
  | acted {input chosen holder shared effect} (holds : state.holder = some holder)
      (actEq : program.act input holder.point state.shared = .ok (shared, effect)) :
      Moved program state (.act input chosen)
        ({ state with shared := shared }.apply (holder.reads input) chosen effect)
  | outer {call shared} (outerEq : program.outer call state.shared = .ok shared) :
      Moved program state (.outer call) { state with shared := shared }

/-- A step that returns goes one of these ways. -/
theorem moved_of_step {state next : State Thread Point Shared Input}
    {event : Event Thread Point Input Call} (stepEq : step program state event = .ok next) :
    Moved program state event next := by
  cases event with
  | enter thread point =>
      simp only [step] at stepEq
      split at stepEq
      · rename_i possible
        obtain rfl := Except.ok.inj stepEq
        exact .entered (Option.isNone_iff_eq_none.mp possible.1) possible.2.1 possible.2.2
      · obtain rfl := Except.ok.inj stepEq
        exact .nothing
  | relock place =>
      simp only [step] at stepEq
      split at stepEq
      · rename_i free awake
        obtain rfl := Except.ok.inj stepEq
        exact .relocked free awake
      · obtain rfl := Except.ok.inj stepEq
        exact .nothing
  | wake place timedOut =>
      simp only [step] at stepEq
      split at stepEq
      · obtain rfl := Except.ok.inj stepEq
        exact .nothing
      · rename_i asleep
        obtain rfl := Except.ok.inj stepEq
        exact .woke asleep
  | act input chosen =>
      simp only [step] at stepEq
      split at stepEq
      · obtain rfl := Except.ok.inj stepEq
        exact .nothing
      · rename_i holds
        split at stepEq
        · exact absurd stepEq (by simp)
        · rename_i actEq
          obtain rfl := Except.ok.inj stepEq
          exact .acted holds actEq
  | outer call =>
      simp only [step] at stepEq
      split at stepEq
      · exact absurd stepEq (by simp)
      · rename_i outerEq
        obtain rfl := Except.ok.inj stepEq
        exact .outer outerEq

/-! ### Where the threads are -/

section Places

omit [DecidableEq Thread]

/-- Points that belong to a thread stay with it: it enters there, and from there its actions and its
time-outs lead there. -/
structure Closed (program : Program Thread Point Shared Input Call Fault)
    (belongs : Thread → Point → Prop) : Prop where
  entry : ∀ thread point, program.entry thread point = true → belongs thread point
  timeout : ∀ thread point, belongs thread point → belongs thread (program.timeout point)
  goesOn : ∀ thread point input shared shared' effect next, belongs thread point →
    program.act input point shared = .ok (shared', effect) → effect.next = some next →
      belongs thread next
  waits : ∀ thread point input shared shared' again, belongs thread point →
    program.act input point shared = .ok (shared', .wait again) → belongs thread again

/-- Every thread is at one place at most, and there at one of its points. -/
structure Sound (belongs : Thread → Point → Prop) (state : State Thread Point Shared Input) :
    Prop where
  once : (state.places.map Prod.fst).Nodup
  own : ∀ place ∈ state.places, belongs place.1 place.2

theorem sound_start (belongs : Thread → Point → Prop) (shared : Shared) :
    Sound belongs (State.start shared : State Thread Point Shared Input) where
  once := List.nodup_nil
  own := by simp [State.places, State.start]

/-- A state whose threads are where they were, but for the points of some. -/
theorem Sound.moved {belongs : Thread → Point → Prop} {state next : State Thread Point Shared Input}
    (sound : Sound belongs state)
    (threads : (next.places.map Prod.fst).Perm (state.places.map Prod.fst))
    (own : ∀ place ∈ next.places, place ∈ state.places ∨ belongs place.1 place.2) :
    Sound belongs next where
  once := threads.nodup_iff.mpr sound.once
  own := fun place inside => (own place inside).elim (sound.own place) id

/-- Taking one out of a list of places and putting it elsewhere. -/
theorem perm_eraseIdx {places : List (Thread × Point)} {place : Nat} {thread : Thread}
    {point : Point} (there : places[place]? = some (thread, point)) :
    (thread :: (places.eraseIdx place).map Prod.fst).Perm (places.map Prod.fst) := by
  obtain ⟨inside, found⟩ := List.getElem?_eq_some_iff.mp there
  have whole := List.getElem_cons_eraseIdx_perm inside
  rw [found] at whole
  exact whole.map Prod.fst

/-- The holder goes on, sleeps or leaves. -/
theorem Sound.apply {belongs : Thread → Point → Prop} {state : State Thread Point Shared Input}
    (closed : Closed program belongs) (sound : Sound belongs state)
    {holder : Holder Thread Point Input} (holds : state.holder = some holder) {input : Input}
    {shared shared' : Shared} {effect : Effect Point}
    (actEq : program.act input holder.point shared = .ok (shared', effect)) (chosen : Nat) :
    Sound belongs ({ state with shared := shared' }.apply (holder.reads input) chosen effect) := by
  have places : state.places = (holder.current.thread, holder.point) ::
      (state.sleeping ++ state.woken) := by
    simp [State.places, holds]
  have own : belongs holder.current.thread holder.point :=
    sound.own (holder.current.thread, holder.point) (by simp [places])
  have goesOn := fun next => closed.goesOn _ _ _ _ _ _ next own actEq
  cases effect with
  | goOn next =>
      refine sound.moved (by simp [State.apply, State.places, holds, Holder.reads]) ?_
      intro place inside
      simp only [State.apply, State.places, Holder.reads, Option.map_some, Option.toList_some,
        List.singleton_append, List.mem_cons] at inside
      rcases inside with rfl | inside
      · exact .inr (goesOn next rfl)
      · exact .inl (by simp [places, List.mem_append.mp inside])
  | notifyOne next =>
      have woken : (state.sleeping.eraseIdx (chosen % state.sleeping.length) ++ (state.woken ++
          (state.sleeping[chosen % state.sleeping.length]?).toList)).Perm
            (state.sleeping ++ state.woken) := by
        cases there : state.sleeping[chosen % state.sleeping.length]? with
        | none =>
            rw [List.eraseIdx_of_length_le (List.getElem?_eq_none_iff.mp there)]
            simp
        | some place =>
            obtain ⟨inside, found⟩ := List.getElem?_eq_some_iff.mp there
            have whole := List.getElem_cons_eraseIdx_perm inside
            rw [found] at whole
            refine List.Perm.trans ?_ (whole.append_right state.woken)
            rw [Option.toList_some, ← List.append_assoc, List.cons_append]
            exact List.perm_append_singleton place _
      refine sound.moved ?_ ?_
      · simp only [State.apply, State.places, Holder.reads, holds, Option.map_some]
        exact (woken.append_left _).map Prod.fst
      · intro place inside
        simp only [State.apply, State.places, Holder.reads, Option.map_some, Option.toList_some,
          List.singleton_append, List.mem_cons] at inside
        rcases inside with rfl | inside
        · exact .inr (goesOn next rfl)
        · exact .inl (by simp [places, List.mem_append.mp (woken.mem_iff.mp inside)])
  | notifyAll next =>
      refine sound.moved ?_ ?_
      · simp only [State.apply, State.places, Holder.reads, holds, Option.map_some,
          List.nil_append]
        exact (List.perm_append_comm.append_left _).map Prod.fst
      · intro place inside
        simp only [State.apply, State.places, Holder.reads, Option.map_some, Option.toList_some,
          List.singleton_append, List.mem_cons, List.nil_append] at inside
        rcases inside with rfl | inside
        · exact .inr (goesOn next rfl)
        · exact .inl (by simp [places, (List.mem_append.mp inside).symm])
  | wait again =>
      refine sound.moved ?_ ?_
      · simp only [State.apply, State.places, Holder.reads, holds, Option.map_none,
          Option.toList_none, List.nil_append, Option.map_some, Option.toList_some,
          List.append_assoc, List.map_append, List.map_cons, List.map_nil]
        exact List.perm_middle.trans (by simp)
      · intro place inside
        simp only [State.apply, State.places, Holder.reads, Option.map_none, Option.toList_none,
          List.nil_append, List.mem_append, List.mem_singleton] at inside
        rcases inside with (asleep | rfl) | awake
        · exact .inl (by simp [places, asleep])
        · exact .inr (closed.waits _ _ _ _ _ _ own actEq)
        · exact .inl (by simp [places, awake])
  | leave =>
      refine ⟨?_, fun place inside => sound.own place ?_⟩
      · have once := sound.once
        rw [places] at once
        simp only [State.apply, State.places, Option.map_none, Option.toList_none,
          List.nil_append]
        exact (List.nodup_cons.mp once).2
      · simp only [State.apply, State.places, Option.map_none, Option.toList_none,
          List.nil_append] at inside
        simp [places, List.mem_append.mp inside]

end Places

/-- A step keeps the threads at their places. -/
theorem sound_step {belongs : Thread → Point → Prop} (closed : Closed program belongs)
    {state next : State Thread Point Shared Input} {event : Event Thread Point Input Call}
    (sound : Sound belongs state) (stepEq : step program state event = .ok next) :
    Sound belongs next := by
  cases moved_of_step stepEq with
  | nothing => exact sound
  | @entered thread point free outside entry =>
      refine ⟨?_, ?_⟩
      · have once := sound.once
        simp only [State.places, free, Option.map_none, Option.toList_none, List.nil_append]
          at once outside
        simpa [State.places, State.lock] using List.nodup_cons.mpr ⟨outside, once⟩
      · intro place inside
        simp only [State.lock, State.places, Option.map_some, Option.toList_some,
          List.singleton_append, List.mem_cons] at inside
        rcases inside with rfl | inside
        · exact closed.entry thread point entry
        · exact sound.own place (by simp [State.places, free, List.mem_append.mp inside])
  | @relocked place thread point free awake =>
      refine sound.moved ?_ ?_
      · simp only [State.lock, State.places, free, Option.map_some, Option.toList_some,
          Option.map_none, Option.toList_none, List.singleton_append, List.nil_append,
          List.map_cons, List.map_append]
        exact List.perm_middle.symm.trans ((perm_eraseIdx awake).append_left _)
      · intro other inside
        simp only [State.lock, State.places, Option.map_some, Option.toList_some,
          List.singleton_append, List.mem_cons, List.mem_append] at inside
        have from_woken : ∀ one ∈ state.woken, one ∈ state.places := by
          intro one there
          simp [State.places, there]
        rcases inside with rfl | asleep | awake'
        · exact .inl (from_woken _ (List.mem_of_getElem? awake))
        · exact .inl (by simp [State.places, asleep])
        · exact .inl (from_woken _ (List.mem_of_mem_eraseIdx awake'))
  | @woke place timedOut thread point asleep =>
      refine sound.moved ?_ ?_
      · simp only [State.places, List.map_append, List.map_cons, List.map_nil]
        refine List.Perm.append_left _ ?_
        rw [← List.append_assoc]
        refine (List.perm_append_singleton thread _).trans ?_
        exact (perm_eraseIdx asleep).append_right _
      · intro other inside
        have there : belongs thread point :=
          sound.own (thread, point) (by simp [State.places, List.mem_of_getElem? asleep])
        simp only [State.places, List.mem_append, List.mem_singleton] at inside
        rcases inside with held | asleep' | awake | rfl
        · exact .inl (by simp only [State.places, List.mem_append, held, true_or])
        · exact .inl (by simp [State.places, List.mem_of_mem_eraseIdx asleep'])
        · exact .inl (by simp [State.places, awake])
        · cases timedOut with
          | true => exact .inr (closed.timeout thread point there)
          | false => exact .inr there
  | acted holds actEq => exact Sound.apply closed sound holds actEq _
  | outer => exact ⟨sound.once, sound.own⟩

/-! ### Sections follow each other -/

/-- The actions of a section, from a point on, as long as there are inputs. -/
def perform (program : Program Thread Point Shared Input Call Fault) :
    Shared → Point → List Input → Except Fault (Shared × Option Point)
  | shared, point, [] => .ok (shared, some point)
  | shared, point, input :: inputs =>
      match program.act input point shared with
      | .error fault => .error fault
      | .ok (shared, effect) =>
          match effect.next with
          | none => .ok (shared, none)
          | some next => perform program shared next inputs

/-- The points at which waits go on. -/
structure Resumes (program : Program Thread Point Shared Input Call Fault)
    (resumes : Point → Prop) : Prop where
  timeout : ∀ point, resumes point → resumes (program.timeout point)
  waits : ∀ point input shared shared' again,
    program.act input point shared = .ok (shared', .wait again) → resumes again

/-- The points at which a section can start: where threads enter and where waits go on. -/
structure Opens (program : Program Thread Point Shared Input Call Fault) (opens : Point → Prop) :
    Prop extends Resumes program opens where
  entry : ∀ thread point, program.entry thread point = true → opens point

/-- Every thread that waits will go on at one of the points. -/
def Waiting (resumes : Point → Prop) (state : State Thread Point Shared Input) : Prop :=
  ∀ place ∈ state.sleeping ++ state.woken, resumes place.2

/-- Sections that are performed one after the other, each to its end. -/
inductive Serially (program : Program Thread Point Shared Input Call Fault)
    (opens : Point → Prop) : Shared → List (Section Thread Point Input) → Shared → Prop
  | nil {shared} : Serially program opens shared [] shared
  | snoc {start before after sections last}
      (earlier : Serially program opens start sections before) (opened : opens last.entered)
      (ends : perform program before last.entered last.inputs = .ok (after, none)) :
      Serially program opens start (sections ++ [last]) after

/-- The shared state was `before` when the mutex was last taken or given up, and the holder is in
the middle of a section that started then. -/
def InSection (program : Program Thread Point Shared Input Call Fault) (opens : Point → Prop)
    (before shared : Shared) : Option (Holder Thread Point Input) → Prop
  | none => before = shared
  | some holder => opens holder.current.entered ∧
      perform program before holder.current.entered holder.current.inputs =
        .ok (shared, some holder.point)

/-- The completed sections have been performed one after the other, and the holder of the mutex is
in the middle of the next one. -/
structure Serial (program : Program Thread Point Shared Input Call Fault) (opens : Point → Prop)
    (start : Shared) (state : State Thread Point Shared Input) : Prop where
  waiting : Waiting opens state
  sections : ∃ before, Serially program opens start state.completed before ∧
    InSection program opens before state.shared state.holder

section Sections

omit [DecidableEq Thread]

theorem waiting_start (resumes : Point → Prop) (start : Shared) :
    Waiting resumes (State.start start : State Thread Point Shared Input) := by
  simp [Waiting, State.start]

theorem serial_start (opens : Point → Prop) (start : Shared) :
    Serial program opens start (State.start start) where
  waiting := waiting_start opens start
  sections := ⟨start, .nil, rfl⟩

/-- One action more. -/
theorem perform_concat {before shared : Shared} {entered point : Point} {inputs : List Input}
    (sofar : perform program before entered inputs = .ok (shared, some point)) (input : Input) :
    perform program before entered (inputs ++ [input]) =
      (program.act input point shared).map fun done => (done.1, done.2.next) := by
  induction inputs generalizing before entered with
  | nil =>
      simp only [perform, Except.ok.injEq, Prod.mk.injEq, Option.some.injEq] at sofar
      obtain ⟨rfl, rfl⟩ := sofar
      simp only [List.nil_append, perform]
      cases program.act input entered before with
      | error fault => rfl
      | ok done => cases next : done.2.next <;> simp [Except.map, next]
  | cons first inputs inductionHypothesis =>
      simp only [List.cons_append, perform] at sofar ⊢
      cases actEq : program.act first entered before with
      | error fault => simp [actEq] at sofar
      | ok done =>
          rw [actEq] at sofar
          cases nextEq : done.2.next with
          | none => simp [nextEq] at sofar
          | some next =>
              simp only [nextEq] at sofar ⊢
              exact inductionHypothesis sofar

/-- A call does what a section does, if that has come to its end or to a fault. -/
def Agrees (called : Except Fault Shared) : Except Fault (Shared × Option Point) → Prop
  | .ok (after, none) => called = .ok after
  | .ok (_, some _) => True
  | .error fault => called = .error fault

/-- Sections whose calls agree with them are a run of calls. -/
theorem run_of_serially {Calls : Type u} {opens : Point → Prop}
    {abstract : Shared → Calls → Except Fault Shared}
    {callOf : Section Thread Point Input → Calls}
    (agrees : ∀ before done, opens done.entered →
      Agrees (abstract before (callOf done)) (perform program before done.entered done.inputs))
    {start last : Shared} {sections : List (Section Thread Point Input)}
    (serially : Serially program opens start sections last) :
    run abstract start (sections.map callOf) = .ok last := by
  induction serially with
  | nil => rfl
  | @snoc before after sections done earlier opened ends inductionHypothesis =>
      have same := agrees before done opened
      rw [ends] at same
      have called : abstract before (callOf done) = .ok after := same
      rw [List.map_append, run_append inductionHypothesis]
      simp only [List.map_cons, List.map_nil, run, called]

/-- The holder goes on, notifies or sleeps. -/
theorem Waiting.apply {resumes : Point → Prop} {state : State Thread Point Shared Input}
    (resumed : Resumes program resumes) (waiting : Waiting resumes state)
    {holder : Holder Thread Point Input} {point : Point} {input : Input} {shared shared' : Shared}
    {effect : Effect Point} (actEq : program.act input point shared = .ok (shared', effect))
    (chosen : Nat) :
    Waiting resumes ({ state with shared := shared' }.apply holder chosen effect) := by
  intro place inside
  cases effect with
  | goOn | leave => exact waiting place inside
  | notifyOne next =>
      refine waiting place ?_
      simp only [State.apply, List.mem_append, Option.mem_toList] at inside ⊢
      rcases inside with asleep | awake | chosen
      · exact .inl (List.mem_of_mem_eraseIdx asleep)
      · exact .inr awake
      · exact .inl (List.mem_of_getElem? chosen)
  | notifyAll next =>
      refine waiting place ?_
      simp only [State.apply, List.nil_append, List.mem_append] at inside ⊢
      exact inside.symm
  | wait again =>
      simp only [State.apply, List.mem_append, List.mem_singleton] at inside
      rcases inside with (asleep | rfl) | awake
      · exact waiting place (List.mem_append_left _ asleep)
      · exact resumed.waits _ _ _ _ _ actEq
      · exact waiting place (List.mem_append_right _ awake)

/-- The holder goes on, or its section ends. -/
theorem exists_before_apply {opens : Point → Prop} {start before : Shared}
    {state : State Thread Point Shared Input}
    (earlier : Serially program opens start state.completed before)
    {holder : Holder Thread Point Input}
    (now : InSection program opens before state.shared (some holder)) {input : Input}
    {shared : Shared} {effect : Effect Point}
    (actEq : program.act input holder.point state.shared = .ok (shared, effect)) (chosen : Nat) :
    let next := { state with shared := shared }.apply (holder.reads input) chosen effect
    ∃ before, Serially program opens start next.completed before ∧
      InSection program opens before next.shared next.holder := by
  have more := perform_concat now.2 input
  rw [actEq] at more
  cases effect with
  | goOn | notifyOne | notifyAll => exact ⟨before, earlier, now.1, more⟩
  | wait | leave => exact ⟨shared, .snoc earlier now.1 more, rfl⟩

end Sections

/-- A step keeps the waiting threads where they can go on. -/
theorem waiting_step {resumes : Point → Prop} {state next : State Thread Point Shared Input}
    {event : Event Thread Point Input Call} (resumed : Resumes program resumes)
    (waiting : Waiting resumes state) (stepEq : step program state event = .ok next) :
    Waiting resumes next := by
  cases moved_of_step stepEq with
  | nothing | entered | outer => exact waiting
  | relocked =>
      refine fun other there => waiting other ?_
      exact (List.mem_append.mp there).elim (List.mem_append_left _) fun still =>
        List.mem_append_right _ (List.mem_of_mem_eraseIdx still)
  | @woke place timedOut thread point asleep =>
      intro other there
      have slept := waiting (thread, point) (List.mem_append_left _ (List.mem_of_getElem? asleep))
      simp only [List.mem_append, List.mem_singleton] at there
      rcases there with still | awake | rfl
      · exact waiting other (List.mem_append_left _ (List.mem_of_mem_eraseIdx still))
      · exact waiting other (List.mem_append_right _ awake)
      · cases timedOut with
        | true => exact resumed.timeout point slept
        | false => exact slept
  | acted holds actEq => exact waiting.apply resumed actEq _

/-- A step keeps the sections apart, if nothing is done to the shared state without the mutex. -/
theorem serial_step {opens : Point → Prop} {start : Shared}
    {state next : State Thread Point Shared Input} {event : Event Thread Point Input Call}
    (opened : Opens program opens) (serial : Serial program opens start state)
    (inside : ∀ call, event ≠ .outer call) (stepEq : step program state event = .ok next) :
    Serial program opens start next := by
  refine ⟨waiting_step opened.toResumes serial.waiting stepEq, ?_⟩
  obtain ⟨waiting, before, earlier, now⟩ := serial
  cases moved_of_step stepEq with
  | nothing | woke => exact ⟨before, earlier, now⟩
  | @entered thread point free outside entry =>
      rw [free] at now
      obtain rfl : before = state.shared := now
      exact ⟨state.shared, earlier, opened.entry thread point entry, rfl⟩
  | @relocked place thread point free awake =>
      rw [free] at now
      obtain rfl : before = state.shared := now
      refine ⟨state.shared, earlier, ?_, rfl⟩
      exact waiting (thread, point) (List.mem_append_right _ (List.mem_of_getElem? awake))
  | acted holds actEq =>
      rw [holds] at now
      exact exists_before_apply earlier now actEq _
  | outer => exact absurd rfl (inside _)

/-- Whatever the interleaving, the sections follow each other. -/
theorem serial_of_run {opens : Point → Prop} (opened : Opens program opens) (start : Shared)
    {events : List (Event Thread Point Input Call)}
    (inside : ∀ event ∈ events, ∀ call, event ≠ .outer call)
    {last : State Thread Point Shared Input}
    (reached : run (step program) (State.start start) events = .ok last) :
    Serial program opens start last := by
  have always : Always (step program) (Serial program opens start) (State.start start) events :=
    always_of_admissible
      (fun _ _ _ serial within stepEq => serial_step opened serial within stepEq)
      (serial_start opens start) (admissible_of_forall_mem inside _)
  exact always.last reached

/-- A run that faults does so in the middle of a section, and the same section faults when it is
performed after those before it. -/
theorem fault_of_run {opens : Point → Prop} (opened : Opens program opens) {start : Shared}
    {events : List (Event Thread Point Input Call)}
    (inside : ∀ event ∈ events, ∀ call, event ≠ .outer call) {fault : Fault}
    {state : State Thread Point Shared Input} (serial : Serial program opens start state)
    (faults : run (step program) state events = .error fault) :
    ∃ (sections : List (Section Thread Point Input)) (before : Shared)
      (last : Section Thread Point Input), Serially program opens start sections before ∧
        opens last.entered ∧ perform program before last.entered last.inputs = .error fault := by
  induction events generalizing state with
  | nil => exact absurd faults (by simp [run])
  | cons event events inductionHypothesis =>
      have within := inside event (List.mem_cons_self ..)
      cases stepEq : step program state event with
      | ok next =>
          simp only [run, stepEq] at faults
          exact inductionHypothesis (fun other later => inside other (List.mem_cons_of_mem _ later))
            (serial_step opened serial within stepEq) faults
      | error found =>
          simp only [run, stepEq, Except.error.injEq] at faults
          subst faults
          cases event with
          | enter | relock | wake =>
              simp only [step] at stepEq
              split at stepEq <;> exact absurd stepEq (by simp)
          | outer call => exact absurd rfl (within call)
          | act input chosen =>
              obtain ⟨_, before, earlier, now⟩ := serial
              simp only [step] at stepEq
              split at stepEq
              · exact absurd stepEq (by simp)
              · rename_i holder holds
                rw [holds] at now
                have more := perform_concat now.2 input
                split at stepEq
                · rename_i actEq
                  rw [actEq] at more
                  obtain rfl := Except.error.inj stepEq
                  exact ⟨_, before, (holder.reads input).current, earlier, now.1, more⟩
                · exact absurd stepEq (by simp)

/-- The rule for a refinement: if a call agrees with each section, then a run of the threads is a
run of the calls for the sections, in the order in which they have given the mutex up; and if the
threads fault, so do calls. -/
theorem calls_of_run {Calls : Type u} {opens : Point → Prop} (opened : Opens program opens)
    {abstract : Shared → Calls → Except Fault Shared}
    {callOf : Section Thread Point Input → Calls}
    (agrees : ∀ before done, opens done.entered →
      Agrees (abstract before (callOf done)) (perform program before done.entered done.inputs))
    (start : Shared) {events : List (Event Thread Point Input Call)}
    (inside : ∀ event ∈ events, ∀ call, event ≠ .outer call) :
    (∀ last, run (step program) (State.start start) events = .ok last →
      ∃ before, run abstract start (last.completed.map callOf) = .ok before ∧
        InSection program opens before last.shared last.holder) ∧
    ∀ fault, run (step program) (State.start start) events = .error fault →
      ∃ calls, run abstract start calls = .error fault := by
  constructor
  · intro last reached
    obtain ⟨_, before, earlier, now⟩ := serial_of_run opened start inside reached
    exact ⟨before, run_of_serially agrees earlier, now⟩
  · intro fault faults
    obtain ⟨sections, before, last, earlier, opens', performed⟩ :=
      fault_of_run opened inside (serial_start opens start) faults
    have same := agrees before last opens'
    rw [performed] at same
    have called : abstract before (callOf last) = .error fault := same
    refine ⟨sections.map callOf ++ [callOf last], ?_⟩
    rw [run_append (run_of_serially agrees earlier)]
    simp only [run, called]

/-! ### Who sleeps has nothing to do -/

/-- Every sleeper has nothing to do, or the holder of the mutex is at a point from which it will
notify the sleeper. -/
def Covered (idle : Point → Shared → Prop) (owes : Point → Point → Prop)
    (state : State Thread Point Shared Input) : Prop :=
  ∀ sleeper ∈ state.sleeping, idle sleeper.2 state.shared ∨
    ∃ holder ∈ state.holder, owes holder.point sleeper.2

/-- What an action has to see to for a thread that sleeps at a point and is not the one notified. -/
def Discharged (idle : Point → Shared → Prop) (owes : Point → Point → Prop) (asleep : Point)
    (shared : Shared) : Effect Point → Prop
  | .goOn next => idle asleep shared ∨ owes next asleep
  | .notifyOne next => idle asleep shared ∨ owes next asleep
  | .notifyAll _ => True
  | .wait _ => idle asleep shared
  | .leave => idle asleep shared

section Covered

omit [DecidableEq Thread]

variable {idle : Point → Shared → Prop} {owes : Point → Point → Prop}

theorem covered_start (shared : Shared) :
    Covered idle owes (State.start shared : State Thread Point Shared Input) := by
  intro sleeper asleep
  simp [State.start] at asleep

/-- With the mutex free, sleepers have nothing to do. -/
theorem Covered.idle_of_free {state : State Thread Point Shared Input}
    (covered : Covered idle owes state) (free : state.holder = none)
    {sleeper : Thread × Point} (asleep : sleeper ∈ state.sleeping) :
    idle sleeper.2 state.shared := by
  refine (covered sleeper asleep).resolve_right ?_
  rintro ⟨holder, holds, _⟩
  rw [free] at holds
  exact absurd holds (by simp)

/-- An action that does not notify one thread alone covers all sleepers exactly if it sees to each
of them, and leaves a thread asleep only with nothing to do. -/
theorem covered_apply_iff {state : State Thread Point Shared Input}
    {holder : Holder Thread Point Input} {shared : Shared} {effect : Effect Point} (chosen : Nat)
    (all : ∀ next, effect ≠ .notifyOne next) :
    Covered idle owes ({ state with shared := shared }.apply holder chosen effect) ↔
      (∀ sleeper ∈ state.sleeping, Discharged idle owes sleeper.2 shared effect) ∧
        ∀ again, effect = .wait again → idle again shared := by
  cases effect with
  | goOn next => simp [Covered, State.apply, Discharged]
  | notifyOne next => exact absurd rfl (all next)
  | notifyAll next => simp [Covered, State.apply, Discharged]
  | wait again =>
      simp only [Covered, State.apply, Discharged, Option.mem_def, reduceCtorEq, false_and,
        exists_false, or_false, List.mem_append, List.mem_singleton, Effect.wait.injEq,
        forall_eq']
      constructor
      · intro idles
        exact ⟨fun sleeper asleep => idles sleeper (.inl asleep),
          idles (holder.current.thread, again) (.inr rfl)⟩
      · rintro ⟨idles, new⟩ sleeper (asleep | rfl)
        · exact idles sleeper asleep
        · exact new
  | leave => simp [Covered, State.apply, Discharged]

/-- A notification of one thread is enough if only one sleeps. -/
theorem covered_notifyOne {state : State Thread Point Shared Input}
    (alone : state.sleeping.length ≤ 1) (holder : Holder Thread Point Input) (shared : Shared)
    (chosen : Nat) (next : Point) :
    Covered idle owes ({ state with shared := shared }.apply holder chosen (.notifyOne next)) := by
  intro sleeper asleep
  have nobody : state.sleeping.eraseIdx (chosen % state.sleeping.length) = [] := by
    match sleepers : state.sleeping, alone with
    | [], _ => rfl
    | [one], _ => simp [Nat.mod_one]
  simp only [State.apply, nobody] at asleep
  exact absurd asleep (by simp)

end Covered

/-- A step keeps all sleepers covered if an action sees to them and nothing that is done without
the mutex gives one of them something to do. -/
theorem covered_step {idle : Point → Shared → Prop} {owes : Point → Point → Prop}
    {state next : State Thread Point Shared Input} {event : Event Thread Point Input Call}
    (covered : Covered idle owes state)
    (acts : ∀ input chosen holder shared effect, event = .act input chosen →
      state.holder = some holder → program.act input holder.point state.shared =
        .ok (shared, effect) →
      Covered idle owes ({ state with shared := shared }.apply (holder.reads input) chosen effect))
    (outer : ∀ call shared, event = .outer call → program.outer call state.shared = .ok shared →
      ∀ asleep, idle asleep state.shared → idle asleep shared)
    (stepEq : step program state event = .ok next) : Covered idle owes next := by
  cases moved_of_step stepEq with
  | nothing => exact covered
  | entered free | relocked free =>
      intro sleeper asleep
      exact .inl (covered.idle_of_free free asleep)
  | woke => exact fun sleeper asleep => covered sleeper (List.mem_of_mem_eraseIdx asleep)
  | acted holds actEq => exact acts _ _ _ _ _ rfl holds actEq
  | outer outerEq =>
      intro sleeper asleep
      exact (covered sleeper asleep).imp_left (outer _ _ rfl outerEq sleeper.2)

/-- A guard that is exact for the actions of the holder is exact for whole runs. -/
theorem covered_always_iff {idle : Point → Shared → Prop} {owes : Point → Point → Prop}
    {guard : State Thread Point Shared Input → Event Thread Point Input Call → Prop}
    (others : ∀ state event, (∀ input chosen, event ≠ .act input chosen) → guard state event)
    (nobody : ∀ state event, state.holder = none → guard state event)
    (faults : ∀ state holder input chosen fault, state.holder = some holder →
      program.act input holder.point state.shared = .error fault → guard state (.act input chosen))
    (outer : ∀ call shared after, program.outer call shared = .ok after →
      ∀ asleep, idle asleep shared → idle asleep after)
    (exactly : ∀ state holder input chosen after effect, Covered idle owes state →
      state.holder = some holder → program.act input holder.point state.shared =
        .ok (after, effect) →
      (guard state (.act input chosen) ↔ Covered idle owes
        ({ state with shared := after }.apply (holder.reads input) chosen effect)))
    (shared : Shared) (events : List (Event Thread Point Input Call)) :
    Always (step program) (Covered idle owes) (State.start shared) events ↔
      Admissible (step program) guard (State.start shared) events := by
  have inside : Admissible (step program) (fun _ _ => True)
      (State.start shared : State Thread Point Shared Input) events :=
    admissible_of_forall (fun _ _ => trivial) _ events
  refine always_iff_admissible (fun state event covered _ => ?_) (covered_start shared) events
    inside
  constructor
  · intro met next stepEq
    refine covered_step covered ?_ (fun call after _ => outer call state.shared after) stepEq
    rintro input chosen holder after effect rfl holds actEq
    exact (exactly state holder input chosen after effect covered holds actEq).mp met
  · intro kept
    cases event with
    | act input chosen =>
        cases holds : state.holder with
        | none => exact nobody state _ holds
        | some holder =>
            cases actEq : program.act input holder.point state.shared with
            | error fault => exact faults state holder input chosen fault holds actEq
            | ok done =>
                refine (exactly state holder input chosen done.1 done.2 covered holds actEq).mpr ?_
                refine kept _ ?_
                simp [step, holds, actEq]
    | enter | relock | wake | outer => exact others state _ (by simp)

end GomukuServer.Base.Monitor
