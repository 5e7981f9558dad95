/-
Module: GomukuServer.Base.Runs
Layer: Base
Purpose: Runs of a deterministic step function that may fault.  A concurrent program is run here by
  letting the event name the thread that moves, so a list of events is one interleaving.  The rules
  say how a property of single steps becomes a property of whole runs, and when a condition on the
  steps is not only enough for the property but exactly what the property needs.
Trusted boundary: none
Main exports: run, Admissible, WhenReturns, Always, Throughout, always_of_admissible,
  admissible_congr_of_inv, Admissible.exists_run_of_simulates, exists_run_of_projects,
  run_of_commutes, exists_run_of_history, history_of_run, throughout_of_history,
  always_iff_of_same_steps, admissible_iff_of_same_steps, always_iff_admissible,
  always_iff_whenReturns, throughout_iff_admissible, throughout_iff_of_kept, stepsThat,
  exists_run_of_doubling
-/
import Mathlib.Algebra.Group.Nat.Defs

namespace GomukuServer.Base.Runs

universe u v w

variable {State : Type u} {Event : Type v} {Fault : Type w}

/-- Execute the events in order.  The first fault ends the run. -/
def run (step : State → Event → Except Fault State) : State → List Event → Except Fault State
  | state, [] => .ok state
  | state, event :: events =>
      match step state event with
      | .ok next => run step next events
      | .error fault => .error fault

/-- Every step of the run meets `guard` in the state it starts from.  The guard is used for the
condition of a result and also for its domain, the runs the result speaks about. -/
def Admissible (step : State → Event → Except Fault State) (guard : State → Event → Prop) :
    State → List Event → Prop
  | _, [] => True
  | state, event :: events =>
      guard state event ∧
        ∀ next, step state event = .ok next → Admissible step guard next events

/-- A condition that is asked only of steps that return. -/
def WhenReturns (step : State → Event → Except Fault State) (guard : State → Event → Prop)
    (state : State) (event : Event) : Prop :=
  (step state event).isOk = true → guard state event

instance {step : State → Event → Except Fault State} {guard : State → Event → Prop}
    [∀ state event, Decidable (guard state event)] (state : State) (event : Event) :
    Decidable (WhenReturns step guard state event) :=
  inferInstanceAs (Decidable (_ → _))

/-- `P` holds in every state the run visits, the first one included.  A fault ends the run. -/
def Always (step : State → Event → Except Fault State) (P : State → Prop) :
    State → List Event → Prop
  | state, [] => P state
  | state, event :: events =>
      P state ∧ ∀ next, step state event = .ok next → Always step P next events

/-- The run visits only states with `P` and never faults. -/
def Throughout (step : State → Event → Except Fault State) (P : State → Prop) :
    State → List Event → Prop
  | state, [] => P state
  | state, event :: events =>
      P state ∧ ∃ next, step state event = .ok next ∧ Throughout step P next events

variable {step : State → Event → Except Fault State}

/-- Every run is in the domain of a result that has no condition on the steps. -/
theorem admissible_of_forall {guard : State → Event → Prop} (met : ∀ state event, guard state event)
    (state : State) (events : List Event) : Admissible step guard state events := by
  induction events generalizing state with
  | nil => trivial
  | cons event events inductionHypothesis =>
      exact ⟨met state event, fun next _ => inductionHypothesis next⟩

/-- Whether a run is admissible can be computed if the guard can. -/
instance decidableAdmissible {guard : State → Event → Prop}
    [∀ state event, Decidable (guard state event)] :
    (state : State) → (events : List Event) → Decidable (Admissible step guard state events)
  | _, [] => isTrue trivial
  | state, event :: events =>
      match stepEq : step state event with
      | .ok next =>
          have : Decidable (Admissible step guard next events) := decidableAdmissible next events
          decidable_of_iff (guard state event ∧ Admissible step guard next events)
            (by simp [Admissible, stepEq])
      | .error fault => decidable_of_iff (guard state event) (by simp [Admissible, stepEq])

/-- A successful run splits after its first event. -/
theorem run_cons_ok {state last : State} {event : Event} {events : List Event}
    (reached : run step state (event :: events) = .ok last) :
    ∃ next, step state event = .ok next ∧ run step next events = .ok last := by
  simp only [run] at reached
  cases stepEq : step state event with
  | error fault => simp [stepEq] at reached
  | ok next =>
      rw [stepEq] at reached
      exact ⟨next, rfl, reached⟩

/-- A run goes on from where its first part has ended. -/
theorem run_append {state middle : State} {first second : List Event}
    (reached : run step state first = .ok middle) :
    run step state (first ++ second) = run step middle second := by
  induction first generalizing state with
  | nil =>
      obtain rfl := Except.ok.inj reached
      rfl
  | cons event first inductionHypothesis =>
      obtain ⟨next, stepEq, rest⟩ := run_cons_ok reached
      simp only [List.cons_append, run, stepEq, inductionHypothesis rest]

/-- An invariant kept by every admissible step holds in every state an admissible run visits. -/
theorem always_of_admissible {inv : State → Prop} {guard : State → Event → Prop}
    (keeps : ∀ state event next, inv state → guard state event →
      step state event = .ok next → inv next)
    {state : State} (start : inv state) {events : List Event}
    (admissible : Admissible step guard state events) : Always step inv state events := by
  induction events generalizing state with
  | nil => exact start
  | cons event events inductionHypothesis =>
      refine ⟨start, fun next stepEq => ?_⟩
      exact inductionHypothesis (keeps state event next start admissible.1 stepEq)
        (admissible.2 next stepEq)

/-- A run that is seen to return has a last state. -/
theorem exists_last_of_isOk {state : State} {events : List Event}
    (returns : (run step state events).isOk = true) : ∃ last, run step state events = .ok last := by
  cases reached : run step state events with
  | error fault => simp [reached, Except.isOk, Except.toBool] at returns
  | ok last => exact ⟨last, rfl⟩

/-- Two properties that hold always hold together. -/
theorem Always.and {P Q : State → Prop} {state : State} {events : List Event}
    (one : Always step P state events) (two : Always step Q state events) :
    Always step (fun state => P state ∧ Q state) state events := by
  induction events generalizing state with
  | nil => exact ⟨one, two⟩
  | cons event events inductionHypothesis =>
      exact ⟨⟨one.1, two.1⟩, fun next stepEq =>
        inductionHypothesis (one.2 next stepEq) (two.2 next stepEq)⟩

/-- A weaker property holds as well. -/
theorem Always.imp {P Q : State → Prop} (weaker : ∀ state, P state → Q state) {state : State}
    {events : List Event} (always : Always step P state events) : Always step Q state events := by
  induction events generalizing state with
  | nil => exact weaker state always
  | cons event events inductionHypothesis =>
      exact ⟨weaker state always.1, fun next stepEq => inductionHypothesis (always.2 next stepEq)⟩

/-- What holds always holds at first. -/
theorem Always.first {P : State → Prop} {state : State} {events : List Event}
    (always : Always step P state events) : P state := by
  cases events with
  | nil => exact always
  | cons => exact always.1

/-- What a step between two good states keeps holds as long as all states are good. -/
theorem Always.carry {P Q : State → Prop}
    (keeps : ∀ state event next, P state → P next → Q state → step state event = .ok next → Q next)
    {state : State} (start : Q state) {events : List Event} (always : Always step P state events) :
    Always step Q state events := by
  induction events generalizing state with
  | nil => exact start
  | cons event events inductionHypothesis =>
      refine ⟨start, fun next stepEq => ?_⟩
      have rest := always.2 next stepEq
      exact inductionHypothesis (keeps state event next always.1 rest.first start stepEq) rest

/-- What holds always holds at the end of the run. -/
theorem Always.last {P : State → Prop} {state last : State} {events : List Event}
    (always : Always step P state events) (reached : run step state events = .ok last) :
    P last := by
  induction events generalizing state with
  | nil =>
      simp only [run, Except.ok.injEq] at reached
      exact reached ▸ always
  | cons event events inductionHypothesis =>
      obtain ⟨next, stepEq, rest⟩ := run_cons_ok reached
      exact inductionHypothesis (always.2 next stepEq) rest

/-- What can be seen of the last state of a run may be enough to tell that something has not held
always. -/
theorem not_always_of_view {P : State → Prop} {View : Type w} {view : State → View} {seen : View}
    {state : State} {events : List Event}
    (observed : (run step state events).toOption.map view = some seen)
    (bad : ∀ last, view last = seen → ¬ P last) : ¬ Always step P state events := by
  intro always
  cases reached : run step state events with
  | error fault => simp [reached, Except.toOption] at observed
  | ok last =>
      rw [reached] at observed
      exact bad last (Option.some.inj observed) (always.last reached)

/-- A weaker condition is met as well. -/
theorem Admissible.imp {first second : State → Event → Prop}
    (weaker : ∀ state event, first state event → second state event) {state : State}
    {events : List Event} (admissible : Admissible step first state events) :
    Admissible step second state events := by
  induction events generalizing state with
  | nil => trivial
  | cons event events inductionHypothesis =>
      exact ⟨weaker state event admissible.1, fun next stepEq =>
        inductionHypothesis (admissible.2 next stepEq)⟩

/-- Two conditions on the steps are one. -/
theorem Admissible.and {first second : State → Event → Prop} {state : State}
    {events : List Event} (one : Admissible step first state events)
    (two : Admissible step second state events) :
    Admissible step (fun state event => first state event ∧ second state event) state events := by
  induction events generalizing state with
  | nil => trivial
  | cons event events inductionHypothesis =>
      exact ⟨⟨one.1, two.1⟩, fun next stepEq =>
        inductionHypothesis (one.2 next stepEq) (two.2 next stepEq)⟩

/-- Equivalent conditions admit the same runs. -/
theorem admissible_congr {first second : State → Event → Prop}
    (same : ∀ state event, first state event ↔ second state event) (state : State)
    (events : List Event) :
    Admissible step first state events ↔ Admissible step second state events :=
  ⟨Admissible.imp fun state event => (same state event).mp,
    Admissible.imp fun state event => (same state event).mpr⟩

/-- A condition on the events alone is met if all of them meet it. -/
theorem admissible_of_forall_mem {guard : Event → Prop} {events : List Event}
    (met : ∀ event ∈ events, guard event) (state : State) :
    Admissible step (fun _ event => guard event) state events := by
  induction events generalizing state with
  | nil => trivial
  | cons event events inductionHypothesis =>
      refine ⟨met event (by simp), fun next _ => ?_⟩
      exact inductionHypothesis (fun other member => met other (by simp [member])) next

/-- A condition that follows in good states is met by a run that stays in good states. -/
theorem Admissible.imp_of_inv {inv : State → Prop} {first second : State → Event → Prop}
    (keeps : ∀ state event next, inv state → first state event →
      step state event = .ok next → inv next)
    (weaker : ∀ state event, inv state → first state event → second state event)
    {state : State} (start : inv state) {events : List Event}
    (admissible : Admissible step first state events) : Admissible step second state events := by
  induction events generalizing state with
  | nil => trivial
  | cons event events inductionHypothesis =>
      refine ⟨weaker state event start admissible.1, fun next stepEq => ?_⟩
      exact inductionHypothesis (keeps state event next start admissible.1 stepEq)
        (admissible.2 next stepEq)

/-- Conditions that are equivalent in good states admit the same runs, if every step inside the
domain keeps the states good. -/
theorem admissible_congr_of_inv {inv : State → Prop} {domain first second : State → Event → Prop}
    (keeps : ∀ state event next, inv state → domain state event →
      step state event = .ok next → inv next)
    (same : ∀ state event, inv state → domain state event →
      (first state event ↔ second state event))
    {state : State} (start : inv state) {events : List Event}
    (inside : Admissible step domain state events) :
    Admissible step first state events ↔ Admissible step second state events := by
  constructor
  · intro admissible
    exact (inside.and admissible).imp_of_inv
      (fun state event next good met => keeps state event next good met.1)
      (fun state event good met => (same state event good met.1).mp met.2) start
  · intro admissible
    exact (inside.and admissible).imp_of_inv
      (fun state event next good met => keeps state event next good met.1)
      (fun state event good met => (same state event good met.1).mpr met.2) start

section OtherSteps

variable {other : State → Event → Except Fault State} {events : List Event}

/-- What holds always does so for another step function that does the same on these events. -/
theorem always_iff_of_same_steps {P : State → Prop}
    (same : ∀ event ∈ events, ∀ state, step state event = other state event) (state : State) :
    Always step P state events ↔ Always other P state events := by
  induction events generalizing state with
  | nil => exact Iff.rfl
  | cons event events inductionHypothesis =>
      rw [List.forall_mem_cons] at same
      simp only [Always, same.1 state, inductionHypothesis same.2]

/-- A condition that is the same on these events is met by the same runs of such a function. -/
theorem admissible_iff_of_same_steps {first second : State → Event → Prop}
    (same : ∀ event ∈ events, ∀ state, step state event = other state event)
    (guards : ∀ event ∈ events, ∀ state, first state event ↔ second state event) (state : State) :
    Admissible step first state events ↔ Admissible other second state events := by
  induction events generalizing state with
  | nil => exact Iff.rfl
  | cons event events inductionHypothesis =>
      rw [List.forall_mem_cons] at same guards
      simp only [Admissible, same.1 state, guards.1 state, inductionHypothesis same.2 guards.2]

end OtherSteps

/-- What comes after a part of an admissible run is an admissible run. -/
theorem Admissible.after_run {guard : State → Event → Prop} {state middle : State}
    {first second : List Event} (admissible : Admissible step guard state (first ++ second))
    (reached : run step state first = .ok middle) : Admissible step guard middle second := by
  induction first generalizing state with
  | nil =>
      obtain rfl := Except.ok.inj reached
      exact admissible
  | cons head first inductionHypothesis =>
      obtain ⟨next, stepEq, rest⟩ := run_cons_ok reached
      exact inductionHypothesis (admissible.2 next stepEq) rest

/-- A run goes on admissibly from where its first part has ended. -/
theorem Admissible.append {guard : State → Event → Prop} {state : State} {first second : List Event}
    (one : Admissible step guard state first)
    (two : ∀ middle, run step state first = .ok middle → Admissible step guard middle second) :
    Admissible step guard state (first ++ second) := by
  induction first generalizing state with
  | nil => exact two state rfl
  | cons event first inductionHypothesis =>
      refine ⟨one.1, fun next stepEq => inductionHypothesis (one.2 next stepEq) ?_⟩
      intro middle reached
      exact two middle (by simp only [run, stepEq, reached])

/-- An admissible run meets the guard at any of its events. -/
theorem Admissible.guard_of_run {guard : State → Event → Prop} {state middle : State}
    {first second : List Event} {event : Event}
    (admissible : Admissible step guard state (first ++ event :: second))
    (reached : run step state first = .ok middle) : guard middle event :=
  (admissible.after_run reached).1

/-- A relation that every admissible step keeps to, and that can be chained, holds between the first
and the last state of an admissible run. -/
theorem Admissible.related {guard : State → Event → Prop} {related : State → State → Prop}
    (keeps : ∀ state event next, guard state event → step state event = .ok next →
      related state next)
    (refl : ∀ state, related state state)
    (trans : ∀ first second third, related first second → related second third →
      related first third)
    {state last : State} {events : List Event} (admissible : Admissible step guard state events)
    (reached : run step state events = .ok last) : related state last := by
  induction events generalizing state with
  | nil =>
      obtain rfl := Except.ok.inj reached
      exact refl state
  | cons event events inductionHypothesis =>
      obtain ⟨next, stepEq, rest⟩ := run_cons_ok reached
      exact trans state next last (keeps state event next admissible.1 stepEq)
        (inductionHypothesis (admissible.2 next stepEq) rest)

/-- The rule for a simulation: if every admissible step from related states is matched by a run of
the other machine, then so is every admissible run. -/
theorem Admissible.exists_run_of_simulates {Other : Type w} {Move : Type v}
    {move : Other → Move → Except Fault Other} {related : State → Other → Prop}
    {guard : State → Event → Prop}
    (simulates : ∀ state other event next, related state other → guard state event →
      step state event = .ok next → ∃ moves last, run move other moves = .ok last ∧
        related next last)
    {state last : State} {other : Other} (start : related state other) {events : List Event}
    (admissible : Admissible step guard state events) (reached : run step state events = .ok last) :
    ∃ moves final, run move other moves = .ok final ∧ related last final := by
  induction events generalizing state other with
  | nil =>
      obtain rfl := Except.ok.inj reached
      exact ⟨[], other, rfl, start⟩
  | cons event events inductionHypothesis =>
      obtain ⟨next, stepEq, rest⟩ := run_cons_ok reached
      obtain ⟨first, middle, moved, relatedNext⟩ :=
        simulates state other event next start admissible.1 stepEq
      obtain ⟨second, final, ended, relatedLast⟩ :=
        inductionHypothesis relatedNext (admissible.2 next stepEq) rest
      exact ⟨first ++ second, final, by rw [run_append moved, ended], relatedLast⟩

/-- The same when all steps are matched. -/
theorem exists_run_of_simulates {Other : Type w} {Move : Type v}
    {move : Other → Move → Except Fault Other} {related : State → Other → Prop}
    (simulates : ∀ state other event next, related state other → step state event = .ok next →
      ∃ moves last, run move other moves = .ok last ∧ related next last)
    {state last : State} {other : Other} (start : related state other) {events : List Event}
    (reached : run step state events = .ok last) :
    ∃ moves final, run move other moves = .ok final ∧ related last final := by
  have all : Admissible step (fun _ _ => True) state events :=
    admissible_of_forall (fun _ _ => trivial) state events
  exact all.exists_run_of_simulates
    (fun state other event next here _ => simulates state other event next here) start reached

/-- The rule for a machine that is only concerned by some of the events: if every step between good
states is matched by a step of the other machine, or by none, then so is every run that stays in
good states, and the other machine executes just the events that concern it. -/
theorem exists_run_of_projects {Other : Type w} {Move : Type v}
    {move : Other → Move → Except Fault Other} {project : Event → Option Move}
    {P : State → Prop} {related : State → Other → Prop}
    (simulates : ∀ state other event next, P state → P next → related state other →
      step state event = .ok next →
      ∃ final, run move other (project event).toList = .ok final ∧ related next final)
    {state last : State} {other : Other} (start : related state other) {events : List Event}
    (always : Always step P state events) (reached : run step state events = .ok last) :
    ∃ final, run move other (events.filterMap project) = .ok final ∧ related last final := by
  induction events generalizing state other with
  | nil =>
      obtain rfl := Except.ok.inj reached
      exact ⟨other, rfl, start⟩
  | cons event events inductionHypothesis =>
      obtain ⟨next, stepEq, rest⟩ := run_cons_ok reached
      have later := always.2 next stepEq
      obtain ⟨middle, moved, relatedNext⟩ :=
        simulates state other event next always.1 later.first start stepEq
      obtain ⟨final, ended, relatedLast⟩ := inductionHypothesis relatedNext later rest
      refine ⟨final, ?_, relatedLast⟩
      have split : (event :: events).filterMap project =
          (project event).toList ++ events.filterMap project := by
        cases concerns : project event <;> simp [concerns]
      rw [split, run_append moved, ended]

/-- A change of the state that commutes with every step commutes with every run. -/
theorem run_of_commutes {change : State → State}
    (commutes : ∀ state event, step (change state) event = (step state event).map change)
    (state : State) (events : List Event) :
    run step (change state) events = (run step state events).map change := by
  induction events generalizing state with
  | nil => rfl
  | cons event events inductionHypothesis =>
      cases stepEq : step state event with
      | error fault => simp [run, commutes, stepEq, Except.map]
      | ok next => simp [run, commutes, stepEq, Except.map, inductionHypothesis]

/-- A run that never faults reaches a last state. -/
theorem exists_run_of_throughout {P : State → Prop} {state : State} {events : List Event}
    (good : Throughout step P state events) : ∃ last, run step state events = .ok last := by
  induction events generalizing state with
  | nil => exact ⟨state, rfl⟩
  | cons event events inductionHypothesis =>
      obtain ⟨_, next, stepEq, rest⟩ := good
      obtain ⟨last, reached⟩ := inductionHypothesis rest
      exact ⟨last, by simp only [run, stepEq, reached]⟩

/-- What holds throughout a run holds always. -/
theorem Throughout.always {P : State → Prop} {state : State} {events : List Event}
    (good : Throughout step P state events) : Always step P state events := by
  induction events generalizing state with
  | nil => exact good
  | cons event events inductionHypothesis =>
      obtain ⟨here, next, stepEq, rest⟩ := good
      refine ⟨here, fun other otherEq => ?_⟩
      obtain rfl := Except.ok.inj (stepEq.symm.trans otherEq)
      exact inductionHypothesis rest

/-- The rule for a property that relates the state to the events so far: if every step inside the
domain succeeds and carries the property from the past to the past extended by the event, then the
run succeeds and the property holds of its events. -/
theorem exists_run_of_history {inv : List Event → State → Prop} {domain : State → Event → Prop}
    (keeps : ∀ past state event, inv past state → domain state event →
      ∃ next, step state event = .ok next ∧ inv (past ++ [event]) next)
    {past : List Event} {state : State} (start : inv past state) (events : List Event)
    (inside : Admissible step domain state events) :
    ∃ last, run step state events = .ok last ∧ inv (past ++ events) last := by
  induction events generalizing past state with
  | nil => exact ⟨state, rfl, by simpa using start⟩
  | cons event events inductionHypothesis =>
      obtain ⟨next, stepEq, carried⟩ := keeps past state event start inside.1
      obtain ⟨last, reached, held⟩ := inductionHypothesis carried (inside.2 next stepEq)
      exact ⟨last, by simp only [run, stepEq, reached], by simpa using held⟩

/-- What every step that returns keeps for the history so far holds of the whole history where the
run ends. -/
theorem history_of_run {inv : List Event → State → Prop}
    (keeps : ∀ past state event next, inv past state → step state event = .ok next →
      inv (past ++ [event]) next)
    {past : List Event} {state last : State} (start : inv past state) {events : List Event}
    (reached : run step state events = .ok last) : inv (past ++ events) last := by
  induction events generalizing past state with
  | nil =>
      obtain rfl := Except.ok.inj reached
      rwa [List.append_nil]
  | cons event events inductionHypothesis =>
      obtain ⟨next, stepEq, rest⟩ := run_cons_ok reached
      simpa using inductionHypothesis (keeps past state event next start stepEq) rest

/-- The rule for an invariant that every step inside the domain keeps, succeeding. -/
theorem exists_run_of_inv {inv : State → Prop} {domain : State → Event → Prop}
    (keeps : ∀ state event, inv state → domain state event →
      ∃ next, step state event = .ok next ∧ inv next)
    {state : State} (start : inv state) (events : List Event)
    (inside : Admissible step domain state events) :
    ∃ last, run step state events = .ok last ∧ inv last := by
  induction events generalizing state with
  | nil => exact ⟨state, rfl, start⟩
  | cons event events inductionHypothesis =>
      obtain ⟨next, stepEq, good⟩ := keeps state event start inside.1
      obtain ⟨last, reached, held⟩ := inductionHypothesis good (inside.2 next stepEq)
      exact ⟨last, by simp only [run, stepEq, reached], held⟩

/-- With the same rule, what the relation to the past says of the state alone holds throughout. -/
theorem throughout_of_history {inv : List Event → State → Prop} {P : State → Prop}
    {domain : State → Event → Prop}
    (keeps : ∀ past state event, inv past state → domain state event →
      ∃ next, step state event = .ok next ∧ inv (past ++ [event]) next)
    (good : ∀ past state, inv past state → P state)
    {past : List Event} {state : State} (start : inv past state) (events : List Event)
    (inside : Admissible step domain state events) : Throughout step P state events := by
  induction events generalizing past state with
  | nil => exact good past state start
  | cons event events inductionHypothesis =>
      obtain ⟨next, stepEq, carried⟩ := keeps past state event start inside.1
      exact ⟨good past state start, next, stepEq,
        inductionHypothesis carried (inside.2 next stepEq)⟩

/-- What an invariant says holds throughout if every step inside the domain keeps the invariant,
succeeding. -/
theorem throughout_of_inv {inv P : State → Prop} {domain : State → Event → Prop}
    (keeps : ∀ state event, inv state → domain state event →
      ∃ next, step state event = .ok next ∧ inv next)
    (good : ∀ state, inv state → P state) {state : State} (start : inv state)
    (events : List Event) (inside : Admissible step domain state events) :
    Throughout step P state events := by
  induction events generalizing state with
  | nil => exact good state start
  | cons event events inductionHypothesis =>
      obtain ⟨next, stepEq, kept⟩ := keeps state event start inside.1
      exact ⟨good state start, next, stepEq, inductionHypothesis kept (inside.2 next stepEq)⟩

/-- When a step from a good state ends in a good state exactly if it meets the guard, a run inside
the domain stays in good states exactly if all its steps meet the guard. -/
theorem always_iff_admissible {inv : State → Prop} {domain guard : State → Event → Prop}
    (exactly : ∀ state event, inv state → domain state event →
      (guard state event ↔ ∀ next, step state event = .ok next → inv next))
    {state : State} (start : inv state) (events : List Event)
    (inside : Admissible step domain state events) :
    Always step inv state events ↔ Admissible step guard state events := by
  induction events generalizing state with
  | nil => simp [Always, Admissible, start]
  | cons event events inductionHypothesis =>
      obtain ⟨here, later⟩ := inside
      simp only [Always, Admissible, start, true_and]
      constructor
      · intro always
        have good : ∀ next, step state event = .ok next → inv next := by
          intro next stepEq
          cases events with
          | nil => exact always next stepEq
          | cons => exact (always next stepEq).1
        refine ⟨(exactly state event start here).mpr good, fun next stepEq => ?_⟩
        exact (inductionHypothesis (good next stepEq) (later next stepEq)).mp (always next stepEq)
      · rintro ⟨met, rest⟩ next stepEq
        have good := (exactly state event start here).mp met next stepEq
        exact (inductionHypothesis good (later next stepEq)).mpr (rest next stepEq)

/-- Asking a condition of the steps that return is asking it of every step with a next state. -/
theorem whenReturns_iff {guard : State → Event → Prop} {state : State} {event : Event} :
    WhenReturns step guard state event ↔
      ∀ next, step state event = .ok next → guard state event := by
  unfold WhenReturns
  cases step state event <;> simp [Except.isOk, Except.toBool]

/-- The rule for a guard that is exact on the steps that return. -/
theorem always_iff_whenReturns {inv : State → Prop} {guard : State → Event → Prop}
    (exactly : ∀ state event next, inv state → step state event = .ok next →
      (guard state event ↔ inv next))
    {state : State} (start : inv state) (events : List Event) :
    Always step inv state events ↔ Admissible step (WhenReturns step guard) state events := by
  have inside : Admissible step (fun _ _ => True) state events :=
    admissible_of_forall (fun _ _ => trivial) state events
  refine always_iff_admissible (fun state event good _ => ?_) start events inside
  rw [whenReturns_iff]
  exact forall_congr' fun next => forall_congr' fun stepEq => exactly state event next good stepEq

/-- The same rule for runs that must not fault either. -/
theorem throughout_iff_admissible {inv : State → Prop} {domain guard : State → Event → Prop}
    (exactly : ∀ state event, inv state → domain state event →
      (guard state event ↔ ∃ next, step state event = .ok next ∧ inv next))
    {state : State} (start : inv state) (events : List Event)
    (inside : Admissible step domain state events) :
    Throughout step inv state events ↔ Admissible step guard state events := by
  induction events generalizing state with
  | nil => simp [Throughout, Admissible, start]
  | cons event events inductionHypothesis =>
      obtain ⟨here, later⟩ := inside
      simp only [Throughout, Admissible, start, true_and]
      constructor
      · rintro ⟨next, stepEq, rest⟩
        have good : inv next := by
          cases events with
          | nil => exact rest
          | cons => exact rest.1
        refine ⟨(exactly state event start here).mpr ⟨next, stepEq, good⟩, ?_⟩
        intro other otherEq
        obtain rfl : next = other := by simpa [stepEq] using otherEq
        exact (inductionHypothesis good (later next stepEq)).mp rest
      · rintro ⟨met, rest⟩
        obtain ⟨next, stepEq, good⟩ := (exactly state event start here).mp met
        exact ⟨next, stepEq,
          (inductionHypothesis good (later next stepEq)).mpr (rest next stepEq)⟩

/-- The rule for a property that rests on an invariant which every step inside the domain keeps,
whether it meets the guard or not. -/
theorem throughout_iff_of_kept {kept P : State → Prop} {domain guard : State → Event → Prop}
    (keeps : ∀ state event, kept state → domain state event →
      ∃ next, step state event = .ok next ∧ kept next)
    (exactly : ∀ state event next, kept state → P state → domain state event →
      step state event = .ok next → (guard state event ↔ P next))
    {state : State} (start : kept state) (good : P state) (events : List Event)
    (inside : Admissible step domain state events) :
    Throughout step P state events ↔ Admissible step guard state events := by
  induction events generalizing state with
  | nil => simp [Throughout, Admissible, good]
  | cons event events inductionHypothesis =>
      obtain ⟨next, stepEq, keptNext⟩ := keeps state event start inside.1
      have here := exactly state event next start good inside.1 stepEq
      have later := inside.2 next stepEq
      simp only [Throughout, Admissible, good, true_and]
      constructor
      · rintro ⟨other, otherEq, rest⟩
        obtain rfl : next = other := by simpa [stepEq] using otherEq
        have goodNext : P next := by
          cases events with
          | nil => exact rest
          | cons => exact rest.1
        refine ⟨here.mpr goodNext, fun other otherEq => ?_⟩
        obtain rfl : next = other := by simpa [stepEq] using otherEq
        exact (inductionHypothesis keptNext goodNext later).mp rest
      · rintro ⟨met, rest⟩
        have goodNext := here.mp met
        exact ⟨next, stepEq,
          (inductionHypothesis keptNext goodNext later).mpr (rest next stepEq)⟩

/-- The rule for a condition whose violation is never made good again: a run meets it at every step
and ends in a good state, or it does not and ends in a spoiled one. -/
theorem admissible_or_spoiled {inv spoiled : State → Prop} {domain guard : State → Event → Prop}
    (keeps : ∀ state event, inv state → domain state event → guard state event →
      ∃ next, step state event = .ok next ∧ inv next)
    (spoils : ∀ state event next, inv state → domain state event → ¬ guard state event →
      step state event = .ok next → spoiled next)
    (persists : ∀ state event next, spoiled state → step state event = .ok next → spoiled next)
    {state : State} (start : inv state) (events : List Event)
    (inside : Admissible step domain state events) :
    (Admissible step guard state events ∧ ∃ last, run step state events = .ok last ∧ inv last) ∨
      (¬ Admissible step guard state events ∧
        ∀ last, run step state events = .ok last → spoiled last) := by
  have remains : ∀ events state last, spoiled state → run step state events = .ok last →
      spoiled last := by
    intro events
    induction events with
    | nil =>
        intro state last bad reached
        exact Except.ok.inj reached ▸ bad
    | cons event events inductionHypothesis =>
        intro state last bad reached
        obtain ⟨next, stepEq, rest⟩ := run_cons_ok reached
        exact inductionHypothesis next last (persists state event next bad stepEq) rest
  induction events generalizing state with
  | nil => exact .inl ⟨trivial, state, rfl, start⟩
  | cons event events inductionHypothesis =>
      obtain ⟨here, later⟩ := inside
      by_cases met : guard state event
      · obtain ⟨next, stepEq, good⟩ := keeps state event start here met
        rcases inductionHypothesis good (later next stepEq) with
          ⟨quiet, last, reached, held⟩ | ⟨loud, bad⟩
        · refine .inl ⟨⟨met, fun other otherEq => ?_⟩, last, by simp only [run, stepEq, reached],
            held⟩
          obtain rfl : next = other := by simpa [stepEq] using otherEq
          exact quiet
        · refine .inr ⟨fun admissible => loud (admissible.2 next stepEq), fun last reached => ?_⟩
          simp only [run, stepEq] at reached
          exact bad last reached
      · refine .inr ⟨fun admissible => met admissible.1, fun last reached => ?_⟩
        obtain ⟨next, stepEq, rest⟩ := run_cons_ok reached
        exact remains events next last (spoils state event next start here met stepEq) rest

/-- How many steps of a run are of the given kind. -/
def stepsThat (step : State → Event → Except Fault State) (kind : State → Event → Bool) :
    State → List Event → Nat
  | _, [] => 0
  | state, event :: events =>
      (if kind state event then 1 else 0) +
        match step state event with
        | .ok next => stepsThat step kind next events
        | .error _ => 0

/-- The rule for a size that is doubled by every step of a kind and never falls: there are only
logarithmically many steps of the kind. -/
theorem exists_run_of_doubling {kind : State → Event → Bool} {size : State → Nat}
    {inv : State → Prop} {domain : State → Event → Prop}
    (keeps : ∀ state event, inv state → domain state event →
      ∃ next, step state event = .ok next ∧ inv next ∧
        (if kind state event then 2 else 1) * size state ≤ size next)
    {state : State} (start : inv state) (events : List Event)
    (inside : Admissible step domain state events) :
    ∃ last, run step state events = .ok last ∧ inv last ∧
      2 ^ stepsThat step kind state events * size state ≤ size last := by
  induction events generalizing state with
  | nil => exact ⟨state, rfl, start, by simp [stepsThat]⟩
  | cons event events inductionHypothesis =>
      obtain ⟨next, stepEq, good, grows⟩ := keeps state event start inside.1
      obtain ⟨last, reached, held, bound⟩ := inductionHypothesis good (inside.2 next stepEq)
      refine ⟨last, by simp only [run, stepEq, reached], held, ?_⟩
      have counted : 2 ^ stepsThat step kind state (event :: events) =
          2 ^ stepsThat step kind next events * (if kind state event then 2 else 1) := by
        simp only [stepsThat, stepEq, Nat.pow_add, Nat.mul_comm]
        split <;> rfl
      calc 2 ^ stepsThat step kind state (event :: events) * size state
          = 2 ^ stepsThat step kind next events *
              ((if kind state event then 2 else 1) * size state) := by
            rw [counted, Nat.mul_assoc]
        _ ≤ 2 ^ stepsThat step kind next events * size next := Nat.mul_le_mul_left _ grows
        _ ≤ size last := bound

end GomukuServer.Base.Runs
