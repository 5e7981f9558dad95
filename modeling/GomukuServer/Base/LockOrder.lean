/-
Module: GomukuServer.Base.LockOrder
Layer: Base
Purpose: What programs do with mutexes, everything else left out, and what threads with such
  programs do to each other.  If every lock ranks above the locks that are held when it is taken, no
  threads ever wait for each other.  A thread may lock what it holds already; it then waits for
  itself.
Trusted boundary: a thread that waits on a condition variable can wake up at any time
Main exports: Code, Instr, State, Step, Reachable.unfold, Reachable.acquire, Ordered, Bottom, Waits,
  Deadlock, no_deadlock
-/
import Mathlib.Data.Set.Basic
import Mathlib.Logic.Relation
import Mathlib.Logic.Function.Basic
import Mathlib.Data.List.Nodup
import Mathlib.Data.Set.Subsingleton

namespace GomukuServer.Base.LockOrder

universe u v w

/-- What a piece of code does with mutexes.  Which way a branch goes and how often a loop runs is
left open; `choose` is a branch with a way for every index. -/
inductive Code (Mutex : Type u) (Index : Type v) where
  | skip
  | seq (first second : Code Mutex Index)
  | either (first second : Code Mutex Index)
  | choose (branch : Index → Code Mutex Index)
  | loop (body : Code Mutex Index)
  /-- A lock object for the mutex, and the code up to the end of its scope. -/
  | locked (mutex : Mutex) (body : Code Mutex Index)
  /-- A wait on a condition variable: the mutex is unlocked, and locked again in the end. -/
  | wait (mutex : Mutex)

namespace Code

variable {Mutex : Type u} {Index : Type v}

/-- Statements one after the other. -/
def block (statements : List (Code Mutex Index)) : Code Mutex Index := statements.foldr .seq .skip

/-- One of some statements, or none. -/
def oneOf (ways : List (Code Mutex Index)) : Code Mutex Index := ways.foldr .either .skip

/-- A statement that may be left out. -/
def maybe (statement : Code Mutex Index) : Code Mutex Index := .either statement .skip

/-- A call that holds a mutex from its first statement to its last. -/
def guarded (mutex : Mutex) (statements : List (Code Mutex Index)) : Code Mutex Index :=
  .locked mutex (block statements)

end Code

/-- What a thread has to do next. -/
inductive Instr (Mutex : Type u) (Index : Type v) where
  | run (code : Code Mutex Index)
  | acquire (mutex : Mutex)
  | release (mutex : Mutex)

/-- The threads and the holders of the mutexes. -/
structure State (Thread : Type w) (Mutex : Type u) (Index : Type v) where
  stack : Thread → List (Instr Mutex Index)
  holder : Mutex → Option Thread

variable {Thread : Type w} {Mutex : Type u} {Index : Type v}

/-- Code comes down to locks and unlocks. -/
inductive Unfolds : List (Instr Mutex Index) → List (Instr Mutex Index) → Prop
  | skip {rest} : Unfolds (.run .skip :: rest) rest
  | seq {first second rest} :
      Unfolds (.run (.seq first second) :: rest) (.run first :: .run second :: rest)
  | left {first second rest} : Unfolds (.run (.either first second) :: rest) (.run first :: rest)
  | right {first second rest} : Unfolds (.run (.either first second) :: rest) (.run second :: rest)
  | choose {branch rest} (index : Index) :
      Unfolds (.run (.choose branch) :: rest) (.run (branch index) :: rest)
  | again {body rest} :
      Unfolds (.run (.loop body) :: rest) (.run body :: .run (.loop body) :: rest)
  | done {body rest} : Unfolds (.run (.loop body) :: rest) rest
  | locked {mutex body rest} :
      Unfolds (.run (.locked mutex body) :: rest)
        (.acquire mutex :: .run body :: .release mutex :: rest)
  | wait {mutex rest} :
      Unfolds (.run (.wait mutex) :: rest) (.release mutex :: .acquire mutex :: rest)

/-- The thread is about to lock a mutex that is held. -/
def Waits (state : State Thread Mutex Index) (thread : Thread) (mutex : Mutex) : Prop :=
  (∃ rest, state.stack thread = .acquire mutex :: rest) ∧ (state.holder mutex).isSome

/-- Two or more threads each of which waits for a mutex that another one of them holds. -/
def Deadlock (state : State Thread Mutex Index) (threads : Set Thread) : Prop :=
  threads.Nontrivial ∧ ∀ thread ∈ threads, ∃ mutex, Waits state thread mutex ∧
    ∃ other ∈ threads, other ≠ thread ∧ state.holder mutex = some other

/-- Every thread at the start of its code, and no mutex locked. -/
def State.start (main : Thread → Code Mutex Index) : State Thread Mutex Index where
  stack thread := [.run (main thread)]
  holder _ := none

/-- The mutex ranks above the others that are held. -/
def Above (rank : Mutex → Nat) (held : List Mutex) (mutex : Mutex) : Prop :=
  ∀ other ∈ held, other ≠ mutex → rank other < rank mutex

theorem Above.mono {rank : Mutex → Nat} {more fewer : List Mutex} {mutex : Mutex}
    (above : Above rank more mutex) (sub : fewer ⊆ more) : Above rank fewer mutex :=
  fun other inside => above other (sub inside)

/-- A mutex that may be locked may be locked again. -/
theorem Above.again {rank : Mutex → Nat} {held : List Mutex} {mutex : Mutex}
    (above : Above rank held mutex) : Above rank (mutex :: held) mutex := by
  intro other inside ne
  exact above other ((List.mem_cons.mp inside).resolve_left ne) ne

/-- A mutex of rank `least` or higher, where all that is held ranks below `least`. -/
theorem above_of_below {rank : Mutex → Nat} {held : List Mutex} {mutex : Mutex} {least : Nat}
    (below : ∀ other ∈ held, rank other < least) (high : least ≤ rank mutex) :
    Above rank held mutex :=
  fun other inside _ => (below other inside).trans_le high

/-! ### The order of locks -/

variable [DecidableEq Mutex] (rank : Mutex → Nat)

/-- Wherever the code locks, the mutex ranks above the others that are held there. -/
def Ordered : List Mutex → Code Mutex Index → Prop
  | _, .skip => True
  | held, .seq first second => Ordered held first ∧ Ordered held second
  | held, .either first second => Ordered held first ∧ Ordered held second
  | held, .choose branch => ∀ index, Ordered held (branch index)
  | held, .loop body => Ordered held body
  | held, .locked mutex body => Above rank held mutex ∧ Ordered (mutex :: held) body
  | held, .wait mutex => mutex ∈ held ∧ Above rank held mutex

/-- The mutexes a thread has locked: those it will unlock without locking them before. -/
def held : List (Instr Mutex Index) → List Mutex
  | [] => []
  | .run _ :: rest => held rest
  | .acquire mutex :: rest => (held rest).erase mutex
  | .release mutex :: rest => mutex :: held rest

/-- Wherever the thread will lock, the mutex ranks above the others that are held there. -/
def StackOrdered : List (Instr Mutex Index) → Prop
  | [] => True
  | .run code :: rest => Ordered rank (held rest) code ∧ StackOrdered rest
  | .acquire mutex :: rest =>
      (mutex ∈ held rest ∧ Above rank ((held rest).erase mutex) mutex) ∧ StackOrdered rest
  | .release _ :: rest => StackOrdered rest

/-- Coming down to locks and unlocks changes neither what a thread holds nor the order. -/
theorem Unfolds.keeps {rank : Mutex → Nat} {stack next : List (Instr Mutex Index)}
    (unfolds : Unfolds stack next) (ordered : StackOrdered rank stack) :
    (held next).Perm (held stack) ∧ StackOrdered rank next := by
  cases unfolds with
  | skip | left | right | seq | again | done =>
      refine ⟨.refl _, ?_⟩
      simp only [StackOrdered, Ordered, held] at ordered ⊢
      tauto
  | choose index => exact ⟨.refl _, ordered.1 index, ordered.2⟩
  | @locked mutex body rest =>
      refine ⟨by simp [held], ⟨by simp [held], ?_⟩, ordered.1.2, ordered.2⟩
      simpa [held] using ordered.1.1
  | @wait mutex rest =>
      have holds := ordered.1.1
      refine ⟨(List.perm_cons_erase holds).symm, ⟨holds, ?_⟩, ordered.2⟩
      exact ordered.1.2.mono List.erase_subset

/-- Every thread keeps to the order, and holds exactly the mutexes it will unlock, each once. -/
structure Sound (state : State Thread Mutex Index) : Prop where
  ordered : ∀ thread, StackOrdered rank (state.stack thread)
  once : ∀ thread, (held (state.stack thread)).Nodup
  holds : ∀ thread mutex, mutex ∈ held (state.stack thread) ↔ state.holder mutex = some thread

theorem sound_start {main : Thread → Code Mutex Index}
    (ordered : ∀ thread, Ordered rank [] (main thread)) :
    Sound rank (State.start main : State Thread Mutex Index) where
  ordered thread := ⟨ordered thread, trivial⟩
  once _ := List.nodup_nil
  holds _ _ := by simp [State.start, held]

/-- A thread that waits holds only mutexes that rank below the one it waits for, if another thread
has that. -/
theorem Sound.rank_lt {rank : Mutex → Nat} {state : State Thread Mutex Index}
    (sound : Sound rank state) {thread holder : Thread} {mutex wanted : Mutex}
    (holds : state.holder mutex = some thread) (waits : Waits state thread wanted)
    (taken : state.holder wanted = some holder) (other : holder ≠ thread) :
    rank mutex < rank wanted := by
  obtain ⟨⟨rest, next⟩, _⟩ := waits
  have ordered := sound.ordered thread
  have inside := (sound.holds thread mutex).mpr holds
  simp only [next, StackOrdered, held] at ordered inside
  refine ordered.1.2 mutex inside ?_
  rintro rfl
  exact other (Option.some.inj (taken.symm.trans holds))

/-! ### Interleavings -/

variable [DecidableEq Thread]

/-- One thread moves.  It can lock only what nobody holds. -/
inductive Step : State Thread Mutex Index → State Thread Mutex Index → Prop
  | unfold {state thread stack} (unfolds : Unfolds (state.stack thread) stack) :
      Step state { state with stack := Function.update state.stack thread stack }
  | acquire {state thread mutex rest} (next : state.stack thread = .acquire mutex :: rest)
      (free : state.holder mutex = none) :
      Step state { stack := Function.update state.stack thread rest
                   holder := Function.update state.holder mutex (some thread) }
  | release {state thread mutex rest} (next : state.stack thread = .release mutex :: rest) :
      Step state { stack := Function.update state.stack thread rest
                   holder := Function.update state.holder mutex none }

/-- The states that some interleaving of the threads leads to. -/
def Reachable (main : Thread → Code Mutex Index) (state : State Thread Mutex Index) : Prop :=
  Relation.ReflTransGen Step (State.start main) state

/-- A thread goes on to its next lock or unlock. -/
theorem Reachable.unfold {main : Thread → Code Mutex Index} {state : State Thread Mutex Index}
    (reached : Reachable main state) (thread : Thread) {stack next : List (Instr Mutex Index)}
    (stands : state.stack thread = stack) (path : Relation.ReflTransGen Unfolds stack next) :
    Reachable main { state with stack := Function.update state.stack thread next } := by
  subst stands
  induction path with
  | refl => rwa [Function.update_eq_self]
  | @tail before after _ unfolds inductionHypothesis =>
      have here : Function.update state.stack thread before thread = before :=
        Function.update_self ..
      have moved := Relation.ReflTransGen.tail inductionHypothesis
        (Step.unfold (here.symm ▸ unfolds : Unfolds _ after))
      rwa [Function.update_idem] at moved

/-- A thread goes on to its next lock, which is free, and takes it. -/
theorem Reachable.acquire {main : Thread → Code Mutex Index} {state : State Thread Mutex Index}
    (reached : Reachable main state) (thread : Thread) {stack rest : List (Instr Mutex Index)}
    {mutex : Mutex} (stands : state.stack thread = stack)
    (path : Relation.ReflTransGen Unfolds stack (.acquire mutex :: rest))
    (free : state.holder mutex = none) :
    Reachable main { stack := Function.update state.stack thread rest
                     holder := Function.update state.holder mutex (some thread) } := by
  have moved := Relation.ReflTransGen.tail (reached.unfold thread stands path)
    (Step.acquire (Function.update_self ..) free)
  rwa [Function.update_idem] at moved

/-- A thread that has moved, if no other thread has gained or lost a mutex. -/
theorem Sound.update {rank : Mutex → Nat} {state : State Thread Mutex Index}
    (sound : Sound rank state) {thread : Thread} {rest : List (Instr Mutex Index)}
    {holder : Mutex → Option Thread} (ordered : StackOrdered rank rest) (once : (held rest).Nodup)
    (own : ∀ mutex, mutex ∈ held rest ↔ holder mutex = some thread)
    (others : ∀ other, other ≠ thread → ∀ mutex,
      holder mutex = some other ↔ state.holder mutex = some other) :
    Sound rank { stack := Function.update state.stack thread rest, holder := holder } := by
  refine ⟨fun other => ?_, fun other => ?_, fun other mutex => ?_⟩
  all_goals by_cases moved : other = thread
  · simpa [moved] using ordered
  · simpa [moved] using sound.ordered other
  · simpa [moved] using once
  · simpa [moved] using sound.once other
  · simpa [moved] using own mutex
  · simpa [moved, others other moved mutex] using sound.holds other mutex

/-- A move keeps all this. -/
theorem Sound.step {rank : Mutex → Nat} {state next : State Thread Mutex Index}
    (sound : Sound rank state) (move : Step state next) : Sound rank next := by
  cases move with
  | @unfold thread stack unfolds =>
      obtain ⟨same, ordered⟩ := unfolds.keeps (sound.ordered thread)
      exact sound.update ordered (same.nodup_iff.mpr (sound.once thread))
        (fun mutex => same.mem_iff.trans (sound.holds thread mutex)) fun _ _ _ => Iff.rfl
  | @acquire thread mutex rest next free =>
      have ordered := sound.ordered thread
      have once := sound.once thread
      have holds := sound.holds thread
      simp only [next, StackOrdered, held] at ordered once holds
      -- nobody held the mutex, so the thread will unlock it once
      have notTwice : mutex ∉ (held rest).erase mutex := by
        simp [holds mutex, free]
      have onceNow : (held rest).Nodup :=
        (List.perm_cons_erase ordered.1.1).nodup_iff.mpr (List.nodup_cons.mpr ⟨notTwice, once⟩)
      refine sound.update ordered.2 onceNow (fun other => ?_) fun other ne free' => ?_
      · by_cases same : other = mutex
        · simp [same, ordered.1.1]
        · rw [Function.update_of_ne same, ← holds other, List.mem_erase_of_ne same]
      · by_cases same : free' = mutex
        · simp [same, free, Ne.symm ne]
        · rw [Function.update_of_ne same]
  | @release thread mutex rest next =>
      have ordered := sound.ordered thread
      have once := sound.once thread
      have holds := sound.holds thread
      simp only [next, StackOrdered, held, List.nodup_cons, List.mem_cons] at ordered once holds
      have mine : state.holder mutex = some thread := (holds mutex).mp (.inl rfl)
      refine sound.update ordered once.2 (fun other => ?_) fun other ne released => ?_
      · by_cases same : other = mutex
        · simp [same, once.1]
        · rw [Function.update_of_ne same, ← holds other]
          simp [same]
      · by_cases same : released = mutex
        · simp [same, mine, Ne.symm ne]
        · rw [Function.update_of_ne same]

/-- All that can be reached is sound. -/
theorem sound_of_reachable {rank : Mutex → Nat} {main : Thread → Code Mutex Index}
    (ordered : ∀ thread, Ordered rank [] (main thread)) {state : State Thread Mutex Index}
    (reached : Reachable main state) : Sound rank state := by
  induction reached with
  | refl => exact sound_start rank ordered
  | tail _ move inductionHypothesis => exact inductionHypothesis.step move

/-- Threads that keep to an order of finitely many ranks never wait for each other: along the chain
of holders the ranks would grow without end. -/
theorem no_deadlock {rank : Mutex → Nat} {bound : Nat} (bounded : ∀ mutex, rank mutex < bound)
    {main : Thread → Code Mutex Index} (ordered : ∀ thread, Ordered rank [] (main thread))
    {state : State Thread Mutex Index} (reached : Reachable main state) (threads : Set Thread) :
    ¬ Deadlock state threads := by
  rintro ⟨several, stuck⟩
  have sound := sound_of_reachable ordered reached
  have grows : ∀ level, ∃ thread ∈ threads, ∃ mutex, Waits state thread mutex ∧
      (∃ other, other ≠ thread ∧ state.holder mutex = some other ∧ other ∈ threads) ∧
      level ≤ rank mutex := by
    intro level
    induction level with
    | zero =>
        obtain ⟨thread, inside⟩ := several.nonempty
        obtain ⟨mutex, waits, other, otherIn, ne, holds⟩ := stuck thread inside
        exact ⟨thread, inside, mutex, waits, ⟨other, ne, holds, otherIn⟩, Nat.zero_le _⟩
    | succ level inductionHypothesis =>
        obtain ⟨thread, _, mutex, _, ⟨holder, _, holds, holderIn⟩, high⟩ := inductionHypothesis
        obtain ⟨wanted, waits, other, otherIn, ne, taken⟩ := stuck holder holderIn
        have higher := sound.rank_lt holds waits taken ne
        exact ⟨holder, holderIn, wanted, waits, ⟨other, ne, taken, otherIn⟩, by omega⟩
  obtain ⟨_, _, mutex, _, _, high⟩ := grows bound
  have low := bounded mutex
  omega

/-! ### Code that locks only above a rank -/

/-- The code is in order wherever all that is held ranks below `least`. -/
def Bottom (least : Nat) (code : Code Mutex Index) : Prop :=
  ∀ held, (∀ other ∈ held, rank other < least) → Ordered rank held code

section Bottom

omit [DecidableEq Mutex]

variable {rank} {least : Nat}

@[simp] theorem bottom_skip : Bottom rank least (.skip : Code Mutex Index) := fun _ _ => trivial

@[simp] theorem bottom_seq {first second : Code Mutex Index} :
    Bottom rank least (.seq first second) ↔ Bottom rank least first ∧ Bottom rank least second :=
  ⟨fun both => ⟨fun held below => (both held below).1, fun held below => (both held below).2⟩,
    fun both held below => ⟨both.1 held below, both.2 held below⟩⟩

@[simp] theorem bottom_either {first second : Code Mutex Index} :
    Bottom rank least (.either first second) ↔
      Bottom rank least first ∧ Bottom rank least second :=
  bottom_seq

@[simp] theorem bottom_choose {branch : Index → Code Mutex Index} :
    Bottom rank least (.choose branch) ↔ ∀ index, Bottom rank least (branch index) :=
  ⟨fun all index held below => all held below index,
    fun all held below index => all index held below⟩

@[simp] theorem bottom_loop {body : Code Mutex Index} :
    Bottom rank least (.loop body) ↔ Bottom rank least body := Iff.rfl

@[simp] theorem bottom_block_nil : Bottom rank least (.block [] : Code Mutex Index) := bottom_skip

@[simp] theorem bottom_block_cons {statement : Code Mutex Index}
    {statements : List (Code Mutex Index)} :
    Bottom rank least (.block (statement :: statements)) ↔
      Bottom rank least statement ∧ Bottom rank least (.block statements) := bottom_seq

@[simp] theorem bottom_oneOf_nil : Bottom rank least (.oneOf [] : Code Mutex Index) := bottom_skip

@[simp] theorem bottom_oneOf_cons {way : Code Mutex Index} {ways : List (Code Mutex Index)} :
    Bottom rank least (.oneOf (way :: ways)) ↔
      Bottom rank least way ∧ Bottom rank least (.oneOf ways) := bottom_either

@[simp] theorem bottom_maybe {statement : Code Mutex Index} :
    Bottom rank least (.maybe statement) ↔ Bottom rank least statement := by
  simp [Code.maybe]

/-- A scope with a lock, in which only mutexes of higher rank are locked. -/
theorem bottom_guarded {mutex : Mutex} {statements : List (Code Mutex Index)}
    (high : least ≤ rank mutex) (inner : Bottom rank (rank mutex + 1) (.block statements)) :
    Bottom rank least (.guarded mutex statements) := by
  intro held below
  refine ⟨above_of_below below high, inner _ ?_⟩
  intro other inside
  rcases List.mem_cons.mp inside with rfl | inside
  · exact Nat.lt_succ_self _
  · have lower := below other inside
    omega

/-- Code that is in order at the top. -/
theorem Bottom.ordered {code : Code Mutex Index} (bottom : Bottom rank least code) :
    Ordered rank [] code :=
  bottom [] (by simp)

end Bottom

end GomukuServer.Base.LockOrder
