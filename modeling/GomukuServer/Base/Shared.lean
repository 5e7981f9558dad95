/-
Module: GomukuServer.Base.Shared
Layer: Base
Purpose: Objects behind shared pointers.  The heap keeps with each object how many shared pointers
  there are; a weak pointer is a reference that can be turned into a shared pointer while this
  number is positive.
Trusted boundary: none
Main exports: Shared, useCount, make, copy, drop, lock, drop_copy
-/
import GomukuServer.Base.Store

namespace GomukuServer.Base

universe u

/-- An object and the number of shared pointers to it. -/
structure Shared (Obj : Type u) where
  obj : Obj
  useCount : Nat

namespace Shared

variable {Obj : Type u}

/-- `use_count`. -/
def count (heap : Heap (Shared Obj)) (ref : Ref) : Nat :=
  ((heap.deref ref).map Shared.useCount).getD 0

/-- The object, whether it is alive or not. -/
def object (heap : Heap (Shared Obj)) (ref : Ref) : Option Obj := (heap.deref ref).map Shared.obj

/-- A new object with one shared pointer to it. -/
def make (heap : Heap (Shared Obj)) (obj : Obj) : Heap (Shared Obj) := heap.alloc ⟨obj, 1⟩

/-- Copy a shared pointer. -/
def copy (heap : Heap (Shared Obj)) (ref : Ref) : Heap (Shared Obj) :=
  heap.modify ref fun shared => { shared with useCount := shared.useCount + 1 }

/-- Destroy a shared pointer.  The object dies with the last one. -/
def drop (heap : Heap (Shared Obj)) (ref : Ref) : Heap (Shared Obj) :=
  heap.modify ref fun shared => { shared with useCount := shared.useCount - 1 }

/-- Change the object. -/
def update (heap : Heap (Shared Obj)) (ref : Ref) (change : Obj → Obj) : Heap (Shared Obj) :=
  heap.modify ref fun shared => { shared with obj := change shared.obj }

/-- `weak_ptr::lock`: the object, if it is alive. -/
def lock (heap : Heap (Shared Obj)) (ref : Ref) : Option Obj :=
  if 0 < count heap ref then object heap ref else none

@[simp] theorem count_make (heap : Heap (Shared Obj)) (obj : Obj) (ref : Ref) :
    count (make heap obj) ref = if ref = heap.next then 1 else count heap ref := by
  unfold count make
  rw [Heap.deref_alloc]
  split <;> rfl

@[simp] theorem object_make (heap : Heap (Shared Obj)) (obj : Obj) (ref : Ref) :
    object (make heap obj) ref = if ref = heap.next then some obj else object heap ref := by
  unfold object make
  rw [Heap.deref_alloc]
  split <;> rfl

/-- Only an object that was made has shared pointers. -/
theorem count_eq_zero {heap : Heap (Shared Obj)} {ref : Ref} (absent : object heap ref = none) :
    count heap ref = 0 := by
  have nothing : heap.deref ref = none := by simpa [object] using absent
  rw [count, nothing]
  rfl

@[simp] theorem object_next (heap : Heap (Shared Obj)) : object heap heap.next = none := by
  simp [object]

@[simp] theorem next_copy (heap : Heap (Shared Obj)) (ref : Ref) :
    (copy heap ref).next = heap.next := by
  simp [copy, Heap.modify, Heap.next]

@[simp] theorem next_drop (heap : Heap (Shared Obj)) (ref : Ref) :
    (drop heap ref).next = heap.next := by
  simp [drop, Heap.modify, Heap.next]

@[simp] theorem next_update (heap : Heap (Shared Obj)) (ref : Ref) (change : Obj → Obj) :
    (update heap ref change).next = heap.next := by
  simp [update, Heap.modify, Heap.next]

@[simp] theorem object_copy (heap : Heap (Shared Obj)) (ref other : Ref) :
    object (copy heap ref) other = object heap other := by
  unfold object copy
  rw [Heap.deref_modify]
  split
  · cases heap.deref other <;> rfl
  · rfl

@[simp] theorem object_drop (heap : Heap (Shared Obj)) (ref other : Ref) :
    object (drop heap ref) other = object heap other := by
  unfold object drop
  rw [Heap.deref_modify]
  split
  · cases heap.deref other <;> rfl
  · rfl

@[simp] theorem object_update (heap : Heap (Shared Obj)) (ref other : Ref) (change : Obj → Obj) :
    object (update heap ref change) other =
      if other = ref then (object heap other).map change else object heap other := by
  unfold object update
  rw [Heap.deref_modify]
  split
  · cases heap.deref other <;> rfl
  · rfl

@[simp] theorem count_update (heap : Heap (Shared Obj)) (ref other : Ref) (change : Obj → Obj) :
    count (update heap ref change) other = count heap other := by
  unfold count update
  rw [Heap.deref_modify]
  split
  · cases heap.deref other <;> rfl
  · rfl

/-- A copy of a pointer to an object that was made. -/
theorem count_copy {heap : Heap (Shared Obj)} {ref : Ref} {obj : Obj}
    (made : object heap ref = some obj) (other : Ref) :
    count (copy heap ref) other = if other = ref then count heap other + 1 else count heap other := by
  unfold count copy
  rw [Heap.deref_modify]
  split
  · rename_i same
    subst same
    cases found : heap.deref other with
    | none => simp [object, found] at made
    | some shared => rfl
  · rfl

@[simp] theorem count_drop (heap : Heap (Shared Obj)) (ref other : Ref) :
    count (drop heap ref) other = if other = ref then count heap other - 1 else count heap other := by
  unfold count drop
  rw [Heap.deref_modify]
  split
  · cases heap.deref other <;> simp
  · rfl

/-- A pointer that lives for a while leaves nothing behind. -/
theorem drop_copy (heap : Heap (Shared Obj)) (ref : Ref) : drop (copy heap ref) ref = heap := by
  apply Heap.ext_deref
  intro other
  unfold drop copy
  rw [Heap.deref_modify, Heap.deref_modify]
  split
  · cases heap.deref other <;> rfl
  · rfl

/-- A change of the object and a copy of a pointer to it do not depend on their order. -/
theorem update_copy (heap : Heap (Shared Obj)) (ref : Ref) (change : Obj → Obj) :
    update (copy heap ref) ref change = copy (update heap ref change) ref := by
  apply Heap.ext_deref
  intro other
  simp only [update, copy, Heap.deref_modify]
  split
  · cases heap.deref other <;> rfl
  · rfl

/-- A weak pointer gives the object of a live one. -/
theorem lock_of_live {heap : Heap (Shared Obj)} {ref : Ref} (live : 0 < count heap ref) :
    lock heap ref = object heap ref := if_pos live

end Shared

end GomukuServer.Base
