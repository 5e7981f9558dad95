/-
Module: GomukuServer.Base.Owned
Layer: Base
Purpose: Objects that are created and deleted by hand.  The cell of a deleted object stays empty, so
  no later object has its address.  `Kept` says that the objects that exist are exactly those of a
  list of pointers, each of them there once: every object has one owner and no pointer dangles.
Trusted boundary: none
Main exports: Owned.object, create, delete, update, Kept, Kept.perm, Kept.create, Kept.delete
-/
import GomukuServer.Base.Store
import Mathlib.Data.List.Nodup

namespace GomukuServer.Base.Owned

universe u

variable {Obj : Type u}

/-- The object behind a pointer, unless it has been deleted. -/
def object (heap : Heap (Option Obj)) (ref : Ref) : Option Obj := (heap.deref ref).join

/-- `new`: the object gets the address `heap.next`. -/
def create (heap : Heap (Option Obj)) (obj : Obj) : Heap (Option Obj) := heap.alloc (some obj)

/-- `delete`. -/
def delete (heap : Heap (Option Obj)) (ref : Ref) : Heap (Option Obj) :=
  heap.modify ref fun _ => none

/-- Change an object. -/
def update (heap : Heap (Option Obj)) (ref : Ref) (change : Obj → Obj) : Heap (Option Obj) :=
  heap.modify ref (Option.map change)

@[simp] theorem object_empty (ref : Ref) : object (Heap.empty : Heap (Option Obj)) ref = none := rfl

@[simp] theorem object_next (heap : Heap (Option Obj)) : object heap heap.next = none := by
  simp [object]

@[simp] theorem object_create (heap : Heap (Option Obj)) (obj : Obj) (ref : Ref) :
    object (create heap obj) ref = if ref = heap.next then some obj else object heap ref := by
  unfold object create
  rw [Heap.deref_alloc]
  split <;> rfl

@[simp] theorem object_delete (heap : Heap (Option Obj)) (ref other : Ref) :
    object (delete heap ref) other = if other = ref then none else object heap other := by
  unfold object delete
  rw [Heap.deref_modify]
  split
  · cases heap.deref other <;> rfl
  · rfl

@[simp] theorem object_update (heap : Heap (Option Obj)) (ref other : Ref) (change : Obj → Obj) :
    object (update heap ref change) other =
      if other = ref then (object heap other).map change else object heap other := by
  unfold object update
  rw [Heap.deref_modify]
  split
  · rcases heap.deref other with _ | _ | obj <;> rfl
  · rfl

/-- The objects that exist are those of the list, and each is in the list once. -/
structure Kept (heap : Heap (Option Obj)) (refs : List Ref) : Prop where
  nodup : refs.Nodup
  exact : ∀ ref, (object heap ref).isSome ↔ ref ∈ refs

/-- At first there is nothing to keep. -/
theorem kept_empty : Kept (Heap.empty : Heap (Option Obj)) [] where
  nodup := List.nodup_nil
  exact := by simp

namespace Kept

variable {heap : Heap (Option Obj)} {refs others : List Ref} {ref : Ref}

/-- A pointer of the list can be followed. -/
theorem exists_object (kept : Kept heap refs) (inside : ref ∈ refs) :
    ∃ obj, object heap ref = some obj :=
  Option.isSome_iff_exists.mp ((kept.exact ref).mpr inside)

/-- Only how often a pointer is listed matters, not where. -/
theorem perm (kept : Kept heap refs) (same : refs.Perm others) : Kept heap others where
  nodup := same.nodup_iff.mp kept.nodup
  exact := fun ref => (kept.exact ref).trans same.mem_iff

/-- A new object is kept by the pointer to it. -/
theorem create (kept : Kept heap refs) (obj : Obj) :
    Kept (create heap obj) (heap.next :: refs) where
  nodup := by
    refine List.nodup_cons.mpr ⟨fun inside => ?_, kept.nodup⟩
    have some := (kept.exact heap.next).mpr inside
    simp at some
  exact := by
    intro ref
    rw [object_create, List.mem_cons, ← kept.exact ref]
    split <;> simp [*]

/-- A deleted object is kept no more. -/
theorem delete (kept : Kept heap (ref :: refs)) : Kept (delete heap ref) refs where
  nodup := (List.nodup_cons.mp kept.nodup).2
  exact := by
    intro other
    have fresh := (List.nodup_cons.mp kept.nodup).1
    have before := kept.exact other
    rw [List.mem_cons] at before
    rw [object_delete]
    split
    · rename_i same
      simp [same, fresh]
    · rename_i differs
      simpa [differs] using before

/-- Changing an object does not touch who keeps it. -/
theorem update (kept : Kept heap refs) (ref : Ref) (change : Obj → Obj) :
    Kept (update heap ref change) refs where
  nodup := kept.nodup
  exact := by
    intro other
    rw [← kept.exact other, object_update]
    split <;> simp

end Kept

end GomukuServer.Base.Owned
