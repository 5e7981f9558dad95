/-
Module: GomukuServer.Base.Store
Layer: Base
Purpose: Two containers for shallow embeddings of pointer programs.  `PMap` is a map with absent
  keys (the observable part of a hash map), `Heap` a store of objects that are reached through
  references, so that two holders of one reference see each other's updates.
Trusted boundary: none
Main exports: PMap.find?_insert, PMap.find?_erase, Mirrored.insert_iff, Mirrored.erase_iff,
  Indexes.insert, Indexes.erase, Heap.deref_alloc, Heap.deref_modify
-/

namespace GomukuServer.Base

universe u v

/-- A map from keys to values.  `find?` answers `none` for an absent key. -/
@[ext] structure PMap (Key : Type u) (Value : Type v) where
  find? : Key → Option Value

namespace PMap

variable {Key : Type u} {Value : Type v} [DecidableEq Key]

/-- The map without entries. -/
def empty : PMap Key Value := ⟨fun _ => none⟩

/-- Assign a key, replacing what it was mapped to. -/
def insert (map : PMap Key Value) (key : Key) (value : Value) : PMap Key Value :=
  ⟨fun other => if other = key then some value else map.find? other⟩

/-- Remove a key.  An absent key changes nothing. -/
def erase (map : PMap Key Value) (key : Key) : PMap Key Value :=
  ⟨fun other => if other = key then none else map.find? other⟩

omit [DecidableEq Key] in
@[simp] theorem find?_empty (key : Key) : (empty : PMap Key Value).find? key = none := rfl

@[simp] theorem find?_insert (map : PMap Key Value) (key other : Key) (value : Value) :
    (map.insert key value).find? other = if other = key then some value else map.find? other := rfl

@[simp] theorem find?_erase (map : PMap Key Value) (key other : Key) :
    (map.erase key).find? other = if other = key then none else map.find? other := rfl

/-- Erasing an absent key is the identity. -/
theorem erase_of_find?_eq_none {map : PMap Key Value} {key : Key} (absent : map.find? key = none) :
    map.erase key = map := by
  ext1
  funext other
  by_cases same : other = key
  · subst same
    simp [absent]
  · simp [same]

/-- Two maps lead back to each other. -/
def Mirrored (forward : PMap Key Value) (backward : PMap Value Key) : Prop :=
  ∀ key value, forward.find? key = some value ↔ backward.find? value = some key

namespace Mirrored

variable [DecidableEq Value] {forward : PMap Key Value} {backward : PMap Value Key}

/-- A new entry in both keeps two maps mirrored exactly if neither end of it led elsewhere. -/
theorem insert_iff (mirrored : Mirrored forward backward) (key : Key) (value : Value) :
    Mirrored (forward.insert key value) (backward.insert value key) ↔
      (∀ other, forward.find? key = some other → other = value) ∧
        ∀ other, backward.find? value = some other → other = key := by
  constructor
  · intro kept
    refine ⟨fun other found => ?_, fun other found => ?_⟩
    · -- the old value of the key still leads to it
      refine Decidable.byContradiction fun elsewhere => ?_
      have stale : (backward.insert value key).find? other = some key := by
        simp [elsewhere, (mirrored key other).mp found]
      have current := (kept key other).mpr stale
      simp only [find?_insert, if_true, Option.some.injEq] at current
      exact elsewhere current.symm
    · -- the old key of the value still leads to it
      refine Decidable.byContradiction fun stranger => ?_
      have stale : (forward.insert key value).find? other = some value := by
        simp [stranger, (mirrored other value).mpr found]
      have current := (kept other value).mp stale
      simp only [find?_insert, if_true, Option.some.injEq] at current
      exact stranger current.symm
  · intro ⟨sameValue, sameKey⟩ other otherValue
    simp only [find?_insert]
    by_cases atKey : other = key <;> by_cases atValue : otherValue = value
    · simp [atKey, atValue]
    · have noEntry : backward.find? otherValue ≠ some key := by
        intro found
        exact atValue (sameValue otherValue ((mirrored _ _).mpr found))
      simp [atKey, atValue, Ne.symm atValue, noEntry]
    · have noEntry : forward.find? other ≠ some value := by
        intro found
        exact atKey (sameKey other ((mirrored _ _).mp found))
      simp [atKey, atValue, Ne.symm atKey, noEntry]
    · simp [atKey, atValue, mirrored other otherValue]

/-- Removing an entry from one map keeps the two mirrored exactly if the same entry goes from the
other. -/
theorem erase_iff (mirrored : Mirrored forward backward) {key : Key} {value : Value}
    (found : forward.find? key = some value) (erased : Value) :
    Mirrored (forward.erase key) (backward.erase erased) ↔ erased = value := by
  have back := (mirrored key value).mp found
  constructor
  · intro kept
    refine Decidable.byContradiction fun elsewhere => ?_
    have stale := (kept key value).mpr (by simp [Ne.symm elsewhere, back])
    simp at stale
  · intro same other otherValue
    subst same
    simp only [find?_erase]
    by_cases atKey : other = key <;> by_cases atValue : otherValue = erased
    · simp [atKey, atValue]
    · have noEntry : backward.find? otherValue ≠ some key := by
        intro also
        exact atValue (Option.some.inj (((mirrored _ _).mpr also).symm.trans found))
      simp [atKey, atValue, noEntry]
    · have noEntry : forward.find? other ≠ some erased := by
        intro also
        exact atKey (Option.some.inj (((mirrored _ _).mp also).symm.trans back))
      simp [atKey, atValue, noEntry]
    · simp [atKey, atValue, mirrored other otherValue]

end Mirrored

/-- The map leads to what is there, from the key of each. -/
def Indexes (map : PMap Key Value) (there : Value → Key → Prop) : Prop :=
  ∀ key value, map.find? key = some value ↔ there value key

namespace Indexes

variable {map : PMap Key Value} {there : Value → Key → Prop} {key : Key} {value : Value}

omit [DecidableEq Key] in
theorem empty : Indexes (PMap.empty : PMap Key Value) fun _ _ => False := by
  simp [Indexes]

omit [DecidableEq Key] in
/-- It does not matter how it is said what is there. -/
theorem congr {now : Value → Key → Prop} (indexes : Indexes map there)
    (same : ∀ value key, now value key ↔ there value key) : Indexes map now :=
  fun key value => (indexes key value).trans (same value key).symm

/-- A value with a new key displaces nothing. -/
theorem insert (indexes : Indexes map there) (value : Value) (fresh : ∀ other, ¬ there other key) :
    Indexes (map.insert key value)
      fun other otherKey => there other otherKey ∨ (other = value ∧ otherKey = key) := by
  intro otherKey other
  rw [find?_insert]
  by_cases same : otherKey = key
  · subst same
    simp [fresh other, eq_comm]
  · simp [same, indexes otherKey other]

/-- What is erased under its only key is gone, and nothing else is. -/
theorem erase (indexes : Indexes map there) (here : there value key)
    (own : ∀ otherKey, there value otherKey → otherKey = key) :
    Indexes (map.erase key) fun other otherKey => there other otherKey ∧ other ≠ value := by
  intro otherKey other
  rw [find?_erase]
  by_cases same : otherKey = key
  · subst same
    have found := (indexes otherKey value).mpr here
    simp only [if_true, reduceCtorEq, false_iff]
    intro also
    exact also.2 (Option.some.inj (((indexes otherKey other).mpr also.1).symm.trans found))
  · rw [if_neg same, indexes otherKey other]
    refine ⟨fun also => ⟨also, fun equal => same (own otherKey (equal ▸ also))⟩, And.left⟩

end Indexes

end PMap

/-- References are positions in the heap. -/
abbrev Ref := Nat

/-- A heap of objects of one type.  Cells are never reused. -/
structure Heap (Obj : Type u) where
  cells : List Obj

namespace Heap

variable {Obj : Type u}

/-- The heap without objects. -/
def empty : Heap Obj := ⟨[]⟩

/-- The reference the next allocation returns. -/
def next (heap : Heap Obj) : Ref := heap.cells.length

/-- Read the object behind a reference. -/
def deref (heap : Heap Obj) (ref : Ref) : Option Obj := heap.cells[ref]?

/-- Allocate an object at `heap.next`. -/
def alloc (heap : Heap Obj) (obj : Obj) : Heap Obj := ⟨heap.cells ++ [obj]⟩

/-- Update the object behind a reference. -/
def modify (heap : Heap Obj) (ref : Ref) (change : Obj → Obj) : Heap Obj :=
  ⟨heap.cells.modify ref change⟩

/-- A heap is what its references hold. -/
theorem ext_deref {heap other : Heap Obj} (same : ∀ ref, heap.deref ref = other.deref ref) :
    heap = other := by
  obtain ⟨cells⟩ := heap
  obtain ⟨cells'⟩ := other
  exact congrArg Heap.mk (List.ext_getElem? same)

@[simp] theorem deref_empty (ref : Ref) : (empty : Heap Obj).deref ref = none := rfl

@[simp] theorem deref_next (heap : Heap Obj) : heap.deref heap.next = none := by
  simp [deref, next]

/-- A reference that holds an object was allocated before. -/
theorem ne_next_of_deref {heap : Heap Obj} {ref : Ref} {obj : Obj}
    (held : heap.deref ref = some obj) : ref ≠ heap.next := by
  rintro rfl
  simp at held

/-- References to objects are below the next one. -/
theorem lt_next_of_deref {heap : Heap Obj} {ref : Ref} {obj : Obj}
    (held : heap.deref ref = some obj) : ref < heap.next :=
  (List.getElem?_eq_some_iff.mp held).1

@[simp] theorem next_alloc (heap : Heap Obj) (obj : Obj) :
    (heap.alloc obj).next = heap.next + 1 := by
  simp [next, alloc]

@[simp] theorem deref_alloc (heap : Heap Obj) (obj : Obj) (ref : Ref) :
    (heap.alloc obj).deref ref = if ref = heap.next then some obj else heap.deref ref := by
  by_cases same : ref = heap.next
  · subst same
    simp [deref, alloc, next]
  · rw [if_neg same]
    by_cases old : ref < heap.cells.length
    · simp only [deref, alloc]
      exact List.getElem?_append_left old
    · have past : heap.cells.length < ref :=
        Nat.lt_of_le_of_ne (Nat.le_of_not_lt old) (Ne.symm same)
      simp only [deref, alloc]
      rw [List.getElem?_eq_none (by simp; omega), List.getElem?_eq_none (by omega)]

@[simp] theorem deref_modify (heap : Heap Obj) (ref other : Ref) (change : Obj → Obj) :
    (heap.modify ref change).deref other =
      if other = ref then (heap.deref other).map change else heap.deref other := by
  simp only [deref, modify, List.getElem?_modify]
  by_cases same : ref = other
  · simp [same]
  · simp [same, Ne.symm same]

end Heap

end GomukuServer.Base
