/-
Module: GomukuServer.Base.Cells
Layer: Base
Purpose: A growable array of cells as a list: a window of it, copying a block into it, and resizing
  it.  The lemmas say what each operation does to a window, which is all that a buffer with a read
  and a write position needs.  The checked operations refuse a range that leaves the array.
Trusted boundary: none
Main exports: slice, overwrite, resize, slice_overwrite_end, slice_overwrite_before, slice_resize,
  copyWithin, copyWithin_eq
-/

namespace GomukuServer.Base.Cells

universe u

variable {Cell : Type u}

/-- The cells from position `first` up to position `last`. -/
def slice (cells : List Cell) (first last : Nat) : List Cell := (cells.take last).drop first

/-- Copy `data` over the cells from position `start`. -/
def overwrite (cells : List Cell) (start : Nat) (data : List Cell) : List Cell :=
  cells.take start ++ data ++ cells.drop (start + data.length)

/-- Cut or extend to `size` cells.  New cells hold `fill`. -/
def resize (cells : List Cell) (size : Nat) (fill : Cell) : List Cell :=
  cells.take size ++ List.replicate (size - cells.length) fill

@[simp] theorem length_resize (cells : List Cell) (size : Nat) (fill : Cell) :
    (resize cells size fill).length = size := by
  simp only [resize, List.length_append, List.length_take, List.length_replicate]
  omega

theorem length_slice {cells : List Cell} {first last : Nat} (inside : last ≤ cells.length) :
    (slice cells first last).length = last - first := by
  simp only [slice, List.length_drop, List.length_take]
  omega

theorem length_overwrite {cells data : List Cell} {start : Nat}
    (fits : start + data.length ≤ cells.length) :
    (overwrite cells start data).length = cells.length := by
  simp only [overwrite, List.length_append, List.length_take, List.length_drop]
  omega

@[simp] theorem slice_self (cells : List Cell) (position : Nat) :
    slice cells position position = [] :=
  List.drop_eq_nil_of_le (List.length_take_le position cells)

/-- Dropping from a window moves its start. -/
theorem drop_slice (cells : List Cell) (first last count : Nat) :
    (slice cells first last).drop count = slice cells (first + count) last := by
  simp [slice, List.drop_drop]

/-- Taking from a window moves its end. -/
theorem take_slice {cells : List Cell} {first last count : Nat} (inside : first + count ≤ last) :
    (slice cells first last).take count = slice cells first (first + count) := by
  rw [slice, List.take_drop, List.take_take, Nat.min_eq_left inside, slice]

/-- A window splits at every position inside it. -/
theorem slice_append {cells : List Cell} {first middle last : Nat} (lower : first ≤ middle)
    (upper : middle ≤ last) :
    slice cells first middle ++ slice cells middle last = slice cells first last := by
  have split := List.take_append_drop (middle - first) (slice cells first last)
  rw [take_slice (by omega), drop_slice] at split
  simpa [Nat.add_sub_cancel' lower] using split

/-- A window in front of the copied block keeps its cells. -/
theorem slice_overwrite_before {cells data : List Cell} {start first last : Nat}
    (before : last ≤ start) (inside : start ≤ cells.length) :
    slice (overwrite cells start data) first last = slice cells first last := by
  have bound : last ≤ (cells.take start).length := by
    simp only [List.length_take]
    omega
  rw [slice, overwrite, List.append_assoc, List.take_append_of_le_length bound, List.take_take,
    Nat.min_eq_left before, slice]

/-- The copied block is a window of the result. -/
theorem slice_overwrite_self {cells data : List Cell} {start : Nat}
    (inside : start ≤ cells.length) :
    slice (overwrite cells start data) start (start + data.length) = data := by
  have front : (cells.take start).length = start := List.length_take_of_le inside
  have whole : (cells.take start ++ data).length = start + data.length := by
    rw [List.length_append, front]
  rw [slice, overwrite, ← whole, List.take_append_of_le_length (Nat.le_refl _), List.take_length]
  exact List.drop_left' front

/-- A block copied to the end of a window extends the window by the block. -/
theorem slice_overwrite_end {cells data : List Cell} {start first : Nat} (before : first ≤ start)
    (inside : start ≤ cells.length) :
    slice (overwrite cells start data) first (start + data.length) =
      slice cells first start ++ data := by
  rw [← slice_append before (Nat.le_add_right start data.length),
    slice_overwrite_before (Nat.le_refl start) inside, slice_overwrite_self inside]

/-- What is copied to the front of an array is what the array then starts with. -/
theorem take_overwrite_zero (cells data : List Cell) :
    (overwrite cells 0 data).take data.length = data := by
  rw [overwrite, List.take_zero, List.nil_append, List.take_append_of_le_length (Nat.le_refl _),
    List.take_length]

/-- Resizing beyond a window keeps it. -/
theorem slice_resize {cells : List Cell} {size first last : Nat} {fill : Cell}
    (inside : last ≤ cells.length) (bound : last ≤ size) :
    slice (resize cells size fill) first last = slice cells first last := by
  have enough : last ≤ (cells.take size).length := by
    simp only [List.length_take]
    omega
  rw [slice, resize, List.take_append_of_le_length enough, List.take_take, Nat.min_eq_left bound,
    slice]

/-! ### Checked operations -/

/-- Read `count` cells from position `first`. -/
def readCells (cells : List Cell) (first count : Nat) : Option (List Cell) :=
  if first + count ≤ cells.length then some (slice cells first (first + count)) else none

/-- Write `data` from position `start`. -/
def writeCells (cells : List Cell) (start : Nat) (data : List Cell) : Option (List Cell) :=
  if start + data.length ≤ cells.length then some (overwrite cells start data) else none

/-- Copy `count` cells from `source` to `dest` inside one array, one cell after the other from the
front.  Where the ranges overlap, a later step can read what an earlier one has written. -/
def copyWithin (cells : List Cell) (source dest : Nat) : Nat → Option (List Cell)
  | 0 => some cells
  | count + 1 =>
      match cells[source]? with
      | none => none
      | some cell =>
          if dest < cells.length then copyWithin (cells.set dest cell) (source + 1) (dest + 1) count
          else none

/-- The first cell of a window. -/
theorem slice_succ {cells : List Cell} {first count : Nat} {cell : Cell}
    (here : cells[first]? = some cell) :
    slice cells first (first + (count + 1)) =
      cell :: slice cells (first + 1) (first + 1 + count) := by
  have bound : first < cells.length := (List.getElem?_eq_some_iff.mp here).1
  have taken : (cells.take (first + (count + 1)))[first]? = some cell := by
    rw [List.getElem?_take_of_lt (by omega), here]
  obtain ⟨inside, cellEq⟩ := List.getElem?_eq_some_iff.mp taken
  rw [slice, List.drop_eq_getElem_cons inside, cellEq, slice]
  congr 3
  omega

/-- Writing a cell in front of a window keeps the window. -/
theorem slice_set_before {cells : List Cell} {position first last : Nat} {cell : Cell}
    (before : position < first) : slice (cells.set position cell) first last =
      slice cells first last := by
  rw [slice, slice, List.take_set, List.drop_set, if_pos before]

/-- Copying a block is copying its first cell and then the others. -/
theorem overwrite_set {cells data : List Cell} {start : Nat} {cell : Cell}
    (bound : start < cells.length) :
    overwrite (cells.set start cell) (start + 1) data = overwrite cells start (cell :: data) := by
  have front : (cells.set start cell).take (start + 1) = cells.take start ++ [cell] := by
    rw [List.take_add_one, List.take_set_of_le (Nat.le_refl _), List.getElem?_set_self bound]
    rfl
  have back : (cells.set start cell).drop (start + 1 + data.length) =
      cells.drop (start + (cell :: data).length) := by
    rw [List.drop_set_of_lt (by omega)]
    congr 1
    simp only [List.length_cons]
    omega
  rw [overwrite, overwrite, front, back, List.append_assoc (cells.take start) [cell] data]
  rfl

/-- Copying towards the front gives the block that was there before: no cell is overwritten
before it has been read. -/
theorem copyWithin_eq {cells : List Cell} {source dest count : Nat} (down : dest ≤ source)
    (inside : source + count ≤ cells.length) :
    copyWithin cells source dest count =
      some (overwrite cells dest (slice cells source (source + count))) := by
  induction count generalizing cells source dest with
  | zero => simp [copyWithin, overwrite]
  | succ count inductionHypothesis =>
      have bound : source < cells.length := by omega
      obtain ⟨cell, here⟩ : ∃ cell, cells[source]? = some cell := ⟨_, List.getElem?_eq_getElem bound⟩
      have room : dest < cells.length := by omega
      have inside' : source + 1 + count ≤ (cells.set dest cell).length := by
        rw [List.length_set]
        omega
      have rest := inductionHypothesis (Nat.succ_le_succ down) inside'
      simp only [copyWithin, here, if_pos room]
      rw [rest, slice_set_before (by omega), overwrite_set room, slice_succ here]

end GomukuServer.Base.Cells
