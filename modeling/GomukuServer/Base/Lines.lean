/-
Module: GomukuServer.Base.Lines
Layer: Base
Purpose: Straight lines of marked cells on a lattice.  The cells are the elements of an additive
  group, a line is walked by adding a direction, and a line is maximal when neither of its two
  prolongations is marked.  The module relates three views of a line: its first cell and length, the
  two counts an outward scan from one of its cells makes, and its reversal; and it says which
  maximal lines exist after one more cell is marked.
Trusted boundary: none
Main exports: MaximalLine, Through, MaximalLine.unique_of_through, maximalLine_of_scan,
  MaximalLine.reverse, MaximalLine.of_mark
-/
import Mathlib.Algebra.Group.Basic
import Mathlib.Tactic.Abel

namespace GomukuServer.Base.Lines

universe u

variable {Cell : Type u} [AddCommGroup Cell]

/-- `length` marked cells from `first` on in direction `dir`, with unmarked cells at both ends. -/
structure MaximalLine (marked : Cell → Prop) (first dir : Cell) (length : Nat) : Prop where
  cells : ∀ i < length, marked (first + i • dir)
  before : ¬ marked (first - dir)
  after : ¬ marked (first + length • dir)

/-- `cell` is one of the `length` cells from `first` on in direction `dir`. -/
def Through (first dir : Cell) (length : Nat) (cell : Cell) : Prop :=
  ∃ i < length, cell = first + i • dir

/-- A scan that leaves `cell` in direction `dir` passes exactly `count` marked cells. -/
structure Scan (marked : Cell → Prop) (cell dir : Cell) (count : Nat) : Prop where
  cells : ∀ i < count, marked (cell + (i + 1) • dir)
  stop : ¬ marked (cell + (count + 1) • dir)

private theorem not_earlier {marked : Cell → Prop} {first dir other : Cell} {m n i j : Nat}
    (line : MaximalLine marked first dir m) (otherLine : MaximalLine marked other dir n)
    (inside : i < m) (meet : first + i • dir = other + j • dir) : ¬ j < i := by
  intro earlier
  obtain ⟨k, rfl⟩ : ∃ k, i = k + 1 + j := ⟨i - j - 1, by omega⟩
  have otherEq : first + k • dir + dir = other := by
    apply add_right_cancel (b := j • dir)
    rw [← meet, add_nsmul, add_nsmul, one_nsmul]
    abel
  -- the cell before `other` would lie on the first line
  have cellEq : first + k • dir = other - dir := by
    rw [← otherEq]
    abel
  exact otherLine.before (cellEq ▸ line.cells k (by omega))

private theorem not_shorter {marked : Cell → Prop} {first dir : Cell} {m n : Nat}
    (line : MaximalLine marked first dir m) (otherLine : MaximalLine marked first dir n) :
    ¬ m < n :=
  fun shorter => line.after (otherLine.cells m shorter)

/-- Two maximal lines in one direction that share a cell are the same line. -/
theorem MaximalLine.unique_of_through {marked : Cell → Prop} {first other dir cell : Cell}
    {m n : Nat} (line : MaximalLine marked first dir m)
    (otherLine : MaximalLine marked other dir n)
    (through : Through first dir m cell) (otherThrough : Through other dir n cell) :
    first = other ∧ m = n := by
  obtain ⟨i, inside, cellEq⟩ := through
  obtain ⟨j, otherInside, otherCellEq⟩ := otherThrough
  have meet : first + i • dir = other + j • dir := cellEq ▸ otherCellEq
  have noEarlier := not_earlier line otherLine inside meet
  have noLater := not_earlier otherLine line otherInside meet.symm
  have sameIndex : i = j := by omega
  subst sameIndex
  have sameFirst : first = other := add_right_cancel meet
  subst sameFirst
  have lower := not_shorter line otherLine
  have upper := not_shorter otherLine line
  exact ⟨rfl, by omega⟩

/-- The two outward scans from a marked cell measure the maximal line through it. -/
theorem maximalLine_of_scan {marked : Cell → Prop} {cell dir : Cell} {ahead behind : Nat}
    (mark : marked cell) (forward : Scan marked cell dir ahead)
    (backward : Scan marked cell (-dir) behind) :
    MaximalLine marked (cell - behind • dir) dir (behind + 1 + ahead) where
  cells := by
    intro i inside
    rcases Nat.lt_trichotomy i behind with before | here | past
    · obtain ⟨k, rfl⟩ : ∃ k, behind = k + 1 + i := ⟨behind - i - 1, by omega⟩
      have cellEq : cell - (k + 1 + i) • dir + i • dir = cell + (k + 1) • (-dir) := by
        rw [add_nsmul, neg_nsmul]
        abel
      rw [cellEq]
      exact backward.cells k (by omega)
    · subst here
      simpa using mark
    · obtain ⟨k, rfl⟩ : ∃ k, i = k + 1 + behind := ⟨i - behind - 1, by omega⟩
      have cellEq : cell - behind • dir + (k + 1 + behind) • dir = cell + (k + 1) • dir := by
        rw [add_nsmul (m := k + 1)]
        abel
      rw [cellEq]
      exact forward.cells k (by omega)
  before := by
    have cellEq : cell - behind • dir - dir = cell + (behind + 1) • (-dir) := by
      rw [neg_nsmul, add_nsmul, one_nsmul]
      abel
    rw [cellEq]
    exact backward.stop
  after := by
    have cellEq : cell - behind • dir + (behind + 1 + ahead) • dir = cell + (ahead + 1) • dir := by
      simp only [add_nsmul, one_nsmul]
      abel
    rw [cellEq]
    exact forward.stop

/-- The scanned cell lies on the line the two scans measure. -/
theorem through_of_scan (cell dir : Cell) (ahead behind : Nat) :
    Through (cell - behind • dir) dir (behind + 1 + ahead) cell :=
  ⟨behind, by omega, by abel⟩

/-- A line of at least one cell, walked from its other end. -/
theorem MaximalLine.reverse {marked : Cell → Prop} {first dir : Cell} {length : Nat}
    (line : MaximalLine marked first dir (length + 1)) :
    MaximalLine marked (first + length • dir) (-dir) (length + 1) where
  cells := by
    intro i inside
    obtain ⟨k, rfl⟩ : ∃ k, length = k + i := ⟨length - i, by omega⟩
    have cellEq : first + (k + i) • dir + i • (-dir) = first + k • dir := by
      rw [add_nsmul, neg_nsmul]
      abel
    rw [cellEq]
    exact line.cells k (by omega)
  before := by
    have cellEq : first + length • dir - -dir = first + (length + 1) • dir := by
      rw [add_nsmul, one_nsmul]
      abel
    rw [cellEq]
    exact line.after
  after := by
    have cellEq : first + length • dir + (length + 1) • (-dir) = first - dir := by
      rw [neg_nsmul, add_nsmul, one_nsmul]
      abel
    rw [cellEq]
    exact line.before

/-- Reversing a line keeps the cells it passes through. -/
theorem Through.reverse {first dir cell : Cell} {length : Nat}
    (through : Through first dir (length + 1) cell) :
    Through (first + length • dir) (-dir) (length + 1) cell := by
  obtain ⟨i, inside, rfl⟩ := through
  obtain ⟨k, rfl⟩ : ∃ k, length = i + k := ⟨length - i, by omega⟩
  refine ⟨k, by omega, ?_⟩
  rw [add_nsmul, neg_nsmul]
  abel

/-- After marking one more cell, a maximal line that avoids it was maximal before. -/
theorem MaximalLine.of_mark {marked markedAfter : Cell → Prop} {first dir cell : Cell}
    {length : Nat} (grow : ∀ other, markedAfter other ↔ marked other ∨ other = cell)
    (line : MaximalLine markedAfter first dir length) (avoids : ¬ Through first dir length cell) :
    MaximalLine marked first dir length where
  cells := by
    intro i inside
    rcases (grow _).mp (line.cells i inside) with old | new
    · exact old
    · exact absurd ⟨i, inside, new.symm⟩ avoids
  before := fun old => line.before ((grow _).mpr (Or.inl old))
  after := fun old => line.after ((grow _).mpr (Or.inl old))

end GomukuServer.Base.Lines
