/-
Module: GomukuServer.Base.TextFile
Layer: Base
Purpose: Reading a text file line by line into an array, as `fgets` does it, and the loop that goes
  on until the end of the file has been seen.  The characters may be of any type.
Trusted boundary: a read never fails, and sees the end of the file only behind its last character
Main exports: fgets, readAll, text, exists_readAll, readAll_text
-/
import Mathlib.Algebra.Group.Nat.Defs

namespace GomukuServer.Base.TextFile

universe u v

variable {Letter : Type u} [DecidableEq Letter] {State : Type v}

/-- Read at most `size` characters, up to the end of the line and with it: the characters, the rest
of the file, and whether the end of the file was met. -/
def fgets (newline : Letter) : Nat → List Letter → List Letter × List Letter × Bool
  | 0, file => ([], file, false)
  | _ + 1, [] => ([], [], true)
  | size + 1, letter :: file =>
      if letter = newline then ([letter], file, false)
      else
        let (line, rest, eof) := fgets newline size file
        (letter :: line, rest, eof)

/-- Handle one piece after the other until the end of the file has been met.  Without enough turns
there is no result. -/
def readAll (newline : Letter) (size : Nat) (handle : State → List Letter → State) :
    Nat → State → List Letter → Option State
  | 0, _, _ => none
  | turns + 1, state, file =>
      let (line, rest, eof) := fgets newline size file
      let state := handle state line
      if eof then some state else readAll newline size handle turns state rest

/-- Lines that are ended, and what comes after the last newline. -/
def text (newline : Letter) (lines : List (List Letter)) (last : List Letter) : List Letter :=
  lines.flatMap (· ++ [newline]) ++ last

/-! ### One piece -/

/-- A line that fits is read whole. -/
theorem fgets_line {newline : Letter} {line : List Letter} (plain : newline ∉ line) {size : Nat}
    (fits : line.length < size) (rest : List Letter) :
    fgets newline size (line ++ newline :: rest) = (line ++ [newline], rest, false) := by
  induction line generalizing size with
  | nil =>
      obtain ⟨size, rfl⟩ := Nat.exists_eq_succ_of_ne_zero (Nat.ne_of_gt fits)
      simp [fgets]
  | cons letter line inductionHypothesis =>
      obtain ⟨size, rfl⟩ := Nat.exists_eq_succ_of_ne_zero (Nat.ne_of_gt (Nat.zero_lt_of_lt fits))
      rw [List.mem_cons, not_or] at plain
      have rest := inductionHypothesis plain.2 (Nat.lt_of_succ_lt_succ fits)
      simp only [List.cons_append, fgets, if_neg (Ne.symm plain.1), rest]

/-- What is not ended by a newline is read to the end of the file, which is met unless the array is
full. -/
theorem fgets_last {newline : Letter} {line : List Letter} (plain : newline ∉ line) {size : Nat}
    (fits : line.length ≤ size) :
    fgets newline size line = (line, [], decide (line.length < size)) := by
  induction line generalizing size with
  | nil => cases size <;> simp [fgets]
  | cons letter line inductionHypothesis =>
      obtain ⟨size, rfl⟩ := Nat.exists_eq_succ_of_ne_zero (Nat.ne_of_gt (Nat.zero_lt_of_lt fits))
      rw [List.mem_cons, not_or] at plain
      have rest := inductionHypothesis plain.2 (Nat.le_of_succ_le_succ fits)
      simp only [fgets, if_neg (Ne.symm plain.1), rest, List.length_cons, Nat.succ_lt_succ_iff]

/-- Something is read as long as there is something. -/
theorem length_fgets_lt (newline : Letter) {size : Nat} (room : 0 < size) {file : List Letter}
    (some : file ≠ []) : (fgets newline size file).2.1.length < file.length := by
  induction size generalizing file with
  | zero => exact absurd room (Nat.lt_irrefl 0)
  | succ size inductionHypothesis =>
      cases file with
      | nil => exact absurd rfl some
      | cons letter file =>
          simp only [fgets]
          split
          · simp
          · cases size with
            | zero => simp [fgets]
            | succ size =>
                cases file with
                | nil => simp [fgets]
                | cons other file =>
                    have shorter :=
                      @inductionHypothesis (Nat.succ_pos size) (other :: file) (by simp)
                    rcases read : fgets newline (size + 1) (other :: file) with ⟨line, rest, eof⟩
                    simp only [read, List.length_cons] at shorter ⊢
                    omega

/-! ### The loop -/

/-- The loop ends on every file. -/
theorem exists_readAll (newline : Letter) {size : Nat} (room : 0 < size)
    (handle : State → List Letter → State) {turns : Nat} {file : List Letter}
    (enough : file.length < turns) (state : State) :
    ∃ last, readAll newline size handle turns state file = some last := by
  induction turns generalizing file state with
  | zero => exact absurd enough (Nat.not_lt_zero _)
  | succ turns inductionHypothesis =>
      simp only [readAll]
      split
      · exact ⟨_, rfl⟩
      · rename_i goesOn
        have some : file ≠ [] := by
          rintro rfl
          obtain ⟨size, rfl⟩ := Nat.exists_eq_succ_of_ne_zero (Nat.ne_of_gt room)
          exact goesOn rfl
        exact inductionHypothesis
          (Nat.lt_of_lt_of_le (length_fgets_lt newline room some) (Nat.le_of_lt_succ enough)) _

/-- A file whose lines fit is handled line by line. -/
theorem readAll_text {newline : Letter} {size : Nat} (room : 0 < size)
    {handle : State → List Letter → State} (idle : ∀ state, handle state [] = state)
    {lines : List (List Letter)} (plain : ∀ line ∈ lines, newline ∉ line)
    (fits : ∀ line ∈ lines, line.length < size) {last : List Letter} (plainLast : newline ∉ last)
    (fitsLast : last.length ≤ size) {turns : Nat}
    (enough : (text newline lines last).length < turns) (state : State) :
    readAll newline size handle turns state (text newline lines last) =
      some (handle ((lines.map (· ++ [newline])).foldl handle state) last) := by
  induction lines generalizing turns state with
  | nil =>
      obtain ⟨turns, rfl⟩ := Nat.exists_eq_succ_of_ne_zero (Nat.ne_of_gt (Nat.zero_lt_of_lt enough))
      have start : text newline [] last = last := rfl
      rw [start] at enough ⊢
      simp only [readAll, fgets_last plainLast fitsLast]
      by_cases short : last.length < size
      · simp [short]
      · -- the array is full, and the end of the file is met in one more turn
        obtain ⟨size, rfl⟩ := Nat.exists_eq_succ_of_ne_zero (Nat.ne_of_gt room)
        obtain ⟨turns, rfl⟩ : ∃ rest, turns = rest + 1 := ⟨turns - 1, by omega⟩
        simp [short, readAll, fgets, idle]
  | cons line lines inductionHypothesis =>
      obtain ⟨turns, rfl⟩ := Nat.exists_eq_succ_of_ne_zero (Nat.ne_of_gt (Nat.zero_lt_of_lt enough))
      have first : text newline (line :: lines) last =
          line ++ newline :: text newline lines last := by
        simp [text]
      rw [first] at enough ⊢
      have read := fgets_line (plain line (List.mem_cons_self ..))
        (fits line (List.mem_cons_self ..)) (text newline lines last)
      simp only [readAll, read, Bool.false_eq_true, if_false, List.map_cons, List.foldl_cons]
      refine inductionHypothesis (fun other inside => plain other (List.mem_cons_of_mem _ inside))
        (fun other inside => fits other (List.mem_cons_of_mem _ inside)) ?_ _
      simp only [List.length_append, List.length_cons] at enough
      omega

end GomukuServer.Base.TextFile
