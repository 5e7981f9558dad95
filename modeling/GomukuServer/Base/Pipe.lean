/-
Module: GomukuServer.Base.Pipe
Layer: Base
Purpose: A pipe: data is pushed in at one end and drained from the other, in pieces of any size.  It
  is the meaning of an output buffer in front of a socket, and a program that only pushes and drains
  passes on exactly what was pushed.
Trusted boundary: none
Main exports: Pipe, Pipe.Move, Pipe.stream_moves
-/

namespace GomukuServer.Base

universe u

/-- What has left the pipe, and what is still in it. -/
@[ext] structure Pipe (Item : Type u) where
  taken : List Item
  pending : List Item

namespace Pipe

variable {Item : Type u}

/-- The two things that can happen to a pipe. -/
inductive Move (Item : Type u) where
  | push (data : List Item)
  | drain (count : Nat)

/-- Put data in at the end. -/
def push (pipe : Pipe Item) (data : List Item) : Pipe Item :=
  ⟨pipe.taken, pipe.pending ++ data⟩

/-- Let the first `count` items out. -/
def drain (pipe : Pipe Item) (count : Nat) : Pipe Item :=
  ⟨pipe.taken ++ pipe.pending.take count, pipe.pending.drop count⟩

/-- Execute one move. -/
def move (pipe : Pipe Item) : Move Item → Pipe Item
  | .push data => pipe.push data
  | .drain count => pipe.drain count

/-- Execute several moves. -/
def moves (pipe : Pipe Item) (steps : List (Move Item)) : Pipe Item := steps.foldl move pipe

/-- What a move puts in. -/
def Move.pushed : Move Item → List Item
  | .push data => data
  | .drain _ => []

/-- Everything that was ever put in, in order. -/
def stream (pipe : Pipe Item) : List Item := pipe.taken ++ pipe.pending

theorem stream_move (pipe : Pipe Item) (step : Move Item) :
    (pipe.move step).stream = pipe.stream ++ step.pushed := by
  cases step with
  | push data => simp [move, push, stream, Move.pushed]
  | drain count => simp [move, drain, stream, Move.pushed]

/-- Moves extend the stream by what they push, and by nothing else. -/
theorem stream_moves (pipe : Pipe Item) (steps : List (Move Item)) :
    (pipe.moves steps).stream = pipe.stream ++ (steps.map Move.pushed).flatten := by
  induction steps generalizing pipe with
  | nil => simp [moves]
  | cons step steps inductionHypothesis =>
      have rest := inductionHypothesis (pipe.move step)
      rw [stream_move] at rest
      simpa [moves] using rest

end Pipe

end GomukuServer.Base
