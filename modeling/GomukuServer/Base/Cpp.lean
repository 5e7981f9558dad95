/-
Module: GomukuServer.Base.Cpp
Layer: Base
Purpose: The ways a C++ call can fail to return normally, and the inversion lemma for the `Except`
  computations that model such calls.
Trusted boundary: none
Main exports: Fault, bind_eq_ok, map_eq_ok
-/

namespace GomukuServer.Base

universe u v w

/-- Why a call does not return normally.  Each one ends the process or is undefined behaviour, so
nothing is claimed about what follows. -/
inductive Fault where
  /-- A member is used through a null pointer. -/
  | nullDereference
  /-- An object is used after it has been deleted. -/
  | danglingPointer
  /-- A container is read or written outside its elements. -/
  | outOfBounds
  /-- An exception leaves the call, and no caller catches it. -/
  | uncaughtException (what : String)
  /-- A thread locks a non-recursive mutex that it already holds. -/
  | selfDeadlock
  /-- A loop does not end. -/
  | nonTermination
  /-- The process exits from a fatal log call. -/
  | exit
deriving DecidableEq, Repr, Inhabited

/-- A sequence of two calls returns normally exactly if both calls do. -/
theorem bind_eq_ok {Error : Type u} {First : Type v} {Second : Type v} {call : Except Error First}
    {rest : First → Except Error Second} {result : Second} :
    (call >>= rest) = .ok result ↔ ∃ value, call = .ok value ∧ rest value = .ok result := by
  cases call with
  | error fault => simp [bind, Except.bind]
  | ok value => simp [bind, Except.bind]

/-- A call whose result is converted returns normally exactly if the call does. -/
theorem map_eq_ok {Error : Type u} {First : Type v} {Second : Type v} {call : Except Error First}
    {convert : First → Second} {result : Second} :
    call.map convert = .ok result ↔ ∃ value, call = .ok value ∧ convert value = result := by
  cases call with
  | error fault => simp [Except.map]
  | ok value => simp [Except.map]

@[simp] theorem ok_bind {Error : Type u} {First : Type v} {Second : Type v} (value : First)
    (rest : First → Except Error Second) :
    ((Except.ok value : Except Error First) >>= rest) = rest value := rfl

@[simp] theorem error_bind {Error : Type u} {First : Type v} {Second : Type v} (fault : Error)
    (rest : First → Except Error Second) :
    ((Except.error fault : Except Error First) >>= rest) = .error fault := rfl

@[simp] theorem pure_eq_ok {Error : Type u} {First : Type v} (value : First) :
    (pure value : Except Error First) = .ok value := rfl

end GomukuServer.Base
