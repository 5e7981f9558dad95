/-
Module: GomukuServer.Base.Returns
Layer: Base
Purpose: Total correctness of calls that may fault.  `Returns call post` says that a call returns
  and that what it returns satisfies `post`; one rule for each way calls are put together turns such
  a statement about a function into one about its arguments.
Trusted boundary: none
Main exports: Returns, returns_ok, returns_error, returns_bind, returns_and_iff
-/
import GomukuServer.Base.Cpp

namespace GomukuServer.Base

universe u v

variable {Error : Type u} {First Second : Type v}

/-- The call returns, and its result satisfies the condition. -/
def Returns (call : Except Error First) (post : First → Prop) : Prop :=
  ∃ result, call = .ok result ∧ post result

@[simp] theorem returns_ok {result : First} {post : First → Prop} :
    Returns (.ok result : Except Error First) post ↔ post result := by
  simp [Returns]

@[simp] theorem returns_pure {result : First} {post : First → Prop} :
    Returns (pure result : Except Error First) post ↔ post result := returns_ok

@[simp] theorem returns_error {fault : Error} {post : First → Prop} :
    ¬ Returns (.error fault : Except Error First) post := by
  simp [Returns]

/-- A sequence of two calls returns if the first does, with a result from which the second does. -/
@[simp] theorem returns_bind {call : Except Error First} {rest : First → Except Error Second}
    {post : Second → Prop} :
    Returns (call >>= rest) post ↔ Returns call fun result => Returns (rest result) post := by
  unfold Returns
  constructor
  · rintro ⟨result, called, good⟩
    obtain ⟨value, first, second⟩ := bind_eq_ok.mp called
    exact ⟨value, first, result, second, good⟩
  · rintro ⟨value, first, result, second, good⟩
    exact ⟨result, bind_eq_ok.mpr ⟨value, first, second⟩, good⟩

/-- A condition that does not speak of the result. -/
theorem returns_and_iff {call : Except Error First} {condition : Prop} {post : First → Prop} :
    Returns call (fun result => condition ∧ post result) ↔ condition ∧ Returns call post := by
  unfold Returns
  constructor
  · rintro ⟨result, called, here, good⟩
    exact ⟨here, result, called, good⟩
  · rintro ⟨here, result, called, good⟩
    exact ⟨result, called, here, good⟩

end GomukuServer.Base
