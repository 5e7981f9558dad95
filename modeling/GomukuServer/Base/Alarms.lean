/-
Module: GomukuServer.Base.Alarms
Layer: Base
Purpose: What a timer service is for: alarms with a delay, which are due their delay after they were
  set or last refreshed, and which ring when they are due unless they have been cancelled before.
  The alarms are numbered in the order in which they were set.
Trusted boundary: none
Main exports: Alarm, Alarms, set, refresh, cancel, tick, Pending, Rung
-/
import Mathlib.Algebra.Group.Nat.Defs

namespace GomukuServer.Base

universe u

/-- An alarm. -/
structure Alarm (Id : Type u) where
  id : Id
  delay : Nat
  due : Nat
  cancelled : Bool
deriving DecidableEq, Repr

/-- The time, and all the alarms that were ever set. -/
structure Alarms (Id : Type u) where
  now : Nat
  alarms : List (Alarm Id)
deriving DecidableEq, Repr

namespace Alarms

variable {Id : Type u}

/-- The alarm is still to ring. -/
def Pending (service : Alarms Id) (alarm : Alarm Id) : Prop := service.now < alarm.due

instance (service : Alarms Id) (alarm : Alarm Id) : Decidable (service.Pending alarm) :=
  inferInstanceAs (Decidable (service.now < alarm.due))

/-- The alarm has rung. -/
def Rung (service : Alarms Id) (alarm : Alarm Id) : Prop :=
  alarm.due ≤ service.now ∧ alarm.cancelled = false

instance (service : Alarms Id) (alarm : Alarm Id) : Decidable (service.Rung alarm) :=
  inferInstanceAs (Decidable (_ ∧ _))

/-- No alarm yet. -/
def new : Alarms Id := ⟨0, []⟩

/-- Set an alarm. -/
def set (service : Alarms Id) (id : Id) (delay : Nat) : Alarms Id :=
  { service with alarms := service.alarms ++ [⟨id, delay, service.now + delay, false⟩] }

/-- Time passes. -/
def tick (service : Alarms Id) : Alarms Id := { service with now := service.now + 1 }

variable [DecidableEq Id]

/-- Change the alarms with this name that are still to ring. -/
def changePending (service : Alarms Id) (id : Id) (change : Alarm Id → Alarm Id) : Alarms Id :=
  { service with
    alarms := service.alarms.map fun alarm =>
      if alarm.id = id ∧ service.Pending alarm then change alarm else alarm }

/-- Start the delay again. -/
def refresh (service : Alarms Id) (id : Id) : Alarms Id :=
  service.changePending id fun alarm => { alarm with due := service.now + alarm.delay }

/-- Keep an alarm from ringing. -/
def cancel (service : Alarms Id) (id : Id) : Alarms Id :=
  service.changePending id fun alarm => { alarm with cancelled := true }

omit [DecidableEq Id] in
theorem getElem?_set (service : Alarms Id) (id : Id) (delay number : Nat) :
    (service.set id delay).alarms[number]? =
      if number = service.alarms.length then some ⟨id, delay, service.now + delay, false⟩
      else service.alarms[number]? := by
  by_cases last : number = service.alarms.length
  · rw [if_pos last, set, last, List.getElem?_concat_length]
  · rw [if_neg last, set]
    by_cases old : number < service.alarms.length
    · exact List.getElem?_append_left old
    · rw [List.getElem?_eq_none (by simp; omega), List.getElem?_eq_none (by omega)]

theorem getElem?_changePending (service : Alarms Id) (id : Id) (change : Alarm Id → Alarm Id)
    (number : Nat) : (service.changePending id change).alarms[number]? =
      (service.alarms[number]?).map fun alarm =>
        if alarm.id = id ∧ service.Pending alarm then change alarm else alarm :=
  List.getElem?_map

/-- With no alarm of this name to ring, nothing changes. -/
theorem changePending_of_none {service : Alarms Id} {id : Id} (change : Alarm Id → Alarm Id)
    (nothing : ∀ alarm ∈ service.alarms, alarm.id = id → ¬ service.Pending alarm) :
    service.changePending id change = service := by
  unfold changePending
  have same : service.alarms.map (fun alarm =>
      if alarm.id = id ∧ service.Pending alarm then change alarm else alarm) =
        service.alarms.map fun alarm => alarm :=
    List.map_congr_left fun alarm inside =>
      if_neg fun found => nothing alarm inside found.1 found.2
  rw [same, List.map_id']

end Alarms

end GomukuServer.Base
