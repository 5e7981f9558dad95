/-
Module: GomukuServer.Net.Json
Layer: Net
Purpose: `Json::Value` and the members of it that the handlers use, with the exceptions JsonCpp
  throws on a value of the wrong type.  The text format is not modelled: whoever parses takes the
  reader as a parameter.
Trusted boundary: JsonCpp converts, and throws, as it documents
Main exports: Json.Value, getMember, subscript, asInt, asUInt, asCString, IsRecord, ConvertsToInt,
  ConvertsToUInt, IsString, texts, returns_getMember, returns_asInt, returns_asUInt,
  returns_asCString
-/
import GomukuServer.Base.Returns
import Mathlib.Algebra.Group.Int.Defs
import Mathlib.Algebra.Group.Nat.Defs
import Mathlib.Data.Rat.Defs

namespace GomukuServer.Net.Json

open Base

/-- `Json::Value`.  Numbers without a fraction that fit are integers, all others reals. -/
inductive Value where
  | null
  | bool (value : Bool)
  | int (value : Int)
  | real (value : Rat)
  | string (text : String)
  | array (elements : List Value)
  | object (members : List (String × Value))

namespace Value

/-- `Json::LogicError`, which nobody catches. -/
def logicError {Result : Type} (what : String) : Except Fault Result :=
  .error (.uncaughtException what)

/-- The value of a member, if it is there. -/
def find? (key : String) (members : List (String × Value)) : Option Value :=
  (members.find? (fun entry => entry.1 == key)).map Prod.snd

/-- `operator[]` on a constant value: an absent member reads as null. -/
def getMember (value : Value) (key : String) : Except Fault Value :=
  match value with
  | .null => .ok .null
  | .object members => .ok ((find? key members).getD .null)
  | _ => logicError "in Json::Value::find(begin, end): requires objectValue or nullValue"

/-- `operator[]` on a value that may change.  A member that is not there is created, which nobody
looks at afterwards. -/
def subscript (value : Value) (key : String) : Except Fault Value :=
  match value with
  | .null => .ok .null
  | .object members => .ok ((find? key members).getD .null)
  | _ => logicError "in Json::Value::resolveReference(key, end): requires objectValue"

/-- The integer part of a real, towards zero. -/
def truncate (value : Rat) : Int := Int.tdiv value.num value.den

/-- `asInt`. -/
def asInt : Value → Except Fault Int
  | .null => .ok 0
  | .bool value => .ok (if value then 1 else 0)
  | .int value =>
      if -2 ^ 31 ≤ value ∧ value < 2 ^ 31 then .ok value
      else logicError "LargestInt out of Int range"
  | .real value =>
      if -2 ^ 31 ≤ value ∧ value ≤ 2 ^ 31 - 1 then .ok (truncate value)
      else logicError "double out of Int range"
  | _ => logicError "Value is not convertible to Int."

/-- `asUInt`. -/
def asUInt : Value → Except Fault UInt32
  | .null => .ok 0
  | .bool value => .ok (if value then 1 else 0)
  | .int value =>
      if 0 ≤ value ∧ value < 2 ^ 32 then .ok (UInt32.ofNat value.toNat)
      else logicError "LargestInt out of UInt range"
  | .real value =>
      if 0 ≤ value ∧ value ≤ 2 ^ 32 - 1 then .ok (UInt32.ofNat (truncate value).toNat)
      else logicError "double out of UInt range"
  | _ => logicError "Value is not convertible to UInt."

/-- `asCString`, copied into a `std::string`: the copy ends at the first NUL. -/
def asCString : Value → Except Fault String
  | .string text => .ok (String.ofList (text.toList.takeWhile (· ≠ '\x00')))
  | _ => logicError "in Json::Value::asCString(): requires stringValue"

/-! ### Which values have a type

For each accessor the values it does not throw on, and what it returns for them. -/

/-- An object, or null, which reads as an object without members. -/
def IsRecord : Value → Prop
  | .null => True
  | .object _ => True
  | _ => False

/-- A member, null if it is not there. -/
def member (value : Value) (key : String) : Value :=
  match value with
  | .object members => (find? key members).getD .null
  | _ => .null

/-- The values that `asInt` accepts. -/
def ConvertsToInt : Value → Prop
  | .null => True
  | .bool _ => True
  | .int value => -2 ^ 31 ≤ value ∧ value < 2 ^ 31
  | .real value => -2 ^ 31 ≤ value ∧ value ≤ 2 ^ 31 - 1
  | _ => False

/-- What `asInt` makes of them. -/
def toInt : Value → Int
  | .bool value => if value then 1 else 0
  | .int value => value
  | .real value => truncate value
  | _ => 0

/-- The values that `asUInt` accepts. -/
def ConvertsToUInt : Value → Prop
  | .null => True
  | .bool _ => True
  | .int value => 0 ≤ value ∧ value < 2 ^ 32
  | .real value => 0 ≤ value ∧ value ≤ 2 ^ 32 - 1
  | _ => False

/-- What `asUInt` makes of them. -/
def toUInt : Value → UInt32
  | .bool value => if value then 1 else 0
  | .int value => UInt32.ofNat value.toNat
  | .real value => UInt32.ofNat (truncate value).toNat
  | _ => 0

/-- A string. -/
def IsString : Value → Prop
  | .string _ => True
  | _ => False

/-- A string up to its first NUL. -/
def toText : Value → String
  | .string text => String.ofList (text.toList.takeWhile (· ≠ '\x00'))
  | _ => ""

instance : DecidablePred IsRecord
  | .null | .object _ => isTrue trivial
  | .bool _ | .int _ | .real _ | .string _ | .array _ => isFalse id

instance : DecidablePred ConvertsToInt
  | .null | .bool _ => isTrue trivial
  | .int value => inferInstanceAs (Decidable (-2 ^ 31 ≤ value ∧ value < 2 ^ 31))
  | .real value => inferInstanceAs (Decidable (-2 ^ 31 ≤ value ∧ value ≤ 2 ^ 31 - 1))
  | .string _ | .array _ | .object _ => isFalse id

instance : DecidablePred ConvertsToUInt
  | .null | .bool _ => isTrue trivial
  | .int value => inferInstanceAs (Decidable (0 ≤ value ∧ value < 2 ^ 32))
  | .real value => inferInstanceAs (Decidable (0 ≤ value ∧ value ≤ 2 ^ 32 - 1))
  | .string _ | .array _ | .object _ => isFalse id

instance : DecidablePred IsString
  | .string _ => isTrue trivial
  | .null | .bool _ | .int _ | .real _ | .array _ | .object _ => isFalse id

theorem returns_getMember {value : Value} {key : String} {post : Value → Prop} :
    Returns (value.getMember key) post ↔ IsRecord value ∧ post (value.member key) := by
  cases value <;> simp [getMember, logicError, IsRecord, member]

theorem getMember_of_isRecord {value : Value} (record : IsRecord value) (key : String) :
    value.getMember key = .ok (value.member key) := by
  obtain ⟨_, found, same⟩ := returns_getMember.mpr ⟨record, rfl⟩
  exact found.trans (congrArg _ same.symm)

theorem returns_subscript {value : Value} {key : String} {post : Value → Prop} :
    Returns (value.subscript key) post ↔ IsRecord value ∧ post (value.member key) := by
  cases value <;> simp [subscript, logicError, IsRecord, member]

theorem returns_asInt {value : Value} {post : Int → Prop} :
    Returns value.asInt post ↔ ConvertsToInt value ∧ post value.toInt := by
  cases value with
  | int value =>
      simp only [asInt, logicError, ConvertsToInt, toInt]
      split <;> rename_i fits
      · exact returns_ok.trans (and_iff_right fits).symm
      · exact iff_of_false returns_error fun both => fits both.1
  | real value =>
      simp only [asInt, logicError, ConvertsToInt, toInt]
      split <;> rename_i fits
      · exact returns_ok.trans (and_iff_right fits).symm
      · exact iff_of_false returns_error fun both => fits both.1
  | _ => simp [asInt, logicError, ConvertsToInt, toInt]

theorem returns_asUInt {value : Value} {post : UInt32 → Prop} :
    Returns value.asUInt post ↔ ConvertsToUInt value ∧ post value.toUInt := by
  cases value with
  | int value =>
      simp only [asUInt, logicError, ConvertsToUInt, toUInt]
      split <;> rename_i fits
      · exact returns_ok.trans (and_iff_right fits).symm
      · exact iff_of_false returns_error fun both => fits both.1
  | real value =>
      simp only [asUInt, logicError, ConvertsToUInt, toUInt]
      split <;> rename_i fits
      · exact returns_ok.trans (and_iff_right fits).symm
      · exact iff_of_false returns_error fun both => fits both.1
  | _ => simp [asUInt, logicError, ConvertsToUInt, toUInt]

theorem returns_asCString {value : Value} {post : String → Prop} :
    Returns value.asCString post ↔ IsString value ∧ post value.toText := by
  cases value <;> simp [asCString, logicError, IsString, toText]

theorem asCString_of_isString {value : Value} (string : IsString value) :
    value.asCString = .ok value.toText := by
  obtain ⟨_, read, same⟩ := returns_asCString.mpr ⟨string, rfl⟩
  exact read.trans (congrArg _ same.symm)

/-! ### The texts in a value -/

mutual

/-- All strings of a value, the names of members among them. -/
def texts : Value → List String
  | .string text => [text]
  | .array elements => elementTexts elements
  | .object members => memberTexts members
  | .null | .bool _ | .int _ | .real _ => []

/-- The strings of the elements of an array. -/
def elementTexts : List Value → List String
  | [] => []
  | element :: elements => element.texts ++ elementTexts elements

/-- The names of the members of an object and the strings of their values. -/
def memberTexts : List (String × Value) → List String
  | [] => []
  | (name, value) :: members => name :: value.texts ++ memberTexts members

end

/-- The value that some names lead to, from member to member. -/
def reached (value : Value) (path : List String) : Value := path.foldl member value

theorem texts_subset_memberTexts {members : List (String × Value)} {key : String} {value : Value}
    (found : find? key members = some value) : value.texts ⊆ memberTexts members := by
  unfold find? at found
  induction members with
  | nil => cases found
  | cons entry members inductionHypothesis =>
      obtain ⟨name, other⟩ := entry
      rw [memberTexts, List.cons_append]
      rw [List.find?_cons] at found
      by_cases here : (name == key) = true
      · simp only [here, Option.map_some, Option.some.injEq] at found
        subst found
        exact fun text inside => List.mem_cons_of_mem _ (List.mem_append_left _ inside)
      · simp only [here] at found
        exact fun text inside => List.mem_cons_of_mem _
          (List.mem_append_right _ (inductionHypothesis found inside))

/-- The strings of a member are strings of the value. -/
theorem texts_member_subset (value : Value) (key : String) :
    (value.member key).texts ⊆ value.texts := by
  cases value with
  | object members =>
      simp only [member, texts]
      cases found : find? key members with
      | none =>
          simp only [Option.getD_none, texts]
          exact List.nil_subset _
      | some inner => exact texts_subset_memberTexts found
  | _ =>
      simp only [member, texts]
      exact List.nil_subset _

theorem texts_reached_subset (value : Value) (path : List String) :
    (value.reached path).texts ⊆ value.texts := by
  induction path generalizing value with
  | nil => exact List.Subset.refl _
  | cons key path inductionHypothesis =>
      exact List.Subset.trans (inductionHypothesis (value.member key))
        (texts_member_subset value key)

end Value

end GomukuServer.Net.Json
