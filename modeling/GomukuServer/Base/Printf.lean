/-
Module: GomukuServer.Base.Printf
Layer: Base
Purpose: Which texts make `vfprintf` read an argument when they are used as the format, and what
  `sprintf` writes for formats with `%s` and `%d`.  A format is read as the GNU C library reads it:
  from one conversion to the next, until one of them names its argument by number or is not known;
  from there on all conversions are looked at before any argument is read.
Trusted boundary: what is printed is shorter than `INT_MAX`, and there is memory for the arguments
  that a format numbers; `sprintf` knows no conversions but `%s` and `%d`
Main exports: takesArgument, takesArgument_of_no_percent, dlog, dlog_eq_ok, Argument, sprintf,
  c_str, sprintf_plain, sprintf_text, sprintf_number, snprintf
-/
import GomukuServer.Base.Cpp
import Mathlib.Algebra.Group.Nat.Defs
import Mathlib.Data.List.TakeWhile

namespace GomukuServer.Base.Printf

/-! ### Which conversions read an argument -/

/-- The largest `int`. -/
def intMax : Nat := 2 ^ 31 - 1

/-- The number at the front, nothing if it is no `int`, and what stands behind its digits. -/
def readInt (format : List Char) : Option Nat × List Char :=
  let number := Nat.ofDigitChars 10 (format.takeWhile Char.isDigit) 0
  (if number ≤ intMax then some number else none, format.dropWhile Char.isDigit)

/-- The flags.  The thousands' separator and the alternative digits are flags as well. -/
def isFlag (char : Char) : Bool := "-+ #0'I".toList.contains char

/-- The length modifiers that have no number. -/
def isLength (char : Char) : Bool := "hlLqjzZt".toList.contains char

/-- The conversions that have an argument. -/
def hasArgument (char : Char) : Bool := "diouxXbBeEfFgGaAcCsSpn".toList.contains char

/-- The number of bits behind a `w`, or behind `wf`.  Any other number is an error. -/
def bitWidth (format : List Char) : Option (List Char) :=
  let (width, rest) := readInt (match format with | 'f' :: digits => digits | digits => digits)
  if width ∈ [some 8, some 16, some 32, some 64] then some rest else none

/-! The first pass goes from conversion to conversion until one is unknown to it. -/

/-- What the first pass makes of a conversion.  `positional` leaves it and all that follow to the
second pass. -/
inductive Outcome where
  | reads
  | fails
  | positional
  | passes (rest : List Char)
deriving DecidableEq, Repr

/-- A conversion with or without an argument, or one that is not known in this place. -/
def convert (withArgument without : Char → Bool) : List Char → Outcome
  | [] => .fails
  | char :: rest =>
      if withArgument char then .reads
      else if without char then .passes rest
      else .positional

/-- A conversion behind most lengths.  `%m` prints the text of `errno`. -/
def convertAny : List Char → Outcome := convert hasArgument "%m".toList.contains

/-- A length and a conversion.  A single `h` goes with integers only. -/
def convertLength : List Char → Outcome
  | 'h' :: 'h' :: rest => convertAny rest
  | 'h' :: rest => convert "diouxXbBn".toList.contains "%".toList.contains rest
  | 'l' :: 'l' :: rest => convertAny rest
  | 'w' :: rest => ((bitWidth rest).map convertAny).getD .fails
  | char :: rest => convertAny (if isLength char then rest else char :: rest)
  | [] => .fails

/-- A star is an argument.  Behind it may stand the number of that argument. -/
def convertStar (rest : List Char) : Outcome :=
  match readInt rest with
  | (none, _) => .fails
  | (some number, '$' :: _) => if number = 0 then .reads else .positional
  | (some _, _) => .reads

/-- The precision and what follows it. -/
def convertPrecision : List Char → Outcome
  | '.' :: '*' :: rest => convertStar rest
  | '.' :: rest =>
      match readInt rest with
      | (none, _) => .fails
      | (some _, rest) => convertLength rest
  | rest => convertLength rest

/-- A conversion from the character behind its percent sign on.  The dollar sign behind the number
of an argument is unknown here, like every other character that is no conversion. -/
def firstPass (format : List Char) : Outcome :=
  match format.dropWhile isFlag with
  | '*' :: rest => convertStar rest
  | rest =>
      match readInt rest with
      | (none, _) => .fails
      | (some _, rest) => convertPrecision rest

/-! The second pass counts the arguments of all its conversions before it reads any. -/

/-- The number of an argument and its dollar sign: whether there is one, and what follows. -/
def argumentNumber (format : List Char) : Bool × List Char :=
  match readInt format with
  | (some 0, _) => (false, format)
  | (number, '$' :: rest) => (number.isSome, rest)
  | _ => (false, format)

/-- A width or a precision: whether it is an argument, and what follows.  A number behind a star
counts only with its dollar sign. -/
def starOrDigits : List Char → Bool × List Char
  | '*' :: rest =>
      match argumentNumber rest with
      | (true, behind) => (true, behind)
      | (false, _) => (true, rest)
  | rest => (false, rest.dropWhile Char.isDigit)

/-- What follows the length. -/
def dropLength : List Char → Option (List Char)
  | 'h' :: 'h' :: rest => some rest
  | 'l' :: 'l' :: rest => some rest
  | 'w' :: rest => bitWidth rest
  | char :: rest => some (if isLength char then rest else char :: rest)
  | [] => some []

/-- A conversion from the character behind its percent sign on: whether it needs an argument, and
what follows.  An unknown conversion needs none. -/
def secondPass (format : List Char) : Option (Bool × List Char) := do
  let (numbered, rest) := argumentNumber format
  let (width, rest) := starOrDigits (rest.dropWhile isFlag)
  let (precision, rest) := match rest with
    | '.' :: rest => starOrDigits rest
    | rest => (false, rest)
  let rest ← dropLength rest
  pure (numbered || width || precision || rest.head?.any hasArgument, rest.tail)

/-- Whether an argument is needed by some conversion of the second pass, or nothing if one of them
is an error.  The first `skipped` characters belong to a conversion. -/
def scanPositional : Nat → List Char → Option Bool
  | _, [] => some false
  | skipped + 1, _ :: format => scanPositional skipped format
  | 0, char :: format =>
      if char = '%' then do
        let (needed, rest) ← secondPass format
        let others ← scanPositional (format.length - rest.length) format
        pure (needed || others)
      else scanPositional 0 format

/-- Whether an argument is read.  The first `skipped` characters belong to a conversion. -/
def scan : Nat → List Char → Bool
  | _, [] => false
  | skipped + 1, _ :: format => scan skipped format
  | 0, char :: format =>
      if char = '%' then
        match firstPass format with
        | .reads => true
        | .fails => false
        | .positional => (scanPositional 0 (char :: format)).getD false
        | .passes rest => scan (format.length - rest.length) format
      else scan 0 format

/-- `vfprintf` with this text as its format reads an argument.  The format ends at the first
NUL. -/
def takesArgument (format : String) : Bool :=
  scan 0 (format.toList.takeWhile (· ≠ '\x00'))

/-- Without a percent sign there is no conversion. -/
theorem scan_of_no_percent {format : List Char} (plain : '%' ∉ format) :
    scan 0 format = false := by
  induction format with
  | nil => rfl
  | cons char rest inductionHypothesis =>
      rw [List.mem_cons, not_or] at plain
      rw [scan, if_neg (Ne.symm plain.1)]
      exact inductionHypothesis plain.2

theorem takesArgument_of_no_percent {format : String} (plain : '%' ∉ format.toList) :
    takesArgument format = false :=
  scan_of_no_percent fun inside => plain (List.takeWhile_subset _ inside)

/-- A log call with this text as its format and no argument.  An argument that is read all the same
is whatever lies behind the last one. -/
def dlog (text : String) : Except Fault Unit :=
  if takesArgument text then .error .outOfBounds else .ok ()

@[simp] theorem dlog_eq_ok {text : String} : dlog text = .ok () ↔ takesArgument text = false := by
  unfold dlog
  split <;> simp_all

example : takesArgument "100% %% %m \"%\"" = false ∧ takesArgument "50% done" = true ∧
    takesArgument "%Zd" = true ∧ takesArgument "%w7d" = false ∧ takesArgument "%5$%" = true ∧
    takesArgument "%-5$d" = false := by
  decide +kernel

/-! ### What `sprintf` writes -/

/-- An argument of `sprintf`. -/
inductive Argument where
  | text (text : String)
  | number (value : Int)

/-- A text up to its first NUL. -/
def c_str (text : String) : String := String.ofList (text.toList.takeWhile (· ≠ '\x00'))

theorem c_str_of_whole {text : String} (whole : '\x00' ∉ text.toList) : c_str text = text := by
  have all : text.toList.takeWhile (· ≠ '\x00') = text.toList := by
    rw [List.takeWhile_eq_self_iff]
    intro char inside
    simpa using fun same : char = '\x00' => whole (same ▸ inside)
  rw [c_str, all, String.ofList_toList]

/-- What a conversion writes for an argument. -/
def converted : Char → Argument → Except Fault (List Char)
  | 's', .text text => .ok (c_str text).toList
  | 'd', .number value => .ok (toString value).toList
  | _, _ => .error .outOfBounds

/-- What `sprintf` writes, for formats whose conversions are `%s` and `%d`. -/
def sprintf : List Char → List Argument → Except Fault (List Char)
  | [], _ => .ok []
  | char :: format, arguments =>
      if char = '%' then
        match format, arguments with
        | conversion :: rest, argument :: others => do
            pure ((← converted conversion argument) ++ (← sprintf rest others))
        | _, _ => .error .outOfBounds
      else (sprintf format arguments).map (char :: ·)

theorem sprintf_char {char : Char} (plain : char ≠ '%') (format : List Char)
    (arguments : List Argument) :
    sprintf (char :: format) arguments = (sprintf format arguments).map (char :: ·) := by
  rw [sprintf.eq_def]
  exact if_neg plain

/-- Text is written as it stands. -/
theorem sprintf_plain {text : List Char} (plain : '%' ∉ text) (format : List Char)
    (arguments : List Argument) :
    sprintf (text ++ format) arguments = (sprintf format arguments).map (text ++ ·) := by
  induction text with
  | nil =>
      rw [List.nil_append]
      cases sprintf format arguments <;> rfl
  | cons char text inductionHypothesis =>
      rw [List.mem_cons, not_or] at plain
      rw [List.cons_append, sprintf_char (Ne.symm plain.1), inductionHypothesis plain.2]
      cases sprintf format arguments <;> rfl

/-- A text is written for `%s`. -/
theorem sprintf_text (text : String) (format : List Char) (arguments : List Argument) :
    sprintf ('%' :: 's' :: format) (.text text :: arguments) =
      (sprintf format arguments).map ((c_str text).toList ++ ·) := by
  rw [sprintf, if_pos rfl]
  simp only [converted, ok_bind]
  cases sprintf format arguments <;> rfl

/-- A number is written for `%d`. -/
theorem sprintf_number (value : Int) (format : List Char) (arguments : List Argument) :
    sprintf ('%' :: 'd' :: format) (.number value :: arguments) =
      (sprintf format arguments).map ((toString value).toList ++ ·) := by
  rw [sprintf, if_pos rfl]
  simp only [converted, ok_bind]
  cases sprintf format arguments <;> rfl

/-! ### `snprintf` -/

/-- `snprintf` of a text with one byte for each character: at most `size - 1` of them and a NUL are
written. -/
def snprintf (size : Nat) (format : String) (arguments : List Argument) : Except Fault String :=
  (sprintf format.toList arguments).map fun text => String.ofList (text.take (size - 1))

/-- A text that is short enough is written as a whole. -/
theorem snprintf_of_short {size : Nat} {format : String} {arguments : List Argument} {text : String}
    (written : sprintf format.toList arguments = .ok text.toList) (short : text.length < size) :
    snprintf size format arguments = .ok text := by
  have whole : text.toList.take (size - 1) = text.toList := by
    apply List.take_of_length_le
    rw [String.length_toList]
    omega
  rw [snprintf, written]
  simp only [Except.map, whole, String.ofList_toList]

/-- Decimal digits and what is not among them. -/
theorem notMem_repr {number : Nat} {char : Char} (other : char.isDigit = false) :
    char ∉ (Nat.repr number).toList := by
  rw [Nat.repr_eq_ofList_toDigits, String.toList_ofList]
  intro inside
  have digit := Nat.isDigit_of_mem_toDigits (by decide) (by decide) inside
  rw [other] at digit
  cases digit

/-- Different numbers have different texts. -/
theorem eq_of_repr_eq {number other : Nat} (same : number.repr = other.repr) : number = other := by
  have digits := congrArg String.toList same
  simp only [Nat.repr_eq_ofList_toDigits, String.toList_ofList] at digits
  have value := congrArg (fun digits => Nat.ofDigitChars 10 digits 0) digits
  simpa only [Nat.ofDigitChars_ten_toDigits] using value

/-- A number that is not negative is written like a natural number. -/
theorem toString_natCast (number : Nat) : toString (number : Int) = number.repr := rfl

/-- A text that C sees as a whole, because there is no NUL in it, and that is no longer than a
bound. -/
structure Printed (text : String) (bound : Nat) : Prop where
  whole : '\x00' ∉ text.toList
  short : text.length ≤ bound

theorem printed_repr {number digits : Nat} (positive : 0 < digits) (small : number < 10 ^ digits) :
    Printed number.repr digits :=
  ⟨notMem_repr rfl, (Nat.length_repr_le_iff positive).mpr small⟩

theorem Printed.append {first second : String} {one two : Nat} (left : Printed first one)
    (right : Printed second two) : Printed (first ++ second) (one + two) where
  whole := by simp [left.whole, right.whole]
  short := by
    rw [String.length_append]
    exact Nat.add_le_add left.short right.short

end GomukuServer.Base.Printf
