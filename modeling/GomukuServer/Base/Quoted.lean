/-
Module: GomukuServer.Base.Quoted
Layer: Base
Purpose: Texts with quoted literals, over any alphabet.  A doubled quote stands for a quote, and an
  escape changes what the character behind it stands for.  Values that are put between quotes as
  they are can be read back exactly if each of them is clean, because everything that is not read as
  it stands makes a literal's text longer than its value.
Trusted boundary: none
Main exports: Rules, Piece, Place, lex, render, Clean, Separated, lex_render_iff, letters,
  withValues
-/
import Mathlib.Data.List.Basic

namespace GomukuServer.Base.Quoted

universe u

/-- How literals are written.  A character that does not lose the escape in front of it has no
unescaped form. -/
structure Rules (Alphabet : Type u) where
  quote : Alphabet
  escape : Alphabet
  unescape : Alphabet → Option Alphabet
  distinct : escape ≠ quote

/-- A piece of a text: a character outside of literals, or a literal with its value. -/
inductive Piece (Alphabet : Type u) where
  | letter (char : Alphabet)
  | literal (value : List Alphabet)
deriving DecidableEq, Repr

/-- Where the reader stands, with the value of the literal so far.  Behind a quote it does not know
yet whether the literal has ended. -/
inductive Place (Alphabet : Type u) where
  | outside
  | within (value : List Alphabet)
  | escaped (value : List Alphabet)
  | closing (value : List Alphabet)

variable {Alphabet : Type u} (rules : Rules Alphabet)

/-- What an escape and a character stand for. -/
def Rules.decode (char : Alphabet) : List Alphabet :=
  match rules.unescape char with
  | some meant => [meant]
  | none => [rules.escape, char]

/-- A piece with its value as it is. -/
def Piece.render : Piece Alphabet → List Alphabet
  | .letter char => [char]
  | .literal value => rules.quote :: value ++ [rules.quote]

/-- Put the pieces together, with their values as they are. -/
def render (pieces : List (Piece Alphabet)) : List Alphabet :=
  pieces.flatMap (Piece.render rules)

/-- A value that means itself between quotes. -/
inductive Clean : List Alphabet → Prop
  | nil : Clean []
  | plain {char : Alphabet} {rest : List Alphabet} (noQuote : char ≠ rules.quote)
      (noEscape : char ≠ rules.escape) (clean : Clean rest) : Clean (char :: rest)
  | pair {char : Alphabet} {rest : List Alphabet} (kept : rules.unescape char = none)
      (clean : Clean rest) : Clean (rules.escape :: char :: rest)

/-- No quotes outside, and no literal next to a literal. -/
def Separated : List (Piece Alphabet) → Prop
  | [] => True
  | .letter char :: pieces => char ≠ rules.quote ∧ Separated pieces
  | [.literal _] => True
  | .literal _ :: .letter char :: pieces => char ≠ rules.quote ∧ Separated pieces
  | .literal _ :: .literal _ :: _ => False

theorem Clean.append {rules : Rules Alphabet} {first second : List Alphabet}
    (one : Clean rules first) (two : Clean rules second) : Clean rules (first ++ second) := by
  induction one with
  | nil => exact two
  | plain noQuote noEscape _ inductionHypothesis =>
      exact .plain noQuote noEscape inductionHypothesis
  | pair kept _ inductionHypothesis => exact .pair kept inductionHypothesis

@[simp] theorem render_nil : render rules [] = [] := rfl

@[simp] theorem render_letter (char : Alphabet) (pieces : List (Piece Alphabet)) :
    render rules (.letter char :: pieces) = char :: render rules pieces := rfl

@[simp] theorem render_literal (value : List Alphabet) (pieces : List (Piece Alphabet)) :
    render rules (.literal value :: pieces) =
      rules.quote :: value ++ rules.quote :: render rules pieces := by
  simp [render, Piece.render]

/-- Text outside of literals. -/
def letters (text : List Alphabet) : List (Piece Alphabet) := text.map .letter

def Piece.isLiteral : Piece Alphabet → Bool
  | .letter _ => false
  | .literal _ => true

/-- Give the literals other values, in order. -/
def withValues : List (Piece Alphabet) → List (List Alphabet) → List (Piece Alphabet)
  | [], _ => []
  | .letter char :: pieces, values => .letter char :: withValues pieces values
  | .literal _ :: pieces, value :: values => .literal value :: withValues pieces values
  | .literal value :: pieces, [] => .literal value :: withValues pieces []

theorem withValues_letters (text : List Alphabet) (pieces : List (Piece Alphabet))
    (values : List (List Alphabet)) :
    withValues (letters text ++ pieces) values = letters text ++ withValues pieces values := by
  induction text with
  | nil => rfl
  | cons char text inductionHypothesis => exact congrArg (.letter char :: ·) inductionHypothesis

theorem filter_letters (text : List Alphabet) : (letters text).filter Piece.isLiteral = [] := by
  simp [letters, Piece.isLiteral]

theorem literal_notMem_letters (text value : List Alphabet) : .literal value ∉ letters text := by
  simp [letters]

theorem render_letters (text : List Alphabet) (pieces : List (Piece Alphabet)) :
    render rules (letters text ++ pieces) = text ++ render rules pieces := by
  induction text with
  | nil => rfl
  | cons char text inductionHypothesis => exact congrArg (char :: ·) inductionHypothesis

theorem separated_letters {text : List Alphabet} {pieces : List (Piece Alphabet)}
    (noQuote : rules.quote ∉ text) (separated : Separated rules pieces) :
    Separated rules (letters text ++ pieces) := by
  induction text with
  | nil => exact separated
  | cons char text inductionHypothesis =>
      rw [List.mem_cons, not_or] at noQuote
      exact ⟨Ne.symm noQuote.1, inductionHypothesis noQuote.2⟩

/-- A literal with some text behind it. -/
theorem separated_literal {value text : List Alphabet} {pieces : List (Piece Alphabet)}
    (some : text ≠ []) (separated : Separated rules (letters text ++ pieces)) :
    Separated rules (.literal value :: (letters text ++ pieces)) := by
  cases text with
  | nil => exact absurd rfl some
  | cons char text => exact separated

/-- How much text a piece takes at least. -/
def Piece.size : Piece Alphabet → Nat
  | .letter _ => 1
  | .literal value => value.length + 2

def size : List (Piece Alphabet) → Nat
  | [] => 0
  | piece :: pieces => piece.size + size pieces

/-- How much text the reader has seen of the literal it is in, at least. -/
def Place.size : Place Alphabet → Nat
  | .outside => 0
  | .within value => value.length + 1
  | .escaped value => value.length + 2
  | .closing value => value.length + 2

/-- The value of the literal the reader is in. -/
def Place.value : Place Alphabet → List Alphabet
  | .outside => []
  | .within value => value
  | .escaped value => value
  | .closing value => value

theorem length_render (pieces : List (Piece Alphabet)) :
    (render rules pieces).length = size pieces := by
  induction pieces with
  | nil => rfl
  | cons piece pieces inductionHypothesis =>
      cases piece <;> simp [size, Piece.size] at * <;> omega

theorem length_decode (char : Alphabet) :
    (rules.decode char).length = 1 ∨
      rules.unescape char = none ∧ rules.decode char = [rules.escape, char] := by
  unfold Rules.decode
  cases rules.unescape char <;> simp

/-- The pieces are not larger than the room for them.  Where they fill it, the reader has copied
every value, if it has copied the one it has begun with. -/
structure Fits (room : Nat) (begun : List Alphabet) (pieces : List (Piece Alphabet)) : Prop where
  small : size pieces ≤ room
  tight : size pieces = room → Clean rules begun →
    ∀ value, .literal value ∈ pieces → Clean rules value

namespace Fits

variable {rules : Rules Alphabet} {room more : Nat} {begun other : List Alphabet}
  {pieces : List (Piece Alphabet)}

/-- With room to spare nothing is said of the values. -/
theorem spare (fits : Fits rules room begun pieces) (less : room < more) :
    Fits rules more other pieces := by
  have small := fits.small
  exact ⟨by omega, fun equal => by omega⟩

/-- The reader can have begun with another value, if that is clean only where this one is. -/
theorem rebegin (fits : Fits rules room begun pieces) (same : room = more)
    (clean : Clean rules other → Clean rules begun) : Fits rules more other pieces := by
  subst same
  exact ⟨fits.small, fun equal otherClean => fits.tight equal (clean otherClean)⟩

theorem nothing : Fits rules 0 [] [] :=
  ⟨Nat.le_refl _, fun _ _ _ inside => absurd inside List.not_mem_nil⟩

theorem letter (fits : Fits rules room [] pieces) (char : Alphabet) :
    Fits rules (room + 1) [] (.letter char :: pieces) := by
  have small := fits.small
  refine ⟨by simp only [size, Piece.size]; omega, fun equal clean value inside => ?_⟩
  simp only [size, Piece.size] at equal
  exact fits.tight (by omega) clean value (by simpa using inside)

theorem literal (fits : Fits rules room [] pieces) (value : List Alphabet) :
    Fits rules (value.length + 2 + room) value (.literal value :: pieces) := by
  have small := fits.small
  refine ⟨by simp only [size, Piece.size]; omega, fun equal clean other inside => ?_⟩
  simp only [size, Piece.size] at equal
  rcases List.mem_cons.mp inside with same | inside
  · exact Piece.literal.inj same ▸ clean
  · exact fits.tight (by omega) .nil other inside

end Fits

variable [DecidableEq Alphabet]

/-- Read a text.  There is nothing to read if a literal does not end. -/
def lex : Place Alphabet → List Alphabet → Option (List (Piece Alphabet))
  | .outside, [] => some []
  | .closing value, [] => some [.literal value]
  | .within _, [] => none
  | .escaped _, [] => none
  | .outside, char :: text =>
      if char = rules.quote then lex (.within []) text
      else (lex .outside text).map (.letter char :: ·)
  | .within value, char :: text =>
      if char = rules.quote then lex (.closing value) text
      else if char = rules.escape then lex (.escaped value) text
      else lex (.within (value ++ [char])) text
  | .escaped value, char :: text => lex (.within (value ++ rules.decode char)) text
  | .closing value, char :: text =>
      if char = rules.quote then lex (.within (value ++ [rules.quote])) text
      else (lex .outside text).map fun pieces => .literal value :: .letter char :: pieces

/-! ### Clean values are read as they are -/

/-- The reader copies a clean value. -/
theorem lex_within_clean {value : List Alphabet} (clean : Clean rules value)
    (before text : List Alphabet) :
    lex rules (.within before) (value ++ text) = lex rules (.within (before ++ value)) text := by
  induction clean generalizing before with
  | nil => simp
  | plain noQuote noEscape _ inductionHypothesis =>
      rw [List.cons_append, lex, if_neg noQuote, if_neg noEscape, inductionHypothesis]
      simp
  | pair kept _ inductionHypothesis =>
      rw [List.cons_append, lex, if_neg rules.distinct, if_pos rfl, List.cons_append, lex,
        inductionHypothesis]
      simp [Rules.decode, kept]

theorem lex_literal {value : List Alphabet} (clean : Clean rules value) (text : List Alphabet) :
    lex rules .outside (rules.quote :: value ++ rules.quote :: text) =
      lex rules (.closing value) text := by
  rw [List.cons_append, lex, if_pos rfl, lex_within_clean rules clean, List.nil_append, lex,
    if_pos rfl]

/-- Pieces with clean values are read back. -/
theorem lex_render {pieces : List (Piece Alphabet)} (separated : Separated rules pieces)
    (clean : ∀ value, .literal value ∈ pieces → Clean rules value) :
    lex rules .outside (render rules pieces) = some pieces := by
  induction pieces using Separated.induct with
  | case1 => rfl
  | case2 char pieces inductionHypothesis =>
      have later := inductionHypothesis separated.2
        fun value inside => clean value (List.mem_cons_of_mem _ inside)
      rw [render_letter, lex, if_neg separated.1, later]
      rfl
  | case3 value =>
      rw [render_literal, lex_literal rules (clean value List.mem_cons_self)]
      rfl
  | case4 value char pieces inductionHypothesis =>
      have later := inductionHypothesis separated.2
        fun value inside => clean value (List.mem_cons_of_mem _ (List.mem_cons_of_mem _ inside))
      rw [render_literal, render_letter, lex_literal rules (clean value List.mem_cons_self), lex,
        if_neg separated.1, later]
      rfl
  | case5 => exact absurd separated id

/-! ### Other values are not -/

/-- What is read fits into the text. -/
theorem fits_of_lex {place : Place Alphabet} {text : List Alphabet}
    {pieces : List (Piece Alphabet)} (read : lex rules place text = some pieces) :
    Fits rules (place.size + text.length) place.value pieces := by
  induction text generalizing place pieces with
  | nil =>
      cases place with
      | outside =>
          obtain rfl : [] = pieces := by simpa [lex] using read
          exact .nothing
      | within | escaped => simp [lex] at read
      | closing value =>
          obtain rfl : [.literal value] = pieces := by simpa [lex] using read
          exact Fits.nothing.literal value
  | cons char text inductionHypothesis =>
      rw [List.length_cons]
      cases place with
      | outside =>
          rw [lex] at read
          split at read
          · refine (inductionHypothesis read).rebegin ?_ id
            simp only [Place.size, List.length_nil]
            omega
          · obtain ⟨later, readLater, rfl⟩ := Option.map_eq_some_iff.mp read
            exact (inductionHypothesis readLater).letter char
      | within value =>
          rw [lex] at read
          split at read
          · refine (inductionHypothesis read).rebegin ?_ id
            simp only [Place.size]
            omega
          · split at read
            · refine (inductionHypothesis read).rebegin ?_ id
              simp only [Place.size]
              omega
            · rename_i noQuote noEscape
              refine (inductionHypothesis read).rebegin ?_
                fun clean => clean.append (.plain noQuote noEscape .nil)
              simp only [Place.size, List.length_append, List.length_singleton]
              omega
      | escaped value =>
          rw [lex] at read
          have fits := inductionHypothesis read
          rcases length_decode rules char with shorter | ⟨kept, same⟩
          · refine fits.spare ?_
            simp only [Place.size, List.length_append, shorter]
            omega
          · rw [same] at fits
            refine fits.rebegin ?_ fun clean => clean.append (.pair kept .nil)
            simp only [Place.size, List.length_append, List.length_cons, List.length_nil]
            omega
      | closing value =>
          rw [lex] at read
          split at read
          · refine (inductionHypothesis read).spare ?_
            simp only [Place.size, List.length_append, List.length_singleton]
            omega
          · obtain ⟨later, readLater, rfl⟩ := Option.map_eq_some_iff.mp read
            refine ((inductionHypothesis readLater).letter char |>.literal value).rebegin ?_ id
            simp only [Place.size]
            omega

/-- Values that are put between quotes as they are can be read back exactly if they are clean. -/
theorem lex_render_iff {pieces : List (Piece Alphabet)} (separated : Separated rules pieces) :
    lex rules .outside (render rules pieces) = some pieces ↔
      ∀ value, .literal value ∈ pieces → Clean rules value := by
  constructor
  · intro read
    have whole : size pieces = Place.size (.outside : Place Alphabet) +
        (render rules pieces).length := by
      rw [length_render, Place.size, Nat.zero_add]
    exact (fits_of_lex rules read).tight whole .nil
  · exact lex_render rules separated

end GomukuServer.Base.Quoted
