import SourceLexer.Token.Kind

/-!
# Numerals

A numeral is a run of ASCII digits, then possibly a fraction, then possibly an exponent.  A point
or an exponent mark belongs to the numeral only if digits come after it, so each of the optional
parts is read as a whole or not at all.
-/

namespace SourceLexer
namespace Lexeme
namespace Numeral

/-- The digits at the front of the text. -/
def digits (text : List Char) : List Char :=
  text.takeWhile Char.isDigit

/-- An introduction together with the digits that follow it; nothing, if none do. -/
def withDigits (introduction text : List Char) : List Char :=
  match digits text with
  | [] => []
  | found => introduction ++ found

/-- The fraction at the front of the text: a point and digits. -/
def fraction : List Char → List Char
  | '.' :: rest => withDigits ['.'] rest
  | _ => []

/-- Whether the character announces an exponent. -/
def isExponentMark (char : Char) : Bool :=
  char = 'e' || char = 'E'

/-- Whether the character can stand between an exponent mark and its digits. -/
def isSign (char : Char) : Bool :=
  char = '+' || char = '-'

/-- The exponent at the front of the text: a mark, possibly a sign, and digits. -/
def exponent : List Char → List Char
  | mark :: sign :: rest =>
    if isExponentMark mark then
      if isSign sign then withDigits [mark, sign] rest else withDigits [mark] (sign :: rest)
    else []
  | _ => []

/-- The parts of a numeral. -/
structure Parts where
  whole : List Char
  fraction : List Char
  exponent : List Char
  deriving DecidableEq, Repr

/-- The numeral at the front of the text. -/
def read (text : List Char) : Parts :=
  let whole := digits text
  let afterWhole := text.drop whole.length
  let fraction := Numeral.fraction afterWhole
  ⟨whole, fraction, exponent (afterWhole.drop fraction.length)⟩

/-- The numeral as it is written. -/
def Parts.text (parts : Parts) : List Char :=
  parts.whole ++ parts.fraction ++ parts.exponent

/-- A numeral is an integer if it is nothing but digits. -/
def Parts.form (parts : Parts) : Literal :=
  if parts.fraction.isEmpty && parts.exponent.isEmpty then .integer else .floating

/-! ## Every part stands where it is read -/

theorem withDigits_isPrefix_append (introduction text : List Char) :
    withDigits introduction text <+: introduction ++ text := by
  unfold withDigits
  split
  · exact List.nil_prefix
  · exact (List.prefix_append_right_inj introduction).2 (List.takeWhile_prefix _)

theorem fraction_isPrefix_self (text : List Char) : fraction text <+: text := by
  unfold fraction
  split
  · exact withDigits_isPrefix_append ['.'] _
  · exact List.nil_prefix

theorem exponent_isPrefix_self (text : List Char) : exponent text <+: text := by
  unfold exponent
  split
  · next mark sign rest =>
    split
    · split
      · exact withDigits_isPrefix_append [mark, sign] rest
      · exact withDigits_isPrefix_append [mark] (sign :: rest)
    · exact List.nil_prefix
  · exact List.nil_prefix

theorem text_read_isPrefix_self (text : List Char) : (read text).text <+: text := by
  have hwhole := List.prefix_iff_eq_append.1 (List.takeWhile_prefix (l := text) Char.isDigit)
  have hfraction :=
    List.prefix_iff_eq_append.1 (fraction_isPrefix_self (text.drop (digits text).length))
  obtain ⟨behind, hexponent⟩ := exponent_isPrefix_self
    ((text.drop (digits text).length).drop (fraction (text.drop (digits text).length)).length)
  refine ⟨behind, ?_⟩
  simp only [read, Parts.text, List.append_assoc]
  rw [hexponent, hfraction]
  exact hwhole

theorem length_text_read_pos {char : Char} (h : char.isDigit = true) (rest : List Char) :
    0 < (read (char :: rest)).text.length := by
  simp [read, Parts.text, digits, h]

end Numeral
end Lexeme
end SourceLexer
