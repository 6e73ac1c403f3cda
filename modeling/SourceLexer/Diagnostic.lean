import SourceLexer.Location
import SourceLexer.Text.Quoted

/-!
# Diagnostics

A diagnostic says what is wrong with a source text, where, and on which line.  The cause is kept
as data; the wording is derived from it, and with it the rendered form:

    main.src:3:9: error: invalid character '@' (0x40)
        x = y @ z;
              ^

A hint on how to mend the text follows on a line of its own where there is one.
-/

namespace SourceLexer

/-- What is wrong with a piece of source text. -/
inductive Diagnostic.Cause where
  /-- A character with which no token starts. -/
  | invalidCharacter (char : Char)
  /-- A string without its closing quote; the text runs from the opening one. -/
  | unterminatedString (text : String)
  /-- A character literal without its closing quote. -/
  | unterminatedCharacter (text : String)
  /-- A block comment that runs into the end of the input. -/
  | unterminatedComment (text : String)
  /-- Anything else, in the words of whoever found it. -/
  | other (message : String) (hint lexeme : Option String)
  deriving DecidableEq, Repr

/-- A fault of a source text. -/
structure Diagnostic where
  cause : Diagnostic.Cause
  location : Option Location := none
  /-- The whole line on which the fault starts. -/
  sourceLine : Option String := none
  deriving DecidableEq, Repr

namespace Diagnostic
namespace Cause

/-- What is wrong, in one line. -/
def message : Cause → String
  | .invalidCharacter char =>
    let shown := Text.quote char.toString
    let code := String.ofList (Text.hexPadded 2 char.toNat)
    s!"invalid character {shown} (0x{code})"
  | .unterminatedString _ => "unterminated string literal"
  | .unterminatedCharacter _ => "unterminated character literal"
  | .unterminatedComment _ => "unterminated block comment"
  | .other message _ _ => message

/-- How to mend the text. -/
def hint : Cause → Option String
  | .invalidCharacter _ => none
  | .unterminatedString _ => some "add closing '\"' to complete the string"
  | .unterminatedCharacter _ => some "add closing ' to complete the character literal"
  | .unterminatedComment _ => some "add closing */ to terminate the comment"
  | .other _ hint _ => hint

/-- The text that is at fault. -/
def lexeme : Cause → Option String
  | .invalidCharacter char => some char.toString
  | .unterminatedString text | .unterminatedCharacter text | .unterminatedComment text =>
    some text
  | .other _ _ lexeme => lexeme

end Cause

variable (diagnostic : Diagnostic)

/-- What is wrong, in one line. -/
def message : String := diagnostic.cause.message

/-- How to mend the text. -/
def hint : Option String := diagnostic.cause.hint

/-- The text that is at fault. -/
def lexeme : Option String := diagnostic.cause.lexeme

/-- The first line of the rendered form. -/
def headline : String :=
  match diagnostic.location with
  | some location => s!"{location.render}: error: {diagnostic.message}"
  | none => s!"error: {diagnostic.message}"

/-- The indent of the source line. -/
def indent : Nat := 4

/-- A caret under the given column of the indented source line. -/
def caretLine (column : Int) : String :=
  String.ofList (List.replicate (indent + column - 1).toNat ' ' ++ ['^'])

/-- The source line with a caret under the fault.  A line without a location is not shown, and a
column that lies before the line gets no caret. -/
def context : List String :=
  match diagnostic.sourceLine, diagnostic.location with
  | some line, some location =>
    (String.ofList (List.replicate indent ' ') ++ line)
      :: if 0 < location.column then [caretLine location.column] else []
  | _, _ => []

/-- The line with the hint.  An empty hint counts as none. -/
def hintLine : List String :=
  match diagnostic.hint with
  | some hint => if hint = "" then [] else [s!"hint: {hint}"]
  | none => []

/-- The lines of the rendered form. -/
def lines : List String :=
  diagnostic.headline :: diagnostic.context ++ diagnostic.hintLine

/-- The form in which a diagnostic is shown. -/
def render : String :=
  "\n".intercalate diagnostic.lines

end Diagnostic
end SourceLexer
