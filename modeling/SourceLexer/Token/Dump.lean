import SourceLexer.Text.Escaped
import SourceLexer.Token.Basic

/-!
# Dump lines

One token on one line: the position, the name of the kind and the text in columns.  A field that
is wider than its column is neither cut nor set apart from the next one.
-/

namespace SourceLexer
namespace Token

/-- The width of the column for the position. -/
def positionWidth : Nat := 8

/-- The width of the column for the name of the kind. -/
def nameWidth : Nat := 16

/-- A field, filled up with blanks to a width. -/
def padded (width : Nat) (field : List Char) : List Char :=
  field ++ List.replicate (width - field.length) ' '

/-- A line without the blanks at its end. -/
def trimmedRight (line : List Char) : List Char :=
  (line.reverse.dropWhile (· = ' ')).reverse

/-- The position of a token as a dump prints it. -/
def position (token : Token) : List Char :=
  (toString token.line).toList ++ ':' :: (toString token.column).toList

/-- The dump line of a token, without a line break. -/
def dumpChars (token : Token) : List Char :=
  trimmedRight (padded positionWidth token.position ++ padded nameWidth token.kind.name.toList
    ++ Text.escape token.text.toList)

/-- The dump line of a token, as a text. -/
def dumpLine (token : Token) : String :=
  String.ofList token.dumpChars

end Token
end SourceLexer
