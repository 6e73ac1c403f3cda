import SourceLexer.Text.CodePoint
import SourceLexer.Text.Printable

/-!
# Quoted texts

The form in which messages show a text: between quotation marks, with everything that would not
be seen, or would end the quotation, written as an escape.  The mark is an apostrophe unless the
text holds apostrophes and no double quotes.
-/

namespace SourceLexer
namespace Text

/-- The quotation mark for a text: the one that saves escapes, and of two equals the apostrophe. -/
def quoteMark (text : List Char) : Char :=
  if '\'' ∈ text ∧ '"' ∉ text then '"' else '\''

/-- One character inside a quotation with the given mark. -/
def quotedChar (mark char : Char) : List Char :=
  if char = mark ∨ char = '\\' then ['\\', char]
  else if char = '\t' then ['\\', 't']
  else if char = '\n' then ['\\', 'n']
  else if char = '\r' then ['\\', 'r']
  else if isPrintable char then [char]
  else codePointEscape char

/-- A text between quotation marks. -/
def quote (text : String) : String :=
  let mark := quoteMark text.toList
  String.ofList (mark :: text.toList.flatMap (quotedChar mark) ++ [mark])

end Text
end SourceLexer
