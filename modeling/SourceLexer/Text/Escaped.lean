import SourceLexer.Text.CodePoint

/-!
# Escaped texts

The form in which a dump shows a text: printable ASCII as it is, except that a backslash is
doubled, and everything else as an escape.  The result is a single line of printable ASCII, and
the text can be read back from it, since an escape always begins with a single backslash.
-/

namespace SourceLexer
namespace Text

/-- One character of an escaped text. -/
def escapedChar (char : Char) : List Char :=
  if char = '\\' then ['\\', '\\']
  else if char = '\t' then ['\\', 't']
  else if char = '\n' then ['\\', 'n']
  else if char = '\r' then ['\\', 'r']
  else if 0x20 ≤ char.toNat ∧ char.toNat ≤ 0x7e then [char]
  else codePointEscape char

/-- A text on a single line of printable ASCII. -/
def escape (text : List Char) : List Char :=
  text.flatMap escapedChar

@[simp] theorem escape_cons (char : Char) (text : List Char) :
    escape (char :: text) = escapedChar char ++ escape text := rfl

end Text
end SourceLexer
